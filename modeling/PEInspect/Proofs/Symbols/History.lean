import Mathlib.Data.List.Induction
import PEInspect.Proofs.Loading.Totality

/-!
# Histories of symbols

A module outlives its loads while the files beside it change, and two kinds of calls write its
symbols: a loader's symbol step, which attaches symbols to a module without any, and the direct call,
which replaces what is there. A step of a history therefore leaves the symbols alone or attaches what
it reads from the disk as it is then (`symbols_step`). After any history the symbols of a module that
started without any are those that one of its deeds has read, and that all deeds since have left
alone (`symbols_after_history`).
-/

namespace PEInspect.Symbols

open PEInspect.Action Loading

/-! ## Deeds -/

/-- What can be done to a module, or to the disk in between. -/
inductive Deed where
  | wrap (l : Loader) (symbols : Bool) (resolver : Option (Ref .resolver)) (key : Option FileKey)
  | call (path : Path)
  | alter (disk : Disk)
  deriving Inhabited

/-- Does it to a module. -/
def Deed.perform (m : Ref .module) : Deed → Action Unit
  | wrap l symbols resolver key => do discard (fromModule l m symbols resolver key)
  | call path => do discard (Modules.loadSymbols m path)
  | alter disk => modify fun w => { w with disk := disk }

/-- The world after a history of deeds on a module, whether or not each of them succeeded. -/
def after (m : Ref .module) (w : World) (history : List Deed) : World :=
  history.foldl (fun w deed => ((deed.perform m).outcome w).2) w

/-- The last deed of a history starts from the world that the others leave. -/
lemma after_snoc (m : Ref .module) (w : World) (history : List Deed) (deed : Deed) :
    after m w (history ++ [deed]) = ((deed.perform m).outcome (after m w history)).2 := by
  rw [after, List.foldl_append]
  rfl

/-- A disk has symbols under their path, whole and in the format that their content shows. -/
structure Genuine (disk : Disk) (s : SymbolData) : Prop where
  content : disk.read s.path = .ok s.content
  format : SymbolFormat.detect? s.content = some s.format

/-- The ways in which a deed attaches symbols to a module. -/
inductive Attaching (m : Ref .module) (w : World) : Deed → SymbolData → Prop where
  | found {l resolver key s} :
    (w.modules.get m).symbols = none →
    candidateFor (locationOf w m) l.symbolExtension = .ok (some s.path) →
    Genuine w.disk s →
    Attaching m w (.wrap l true resolver key) s
  | called {s} :
    Genuine w.disk s →
    Attaching m w (.call s.path) s

/-! ## Direct calls -/

section Call

variable {m : Ref .module} {w : World} {path : Path}

/-- The ways in which a direct call can end. -/
inductive Calls (m : Ref .module) (path : Path) (w : World) :
    Except Failure (Except Refusal SymbolData) → World → Prop where
  | failed {f v} : v.modules = w.modules → Calls m path w (.error f) v
  | refused {refusal v} : v.modules = w.modules → Calls m path w (.ok (.error refusal)) v
  | attached {s v} :
    s.path = path →
    Genuine w.disk s →
    v.modules = w.modules.change m (fun x => { x with symbols := some s }) →
    Calls m path w (.ok (.ok s)) v

/-- Symbols that are read are on the disk. -/
lemma genuine_of_read {disk : Disk} {s notices}
    (answer : (Symbols.read disk path).outcome = (.ok (.ok s), notices)) :
    s.path = path ∧ Genuine disk s := by
  rw [Symbols.read] at answer
  split at answer
  · cases answer
  · cases answer
  · rename_i content rd
    split at answer
    · cases answer
    · rename_i format known
      cases answer
      exact ⟨rfl, rd, known⟩

/-- Reading symbols for a module runs in one of the ways that are listed. -/
lemma exists_calls (m : Ref .module) (path : Path) (w : World) :
    ∃ r v, (Modules.loadSymbols m path).Runs w r v ∧ Calls m path w r v := by
  have report := runs_ofReport (Symbols.read w.disk path) w
  rcases answer : (Symbols.read w.disk path).outcome with ⟨f | result, notices⟩
  · rw [answer] at report
    exact ⟨_, _, .bind (runs_get w) (.bind_error report), .failed rfl⟩
  · rw [answer] at report
    cases result with
    | error refusal =>
      exact ⟨_, _, .bind (runs_get w) (.bind report (.bind (runs_pure _ _) (runs_pure _ _))),
        .refused rfl⟩
    | ok s =>
      obtain ⟨path, genuine⟩ := genuine_of_read answer
      exact ⟨_, _, .bind (runs_get w) (.bind report (.bind (runs_changeModule m _ _)
        (runs_pure _ _))), .attached path genuine rfl⟩

end Call

/-! ## Loader calls -/

section Wrap

variable {m : Ref .module} {w v : World}

/-- The symbol step of a loader leaves the symbols alone, or attaches those that it finds. -/
lemma found_or_kept {extension r} (att : Attaches extension m w r v)
    (there : m.index < w.modules.cells.length) :
    (v.modules.get m).symbols = (w.modules.get m).symbols ∨
      ∃ s, (v.modules.get m).symbols = some s ∧ (w.modules.get m).symbols = none ∧
        candidateFor (locationOf w m) extension = .ok (some s.path) ∧ Genuine w.disk s := by
  cases att with
  | @attached c content format wants cand rd known =>
    have bare : (w.modules.get m).symbols = none := by simpa using wants.2
    refine .inr ⟨⟨c, format, content⟩, ?_, bare, cand, rd, known⟩
    exact congrArg ManagedModule.symbols (Arena.get_set_self w.modules _ there)
  | _ => exact .inl rfl

/-- The symbol step makes no modules and removes none. -/
lemma length_of_attaches {extension r} (att : Attaches extension m w r v) :
    v.modules.cells.length = w.modules.cells.length := by
  obtain ⟨log, symbols, rfl⟩ := att.normal
  exact Arena.length_change w.modules m _

/-- The world in which a module has a fresh context and its type index has been switched on. -/
structure Readied (m : Ref .module) (w x : World) : Prop where
  length : x.modules.cells.length = w.modules.cells.length
  symbols : (x.modules.get m).symbols = (w.modules.get m).symbols
  location : locationOf x m = locationOf w m
  disk : x.disk = w.disk

/-- A module with a fresh context and its type index on is readied. -/
lemma readied_indexed (w : World) (m : Ref .module) (resolver : Option (Ref .resolver)) :
    Readied m w (indexed (adopted w m resolver) m) := by
  obtain ⟨trace, body, -, index⟩ := indexed_normal (adopted w m resolver) m
  have adopt : (adopted w m resolver).modules.cells.length = w.modules.cells.length :=
    Arena.length_change _ m _
  refine ⟨?_, ?_, ?_, ?_⟩
  · rw [index]
    exact (Arena.length_change _ m _).trans adopt
  · refine (indexed_get ManagedModule.symbols (fun _ _ _ _ => rfl) m).trans ?_
    exact adopted_get ManagedModule.symbols (fun _ _ => rfl) m
  · exact (locationOf_indexed _ m m).trans (locationOf_adopted w m resolver)
  · rw [index]
    rfl

/-- A file that is made over a module leaves it readied. -/
lemma Readied.withFile {x : World} (ready : Readied m w x) (f : LoadedFile) :
    Readied m w (x.withFile f) :=
  ⟨ready.length, ready.symbols, ready.location, ready.disk⟩

/-- What a loader call does to the symbols of a module. -/
lemma exists_wrap (l : Loader) (symbols : Bool) (resolver : Option (Ref .resolver))
    (key : Option FileKey) (there : m.index < w.modules.cells.length) :
    ∃ r v, (fromModule l m symbols resolver key).Runs w r v ∧
      v.modules.cells.length = w.modules.cells.length ∧
      ((v.modules.get m).symbols = (w.modules.get m).symbols ∨
        ∃ s, (v.modules.get m).symbols = some s ∧
          Attaching m w (.wrap l symbols resolver key) s) := by
  obtain ⟨r, v, run, wrs⟩ := exists_fromModule l w m symbols resolver key
  refine ⟨r, v, run, ?_⟩
  have ready := readied_indexed w m resolver
  have search {name r} (on : symbols = true)
      (att : Attaches l.symbolExtension m (wrapped (adopted w m resolver) m key name) r v) :
      v.modules.cells.length = w.modules.cells.length ∧
        ((v.modules.get m).symbols = (w.modules.get m).symbols ∨
          ∃ s, (v.modules.get m).symbols = some s ∧
            Attaching m w (.wrap l symbols resolver key) s) := by
    have ready' : Readied m w (wrapped (adopted w m resolver) m key name) := ready.withFile _
    refine ⟨(length_of_attaches att).trans ready'.length, ?_⟩
    obtain kept | ⟨s, set, bare, cand, genuine⟩ :=
      found_or_kept att (ready'.length.symm ▸ there)
    · exact .inl (kept.trans ready'.symbols)
    · rw [ready'.symbols] at bare
      rw [ready'.location] at cand
      rw [ready'.disk] at genuine
      subst on
      exact .inr ⟨s, set, .found bare cand genuine⟩
  cases wrs with
  | nameless => exact ⟨ready.length, .inl ready.symbols⟩
  | bare => exact ⟨ready.length, .inl ready.symbols⟩
  | searched _ on att => exact search on att
  | stopped _ on att => exact search on att

end Wrap

/-! ## Histories -/

section History

variable {m : Ref .module} {w : World}

/-- A deed leaves the symbols of a module alone, or attaches what it reads from the disk. -/
lemma symbols_step (there : m.index < w.modules.cells.length) (deed : Deed) :
    ((deed.perform m).outcome w).2.modules.cells.length = w.modules.cells.length ∧
      ((((deed.perform m).outcome w).2.modules.get m).symbols = (w.modules.get m).symbols ∨
        ∃ s, (((deed.perform m).outcome w).2.modules.get m).symbols = some s ∧
          Attaching m w deed s) := by
  cases deed with
  | wrap l symbols resolver key =>
    obtain ⟨r, v, run, step⟩ := exists_wrap l symbols resolver key there
    have last : (((Deed.wrap l symbols resolver key).perform m).outcome w).2 = v :=
      congrArg Prod.snd (runs_map _ run)
    rw [last]
    exact step
  | call path =>
    obtain ⟨r, v, run, calls⟩ := exists_calls m path w
    have last : (((Deed.call path).perform m).outcome w).2 = v := congrArg Prod.snd (runs_map _ run)
    rw [last]
    cases calls with
    | failed same | refused same =>
      rw [same]
      exact ⟨rfl, .inl rfl⟩
    | attached place genuine set =>
      subst place
      rw [set]
      refine ⟨Arena.length_change _ m _, .inr ⟨_, ?_, .called genuine⟩⟩
      exact congrArg ManagedModule.symbols (Arena.get_set_self w.modules _ there)
  | alter disk => exact ⟨rfl, .inl rfl⟩

/-- A module is there after any history. -/
lemma there_after (there : m.index < w.modules.cells.length) (history : List Deed) :
    m.index < (after m w history).modules.cells.length := by
  induction history using List.reverseRecOn with
  | nil => exact there
  | append_singleton history deed ih =>
    rw [after_snoc, (symbols_step ih deed).1]
    exact ih

/-- Symbols that a module has after a history have been attached by one of its deeds, and have stood
since then. -/
lemma attached_of_after (there : m.index < w.modules.cells.length)
    (bare : (w.modules.get m).symbols = none) (history : List Deed) {s : SymbolData}
    (has : ((after m w history).modules.get m).symbols = some s) :
    ∃ earlier deed later, history = earlier ++ deed :: later ∧
      Attaching m (after m w earlier) deed s ∧
      ∀ since, since <+: later →
        ((after m w (earlier ++ deed :: since)).modules.get m).symbols = some s := by
  induction history using List.reverseRecOn with
  | nil =>
    rw [after, List.foldl_nil, bare] at has
    cases has
  | append_singleton history last ih =>
    have has' := has
    rw [after_snoc] at has'
    obtain kept | ⟨s', set, attaching⟩ := (symbols_step (there_after there history) last).2
    -- The last deed leaves the symbols alone, so that they go back to an earlier one.
    · rw [kept] at has'
      obtain ⟨earlier, deed, later, rfl, attaching, stood⟩ := ih has'
      refine ⟨earlier, deed, later ++ [last], by simp, attaching, fun since part => ?_⟩
      obtain rfl | part := List.prefix_concat_iff.mp part
      · rw [List.append_assoc] at has
        exact has
      · exact stood since part
    · rw [set] at has'
      cases has'
      refine ⟨history, last, [], rfl, attaching, fun since part => ?_⟩
      rw [List.prefix_nil.mp part]
      exact has

/-- After any history of loader calls, direct calls and changes to the disk, the symbols of a module
that started without any are those that one of its deeds has read from the disk as it was then, whole
and in the format that their content shows. From there on a loader call leaves attached symbols
alone, and a direct call leaves the symbols alone unless it returns some, which are attached then. -/
theorem symbols_after_history (there : m.index < w.modules.cells.length)
    (bare : (w.modules.get m).symbols = none) (history : List Deed) :
    (∀ s, ((after m w history).modules.get m).symbols = some s →
      ∃ earlier deed later, history = earlier ++ deed :: later ∧
        Attaching m (after m w earlier) deed s ∧
        ∀ since, since <+: later →
          ((after m w (earlier ++ deed :: since)).modules.get m).symbols = some s) ∧
      (∀ l symbols resolver key s, ((after m w history).modules.get m).symbols = some s →
        ∃ r v, (fromModule l m symbols resolver key).Runs (after m w history) r v ∧
          (v.modules.get m).symbols = some s) ∧
      ∀ path, ∃ r v, (Modules.loadSymbols m path).Runs (after m w history) r v ∧
        ((∀ s, r ≠ .ok (.ok s)) →
          (v.modules.get m).symbols = ((after m w history).modules.get m).symbols) ∧
        ∀ s, r = .ok (.ok s) → (v.modules.get m).symbols = some s := by
  have now := there_after there history
  refine ⟨fun s => attached_of_after there bare history, fun l symbols resolver key s has => ?_,
    fun path => ?_⟩
  · obtain ⟨r, v, run, -, kept | ⟨s', set, attaching⟩⟩ := exists_wrap l symbols resolver key now
    · exact ⟨r, v, run, kept.trans has⟩
    · cases attaching with
      | found free =>
        rw [has] at free
        cases free
  · obtain ⟨r, v, run, calls⟩ := exists_calls m path (after m w history)
    refine ⟨r, v, run, ?_⟩
    cases calls with
    | failed same | refused same =>
      rw [same]
      exact ⟨fun _ => rfl, nofun⟩
    | @attached s _ place genuine set =>
      refine ⟨fun other => absurd rfl (other s), fun s' same => ?_⟩
      cases same
      rw [set]
      exact congrArg ManagedModule.symbols (Arena.get_set_self _ _ now)

end History

/-- A disk with one symbol file, in a directory below the root. -/
def symbolDisk (content : Bytes) : Disk where
  nodes := [(["srv".toList], .directory), (["srv".toList, "Lib.pdb".toList], .file content)]

/-- A world with a module that has no symbols, and a symbol file beside it. -/
def besideWorld : World where
  disk := symbolDisk SymbolFormat.portableMagic
  modules := ⟨[{ location := some "/srv/Lib.dll", body := .scripted {} }]⟩

/-- The symbols that a loader finds there. -/
def foundSymbols : SymbolData :=
  ⟨.ofString "/srv/Lib.pdb", .portable, SymbolFormat.portableMagic⟩

/-- Symbols that have been found stand while their file is replaced and the module is loaded again; a
direct call replaces them. -/
theorem symbols_after_history_replaced :
    let history : List Deed := [.wrap {} true none none,
      .alter (symbolDisk SymbolFormat.windowsMagic), .wrap {} true none none]
    ((after ⟨0⟩ besideWorld history).modules.get ⟨0⟩).symbols = some foundSymbols ∧
      (∃ earlier deed later, history = earlier ++ deed :: later ∧
        Attaching ⟨0⟩ (after ⟨0⟩ besideWorld earlier) deed foundSymbols) ∧
      ∃ r v, (Modules.loadSymbols ⟨0⟩ (.ofString "/srv/Lib.pdb")).Runs
          (after ⟨0⟩ besideWorld history) r v ∧
        (v.modules.get ⟨0⟩).symbols =
          some ⟨.ofString "/srv/Lib.pdb", .windows, SymbolFormat.windowsMagic⟩ := by
  intro history
  have there : (⟨0⟩ : Ref .module).index < besideWorld.modules.cells.length := by decide
  have has : ((after ⟨0⟩ besideWorld history).modules.get ⟨0⟩).symbols = some foundSymbols := by
    cbv
  obtain ⟨read, -, call⟩ := symbols_after_history there rfl history
  obtain ⟨earlier, deed, later, split, attaching, -⟩ := read foundSymbols has
  obtain ⟨r, v, run, -, set⟩ := call (.ofString "/srv/Lib.pdb")
  have answer : ((Modules.loadSymbols ⟨0⟩ (.ofString "/srv/Lib.pdb")).outcome
      (after ⟨0⟩ besideWorld history)).1 =
        .ok (.ok ⟨.ofString "/srv/Lib.pdb", .windows, SymbolFormat.windowsMagic⟩) := by
    cbv
  refine ⟨has, ⟨earlier, deed, later, split, attaching⟩, r, v, run, set _ ?_⟩
  exact (congrArg Prod.fst run).symm.trans answer

end PEInspect.Symbols
