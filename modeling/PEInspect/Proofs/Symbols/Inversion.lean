import PEInspect.Proofs.Disk.Answers
import PEInspect.Proofs.World.Arena
import PEInspect.Proofs.World.Effects

/-!
# Symbol inversion

The relation `Attaches` lists the ways in which the symbol step of a loader can end for a module.
The step has nothing to do for a module without a location or with symbols, and otherwise goes by
the candidate beside the location: there may be none, the disk may not answer for it, there may be
no file, the file may be barred from reading or be of no known format, or its symbols are attached
(`exists_attaches`).
-/

namespace PEInspect.Loading

open PEInspect.Action

/-- The location of a module, empty where it has none. -/
def locationOf (w : World) (m : Ref .module) : String :=
  (w.modules.get m).location.getD ""

/-- The symbol step looks for symbols: the module has a location and no symbols. -/
def Wants (w : World) (m : Ref .module) : Prop :=
  (locationOf w m).isEmpty = false ∧ (w.modules.get m).symbols.isSome = false

/-- The notice that there is no symbol file. -/
def absentText (location : String) : String :=
  "No symbol file for " ++ location

/-- The ways in which the symbol step can end. -/
inductive Attaches (extension : Document.Value) (m : Ref .module) (w : World) :
    Except Failure Unit → World → Prop where
  | settled :
    ¬ Wants w m →
    Attaches extension m w (.ok ()) w
  | malformed {f} :
    Wants w m →
    Symbols.candidateFor (locationOf w m) extension = .error f →
    Attaches extension m w (.error f) w
  | nameless :
    Wants w m →
    Symbols.candidateFor (locationOf w m) extension = .ok none →
    Attaches extension m w (.ok ()) (w.noted (absentText (locationOf w m)))
  | unanswered {c f} :
    Wants w m →
    Symbols.candidateFor (locationOf w m) extension = .ok (some c) →
    w.disk.hasFile c = .error f →
    Attaches extension m w (.error f) w
  | absent {c} :
    Wants w m →
    Symbols.candidateFor (locationOf w m) extension = .ok (some c) →
    w.disk.hasFile c = .ok false →
    Attaches extension m w (.ok ()) (w.noted (absentText (locationOf w m)))
  | unfit {c content} :
    Wants w m →
    Symbols.candidateFor (locationOf w m) extension = .ok (some c) →
    w.disk.read c = .ok content →
    SymbolFormat.detect? content = none →
    Attaches extension m w (.ok ())
      (w.noted ("Ignoring symbols for " ++ locationOf w m ++ ": " ++
        (Refusal.mk ("unrecognized symbol file format: " ++ c.toString) none).text))
  | barred {c e p} :
    Wants w m →
    Symbols.candidateFor (locationOf w m) extension = .ok (some c) →
    w.disk.hasFile c = .ok true →
    w.disk.read c = .error (.system e p) →
    Attaches extension m w (.ok ())
      (w.noted ("Ignoring symbols for " ++ locationOf w m ++ ": " ++
        (Refusal.mk ("cannot read symbol file " ++ c.toString) (some (.system e p))).text))
  | attached {c content format} :
    Wants w m →
    Symbols.candidateFor (locationOf w m) extension = .ok (some c) →
    w.disk.read c = .ok content →
    SymbolFormat.detect? content = some format →
    Attaches extension m w (.ok ())
      ((w.noted ("Read " ++ format.name ++ " symbols from " ++ c.toString)).changedModule m
        fun x => { x with symbols := some ⟨c, format, content⟩ })

/-- Symbols that the file system turns down are refused. -/
lemma runs_loadSymbols_barred {w : World} {m : Ref .module} {c e p}
    (rd : w.disk.read c = .error (.system e p)) :
    (Modules.loadSymbols m c).Runs w
      (.ok (.error ⟨"cannot read symbol file " ++ c.toString, some (.system e p)⟩)) w := by
  have report : (Symbols.read w.disk c).outcome
      = (.ok (.error ⟨"cannot read symbol file " ++ c.toString, some (.system e p)⟩), []) := by
    rw [Symbols.read, rd]
    rfl
  have run := runs_ofReport (Symbols.read w.disk c) w
  rw [report] at run
  simp only [List.append_nil] at run
  exact .bind (runs_get w) (.bind run (.bind (runs_pure _ _) (runs_pure _ _)))

/-- Symbols of an unknown format are refused. -/
lemma runs_loadSymbols_unfit {w : World} {m : Ref .module} {c content}
    (rd : w.disk.read c = .ok content) (unknown : SymbolFormat.detect? content = none) :
    (Modules.loadSymbols m c).Runs w
      (.ok (.error ⟨"unrecognized symbol file format: " ++ c.toString, none⟩)) w := by
  have report : (Symbols.read w.disk c).outcome
      = (.ok (.error ⟨"unrecognized symbol file format: " ++ c.toString, none⟩), []) := by
    rw [Symbols.read, rd]
    simp only [unknown]
    rfl
  have run := runs_ofReport (Symbols.read w.disk c) w
  rw [report] at run
  simp only [List.append_nil] at run
  exact .bind (runs_get w) (.bind run (.bind (runs_pure _ _) (runs_pure _ _)))

/-- Symbols of a known format are attached. -/
lemma runs_loadSymbols_attached {w : World} {m : Ref .module} {c content format}
    (rd : w.disk.read c = .ok content) (known : SymbolFormat.detect? content = some format) :
    (Modules.loadSymbols m c).Runs w (.ok (.ok ⟨c, format, content⟩))
      ((w.noted ("Read " ++ format.name ++ " symbols from " ++ c.toString)).changedModule m
        fun x => { x with symbols := some ⟨c, format, content⟩ }) := by
  have report : (Symbols.read w.disk c).outcome = (.ok (.ok ⟨c, format, content⟩),
      [⟨.debug, "Read " ++ format.name ++ " symbols from " ++ c.toString⟩]) := by
    rw [Symbols.read, rd]
    simp only [known]
    rfl
  have run := runs_ofReport (Symbols.read w.disk c) w
  rw [report] at run
  exact .bind (runs_get w) (.bind run (.bind (runs_changeModule _ _ _) (runs_pure _ _)))

/-- The symbol step looks for symbols exactly when it does not return at once. -/
lemma not_wants {w : World} {m : Ref .module} :
    ¬ Wants w m ↔
      ((locationOf w m).isEmpty || (w.modules.get m).symbols.isSome) = true := by
  rw [Wants]
  cases (locationOf w m).isEmpty <;> cases (w.modules.get m).symbols.isSome <;> simp

/-- A symbol step with something to do runs as its search does. -/
lemma runs_attachSymbols {l : Loader} {w : World} {m : Ref .module} {r v} (wants : Wants w m)
    (run : (attachFrom l m (locationOf w m)).Runs w r v) : (attachSymbols l m).Runs w r v := by
  refine .bind (runs_managedModule m w) ?_
  have busy : (((w.modules.get m).location.getD "").isEmpty ||
      (w.modules.get m).symbols.isSome) = false := by
    have e := wants.1
    rw [locationOf] at e
    rw [e, wants.2]
    rfl
  simp only [busy]
  exact run

/-- Where the disk answers for the candidate, the search goes by the answer. -/
lemma runs_attachFrom {l : Loader} {w : World} {m : Ref .module} {location c present r v}
    (cand : Symbols.candidateFor location l.symbolExtension = .ok (some c))
    (there : w.disk.hasFile c = .ok present)
    (run : Runs (if present = true then do
        match ← Modules.loadSymbols m c with
        | .error refusal =>
          debug ("Ignoring symbols for " ++ location ++ ": " ++ refusal.text)
        | .ok _ => pure ()
      else debug (absentText location)) w r v) : (attachFrom l m location).Runs w r v := by
  rw [attachFrom, cand]
  refine .bind (runs_ofExcept _ w) (.bind (runs_get w) ?_)
  rw [there]
  exact .bind (runs_ofExcept _ w) run

/-- The search for the symbols of a module ends in one of the ways that are listed. -/
lemma exists_attaches_wanted (l : Loader) {w : World} {m : Ref .module} (wants : Wants w m) :
    ∃ r v, (attachFrom l m (locationOf w m)).Runs w r v ∧
      Attaches l.symbolExtension m w r v := by
  cases cand : Symbols.candidateFor (locationOf w m) l.symbolExtension with
  | error f =>
    refine ⟨_, _, ?_, .malformed wants cand⟩
    rw [attachFrom, cand]
    exact .bind_error (runs_ofExcept _ w)
  | ok found =>
    cases found with
    | none =>
      refine ⟨_, _, ?_, .nameless wants cand⟩
      rw [attachFrom, cand]
      exact .bind (runs_ofExcept _ w) (runs_debug _ w)
    | some c =>
      cases there : w.disk.hasFile c with
      | error f =>
        refine ⟨_, _, ?_, .unanswered wants cand there⟩
        rw [attachFrom, cand]
        refine .bind (runs_ofExcept _ w) (.bind (runs_get w) ?_)
        rw [there]
        exact .bind_error (runs_ofExcept _ w)
      | ok present =>
        cases present with
        | false =>
          exact ⟨_, _, runs_attachFrom cand there (runs_debug _ w), .absent wants cand there⟩
        | true =>
          cases rd : w.disk.read c with
          | error f =>
            -- A path with a file is none with NUL, so it is the file system that turns it down.
            obtain ⟨nul, -⟩ | ⟨-, e, p, rfl⟩ := Disk.read_error rd
            · rw [(Disk.find_of_hasFile there).1] at nul
              cases nul
            · refine ⟨_, _, runs_attachFrom cand there ?_, .barred wants cand there rd⟩
              exact .bind (runs_loadSymbols_barred rd) (runs_debug _ w)
          | ok content =>
            cases known : SymbolFormat.detect? content with
            | none =>
              refine ⟨_, _, runs_attachFrom cand there ?_, .unfit wants cand rd known⟩
              exact .bind (runs_loadSymbols_unfit rd known) (runs_debug _ w)
            | some format =>
              refine ⟨_, _, runs_attachFrom cand there ?_, .attached wants cand rd known⟩
              exact .bind (runs_loadSymbols_attached rd known) (runs_pure _ _)

/-- The symbol step ends in one of the ways that are listed. -/
lemma exists_attaches (l : Loader) (w : World) (m : Ref .module) :
    ∃ r v, (attachSymbols l m).Runs w r v ∧ Attaches l.symbolExtension m w r v := by
  by_cases wants : Wants w m
  · obtain ⟨r, v, run, att⟩ := exists_attaches_wanted l wants
    exact ⟨r, v, runs_attachSymbols wants run, att⟩
  · refine ⟨_, _, .bind (runs_managedModule m w) ?_, .settled wants⟩
    have idle := not_wants.mp wants
    rw [locationOf] at idle
    simp only [idle]
    exact runs_pure _ w

/-- The symbol step writes notices and gives its module symbols, and does nothing else. -/
lemma Attaches.normal {extension m w r v} (att : Attaches extension m w r v) :
    ∃ log symbols, v = { w with
      log := log
      modules := w.modules.change m fun x => { x with symbols := symbols } } := by
  have idle (log : List Notice) : ({ w with log := log } : World) = { w with
      log := log
      modules := w.modules.change m fun x => { x with symbols := (w.modules.get m).symbols } } := by
    rw [Arena.change_same rfl]
  cases att with
  | settled => exact ⟨_, _, idle w.log⟩
  | malformed => exact ⟨_, _, idle w.log⟩
  | nameless => exact ⟨_, _, idle _⟩
  | unanswered => exact ⟨_, _, idle w.log⟩
  | absent => exact ⟨_, _, idle _⟩
  | unfit => exact ⟨_, _, idle _⟩
  | barred => exact ⟨_, _, idle _⟩
  | attached => exact ⟨_, _, rfl⟩

end PEInspect.Loading
