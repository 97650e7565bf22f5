import Mathlib
import PEInspect.Proofs.World.Spelling

/-!
# Answers do not depend on spelling

`Deed` lists what can be done with modules and files, with the answers that are given: they are parsed
and loaded, asked for their names, their assemblies, their types and the facts about them, searched
through an index or without one, changed and closed. A history of deeds gets the same answers in two
worlds that differ in how texts of metadata are spelled, and leaves worlds that differ in no more than
that (`answers_respelled`). The step lemma is that a deed comes to the same when everything is spelled
out; rows that are added are spelled out with the world.
-/

namespace PEInspect.Spelling

open PEInspect.Action

/-- What can be done with modules and files. -/
inductive Deed where
  | parse (content : Bytes) (location : Option String) (context : Option (Ref .context))
  | load (l : Loader) (source : ImageSource) (mapped : Document.Value) (symbols : Bool)
      (resolver : Option (Ref .resolver)) (key : Option FileKey)
  | wrap (l : Loader) (m : Ref .module) (symbols : Bool) (resolver : Option (Ref .resolver))
      (key : Option FileKey)
  | name (m : Ref .module)
  | assembly (m : Ref .module)
  | types (m : Ref .module)
  | switch (m : Ref .module) (enabled : Bool)
  | find (m : Ref .module) (space title : String)
  | append (m : Ref .module) (row : TypeRow)
  | release (m : Ref .module)
  | look (f : Ref .file)
  | facts (f : Ref .file)
  | rename (f : Ref .file) (path : String)
  | close (f : Ref .file)

/-- What is answered. -/
inductive Answer where
  | done
  | parsed (m : Except Refusal (Ref .module))
  | loaded (f : Ref .file)
  | name (s : String)
  | assembly (a : Option Assembly)
  | types (types : List TypeInfo)
  | found (t : Option TypeInfo)
  | rows (count : Nat)
  | shown (f : LoadedFile)
  | facts (info : Files.Info)

namespace Deed

/-- Does it, and hands out the answer. -/
def perform : Deed → Action Answer
  | parse content location context =>
    Answer.parsed <$> Parsing.parseBytes content location context
  | load l source mapped symbols resolver key =>
    Answer.loaded <$> Loading.fromSource l source mapped symbols resolver key
  | wrap l m symbols resolver key => Answer.loaded <$> Loading.fromModule l m symbols resolver key
  | name m => Answer.name <$> Modules.name m
  | assembly m => Answer.assembly <$> Modules.assembly m
  | types m => Answer.types <$> Modules.types m
  | switch m enabled => (fun _ => Answer.done) <$> Modules.switchLookup m enabled
  | find m space title => Answer.found <$> Modules.findType m space title
  | append m row => Answer.rows <$> Modules.addType m row
  | release m => (fun _ => Answer.done) <$> Modules.close m
  | look f => Answer.shown <$> Action.file f
  | facts f => Answer.facts <$> Files.info f
  | rename f path => (fun _ => Answer.done) <$> Files.setPath f path
  | close f => (fun _ => Answer.done) <$> Files.close f

/-- Deeds differ at most in how the texts in rows to be added are spelled. -/
inductive Respells : Deed → Deed → Prop where
  | same deed :
    Respells deed deed
  | append m {row row'} :
    row.Respells row' →
    Respells (append m row) (append m row')

def spelledOut : Deed → Deed
  | append m row => append m row.spelledOut
  | deed => deed

/-- A deed and its respelling are spelled out alike. -/
lemma Respells.spelledOut {d d' : Deed} (respells : d.Respells d') :
    d'.spelledOut = d.spelledOut := by
  cases respells with
  | same => rfl
  | append m row => exact congrArg (Deed.append m) row.spelledOut

end Deed

/-- The answers to a history of deeds, failures among them, and the world after it. -/
def run (w : World) : List Deed → List (Except Failure Answer) × World
  | [] => ([], w)
  | deed :: rest =>
    ((deed.perform.outcome w).1 :: (run (deed.perform.outcome w).2 rest).1,
      (run (deed.perform.outcome w).2 rest).2)

/-! ## Histories -/

/-- Adding a row comes to the same when the row is spelled out with the world. -/
lemma addType_spelledOut (w : World) (r : Ref .module) (row : TypeRow) :
    (Modules.addType r row.spelledOut).outcome w.spelledOut =
      (((Modules.addType r row).outcome w).1, ((Modules.addType r row).outcome w).2.spelledOut) := by
  cases body : (w.modules.get r).body with
  | scripted script =>
    have refused (row : TypeRow) (w' : World) (same : w'.modules = w.modules) :
        (Modules.addType r row).Runs w' (.error (.noMember "FakeModule" "pe")) w' := by
      refine .bind (runs_managedModule r w') ?_
      rw [same, body]
      rfl
    rw [refused row w rfl, refused row.spelledOut w.spelledOut rfl]
  | parsed md lookup =>
    have body' : (w.spelledOut.modules.get r).body = .parsed md lookup := body
    have added' : (w.spelledOut.metadata.get md).content.addType row.spelledOut =
        ((w.metadata.get md).content.addType row).map Metadata.spelledOut := by
      rw [w.get_spelledOut]
      exact Metadata.addType_spelledOut _ row
    cases added : (w.metadata.get md).content.addType row with
    | error f =>
      rw [added] at added'
      rw [Modules.runs_addType_refused body added, Modules.runs_addType_refused body' added']
    | ok content =>
      rw [added] at added'
      rw [Modules.runs_addType_added body added, Modules.runs_addType_added body' added',
        content.typeList_spelledOut]
      exact congrArg (Prod.mk _) (w.change_spelledOut md _ _ fun _ => rfl)

/-- A deed comes to the same when everything is spelled out. -/
lemma Deed.perform_spelledOut (deed : Deed) (w : World) :
    deed.spelledOut.perform.outcome w.spelledOut =
      ((deed.perform.outcome w).1, (deed.perform.outcome w).2.spelledOut) := by
  cases deed with
  | parse content location context =>
    exact (Parsing.uniform_parseBytes content location context).map _ w
  | load l source mapped symbols resolver key =>
    exact (Loading.uniform_fromSource l symbols resolver key source mapped).map _ w
  | wrap l m symbols resolver key =>
    exact (Loading.uniform_fromModule l symbols resolver key m).map _ w
  | name m => exact (Modules.uniform_name m).map _ w
  | assembly m => exact (Modules.uniform_assembly m).map _ w
  | types m => exact (Modules.uniform_types m).map _ w
  | switch m enabled => exact (Modules.uniform_switchLookup m enabled).map _ w
  | find m space title => exact (Modules.uniform_findType m space title).map _ w
  | append m row =>
    show (Answer.rows <$> Modules.addType m row.spelledOut).outcome w.spelledOut = _
    rw [outcome_map, addType_spelledOut, perform, outcome_map]
  | release m => exact (Modules.uniform_close m).map _ w
  | look f => exact (uniform_file f).map _ w
  | facts f => exact (Files.uniform_info f).map _ w
  | rename f path => exact (Files.uniform_setPath f path).map _ w
  | close f => exact (Files.uniform_close f).map _ w

/-- A history in a world is answered as its spelled-out form is in the spelled-out world. -/
lemma run_spelledOut (w : World) (history : List Deed) :
    run w.spelledOut (history.map Deed.spelledOut) = ((run w history).1, (run w history).2.spelledOut) := by
  induction history generalizing w with
  | nil => rfl
  | cons deed rest ih =>
    rw [List.map_cons, run, deed.perform_spelledOut w, ih]
    rfl

/-- In two worlds that differ in how texts of metadata are spelled, deeds get the same answers, and
leave worlds that are the same once they are spelled out. -/
theorem answers_respelled {v u : World} (worlds : v.Respells u) {history history' : List Deed}
    (deeds : List.Forall₂ Deed.Respells history history') :
    (run u history').1 = (run v history).1 ∧
      (run u history').2.spelledOut = (run v history).2.spelledOut := by
  have same : run u.spelledOut (history'.map Deed.spelledOut) =
      run v.spelledOut (history.map Deed.spelledOut) := by
    rw [worlds.spelledOut, map_eq_of_forall₂ (fun _ _ d => d.spelledOut) deeds]
  rw [run_spelledOut, run_spelledOut] at same
  exact Prod.mk.inj same

/-- A world with a module over some tables. -/
def worldOver (t : Tables) : World where
  metadata := ⟨[{ content := .tables t }]⟩
  modules := ⟨[{ body := .parsed ⟨0⟩ {} }]⟩

/-- Tables with texts as they are, whose characters take one to four bytes. -/
def plainTables : Tables where
  modules := .listed [⟨.plain (.text "é.dll")⟩]
  assemblies := .listed [{ name := .plain (.text "é"), culture := .plain (.text "") }]
  types := .listed [⟨.plain (.text "€"), .plain (.text "𝄞")⟩]

/-- The same tables with bytes and boxes. -/
def respelledTables : Tables where
  modules := .listed [⟨.plain (.raw [0xC3, 0xA9, 0x2E, 0x64, 0x6C, 0x6C])⟩]
  assemblies := .listed [{ name := .boxed (.plain (.text "é")), culture := .boxed (.plain .absent) }]
  types := .listed [⟨.boxed (.plain (.raw [0xE2, 0x82, 0xAC])), .plain (.raw [0xF0, 0x9D, 0x84, 0x9E])⟩]

/-- The tables with bytes for names respell the plain ones. -/
lemma respells_respelledTables : plainTables.Respells respelledTables where
  modules := .listed (.cons ⟨.text .text .bytes⟩ .nil)
  assemblies := .listed (.cons ⟨.text .text .boxedText, .text .text (.boxedAbsent rfl), rfl⟩ .nil)
  types := .listed (.cons ⟨.text .text .boxedBytes, .text .text .bytes⟩ .nil)

def plainRow : TypeRow :=
  ⟨.plain (.text ""), .plain (.text "A")⟩

def respelledRow : TypeRow :=
  ⟨.plain .absent, .boxed (.plain (.raw [0x41]))⟩

/-- A type is sought by a scan and, once a file has switched the index on, through the index; then a
row is added. -/
def inquiry (row : TypeRow) : List Deed :=
  [.find ⟨0⟩ "€" "𝄞", .wrap {} ⟨0⟩ false none none, .find ⟨0⟩ "€" "𝄞", .append ⟨0⟩ row, .types ⟨0⟩,
    .assembly ⟨0⟩, .look ⟨0⟩, .facts ⟨0⟩]

def inquired : List (Except Failure Answer) :=
  [.ok (.found (some ⟨"€", "𝄞", 0x02000001⟩)),
    .ok (.loaded ⟨0⟩),
    .ok (.found (some ⟨"€", "𝄞", 0x02000001⟩)),
    .ok (.rows 2),
    .ok (.types [⟨"€", "𝄞", 0x02000001⟩, ⟨"", "A", 0x02000002⟩]),
    .ok (.assembly (some { name := "é" })),
    .ok (.shown { backing := .module ⟨0⟩, shortName := "é.dll" }),
    .ok (.facts {
      path := ""
      name := "é.dll"
      kind := "MODULE"
      autoLoaded := false
      persistable := true
      module := some "é.dll"
      assembly := some "é, Version=0.0.0.0, Culture=neutral"
      hasSymbols := false
      imageSize := 0 })]

/-- The answers to the plain inquiry. -/
lemma run_plain : (run (worldOver plainTables) (inquiry plainRow)).1 = inquired := by
  cbv

/-- The inquiry with bytes for names is answered like the plain one. -/
theorem answers_respelled_bytes :
    (worldOver plainTables).Respells (worldOver respelledTables) ∧
      List.Forall₂ Deed.Respells (inquiry plainRow) (inquiry respelledRow) ∧
      (run (worldOver respelledTables) (inquiry respelledRow)).1 = inquired := by
  have worlds : (worldOver plainTables).Respells (worldOver respelledTables) :=
    ⟨.cons ⟨.tables respells_respelledTables, rfl⟩ .nil, fun _ => .same _, rfl, rfl⟩
  have row : plainRow.Respells respelledRow := ⟨.text .text (.absent rfl), .text .text .boxedBytes⟩
  have deeds : List.Forall₂ Deed.Respells (inquiry plainRow) (inquiry respelledRow) :=
    .cons (.same _) (.cons (.same _) (.cons (.same _) (.cons (.append _ row) (.cons (.same _)
      (.cons (.same _) (.cons (.same _) (.cons (.same _) .nil)))))))
  exact ⟨worlds, deeds, (answers_respelled worlds deeds).1.trans run_plain⟩

end PEInspect.Spelling
