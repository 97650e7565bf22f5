import Mathlib.Data.List.Induction
import PEInspect.Proofs.Metadata.Lookup
import PEInspect.Proofs.World.Arena
import PEInspect.Proofs.World.Effects

/-!
# Type lookup over histories

A module looks types up by a scan or through an index, whichever it is switched to, while rows are
added to its type table and the module is closed. `BuiltAfter` says after which part of a history the
index in use was built, in terms of what was done alone. What a search finds is the first row with the
name in the table of that moment or, without the index, in the table as it is
(`findType_after_history`); so the index can miss rows that were added later, but never finds a wrong
one.
-/

namespace PEInspect.Modules

open PEInspect.Action

/-- What can be done to a module. -/
inductive Deed where
  | switch (enabled : Bool)
  | find (space name : String)
  | append (row : TypeRow)
  | close
  deriving Repr, DecidableEq, Inhabited

namespace Deed

/-- Does it to a module. -/
def perform (r : Ref .module) : Deed → Action Unit
  | switch enabled => switchLookup r enabled
  | find space name => do discard (findType r space name)
  | append row => do discard (addType r row)
  | close => Modules.close r

/-- An index does not survive being switched off or closing the module. -/
def drops : Deed → Bool
  | switch enabled => !enabled
  | close => true
  | _ => false

/-- A search for a type. -/
def searches : Deed → Bool
  | find _ _ => true
  | _ => false

end Deed

/-- The world after a history of deeds on a module, whether or not each of them succeeded. -/
def after (r : Ref .module) (w : World) (history : List Deed) : World :=
  history.foldl (fun w deed => ((deed.perform r).outcome w).2) w

/-- Whether the index is switched on after a history: as the last switch says. -/
def isOn (history : List Deed) : Bool :=
  history.foldl (fun on deed => match deed with
    | .switch enabled => enabled
    | _ => on) false

/-- No search has been made while the index was switched on, since it was last dropped. -/
inductive Unbuilt : List Deed → Prop where
  | start : Unbuilt []
  | dropped {history deed} :
    deed.drops = true →
    Unbuilt (history ++ [deed])
  | idle {history deed} :
    Unbuilt history →
    deed.searches = false ∨ isOn history = false →
    Unbuilt (history ++ [deed])

/-- The index in use at the end of a history has been built after an earlier part of it: for the first
search that was made while it was switched on, since it was last dropped. -/
inductive BuiltAfter : List Deed → List Deed → Prop where
  | first {history space name} :
    Unbuilt history →
    isOn history = true →
    BuiltAfter (history ++ [.find space name]) history
  | later {history earlier deed} :
    BuiltAfter history earlier →
    deed.drops = false →
    BuiltAfter (history ++ [deed]) earlier

/-- The rows of the type table of a module. -/
def rowsOf (w : World) (r : Ref .module) : List TypeRow :=
  match (w.modules.get r).body with
  | .scripted _ => []
  | .parsed m _ =>
    match (w.metadata.get m).content with
    | .tables t => t.types.rows
    | _ => []

/-- A module stands on readable tables and looks types up in some way. -/
structure Stands (r : Ref .module) (m : Ref .metadata) (lookup : TypeLookup) (t : Tables)
    (w : World) : Prop where
  module : r.index < w.modules.cells.length
  metadata : m.index < w.metadata.cells.length
  body : (w.modules.get r).body = .parsed m lookup
  content : (w.metadata.get m).content = .tables t

variable {r : Ref .module} {m : Ref .metadata} {lookup : TypeLookup} {t : Tables} {w : World}

/-- The rows of a module are those of its tables. -/
lemma Stands.rowsOf (stands : Stands r m lookup t w) : rowsOf w r = t.types.rows := by
  rw [Modules.rowsOf, stands.body]
  dsimp only
  rw [stands.content]

/-- A module still stands on its tables where modules and metadata are the same. -/
lemma Stands.of_same {v : World} (stands : Stands r m lookup t w) (modules : v.modules = w.modules)
    (metadata : v.metadata = w.metadata) : Stands r m lookup t v := by
  refine ⟨?_, ?_, ?_, ?_⟩
  · rw [modules]
    exact stands.module
  · rw [metadata]
    exact stands.metadata
  · rw [modules]
    exact stands.body
  · rw [metadata]
    exact stands.content

/-- Replacing the lookup of a module leaves it on its tables. -/
lemma Stands.setLookup (stands : Stands r m lookup t w) (lookup' : TypeLookup) :
    (Modules.setLookup r m lookup').Runs w (.ok ())
        (w.changedModule r fun x => { x with body := .parsed m lookup' }) ∧
      Stands r m lookup' t (w.changedModule r fun x => { x with body := .parsed m lookup' }) := by
  refine ⟨runs_changeModule _ _ w, ?_, stands.metadata, ?_, stands.content⟩
  · rw [World.changedModule, Arena.length_change]
    exact stands.module
  · exact congrArg ManagedModule.body (Arena.get_set_self w.modules _ stands.module)

/-! ## What each deed does -/

namespace Deed

/-- How a module with some types looks types up after a deed. -/
def lookupAfter (lookup : TypeLookup) (types : List TypeInfo) : Deed → TypeLookup
  | switch enabled => lookup.enable enabled
  | find space name => (lookup.find types space name).2
  | append _ => lookup
  | close => lookup.drop

/-- The tables after a deed; a row can be added only to a table that lists rows. -/
def tablesAfter (t : Tables) : Deed → Tables
  | append row =>
    match t.types with
    | .listed rows => { t with types := .listed (rows ++ [row]) }
    | _ => t
  | _ => t

end Deed

/-- A search finds a type as the lookup says, over the types of the tables. -/
lemma Stands.exists_findType (stands : Stands r m lookup t w) (space name : String) :
    ∃ v, (findType r space name).Runs w (.ok (lookup.find t.typeList space name).1) v ∧
      Stands r m (lookup.find t.typeList space name).2 t v := by
  obtain ⟨start, stands'⟩ := stands.setLookup lookup.start
  obtain ⟨set, stands''⟩ := stands'.setLookup (lookup.find t.typeList space name).2
  have list (v : World) (content : (v.metadata.get m).content = .tables t) :
      (ofExcept ((v.metadata.get m).content.typeList)).Runs v (.ok t.typeList) v := by
    rw [content]
    exact runs_ofExcept _ v
  refine ⟨_, .bind (runs_managedModule r w) ?_, stands''⟩
  rw [stands.body]
  refine .bind start ?_
  by_cases standing : (lookup.enabled && lookup.index.isSome) = true
  · -- The types are not listed again, and the index does not need them.
    have same : lookup.find [] space name = lookup.find t.typeList space name := by
      obtain ⟨on, index⟩ := Bool.and_eq_true_iff.mp standing
      obtain ⟨index, built⟩ := Option.isSome_iff_exists.mp index
      rw [TypeLookup.find, TypeLookup.find, if_pos on, if_pos on, built]
      rfl
    rw [← same] at set ⊢
    rw [searched, if_pos standing]
    exact .bind (runs_pure _ _) (.bind set (runs_pure _ _))
  · rw [searched, if_neg standing]
    exact .bind (.bind (.bind (runs_get _) (runs_pure _ _)) (list _ stands'.content))
      (.bind set (runs_pure _ _))

/-- A row is added to a table that lists rows, and is refused by any other. -/
lemma addType_tables (t : Tables) (row : TypeRow) :
    (Metadata.tables t).addType row = .ok (.tables ((Deed.append row).tablesAfter t)) ∨
      (∃ f, (Metadata.tables t).addType row = .error f) ∧ (Deed.append row).tablesAfter t = t := by
  rw [Deed.tablesAfter]
  cases table : t.types with
  | listed rows =>
    left
    simp only [Metadata.addType, Metadata.tablesFor, bind, Except.bind, table]
    rfl
  | missing =>
    refine .inr ⟨⟨.noMember "NoneType" "rows", ?_⟩, rfl⟩
    simp only [Metadata.addType, Metadata.tablesFor, bind, Except.bind, table]
    rfl
  | unlisted =>
    refine .inr ⟨⟨.noMember "NoneType" "append", ?_⟩, rfl⟩
    simp only [Metadata.addType, Metadata.tablesFor, bind, Except.bind, table]
    rfl

/-- Adding a row to a module adds it to its tables. -/
lemma Stands.exists_addType (stands : Stands r m lookup t w) (row : TypeRow) :
    ∃ result v, (addType r row).Runs w result v ∧
      Stands r m lookup ((Deed.append row).tablesAfter t) v := by
  rcases addType_tables t row with listed | ⟨⟨f, refused⟩, same⟩
  · rw [← stands.content] at listed
    refine ⟨_, _, runs_addType_added stands.body listed, stands.module, ?_, stands.body, ?_⟩
    · change m.index < (w.metadata.change m _).cells.length
      rw [Arena.length_change]
      exact stands.metadata
    · exact congrArg OpenMetadata.content (Arena.get_set_self w.metadata _ stands.metadata)
  · rw [← stands.content] at refused
    rw [same]
    exact ⟨_, _, runs_addType_refused stands.body refused, stands⟩

/-- Closing a module drops its index and leaves its tables. -/
lemma Stands.exists_close (stands : Stands r m lookup t w) :
    ∃ v, (Modules.close r).Runs w (.ok ()) v ∧ Stands r m lookup.drop t v := by
  obtain ⟨module, metadata, body, content⟩ := stands
  -- Metadata are closed first; what they hold stays.
  have closed : Stands r m lookup t (w.closedMetadata m) := by
    refine ⟨module, ?_, body, ?_⟩
    · rw [World.closedMetadata, Arena.length_change]
      exact metadata
    · exact (congrArg OpenMetadata.content (Arena.get_set_self w.metadata _ metadata)).trans content
  obtain ⟨dropped, stands⟩ := closed.setLookup lookup.drop
  obtain ⟨v, run, -, modules, metadata⟩ := exists_closeImage (w.modules.get r).image
    ((w.closedMetadata m).changedModule r fun x => { x with body := .parsed m lookup.drop })
  refine ⟨v, .bind (runs_managedModule r w) ?_, stands.of_same modules metadata⟩
  rw [body]
  exact .bind (runs_closeMetadata m w) (.bind dropped run)

/-- A deed changes the lookup and the tables of a module as it is said to. -/
lemma Stands.exists_perform (stands : Stands r m lookup t w) (deed : Deed) :
    ∃ result v, (deed.perform r).Runs w result v ∧
      Stands r m (deed.lookupAfter lookup t.typeList) (deed.tablesAfter t) v := by
  cases deed with
  | switch enabled =>
    obtain ⟨run, stands'⟩ := stands.setLookup (lookup.enable enabled)
    refine ⟨.ok (), _, .bind (runs_managedModule r w) ?_, stands'⟩
    rw [stands.body]
    exact run
  | find space name =>
    obtain ⟨v, run, stands'⟩ := stands.exists_findType space name
    exact ⟨_, v, runs_map _ run, stands'⟩
  | append row =>
    obtain ⟨result, v, run, stands'⟩ := stands.exists_addType row
    exact ⟨_, v, runs_map _ run, stands'⟩
  | close =>
    obtain ⟨v, run, stands'⟩ := stands.exists_close
    exact ⟨_, v, run, stands'⟩

/-! ## Histories -/

/-- How a new module over some tables looks types up after a history, and the tables then. -/
def stateAfter (t : Tables) (history : List Deed) : TypeLookup × Tables :=
  history.foldl (fun s deed => (deed.lookupAfter s.1 s.2.typeList, deed.tablesAfter s.2)) ({}, t)

/-- The last deed of a history starts from the state that the others leave. -/
lemma stateAfter_snoc (t : Tables) (history : List Deed) (deed : Deed) :
    stateAfter t (history ++ [deed]) =
      (deed.lookupAfter (stateAfter t history).1 (stateAfter t history).2.typeList,
        deed.tablesAfter (stateAfter t history).2) := by
  rw [stateAfter, List.foldl_append]
  rfl

/-- After a history, a module stands in the state that is computed for it. -/
lemma Stands.after (stands : Stands r m {} t w) (history : List Deed) :
    Stands r m (stateAfter t history).1 (stateAfter t history).2 (after r w history) := by
  induction history using List.reverseRecOn with
  | nil => exact stands
  | append_singleton history deed ih =>
    obtain ⟨result, v, run, stands'⟩ := ih.exists_perform deed
    have last : Modules.after r w (history ++ [deed]) = v := by
      rw [Modules.after, List.foldl_append]
      exact congrArg Prod.snd run
    rw [last, stateAfter_snoc]
    exact stands'

/-- The index is on exactly if it was switched on last. -/
lemma enabled_after (t : Tables) (history : List Deed) :
    (stateAfter t history).1.enabled = isOn history := by
  induction history using List.reverseRecOn with
  | nil => rfl
  | append_singleton history deed ih =>
    rw [stateAfter_snoc, isOn, List.foldl_append]
    cases deed with
    | switch enabled => rfl
    | find space name =>
      refine Eq.trans ?_ ih
      rw [Deed.lookupAfter, TypeLookup.find]
      split <;> rfl
    | append row => exact ih
    | close => exact ih

/-- Without a search under a switched-on index, there is no index. -/
lemma index_of_unbuilt {history : List Deed} (t : Tables) (unbuilt : Unbuilt history) :
    (stateAfter t history).1.index = none := by
  induction unbuilt with
  | start => rfl
  | @dropped history deed drops =>
    rw [stateAfter_snoc]
    cases deed with
    | switch enabled =>
      cases enabled with
      | true => cases drops
      | false => rfl
    | close => rfl
    | find => cases drops
    | append => cases drops
  | @idle history deed _ still ih =>
    rw [stateAfter_snoc]
    cases deed with
    | switch enabled =>
      -- Switching the index on keeps what stands, and here nothing does.
      rw [Deed.lookupAfter, TypeLookup.enable, ih]
      exact ite_self none
    | find space name =>
      have off : (stateAfter t history).1.enabled = false :=
        (enabled_after t history).trans (still.resolve_left nofun)
      rw [Deed.lookupAfter, TypeLookup.find, off]
      exact ih
    | append row => exact ih
    | close => rfl

/-- A search through the index builds it over the types of that moment, unless it stands. -/
lemma index_find {history : List Deed} (t : Tables) (on : isOn history = true)
    (space name : String) : (stateAfter t (history ++ [.find space name])).1.index =
      some ((stateAfter t history).1.index.getD
        (TypeIndex.ofList (stateAfter t history).2.typeList)) := by
  have enabled : (stateAfter t history).1.enabled = true := (enabled_after t history).trans on
  rw [stateAfter_snoc, Deed.lookupAfter, TypeLookup.find, if_pos enabled]

/-- The index in use holds the types of the moment when it was built. -/
lemma index_of_built {history earlier : List Deed} (t : Tables)
    (built : BuiltAfter history earlier) : (stateAfter t history).1.index =
      some (TypeIndex.ofList (stateAfter t earlier).2.typeList) := by
  induction built with
  | @first history space name unbuilt on =>
    rw [index_find t on, index_of_unbuilt t unbuilt]
    rfl
  | @later history earlier deed _ keeps ih =>
    rw [stateAfter_snoc]
    cases deed with
    | switch enabled =>
      cases enabled with
      | true => exact ih
      | false => cases keeps
    | find space name =>
      -- A standing index is used as it is, even if it is empty.
      rw [Deed.lookupAfter, TypeLookup.find, ih]
      split
      · rfl
      · exact ih
    | append row => exact ih
    | close => cases keeps

/-- At any time either no index has been built, or it was built after some part of the history. -/
lemma unbuilt_or_built (history : List Deed) :
    Unbuilt history ∨ ∃ earlier, BuiltAfter history earlier := by
  induction history using List.reverseRecOn with
  | nil => exact .inl .start
  | append_singleton history deed ih =>
    cases drops : deed.drops with
    | true => exact .inl (.dropped drops)
    | false =>
      rcases ih with unbuilt | ⟨earlier, built⟩
      · cases deed with
        | find space name =>
          cases on : isOn history with
          | true => exact .inr ⟨history, .first unbuilt on⟩
          | false => exact .inl (.idle unbuilt (.inr on))
        | switch enabled => exact .inl (.idle unbuilt (.inl rfl))
        | append row => exact .inl (.idle unbuilt (.inl rfl))
        | close => exact .inl (.idle unbuilt (.inl rfl))
      · exact .inr ⟨earlier, .later built drops⟩

/-! ## The type table -/

/-- The row that a deed adds. -/
def Deed.row? : Deed → Option TypeRow
  | append row => some row
  | _ => none

/-- A table with more rows, if it lists rows. -/
def extended (table : RowTable TypeRow) (more : List TypeRow) : RowTable TypeRow :=
  match table with
  | .listed rows => .listed (rows ++ more)
  | table => table

/-- The type table grows by the rows that are added, and by nothing else. -/
lemma types_after (t : Tables) (history : List Deed) :
    (stateAfter t history).2.types = extended t.types (history.filterMap Deed.row?) := by
  induction history using List.reverseRecOn with
  | nil =>
    cases table : t.types with
    | listed rows => exact table.trans (congrArg RowTable.listed (List.append_nil rows).symm)
    | _ => exact table
  | append_singleton history deed ih =>
    rw [stateAfter_snoc, List.filterMap_append]
    cases deed with
    | append row =>
      rw [Deed.tablesAfter, ih]
      cases table : t.types with
      | listed rows => exact congrArg RowTable.listed (List.append_assoc _ _ _)
      | _ =>
        rw [table] at ih
        exact ih
    | _ => exact ih.trans (congrArg (extended t.types) (List.append_nil _).symm)

/-- A later table has the rows of an earlier one in front, and no others if none were added. -/
lemma exists_rows_after (t : Tables) (earlier later : List Deed) :
    ∃ more, (stateAfter t (earlier ++ later)).2.types.rows =
        (stateAfter t earlier).2.types.rows ++ more ∧
      ((∀ row, .append row ∉ later) → more = []) := by
  have none_ (out : ∀ row, .append row ∉ later) : later.filterMap Deed.row? = [] := by
    refine List.filterMap_eq_nil_iff.mpr fun deed mem => ?_
    cases deed with
    | append row => exact absurd mem (out row)
    | _ => rfl
  rw [types_after, types_after, List.filterMap_append]
  cases t.types with
  | listed rows => exact ⟨later.filterMap Deed.row?, (List.append_assoc _ _ _).symm, none_⟩
  | missing => exact ⟨[], rfl, fun _ => rfl⟩
  | unlisted => exact ⟨[], rfl, fun _ => rfl⟩

/-- An index has been built at some point of the history. -/
lemma BuiltAfter.isPrefix {history earlier : List Deed} (built : BuiltAfter history earlier) :
    earlier <+: history := by
  induction built with
  | first => exact List.prefix_append _ _
  | later _ _ ih => exact ih.trans (List.prefix_append _ _)

/-- An index that is in use after a deed was built no later than for that deed. -/
lemma BuiltAfter.exists_later {history earlier : List Deed} {deed : Deed}
    (built : BuiltAfter (history ++ [deed]) earlier) : ∃ later, history = earlier ++ later := by
  generalize whole : history ++ [deed] = all at built
  cases built with
  | first =>
    obtain ⟨rfl, -⟩ := List.append_inj' whole rfl
    exact ⟨[], (List.append_nil _).symm⟩
  | later built =>
    obtain ⟨rfl, -⟩ := List.append_inj' whole rfl
    obtain ⟨later, rfl⟩ := built.isPrefix
    exact ⟨later, rfl⟩

/-! ## Searches -/

/-- What a search through the index finds is in the table over which the index was built. -/
lemma firstRow_built (t : Tables) {history earlier : List Deed} {space name : String}
    (on : isOn history = true) (built : BuiltAfter (history ++ [.find space name]) earlier) :
    FirstRow (stateAfter t earlier).2.types.rows space name
      ((stateAfter t history).1.find (stateAfter t history).2.typeList space name).1 := by
  have enabled : (stateAfter t history).1.enabled = true := (enabled_after t history).trans on
  have index := (index_find t on space name).symm.trans (index_of_built t built)
  rw [TypeLookup.find, if_pos enabled]
  simp only [Option.some.inj index]
  rw [TypeIndex.lookup_ofList]
  exact firstRow_firstNamed _ space name

/-- With the index off, a search comes to the first row with the name. -/
lemma firstRow_scan (t : Tables) {history : List Deed} (off : isOn history = false)
    (space name : String) : FirstRow (stateAfter t history).2.types.rows space name
      ((stateAfter t history).1.find (stateAfter t history).2.typeList space name).1 := by
  have enabled : (stateAfter t history).1.enabled = false := (enabled_after t history).trans off
  rw [TypeLookup.find, if_neg (by simp [enabled])]
  exact firstRow_firstNamed _ space name

/-- With the index on, a search leaves an index that has been built at some point. -/
lemma exists_built (history : List Deed) (on : isOn history = true) (space name : String) :
    ∃ earlier, BuiltAfter (history ++ [.find space name]) earlier := by
  rcases unbuilt_or_built history with unbuilt | ⟨earlier, built⟩
  · exact ⟨history, .first unbuilt on⟩
  · exact ⟨earlier, .later built rfl⟩

/-- After any history of a new module, a search finds the first row with the name: in the table as it
is while the index is off, and otherwise in the table over which the index was built. So whatever is
found is what a scan of the present table would find, and without rows added since then a search comes
to the same as the scan in any case. -/
theorem findType_after_history (new : Stands r m {} t w) (history : List Deed)
    (space name : String) :
    ∃ found v, (findType r space name).Runs (after r w history) (.ok found) v ∧
      (isOn history = false → FirstRow (rowsOf (after r w history) r) space name found) ∧
      (isOn history = true →
        (∃ earlier, BuiltAfter (history ++ [.find space name]) earlier) ∧
        ∀ earlier, BuiltAfter (history ++ [.find space name]) earlier →
          FirstRow (rowsOf (after r w earlier) r) space name found) ∧
      (found ≠ none →
        found = firstNamed (typesFrom 1 (rowsOf (after r w history) r)) space name) ∧
      (∀ earlier later, BuiltAfter (history ++ [.find space name]) earlier →
        history = earlier ++ later → (∀ row, .append row ∉ later) →
          found = firstNamed (typesFrom 1 (rowsOf (after r w history) r)) space name) ∧
      ∀ rows, t.types = .listed rows →
        rowsOf (after r w history) r = rows ++ history.filterMap Deed.row? := by
  have table (history : List Deed) :
      rowsOf (after r w history) r = (stateAfter t history).2.types.rows :=
    (new.after history).rowsOf
  obtain ⟨v, run, -⟩ := (new.after history).exists_findType space name
  simp only [table]
  refine ⟨_, v, run, fun off => firstRow_scan t off space name, fun on =>
    ⟨exists_built history on space name, fun earlier built => firstRow_built t on built⟩, ?_, ?_, ?_⟩
  · intro some_
    refine FirstRow.unique ?_ (firstRow_firstNamed _ space name)
    cases on : isOn history with
    | false => exact firstRow_scan t on space name
    | true =>
      -- The present table has the rows of the older one in front, and so the same first row.
      obtain ⟨earlier, built⟩ := exists_built history on space name
      obtain ⟨later, rfl⟩ := built.exists_later
      obtain ⟨more, rows, -⟩ := exists_rows_after t earlier later
      obtain ⟨info, found⟩ := Option.ne_none_iff_exists'.mp some_
      have first := firstRow_built t on built
      rw [found] at first ⊢
      rw [rows]
      exact first.append more
  · intro earlier later built split none_
    subst split
    refine FirstRow.unique ?_ (firstRow_firstNamed _ space name)
    cases on : isOn (earlier ++ later) with
    | false => exact firstRow_scan t on space name
    | true =>
      obtain ⟨more, rows, same⟩ := exists_rows_after t earlier later
      rw [same none_, List.append_nil] at rows
      rw [rows]
      exact firstRow_built t on built
  · intro rows listed
    rw [types_after, listed]
    rfl

/-- A module over a table without types, and nothing else. -/
def emptyWorld : World where
  metadata := ⟨[{ content := .tables { types := .listed [] } }]⟩
  modules := ⟨[{ body := .parsed ⟨0⟩ {} }]⟩

/-- A row is added after the index has been built. -/
def lateRow : TypeRow :=
  ⟨.plain (.text "N"), .plain (.text "T")⟩

/-- The index misses a row that was added after it was built, and finds it after being dropped. -/
theorem findType_after_history_late :
    Stands ⟨0⟩ ⟨0⟩ {} { types := .listed [] } emptyWorld ∧
      (∃ v, (findType ⟨0⟩ "N" "T").Runs
        (after ⟨0⟩ emptyWorld [.switch true, .find "N" "T", .append lateRow]) (.ok none) v) ∧
      ∃ v, (findType ⟨0⟩ "N" "T").Runs
        (after ⟨0⟩ emptyWorld [.switch true, .find "N" "T", .append lateRow, .close])
        (.ok (some ⟨"N", "T", 0x02000001⟩)) v := by
  have new : Stands ⟨0⟩ ⟨0⟩ {} { types := .listed [] } emptyWorld :=
    ⟨Nat.one_pos, Nat.one_pos, rfl, rfl⟩
  have named : lateRow.Named "N" "T" := ⟨rfl, rfl⟩
  refine ⟨new, ?_, ?_⟩
  · obtain ⟨found, v, run, -, on, -⟩ := findType_after_history new
      [.switch true, .find "N" "T", .append lateRow] "N" "T"
    have unbuilt : Unbuilt ([] ++ [.switch true]) := .idle .start (.inl rfl)
    have built : BuiltAfter ([.switch true] ++ [.find "N" "T"] ++ [.append lateRow] ++
        [.find "N" "T"]) [.switch true] := .later (.later (.first unbuilt rfl) rfl) rfl
    have first : FirstRow [] "N" "T" found := (on rfl).2 _ built
    cases first with
    | missing => exact ⟨v, run⟩
    | found split => simp at split
  · obtain ⟨found, v, run, -, on, -⟩ := findType_after_history new
      [.switch true, .find "N" "T", .append lateRow, .close] "N" "T"
    have unbuilt : Unbuilt ([.switch true, .find "N" "T", .append lateRow] ++ [.close]) :=
      .dropped rfl
    have built : BuiltAfter ([.switch true, .find "N" "T", .append lateRow, .close] ++
        [.find "N" "T"]) [.switch true, .find "N" "T", .append lateRow, .close] :=
      .first unbuilt rfl
    have first : FirstRow ([] ++ [lateRow]) "N" "T" found := (on rfl).2 _ built
    cases first with
    | missing none_ => exact absurd named (none_ lateRow List.mem_cons_self)
    | @found before row after split =>
      cases before with
      | nil =>
        cases split
        exact ⟨v, run⟩
      | cons x before => simp at split

end PEInspect.Modules
