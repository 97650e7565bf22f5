import Mathlib.Data.List.Nodup
import Mathlib.Tactic.Lemma
import PEInspect.Annotations

/-!
# The index of annotations

The slots of annotations and the index of kinds by key say the same thing twice. `InStep` states that
they agree: the index has an entry for exactly the keys with a slot, and lists under each of them the
kinds of its slots, none of them twice. Making a slot and both forms of removal keep this
(`InStep.put`, `InStep.removeKey`, `InStep.removeSlot`), so that removal finds every slot that the
index leads it to, and each of them does to the slots what it would do without an index.
-/

namespace PEInspect

open Document

namespace Document.Entries

variable {κ ν : Type} [BEq κ] [LawfulBEq κ] {entries : Entries κ ν} {key : κ}

/-- A key has no value if it is no key of an entry. -/
lemma lookup_eq_none : entries.lookup key = none ↔ key ∉ entries.map (·.1) := by
  induction entries with
  | nil => simp
  | cons e rest ih =>
    obtain ⟨k, v⟩ := e
    by_cases same : key = k
    · subst same
      simp
    · simp [List.lookup_cons, beq_eq_false_iff_ne.mpr same, same, ih]

/-- A key has a value if it is the key of an entry. -/
lemma isSome_lookup : (entries.lookup key).isSome = true ↔ key ∈ entries.map (·.1) := by
  rw [Option.isSome_iff_ne_none, ne_eq, lookup_eq_none, Classical.not_not]

/-- A value under a new key comes last. -/
lemma insert_of_lookup_none {value : ν} (new : entries.lookup key = none) :
    entries.insert key value = entries ++ [(key, value)] := by
  induction entries with
  | nil => rfl
  | cons e rest ih =>
    obtain ⟨k, v⟩ := e
    by_cases same : key = k
    · subst same
      simp at new
    · have rest_ : rest.lookup key = none := by
        simpa [List.lookup_cons, beq_eq_false_iff_ne.mpr same] using new
      have other : (k == key) = false := beq_eq_false_iff_ne.mpr (Ne.symm same)
      simp [insert, other, ih rest_]

/-- Writing a value keeps the keys, to which a new one may come. -/
lemma keys_insert (entries : Entries κ ν) (key : κ) (value : ν) :
    (entries.insert key value).map (·.1) =
      if key ∈ entries.map (·.1) then entries.map (·.1) else entries.map (·.1) ++ [key] := by
  induction entries with
  | nil => rfl
  | cons e rest ih =>
    obtain ⟨k, v⟩ := e
    by_cases same : k = key
    · subst same
      simp [insert]
    · have other : (k == key) = false := beq_eq_false_iff_ne.mpr same
      have swap : ¬ key = k := fun e => same e.symm
      by_cases there : key ∈ rest.map (·.1)
      · rw [if_pos there] at ih
        simp [insert, other, ih, there]
      · rw [if_neg there] at ih
        simp only [insert, other, Bool.false_eq_true, if_false, List.map_cons, ih]
        rw [if_neg]
        · rfl
        · simp only [List.mem_cons, not_or]
          exact ⟨swap, there⟩

omit [LawfulBEq κ] in
/-- Erasing a key takes it out of the keys. -/
lemma keys_erase (entries : Entries κ ν) (key : κ) :
    (entries.erase key).map (·.1) = (entries.map (·.1)).filter fun k => !(k == key) := by
  rw [erase, List.filter_map]
  rfl

/-- Inserting a key does not make keys occur twice. -/
lemma nodup_keys_insert {value : ν} (nodup : (entries.map (·.1)).Nodup) :
    ((entries.insert key value).map (·.1)).Nodup := by
  rw [keys_insert]
  split
  · exact nodup
  · rename_i new
    rw [← List.concat_eq_append]
    exact List.Nodup.concat new nodup

omit [LawfulBEq κ] in
/-- Erasing a key does not make keys occur twice. -/
lemma nodup_keys_erase (nodup : (entries.map (·.1)).Nodup) :
    ((entries.erase key).map (·.1)).Nodup := by
  rw [keys_erase]
  exact nodup.filter _

end Document.Entries

namespace Annotations

variable {κ τ ν : Type} [BEq κ] [LawfulBEq κ] [BEq τ] [LawfulBEq τ]

/-- The index of annotations is in step with their slots. -/
structure InStep (a : Annotations κ τ ν) : Prop where
  /-- No address has two slots. -/
  slots : a.toList.Nodup
  /-- No key has two entries in the index. -/
  keys : (a.kinds.map (·.1)).Nodup
  /-- No entry is left without a kind. -/
  nonempty : ∀ {key present}, a.kinds.lookup key = some present → present ≠ []
  /-- No entry lists a kind twice. -/
  distinct : ∀ {key present}, a.kinds.lookup key = some present → present.Nodup
  /-- The kinds that the index lists under a key are those of its slots. -/
  listed : ∀ key kind, kind ∈ (a.kinds.lookup key).getD [] ↔ (key, kind) ∈ a.toList

omit [LawfulBEq κ] [BEq τ] [LawfulBEq τ] in
/-- Without annotations, the index is in step. -/
lemma inStep_empty : InStep ({} : Annotations κ τ ν) where
  slots := List.nodup_nil
  keys := List.nodup_nil
  nonempty := nofun
  distinct := nofun
  listed key kind := by simp [toList]

section InStep

variable {a : Annotations κ τ ν} {key : κ} {kind : τ}

/-- A slot is empty if it is not listed. -/
lemma find?_eq_none : a.find? key kind = none ↔ (key, kind) ∉ a.toList :=
  Entries.lookup_eq_none

omit [LawfulBEq κ] [BEq τ] [LawfulBEq τ] in
/-- The index knows exactly the keys that have a slot. -/
lemma InStep.hasKey_iff (step : InStep a) :
    a.hasKey key = true ↔ ∃ kind, (key, kind) ∈ a.toList := by
  rw [hasKey, Entries.has]
  cases entry : a.kinds.lookup key with
  | none =>
    refine ⟨nofun, fun ⟨kind, mem⟩ => ?_⟩
    have kinds := (step.listed key kind).mpr mem
    rw [entry] at kinds
    cases kinds
  | some present =>
    obtain ⟨kind, mem⟩ := List.exists_mem_of_ne_nil present (step.nonempty entry)
    refine ⟨fun _ => ⟨kind, (step.listed key kind).mp ?_⟩, fun _ => rfl⟩
    rw [entry]
    exact mem

omit [BEq τ] [LawfulBEq τ] in
/-- The index stays in step as long as the kinds under one key become those of its slots, and nothing
happens to the slots of other keys. -/
lemma InStep.replaceKinds {b : Annotations κ τ ν} {left : List τ} (step : InStep a)
    (slots : b.toList.Nodup) (keys : (b.kinds.map (·.1)).Nodup) (distinct : left.Nodup)
    (found : ∀ k, b.kinds.lookup k =
      if k == key then (if left.isEmpty then none else some left) else a.kinds.lookup k)
    (here : ∀ kind, kind ∈ left ↔ (key, kind) ∈ b.toList)
    (elsewhere : ∀ k kind, k ≠ key → ((k, kind) ∈ b.toList ↔ (k, kind) ∈ a.toList)) :
    InStep b := by
  refine ⟨slots, keys, fun {k present} e => ?_, fun {k present} e => ?_, fun k kind => ?_⟩
  · rw [found] at e
    split at e
    · split at e
      · cases e
      · rename_i _ some_
        cases e
        exact fun none_ => some_ (List.isEmpty_iff.mpr none_)
    · exact step.nonempty e
  · rw [found] at e
    split at e
    · split at e
      · cases e
      · cases e
        exact distinct
    · exact step.distinct e
  · rw [found]
    by_cases same : k = key
    · subst same
      -- An empty list of kinds has no entry, which lists no kinds either.
      have stays : kind ∈ (if left.isEmpty then none else some left).getD [] ↔ kind ∈ left := by
        cases left <;> simp
      rw [if_pos (by simp), stays, here]
    · rw [if_neg (by simpa using same), step.listed, elsewhere k kind same]

/-! ## Making slots -/

/-- The kind of an empty slot is not in the index. -/
lemma InStep.unlisted (step : InStep a) (new : a.find? key kind = none) :
    kind ∉ (a.kinds.lookup key).getD [] :=
  fun mem => find?_eq_none.mp new ((step.listed key kind).mp mem)

/-- A new slot is put behind the others. -/
lemma slots_put {value : ν} (new : a.find? key kind = none) :
    (a.put key kind value).slots = a.slots ++ [((key, kind), value)] :=
  Entries.insert_of_lookup_none new

/-- The kind of a new slot is put behind the other kinds of its key. -/
lemma kinds_put {value : ν} (step : InStep a) (new : a.find? key kind = none) :
    (a.put key kind value).kinds =
      Entries.insert a.kinds key ((a.kinds.lookup key).getD [] ++ [kind]) := by
  simp [put, step.unlisted new]

/-- Filling an empty slot keeps the index in step. -/
lemma InStep.put {value : ν} (step : InStep a) (new : a.find? key kind = none) :
    InStep (a.put key kind value) := by
  have list : (a.put key kind value).toList = a.toList ++ [(key, kind)] := by
    rw [toList, slots_put new, List.map_append]
    rfl
  have nodup : ((a.kinds.lookup key).getD []).Nodup := by
    cases e : a.kinds.lookup key with
    | none => exact List.nodup_nil
    | some present => exact step.distinct e
  have slots : (a.put key kind value).toList.Nodup := by
    rw [list, ← List.concat_eq_append]
    exact List.Nodup.concat (find?_eq_none.mp new) step.slots
  have keys : ((a.put key kind value).kinds.map (·.1)).Nodup := by
    rw [kinds_put step new]
    exact Entries.nodup_keys_insert step.keys
  have distinct : ((a.kinds.lookup key).getD [] ++ [kind]).Nodup := by
    rw [← List.concat_eq_append]
    exact List.Nodup.concat (step.unlisted new) nodup
  have found (k : κ) : (a.put key kind value).kinds.lookup k =
      if k == key then
        (if ((a.kinds.lookup key).getD [] ++ [kind]).isEmpty then none
          else some ((a.kinds.lookup key).getD [] ++ [kind]))
      else a.kinds.lookup k := by
    rw [kinds_put step new, Entries.lookup_insert]
    simp
  refine step.replaceKinds slots keys distinct found (fun other => ?_) fun k other apart => ?_
  · rw [list, List.mem_append, List.mem_append, step.listed]
    simp
  · rw [list]
    simp [apart]

/-! ## Removing slots -/

omit [LawfulBEq κ] [LawfulBEq τ] in
/-- Addresses are the same if key and kind are. -/
lemma beq_address (k : κ) (t : τ) : ((k, t) == (key, kind)) = (k == key && t == kind) := rfl

/-- Removing slots of a key one by one, all of which exist, removes exactly these. -/
lemma foldlM_dropSlot? {slots : Entries (κ × τ) ν} {removed : List τ} (nodup : removed.Nodup)
    (there : ∀ kind ∈ removed, (key, kind) ∈ slots.map (·.1)) :
    removed.foldlM (fun slots kind => dropSlot? slots key kind) slots =
      some (slots.filter fun e => !(e.1.1 == key && removed.contains e.1.2)) := by
  induction removed generalizing slots with
  | nil => exact congrArg some (List.filter_eq_self.mpr fun _ _ => by simp).symm
  | cons kind rest ih =>
    obtain ⟨notin, nodup⟩ := List.nodup_cons.mp nodup
    have has : Entries.has slots (key, kind) = true :=
      Entries.isSome_lookup.mpr (there kind List.mem_cons_self)
    -- The other slots stay, as no kind comes twice.
    have there' : ∀ k ∈ rest, (key, k) ∈ (Entries.erase slots (key, kind)).map (·.1) := by
      intro k mem
      rw [Entries.keys_erase, List.mem_filter]
      refine ⟨there k (List.mem_cons_of_mem _ mem), ?_⟩
      have other : (key, k) ≠ (key, kind) := by
        intro e
        cases e
        exact notin mem
      simpa using other
    rw [List.foldlM_cons, dropSlot?, if_pos has]
    refine (ih nodup there').trans ?_
    rw [Entries.erase, List.filter_filter]
    congr 1
    apply List.filter_congr
    intro e _
    obtain ⟨⟨k, t⟩, v⟩ := e
    rw [beq_address]
    by_cases sameKey : k = key
    · by_cases sameKind : t = kind <;> simp [sameKey, sameKind]
    · simp [beq_eq_false_iff_ne.mpr sameKey]

/-- Of the kinds of a key, some are removed and the others are left. -/
structure Parts (present removed left : List τ) : Prop where
  mem : ∀ kind, kind ∈ present ↔ kind ∈ removed ∨ kind ∈ left
  apart : ∀ kind ∈ removed, kind ∉ left
  removed : removed.Nodup
  left : left.Nodup

/-- Removing some kinds of a key removes exactly their slots and keeps the index in step. -/
lemma InStep.removeKinds {present removed left : List τ} (step : InStep a)
    (entry : a.kinds.lookup key = some present) (parts : Parts present removed left) :
    ∃ b, a.removeKinds? key removed left = some b ∧
      b.slots = a.slots.filter (fun e => !(e.1.1 == key && removed.contains e.1.2)) ∧
      InStep b := by
  have listed (kind : τ) : kind ∈ removed ∨ kind ∈ left ↔ (key, kind) ∈ a.toList := by
    rw [← parts.mem, ← step.listed, entry]
    rfl
  have there : ∀ kind ∈ removed, (key, kind) ∈ a.slots.map (·.1) :=
    fun kind mem => (listed kind).mp (.inl mem)
  let index := if left.isEmpty then Entries.erase a.kinds key else Entries.insert a.kinds key left
  let b : Annotations κ τ ν :=
    ⟨a.slots.filter fun e => !(e.1.1 == key && removed.contains e.1.2), index⟩
  have run : a.removeKinds? key removed left = some b := by
    rw [removeKinds?, foldlM_dropSlot? parts.removed there]
    rfl
  have list : b.toList = a.toList.filter fun e => !(e.1 == key && removed.contains e.2) := by
    rw [toList, toList, List.filter_map]
    rfl
  have found (k : κ) : index.lookup k =
      if k == key then (if left.isEmpty then none else some left) else a.kinds.lookup k := by
    by_cases none_ : left.isEmpty = true
    · simp only [index, if_pos none_, Entries.lookup_erase]
    · simp only [index, if_neg none_, Entries.lookup_insert]
  have keys : (index.map (·.1)).Nodup := by
    by_cases none_ : left.isEmpty = true
    · simp only [index, if_pos none_]
      exact Entries.nodup_keys_erase step.keys
    · simp only [index, if_neg none_]
      exact Entries.nodup_keys_insert step.keys
  have slots : b.toList.Nodup := by
    rw [list]
    exact step.slots.filter _
  refine ⟨b, run, rfl, step.replaceKinds slots keys parts.left found (fun kind => ?_) ?_⟩
  · rw [list, List.mem_filter, ← listed]
    constructor
    · intro mem
      have kept : kind ∉ removed := fun out => parts.apart kind out mem
      simp [mem, kept]
    · rintro ⟨out | mem, kept⟩
      · simp [out] at kept
      · exact mem
  · intro k kind other
    simp [list, other]

/-- Removing a key removes exactly its slots and keeps the index in step. -/
lemma InStep.removeKey (step : InStep a) (key : κ) :
    ∃ b, a.remove? key none = some b ∧ b.slots = a.slots.filter (fun e => !(e.1.1 == key)) ∧
      InStep b := by
  cases entry : a.kinds.lookup key with
  | none =>
    -- A key without an entry has no slots, and removing it does nothing.
    refine ⟨a, by simp only [remove?, entry], ?_, step⟩
    refine (List.filter_eq_self.mpr fun e mem => ?_).symm
    have free : ∀ kind, (key, kind) ∉ a.toList := by
      intro kind mem
      have kinds := (step.listed key kind).mpr mem
      rw [entry] at kinds
      cases kinds
    have other : e.1.1 ≠ key := by
      rintro rfl
      exact free e.1.2 (List.mem_map.mpr ⟨e, mem, rfl⟩)
    simpa using other
  | some present =>
    have parts : Parts present present [] :=
      ⟨by simp, by simp, step.distinct entry, List.nodup_nil⟩
    obtain ⟨b, run, slots, step'⟩ := step.removeKinds entry parts
    refine ⟨b, by simp only [remove?, entry, run], ?_, step'⟩
    rw [slots]
    apply List.filter_congr
    intro e mem
    by_cases same : e.1.1 = key
    · have kinds : e.1.2 ∈ present := by
        have listed := (step.listed key e.1.2).mpr
          (List.mem_map.mpr ⟨e, mem, Prod.ext same rfl⟩)
        rw [entry] at listed
        exact listed
      simp [same, kinds]
    · simp [same]

/-- Removing a slot removes exactly that slot and keeps the index in step. -/
lemma InStep.removeSlot (step : InStep a) (key : κ) (kind : τ) :
    ∃ b, a.remove? key (some kind) = some b ∧
      b.slots = a.slots.filter (fun e => !(e.1 == (key, kind))) ∧ InStep b := by
  have unlisted (out : kind ∉ (a.kinds.lookup key).getD []) :
      a.slots = a.slots.filter (fun e => !(e.1 == (key, kind))) := by
    refine (List.filter_eq_self.mpr fun e mem => ?_).symm
    have other : e.1 ≠ (key, kind) := by
      intro same
      exact out ((step.listed key kind).mpr (List.mem_map.mpr ⟨e, mem, same⟩))
    simpa using other
  cases entry : a.kinds.lookup key with
  | none =>
    rw [entry] at unlisted
    exact ⟨a, by simp only [remove?, entry], unlisted nofun, step⟩
  | some present =>
    rw [entry] at unlisted
    by_cases there : kind ∈ present
    · have parts : Parts present [kind] (present.filter fun k => !(k == kind)) := by
        refine ⟨?_, by simp, List.nodup_singleton _, (step.distinct entry).filter _⟩
        intro k
        by_cases same : k = kind
        · simp [same, there]
        · simp [same]
      obtain ⟨b, run, slots, step'⟩ := step.removeKinds entry parts
      refine ⟨b, ?_, ?_, step'⟩
      · simp only [remove?, entry, List.contains_iff_mem.mpr there, if_true, run]
      · rw [slots]
        apply List.filter_congr
        intro e _
        obtain ⟨⟨k, t⟩, v⟩ := e
        rw [beq_address]
        simp
    · refine ⟨a, ?_, unlisted there, step⟩
      simp [remove?, entry, there]

end InStep

end Annotations

end PEInspect
