import PEInspect.Proofs.Session.Annotations

/-!
# Annotations as an ordered map

A holder of annotations answers as a map from addresses to values does that keeps its slots in the
order in which they were made. The map knows no index: a key is there as long as one of its slots is,
and removing a key takes out the slots that have it. `Request.meet` says what the map answers and
what becomes of it, `meetAll` does so for requests one after the other, and
`Session.annotations_refine_map` states that steps on a holder are answered in the same way, whatever
the factories among them do to other objects, and that the index is in step after each of them.
-/

namespace PEInspect

open Document

/-- The slots of a holder, in the order in which they were made. -/
abbrev Slots := Entries (String × AnnotationKind) AnnotationValue

namespace Slots

/-- The slots without one of a key, or without all of them. -/
def without (slots : Slots) (key : String) (kind : Option AnnotationKind) : Slots :=
  slots.filter fun e => !(e.1.1 == key && kind.all (e.1.2 == ·))

/-- Whether some slot has a key. -/
def hasKey (slots : Slots) (key : String) : Bool :=
  slots.any (·.1.1 == key)

/-- Fills an empty slot behind the others with what a recipe makes, if it makes something. -/
def fill (slots : Slots) (key : String) (kind : AnnotationKind) (recipe : Stores.Recipe)
    (inner : Option (List Answer)) (s : Session) : Answer × Slots :=
  match Stores.made s.world kind recipe with
  | .ok value =>
    (.annotated (.ok (.value value)) (Session.callsFactory recipe) inner,
      slots ++ [((key, kind), value)])
  | .error f =>
    (.annotated (.error (.failure f)) (Session.callsFactory recipe) inner, slots)

end Slots

/-- A factory of first values: it runs steps, and then makes a value or fails. -/
structure Factory where
  recipe : Stores.Recipe := .standard
  body : List Step := []
  reported : Bool := false

/-- What can be asked of a holder of annotations. -/
inductive Request where
  | getOrCreate (key : String) (kind : AnnotationKind) (factory : Factory)
  | get (key : String) (kind : AnnotationKind) (default : Value)
  | remove (key : String) (kind : Option AnnotationKind)
  | survey (keys : List String)

namespace Request

/-- A request as a step on the holder with a name. -/
def step (on : String) : Request → Step
  | getOrCreate key kind factory =>
    .annotate on key kind factory.recipe factory.body factory.reported
  | get key kind default => .command (.getValue on key kind default)
  | remove key kind => .command (.removeSlots on key kind)
  | survey keys => .command (.slots on keys)

/-- What a map of slots answers in a session, and the map after it. A factory is called for an empty
slot only. -/
def meet (s : Session) (slots : Slots) : Request → Answer × Slots
  | getOrCreate key kind factory =>
    match slots.lookup (key, kind) with
    | some value => (.annotated (.ok (.value value)) false none, slots)
    | none =>
      let (inner, after) := Session.runSteps s factory.body
      slots.fill key kind factory.recipe (if factory.reported then some inner else none) after
  | get key kind default =>
    (.plain (.ok (.value ((slots.lookup (key, kind)).getD (.plain default)))) {}, slots)
  | remove key kind => (.plain (.ok .nothing) {}, slots.without key (kind.filter (· ≠ .null)))
  | survey keys => (.plain (.ok (.slots (slots.map (·.1)) (keys.map slots.hasKey))) {}, slots)

end Request

namespace Session

variable {s : Session} {on : String} {h : Holder} {slots : Slots}

/-- The answers of a map of slots to requests, and the map after them, beside a session that carries
the requests out. -/
def meetAll (on : String) (s : Session) (slots : Slots) : List Request → List Answer × Slots
  | [] => ([], slots)
  | q :: rest =>
    let (answer, left) := q.meet s slots
    let (answers, last) := meetAll on (runStep s (q.step on)).2 left rest
    (answer :: answers, last)

/-- The steps of a factory leave a holder alone. -/
structure LeavesAlone (on : String) (h : Holder) (s t : Session) : Prop where
  serves : Serves t on h
  same : t.world.annotationsOf h = s.world.annotationsOf h

/-- The factory of a request, if it has one, leaves a holder alone. -/
def QuietOne (on : String) (h : Holder) (s : Session) : Request → Prop
  | .getOrCreate _ _ factory => LeavesAlone on h s (runSteps s factory.body).2
  | _ => True

/-- The factories of requests leave a holder alone, each in the session that calls for it. -/
def Quiet (on : String) (h : Holder) (s : Session) : List Request → Prop
  | [] => True
  | q :: rest => QuietOne on h s q ∧ Quiet on h (runStep s (q.step on)).2 rest

/-- The annotations of a holder hold the slots of a map, and their index is in step. -/
structure Mirrors (s : Session) (on : String) (h : Holder) (slots : Slots) : Prop where
  serves : Serves s on h
  slots : (s.world.annotationsOf h).slots = slots
  inStep : (s.world.annotationsOf h).InStep

/-! ## One request -/

/-- A slot of a holder shows what the mirrored slot does. -/
lemma Mirrors.find? (mirrors : Mirrors s on h slots) (key : String) (kind : AnnotationKind) :
    (s.world.annotationsOf h).find? key kind = slots.lookup (key, kind) := by
  rw [Annotations.find?, mirrors.slots]

/-- A holder has the keys of the mirrored slots. -/
lemma Mirrors.hasKey (mirrors : Mirrors s on h slots) (key : String) :
    (s.world.annotationsOf h).hasKey key = slots.hasKey key := by
  rw [Bool.eq_iff_iff, mirrors.inStep.hasKey_iff, Annotations.toList, mirrors.slots, Slots.hasKey,
    List.any_eq_true]
  constructor
  · rintro ⟨kind, mem⟩
    obtain ⟨e, mem, address⟩ := List.mem_map.mp mem
    exact ⟨e, mem, by simp [address]⟩
  · rintro ⟨e, mem, same⟩
    obtain rfl := eq_of_beq same
    exact ⟨e.1.2, List.mem_map.mpr ⟨e, mem, rfl⟩⟩

/-- A holder mirrors the slots of the annotations that it is given. -/
lemma Mirrors.annotated (mirrors : Mirrors s on h slots) {a : AnnotationStore}
    (inStep : a.InStep) : Mirrors (s.annotated h a) on h a.slots := by
  have got := mirrors.serves.annotationsOf a
  refine ⟨mirrors.serves.annotated a, ?_, ?_⟩ <;> rw [got]
  exact inStep

/-- Removal finds all slots that the index leads it to. -/
lemma Mirrors.exists_remove (mirrors : Mirrors s on h slots) (key : String)
    (kind : Option AnnotationKind) :
    ∃ a, (s.world.annotationsOf h).remove? key kind = some a ∧ a.slots = slots.without key kind ∧
      a.InStep := by
  cases kind with
  | none =>
    obtain ⟨a, run, left, inStep⟩ := mirrors.inStep.removeKey key
    refine ⟨a, run, ?_, inStep⟩
    rw [left, mirrors.slots, Slots.without]
    simp
  | some kind =>
    obtain ⟨a, run, left, inStep⟩ := mirrors.inStep.removeSlot key kind
    refine ⟨a, run, ?_, inStep⟩
    rw [left, mirrors.slots, Slots.without]
    rfl

/-- Numbers that are given away do not matter to a mirror. -/
lemma mirrors_numbered {n : Nat} (mirrors : Mirrors s on h slots) :
    Mirrors { s with world := { s.world with gadgets := n } } on h slots := by
  obtain ⟨⟨named, stands⟩, same, inStep⟩ := mirrors
  cases h <;> exact ⟨⟨named, stands⟩, same, inStep⟩

/-- A turn that leaves a holder alone leaves its mirror in place. -/
lemma Mirrors.leftAlone {t : Session} (mirrors : Mirrors s on h slots)
    (quiet : LeavesAlone on h s t) : Mirrors t on h slots := by
  refine ⟨quiet.serves, ?_, ?_⟩ <;> rw [quiet.same]
  · exact mirrors.slots
  · exact mirrors.inStep

/-- A new slot goes behind the others in the holder and in its mirror. -/
lemma Mirrors.put {key : String} {kind : AnnotationKind} (mirrors : Mirrors s on h slots)
    (empty : slots.lookup (key, kind) = none) (value : AnnotationValue) :
    Mirrors (s.annotated h ((s.world.annotationsOf h).put key kind value)) on h
      (slots ++ [((key, kind), value)]) := by
  have new : (s.world.annotationsOf h).find? key kind = none :=
    (mirrors.find? key kind).trans empty
  have last : ((s.world.annotationsOf h).put key kind value).slots =
      slots ++ [((key, kind), value)] := by
    rw [Annotations.slots_put new, mirrors.slots]
  rw [← last]
  exact mirrors.annotated (mirrors.inStep.put new)

/-- An empty slot is filled as in the map. -/
lemma Mirrors.fill {key : String} {kind : AnnotationKind} (mirrors : Mirrors s on h slots)
    (empty : slots.lookup (key, kind) = none) (recipe : Stores.Recipe)
    (inner : Option (List Answer)) :
    (Session.fill h key kind recipe inner s).1 = (slots.fill key kind recipe inner s).1 ∧
      Mirrors (Session.fill h key kind recipe inner s).2 on h
        (slots.fill key kind recipe inner s).2 := by
  cases result : Stores.made s.world kind recipe with
  | error f =>
    obtain ⟨n, run⟩ := exists_fill_error h key inner result
    rw [run, Slots.fill, result]
    exact ⟨rfl, mirrors_numbered mirrors⟩
  | ok value =>
    obtain ⟨n, run⟩ := exists_fill h key inner result
    rw [run, Slots.fill, result]
    have same : ({ s.world with gadgets := n } : World).annotationsOf h
        = s.world.annotationsOf h := by
      cases h <;> rfl
    have made := (mirrors_numbered (n := n) mirrors).put empty value
    rw [same] at made
    exact ⟨rfl, made⟩

/-- One request is answered as the map answers it, and leaves what the map becomes. -/
lemma Mirrors.step (mirrors : Mirrors s on h slots) (q : Request) (quiet : QuietOne on h s q) :
    (runStep s (q.step on)).1 = (q.meet s slots).1 ∧
      Mirrors (runStep s (q.step on)).2 on h (q.meet s slots).2 := by
  cases q with
  | getOrCreate key kind factory =>
    have found := mirrors.find? key kind
    cases slot : slots.lookup (key, kind) with
    | some value =>
      rw [slot] at found
      rw [Request.step, runStep_annotate_filled mirrors.serves found, Request.meet, slot]
      exact ⟨rfl, mirrors⟩
    | none =>
      rw [slot] at found
      rw [Request.step, runStep_annotate_empty mirrors.serves found, Request.meet, slot]
      -- The slot is filled in the session that the steps of the factory have left.
      exact (mirrors.leftAlone quiet).fill slot _ _
  | get key kind default =>
    rw [Request.step, runStep_getValue mirrors.serves, mirrors.find?]
    exact ⟨rfl, mirrors⟩
  | remove key kind =>
    obtain ⟨a, run, left, inStep⟩ := mirrors.exists_remove key (kind.filter (· ≠ .null))
    rw [Request.step, runStep_removeSlots mirrors.serves key run, Request.meet, ← left]
    exact ⟨rfl, mirrors.annotated inStep⟩
  | survey keys =>
    have present : keys.map (s.world.annotationsOf h).hasKey = keys.map slots.hasKey :=
      List.map_congr_left fun key _ => mirrors.hasKey key
    rw [Request.step, runStep_slots mirrors.serves, present, Annotations.toList, mirrors.slots]
    exact ⟨rfl, mirrors⟩

/-! ## Requests one after the other -/

/-- Requests are met in the session as they are on the slots, and the holder mirrors them
afterwards. -/
lemma Mirrors.run (mirrors : Mirrors s on h slots) {requests : List Request}
    (quiet : Quiet on h s requests) :
    (runSteps s (requests.map (Request.step on))).1 = (meetAll on s slots requests).1 ∧
      Mirrors (runSteps s (requests.map (Request.step on))).2 on h
        (meetAll on s slots requests).2 := by
  induction requests generalizing s slots with
  | nil =>
    rw [List.map_nil, runSteps]
    exact ⟨rfl, mirrors⟩
  | cons q rest ih =>
    obtain ⟨here, there⟩ := quiet
    obtain ⟨answer, after⟩ := mirrors.step q here
    obtain ⟨answers, last⟩ := ih after there
    rw [List.map_cons, runSteps, meetAll]
    exact ⟨congr (congrArg _ answer) answers, last⟩

/-- Steps on the annotations of a holder that starts empty are answered as the map of slots answers
them. After them the holder has the slots of the map and an index in step with these; a filled slot
gives its value without any change, and a factory that fails leaves the annotations exactly as they
were. -/
theorem annotations_refine_map (serves : Serves s on h) (fresh : s.world.annotationsOf h = {})
    (requests : List Request) (quiet : Quiet on h s requests) :
    let after := (runSteps s (requests.map (Request.step on))).2
    let reference := meetAll on s [] requests
    (runSteps s (requests.map (Request.step on))).1 = reference.1 ∧
      (after.world.annotationsOf h).slots = reference.2 ∧
      (after.world.annotationsOf h).size = reference.2.length ∧
      (after.world.annotationsOf h).InStep ∧
      ∀ key kind factory,
        (reference.2.lookup (key, kind) ≠ none →
          (runStep after ((Request.getOrCreate key kind factory).step on)).2 = after) ∧
        (LeavesAlone on h after (runSteps after factory.body).2 →
          (∃ f, Stores.made (runSteps after factory.body).2.world kind factory.recipe = .error f) →
          (runStep after ((Request.getOrCreate key kind factory).step on)).2.world.annotationsOf h =
            after.world.annotationsOf h) := by
  intro after reference
  have start : Mirrors s on h [] := by
    refine ⟨serves, ?_, ?_⟩ <;> rw [fresh]
    exact Annotations.inStep_empty
  obtain ⟨answers, mirrors⟩ := start.run quiet
  refine ⟨answers, mirrors.slots, congrArg List.length mirrors.slots, mirrors.inStep, ?_⟩
  intro key kind factory
  have found := mirrors.find? key kind
  refine ⟨fun filled => ?_, fun quiet fails => ?_⟩
  · obtain ⟨value, slot⟩ := Option.ne_none_iff_exists'.mp filled
    rw [slot] at found
    rw [Request.step, runStep_annotate_filled mirrors.serves found]
  · rw [Request.step]
    cases slot : reference.2.lookup (key, kind) with
    | some value =>
      rw [slot] at found
      rw [runStep_annotate_filled mirrors.serves found]
    | none =>
      rw [slot] at found
      obtain ⟨f, fails⟩ := fails
      obtain ⟨n, run⟩ := exists_fill_error h key
        (if factory.reported then some (runSteps after factory.body).1 else none) fails
      rw [runStep_annotate_empty mirrors.serves found, run]
      -- Numbers may have been used up, and nothing else has happened.
      refine Eq.trans ?_ quiet.same
      cases h <;> rfl

/-- A session with one empty store. -/
def shelf : Session where
  world := { stores := Arena.add {} {} }
  names := Names.register {} "notes" (.store ⟨0⟩)

/-- A slot is given nothing as its value and is asked for again, a factory fails, another key comes,
the first key is removed and comes back. -/
def rearrangement : List Request :=
  [.getOrCreate "a" .list ⟨.given (.plain .null), [.command (.addStore "other")], false⟩,
    .getOrCreate "a" .list {},
    .getOrCreate "a" .text ⟨.failing "full", [], true⟩,
    .getOrCreate "b" .int {},
    .remove "a" none,
    .getOrCreate "a" .list {},
    .survey ["a", "b", "c"]]

/-- A slot that holds nothing is not made twice, and a key that comes back comes last. -/
theorem annotations_refine_map_rearrangement :
    Serves shelf "notes" (.store ⟨0⟩) ∧ shelf.world.annotationsOf (.store ⟨0⟩) = {} ∧
      Quiet "notes" (.store ⟨0⟩) shelf rearrangement ∧
      (runSteps shelf (rearrangement.map (Request.step "notes"))).1 =
        [.annotated (.ok (.value (.plain .null))) true none,
          .annotated (.ok (.value (.plain .null))) false none,
          .annotated (.error (.failure (.raised "full"))) true (some []),
          .annotated (.ok (.value (.plain (.int 0)))) false none,
          .plain (.ok .nothing) {},
          .annotated (.ok (.value (.plain (.list [])))) false none,
          .plain (.ok (.slots [("b", .int), ("a", .list)] [true, true, false])) {}] := by
  have serves : Serves shelf "notes" (.store ⟨0⟩) := ⟨⟨_, rfl, rfl⟩, Nat.one_pos⟩
  have quiet : Quiet "notes" (.store ⟨0⟩) shelf rearrangement := by
    have alone {s t : Session} (named : t.names.objects.lookup "notes" = some (.store ⟨0⟩))
        (first : ∃ rest, t.world.stores.cells = s.world.stores.get ⟨0⟩ :: rest) :
        LeavesAlone "notes" (.store ⟨0⟩) s t := by
      obtain ⟨rest, first⟩ := first
      refine ⟨⟨⟨_, named, rfl⟩, ?_⟩, ?_⟩
      · rw [Holder.Stands, first]
        exact Nat.succ_pos _
      · rw [World.annotationsOf, Arena.get, first]
        rfl
    exact ⟨alone rfl ⟨_, rfl⟩, alone rfl ⟨_, rfl⟩, alone rfl ⟨_, rfl⟩, alone rfl ⟨_, rfl⟩, trivial,
      alone rfl ⟨_, rfl⟩, trivial, trivial⟩
  refine ⟨serves, rfl, quiet, ?_⟩
  exact (annotations_refine_map serves rfl rearrangement quiet).1.trans rfl

end Session

end PEInspect
