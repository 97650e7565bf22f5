import PEInspect.Proofs.Annotations.Index
import PEInspect.Proofs.Session.Turns
import PEInspect.Proofs.World.Holders

/-!
# Annotation steps

What the steps that use annotations answer, and which session they leave, as long as the name that
they are told stands for a holder. Each of them changes the annotations of that holder at most; only
a step whose slot is empty runs the steps of its factory.
-/

namespace PEInspect

namespace Session

variable {s : Session} {on : String} {h : Holder}

/-- A name stands for a holder of annotations. -/
structure Serves (s : Session) (on : String) (h : Holder) : Prop where
  named : ∃ o, s.names.objects.lookup on = some o ∧ Turn.holder? o = some h
  stands : h.Stands s.world

/-- The session in which a holder has other annotations. -/
def annotated (s : Session) (h : Holder) (a : AnnotationStore) : Session :=
  { s with world := s.world.annotated h a }

/-- A name still serves a holder that has got other annotations. -/
lemma Serves.annotated (serves : Serves s on h) (a : AnnotationStore) :
    Serves (s.annotated h a) on h :=
  ⟨serves.named, Holder.stands_annotated a serves.stands⟩

/-- A holder that is there has the annotations that it has got. -/
lemma Serves.annotationsOf (serves : Serves s on h) (a : AnnotationStore) :
    (s.annotated h a).world.annotationsOf h = a :=
  Holder.annotationsOf_annotated a serves.stands

/-! ## Calls and notices -/

/-- Setting calls and notices aside leaves annotations alone. -/
lemma annotationsOf_apart (w : World) (h : Holder) :
    (apart w).annotationsOf h = w.annotationsOf h := by
  cases h <;> rfl

/-- After a recorded turn that changes annotations, calls and notices are those of before. -/
lemma restore_annotated (s : Session) (h : Holder) (a : AnnotationStore) :
    ({ s with world := { (apart s.world).annotated h a with
      trace := s.world.trace, log := s.world.log } } : Session) = s.annotated h a := by
  cases h <;> rfl

/-- Annotating a holder calls nothing. -/
lemma trace_annotated (w : World) (h : Holder) (a : AnnotationStore) :
    ((apart w).annotated h a).trace = [] := by
  cases h <;> rfl

/-- Annotating a holder writes no notice. -/
lemma log_annotated (w : World) (h : Holder) (a : AnnotationStore) :
    ((apart w).annotated h a).log = [] := by
  cases h <;> rfl

/-! ## Looking up, removing and listing -/

/-- A holder is found under a name that serves it. -/
lemma runs_holder (serves : Serves s on h) (member : String) :
    (Turn.holder on member).Runs s (.ok h) s := by
  obtain ⟨o, named, holder⟩ := serves.named
  exact Turn.runs_havingMember member named holder

/-- Reading the annotations of a holder is a turn that changes nothing. -/
lemma runs_act_read (h : Holder) (s : Session) :
    (Turn.act (Stores.read h)).Runs s (.ok (s.world.annotationsOf h)) s :=
  Turn.runs_act (Stores.runs_read h s.world)

/-- A name still serves its holder when calls and notices are set aside. -/
lemma Serves.apart (serves : Serves s on h) :
    Serves { s with world := apart s.world } on h := by
  refine ⟨serves.named, ?_⟩
  have stands := serves.stands
  cases h <;> exact stands

/-- Asking for a value shows the slot, or the default where it is empty. -/
lemma runStep_getValue (serves : Serves s on h) (key : String) (kind : AnnotationKind)
    (default : Document.Value) :
    runStep s (.command (.getValue on key kind default)) =
      (.plain (.ok (.value (((s.world.annotationsOf h).find? key kind).getD (.plain default)))) {},
        s) := by
  have turn : (Turn.getValue on key kind default).Runs { s with world := apart s.world }
      (.ok (.value (((s.world.annotationsOf h).find? key kind).getD (.plain default))))
      { s with world := apart s.world } := by
    refine .bind (runs_holder serves.apart "get") (.bind (runs_act_read h _) ?_)
    rw [annotationsOf_apart]
    exact Turn.runs_pure _ _
  exact runStep_command (c := .getValue on key kind default) turn

/-- Removal leaves what it makes of the annotations of the holder. -/
lemma runStep_removeSlots (serves : Serves s on h) (key : String) {kind : Option AnnotationKind}
    {a : AnnotationStore}
    (found : (s.world.annotationsOf h).remove? key (kind.filter (· ≠ .null)) = some a) :
    runStep s (.command (.removeSlots on key kind)) =
      (.plain (.ok .nothing) {}, s.annotated h a) := by
  have turn : (Turn.removeSlots on key kind).Runs { s with world := apart s.world }
      (.ok .nothing) { s with world := (apart s.world).annotated h a } := by
    rw [← annotationsOf_apart] at found
    have removed := Turn.runs_act (s := { s with world := apart s.world })
      (Stores.runs_remove found)
    exact .bind (runs_holder serves.apart "remove") (.bind removed (Turn.runs_pure _ _))
  rw [runStep_command (c := .removeSlots on key kind) turn]
  dsimp only
  rw [restore_annotated, trace_annotated, log_annotated]

/-- Asking for the slots shows them all, and which keys have some. -/
lemma runStep_slots (serves : Serves s on h) (keys : List String) :
    runStep s (.command (.slots on keys)) =
      (.plain (.ok (.slots (s.world.annotationsOf h).toList
        (keys.map (s.world.annotationsOf h).hasKey))) {}, s) := by
  obtain ⟨o, named, holder⟩ := serves.named
  have turn : (Turn.slots on keys).Runs { s with world := apart s.world }
      (.ok (.slots (s.world.annotationsOf h).toList
        (keys.map (s.world.annotationsOf h).hasKey)))
      { s with world := apart s.world } := by
    refine .bind (Turn.runs_object named) ?_
    rw [holder]
    refine .bind (runs_act_read h _) ?_
    rw [annotationsOf_apart]
    exact Turn.runs_pure _ _
  exact runStep_command (c := .slots on keys) turn

/-! ## Getting or making a value -/

section Annotate

variable {key : String} {kind : AnnotationKind} {recipe : Stores.Recipe} {body : List Step}
  {reported : Bool}

/-- Asking for one slot shows it, and changes nothing. -/
lemma runs_slot (serves : Serves s on h) (key : String) (kind : AnnotationKind) :
    (slot on key kind).Runs s (.ok (h, (s.world.annotationsOf h).find? key kind)) s :=
  .bind (runs_holder serves "get_or_create") (.bind (runs_act_read h s) (Turn.runs_pure _ _))

/-- A filled slot gives its value; the factory is not called and nothing changes. -/
lemma runStep_annotate_filled {value : AnnotationValue} (serves : Serves s on h)
    (filled : (s.world.annotationsOf h).find? key kind = some value) :
    runStep s (.annotate on key kind recipe body reported) =
      (.annotated (.ok (.value value)) false none, s) := by
  have slot := runs_slot serves key kind
  rw [filled] at slot
  rw [runStep, slot]

/-- An empty slot gets its value after the steps of its factory. -/
lemma runStep_annotate_empty (serves : Serves s on h)
    (empty : (s.world.annotationsOf h).find? key kind = none) :
    runStep s (.annotate on key kind recipe body reported) =
      fill h key kind recipe (if reported then some (runSteps s body).1 else none)
        (runSteps s body).2 := by
  have slot := runs_slot serves key kind
  rw [empty] at slot
  rw [runStep, slot]

/-- A factory that fails leaves the annotations of the holder as they are. -/
lemma exists_fill_error {t : Session} {f} (h : Holder) (key : String)
    (inner : Option (List Answer)) (fails : Stores.made t.world kind recipe = .error f) :
    ∃ n, fill h key kind recipe inner t =
      (.annotated (.error (.failure f)) (callsFactory recipe) inner,
        { t with world := { t.world with gadgets := n } }) := by
  obtain ⟨n, run⟩ := Stores.exists_create_error h key fails
  refine ⟨n, ?_⟩
  have turn := Turn.runs_act (s := t) run
  rw [fill, turn]
  rfl

/-- An empty slot is filled with what is made for it. -/
lemma exists_fill {t : Session} {value} (h : Holder) (key : String)
    (inner : Option (List Answer)) (makes : Stores.made t.world kind recipe = .ok value) :
    ∃ n, fill h key kind recipe inner t =
      (.annotated (.ok (.value value)) (callsFactory recipe) inner,
        ({ t with world := { t.world with gadgets := n } } : Session).annotated h
          ((t.world.annotationsOf h).put key kind value)) := by
  obtain ⟨n, run⟩ := Stores.exists_create h key makes
  refine ⟨n, ?_⟩
  have turn := Turn.runs_act (s := t) run
  rw [fill, turn]
  rfl

end Annotate

end Session

end PEInspect
