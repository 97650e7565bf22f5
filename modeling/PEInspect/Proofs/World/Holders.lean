import PEInspect.Proofs.World.Arena
import PEInspect.Proofs.World.Effects
import PEInspect.World.Stores

/-!
# Holders of annotations

The annotations of a store or a file in a world, and what the actions on annotations do to them. An
action on annotations changes nothing but the annotations of its holder and, where a slot gets its
first value, the counter of numbered objects.
-/

namespace PEInspect

namespace World

/-- The annotations of a holder. -/
def annotationsOf (w : World) : Holder → AnnotationStore
  | .store r => w.stores.get r
  | .file r => (w.files.get r).annotations

/-- The world in which a holder has other annotations. -/
def annotated (w : World) (h : Holder) (a : AnnotationStore) : World :=
  match h with
  | .store r => { w with stores := w.stores.set r a }
  | .file r => { w with files := w.files.change r fun f => { f with annotations := a } }

end World

/-- A holder has been made. -/
def Holder.Stands (w : World) : Holder → Prop
  | .store r => r.index < w.stores.cells.length
  | .file r => r.index < w.files.cells.length

namespace Holder

/-- A holder that is there has the annotations that it has got. -/
lemma annotationsOf_annotated {w : World} {h : Holder} (a : AnnotationStore) (stands : h.Stands w) :
    (w.annotated h a).annotationsOf h = a := by
  cases h with
  | store r => exact Arena.get_set_self w.stores a stands
  | file r =>
    have got : (w.annotated (.file r) a).files.get r = { w.files.get r with annotations := a } :=
      Arena.get_set_self w.files _ stands
    rw [World.annotationsOf, got]

/-- A holder that has got annotations is still there. -/
lemma stands_annotated {w : World} {h : Holder} (a : AnnotationStore) (stands : h.Stands w) :
    h.Stands (w.annotated h a) := by
  cases h with
  | store r =>
    change r.index < (w.stores.cells.set r.index a).length
    rw [List.length_set]
    exact stands
  | file r =>
    change r.index < (w.files.change r _).cells.length
    rw [Arena.length_change]
    exact stands

end Holder

namespace Stores

open PEInspect.Action

variable {w : World} {h : Holder} {key : String} {kind : AnnotationKind} {recipe : Recipe}

/-- Reading annotations changes nothing. -/
lemma runs_read (h : Holder) (w : World) : (read h).Runs w (.ok (w.annotationsOf h)) w := by
  cases h <;> rfl

/-- A holder gets other annotations. -/
lemma runs_write (h : Holder) (a : AnnotationStore) (w : World) :
    (write h a).Runs w (.ok ()) (w.annotated h a) := by
  cases h <;> rfl

/-- Making a first value uses up a number at most. -/
lemma exists_make (kind : AnnotationKind) (recipe : Recipe) (w : World) :
    ∃ r n, (make kind recipe).Runs w r { w with gadgets := n } := by
  have fresh (kind : AnnotationKind) :
      ∃ r n, (emptyValue kind).Runs w r { w with gadgets := n } := by
    cases kind with
    | custom => exact ⟨_, w.gadgets + 1, rfl⟩
    | _ => exact ⟨_, w.gadgets, rfl⟩
  cases recipe with
  | standard => exact fresh kind
  | failing text => exact ⟨_, w.gadgets, rfl⟩
  | fresh other => exact fresh other
  | given value => exact ⟨_, w.gadgets, rfl⟩

/-- What a recipe makes of an empty slot, or how it fails. -/
def made (w : World) (kind : AnnotationKind) (recipe : Recipe) : Except Failure AnnotationValue :=
  ((make kind recipe).outcome w).1

/-- A slot that cannot be made leaves the annotations as they were. -/
lemma exists_create_error {f} (h : Holder) (key : String) (fails : made w kind recipe = .error f) :
    ∃ n, (create h key kind recipe).Runs w (.error f) { w with gadgets := n } := by
  obtain ⟨r, n, run⟩ := exists_make kind recipe w
  have result : r = .error f := (congrArg Prod.fst run).symm.trans fails
  subst result
  exact ⟨n, .bind_error run⟩

/-- A slot that is made is put into the annotations. -/
lemma exists_create {value} (h : Holder) (key : String) (makes : made w kind recipe = .ok value) :
    ∃ n, (create h key kind recipe).Runs w (.ok value)
      (({ w with gadgets := n } : World).annotated h ((w.annotationsOf h).put key kind value)) := by
  obtain ⟨r, n, run⟩ := exists_make kind recipe w
  have result : r = .ok value := (congrArg Prod.fst run).symm.trans makes
  subst result
  have same : ({ w with gadgets := n } : World).annotationsOf h = w.annotationsOf h := by
    cases h <;> rfl
  have read := runs_read h { w with gadgets := n }
  rw [same] at read
  exact ⟨n, .bind run (.bind read (.bind (runs_write h _ _) (runs_pure _ _)))⟩

/-- Removal leaves what it makes of the annotations, if it makes something of them. -/
lemma runs_remove {kind : Option AnnotationKind} {a : AnnotationStore}
    (found : (w.annotationsOf h).remove? key (kind.filter (· ≠ .null)) = some a) :
    (remove h key kind).Runs w (.ok ()) (w.annotated h a) := by
  refine .bind (runs_read h w) ?_
  rw [found]
  exact runs_write h a w

end Stores

end PEInspect
