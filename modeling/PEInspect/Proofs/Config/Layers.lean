import Mathlib.Tactic.Lemma
import PEInspect.Config.Merge

/-!
# Layers of a configuration

A configuration is made of layers: the documents of the places where configuration files may stand,
each of them perhaps missing. The documented rule of precedence is `preferred`: a setting has the
value of the highest layer that gives it one. What the sections of a document do to a configuration
is `decided`: the highest layer that has the setting's section decides it, with the default for a
key that this section leaves out. The two agree unless the setting is `Forgotten`
(`decided_eq_preferred_iff`).
-/

namespace PEInspect.Config

open Document

/-- What stands at the place of a configuration file: nothing, or a valid document. -/
inductive Offers (disk : Disk) (path : Path) : Option Table → Prop where
  | absent : disk.has path = .ok false → Offers disk path none
  | document {content chars t} :
    disk.read path = .ok content →
    Text.decode? content = some chars →
    Toml.read (String.ofList chars) = .ok t →
    Offers disk path (some t)

/-- What stands at an explicitly named place, if one is named. -/
inductive OffersNamed (disk : Disk) : Option String → Option Table → Prop where
  | unnamed : OffersNamed disk none none
  | named {name layer} : Offers disk (.ofString name) layer → OffersNamed disk (some name) layer

/-- The section that a document has under a name; only tables are sections. -/
def sectionIn (sec : Section) (layer : Option Table) : Option Table :=
  match layer.bind fun t => t.lookup sec.name with
  | some (.table t) => some t
  | _ => none

/-- The value that a layer gives a setting. -/
def valueIn (s : Setting) (layer : Option Table) : Option Value :=
  (sectionIn s.home layer).bind fun t => t.lookup s.key

/-- The value of the highest layer that gives the setting one, or the default. -/
def preferred (s : Setting) (layers : List (Option Table)) : Value :=
  (layers.findSome? (valueIn s)).getD s.fallback

/-- What the highest layer with the setting's section says, or the default. -/
def decided (s : Setting) (layers : List (Option Table)) : Value :=
  ((layers.findSome? (sectionIn s.home)).bind fun t => t.lookup s.key).getD s.fallback

/-- A setting is forgotten when the highest layer with its section leaves it out, while a layer
below gives it a value that is not the default. -/
inductive Forgotten (s : Setting) : List (Option Table) → Prop where
  | omitted {layer below t v} :
    sectionIn s.home layer = some t →
    t.lookup s.key = none →
    below.findSome? (valueIn s) = some v →
    v ≠ s.fallback →
    Forgotten s (layer :: below)
  | deeper {layer below} :
    sectionIn s.home layer = none →
    Forgotten s below →
    Forgotten s (layer :: below)

/-! ## Layer by layer -/

/-- A layer without the section of a setting gives it no value. -/
lemma valueIn_none {s layer} (e : sectionIn s.home layer = none) : valueIn s layer = none := by
  simp only [valueIn, e, Option.bind_none]

/-- A layer with the section of a setting gives the value that stands there. -/
lemma valueIn_some {s layer t} (e : sectionIn s.home layer = some t) :
    valueIn s layer = t.lookup s.key := by
  simp only [valueIn, e, Option.bind_some]

/-- A layer without the section of a setting leaves it to those below. -/
lemma decided_skip {s layer below} (e : sectionIn s.home layer = none) :
    decided s (layer :: below) = decided s below := by
  simp only [decided, List.findSome?_cons, e]

/-- A layer with the section of a setting decides it, by the fallback if it does not name it. -/
lemma decided_here {s layer below t} (e : sectionIn s.home layer = some t) :
    decided s (layer :: below) = (t.lookup s.key).getD s.fallback := by
  simp only [decided, List.findSome?_cons, e, Option.bind_some]

/-- A layer without a value for a setting leaves it to those below. -/
lemma preferred_skip {s layer below} (e : valueIn s layer = none) :
    preferred s (layer :: below) = preferred s below := by
  simp only [preferred, List.findSome?_cons, e]

/-- The value in the highest layer that has one is preferred. -/
lemma preferred_here {s layer below v} (e : valueIn s layer = some v) :
    preferred s (layer :: below) = v := by
  simp only [preferred, List.findSome?_cons, e, Option.getD_some]

/-- A forgotten setting has its default. -/
lemma Forgotten.decided {s layers} (fg : Forgotten s layers) :
    Config.decided s layers = s.fallback := by
  induction fg with
  | omitted e missing _ _ => rw [decided_here e, missing, Option.getD_none]
  | deeper e _ ih => rw [decided_skip e, ih]

/-- The value that is preferred for a forgotten setting is not its default. -/
lemma Forgotten.preferred {s layers} (fg : Forgotten s layers) :
    Config.preferred s layers ≠ s.fallback := by
  induction fg with
  | omitted e missing found ne =>
    rw [preferred_skip ((valueIn_some e).trans missing), Config.preferred, found, Option.getD_some]
    exact ne
  | deeper e _ ih =>
    rw [preferred_skip (valueIn_none e)]
    exact ih

/-- Unless the setting is forgotten, the section that decides gives the preferred value. -/
lemma decided_eq_preferred {s layers} (kept : ¬ Forgotten s layers) :
    decided s layers = preferred s layers := by
  induction layers with
  | nil => rfl
  | cons layer below ih =>
    cases e : sectionIn s.home layer with
    | none =>
      rw [decided_skip e, preferred_skip (valueIn_none e)]
      exact ih fun fg => kept (.deeper e fg)
    | some t =>
      rw [decided_here e]
      cases given : t.lookup s.key with
      | some v => rw [preferred_here ((valueIn_some e).trans given), Option.getD_some]
      | none =>
        rw [preferred_skip ((valueIn_some e).trans given), Option.getD_none, preferred]
        -- The section that decides leaves the key out: a value below can only be the default.
        cases found : below.findSome? (valueIn s) with
        | none => rfl
        | some v =>
          by_cases same : v = s.fallback
          · rw [same, Option.getD_some]
          · exact absurd (.omitted e given found same) kept

/-- What is decided is what is preferred, exactly when the setting is not forgotten. -/
lemma decided_eq_preferred_iff {s layers} :
    decided s layers = preferred s layers ↔ ¬ Forgotten s layers := by
  refine ⟨fun same fg => ?_, decided_eq_preferred⟩
  apply fg.preferred
  rw [← same, fg.decided]

end PEInspect.Config
