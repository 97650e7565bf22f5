import PEInspect.Proofs.Config.Precedence

/-!
# The environment over a configuration

Variables that are set override single settings, each its own one (`get_overridden`). `overridden` is
the configuration that comes of it, and applying the environment always ends with it
(`overridden_gives`).
-/

namespace PEInspect.Config

/-- A configuration under one variable. -/
def overrideIn (env : Environment) (c : Config) (o : String × Setting) : Config :=
  match env.lookup o.1 with
  | none => c
  | some text => c.set o.2 (overrideValue o.2 text)

/-- A configuration under an environment. -/
def overridden (env : Environment) (c : Config) : Config :=
  overrides.foldl (overrideIn env) c

/-- The variable that overrides a setting. -/
def variableOf : Setting → String
  | .mappedIo => "SPYGLASS_MAPPED_IO"
  | .loadSymbols => "SPYGLASS_LOAD_SYMBOLS"
  | .symbolExtension => "SPYGLASS_SYMBOL_EXTENSION"
  | .verbose => "SPYGLASS_VERBOSE"
  | .logLevel => "SPYGLASS_LOG_LEVEL"

variable {env : Environment}

/-- One override is carried out with its notice. -/
lemma overrideIn_gives (c : Config) (o : String × Setting) :
    (applyOverride env c o).Gives (.ok (overrideIn env c o)) := by
  rw [applyOverride, overrideIn]
  cases env.lookup o.1 with
  | none => exact Report.gives_pure c
  | some text => exact .bind (Report.gives_note _ _) (Report.gives_pure _)

/-- Applying variables never fails, in whatever order they come. -/
lemma overridesIn_gives (order : List (String × Setting)) (c : Config) :
    Report.Gives (order.foldlM (applyOverride env) c) (.ok (order.foldl (overrideIn env) c)) := by
  induction order generalizing c with
  | nil => exact Report.gives_pure c
  | cons o order ih =>
    rw [List.foldlM_cons]
    exact .bind (overrideIn_gives c o) (ih _)

/-- All overrides are carried out, one after the other. -/
lemma overridden_gives (c : Config) : (c.applyEnvironment env).Gives (.ok (overridden env c)) :=
  overridesIn_gives overrides c

/-- An override decides its own setting, if its variable is set, and no other. -/
lemma get_overrideIn (c : Config) (o : String × Setting) (s : Setting) :
    (overrideIn env c o).get s =
      if o.2 = s then ((env.lookup o.1).map (overrideValue s)).getD (c.get s) else c.get s := by
  rw [overrideIn]
  cases env.lookup o.1 with
  | none => exact (ite_self _).symm
  | some text =>
    rw [get_set]
    split
    · rename_i same
      rw [same]
      rfl
    · rfl

/-- A setting under an environment has the value of its variable, or else the value it had. -/
lemma get_overridden (c : Config) (s : Setting) :
    (overridden env c).get s =
      ((env.lookup (variableOf s)).map (overrideValue s)).getD (c.get s) := by
  simp only [overridden, overrides, List.foldl_cons, List.foldl_nil, get_overrideIn]
  cases s <;> rfl

end PEInspect.Config
