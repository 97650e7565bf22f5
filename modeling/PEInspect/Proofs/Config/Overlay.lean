import PEInspect.Proofs.Config.Unusable

/-!
# The environment as an overlay

Loading gathers the layers of the configuration files first and applies the environment to what has
come of them. So whether loading succeeds is up to the files alone, and a variable that is set fixes
its own setting and nothing else, whatever the files say about it (`load_overlaid`). Each setting has
one variable, which is why the order in which they are applied does not matter.
-/

namespace PEInspect.Config

open Document

/-- What a variable with some text makes of its setting: a switch is on for three words, in any case,
and any other setting is the text itself. -/
inductive Fixes : Setting → String → Value → Prop where
  | switch {s text b} :
    s = .mappedIo ∨ s = .loadSymbols ∨ s = .verbose →
    (b = true ↔ Text.lowered text = "true" ∨ Text.lowered text = "1" ∨ Text.lowered text = "yes") →
    Fixes s text (.bool b)
  | text {s text} :
    s = .symbolExtension ∨ s = .logLevel →
    Fixes s text (.text text)

/-- A configuration that differs from another one exactly as the variables say that are set. -/
structure Overlaid (env : Environment) (base c : Config) : Prop where
  source : c.source = base.source
  further : ∀ sec, c.further sec = base.further sec
  kept : ∀ s, env.lookup (variableOf s) = none → c.get s = base.get s
  fixed : ∀ s text, env.lookup (variableOf s) = some text → Fixes s text (c.get s)

variable {env : Environment}

/-- The texts that switch a setting on, in any case. -/
lemma isAffirmative_iff (text : String) : isAffirmative text = true ↔
    Text.lowered text = "true" ∨ Text.lowered text = "1" ∨ Text.lowered text = "yes" := by
  simp [isAffirmative]

/-- The value that a text stands for is the one that the overlay fixes. -/
lemma fixes_overrideValue (s : Setting) (text : String) : Fixes s text (overrideValue s text) := by
  cases s with
  | mappedIo => exact .switch (.inl rfl) (isAffirmative_iff text)
  | loadSymbols => exact .switch (.inr (.inl rfl)) (isAffirmative_iff text)
  | verbose => exact .switch (.inr (.inr rfl)) (isAffirmative_iff text)
  | symbolExtension => exact .text (.inl rfl)
  | logLevel => exact .text (.inr rfl)

/-! ## Single variables -/

/-- The variables that are applied are the ones of their settings. -/
lemma variableOf_of_mem {o : String × Setting} (mem : o ∈ overrides) : variableOf o.2 = o.1 := by
  simp only [overrides, List.mem_cons, List.not_mem_nil, or_false] at mem
  rcases mem with rfl | rfl | rfl | rfl | rfl <;> rfl

/-- Two different settings can be set in either order. -/
lemma set_comm (c : Config) {s t : Setting} (other : s ≠ t) (v v' : Value) :
    (c.set s v).set t v' = (c.set t v').set s v := by
  cases s <;> cases t <;> first | rfl | exact absurd rfl other

/-- An override does not change where a configuration comes from. -/
lemma overrideIn_source (c : Config) (o : String × Setting) :
    (overrideIn env c o).source = c.source := by
  rw [overrideIn]
  cases env.lookup o.1 with
  | none => rfl
  | some text => cases o.2 <;> rfl

/-- An override leaves further keys alone. -/
lemma overrideIn_further (c : Config) (o : String × Setting) (sec : Section) :
    (overrideIn env c o).further sec = c.further sec := by
  rw [overrideIn]
  cases env.lookup o.1 with
  | none => rfl
  | some text => cases o.2 <;> cases sec <;> rfl

/-- Two variables can be applied in either order: they are the same one, or have different settings. -/
lemma overrideIn_comm {o o' : String × Setting} (mem : o ∈ overrides) (mem' : o' ∈ overrides)
    (c : Config) : overrideIn env (overrideIn env c o) o' = overrideIn env (overrideIn env c o') o := by
  by_cases same : o.2 = o'.2
  · have one : o = o' := by
      apply Prod.ext
      · rw [← variableOf_of_mem mem, ← variableOf_of_mem mem', same]
      · exact same
    rw [one]
  · simp only [overrideIn]
    cases env.lookup o.1 with
    | none => rfl
    | some text =>
      cases env.lookup o'.1 with
      | none => rfl
      | some text' => exact set_comm c same _ _

/-! ## The environment -/

/-- The overrides do not change where a configuration comes from. -/
lemma overridden_source (c : Config) : (overridden env c).source = c.source := by
  rw [overridden]
  generalize overrides = os
  induction os generalizing c with
  | nil => rfl
  | cons o os ih => exact (ih _).trans (overrideIn_source c o)

/-- The overrides leave further keys alone. -/
lemma overridden_further (c : Config) (sec : Section) :
    (overridden env c).further sec = c.further sec := by
  rw [overridden]
  generalize overrides = os
  induction os generalizing c with
  | nil => rfl
  | cons o os ih => exact (ih _).trans (overrideIn_further c o sec)

/-- The overrides make an overlay of the configuration. -/
lemma overridden_overlaid (c : Config) : Overlaid env c (overridden env c) := by
  constructor
  · exact overridden_source c
  · exact overridden_further c
  · intro s unset
    rw [get_overridden, unset]
    rfl
  · intro s text set
    rw [get_overridden, set]
    exact fixes_overrideValue s text

/-- Only what the five variables are set to matters. -/
lemma overridden_congr {env' : Environment}
    (same : ∀ s, env'.lookup (variableOf s) = env.lookup (variableOf s)) (c : Config) :
    overridden env' c = overridden env c := by
  apply List.foldl_ext
  intro c o mem
  have set := same o.2
  rw [variableOf_of_mem mem] at set
  rw [overrideIn, overrideIn, set]

/-- No override has a variable if none of the settings has one. -/
lemma unset_overrides (unset : ∀ s, env.lookup (variableOf s) = none) :
    ∀ o ∈ overrides, env.lookup o.1 = none := by
  intro o mem
  rw [← variableOf_of_mem mem]
  exact unset o.2

/-- Without variables, the overrides change nothing. -/
lemma overridden_unset (unset : ∀ s, env.lookup (variableOf s) = none) (c : Config) :
    overridden env c = c := by
  have left := (applyEnvironment_gives (unset_overrides unset) c).outcome
  exact Except.ok.inj ((overridden_gives c).outcome.symm.trans left)

/-- The files decide whether loading succeeds, and the environment comes over what they give. -/
lemma load_gathers (home : Path) (disk : Disk) (explicit : Option String) :
    (∃ base, ∀ env, (load home disk env explicit).outcome.1 = .ok (overridden env base)) ∨
      ∃ f, ∀ env, (load home disk env explicit).outcome.1 = .error f := by
  rcases layers_or_firstStop disk (places home explicit) with ⟨layers, all⟩ | ⟨f, stop⟩
  · obtain ⟨base, loaded, -⟩ := exists_gathered all
    exact .inl ⟨base, fun env => (loaded env).outcome⟩
  · exact .inr ⟨f, fun env => (load_of_firstStop env stop).outcome⟩

/-- Loading under an environment fails exactly if it fails without variables, and otherwise comes to
the configuration that is loaded without them, overlaid by those that are set. The order in which they
are applied has no effect, nor has any other variable, and a variable that is set fixes the same value
over any files. -/
theorem load_overlaid (home : Path) (disk : Disk) (explicit : Option String) {plain : Environment}
    (unset : ∀ s, plain.lookup (variableOf s) = none) (env : Environment) :
    (∀ f, (load home disk env explicit).outcome.1 = .error f ↔
      (load home disk plain explicit).outcome.1 = .error f) ∧
    (∀ c, (load home disk env explicit).outcome.1 = .ok c →
      ∃ base, (load home disk plain explicit).outcome.1 = .ok base ∧ Overlaid env base c ∧
        ∀ order : List (String × Setting), order.Perm overrides →
          (Report.outcome (order.foldlM (applyOverride env) base)).1 = .ok c) ∧
    (∀ env' : Environment, (∀ s, env'.lookup (variableOf s) = env.lookup (variableOf s)) →
      (load home disk env' explicit).outcome.1 = (load home disk env explicit).outcome.1) ∧
    ∀ home' disk' explicit' c c', (load home disk env explicit).outcome.1 = .ok c →
      (load home' disk' env explicit').outcome.1 = .ok c' →
        ∀ s, env.lookup (variableOf s) ≠ none → c'.get s = c.get s := by
  refine ⟨?_, ?_, ?_, ?_⟩
  · intro f
    rcases load_gathers home disk explicit with ⟨base, loaded⟩ | ⟨f', failed⟩
    · rw [loaded, loaded]
      exact ⟨nofun, nofun⟩
    · rw [failed, failed]
  · intro c run
    rcases load_gathers home disk explicit with ⟨base, loaded⟩ | ⟨f, failed⟩
    · cases (loaded env).symm.trans run
      refine ⟨base, ?_, overridden_overlaid base, ?_⟩
      · rw [loaded, overridden_unset unset]
      · intro order perm
        have same : order.foldl (overrideIn env) base = overridden env base := by
          apply List.Perm.foldl_eq' perm
          intro o mem o' mem' c
          exact overrideIn_comm (perm.subset mem) (perm.subset mem') c
        rw [← same]
        exact (overridesIn_gives order base).outcome
    · cases (failed env).symm.trans run
  · intro env' same
    rcases load_gathers home disk explicit with ⟨base, loaded⟩ | ⟨f, failed⟩
    · rw [loaded, loaded, overridden_congr same]
    · rw [failed, failed]
  · intro home' disk' explicit' c c' run run' s set
    rcases load_gathers home disk explicit with ⟨base, loaded⟩ | ⟨f, failed⟩
    · rcases load_gathers home' disk' explicit' with ⟨base', loaded'⟩ | ⟨f, failed⟩
      · cases (loaded env).symm.trans run
        cases (loaded' env).symm.trans run'
        obtain ⟨text, found⟩ := Option.ne_none_iff_exists'.mp set
        rw [get_overridden, get_overridden, found]
        rfl
      · cases (failed env).symm.trans run'
    · cases (failed env).symm.trans run

/-- Two variables are set over a file, one of them to nothing, among others that mean nothing here. -/
def someVariables : Environment :=
  [("SPYGLASS_HOME", "1"), ("SPYGLASS_LOG_LEVEL", ""), ("SPYGLASS_LOAD_SYMBOLS", "YES")]

/-- A disk where the project's file turns symbols off. -/
def symbolsOff : Disk :=
  projectDisk (Text.encode "[loader]\nload_symbols=false".toList)

/-- A switch that the file turns off is turned on again, and what is not set stays. -/
theorem load_overlaid_switch :
    (∀ s, List.lookup (variableOf s) ([("HOME", "home")] : Environment) = none) ∧
      ∃ base c, (load userHome symbolsOff [("HOME", "home")] none).outcome.1 = .ok base ∧
        (load userHome symbolsOff someVariables none).outcome.1 = .ok c ∧
        Overlaid someVariables base c ∧
        base.get .loadSymbols = .bool false ∧ c.get .loadSymbols = .bool true ∧
        c.get .logLevel = .text "" ∧ c.get .mappedIo = .bool true := by
  have unset : ∀ s, List.lookup (variableOf s) ([("HOME", "home")] : Environment) = none := by
    intro s
    cases s <;> rfl
  have userOff : Offers symbolsOff (userFile userHome) none := .absent (by cbv)
  have projectOff : Offers symbolsOff projectFile
      (some [("loader", .table [("load_symbols", .bool false)])]) := by
    have rd : symbolsOff.read projectFile
        = .ok (Text.encode "[loader]\nload_symbols=false".toList) := by cbv
    have dc : Text.decode? (Text.encode "[loader]\nload_symbols=false".toList)
        = some "[loader]\nload_symbols=false".toList := by cbv
    exact .document rd dc (by cbv)
  obtain ⟨base, loaded, -, settled⟩ := load_decided (unset_overrides unset) userOff projectOff .unnamed
  obtain ⟨fails, laid, -, -⟩ := load_overlaid userHome symbolsOff none unset someVariables
  cases run : (load userHome symbolsOff someVariables none).outcome.1 with
  | error f => cases loaded.outcome.symm.trans ((fails f).mp run)
  | ok c =>
    obtain ⟨base', loaded', overlaid, -⟩ := laid c run
    cases loaded.outcome.symm.trans loaded'
    refine ⟨unset, base, c, loaded.outcome, rfl, overlaid, settled .loadSymbols, ?_, ?_, ?_⟩
    · have fixed := overlaid.fixed .loadSymbols "YES" rfl
      generalize c.get .loadSymbols = v at fixed ⊢
      cases fixed with
      | switch _ word => rw [word.mpr (.inr (.inr (by decide +kernel)))]
      | text other => simp at other
    · have fixed := overlaid.fixed .logLevel "" rfl
      generalize c.get .logLevel = v at fixed ⊢
      cases fixed with
      | switch other => simp at other
      | text => rfl
    · rw [overlaid.kept .mappedIo rfl]
      exact settled .mappedIo

end PEInspect.Config
