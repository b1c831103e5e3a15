import FeatureDocs.Proofs.Config

/-!
# What the variables of an environment set

An unset variable leaves the default of its setting, and a text sets what it is a spelling of; a
text that spells nothing is refused. A log level or a flag that is no text at all is not heard: it
sets nothing, and it is not refused either. So the configuration of an environment is the one that
its heard part sets, and some configuration is made against the variables exactly where a variable
is not heard and the others are in order.

## Main definitions

* `LogLevel.spellings`, `flagSpellings`: the words for levels and flags
* `Configuration.SetBy`: the configuration that the variables of an environment set
* `Environment.heard`: the environment without the values that are no text
* `Configuration.PutOver`: a configuration with overrides

## Main results

* `Configuration.ofEnvironment_eq_ok_iff`: the configuration of an environment
* `Configuration.heard_variables_set`: what becomes of each variable, and of overrides
-/

namespace FeatureDocs

/-- The words for a level. -/
def LogLevel.spellings : LogLevel → List String
  | trace => ["trace"]
  | debug => ["debug"]
  | info => ["info"]
  | warn => ["warn", "warning"]
  | error => ["error"]

/-- The words for a flag; no word at all says no. -/
def flagSpellings : Bool → List String
  | true => ["1", "true", "yes", "on"]
  | false => ["0", "false", "no", "off", ""]

/-- The form of the value of the flag in which it is a word. -/
def flagWord (value : String) : String := value.trimBlank.lowercase

/-- A variable sets `a`: unset, it leaves the default; set, it holds a text whose form `plain` is
one of the words for `a`. Bytes that are no text set nothing. -/
def VariableSets {α : Type} (plain : String → String) (words : α → List String) (default : α) :
    Option (List UInt8) → α → Prop
  | none, a => a = default
  | some bytes, a => ∃ text, Utf8.decode? bytes = some text ∧ plain (String.ofList text) ∈ words a

/-- The level of the log that a variable sets. -/
abbrev LogLevel.SetBy (value : Option (List UInt8)) (level : LogLevel) : Prop :=
  VariableSets String.lowercase LogLevel.spellings .info value level

/-- The flag that a variable sets. -/
abbrev FlagSetBy (value : Option (List UInt8)) (flag : Bool) : Prop :=
  VariableSets flagWord flagSpellings false value flag

/-- The configuration that the variables of an environment set, each of them. -/
structure Configuration.SetBy (config : Configuration) (env : Environment) : Prop where
  logLevel : config.logLevel.SetBy env.logLevel
  addImplementedTags : FlagSetBy env.addImplementedTags config.addImplementedTags
  steps_unset : env.steps = none → config.steps = []
  /-- The sources stand between the colons. -/
  steps_set : ∀ bytes, env.steps = some bytes → config.steps.map Path.bytes = bytes.splitOn 0x3A

/-- A value that is heard: one that is a text. -/
def Environment.heardValue (value : Option (List UInt8)) : Option (List UInt8) :=
  value.filter fun bytes => (Utf8.decode? bytes).isSome

/-- The environment in which a log level or a flag that is no text is unset. -/
def Environment.heard (env : Environment) : Environment where
  logLevel := heardValue env.logLevel
  addImplementedTags := heardValue env.addImplementedTags
  steps := env.steps

/-- The configuration `config` is `base` with overrides: a given one counts, for an absent one that
of `base` stays, and more sources come behind those of `base`. -/
structure Configuration.PutOver (config base : Configuration) (logLevel : Option LogLevel)
    (addImplementedTags : Option Bool) (steps : List Path) : Prop where
  logLevel_given : ∀ level, logLevel = some level → config.logLevel = level
  logLevel_absent : logLevel = none → config.logLevel = base.logLevel
  flag_given : ∀ flag, addImplementedTags = some flag → config.addImplementedTags = flag
  flag_absent : addImplementedTags = none → config.addImplementedTags = base.addImplementedTags
  steps_eq : config.steps = base.steps ++ steps

/-! ## Words -/

theorem LogLevel.ofWord?_eq_some_iff_mem_spellings {word : String} {level : LogLevel} :
    ofWord? word = some level ↔ word ∈ level.spellings := by
  constructor
  · intro h
    unfold ofWord? at h
    split at h <;> cases h <;> decide
  · intro h
    cases level <;> simp only [spellings, List.mem_cons, List.not_mem_nil, or_false] at h <;>
      rcases h with rfl | rfl <;> rfl

theorem flagOfWord?_eq_some_iff_mem_spellings {word : String} {flag : Bool} :
    flagOfWord? word = some flag ↔ word ∈ flagSpellings flag := by
  constructor
  · intro h
    unfold flagOfWord? at h
    split at h <;> cases h <;> decide
  · intro h
    cases flag <;> simp only [flagSpellings, List.mem_cons, List.not_mem_nil, or_false] at h <;>
      rcases h with rfl | rfl | rfl | rfl | rfl <;> rfl

theorem LogLevel.parse_eq_ok_iff {value : String} {level : LogLevel} :
    parse value = .ok level ↔ value.lowercase ∈ level.spellings := by
  rw [← ofWord?_eq_some_iff_mem_spellings, parse]
  cases ofWord? value.lowercase <;> simp

theorem readFlag_eq_ok_iff {value : String} {flag : Bool} :
    readFlag value = .ok flag ↔ flagWord value ∈ flagSpellings flag := by
  rw [← flagOfWord?_eq_some_iff_mem_spellings, readFlag, flagWord]
  cases flagOfWord? value.trimBlank.lowercase <;> simp

/-! ## The values of variables -/

/-- The paths of a list stand between its colons. -/
theorem bytes_splitPaths (bytes : List UInt8) :
    (splitPaths bytes).map Path.bytes = bytes.splitOn 0x3A := by
  rw [List.splitOn_eq_splitOnP, List.splitOnP_eq_splitOnPPrepend, splitPaths]
  generalize ([] : List UInt8) = current
  induction bytes generalizing current with
  | nil => rfl
  | cons b bytes ih =>
    rw [splitPathsFrom, List.splitOnPPrepend_cons_eq_if]
    simp only [beq_iff_eq]
    split
    · rw [List.map_cons, ih, List.splitOnP_eq_splitOnPPrepend]
    · exact ih (b :: current)

/-- Paths are equal if they have the same bytes one by one. -/
theorem eq_of_map_bytes {ps qs : List Path} (h : ps.map Path.bytes = qs.map Path.bytes) :
    ps = qs :=
  List.map_injective_iff.mpr (fun p q hpq => by cases p; cases q; exact congrArg Path.mk hpq) h

/-- What a heard value sets is decided by its text. -/
theorem variableSets_heardValue_iff {α : Type} {plain : String → String} {words : α → List String}
    {default : α} {value : Option (List UInt8)} {a : α} :
    VariableSets plain words default (Environment.heardValue value) a ↔
      match Environment.text? value with
      | none => a = default
      | some text => plain text ∈ words a := by
  rcases value with _ | bytes
  · rfl
  · cases htext : Utf8.decode? bytes <;>
      simp [Environment.heardValue, Environment.text?, VariableSets, htext, Option.filter_some]

/-- A set value that is no text sets nothing. -/
theorem heardValue_eq_of_variableSets {α : Type} {plain : String → String}
    {words : α → List String} {default : α} {value : Option (List UInt8)} {a : α}
    (h : VariableSets plain words default value a) : Environment.heardValue value = value := by
  rcases value with _ | bytes
  · rfl
  · obtain ⟨text, htext, -⟩ := h
    simp [Environment.heardValue, htext, Option.filter_some]

/-- A flag is read from what is heard of its variable. -/
theorem flagSetBy_heardValue_iff {value : Option (List UInt8)} {flag : Bool} :
    FlagSetBy (Environment.heardValue value) flag ↔
      (match Environment.text? value with
        | some text => readFlag text
        | none => .ok false) = .ok flag := by
  rw [FlagSetBy, variableSets_heardValue_iff]
  cases Environment.text? value with
  | none => exact ⟨fun h => congrArg Except.ok h.symm, fun h => (Except.ok.inj h).symm⟩
  | some text => exact readFlag_eq_ok_iff.symm

/-! ## The configuration of an environment -/

namespace Configuration

variable {env : Environment} {config : Configuration}

/-- Once the log level is known, the flag decides. -/
theorem ofFlag_eq_ok_iff {logLevel : LogLevel} :
    ofFlag env logLevel = .ok config ↔
      config.logLevel = logLevel ∧
        FlagSetBy (Environment.heardValue env.addImplementedTags) config.addImplementedTags ∧
        config.steps = (env.steps.map splitPaths).getD [] := by
  rw [ofFlag, map_eq_ok_iff, flagSetBy_heardValue_iff]
  constructor
  · rintro ⟨flag, hread, rfl⟩
    exact ⟨rfl, hread, rfl⟩
  · rintro ⟨rfl, hread, hsteps⟩
    refine ⟨_, hread, ?_⟩
    rw [← hsteps]

/-- The sources that the variable for them sets. -/
theorem steps_eq_iff :
    config.steps = (env.steps.map splitPaths).getD [] ↔
      (env.steps = none → config.steps = []) ∧
        ∀ bytes, env.steps = some bytes → config.steps.map Path.bytes = bytes.splitOn 0x3A := by
  cases hsteps : env.steps with
  | none =>
    simp only [Option.map_none, Option.getD_none, reduceCtorEq, forall_const, false_implies,
      and_true]
  | some value =>
    simp only [Option.map_some, Option.getD_some, reduceCtorEq, false_implies, true_and,
      Option.some.injEq, forall_eq', ← bytes_splitPaths]
    exact ⟨fun h => congrArg _ h, eq_of_map_bytes⟩

/-- **The configuration of an environment is the one that its heard part sets.** -/
theorem ofEnvironment_eq_ok_iff : ofEnvironment env = .ok config ↔ config.SetBy env.heard := by
  have hset : config.SetBy env.heard ↔
      config.logLevel.SetBy (Environment.heardValue env.logLevel) ∧
        FlagSetBy (Environment.heardValue env.addImplementedTags) config.addImplementedTags ∧
        config.steps = (env.steps.map splitPaths).getD [] := by
    rw [steps_eq_iff]
    exact ⟨fun h => ⟨h.1, h.2, h.3, h.4⟩, fun h => ⟨h.1, h.2.1, h.2.2.1, h.2.2.2⟩⟩
  rw [hset, LogLevel.SetBy, variableSets_heardValue_iff, ofEnvironment_eq_bind]
  cases Environment.text? env.logLevel with
  | none => exact ofFlag_eq_ok_iff
  | some value =>
    dsimp only
    rw [← LogLevel.parse_eq_ok_iff]
    cases LogLevel.parse value with
    | error e => exact iff_of_false nofun fun h => nomatch h.1
    | ok level =>
      rw [Except.ok.injEq, eq_comm (a := level)]
      exact ofFlag_eq_ok_iff

/-- Where an environment sets a configuration, all of it is heard. -/
theorem SetBy.heard_eq (h : config.SetBy env) : env.heard = env := by
  rw [Environment.heard, heardValue_eq_of_variableSets h.logLevel,
    heardValue_eq_of_variableSets h.addImplementedTags]

/-- An environment is refused for a log level that spells none, or else for such a flag. -/
theorem ofEnvironment_refused_iff {e : SettingError} :
    ofEnvironment env = .error e ↔
      (∃ value, Environment.text? env.logLevel = some value ∧
        (∀ level : LogLevel, value.lowercase ∉ level.spellings) ∧ e = .unknownLogLevel value) ∨
      (∃ level : LogLevel, level.SetBy env.heard.logLevel) ∧
        ∃ value, Environment.text? env.addImplementedTags = some value ∧
          (∀ flag, flagWord value ∉ flagSpellings flag) ∧ e = .invalidFlag (flagWord value) := by
  have hlevel : ∀ value : String, LogLevel.ofWord? value.lowercase = none ↔
      ∀ level : LogLevel, value.lowercase ∉ level.spellings := fun value => by
    simp only [Option.eq_none_iff_forall_ne_some, ne_eq,
      LogLevel.ofWord?_eq_some_iff_mem_spellings]
  have hflag : ∀ value : String, flagOfWord? value.trimBlank.lowercase = none ↔
      ∀ flag, flagWord value ∉ flagSpellings flag := fun value => by
    simp only [Option.eq_none_iff_forall_ne_some, ne_eq, flagOfWord?_eq_some_iff_mem_spellings,
      flagWord]
  have haccepts : env.AcceptsLevel ↔ ∃ level : LogLevel, level.SetBy env.heard.logLevel := by
    change _ ↔ ∃ level : LogLevel, level.SetBy (Environment.heardValue env.logLevel)
    simp only [Environment.AcceptsLevel, LogLevel.SetBy, variableSets_heardValue_iff]
    cases Environment.text? env.logLevel with
    | none => simp
    | some text =>
      simp only [Option.some.injEq, forall_eq', Option.ne_none_iff_exists',
        LogLevel.ofWord?_eq_some_iff_mem_spellings]
  rw [ofEnvironment_eq_error_iff, ← haccepts]
  constructor
  · rintro (⟨hvalue, hnone⟩ | ⟨hlevel', hvalue, hnone⟩)
    · exact Or.inl ⟨_, hvalue, (hlevel _).mp hnone, rfl⟩
    · exact Or.inr ⟨hlevel', _, hvalue, (hflag _).mp hnone, rfl⟩
  · rintro (⟨value, hvalue, hnone, rfl⟩ | ⟨hlevel', value, hvalue, hnone, rfl⟩)
    · exact .logLevel hvalue ((hlevel value).mpr hnone)
    · exact .flag hlevel' hvalue ((hflag value).mpr hnone)

theorem override_eq_iff_putOver {base : Configuration} {logLevel : Option LogLevel}
    {flag : Option Bool} {steps : List Path} :
    base.override logLevel flag steps = config ↔ config.PutOver base logLevel flag steps := by
  constructor
  · rintro rfl
    constructor <;> simp +contextual [override]
  · intro h
    obtain ⟨steps', flag', level'⟩ := config
    have hlevel : logLevel.getD base.logLevel = level' := by
      cases hgiven : logLevel with
      | none => exact (h.logLevel_absent hgiven).symm
      | some level => exact (h.logLevel_given level hgiven).symm
    have hflag : flag.getD base.addImplementedTags = flag' := by
      cases hgiven : flag with
      | none => exact (h.flag_absent hgiven).symm
      | some flag => exact (h.flag_given flag hgiven).symm
    rw [override, hlevel, hflag, ← h.steps_eq]

/-- **Variables that are heard set their settings or are refused.**

The configuration of an environment is the one that its heard part sets. It is refused exactly for a
log level in words that spell none, or else, with the log level in order, for such a flag. So the
variables are followed, unheard ones included, exactly if all of them are heard, or what is heard is
refused anyway: a log level or a flag that is no text counts for nothing and is not reported. An
override that is given wins, one that is absent leaves what the environment sets, and more sources
come behind those of the environment. -/
theorem heard_variables_set (env : Environment) :
    (∀ config, ofEnvironment env = .ok config ↔ config.SetBy env.heard) ∧
      (∀ e, ofEnvironment env = .error e ↔
        (∃ value, Environment.text? env.logLevel = some value ∧
          (∀ level : LogLevel, value.lowercase ∉ level.spellings) ∧ e = .unknownLogLevel value) ∨
        (∃ level : LogLevel, level.SetBy env.heard.logLevel) ∧
          ∃ value, Environment.text? env.addImplementedTags = some value ∧
            (∀ flag, flagWord value ∉ flagSpellings flag) ∧ e = .invalidFlag (flagWord value)) ∧
      ((∀ config, ofEnvironment env = .ok config ↔ config.SetBy env) ↔
        env.heard = env ∨ ∀ config : Configuration, ¬ config.SetBy env.heard) ∧
      ∀ logLevel flag steps config,
        (ofEnvironment env).map (fun base => base.override logLevel flag steps) = .ok config ↔
          ∃ base : Configuration, base.SetBy env.heard ∧
            config.PutOver base logLevel flag steps := by
  refine ⟨fun config => ofEnvironment_eq_ok_iff, fun e => ofEnvironment_refused_iff, ?_, ?_⟩
  · constructor
    · intro hfollowed
      by_contra hnot
      push Not at hnot
      obtain ⟨hunheard, config, hset⟩ := hnot
      -- What the heard part sets is the configuration, and no variable but a heard one sets it.
      have hall := (hfollowed config).mp (ofEnvironment_eq_ok_iff.mpr hset)
      exact hunheard hall.heard_eq
    · rintro (hheard | hrefused) config
      · rw [ofEnvironment_eq_ok_iff, hheard]
      · rw [ofEnvironment_eq_ok_iff]
        refine iff_of_false (hrefused config) fun hset => hrefused config ?_
        rw [hset.heard_eq]
        exact hset
  · intro logLevel flag steps config
    simp only [map_eq_ok_iff, ofEnvironment_eq_ok_iff, override_eq_iff_putOver]

/-- A log level that is no text sets nothing, and yet the environment has a configuration. -/
theorem level_no_text_unnoticed :
    ofEnvironment ⟨some [0xFE], none, none⟩ = .ok default ∧
      ∀ config : Configuration, ¬ config.SetBy ⟨some [0xFE], none, none⟩ := by
  have hunread : Utf8.decode? [0xFE] = none := by decide +kernel
  refine ⟨?_, fun config hset => ?_⟩
  · rw [ofEnvironment_eq_ok_iff]
    have hheard : Environment.heard ⟨some [0xFE], none, none⟩ = ⟨none, none, none⟩ := by
      simp [Environment.heard, Environment.heardValue, hunread]
    rw [hheard]
    exact ⟨rfl, rfl, fun _ => rfl, fun _ hsteps => nomatch hsteps⟩
  · obtain ⟨text, htext, -⟩ := hset.logLevel
    exact nomatch hunread.symm.trans htext

end Configuration

end FeatureDocs
