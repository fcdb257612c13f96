import LogOrigin.Config
import Mathlib.Data.List.Nodup

/-!
# Checked configurations

What checking makes of a configuration as it is written. A policy keeps a number of frames to skip
that is within the limit, and extends the owners that are excluded by default by the first
occurrences of what its section adds (`Config.foldl_exclude`). There is one warning for each value
that is not used as it stands, so there is none if and only if every value is valid
(`RawConfig.Valid`). Sections do not disturb each other (`Config.exact_and_local`).
-/

namespace LogOrigin

/-- Every value in the section of a framework is within its limits. -/
structure FrameworkSection.Valid (s : FrameworkSection) : Prop where
  skipFrames : ∀ n, s.skipFrames = some n → n ≤ 64
  few : ∀ owners, s.exclusions = some owners → owners.length ≤ 64
  nonempty : ∀ owners, s.exclusions = some owners → "" ∉ owners

/-- Every value in a configuration is one that is used as it stands. -/
structure RawConfig.Valid (raw : RawConfig) : Prop where
  mode : ∀ name, raw.attribution.exceptionMode = some name →
    Text.lowercase name = "outer" ∨ Text.lowercase name = "skip-excluded"
  sections : ∀ f, (raw.frameworks.get f).Valid
  level : ∀ level, raw.logging.level = some level →
    Text.lowercase level ∈ ["error", "warn", "info", "debug", "trace"]

namespace Config

/-! ## Excluded owners -/

section Exclude

variable {owner : String} {owners : List String}

theorem exclude_of_unused (h : owner = "" ∨ owner ∈ owners) : exclude owners owner = owners := by
  rw [exclude, if_pos]
  rwa [Bool.or_eq_true, decide_eq_true_eq, List.contains_iff_mem]

theorem exclude_of_new (hne : owner ≠ "") (hnew : owner ∉ owners) :
    exclude owners owner = owners ++ [owner] := by
  rw [exclude, if_neg]
  rw [Bool.or_eq_true, decide_eq_true_eq, List.contains_iff_mem]
  exact not_or.mpr ⟨hne, hnew⟩

/-- Excluded owners are extended by the first occurrences of those that are added, in their order,
but for empty ones and for those that are excluded already. -/
theorem foldl_exclude (added owners : List String) :
    added.foldl exclude owners =
      owners ++ (added.filter fun owner => owner ≠ "" ∧ owner ∉ owners).eraseDups := by
  induction added generalizing owners with
  | nil => exact (List.append_nil _).symm
  | cons a added ih =>
    rw [List.foldl_cons, ih]
    by_cases h : a = "" ∨ a ∈ owners
    · rw [exclude_of_unused h, List.filter_cons_of_neg (by simpa [or_iff_not_imp_left] using h)]
    · obtain ⟨hne, hnew⟩ := not_or.mp h
      rw [exclude_of_new hne hnew, List.filter_cons_of_pos (by simp [hne, hnew]),
        List.eraseDups_cons, List.filter_filter, List.append_assoc, List.singleton_append]
      congr 3
      refine List.filter_congr fun b _ => ?_
      rw [Bool.eq_iff_iff]
      simp [and_comm, and_left_comm]

/-- An owner that a section adds to the excluded ones counts unless it is empty. -/
theorem mem_foldl_exclude (added owners : List String) :
    owner ∈ added.foldl exclude owners ↔ owner ∈ owners ∨ owner ∈ added ∧ owner ≠ "" := by
  rw [foldl_exclude, List.mem_append, List.mem_eraseDups, List.mem_filter, decide_eq_true_eq]
  tauto

theorem nodup_foldl_exclude (added : List String) (h : owners.Nodup) :
    (added.foldl exclude owners).Nodup := by
  induction added generalizing owners with
  | nil => exact h
  | cons a added ih =>
    refine ih ?_
    by_cases hused : a = "" ∨ a ∈ owners
    · rwa [exclude_of_unused hused]
    · obtain ⟨hne, hnew⟩ := not_or.mp hused
      rw [exclude_of_new hne hnew]
      refine List.nodup_append.mpr ⟨h, List.nodup_singleton a, fun b hb c hc => ?_⟩
      rw [List.mem_singleton.mp hc]
      exact fun heq => hnew (heq ▸ hb)

theorem length_foldl_exclude_le (added owners : List String) :
    (added.foldl exclude owners).length ≤ owners.length + added.length := by
  induction added generalizing owners with
  | nil => exact Nat.le_refl _
  | cons a added ih =>
    have hone : (exclude owners a).length ≤ owners.length + 1 := by
      rw [exclude]
      split
      · exact Nat.le_succ _
      · exact Nat.le_of_eq List.length_append
    have hrest := ih (exclude owners a)
    rw [List.foldl_cons, List.length_cons]
    omega

end Exclude

/-! ## Policies -/

section Policies

variable (raw : RawConfig) (f : Framework)

/-- The default configuration skips no frames and excludes the built-in owners. -/
theorem policy_default :
    default.policies.get f =
      { exclusions := Limits.ownFrames :: Limits.walkerFrames :: f.packages } :=
  PerFramework.get_make _ f

/-- The owners that a configuration excludes for a framework are the built-in ones and those that it
adds. -/
theorem mem_exclusions_ofRaw (owner : String) :
    owner ∈ ((ofRaw raw).policies.get f).exclusions ↔
      owner ∈ Limits.ownFrames :: Limits.walkerFrames :: f.packages ++
        (((raw.frameworks.get f).exclusions.getD []).take Limits.exclusions).filter (· ≠ "") := by
  rw [ofRaw, PerFramework.get_make, List.mem_append, List.mem_filter, decide_eq_true_eq]
  exact mem_foldl_exclude _ _

theorem skipFrames_some (n fallback : Nat) :
    skipFrames (some n) fallback = if n ≤ Limits.skippedFrames then n else fallback := by
  rw [skipFrames, Option.filter_some]
  by_cases h : n ≤ Limits.skippedFrames
  · rw [if_pos h, if_pos (decide_eq_true h)]
    rfl
  · rw [if_neg h, if_neg (by simpa using h)]
    rfl

theorem skipFrames_ofRaw :
    ((ofRaw raw).policies.get f).skipFrames =
      match (raw.frameworks.get f).skipFrames with
      | some n => if n ≤ Limits.skippedFrames then n else (default.policies.get f).skipFrames
      | none => (default.policies.get f).skipFrames := by
  rw [ofRaw, PerFramework.get_make, policy_default]
  simp only [policy]
  cases (raw.frameworks.get f).skipFrames with
  | none => rfl
  | some n => exact skipFrames_some n _

/-- No configuration skips more frames than the limit. -/
theorem skipFrames_ofRaw_le :
    ((ofRaw raw).policies.get f).skipFrames ≤ Limits.skippedFrames := by
  rw [skipFrames_ofRaw, policy_default]
  split
  · split
    · assumption
    · exact Nat.zero_le _
  · exact Nat.zero_le _

theorem exclusions_ofRaw :
    ((ofRaw raw).policies.get f).exclusions =
      (usedExclusions (raw.frameworks.get f)).foldl exclude (default.policies.get f).exclusions := by
  rw [ofRaw, default, PerFramework.get_make, PerFramework.get_make]
  rfl

/-- The built-in owners are no two the same, and none is empty. -/
theorem nodup_exclusions_default :
    (default.policies.get f).exclusions.Nodup ∧ "" ∉ (default.policies.get f).exclusions := by
  cases f <;> decide +kernel

theorem exceptionMode_ofRaw :
    ((ofRaw raw).policies.get f).exceptionMode = exceptionMode raw.attribution := by
  rw [ofRaw, PerFramework.get_make]
  rfl

end Policies

/-! ## The exception mode -/

theorem modeNamed?_eq (name : String) :
    modeNamed? name =
      if Text.lowercase name = "outer" then some .outer
      else if Text.lowercase name = "skip-excluded" then some .skipExcluded
      else none := by
  rw [modeNamed?]
  generalize Text.lowercase name = s
  by_cases houter : s = "outer"
  · rw [if_pos houter, houter]
    rfl
  · rw [if_neg houter, List.find?_cons_of_neg (by simpa [ExceptionMode.label] using Ne.symm houter)]
    by_cases hskip : s = "skip-excluded"
    · rw [if_pos hskip, hskip]
      rfl
    · rw [if_neg hskip, List.find?_cons_of_neg (by simpa [ExceptionMode.label] using Ne.symm hskip)]
      rfl

/-- Excluded throwables are passed over only where the mode is named, up to case. -/
theorem exceptionMode_eq_skipExcluded_iff (s : AttributionSection) :
    exceptionMode s = .skipExcluded ↔
      ∃ name, s.exceptionMode = some name ∧ Text.lowercase name = "skip-excluded" := by
  rw [exceptionMode]
  cases s.exceptionMode with
  | none => simp
  | some name =>
    simp only [Option.bind_some, modeNamed?_eq, Option.some.injEq, exists_eq_left']
    by_cases houter : Text.lowercase name = "outer"
    · rw [if_pos houter, houter]
      exact iff_of_false nofun (by decide)
    · rw [if_neg houter]
      by_cases hskip : Text.lowercase name = "skip-excluded"
      · rw [if_pos hskip]
        exact iff_of_true rfl hskip
      · rw [if_neg hskip]
        exact iff_of_false nofun hskip

/-! ## Warnings -/

section Warnings

variable {α : Type}

/-- The warning about a value, if one is given that is not accepted. -/
def refusal (accepts : α → Prop) [DecidablePred accepts] (warning : α → ConfigWarning) :
    Option α → List ConfigWarning
  | none => []
  | some a => if accepts a then [] else [warning a]

/-- What is said about the section of a framework: one warning for a number that is too great, one
for too many owners, and one for each empty one among those that are used. -/
def sectionRefusals (f : Framework) (s : FrameworkSection) : List ConfigWarning :=
  refusal (· ≤ 64) (fun n => .outOfRange (f.key ++ ".skip_frames") (toString n) "0-64"
    (toString (default.policies.get f).skipFrames)) s.skipFrames ++
  refusal (·.length ≤ 64) (fun owners => .tooManyExclusions f owners.length) s.exclusions ++
  List.replicate (((s.exclusions.getD []).take 64).count "") (.emptyExclusion f)

/-- What is said about a configuration, section by section. -/
def refusals (raw : RawConfig) : List ConfigWarning :=
  refusal (fun name => Text.lowercase name = "outer" ∨ Text.lowercase name = "skip-excluded")
    (fun name => .outOfRange "attribution.exception_mode" (Text.lowercase name)
      "\"outer\" or \"skip-excluded\"" "outer") raw.attribution.exceptionMode ++
  [Framework.log4j, .log4j2, .logback].flatMap
    (fun f => sectionRefusals f (raw.frameworks.get f)) ++
  refusal (fun level => Text.lowercase level ∈ ["error", "warn", "info", "debug", "trace"])
    (fun level => .outOfRange "logging.level" level "error, warn, info, debug, trace" "info")
    raw.logging.level

theorem refusal_eq_nil_iff {accepts : α → Prop} [DecidablePred accepts]
    {warning : α → ConfigWarning} {given : Option α} :
    refusal accepts warning given = [] ↔ ∀ a, given = some a → accepts a := by
  cases given with
  | none => simp [refusal]
  | some a => simp [refusal]

theorem modeWarnings_eq (s : AttributionSection) :
    modeWarnings s = refusal
      (fun name => Text.lowercase name = "outer" ∨ Text.lowercase name = "skip-excluded")
      (fun name => .outOfRange "attribution.exception_mode" (Text.lowercase name)
        "\"outer\" or \"skip-excluded\"" "outer") s.exceptionMode := by
  rw [modeWarnings]
  cases s.exceptionMode with
  | none => rfl
  | some name =>
    have hnamed : (modeNamed? name).isSome = true ↔
        Text.lowercase name = "outer" ∨ Text.lowercase name = "skip-excluded" := by
      rw [modeNamed?_eq]
      split
      · rename_i houter
        exact iff_of_true rfl (.inl houter)
      · rename_i houter
        rw [or_iff_right houter]
        split <;> rename_i hskip <;> simp [hskip]
    rw [refusal]
    exact if_congr hnamed rfl rfl

theorem levelWarnings_eq (s : LoggingSection) :
    levelWarnings s = refusal
      (fun level => Text.lowercase level ∈ ["error", "warn", "info", "debug", "trace"])
      (fun level => .outOfRange "logging.level" level "error, warn, info, debug, trace" "info")
      s.level := by
  rw [levelWarnings]
  cases s.level with
  | none => rfl
  | some level => exact if_congr List.contains_iff_mem rfl rfl

theorem sectionWarnings_eq (f : Framework) (s : FrameworkSection) :
    sectionWarnings f s = sectionRefusals f s := by
  rw [sectionWarnings, sectionRefusals, policy_default]
  refine congrArg₂ _ (congrArg₂ _ ?skip ?few) ?nonempty
  case skip => cases s.skipFrames <;> rfl
  case few => cases s.exclusions <;> rfl
  case nonempty =>
    rw [List.filter_eq, List.map_replicate]
    rfl

/-- Nothing is said about a section if and only if all its values are valid. -/
theorem sectionRefusals_eq_nil_iff (f : Framework) (s : FrameworkSection) :
    sectionRefusals f s = [] ↔ s.Valid := by
  rw [sectionRefusals, List.append_eq_nil_iff, List.append_eq_nil_iff, refusal_eq_nil_iff,
    refusal_eq_nil_iff, List.replicate_eq_nil_iff, List.count_eq_zero]
  constructor
  · rintro ⟨⟨hskip, hfew⟩, hempty⟩
    refine ⟨hskip, hfew, fun owners howners => ?_⟩
    rw [howners] at hempty
    rwa [Option.getD_some, List.take_of_length_le (hfew owners howners)] at hempty
  · rintro ⟨hskip, hfew, hnonempty⟩
    refine ⟨⟨hskip, hfew⟩, fun hmem => ?_⟩
    cases howners : s.exclusions with
    | none =>
      rw [howners] at hmem
      cases hmem
    | some owners =>
      rw [howners] at hmem
      exact hnonempty owners howners (List.mem_of_mem_take hmem)

/-- The warnings come in the order of the sections. -/
theorem warnings_eq (raw : RawConfig) : warnings raw = refusals raw := by
  rw [warnings, modeWarnings_eq, levelWarnings_eq]
  simp only [sectionWarnings_eq]
  rfl

/-- There is no warning if and only if all values are valid. -/
theorem warnings_eq_nil_iff (raw : RawConfig) : warnings raw = [] ↔ raw.Valid := by
  rw [warnings_eq, refusals, List.append_eq_nil_iff, List.append_eq_nil_iff, refusal_eq_nil_iff,
    refusal_eq_nil_iff, List.flatMap_eq_nil_iff]
  constructor
  · rintro ⟨⟨hmode, hsections⟩, hlevel⟩
    refine ⟨hmode, fun f => ?_, hlevel⟩
    exact (sectionRefusals_eq_nil_iff f _).mp (hsections f (by cases f <;> decide))
  · rintro ⟨hmode, hsections, hlevel⟩
    exact ⟨⟨hmode, fun f _ => (sectionRefusals_eq_nil_iff f _).mpr (hsections f)⟩, hlevel⟩

end Warnings

/-- Each framework skips the number of frames that its section gives, if that is within the limit,
and excludes the built-in owners and then the first occurrences of those that its section adds; all
frameworks have one mode. A policy depends on its own section and the one on attribution, the level
of diagnostics on the section on logging. Each value that is not used as it stands has one warning,
in the order of the sections, so there is none if and only if every value is valid. -/
theorem exact_and_local (raw : RawConfig) :
    (∀ f : Framework,
      let s := raw.frameworks.get f
      let policy := (ofRaw raw).policies.get f
      let fallback := default.policies.get f
      let used := (s.exclusions.getD []).take 64
      (policy.skipFrames = match s.skipFrames with
        | some n => if n ≤ 64 then n else fallback.skipFrames
        | none => fallback.skipFrames) ∧
      policy.exclusions = fallback.exclusions ++
        (used.filter fun owner => owner ≠ "" ∧ owner ∉ fallback.exclusions).eraseDups ∧
      fallback.exclusions <+: policy.exclusions ∧ "" ∉ policy.exclusions ∧
      policy.exclusions.Nodup ∧
      policy.exclusions.length ≤ fallback.exclusions.length + 64 ∧
      ∀ other : RawConfig, other.attribution = raw.attribution → other.frameworks.get f = s →
        (ofRaw other).policies.get f = policy) ∧
    (∃ mode : ExceptionMode, (∀ f, ((ofRaw raw).policies.get f).exceptionMode = mode) ∧
      (mode = .skipExcluded ↔ ∃ name, raw.attribution.exceptionMode = some name ∧
        Text.lowercase name = "skip-excluded")) ∧
    (∀ other : RawConfig, other.logging = raw.logging →
      (ofRaw other).logLevel = (ofRaw raw).logLevel) ∧
    warnings raw = refusals raw ∧
    (warnings raw = [] ↔ raw.Valid) := by
  refine ⟨fun f => ?_, ⟨_, fun f => exceptionMode_ofRaw raw f,
    exceptionMode_eq_skipExcluded_iff raw.attribution⟩, fun other hlogging => ?_,
    warnings_eq raw, warnings_eq_nil_iff raw⟩
  · intro s policy fallback used
    obtain ⟨hnodup, hnonempty⟩ := nodup_exclusions_default f
    have hexclusions : policy.exclusions = used.foldl exclude fallback.exclusions :=
      exclusions_ofRaw raw f
    have hused : used.length ≤ 64 := List.length_take_le 64 _
    refine ⟨skipFrames_ofRaw raw f, ?_, ?_, ?_, ?_, ?_, fun other hattribution hsection => ?_⟩
    · rw [hexclusions, foldl_exclude]
    · rw [hexclusions, foldl_exclude]
      exact List.prefix_append ..
    · rw [hexclusions, mem_foldl_exclude, not_or]
      exact ⟨hnonempty, fun h => h.2 rfl⟩
    · rw [hexclusions]
      exact nodup_foldl_exclude used hnodup
    · rw [hexclusions]
      exact Nat.le_trans (length_foldl_exclude_le used _) (Nat.add_le_add_left hused _)
    · simp only [policy, ofRaw, PerFramework.get_make, hattribution, hsection, s]
  · rw [ofRaw, ofRaw, hlogging]

end Config

end LogOrigin
