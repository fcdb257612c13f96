import LogOrigin.Config.Raw
import LogOrigin.Error
import LogOrigin.Text.Casing

/-!
# Configuration

A configuration gives each framework its skip policy, and diagnostics their level. Values that are
out of range are replaced by the defaults with a warning, so every configuration that can be read is
usable. A framework's section adds to the excluded owners that are built in and never takes one
away.
-/

namespace LogOrigin

/-- A checked configuration. -/
structure Config where
  policies : PerFramework SkipPolicy
  /-- The level of diagnostics, as it was written. -/
  logLevel : Option String
  deriving DecidableEq, Repr

/-- Something in a configuration that is not used as it stands. -/
inductive ConfigWarning where
  /-- A value that is replaced by a default. -/
  | outOfRange (field value expected fallback : String)
  /-- More excluded owners than are used. -/
  | tooManyExclusions (f : Framework) (count : Nat)
  /-- An excluded owner that would exclude everything. -/
  | emptyExclusion (f : Framework)
  /-- A file that cannot be used at all. -/
  | unusable (cause : ConfigError)
  deriving DecidableEq, Repr

/-- The wording of a warning. -/
def ConfigWarning.message : ConfigWarning → String
  | outOfRange field value expected fallback =>
    (ConfigError.outOfRange field value expected).message ++ ". Using default (" ++ fallback ++ ")."
  | tooManyExclusions f count =>
    "[" ++ f.key ++ "] exclusion_prefixes has " ++ toString count ++ " entries, maximum is " ++
      toString Limits.exclusions ++ ". Only the first " ++ toString Limits.exclusions ++
      " are used."
  | emptyExclusion f =>
    "[" ++ f.key ++ "] exclusion_prefixes contains an empty string. Ignored."
  | unusable cause => cause.message ++ ". Using defaults."

namespace Config

/-- The configuration unless one is written. -/
def default : Config where
  policies := .make Framework.defaultPolicy
  logLevel := none

/-! ## Checking -/

/-- The mode that a text names, up to case. -/
def modeNamed? (s : String) : Option ExceptionMode :=
  [ExceptionMode.outer, .skipExcluded].find? (·.label == Text.lowercase s)

/-- The mode of a section. -/
def exceptionMode (s : AttributionSection) : ExceptionMode :=
  (s.exceptionMode.bind modeNamed?).getD .outer

/-- The names of the modes, quoted. -/
def modeChoices : String :=
  "\"" ++ ExceptionMode.outer.label ++ "\" or \"" ++ ExceptionMode.skipExcluded.label ++ "\""

/-- What is wrong with the mode of a section. -/
def modeWarnings (s : AttributionSection) : List ConfigWarning :=
  match s.exceptionMode with
  | none => []
  | some name =>
    if (modeNamed? name).isSome then []
    else [.outOfRange "attribution.exception_mode" (Text.lowercase name) modeChoices
      ExceptionMode.outer.label]

/-- The number of frames to skip: the one given, if it is within the limit. -/
def skipFrames (given : Option Nat) (fallback : Nat) : Nat :=
  (given.filter (· ≤ Limits.skippedFrames)).getD fallback

/-- The owners that a section adds, as far as they are used. -/
def usedExclusions (s : FrameworkSection) : List String :=
  (s.exclusions.getD []).take Limits.exclusions

/-- Adds an owner to the excluded ones, unless it is empty or excluded already. -/
def exclude (owners : List String) (owner : String) : List String :=
  if owner = "" || owners.contains owner then owners else owners ++ [owner]

/-- The policy of a framework with the given section. -/
def policy (f : Framework) (s : FrameworkSection) (mode : ExceptionMode) : SkipPolicy where
  skipFrames := skipFrames s.skipFrames f.defaultPolicy.skipFrames
  exclusions := (usedExclusions s).foldl exclude f.defaultPolicy.exclusions
  exceptionMode := mode

/-- What is wrong with the section of a framework. -/
def sectionWarnings (f : Framework) (s : FrameworkSection) : List ConfigWarning :=
  let skip := match s.skipFrames with
    | none => []
    | some n =>
      if n ≤ Limits.skippedFrames then []
      else [.outOfRange (f.key ++ ".skip_frames") (toString n)
        ("0-" ++ toString Limits.skippedFrames) (toString f.defaultPolicy.skipFrames)]
  let count := (s.exclusions.getD []).length
  let many := if count ≤ Limits.exclusions then [] else [.tooManyExclusions f count]
  let empty := ((usedExclusions s).filter (· = "")).map fun _ => .emptyExclusion f
  skip ++ many ++ empty

/-- A level of diagnostics, up to case. -/
def isLogLevel (s : String) : Bool := Limits.logLevels.contains (Text.lowercase s)

/-- What is wrong with the level of diagnostics. -/
def levelWarnings (s : LoggingSection) : List ConfigWarning :=
  match s.level with
  | none => []
  | some level =>
    if isLogLevel level then []
    else [.outOfRange "logging.level" level (", ".intercalate Limits.logLevels)
      Limits.defaultLogLevel]

/-- A configuration with everything in it that can be used. -/
def ofRaw (raw : RawConfig) : Config where
  policies := .make fun f => policy f (raw.frameworks.get f) (exceptionMode raw.attribution)
  logLevel := raw.logging.level.filter isLogLevel

/-- What is wrong with a configuration, in the order of its sections. -/
def warnings (raw : RawConfig) : List ConfigWarning :=
  modeWarnings raw.attribution ++
    Framework.all.flatMap (fun f => sectionWarnings f (raw.frameworks.get f)) ++
    levelWarnings raw.logging

/-! ## Files -/

/-- Reads a configuration off the content of the file at a path. -/
def read (path : String) (content : Except IoError (List UInt8)) : Except ConfigError RawConfig :=
  match content with
  | .error cause => .error (.unreadable path cause)
  | .ok bytes =>
    match textOf? bytes with
    | none => .error (.unreadable path .notText)
    | some s => (Toml.decode RawConfig.decode s).mapError (.unparseable path)

/-- The configuration in a file that was asked for, which must be usable. -/
def loadStrict (path : String) (content : Except IoError (List UInt8)) :
    Except ConfigError (Config × List ConfigWarning) :=
  (read path content).map fun raw => (ofRaw raw, warnings raw)

/-- Whether there is something at a path, as far as reading it tells. -/
def seemsThere : Except IoError (List UInt8) → Bool
  | .ok _ => true
  | .error cause => !cause.isAbsence

theorem seemsThere_of_isOk {content : Except IoError (List UInt8)} (h : content.isOk = true) :
    seemsThere content = true := by
  cases content with
  | ok bytes => rfl
  | error cause => cases h

/-- The configuration in a file that need not be there: `found` says whether a look at its path
finds it. A file that is found and is of no use gives the defaults with one warning, and one that is
not found gives them without, whatever is in the way of it. -/
def loadLenient (path : String) (content : Except IoError (List UInt8))
    (found : Bool := seemsThere content) : Config × List ConfigWarning :=
  if found then
    match loadStrict path content with
    | .ok loaded => loaded
    | .error e => (default, [.unusable e])
  else (default, [])

end Config

end LogOrigin
