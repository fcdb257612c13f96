import LogOrigin.Decode.Record
import LogOrigin.PerFramework

/-!
# Configuration as written

The sections of a configuration before their values are checked. Every section and every key may be
left out, and keys that mean nothing are passed over.
-/

namespace LogOrigin

/-- The section on attribution. -/
structure AttributionSection where
  exceptionMode : Option String := none
  deriving DecidableEq, Repr

/-- The section of a framework. -/
structure FrameworkSection where
  skipFrames : Option Nat := none
  exclusions : Option (List String) := none
  deriving DecidableEq, Repr

/-- The section on diagnostics. -/
structure LoggingSection where
  level : Option String := none
  deriving DecidableEq, Repr

/-- A configuration as written. -/
structure RawConfig where
  attribution : AttributionSection := {}
  frameworks : PerFramework FrameworkSection := .make fun _ => {}
  logging : LoggingSection := {}
  deriving DecidableEq, Repr

namespace AttributionSection

/-- The section while it is being read. -/
structure Draft where
  exceptionMode : Option (Option String) := none

/-- How the section is read. -/
def record : Decode.Record Draft AttributionSection where
  phrase := "struct AttributionSection"
  fields := [
    Decode.field "exception_mode" (·.exceptionMode) (fun d v => { d with exceptionMode := v })
      (Decode.nullable Decode.text)]
  blank := {}
  finish d := return ⟨d.exceptionMode.join⟩

/-- Reads the section. -/
def decode : Decode.DeepDecoder AttributionSection :=
  Decode.record record.phrase fun _ => record

end AttributionSection

namespace FrameworkSection

/-- The section while it is being read. -/
structure Draft where
  skipFrames : Option (Option Nat) := none
  exclusions : Option (Option (List String)) := none

/-- How the section is read, with so much depth left inside. -/
def record (depth : Nat) : Decode.Record Draft FrameworkSection where
  phrase := "struct FrameworkSection"
  fields := [
    Decode.field "skip_frames" (·.skipFrames) (fun d v => { d with skipFrames := v })
      (Decode.nullable Decode.size),
    Decode.field "exclusion_prefixes" (·.exclusions) (fun d v => { d with exclusions := v })
      (Decode.nullable (Decode.list (fun _ => Decode.text) depth))]
  blank := {}
  finish d := return ⟨d.skipFrames.join, d.exclusions.join⟩

/-- Reads the section. -/
def decode : Decode.DeepDecoder FrameworkSection :=
  Decode.record "struct FrameworkSection" record

end FrameworkSection

namespace LoggingSection

/-- The section while it is being read. -/
structure Draft where
  level : Option (Option String) := none

/-- How the section is read. -/
def record : Decode.Record Draft LoggingSection where
  phrase := "struct LoggingSection"
  fields := [
    Decode.field "level" (·.level) (fun d v => { d with level := v })
      (Decode.nullable Decode.text)]
  blank := {}
  finish d := return ⟨d.level.join⟩

/-- Reads the section. -/
def decode : Decode.DeepDecoder LoggingSection :=
  Decode.record record.phrase fun _ => record

end LoggingSection

namespace RawConfig

/-- A configuration while it is being read. -/
structure Draft where
  attribution : Option AttributionSection := none
  frameworks : PerFramework (Option FrameworkSection) := .make fun _ => none
  logging : Option LoggingSection := none

/-- The section of a framework as a field. -/
def frameworkField (depth : Nat) (f : Framework) : Decode.Field Draft :=
  Decode.field f.key (·.frameworks.get f)
    (fun d v => { d with frameworks := d.frameworks.set f v }) (FrameworkSection.decode depth)

/-- How a configuration is read, with so much depth left inside. -/
def record (depth : Nat) : Decode.Record Draft RawConfig where
  phrase := "struct RawConfig"
  fields :=
    Decode.field "attribution" (·.attribution) (fun d v => { d with attribution := v })
      (AttributionSection.decode depth) ::
    Framework.all.map (frameworkField depth) ++
    [Decode.field "logging" (·.logging) (fun d v => { d with logging := v })
      (LoggingSection.decode depth)]
  blank := {}
  finish d := return {
    attribution := d.attribution.getD {}
    frameworks := .make fun f => (d.frameworks.get f).getD {}
    logging := d.logging.getD {} }

/-- Reads a configuration. -/
def decode : Decode.DeepDecoder RawConfig :=
  Decode.record "struct RawConfig" record

end RawConfig

end LogOrigin
