/-!
# Limits and names

Every limit and every name that the program answers to, in one place.
-/

namespace LogOrigin.Limits

/-- The name of the program. -/
def programName : String := "logwhence"

/-- The directory of its configuration. -/
def configDirectory : String := "logwhence"

/-- Its version. -/
def version : String := "1.0.0"

/-- The file name of its configuration. -/
def configFileName : String := "config.toml"

/-- Owners of frames that belong to the attribution machinery itself. -/
def ownFrames : String := "logwhence::"

/-- Owners of frames that belong to the stack walker. -/
def walkerFrames : String := "backtrace::"

/-- The greatest number of innermost frames that a configuration may skip. -/
def skippedFrames : Nat := 64

/-- How many excluded owners a configuration may add for a framework. -/
def exclusions : Nat := 64

/-- How many links of a cause chain are followed, and built from a textual trace. -/
def causeDepth : Nat := 32

/-- The longest captured line that is parsed, in bytes. -/
def lineBytes : Nat := 1024 * 1024

/-- How many malformed lines are reported one by one. -/
def reportedErrors : Nat := 100

/-- The marker that makes an error critical. -/
def fatalMarker : String := "FATAL"

/-- The level of diagnostics unless one is configured. -/
def defaultLogLevel : String := "info"

/-- The levels of diagnostics that may be configured. -/
def logLevels : List String := ["error", "warn", "info", "debug", "trace"]

end LogOrigin.Limits
