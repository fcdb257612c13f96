import LogOrigin.SkipPolicy

/-!
# Frameworks

The logging frameworks whose events are attributed, their tags, and the packages that their own
call paths run through.
-/

namespace LogOrigin

/-- A logging framework. -/
inductive Framework where
  | log4j
  | log4j2
  | logback
  deriving DecidableEq, Repr

namespace Framework

/-- All frameworks. -/
def all : List Framework := [log4j, log4j2, logback]

/-- The name that captured lines and the configuration use. -/
def key : Framework → String
  | log4j => "log4j"
  | log4j2 => "log4j2"
  | logback => "logback"

/-- The tag that records carry. -/
def logSystem : Framework → String
  | log4j => "Log4j"
  | log4j2 => "Log4j2"
  | logback => "Logback"

/-- The packages of a framework's own call path. -/
def packages : Framework → List String
  | log4j => ["org.apache.log4j.", "org.slf4j."]
  | log4j2 => ["org.apache.logging.log4j.", "org.slf4j."]
  | logback => ["ch.qos.logback.", "org.slf4j."]

/-- The policy of a framework unless one is configured. -/
def defaultPolicy (f : Framework) : SkipPolicy := .excluding f.packages

/-- Frameworks by their names. -/
def variants : Decode.Variants Framework where
  plain := all.map fun f => (f.key, f)

end Framework

end LogOrigin
