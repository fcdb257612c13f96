import LogOrigin.Attribution
import LogOrigin.Framework
import LogOrigin.LogRecord

/-!
# logback events

logback has no level above error; an error with the fatal marker is critical. The caller data, when
there is any, begins with the call site.
-/

namespace LogOrigin.Logback

/-- The levels of logback, and whatever else a bridge reports. -/
inductive Level where
  | off
  | error
  | warn
  | info
  | debug
  | trace
  | all
  | custom (name : String) (value : Int)
  deriving DecidableEq, Repr

namespace Level

/-- The number of a level; higher is more severe. -/
def value : Level → Int
  | off => 2147483647
  | error => 40000
  | warn => 30000
  | info => 20000
  | debug => 10000
  | trace => 5000
  | all => -2147483648
  | custom _ value => value

/-- The place of a level on the common scale. -/
def severity : Level → Severity
  | error => .error
  | warn => .warning
  | info => .information
  | debug | trace => .verbose
  | off | all | custom _ _ => .unknown

/-- The level that filters an event out. -/
def isOff : Level → Bool
  | off => true
  | _ => false

end Level

/-- An event of logback. -/
structure Event where
  timestamp : Option Instant := none
  level : Level
  loggerName : String
  formattedMessage : String := ""
  threadName : Option String := none
  throwableProxy : Option Throwable := none
  /-- The computed call stack, the call site first. -/
  callerData : List StackFrame := []
  markers : List String := []
  mdc : Properties := .empty

namespace Event

/-- Equality of texts up to the case of ASCII letters. -/
def eqIgnoringCase (a b : String) : Bool :=
  a.toList.map Char.toLower == b.toList.map Char.toLower

/-- The event has the marker that makes an error critical. -/
def isMarkedFatal (e : Event) : Bool :=
  e.markers.any fun m => eqIgnoringCase m Limits.fatalMarker

/-- The severity of the level, and critical for an error that is marked fatal. -/
def severity (e : Event) : Severity :=
  if e.level.severity = .error && e.isMarkedFatal then .critical else e.level.severity

/-- The record of an event that is not filtered out; `now` is its time if it has none. -/
def normalize (e : Event) (policy : SkipPolicy) (stack : List StackFrame) (now : Instant) :
    Option LogRecord :=
  if e.level.isOff then none
  else some {
    timestamp := e.timestamp.getD now
    severity := e.severity
    sourceLocation :=
      Attribution.ofEvent (e.callerData.head?.map SourceLocation.ofFrame) policy e.throwableProxy
        stack
    logSystem := Framework.logback.logSystem
    loggerName := e.loggerName
    message := e.formattedMessage
    throwable := e.throwableProxy
    threadInfo := ThreadInfo.of? e.threadName none
    properties := e.mdc }

end Event

end LogOrigin.Logback
