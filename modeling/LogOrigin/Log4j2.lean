import LogOrigin.Attribution
import LogOrigin.Framework
import LogOrigin.LogRecord

/-!
# log4j2 events

A log4j2 event may carry its call site as a frame. Its levels are numbered the other way round:
lower is more severe.
-/

namespace LogOrigin.Log4j2

/-- The levels of log4j2; an application may add its own. -/
inductive Level where
  | off
  | fatal
  | error
  | warn
  | info
  | debug
  | trace
  | all
  | custom (name : String) (intLevel : Nat)
  deriving DecidableEq, Repr

namespace Level

/-- The number of a level; lower is more severe. -/
def intLevel : Level → Nat
  | off => 0
  | fatal => 100
  | error => 200
  | warn => 300
  | info => 400
  | debug => 500
  | trace => 600
  | all => 2147483647
  | custom _ intLevel => intLevel

/-- The name of a level. -/
def name : Level → String
  | off => "OFF"
  | fatal => "FATAL"
  | error => "ERROR"
  | warn => "WARN"
  | info => "INFO"
  | debug => "DEBUG"
  | trace => "TRACE"
  | all => "ALL"
  | custom name _ => name

/-- The place of a level on the common scale. -/
def severity : Level → Severity
  | fatal => .critical
  | error => .error
  | warn => .warning
  | info => .information
  | debug | trace => .verbose
  | off | all | custom _ _ => .unknown

/-- The level that filters an event out. -/
def isOff : Level → Bool
  | off => true
  | _ => false

end Level

/-- An event of log4j2. -/
structure Event where
  instant : Option Instant := none
  level : Level
  /-- Empty for the root logger. -/
  loggerName : String := ""
  message : String := ""
  threadName : Option String := none
  threadId : Option Nat := none
  thrown : Option Throwable := none
  source : Option StackFrame := none
  contextData : Properties := .empty

/-- The record of an event that is not filtered out; `now` is its time if it has none. -/
def Event.normalize (e : Event) (policy : SkipPolicy) (stack : List StackFrame) (now : Instant) :
    Option LogRecord :=
  if e.level.isOff then none
  else some {
    timestamp := e.instant.getD now
    severity := e.level.severity
    sourceLocation :=
      Attribution.ofEvent (e.source.map SourceLocation.ofFrame) policy e.thrown stack
    logSystem := Framework.log4j2.logSystem
    loggerName := e.loggerName
    message := e.message
    throwable := e.thrown
    threadInfo := ThreadInfo.of? e.threadName e.threadId
    properties := e.contextData }

end LogOrigin.Log4j2
