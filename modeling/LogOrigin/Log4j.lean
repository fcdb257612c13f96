import LogOrigin.Attribution
import LogOrigin.Framework
import LogOrigin.LogRecord
import LogOrigin.Throwable.Trace

/-!
# log4j events

A log4j event may carry its throwable as an object or as the lines of a textual trace, and its call
site as texts, where `?` stands for what is not available.
-/

namespace LogOrigin.Log4j

/-- The levels of log4j; an application may add its own. -/
inductive Level where
  | off
  | fatal
  | error
  | warn
  | info
  | debug
  | trace
  | all
  | custom (name : String) (value : Int)
  deriving DecidableEq, Repr

namespace Level

/-- The number of a level; higher is more severe. -/
def value : Level → Int
  | off => 2147483647
  | fatal => 50000
  | error => 40000
  | warn => 30000
  | info => 20000
  | debug => 10000
  | trace => 5000
  | all => -2147483648
  | custom _ value => value

/-- The place of a level on the common scale. -/
def severity : Level → Severity
  | fatal => .critical
  | error => .error
  | warn => .warning
  | info => .information
  | debug | trace => .verbose
  | off | all | custom _ _ => .unknown

/-- The level that filters an event out. -/
def isOff : Level → Bool
  | off => true
  | _ => false

end Level

/-- A call site as log4j has it. -/
structure LocationInfo where
  className : Option String := none
  methodName : Option String := none
  fileName : Option String := none
  /-- A decimal number, or `?`. -/
  lineNumber : Option String := none
  deriving DecidableEq, Repr

namespace LocationInfo

/-- A text, unless it says that there is none. -/
def available (s : Option String) : Option String := s.filter (· ≠ "?")

/-- The line, 0 unless it is a number. -/
def line (info : LocationInfo) : Nat :=
  ((available info.lineNumber).bind fun s =>
    Text.readUnsigned (Nat.pow 2 32) (Text.trim s.toList)).getD 0

/-- The location of a call site. -/
def location (info : LocationInfo) : SourceLocation :=
  .of (available info.methodName) (available info.className) (available info.fileName) info.line

end LocationInfo

/-- An event of log4j. -/
structure Event where
  timestamp : Option Instant := none
  level : Level
  loggerName : String
  message : String := ""
  threadName : Option String := none
  throwable : Option Throwable := none
  /-- The throwable as the lines of a trace. -/
  throwableLines : Option (List String) := none
  locationInfo : Option LocationInfo := none
  properties : Properties := .empty

namespace Event

/-- The throwable, rebuilt from its lines if need be. -/
def anyThrowable (e : Event) : Option Throwable :=
  e.throwable <|> e.throwableLines.bind Throwable.ofLines?

/-- The record of an event that is not filtered out; `now` is its time if it has none. -/
def normalize (e : Event) (policy : SkipPolicy) (stack : List StackFrame) (now : Instant) :
    Option LogRecord :=
  if e.level.isOff then none
  else some {
    timestamp := e.timestamp.getD now
    severity := e.level.severity
    sourceLocation :=
      Attribution.ofEvent (e.locationInfo.map (·.location)) policy e.anyThrowable stack
    logSystem := Framework.log4j.logSystem
    loggerName := e.loggerName
    message := e.message
    throwable := e.anyThrowable
    threadInfo := ThreadInfo.of? e.threadName none
    properties := e.properties }

end Event

end LogOrigin.Log4j
