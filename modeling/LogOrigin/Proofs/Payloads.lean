import LogOrigin.CapturedEvent
import LogOrigin.Instant.Epoch
import LogOrigin.Proofs.TraceRoundTrip
import Mathlib.Data.List.Forall2

/-!
# Payloads

The frameworks have their own words for what an application logs: a level, a logger and a message,
and perhaps a thread, a throwable and the call site. One payload in the words of each of them
(`Payload.event`) comes to one record but for the tag (`Payload.normalize_event`).
-/

namespace LogOrigin

/-- What an application logs at. The number of a level of its own differs between frameworks. -/
inductive Payload.Level where
  | off
  | fatal
  | error
  | warn
  | info
  | debug
  | trace
  | all
  | custom (name : String) (log4j : Int) (log4j2 : Nat) (logback : Int)
  deriving DecidableEq

/-- What an application logs, in no framework's words. -/
structure Payload where
  level : Payload.Level
  loggerName : String
  message : String
  timestamp : Instant
  threadName : Option String := none
  properties : Properties := .empty
  throwable : Option Throwable := none
  callSite : Option StackFrame := none

namespace Payload

namespace Level

def log4j : Level → Log4j.Level
  | off => .off
  | fatal => .fatal
  | error => .error
  | warn => .warn
  | info => .info
  | debug => .debug
  | trace => .trace
  | all => .all
  | custom name value _ _ => .custom name value

def log4j2 : Level → Log4j2.Level
  | off => .off
  | fatal => .fatal
  | error => .error
  | warn => .warn
  | info => .info
  | debug => .debug
  | trace => .trace
  | all => .all
  | custom name _ value _ => .custom name value

/-- There is no level above error in logback. -/
def logback : Level → Logback.Level
  | off => .off
  | fatal | error => .error
  | warn => .warn
  | info => .info
  | debug => .debug
  | trace => .trace
  | all => .all
  | custom name _ _ value => .custom name value

/-- The place of a level on the common scale. -/
def severity : Level → Severity
  | fatal => .critical
  | error => .error
  | warn => .warning
  | info => .information
  | debug | trace => .verbose
  | off | all | custom _ _ _ _ => .unknown

end Level

/-- The fatal marker with letters of either case. -/
def IsFatalMarker (m : String) : Prop :=
  List.Forall₂ (fun c letter => c = letter ∨ c = letter.toLower) m.toList
    Limits.fatalMarker.toList

/-- The markers that an event of logback may have at a level: they tell whether an error is fatal,
and are of no account at other levels. -/
def Markers (level : Level) (markers : List String) : Prop :=
  match level with
  | .fatal => ∃ m ∈ markers, IsFatalMarker m
  | .error => ∀ m ∈ markers, ¬ IsFatalMarker m
  | _ => True

/-- A frame that log4j can name: none of its texts stands for what is not available, and its line
is a number of 32 bits. -/
structure Nameable (frame : StackFrame) : Prop where
  className : frame.className ≠ "?"
  methodName : frame.methodName ≠ "?"
  fileName : frame.fileName ≠ some "?"
  line : frame.lineNumber < Nat.pow 2 32

/-- The frame as log4j has it. -/
def locationInfo (frame : StackFrame) : Log4j.LocationInfo where
  className := some frame.className
  methodName := some frame.methodName
  fileName := frame.fileName
  lineNumber := some (toString frame.lineNumber)

/-- A payload in the words of log4j. -/
def log4j (p : Payload) : Log4j.Event where
  timestamp := some p.timestamp
  level := p.level.log4j
  loggerName := p.loggerName
  message := p.message
  threadName := p.threadName
  throwable := p.throwable
  locationInfo := p.callSite.map locationInfo
  properties := p.properties

/-- A payload in the words of log4j2. -/
def log4j2 (p : Payload) : Log4j2.Event where
  instant := some p.timestamp
  level := p.level.log4j2
  loggerName := p.loggerName
  message := p.message
  threadName := p.threadName
  thrown := p.throwable
  source := p.callSite
  contextData := p.properties

/-- A payload in the words of logback, where frames may come after the call site, and markers may be
attached. -/
def logback (p : Payload) (further : List StackFrame) (markers : List String) : Logback.Event where
  timestamp := some p.timestamp
  level := p.level.logback
  loggerName := p.loggerName
  formattedMessage := p.message
  threadName := p.threadName
  throwableProxy := p.throwable
  callerData := match p.callSite with
    | some frame => frame :: further
    | none => []
  markers
  mdc := p.properties

/-- A payload in the words of a framework. -/
def event (p : Payload) (further : List StackFrame) (markers : List String) :
    Framework → CapturedEvent
  | .log4j => .log4j p.log4j
  | .log4j2 => .log4j2 p.log4j2
  | .logback => .logback (p.logback further markers)

/-! ## Markers -/

theorem toLower_of_isUpper {c : Char} (h : c.isUpper = true) :
    c.toLower.toNat = c.toNat + 32 := by
  have hbounds : c.val ≥ 'A'.val ∧ c.val ≤ 'Z'.val := of_decide_eq_true h
  have hle : c.val.toNat ≤ 90 := hbounds.2
  have hmod : (c.val.toNat + 32) % 2 ^ 32 = c.val.toNat + 32 := Nat.mod_eq_of_lt (by omega)
  exact (congrArg Char.toNat (dif_pos hbounds)).trans hmod

theorem toLower_of_not_isUpper {c : Char} (h : c.isUpper = false) : c.toLower = c :=
  dif_neg (of_decide_eq_false h)

/-- What becomes the small letter of a capital is one of the two. -/
theorem toLower_eq_iff {c capital : Char} (h : capital.isUpper = true) :
    c.toLower = capital.toLower ↔ c = capital ∨ c = capital.toLower := by
  have hsmall := toLower_of_isUpper h
  have hletter : ∀ {c : Char}, c.isUpper = true → 65 ≤ c.toNat ∧ c.toNat ≤ 90 :=
    fun hc => of_decide_eq_true hc
  cases hc : c.isUpper with
  | true =>
    have hlower := toLower_of_isUpper hc
    constructor
    · intro heq
      rw [heq, hsmall] at hlower
      exact .inl (Char.toNat_inj.mp (by omega))
    · rintro (rfl | heq)
      · rfl
      · -- a capital is not a small letter
        have hc' := hletter hc
        have hcapital := hletter h
        rw [heq, hsmall] at hc'
        omega
  | false =>
    rw [toLower_of_not_isUpper hc]
    refine (or_iff_right fun heq => ?_).symm
    rw [heq, h] at hc
    cases hc

/-- Comparing a text to the marker up to case tells whether it is the marker with letters of either
case. -/
theorem eqIgnoringCase_iff (m : String) :
    Logback.Event.eqIgnoringCase m Limits.fatalMarker = true ↔ IsFatalMarker m := by
  have hletters : ∀ letters : List Char, (∀ letter ∈ letters, letter.isUpper = true) → ∀ cs,
      cs.map Char.toLower = letters.map Char.toLower ↔
        List.Forall₂ (fun c letter => c = letter ∨ c = letter.toLower) cs letters := by
    intro letters
    induction letters with
    | nil => simp
    | cons letter letters ih =>
      intro hall cs
      cases cs with
      | nil => simp
      | cons c cs =>
        rw [List.map_cons, List.map_cons, List.cons.injEq, List.forall₂_cons,
          toLower_eq_iff (hall letter List.mem_cons_self),
          ih fun l hl => hall l (List.mem_cons_of_mem _ hl)]
  have hcapitals : Limits.fatalMarker.toList.all Char.isUpper = true := by decide
  rw [Logback.Event.eqIgnoringCase, beq_iff_eq]
  exact hletters _ (List.all_eq_true.mp hcapitals) _

/-! ## Call sites -/

/-- The numeral of a line is read as the line. -/
theorem readUnsigned_trim_toString {n : Nat} (h : n < Nat.pow 2 32) :
    Text.readUnsigned (Nat.pow 2 32) (Text.trim (toString n).toList) = some n := by
  rw [Throwable.trim_eq_self fun c hc => Text.isBlank_of_isDigit (Text.isDigit_of_mem_toString hc)]
  exact Text.readUnsigned_toString h

theorem available_of_ne {s : Option String} (h : s ≠ some "?") :
    Log4j.LocationInfo.available s = s := by
  cases s with
  | none => rfl
  | some s =>
    have hne : s ≠ "?" := fun heq => h (congrArg some heq)
    simp [Log4j.LocationInfo.available, Option.filter, hne]

/-- No numeral stands for what is not available. -/
theorem toString_ne (n : Nat) : toString n ≠ "?" := by
  intro h
  have hdigit := Text.isDigit_of_mem_toString (n := n) (c := '?') (by rw [h]; decide)
  cases hdigit

/-- The words of log4j say where a frame is. -/
theorem location_locationInfo {frame : StackFrame} (h : Nameable frame) :
    (locationInfo frame).location = .ofFrame frame := by
  have hclass := available_of_ne fun heq => h.className (Option.some.inj heq)
  have hmethod := available_of_ne fun heq => h.methodName (Option.some.inj heq)
  have hline := available_of_ne fun heq => toString_ne frame.lineNumber (Option.some.inj heq)
  simp only [locationInfo, Log4j.LocationInfo.location, Log4j.LocationInfo.line, hclass, hmethod,
    hline, available_of_ne h.fileName, Option.bind_some, readUnsigned_trim_toString h.line,
    Option.getD_some, SourceLocation.ofFrame]

/-! ## Records -/

/-- The record of a payload, but for the tag. -/
def record (p : Payload) (policy : SkipPolicy) (stack : List StackFrame) : LogRecord where
  timestamp := p.timestamp
  severity := p.level.severity
  sourceLocation :=
    Attribution.ofEvent (p.callSite.map SourceLocation.ofFrame) policy p.throwable stack
  logSystem := ""
  loggerName := p.loggerName
  message := p.message
  throwable := p.throwable
  threadInfo := p.threadName.map fun name => ⟨some name, none⟩
  properties := p.properties

section Records

variable {p : Payload} {further : List StackFrame} {markers : List String}

/-- In the words of every framework, the level is the one that filters out or it is not. -/
theorem isOff_event (p : Payload) (further : List StackFrame) (markers : List String)
    (f : Framework) : (p.event further markers f).isOff = decide (p.level = .off) := by
  obtain ⟨level⟩ := p
  cases f <;> cases level <;> rfl

/-- logback comes to the common severity with the help of markers. -/
theorem severity_logback (p : Payload) (further : List StackFrame)
    (hmarkers : Markers p.level markers) :
    (p.logback further markers).severity = p.level.severity := by
  have hmarked : (p.logback further markers).isMarkedFatal = true ↔
      ∃ m ∈ markers, IsFatalMarker m := by
    simp only [Logback.Event.isMarkedFatal, List.any_eq_true, eqIgnoringCase_iff]
    rfl
  have hlevel : (p.logback further markers).level = p.level.logback := rfl
  rw [Logback.Event.severity, hlevel]
  cases hp : p.level with
  | fatal =>
    rw [hp] at hmarkers
    rw [hmarked.mpr hmarkers]
    rfl
  | error =>
    rw [hp] at hmarkers
    have hplain : (p.logback further markers).isMarkedFatal = false := by
      rw [Bool.eq_false_iff, Ne, hmarked]
      rintro ⟨m, hm, hfatal⟩
      exact hmarkers m hm hfatal
    rw [hplain]
    rfl
  | off | warn | info | debug | trace | all | custom name log4j log4j2 logback => rfl

theorem location_log4j (hsite : ∀ frame ∈ p.callSite, Nameable frame) :
    p.log4j.locationInfo.map (·.location) = p.callSite.map SourceLocation.ofFrame := by
  rw [log4j]
  cases hframe : p.callSite with
  | none => rfl
  | some frame => exact congrArg some (location_locationInfo (hsite frame hframe))

theorem location_logback (p : Payload) (further : List StackFrame) (markers : List String) :
    (p.logback further markers).callerData.head?.map SourceLocation.ofFrame =
      p.callSite.map SourceLocation.ofFrame := by
  rw [logback]
  cases p.callSite <;> rfl

theorem threadInfo_of? (name : Option String) :
    ThreadInfo.of? name none = name.map fun name => ⟨some name, none⟩ := by
  cases name <;> rfl

/-- The words of a framework for a payload come to its record. -/
theorem normalize_event (hsite : ∀ frame ∈ p.callSite, Nameable frame)
    (hmarkers : Markers p.level markers) (hon : p.level ≠ .off) (policy : SkipPolicy)
    (stack : List StackFrame) (f : Framework) (now : Instant) :
    (p.event further markers f).normalize policy stack now =
      some { p.record policy stack with logSystem := f.logSystem } := by
  have hoff := isOff_event p further markers f
  rw [decide_eq_false hon] at hoff
  have hkept : ¬ (p.event further markers f).isOff = true := by rw [hoff]; decide
  have hthread := threadInfo_of? p.threadName
  cases f with
  | log4j =>
    have hseverity : p.log4j.level.severity = p.level.severity := by
      rw [log4j]
      cases p.level <;> rfl
    have hthrowable : p.log4j.anyThrowable = p.throwable := by
      rw [log4j, Log4j.Event.anyThrowable]
      cases p.throwable <;> rfl
    refine (if_neg hkept).trans ?_
    rw [hseverity, hthrowable, location_log4j hsite]
    exact congrArg some (by rw [record, ← hthread]; rfl)
  | log4j2 =>
    have hseverity : p.log4j2.level.severity = p.level.severity := by
      rw [log4j2]
      cases p.level <;> rfl
    refine (if_neg hkept).trans ?_
    rw [hseverity]
    exact congrArg some (by rw [record, ← hthread]; rfl)
  | logback =>
    refine (if_neg hkept).trans ?_
    rw [severity_logback p further hmarkers, location_logback p further markers]
    exact congrArg some (by rw [record, ← hthread]; rfl)

end Records

/-- Whatever an application logs, the frameworks' words for it come to no record if its level is off,
and otherwise to one record but for the tag: what is logged is carried over as it is, the level has
its place on the common scale, and the event is attributed to the call site if that says anything,
and otherwise as the policy has it. -/
theorem normalize_alike (p : Payload) (further : List StackFrame) (markers : List String)
    (hsite : ∀ frame ∈ p.callSite, Nameable frame) (hmarkers : Markers p.level markers)
    (policy : SkipPolicy) (stack : List StackFrame) :
    (∀ f now, (p.event further markers f).normalize policy stack now = none ↔ p.level = .off) ∧
    (p.level ≠ .off → ∃ r : LogRecord,
      (∀ f now, (p.event further markers f).normalize policy stack now =
        some { r with logSystem := f.logSystem }) ∧
      r.timestamp = p.timestamp ∧ r.severity = p.level.severity ∧ r.loggerName = p.loggerName ∧
      r.message = p.message ∧ r.throwable = p.throwable ∧ r.properties = p.properties ∧
      (r.threadInfo = p.threadName.map fun name => ⟨some name, none⟩) ∧
      (∀ frame ∈ p.callSite, SourceLocation.ofFrame frame ≠ .unknown →
        r.sourceLocation = .ofFrame frame) ∧
      ((∀ frame ∈ p.callSite, SourceLocation.ofFrame frame = .unknown) →
        r.sourceLocation = Attribution.locate policy p.throwable stack)) := by
  refine ⟨fun f now => ?_, fun hon => ⟨p.record policy stack,
    normalize_event hsite hmarkers hon policy stack, rfl, rfl, rfl, rfl, rfl, rfl, rfl, ?_, ?_⟩⟩
  · constructor
    · intro hnone
      by_contra hon
      rw [normalize_event hsite hmarkers hon] at hnone
      cases hnone
    · intro hlevel
      have hoff := isOff_event p further markers f
      rw [decide_eq_true hlevel] at hoff
      cases f <;> exact if_pos hoff
  · intro frame hframe hknown
    have hsome : p.callSite = some frame := hframe
    have hnot : (SourceLocation.ofFrame frame).isUnknown = false := beq_eq_false_iff_ne.mpr hknown
    simp only [record, hsome, Option.map_some, Attribution.ofEvent, hnot, Bool.false_eq_true,
      if_false]
  · intro hunknown
    cases hsite' : p.callSite with
    | none => simp only [record, hsite', Option.map_none, Attribution.ofEvent]
    | some frame =>
      have hisUnknown : (SourceLocation.ofFrame frame).isUnknown = true :=
        beq_iff_eq.mpr (hunknown frame hsite')
      simp only [record, hsite', Option.map_some, Attribution.ofEvent, hisUnknown, if_true]

/-- A fatal event with its call site: an error in logback, with a marker in mixed case. -/
theorem normalize_alike_fatal :
    let site : StackFrame := ⟨"app.Main", "run", some "Main.java", 7⟩
    let p : Payload :=
      { level := .fatal, loggerName := "app", message := "down", timestamp := .ofNanoseconds 0,
        callSite := some site }
    ∃ r : LogRecord,
      (∀ f now, (p.event [site] ["Fatal"] f).normalize .none [] now =
        some { r with logSystem := f.logSystem }) ∧
      r.severity = .critical ∧ r.sourceLocation = .ofFrame site := by
  intro site p
  have hsite : ∀ frame ∈ p.callSite, Nameable frame := by
    intro frame hframe
    cases hframe
    exact ⟨by decide, by decide, by decide, by decide⟩
  have hmarkers : Markers p.level ["Fatal"] :=
    ⟨"Fatal", List.mem_singleton.mpr rfl, (eqIgnoringCase_iff "Fatal").mp (by decide)⟩
  obtain ⟨-, hrecord⟩ := normalize_alike p [site] ["Fatal"] hsite hmarkers .none []
  obtain ⟨r, hevents, -, hseverity, -, -, -, -, -, hlocation, -⟩ := hrecord (by decide)
  exact ⟨r, hevents, hseverity, hlocation site rfl (by decide)⟩

end Payload

end LogOrigin
