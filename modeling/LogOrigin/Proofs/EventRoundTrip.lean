import LogOrigin.CapturedEvent
import LogOrigin.Proofs.RecordMembers
import LogOrigin.Proofs.RecordText

/-!
# Events written and read back

An event is read back from its own text exactly as it was, unless it holds a frame or a throwable:
these are written with the keys of the records and read with those of the frameworks, so that none
of them is ever read back.
-/

namespace LogOrigin

open Json (Node Value)
open Decode.Record (take_field)

/-! ## Values -/

namespace Decode

variable {α : Type} {origin : Origin} {depth : Nat}

theorem ofValue_ne_null {v : Value} (h : v ≠ .null) : Node.ofValue v ≠ .null := by
  cases v with
  | null => exact absurd rfl h
  | _ => rw [Node.ofValue]; exact fun hnull => by cases hnull

theorem nullable_of_ne_null {decode : Decoder α} {node : Node} (h : node ≠ .null) :
    nullable decode origin node = some <$> decode origin node := by
  cases node with
  | null => exact absurd rfl h
  | _ => rfl

/-- What is read back where it is present is read back where it may be absent. -/
theorem nullable_optional {decode : Decoder α} {f : α → Value} {a? : Option α}
    (hnull : ∀ a, f a ≠ .null) (h : ∀ a ∈ a?, decode origin (.ofValue (f a)) = .ok a) :
    nullable decode origin (.ofValue (.optional f a?)) = .ok a? := by
  cases a? with
  | none => rfl
  | some a =>
    rw [Value.optional, nullable_of_ne_null (ofValue_ne_null (hnull a)), h a rfl]
    rfl

theorem nullable_text (s? : Option String) (origin : Origin) :
    nullable text origin (.ofValue (.optional .text s?)) = .ok s? :=
  nullable_optional (fun s hs => by cases hs) fun _ _ => rfl

/-- A time that was read is read back. -/
theorem nullable_instant {t? : Option Instant} (h : ∀ t ∈ t?, ∃ s, Instant.parse s = .ok t)
    (origin : Origin) :
    nullable instant origin (.ofValue (.optional (fun t => .text t.text) t?)) = .ok t? := by
  refine nullable_optional (fun t ht => by cases ht) fun t ht => ?_
  obtain ⟨s, hs⟩ := h t ht
  have hread := (Instant.isValid_of_parse hs).parse_text
  simp only [Node.ofValue, instant, ofText, bind, Except.bind, hread]
  rfl

/-- An integer between the bounds is read as itself. -/
theorem integer_ofValue {least greatest i : Int} (hleast : least ≤ i) (hgreatest : i ≤ greatest)
    (wanted : Expectation) :
    integer wanted least greatest origin (.ofValue (.number (.integer i))) = .ok i := by
  have hbounds : (least ≤ i && i ≤ greatest) = true := by simp [hleast, hgreatest]
  rw [Node.ofValue, integer, if_pos hbounds]

theorem signed32_ofValue {i : Int} (hleast : -2147483648 ≤ i) (hgreatest : i ≤ 2147483647) :
    signed32 origin (.ofValue (.number (.integer i))) = .ok i := by
  have hpow : Int.pow 2 31 = 2147483648 := by decide
  rw [signed32, hpow]
  exact integer_ofValue hleast hgreatest _

theorem unsigned32_ofValue {n : Nat} (h : n < Nat.pow 2 32) :
    unsigned32 origin (.ofValue (.natural n)) = .ok n := by
  have hle : (n : Int) ≤ Int.pow 2 32 - 1 := by
    have hpow : Int.pow 2 32 = (Nat.pow 2 32 : Nat) := by decide
    omega
  rw [unsigned32, Value.natural, integer_ofValue (Int.natCast_nonneg n) hle]
  rfl

theorem unsigned64_ofValue {n : Nat} (h : n < Nat.pow 2 64) :
    unsigned64 origin (.ofValue (.natural n)) = .ok n := by
  have hle : (n : Int) ≤ Int.pow 2 64 - 1 := by
    have hpow : Int.pow 2 64 = (Nat.pow 2 64 : Nat) := by decide
    omega
  rw [unsigned64, Value.natural, integer_ofValue (Int.natCast_nonneg n) hle]
  rfl

/-- Items that are read back one by one are read back as a list. -/
theorem list_ofValue {item : DeepDecoder α} {f : α → Value} {items : List α}
    (h : ∀ a ∈ items, item depth origin (.ofValue (f a)) = .ok a) :
    list item (depth + 1) origin (.ofValue (.list (items.map f))) = .ok items := by
  have hitems : ((items.map f).map Node.ofValue).mapM (item depth origin) = .ok items := by
    induction items with
    | nil => rfl
    | cons a rest ih =>
      rw [List.map_cons, List.map_cons, List.mapM_cons, h a (List.mem_cons_self ..),
        ih fun b hb => h b (List.mem_cons_of_mem _ hb)]
      rfl
  rw [Node.ofValue, Node.ofItems_eq, list, hitems]
  rfl

theorem list_text (items : List String) :
    list (fun _ => text) (depth + 1) origin (.ofValue (.list (items.map .text))) = .ok items :=
  list_ofValue fun _ _ => rfl

end Decode

/-- A variant with fields is read off an object whose only key is its name. -/
theorem Decode.Variants.decode_custom {α : Type} {vs : Decode.Variants α} {name : String}
    {fields : Decode.DeepDecoder α} (hname : vs.choose name = .ok (.custom fields)) {depth : Nat}
    {v : Value} {a : α} (h : fields depth .streamed (.ofValue v) = .ok a) :
    vs.decode (depth + 1) .streamed (.ofValue (.object [(name, v)])) = .ok a := by
  rw [Node.ofValue, Node.ofMembers_eq, List.map_cons, List.map_nil, decode]
  simp only [ofText, bind, Except.bind, hname, contents, h]
  rfl

namespace Properties

/-- A key beyond all others comes last. -/
theorem insertEntry_of_lt {key : String} {entries : List (String × String)}
    (h : ∀ e ∈ entries, e.1 < key) (value : String) :
    insertEntry key value entries = entries ++ [(key, value)] := by
  induction entries with
  | nil => rfl
  | cons e rest ih =>
    have hlt := h e (List.mem_cons_self ..)
    have hne : key ≠ e.1 := fun heq => String.lt_irrefl _ (heq ▸ hlt)
    rw [insertEntry, if_neg (String.lt_asymm hlt), if_neg hne,
      ih fun d hd => h d (List.mem_cons_of_mem _ hd), List.cons_append]

/-- Entries that are put in one after the other, in the order of their keys, end up in it. -/
theorem entries_foldl_insert (entries : List (String × String)) (p : Properties)
    (h : (p.entries ++ entries).Pairwise fun a b => a.1 < b.1) :
    (entries.foldl (fun p e => p.insert e.1 e.2) p).entries = p.entries ++ entries := by
  induction entries generalizing p with
  | nil => exact (List.append_nil _).symm
  | cons e rest ih =>
    have hlast : (p.insert e.1 e.2).entries = p.entries ++ [e] :=
      insertEntry_of_lt
        (fun d hd => (List.pairwise_append.mp h).2.2 d hd e (List.mem_cons_self ..)) e.2
    have happend : (p.insert e.1 e.2).entries ++ rest = p.entries ++ e :: rest := by
      rw [hlast, List.append_assoc, List.singleton_append]
    rw [List.foldl_cons, ih _ (happend ▸ h), happend]

theorem decode_toJson (p : Properties) (depth : Nat) (origin : Decode.Origin) :
    Properties.decode (depth + 1) origin (.ofValue p.toJson) = .ok p := by
  have hfold : ∀ {step : Properties → Json.Key × Node → Except Decode.Fault Properties},
      (∀ q (e : String × String),
        step q (.ok e.1, .ofValue (.text e.2)) = .ok (q.insert e.1 e.2)) →
      ∀ (entries : List (String × String)) (q : Properties),
        ((entries.map fun e => (e.1, Value.text e.2)).map fun m =>
          ((.ok m.1, .ofValue m.2) : Json.Key × Node)).foldlM step q =
        .ok (entries.foldl (fun p e => p.insert e.1 e.2) q) := by
    intro step hstep entries
    induction entries with
    | nil => exact fun q => rfl
    | cons e rest ih =>
      intro q
      rw [List.map_cons, List.map_cons, List.foldlM_cons, hstep]
      exact ih (q.insert e.1 e.2)
  have hentries := entries_foldl_insert p.entries empty p.increasing
  rw [toJson, Node.ofValue, Node.ofMembers_eq, Properties.decode,
    hfold (fun _ _ => rfl) p.entries]
  refine congrArg Except.ok ?_
  obtain ⟨entries, increasing⟩ := p
  exact (mk.injEq ..).mpr hentries

end Properties

namespace Log4j

theorem LocationInfo.decode_toJson (info : LocationInfo) (depth : Nat) (origin : Decode.Origin) :
    LocationInfo.decode (depth + 1) origin (.ofValue info.toJson) = .ok info := by
  have hclass := Decode.nullable_text info.className origin
  have hmethod := Decode.nullable_text info.methodName origin
  have hfile := Decode.nullable_text info.fileName origin
  have hline := Decode.nullable_text info.lineNumber origin
  rw [LocationInfo.decode, Decode.record, toJson, Decode.Record.decode_object]
  simp only [List.map_cons, List.map_nil]
  rw [take_field rfl rfl hclass, take_field rfl rfl hmethod,
    take_field rfl rfl hfile, take_field rfl rfl hline]
  rfl

/-- A level of the application's own has a number of 32 bits. -/
def Level.InRange : Level → Prop
  | custom _ value => -2147483648 ≤ value ∧ value ≤ 2147483647
  | _ => True

theorem Level.decode_toJson {l : Level} (h : l.InRange) (depth : Nat) :
    Level.decode (depth + 2) .streamed (.ofValue l.toJson) = .ok l := by
  cases l with
  | custom name value =>
    have hname : Decode.text .streamed (.ofValue (.text name)) = .ok name := rfl
    have hvalue : Decode.signed32 .streamed (.ofValue (.number (.integer value))) = .ok value :=
      Decode.signed32_ofValue h.1 h.2
    refine Decode.Variants.decode_custom rfl ?_
    rw [Decode.record, Decode.Record.decode_object]
    simp only [List.map_cons, List.map_nil]
    rw [take_field rfl rfl hname, take_field rfl rfl hvalue]
    rfl
  | _ => rfl

end Log4j

namespace Log4j2

/-- A level of the application's own has an unsigned number of 32 bits. -/
def Level.InRange : Level → Prop
  | custom _ intLevel => intLevel < Nat.pow 2 32
  | _ => True

theorem Level.decode_toJson {l : Level} (h : l.InRange) (depth : Nat) :
    Level.decode (depth + 2) .streamed (.ofValue l.toJson) = .ok l := by
  cases l with
  | custom name intLevel =>
    have hname : Decode.text .streamed (.ofValue (.text name)) = .ok name := rfl
    have hvalue : Decode.unsigned32 .streamed (.ofValue (.natural intLevel)) = .ok intLevel :=
      Decode.unsigned32_ofValue h
    refine Decode.Variants.decode_custom rfl ?_
    rw [Decode.record, Decode.Record.decode_object]
    simp only [List.map_cons, List.map_nil]
    rw [take_field rfl rfl hname, take_field rfl rfl hvalue]
    rfl
  | _ => rfl

end Log4j2

namespace Logback

/-- A level that a bridge reports has a number of 32 bits. -/
def Level.InRange : Level → Prop
  | custom _ value => -2147483648 ≤ value ∧ value ≤ 2147483647
  | _ => True

theorem Level.decode_toJson {l : Level} (h : l.InRange) (depth : Nat) :
    Level.decode (depth + 2) .streamed (.ofValue l.toJson) = .ok l := by
  cases l with
  | custom name value =>
    have hname : Decode.text .streamed (.ofValue (.text name)) = .ok name := rfl
    have hvalue : Decode.signed32 .streamed (.ofValue (.number (.integer value))) = .ok value :=
      Decode.signed32_ofValue h.1 h.2
    refine Decode.Variants.decode_custom rfl ?_
    rw [Decode.record, Decode.Record.decode_object]
    simp only [List.map_cons, List.map_nil]
    rw [take_field rfl rfl hname, take_field rfl rfl hvalue]
    rfl
  | _ => rfl

end Logback

/-! ## Frames and throwables -/

/-- No frame is read back: it is written without the key of the class that it is read with. -/
theorem StackFrame.decode_toJson_ne_ok (frame read : StackFrame) (depth : Nat)
    (origin : Decode.Origin) :
    StackFrame.decode depth origin (.ofValue frame.toJson) ≠ .ok read := by
  cases depth with
  | zero =>
    rw [StackFrame.decode, toJson, Node.ofValue]
    exact fun h => by cases h
  | succ depth =>
    intro h
    rw [StackFrame.decode, Decode.record, toJson, Decode.Record.decode_object] at h
    obtain ⟨draft, htake, hfinish⟩ := exists_of_bind h
    have hnone : draft.className = none := by
      refine Decode.Record.take_keeps "className" ?_ ?_ htake
      · simp only [record, List.forall_mem_cons]
        exact ⟨fun hne => absurd rfl hne, fun _ => Decode.Record.field_keeps fun _ _ => rfl,
          fun _ => Decode.Record.field_keeps fun _ _ => rfl,
          fun _ => Decode.Record.field_keeps fun _ _ => rfl, by simp⟩
      · simp
    simp only [record, hnone] at hfinish
    cases hfinish

/-- No throwable is read back: it is written without the key of the type that it is read with. -/
theorem Throwable.decode_toJson_ne_ok (t read : Throwable) (depth : Nat) (origin : Decode.Origin) :
    Throwable.decode depth origin (.ofValue t.toJson) ≠ .ok read := by
  obtain ⟨typeName, message, frames, cause⟩ := t
  cases depth with
  | zero =>
    rw [Throwable.decode, toJson_mk, Node.ofValue]
    exact fun h => by cases h
  | succ depth =>
    intro h
    rw [Throwable.decode, toJson_mk, Decode.Record.decode_object] at h
    obtain ⟨draft, htake, hfinish⟩ := exists_of_bind h
    have hnone : draft.typeName = none := by
      refine Decode.Record.take_keeps "typeName" ?_ ?_ htake
      · simp only [record, List.forall_mem_cons]
        exact ⟨fun hne => absurd rfl hne, fun _ => Decode.Record.field_keeps fun _ _ => rfl,
          fun _ => Decode.Record.field_keeps fun _ _ => rfl,
          fun _ => Decode.Record.field_keeps fun _ _ => rfl, by simp⟩
      · simp
    simp only [record, hnone] at hfinish
    cases hfinish

namespace Decode

/-- Where a value that is never read back may be absent, it must be. -/
theorem none_of_nullable {α : Type} {decode : Decoder α} {f : α → Value} {a? read : Option α}
    {origin : Origin} (hnull : ∀ a, f a ≠ .null)
    (hfails : ∀ a b, decode origin (.ofValue (f a)) ≠ .ok b)
    (h : nullable decode origin (.ofValue (.optional f a?)) = .ok read) : a? = none := by
  cases a? with
  | none => rfl
  | some a =>
    rw [Value.optional, nullable_of_ne_null (ofValue_ne_null (hnull a))] at h
    cases hdecode : decode origin (.ofValue (f a)) with
    | error fault => rw [hdecode] at h; cases h
    | ok b => exact absurd hdecode (hfails a b)

/-- A list of values that are never read back must be empty. -/
theorem nil_of_list {α : Type} {item : DeepDecoder α} {f : α → Value} {items read : List α}
    {depth : Nat} {origin : Origin} (hfails : ∀ a b d, item d origin (.ofValue (f a)) ≠ .ok b)
    (h : list item depth origin (.ofValue (.list (items.map f))) = .ok read) : items = [] := by
  cases items with
  | nil => rfl
  | cons a rest =>
    rw [Node.ofValue, Node.ofItems_eq] at h
    cases depth with
    | zero => cases h
    | succ depth =>
      obtain ⟨values, hvalues, -⟩ := exists_of_bind h
      obtain ⟨b, hb⟩ := exists_of_mapM hvalues (List.mem_cons_self ..)
      exact absurd hb (hfails a b depth)

/-- The text of a value is decoded as the value is. -/
theorem bytes_render {α : Type} {v : Value} (h : v.Over Value.IsExactInteger)
    (decode : DeepDecoder α) :
    bytes decode v.render = decode Json.maxDepth .streamed (.ofValue v) := by
  rw [bytes, h.read_render, document]
  cases decode Json.maxDepth .streamed (.ofValue v) <;> rfl

end Decode

/-! ## Numbers of events -/

namespace Json

theorem isExactInteger_natural {n : Nat} (h : n < Nat.pow 2 64) :
    Value.IsExactInteger (.integer n) :=
  ⟨n, rfl, by omega, Int.ofNat_lt.mpr h⟩

theorem isExactInteger_signed32 {i : Int} (h : -2147483648 ≤ i ∧ i ≤ 2147483647) :
    Value.IsExactInteger (.integer i) := by
  have hleast : ((Nat.pow 2 63 : Nat) : Int) = 9223372036854775808 := by decide
  have hgreatest : ((Nat.pow 2 64 : Nat) : Int) = 18446744073709551616 := by decide
  refine ⟨i, rfl, ?_, ?_⟩
  · rw [hleast]
    omega
  · rw [hgreatest]
    omega

theorem isExactInteger_unsigned32 {n : Nat} (h : n < Nat.pow 2 32) :
    Value.IsExactInteger (.integer n) :=
  isExactInteger_natural (Nat.lt_trans h (by decide))

end Json

theorem Properties.over_toJson {p : Json.Number → Prop} (q : Properties) : q.toJson.Over p := by
  refine .object _ fun m hm => ?_
  obtain ⟨e, -, rfl⟩ := List.mem_map.mp hm
  exact .text _

/-! ## Events of log4j -/

namespace Log4j

theorem Level.over_toJson {l : Level} (h : l.InRange) : l.toJson.Over Value.IsExactInteger := by
  cases l with
  | custom name value =>
    have hvalue := Value.Over.number _ (Json.isExactInteger_signed32 h)
    exact Value.over_object_cons (Value.over_object_cons (.text _) <|
      Value.over_object_cons hvalue Value.over_object_nil) Value.over_object_nil
  | _ => exact .text _

theorem LocationInfo.over_toJson {p : Json.Number → Prop} (info : LocationInfo) :
    info.toJson.Over p :=
  Value.over_object_cons (Value.over_optional_text _) <|
    Value.over_object_cons (Value.over_optional_text _) <|
    Value.over_object_cons (Value.over_optional_text _) <|
    Value.over_object_cons (Value.over_optional_text _) Value.over_object_nil

namespace Event

/-- An event whose time was read and whose numbers are of their widths. -/
structure Fits (e : Event) : Prop where
  time : ∀ t ∈ e.timestamp, ∃ s, Instant.parse s = .ok t
  level : e.level.InRange
  lines : ∀ t ∈ e.throwable, ∀ n ∈ t.numbers, n < Nat.pow 2 32

theorem Fits.over_toJson {e : Event} (h : e.Fits) : e.toJson.Over Value.IsExactInteger := by
  have hthrowable : (Value.optional Throwable.toJson e.throwable).Over Value.IsExactInteger :=
    Value.over_optional fun t ht => t.over_toJson fun n hn =>
      Json.isExactInteger_unsigned32 (h.lines t ht n hn)
  have hlines : (Value.optional (fun lines => .list (lines.map .text)) e.throwableLines).Over
      Value.IsExactInteger :=
    Value.over_optional fun lines _ => Value.over_list_text lines
  exact Value.over_object_cons (Value.over_optional fun _ _ => .text _) <|
    Value.over_object_cons (Level.over_toJson h.level) <| Value.over_object_cons (.text _) <|
    Value.over_object_cons (.text _) <| Value.over_object_cons (Value.over_optional_text _) <|
    Value.over_object_cons hthrowable <| Value.over_object_cons hlines <|
    Value.over_object_cons (Value.over_optional fun info _ => info.over_toJson) <|
    Value.over_object_cons e.properties.over_toJson Value.over_object_nil

theorem Fits.decode_toJson {e : Event} (h : e.Fits) (hplain : e.throwable = none) (depth : Nat) :
    Event.decode (depth + 3) .streamed (.ofValue e.toJson) = .ok e := by
  have htime := Decode.nullable_instant h.time .streamed
  have hlevel := Level.decode_toJson h.level depth
  have hname : Decode.text .streamed (.ofValue (.text e.loggerName)) = .ok e.loggerName := rfl
  have hmessage : Decode.text .streamed (.ofValue (.text e.message)) = .ok e.message := rfl
  have hthread := Decode.nullable_text e.threadName .streamed
  have hthrowable : Decode.nullable (Throwable.decode (depth + 2)) .streamed
      (.ofValue (.optional Throwable.toJson e.throwable)) = .ok e.throwable := by
    rw [hplain]
    rfl
  have hlines : Decode.nullable (Decode.list (fun _ => Decode.text) (depth + 2)) .streamed
      (.ofValue (.optional (fun lines => .list (lines.map .text)) e.throwableLines)) =
        .ok e.throwableLines :=
    Decode.nullable_optional (fun _ hnull => by cases hnull) fun lines _ => Decode.list_text lines
  have hlocation : Decode.nullable (LocationInfo.decode (depth + 2)) .streamed
      (.ofValue (.optional LocationInfo.toJson e.locationInfo)) = .ok e.locationInfo :=
    Decode.nullable_optional (fun _ hnull => by cases hnull) fun info _ =>
      info.decode_toJson (depth + 1) .streamed
  have hproperties := e.properties.decode_toJson (depth + 1) .streamed
  rw [Event.decode, Decode.record, toJson, Decode.Record.decode_object]
  simp only [List.map_cons, List.map_nil]
  rw [take_field rfl rfl htime, take_field rfl rfl hlevel, take_field rfl rfl hname,
    take_field rfl rfl hmessage, take_field rfl rfl hthread, take_field rfl rfl hthrowable,
    take_field rfl rfl hlines, take_field rfl rfl hlocation, take_field rfl rfl hproperties]
  rfl

/-- An event that is read back has no throwable. -/
theorem throwable_of_decode_toJson {e read : Event} {depth : Nat}
    (h : Event.decode (depth + 1) .streamed (.ofValue e.toJson) = .ok read) :
    e.throwable = none := by
  rw [Event.decode, Decode.record, toJson, Decode.Record.decode_object] at h
  obtain ⟨draft, htake, -⟩ := exists_of_bind h
  obtain ⟨t?, hthrowable⟩ := Decode.Record.exists_of_mem htake "throwable"
    (.ofValue (.optional Throwable.toJson e.throwable)) (by simp) rfl
  exact Decode.none_of_nullable Throwable.toJson_ne_null
    (fun t read => t.decode_toJson_ne_ok read depth .streamed) hthrowable

end Event

end Log4j

/-! ## Events of log4j2 -/

namespace Log4j2

theorem Level.over_toJson {l : Level} (h : l.InRange) : l.toJson.Over Value.IsExactInteger := by
  cases l with
  | custom name intLevel =>
    have hvalue := Value.Over.number _ (Json.isExactInteger_unsigned32 h)
    exact Value.over_object_cons (Value.over_object_cons (.text _) <|
      Value.over_object_cons hvalue Value.over_object_nil) Value.over_object_nil
  | _ => exact .text _

namespace Event

/-- An event whose time was read and whose numbers are of their widths. -/
structure Fits (e : Event) : Prop where
  time : ∀ t ∈ e.instant, ∃ s, Instant.parse s = .ok t
  level : e.level.InRange
  thread : ∀ n ∈ e.threadId, n < Nat.pow 2 64
  lines : ∀ t ∈ e.thrown, ∀ n ∈ t.numbers, n < Nat.pow 2 32
  line : ∀ frame ∈ e.source, frame.lineNumber < Nat.pow 2 32

theorem Fits.over_toJson {e : Event} (h : e.Fits) : e.toJson.Over Value.IsExactInteger := by
  have hthread : (Value.optional .natural e.threadId).Over Value.IsExactInteger :=
    Value.over_optional fun n hn => .number _ (Json.isExactInteger_natural (h.thread n hn))
  have hthrown : (Value.optional Throwable.toJson e.thrown).Over Value.IsExactInteger :=
    Value.over_optional fun t ht => t.over_toJson fun n hn =>
      Json.isExactInteger_unsigned32 (h.lines t ht n hn)
  have hsource : (Value.optional StackFrame.toJson e.source).Over Value.IsExactInteger :=
    Value.over_optional fun frame hframe =>
      StackFrame.over_toJson (Json.isExactInteger_unsigned32 (h.line frame hframe))
  exact Value.over_object_cons (Value.over_optional fun _ _ => .text _) <|
    Value.over_object_cons (Level.over_toJson h.level) <| Value.over_object_cons (.text _) <|
    Value.over_object_cons (.text _) <| Value.over_object_cons (Value.over_optional_text _) <|
    Value.over_object_cons hthread <| Value.over_object_cons hthrown <|
    Value.over_object_cons hsource <|
    Value.over_object_cons e.contextData.over_toJson Value.over_object_nil

theorem Fits.decode_toJson {e : Event} (h : e.Fits) (hthrown : e.thrown = none)
    (hsource : e.source = none) (depth : Nat) :
    Event.decode (depth + 3) .streamed (.ofValue e.toJson) = .ok e := by
  have htime := Decode.nullable_instant h.time .streamed
  have hlevel := Level.decode_toJson h.level depth
  have hname : Decode.text .streamed (.ofValue (.text e.loggerName)) = .ok e.loggerName := rfl
  have hmessage : Decode.text .streamed (.ofValue (.text e.message)) = .ok e.message := rfl
  have hthread := Decode.nullable_text e.threadName .streamed
  have hid :
      Decode.nullable Decode.unsigned64 .streamed (.ofValue (.optional .natural e.threadId)) =
      .ok e.threadId :=
    Decode.nullable_optional (fun _ hnull => by cases hnull) fun n hn =>
      Decode.unsigned64_ofValue (h.thread n hn)
  have hnothrown : Decode.nullable (Throwable.decode (depth + 2)) .streamed
      (.ofValue (.optional Throwable.toJson e.thrown)) = .ok e.thrown := by
    rw [hthrown]
    rfl
  have hnosource : Decode.nullable (StackFrame.decode (depth + 2)) .streamed
      (.ofValue (.optional StackFrame.toJson e.source)) = .ok e.source := by
    rw [hsource]
    rfl
  have hdata := e.contextData.decode_toJson (depth + 1) .streamed
  rw [Event.decode, Decode.record, toJson, Decode.Record.decode_object]
  simp only [List.map_cons, List.map_nil]
  rw [take_field rfl rfl htime, take_field rfl rfl hlevel, take_field rfl rfl hname,
    take_field rfl rfl hmessage, take_field rfl rfl hthread, take_field rfl rfl hid,
    take_field rfl rfl hnothrown, take_field rfl rfl hnosource, take_field rfl rfl hdata]
  rfl

/-- An event that is read back has neither a throwable nor a frame. -/
theorem plain_of_decode_toJson {e read : Event} {depth : Nat}
    (h : Event.decode (depth + 1) .streamed (.ofValue e.toJson) = .ok read) :
    e.thrown = none ∧ e.source = none := by
  rw [Event.decode, Decode.record, toJson, Decode.Record.decode_object] at h
  obtain ⟨draft, htake, -⟩ := exists_of_bind h
  obtain ⟨t?, hthrown⟩ := Decode.Record.exists_of_mem htake "thrown"
    (.ofValue (.optional Throwable.toJson e.thrown)) (by simp) rfl
  obtain ⟨frame?, hsource⟩ := Decode.Record.exists_of_mem htake "source"
    (.ofValue (.optional StackFrame.toJson e.source)) (by simp) rfl
  exact ⟨Decode.none_of_nullable Throwable.toJson_ne_null
      (fun t read => t.decode_toJson_ne_ok read depth .streamed) hthrown,
    Decode.none_of_nullable (fun _ hnull => by cases hnull)
      (fun frame read => frame.decode_toJson_ne_ok read depth .streamed) hsource⟩

end Event

end Log4j2

/-! ## Events of logback -/

namespace Logback

theorem Level.over_toJson {l : Level} (h : l.InRange) : l.toJson.Over Value.IsExactInteger := by
  cases l with
  | custom name value =>
    have hvalue := Value.Over.number _ (Json.isExactInteger_signed32 h)
    exact Value.over_object_cons (Value.over_object_cons (.text _) <|
      Value.over_object_cons hvalue Value.over_object_nil) Value.over_object_nil
  | _ => exact .text _

namespace Event

/-- An event whose time was read and whose numbers are of their widths. -/
structure Fits (e : Event) : Prop where
  time : ∀ t ∈ e.timestamp, ∃ s, Instant.parse s = .ok t
  level : e.level.InRange
  lines : ∀ t ∈ e.throwableProxy, ∀ n ∈ t.numbers, n < Nat.pow 2 32
  callerLines : ∀ frame ∈ e.callerData, frame.lineNumber < Nat.pow 2 32

theorem Fits.over_toJson {e : Event} (h : e.Fits) : e.toJson.Over Value.IsExactInteger := by
  have hthrowable : (Value.optional Throwable.toJson e.throwableProxy).Over Value.IsExactInteger :=
    Value.over_optional fun t ht => t.over_toJson fun n hn =>
      Json.isExactInteger_unsigned32 (h.lines t ht n hn)
  have hcaller : (Value.list (e.callerData.map StackFrame.toJson)).Over Value.IsExactInteger := by
    refine .list _ fun v hv => ?_
    obtain ⟨frame, hframe, rfl⟩ := List.mem_map.mp hv
    exact StackFrame.over_toJson (Json.isExactInteger_unsigned32 (h.callerLines frame hframe))
  exact Value.over_object_cons (Value.over_optional fun _ _ => .text _) <|
    Value.over_object_cons (Level.over_toJson h.level) <| Value.over_object_cons (.text _) <|
    Value.over_object_cons (.text _) <| Value.over_object_cons (Value.over_optional_text _) <|
    Value.over_object_cons hthrowable <| Value.over_object_cons hcaller <|
    Value.over_object_cons (Value.over_list_text e.markers) <|
    Value.over_object_cons e.mdc.over_toJson Value.over_object_nil

theorem Fits.decode_toJson {e : Event} (h : e.Fits) (hthrowable : e.throwableProxy = none)
    (hcaller : e.callerData = []) (depth : Nat) :
    Event.decode (depth + 3) .streamed (.ofValue e.toJson) = .ok e := by
  have htime := Decode.nullable_instant h.time .streamed
  have hlevel := Level.decode_toJson h.level depth
  have hname : Decode.text .streamed (.ofValue (.text e.loggerName)) = .ok e.loggerName := rfl
  have hmessage : Decode.text .streamed (.ofValue (.text e.formattedMessage)) =
      .ok e.formattedMessage := rfl
  have hthread := Decode.nullable_text e.threadName .streamed
  have hnothrowable : Decode.nullable (Throwable.decode (depth + 2)) .streamed
      (.ofValue (.optional Throwable.toJson e.throwableProxy)) = .ok e.throwableProxy := by
    rw [hthrowable]
    rfl
  have hnocaller : Decode.list StackFrame.decode (depth + 2) .streamed
      (.ofValue (.list (e.callerData.map StackFrame.toJson))) = .ok e.callerData := by
    rw [hcaller]
    rfl
  have hmarkers : Decode.list (fun _ => Decode.text) (depth + 2) .streamed
      (.ofValue (.list (e.markers.map .text))) = .ok e.markers := Decode.list_text e.markers
  have hmdc := e.mdc.decode_toJson (depth + 1) .streamed
  rw [Event.decode, Decode.record, toJson, Decode.Record.decode_object]
  simp only [List.map_cons, List.map_nil]
  rw [take_field rfl rfl htime, take_field rfl rfl hlevel, take_field rfl rfl hname,
    take_field rfl rfl hmessage, take_field rfl rfl hthread, take_field rfl rfl hnothrowable,
    take_field rfl rfl hnocaller, take_field rfl rfl hmarkers, take_field rfl rfl hmdc]
  rfl

/-- An event that is read back has neither a throwable nor a frame. -/
theorem plain_of_decode_toJson {e read : Event} {depth : Nat}
    (h : Event.decode (depth + 1) .streamed (.ofValue e.toJson) = .ok read) :
    e.throwableProxy = none ∧ e.callerData = [] := by
  rw [Event.decode, Decode.record, toJson, Decode.Record.decode_object] at h
  obtain ⟨draft, htake, -⟩ := exists_of_bind h
  obtain ⟨t?, hthrowable⟩ := Decode.Record.exists_of_mem htake "throwableProxy"
    (.ofValue (.optional Throwable.toJson e.throwableProxy)) (by simp) rfl
  obtain ⟨frames, hcaller⟩ := Decode.Record.exists_of_mem htake "callerData"
    (.ofValue (.list (e.callerData.map StackFrame.toJson))) (by simp) rfl
  exact ⟨Decode.none_of_nullable Throwable.toJson_ne_null
      (fun t read => t.decode_toJson_ne_ok read depth .streamed) hthrowable,
    Decode.nil_of_list (fun frame read d => frame.decode_toJson_ne_ok read d .streamed) hcaller⟩

end Event

end Logback

/-! ## Events of all frameworks -/

namespace Decode

/-- What is read back if it is plain, and is not read otherwise, is read back if and only if it is
plain, and then as it was. -/
theorem reads_back_iff {α : Type} {decode : DeepDecoder α} {v : Value} {a : α} {plain : Prop}
    (hv : v.Over Value.IsExactInteger)
    (hreads : plain → decode Json.maxDepth .streamed (.ofValue v) = .ok a)
    (hplain : ∀ read, decode Json.maxDepth .streamed (.ofValue v) = .ok read → plain) :
    ((∃ read, bytes decode v.render = .ok read) ↔ plain) ∧
      ∀ read, bytes decode v.render = .ok read → read = a := by
  rw [bytes_render hv]
  refine ⟨⟨fun ⟨read, h⟩ => hplain read h, fun h => ⟨a, hreads h⟩⟩, fun read h => ?_⟩
  have hboth := h.symm.trans (hreads (hplain read h))
  exact Except.ok.inj hboth

end Decode

/-- The text of an event is read if and only if the event holds neither a frame nor a throwable, and
then as the event that it was. -/
theorem events_read_back :
    (∀ e : Log4j.Event, e.Fits →
      ((∃ read, Decode.bytes Log4j.Event.decode e.toJson.render = .ok read) ↔
        e.throwable = none) ∧
      ∀ read, Decode.bytes Log4j.Event.decode e.toJson.render = .ok read → read = e) ∧
    (∀ e : Log4j2.Event, e.Fits →
      ((∃ read, Decode.bytes Log4j2.Event.decode e.toJson.render = .ok read) ↔
        e.thrown = none ∧ e.source = none) ∧
      ∀ read, Decode.bytes Log4j2.Event.decode e.toJson.render = .ok read → read = e) ∧
    (∀ e : Logback.Event, e.Fits →
      ((∃ read, Decode.bytes Logback.Event.decode e.toJson.render = .ok read) ↔
        e.throwableProxy = none ∧ e.callerData = []) ∧
      ∀ read, Decode.bytes Logback.Event.decode e.toJson.render = .ok read → read = e) := by
  refine ⟨fun e h => ?_, fun e h => ?_, fun e h => ?_⟩
  · exact Decode.reads_back_iff h.over_toJson (fun hplain => h.decode_toJson hplain 124)
      fun _ => Log4j.Event.throwable_of_decode_toJson
  · exact Decode.reads_back_iff h.over_toJson (fun hplain => h.decode_toJson hplain.1 hplain.2 124)
      fun _ => Log4j2.Event.plain_of_decode_toJson
  · exact Decode.reads_back_iff h.over_toJson (fun hplain => h.decode_toJson hplain.1 hplain.2 124)
      fun _ => Logback.Event.plain_of_decode_toJson

/-- An event of log4j with a leap second before the year 0 and a level of its own. -/
def Log4j.Event.unusual : Log4j.Event where
  timestamp := some ⟨⟨-1, 2, 28⟩, ⟨23, 59, 59, 1500000000⟩⟩
  level := .custom "\n" (-2147483648)
  loggerName := ""
  throwableLines := some []
  locationInfo := some { lineNumber := some "?" }

/-- An event of log4j2 with a frame. -/
def Log4j2.Event.located : Log4j2.Event where
  level := .custom "" 4294967295
  threadId := some 18446744073709551615
  source := some ⟨"A", "b", none, 0⟩

/-- An event of logback with markers and properties. -/
def Logback.Event.marked : Logback.Event where
  level := .off
  loggerName := "é"
  markers := ["FATAL", ""]
  mdc := Properties.empty.insert "a" "b"

/-- An event without a frame is read back, and one with a frame is not read. -/
theorem events_read_back_unusual :
    (∃ read, Decode.bytes Log4j.Event.decode Log4j.Event.unusual.toJson.render = .ok read) ∧
      (¬ ∃ read, Decode.bytes Log4j2.Event.decode Log4j2.Event.located.toJson.render = .ok read) ∧
      Decode.bytes Logback.Event.decode Logback.Event.marked.toJson.render =
        .ok Logback.Event.marked := by
  have htime : ∀ t ∈ Log4j.Event.unusual.timestamp, ∃ s, Instant.parse s = .ok t := by
    intro t ht
    obtain rfl := Option.some.inj ht
    have hdate : Date.IsValid ⟨-1, 2, 28⟩ := ⟨by decide, by decide, by decide, by decide⟩
    have hclock : TimeOfDay.IsValid ⟨23, 59, 59, 1500000000⟩ :=
      ⟨by decide, by decide, by decide, by decide⟩
    exact ⟨_, Instant.IsValid.parse_text ⟨hdate, hclock⟩⟩
  have hleast : (-2147483648 : Int) ≤ -2147483648 ∧ (-2147483648 : Int) ≤ 2147483647 := by decide
  have hunusual : Log4j.Event.unusual.Fits := ⟨htime, hleast, fun t ht => (nomatch ht)⟩
  have hlocated : Log4j2.Event.located.Fits := by
    refine ⟨fun t ht => (nomatch ht), (by decide : 4294967295 < Nat.pow 2 32), fun n hn => ?_,
      fun t ht => (nomatch ht), fun frame hframe => ?_⟩
    · obtain rfl := Option.some.inj hn
      decide
    · obtain rfl := Option.some.inj hframe
      decide
  have hmarked : Logback.Event.marked.Fits :=
    ⟨fun t ht => (nomatch ht), trivial, fun t ht => (nomatch ht),
      fun frame hframe => (nomatch hframe)⟩
  obtain ⟨hlog4j, hlog4j2, hlogback⟩ := events_read_back
  obtain ⟨hread, hsame⟩ := hlogback _ hmarked
  obtain ⟨read, hmarks⟩ := hread.mpr ⟨rfl, rfl⟩
  rw [hsame read hmarks] at hmarks
  refine ⟨(hlog4j _ hunusual).1.mpr rfl, fun h => ?_, hmarks⟩
  have hsource := ((hlog4j2 _ hlocated).1.mp h).2
  cases hsource

end LogOrigin
