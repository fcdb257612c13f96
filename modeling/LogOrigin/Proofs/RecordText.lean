import LogOrigin.Proofs.JsonRoundTrip
import LogOrigin.Proofs.ReplayFile

/-!
# Records and their lines

The line of a record is its compact text and a line feed, and the text has no other line feed: a
file of lines falls into the texts of its records. Each text is read back as the nine fields of its
record, from which the record can be told but for its time, of which only the text is shown.
-/

namespace LogOrigin

open Json (Value Number)
open Json.Value (Over IsInteger IsExactInteger)

/-! ## Values of several kinds -/

namespace Json.Value

variable {α : Type} {p : Number → Prop}

theorem over_optional {f : α → Value} {a? : Option α} (h : ∀ a ∈ a?, (f a).Over p) :
    (optional f a?).Over p := by
  cases a? with
  | none => exact .null
  | some a => exact h a rfl

theorem over_object_nil : (object []).Over p :=
  .object [] fun _ hm => absurd hm List.not_mem_nil

theorem over_object_cons {key : String} {v : Value} {members : List (String × Value)}
    (hv : v.Over p) (h : (object members).Over p) : (object ((key, v) :: members)).Over p := by
  cases h with
  | object _ h => exact .object _ (List.forall_mem_cons.mpr ⟨hv, h⟩)

theorem over_optional_text (s? : Option String) : (optional text s?).Over p :=
  over_optional fun s _ => .text s

theorem over_list_text (items : List String) : (list (items.map text)).Over p := by
  refine .list _ fun v hv => ?_
  obtain ⟨s, -, rfl⟩ := List.mem_map.mp hv
  exact .text s

/-- Null stands for what is absent only, and so what is present can be told. -/
theorem optional_inj {f : α → Value} (hnull : ∀ a, f a ≠ null) (hinj : ∀ a b, f a = f b → a = b)
    {a? b? : Option α} (h : optional f a? = optional f b?) : a? = b? := by
  cases a? with
  | none =>
    cases b? with
    | none => rfl
    | some b => exact absurd h.symm (hnull b)
  | some a =>
    cases b? with
    | none => exact absurd h (hnull a)
    | some b => exact congrArg some (hinj a b h)

theorem optional_text_inj {a? b? : Option String} (h : optional text a? = optional text b?) :
    a? = b? :=
  optional_inj (fun a ha => by cases ha) (fun a b hab => text.inj hab) h

theorem natural_inj {m n : Nat} (h : natural m = natural n) : m = n :=
  Int.ofNat.inj (Number.integer.inj (number.inj h))

theorem optional_natural_inj {a? b? : Option Nat} (h : optional natural a? = optional natural b?) :
    a? = b? :=
  optional_inj (fun a ha => by cases ha) (fun a b hab => natural_inj hab) h

/-- A value can be told from its text. -/
theorem Over.render_inj {v w : Value} (hv : v.Over IsExactInteger) (hw : w.Over IsExactInteger)
    (h : v.render = w.render) : v = w := by
  have hnode : Node.ofValue v = Node.ofValue w := by
    have hread := hv.read_render
    rw [h, hw.read_render] at hread
    exact (Document.mk.inj hread).1.symm
  have hvalue := hv.value_ofValue (max v.nesting w.nesting)
  rw [hnode, hw.value_ofValue, within, within, if_pos (Nat.le_max_left ..),
    if_pos (Nat.le_max_right ..)] at hvalue
  exact (Except.ok.inj hvalue).symm

end Json.Value

/-! ## Frames and throwables -/

namespace StackFrame

theorem over_toJson {p : Number → Prop} {frame : StackFrame} (h : p (.integer frame.lineNumber)) :
    frame.toJson.Over p :=
  Value.over_object_cons (.text _) <| Value.over_object_cons (.text _) <|
    Value.over_object_cons (Value.over_optional_text _) <|
    Value.over_object_cons (.number _ h) Value.over_object_nil

theorem toJson_inj {a b : StackFrame} (h : a.toJson = b.toJson) : a = b := by
  obtain ⟨_, _, _, _⟩ := a
  obtain ⟨_, _, _, _⟩ := b
  simp only [toJson, Value.object.injEq, List.cons.injEq, Prod.mk.injEq, Value.text.injEq,
    true_and, and_true] at h
  obtain ⟨rfl, rfl, hfile, hline⟩ := h
  rw [Value.optional_text_inj hfile, Value.natural_inj hline]

theorem toJson_map_inj {a b : List StackFrame} (h : a.map toJson = b.map toJson) : a = b :=
  List.map_injective_iff.mpr (fun _ _ => toJson_inj) h

end StackFrame

namespace Throwable

/-- The line numbers of the frames of a throwable and its causes. -/
def numbers (t : Throwable) : List Nat :=
  t.chain.flatMap fun link => link.frames.map (·.lineNumber)

theorem numbers_none (typeName : String) (message : Option String) (frames : List StackFrame) :
    (mk typeName message frames none).numbers = frames.map (·.lineNumber) := by
  simp [numbers, chain, Throwable.frames]

theorem numbers_some (typeName : String) (message : Option String) (frames : List StackFrame)
    (c : Throwable) :
    (mk typeName message frames (some c)).numbers = frames.map (·.lineNumber) ++ c.numbers := by
  simp [numbers, chain, Throwable.frames]

/-- A throwable is shown with its cause as an optional throwable. -/
theorem toJson_mk (typeName : String) (message : Option String) (frames : List StackFrame)
    (cause : Option Throwable) :
    (mk typeName message frames cause).toJson = .object [
      ("type_name", .text typeName),
      ("message", .optional .text message),
      ("frames", .list (frames.map StackFrame.toJson)),
      ("cause", .optional toJson cause)] := by
  cases cause <;> rw [toJson] <;> rfl

theorem over_toJson {p : Number → Prop} :
    (t : Throwable) → (∀ n ∈ t.numbers, p (.integer n)) → t.toJson.Over p
  | mk typeName message frames cause, h => by
    have hframes : ∀ v ∈ frames.map StackFrame.toJson, v.Over p := by
      intro v hv
      obtain ⟨frame, hframe, rfl⟩ := List.mem_map.mp hv
      refine StackFrame.over_toJson (h _ ?_)
      have hline : frame.lineNumber ∈ frames.map (·.lineNumber) := List.mem_map_of_mem hframe
      cases cause with
      | none => rwa [numbers_none]
      | some c =>
        rw [numbers_some]
        exact List.mem_append_left _ hline
    have hcause : (Value.optional toJson cause).Over p := by
      cases cause with
      | none => exact .null
      | some c =>
        rw [numbers_some] at h
        exact over_toJson c fun n hn => h n (List.mem_append_right _ hn)
    rw [toJson_mk]
    exact Value.over_object_cons (.text _) <|
      Value.over_object_cons (Value.over_optional_text _) <|
      Value.over_object_cons (.list _ hframes) <|
      Value.over_object_cons hcause Value.over_object_nil

theorem toJson_ne_null (t : Throwable) : t.toJson ≠ .null := by
  obtain ⟨_, _, _, _⟩ := t
  rw [toJson_mk]
  exact fun h => by cases h

theorem toJson_inj : (a b : Throwable) → a.toJson = b.toJson → a = b
  | mk _ _ _ cause, mk _ _ _ cause', h => by
    simp only [toJson_mk, Value.object.injEq, List.cons.injEq, Prod.mk.injEq, Value.text.injEq,
      Value.list.injEq, true_and, and_true] at h
    obtain ⟨rfl, hmessage, hframes, hcause⟩ := h
    rw [Value.optional_text_inj hmessage, StackFrame.toJson_map_inj hframes]
    cases cause with
    | none =>
      cases cause' with
      | none => rfl
      | some c' => exact absurd hcause.symm c'.toJson_ne_null
    | some c =>
      cases cause' with
      | none => exact absurd hcause c.toJson_ne_null
      | some c' => rw [toJson_inj c c' hcause]

end Throwable

/-! ## Records -/

namespace SourceLocation

theorem toJson_inj {a b : SourceLocation} (h : a.toJson = b.toJson) : a = b := by
  obtain ⟨_, _, _, _⟩ := a
  obtain ⟨_, _, _, _⟩ := b
  simp only [toJson, Value.object.injEq, List.cons.injEq, Prod.mk.injEq, true_and, and_true] at h
  obtain ⟨hmethod, hclass, hfile, hline⟩ := h
  rw [Value.optional_text_inj hmethod, Value.optional_text_inj hclass,
    Value.optional_text_inj hfile, Value.natural_inj hline]

end SourceLocation

theorem ThreadInfo.toJson_inj {a b : ThreadInfo} (h : a.toJson = b.toJson) : a = b := by
  obtain ⟨_, _⟩ := a
  obtain ⟨_, _⟩ := b
  simp only [toJson, Value.object.injEq, List.cons.injEq, Prod.mk.injEq, true_and, and_true] at h
  obtain ⟨hname, hid⟩ := h
  rw [Value.optional_text_inj hname, Value.optional_natural_inj hid]

theorem Severity.toJson_inj {a b : Severity} (h : a.toJson = b.toJson) : a = b := by
  have hlabel : ∀ s t : Severity, s.label = t.label → s = t := by
    intro s t
    cases s <;> cases t <;> decide
  exact hlabel a b (Value.text.inj h)

theorem Properties.toJson_inj {a b : Properties} (h : a.toJson = b.toJson) : a = b := by
  have hpair : Function.Injective fun e : String × String => (e.1, Value.text e.2) := by
    intro e e' heq
    obtain ⟨hkey, hvalue⟩ := Prod.mk.inj heq
    exact Prod.ext hkey (Value.text.inj hvalue)
  obtain ⟨_, _⟩ := a
  obtain ⟨_, _⟩ := b
  obtain rfl := List.map_injective_iff.mpr hpair (Value.object.inj h)
  rfl

namespace LogRecord

/-- The line numbers of a record, and the number of its thread. -/
def numbers (r : LogRecord) : List Nat :=
  r.sourceLocation.lineNumber :: r.throwable.toList.flatMap Throwable.numbers ++
    (r.threadInfo.bind (·.id)).toList

theorem over_toJson {p : Number → Prop} {r : LogRecord} (h : ∀ n ∈ r.numbers, p (.integer n)) :
    r.toJson.Over p := by
  have hlocation : r.sourceLocation.toJson.Over p :=
    Value.over_object_cons (Value.over_optional_text _) <|
      Value.over_object_cons (Value.over_optional_text _) <|
      Value.over_object_cons (Value.over_optional_text _) <|
      Value.over_object_cons (.number _ (h _ (by simp [numbers]))) Value.over_object_nil
  have hthrowable : (Value.optional Throwable.toJson r.throwable).Over p := by
    refine Value.over_optional fun t ht => t.over_toJson fun n hn => h n ?_
    refine List.mem_append_left _ (List.mem_cons_of_mem _ ?_)
    exact List.mem_flatMap.mpr ⟨t, Option.mem_toList.mpr ht, hn⟩
  have hthread : (Value.optional ThreadInfo.toJson r.threadInfo).Over p := by
    refine Value.over_optional fun t ht => ?_
    have hid : (Value.optional Value.natural t.id).Over p := by
      refine Value.over_optional fun n hn => .number _ (h n ?_)
      exact List.mem_append_right _ (Option.mem_toList.mpr (Option.mem_bind_iff.mpr ⟨t, ht, hn⟩))
    exact Value.over_object_cons (Value.over_optional_text _) <|
      Value.over_object_cons hid Value.over_object_nil
  have hproperties : r.properties.toJson.Over p := by
    refine .object _ fun m hm => ?_
    obtain ⟨e, -, rfl⟩ := List.mem_map.mp hm
    exact .text _
  exact Value.over_object_cons (.text _) <| Value.over_object_cons (.text _) <|
    Value.over_object_cons hlocation <| Value.over_object_cons (.text _) <|
    Value.over_object_cons (.text _) <| Value.over_object_cons (.text _) <|
    Value.over_object_cons hthrowable <| Value.over_object_cons hthread <|
    Value.over_object_cons hproperties Value.over_object_nil

/-- A record whose numbers fit into 64 bits is one whose text a reader keeps exactly. -/
theorem over_exact {r : LogRecord} (h : ∀ n ∈ r.numbers, n < Nat.pow 2 64) :
    r.toJson.Over IsExactInteger :=
  over_toJson fun n hn => ⟨n, rfl, by omega, Int.ofNat_lt.mpr (h n hn)⟩

/-- The text of a record has no control character. -/
theorem printable_render (r : LogRecord) : Value.Printable r.toJson.render :=
  (over_toJson (p := IsInteger) fun n _ => ⟨n, rfl⟩).printable

/-- The text of a record is on one line. -/
theorem lineFeed_not_mem_render (r : LogRecord) : Json.Byte.lineFeed ∉ r.toJson.render :=
  fun hmem => absurd (r.printable_render _ hmem) (by decide)

/-- A record can be told from what it is shown as, but for its time, of which only the text is
shown. -/
theorem toJson_inj {a b : LogRecord} (h : a.toJson = b.toJson) :
    a.timestamp.text = b.timestamp.text ∧ b = { a with timestamp := b.timestamp } := by
  obtain ⟨_, _, _, _, _, _, _, _, _⟩ := a
  obtain ⟨_, _, _, _, _, _, _, _, _⟩ := b
  simp only [toJson, membersBehindTime, Value.object.injEq, List.cons.injEq, Prod.mk.injEq,
    Value.text.injEq, true_and, and_true] at h
  obtain ⟨htime, hseverity, hlocation, rfl, rfl, rfl, hthrowable, hthread, hproperties⟩ := h
  obtain rfl := Severity.toJson_inj hseverity
  obtain rfl := SourceLocation.toJson_inj hlocation
  obtain rfl := Value.optional_inj Throwable.toJson_ne_null Throwable.toJson_inj hthrowable
  obtain rfl := Value.optional_inj (fun t ht => by cases ht) (fun _ _ => ThreadInfo.toJson_inj)
    hthread
  obtain rfl := Properties.toJson_inj hproperties
  exact ⟨htime, rfl⟩

end LogRecord

/-! ## Files of lines -/

namespace Line

open Json.Byte (lineFeed)

theorem segmentsFrom_plain {text : List UInt8} (h : lineFeed ∉ text) (current rest : List UInt8) :
    segmentsFrom current (text ++ rest) = segmentsFrom (text.reverse ++ current) rest := by
  induction text generalizing current with
  | nil => rfl
  | cons b text ih =>
    have hb : b ≠ lineFeed := fun heq => h (heq ▸ List.mem_cons_self ..)
    rw [List.cons_append, segmentsFrom, if_neg hb, ih fun hmem => h (List.mem_cons_of_mem _ hmem),
      List.reverse_cons, List.append_assoc, List.singleton_append]

theorem segmentsFrom_append {text : List UInt8} (h : lineFeed ∉ text) (current rest : List UInt8) :
    segmentsFrom current (text ++ lineFeed :: rest) =
      (current.reverse ++ text) :: segmentsFrom [] rest := by
  rw [segmentsFrom_plain h, segmentsFrom, if_pos rfl, List.reverse_append, List.reverse_reverse]

/-- The stretches of a file of lines are the texts of its records, one for each. -/
theorem segments_lines (records : List LogRecord) :
    segments (AdapterSet.lines records) = records.map fun r => r.toJson.render := by
  induction records with
  | nil => rfl
  | cons r rest ih =>
    have hline : AdapterSet.lines (r :: rest) =
        r.toJson.render ++ lineFeed :: AdapterSet.lines rest := by
      rw [AdapterSet.lines, List.flatMap_cons, LogRecord.line, List.append_assoc,
        List.singleton_append]
      rfl
    rw [segments] at ih
    rw [segments, hline, segmentsFrom_append r.lineFeed_not_mem_render, List.reverse_nil,
      List.nil_append, ih, List.map_cons]

end Line

namespace LogRecord

/-- Lines show their records, none of them on more than one line: the text of a record has no
control character and is read back as the nine fields of the record, the texts are what stands
between the line feeds, and records with the same line differ in nothing that is shown. A reader
with a limit of nesting reads what is nested no deeper. -/
theorem lines_faithful {records : List LogRecord}
    (h : ∀ r ∈ records, ∀ n ∈ r.numbers, n < Nat.pow 2 64) :
    (∀ r ∈ records,
      (∀ b ∈ r.toJson.render, 0x20 ≤ b) ∧
      (Json.read r.toJson.render).trailing = false ∧
      (∀ depth, r.toJson.nesting ≤ depth →
        (Json.read r.toJson.render).root.value depth = .ok (.object [
          ("timestamp", .text r.timestamp.text),
          ("severity", .text r.severity.label),
          ("source_location", r.sourceLocation.toJson),
          ("log_system", .text r.logSystem),
          ("logger_name", .text r.loggerName),
          ("message", .text r.message),
          ("throwable", .optional Throwable.toJson r.throwable),
          ("thread_info", .optional ThreadInfo.toJson r.threadInfo),
          ("properties", .object (r.properties.entries.map fun e => (e.1, .text e.2)))])) ∧
      (Json.read r.toJson.render).value = r.toJson.within Json.maxDepth) ∧
    Line.segments (AdapterSet.lines records) = records.map (fun r => r.toJson.render) ∧
    (∀ a ∈ records, ∀ b ∈ records, a.line = b.line →
      a.timestamp.text = b.timestamp.text ∧ b = { a with timestamp := b.timestamp }) := by
  have hover : ∀ r ∈ records, r.toJson.Over IsExactInteger := fun r hr => over_exact (h r hr)
  refine ⟨fun r hr => ⟨r.printable_render, ?_, fun depth hdepth => ?_, ?_⟩,
    Line.segments_lines records, fun a ha b hb hline => ?_⟩
  · rw [(hover r hr).read_render]
  · rw [(hover r hr).read_render, (hover r hr).value_ofValue, Value.within, if_pos hdepth]
    rfl
  · exact (hover r hr).value_read_render
  · rw [line, line] at hline
    have hrender := List.append_cancel_right hline
    exact toJson_inj ((hover a ha).render_inj (hover b hb) hrender)

/-- A record with what must be escaped, and with a cause. -/
def unruly : LogRecord where
  timestamp := ⟨⟨2026, 3, 2⟩, ⟨9, 15, 0, 0⟩⟩
  severity := .error
  sourceLocation := .unknown
  logSystem := "log4j"
  loggerName := "app"
  message := "a \"quoted\" \\ line\nand \u0001 another\r\n"
  throwable := some (.mk "Outer" none [⟨"a.B", "c", none, 4294967295⟩]
    (some (.mk "Inner" (some "\t") [] none)))
  threadInfo := some ⟨none, some 18446744073709551615⟩
  properties := Properties.empty.insert "k\u0000" "é"

/-- The line of an unruly record is one line and is read back. -/
theorem lines_faithful_unruly :
    Line.segments (AdapterSet.lines [unruly, unruly]) =
      [unruly.toJson.render, unruly.toJson.render] ∧
      (Json.read unruly.toJson.render).value = .ok unruly.toJson := by
  have hfits : ∀ r ∈ [unruly, unruly], ∀ n ∈ r.numbers, n < Nat.pow 2 64 := by decide
  have hall := lines_faithful hfits
  refine ⟨hall.2.1, ?_⟩
  rw [(hall.1 unruly (List.mem_cons_self ..)).2.2.2]
  rfl

end LogRecord

end LogOrigin
