import LogOrigin.Proofs.EventLines
import LogOrigin.Proofs.JsonValueTexts
import LogOrigin.Proofs.KeptValues
import LogOrigin.Proofs.ReplayParts

/-!
# The order of the members of a captured event

An event that comes behind its framework is decoded while it is read, and one that comes before it
is kept as a value first. Both ways lead to the same event, or to none, where all that is in the
event can be kept: also what is passed over must have texts that can be decoded, numbers in range
and no more nesting than is allowed. And its level must not be spelled with an empty object, which
only a value that was kept may have. Either condition matters in one order alone.
-/

namespace LogOrigin

open Json (Node Value IsValueText)
open Decode (Steady DeepSteady Within field_matches steady_text steady_instant steady_record
  deepSteady_record deepSteady_properties)

/-! ## Levels that only a kept value may have -/

namespace Decode

variable {α β δ : Type}

/-- Under the name of the level stands that of a plain variant with an empty object behind it. -/
def BareLevel (vs : Variants α) (names : List String) (v : Value) : Prop :=
  ∃ e ∈ vs.plain, ("level", .object [(e.1, .object [])]) ∈ named names v

/-- As it is read, a plain variant has nothing behind its name but null. -/
theorem Variants.decode_bare {vs : Variants α} {e : String × α} (he : e ∈ vs.plain) (depth : Nat) :
    ∃ fault, vs.decode depth .streamed (.ofValue (.object [(e.1, .object [])])) = .error fault := by
  cases depth with
  | zero => exact ⟨_, rfl⟩
  | succ depth =>
    have hfound : (vs.plain.find? (·.1 == e.1)).isSome = true :=
      List.find?_isSome.mpr ⟨e, he, beq_self_eq_true e.1⟩
    obtain ⟨⟨name, a⟩, hfind⟩ := Option.isSome_iff_exists.mp hfound
    have hchoice : vs.choose e.1 = .ok (.plain a) := by rw [choose, hfind]
    rw [Node.ofValue, Node.ofMembers_eq, List.map_cons, List.map_nil, decode_streamed, hchoice]
    exact ⟨_, rfl⟩

namespace Record

variable {r : Record δ α} {origin : Origin}

/-- Items that went through filled in the fields that they were due for. -/
theorem exists_of_items {given i : Nat} {ending : Json.ListEnding} {fields : List (Field δ)}
    {nodes : List Node} {draft draft' : δ}
    (h : r.items origin given ending i fields nodes draft = .ok draft') {f : Field δ} {node : Node}
    (hmem : (f, node) ∈ fields.zip nodes) : ∃ g, f.fill origin node = .ok g := by
  induction fields generalizing nodes draft i with
  | nil => cases hmem
  | cons f' fields ih =>
    cases nodes with
    | nil => cases hmem
    | cons node' nodes =>
      obtain ⟨g, hg, hrest⟩ := exists_of_bind h
      obtain heq | hmem := List.mem_cons.mp hmem
      · obtain ⟨rfl, rfl⟩ := Prod.mk.inj heq
        exact ⟨g, hg⟩
      · exact ih hrest hmem

/-- In a record that went through, the decoder of a field took the value under its name. -/
theorem exists_of_named {v w : Value} {a : α} (h : r.decode origin (.ofValue v) = .ok a)
    (hnodup : (r.fields.map (·.name)).Nodup) {name : String} {get : δ → Option β}
    {set : δ → Option β → δ} {decode : Decoder β} {leave : Bool}
    (hfind : r.fields.find? (·.name == name) = some (field name get set decode leave))
    (hw : (name, w) ∈ named (r.fields.map (·.name)) v) :
    ∃ b, decode origin (.ofValue w) = .ok b := by
  cases v with
  | object members =>
    rw [decode_object] at h
    obtain ⟨draft, htake, -⟩ := exists_of_bind h
    exact exists_of_mem htake name (.ofValue w) (List.mem_map_of_mem hw) hfind
  | list items =>
    rw [Node.ofValue, Node.ofItems_eq] at h
    obtain ⟨draft, hitems, -⟩ := exists_of_bind h
    rw [named, List.zip_map_left] at hw
    obtain ⟨⟨f, w'⟩, hzip, heq⟩ := List.mem_map.mp hw
    obtain ⟨hname, rfl⟩ : f.name = name ∧ w' = w := Prod.mk.inj heq
    have hfield : f = field name get set decode leave :=
      List.inj_on_of_nodup_map hnodup (List.of_mem_zip hzip).1 (List.mem_of_find?_eq_some hfind)
        hname
    have hnode : (f, Node.ofValue w') ∈ r.fields.zip (items.map .ofValue) := by
      rw [List.zip_map_right]
      exact List.mem_map_of_mem hzip
    obtain ⟨g, hg⟩ := exists_of_items hitems hnode
    cases hdecode : decode origin (.ofValue w') with
    | ok b => exact ⟨b, rfl⟩
    | error fault =>
      rw [hfield] at hg
      simp only [field, hdecode] at hg
      cases hg
  | _ => cases hw

end Record

/-- As it is read, a record with a bare level does not go through. -/
theorem record_of_bareLevel {vs : Variants β} {phrase : String} {inside : Nat → Record δ α}
    {depth : Nat} {get : δ → Option β} {set : δ → Option β → δ} {leave : Bool} {v : Value}
    (hnodup : ((inside depth).fields.map (·.name)).Nodup)
    (hfind : (inside depth).fields.find? (·.name == "level") =
      some (field "level" get set (vs.decode depth) leave))
    (h : BareLevel vs ((inside depth).fields.map (·.name)) v) :
    ∃ fault, record phrase inside (depth + 1) .streamed (.ofValue v) = .error fault := by
  obtain ⟨e, he, hlevel⟩ := h
  cases hdecode : record phrase inside (depth + 1) .streamed (.ofValue v) with
  | error fault => exact ⟨fault, rfl⟩
  | ok a =>
    obtain ⟨b, hb⟩ := Record.exists_of_named hdecode hnodup hfind hlevel
    obtain ⟨fault, hfault⟩ := Variants.decode_bare he depth
    rw [hfault] at hb
    cases hb

end Decode

/-! ## What events are made of -/

theorem StackFrame.deepSteady_decode : DeepSteady StackFrame.decode :=
  deepSteady_record fun _ _ => {
    fields := .cons (field_matches fun v _ => steady_text v) <|
      .cons (field_matches fun v _ => steady_text v) <|
      .cons (field_matches fun v _ => (steady_text v).nullable) <|
      .cons (field_matches fun v _ => Decode.steady_unsigned32 v) .nil
    blank := rfl
    finish := rfl }

namespace Throwable

theorem decode_eq_record (depth : Nat) :
    decode depth = Decode.record "struct Throwable" (fun d => record d (decode d)) depth := by
  cases depth <;> rfl

/-- The causes of a throwable are nested less deep than it is. -/
theorem deepSteady_decode : DeepSteady decode := by
  intro v depth depth' h h'
  induction depth using Nat.strongRecOn generalizing v depth' with
  | ind depth ih =>
    rw [decode_eq_record, decode_eq_record]
    refine steady_record (Q := fun _ _ => True) h h' (fun d d' hd _ => ?_) fun _ _ _ => trivial
    exact {
      fields := .cons (field_matches fun v _ => steady_text v) <|
        .cons (field_matches fun v _ => (steady_text v).nullable) <|
        .cons (field_matches fun v hv =>
          StackFrame.deepSteady_decode.list v _ _ hv.left hv.right) <|
        .cons (field_matches fun v hv => (ih d hd v d' hv.left hv.right).nullable) .nil
      blank := rfl
      finish := rfl }

end Throwable

theorem Log4j.LocationInfo.deepSteady_decode : DeepSteady Log4j.LocationInfo.decode :=
  deepSteady_record fun _ _ => {
    fields := .cons (field_matches fun v _ => (steady_text v).nullable) <|
      .cons (field_matches fun v _ => (steady_text v).nullable) <|
      .cons (field_matches fun v _ => (steady_text v).nullable) <|
      .cons (field_matches fun v _ => (steady_text v).nullable) .nil
    blank := rfl
    finish := rfl }

/-! ## Levels -/

theorem Log4j.Level.steadyFields : Log4j.Level.variants.SteadyFields :=
  Decode.Variants.steadyFields_of_record rfl <| deepSteady_record fun _ _ => {
    fields := .cons (field_matches fun v _ => steady_text v) <|
      .cons (field_matches fun v _ => Decode.steady_signed32 v) .nil
    blank := rfl
    finish := rfl }

theorem Log4j2.Level.steadyFields : Log4j2.Level.variants.SteadyFields :=
  Decode.Variants.steadyFields_of_record rfl <| deepSteady_record fun _ _ => {
    fields := .cons (field_matches fun v _ => steady_text v) <|
      .cons (field_matches fun v _ => Decode.steady_unsigned32 v) .nil
    blank := rfl
    finish := rfl }

theorem Logback.Level.steadyFields : Logback.Level.variants.SteadyFields :=
  Decode.Variants.steadyFields_of_record rfl <| deepSteady_record fun _ _ => {
    fields := .cons (field_matches fun v _ => steady_text v) <|
      .cons (field_matches fun v _ => Decode.steady_signed32 v) .nil
    blank := rfl
    finish := rfl }

/-- A value that is no bare level, under whatever name. -/
def Decode.Variants.NotBare {α : Type} (vs : Decode.Variants α) (name : String) (v : Value) :
    Prop :=
  name = "level" → ∀ e ∈ vs.plain, v ≠ .object [(e.1, .object [])]

theorem Decode.notBare_of_named {α : Type} {vs : Decode.Variants α} {names : List String}
    {v : Value} (h : ¬ Decode.BareLevel vs names v) :
    ∀ m ∈ Decode.named names v, vs.NotBare m.1 m.2 := by
  rintro ⟨name, w⟩ hm rfl e he rfl
  exact h ⟨e, he, hm⟩

/-! ## Events -/

theorem Log4j.Event.steady_decode {v : Value} {depth depth' : Nat} (h : v.nesting ≤ depth)
    (h' : v.nesting ≤ depth')
    (hlevel : ¬ Decode.BareLevel Level.variants ((Event.record 0).fields.map (·.name)) v) :
    Steady (Event.decode depth) (Event.decode depth') v :=
  steady_record (Q := Level.variants.NotBare) h h' (fun _ _ _ _ => {
    fields := .cons (field_matches fun v _ => (steady_instant v).nullable) <|
      .cons (field_matches fun _ hv =>
        Level.steadyFields.steady hv.left hv.right (hv.holds rfl)) <|
      .cons (field_matches fun v _ => steady_text v) <|
      .cons (field_matches fun v _ => steady_text v) <|
      .cons (field_matches fun v _ => (steady_text v).nullable) <|
      .cons (field_matches fun v hv =>
        (Throwable.deepSteady_decode v _ _ hv.left hv.right).nullable) <|
      .cons (field_matches fun v hv =>
        (DeepSteady.list (fun v _ _ _ _ => steady_text v) v _ _ hv.left hv.right).nullable) <|
      .cons (field_matches fun v hv =>
        (LocationInfo.deepSteady_decode v _ _ hv.left hv.right).nullable) <|
      .cons (field_matches fun v hv => deepSteady_properties v _ _ hv.left hv.right) .nil
    blank := rfl
    finish := rfl }) fun _ => Decode.notBare_of_named hlevel

theorem Log4j2.Event.steady_decode {v : Value} {depth depth' : Nat} (h : v.nesting ≤ depth)
    (h' : v.nesting ≤ depth')
    (hlevel : ¬ Decode.BareLevel Level.variants ((Event.record 0).fields.map (·.name)) v) :
    Steady (Event.decode depth) (Event.decode depth') v :=
  steady_record (Q := Level.variants.NotBare) h h' (fun _ _ _ _ => {
    fields := .cons (field_matches fun v _ => (steady_instant v).nullable) <|
      .cons (field_matches fun _ hv =>
        Level.steadyFields.steady hv.left hv.right (hv.holds rfl)) <|
      .cons (field_matches fun v _ => steady_text v) <|
      .cons (field_matches fun v _ => steady_text v) <|
      .cons (field_matches fun v _ => (steady_text v).nullable) <|
      .cons (field_matches fun v _ => (Decode.steady_unsigned64 v).nullable) <|
      .cons (field_matches fun v hv =>
        (Throwable.deepSteady_decode v _ _ hv.left hv.right).nullable) <|
      .cons (field_matches fun v hv =>
        (StackFrame.deepSteady_decode v _ _ hv.left hv.right).nullable) <|
      .cons (field_matches fun v hv => deepSteady_properties v _ _ hv.left hv.right) .nil
    blank := rfl
    finish := rfl }) fun _ => Decode.notBare_of_named hlevel

theorem Logback.Event.steady_decode {v : Value} {depth depth' : Nat} (h : v.nesting ≤ depth)
    (h' : v.nesting ≤ depth')
    (hlevel : ¬ Decode.BareLevel Level.variants ((Event.record 0).fields.map (·.name)) v) :
    Steady (Event.decode depth) (Event.decode depth') v :=
  steady_record (Q := Level.variants.NotBare) h h' (fun _ _ _ _ => {
    fields := .cons (field_matches fun v _ => (steady_instant v).nullable) <|
      .cons (field_matches fun _ hv =>
        Level.steadyFields.steady hv.left hv.right (hv.holds rfl)) <|
      .cons (field_matches fun v _ => steady_text v) <|
      .cons (field_matches fun v _ => steady_text v) <|
      .cons (field_matches fun v _ => (steady_text v).nullable) <|
      .cons (field_matches fun v hv =>
        (Throwable.deepSteady_decode v _ _ hv.left hv.right).nullable) <|
      .cons (field_matches fun v hv =>
        StackFrame.deepSteady_decode.list v _ _ hv.left hv.right) <|
      .cons (field_matches fun v hv =>
        DeepSteady.list (fun v _ _ _ _ => steady_text v) v _ _ hv.left hv.right) <|
      .cons (field_matches fun v hv => deepSteady_properties v _ _ hv.left hv.right) .nil
    blank := rfl
    finish := rfl }) fun _ => Decode.notBare_of_named hlevel

/-! ## Captured events -/

namespace CapturedEvent

open Json (maxDepth pairText)

/-- The event of a framework has a bare level. -/
def BareLevel (v : Value) : Framework → Prop
  | .log4j => Decode.BareLevel Log4j.Level.variants ((Log4j.Event.record 0).fields.map (·.name)) v
  | .log4j2 =>
    Decode.BareLevel Log4j2.Level.variants ((Log4j2.Event.record 0).fields.map (·.name)) v
  | .logback =>
    Decode.BareLevel Logback.Level.variants ((Logback.Event.record 0).fields.map (·.name)) v

theorem steady_decodeEvent {f : Framework} {v : Value} {depth depth' : Nat}
    (h : v.nesting ≤ depth) (h' : v.nesting ≤ depth') (hlevel : ¬ BareLevel v f) :
    Steady (decodeEvent f depth) (decodeEvent f depth') v := by
  cases f with
  | log4j => exact (Log4j.Event.steady_decode h h' hlevel).map _
  | log4j2 => exact (Log4j2.Event.steady_decode h h' hlevel).map _
  | logback => exact (Logback.Event.steady_decode h h' hlevel).map _

theorem decodeEvent_of_bareLevel {f : Framework} {v : Value} (h : BareLevel v f) (depth : Nat) :
    ∃ fault, decodeEvent f (depth + 1) .streamed (.ofValue v) = .error fault := by
  cases f with
  | log4j =>
    have hnodup : ((Log4j.Event.record 0).fields.map (·.name)).Nodup := by decide
    have hfails : ∃ fault, Log4j.Event.decode (depth + 1) .streamed (.ofValue v) = .error fault :=
      Decode.record_of_bareLevel hnodup rfl h
    exact hfails.imp fun _ hfault => congrArg (log4j <$> ·) hfault
  | log4j2 =>
    have hnodup : ((Log4j2.Event.record 0).fields.map (·.name)).Nodup := by decide
    have hfails : ∃ fault, Log4j2.Event.decode (depth + 1) .streamed (.ofValue v) = .error fault :=
      Decode.record_of_bareLevel hnodup rfl h
    exact hfails.imp fun _ hfault => congrArg (log4j2 <$> ·) hfault
  | logback =>
    have hnodup : ((Logback.Event.record 0).fields.map (·.name)).Nodup := by decide
    have hfails : ∃ fault, Logback.Event.decode (depth + 1) .streamed (.ofValue v) = .error fault :=
      Decode.record_of_bareLevel hnodup rfl h
    exact hfails.imp fun _ hfault => congrArg (logback <$> ·) hfault

/-! ## Either order -/

section Members

variable (depth : Nat) (framework event : Node)

theorem member_framework :
    member depth {} (.ok frameworkKey) framework =
      (fun f => { framework := some f }) <$>
        Framework.variants.decode depth .streamed framework := by
  show (Framework.variants.decode depth .streamed framework >>= fun f =>
    (.ok { framework := some f } : Except Decode.Fault Draft)) = _
  cases Framework.variants.decode depth .streamed framework <;> rfl

theorem member_event (f : Framework) :
    member depth { framework := some f } (.ok eventKey) event =
      (fun e => { framework := some f, event := some e }) <$>
        decodeEvent f depth .streamed event := by
  show (decodeEvent f depth .streamed event >>= fun e =>
    (.ok { framework := some f, event := some e } : Except Decode.Fault Draft)) = _
  cases decodeEvent f depth .streamed event <;> rfl

theorem member_keptEvent :
    member depth {} (.ok eventKey) event =
      (fun v => { kept := some v }) <$> Decode.ofText (event.value depth) := by
  show (Decode.ofText (event.value depth) >>= fun v =>
    (.ok { kept := some v } : Except Decode.Fault Draft)) = _
  cases Decode.ofText (event.value depth) <;> rfl

theorem member_lateFramework (v : Value) :
    member depth { kept := some v } (.ok frameworkKey) framework =
      Framework.variants.decode depth .streamed framework >>= fun f =>
        (fun e => { framework := some f, kept := some v, event := some e }) <$>
          Decode.keptValue (decodeEvent f) v := by
  show (Framework.variants.decode depth .streamed framework >>= fun f =>
    Decode.keptValue (decodeEvent f) v >>= fun e =>
      (.ok { framework := some f, kept := some v, event := some e } :
        Except Decode.Fault Draft)) = _
  cases Framework.variants.decode depth .streamed framework with
  | error fault => rfl
  | ok f => cases Decode.keptValue (decodeEvent f) v <;> rfl

/-- Behind its framework, an event is decoded as it is read. -/
theorem decode_frameworkFirst :
    decode (depth + 1) .streamed
        (.object [(.ok frameworkKey, framework), (.ok eventKey, event)] .closed) =
      Framework.variants.decode depth .streamed framework >>= fun f =>
        decodeEvent f depth .streamed event := by
  rw [decode]
  simp only [List.foldlM_cons, List.foldlM_nil, member_framework]
  cases Framework.variants.decode depth .streamed framework with
  | error fault => rfl
  | ok f =>
    show (member depth { framework := some f } (.ok eventKey) event >>= pure) >>= _ =
      decodeEvent f depth .streamed event
    rw [member_event]
    cases decodeEvent f depth .streamed event <;> rfl

/-- Before its framework, an event is kept, and decoded when the framework is known. -/
theorem decode_eventFirst :
    decode (depth + 1) .streamed
        (.object [(.ok eventKey, event), (.ok frameworkKey, framework)] .closed) =
      Decode.ofText (event.value depth) >>= fun v =>
        Framework.variants.decode depth .streamed framework >>= fun f =>
          Decode.keptValue (decodeEvent f) v := by
  rw [decode]
  simp only [List.foldlM_cons, List.foldlM_nil, member_keptEvent]
  cases Decode.ofText (event.value depth) with
  | error fault => rfl
  | ok v =>
    show (member depth { kept := some v } (.ok frameworkKey) framework >>= pure) >>= _ = _
    rw [member_lateFramework]
    cases Framework.variants.decode depth .streamed framework with
    | error fault => rfl
    | ok f =>
      show ((_ <$> Decode.keptValue (decodeEvent f) v) >>= pure) >>= _ =
        Decode.keptValue (decodeEvent f) v
      cases Decode.keptValue (decodeEvent f) v <;> rfl

end Members

/-- The text of a captured event with the framework first. -/
def frameworkFirst (framework event : List UInt8) : List UInt8 :=
  pairText frameworkKey eventKey framework event

/-- The text of a captured event with the event first. -/
def eventFirst (framework event : List UInt8) : List UInt8 :=
  pairText eventKey frameworkKey event framework

/-- The framework that a text names, read as a member of a captured event. -/
def frameworkOf (text : List UInt8) : Except Decode.Fault Framework :=
  Framework.variants.decode (maxDepth - 1) .streamed (Json.read text).root

/-- What is kept of the text of an event, read as a member of a captured event. -/
def keptOf (text : List UInt8) : Except Json.TextFault Value :=
  (Json.read text).root.value (maxDepth - 1)

section Orders

variable {framework event : List UInt8} (hframework : IsValueText framework)
  (hevent : IsValueText event)

include hframework hevent

theorem ofLine_frameworkFirst :
    ofLine (frameworkFirst framework event) =
      frameworkOf framework >>= fun f =>
        decodeEvent f (maxDepth - 1) .streamed (Json.read event).root := by
  rw [ofLine, Decode.bytes, frameworkFirst, Json.read_pairText _ _ hframework hevent]
  exact (bind_pure _).trans (decode_frameworkFirst _ _ _)

theorem ofLine_eventFirst :
    ofLine (eventFirst framework event) =
      Decode.ofText (keptOf event) >>= fun v => frameworkOf framework >>= fun f =>
        Decode.keptValue (decodeEvent f) v := by
  rw [ofLine, Decode.bytes, eventFirst, Json.read_pairText _ _ hevent hframework]
  exact (bind_pure _).trans (decode_eventFirst _ _ _)

/-- An event that can be kept, and that has no bare level, is the same in either order. -/
theorem agree_orders {v : Value} (hkept : keptOf event = .ok v)
    (hlevel : ∀ f, frameworkOf framework = .ok f → ¬ BareLevel v f) :
    Decode.Agree (ofLine (frameworkFirst framework event))
      (ofLine (eventFirst framework event)) := by
  obtain ⟨hroot, hnesting⟩ := Node.eq_ofValue_of_value _ _ hkept
  rw [ofLine_frameworkFirst hframework hevent, ofLine_eventFirst hframework hevent, hkept, hroot]
  cases hf : frameworkOf framework with
  | error fault => exact Decode.agree_error fault fault
  | ok f =>
    exact steady_decodeEvent hnesting (Nat.le_trans hnesting (Nat.sub_le _ _)) (hlevel f hf)

/-- A bare level is refused behind the framework. -/
theorem frameworkFirst_of_bareLevel {v : Value} (hkept : keptOf event = .ok v) {f : Framework}
    (hf : frameworkOf framework = .ok f) (hlevel : BareLevel v f) :
    ∃ fault, ofLine (frameworkFirst framework event) = .error fault := by
  obtain ⟨hroot, -⟩ := Node.eq_ofValue_of_value _ _ hkept
  rw [ofLine_frameworkFirst hframework hevent, hf, hroot]
  exact decodeEvent_of_bareLevel hlevel (maxDepth - 2)

/-- What cannot be kept is refused before the framework. -/
theorem eventFirst_of_unkept {fault : Json.TextFault} (hkept : keptOf event = .error fault) :
    ofLine (eventFirst framework event) = .error (.malformed fault) := by
  rw [ofLine_eventFirst hframework hevent, hkept]
  rfl

end Orders

/-! ## Replays -/

/-- Two lines that are the same, or that hold a captured event with its members in one order and in
the other, where the event can be kept and has no bare level. -/
inductive Reordered : List UInt8 → List UInt8 → Prop where
  | same (raw : List UInt8) : Reordered raw raw
  | symm {raw raw' : List UInt8} (h : Reordered raw raw') : Reordered raw' raw
  | swapped {framework event : List UInt8} {v : Value} (hframework : IsValueText framework)
      (hevent : IsValueText event) (hkept : keptOf event = .ok v)
      (hlevel : ∀ f, frameworkOf framework = .ok f → ¬ BareLevel v f) :
      Reordered (frameworkFirst framework event) (eventFirst framework event)

theorem Reordered.event?_eq {raw raw' : List UInt8} (h : Reordered raw raw') :
    Replay.event? raw = Replay.event? raw' := by
  induction h with
  | same => rfl
  | symm _ ih => exact ih.symm
  | @swapped framework event v hframework hevent hkept hlevel =>
    have hagree : (ofLine (frameworkFirst framework event)).toOption =
        (ofLine (eventFirst framework event)).toOption :=
      agree_orders hframework hevent hkept hlevel
    have hlength : (frameworkFirst framework event).length =
        (eventFirst framework event).length := by
      simp only [frameworkFirst, eventFirst, pairText, Json.memberOf, List.length_cons,
        List.length_append, List.length_nil]
      omega
    have hbrace : ∀ rest, (Json.Byte.openBrace :: rest).all Line.isBlankByte = false :=
      fun rest => rfl
    rw [Replay.event?, Replay.event?, hlength, hagree, frameworkFirst, eventFirst, pairText,
      pairText, hbrace, hbrace]

end CapturedEvent

namespace Replay

open CapturedEvent (Reordered)

/-- Lines that come to the same events do so in their order. -/
theorem events_eq_of_reordered {raws raws' : List (List UInt8)}
    (h : List.Forall₂ Reordered raws raws') (number : Nat) :
    events number raws = events number raws' := by
  induction h generalizing number with
  | nil => rfl
  | @cons raw raw' raws raws' hline _ ih =>
    cases he : event? raw with
    | none => rw [events_cons_none he, events_cons_none (hline.event?_eq ▸ he), ih]
    | some e => rw [events_cons_some he, events_cons_some (hline.event?_eq ▸ he), ih]

end Replay

namespace CapturedEvent

/-- A captured event is the same with its members in either order, or is none either way, if the
event can be kept and has no bare level; a replay then tells neither the lines apart nor what its
sink receives. A bare level is refused if it comes behind the framework, and an event that cannot be
kept if it comes before it. -/
theorem either_order :
    (∀ framework event, IsValueText framework → IsValueText event →
      let behind := ofLine (frameworkFirst framework event)
      let before := ofLine (eventFirst framework event)
      (∀ v, keptOf event = .ok v → (∀ f, frameworkOf framework = .ok f → ¬ BareLevel v f) →
        behind.toOption = before.toOption) ∧
      (∀ v f, keptOf event = .ok v → frameworkOf framework = .ok f → BareLevel v f →
        ∃ fault, behind = .error fault) ∧
      (∀ fault, keptOf event = .error fault → before = .error (.malformed fault))) ∧
    ∀ {σ : Type} [Sink σ] (clock : Nat → Instant) {x y : Source},
      x.failure = none → y.failure = none →
      List.Forall₂ Reordered (Line.segments x.bytes) (Line.segments y.bytes) →
      ∀ s : AdapterSet σ,
        Replay.deliveries clock x s = Replay.deliveries clock y s ∧
        (Replay.run clock x s).1.adapters = (Replay.run clock y s).1.adapters ∧
        (Replay.run clock x s).1.summary.dispatched =
          (Replay.run clock y s).1.summary.dispatched := by
  refine ⟨fun framework event hframework hevent => ⟨?_, ?_, ?_⟩, ?_⟩
  · exact fun v hkept hlevel => agree_orders hframework hevent hkept hlevel
  · exact fun v f hkept hf hlevel =>
      frameworkFirst_of_bareLevel hframework hevent hkept hf hlevel
  · exact fun fault hkept => eventFirst_of_unkept hframework hevent hkept
  · intro σ _ clock x y hx hy hlines s
    have hevents := Replay.events_eq_of_reordered hlines 1
    obtain ⟨-, hadapters, hdispatched⟩ := Replay.run_spec clock hx s
    obtain ⟨-, hadapters', hdispatched'⟩ := Replay.run_spec clock hy s
    refine ⟨?_, ?_, ?_⟩
    · rw [Replay.deliveries_eq clock hx, Replay.deliveries_eq clock hy, Replay.timed, Replay.timed,
        hevents]
    · rw [hadapters, hadapters', hevents]
    · rw [hdispatched, hdispatched', hevents]

/-- The name of a framework as text. -/
def namedLog4j : List UInt8 := (Value.text "log4j").render

/-- An event with its level as an object. -/
def spelledOut : Value :=
  .object [("level", .object [("INFO", .null)]), ("loggerName", .text "app")]

/-- An event with its level as an object goes well in either order. -/
theorem either_order_spelledOut :
    let behind := frameworkFirst namedLog4j spelledOut.render
    let before := eventFirst namedLog4j spelledOut.render
    let adapters := (AdapterSet.ofConfig .default [] ({} : MemorySink)).startAll
    (ofLine behind).toOption = (ofLine before).toOption ∧
      Replay.deliveries (fun _ => .ofNanoseconds 0) ⟨[behind], none⟩ adapters =
        Replay.deliveries (fun _ => .ofNanoseconds 0) ⟨[before], none⟩ adapters := by
  intro behind before adapters
  have hframework : (Value.text "log4j").Over Value.IsExactInteger := .text _
  have hevent : spelledOut.Over Value.IsExactInteger :=
    Value.over_object_cons (Value.over_object_cons .null Value.over_object_nil) <|
      Value.over_object_cons (.text _) Value.over_object_nil
  have hkept : keptOf spelledOut.render = .ok spelledOut := by
    rw [keptOf, hevent.read_render, hevent.value_ofValue]
    rfl
  have hlevel : ∀ f, frameworkOf namedLog4j = .ok f → ¬ BareLevel spelledOut f := by
    rintro f - hbare
    cases f <;>
    · obtain ⟨e, -, he⟩ := hbare
      simp [Decode.named, spelledOut] at he
  obtain ⟨horders, hreplays⟩ := either_order
  refine ⟨(horders _ _ hframework.isValueText hevent.isValueText).1 spelledOut hkept hlevel, ?_⟩
  have hbehind : Line.segments (Source.bytes ⟨[behind], none⟩) = [behind] := by decide +kernel
  have hbefore : Line.segments (Source.bytes ⟨[before], none⟩) = [before] := by decide +kernel
  refine (hreplays _ rfl rfl ?_ adapters).1
  rw [hbehind, hbefore]
  exact .cons (.swapped hframework.isValueText hevent.isValueText hkept hlevel) .nil

/-- The event of a line that goes well with its members in one order only: a text that is passed
over and cannot be decoded, or an empty object as what stands behind the name of a level. -/
theorem orders_differ :
    let unkept := bytesOf "\x7b\"level\":\"INFO\",\"loggerName\":\"app\",\"note\":\"\\ud800\"\x7d"
    let bare := bytesOf "\x7b\"level\":\x7b\"INFO\":\x7b\x7d\x7d,\"loggerName\":\"app\"\x7d"
    (IsValueText unkept ∧ (ofLine (frameworkFirst namedLog4j unkept)).isOk = true ∧
      (ofLine (eventFirst namedLog4j unkept)).isOk = false) ∧
    IsValueText bare ∧ (ofLine (frameworkFirst namedLog4j bare)).isOk = false ∧
      (ofLine (eventFirst namedLog4j bare)).isOk = true := by
  refine ⟨⟨⟨?_, ?_⟩, ?_, ?_⟩, ⟨?_, ?_⟩, ?_, ?_⟩ <;> decide +kernel

end CapturedEvent

end LogOrigin
