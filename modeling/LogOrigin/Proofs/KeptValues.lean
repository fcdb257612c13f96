import LogOrigin.Decode.Document
import LogOrigin.Decode.Variant
import LogOrigin.Proofs.EventRoundTrip
import Mathlib.Data.List.Forall2

/-!
# Values that were kept

A value that comes before its type is known is kept, and what it describes is decoded from what was
kept. That goes as well as decoding it while it is read (`Steady`): the same comes of it, or nothing
does either way. So it is with texts and numbers, and with lists and records of what is steady
(`Record.Matches.steady`). The variants of an enumeration are steady but for one spelling
(`Variants.SteadyFields.steady`): the name of a plain variant with an empty object behind it, which
is taken only from a value that was kept.
-/

namespace LogOrigin

open Json (Key Node Value)

/-! ## Nodes that are values -/

namespace Json.Node

theorem passingFault?_ofValue (v : Value) : (ofValue v).passingFault? = none := by
  cases v <;> rfl

/-- Items that went through can be told from what they came to. -/
theorem eq_map_of_mapM {ε α β : Type} {f : α → Except ε β} {g : β → α} {p : β → Prop}
    (hf : ∀ a b, f a = .ok b → a = g b ∧ p b) {items : List α} {values : List β}
    (h : items.mapM f = .ok values) : items = values.map g ∧ ∀ b ∈ values, p b := by
  induction items generalizing values with
  | nil =>
    cases h
    exact ⟨rfl, nofun⟩
  | cons a rest ih =>
    rw [List.mapM_cons] at h
    obtain ⟨b, hb, h⟩ := exists_of_bind h
    obtain ⟨others, hothers, h⟩ := exists_of_bind h
    cases h
    obtain ⟨ha, hp⟩ := hf a b hb
    obtain ⟨hrest, hall⟩ := ih hothers
    rw [ha, hrest]
    exact ⟨rfl, List.forall_mem_cons.mpr ⟨hp, hall⟩⟩

/-- What can be kept as a value is read as that value, and is nested no deeper than allowed. -/
theorem eq_ofValue_of_value {v : Value} :
    (depth : Nat) → (node : Node) → node.value depth = .ok v →
      node = .ofValue v ∧ v.nesting ≤ depth
  | depth, null, h => by
    cases depth <;> cases h <;> exact ⟨rfl, Nat.zero_le _⟩
  | depth, bool b, h => by
    cases depth <;> cases h <;> exact ⟨rfl, Nat.zero_le _⟩
  | depth, number n, h => by
    cases n <;> cases depth <;> cases h <;> exact ⟨rfl, Nat.zero_le _⟩
  | depth, text s, h => by
    cases s <;> cases depth <;> cases h <;> exact ⟨rfl, Nat.zero_le _⟩
  | depth, broken b, h => by cases depth <;> cases h
  | 0, list items ending, h => nomatch h
  | 0, object members ending, h => nomatch h
  | depth + 1, list items ending, h => by
    obtain ⟨values, hvalues, h⟩ := exists_of_bind h
    obtain ⟨u, hending, h⟩ := exists_of_bind h
    obtain rfl : ending = .closed := by
      cases ending with
      | closed => rfl
      | _ => cases hending
    cases h
    obtain ⟨rfl, hnesting⟩ :=
      eq_map_of_mapM (fun node _ => eq_ofValue_of_value depth node) hvalues
    rw [ofValue, ofItems_eq, Value.nesting]
    exact ⟨rfl, Nat.succ_le_succ (Value.itemsNesting_le.mpr hnesting)⟩
  | depth + 1, object members ending, h => by
    obtain ⟨values, hvalues, h⟩ := exists_of_bind h
    obtain ⟨u, hending, h⟩ := exists_of_bind h
    obtain rfl : ending = .closed := by
      cases ending with
      | closed => rfl
      | _ => cases hending
    cases h
    have hmember : ∀ (m : Key × Node) (w : String × Value),
        (do let name ← m.1; let v ← value depth m.2; return (name, v)) = .ok w →
          m = (.ok w.1, ofValue w.2) ∧ w.2.nesting ≤ depth := by
      rintro ⟨key, node⟩ w h
      obtain ⟨name, rfl, h⟩ := exists_of_bind h
      obtain ⟨v, hv, h⟩ := exists_of_bind h
      cases h
      obtain ⟨rfl, hnesting⟩ := eq_ofValue_of_value depth node hv
      exact ⟨rfl, hnesting⟩
    obtain ⟨rfl, hnesting⟩ := eq_map_of_mapM hmember hvalues
    rw [ofValue, ofMembers_eq, Value.nesting]
    exact ⟨rfl, Nat.succ_le_succ (Value.membersNesting_le.mpr hnesting)⟩

end Json.Node

namespace Decode

variable {α β δ : Type}

/-! ## Results but for the fault -/

/-- Both go through with the same result, or neither does. -/
def Agree (x y : Except Fault α) : Prop := x.toOption = y.toOption

theorem Agree.refl (x : Except Fault α) : Agree x x := rfl

theorem agree_error (fault fault' : Fault) :
    Agree (.error fault : Except Fault α) (.error fault') := rfl

theorem Agree.cases {x y : Except Fault α} (h : Agree x y) :
    (∃ a, x = .ok a ∧ y = .ok a) ∨ ∃ fault fault', x = .error fault ∧ y = .error fault' := by
  cases x with
  | ok a =>
    cases y with
    | ok b => exact .inl ⟨b, by rw [Option.some.inj h], rfl⟩
    | error fault' => cases h
  | error fault =>
    cases y with
    | ok b => cases h
    | error fault' => exact .inr ⟨fault, fault', rfl, rfl⟩

theorem Agree.bind {x y : Except Fault α} {f g : α → Except Fault β} (h : Agree x y)
    (hnext : ∀ a, Agree (f a) (g a)) : Agree (x >>= f) (y >>= g) := by
  obtain ⟨a, rfl, rfl⟩ | ⟨fault, fault', rfl, rfl⟩ := h.cases
  · exact hnext a
  · exact agree_error fault fault'

theorem Agree.map {x y : Except Fault α} (h : Agree x y) (f : α → β) :
    Agree (f <$> x) (f <$> y) := by
  obtain ⟨a, rfl, rfl⟩ | ⟨fault, fault', rfl, rfl⟩ := h.cases
  · exact .refl _
  · exact agree_error fault fault'

theorem agree_mapM {γ : Type} {f g : γ → Except Fault α} {items : List γ}
    (h : ∀ c ∈ items, Agree (f c) (g c)) : Agree (items.mapM f) (items.mapM g) := by
  induction items with
  | nil => exact .refl _
  | cons c rest ih =>
    rw [List.mapM_cons, List.mapM_cons]
    refine (h c (List.mem_cons_self ..)).bind fun a => ?_
    exact (ih fun d hd => h d (List.mem_cons_of_mem _ hd)).bind fun _ => .refl _

/-! ## Steady decoders -/

/-- Two decoders make the same of a value, one as it is read and one as it was kept. -/
def Steady (decode decode' : Decoder α) (v : Value) : Prop :=
  Agree (decode .streamed (.ofValue v)) (decode' .kept (.ofValue v))

/-- A decoder makes the same of every value that is not nested too deep for it. -/
def DeepSteady (decode : DeepDecoder α) : Prop :=
  ∀ v depth depth', v.nesting ≤ depth → v.nesting ≤ depth' →
    Steady (decode depth) (decode depth') v

theorem text_origin (origin origin' : Origin) (node : Node) :
    text origin node = text origin' node := by
  cases node <;> rfl

theorem steady_text (v : Value) : Steady text text v := by
  rw [Steady, text_origin .streamed .kept]
  exact .refl _

theorem steady_instant (v : Value) : Steady instant instant v := by
  cases v <;> exact .refl _

theorem steady_integer (wanted : Expectation) (least greatest : Int) (v : Value) :
    Steady (integer wanted least greatest) (integer wanted least greatest) v := by
  rcases v with _ | _ | ⟨_ | _⟩ | _ | _ | _ <;> exact .refl _

theorem steady_unsigned32 (v : Value) : Steady unsigned32 unsigned32 v :=
  (steady_integer _ _ _ v).map _

theorem steady_unsigned64 (v : Value) : Steady unsigned64 unsigned64 v :=
  (steady_integer _ _ _ v).map _

theorem steady_signed32 (v : Value) : Steady signed32 signed32 v :=
  steady_integer _ _ _ v

theorem Steady.nullable {decode decode' : Decoder α} {v : Value} (h : Steady decode decode' v) :
    Steady (nullable decode) (nullable decode') v := by
  by_cases hnull : v = .null
  · subst hnull
    exact .refl _
  · have hne := ofValue_ne_null hnull
    rw [Steady, nullable_of_ne_null hne, nullable_of_ne_null hne]
    exact Agree.map h some

/-- A list takes one level of nesting. -/
theorem exists_depth_of_list {items : List Value} {depth : Nat}
    (h : (Value.list items).nesting ≤ depth) :
    ∃ inside, depth = inside + 1 ∧ ∀ v ∈ items, v.nesting ≤ inside := by
  rw [Value.nesting] at h
  obtain ⟨inside, rfl⟩ : ∃ inside, depth = inside + 1 := ⟨depth - 1, by omega⟩
  exact ⟨inside, rfl, Value.itemsNesting_le.mp (Nat.le_of_succ_le_succ h)⟩

theorem exists_depth_of_object {members : List (String × Value)} {depth : Nat}
    (h : (Value.object members).nesting ≤ depth) :
    ∃ inside, depth = inside + 1 ∧ ∀ m ∈ members, m.2.nesting ≤ inside := by
  rw [Value.nesting] at h
  obtain ⟨inside, rfl⟩ : ∃ inside, depth = inside + 1 := ⟨depth - 1, by omega⟩
  exact ⟨inside, rfl, Value.membersNesting_le.mp (Nat.le_of_succ_le_succ h)⟩

theorem DeepSteady.list {item : DeepDecoder α} (hitem : DeepSteady item) :
    DeepSteady (list item) := by
  intro v depth depth' h h'
  cases v with
  | list items =>
    obtain ⟨inside, rfl, hinside⟩ := exists_depth_of_list h
    obtain ⟨inside', rfl, hinside'⟩ := exists_depth_of_list h'
    rw [Steady, Node.ofValue, Node.ofItems_eq, Decode.list, Decode.list, List.mapM_map,
      List.mapM_map]
    refine Agree.bind (agree_mapM fun v hv => ?_) fun values => .refl _
    exact hitem v inside inside' (hinside v hv) (hinside' v hv)
  | _ => cases depth <;> cases depth' <;> exact .refl _

theorem deepSteady_properties : DeepSteady Properties.decode := by
  intro v depth depth' h h'
  cases v with
  | object members =>
    obtain ⟨inside, rfl, -⟩ := exists_depth_of_object h
    obtain ⟨inside', rfl, -⟩ := exists_depth_of_object h'
    rw [Steady, Node.ofValue]
    simp only [Properties.decode, text_origin .streamed .kept]
    exact .refl _
  | _ => cases depth <;> cases depth' <;> exact .refl _

/-! ## Records -/

/-- The members of an object, or the items of a list with the names of the fields that they are due
for. -/
def named (names : List String) : Value → List (String × Value)
  | .object members => members
  | .list items => names.zip items
  | _ => []

/-- Two forms of a field are filled in alike from the values that `P` holds of under its name. -/
structure Field.Matches (P : String → Value → Prop) (f f' : Field δ) : Prop where
  name : f'.name = f.name
  isGiven : f'.isGiven = f.isGiven
  mayBeLeftOut : f'.mayBeLeftOut = f.mayBeLeftOut
  fill : ∀ v, P f.name v → Steady f.fill f'.fill v

theorem field_matches {P : String → Value → Prop} {name : String} {get : δ → Option β}
    {set : δ → Option β → δ} {decode decode' : Decoder β} {leave : Bool}
    (h : ∀ v, P name v → Steady decode decode' v) :
    (field name get set decode leave).Matches P (field name get set decode' leave) where
  name := rfl
  isGiven := rfl
  mayBeLeftOut := rfl
  fill v hv := (h v hv).map _

/-- A field is found in both forms, or in neither. -/
theorem find?_matches {P : String → Value → Prop} {fields fields' : List (Field δ)}
    (h : List.Forall₂ (Field.Matches P) fields fields') (name : String) :
    (fields.find? (·.name == name) = none ∧ fields'.find? (·.name == name) = none) ∨
      ∃ f f', fields.find? (·.name == name) = some f ∧ fields'.find? (·.name == name) = some f' ∧
        f.Matches P f' ∧ f.name = name := by
  induction h with
  | nil => exact .inl ⟨rfl, rfl⟩
  | @cons f f' fields fields' hf _ ih =>
    rw [List.find?_cons, List.find?_cons, hf.name]
    cases hname : f.name == name with
    | true => exact .inr ⟨f, f', rfl, rfl, hf, eq_of_beq hname⟩
    | false => exact ih

namespace Record

/-- Two forms of a record differ only in their fields, and these match. -/
structure Matches (P : String → Value → Prop) (r r' : Record δ α) : Prop where
  fields : List.Forall₂ (Field.Matches P) r.fields r'.fields
  blank : r'.blank = r.blank
  finish : r'.finish = r.finish

section Matches

variable {P : String → Value → Prop} {r r' : Record δ α} (h : r.Matches P r')

include h

theorem Matches.member (draft : δ) {name : String} {v : Value} (hv : P name v) :
    Agree (r.member .streamed draft (.ok name) (.ofValue v))
      (r'.member .kept draft (.ok name) (.ofValue v)) := by
  obtain ⟨hnone, hnone'⟩ | ⟨f, f', hsome, hsome', hf, rfl⟩ := find?_matches h.fields name
  · simp only [Record.member, ofText, bind, Except.bind, hnone, hnone', Node.passingFault?_ofValue]
    exact .refl _
  · simp only [Record.member, ofText, bind, Except.bind, hsome, hsome', hf.isGiven]
    split
    · exact .refl _
    · exact Agree.bind (hf.fill v hv) fun g => .refl _

theorem Matches.take {members : List (String × Value)} (hmembers : ∀ m ∈ members, P m.1 m.2)
    (draft : δ) :
    Agree (r.take .streamed (members.map fun m => (.ok m.1, .ofValue m.2)) draft)
      (r'.take .kept (members.map fun m => (.ok m.1, .ofValue m.2)) draft) := by
  induction members generalizing draft with
  | nil => exact .refl _
  | cons m rest ih =>
    rw [List.map_cons, take_cons, take_cons]
    refine (h.member draft (hmembers m (List.mem_cons_self ..))).bind fun next => ?_
    exact ih (fun m hm => hmembers m (List.mem_cons_of_mem _ hm)) next

omit h in
/-- Items fill in the fields that they are due for. -/
theorem items_matches {fields fields' : List (Field δ)}
    (hfields : List.Forall₂ (Field.Matches P) fields fields') {items : List Value}
    (hitems : ∀ m ∈ (fields.map (·.name)).zip items, P m.1 m.2) (given i : Nat) (draft : δ) :
    Agree (r.items .streamed given .closed i fields (items.map .ofValue) draft)
      (r'.items .kept given .closed i fields' (items.map .ofValue) draft) := by
  induction hfields generalizing items i draft with
  | nil => cases items <;> exact .refl _
  | @cons f f' fields fields' hf _ ih =>
    cases items with
    | nil =>
      simp only [List.map_nil, Record.items, hf.mayBeLeftOut]
      split
      · have hnone : ∀ m ∈ (fields.map (·.name)).zip ([] : List Value), P m.1 m.2 := by simp
        exact ih hnone _ _
      · exact agree_error _ _
    | cons v rest =>
      simp only [List.map_cons, Record.items]
      have hv : P f.name v := hitems (f.name, v) (by simp)
      refine (hf.fill v hv).bind fun g => ih (fun m hm => hitems m ?_) _ _
      exact List.mem_cons_of_mem _ hm

/-- Records whose fields match are decoded alike. -/
theorem Matches.steady {v : Value} (hv : ∀ m ∈ named (r.fields.map (·.name)) v, P m.1 m.2) :
    Steady r.decode r'.decode v := by
  cases v with
  | object members =>
    rw [Steady, decode_object, decode_object, h.blank, h.finish]
    exact (h.take hv r.blank).bind fun _ => .refl _
  | list items =>
    rw [Steady, Node.ofValue, Node.ofItems_eq]
    simp only [Record.decode, h.blank, h.finish, List.length_map]
    refine (items_matches h.fields hv _ _ _).bind fun draft => ?_
    refine Agree.bind (.refl _) fun a => Agree.bind ?_ fun _ => .refl _
    rw [afterFields, afterFields, h.fields.length_eq]
    split
    · exact agree_error _ _
    · exact .refl _
  | _ => exact agree_error _ _

end Matches

end Record

/-- A value that is nested no deeper than either, and of which `Q` holds under its name. -/
structure Within (depth depth' : Nat) (Q : String → Value → Prop) (name : String) (v : Value) :
    Prop where
  left : v.nesting ≤ depth
  right : v.nesting ≤ depth'
  holds : Q name v

theorem nesting_of_mem_named {names : List String} {v : Value} {m : String × Value} {depth : Nat}
    (hm : m ∈ named names v) (h : v.nesting ≤ depth + 1) : m.2.nesting ≤ depth := by
  cases v with
  | object members =>
    obtain ⟨inside, hinside, hmembers⟩ := exists_depth_of_object h
    rw [Nat.succ.inj hinside]
    exact hmembers m hm
  | list items =>
    obtain ⟨inside, hinside, hitems⟩ := exists_depth_of_list h
    rw [Nat.succ.inj hinside]
    exact hitems m.2 (List.of_mem_zip hm).2
  | _ => exact absurd hm List.not_mem_nil

section Records

variable {phrase : String} {inside : Nat → Record δ α}

/-- What is neither a list nor an object is no record. -/
theorem record_of_nesting_eq_zero {v : Value} (h : v.nesting = 0) (depth : Nat) (origin : Origin) :
    ∃ fault, record phrase inside depth origin (.ofValue v) = .error fault := by
  rcases v with _ | _ | ⟨_ | _⟩ | _ | items | members
  · cases depth <;> exact ⟨_, rfl⟩
  · cases depth <;> exact ⟨_, rfl⟩
  · cases depth <;> exact ⟨_, rfl⟩
  · cases depth <;> exact ⟨_, rfl⟩
  · cases depth <;> exact ⟨_, rfl⟩
  · rw [Value.nesting] at h
    cases h
  · rw [Value.nesting] at h
    cases h

/-- Records are steady where their fields are, with the nesting that is left to these. -/
theorem steady_record {Q : String → Value → Prop} {v : Value} {depth depth' : Nat}
    (h : v.nesting ≤ depth) (h' : v.nesting ≤ depth')
    (hmatches : ∀ d d', d < depth → d' < depth' →
      (inside d).Matches (Within d d' Q) (inside d'))
    (hQ : ∀ d, ∀ m ∈ named ((inside d).fields.map (·.name)) v, Q m.1 m.2) :
    Steady (record phrase inside depth) (record phrase inside depth') v := by
  by_cases hzero : v.nesting = 0
  · have hfails : ∀ depth origin,
        ∃ fault, record phrase inside depth origin (.ofValue v) = .error fault :=
      record_of_nesting_eq_zero hzero
    obtain ⟨fault, hfault⟩ := hfails depth .streamed
    obtain ⟨fault', hfault'⟩ := hfails depth' .kept
    rw [Steady, hfault, hfault']
    exact agree_error fault fault'
  · obtain ⟨d, rfl⟩ : ∃ d, depth = d + 1 := ⟨depth - 1, by omega⟩
    obtain ⟨d', rfl⟩ : ∃ d', depth' = d' + 1 := ⟨depth' - 1, by omega⟩
    refine (hmatches d d' (Nat.lt_succ_self d) (Nat.lt_succ_self d')).steady fun m hm => ?_
    exact ⟨nesting_of_mem_named hm h, nesting_of_mem_named hm h', hQ d m hm⟩

theorem deepSteady_record
    (hmatches : ∀ d d', (inside d).Matches (Within d d' fun _ _ => True) (inside d')) :
    DeepSteady (record phrase inside) :=
  fun _ _ _ h h' => steady_record h h' (fun d d' _ _ => hmatches d d') fun _ _ _ => trivial

end Records

/-! ## Variants -/

namespace Variants

variable {vs : Variants α}

theorem choose_cases {name : String} {choice : Choice α} (h : vs.choose name = .ok choice) :
    (∃ a, choice = .plain a ∧ (name, a) ∈ vs.plain) ∨
      ∃ fields, choice = .custom fields ∧ vs.custom = some (name, fields) := by
  unfold choose at h
  split at h
  · next _ _ name' a hfind =>
    have hfound := List.find?_some hfind
    obtain rfl : name' = name := eq_of_beq hfound
    exact .inl ⟨a, (Except.ok.inj h).symm, List.mem_of_find?_eq_some hfind⟩
  · next custom fields hnone hcustom =>
    split at h
    · next hname =>
      rw [eq_of_beq hname] at hcustom
      exact .inr ⟨fields, (Except.ok.inj h).symm, hcustom⟩
    · cases h
  · cases h

/-- The fields of a variant make the same of a value that is read and of one that was kept, and they
are a list or an object. -/
def SteadyFields (vs : Variants α) : Prop :=
  ∀ name fields, vs.custom = some (name, fields) → DeepSteady fields ∧
    ∀ v, v.nesting = 0 → ∀ depth, ∃ fault, fields depth .streamed (.ofValue v) = .error fault

/-- A variant whose fields are those of a steady record has steady fields. -/
theorem steadyFields_of_record {name : String} {phrase : String}
    {inside : Nat → Record δ α} (hcustom : vs.custom = some (name, record phrase inside))
    (h : DeepSteady (record phrase inside)) : vs.SteadyFields := by
  intro name' fields heq
  obtain ⟨rfl, rfl⟩ := Prod.mk.inj (Option.some.inj (hcustom.symm.trans heq))
  exact ⟨h, fun v hv depth => record_of_nesting_eq_zero hv depth .streamed⟩

/-- Nothing is given as null; an empty object will do as well if it was kept. -/
theorem steady_unit {v : Value} (h : v ≠ .object []) : Steady unit unit v := by
  rcases v with _ | _ | ⟨_ | _⟩ | _ | _ | ⟨_ | _⟩
  case object.nil => exact absurd rfl h
  all_goals exact Agree.refl _

/-- What stands behind the name of a variant is decoded alike, unless it is an empty object behind
that of a plain one. -/
theorem SteadyFields.contents (hfields : vs.SteadyFields) {name : String} {choice : Choice α}
    (hchoice : vs.choose name = .ok choice) {v : Value} {depth depth' : Nat}
    (h : v.nesting ≤ depth) (h' : v.nesting ≤ depth')
    (hbare : ∀ a, (name, a) ∈ vs.plain → v ≠ .object []) :
    Agree (Variants.contents depth .streamed choice (.ofValue v))
      (Variants.contents depth' .kept choice (.ofValue v)) := by
  obtain ⟨a, rfl, hplain⟩ | ⟨fields, rfl, hcustom⟩ := choose_cases hchoice
  · exact (steady_unit (hbare a hplain)).map _
  · obtain ⟨hsteady, hrefuses⟩ := hfields name fields hcustom
    have hfields := hsteady v depth depth' h h'
    by_cases hzero : v.nesting = 0
    · obtain ⟨fault, hfault⟩ := hrefuses v hzero depth
      rw [Variants.contents, hfault]
      rcases v with _ | _ | ⟨_ | _⟩ | _ | _ | _
      case list => rw [Value.nesting] at hzero; cases hzero
      case object => rw [Value.nesting] at hzero; cases hzero
      all_goals exact agree_error _ _
    · cases v with
      | list items => exact hfields
      | object members => exact hfields
      | _ => exact absurd rfl hzero

/-- An object is read as its first member, and must then be at its end. -/
theorem decode_streamed (depth : Nat) (key : String) (node : Node) (others : List (Key × Node))
    (ending : Json.ObjectEnding) :
    vs.decode (depth + 1) .streamed (.object ((.ok key, node) :: others) ending) =
      vs.choose key >>= fun choice => Variants.contents depth .streamed choice node >>= fun a =>
        afterMember others ending >>= fun _ => pure a := rfl

/-- An object that was kept has one member. -/
theorem decode_kept (depth : Nat) (key : String) (node : Node) (ending : Json.ObjectEnding) :
    vs.decode (depth + 1) .kept (.object [(.ok key, node)] ending) =
      vs.choose key >>= fun choice => Variants.contents depth .kept choice node := rfl

/-- Variants are steady but for the name of a plain one with an empty object behind it. -/
theorem SteadyFields.steady (hfields : vs.SteadyFields) {v : Value} {depth depth' : Nat}
    (h : v.nesting ≤ depth) (h' : v.nesting ≤ depth')
    (hbare : ∀ e ∈ vs.plain, v ≠ .object [(e.1, .object [])]) :
    Steady (vs.decode depth) (vs.decode depth') v := by
  rcases v with _ | _ | ⟨_ | _⟩ | s | items | members
  case text =>
    rw [Steady, Node.ofValue]
    cases depth <;> cases depth' <;> exact .refl _
  case object =>
    obtain ⟨d, rfl, hmembers⟩ := exists_depth_of_object h
    obtain ⟨d', rfl, hmembers'⟩ := exists_depth_of_object h'
    rw [Steady, Node.ofValue, Node.ofMembers_eq]
    rcases members with _ | ⟨⟨key, v⟩, _ | ⟨m, rest⟩⟩
    · exact agree_error _ _
    · rw [List.map_cons, List.map_nil, decode_streamed, decode_kept]
      cases hchoice : vs.choose key with
      | error fault => exact agree_error _ _
      | ok choice =>
        have hv : ∀ a, (key, a) ∈ vs.plain → v ≠ .object [] := by
          rintro a ha rfl
          exact hbare (key, a) ha rfl
        have hcontents := hfields.contents hchoice (hmembers _ (List.mem_singleton_self _))
          (hmembers' _ (List.mem_singleton_self _)) hv
        show Agree (_ >>= fun a => afterMember [] .closed >>= fun _ => pure a)
          (Variants.contents d' .kept choice (.ofValue v))
        obtain ⟨a, ha, ha'⟩ | ⟨fault, fault', ha, ha'⟩ := hcontents.cases
        · rw [ha, ha']
          exact .refl _
        · rw [ha, ha']
          exact agree_error _ _
    · rw [List.map_cons, List.map_cons, decode_streamed]
      cases vs.choose key with
      | error fault => exact agree_error _ _
      | ok choice =>
        show Agree (_ >>= fun a => afterMember (_ :: _) .closed >>= fun _ => pure a) _
        cases Variants.contents d .streamed choice (.ofValue v) <;> exact agree_error _ _
  all_goals cases depth <;> cases depth' <;> exact agree_error _ _

end Variants

end Decode

end LogOrigin
