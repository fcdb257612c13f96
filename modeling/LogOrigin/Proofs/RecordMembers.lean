import LogOrigin.Proofs.JsonRoundTrip
import LogOrigin.Proofs.RecordDecoding

/-!
# One member of a record

A field that the other fields of a record have nothing to do with (`Record.Alone`) depends on its
own member only. A member that is added to an object without its key fills in its field and changes
nothing else (`Record.Alone.take_insert`), and another value for a member that is there changes its
field and nothing else (`Record.Alone.take_replace`).
-/

namespace LogOrigin.Decode

open Json (Key Node)

variable {δ α β : Type}

/-- The field has nothing to do with what `get` reads off drafts and `set` puts into them. -/
structure Field.Apart (f : Field δ) (origin : Origin) (get : δ → Option β)
    (set : δ → Option β → δ) : Prop where
  isGiven : ∀ draft b, f.isGiven (set draft b) = f.isGiven draft
  fill : ∀ node g, f.fill origin node = .ok g → ∀ draft b, g (set draft b) = set (g draft) b
  kept : ∀ node g, f.fill origin node = .ok g → ∀ draft, get (g draft) = get draft

/-- Fields are apart if what they read and put into drafts is. -/
theorem field_apart {γ : Type} {name : String} {get : δ → Option β} {set : δ → Option β → δ}
    {get' : δ → Option γ} {set' : δ → Option γ → δ} {decode : Decoder γ} {leave : Bool}
    (origin : Origin) (hget' : ∀ draft b, get' (set draft b) = get' draft)
    (hset : ∀ draft b c, set' (set draft b) c = set (set' draft c) b)
    (hget : ∀ draft c, get (set' draft c) = get draft) :
    (field name get' set' decode leave).Apart origin get set where
  isGiven draft b := congrArg Option.isSome (hget' draft b)
  fill node g hfill draft b := by
    cases hdecode : decode origin node with
    | error fault => simp only [field, hdecode] at hfill; cases hfill
    | ok c =>
      simp only [field, hdecode] at hfill
      rw [← Except.ok.inj hfill]
      exact hset draft b (some c)
  kept := Record.field_keeps hget

namespace Record

/-- A field of a record that its other fields have nothing to do with. -/
structure Alone (r : Record δ α) (origin : Origin) (name : String) (get : δ → Option β)
    (set : δ → Option β → δ) (decode : Decoder β) : Prop where
  found : ∃ leave, r.fields.find? (·.name == name) = some (field name get set decode leave)
  get_set : ∀ draft b, get (set draft b) = b
  set_set : ∀ draft b c, set (set draft b) c = set draft c
  others : ∀ f ∈ r.fields, f.name ≠ name → f.Apart origin get set

variable {r : Record δ α} {origin : Origin} {draft draft' : δ} {front back : List (Key × Node)}

theorem take_append {next : δ} (hfront : r.take origin front draft = .ok next) :
    r.take origin (front ++ back) draft = r.take origin back next := by
  rw [take, List.foldlM_append]
  exact congrArg (· >>= r.take origin back) hfront

theorem exists_of_take_append (h : r.take origin (front ++ back) draft = .ok draft') :
    ∃ next, r.take origin front draft = .ok next ∧ r.take origin back next = .ok draft' := by
  rw [take, List.foldlM_append] at h
  exact exists_of_bind h

theorem take_cons (key : Key) (node : Node) (rest : List (Key × Node)) (draft : δ) :
    r.take origin ((key, node) :: rest) draft =
      r.member origin draft key node >>= r.take origin rest :=
  List.foldlM_cons

namespace Alone

variable {name : String} {get : δ → Option β} {set : δ → Option β → δ} {decode : Decoder β}
  (h : r.Alone origin name get set decode)

include h

/-- Members without the key leave alone what is read off drafts. -/
theorem get_of_take {members : List (Key × Node)} (hmembers : ∀ m ∈ members, m.1 ≠ .ok name)
    (htake : r.take origin members draft = .ok draft') : get draft' = get draft :=
  take_keeps name (fun f hf hne => (h.others f hf hne).kept) hmembers htake

/-- A member with another key does not see what is put into the draft. -/
theorem member_set {key : Key} (hkey : key ≠ .ok name) (node : Node) (draft : δ) (b : Option β) :
    r.member origin (set draft b) key node = (set · b) <$> r.member origin draft key node := by
  cases key with
  | error fault => rfl
  | ok key =>
    simp only [member, ofText, bind, Except.bind]
    cases hfind : r.fields.find? (·.name == key) with
    | none => cases raise node.passingFault? <;> rfl
    | some f =>
      have hfound := List.find?_some hfind
      have hname : f.name = key := eq_of_beq hfound
      have hne : f.name ≠ name := fun heq => hkey (by rw [← hname, heq])
      have hf := h.others f (List.mem_of_find?_eq_some hfind) hne
      simp only [hf.isGiven]
      split
      · rfl
      · cases hfill : f.fill origin node with
        | error fault => rfl
        | ok g => exact congrArg Except.ok (hf.fill node g hfill draft b)

/-- Members without the key do not see what is put into the draft. -/
theorem take_set {members : List (Key × Node)} (hmembers : ∀ m ∈ members, m.1 ≠ .ok name)
    (draft : δ) (b : Option β) :
    r.take origin members (set draft b) = (set · b) <$> r.take origin members draft := by
  induction members generalizing draft with
  | nil => rfl
  | cons m rest ih =>
    obtain ⟨key, node⟩ := m
    rw [take_cons, take_cons, h.member_set (hmembers _ (List.mem_cons_self ..))]
    cases r.member origin draft key node with
    | error fault => rfl
    | ok next => exact ih (fun m hm => hmembers m (List.mem_cons_of_mem _ hm)) next

/-- A member with the key is refused if the field is given, and fills it in otherwise. -/
theorem member_eq (node : Node) (draft : δ) :
    r.member origin draft (.ok name) node =
      if (get draft).isSome then .error (.duplicateField name)
      else (fun b => set draft (some b)) <$> decode origin node := by
  obtain ⟨leave, hfound⟩ := h.found
  simp only [member, ofText, bind, Except.bind, hfound, field]
  split
  · rfl
  · cases decode origin node <;> rfl

/-- Once the field is given, no member that goes through has its key. -/
theorem ne_of_given (hgiven : (get draft).isSome = true) {members : List (Key × Node)}
    (htake : r.take origin members draft = .ok draft') : ∀ m ∈ members, m.1 ≠ .ok name := by
  induction members generalizing draft with
  | nil => exact fun m hm => (nomatch hm)
  | cons m rest ih =>
    obtain ⟨key, node⟩ := m
    obtain ⟨next, hnext, hrest⟩ := exists_of_take htake
    have hkey : key ≠ .ok name := by
      rintro rfl
      rw [h.member_eq, if_pos hgiven] at hnext
      cases hnext
    have hone : r.take origin [(key, node)] draft = .ok next := by
      rw [take_cons, hnext]
      rfl
    have hsame : get next = get draft := h.get_of_take (by simpa using hkey) hone
    intro m hm
    obtain rfl | hm := List.mem_cons.mp hm
    · exact hkey
    · exact ih (by rw [hsame, hgiven]) hrest m hm

/-- A member that is added fills in its field and changes nothing else. -/
theorem take_insert (hnone : get draft = none) (habsent : ∀ m ∈ front ++ back, m.1 ≠ .ok name)
    (htake : r.take origin (front ++ back) draft = .ok draft') (node : Node) :
    r.take origin (front ++ (.ok name, node) :: back) draft =
      (fun b => set draft' (some b)) <$> decode origin node := by
  obtain ⟨next, hfront, hback⟩ := exists_of_take_append htake
  have hnext : get next = none :=
    (h.get_of_take (fun m hm => habsent m (List.mem_append_left _ hm)) hfront).trans hnone
  rw [take_append hfront, take_cons, h.member_eq, hnext, if_neg (by simp)]
  cases decode origin node with
  | error fault => rfl
  | ok b =>
    have hset := h.take_set (fun m hm => habsent m (List.mem_append_right _ hm)) next (some b)
    rw [hback] at hset
    exact hset

/-- A member with the key that went through filled its field in, and no later one has its key. -/
theorem exists_of_take_field {node : Node}
    (htake : r.take origin (front ++ (.ok name, node) :: back) draft = .ok draft') :
    ∃ next b, r.take origin front draft = .ok next ∧ get next = none ∧
      decode origin node = .ok b ∧ (∀ m ∈ back, m.1 ≠ .ok name) ∧
      r.take origin back (set next (some b)) = .ok draft' ∧ get draft' = some b := by
  obtain ⟨next, hfront, hrest⟩ := exists_of_take_append htake
  obtain ⟨filled, hfilled, hback⟩ := exists_of_take hrest
  rw [h.member_eq] at hfilled
  split at hfilled
  · cases hfilled
  · next hgiven =>
    have hnone : get next = none := by simpa using hgiven
    cases hdecode : decode origin node with
    | error fault =>
      rw [hdecode] at hfilled
      cases hfilled
    | ok b =>
      rw [hdecode] at hfilled
      obtain rfl : set next (some b) = filled := Except.ok.inj hfilled
      have habsent := h.ne_of_given (by rw [h.get_set]; rfl) hback
      exact ⟨next, b, hfront, hnone, rfl, habsent, hback,
        (h.get_of_take habsent hback).trans (h.get_set ..)⟩

/-- Another value for a member changes its field and nothing else. -/
theorem take_replace {node : Node}
    (htake : r.take origin (front ++ (.ok name, node) :: back) draft = .ok draft') (node' : Node) :
    r.take origin (front ++ (.ok name, node') :: back) draft =
      (fun b => set draft' (some b)) <$> decode origin node' := by
  obtain ⟨next, b, hfront, hnone, -, habsent, hback, -⟩ := h.exists_of_take_field htake
  rw [take_append hfront, take_cons, h.member_eq, hnone, if_neg (by simp)]
  cases decode origin node' with
  | error fault => rfl
  | ok c =>
    have hset := h.take_set habsent (set next (some b)) (some c)
    rw [h.set_set, hback] at hset
    exact hset

end Alone

/-! ## Members of values -/

/-- An object with known members goes through them. -/
theorem decode_object (r : Record δ α) (origin : Origin) (members : List (String × Json.Value)) :
    r.decode origin (.ofValue (.object members)) =
      r.take origin (members.map fun m => (.ok m.1, .ofValue m.2)) r.blank >>= r.finish := by
  rw [Node.ofValue, Node.ofMembers_eq, decode_closed]

theorem ne_of_mem_members {name : String} {members : List (String × Json.Value)}
    (h : ∀ m ∈ members, m.1 ≠ name) :
    ∀ m ∈ members.map fun m => ((.ok m.1 : Key), Node.ofValue m.2), m.1 ≠ .ok name := by
  intro m hm heq
  obtain ⟨member, hmember, rfl⟩ := List.mem_map.mp hm
  exact h member hmember (Except.ok.inj heq)

end Record

end LogOrigin.Decode
