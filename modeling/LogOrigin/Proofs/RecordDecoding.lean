import LogOrigin.Decode.Record
import LogOrigin.Proofs.InstantText

/-!
# Decoding records member by member

A member with the key of a field fills the field in, if the decoder of the field takes its value;
one with another key does nothing. A record whose members went through gave every one of its fields
a value that the decoder took, and left alone what none of its members names.
-/

namespace LogOrigin.Decode

open Json (Key Node ListEnding)

/-- All items of a list that went through went through. -/
theorem exists_of_mapM {ε α β : Type} {f : α → Except ε β} {items : List α} {values : List β}
    (h : items.mapM f = .ok values) {a : α} (ha : a ∈ items) : ∃ b, f a = .ok b := by
  induction items generalizing values with
  | nil => cases ha
  | cons a' rest ih =>
    rw [List.mapM_cons] at h
    obtain ⟨b, hb, h⟩ := exists_of_bind h
    obtain ⟨others, hothers, -⟩ := exists_of_bind h
    obtain rfl | ha := List.mem_cons.mp ha
    · exact ⟨b, hb⟩
    · exact ih hothers ha

theorem eq_of_ofText {β : Type} {x : Except Json.TextFault β} {b : β} (h : ofText x = .ok b) :
    x = .ok b := by
  cases x with
  | error fault => cases h
  | ok a => rw [Except.ok.inj h]

namespace Record

variable {δ α β : Type} {r : Record δ α} {origin : Origin} {draft draft' : δ}

/-- Takes members into a draft, one after the other. -/
def take (r : Record δ α) (origin : Origin) (members : List (Key × Node)) (draft : δ) :
    Except Fault δ :=
  members.foldlM (fun draft m => r.member origin draft m.1 m.2) draft

theorem decode_closed (members : List (Key × Node)) :
    r.decode origin (.object members .closed) = r.take origin members r.blank >>= r.finish := rfl

/-- A member with the key of a field that is not given yet fills it in. -/
theorem take_field {name : String} {get : δ → Option β} {set : δ → Option β → δ}
    {decode : Decoder β} {leave : Bool}
    (hfind : r.fields.find? (·.name == name) = some (field name get set decode leave))
    (hnone : get draft = none) {node : Node} {b : β} (hdecode : decode origin node = .ok b)
    (rest : List (Key × Node)) :
    r.take origin ((.ok name, node) :: rest) draft = r.take origin rest (set draft (some b)) := by
  have hmember : r.member origin draft (.ok name) node = .ok (set draft (some b)) := by
    simp only [member, ofText, bind, Except.bind, hfind, field, hnone, hdecode]
    rfl
  rw [take, List.foldlM_cons, hmember]
  rfl

/-- What went through is a draft for the rest, member by member. -/
theorem exists_of_take {key : Key} {node : Node} {rest : List (Key × Node)}
    (h : r.take origin ((key, node) :: rest) draft = .ok draft') :
    ∃ next, r.member origin draft key node = .ok next ∧ r.take origin rest next = .ok draft' :=
  exists_of_bind h

/-- The decoder of a field takes the value of the member that went through. -/
theorem exists_of_mem {members : List (Key × Node)} (h : r.take origin members draft = .ok draft')
    (name : String) (node : Node) (hmem : (.ok name, node) ∈ members) {get : δ → Option β}
    {set : δ → Option β → δ} {decode : Decoder β} {leave : Bool}
    (hfind : r.fields.find? (·.name == name) = some (field name get set decode leave)) :
    ∃ b, decode origin node = .ok b := by
  induction members generalizing draft with
  | nil => cases hmem
  | cons m rest ih =>
    obtain ⟨next, hnext, hrest⟩ := exists_of_take h
    obtain rfl | hmem := List.mem_cons.mp hmem
    · simp only [member, ofText, bind, Except.bind, hfind] at hnext
      split at hnext
      · cases hnext
      · cases hdecode : decode origin node with
        | error fault => simp only [field, hdecode] at hnext; cases hnext
        | ok b => exact ⟨b, rfl⟩
    · exact ih hrest hmem

/-- A field changes what it sets. -/
theorem field_keeps {γ : Type} {name : String} {get : δ → Option β} {set : δ → Option β → δ}
    {decode : Decoder β} {leave : Bool} {get' : δ → γ}
    (h : ∀ draft b, get' (set draft b) = get' draft)
    (node : Node) (g : δ → δ) (hfill : (field name get set decode leave).fill origin node = .ok g)
    (draft : δ) : get' (g draft) = get' draft := by
  cases hdecode : decode origin node with
  | error fault => simp only [field, hdecode] at hfill; cases hfill
  | ok b =>
    simp only [field, hdecode] at hfill
    rw [← Except.ok.inj hfill]
    exact h draft (some b)

/-- What no field but the one with a key changes is as before if no member has the key. -/
theorem take_keeps {γ : Type} {get : δ → γ} (name : String)
    (hkeeps : ∀ f ∈ r.fields, f.name ≠ name → ∀ node g, f.fill origin node = .ok g →
      ∀ draft, get (g draft) = get draft)
    {members : List (Key × Node)} (hmembers : ∀ m ∈ members, m.1 ≠ .ok name)
    (h : r.take origin members draft = .ok draft') : get draft' = get draft := by
  induction members generalizing draft with
  | nil =>
    obtain rfl := Except.ok.inj h
    rfl
  | cons m rest ih =>
    obtain ⟨next, hnext, hrest⟩ := exists_of_take h
    rw [ih (fun m hm => hmembers m (List.mem_cons_of_mem _ hm)) hrest]
    have hkey := hmembers m (List.mem_cons_self ..)
    unfold member at hnext
    obtain ⟨key, hm, hnext⟩ := exists_of_bind hnext
    dsimp only at hnext
    split at hnext
    · obtain ⟨_, -, hnext⟩ := exists_of_bind hnext
      rw [Except.ok.inj hnext]
    · next f hfind =>
      split at hnext
      · cases hnext
      · obtain ⟨g, hg, hnext⟩ := exists_of_bind hnext
        have hfound := List.find?_some hfind
        have hname : f.name = key := eq_of_beq hfound
        have hne : f.name ≠ name := fun heq => hkey (eq_of_ofText (heq ▸ hname ▸ hm))
        rw [← Except.ok.inj hnext]
        exact hkeeps f (List.mem_of_find?_eq_some hfind) hne _ g hg draft

end Record

end LogOrigin.Decode
