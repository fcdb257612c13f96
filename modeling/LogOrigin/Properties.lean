import LogOrigin.Decode.Basic

/-!
# Properties

The context that an event carries: texts by key, in increasing order of the keys. Where a key is
given more than once, the last value counts.
-/

namespace LogOrigin

/-- Texts by key, the keys increasing. -/
structure Properties where
  entries : List (String × String)
  increasing : entries.Pairwise fun a b => a.1 < b.1
  deriving DecidableEq

namespace Properties

/-- No properties. -/
def empty : Properties := ⟨[], .nil⟩

/-- Puts a value in its place among increasing keys. -/
def insertEntry (key value : String) : List (String × String) → List (String × String)
  | [] => [(key, value)]
  | e :: rest =>
    if key < e.1 then (key, value) :: e :: rest
    else if key = e.1 then (key, value) :: rest
    else e :: insertEntry key value rest

/-- What stands among the entries after an insertion stood there before or is the new entry. -/
theorem mem_insertEntry {key value : String} {entries : List (String × String)}
    {e : String × String} (h : e ∈ insertEntry key value entries) :
    e = (key, value) ∨ e ∈ entries := by
  induction entries with
  | nil => simpa [insertEntry] using h
  | cons d rest ih =>
    rw [insertEntry] at h
    split at h
    · simpa using h
    · split at h
      · rcases List.mem_cons.1 h with h | h
        · exact .inl h
        · exact .inr (List.mem_cons_of_mem _ h)
      · rcases List.mem_cons.1 h with h | h
        · exact .inr (h ▸ List.mem_cons_self)
        · rcases ih h with h | h
          · exact .inl h
          · exact .inr (List.mem_cons_of_mem _ h)

/-- An insertion keeps the keys increasing. -/
theorem pairwise_insertEntry (key value : String) {entries : List (String × String)}
    (h : entries.Pairwise fun a b => a.1 < b.1) :
    (insertEntry key value entries).Pairwise fun a b => a.1 < b.1 := by
  induction entries with
  | nil => simp [insertEntry]
  | cons d rest ih =>
    obtain ⟨hd, hrest⟩ := List.pairwise_cons.1 h
    rw [insertEntry]
    split
    next hlt =>
      refine List.pairwise_cons.2 ⟨fun e he => ?_, h⟩
      rcases List.mem_cons.1 he with rfl | he
      · exact hlt
      · exact String.lt_trans hlt (hd e he)
    next hlt =>
      split
      next heq => exact List.pairwise_cons.2 ⟨fun e he => by simpa [heq] using hd e he, hrest⟩
      next heq =>
        refine List.pairwise_cons.2 ⟨fun e he => ?_, ih hrest⟩
        rcases mem_insertEntry he with rfl | he
        · have hle : d.1 ≤ key := String.not_lt.1 hlt
          exact Std.lt_of_le_of_ne hle (Ne.symm heq)
        · exact hd e he

/-- The properties with a value set. -/
def insert (p : Properties) (key value : String) : Properties :=
  ⟨insertEntry key value p.entries, pairwise_insertEntry key value p.increasing⟩

/-- Reads properties. -/
def decode : Decode.DeepDecoder Properties
  | 0, _, .object _ _ => .error (.malformed .tooDeep)
  | _ + 1, origin, .object members ending => do
    let properties ← members.foldlM (fun (p : Properties) (key, node) => do
      let name ← Decode.ofText key
      let value ← Decode.text origin node
      return p.insert name value) empty
    Decode.raise ending.fault?
    return properties
  | _, _, node => Decode.mismatch .map node

/-- Properties as an object. -/
def toJson (p : Properties) : Json.Value :=
  .object (p.entries.map fun (key, value) => (key, .text value))

end Properties

end LogOrigin
