import LogOrigin.Proofs.JsonTokens

/-!
# Values written and read back

The compact text of a value is read back as the value, however deep it is nested, if its numbers are
integers that a reader keeps exactly. How deep it may be nested matters only to a reader with a
limit.
-/

namespace LogOrigin.Json

open Byte (comma colon quote openBracket closeBracket openBrace closeBrace)

namespace Value

/-! ## Values over numbers -/

/-- A value all of whose numbers are as `p` says. -/
inductive Over (p : Number → Prop) : Value → Prop where
  | null : Over p .null
  | bool (b : Bool) : Over p (.bool b)
  | number (n : Number) (h : p n) : Over p (.number n)
  | text (s : String) : Over p (.text s)
  | list (items : List Value) (h : ∀ v ∈ items, Over p v) : Over p (.list items)
  | object (members : List (String × Value)) (h : ∀ m ∈ members, Over p m.2) :
      Over p (.object members)

/-- A number that is an integer. -/
def IsInteger (n : Number) : Prop := ∃ i, n = .integer i

/-- A number that is an integer and that a reader keeps exactly. -/
def IsExactInteger (n : Number) : Prop := ∃ i, n = .integer i ∧ IsExact i

theorem Over.mono {p q : Number → Prop} (hpq : ∀ n, p n → q n) {v : Value} (h : v.Over p) :
    v.Over q := by
  induction h with
  | null => exact .null
  | bool b => exact .bool b
  | number n h => exact .number n (hpq n h)
  | text s => exact .text s
  | list items _ ih => exact .list items ih
  | object members _ ih => exact .object members ih

/-! ## The text of lists and objects -/

/-- The text of a member of an object. -/
def memberText (m : String × Value) : List UInt8 :=
  (textPieces m.1).flatten ++ colon :: m.2.render

theorem flatten_itemPieces (items : List Value) :
    (itemPieces false items).flatten = items.flatMap fun v => comma :: v.render := by
  induction items with
  | nil => rw [itemPieces]; rfl
  | cons v rest ih =>
    rw [itemPieces, List.flatten_append, ih]
    simp [render]

theorem flatten_memberPieces (members : List (String × Value)) :
    (memberPieces false members).flatten = members.flatMap fun m => comma :: memberText m := by
  induction members with
  | nil => rw [memberPieces]; rfl
  | cons m rest ih =>
    obtain ⟨k, v⟩ := m
    rw [memberPieces, List.flatten_append, List.flatten_append, List.flatten_append,
      List.flatMap_cons, ih]
    simp [render, memberText]

theorem render_list_nil : (list []).render = [openBracket, closeBracket] := by
  simp [render, pieces, itemPieces]

theorem render_list_cons (v : Value) (rest : List Value) :
    (list (v :: rest)).render =
      openBracket ::
        (v.render ++ ((rest.flatMap fun v => comma :: v.render) ++ [closeBracket])) := by
  have hrest := flatten_itemPieces rest
  simp only [render] at hrest
  simp [render, pieces, itemPieces, hrest]

theorem render_object_nil : (object []).render = [openBrace, closeBrace] := by
  simp [render, pieces, memberPieces]

theorem render_object_cons (m : String × Value) (rest : List (String × Value)) :
    (object (m :: rest)).render =
      openBrace :: (memberText m ++ ((rest.flatMap fun m => comma :: memberText m) ++
        [closeBrace])) := by
  have hrest := flatten_memberPieces rest
  simp only [render, memberText] at hrest
  simp [render, pieces, memberPieces, memberText, hrest]

/-! ## Control characters -/

/-- No byte is a control character. -/
def Printable (bytes : List UInt8) : Prop := ∀ b ∈ bytes, 0x20 ≤ b

instance (bytes : List UInt8) : Decidable (Printable bytes) :=
  List.decidableBAll (fun b => 0x20 ≤ b) bytes

theorem printable_text (s : String) : Printable (textPieces s).flatten := by
  intro b hb
  rw [flatten_textPieces, List.cons_append, List.mem_cons, List.mem_append,
    List.mem_singleton] at hb
  obtain rfl | hb | rfl := hb
  · decide
  · exact le_of_mem_escaped hb
  · decide

/-- Printable items between printable brackets are printable. -/
theorem printable_enclosed {α : Type} {text : α → List UInt8} {opening closing : UInt8} {a : α}
    {rest : List α} (hopening : 0x20 ≤ opening) (hclosing : 0x20 ≤ closing)
    (h : ∀ c ∈ a :: rest, Printable (text c)) :
    Printable (opening :: (text a ++ ((rest.flatMap fun c => comma :: text c) ++ [closing]))) := by
  have hrest : Printable (rest.flatMap fun c => comma :: text c) := by
    intro b hb
    obtain ⟨c, hc, hb⟩ := List.mem_flatMap.mp hb
    obtain rfl | hb := List.mem_cons.mp hb
    · decide
    · exact h c (List.mem_cons_of_mem _ hc) b hb
  intro b hb
  rw [List.mem_cons, List.mem_append, List.mem_append, List.mem_singleton] at hb
  obtain rfl | hb | hb | rfl := hb
  · exact hopening
  · exact h a (List.mem_cons_self ..) b hb
  · exact hrest b hb
  · exact hclosing

/-- The text of a value whose numbers are integers has no control character. -/
theorem Over.printable {v : Value} (h : v.Over IsInteger) : Printable v.render := by
  induction h with
  | null => decide
  | bool b => cases b <;> decide
  | number n h =>
    obtain ⟨i, rfl⟩ := h
    intro b hb
    simp only [render, pieces, Number.text, List.flatten_singleton] at hb
    exact le_of_mem_integer hb
  | text s =>
    rw [render, pieces]
    exact printable_text s
  | list items _ ih =>
    cases items with
    | nil => rw [render_list_nil]; decide
    | cons v rest =>
      rw [render_list_cons]
      exact printable_enclosed (by decide) (by decide) ih
  | object members _ ih =>
    have hmember : ∀ m ∈ members, Printable (memberText m) := by
      intro m hm b hb
      rcases List.mem_append.mp hb with hb | hb
      · exact printable_text m.1 b hb
      · obtain rfl | hb := List.mem_cons.mp hb
        · decide
        · exact ih m hm b hb
    cases members with
    | nil => rw [render_object_nil]; decide
    | cons m rest =>
      rw [render_object_cons]
      exact printable_enclosed (by decide) (by decide) hmember

end Value

/-! ## Steps of the reader -/

/-- The machine comes from one task to another within `most` steps, whatever fuel it has left. -/
def Comes (most : Nat) (task : Task) (stack : List Frame) (input : List UInt8) (task' : Task)
    (stack' : List Frame) (input' : List UInt8) : Prop :=
  ∃ k ≤ most, ∀ fuel, run (fuel + k) task stack input = run fuel task' stack' input'

section

variable {most more : Nat} {task task' task'' : Task} {stack stack' stack'' : List Frame}
  {input input' input'' : List UInt8}

theorem comes_step
    (h : ∀ fuel, run (fuel + 1) task stack input = run fuel task' stack' input') :
    Comes 1 task stack input task' stack' input' :=
  ⟨1, Nat.le_refl 1, h⟩

theorem Comes.trans (h : Comes most task stack input task' stack' input')
    (h' : Comes more task' stack' input' task'' stack'' input'') :
    Comes (most + more) task stack input task'' stack'' input'' := by
  obtain ⟨k, hk, hrun⟩ := h
  obtain ⟨l, hl, hrun'⟩ := h'
  refine ⟨k + l, Nat.add_le_add hk hl, fun fuel => ?_⟩
  rw [Nat.add_comm k l, ← Nat.add_assoc, hrun, hrun']

theorem Comes.mono (h : Comes most task stack input task' stack' input') (hle : most ≤ more) :
    Comes more task stack input task' stack' input' := by
  obtain ⟨k, hk, hrun⟩ := h
  exact ⟨k, Nat.le_trans hk hle, hrun⟩

end

/-- Bytes that the machine reads as a node, in two steps for each byte at most. -/
structure Reads (bytes : List UInt8) (node : Node) : Prop where
  opens : ∃ b tail, bytes = b :: tail ∧ Byte.isBlank b = false ∧ b ≠ closeBracket
  comes : ∀ stack rest, Delimited rest →
    Comes (2 * bytes.length) .value stack (bytes ++ rest) (.place node) stack rest

theorem skipBlanks_of_not_blank {b : UInt8} (h : Byte.isBlank b = false) (rest : List UInt8) :
    skipBlanks (b :: rest) = b :: rest := by
  simp [skipBlanks, h]

theorem IsScalar.reads {bytes : List UInt8} {node : Node} (h : IsScalar bytes node) :
    Reads bytes node := by
  obtain ⟨b, tail, node, hblank, hlist, hobject, hend, hreads⟩ := h
  refine ⟨⟨b, tail, rfl, hblank, hend⟩, fun stack rest hrest => ?_⟩
  refine (comes_step fun fuel => ?_).mono (by simp; omega)
  simp [run, skipBlanks_of_not_blank hblank, hlist, hobject, hreads rest hrest]

/-! ## Lists -/

theorem Node.ofItems_eq (items : List Value) : ofItems items = items.map ofValue := by
  induction items with
  | nil => rw [ofItems, List.map_nil]
  | cons v rest ih => rw [ofItems, ih, List.map_cons]

/-- An item is delimited by what separates it from the next one, or by the closing bracket. -/
theorem delimited_separated {α : Type} (text : α → List UInt8) (items : List α) {closing : UInt8}
    (h : closing = closeBracket ∨ closing = closeBrace) (rest : List UInt8) :
    Delimited ((items.flatMap fun a => comma :: text a) ++ closing :: rest) := by
  cases items with
  | nil => exact delimited_cons (.inr h) rest
  | cons a items => exact delimited_cons (.inl rfl) _

theorem comes_listStart (stack : List Frame) {b : UInt8} (hblank : Byte.isBlank b = false)
    (hend : b ≠ closeBracket) (tail : List UInt8) :
    Comes 1 .value stack (openBracket :: b :: tail) .value (.list [] :: stack) (b :: tail) :=
  comes_step fun fuel => by
    simp [run, skipBlanks_of_not_blank (b := openBracket) (by decide),
      skipBlanks_of_not_blank hblank, hend]

theorem comes_listItem (done : List Node) (node : Node) (stack : List Frame) {b : UInt8}
    (hblank : Byte.isBlank b = false) (hend : b ≠ closeBracket) (tail : List UInt8) :
    Comes 1 (.place node) (.list done :: stack) (comma :: b :: tail)
      .value (.list (node :: done) :: stack) (b :: tail) :=
  comes_step fun fuel => by
    simp [run, skipBlanks_of_not_blank (b := comma) (by decide), skipBlanks_of_not_blank hblank,
      hend]

theorem comes_listEnd (done : List Node) (node : Node) (stack : List Frame) (rest : List UInt8) :
    Comes 1 (.place node) (.list done :: stack) (closeBracket :: rest)
      (.place (.list (node :: done).reverse .closed)) stack rest :=
  comes_step fun fuel => by
    have hne : closeBracket ≠ comma := by decide
    simp [run, skipBlanks_of_not_blank (b := closeBracket) (by decide), hne]

/-- Behind an item, the rest of a list is read up to its bracket. -/
theorem comes_items {items : List Value} (h : ∀ v ∈ items, Reads v.render (.ofValue v))
    (done : List Node) (node : Node) (stack : List Frame) (rest : List UInt8) :
    Comes (2 * ((items.flatMap fun v => comma :: v.render).length + 1))
      (.place node) (.list done :: stack)
      ((items.flatMap fun v => comma :: v.render) ++ closeBracket :: rest)
      (.place (.list (done.reverse ++ node :: items.map .ofValue) .closed)) stack rest := by
  induction items generalizing done node with
  | nil =>
    have hend := comes_listEnd done node stack rest
    rw [List.reverse_cons] at hend
    exact hend.mono (by simp)
  | cons v items ih =>
    obtain ⟨⟨b, tail, hbytes, hblank, hend⟩, hcomes⟩ := h v (List.mem_cons_self ..)
    have hitem := comes_listItem done node stack hblank hend
      (tail ++ ((items.flatMap fun v => comma :: v.render) ++ closeBracket :: rest))
    rw [← List.cons_append, ← hbytes] at hitem
    have hvalue := hcomes (.list (node :: done) :: stack) _
      (delimited_separated Value.render items (.inl rfl) rest)
    have hitems := ih (fun w hw => h w (List.mem_cons_of_mem _ hw)) (node :: done) (.ofValue v)
    have hall := (hitem.trans hvalue).trans hitems
    rw [List.flatMap_cons, List.cons_append, List.cons_append, List.append_assoc, List.map_cons]
    rw [List.reverse_cons, List.append_assoc] at hall
    refine hall.mono ?_
    simp only [List.length_cons, List.length_append]
    omega

theorem reads_list {items : List Value} (h : ∀ v ∈ items, Reads v.render (.ofValue v)) :
    Reads (Value.list items).render (.ofValue (.list items)) := by
  rw [Node.ofValue, Node.ofItems_eq]
  cases items with
  | nil =>
    rw [Value.render_list_nil]
    refine ⟨⟨openBracket, [closeBracket], rfl, by decide, by decide⟩, fun stack rest _ => ?_⟩
    refine (comes_step fun fuel => ?_).mono (by simp)
    simp [run, skipBlanks_of_not_blank (b := openBracket) (by decide),
      skipBlanks_of_not_blank (b := closeBracket) (by decide)]
  | cons v items =>
    rw [Value.render_list_cons]
    refine ⟨⟨openBracket, _, rfl, by decide, by decide⟩, fun stack rest _ => ?_⟩
    obtain ⟨⟨b, tail, hbytes, hblank, hend⟩, hcomes⟩ := h v (List.mem_cons_self ..)
    have hstart := comes_listStart stack hblank hend
      (tail ++ ((items.flatMap fun v => comma :: v.render) ++ closeBracket :: rest))
    rw [← List.cons_append, ← hbytes] at hstart
    have hvalue := hcomes (.list [] :: stack) _
      (delimited_separated Value.render items (.inl rfl) rest)
    have hitems := comes_items (fun w hw => h w (List.mem_cons_of_mem _ hw)) [] (.ofValue v) stack
      rest
    have hall := (hstart.trans hvalue).trans hitems
    rw [List.cons_append, List.append_assoc, List.append_assoc, List.singleton_append,
      List.map_cons]
    refine hall.mono ?_
    simp only [List.length_cons, List.length_append, List.length_nil]
    omega

/-! ## Objects -/

theorem Node.ofMembers_eq (members : List (String × Value)) :
    ofMembers members = members.map fun m => (.ok m.1, ofValue m.2) := by
  induction members with
  | nil => rw [ofMembers, List.map_nil]
  | cons m rest ih =>
    obtain ⟨key, v⟩ := m
    rw [ofMembers, ih, List.map_cons]

theorem comes_objectStart (stack : List Frame) (rest : List UInt8) :
    Comes 1 .value stack (openBrace :: rest) (.key [] true) stack rest :=
  comes_step fun fuel => by
    have hne : openBrace ≠ openBracket := by decide
    simp [run, skipBlanks_of_not_blank (b := openBrace) (by decide), hne]

/-- A key is read with its colon. -/
theorem comes_key (done : List (Key × Node)) (first : Bool) (stack : List Frame) (key : String)
    (rest : List UInt8) :
    Comes 1 (.key done first) stack ((textPieces key).flatten ++ colon :: rest)
      .value (.object done (.ok key) :: stack) rest :=
  comes_step fun fuel => by
    have hread := readString_text key (colon :: rest)
    rw [flatten_textPieces, List.cons_append, List.cons_append, List.append_assoc,
      List.singleton_append]
    simp [run, skipBlanks_of_not_blank (b := quote) (by decide), hread,
      skipBlanks_of_not_blank (b := colon) (by decide)]

/-- A member is read up to what delimits it. -/
theorem comes_member {m : String × Value} (h : Reads m.2.render (.ofValue m.2))
    (done : List (Key × Node)) (first : Bool) (stack : List Frame) {rest : List UInt8}
    (hrest : Delimited rest) :
    Comes (2 * (Value.memberText m).length) (.key done first) stack (Value.memberText m ++ rest)
      (.place (.ofValue m.2)) (.object done (.ok m.1) :: stack) rest := by
  have hkey := comes_key done first stack m.1 (m.2.render ++ rest)
  have hall := hkey.trans (h.comes (.object done (.ok m.1) :: stack) rest hrest)
  rw [Value.memberText, List.append_assoc, List.cons_append]
  refine hall.mono ?_
  simp only [List.length_append, List.length_cons]
  omega

theorem comes_objectMember (done : List (Key × Node)) (key : Key) (node : Node)
    (stack : List Frame) (rest : List UInt8) :
    Comes 1 (.place node) (.object done key :: stack) (comma :: rest)
      (.key ((key, node) :: done) false) stack rest :=
  comes_step fun fuel => by simp [run, skipBlanks_of_not_blank (b := comma) (by decide)]

theorem comes_objectEnd (done : List (Key × Node)) (key : Key) (node : Node)
    (stack : List Frame) (rest : List UInt8) :
    Comes 1 (.place node) (.object done key :: stack) (closeBrace :: rest)
      (.place (.object ((key, node) :: done).reverse .closed)) stack rest :=
  comes_step fun fuel => by
    have hne : closeBrace ≠ comma := by decide
    simp [run, skipBlanks_of_not_blank (b := closeBrace) (by decide), hne]

/-- Behind a member, the rest of an object is read up to its brace. -/
theorem comes_members {members : List (String × Value)}
    (h : ∀ m ∈ members, Reads m.2.render (.ofValue m.2)) (done : List (Key × Node)) (key : Key)
    (node : Node) (stack : List Frame) (rest : List UInt8) :
    Comes (2 * ((members.flatMap fun m => comma :: Value.memberText m).length + 1))
      (.place node) (.object done key :: stack)
      ((members.flatMap fun m => comma :: Value.memberText m) ++ closeBrace :: rest)
      (.place (.object (done.reverse ++ (key, node) ::
        members.map fun m => (.ok m.1, .ofValue m.2)) .closed)) stack rest := by
  induction members generalizing done key node with
  | nil =>
    have hend := comes_objectEnd done key node stack rest
    rw [List.reverse_cons] at hend
    exact hend.mono (by simp)
  | cons m members ih =>
    have hcomma := comes_objectMember done key node stack (Value.memberText m ++
      ((members.flatMap fun m => comma :: Value.memberText m) ++ closeBrace :: rest))
    have hmember := comes_member (h m (List.mem_cons_self ..)) ((key, node) :: done) false stack
      (delimited_separated Value.memberText members (.inr rfl) rest)
    have hmembers := ih (fun l hl => h l (List.mem_cons_of_mem _ hl)) ((key, node) :: done)
      (.ok m.1) (.ofValue m.2)
    have hall := (hcomma.trans hmember).trans hmembers
    rw [List.flatMap_cons, List.cons_append, List.cons_append, List.append_assoc, List.map_cons]
    rw [List.reverse_cons, List.append_assoc] at hall
    refine hall.mono ?_
    simp only [List.length_cons, List.length_append]
    omega

theorem reads_object {members : List (String × Value)}
    (h : ∀ m ∈ members, Reads m.2.render (.ofValue m.2)) :
    Reads (Value.object members).render (.ofValue (.object members)) := by
  rw [Node.ofValue, Node.ofMembers_eq]
  cases members with
  | nil =>
    rw [Value.render_object_nil]
    refine ⟨⟨openBrace, [closeBrace], rfl, by decide, by decide⟩, fun stack rest _ => ?_⟩
    have hclose : Comes 1 (.key [] true) stack (closeBrace :: rest) (.place (.object [] .closed))
        stack rest := comes_step fun fuel => by
      have hne : closeBrace ≠ quote := by decide
      simp [run, skipBlanks_of_not_blank (b := closeBrace) (by decide), hne]
    exact ((comes_objectStart stack (closeBrace :: rest)).trans hclose).mono (by simp)
  | cons m members =>
    rw [Value.render_object_cons]
    refine ⟨⟨openBrace, _, rfl, by decide, by decide⟩, fun stack rest _ => ?_⟩
    have hmember := comes_member (h m (List.mem_cons_self ..)) [] true stack
      (delimited_separated Value.memberText members (.inr rfl) rest)
    have hmembers := comes_members (fun l hl => h l (List.mem_cons_of_mem _ hl)) [] (.ok m.1)
      (.ofValue m.2) stack rest
    have hall := ((comes_objectStart stack _).trans hmember).trans hmembers
    rw [List.cons_append, List.append_assoc, List.append_assoc, List.singleton_append,
      List.map_cons]
    refine hall.mono ?_
    simp only [List.length_cons, List.length_append, List.length_nil]
    omega

/-! ## Whole texts -/

/-- The text of a value is read as the value. -/
theorem Value.Over.reads {v : Value} (h : v.Over Value.IsExactInteger) :
    Reads v.render (.ofValue v) := by
  induction h with
  | null => exact isScalar_null.reads
  | bool b =>
    rw [Value.render, Value.pieces, List.flatten_singleton, Node.ofValue]
    exact (isScalar_bool b).reads
  | number n h =>
    obtain ⟨i, rfl, hi⟩ := h
    rw [Value.render, Value.pieces, List.flatten_singleton, Node.ofValue]
    exact (isScalar_integer hi).reads
  | text s => exact (isScalar_text s).reads
  | list items _ ih => exact reads_list ih
  | object members _ ih => exact reads_object ih

/-- The text of a value is read as the document of the value. -/
theorem Value.Over.read_render {v : Value} (h : v.Over Value.IsExactInteger) :
    read v.render = ⟨.ofValue v, false⟩ := by
  obtain ⟨k, hk, hrun⟩ := h.reads.comes [] [] delimited_nil
  have hfuel : 2 * v.render.length + 2 = 2 * v.render.length + 1 - k + 1 + k := by omega
  rw [List.append_nil] at hrun
  rw [read, hfuel, hrun]
  rfl

/-! ## Nesting -/

namespace Value

mutual

/-- How deep lists and objects are nested. -/
def nesting : Value → Nat
  | list items => itemsNesting items + 1
  | object members => membersNesting members + 1
  | _ => 0

/-- How deep the deepest of some values is nested. -/
def itemsNesting : List Value → Nat
  | [] => 0
  | v :: rest => max v.nesting (itemsNesting rest)

/-- How deep the deepest of some members is nested. -/
def membersNesting : List (String × Value) → Nat
  | [] => 0
  | (_, v) :: rest => max v.nesting (membersNesting rest)

end

/-- What a reader that goes `depth` deep makes of a value. -/
def within (depth : Nat) (v : Value) : Except TextFault Value :=
  if v.nesting ≤ depth then .ok v else .error .tooDeep

end Value

theorem Value.itemsNesting_le {items : List Value} {depth : Nat} :
    itemsNesting items ≤ depth ↔ ∀ v ∈ items, v.nesting ≤ depth := by
  induction items with
  | nil => simp [itemsNesting]
  | cons v rest ih => rw [itemsNesting, Nat.max_le, ih, List.forall_mem_cons]

theorem Value.membersNesting_le {members : List (String × Value)} {depth : Nat} :
    membersNesting members ≤ depth ↔ ∀ m ∈ members, m.2.nesting ≤ depth := by
  induction members with
  | nil => simp [membersNesting]
  | cons m rest ih =>
    obtain ⟨key, v⟩ := m
    rw [membersNesting, Nat.max_le, ih, List.forall_mem_cons]

/-- Where all that can go wrong goes wrong in one way, one wrong item is enough. -/
theorem mapM_eq_ite {ε α β : Type} {f : α → Except ε β} {g : α → β} {p : α → Prop}
    [DecidablePred p] {e : ε} {items : List α}
    (h : ∀ a ∈ items, f a = if p a then .ok (g a) else .error e) :
    items.mapM f = if ∀ a ∈ items, p a then .ok (items.map g) else .error e := by
  induction items with
  | nil => simp [pure, Except.pure]
  | cons a rest ih =>
    have hrest := ih fun b hb => h b (List.mem_cons_of_mem _ hb)
    rw [List.mapM_cons, h a (List.mem_cons_self ..), hrest]
    by_cases ha : p a
    · by_cases hall : ∀ b ∈ rest, p b
      · have hboth : ∀ b ∈ a :: rest, p b := List.forall_mem_cons.mpr ⟨ha, hall⟩
        rw [if_pos ha, if_pos hall, if_pos hboth]
        rfl
      · have hnot : ¬ ∀ b ∈ a :: rest, p b := fun hb => hall (List.forall_mem_cons.mp hb).2
        rw [if_pos ha, if_neg hall, if_neg hnot]
        rfl
    · have hnot : ¬ ∀ b ∈ a :: rest, p b := fun hb => ha (List.forall_mem_cons.mp hb).1
      rw [if_neg ha, if_neg hnot]
      rfl

theorem Value.within_list (depth : Nat) (items : List Value) :
    within (depth + 1) (.list items) =
      if ∀ v ∈ items, v.nesting ≤ depth then .ok (.list items) else .error .tooDeep := by
  simp only [within, nesting, Nat.add_le_add_iff_right, itemsNesting_le]

theorem Value.within_object (depth : Nat) (members : List (String × Value)) :
    within (depth + 1) (.object members) =
      if ∀ m ∈ members, m.2.nesting ≤ depth then .ok (.object members) else .error .tooDeep := by
  simp only [within, nesting, Nat.add_le_add_iff_right, membersNesting_le]

/-- A value is recovered from its node if it is not nested too deep. -/
theorem Value.Over.value_ofValue {p : Number → Prop} {v : Value} (h : v.Over p) (depth : Nat) :
    (Node.ofValue v).value depth = v.within depth := by
  induction h generalizing depth with
  | null => rw [Node.ofValue, Node.value]; rfl
  | bool b => rw [Node.ofValue, Node.value]; rfl
  | number n h => rw [Node.ofValue, Node.value]; rfl
  | text s => rw [Node.ofValue, Node.value]; rfl
  | list items _ ih =>
    rw [Node.ofValue, Node.ofItems_eq]
    cases depth with
    | zero => rw [Node.value, within, if_neg (by rw [nesting]; omega)]
    | succ depth =>
      have hitems : (items.map Node.ofValue).mapM (Node.value depth) =
          if ∀ v ∈ items, v.nesting ≤ depth then .ok (items.map id) else .error .tooDeep := by
        rw [List.mapM_map]
        exact mapM_eq_ite fun v hv => ih v hv depth
      rw [Node.value, hitems, within_list, List.map_id]
      split <;> rfl
  | object members _ ih =>
    rw [Node.ofValue, Node.ofMembers_eq]
    cases depth with
    | zero => rw [Node.value, within, if_neg (by rw [nesting]; omega)]
    | succ depth =>
      rw [Node.value, List.mapM_map, within_object,
        mapM_eq_ite (g := id) (p := fun m => m.2.nesting ≤ depth) (e := .tooDeep), List.map_id]
      · split <;> rfl
      · intro m hm
        have hm := ih m hm depth
        rw [within] at hm
        simp only [Function.comp_apply, hm]
        split <;> rfl

/-- The text of a value gives the value, within the limit of nesting. -/
theorem Value.Over.value_read_render {v : Value} (h : v.Over IsExactInteger) :
    (read v.render).value = v.within maxDepth := by
  rw [h.read_render, Document.value, h.value_ofValue]
  cases v.within maxDepth <;> rfl

end LogOrigin.Json
