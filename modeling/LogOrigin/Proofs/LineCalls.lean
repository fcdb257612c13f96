import LogOrigin.Proofs.SourceLines

/-!
# Reading an input call by call

A call takes the first stretch between line feeds off the input, with the line feed that ends it, or
else all that there is (`Line.taken_of_read`). So the calls up to the end of an input give the lines
of its stretches, one for one, and leave what is behind them, however the input is cut into chunks
(`Line.calls_splitOn`).
-/

namespace LogOrigin.Line

open Json.Byte (lineFeed carriageReturn)

/-! ## What one call takes -/

/-- How much of a line is held when its head has been read, a line feed included. -/
def Head.held (head : Head) : Nat :=
  head.reversed.length + if head.stop = .lineFeed then 1 else 0

/-- No more than what there was room for. -/
theorem held_readHead (room : Nat) (chunks : List (List UInt8)) :
    (readHead [] room [] chunks).held ≤ room := by
  obtain ⟨before, hhead⟩ := headTakes_readHead [] room [] chunks
  rw [Head.held, hhead.reversed, List.append_nil, List.length_reverse]
  split
  next hstop => exact (hhead.lineFeed hstop).1
  next => exact hhead.within

/-- The first line feed of bytes is in one place. -/
theorem append_lineFeed_inj {before before' after after' : List UInt8} (h : lineFeed ∉ before)
    (h' : lineFeed ∉ before') (heq : before ++ lineFeed :: after = before' ++ lineFeed :: after') :
    before = before' ∧ after = after' := by
  have hsplit := congrArg (List.splitOn lineFeed) heq
  rw [List.splitOn_append_cons_self_of_not_mem h,
    List.splitOn_append_cons_self_of_not_mem h'] at hsplit
  obtain rfl := (List.cons.inj hsplit).1
  exact ⟨rfl, (List.cons.inj (List.append_cancel_left heq)).2⟩

/-- A call takes bytes that are no line feeds, and a line feed behind them unless there is none. -/
theorem bytes_of_read_some {most : Nat} {s rest : Source} {l : Line}
    (h : read most s = .ok (some (l, rest))) :
    ∃ raw, lineFeed ∉ raw ∧
      (s.bytes = raw ++ lineFeed :: rest.bytes ∨ s.bytes = raw ∧ rest.bytes = []) := by
  obtain ⟨before, hhead⟩ := headTakes_readHead [] (most + 1) [] s.chunks
  rw [List.nil_append] at hhead
  rw [read] at h
  generalize readHead [] (most + 1) [] s.chunks = head at h hhead
  split at h
  next hstop =>
    cases h
    exact ⟨before, hhead.plain, .inl (hhead.lineFeed hstop).2⟩
  next => cases h
  next hstop _ =>
    split at h
    next => cases h
    next =>
      cases h
      exact ⟨before, hhead.plain, .inr (hhead.exhausted hstop)⟩
  next hstop =>
    obtain ⟨more, htail⟩ := tailTakes_skipTail (most + 1) [] head.rest
    generalize skipTail (most + 1) [] head.rest = tail at h htail
    dsimp only at h
    split at h
    next => cases h
    next =>
      cases h
      obtain ⟨-, hinput, -⟩ := hhead.full hstop
      have hplain : lineFeed ∉ before ++ more := by
        rw [List.mem_append, not_or]
        exact ⟨hhead.plain, htail.plain⟩
      have hbytes : s.bytes = before ++ ([] ++ head.rest.flatten) := hinput
      refine ⟨before ++ more, hplain, ?_⟩
      rcases htail.input with ⟨hmore, -, hnil⟩ | ⟨hmore, -⟩
      · rw [hbytes, hmore]
        exact .inr ⟨rfl, hnil⟩
      · rw [hbytes, hmore, List.append_assoc]
        exact .inl rfl

/-- A call gives the line of the first stretch of the input. -/
theorem taken_of_read {most : Nat} {s rest : Source} {l : Line}
    (h : read most s = .ok (some (l, rest))) :
    ∃ raw, lineFeed ∉ raw ∧
      (s.bytes = raw ++ lineFeed :: rest.bytes ∧ l = ofStretch most raw true ∨
        s.bytes = raw ∧ raw ≠ [] ∧ rest.bytes = [] ∧ l = ofStretch most raw false) := by
  obtain ⟨raw, hraw, hbytes⟩ := bytes_of_read_some h
  obtain ⟨hlines, -⟩ := ofBytes_of_read h
  refine ⟨raw, hraw, ?_⟩
  rcases hbytes with hbytes | ⟨hbytes, hrest⟩
  · rw [hbytes, ofBytes_of_lineFeed hraw] at hlines
    exact .inl ⟨hbytes, (List.cons.inj hlines).1.symm⟩
  · have hne : raw ≠ [] := by
      intro hnil
      have hlt := length_bytes_of_read h
      rw [hbytes, hnil] at hlt
      exact Nat.not_lt_zero _ hlt
    rw [hbytes, ofBytes_of_not_mem hraw hne] at hlines
    exact .inr ⟨hbytes, hne, hrest, (List.cons.inj hlines).1.symm⟩

/-- An input that does not fail gives a line as long as there are bytes. -/
theorem exists_read (most : Nat) {s : Source} (hs : s.failure = none) (hne : s.bytes ≠ []) :
    ∃ l rest, read most s = .ok (some (l, rest)) ∧ rest.failure = none := by
  cases h : read most s with
  | error cause =>
    rw [failure_of_read_error h] at hs
    cases hs
  | ok line? =>
    cases line? with
    | none => exact absurd (bytes_of_read_none h) hne
    | some line => exact ⟨line.1, line.2, rfl, (ofBytes_of_read h).2.trans hs⟩

/-- A line feed ends the line that is read, and what follows is left. -/
theorem read_of_lineFeed (most : Nat) {s : Source} (hs : s.failure = none)
    {raw more : List UInt8} (hraw : lineFeed ∉ raw) (hbytes : s.bytes = raw ++ lineFeed :: more) :
    ∃ rest, read most s = .ok (some (ofStretch most raw true, rest)) ∧ rest.bytes = more := by
  obtain ⟨l, rest, hread, -⟩ := exists_read most hs (by rw [hbytes]; simp)
  obtain ⟨raw', hraw', ⟨heq, hline⟩ | ⟨heq, -⟩⟩ := taken_of_read hread
  · obtain ⟨rfl, hrest⟩ := append_lineFeed_inj hraw' hraw (heq.symm.trans hbytes)
    exact ⟨rest, by rw [hread, hline], hrest⟩
  · rw [← heq, hbytes] at hraw'
    exact absurd (List.mem_append_right _ List.mem_cons_self) hraw'

/-! ## The calls up to the end -/

/-- The calls that read an input up to its end, in order: the line that each of them gives, and the
input that it leaves. -/
inductive Calls (most : Nat) : Source → List (Line × Source) → Prop
  | done {s : Source} (h : read most s = .ok none) : Calls most s []
  | next {s rest : Source} {l : Line} {calls : List (Line × Source)}
      (h : read most s = .ok (some (l, rest))) (more : Calls most rest calls) :
      Calls most s ((l, rest) :: calls)

theorem read_of_bytes_nil (most : Nat) {s : Source} (hs : s.failure = none) (h : s.bytes = []) :
    read most s = .ok none := by
  cases hread : read most s with
  | error cause =>
    rw [failure_of_read_error hread] at hs
    cases hs
  | ok line? =>
    cases line? with
    | none => rfl
    | some line =>
      have hlt := length_bytes_of_read hread
      rw [h] at hlt
      exact absurd hlt (Nat.not_lt_zero _)

/-- The end of an input that does not fail is reached. -/
theorem exists_calls (most : Nat) (s : Source) (hs : s.failure = none) :
    ∃ calls, Calls most s calls := by
  by_cases hne : s.bytes = []
  · exact ⟨[], .done (read_of_bytes_nil most hs hne)⟩
  · obtain ⟨l, rest, hread, hrest⟩ := exists_read most hs hne
    have hlt := length_bytes_of_read hread
    obtain ⟨calls, hcalls⟩ := exists_calls most rest hrest
    exact ⟨(l, rest) :: calls, .next hread hcalls⟩
termination_by s.bytes.length

/-- The lines of the calls are all lines of the input. -/
theorem Calls.readAllFrom_eq {most : Nat} {s : Source} {calls : List (Line × Source)}
    (h : Calls most s calls) (done : List Line) :
    readAllFrom most done s = (done.reverse ++ calls.map Prod.fst, none) := by
  induction h generalizing done with
  | done h =>
    rw [readAllFrom]
    split
    next hread => rw [h] at hread; cases hread
    next => rw [List.map_nil, List.append_nil]
    next hread => rw [h] at hread; cases hread
  | next h more ih =>
    rw [readAllFrom]
    split
    next hread => rw [h] at hread; cases hread
    next hread => rw [h] at hread; cases hread
    next hread =>
      rw [h] at hread
      cases hread
      rw [ih, List.reverse_cons, List.append_assoc]
      rfl

/-- There is one call for each stretch, but none for an empty one at the end. -/
theorem Calls.length_eq {most : Nat} {s : Source} {calls : List (Line × Source)}
    (h : Calls most s calls) :
    calls.length = (s.bytes.splitOn lineFeed).length -
      if (s.bytes.splitOn lineFeed).getLast? = some [] then 1 else 0 := by
  induction h with
  | done h => rw [bytes_of_read_none h]; rfl
  | @next s rest l calls h more ih =>
    obtain ⟨raw, hraw, ⟨hbytes, -⟩ | ⟨hbytes, hne, hrest, -⟩⟩ := taken_of_read h
    · have hcons := List.splitOn_append_cons_self_of_not_mem hraw rest.bytes
      obtain ⟨first, others, hrest⟩ := List.exists_cons_of_ne_nil
        (List.splitOn_ne_nil lineFeed rest.bytes)
      rw [hbytes, hcons, List.length_cons, ih, hrest, List.getLast?_cons_cons]
      split <;> simp
    · have hcalls : calls.length = 0 := by
        rw [ih, hrest]
        rfl
      rw [hbytes, List.splitOn_eq_singleton hraw, List.length_cons, hcalls]
      simp [hne]

/-- A call gives the line of the stretch in its place, and leaves the stretches behind it. -/
theorem Calls.getElem?_eq {most : Nat} {s : Source} {calls : List (Line × Source)}
    (h : Calls most s calls) {k : Nat} {l : Line} {rest : Source}
    (hk : calls[k]? = some (l, rest)) :
    ∃ raw, (s.bytes.splitOn lineFeed)[k]? = some raw ∧
      l = ofStretch most raw (k + 1 < (s.bytes.splitOn lineFeed).length) ∧
      rest.bytes = [lineFeed].intercalate ((s.bytes.splitOn lineFeed).drop (k + 1)) ∧
      (k + 1 = (s.bytes.splitOn lineFeed).length → raw ≠ []) := by
  induction h generalizing k with
  | done h => cases hk
  | @next s next l' calls h more ih =>
    obtain ⟨raw, hraw, ⟨hbytes, hline⟩ | ⟨hbytes, hne, hnext, hline⟩⟩ := taken_of_read h
    · have hcons := List.splitOn_append_cons_self_of_not_mem hraw next.bytes
      have hpos : 0 < (next.bytes.splitOn lineFeed).length :=
        List.length_pos_of_ne_nil (List.splitOn_ne_nil lineFeed next.bytes)
      rw [hbytes, hcons, List.length_cons]
      cases k with
      | zero =>
        cases hk
        refine ⟨raw, rfl, ?_, ?_, fun hend => by omega⟩
        · rw [hline, decide_eq_true (by omega)]
        · rw [List.drop_succ_cons, List.drop_zero, List.intercalate_splitOn]
      | succ k =>
        obtain ⟨raw', hraw', hline', hrest', hlast⟩ := ih hk
        refine ⟨raw', hraw', ?_, hrest', fun hend => hlast (by omega)⟩
        rw [hline']
        congr 1
        simp
    · have hcalls : calls = [] := by
        rw [← List.length_eq_zero_iff, more.length_eq, hnext]
        rfl
      rw [hbytes, List.splitOn_eq_singleton hraw]
      cases k with
      | zero =>
        cases hk
        exact ⟨raw, rfl, hline, hnext, fun _ => hne⟩
      | succ k =>
        rw [hcalls] at hk
        cases hk

/-! ## The lines of stretches -/

/-- A stretch without the carriage return at its end, if there is one. -/
def withoutReturn (raw : List UInt8) : List UInt8 :=
  if raw.getLast? = some carriageReturn then raw.dropLast else raw

/-- A line that a line feed ended drops a carriage return at its end. -/
theorem ofReversed_reverse (raw : List UInt8) :
    ofReversed raw.reverse = ⟨(withoutReturn raw).length, withoutReturn raw⟩ := by
  rcases List.eq_nil_or_concat raw with rfl | ⟨before, b, rfl⟩
  · rfl
  · by_cases hb : b = carriageReturn <;> simp [ofReversed, withoutReturn, hb]

section Stretches

variable {most : Nat} {raw : List UInt8}

theorem ofStretch_of_lt (h : most < raw.length) (ended : Bool) :
    ofStretch most raw ended = ⟨raw.length, raw.take (most + 1)⟩ := if_pos h

theorem ofStretch_true (h : raw.length ≤ most) :
    ofStretch most raw true = ⟨(withoutReturn raw).length, withoutReturn raw⟩ := by
  rw [ofStretch, if_neg (Nat.not_lt_of_le h), if_pos rfl, ofReversed_reverse]

theorem ofStretch_false (h : raw.length ≤ most) : ofStretch most raw false = ⟨raw.length, raw⟩ := by
  rw [ofStretch, if_neg (Nat.not_lt_of_le h), if_neg (by decide)]

theorem withoutReturn_prefix (raw : List UInt8) : withoutReturn raw <+: raw := by
  rw [withoutReturn]
  split
  · exact List.dropLast_prefix raw
  · exact List.prefix_refl raw

/-- A line keeps the beginning of its stretch, and no more of it than there is room for. -/
theorem kept_ofStretch (most : Nat) (raw : List UInt8) (ended : Bool) :
    (ofStretch most raw ended).kept <+: raw ∧
      (ofStretch most raw ended).kept.length ≤ most + 1 := by
  rcases Nat.lt_or_ge most raw.length with hlong | hshort
  · rw [ofStretch_of_lt hlong]
    exact ⟨List.take_prefix _ raw, List.length_take_le _ raw⟩
  · have hkept : (ofStretch most raw ended).kept <+: raw := by
      cases ended with
      | true => rw [ofStretch_true hshort]; exact withoutReturn_prefix raw
      | false => exact congrArg kept (ofStretch_false hshort) ▸ List.prefix_refl _
    exact ⟨hkept, Nat.le_succ_of_le (Nat.le_trans hkept.length_le hshort)⟩

end Stretches

/-- The calls that read an input come to an end. However the input is cut into chunks, there is one
for each stretch between line feeds, in order, but none for an empty stretch at the end. A call
takes its stretch and the line feed behind it, so at least one byte, and leaves what follows. Of a
stretch within the limit that a line feed ended it gives everything but a carriage return at the
end, and of one that the input ended everything; of a longer one it gives the length and the
beginning. What is held of a line never exceeds the limit by more than one byte. -/
theorem calls_splitOn (most : Nat) (chunks : List (List UInt8)) :
    (∀ chunks', (readHead [] (most + 1) [] chunks').held ≤ most + 1) ∧
    ∃ calls, Calls most ⟨chunks, none⟩ calls ∧
      readAll most ⟨chunks, none⟩ = (calls.map Prod.fst, none) ∧
      let raws := chunks.flatten.splitOn lineFeed
      let left := fun k => [lineFeed].intercalate (raws.drop k)
      calls.length = raws.length - (if raws.getLast? = some [] then 1 else 0) ∧
      left 0 = chunks.flatten ∧
      ∀ k l rest, calls[k]? = some (l, rest) → ∃ raw, raws[k]? = some raw ∧
        rest.bytes = left (k + 1) ∧ (left (k + 1)).length < (left k).length ∧
        (k + 1 < raws.length → left k = raw ++ lineFeed :: left (k + 1)) ∧
        (k + 1 = raws.length → left k = raw ∧ left (k + 1) = []) ∧
        (raw.length ≤ most → k + 1 < raws.length →
          l.kept = withoutReturn raw ∧ l.length = l.kept.length) ∧
        (raw.length ≤ most → k + 1 = raws.length → l.kept = raw ∧ l.length = raw.length) ∧
        (most < raw.length → l.length = raw.length ∧ l.kept = raw.take (most + 1)) ∧
        l.kept <+: raw ∧ l.kept.length ≤ most + 1 := by
  obtain ⟨calls, hcalls⟩ := exists_calls most ⟨chunks, none⟩ rfl
  refine ⟨held_readHead (most + 1), calls, hcalls, hcalls.readAllFrom_eq [], ?_⟩
  intro raws left
  refine ⟨hcalls.length_eq, List.intercalate_splitOn _, fun k l rest hk => ?_⟩
  obtain ⟨raw, hraw, hline, hrest, hlast⟩ := hcalls.getElem?_eq hk
  replace hraw : raws[k]? = some raw := hraw
  replace hline : l = ofStretch most raw (k + 1 < raws.length) := hline
  obtain ⟨hlt, hget⟩ := List.getElem?_eq_some_iff.mp hraw
  have hdrop : raws.drop k = raw :: raws.drop (k + 1) := by
    rw [List.drop_eq_getElem_cons hlt, hget]
  have hmore : k + 1 < raws.length → left k = raw ++ lineFeed :: left (k + 1) := by
    intro hk
    have hne : raws.drop (k + 1) ≠ [] := by rwa [Ne, List.drop_eq_nil_iff, Nat.not_le]
    simp only [left, hdrop]
    rw [List.intercalate_cons_of_ne_nil hne, List.append_assoc]
    rfl
  have hend : k + 1 = raws.length → left k = raw ∧ left (k + 1) = [] := by
    intro hk
    have hnil : raws.drop (k + 1) = [] := List.drop_eq_nil_of_le (Nat.le_of_eq hk.symm)
    simp only [left, hdrop, hnil]
    exact ⟨List.intercalate_singleton, rfl⟩
  refine ⟨raw, hraw, hrest, ?_, hmore, hend, ?_, ?_, ?_, ?_⟩
  · rcases Nat.lt_or_eq_of_le hlt with hk | hk
    · rw [hmore hk, List.length_append, List.length_cons]
      omega
    · rw [(hend hk).1, (hend hk).2]
      exact List.length_pos_of_ne_nil (hlast hk)
  · intro hshort hk
    rw [hline, decide_eq_true hk, ofStretch_true hshort]
    exact ⟨rfl, rfl⟩
  · intro hshort hk
    rw [hline, decide_eq_false (by omega), ofStretch_false hshort]
    exact ⟨rfl, rfl⟩
  · intro hlong
    rw [hline, ofStretch_of_lt hlong]
    exact ⟨rfl, rfl⟩
  · rw [hline]
    exact kept_ofStretch most raw _

end LogOrigin.Line
