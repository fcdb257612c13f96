import LogOrigin.Replay.Source
import Mathlib.Data.List.Forall2

/-!
# The lines of an input and its bytes

The lines that are read off an input are the stretches between its line feeds (`Line.segments`), in
order and one for one, however the input is cut into chunks (`Line.readAll_eq`). Of a stretch that
is not too long a line keeps everything but a carriage return at the end; of one that is too long it
knows the length. So the lines of two inputs, of which the first ends where a line does, are the
lines of the two as one (`Line.ofBytes_append`).
-/

namespace LogOrigin.Line

open Json.Byte (lineFeed carriageReturn)

/-- The stretches between line feeds, where `current` is what has been seen of the first one, in
reverse. Nothing follows a final line feed. -/
def segmentsFrom (current : List UInt8) : List UInt8 → List (List UInt8)
  | [] => if current.isEmpty then [] else [current.reverse]
  | b :: rest =>
    if b = lineFeed then current.reverse :: segmentsFrom [] rest
    else segmentsFrom (b :: current) rest

/-- The stretches between line feeds. -/
def segments (input : List UInt8) : List (List UInt8) := segmentsFrom [] input

/-- The line that a stretch comes to. A line feed may have ended it, or the end of the input. -/
def ofStretch (most : Nat) (raw : List UInt8) (ended : Bool) : Line :=
  if most < raw.length then ⟨raw.length, raw.take (most + 1)⟩
  else if ended then ofReversed raw.reverse
  else ⟨raw.length, raw⟩

/-- The lines that stretches come to, as in `segmentsFrom`. -/
def ofBytesFrom (most : Nat) (current : List UInt8) : List UInt8 → List Line
  | [] => if current.isEmpty then [] else [ofStretch most current.reverse false]
  | b :: rest =>
    if b = lineFeed then ofStretch most current.reverse true :: ofBytesFrom most [] rest
    else ofBytesFrom most (b :: current) rest

/-- The lines of bytes. -/
def ofBytes (most : Nat) (input : List UInt8) : List Line := ofBytesFrom most [] input

theorem ofBytesFrom_append {before : List UInt8} (h : lineFeed ∉ before) (most : Nat)
    (current rest : List UInt8) :
    ofBytesFrom most current (before ++ rest) =
      ofBytesFrom most (before.reverse ++ current) rest := by
  induction before generalizing current with
  | nil => rfl
  | cons b before ih =>
    rw [List.mem_cons, not_or] at h
    rw [List.cons_append, ofBytesFrom, if_neg (Ne.symm h.1), ih h.2]
    simp

/-- A line feed ends a stretch. -/
theorem ofBytes_of_lineFeed {before : List UInt8} (h : lineFeed ∉ before) (most : Nat)
    (rest : List UInt8) :
    ofBytes most (before ++ lineFeed :: rest) =
      ofStretch most before true :: ofBytes most rest := by
  rw [ofBytes, ofBytesFrom_append h, ofBytesFrom, if_pos rfl, List.append_nil,
    List.reverse_reverse]
  rfl

/-- The end of the input ends a stretch that has begun. -/
theorem ofBytes_of_not_mem {input : List UInt8} (h : lineFeed ∉ input) (hne : input ≠ [])
    (most : Nat) : ofBytes most input = [ofStretch most input false] := by
  have hsplit := ofBytesFrom_append h most [] []
  rw [List.append_nil, List.append_nil] at hsplit
  rw [ofBytes, hsplit, ofBytesFrom, if_neg (by simpa using hne), List.reverse_reverse]

/-! ## Parts of an input -/

/-- An input that ends where a line does: it is empty, or its last byte is a line feed. -/
def EndsLine (input : List UInt8) : Prop := input = [] ∨ input.getLast? = some lineFeed

theorem ofBytesFrom_concat (most : Nat) (current front back : List UInt8) :
    ofBytesFrom most current (front ++ lineFeed :: back) =
      ofBytesFrom most current (front ++ [lineFeed]) ++ ofBytes most back := by
  induction front generalizing current with
  | nil => rfl
  | cons b front ih =>
    simp only [List.cons_append, ofBytesFrom]
    split
    · rw [ih, List.cons_append]
    · exact ih _

theorem EndsLine.cases {input : List UInt8} (h : EndsLine input) :
    input = [] ∨ ∃ front, input = front ++ [lineFeed] := by
  refine h.imp_right fun hlast => ?_
  obtain ⟨front, hfront⟩ := List.getLast?_eq_some_iff.mp hlast
  exact ⟨front, hfront⟩

/-- An input that ends where a line does can be read by itself. -/
theorem ofBytes_append {front : List UInt8} (h : EndsLine front) (most : Nat)
    (back : List UInt8) :
    ofBytes most (front ++ back) = ofBytes most front ++ ofBytes most back := by
  obtain rfl | ⟨front, rfl⟩ := h.cases
  · rfl
  · rw [List.append_assoc]
    exact ofBytesFrom_concat most [] front back

/-- It has as many lines as line feeds. -/
theorem length_ofBytes {input : List UInt8} (h : EndsLine input) (most : Nat) :
    (ofBytes most input).length = input.count lineFeed := by
  have hcount : ∀ front current, (ofBytesFrom most current (front ++ [lineFeed])).length =
      (front ++ [lineFeed]).count lineFeed := by
    intro front
    induction front with
    | nil => intro current; rfl
    | cons b front ih =>
      intro current
      rw [List.cons_append, List.count_cons, ofBytesFrom]
      by_cases hb : b = lineFeed
      · rw [if_pos hb, List.length_cons, ih, if_pos (by simpa using hb)]
      · rw [if_neg hb, ih, if_neg (by simpa using hb), Nat.add_zero]
  obtain rfl | ⟨front, rfl⟩ := h.cases
  · rfl
  · exact hcount front []

/-! ## What lines know of their stretches -/

/-- What a line knows of the stretch that it was read from. -/
structure Shows (most : Nat) (raw : List UInt8) (l : Line) : Prop where
  short : raw.length ≤ most →
    l.length = l.kept.length ∧ (l.kept = raw ∨ raw = l.kept ++ [carriageReturn])
  long : most < raw.length → l.length = raw.length

/-- A line that a line feed ended knows its stretch up to a carriage return. -/
theorem shows_ofReversed {most : Nat} (reversed : List UInt8) (h : reversed.length ≤ most) :
    Shows most reversed.reverse (ofReversed reversed) := by
  refine ⟨fun _ => ⟨rfl, ?_⟩, fun hlong => ?_⟩
  · cases reversed with
    | nil => exact .inl rfl
    | cons b before =>
      by_cases hb : b = carriageReturn
      · right
        simp only [ofReversed, hb, if_true, List.reverse_cons]
      · left
        simp only [ofReversed, hb, if_false]
  · rw [List.length_reverse] at hlong
    exact absurd h (Nat.not_le_of_lt hlong)

theorem shows_ofStretch (most : Nat) (raw : List UInt8) (ended : Bool) :
    Shows most raw (ofStretch most raw ended) := by
  by_cases hlong : most < raw.length
  · rw [ofStretch, if_pos hlong]
    exact ⟨fun hshort => absurd hshort (Nat.not_le_of_lt hlong), fun _ => rfl⟩
  · rw [ofStretch, if_neg hlong]
    cases ended with
    | true =>
      have hshort : raw.reverse.length ≤ most := by
        rw [List.length_reverse]
        exact Nat.le_of_not_lt hlong
      have hshows := shows_ofReversed raw.reverse hshort
      rw [List.reverse_reverse] at hshows
      exact hshows
    | false => exact ⟨fun _ => ⟨rfl, .inl rfl⟩, fun _ => rfl⟩

/-- Lines show the stretches of their bytes, one for one. -/
theorem forall₂_ofBytes (most : Nat) (input : List UInt8) :
    List.Forall₂ (Shows most) (segments input) (ofBytes most input) := by
  have hfrom : ∀ current, List.Forall₂ (Shows most) (segmentsFrom current input)
      (ofBytesFrom most current input) := by
    induction input with
    | nil =>
      intro current
      rw [segmentsFrom, ofBytesFrom]
      split
      · exact .nil
      · exact .cons (shows_ofStretch most _ false) .nil
    | cons b rest ih =>
      intro current
      rw [segmentsFrom, ofBytesFrom]
      split
      · exact .cons (shows_ofStretch most _ true) (ih [])
      · exact ih _
  exact hfrom []

/-! ## One line -/

/-- The head of a line takes bytes that are no line feeds, and perhaps a line feed behind them. -/
structure HeadTakes (done : List UInt8) (room : Nat) (input : List UInt8) (head : Head)
    (before : List UInt8) : Prop where
  reversed : head.reversed = before.reverse ++ done
  plain : lineFeed ∉ before
  within : before.length ≤ room
  lineFeed : head.stop = .lineFeed →
    before.length < room ∧ input = before ++ lineFeed :: head.rest.flatten
  full : head.stop = .full → before.length = room ∧ input = before ++ head.rest.flatten ∧
    head.rest.flatten ≠ []
  exhausted : head.stop = .exhausted → input = before ∧ head.rest.flatten = []

theorem headTakes_readHead (done : List UInt8) (room : Nat) (chunk : List UInt8)
    (chunks : List (List UInt8)) :
    ∃ before, HeadTakes done room (chunk ++ chunks.flatten) (readHead done room chunk chunks)
      before := by
  fun_induction readHead done room chunk chunks with
  | case1 done room =>
    exact ⟨[], ⟨rfl, by simp, Nat.zero_le _, (by intro h; cases h), (by intro h; cases h),
      fun _ => ⟨rfl, rfl⟩⟩⟩
  | case2 done room chunk chunks ih => exact ih
  | case3 done b chunk chunks =>
    exact ⟨[], ⟨rfl, by simp, Nat.zero_le _, (by intro h; cases h),
      fun _ => ⟨rfl, rfl, List.cons_ne_nil _ _⟩, (by intro h; cases h)⟩⟩
  | case4 done chunk chunks room =>
    exact ⟨[], ⟨rfl, by simp, Nat.zero_le _, fun _ => ⟨Nat.succ_pos _, rfl⟩,
      (by intro h; cases h), (by intro h; cases h)⟩⟩
  | case5 done room b chunk chunks hb ih =>
    obtain ⟨before, hreversed, hplain, hwithin, hfeed, hfull, hexhausted⟩ := ih
    refine ⟨b :: before, ?_, ?_, Nat.succ_le_succ hwithin, fun h => ?_, fun h => ?_, fun h => ?_⟩
    · rw [hreversed]; simp
    · rw [List.mem_cons, not_or]
      exact ⟨Ne.symm hb, hplain⟩
    · obtain ⟨hlt, heq⟩ := hfeed h
      exact ⟨Nat.succ_lt_succ hlt, by rw [List.cons_append, heq]; rfl⟩
    · obtain ⟨hlength, heq, hne⟩ := hfull h
      exact ⟨congrArg Nat.succ hlength, by rw [List.cons_append, heq]; rfl, hne⟩
    · obtain ⟨heq, hnil⟩ := hexhausted h
      exact ⟨by rw [List.cons_append, heq], hnil⟩

/-- The tail of a line takes bytes that are no line feeds, and perhaps a line feed behind them. -/
structure TailTakes (count : Nat) (input : List UInt8) (tail : Tail) (before : List UInt8) :
    Prop where
  length : tail.length = count + before.length
  plain : lineFeed ∉ before
  input : input = before ∧ tail.stop = .exhausted ∧ tail.rest.flatten = [] ∨
    input = before ++ lineFeed :: tail.rest.flatten ∧ tail.stop = .lineFeed

theorem tailTakes_skipTail (count : Nat) (chunk : List UInt8) (chunks : List (List UInt8)) :
    ∃ before, TailTakes count (chunk ++ chunks.flatten) (skipTail count chunk chunks) before := by
  fun_induction skipTail count chunk chunks with
  | case1 count => exact ⟨[], ⟨rfl, by simp, .inl ⟨rfl, rfl, rfl⟩⟩⟩
  | case2 count chunk chunks ih => exact ih
  | case3 count chunk chunks => exact ⟨[], ⟨rfl, by simp, .inr ⟨rfl, rfl⟩⟩⟩
  | case4 count b chunk chunks hb ih =>
    obtain ⟨before, hlength, hplain, hinput⟩ := ih
    refine ⟨b :: before, ?_, ?_, ?_⟩
    · rw [hlength, List.length_cons]
      omega
    · rw [List.mem_cons, not_or]
      exact ⟨Ne.symm hb, hplain⟩
    · rcases hinput with ⟨heq, hstop⟩ | ⟨heq, hstop⟩
      · exact .inl ⟨by rw [List.cons_append, heq], hstop⟩
      · exact .inr ⟨by rw [List.cons_append, heq]; rfl, hstop⟩

section Heads

variable {most : Nat} {input before more : List UInt8} {head : Head} {tail : Tail}

theorem ofBytes_of_stop_lineFeed (hhead : HeadTakes [] (most + 1) input head before)
    (hstop : head.stop = .lineFeed) :
    ofBytes most input = ofReversed head.reversed :: ofBytes most head.rest.flatten := by
  obtain ⟨hlt, heq⟩ := hhead.lineFeed hstop
  have hshort : ¬ most < before.length := Nat.not_lt_of_le (Nat.le_of_lt_succ hlt)
  rw [heq, ofBytes_of_lineFeed hhead.plain, ofStretch, if_neg hshort, if_pos rfl, hhead.reversed,
    List.append_nil]

theorem ofBytes_of_stop_exhausted (hhead : HeadTakes [] (most + 1) input head before)
    (hstop : head.stop = .exhausted) (hne : head.reversed ≠ []) :
    ofBytes most input =
      ⟨head.reversed.length, head.reversed.reverse⟩ :: ofBytes most head.rest.flatten := by
  obtain ⟨heq, hnil⟩ := hhead.exhausted hstop
  have hreversed : head.reversed = before.reverse := by rw [hhead.reversed, List.append_nil]
  have hbefore : before ≠ [] := by
    intro hnil
    rw [hreversed, hnil] at hne
    exact hne rfl
  have htake : before.take (most + 1) = before := List.take_of_length_le hhead.within
  rw [heq, ofBytes_of_not_mem hhead.plain hbefore, hnil, hreversed, List.reverse_reverse,
    List.length_reverse, ofStretch, htake]
  simp only [Bool.false_eq_true, if_false, ite_self]
  rfl

theorem ofBytes_of_stop_full (hhead : HeadTakes [] (most + 1) input head before)
    (hstop : head.stop = .full) (htail : TailTakes (most + 1) head.rest.flatten tail more) :
    ofBytes most input = ⟨tail.length, head.reversed.reverse⟩ :: ofBytes most tail.rest.flatten := by
  obtain ⟨hlength, heq, -⟩ := hhead.full hstop
  have hplain : lineFeed ∉ before ++ more := by
    rw [List.mem_append, not_or]
    exact ⟨hhead.plain, htail.plain⟩
  have hlong : most < (before ++ more).length := by
    rw [List.length_append, hlength]
    omega
  have hline : ∀ ended, ofStretch most (before ++ more) ended =
      ⟨tail.length, head.reversed.reverse⟩ := by
    intro ended
    rw [ofStretch, if_pos hlong, htail.length, hhead.reversed, List.append_nil,
      List.reverse_reverse, List.length_append, hlength, List.take_left' hlength]
  rcases htail.input with ⟨hmore, -, hnil⟩ | ⟨hmore, -⟩
  · have hne : before ++ more ≠ [] := List.ne_nil_of_length_pos (Nat.zero_lt_of_lt hlong)
    rw [heq, hmore, ofBytes_of_not_mem hplain hne, hline, hnil]
    rfl
  · rw [heq, hmore, ← List.append_assoc, ofBytes_of_lineFeed hplain, hline]

end Heads

/-- A line that is read is the first line of the bytes, and leaves the others. -/
theorem ofBytes_of_read {most : Nat} {s rest : Source} {l : Line}
    (h : read most s = .ok (some (l, rest))) :
    ofBytes most s.bytes = l :: ofBytes most rest.bytes ∧ rest.failure = s.failure := by
  obtain ⟨before, hhead⟩ := headTakes_readHead [] (most + 1) [] s.chunks
  rw [List.nil_append] at hhead
  rw [read] at h
  generalize readHead [] (most + 1) [] s.chunks = head at h hhead
  split at h
  next hstop =>
    cases h
    exact ⟨ofBytes_of_stop_lineFeed hhead hstop, rfl⟩
  next => cases h
  next hstop hfailure =>
    split at h
    next => cases h
    next hne =>
      cases h
      rw [List.isEmpty_iff] at hne
      exact ⟨ofBytes_of_stop_exhausted hhead hstop hne, rfl⟩
  next hstop =>
    obtain ⟨more, htail⟩ := tailTakes_skipTail (most + 1) [] head.rest
    generalize skipTail (most + 1) [] head.rest = tail at h htail
    dsimp only at h
    split at h
    next => cases h
    next =>
      cases h
      exact ⟨ofBytes_of_stop_full hhead hstop htail, rfl⟩

/-- There is no line to read where there are no bytes. -/
theorem bytes_of_read_none {most : Nat} {s : Source} (h : read most s = .ok none) :
    s.bytes = [] := by
  obtain ⟨before, hhead⟩ := headTakes_readHead [] (most + 1) [] s.chunks
  rw [read] at h
  generalize readHead [] (most + 1) [] s.chunks = head at h hhead
  split at h
  next => cases h
  next => cases h
  next hstop hfailure =>
    obtain ⟨heq, -⟩ := hhead.exhausted hstop
    split at h
    next hempty =>
      rw [hhead.reversed, List.append_nil, List.isEmpty_iff, List.reverse_eq_nil_iff] at hempty
      show [] ++ s.chunks.flatten = []
      rw [heq, hempty]
    next => cases h
  next =>
    dsimp only at h
    split at h <;> cases h

/-- Reading fails only where the input does. -/
theorem failure_of_read_error {most : Nat} {s : Source} {cause : IoError}
    (h : read most s = .error cause) : s.failure = some cause := by
  rw [read] at h
  generalize readHead [] (most + 1) [] s.chunks = head at h
  split at h
  next => cases h
  next _ _ hfailure => cases h; exact hfailure
  next => split at h <;> cases h
  next =>
    dsimp only at h
    split at h
    next _ _ hfailure => cases h; exact hfailure
    next => cases h

/-! ## All lines -/

/-- The lines of an input that does not fail are those of its bytes. -/
theorem readAllFrom_eq (most : Nat) (done : List Line) (s : Source) (hs : s.failure = none) :
    readAllFrom most done s = (done.reverse ++ ofBytes most s.bytes, none) := by
  fun_induction readAllFrom most done s with
  | case1 done s cause h =>
    rw [failure_of_read_error h] at hs
    cases hs
  | case2 done s h =>
    rw [bytes_of_read_none h]
    exact congrArg (·, none) (List.append_nil _).symm
  | case3 done s l rest h hlt ih =>
    obtain ⟨hlines, hfailure⟩ := ofBytes_of_read h
    rw [ih (hfailure.trans hs), hlines, List.reverse_cons, List.append_assoc]
    rfl

theorem readAll_eq (most : Nat) {s : Source} (hs : s.failure = none) :
    readAll most s = (ofBytes most s.bytes, none) := readAllFrom_eq most [] s hs

theorem readAll_spec (most : Nat) {s : Source} (hs : s.failure = none) :
    (readAll most s).2 = none ∧ List.Forall₂ (Shows most) (segments s.bytes) (readAll most s).1 := by
  rw [readAll_eq most hs]
  exact ⟨rfl, forall₂_ofBytes most s.bytes⟩

/-! ## Inputs that fail -/

/-- No line feed follows where reading fails. -/
theorem not_mem_of_read_error {most : Nat} {s : Source} {cause : IoError}
    (h : read most s = .error cause) : lineFeed ∉ s.bytes := by
  obtain ⟨before, hhead⟩ := headTakes_readHead [] (most + 1) [] s.chunks
  rw [List.nil_append] at hhead
  rw [read] at h
  generalize readHead [] (most + 1) [] s.chunks = head at h hhead
  split at h
  next => cases h
  next hstop _ =>
    rw [Source.bytes, (hhead.exhausted hstop).1]
    exact hhead.plain
  next => split at h <;> cases h
  next hstop =>
    obtain ⟨more, htail⟩ := tailTakes_skipTail (most + 1) [] head.rest
    generalize skipTail (most + 1) [] head.rest = tail at h htail
    dsimp only at h
    split at h
    next hend _ =>
      obtain ⟨-, hinput, -⟩ := hhead.full hstop
      rcases htail.input with ⟨hmore, -, -⟩ | ⟨-, hfeed⟩
      · rw [Source.bytes, hinput, ← List.nil_append head.rest.flatten, hmore, List.mem_append,
          not_or]
        exact ⟨hhead.plain, htail.plain⟩
      · rw [hend] at hfeed
        cases hfeed
    next => cases h

/-- A line that is read off an input that fails later is one that a line feed ended. -/
theorem bytes_of_read {most : Nat} {s : Source} {cause : IoError} (hs : s.failure = some cause)
    {line? : Option (Line × Source)} (h : read most s = .ok line?) :
    ∃ l rest raw, line? = some (l, rest) ∧ lineFeed ∉ raw ∧
      s.bytes = raw ++ lineFeed :: rest.bytes := by
  obtain ⟨before, hhead⟩ := headTakes_readHead [] (most + 1) [] s.chunks
  rw [List.nil_append] at hhead
  rw [read, hs] at h
  generalize readHead [] (most + 1) [] s.chunks = head at h hhead
  split at h
  next hstop =>
    cases h
    exact ⟨_, _, before, rfl, hhead.plain, (hhead.lineFeed hstop).2⟩
  next => cases h
  next hnone => cases hnone
  next hstop =>
    obtain ⟨more, htail⟩ := tailTakes_skipTail (most + 1) [] head.rest
    generalize skipTail (most + 1) [] head.rest = tail at h htail
    dsimp only at h
    split at h
    next => cases h
    next hnot =>
      cases h
      obtain ⟨-, hinput, -⟩ := hhead.full hstop
      rcases htail.input with ⟨-, hend, -⟩ | ⟨hmore, -⟩
      · exact absurd rfl (hnot cause hend)
      · refine ⟨_, _, before ++ more, rfl, ?_, ?_⟩
        · rw [List.mem_append, not_or]
          exact ⟨hhead.plain, htail.plain⟩
        · rw [Source.bytes, hinput, ← List.nil_append head.rest.flatten, hmore, List.append_assoc]
          rfl

/-- A line feed ends a line, whatever lines follow. -/
theorem EndsLine.cons {front : List UInt8} (h : EndsLine front) (raw : List UInt8) :
    EndsLine (raw ++ lineFeed :: front) := by
  right
  rcases h with rfl | hlast
  · exact List.getLast?_concat
  · rw [List.getLast?_append_cons, List.getLast?_cons, hlast]
    rfl

/-- What is in front of the last line feed, and that line feed, is one part of an input. -/
theorem EndsLine.eq_of_append {front front' rest rest' : List UInt8} (h : EndsLine front)
    (h' : EndsLine front') (hrest : lineFeed ∉ rest) (hrest' : lineFeed ∉ rest')
    (heq : front ++ rest = front' ++ rest') : front = front' := by
  have hlonger : ∀ {front between rest : List UInt8}, EndsLine (front ++ between) →
      lineFeed ∉ between ++ rest → front ++ between = front := by
    intro front between rest hends hnot
    rcases hends.cases with hnil | ⟨before, hlast⟩
    · rw [hnil, (List.append_eq_nil_iff.mp hnil).1]
    · rcases List.eq_nil_or_concat between with rfl | ⟨between, b, rfl⟩
      · exact List.append_nil _
      · rw [List.concat_eq_append, ← List.append_assoc] at hlast
        have hb : b = lineFeed := List.singleton_inj.mp (List.append_inj' hlast rfl).2
        exact absurd (by simp [hb]) hnot
  rcases List.append_eq_append_iff.mp heq with ⟨between, rfl, rfl⟩ | ⟨between, rfl, rfl⟩
  · exact (hlonger h' hrest).symm
  · exact hlonger h hrest'

/-- The lines of an input that fails are those that were ended before the failure. -/
theorem readAllFrom_of_failure (most : Nat) (done : List Line) (s : Source) {cause : IoError}
    (hs : s.failure = some cause) :
    ∃ front rest, s.bytes = front ++ rest ∧ EndsLine front ∧ lineFeed ∉ rest ∧
      readAllFrom most done s = (done.reverse ++ ofBytes most front, some cause) := by
  fun_induction readAllFrom most done s with
  | case1 done s cause' h =>
    cases (failure_of_read_error h).symm.trans hs
    exact ⟨[], s.bytes, rfl, .inl rfl, not_mem_of_read_error h,
      congrArg (·, some _) (List.append_nil _).symm⟩
  | case2 done s h =>
    obtain ⟨_, _, _, hnone, -⟩ := bytes_of_read hs h
    cases hnone
  | case3 done s l next h hlt ih =>
    obtain ⟨_, _, raw, heq, hraw, hbytes⟩ := bytes_of_read hs h
    cases heq
    obtain ⟨hlines, hfailure⟩ := ofBytes_of_read h
    obtain ⟨front, rest, hnext, hends, hrest, hall⟩ := ih (hfailure.trans hs)
    rw [hbytes, ofBytes_of_lineFeed hraw] at hlines
    refine ⟨raw ++ lineFeed :: front, rest, ?_, hends.cons raw, hrest, ?_⟩
    · rw [hbytes, hnext, List.append_assoc]
      rfl
    · rw [hall, ofBytes_of_lineFeed hraw, (List.cons.inj hlines).1, List.reverse_cons,
        List.append_assoc]
      rfl

end LogOrigin.Line
