import LogOrigin.Instant
import LogOrigin.Proofs.TraceLine

/-!
# Instants written and read back

An instant that was read is one of the calendar (`Instant.IsValid`), whatever the offset of its text
was, and one of the calendar is read back from its own text.
-/

namespace LogOrigin

/-- A computation that comes to a value comes to one step by step. -/
theorem exists_of_bind {ε α β : Type} {x : Except ε α} {f : α → Except ε β} {b : β}
    (h : x >>= f = .ok b) : ∃ a, x = .ok a ∧ f a = .ok b := by
  cases x with
  | error e => cases h
  | ok a => exact ⟨a, rfl, h⟩

namespace Text

/-! ## Numbers of a fixed width -/

theorem toList_pushn (s : String) (c : Char) (n : Nat) :
    (s.pushn c n).toList = s.toList ++ List.replicate n c := by
  induction n with
  | zero => exact (List.append_nil _).symm
  | succ n ih =>
    have hstep : s.pushn c (n + 1) = (s.pushn c n).push c := rfl
    rw [hstep, String.toList_push, ih, List.replicate_succ', List.append_assoc]

/-- Digits that show a number. -/
structure Shows (n : Nat) (ds : List Char) : Prop where
  digits : ∀ c ∈ ds, c.isDigit = true
  value : Nat.ofDigitChars 10 ds 0 = n
  ne : ds ≠ []

theorem ofDigitChars_zeros (k : Nat) (ds : List Char) :
    Nat.ofDigitChars 10 (List.replicate k '0' ++ ds) 0 = Nat.ofDigitChars 10 ds 0 := by
  induction k with
  | zero => rfl
  | succ k ih =>
    rw [List.replicate_succ, List.cons_append, Nat.ofDigitChars_cons]
    exact ih

theorem toList_padded (width n : Nat) :
    (padded width n).toList =
      List.replicate (width - (Nat.toDigits 10 n).length) '0' ++ Nat.toDigits 10 n := by
  have hdigits : (toString n).toList = Nat.toDigits 10 n := by
    rw [Nat.toString_eq_repr, Nat.toList_repr]
  rw [padded, String.toList_append, toList_pushn, hdigits, ← String.length_toList, hdigits]
  rfl

theorem shows_padded (width n : Nat) : Shows n (padded width n).toList := by
  rw [toList_padded]
  refine ⟨fun c hc => ?_, ?_, ?_⟩
  · rcases List.mem_append.mp hc with hc | hc
    · rw [List.eq_of_mem_replicate hc]
      rfl
    · exact Nat.isDigit_of_mem_toDigits (by decide) (by decide) hc
  · rw [ofDigitChars_zeros, Nat.ofDigitChars_ten_toDigits]
  · exact List.append_ne_nil_of_right_ne_nil _ Nat.toDigits_ne_nil

/-- A number that fits takes the whole width and no more. -/
theorem length_padded {width n : Nat} (hpos : 0 < width) (h : n < Nat.pow 10 width) :
    (padded width n).toList.length = width := by
  have hle := (Nat.length_toDigits_le_iff (b := 10) (by decide) hpos).mpr h
  rw [toList_padded, List.length_append, List.length_replicate]
  omega

theorem lt_of_digit? {c : Char} {d : Nat} (h : digit? c = some d) : d < 10 := by
  unfold digit? at h
  split at h
  · next hc =>
    rw [Bool.and_eq_true, decide_eq_true_eq, decide_eq_true_eq] at hc
    have hle : c.toNat ≤ 57 := UInt32.le_iff_toNat_le.mp hc.2
    have hzero : '0'.toNat = 48 := rfl
    obtain rfl := Option.some.inj h
    omega
  · cases h

end Text

/-! ## The calendar -/

namespace Date

/-- A day that there is. -/
structure IsValid (d : Date) : Prop where
  leastYear : leastYear ≤ d.year
  greatestYear : d.year ≤ greatestYear
  month : 1 ≤ d.month ∧ d.month ≤ 12
  day : 1 ≤ d.day ∧ d.day ≤ daysInMonth d.year d.month

theorem daysInMonth_bounds (year : Int) (month : Nat) :
    28 ≤ daysInMonth year month ∧ daysInMonth year month ≤ 31 := by
  unfold daysInMonth
  split
  · split <;> decide
  · split <;> decide

theorem IsValid.of?_eq {d : Date} (h : d.IsValid) : of? d.year d.month d.day = some d := by
  rw [of?, if_pos]
  simp only [Bool.and_eq_true, decide_eq_true_eq]
  exact ⟨⟨⟨⟨⟨h.leastYear, h.greatestYear⟩, h.month.1⟩, h.month.2⟩, h.day.1⟩, h.day.2⟩

theorem isValid_of_of? {year : Int} {month day : Nat} {d : Date}
    (h : of? year month day = some d) : d.IsValid := by
  unfold of? at h
  split at h
  · next hall =>
    simp only [Bool.and_eq_true, decide_eq_true_eq] at hall
    obtain ⟨⟨⟨⟨⟨hleast, hgreatest⟩, hone⟩, htwelve⟩, hfirst⟩, hlast⟩ := hall
    obtain rfl := Option.some.inj h
    exact ⟨hleast, hgreatest, ⟨hone, htwelve⟩, ⟨hfirst, hlast⟩⟩
  · cases h

theorem IsValid.next? {d d' : Date} (h : d.IsValid) (hnext : d.next? = some d') : d'.IsValid := by
  have hdays := daysInMonth_bounds d.year (d.month + 1)
  unfold Date.next? at hnext
  split at hnext
  · next hday =>
    obtain rfl := Option.some.inj hnext
    exact ⟨h.leastYear, h.greatestYear, h.month, ⟨Nat.le_add_left .., hday⟩⟩
  · split at hnext
    · next hmonth =>
      obtain rfl := Option.some.inj hnext
      exact ⟨h.leastYear, h.greatestYear, ⟨Nat.le_add_left .., hmonth⟩,
        ⟨Nat.le_refl 1, Nat.le_trans (show 1 ≤ 28 by decide) hdays.1⟩⟩
    · exact isValid_of_of? hnext

theorem IsValid.previous? {d d' : Date} (h : d.IsValid) (hprevious : d.previous? = some d') :
    d'.IsValid := by
  have hdays := daysInMonth_bounds d.year (d.month - 1)
  obtain ⟨hone, htwelve⟩ := h.month
  obtain ⟨hfirst, hlast⟩ := h.day
  unfold Date.previous? at hprevious
  split at hprevious
  · next hday =>
    obtain rfl := Option.some.inj hprevious
    exact ⟨h.leastYear, h.greatestYear, h.month, ⟨Nat.le_sub_one_of_lt hday,
      Nat.le_trans (Nat.sub_le ..) hlast⟩⟩
  · split at hprevious
    · next hmonth =>
      obtain rfl := Option.some.inj hprevious
      exact ⟨h.leastYear, h.greatestYear, ⟨Nat.le_sub_one_of_lt hmonth,
        Nat.le_trans (Nat.sub_le ..) htwelve⟩,
        ⟨Nat.le_trans (show 1 ≤ 28 by decide) hdays.1, Nat.le_refl _⟩⟩
    · exact isValid_of_of? hprevious

end Date

/-- A time of day that there is. Only the last second of a minute may be a leap second. -/
structure TimeOfDay.IsValid (t : TimeOfDay) : Prop where
  hour : t.hour < 24
  minute : t.minute < 60
  second : t.second < 60
  nano : t.nano < 1000000000 ∨ t.second = 59 ∧ t.nano < 2000000000

/-- An instant of the calendar. -/
structure Instant.IsValid (t : Instant) : Prop where
  date : t.date.IsValid
  time : t.time.IsValid

namespace Instant

open Text (padded Shows)

/-! ## Reading numbers -/

theorem moreDigits_digits {ds : List Char} (hdigits : ∀ c ∈ ds, c.isDigit = true) {n most : Nat}
    (hlen : ds.length ≤ most) (hle : Nat.ofDigitChars 10 ds n ≤ greatestNumber) {c : Char}
    (hc : Text.digit? c = none) (rest : List Char) :
    moreDigits n most (ds ++ c :: rest) = .ok (Nat.ofDigitChars 10 ds n, c :: rest) := by
  induction ds generalizing n most with
  | nil =>
    cases most with
    | zero => rfl
    | succ most => simp [moreDigits, hc]
  | cons d ds ih =>
    cases most with
    | zero => cases hlen
    | succ most =>
      have hd := Text.digit?_of_isDigit (hdigits d (List.mem_cons_self ..))
      have hvalue : Nat.ofDigitChars 10 (d :: ds) n =
          Nat.ofDigitChars 10 ds (n * 10 + (d.toNat - 48)) := by
        rw [Nat.ofDigitChars_cons, Nat.mul_comm]
        rfl
      rw [hvalue] at hle ⊢
      have hbound : n * 10 + (d.toNat - 48) ≤ greatestNumber :=
        Nat.le_trans (Text.le_ofDigitChars ds _) hle
      simp only [List.cons_append, moreDigits, hd, if_neg (Nat.not_lt.mpr hbound)]
      exact ih (fun e he => hdigits e (List.mem_cons_of_mem _ he)) (Nat.le_of_succ_le_succ hlen) hle

/-- A number is read from the digits that show it, up to the next character. -/
theorem number_shows {n most : Nat} {ds : List Char} (h : Shows n ds) (hlen : ds.length ≤ most)
    (hle : n ≤ greatestNumber) {c : Char} (hc : Text.digit? c = none) (rest : List Char) :
    number most (ds ++ c :: rest) = .ok (n, c :: rest) := by
  have hread := moreDigits_digits h.digits hlen (h.value.symm ▸ hle) hc rest
  rw [h.value] at hread
  cases ds with
  | nil => exact absurd rfl h.ne
  | cons d ds =>
    have hd := Text.digit?_of_isDigit (h.digits d (List.mem_cons_self ..))
    rw [List.cons_append] at hread ⊢
    rw [number, hd, Option.isSome_some, if_pos rfl]
    exact hread

theorem trimStart_shows {n : Nat} {ds : List Char} (h : Shows n ds) (rest : List Char) :
    Text.trimStart (ds ++ rest) = ds ++ rest := by
  cases ds with
  | nil => exact absurd rfl h.ne
  | cons d ds =>
    have hd := Text.isBlank_of_isDigit (h.digits d (List.mem_cons_self ..))
    rw [Text.trimStart, List.cons_append, List.dropWhile_cons_of_neg (by rw [hd]; decide)]

/-- A number of two digits is read between the bounds that it keeps. -/
theorem field_padded {least greatest n : Nat} (hleast : least ≤ n) (hgreatest : n ≤ greatest)
    (hlt : n < 100) {c : Char} (hc : Text.digit? c = none) (rest : List Char) :
    field least greatest ((padded 2 n).toList ++ c :: rest) = .ok (n, c :: rest) := by
  have hlen : (padded 2 n).toList.length ≤ 2 := Nat.le_of_eq (Text.length_padded (by decide) hlt)
  have hle : n ≤ greatestNumber := Nat.le_trans (Nat.le_of_lt hlt) (by decide)
  have hshows := Text.shows_padded 2 n
  rw [field, trimStart_shows hshows, number_shows hshows hlen hle hc]
  simp [bind, Except.bind, hleast, hgreatest, pure, Except.pure]

/-- The years of the calendar are far from the bounds of what is read. -/
theorem year_bounds {bound : Int} (h : Int.pow 2 31 = bound) {y : Int} (hleast : -262143 ≤ y)
    (hgreatest : y ≤ 262143) : (decide (-bound ≤ y) && decide (y < bound)) = true := by
  have hpow : bound = 2147483648 := h.symm.trans (by decide)
  rw [Bool.and_eq_true, decide_eq_true_eq, decide_eq_true_eq, hpow]
  omega

/-- A year with a sign is read as its number with the sign. -/
theorem year_signed {n : Nat} {ds : List Char} (h : Shows n ds) (hle : n ≤ 262143)
    (rest : List Char) :
    year ('-' :: (ds ++ '-' :: rest)) = .ok (-(n : Int), '-' :: rest) ∧
      year ('+' :: (ds ++ '-' :: rest)) = .ok ((n : Int), '-' :: rest) := by
  have hlen : ds.length ≤ (ds ++ '-' :: rest).length := by
    rw [List.length_append]
    exact Nat.le_add_right ..
  have hnumber := number_shows h hlen (Nat.le_trans hle (by decide)) (c := '-') (by decide) rest
  have hminus : Text.trimStart ('-' :: (ds ++ '-' :: rest)) = '-' :: (ds ++ '-' :: rest) :=
    List.dropWhile_cons_of_neg (by decide)
  have hplus : Text.trimStart ('+' :: (ds ++ '-' :: rest)) = '+' :: (ds ++ '-' :: rest) :=
    List.dropWhile_cons_of_neg (by decide)
  -- The bound gets a name, for a comparison with it would be evaluated in unary.
  obtain ⟨bound, hbound⟩ : ∃ bound, Int.pow 2 31 = bound := ⟨_, rfl⟩
  rw [year, year, hminus, hplus, hbound]
  constructor
  · simp only [hnumber, bind, Except.bind, pure, Except.pure]
    exact if_pos (year_bounds hbound (by omega) (by omega))
  · simp only [hnumber, bind, Except.bind, pure, Except.pure]
    exact if_pos (year_bounds hbound (by omega) (by omega))

/-- A year of four digits is read as its number. -/
theorem year_plain {n : Nat} (hlt : n < 10000) (rest : List Char) :
    year ((padded 4 n).toList ++ '-' :: rest) = .ok ((n : Int), '-' :: rest) := by
  have hshows := Text.shows_padded 4 n
  have hlen : (padded 4 n).toList.length ≤ 4 := Nat.le_of_eq (Text.length_padded (by decide) hlt)
  have hle : n ≤ greatestNumber := Nat.le_trans (Nat.le_of_lt hlt) (by decide)
  have hnumber := number_shows hshows hlen hle (c := '-') (by decide) rest
  have hsign : ∀ c ds, (padded 4 n).toList ++ '-' :: rest = c :: ds → c.isDigit = true := by
    intro c ds heq
    cases hcases : (padded 4 n).toList with
    | nil => exact absurd hcases hshows.ne
    | cons d tail =>
      rw [hcases, List.cons_append] at heq
      obtain ⟨rfl, -⟩ := List.cons.inj heq
      exact hshows.digits d (by rw [hcases]; exact List.mem_cons_self ..)
  obtain ⟨bound, hbound⟩ : ∃ bound, Int.pow 2 31 = bound := ⟨_, rfl⟩
  rw [year, trimStart_shows hshows, hbound]
  split
  · next heq => exact absurd (hsign _ _ heq) (by decide)
  · next heq => exact absurd (hsign _ _ heq) (by decide)
  · rw [hnumber]
    simp only [bind, Except.bind, pure, Except.pure]
    exact if_pos (year_bounds hbound (by omega) (by omega))

/-- The year of the calendar that is shown is the year that is read. -/
theorem year_yearText {y : Int} (hleast : Date.leastYear ≤ y) (hgreatest : y ≤ Date.greatestYear)
    (rest : List Char) : year ((yearText y).toList ++ '-' :: rest) = .ok (y, '-' :: rest) := by
  have habs : y.natAbs ≤ 262143 := by
    rw [Date.leastYear] at hleast
    rw [Date.greatestYear] at hgreatest
    omega
  obtain ⟨hnegative, hpositive⟩ := year_signed (Text.shows_padded 4 y.natAbs) habs rest
  by_cases hplain : 0 ≤ y ∧ y ≤ 9999
  · have hy : ((y.natAbs : Nat) : Int) = y := Int.natAbs_of_nonneg hplain.1
    rw [yearText, if_pos (by simp [hplain]), year_plain (by omega), hy]
  · rw [yearText, if_neg (by simp; omega), String.toList_append]
    have hminus : "-".toList = ['-'] := rfl
    have hplus : "+".toList = ['+'] := rfl
    by_cases hneg : y < 0
    · have hy : -((y.natAbs : Nat) : Int) = y := by omega
      rw [if_pos hneg, hminus, List.cons_append, List.nil_append, List.cons_append, hnegative, hy]
    · have hy : ((y.natAbs : Nat) : Int) = y := by omega
      rw [if_neg hneg, hplus, List.cons_append, List.nil_append, List.cons_append, hpositive, hy]

/-! ## Reading what is written -/

theorem separator_cons (mark : Char) (h : Text.isBlank mark = false) (rest : List Char) :
    separator mark (mark :: rest) = .ok ((), rest) := by
  rw [separator, Text.trimStart, List.dropWhile_cons_of_neg (by rw [h]; decide)]
  simp

/-- A fraction of at most nine digits is read as so many of a billion. -/
theorem fraction_digits {n : Nat} {ds : List Char} (h : Shows n ds) (hlen : ds.length ≤ 9)
    (hlt : n < 1000000000) :
    fraction ('.' :: (ds ++ ['Z'])) = .ok (n * Nat.pow 10 (9 - ds.length), ['Z']) := by
  have hle : n ≤ greatestNumber := Nat.le_trans (Nat.le_of_lt hlt) (by decide)
  have hnumber := number_shows h hlen hle (c := 'Z') (by decide) []
  have hplaces : (ds ++ ['Z']).length - ['Z'].length = ds.length := by
    rw [List.length_append, Nat.add_sub_cancel]
  simp only [fraction, hnumber, bind, Except.bind, pure, Except.pure, hplaces]
  rfl

/-- A fraction is read as the nanoseconds of which it is the text. -/
theorem fraction_fractionText {nano : Nat} (h : nano < 1000000000) :
    fraction ((fractionText nano).toList ++ ['Z']) = .ok (nano, ['Z']) := by
  have hdigits : ∀ width n scale, 0 < width → width ≤ 9 → n < Nat.pow 10 width →
      n < 1000000000 → Nat.pow 10 (9 - width) = scale → n * scale = nano →
      fraction (("." ++ padded width n).toList ++ ['Z']) = .ok (nano, ['Z']) := by
    intro width n scale hpos hle hlt hbillion hscale hvalue
    have hlen := Text.length_padded hpos hlt
    have hdot : ".".toList = ['.'] := rfl
    rw [String.toList_append, hdot, List.cons_append, List.nil_append, List.cons_append,
      fraction_digits (Text.shows_padded width n) (by omega) hbillion, hlen, hscale, hvalue]
  rw [fractionText]
  split
  · next hzero =>
    rw [hzero]
    rfl
  · split
    · next hmillions =>
      have hlt : nano / 1000000 < 1000 := by omega
      exact hdigits 3 _ 1000000 (by decide) (by decide) hlt (by omega) rfl (by omega)
    · split
      · next hthousands =>
        have hlt : nano / 1000 < 1000000 := by omega
        exact hdigits 6 _ 1000 (by decide) (by decide) hlt (by omega) rfl (by omega)
      · exact hdigits 9 _ 1 (by decide) (by decide) h h rfl (by omega)

/-- Without an offset, a time stays as it is. -/
theorem removeOffset_zero {t : Instant} (h : t.time.IsValid) : removeOffset t 0 = some t := by
  obtain ⟨date, hour, minute, second, nano⟩ := t
  have hhour := h.hour
  have hminute := h.minute
  dsimp only at hhour hminute
  have htotal : ((hour : Int) * 60 + minute - 0) % 1440 = hour * 60 + minute := by omega
  have hinDay : ((hour : Int) * 60 + minute).toNat = hour * 60 + minute := by omega
  have hnot : ¬ (hour : Int) * 60 + minute - 0 < 0 := by omega
  have hday : (hour : Int) * 60 + minute - 0 < 1440 := by omega
  have hhours : (hour * 60 + minute) / 60 = hour := by omega
  have hminutes : (hour * 60 + minute) % 60 = minute := by omega
  simp only [removeOffset, htotal, hinDay, if_neg hnot, if_pos hday, hhours, hminutes,
    Option.map_some]

/-- The characters of the text of an instant. -/
theorem toList_text (t : Instant) (leap : Nat) (hleap : t.time.leap = leap) :
    t.text.toList = (yearText t.date.year).toList ++ '-' :: ((padded 2 t.date.month).toList ++
      '-' :: ((padded 2 t.date.day).toList ++ 'T' :: ((padded 2 t.time.hour).toList ++
      ':' :: ((padded 2 t.time.minute).toList ++ ':' :: ((padded 2 (t.time.second + leap)).toList ++
      ((fractionText (t.time.nano - leap * 1000000000)).toList ++ ['Z'])))))) := by
  have hdash : "-".toList = ['-'] := rfl
  have hcolon : ":".toList = [':'] := rfl
  have hmiddle : "T".toList = ['T'] := rfl
  have hend : "Z".toList = ['Z'] := rfl
  simp only [text, middleText, hleap, String.toList_append, hdash, hcolon, hmiddle, hend,
    List.append_assoc, List.cons_append, List.nil_append]

/-- The fraction begins with a point, or there is none and the `Z` comes next. -/
theorem exists_fraction (nano : Nat) :
    ∃ c rest, (fractionText nano).toList ++ ['Z'] = c :: rest ∧ Text.digit? c = none := by
  have hdot : ∀ s : String, ("." ++ s).toList ++ ['Z'] = '.' :: (s.toList ++ ['Z']) := by
    intro s
    have hone : ".".toList = ['.'] := rfl
    rw [String.toList_append, hone, List.cons_append, List.nil_append, List.cons_append]
  rw [fractionText]
  split
  · exact ⟨'Z', [], rfl, by decide⟩
  · split
    · exact ⟨'.', _, hdot _, by decide⟩
    · split
      · exact ⟨'.', _, hdot _, by decide⟩
      · exact ⟨'.', _, hdot _, by decide⟩

/-- A second that is read as the sixtieth is a leap second again. -/
theorem time_of_leap {t : TimeOfDay} (h : t.IsValid) {leap : Nat} (hleap : t.leap = leap) :
    t.nano - leap * 1000000000 < 1000000000 ∧ t.second + leap ≤ 60 ∧
      (if t.second + leap = 60 then
        (⟨t.hour, t.minute, 59, 1000000000 + (t.nano - leap * 1000000000)⟩ : TimeOfDay)
      else ⟨t.hour, t.minute, t.second + leap, t.nano - leap * 1000000000⟩) = t := by
  obtain ⟨hour, minute, second, nano⟩ := t
  obtain ⟨-, -, hsecond, hnano⟩ := h
  dsimp only [TimeOfDay.leap] at hsecond hnano hleap ⊢
  split at hleap
  · next hle =>
    subst hleap
    obtain rfl : second = 59 := by omega
    have hvalue : 1000000000 + (nano - 1 * 1000000000) = nano := by omega
    exact ⟨by omega, Nat.le_refl 60, by rw [if_pos rfl, hvalue]⟩
  · next hlt =>
    subst hleap
    have hne : ¬ second + 0 = 60 := by omega
    have hvalue : nano - 0 * 1000000000 = nano := by omega
    exact ⟨by omega, by omega, by rw [if_neg hne, hvalue, Nat.add_zero]⟩

/-- An instant of the calendar is read back from its text. -/
theorem IsValid.parse_text {t : Instant} (h : t.IsValid) : parse t.text = .ok t := by
  obtain ⟨hdate, htime⟩ := h
  have hutc : removeOffset ⟨t.date, t.time⟩ 0 = some t := removeOffset_zero htime
  obtain ⟨leap, hleap⟩ : ∃ leap, t.time.leap = leap := ⟨_, rfl⟩
  obtain ⟨hnano, hsixty, hclock⟩ := time_of_leap htime hleap
  have htext := toList_text t leap hleap
  have hread := fraction_fractionText hnano
  obtain ⟨c, rest, hfraction, hc⟩ := exists_fraction (t.time.nano - leap * 1000000000)
  rw [hfraction] at htext hread
  obtain ⟨hhours, hminutes, -, -⟩ := htime
  obtain ⟨hone, htwelve⟩ := hdate.month
  have hlast := Nat.le_trans hdate.day.2 (Date.daysInMonth_bounds _ _).2
  have hyear := year_yearText hdate.leastYear hdate.greatestYear
  have hmonth := field_padded (c := '-') hone htwelve (by omega) (by decide)
  have hday := field_padded (c := 'T') hdate.day.1 hlast (by omega) (by decide)
  have hmiddle : ∀ rest, middle ('T' :: rest) = .ok ((), rest) := fun _ => rfl
  have hhour := field_padded (c := ':') (Nat.zero_le _) (Nat.le_of_lt_succ hhours) (by omega)
    (by decide)
  have hminute := field_padded (c := ':') (Nat.zero_le _) (Nat.le_of_lt_succ hminutes) (by omega)
    (by decide)
  have hsecond := field_padded (c := c) (Nat.zero_le _) hsixty (by omega) hc
  have hoffset : offset ['Z'] = .ok (0, []) := rfl
  have hend : (Text.trimStart []).isEmpty = true := rfl
  have hwithin : Int.natAbs 0 < 1440 := by decide
  simp only [parse, htext, bind, Except.bind, hyear, separator_cons '-' (by decide),
    separator_cons ':' (by decide), hmonth, hday, hmiddle, hhour, hminute, hsecond,
    hread, hoffset, hend, hdate.of?_eq, hclock, hwithin, hutc, if_true]
  rfl

/-! ## What is read -/

theorem bounds_of_field {least greatest n : Nat} {cs rest : List Char}
    (h : field least greatest cs = .ok (n, rest)) : least ≤ n ∧ n ≤ greatest := by
  obtain ⟨⟨m, rest'⟩, -, h⟩ := exists_of_bind h
  dsimp only at h
  split at h
  · next hbounds =>
    rw [Bool.and_eq_true, decide_eq_true_eq, decide_eq_true_eq] at hbounds
    obtain ⟨rfl, -⟩ := Prod.mk.inj (Except.ok.inj h)
    exact hbounds
  · cases h

/-- So many digits more make a number so many places greater. -/
theorem lt_of_moreDigits {n most m : Nat} {cs rest : List Char}
    (h : moreDigits n most cs = .ok (m, rest)) :
    ∃ k ≤ most, cs.length = rest.length + k ∧ m < (n + 1) * Nat.pow 10 k := by
  have hnone : ∀ n, n < (n + 1) * Nat.pow 10 0 := by
    intro n
    show n < (n + 1) * 1
    omega
  induction most generalizing n cs with
  | zero =>
    obtain ⟨rfl, rfl⟩ := Prod.mk.inj (Except.ok.inj h)
    exact ⟨0, Nat.le_refl 0, rfl, hnone n⟩
  | succ most ih =>
    cases cs with
    | nil =>
      obtain ⟨rfl, rfl⟩ := Prod.mk.inj (Except.ok.inj h)
      exact ⟨0, Nat.zero_le _, rfl, hnone n⟩
    | cons c cs =>
      rw [moreDigits] at h
      split at h
      · obtain ⟨rfl, rfl⟩ := Prod.mk.inj (Except.ok.inj h)
        exact ⟨0, Nat.zero_le _, rfl, hnone n⟩
      · next d hd =>
        have hten := Text.lt_of_digit? hd
        split at h
        · cases h
        · obtain ⟨k, hk, hlen, hlt⟩ := ih h
          refine ⟨k + 1, Nat.succ_le_succ hk, by rw [List.length_cons, hlen]; omega, ?_⟩
          calc m < (n * 10 + d + 1) * Nat.pow 10 k := hlt
            _ ≤ (n + 1) * 10 * Nat.pow 10 k := Nat.mul_le_mul_right _ (by omega)
            _ = (n + 1) * (Nat.pow 10 k * 10) := by ac_rfl

theorem moreDigits_of_number {most n : Nat} {cs rest : List Char}
    (h : number most cs = .ok (n, rest)) : moreDigits 0 most cs = .ok (n, rest) := by
  unfold number at h
  split at h
  · cases h
  · split at h
    · exact h
    · cases h

theorem lt_of_fraction {cs rest : List Char} {nano : Nat} (h : fraction cs = .ok (nano, rest)) :
    nano < 1000000000 := by
  unfold fraction at h
  split at h
  · next cs =>
    obtain ⟨⟨n, after⟩, hnumber, h⟩ := exists_of_bind h
    obtain ⟨rfl, -⟩ := Prod.mk.inj (Except.ok.inj h)
    obtain ⟨k, hk, hlen, hlt⟩ := lt_of_moreDigits (moreDigits_of_number hnumber)
    have hplaces : cs.length - after.length = k := by omega
    rw [Nat.zero_add, Nat.one_mul] at hlt
    rw [hplaces]
    calc n * Nat.pow 10 (9 - k) < Nat.pow 10 k * Nat.pow 10 (9 - k) :=
          Nat.mul_lt_mul_of_pos_right hlt (Nat.pow_pos (by decide))
      _ = Nat.pow 10 (k + (9 - k)) := (Nat.pow_add 10 k (9 - k)).symm
      _ = Nat.pow 10 9 := by rw [Nat.add_sub_cancel' hk]
  · obtain ⟨rfl, -⟩ := Prod.mk.inj (Except.ok.inj h)
    decide

/-- The removal of an offset stays in the calendar. -/
theorem isValid_removeOffset {wall t : Instant} (h : wall.IsValid) {minutes : Int}
    (ht : removeOffset wall minutes = some t) : t.IsValid := by
  obtain ⟨hdate, htime⟩ := h
  unfold removeOffset at ht
  obtain ⟨date, hmoved, rfl⟩ := Option.map_eq_some_iff.mp ht
  have hday : date.IsValid := by
    split at hmoved
    · exact hdate.previous? hmoved
    · split at hmoved
      · exact Option.some.inj hmoved ▸ hdate
      · exact hdate.next? hmoved
  exact ⟨hday, ⟨by dsimp only; omega, by dsimp only; omega, htime.second, htime.nano⟩⟩

/-- The sixtieth second is a leap second. -/
theorem isValid_clock {hour minute second nano : Nat} (hhour : hour ≤ 23) (hminute : minute ≤ 59)
    (hsecond : second ≤ 60) (hnano : nano < 1000000000) :
    (if second = 60 then (⟨hour, minute, 59, 1000000000 + nano⟩ : TimeOfDay)
      else ⟨hour, minute, second, nano⟩).IsValid := by
  split
  · exact ⟨Nat.lt_succ_of_le hhour, Nat.lt_succ_of_le hminute, by dsimp only; omega,
      .inr ⟨rfl, by dsimp only; omega⟩⟩
  · exact ⟨Nat.lt_succ_of_le hhour, Nat.lt_succ_of_le hminute, by dsimp only; omega, .inl hnano⟩

/-- What is read is an instant of the calendar. -/
theorem isValid_of_parse {s : String} {t : Instant} (h : parse s = .ok t) : t.IsValid := by
  unfold parse at h
  obtain ⟨⟨_, _⟩, -, h⟩ := exists_of_bind h
  obtain ⟨⟨_, _⟩, -, h⟩ := exists_of_bind h
  obtain ⟨⟨_, _⟩, -, h⟩ := exists_of_bind h
  obtain ⟨⟨_, _⟩, -, h⟩ := exists_of_bind h
  obtain ⟨⟨_, _⟩, -, h⟩ := exists_of_bind h
  obtain ⟨⟨_, _⟩, -, h⟩ := exists_of_bind h
  obtain ⟨⟨hour, _⟩, hhour, h⟩ := exists_of_bind h
  obtain ⟨⟨_, _⟩, -, h⟩ := exists_of_bind h
  obtain ⟨⟨minute, _⟩, hminute, h⟩ := exists_of_bind h
  obtain ⟨⟨_, _⟩, -, h⟩ := exists_of_bind h
  obtain ⟨⟨second, _⟩, hsecond, h⟩ := exists_of_bind h
  obtain ⟨⟨nano, _⟩, hnano, h⟩ := exists_of_bind h
  obtain ⟨⟨minutes, _⟩, -, h⟩ := exists_of_bind h
  have hclock := isValid_clock (bounds_of_field hhour).2 (bounds_of_field hminute).2
    (bounds_of_field hsecond).2 (lt_of_fraction hnano)
  dsimp only at h
  split at h
  · split at h
    · next date hdate =>
      split at h
      · split at h
        · next t' ht' =>
          obtain rfl := Except.ok.inj h
          exact isValid_removeOffset ⟨Date.isValid_of_of? hdate, hclock⟩ ht'
        · cases h
      · cases h
    · cases h
  · cases h

end Instant

end LogOrigin
