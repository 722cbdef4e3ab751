import Courier.Proofs.Time.Calendar
import Courier.Time.Rfc3339

namespace Courier

/-! Reading back the RFC 3339 text of an instant. Each field that the text
writes is read back by the step of the reader that meets it, with the rest of
the text untouched; chained, the reader returns the fields, and the instant
they name is the one written. The other way round, every instant read from a
text is a date and time value (`Instant.parse_valid`). -/

theorem bind_of_ok {ε α β : Type} {x : Except ε α} {a : α} (h : x = .ok a) (f : α → Except ε β) :
    x >>= f = f a := by
  subst h
  rfl

theorem bind_eq_ok_iff {ε α β : Type} {x : Except ε α} {f : α → Except ε β} {b : β} :
    x >>= f = .ok b ↔ ∃ a, x = .ok a ∧ f a = .ok b := by
  cases x with
  | error e =>
    constructor
    · intro ran
      cases ran
    · rintro ⟨_, given, _⟩
      cases given
  | ok a =>
    constructor
    · exact fun ran => ⟨a, rfl, ran⟩
    · rintro ⟨_, given, rest⟩
      cases given
      exact rest

namespace Rfc3339

theorem foldl_digits (ds : List Char) (start : Nat) :
    ds.foldl (fun n d => n * 10 + (d.toNat - 48)) start = Nat.ofDigitChars 10 ds start := by
  induction ds generalizing start with
  | nil => rfl
  | cons d rest induction =>
    rw [List.foldl_cons, induction, Nat.ofDigitChars_cons, Nat.mul_comm]
    rfl

theorem takeWhile_of_stop {rest : List Char} (stop : ∀ c ∈ rest.head?, c.isDigit = false) (k : Nat) :
    (rest.take k).takeWhile Char.isDigit = [] := by
  cases rest with
  | nil => simp
  | cons c more =>
    cases k with
    | zero => simp
    | succ k => simp [stop c rfl]

/-- Digits, then something that is no digit, are read as the number they write. -/
theorem number_digits {ds rest : List Char} {max : Nat} (digits : ∀ c ∈ ds, c.isDigit = true)
    (nonempty : ds ≠ []) (fits : ds.length ≤ max) (stop : ∀ c ∈ rest.head?, c.isDigit = false)
    (small : Nat.ofDigitChars 10 ds 0 < 2 ^ 63) :
    number (ds ++ rest) max = .ok (Nat.ofDigitChars 10 ds 0, rest) := by
  have taken : ((ds ++ rest).take max).takeWhile Char.isDigit = ds := by
    rw [List.take_append, List.take_of_length_le fits, List.takeWhile_append_of_pos digits,
      takeWhile_of_stop stop, List.append_nil]
  obtain ⟨c, cs, rfl⟩ := List.exists_cons_of_ne_nil nonempty
  rw [List.cons_append, number, if_neg (by simp [digits c List.mem_cons_self]), ← List.cons_append,
    taken]
  dsimp only
  rw [foldl_digits, if_neg (Nat.not_le.mpr small), List.drop_left]

theorem isBlankChar_of_isDigit {c : Char} (digit : c.isDigit = true) : isBlankChar c = false := by
  have bounds := Char.isDigit_iff_toNat.1 digit
  have low : '0'.toNat = 48 := rfl
  have high : '9'.toNat = 57 := rfl
  simp only [isBlankChar, blankRanges, List.any_cons, List.any_nil, Bool.or_false, Bool.or_eq_false_iff,
    Bool.and_eq_false_iff, decide_eq_false_iff_not, Nat.not_le]
  omega

theorem skipBlank_cons {c : Char} {rest : List Char} (solid : isBlankChar c = false) :
    skipBlank (c :: rest) = c :: rest := by
  simp [skipBlank, solid]

/-- A year of up to four digits, with no sign before it. -/
theorem year_unsigned {c : Char} {cs rest : List Char} {v : Nat} (digit : c.isDigit = true)
    (read : number (c :: cs) 4 = .ok (v, rest)) (fits : yearFits v = true) :
    year (c :: cs) = .ok (v, rest) := by
  simp only [year, skipBlank_cons (isBlankChar_of_isDigit digit)]
  split
  · rename_i minus
    cases minus
    exact absurd digit (by decide)
  · rename_i plus
    cases plus
    exact absurd digit (by decide)
  · rw [bind_of_ok read]
    simp only [pure_bind, fits, Bool.not_true, Bool.false_eq_true, ↓reduceIte]
    rfl

theorem year_minus {s rest : List Char} {v : Nat} (read : number s 1000000 = .ok (v, rest))
    (fits : yearFits (-(v : Int)) = true) : year ('-' :: s) = .ok (-(v : Int), rest) := by
  simp only [year, skipBlank_cons (by decide : isBlankChar '-' = false)]
  rw [bind_of_ok read]
  simp only [pure_bind, fits, Bool.not_true, Bool.false_eq_true, ↓reduceIte]
  rfl

theorem year_plus {s rest : List Char} {v : Nat} (read : number s 1000000 = .ok (v, rest))
    (fits : yearFits v = true) : year ('+' :: s) = .ok (v, rest) := by
  simp only [year, skipBlank_cons (by decide : isBlankChar '+' = false)]
  rw [bind_of_ok read]
  simp only [pure_bind, fits, Bool.not_true, Bool.false_eq_true, ↓reduceIte]
  rfl

end Rfc3339

namespace Instant

open Rfc3339

theorem padTo_toList (w n : Nat) :
    (padTo w n).toList = List.replicate (w - (Nat.toDigits 10 n).length) '0' ++ Nat.toDigits 10 n := by
  simp [padTo, digitString]

theorem isDigit_padTo {w n : Nat} : ∀ c ∈ (padTo w n).toList, c.isDigit = true := by
  intro c member
  rw [padTo_toList, List.mem_append, List.mem_replicate] at member
  rcases member with ⟨-, rfl⟩ | digit
  · rfl
  · exact Nat.isDigit_of_mem_toDigits (by decide) (by decide) digit

theorem ofDigitChars_padTo (w n : Nat) : Nat.ofDigitChars 10 (padTo w n).toList 0 = n := by
  rw [padTo_toList, Nat.ofDigitChars_append, Nat.ofDigitChars_replicate_zero, Nat.mul_zero,
    Nat.ofDigitChars_ten_toDigits]

theorem padTo_ne_nil (w n : Nat) : (padTo w n).toList ≠ [] := by
  rw [padTo_toList]
  simp

theorem length_padTo {w n : Nat} (small : n < 10 ^ w) (wide : 0 < w) : (padTo w n).toList.length = w := by
  have := (Nat.length_toDigits_le_iff (by decide) wide).2 small
  rw [padTo_toList, List.length_append, List.length_replicate]
  omega

theorem length_padTo_le {w n k : Nat} (small : n < 10 ^ k) (wide : w ≤ k) (positive : 0 < k) :
    (padTo w n).toList.length ≤ k := by
  have := (Nat.length_toDigits_le_iff (by decide) positive).2 small
  rw [padTo_toList, List.length_append, List.length_replicate]
  omega

theorem pad2_eq (n : Nat) : pad2 n = padTo 2 n := by
  have long := Nat.length_toDigits_pos (b := 10) (n := n)
  unfold pad2 padTo
  simp only [digitString, String.length_ofList]
  split
  · rename_i short
    have one : 2 - (Nat.toDigits 10 n).length = 1 := by omega
    rw [one]
    rfl
  · rename_i wide
    rw [show 2 - (Nat.toDigits 10 n).length = 0 by omega]
    simp

/-- A padded number, then something that is no digit, is read as the number. -/
theorem number_padTo {w n max : Nat} {rest : List Char} (fits : (padTo w n).toList.length ≤ max)
    (stop : ∀ c ∈ rest.head?, c.isDigit = false) (small : n < 2 ^ 63) :
    number ((padTo w n).toList ++ rest) max = .ok (n, rest) := by
  have read := number_digits isDigit_padTo (padTo_ne_nil w n) fits stop
    (by rw [ofDigitChars_padTo]; exact small)
  rwa [ofDigitChars_padTo] at read

theorem skipBlank_padTo (w n : Nat) (rest : List Char) :
    skipBlank ((padTo w n).toList ++ rest) = (padTo w n).toList ++ rest := by
  obtain ⟨c, cs, split⟩ := List.exists_cons_of_ne_nil (padTo_ne_nil w n)
  have digit := isDigit_padTo c (by rw [split]; exact List.mem_cons_self)
  rw [split, List.cons_append, skipBlank_cons (isBlankChar_of_isDigit digit)]

/-- A two-digit field in its range is read as its number. -/
theorem field_pad2 {low high n : Nat} {rest : List Char} (inRange : low ≤ n ∧ n ≤ high) (small : n < 100)
    (stop : ∀ c ∈ rest.head?, c.isDigit = false) :
    field low high ((pad2 n).toList ++ rest) = .ok (n, rest) := by
  rw [pad2_eq, field, skipBlank_padTo,
    bind_of_ok (number_padTo (by rw [length_padTo small (by decide)]) stop (by omega))]
  dsimp only
  rw [if_neg (by omega)]
  rfl

/-- The year of a date in range is read back from its text. -/
theorem year_yearText {y : Int} (fits : minYear ≤ y ∧ y ≤ maxYear) {rest : List Char}
    (stop : ∀ c ∈ rest.head?, c.isDigit = false) :
    year ((yearText y).toList ++ rest) = .ok (y, rest) := by
  have bounds : -262143 ≤ y ∧ y ≤ 262142 := fits
  have word : yearFits y = true := by
    simp only [yearFits, Bool.and_eq_true, decide_eq_true_eq]
    omega
  unfold yearText
  split
  · rename_i plain
    obtain ⟨c, cs, split⟩ := List.exists_cons_of_ne_nil (padTo_ne_nil 4 y.toNat)
    have digit := isDigit_padTo c (by rw [split]; exact List.mem_cons_self)
    have read := number_padTo (length_padTo_le (by omega) (Nat.le_refl 4) (by decide)) stop
      (by omega : y.toNat < 2 ^ 63)
    have cast : ((y.toNat : Nat) : Int) = y := Int.toNat_of_nonneg plain.1
    rw [split, List.cons_append] at read ⊢
    rw [year_unsigned digit read (by rw [cast]; exact word), cast]
  · rename_i signed
    -- a signed year may have any number of digits; the range allows six
    have long : (padTo 4 y.natAbs).toList.length ≤ 1000000 :=
      Nat.le_trans (length_padTo_le (by omega) (by decide : 4 ≤ 6) (by decide)) (by decide)
    have read := number_padTo long stop (by omega : y.natAbs < 2 ^ 63)
    split
    · rename_i negative
      have back : -((y.natAbs : Nat) : Int) = y := by omega
      rw [show ("-" ++ padTo 4 y.natAbs).toList ++ rest = '-' :: ((padTo 4 y.natAbs).toList ++ rest) by simp,
        year_minus read (by rw [back]; exact word), back]
    · rename_i positive
      have back : ((y.natAbs : Nat) : Int) = y := by omega
      rw [show ("+" ++ padTo 4 y.natAbs).toList ++ rest = '+' :: ((padTo 4 y.natAbs).toList ++ rest) by simp,
        year_plus read (by rw [back]; exact word), back]

theorem stop_cons {c : Char} {rest : List Char} (other : c.isDigit = false) :
    ∀ d ∈ (c :: rest).head?, d.isDigit = false := by
  intro d member
  cases member
  exact other

/-- The digits of a fraction, then the zone letter, are read as nanoseconds. -/
theorem fraction_padTo {k v : Nat} (small : v < 10 ^ k) (wide : 0 < k) (short : k ≤ 9) :
    fraction ((padTo k v).toList ++ ['Z']) = .ok (v * 10 ^ (9 - k), ['Z']) := by
  have length := length_padTo small wide
  have within : 10 ^ k ≤ 10 ^ 9 := Nat.pow_le_pow_right (by decide) short
  have used : ((padTo k v).toList ++ ['Z']).length - ['Z'].length = k := by
    rw [List.length_append, length, List.length_singleton, Nat.add_sub_cancel]
  rw [fraction, bind_of_ok (number_padTo (by omega) (stop_cons rfl) (by omega))]
  dsimp only
  rw [used]
  rfl

/-- The fraction text of nanoseconds below a second: nothing for none, else a point and digits
that are read as the nanoseconds. -/
theorem fractionText_read {ns : Nat} (small : ns < 10 ^ 9) (part : ns ≠ 0) :
    ∃ digits, (fractionText ns).toList = '.' :: digits ∧ fraction (digits ++ ['Z']) = .ok (ns, ['Z']) := by
  unfold fractionText
  rw [if_neg part]
  split
  · rename_i millis
    refine ⟨(padTo 3 (ns / 1000000)).toList, by simp, ?_⟩
    rw [fraction_padTo (by omega) (by decide) (by decide)]
    congr
    omega
  · split
    · rename_i _ micros
      refine ⟨(padTo 6 (ns / 1000)).toList, by simp, ?_⟩
      rw [fraction_padTo (by omega) (by decide) (by decide)]
      congr
      omega
    · refine ⟨(padTo 9 ns).toList, by simp, ?_⟩
      rw [fraction_padTo small (by decide) (by decide), Nat.sub_self, Nat.pow_zero, Nat.mul_one]

@[simp] theorem fractionText_zero : (fractionText 0).toList = [] := rfl

theorem stop_fractionText (ns : Nat) : ∀ c ∈ ((fractionText ns).toList ++ ['Z']).head?, c.isDigit = false := by
  by_cases whole : ns = 0
  · intro c member
    rw [whole, fractionText_zero, List.nil_append, List.head?_cons, Option.mem_some_iff] at member
    subst member
    rfl
  · intro c member
    unfold fractionText at member
    rw [if_neg whole] at member
    split at member <;> (try split at member) <;> simp at member <;> (subst member; rfl)

theorem offset_zone : offset ['Z'] = .ok (0, []) := rfl

theorem literal_skipBlank {c : Char} {rest : List Char} (solid : isBlankChar c = false) :
    literal c (skipBlank (c :: rest)) = .ok ((), rest) := by
  simp [skipBlank_cons solid, literal]

/-- The fields of a date and time text in the form the instants are written in, with
in-range values, are read back. -/
theorem fields_text {y : Int} {mo dd h mi sec ns : Nat} (yr : minYear ≤ y ∧ y ≤ maxYear)
    (month : 1 ≤ mo ∧ mo ≤ 12) (day : 1 ≤ dd ∧ dd ≤ 31) (hour : h ≤ 23) (minute : mi ≤ 59)
    (second : sec ≤ 60) (nanos : ns < 10 ^ 9) :
    fields (yearText y ++ "-" ++ pad2 mo ++ "-" ++ pad2 dd ++ "T" ++ pad2 h ++ ":" ++ pad2 mi ++ ":" ++
      pad2 sec ++ fractionText ns ++ "Z").toList = .ok ⟨y, mo, dd, h, mi, sec, ns, 0⟩ := by
  have text : (yearText y ++ "-" ++ pad2 mo ++ "-" ++ pad2 dd ++ "T" ++ pad2 h ++ ":" ++ pad2 mi ++ ":" ++
      pad2 sec ++ fractionText ns ++ "Z").toList = (yearText y).toList ++ '-' :: ((pad2 mo).toList ++
      '-' :: ((pad2 dd).toList ++ 'T' :: ((pad2 h).toList ++ ':' :: ((pad2 mi).toList ++
      ':' :: ((pad2 sec).toList ++ ((fractionText ns).toList ++ ['Z'])))))) := by
    simp
  rw [text, fields, bind_of_ok (year_yearText yr (stop_cons (by decide)))]
  dsimp only
  rw [bind_of_ok (literal_skipBlank (by decide))]
  dsimp only
  rw [bind_of_ok (field_pad2 month (by omega) (stop_cons (by decide)))]
  dsimp only
  rw [bind_of_ok (literal_skipBlank (by decide))]
  dsimp only
  rw [bind_of_ok (field_pad2 day (by omega) (stop_cons (by decide)))]
  -- the separator: matching on character literals needs simp, not dsimp
  simp only []
  rw [pure_bind, bind_of_ok (field_pad2 ⟨Nat.zero_le h, hour⟩ (by omega) (stop_cons (by decide)))]
  dsimp only
  rw [bind_of_ok (literal_skipBlank (by decide))]
  dsimp only
  rw [bind_of_ok (field_pad2 ⟨Nat.zero_le mi, minute⟩ (by omega) (stop_cons (by decide)))]
  dsimp only
  rw [bind_of_ok (literal_skipBlank (by decide))]
  dsimp only
  rw [bind_of_ok (field_pad2 ⟨Nat.zero_le sec, second⟩ (by omega) (stop_fractionText ns))]
  dsimp only
  by_cases whole : ns = 0
  · subst whole
    simp only [fractionText_zero, List.nil_append]
    rw [pure_bind, bind_of_ok offset_zone]
    rfl
  · obtain ⟨digits, point, read⟩ := fractionText_read nanos whole
    rw [point, List.cons_append]
    simp only []
    rw [bind_of_ok read]
    dsimp only
    rw [bind_of_ok offset_zone]
    rfl

/-- An instant as a date and time value holds it: a day of the calendar's range, a
second of that day, and nanoseconds below two seconds, past one second only in the
last second of a minute, where they stand for a leap second. -/
structure Valid (t : Instant) : Prop where
  date : t.date.isValid = true
  second : t.second < 86400
  nanos : t.nanos < 2000000000
  leap : 1000000000 ≤ t.nanos → t.second % 60 = 59

theorem toDays_date (t : Instant) : t.date.toDays = t.days := CivilDate.toDays_ofDays t.days

/-- An instant is the second of its day and nanoseconds after the count of its seconds. -/
theorem ofUnix_unixSeconds {t : Instant} (second : t.second < 86400) : ofUnix t.unixSeconds t.nanos = t := by
  have day : Int.fdiv (t.days * 86400 + t.second) 86400 = t.days := by
    rw [Int.fdiv_eq_ediv_of_nonneg _ (by decide)]
    omega
  have within : Int.fmod (t.days * 86400 + t.second) 86400 = t.second := by
    rw [Int.fmod_eq_emod_of_nonneg _ (by decide)]
    omega
  rw [ofUnix, unixSeconds, day, within, Int.toNat_natCast]

theorem ofUnix_of_seconds {t : Instant} (second : t.second < 86400) {seconds : Int}
    (same : seconds = t.unixSeconds) : ofUnix seconds t.nanos = t := by
  rw [same]
  exact ofUnix_unixSeconds second

theorem parse_render {t : Instant} (valid : t.Valid) : Instant.parse t.render = .ok t := by
  obtain ⟨yr, month, day⟩ := CivilDate.isValid_ranges valid.date
  have leapSecond := valid.leap
  have secondBound := valid.second
  have nanosBound := valid.nanos
  have read := fields_text yr month day (by omega : t.second / 3600 ≤ 23) (by omega : t.second / 60 % 60 ≤ 59)
    (by split <;> omega : t.second % 60 + (if 1000000000 ≤ t.nanos then 1 else 0) ≤ 60)
    (by split <;> omega : (if 1000000000 ≤ t.nanos then t.nanos - 1000000000 else t.nanos) < 10 ^ 9)
  rw [Instant.parse, render]
  rw [bind_of_ok read]
  dsimp only
  have same : CivilDate.mk t.date.year t.date.month t.date.day = t.date := rfl
  simp only [same, valid.date, toDays_date, Bool.not_true, Bool.false_eq_true, if_false, Int.natAbs_zero,
    Nat.not_le.mpr (by decide : 0 < 86400)]
  -- a leap second is written as second 60 and read back as second 59 with one more second of nanoseconds
  by_cases leap : 1000000000 ≤ t.nanos
  · have sixty : t.second % 60 + 1 = 60 := by omega
    have back : t.nanos - 1000000000 + 1000000000 = t.nanos := by omega
    simp only [leap, if_true, sixty, back]
    rw [ofUnix_of_seconds valid.second (by simp only [unixSeconds]; omega)]
    simp only [valid.date, Bool.not_true, Bool.false_eq_true, if_false]
    rfl
  · have short : t.second % 60 + 0 ≠ 60 := by omega
    simp only [leap, if_false, short]
    rw [ofUnix_of_seconds valid.second (by simp only [unixSeconds]; omega)]
    simp only [valid.date, Bool.not_true, Bool.false_eq_true, if_false]
    rfl

end Instant

/-! ### What reading gives

Reading refuses every text that names no date and time value: the seconds it reads are
at most sixty, its nanoseconds fewer than a second, its offsets whole minutes, so a
leap second stays in the last second of a minute. -/

namespace Rfc3339

/-- Digits after a start value stay below the start value plus one, shifted by the digits. -/
theorem foldl_digits_lt : ∀ (ds : List Char) (start : Nat), (∀ c ∈ ds, c.isDigit = true) →
    ds.foldl (fun n d => n * 10 + (d.toNat - 48)) start < (start + 1) * 10 ^ ds.length
  | [], _, _ => by simp
  | d :: rest, start, digits => by
    have bounds := Char.isDigit_iff_toNat.1 (digits d List.mem_cons_self)
    have high : '9'.toNat = 57 := rfl
    have below := foldl_digits_lt rest (start * 10 + (d.toNat - 48))
      fun c member => digits c (List.mem_cons_of_mem _ member)
    rw [List.foldl_cons, List.length_cons, Nat.pow_succ]
    calc _ < (start * 10 + (d.toNat - 48) + 1) * 10 ^ rest.length := below
      _ ≤ (start + 1) * 10 * 10 ^ rest.length := Nat.mul_le_mul_right _ (by omega)
      _ = (start + 1) * (10 ^ rest.length * 10) := by rw [Nat.mul_assoc, Nat.mul_comm 10]

/-- A number is read from as many digits as the text grows shorter by, at most `max`,
and is below ten to their count. -/
theorem number_lt {s rest : List Char} {max v : Nat} (read : number s max = .ok (v, rest)) :
    s.length - rest.length ≤ max ∧ v < 10 ^ (s.length - rest.length) := by
  unfold number at read
  split at read
  · cases read
  split at read
  · cases read
  dsimp only at read
  split at read
  · cases read
  cases read
  rename_i c tail _ _
  generalize c :: tail = text at *
  have digits : ∀ d ∈ (text.take max).takeWhile Char.isDigit, d.isDigit = true :=
    List.all_eq_true.1 List.all_takeWhile
  have short : ((text.take max).takeWhile Char.isDigit).length ≤ max :=
    (List.takeWhile_prefix Char.isDigit).length_le.trans (List.length_take_le _ _)
  have within : ((text.take max).takeWhile Char.isDigit).length ≤ text.length :=
    ((List.takeWhile_prefix Char.isDigit).trans (List.take_prefix max text)).length_le
  generalize (text.take max).takeWhile Char.isDigit = read at *
  rw [List.length_drop, show text.length - (text.length - read.length) = read.length by omega]
  exact ⟨short, by simpa using foldl_digits_lt read 0 digits⟩

/-- A fraction of a second is read as nanoseconds, below one second. -/
theorem fraction_lt {s rest : List Char} {nanos : Nat} (read : fraction s = .ok (nanos, rest)) :
    nanos < 10 ^ 9 := by
  unfold fraction at read
  obtain ⟨⟨v, after⟩, digits, read⟩ := bind_eq_ok_iff.1 read
  cases read
  obtain ⟨count, below⟩ := number_lt digits
  calc v * 10 ^ (9 - (s.length - after.length))
      < 10 ^ (s.length - after.length) * 10 ^ (9 - (s.length - after.length)) :=
        Nat.mul_lt_mul_of_pos_right below (Nat.pow_pos (by decide))
    _ = 10 ^ 9 := by rw [← Nat.pow_add, Nat.add_sub_cancel' count]

theorem field_le {low high v : Nat} {s rest : List Char} (read : field low high s = .ok (v, rest)) : v ≤ high := by
  unfold field at read
  obtain ⟨⟨w, after⟩, -, read⟩ := bind_eq_ok_iff.1 read
  dsimp only at read
  split at read
  · cases read
  · cases read
    omega

theorem offset_minutes {s rest : List Char} {o : Int} (read : offset s = .ok (o, rest)) : o % 60 = 0 := by
  unfold offset at read
  dsimp only at read
  split at read
  · cases read
    rfl
  split at read
  case h_4 | h_5 =>
    cases read
    rfl
  case h_6 | h_7 =>
    obtain ⟨_, thrown, -⟩ := bind_eq_ok_iff.1 read
    cases thrown
  -- after a sign come two digits of hours and two of minutes, whatever the sign
  all_goals
    obtain ⟨⟨negative, afterSign⟩, -, read⟩ := bind_eq_ok_iff.1 read
    obtain ⟨⟨h₁, h₂⟩, -, read⟩ := bind_eq_ok_iff.1 read
    split at read
    · obtain ⟨_, thrown, -⟩ := bind_eq_ok_iff.1 read
      cases thrown
    split at read
    · split at read
      · obtain ⟨minutes, given, read⟩ := bind_eq_ok_iff.1 read
        cases given
        cases read
        split <;> omega
      · split at read <;> (obtain ⟨_, thrown, -⟩ := bind_eq_ok_iff.1 read; cases thrown)
    · obtain ⟨_, thrown, -⟩ := bind_eq_ok_iff.1 read
      cases thrown

/-- The fields of a date and time text have a second of at most sixty, nanoseconds below
one second and an offset of whole minutes. -/
theorem fields_bounds {s : List Char} {f : Fields} (read : fields s = .ok f) :
    f.second ≤ 60 ∧ f.nanos < 10 ^ 9 ∧ f.offset % 60 = 0 := by
  unfold fields at read
  obtain ⟨⟨year, s₁⟩, -, read⟩ := bind_eq_ok_iff.1 read
  obtain ⟨⟨⟨⟩, s₂⟩, -, read⟩ := bind_eq_ok_iff.1 read
  obtain ⟨⟨month, s₃⟩, -, read⟩ := bind_eq_ok_iff.1 read
  obtain ⟨⟨⟨⟩, s₄⟩, -, read⟩ := bind_eq_ok_iff.1 read
  obtain ⟨⟨day, s₅⟩, -, read⟩ := bind_eq_ok_iff.1 read
  dsimp only at read
  -- the separator: each of T, t and a blank goes on alike to the time
  split at read
  all_goals obtain ⟨s₆, separated, read⟩ := bind_eq_ok_iff.1 read
  all_goals cases separated
  all_goals
    obtain ⟨⟨hour, s₇⟩, -, read⟩ := bind_eq_ok_iff.1 read
    obtain ⟨⟨⟨⟩, s₈⟩, -, read⟩ := bind_eq_ok_iff.1 read
    obtain ⟨⟨minute, s₉⟩, -, read⟩ := bind_eq_ok_iff.1 read
    obtain ⟨⟨⟨⟩, s₁₀⟩, -, read⟩ := bind_eq_ok_iff.1 read
    obtain ⟨⟨second, s₁₁⟩, secondRead, read⟩ := bind_eq_ok_iff.1 read
    dsimp only at read
    -- a fraction, if a point follows the seconds
    split at read
    all_goals
      obtain ⟨⟨nanos, s₁₂⟩, nanosRead, read⟩ := bind_eq_ok_iff.1 read
      obtain ⟨⟨offsetSeconds, s₁₃⟩, offsetRead, read⟩ := bind_eq_ok_iff.1 read
      dsimp only at read
      split at read
      · obtain ⟨_, thrown, -⟩ := bind_eq_ok_iff.1 read
        cases thrown
      cases read
      refine ⟨field_le secondRead, ?_, offset_minutes offsetRead⟩
    · exact fraction_lt nanosRead
    · cases nanosRead
      exact (by decide : 0 < 10 ^ 9)

end Rfc3339

namespace Instant

/-- The second of the day of the instant some count of seconds after the epoch names. -/
theorem second_ofUnix (seconds : Int) (nanos : Nat) :
    ((Instant.ofUnix seconds nanos).second : Int) = seconds % 86400 := by
  rw [Instant.ofUnix, Int.fmod_eq_emod_of_nonneg _ (by decide)]
  exact Int.toNat_of_nonneg (Int.emod_nonneg _ (by decide))

/-- Every instant read from a date and time text is a date and time value: the
reader's own checks, a second of sixty read as a leap second, and an offset of whole
minutes that keeps the leap second in the last second of a minute. -/
theorem parse_valid {text : String} {t : Instant} (parsed : Instant.parse text = .ok t) : t.Valid := by
  unfold Instant.parse at parsed
  obtain ⟨f, read, parsed⟩ := bind_eq_ok_iff.1 parsed
  obtain ⟨secondBound, nanosBound, whole⟩ := Rfc3339.fields_bounds read
  dsimp only at parsed
  -- second sixty is read as second 59 with one more second of nanoseconds
  obtain ⟨⟨second, nanos⟩, leap⟩ : ∃ pair : Nat × Nat,
      (if f.second = 60 then (59, f.nanos + 1000000000) else (f.second, f.nanos)) = pair := ⟨_, rfl⟩
  have leapBounds : nanos < 2000000000 ∧ (1000000000 ≤ nanos → second = 59) := by
    split at leap <;> (cases leap; omega)
  simp only [leap] at parsed
  -- the checks of the date, of the offset and of the day reached, each refusing or going on
  split at parsed
  · obtain ⟨_, thrown, -⟩ := bind_eq_ok_iff.1 parsed
    cases thrown
  split at parsed
  · obtain ⟨_, thrown, -⟩ := bind_eq_ok_iff.1 parsed
    cases thrown
  split at parsed
  · obtain ⟨_, thrown, -⟩ := bind_eq_ok_iff.1 parsed
    cases thrown
  rename_i reached
  cases parsed
  have secondOfDay := second_ofUnix
    (CivilDate.toDays ⟨f.year, f.month, f.day⟩ * 86400 + f.hour * 3600 + f.minute * 60 + second - f.offset) nanos
  refine ⟨by simpa using reached, by omega, leapBounds.1, fun leaping => ?_⟩
  have := leapBounds.2 leaping
  subst this
  omega

end Instant

end Courier
