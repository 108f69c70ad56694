import Mathlib
import NodeCanvas.Time.Timestamp
/-!
# Times read back

The days of a cycle of 400 years are numbered from the first of March, so that a leap day is the last
day of its year. Finding the year of a day is the one step that is not plain arithmetic: within a
century it is (`CivilDate.yearOfCycle_bounds`), and a cycle has four of them and a day. From there on
a date is found again from its number, and the time that is written is the time that is read
(`Timestamp.parse?_text`).
-/

namespace NodeCanvas

/-! ## Dates -/

namespace CivilDate

/-- The year in a cycle that a day of the cycle belongs to. -/
def yearOfCycle (day : Int) : Int := (day - day / 1460 + day / 36524 - day / 146096) / 365

/-- The days of a cycle before the first of March of a year. -/
def daysBefore (year : Int) : Int := 365 * year + year / 4 - year / 100

/-- **A day lies in the year that is found for it.** The year ends with a leap day if the next one
by the calendar is a leap year. -/
theorem yearOfCycle_bounds {day year : Int} (hlow : 0 ≤ day) (hhigh : day ≤ 146096)
    (h : yearOfCycle day = year) :
    0 ≤ year ∧ year ≤ 399 ∧ daysBefore year ≤ day ∧
      day < daysBefore (year + 1) + (year + 1) / 400 := by
  unfold yearOfCycle at h
  unfold daysBefore
  -- The last day of the cycle is in a year of the fourth century, though it would begin a fifth.
  rcases eq_or_lt_of_le hhigh with rfl | hlast
  · omega
  · have hend : day / 146096 = 0 := by omega
    obtain ⟨century, hcentury⟩ : ∃ century, day / 36524 = century := ⟨_, rfl⟩
    have hfour : century = 0 ∨ century = 1 ∨ century = 2 ∨ century = 3 := by omega
    rw [hend, hcentury] at h
    have hyear : year / 100 = century := by
      rcases hfour with rfl | rfl | rfl | rfl <;> omega
    have hnext : (year + 1) / 100 = century ∧ (year + 1) / 400 = 0 ∨ year = 100 * century + 99 := by
      rcases hfour with rfl | rfl | rfl | rfl <;> omega
    have hquarter : year % 4 = 0 ∨ year % 4 = 1 ∨ year % 4 = 2 ∨ year % 4 = 3 := by omega
    rw [hyear]
    rcases hnext with ⟨hsame, hnot⟩ | rfl
    · rw [hsame, hnot]
      rcases hquarter with hquarter | hquarter | hquarter | hquarter <;>
        rcases hfour with rfl | rfl | rfl | rfl <;> omega
    · rcases hfour with rfl | rfl | rfl | rfl <;> omega

/-- No year has more than 366 days, and only a leap year has as many. -/
theorem daysBefore_succ {year : Int} (hlow : 0 ≤ year) (hhigh : year ≤ 399) :
    daysBefore (year + 1) + (year + 1) / 400 =
      daysBefore year + 365 + (if isLeap (year + 1) then 1 else 0) := by
  unfold daysBefore
  by_cases hleap : isLeap (year + 1) = true
  · rw [if_pos hleap]
    simp only [isLeap, Bool.and_eq_true, Bool.or_eq_true, beq_iff_eq, bne_iff_ne] at hleap
    omega
  · rw [if_neg hleap]
    simp only [isLeap, Bool.and_eq_true, Bool.or_eq_true, beq_iff_eq, bne_iff_ne, not_and_or,
      not_or, ne_eq, not_not] at hleap
    omega

/-- The parts of a date, by the number of its day: the cycle, the year in the cycle, the day of the
year and the month, all counted from March. -/
theorem exists_parts (days : Int) :
    ∃ cycle year day month : Int,
      days = cycle * 146097 + daysBefore year + day - 719468 ∧
      0 ≤ year ∧ year ≤ 399 ∧ 0 ≤ day ∧ day < 365 + (if isLeap (year + 1) then 1 else 0) ∧
      month = (5 * day + 2) / 153 ∧
      ofDays days = ⟨year + cycle * 400 + (if month < 10 then 0 else 1),
        (if month < 10 then month + 3 else month - 9).toNat,
        (day - (153 * month + 2) / 5 + 1).toNat⟩ := by
  obtain ⟨cycle, hcycle⟩ : ∃ cycle, (days + 719468) / 146097 = cycle := ⟨_, rfl⟩
  obtain ⟨dayOfCycle, hdayOfCycle⟩ : ∃ day, (days + 719468) % 146097 = day := ⟨_, rfl⟩
  obtain ⟨year, hyear⟩ : ∃ year, yearOfCycle dayOfCycle = year := ⟨_, rfl⟩
  obtain ⟨day, hday⟩ : ∃ day, dayOfCycle - daysBefore year = day := ⟨_, rfl⟩
  obtain ⟨month, hmonth⟩ : ∃ month, (5 * day + 2) / 153 = month := ⟨_, rfl⟩
  obtain ⟨hlow, hhigh, hbefore, hafter⟩ := yearOfCycle_bounds (by omega) (by omega) hyear
  rw [daysBefore_succ hlow hhigh] at hafter
  have hend : day < 365 + (if isLeap (year + 1) then 1 else 0) := by omega
  refine ⟨cycle, year, day, month, by omega, hlow, hhigh, by omega, hend, hmonth.symm, ?_⟩
  have hdate : ofDays days = ⟨year + cycle * 400 +
        (if (if month < 10 then month + 3 else month - 9) ≤ 2 then 1 else 0),
      (if month < 10 then month + 3 else month - 9).toNat,
      (day - (153 * month + 2) / 5 + 1).toNat⟩ := by
    subst hmonth hday hyear hdayOfCycle hcycle
    rfl
  -- The months from January on are those of the next year.
  have hnext : (if (if month < 10 then month + 3 else month - 9) ≤ 2 then (1 : Int) else 0) =
      if month < 10 then 0 else 1 := by
    by_cases hlate : month < 10
    · rw [if_pos hlate, if_pos hlate, if_neg (by omega)]
    · rw [if_neg hlate, if_neg hlate, if_pos (by split at hend <;> omega)]
  rw [hdate, hnext]

/-- **The date of a day has the number of that day.** -/
theorem toDays_ofDays (days : Int) : (ofDays days).toDays = days := by
  obtain ⟨cycle, year, day, month, hdays, hlow, hhigh, hday, hend, hmonth, hdate⟩ :=
    exists_parts days
  have hlast : day ≤ 365 := by split at hend <;> omega
  rw [hdate, toDays]
  unfold daysBefore at hdays
  simp only
  by_cases hlate : month < 10
  · simp only [if_pos hlate]
    rw [if_neg (by omega), if_neg (by omega)]
    omega
  · simp only [if_neg hlate]
    rw [if_pos (by omega), if_pos (by omega)]
    omega

/-- **Every day has a date** that the calendar has, if it has the year. -/
theorem exists?_ofDays {days : Int} (hfirst : -262143 ≤ (ofDays days).year)
    (hlast : (ofDays days).year ≤ 262142) : (ofDays days).exists? = true := by
  obtain ⟨cycle, year, day, month, hdays, hlow, hhigh, hday, hend, hmonth, hdate⟩ :=
    exists_parts days
  have hleap : isLeap (year + cycle * 400 + 1) = isLeap (year + 1) := by
    have hmod : ∀ k : Int, k = 4 ∨ k = 100 ∨ k = 400 →
        (year + cycle * 400 + 1) % k = (year + 1) % k := by
      rintro k (rfl | rfl | rfl) <;> omega
    rw [isLeap, isLeap, hmod 4 (by decide), hmod 100 (by decide), hmod 400 (by decide)]
  rw [hdate] at hfirst hlast ⊢
  simp only at hfirst hlast
  simp only [exists?, Bool.and_eq_true, decide_eq_true_eq]
  refine ⟨⟨⟨⟨⟨hfirst, hlast⟩, ?_⟩, ?_⟩, ?_⟩, ?_⟩
  · split <;> omega
  · split at hend <;> split <;> omega
  · omega
  · by_cases hfebruary : month = 11
    · subst hfebruary
      change _ ≤ if isLeap (year + cycle * 400 + 1) then 29 else 28
      rw [hleap]
      split at hend <;> rename_i hyear
      · rw [if_pos hyear]
        omega
      · rw [if_neg hyear]
        omega
    · have hmonths : month = 0 ∨ month = 1 ∨ month = 2 ∨ month = 3 ∨ month = 4 ∨ month = 5 ∨
          month = 6 ∨ month = 7 ∨ month = 8 ∨ month = 9 ∨ month = 10 := by
        split at hend <;> omega
      rcases hmonths with rfl | rfl | rfl | rfl | rfl | rfl | rfl | rfl | rfl | rfl | rfl
      all_goals
        simp only [monthLength]
        split at hend <;> norm_num <;> omega

end CivilDate

/-! ## Digits -/

namespace Timestamp

variable {c : Char} {width n : Nat} {rest : List Char} {nanos : Nat}

theorem isDigit_of_isDigit (h : c.isDigit = true) : Markup.isDigit c = true := by
  simp only [Char.isDigit, Bool.and_eq_true, decide_eq_true_eq] at h
  simp only [Markup.isDigit, Bool.and_eq_true, decide_eq_true_eq]
  exact h

theorem not_isBlank_of_isDigit (h : Markup.isDigit c = true) : isBlank c = false := by
  simp only [Markup.isDigit, Bool.and_eq_true, decide_eq_true_eq] at h
  have hlow : 48 ≤ c.toNat := h.1
  have hhigh : c.toNat ≤ 57 := h.2
  simp only [isBlank, Bool.or_eq_false_iff, Bool.and_eq_false_iff, decide_eq_false_iff_not,
    beq_eq_false_iff_ne]
  omega

theorem toList_padded (width n : Nat) :
    (padded width n).toList =
      List.replicate (width - (Nat.toDigits 10 n).length) '0' ++ Nat.toDigits 10 n := by
  have hzeros : ∀ k, ("".pushn '0' k).toList = List.replicate k '0' := by
    intro k
    rw [String.pushn_eq_repeat_push]
    induction k with
    | zero => rfl
    | succ k ih => rw [Nat.repeat, String.toList_push, ih, List.replicate_succ']
  rw [padded, String.toList_append, hzeros, Nat.repr_eq_ofList_toDigits, String.length_ofList,
    String.toList_ofList]

/-- A number that is written with leading zeros: only digits, as many as the width has, and of the
value of the number. -/
theorem digits_padded (hwidth : 0 < width) (h : n < 10 ^ width) :
    (padded width n).toList.length = width ∧
      (∀ c ∈ (padded width n).toList, Markup.isDigit c = true) ∧
      (padded width n).toList.foldl (fun n c => 10 * n + (c.toNat - 48)) 0 = n := by
  have hlength : (Nat.toDigits 10 n).length ≤ width :=
    (Nat.length_toDigits_le_iff (by decide) hwidth).2 h
  rw [toList_padded]
  refine ⟨?_, ?_, ?_⟩
  · rw [List.length_append, List.length_replicate]
    omega
  · intro c hc
    rcases List.mem_append.1 hc with hc | hc
    · rw [List.eq_of_mem_replicate hc]
      rfl
    · exact isDigit_of_isDigit (Nat.isDigit_of_mem_toDigits (by decide) (by decide) hc)
  · change Nat.ofDigitChars 10 _ 0 = n
    rw [Nat.ofDigitChars_append, Nat.ofDigitChars_replicate_zero, Nat.mul_zero,
      Nat.ofDigitChars_ten_toDigits]

/-- Digits are read up to the first character that is none. -/
theorem number?_append {most : Nat} {digits : List Char} (hsome : digits ≠ [])
    (hdigits : ∀ c ∈ digits, Markup.isDigit c = true) (hlength : digits.length ≤ most)
    (hstop : ∀ c ∈ rest.head?, Markup.isDigit c = false) :
    number? most (digits ++ rest) =
      some (digits.foldl (fun n c => 10 * n + (c.toNat - 48)) 0, rest) := by
  have hrest : (rest.take (most - digits.length)).takeWhile Markup.isDigit = [] := by
    cases rest with
    | nil => rw [List.take_nil, List.takeWhile_nil]
    | cons c cs =>
      cases most - digits.length with
      | zero => rfl
      | succ k => rw [List.take_succ_cons, List.takeWhile_cons, hstop c rfl]; rfl
  have htake : ((digits ++ rest).take most).takeWhile Markup.isDigit = digits := by
    rw [List.take_append, List.take_of_length_le hlength, List.takeWhile_append_of_pos hdigits,
      hrest, List.append_nil]
  simp only [number?, htake, List.isEmpty_iff, hsome, if_false, List.drop_left]

/-- A number that is written with leading zeros is read back. -/
theorem number?_padded {most : Nat} (hwidth : 0 < width) (h : n < 10 ^ width)
    (hmost : width ≤ most) (hstop : ∀ c ∈ rest.head?, Markup.isDigit c = false) :
    number? most ((padded width n).toList ++ rest) = some (n, rest) := by
  obtain ⟨hlength, hdigits, hvalue⟩ := digits_padded hwidth h
  have hsome : (padded width n).toList ≠ [] := by
    intro hnone
    rw [hnone] at hlength
    exact hwidth.ne hlength
  rw [number?_append hsome hdigits (hlength.trans_le hmost) hstop, hvalue]

theorem skipBlanks_padded (hwidth : 0 < width) (h : n < 10 ^ width) (rest : List Char) :
    skipBlanks ((padded width n).toList ++ rest) = (padded width n).toList ++ rest := by
  obtain ⟨hlength, hdigits, -⟩ := digits_padded hwidth h
  cases hpadded : (padded width n).toList with
  | nil =>
    rw [hpadded] at hlength
    exact absurd hlength hwidth.ne
  | cons c cs =>
    have hc : isBlank c = false := not_isBlank_of_isDigit (hdigits c (by simp [hpadded]))
    rw [skipBlanks, List.cons_append, List.dropWhile_cons_of_neg (by simp [hc])]

theorem numeric?_padded (hwidth : 0 < width) (h : n < 10 ^ width)
    (hstop : ∀ c ∈ rest.head?, Markup.isDigit c = false) :
    numeric? width ((padded width n).toList ++ rest) = some (n, rest) := by
  rw [numeric?, skipBlanks_padded hwidth h, number?_padded hwidth h le_rfl hstop]

theorem not_isDigit_head (h : Markup.isDigit c = false) (rest : List Char) :
    ∀ d ∈ (c :: rest).head?, Markup.isDigit d = false := by
  intro d hd
  cases hd
  exact h

/-! ## Times -/

theorem year?_padded (h : n < 10 ^ 4) (hstop : ∀ c ∈ rest.head?, Markup.isDigit c = false) :
    year? ((padded 4 n).toList ++ rest) = some ((n : Int), rest) := by
  obtain ⟨hlength, hdigits, -⟩ := digits_padded (by decide) h
  have hread := number?_padded (by decide) h le_rfl hstop
  rw [year?, skipBlanks_padded (by decide) h]
  cases hpadded : (padded 4 n).toList with
  | nil =>
    rw [hpadded] at hlength
    cases hlength
  | cons c cs =>
    rw [hpadded] at hread hdigits
    have hc : Markup.isDigit c = true := hdigits c List.mem_cons_self
    -- A digit is no sign.
    split
    · rename_i hsign
      cases hsign
      cases hc
    · rename_i hsign
      cases hsign
      cases hc
    · rw [hread]
      rfl

theorem mark?_self (h : isBlank c = false) (rest : List Char) :
    mark? c (c :: rest) = some rest := by
  have hskip : skipBlanks (c :: rest) = c :: rest := by
    rw [skipBlanks, List.dropWhile_cons_of_neg (by simp [h])]
  rw [mark?, hskip]
  exact if_pos rfl

theorem fraction?_padded (hwidth : 0 < width) (hmost : width ≤ 9) (h : n < 10 ^ width) :
    fraction? (("." ++ padded width n).toList ++ ['Z']) = some (n * 10 ^ (9 - width), ['Z']) := by
  have hread := number?_padded hwidth h hmost (not_isDigit_head (c := 'Z') rfl [])
  have hlength := (digits_padded hwidth h).1
  have hpoint : ".".toList = ['.'] := rfl
  have hcount : width + ['Z'].length - ['Z'].length = width := Nat.add_sub_cancel ..
  have hdrop : ['Z'].dropWhile Markup.isDigit = ['Z'] := rfl
  rw [String.toList_append, hpoint, List.cons_append, List.nil_append, List.cons_append, fraction?,
    hread]
  simp only [Option.bind_eq_bind, Option.bind_some, List.length_append, hlength, hcount, hdrop,
    Nat.pow_eq, Option.pure_def]

theorem fraction?_fractionText (h : nanos < 1000000000) :
    fraction? ((fractionText nanos).toList ++ ['Z']) = some (nanos, ['Z']) := by
  unfold fractionText
  split
  · rename_i hzero
    rw [hzero]
    rfl
  · split
    · rw [fraction?_padded (by decide) (by decide) (by omega)]
      exact congrArg (fun n => some (n, ['Z'])) (by omega)
    · split
      · rw [fraction?_padded (by decide) (by decide) (by omega)]
        exact congrArg (fun n => some (n, ['Z'])) (by omega)
      · rw [fraction?_padded (by decide) (by decide) (by omega)]
        exact congrArg (fun n => some (n, ['Z'])) (by omega)

theorem not_isDigit_fractionText (nanos : Nat) :
    ∀ c ∈ ((fractionText nanos).toList ++ ['Z']).head?, Markup.isDigit c = false := by
  have hpoint : ∀ digits : String,
      ∀ c ∈ (("." ++ digits).toList ++ ['Z']).head?, Markup.isDigit c = false := by
    intro digits
    rw [String.toList_append]
    exact not_isDigit_head (c := '.') rfl _
  unfold fractionText
  split
  · exact not_isDigit_head (c := 'Z') rfl _
  · split
    · exact hpoint _
    · split
      · exact hpoint _
      · exact hpoint _

/-- A date and a time of day as they are written. -/
def written (year month day hour minute second nanos : Nat) : List Char :=
  (padded 4 year).toList ++ '-' :: ((padded 2 month).toList ++ '-' :: ((padded 2 day).toList ++ 'T' ::
    ((padded 2 hour).toList ++ ':' :: ((padded 2 minute).toList ++ ':' ::
      ((padded 2 second).toList ++ ((fractionText nanos).toList ++ ['Z']))))))

/-- What is written is read part by part. -/
theorem parse?_written {year month day hour minute second : Nat} (hyear : year < 10 ^ 4)
    (hmonth : month < 10 ^ 2) (hday : day < 10 ^ 2) (hhour : hour < 10 ^ 2)
    (hminute : minute < 10 ^ 2) (hsecond : second < 10 ^ 2) (hnanos : nanos < 1000000000)
    {text : String} (htext : text.toList = written year month day hour minute second nanos) :
    parse? text = ofParts? ⟨year, month, day⟩ hour minute second nanos 0 := by
  have hdash : Markup.isDigit '-' = false := rfl
  have hcolon : Markup.isDigit ':' = false := rfl
  have hT : Markup.isDigit 'T' = false := rfl
  have hdashBlank : isBlank '-' = false := rfl
  have hcolonBlank : isBlank ':' = false := rfl
  unfold parse?
  simp only [Option.bind_eq_bind]
  rw [htext, written, year?_padded hyear (not_isDigit_head hdash _), Option.bind_some]
  dsimp only
  rw [mark?_self hdashBlank, Option.bind_some,
    numeric?_padded two_pos hmonth (not_isDigit_head hdash _), Option.bind_some]
  dsimp only
  rw [mark?_self hdashBlank, Option.bind_some,
    numeric?_padded two_pos hday (not_isDigit_head hT _), Option.bind_some]
  dsimp only
  rw [if_pos (.inl rfl), Option.bind_some,
    numeric?_padded two_pos hhour (not_isDigit_head hcolon _), Option.bind_some]
  dsimp only
  rw [mark?_self hcolonBlank, Option.bind_some,
    numeric?_padded two_pos hminute (not_isDigit_head hcolon _), Option.bind_some]
  dsimp only
  rw [mark?_self hcolonBlank, Option.bind_some,
    numeric?_padded two_pos hsecond (not_isDigit_fractionText nanos), Option.bind_some]
  dsimp only
  rw [fraction?_fractionText hnanos, Option.bind_some]
  rfl

/-- A time in the years 0 to 9999, and not in a leap second. -/
def IsCommon (t : Timestamp) : Prop :=
  0 ≤ (CivilDate.ofDays (t.seconds / 86400)).year ∧
    (CivilDate.ofDays (t.seconds / 86400)).year ≤ 9999 ∧ t.nanos < 1000000000

instance (t : Timestamp) : Decidable t.IsCommon := inferInstanceAs (Decidable (_ ∧ _ ∧ _))

/-- How such a time is written. -/
theorem toList_text {t : Timestamp} (h : t.IsCommon) {year month day : Nat}
    (hdate : CivilDate.ofDays (t.seconds / 86400) = ⟨year, month, day⟩) {ofDay : Nat}
    (hofDay : (t.seconds % 86400).toNat = ofDay) :
    t.text.toList =
      written year month day (ofDay / 3600) (ofDay / 60 % 60) (ofDay % 60) t.nanos := by
  obtain ⟨hfirst, hlast, hnanos⟩ := h
  rw [hdate] at hfirst hlast
  have hdateText : t.dateText = padded 4 year ++ "-" ++ padded 2 month ++ "-" ++ padded 2 day := by
    rw [dateText, hdate]
    simp only [yearText, Int.toNat_natCast]
    rw [if_pos ⟨hfirst, hlast⟩]
  have htimeText : t.timeText = padded 2 (ofDay / 3600) ++ ":" ++ padded 2 (ofDay / 60 % 60) ++
      ":" ++ padded 2 (ofDay % 60) ++ fractionText t.nanos := by
    rw [timeText, hofDay]
    simp only [if_neg (not_le.2 hnanos), Nat.add_zero]
  have hdash : "-".toList = ['-'] := rfl
  have hT : "T".toList = ['T'] := rfl
  have hcolon : ":".toList = [':'] := rfl
  have hZ : "Z".toList = ['Z'] := rfl
  simp only [text, written, hdateText, htimeText, String.toList_append, hdash, hT, hcolon, hZ,
    List.append_assoc, List.cons_append, List.nil_append]

/-- The time of a date and a time of day in UTC. -/
theorem ofParts?_eq {date : CivilDate} {hour minute second : Nat} {seconds : Int}
    (hdate : date.exists? = true) (hhour : hour ≤ 23) (hminute : minute ≤ 59) (hsecond : second ≤ 59)
    (hseconds : date.toDays * 86400 + hour * 3600 + minute * 60 + second - 0 = seconds)
    (hday : (CivilDate.ofDays (seconds / 86400)).exists? = true) :
    ofParts? date hour minute second nanos 0 = some ⟨seconds, nanos⟩ := by
  have hfits : (date.exists? && decide (hour ≤ 23) && decide (minute ≤ 59) && decide (second ≤ 60) &&
      decide ((0 : Int).natAbs < 86400)) = true := by
    simp only [Bool.and_eq_true, decide_eq_true_eq]
    exact ⟨⟨⟨⟨hdate, hhour⟩, hminute⟩, by omega⟩, by decide⟩
  have hwhole : (if second = 60 then (59, nanos + 1000000000) else (second, nanos)) =
      (second, nanos) := if_neg (by omega)
  have hpassed : ∀ {b : Bool}, b = true → guard (f := Option) (b = true) = some () :=
    fun h => if_pos h
  unfold ofParts?
  rw [hwhole, hpassed hfits, Option.bind_eq_bind, Option.bind_some]
  dsimp only
  rw [hseconds, hpassed hday]
  rfl

/-- **A time that is written reads back.** -/
theorem parse?_text {t : Timestamp} (h : t.IsCommon) : parse? t.text = some t := by
  obtain ⟨hfirst, hlast, hnanos⟩ := id h
  have hdays : (CivilDate.ofDays (t.seconds / 86400)).toDays = t.seconds / 86400 :=
    CivilDate.toDays_ofDays _
  have hexists : (CivilDate.ofDays (t.seconds / 86400)).exists? = true :=
    CivilDate.exists?_ofDays (by omega) (by omega)
  obtain ⟨ofDay, hofDay⟩ : ∃ n, (t.seconds % 86400).toNat = n := ⟨_, rfl⟩
  obtain ⟨⟨year, month, day⟩, hdate⟩ : ∃ date, CivilDate.ofDays (t.seconds / 86400) = date :=
    ⟨_, rfl⟩
  rw [hdate] at hfirst hlast hdays hexists
  dsimp only at hfirst hlast
  obtain ⟨n, rfl⟩ := Int.eq_ofNat_of_zero_le hfirst
  have hbounds := hexists
  simp only [CivilDate.exists?, Bool.and_eq_true, decide_eq_true_eq] at hbounds
  have hlength : CivilDate.monthLength n month ≤ 31 := by
    unfold CivilDate.monthLength
    split
    · split <;> decide
    · split <;> decide
  rw [parse?_written (by omega) (by omega) (by omega) (by omega) (by omega) (by omega) hnanos
    (toList_text h hdate hofDay)]
  refine ofParts?_eq hexists (by omega) (by omega) (by omega) ?_ (by rw [hdate]; exact hexists)
  rw [hdays]
  omega

end Timestamp

end NodeCanvas
