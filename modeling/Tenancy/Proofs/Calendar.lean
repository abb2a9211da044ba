import Mathlib.Tactic.IntervalCases
import Tenancy.Time.Calendar

/-!
# Days and their names

Every number of a day is that of the date by which the calendar names it, and the calendar has a day
of that name.
-/

namespace Tenancy.Proofs

open CivilDate

/-- A day of a cycle of 400 years by full centuries, full spans of four years, full years and days.
The last day of a leap year is the only one with the number 365. -/
structure DayParts (d century quad year day : Nat) : Prop where
  sum : d = century * 36524 + quad * 1461 + year * 365 + day
  century_le : century ≤ 3
  quad_le : quad ≤ 24
  year_le : year ≤ 3
  day_le : day ≤ 365
  leap : day = 365 → year = 3 ∧ (quad = 24 → century = 3)

lemma century_part {d : Nat} (h : d < 146097) :
    min (d / 36524) 3 * 36524 ≤ d ∧ d - min (d / 36524) 3 * 36524 ≤ 36524 ∧
      (d - min (d / 36524) 3 * 36524 = 36524 → min (d / 36524) 3 = 3) := by
  omega

lemma quad_part {d : Nat} (h : d ≤ 36524) :
    d / 1461 ≤ 24 ∧ d / 1461 * 1461 ≤ d ∧ d - d / 1461 * 1461 ≤ 1460 := by
  omega

lemma year_part {d : Nat} (h : d ≤ 1460) :
    min (d / 365) 3 * 365 ≤ d ∧ d - min (d / 365) 3 * 365 ≤ 365 ∧
      (d - min (d / 365) 3 * 365 = 365 → min (d / 365) 3 = 3) := by
  omega

lemma dayParts {d : Nat} (h : d < 146097) :
    DayParts d (min (d / 36524) 3) ((d - min (d / 36524) 3 * 36524) / 1461)
      (min ((d - min (d / 36524) 3 * 36524 -
        (d - min (d / 36524) 3 * 36524) / 1461 * 1461) / 365) 3)
      (d - min (d / 36524) 3 * 36524 - (d - min (d / 36524) 3 * 36524) / 1461 * 1461 -
        min ((d - min (d / 36524) 3 * 36524 -
          (d - min (d / 36524) 3 * 36524) / 1461 * 1461) / 365) 3 * 365) := by
  obtain ⟨hc, hr, hlast⟩ := century_part h
  have hc3 : min (d / 36524) 3 ≤ 3 := Nat.min_le_right _ _
  generalize min (d / 36524) 3 = c at hc hr hlast hc3 ⊢
  generalize hrd : d - c * 36524 = r at hr hlast ⊢
  obtain ⟨hq, hqr, hs⟩ := quad_part hr
  generalize r / 1461 = q at hq hqr hs ⊢
  generalize hsd : r - q * 1461 = s at hs ⊢
  obtain ⟨hy, hn, hleap⟩ := year_part hs
  have hy3 : min (s / 365) 3 ≤ 3 := Nat.min_le_right _ _
  generalize min (s / 365) 3 = y at hy hn hleap hy3 ⊢
  generalize hnd : s - y * 365 = n at hn hleap ⊢
  refine ⟨by omega, hc3, hq, hy3, hn, ?_⟩
  intro h365
  refine ⟨hleap h365, ?_⟩
  intro h24
  have hy' : y = 3 := hleap h365
  exact hlast (by omega)

/-- A date of a day of a year that begins with March. -/
def dateInYear (cycle : Int) (year day : Nat) : CivilDate :=
  let month := (5 * day + 2) / 153
  { year := if month < 10 then cycle * 400 + year else cycle * 400 + year + 1
    month := if month < 10 then month + 3 else month - 9
    day := day - daysBeforeMonth month + 1 }

lemma ofDayNumber_eq (n : Int) :
    ∃ century quad year day,
      DayParts ((n + epochShift) % 146097).toNat century quad year day ∧
      ofDayNumber n =
        dateInYear ((n + epochShift) / 146097) (century * 100 + quad * 4 + year) day :=
  ⟨_, _, _, _, dayParts (by omega), rfl⟩

lemma month_cases {day : Nat} (h : day ≤ 365) :
    (5 * day + 2) / 153 ≤ 11 ∧ daysBeforeMonth ((5 * day + 2) / 153) ≤ day := by
  unfold daysBeforeMonth
  omega

lemma toDayNumber_dateInYear (cycle : Int) {d century quad year day : Nat}
    (h : DayParts d century quad year day) :
    (dateInYear cycle (century * 100 + quad * 4 + year) day).toDayNumber =
      cycle * 146097 + d - epochShift := by
  obtain ⟨hsum, hc, hq, hy, hd, -⟩ := h
  obtain ⟨hm, hb⟩ := month_cases hd
  unfold dateInYear toDayNumber
  generalize hk : century * 100 + quad * 4 + year = k
  generalize hmonth : (5 * day + 2) / 153 = month at hm hb
  simp only
  have hyear : (if (if month < 10 then month + 3 else month - 9) ≤ 2
      then (if month < 10 then cycle * 400 + (k : Int) else cycle * 400 + k + 1) - 1
      else if month < 10 then cycle * 400 + (k : Int) else cycle * 400 + k + 1) =
        cycle * 400 + k := by
    split_ifs <;> omega
  have hmon : (if (if month < 10 then month + 3 else month - 9) ≤ 2
      then (if month < 10 then month + 3 else month - 9) + 9
      else (if month < 10 then month + 3 else month - 9) - 3) = month := by
    split_ifs <;> omega
  rw [hyear, hmon]
  have hk400 : k < 400 := by omega
  have hmod : ((cycle * 400 + (k : Int)) % 400).toNat = k := by omega
  have hdiv : (cycle * 400 + (k : Int)) / 400 = cycle := by omega
  rw [hmod, hdiv]
  have h4 : k / 4 = century * 25 + quad := by omega
  have h100 : k / 100 = century := by omega
  rw [h4, h100]
  omega

/-- A date has the number of the day that it names. -/
theorem toDayNumber_ofDayNumber (n : Int) : (ofDayNumber n).toDayNumber = n := by
  obtain ⟨century, quad, year, day, hp, he⟩ := ofDayNumber_eq n
  rw [he, toDayNumber_dateInYear _ hp]
  omega

lemma isLeapYear_of_parts (cycle : Int) {century quad : Nat} (hq : quad ≤ 24)
    (h : quad = 24 → century = 3) :
    isLeapYear (cycle * 400 + (century * 100 + quad * 4 + 3 : Nat) + 1) = true := by
  simp only [isLeapYear, Bool.and_eq_true, Bool.or_eq_true, beq_iff_eq, bne_iff_ne]
  refine ⟨by omega, ?_⟩
  by_cases h24 : quad = 24
  · right
    have h3 : century = 3 := h h24
    omega
  · left
    omega

lemma exists_dateInYear (cycle : Int) {d century quad year day : Nat}
    (h : DayParts d century quad year day) :
    (dateInYear cycle (century * 100 + quad * 4 + year) day).exists? = true := by
  obtain ⟨-, -, hq, -, hd, hleap⟩ := h
  have hm : (5 * day + 2) / 153 ≤ 11 := (month_cases hd).1
  unfold dateInYear exists? daysInMonth
  generalize hmonth : (5 * day + 2) / 153 = month at hm
  simp only [Bool.and_eq_true, decide_eq_true_eq]
  by_cases h11 : month = 11
  · subst h11
    have hlast : day = 365 → isLeapYear
        (cycle * 400 + (century * 100 + quad * 4 + year : Nat) + 1) = true := by
      intro h365
      obtain ⟨rfl, h24⟩ := hleap h365
      exact isLeapYear_of_parts cycle hq h24
    refine ⟨by simp [daysBeforeMonth], ?_⟩
    simp only [daysBeforeMonth, Nat.reduceLT, if_false, Nat.reduceSub, beq_self_eq_true, if_true]
    by_cases h365 : day = 365
    · rw [hlast h365, if_pos rfl]
      omega
    · split <;> omega
  · have h10 : month ≤ 10 := by omega
    interval_cases month <;> simp [daysBeforeMonth] <;> omega

/-- The calendar has a day of the name of every number. -/
theorem exists_ofDayNumber (n : Int) : (ofDayNumber n).exists? = true := by
  obtain ⟨century, quad, year, day, hp, he⟩ := ofDayNumber_eq n
  rw [he]
  exact exists_dateInYear _ hp

lemma year_ofDayNumber {n : Int} (h : -96465292 ≤ n ∧ n ≤ 95026236) :
    -300000 ≤ (ofDayNumber n).year ∧ (ofDayNumber n).year ≤ 300000 := by
  obtain ⟨century, quad, year, day, hp, he⟩ := ofDayNumber_eq n
  obtain ⟨-, hc, hq, hy, -, -⟩ := hp
  have hcycle : -700 ≤ (n + epochShift) / 146097 ∧ (n + epochShift) / 146097 ≤ 700 := by
    unfold epochShift
    omega
  rw [he]
  unfold dateInYear
  simp only
  split_ifs <;> omega

lemma bounds_of_exists {date : CivilDate} (h : date.exists? = true) :
    1 ≤ date.month ∧ date.month ≤ 12 ∧ 1 ≤ date.day ∧ date.day ≤ 31 := by
  simp only [exists?, Bool.and_eq_true, decide_eq_true_eq] at h
  obtain ⟨⟨⟨hm, hm'⟩, hd⟩, hd'⟩ := h
  refine ⟨hm, hm', hd, ?_⟩
  have hmax : daysInMonth date.year date.month ≤ 31 := by
    unfold daysInMonth
    split_ifs <;> omega
  omega

end Tenancy.Proofs
