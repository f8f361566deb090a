import Reconciler.Time.Calendar

/-!
# The calendar, both ways

Every count of days falls on a date that exists, and the date is that many days away.
-/

namespace Reconciler.Time

namespace Date

/-- Days of a cycle of 400 years, from the first of March on, before a year of it. -/
def daysBefore (year : Int) : Int := 365 * year + year / 4 - year / 100

/-- The year of a cycle that a day of it falls into. -/
def yearOfCycle (day : Int) : Int := (day - day / 1460 + day / 36524 - day / 146096) / 365

/-- The date of a day of a year of a cycle, with days and years counted from March on. -/
def ofMarch (cycle year day : Int) : Date :=
  let monthFromMarch := (5 * day + 2) / 153
  let month := if monthFromMarch < 10 then monthFromMarch + 3 else monthFromMarch - 9
  ⟨year + cycle * 400 + (if month ≤ 2 then 1 else 0), month.toNat,
    (day - (153 * monthFromMarch + 2) / 5 + 1).toNat⟩

theorem ofDays_eq (days : Int) : ofDays days =
    let day := (days + 719468) % 146097
    ofMarch ((days + 719468) / 146097) (yearOfCycle day) (day - daysBefore (yearOfCycle day)) := rfl

theorem isLeap_iff (year : Int) :
    isLeap year = true ↔ year % 4 = 0 ∧ (year % 100 ≠ 0 ∨ year % 400 = 0) := by
  simp [isLeap]

/-- A day of a cycle lies in its year. -/
theorem yearOfCycle_bounds {day : Int} (hlow : 0 ≤ day) (hhigh : day < 146097) :
    0 ≤ yearOfCycle day ∧ yearOfCycle day < 400 ∧ daysBefore (yearOfCycle day) ≤ day ∧
      day ≤ daysBefore (yearOfCycle day) + 365 := by
  unfold daysBefore
  generalize hyear : yearOfCycle day = year
  rw [yearOfCycle] at hyear
  -- Within a century the rest of the divisions is linear enough.
  obtain hcentury | hcentury | hcentury | hcentury | rfl :
      (day / 36524 = 0 ∧ day / 146096 = 0) ∨ (day / 36524 = 1 ∧ day / 146096 = 0) ∨
        (day / 36524 = 2 ∧ day / 146096 = 0) ∨ (day / 36524 = 3 ∧ day / 146096 = 0) ∨
        day = 146096 := by omega
  · have hyears : year / 100 = 0 := by omega
    omega
  · have hyears : year / 100 = 1 := by omega
    omega
  · have hyears : year / 100 = 2 := by omega
    omega
  · have hyears : year / 100 = 3 := by omega
    omega
  · omega

/-- The last day of a year of 366 days is there in leap years alone. -/
theorem isLeap_of_lastDay {day : Int} (hlow : 0 ≤ day) (hhigh : day < 146097)
    (hlast : day = daysBefore (yearOfCycle day) + 365) : isLeap (yearOfCycle day + 1) = true := by
  obtain ⟨hyearLow, hyearHigh, -, -⟩ := yearOfCycle_bounds hlow hhigh
  rw [isLeap_iff]
  generalize hyear : yearOfCycle day = year at *
  rw [yearOfCycle] at hyear
  rw [daysBefore] at hlast
  obtain hcycle | rfl : day / 146096 = 0 ∨ day = 146096 := by omega
  · rw [hcycle] at hyear
    have hfour : (year + 1) % 4 = 0 := by
      refine Decidable.byContradiction fun hmod => ?_
      have hquarter : (year + 1) / 4 = year / 4 := by omega
      have hbefore : day / 1460 = year / 4 := by omega
      have hcentury : day / 36524 = year / 100 := by omega
      omega
    refine ⟨hfour, Decidable.or_iff_not_imp_left.mpr fun hmod => ?_⟩
    have hcentury : day / 36524 = year / 100 + 1 := by omega
    have hbefore : day / 1460 = year / 4 := by omega
    omega
  · omega

/-- Day by day from March on, no month has more days than it should. -/
theorem le_monthLength {year day : Int} {month : Nat} (hlow : 1 ≤ month) (hhigh : month ≤ 12)
    (hmarch : ((month : Int) + 9) % 12 = (5 * day + 2) / 153) (hdays : day ≤ 365)
    (hleap : month = 2 → day = 365 → isLeap year = true) :
    day - (153 * ((5 * day + 2) / 153) + 2) / 5 + 1 ≤ monthLength year month := by
  rw [← hmarch]
  obtain rfl | rfl | rfl | rfl | rfl | rfl | rfl | rfl | rfl | rfl | rfl | rfl :
      month = 1 ∨ month = 2 ∨ month = 3 ∨ month = 4 ∨ month = 5 ∨ month = 6 ∨ month = 7 ∨
        month = 8 ∨ month = 9 ∨ month = 10 ∨ month = 11 ∨ month = 12 := by omega
  case inr.inl =>
    rw [monthLength]
    split
    · omega
    · next hcommon =>
      have hlast : day ≠ 365 := fun hday => hcommon (hleap rfl hday)
      omega
  all_goals
    rw [monthLength]
    omega

section OfMarch

variable {cycle year day : Int} (hday : 0 ≤ day) (hdays : day ≤ 365)
include hday hdays

/-- The parts of a date are counted from March on. -/
theorem ofMarch_parts :
    1 ≤ (ofMarch cycle year day).month ∧ (ofMarch cycle year day).month ≤ 12 ∧
      (((ofMarch cycle year day).month : Int) + 9) % 12 = (5 * day + 2) / 153 ∧
      ((ofMarch cycle year day).day : Int) = day - (153 * ((5 * day + 2) / 153) + 2) / 5 + 1 ∧
      (ofMarch cycle year day).year =
        year + cycle * 400 + if (ofMarch cycle year day).month ≤ 2 then 1 else 0 := by
  unfold ofMarch
  dsimp only
  refine ⟨?_, ?_, ?_, ?_, ?_⟩
  · split <;> omega
  · split <;> omega
  · split <;> omega
  · omega
  · split <;> split <;> split <;> omega

theorem valid_ofMarch (hleap : day = 365 → isLeap (year + 1) = true) :
    (ofMarch cycle year day).valid = true := by
  obtain ⟨hlow, hhigh, hmonth, hdate, hcycles⟩ := @ofMarch_parts cycle year day hday hdays
  have hyear : (ofMarch cycle year day).month = 2 → day = 365 →
      isLeap (ofMarch cycle year day).year = true := by
    intro hsecond hlast
    have hleap := (isLeap_iff _).mp (hleap hlast)
    rw [hcycles, if_pos (by omega), isLeap_iff]
    omega
  have hlength := le_monthLength hlow hhigh hmonth hdays hyear
  have hfirst : 1 ≤ (ofMarch cycle year day).day := by omega
  rw [← hdate] at hlength
  rw [valid, Bool.and_eq_true, decide_eq_true_iff, decide_eq_true_iff]
  exact ⟨hfirst, Int.ofNat_le.mp hlength⟩

end OfMarch

/-- Every day falls into a year of a cycle. -/
theorem exists_ofMarch (days : Int) : ∃ cycle year day, 0 ≤ year ∧ year < 400 ∧ 0 ≤ day ∧
    day ≤ 365 ∧ (day = 365 → isLeap (year + 1) = true) ∧
    days = cycle * 146097 + daysBefore year + day - 719468 ∧
    ofDays days = ofMarch cycle year day := by
  have hlow : 0 ≤ (days + 719468) % 146097 := by omega
  have hhigh : (days + 719468) % 146097 < 146097 := by omega
  obtain ⟨hyear, hyears, hbefore, hafter⟩ := yearOfCycle_bounds hlow hhigh
  exact ⟨(days + 719468) / 146097, yearOfCycle ((days + 719468) % 146097),
    (days + 719468) % 146097 - daysBefore (yearOfCycle ((days + 719468) % 146097)), hyear, hyears,
    by omega, by omega, fun hlast => isLeap_of_lastDay hlow hhigh (by omega), by omega,
    ofDays_eq days⟩

theorem valid_ofDays (days : Int) : (ofDays days).valid = true := by
  obtain ⟨cycle, year, day, -, -, hday, hdays, hleap, -, hdate⟩ := exists_ofMarch days
  rw [hdate]
  exact valid_ofMarch hday hdays hleap

end Date

end Reconciler.Time
