import JmapClient.Calendar
import Mathlib.Tactic.IntervalCases

/-!
# Days and their numbers

A day of the calendar is found again from its number (`dayOfNumber_dayNumber`). A year that begins in March is
made up of centuries, groups of four years and single years; only the last year of a group has a 366th day, and
the last group of a century has one only in the fourth century. From this the year of a day in the cycle of four
hundred years is computed back (`yearOfCycle_eq`).
-/

namespace JmapClient.Calendar

/-- The year in the cycle is found from a day of it: `a` centuries, `b` groups of four years and `c` years have
passed, and `d` days of the year. -/
theorem yearOfCycle_eq {a b c d : Int} (ha₀ : 0 ≤ a) (ha : a ≤ 3) (hb₀ : 0 ≤ b) (hb : b ≤ 24) (hc₀ : 0 ≤ c)
    (hc : c ≤ 3) (hd₀ : 0 ≤ d) (hd : d ≤ 364 ∨ (d = 365 ∧ c = 3 ∧ (b < 24 ∨ a = 3))) :
    let n := 36524 * a + 1461 * b + 365 * c + d
    (n - n / 1460 + n / 36524 - n / 146096) / 365 = 100 * a + 4 * b + c := by
  intro n
  -- The longer years that have passed are counted a little early, within the last year of a group.
  have hgroups : n / 1460 = 25 * a + b + (24 * a + b + 365 * c + d) / 1460 := by omega
  have hcenturies : n / 36524 - n / 146096 = a := by
    have hrest : 1461 * b + 365 * c + d < 36524 ∨ (a = 3 ∧ 1461 * b + 365 * c + d = 36524) := by omega
    rcases hrest with hrest | ⟨rfl, hrest⟩ <;> omega
  have hyear : 0 ≤ d - (24 * a + b + 365 * c + d) / 1460 ∧
      d - (24 * a + b + 365 * c + d) / 1460 < 365 := by omega
  omega

theorem isLeap_iff {year : Int} :
    isLeap year = true ↔ year % 4 = 0 ∧ (year % 100 ≠ 0 ∨ year % 400 = 0) := by
  simp [isLeap]

theorem Day.exists_iff {d : Day} :
    d.exists = true ↔ (1 ≤ d.month ∧ d.month ≤ 12) ∧ 1 ≤ d.day ∧ d.day ≤ monthLength d.year d.month := by
  simp [Day.exists, and_assoc]

/-! ### Years that begin in March -/

/-- The year of `d` that began in the March before. -/
def marchYear (d : Day) : Int := if d.month ≤ 2 then d.year - 1 else d.year

/-- The month of the `marchYear`, from 0. -/
def marchMonth (d : Day) : Int := if d.month ≤ 2 then d.month + 9 else d.month - 3

/-- The day of the `marchYear`, from 0. -/
def marchDay (d : Day) : Int := (153 * marchMonth d + 2) / 5 + d.day - 1

/-- The months but the last have the lengths that the number of a day counts with. -/
theorem marchDay_lt {d : Day} (h : d.exists) :
    (0 ≤ marchMonth d ∧ marchMonth d ≤ 10 ∧ (153 * marchMonth d + 2) / 5 ≤ marchDay d ∧
        marchDay d < (153 * (marchMonth d + 1) + 2) / 5) ∨
      (marchMonth d = 11 ∧ 337 ≤ marchDay d ∧ (marchDay d ≤ 364 ∨ (marchDay d = 365 ∧ isLeap d.year))) := by
  obtain ⟨⟨hmonth₁, hmonth₂⟩, hday₁, hday₂⟩ := Day.exists_iff.1 h
  obtain ⟨year, month, day⟩ := d
  simp only at *
  rcases eq_or_ne month 2 with rfl | hmonth
  · right
    cases hleap : isLeap year <;> simp [monthLength, hleap] at hday₂ <;>
      simp [marchDay, marchMonth] <;> omega
  · left
    have hlength : monthLength year month = if month = 4 ∨ month = 6 ∨ month = 9 ∨ month = 11 then 30 else 31 :=
      if_neg hmonth
    rw [hlength] at hday₂
    simp only [marchDay, marchMonth]
    interval_cases month <;> simp_all <;> omega

/-- The month is found from the day of the year. -/
theorem marchMonth_eq {d : Day} (h : d.exists) : (5 * marchDay d + 2) / 153 = marchMonth d := by
  rcases marchDay_lt h with ⟨h₀, h₁₀, hfirst, hlast⟩ | ⟨heq, hfirst, hlast⟩ <;> omega

/-- A year has 365 days, and one more if it ends with the February of a leap year. -/
theorem marchDay_le {d : Day} (h : d.exists) :
    0 ≤ marchDay d ∧ (marchDay d ≤ 364 ∨ (marchDay d = 365 ∧ isLeap (marchYear d + 1))) := by
  rcases marchDay_lt h with ⟨h₀, h₁₀, hfirst, hlast⟩ | ⟨heq, hfirst, hlast⟩
  · exact ⟨by omega, Or.inl (by omega)⟩
  · have hyear : marchYear d + 1 = d.year := by
      obtain ⟨⟨-, hmonth⟩, -⟩ := Day.exists_iff.1 h
      unfold marchMonth at heq
      unfold marchYear
      split_ifs at heq ⊢ <;> omega
    rw [hyear]
    exact ⟨by omega, hlast⟩

/-! ### Numbers of days -/

/-- The day of the cycle of four hundred years that the year of a day lies in, from 0. -/
def dayOfCycle (d : Day) : Int :=
  marchYear d % 400 * 365 + marchYear d % 400 / 4 - marchYear d % 400 / 100 + marchDay d

theorem dayNumber_eq (d : Day) : dayNumber d + epoch = marchYear d / 400 * cycleDays + dayOfCycle d :=
  sub_add_cancel _ _

theorem dayOfCycle_range {d : Day} (h : d.exists) : 0 ≤ dayOfCycle d ∧ dayOfCycle d < cycleDays := by
  obtain ⟨h₀, hle⟩ := marchDay_le h
  have hlt : marchDay d ≤ 365 := by omega
  unfold dayOfCycle cycleDays
  omega

/-- The year in the cycle is found from the day of the cycle. -/
theorem year_of_dayOfCycle {d : Day} (h : d.exists) :
    (dayOfCycle d - dayOfCycle d / 1460 + dayOfCycle d / 36524 - dayOfCycle d / 146096) / 365 =
      marchYear d % 400 := by
  obtain ⟨h₀, hle⟩ := marchDay_le h
  obtain ⟨y, hy⟩ : ∃ y, y = marchYear d % 400 := ⟨_, rfl⟩
  have hrange : 0 ≤ y ∧ y < 400 := by omega
  have hlast : marchDay d ≤ 364 ∨ (marchDay d = 365 ∧ y % 4 = 3 ∧ (y % 100 / 4 < 24 ∨ y / 100 = 3)) := by
    rw [isLeap_iff] at hle
    omega
  have hparts : dayOfCycle d = 36524 * (y / 100) + 1461 * (y % 100 / 4) + 365 * (y % 4) + marchDay d := by
    unfold dayOfCycle
    omega
  have hyear := yearOfCycle_eq (a := y / 100) (b := y % 100 / 4) (c := y % 4) (d := marchDay d) (by omega)
    (by omega) (by omega) (by omega) (by omega) (by omega) h₀ hlast
  rw [hparts, ← hy]
  exact hyear.trans (by omega)

/-- A day of the calendar is found again from its `dayNumber`. -/
theorem dayOfNumber_dayNumber {d : Day} (h : d.exists) : dayOfNumber (dayNumber d) = d := by
  obtain ⟨h₀, hlt⟩ := dayOfCycle_range h
  have hcycle : (dayNumber d + epoch) / cycleDays = marchYear d / 400 := by
    rw [dayNumber_eq, add_comm, Int.add_mul_ediv_right _ _ (by decide), Int.ediv_eq_zero_of_lt h₀ hlt, zero_add]
  have hday : (dayNumber d + epoch) % cycleDays = dayOfCycle d := by
    rw [dayNumber_eq, add_comm, Int.add_mul_emod_self_right, Int.emod_eq_of_lt h₀ hlt]
  have hpassed : dayOfCycle d - (365 * (marchYear d % 400) + marchYear d % 400 / 4 - marchYear d % 400 / 100) =
      marchDay d := by
    unfold dayOfCycle
    omega
  obtain ⟨hmonth, -⟩ := Day.exists_iff.1 h
  simp only [dayOfNumber, hcycle, hday, year_of_dayOfCycle h, hpassed, marchMonth_eq h]
  obtain ⟨year, month, day⟩ := d
  simp only [marchYear, marchMonth, marchDay] at *
  rw [Day.mk.injEq]
  refine ⟨?_, ?_, ?_⟩
  · split_ifs <;> omega
  · split_ifs <;> omega
  · split_ifs <;> omega

/-! ### Every number is that of a day -/

/-- A day of a year that begins in March is a day of the calendar. -/
theorem exists_marchDay {year day : Int} (h₀ : 0 ≤ day) (h : day ≤ 364 ∨ (day = 365 ∧ isLeap (year + 1))) :
    ∃ d : Day, d.exists ∧ marchYear d = year ∧ marchDay d = day := by
  obtain ⟨month, hmonth⟩ : ∃ month, month = ((5 * day + 2) / 153).toNat := ⟨_, rfl⟩
  obtain ⟨rest, hrest⟩ : ∃ rest, rest = (day - (153 * month + 2) / 5).toNat := ⟨_, rfl⟩
  have hmonth' : (month : Int) = (5 * day + 2) / 153 := by omega
  have hmonth₁₁ : month ≤ 11 := by omega
  have hday : day = (153 * month + 2) / 5 + rest := by omega
  by_cases hlast : month < 10
  · have hlength : rest + 1 ≤ monthLength year (month + 3) := by
      interval_cases month <;> simp [monthLength] <;> omega
    refine ⟨⟨year, month + 3, rest + 1⟩, Day.exists_iff.2 ⟨⟨?_, ?_⟩, ?_, hlength⟩, ?_, ?_⟩ <;>
      simp [marchYear, marchDay, marchMonth] <;> omega
  · have hlength : rest + 1 ≤ monthLength (year + 1) (month - 9) := by
      cases hleap : isLeap (year + 1) <;> interval_cases month <;> simp [monthLength, hleap] at h ⊢ <;> omega
    refine ⟨⟨year + 1, month - 9, rest + 1⟩, Day.exists_iff.2 ⟨⟨?_, ?_⟩, ?_, hlength⟩, ?_, ?_⟩ <;>
      simp [marchYear, marchDay, marchMonth] <;> omega

/-- A number of days falls into a year that begins in March. -/
theorem exists_year (n : Int) : ∃ year day, 0 ≤ day ∧ (day ≤ 364 ∨ (day = 365 ∧ isLeap (year + 1))) ∧
    n = year / 400 * cycleDays + (year % 400 * 365 + year % 400 / 4 - year % 400 / 100 + day) := by
  obtain ⟨r, hr⟩ : ∃ r, r = n % cycleDays := ⟨_, rfl⟩
  obtain ⟨a, ha⟩ : ∃ a, a = min (r / 36524) 3 := ⟨_, rfl⟩
  obtain ⟨b, hb⟩ : ∃ b, b = (r - 36524 * a) / 1461 := ⟨_, rfl⟩
  obtain ⟨c, hc⟩ : ∃ c, c = min ((r - 36524 * a - 1461 * b) / 365) 3 := ⟨_, rfl⟩
  have hrange : 0 ≤ r ∧ r < 146097 := by
    unfold cycleDays at hr
    omega
  have ha' : 0 ≤ a ∧ a ≤ 3 := by omega
  have hrest : 0 ≤ r - 36524 * a ∧ (r - 36524 * a < 36524 ∨ (a = 3 ∧ r - 36524 * a = 36524)) := by omega
  have hb' : 0 ≤ b ∧ b ≤ 24 := by omega
  have hc' : 0 ≤ c ∧ c ≤ 3 := by omega
  obtain ⟨q, hq⟩ : ∃ q, q = n / cycleDays := ⟨_, rfl⟩
  obtain ⟨year, hyear⟩ : ∃ year, year = 400 * q + (100 * a + 4 * b + c) := ⟨_, rfl⟩
  have hcycle : year / 400 = q := by omega
  have hyear₄₀₀ : year % 400 = 100 * a + 4 * b + c := by omega
  have hyear₄ : (100 * a + 4 * b + c) / 4 = 25 * a + b := by omega
  have hyear₁₀₀ : (100 * a + 4 * b + c) / 100 = a := by omega
  have hn : n = q * cycleDays + r := by
    unfold cycleDays at *
    omega
  refine ⟨year, r - 36524 * a - 1461 * b - 365 * c, by omega, ?_, ?_⟩
  · rw [isLeap_iff]
    omega
  · rw [hn, hcycle, hyear₄₀₀, hyear₄, hyear₁₀₀]
    omega

theorem exists_dayNumber (n : Int) : ∃ d : Day, d.exists ∧ dayNumber d = n := by
  obtain ⟨year, day, h₀, hle, hn⟩ := exists_year (n + epoch)
  obtain ⟨d, hd, rfl, rfl⟩ := exists_marchDay h₀ hle
  refine ⟨d, hd, ?_⟩
  have hnumber := dayNumber_eq d
  unfold dayOfCycle at hnumber
  omega

/-- The day with a number is a day of the calendar, and has that number. -/
theorem dayOfNumber_spec (n : Int) : (dayOfNumber n).exists ∧ dayNumber (dayOfNumber n) = n := by
  obtain ⟨d, hd, rfl⟩ := exists_dayNumber n
  rw [dayOfNumber_dayNumber hd]
  exact ⟨hd, rfl⟩

/-! ### The order of days -/

/-- The day is the earlier by its year, its month and its day. -/
def Day.Before (a b : Day) : Prop :=
  a.year < b.year ∨ a.year = b.year ∧ (a.month < b.month ∨ a.month = b.month ∧ a.day < b.day)

theorem Day.before_trichotomy (a b : Day) : a.Before b ∨ a = b ∨ b.Before a := by
  have heq : a = b ↔ a.year = b.year ∧ a.month = b.month ∧ a.day = b.day := by
    obtain ⟨_, _, _⟩ := a
    obtain ⟨_, _, _⟩ := b
    exact Day.mk.injEq .. ▸ Iff.rfl
  unfold Before
  rw [heq]
  omega

theorem Day.Before.dayNumber_lt {a b : Day} (ha : a.exists) (hb : b.exists) (h : a.Before b) :
    dayNumber a < dayNumber b := by
  have hmarch : marchYear a < marchYear b ∨ marchYear a = marchYear b ∧
      (marchMonth a < marchMonth b ∨ marchMonth a = marchMonth b ∧ a.day < b.day) := by
    obtain ⟨ha, -⟩ := Day.exists_iff.1 ha
    obtain ⟨hb, -⟩ := Day.exists_iff.1 hb
    unfold Before at h
    unfold marchYear marchMonth
    split_ifs <;> omega
  have hnumber_a := dayNumber_eq a
  have hnumber_b := dayNumber_eq b
  unfold dayOfCycle cycleDays at hnumber_a hnumber_b
  rcases hmarch with hyear | ⟨hyear, hmonth | ⟨hmonth, hday⟩⟩
  · obtain ⟨-, hle⟩ := marchDay_le ha
    obtain ⟨hge, -⟩ := marchDay_le hb
    rw [isLeap_iff] at hle
    omega
  · have hle := marchDay_lt ha
    have hge := marchDay_lt hb
    rw [hyear] at hnumber_a
    omega
  · rw [hyear] at hnumber_a
    unfold marchDay at hnumber_a hnumber_b
    rw [hmonth] at hnumber_a
    omega

/-- Days are in the order of their numbers (`dayNumber`). -/
theorem dayNumber_lt_iff {a b : Day} (ha : a.exists) (hb : b.exists) : dayNumber a < dayNumber b ↔ a.Before b := by
  refine ⟨fun h => ?_, Day.Before.dayNumber_lt ha hb⟩
  rcases Day.before_trichotomy a b with hab | rfl | hba
  · exact hab
  · exact absurd h (lt_irrefl _)
  · exact absurd h (lt_asymm (hba.dayNumber_lt hb ha))

end JmapClient.Calendar
