import JmapClient.Proofs.Calendar
import JmapClient.Timestamp

/-!
# Instants and what clocks show

What a clock can show and the instants are in one-to-one correspondence, where a leap second is the end of the
second before it: a time is found again from its instant (`LocalTime.OnClock.time_instant`) and an instant from what a
clock shows (`UtcDate.Proper.instant_time`). Instants are in the order of what clocks show
(`LocalTime.OnClock.compare_instant`), at whatever offset from UTC the clocks are
(`UtcDate.Proper.compare_shownAt`).
-/

namespace JmapClient

open Calendar

/-- A clock can show the time. -/
structure LocalTime.OnClock (t : LocalTime) : Prop where
  day : t.date.exists
  hour : t.hour ≤ 23
  minute : t.minute ≤ 59
  second : t.second ≤ 60
  nanosecond : t.nanosecond < nanosPerSecond

/-- The nanoseconds are those of a second, or of a leap second at the end of a minute. -/
def UtcDate.Proper (u : UtcDate) : Prop :=
  u.nanoseconds < nanosPerSecond ∨ u.seconds % 60 = 59 ∧ u.nanoseconds < 2 * nanosPerSecond

/-- What a clock shows at the instant `u` where the `offset` from UTC is so many minutes. -/
def UtcDate.shownAt (u : UtcDate) (offset : Int) : LocalTime :=
  UtcDate.time ⟨u.seconds + offset * 60, u.nanoseconds⟩

/-- The time is the earlier by its day, its hour, its minute, its second and its nanosecond. -/
def LocalTime.Before (t t' : LocalTime) : Prop :=
  t.date.Before t'.date ∨ t.date = t'.date ∧ (t.hour < t'.hour ∨ t.hour = t'.hour ∧
    (t.minute < t'.minute ∨ t.minute = t'.minute ∧
      (t.second < t'.second ∨ t.second = t'.second ∧ t.nanosecond < t'.nanosecond)))

namespace UtcDate

theorem compare_eq_eq_iff {u v : UtcDate} : u.compare v = .eq ↔ u = v := by
  rw [UtcDate.compare, Ordering.then_eq_eq, compare_eq_iff_eq, compare_eq_iff_eq, UtcDate.mk.injEq]

theorem compare_eq_lt_iff {u v : UtcDate} : u.compare v = .lt ↔
    u.seconds < v.seconds ∨ u.seconds = v.seconds ∧ u.nanoseconds < v.nanoseconds := by
  rw [UtcDate.compare, Ordering.then_eq_lt, compare_lt_iff_lt, compare_eq_iff_eq, compare_lt_iff_lt]

end UtcDate

namespace LocalTime.OnClock

variable {t t' : LocalTime}

theorem proper_instant (h : t.OnClock) : t.instant.Proper := by
  obtain ⟨-, -, -, hsecond, hnano⟩ := h
  unfold UtcDate.Proper instant
  by_cases hleap : t.second = 60
  · right
    simp only [if_pos hleap]
    omega
  · left
    simp only [if_neg hleap]
    exact hnano

/-- A clock that is right for UTC shows `t` again at the instant of that time. -/
theorem time_instant (h : t.OnClock) : t.instant.time = t := by
  obtain ⟨hday, hhour, hminute, hsecond, hnano⟩ := h
  obtain ⟨date, hour, minute, second, nanosecond⟩ := t
  simp only at hday hhour hminute hsecond hnano
  -- A leap second counts with the second before it.
  obtain ⟨shown, hshown⟩ : ∃ shown, shown = if second = 60 then 59 else second := ⟨_, rfl⟩
  have hlt : shown < 60 := by
    rw [hshown]
    split_ifs <;> omega
  have hdays : (dayNumber date * 86400 + (hour * 3600 + minute * 60 + shown : Nat)) / 86400 = dayNumber date := by
    omega
  have hrest : ((dayNumber date * 86400 + (hour * 3600 + minute * 60 + shown : Nat)) % 86400).toNat =
      hour * 3600 + minute * 60 + shown := by
    omega
  simp only [instant, UtcDate.time, ← hshown, hdays, hrest, dayOfNumber_dayNumber hday, mk.injEq, true_and]
  by_cases hleap : second = 60
  · rw [if_pos hleap] at hshown ⊢
    rw [if_pos (by omega), if_pos (by omega)]
    omega
  · rw [if_neg hleap] at hshown ⊢
    rw [if_neg (by omega), if_neg (by omega)]
    omega

/-- Instants are in the order of what clocks show (`LocalTime.Before`). -/
theorem compare_instant (h : t.OnClock) (h' : t'.OnClock) : t.instant.compare t'.instant = .lt ↔ t.Before t' := by
  have hday := dayNumber_lt_iff h.day h'.day
  have hday' : t.date = t'.date ↔ dayNumber t.date = dayNumber t'.date :=
    ⟨congrArg dayNumber, fun heq => by rw [← dayOfNumber_dayNumber h.day, heq, dayOfNumber_dayNumber h'.day]⟩
  obtain ⟨-, hhour, hminute, hsecond, hnano⟩ := h
  obtain ⟨-, hhour', hminute', hsecond', hnano'⟩ := h'
  rw [UtcDate.compare_eq_lt_iff]
  unfold Before
  rw [← hday, hday']
  unfold nanosPerSecond at *
  by_cases hleap : t.second = 60 <;> by_cases hleap' : t'.second = 60 <;>
    simp [instant, nanosPerSecond, hleap, hleap'] <;> omega

end LocalTime.OnClock

namespace UtcDate.Proper

variable {u v : UtcDate}

theorem onClock_time (h : u.Proper) : u.time.OnClock where
  day := (dayOfNumber_spec _).1
  hour := by
    simp only [UtcDate.time]
    omega
  minute := by
    simp only [UtcDate.time]
    omega
  second := by
    simp only [UtcDate.time]
    split_ifs <;> omega
  nanosecond := by
    simp only [UtcDate.time]
    unfold UtcDate.Proper at h
    split_ifs <;> omega

/-- An instant is found again from what a clock shows that is right for UTC. -/
theorem instant_time (h : u.Proper) : u.time.instant = u := by
  obtain ⟨seconds, nanoseconds⟩ := u
  simp only [UtcDate.Proper] at h
  simp only [UtcDate.time, LocalTime.instant, (dayOfNumber_spec _).2, UtcDate.mk.injEq]
  by_cases hleap : nanosPerSecond ≤ nanoseconds
  · have hlast : seconds % 60 = 59 := by omega
    have hshown : (seconds % 86400).toNat % 60 + 1 = 60 := by omega
    simp only [if_pos hleap, if_pos hshown]
    omega
  · have hshown : (seconds % 86400).toNat % 60 + 0 ≠ 60 := by omega
    simp only [if_neg hleap, if_neg hshown]
    omega

theorem shift (h : u.Proper) (offset : Int) : UtcDate.Proper ⟨u.seconds + offset * 60, u.nanoseconds⟩ := by
  unfold UtcDate.Proper at *
  simp only
  omega

/-- Instants are in the order of what clocks with the same offset from UTC show. -/
theorem compare_shownAt (h : u.Proper) (h' : v.Proper) (offset : Int) :
    u.compare v = .lt ↔ (u.shownAt offset).Before (v.shownAt offset) := by
  have hclock := (h.shift offset).onClock_time.compare_instant (h'.shift offset).onClock_time
  rw [(h.shift offset).instant_time, (h'.shift offset).instant_time, UtcDate.compare_eq_lt_iff] at hclock
  rw [UtcDate.shownAt, UtcDate.shownAt, ← hclock, UtcDate.compare_eq_lt_iff]
  simp only [Int.add_lt_add_iff_right, Int.add_left_inj]

end UtcDate.Proper

end JmapClient
