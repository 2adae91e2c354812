import JmapClient.Proofs.Dates

/-!
# Instants that can be read again

An instant is written by what a clock shows that is right for UTC. As long as the year on that clock has four digits
what is written is a timestamp, and it is read as the instant without the fraction of its second. Every timestamp has a
year of four digits by the clock of its own place, so only at the two ends of these years the year in UTC may be
another; then what is written has a sign in front and cannot be read (`UtcDate.read_again_iff`).
-/

namespace JmapClient

open Json Calendar Timestamp

/-! ### The years of days -/

namespace Calendar

/-- A day lies before `year` if and only if its number is less than that of the first day of the year. -/
theorem year_lt_iff {d : Day} (h : d.exists) (year : Int) : d.year < year ↔ dayNumber d < dayNumber ⟨year, 1, 1⟩ := by
  have hfirst : (⟨year, 1, 1⟩ : Day).exists := Day.exists_iff.2 (by simp [monthLength])
  obtain ⟨⟨hmonth, -⟩, hday, -⟩ := Day.exists_iff.1 h
  rw [dayNumber_lt_iff h hfirst]
  unfold Day.Before
  simp only
  omega

theorem dayNumber_inj {a b : Day} (ha : a.exists) (hb : b.exists) (h : dayNumber a = dayNumber b) : a = b := by
  rw [← dayOfNumber_dayNumber ha, h, dayOfNumber_dayNumber hb]

end Calendar

/-! ### Dates -/

/-- A timestamp begins with a digit. -/
theorem Date.Spelled.head {bytes fraction zone rest : List UInt8} {d : Date} {mark b : UInt8}
    (h : Date.Spelled bytes d mark fraction zone) (hbytes : bytes = b :: rest) : ∃ n < 10, b = digitByte n := by
  obtain ⟨hyear₀, hyear⟩ := h.time.year
  have heq := h.eq
  rw [hbytes, LocalTime.encode_dayText, encode_padded (by decide) (by omega)] at heq
  have hlength := length_digitsOf 4 d.time.date.year.toNat
  cases hdigits : digitsOf 4 d.time.date.year.toNat with
  | nil => simp [hdigits] at hlength
  | cons n ds =>
    have hmem : n ∈ digitsOf 4 d.time.date.year.toNat := by simp [hdigits]
    rw [hdigits] at heq
    exact ⟨n, lt_of_mem_digitsOf hmem, (List.cons.inj heq).1⟩

/-- The minutes from the beginning of the day by the clock of `d` to the time in UTC. They may be negative, or more than
a day has. -/
def Date.minutesInUtc (d : Date) : Int := d.time.hour * 60 + d.time.minute - d.offset

theorem Date.day_utc (d : Date) (h : d.time.OnClock) :
    d.utc.seconds / 86400 = dayNumber d.time.date + d.minutesInUtc / 1440 := by
  have hsecond := h.second
  unfold utc LocalTime.instant minutesInUtc
  simp only
  split_ifs <;> omega

/-! ### Instants -/

namespace UtcDate

/-- In UTC the year of `u` has four digits. -/
def HasFourDigitYear (u : UtcDate) : Prop := 0 ≤ u.time.date.year ∧ u.time.date.year ≤ 9999

/-- The instant `u` without the fraction of its second. A leap second stays one. -/
def whole (u : UtcDate) : UtcDate := ⟨u.seconds, if nanosPerSecond ≤ u.nanoseconds then nanosPerSecond else 0⟩

variable {u : UtcDate}

theorem time_whole (u : UtcDate) : u.whole.time = { u.time with nanosecond := 0 } := by
  by_cases hleap : nanosPerSecond ≤ u.nanoseconds
  · simp [whole, time, hleap]
  · have hpos : ¬ nanosPerSecond ≤ 0 := by decide
    simp [whole, time, hleap, hpos]

theorem Proper.whole (h : u.Proper) : u.whole.Proper := by
  unfold Proper at *
  unfold UtcDate.whole
  split_ifs with hleap
  · rcases h with h | h
    · exact absurd h (Nat.not_lt.2 hleap)
    · exact Or.inr ⟨h.1, (by decide : nanosPerSecond < 2 * nanosPerSecond)⟩
  · exact Or.inl (by decide : 0 < nanosPerSecond)

/-- An instant is written as the date that it is in Greenwich. -/
theorem print_eq (u : UtcDate) : u.print = Date.print ⟨u.time, 0⟩ := rfl

theorem print_whole (u : UtcDate) : u.whole.print = u.print := by
  rw [print, print, time_whole]
  rfl

theorem read_eq_ok_iff {s : String} :
    (read (Draft.string s) : Except Problem UtcDate) = .ok u ↔
      ∃ d, (read (Draft.string s) : Except Problem Date) = .ok d ∧ d.utc = u :=
  map_eq_ok_iff

/-! ### Years of four digits -/

/-- What is written for an instant in a year of four digits spells the instant without its fraction (`whole`), in UTC.
-/
theorem spelled_print (h : u.Proper) (hyear : u.HasFourDigitYear) :
    Date.Spelled (Utf8.encode u.print) ⟨u.whole.time, 0⟩ (byte 'T') [] [byte 'Z'] := by
  have hzone : Utf8.encode (offsetText 0) = [byte 'Z'] := encode_offsetText 0
  have hspelled := Date.spelled_print (d := ⟨u.time, 0⟩) ⟨h.onClock_time, hyear⟩
    (by decide : (0 : Int).natAbs < 24 * 60)
  rw [← print_eq, hzone] at hspelled
  rw [time_whole]
  exact hspelled

theorem read_print (h : u.Proper) (hyear : u.HasFourDigitYear) :
    (read (Draft.string u.print) : Except Problem UtcDate) = .ok u.whole := by
  refine read_eq_ok_iff.2 ⟨⟨u.whole.time, 0⟩, ?_, ?_⟩
  · exact Date.read_eq_ok_iff.2 (Date.ofText?_eq_ok_iff.2 ⟨_, _, _, spelled_print h hyear⟩)
  · unfold Date.utc
    simp only [Int.zero_mul, Int.sub_zero]
    exact h.whole.instant_time

/-! ### Other years -/

/-- A year of another length is written with a sign in front. -/
theorem exists_sign_print (h : ¬ u.HasFourDigitYear) :
    ∃ b rest, (b = byte '+' ∨ b = byte '-') ∧ Utf8.encode u.print = b :: rest := by
  have hplus : Utf8.encode "+" = [byte '+'] := Percent.encode_singleton (c := '+') (by decide)
  unfold HasFourDigitYear at h
  unfold print LocalTime.print yearText
  rw [if_neg h]
  simp only [Utf8.encode_append, List.append_assoc]
  split_ifs
  · exact ⟨byte '-', _, Or.inr rfl, by rw [encode_hyphen]; rfl⟩
  · exact ⟨byte '+', _, Or.inl rfl, by rw [hplus]; rfl⟩

theorem read_print_ne_ok (h : ¬ u.HasFourDigitYear) (v : UtcDate) :
    (read (Draft.string u.print) : Except Problem UtcDate) ≠ .ok v := by
  intro hread
  obtain ⟨d, hd, -⟩ := read_eq_ok_iff.1 hread
  obtain ⟨mark, fraction, zone, hspelled⟩ := Date.ofText?_eq_ok_iff.1 (Date.read_eq_ok_iff.1 hd)
  obtain ⟨b, rest, hb, hbytes⟩ := exists_sign_print h
  obtain ⟨n, hn, rfl⟩ := Date.Spelled.head hspelled hbytes
  have hsign : ∀ n < 10, ¬ (digitByte n = byte '+' ∨ digitByte n = byte '-') := by decide
  exact hsign n hn hb

/-! ### The ends of the years -/

/-- In UTC the year has other than four digits only on the first and the last day of all timestamps, where the clock
is ahead of UTC or behind it by more than what is left of the day. -/
theorem not_hasFourDigitYear_iff {d : Date} (h : d.time.Stampable) (hoffset : d.offset.natAbs < 24 * 60) :
    ¬ d.utc.HasFourDigitYear ↔
      d.time.date = ⟨0, 1, 1⟩ ∧ d.minutesInUtc < 0 ∨ d.time.date = ⟨9999, 12, 31⟩ ∧ 24 * 60 ≤ d.minutesInUtc := by
  have hday := h.day
  obtain ⟨hyear₀, hyear⟩ := h.year
  have hhour := h.hour
  have hminute := h.minute
  -- In UTC it is at most one day earlier or later.
  have hminutes : -1440 < d.minutesInUtc ∧ d.minutesInUtc < 2880 := by
    unfold Date.minutesInUtc
    omega
  have hshown : d.utc.time.date = dayOfNumber (dayNumber d.time.date + d.minutesInUtc / 1440) := by
    rw [← d.day_utc h.toOnClock]
    rfl
  obtain ⟨hexists, hnumber⟩ := dayOfNumber_spec (dayNumber d.time.date + d.minutesInUtc / 1440)
  have hfirst : dayNumber ⟨0, 1, 1⟩ = -719528 := by decide
  have hlast : dayNumber ⟨9999, 12, 31⟩ = 2932896 := by decide
  have hnext : dayNumber ⟨10000, 1, 1⟩ = 2932897 := by decide
  have hlow := year_lt_iff hexists 0
  have hhigh := year_lt_iff hexists 10000
  have hlow' := year_lt_iff hday 0
  have hhigh' := year_lt_iff hday 10000
  have heq₀ : d.time.date = ⟨0, 1, 1⟩ ↔ dayNumber d.time.date = -719528 := by
    rw [← hfirst]
    exact ⟨congrArg dayNumber, dayNumber_inj hday (by decide)⟩
  have heq₁ : d.time.date = ⟨9999, 12, 31⟩ ↔ dayNumber d.time.date = 2932896 := by
    rw [← hlast]
    exact ⟨congrArg dayNumber, dayNumber_inj hday (by decide)⟩
  rw [hnumber, hfirst] at hlow
  rw [hnumber, hnext] at hhigh
  rw [hfirst] at hlow'
  rw [hnext] at hhigh'
  unfold UtcDate.HasFourDigitYear
  rw [hshown, heq₀, heq₁]
  omega

/-- An instant is written as a timestamp, which is read and written the same again, if and only if it has a year of
four digits (`HasFourDigitYear`), as all have but those of some texts from the first or the last day. -/
theorem read_again_iff {s : String} {u : UtcDate} (h : (read (Draft.string s) : Except Problem UtcDate) = .ok u) :
    ∃ t, write u = .ok (.string t) ∧
      (u.HasFourDigitYear →
        Date.Spelled (Utf8.encode t) ⟨u.whole.time, 0⟩ (byte 'T') [] [byte 'Z'] ∧
          (read (Draft.string t) : Except Problem UtcDate) = .ok u.whole ∧ write u.whole = .ok (.string t)) ∧
      ((∃ v, (read (Draft.string t) : Except Problem UtcDate) = .ok v) ↔ u.HasFourDigitYear) ∧
      ((∃ d mark fraction zone, Date.Spelled (Utf8.encode t) d mark fraction zone) ↔ u.HasFourDigitYear) ∧
      ∃ d, (read (Draft.string s) : Except Problem Date) = .ok d ∧ d.utc = u ∧
        (¬ u.HasFourDigitYear ↔
          d.time.date = ⟨0, 1, 1⟩ ∧ d.minutesInUtc < 0 ∨
            d.time.date = ⟨9999, 12, 31⟩ ∧ 24 * 60 ≤ d.minutesInUtc) := by
  obtain ⟨d, hd, rfl⟩ := read_eq_ok_iff.1 h
  obtain ⟨_, _, _, hspelled⟩ := Date.ofText?_eq_ok_iff.1 (Date.read_eq_ok_iff.1 hd)
  have hproper := Date.proper_utc hspelled.time.toOnClock
  have hread : (∃ v, (read (Draft.string d.utc.print) : Except Problem UtcDate) = .ok v) ↔ d.utc.HasFourDigitYear := by
    constructor
    · rintro ⟨v, hv⟩
      by_contra hyear
      exact read_print_ne_ok hyear v hv
    · exact fun hyear => ⟨_, read_print hproper hyear⟩
  refine ⟨d.utc.print, rfl, fun hyear => ⟨spelled_print hproper hyear, read_print hproper hyear, ?_⟩, hread, ?_,
    d, hd, rfl, not_hasFourDigitYear_iff hspelled.time hspelled.offset⟩
  · exact congrArg (fun t => Except.ok (Tree.string t)) (print_whole d.utc)
  · rw [← hread]
    constructor
    · rintro ⟨d', mark, fraction, zone, hspelled'⟩
      have hd' := Date.read_eq_ok_iff.2 (Date.ofText?_eq_ok_iff.2 ⟨mark, fraction, zone, hspelled'⟩)
      exact ⟨d'.utc, read_eq_ok_iff.2 ⟨d', hd', rfl⟩⟩
    · rintro ⟨v, hv⟩
      obtain ⟨d', hd', -⟩ := read_eq_ok_iff.1 hv
      exact ⟨d', Date.ofText?_eq_ok_iff.1 (Date.read_eq_ok_iff.1 hd')⟩

/-- The leap second at the end of the last year, to the west of Greenwich. -/
theorem read_again_iff_of_last_second :
    ∃ u, (read (Draft.string "9999-12-31T22:59:60.5-01:00") : Except Problem UtcDate) = .ok u ∧
      u.HasFourDigitYear ∧ write u = .ok (.string "9999-12-31T23:59:60Z") ∧
        (read (Draft.string "9999-12-31T23:59:60Z") : Except Problem UtcDate) = .ok u.whole := by
  have hdate : (read (Draft.string "9999-12-31T22:59:60.5-01:00") : Except Problem Date) =
      .ok ⟨⟨⟨9999, 12, 31⟩, 22, 59, 60, 500000000⟩, -60⟩ := Date.read_eq_ok_iff.2 (by decide +kernel)
  have hread := read_eq_ok_iff.2 ⟨_, hdate, rfl⟩
  have hyear : HasFourDigitYear (Date.utc ⟨⟨⟨9999, 12, 31⟩, 22, 59, 60, 500000000⟩, -60⟩) := by
    unfold HasFourDigitYear
    decide
  have hprint : print (Date.utc ⟨⟨⟨9999, 12, 31⟩, 22, 59, 60, 500000000⟩, -60⟩) = "9999-12-31T23:59:60Z" := by
    decide +kernel
  obtain ⟨t, hwrite, hagain, -⟩ := read_again_iff hread
  obtain rfl : t = "9999-12-31T23:59:60Z" := by
    rw [← hprint]
    exact (Tree.string.inj (Except.ok.inj hwrite)).symm
  exact ⟨_, hread, hyear, hwrite, (hagain hyear).2.1⟩

/-- The last second of the last year, to the west of Greenwich, is read and written. What is written is not read. -/
theorem not_read_again :
    ∃ u, (read (Draft.string "9999-12-31T23:59:59-01:00") : Except Problem UtcDate) = .ok u ∧
      write u = .ok (.string "+10000-01-01T00:59:59Z") ∧
        ∀ v, (read (Draft.string "+10000-01-01T00:59:59Z") : Except Problem UtcDate) ≠ .ok v := by
  have hdate : (read (Draft.string "9999-12-31T23:59:59-01:00") : Except Problem Date) =
      .ok ⟨⟨⟨9999, 12, 31⟩, 23, 59, 59, 0⟩, -60⟩ := Date.read_eq_ok_iff.2 (by decide +kernel)
  have hprint : print (Date.utc ⟨⟨⟨9999, 12, 31⟩, 23, 59, 59, 0⟩, -60⟩) = "+10000-01-01T00:59:59Z" := by
    decide +kernel
  have hrefused : Date.ofText? "+10000-01-01T00:59:59Z" = .error .badCharacter := by decide +kernel
  refine ⟨_, read_eq_ok_iff.2 ⟨_, hdate, rfl⟩, congrArg (fun t => Except.ok (Tree.string t)) hprint, fun v hv => ?_⟩
  obtain ⟨d, hd, -⟩ := read_eq_ok_iff.1 hv
  rw [Date.read_eq_ok_iff, hrefused] at hd
  cases hd

end UtcDate

end JmapClient
