import JmapClient.Proofs.Timestamps

/-!
# Dates are written in normal form

A date is written without the fraction of its second, and with its offset as `Z` or behind an ASCII sign. What is
written has the day, the time of day and the offset that the date was read from; it is read as the same date
without the fraction, and that date is written the same again (`Date.write_normal`). A date is as good as its
instant and its offset (`Date.shownAt_utc`).
-/

namespace JmapClient

open Json Calendar Timestamp

/-! ### Instants and offsets -/

/-- The local time of a date is what a clock there shows at its instant. -/
theorem Date.shownAt_utc {d : Date} (h : d.time.OnClock) : d.utc.shownAt d.offset = d.time := by
  unfold UtcDate.shownAt utc
  simp only [Int.sub_add_cancel]
  exact h.time_instant

theorem Date.proper_utc {d : Date} (h : d.time.OnClock) : d.utc.Proper := by
  have hproper := h.proper_instant.shift (-d.offset)
  rwa [Int.neg_mul, ← Int.sub_eq_add_neg] at hproper

/-! ### Reading and writing -/

/-- The date without the fraction of its second. -/
def Date.whole (d : Date) : Date := { d with time := { d.time with nanosecond := 0 } }

theorem Date.read_eq_ok_iff {s : String} {d : Date} :
    (read (Draft.string s) : Except Problem Date) = .ok d ↔ ofText? s = .ok d := by
  have htext : (read (Draft.string s) : Except Problem String) = .ok s := rfl
  change readDate (.string s) = _ ↔ _
  rw [readDate, htext, ok_bind]
  cases ofText? s <;> simp [pure_eq_ok]

theorem UtcDate.read_of_date {s : String} {d : Date} (h : (read (Draft.string s) : Except Problem Date) = .ok d) :
    (read (Draft.string s) : Except Problem UtcDate) = .ok d.utc :=
  congrArg (Except.map Date.utc) h

namespace Timestamp

/-- An offset as a timestamp has it and as it is written: `Z` if there is none, and else the same hours and minutes
behind an ASCII sign. -/
inductive Rewritten : Int → List UInt8 → List UInt8 → Prop
  | none {zone : List UInt8} : Rewritten 0 zone [byte 'Z']
  | east {n : Int} {clock : List UInt8} (h : 0 < n) : Rewritten n (byte '+' :: clock) (byte '+' :: clock)
  | west {n : Int} {sign clock : List UInt8} (h : n < 0) (hsign : IsSign sign true) :
    Rewritten n (sign ++ clock) (byte '-' :: clock)

/-- The bytes of an offset as it is written (`offsetText`). -/
theorem encode_offsetText (n : Int) : Utf8.encode (offsetText n) =
    if n = 0 then [byte 'Z']
    else (if n < 0 then byte '-' else byte '+') :: offsetClock (n.natAbs / 60) (n.natAbs % 60) := by
  have hplus : Utf8.encode "+" = [byte '+'] := Percent.encode_singleton (c := '+') (by decide)
  unfold offsetText offsetClock
  split_ifs with hzero hwest
  · exact Percent.encode_singleton (c := 'Z') (by decide)
  · simp only [Utf8.encode_append, encode_hyphen, encode_colon, List.append_assoc, List.cons_append, List.nil_append]
  · simp only [Utf8.encode_append, hplus, encode_colon, List.append_assoc, List.cons_append, List.nil_append]

/-- The hours and minutes of an offset are those that were read. -/
theorem IsOffset.rewritten {zone : List UInt8} {n : Int} (h : IsOffset zone n) :
    Rewritten n zone (Utf8.encode (offsetText n)) := by
  rw [encode_offsetText]
  cases h with
  | utc _ => exact .none
  | @signed sign west hours minutes hsign _ hminutes =>
    by_cases hzero : (hours * 60 + minutes : Int) = 0
    · have hnone : (if west then -(hours * 60 + minutes : Int) else hours * 60 + minutes) = 0 := by
        cases west <;> simp [hzero]
      rw [hnone]
      exact .none
    · have habs : (if west then -(hours * 60 + minutes : Int) else hours * 60 + minutes).natAbs =
          hours * 60 + minutes := by
        cases west <;> simp <;> omega
      have hhours : (hours * 60 + minutes) / 60 = hours := by omega
      have hrest : (hours * 60 + minutes) % 60 = minutes := by omega
      rw [habs, hhours, hrest]
      cases west with
      | true =>
        rw [if_pos rfl, if_neg (by omega), if_pos (by omega)]
        exact .west (by omega) hsign
      | false =>
        cases hsign
        rw [if_neg (by decide), if_neg (by omega), if_neg (by omega)]
        exact .east (by omega)

/-- What is written for an offset is an offset (`IsOffset`). -/
theorem isOffset_offsetText {n : Int} (h : n.natAbs < 24 * 60) : IsOffset (Utf8.encode (offsetText n)) n := by
  rw [encode_offsetText]
  have hhours : n.natAbs / 60 < 100 := by omega
  have hminutes : n.natAbs % 60 ≤ 59 := by omega
  split_ifs with hzero hwest
  · rw [hzero]
    exact .utc (.inl rfl)
  · have hn : -((n.natAbs / 60 : Nat) * 60 + (n.natAbs % 60 : Nat) : Int) = n := by omega
    have hsigned := IsOffset.signed .hyphen hhours hminutes
    rwa [if_pos rfl, hn] at hsigned
  · have hn : ((n.natAbs / 60 : Nat) * 60 + (n.natAbs % 60 : Nat) : Int) = n := by omega
    have hsigned := IsOffset.signed .plus hhours hminutes
    rwa [if_neg (by decide), hn] at hsigned

end Timestamp

theorem Date.encode_print {d : Date} (h : d.time.Stampable) : Utf8.encode d.print =
    Utf8.encode d.time.dayText ++ byte 'T' :: (Utf8.encode d.time.clockText ++ Utf8.encode (offsetText d.offset)) := by
  have hmark : Utf8.encode "T" = [byte 'T'] := Percent.encode_singleton (c := 'T') (by decide)
  unfold Date.print LocalTime.print yearText
  rw [if_pos h.year]
  simp only [LocalTime.dayText, LocalTime.clockText, Utf8.encode_append, hmark, List.append_assoc,
    List.cons_append, List.nil_append]

/-- What is written for a date spells the date without its fraction (`Date.whole`). -/
theorem Date.spelled_print {d : Date} (h : d.time.Stampable) (hoffset : d.offset.natAbs < 24 * 60) :
    d.whole.Spelled (Utf8.encode d.print) (byte 'T') [] (Utf8.encode (offsetText d.offset)) where
  time := { h with nanosecond := Nat.zero_lt_of_lt h.nanosecond }
  offset := hoffset
  isMark := .inl rfl
  isFraction := .none
  isOffset := isOffset_offsetText hoffset
  eq := encode_print h

/-- A date is written in normal form (`Rewritten`), read again without its fraction and written the same again, and
dates are in the order of their instants (`Date.utc`). -/
theorem Date.write_normal {s : String} {d : Date} (h : (read (Draft.string s) : Except Problem Date) = .ok d) :
    (∃ t mark fraction zone zone',
      write d = .ok (.string t) ∧
        d.Spelled (Utf8.encode s) mark fraction zone ∧
          d.whole.Spelled (Utf8.encode t) (byte 'T') [] zone' ∧ Rewritten d.offset zone zone' ∧
            (read (Draft.string t) : Except Problem Date) = .ok d.whole ∧ write d.whole = .ok (.string t)) ∧
      d.utc.shownAt d.offset = d.time ∧
        ∀ s' d', (read (Draft.string s') : Except Problem Date) = .ok d' →
          (read (Draft.string s) : Except Problem UtcDate) = .ok d.utc ∧
            (read (Draft.string s') : Except Problem UtcDate) = .ok d'.utc ∧
              d.compare d' = d.utc.compare d'.utc ∧ (d.compare d' = .eq ↔ d.utc = d'.utc) ∧
                ∀ offset, d.compare d' = .lt ↔ (d.utc.shownAt offset).Before (d'.utc.shownAt offset) := by
  obtain ⟨mark, fraction, zone, hspelled⟩ := ofText?_eq_ok_iff.1 (read_eq_ok_iff.1 h)
  have hprint := spelled_print hspelled.time hspelled.offset
  refine ⟨⟨d.print, mark, fraction, zone, Utf8.encode (offsetText d.offset), rfl, hspelled, hprint,
    hspelled.isOffset.rewritten, read_eq_ok_iff.2 (ofText?_eq_ok_iff.2 ⟨_, _, _, hprint⟩), rfl⟩,
    shownAt_utc hspelled.time.toOnClock, ?_⟩
  intro s' d' h'
  obtain ⟨_, _, _, hspelled'⟩ := ofText?_eq_ok_iff.1 (read_eq_ok_iff.1 h')
  have hproper := proper_utc hspelled.time.toOnClock
  have hproper' := proper_utc hspelled'.time.toOnClock
  exact ⟨UtcDate.read_of_date h, UtcDate.read_of_date h', rfl, UtcDate.compare_eq_eq_iff,
    hproper.compare_shownAt hproper'⟩

/-- The leap second of the end of 2016, as it was shown in India and in Greenwich. -/
theorem Date.write_normal_of_leap_second :
    ∃ d d', (read (Draft.string "2017-01-01 05:29:60.5+05:30") : Except Problem Date) = .ok d ∧
      (read (Draft.string "2016-12-31T23:59:60.50Z") : Except Problem Date) = .ok d' ∧
        write d = .ok (.string "2017-01-01T05:29:60+05:30") ∧
          (read (Draft.string "2017-01-01T05:29:60+05:30") : Except Problem Date) = .ok d.whole ∧
            d.compare d' = .eq := by
  have hindia : (read (Draft.string "2017-01-01 05:29:60.5+05:30") : Except Problem Date) =
      .ok ⟨⟨⟨2017, 1, 1⟩, 5, 29, 60, 500000000⟩, 330⟩ := read_eq_ok_iff.2 (by decide +kernel)
  have hgreenwich : (read (Draft.string "2016-12-31T23:59:60.50Z") : Except Problem Date) =
      .ok ⟨⟨⟨2016, 12, 31⟩, 23, 59, 60, 500000000⟩, 0⟩ := read_eq_ok_iff.2 (by decide +kernel)
  have hprint : Date.print ⟨⟨⟨2017, 1, 1⟩, 5, 29, 60, 500000000⟩, 330⟩ = "2017-01-01T05:29:60+05:30" := by
    decide +kernel
  obtain ⟨⟨t, _, _, _, _, hwrite, -, -, -, hread, -⟩, -, horder⟩ := write_normal hindia
  obtain ⟨-, -, -, heq, -⟩ := horder _ _ hgreenwich
  obtain rfl : t = "2017-01-01T05:29:60+05:30" := by
    rw [← hprint]
    exact (Tree.string.inj (Except.ok.inj hwrite)).symm
  exact ⟨_, _, hindia, hgreenwich, hwrite, hread, heq.2 (by decide +kernel)⟩

end JmapClient
