import JmapClient.Proofs.Digits
import JmapClient.Proofs.Instants

/-!
# The form of timestamps

`Date.Spelled` says what a timestamp looks like: a day, a mark, a time of day, perhaps a fraction of a second,
and an offset from UTC. A text is read as a date if and only if it spells the date (`Date.ofText?_eq_ok_iff`).
-/

namespace JmapClient

open Json Calendar

/-! ### The parts of a timestamp -/

namespace Timestamp

/-- `b` stands between a day and a time of day. -/
def IsMark (b : UInt8) : Prop := b = byte 'T' ∨ b = byte 't' ∨ b = byte ' '

/-- The bytes are a fraction of a second, which may be left out. Nine of its digits count. -/
inductive IsFraction : List UInt8 → Nat → Prop
  | none : IsFraction [] 0
  | digits {ds : List Nat} (hne : ds ≠ []) (hds : ∀ d ∈ ds, d < 10) :
    IsFraction (byte '.' :: ds.map digitByte) (ofDigits (ds.take 9) * tenTo (9 - (ds.take 9).length))

/-- The bytes are a sign, which may be that of the west. -/
inductive IsSign : List UInt8 → Bool → Prop
  | plus : IsSign [byte '+'] false
  | hyphen : IsSign [byte '-'] true
  | minus : IsSign [0xE2, 0x88, 0x92] true

/-- The hours and minutes of an offset. -/
def offsetClock (hours minutes : Nat) : List UInt8 :=
  Utf8.encode (padded 2 hours) ++ byte ':' :: Utf8.encode (padded 2 minutes)

/-- The bytes are an offset from UTC in minutes. -/
inductive IsOffset : List UInt8 → Int → Prop
  | utc {b : UInt8} (h : b = byte 'Z' ∨ b = byte 'z') : IsOffset [b] 0
  | signed {sign : List UInt8} {west : Bool} {hours minutes : Nat} (hsign : IsSign sign west)
    (hhours : hours < 100) (hminutes : minutes ≤ 59) :
    IsOffset (sign ++ offsetClock hours minutes)
      (if west then -(hours * 60 + minutes : Int) else hours * 60 + minutes)

variable {s r : List UInt8}

theorem exactly_eq_ok_iff {b : UInt8} {u : Unit} : exactly b s = .ok (u, r) ↔ s = b :: r := by
  cases s with
  | nil => simp [exactly]
  | cons c s => by_cases h : c = b <;> simp [exactly, h]

theorem separator_eq_ok_iff {u : Unit} : separator s = .ok (u, r) ↔ ∃ b, IsMark b ∧ s = b :: r := by
  cases s with
  | nil => simp [separator]
  | cons c s =>
    by_cases h : IsMark c
    · have hread : separator (c :: s) = .ok ((), s) := if_pos h
      simp [hread, h]
    · have hread : separator (c :: s) = .error .badCharacter := if_neg h
      simp [hread, h]

/-! ### Fractions -/

/-- No digit and no point stands at the front of `s`. -/
def EndsFraction (s : List UInt8) : Prop := ∀ b r, s = b :: r → digit? b = none ∧ b ≠ byte '.'

theorem digits_spec (s : List UInt8) :
    (∀ d ∈ (digits s).1, d < 10) ∧ s = (digits s).1.map digitByte ++ (digits s).2.val := by
  induction s with
  | nil => exact ⟨nofun, rfl⟩
  | cons b s ih =>
    rw [digits]
    cases hb : digit? b with
    | none => exact ⟨nofun, rfl⟩
    | some d =>
      obtain ⟨hd, rfl⟩ := digit?_eq_some_iff.1 hb
      obtain ⟨hds, hs⟩ := ih
      exact ⟨List.forall_mem_cons.2 ⟨hd, hds⟩, congrArg (digitByte d :: ·) hs⟩

theorem digits_append {ds : List Nat} (hds : ∀ d ∈ ds, d < 10) (hr : EndsFraction r) :
    (digits (ds.map digitByte ++ r)).1 = ds ∧ (digits (ds.map digitByte ++ r)).2.val = r := by
  induction ds with
  | nil =>
    cases r with
    | nil => exact ⟨rfl, rfl⟩
    | cons b r =>
      have hb := (hr b r rfl).1
      rw [List.map_nil, List.nil_append, digits, hb]
      exact ⟨rfl, rfl⟩
  | cons d ds ih =>
    rw [List.forall_mem_cons] at hds
    obtain ⟨hdigits, hrest⟩ := ih hds.2
    rw [List.map_cons, List.cons_append, digits, digit?_eq_some_iff.2 ⟨hds.1, rfl⟩]
    exact ⟨congrArg (d :: ·) hdigits, hrest⟩

/-- What is read behind a point. -/
theorem fraction_point {ds : List Nat} {rest : Tail s} (h : digits s = (ds, rest)) (hne : ds ≠ []) :
    fraction (byte '.' :: s) =
      .ok (ofDigits (ds.take 9) * tenTo (9 - (ds.take 9).length), rest.val) := by
  rw [fraction, if_pos rfl, h]
  cases ds with
  | nil => exact absurd rfl hne
  | cons d ds => rfl

theorem exists_isFraction {n : Nat} (h : fraction s = .ok (n, r)) : ∃ f, IsFraction f n ∧ s = f ++ r := by
  cases s with
  | nil =>
    obtain ⟨rfl, rfl⟩ := Prod.mk.inj (Except.ok.inj h)
    exact ⟨[], .none, rfl⟩
  | cons b s =>
    by_cases hb : b = byte '.'
    · obtain ⟨hlt, hs⟩ := digits_spec s
      rcases hdigits : digits s with ⟨ds, rest⟩
      rw [hdigits] at hlt hs
      by_cases hne : ds = []
      · rw [hb, fraction, if_pos rfl, hdigits, hne] at h
        cases h
      · rw [hb, fraction_point hdigits hne] at h
        obtain ⟨rfl, rfl⟩ := Prod.mk.inj (Except.ok.inj h)
        exact ⟨byte '.' :: ds.map digitByte, .digits hne hlt, by rw [hb, List.cons_append, ← hs]⟩
    · have hread : fraction (b :: s) = .ok (0, b :: s) := if_neg hb
      obtain ⟨rfl, rfl⟩ := Prod.mk.inj (Except.ok.inj (hread.symm.trans h))
      exact ⟨[], .none, rfl⟩

theorem fraction_append {f : List UInt8} {n : Nat} (hf : IsFraction f n) (hr : EndsFraction r) :
    fraction (f ++ r) = .ok (n, r) := by
  cases hf with
  | none =>
    cases r with
    | nil => rfl
    | cons b r => exact if_neg (hr b r rfl).2
  | @digits ds hne hds =>
    obtain ⟨hdigits, hrest⟩ := digits_append hds hr
    have hne' : (digits (ds.map digitByte ++ r)).1 ≠ [] := by rwa [hdigits]
    rw [List.cons_append, fraction_point (Prod.eta _).symm hne', hdigits, hrest]

/-- A fraction is less than a second. -/
theorem IsFraction.lt {f : List UInt8} {n : Nat} (hf : IsFraction f n) : n < nanosPerSecond := by
  cases hf with
  | none => decide
  | @digits ds hne hds =>
    obtain ⟨kept, hkept⟩ : ∃ kept, kept = ds.take 9 := ⟨_, rfl⟩
    have hlength : kept.length ≤ 9 := hkept ▸ List.length_take_le _ _
    have hlt : ofDigits kept < 10 ^ kept.length :=
      (digitsOf_ofDigits fun d hd => hds d (List.mem_of_mem_take (hkept ▸ hd))).2
    rw [← hkept]
    calc ofDigits kept * tenTo (9 - kept.length)
        < 10 ^ kept.length * 10 ^ (9 - kept.length) :=
          Nat.mul_lt_mul_of_pos_right hlt (Nat.pow_pos (by decide))
      _ = nanosPerSecond := by rw [← pow_add, Nat.add_sub_cancel' hlength]; rfl

/-! ### Offsets -/

theorem sign_eq_ok_iff {west : Bool} : sign s = .ok (west, r) ↔ ∃ bs, IsSign bs west ∧ s = bs ++ r := by
  constructor
  · intro h
    unfold sign at h
    split at h
    · cases h
    · obtain ⟨rfl, rfl⟩ := Prod.mk.inj (Except.ok.inj h)
      exact ⟨_, .minus, rfl⟩
    · split_ifs at h with hplus hhyphen
      · obtain ⟨rfl, rfl⟩ := Prod.mk.inj (Except.ok.inj h)
        exact ⟨_, .plus, by rw [hplus]; rfl⟩
      · obtain ⟨rfl, rfl⟩ := Prod.mk.inj (Except.ok.inj h)
        exact ⟨_, .hyphen, by rw [hhyphen]; rfl⟩
  · rintro ⟨bs, hbs, rfl⟩
    cases hbs <;> rfl

theorem signed_eq_ok_iff {n : Int} : offset.signed s = .ok (n, r) ↔
    ∃ sign west hours minutes, IsSign sign west ∧ hours < 100 ∧ minutes ≤ 59 ∧
      s = sign ++ (offsetClock hours minutes ++ r) ∧
        n = if west then -(hours * 60 + minutes : Int) else hours * 60 + minutes := by
  have htwo : (10 : Nat) ^ 2 = 100 := rfl
  unfold offset.signed
  simp only [bind_eq_ok_iff, Prod.exists, sign_eq_ok_iff, number_eq_ok_iff (Nat.zero_lt_two), exactly_eq_ok_iff,
    htwo]
  constructor
  · rintro ⟨west, _, ⟨sign, hsign, rfl⟩, hours, _, ⟨hhours, rfl⟩, _, _, rfl, minutes, _, ⟨-, rfl⟩, h⟩
    by_cases hminutes : 59 < minutes
    · rw [if_pos hminutes] at h
      cases h
    · rw [if_neg hminutes] at h
      obtain ⟨rfl, rfl⟩ := Prod.mk.inj (Except.ok.inj h)
      exact ⟨sign, west, hours, minutes, hsign, hhours, by omega, by simp [offsetClock], rfl⟩
  · rintro ⟨sign, west, hours, minutes, hsign, hhours, hminutes, rfl, rfl⟩
    refine ⟨west, _, ⟨sign, hsign, rfl⟩, hours, _, ⟨hhours, ?_⟩, (), _, rfl, minutes, r, ⟨by omega, rfl⟩, ?_⟩
    · simp [offsetClock]
    · rw [if_neg (by omega)]
      rfl

theorem IsSign.head_ne {bs : List UInt8} {west : Bool} (h : IsSign bs west) :
    ∃ b bs', bs = b :: bs' ∧ ¬ (b = byte 'Z' ∨ b = byte 'z') ∧ digit? b = none ∧ b ≠ byte '.' := by
  cases h with
  | plus => exact ⟨_, _, rfl, by decide, by decide, by decide⟩
  | hyphen => exact ⟨_, _, rfl, by decide, by decide, by decide⟩
  | minus => exact ⟨_, _, rfl, by decide, by decide, by decide⟩

theorem IsOffset.endsFraction {z : List UInt8} {n : Int} (h : IsOffset z n) (r : List UInt8) :
    EndsFraction (z ++ r) := by
  rintro b r' heq
  cases h with
  | utc hb =>
    obtain ⟨rfl, -⟩ := List.cons.inj heq
    rcases hb with rfl | rfl <;> decide
  | signed hsign _ _ =>
    obtain ⟨c, bs, rfl, -, hc⟩ := hsign.head_ne
    obtain ⟨rfl, -⟩ := List.cons.inj heq
    exact hc

/-- An offset is read if and only if it is spelled (`IsOffset`). -/
theorem offset_eq_ok_iff {n : Int} : Timestamp.offset s = .ok (n, r) ↔ ∃ z, IsOffset z n ∧ s = z ++ r := by
  cases s with
  | nil =>
    have hread : Timestamp.offset [] = .error .tooShort := rfl
    rw [hread]
    simp only [reduceCtorEq, false_iff, not_exists, not_and]
    intro z hz heq
    cases hz with
    | utc _ => cases heq
    | signed hsign _ _ =>
      obtain ⟨c, bs, rfl, -⟩ := hsign.head_ne
      cases heq
  | cons b s =>
    by_cases hb : b = byte 'Z' ∨ b = byte 'z'
    · have hread : Timestamp.offset (b :: s) = .ok (0, s) := if_pos hb
      rw [hread]
      constructor
      · intro h
        obtain ⟨rfl, rfl⟩ := Prod.mk.inj (Except.ok.inj h)
        exact ⟨[b], .utc hb, rfl⟩
      · rintro ⟨z, hz, heq⟩
        cases hz with
        | utc _ =>
          obtain ⟨rfl, rfl⟩ := List.cons.inj heq
          rfl
        | signed hsign _ _ =>
          obtain ⟨c, bs, rfl, hc, -⟩ := hsign.head_ne
          obtain ⟨rfl, -⟩ := List.cons.inj heq
          exact absurd hb hc
    · have hread : Timestamp.offset (b :: s) = offset.signed (b :: s) := if_neg hb
      rw [hread, signed_eq_ok_iff]
      constructor
      · rintro ⟨sign, west, hours, minutes, hsign, hhours, hminutes, hs, rfl⟩
        exact ⟨_, .signed hsign hhours hminutes, by rw [hs, List.append_assoc]⟩
      · rintro ⟨z, hz, heq⟩
        cases hz with
        | utc hb' =>
          obtain ⟨rfl, -⟩ := List.cons.inj heq
          exact absurd hb' hb
        | @signed sign west hours minutes hsign hhours hminutes =>
          exact ⟨sign, west, hours, minutes, hsign, hhours, hminutes, by rw [heq, List.append_assoc], rfl⟩

end Timestamp

/-! ### Timestamps -/

open Timestamp

/-- The year, the month and the day. -/
def LocalTime.dayText (t : LocalTime) : String :=
  padded 4 t.date.year.toNat ++ "-" ++ padded 2 t.date.month ++ "-" ++ padded 2 t.date.day

/-- The hour, the minute and the second. -/
def LocalTime.clockText (t : LocalTime) : String :=
  padded 2 t.hour ++ ":" ++ padded 2 t.minute ++ ":" ++ padded 2 t.second

/-- `t` can stand in a timestamp: a clock can show it, and the year has four digits. -/
structure LocalTime.Stampable (t : LocalTime) : Prop extends t.OnClock where
  year : 0 ≤ t.date.year ∧ t.date.year ≤ 9999

/-- The `bytes` are a timestamp of the date `d`. -/
structure Date.Spelled (bytes : List UInt8) (d : Date) (mark : UInt8) (fraction zone : List UInt8) : Prop where
  time : d.time.Stampable
  offset : d.offset.natAbs < 24 * 60
  isMark : IsMark mark
  isFraction : IsFraction fraction d.time.nanosecond
  isOffset : IsOffset zone d.offset
  eq : bytes = Utf8.encode d.time.dayText ++ mark :: (Utf8.encode d.time.clockText ++ (fraction ++ zone))

theorem encode_hyphen : Utf8.encode "-" = [byte '-'] := Percent.encode_singleton (c := '-') (by decide)

theorem encode_colon : Utf8.encode ":" = [byte ':'] := Percent.encode_singleton (c := ':') (by decide)

theorem LocalTime.encode_dayText (t : LocalTime) : Utf8.encode t.dayText =
    Utf8.encode (padded 4 t.date.year.toNat) ++ byte '-' :: (Utf8.encode (padded 2 t.date.month) ++
      byte '-' :: Utf8.encode (padded 2 t.date.day)) := by
  simp only [dayText, Utf8.encode_append, List.append_assoc, encode_hyphen, List.cons_append, List.nil_append]

theorem LocalTime.encode_clockText (t : LocalTime) : Utf8.encode t.clockText =
    Utf8.encode (padded 2 t.hour) ++ byte ':' :: (Utf8.encode (padded 2 t.minute) ++
      byte ':' :: Utf8.encode (padded 2 t.second)) := by
  simp only [clockText, Utf8.encode_append, List.append_assoc, encode_colon, List.cons_append, List.nil_append]

/-- A month has at most two digits, and so has a day. -/
theorem Calendar.Day.lt_of_exists {d : Day} (h : d.exists) : d.month < 10 ^ 2 ∧ d.day < 10 ^ 2 := by
  obtain ⟨⟨-, hmonth⟩, -, hday⟩ := Day.exists_iff.1 h
  have hlength : monthLength d.year d.month ≤ 31 := by
    unfold monthLength
    split_ifs <;> decide
  omega

theorem LocalTime.Stampable.lengths {t : LocalTime} (h : t.Stampable) :
    (Utf8.encode t.dayText).length = 10 ∧ (Utf8.encode t.clockText).length = 8 := by
  obtain ⟨⟨hday, hhour, hminute, hsecond, -⟩, hyear⟩ := h
  obtain ⟨hmonth, hday⟩ := Calendar.Day.lt_of_exists hday
  rw [encode_dayText, encode_clockText]
  simp only [List.length_append, List.length_cons]
  rw [length_encode_padded (by decide) (by omega), length_encode_padded (by decide) hmonth,
    length_encode_padded (by decide) hday, length_encode_padded (by decide) (by omega),
    length_encode_padded (by decide) (by omega), length_encode_padded (by decide) (by omega)]
  exact ⟨rfl, rfl⟩

/-- A check that is passed changes nothing. -/
theorem check_eq_ok_iff {ε α : Type} {c : Prop} [Decidable c] {e : ε} {k : Unit → Except ε α} {a : α} :
    (if c then (Except.error e : Except ε Unit) >>= k else k ()) = .ok a ↔ ¬ c ∧ k () = .ok a := by
  split_ifs with hc <;> simp [hc]

/-- `text` is read as a date if and only if it spells the date (`Spelled`). -/
theorem Date.ofText?_eq_ok_iff {text : String} {d : Date} :
    Date.ofText? text = .ok d ↔ ∃ mark fraction zone, Date.Spelled (Utf8.encode text) d mark fraction zone := by
  have hfour : 0 < 4 := by decide
  unfold Date.ofText?
  simp only [check_eq_ok_iff, bind_eq_ok_iff, Prod.exists, number_eq_ok_iff hfour,
    number_eq_ok_iff Nat.zero_lt_two, exactly_eq_ok_iff, separator_eq_ok_iff, offset_eq_ok_iff]
  constructor
  · rintro ⟨-, year, _, ⟨hyear, htext⟩, _, _, rfl, month, _, ⟨-, rfl⟩, _, _, rfl, day, _, ⟨-, rfl⟩, hday,
      _, _, ⟨mark, hmark, rfl⟩, hour, _, ⟨-, rfl⟩, _, _, rfl, minute, _, ⟨-, rfl⟩, _, _, rfl, second, _, ⟨-, rfl⟩,
      nanosecond, _, hread, hclock, offset, rest, ⟨zone, hzone, rfl⟩, hrest, hoffset, h⟩
    obtain rfl := Except.ok.inj h
    obtain ⟨fraction, hfraction, rfl⟩ := exists_isFraction hread
    obtain rfl : rest = [] := by simpa using hrest
    simp only [not_or, not_lt] at hclock
    obtain ⟨hhour, hminute, hsecond⟩ := hclock
    have hyear : (year : Int) ≤ 9999 := by omega
    refine ⟨mark, fraction, zone, ⟨⟨⟨by simpa using hday, hhour, hminute, hsecond, hfraction.lt⟩,
      Int.natCast_nonneg year, hyear⟩, Nat.lt_of_not_le hoffset, hmark, hfraction, hzone, ?_⟩⟩
    rw [htext, LocalTime.encode_dayText, LocalTime.encode_clockText]
    simp
  · rintro ⟨mark, fraction, zone, ⟨htime, hoffset, hmark, hfraction, hzone, htext⟩⟩
    obtain ⟨hlength₁, hlength₂⟩ := htime.lengths
    obtain ⟨⟨hday, hhour, hminute, hsecond, -⟩, hyear₁, hyear₂⟩ := htime
    obtain ⟨hmonth₂, hday₂⟩ := Calendar.Day.lt_of_exists hday
    have hyear : (d.time.date.year.toNat : Int) = d.time.date.year := Int.toNat_of_nonneg hyear₁
    refine ⟨?_, d.time.date.year.toNat, _, ⟨by omega, ?_⟩, (), _, rfl, d.time.date.month, _, ⟨hmonth₂, rfl⟩,
      (), _, rfl, d.time.date.day, _, ⟨hday₂, rfl⟩, ?_, (), _, ⟨mark, hmark, rfl⟩,
      d.time.hour, _, ⟨by omega, rfl⟩, (), _, rfl, d.time.minute, _, ⟨by omega, rfl⟩, (), _, rfl,
      d.time.second, _, ⟨by omega, rfl⟩, d.time.nanosecond, _, fraction_append hfraction (hzone.endsFraction []),
      by omega, d.offset, [], ⟨zone, hzone, rfl⟩, by simp, by omega, ?_⟩
    · rw [htext, List.length_append, List.length_cons, List.length_append, hlength₁, hlength₂]
      simp only [minLength]
      omega
    · rw [htext, LocalTime.encode_dayText, LocalTime.encode_clockText]
      simp
    · rw [hyear]
      simpa using hday
    · rw [hyear]
      rfl

end JmapClient
