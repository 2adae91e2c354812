import JmapClient.Proofs.Except
import JmapClient.Proofs.Percent
import JmapClient.Timestamp
import Mathlib.Tactic.IntervalCases

/-!
# Numbers in a fixed number of digits

Timestamps have numbers of a fixed width. A number is read if and only if what stands there is the number
written in that width (`Timestamp.number_eq_ok_iff`), so nothing about its digits is lost by reading it.
-/

namespace JmapClient

open Json

/-! ### Digits -/

/-- The byte of the digit `d`. -/
def digitByte (d : Nat) : UInt8 := UInt8.ofNat (0x30 + d)

theorem digit?_eq_some_iff {b : UInt8} {d : Nat} : digit? b = some d ↔ d < 10 ∧ b = digitByte d := by
  have hle (x y : UInt8) : x ≤ y ↔ x.toNat ≤ y.toNat := UInt8.le_iff_toNat_le
  have hlow : (0x30 : UInt8).toNat = 48 := rfl
  have hhigh : (0x39 : UInt8).toNat = 57 := rfl
  unfold digit? digitByte
  simp only [hle, hlow, hhigh, ← UInt8.toNat_inj, UInt8.toNat_ofNat']
  constructor
  · intro h
    split at h
    · obtain rfl := Option.some.inj h
      omega
    · cases h
  · rintro ⟨hd, hb⟩
    rw [if_pos (by omega), Option.some.injEq]
    omega

theorem utf8EncodeChar_digitChar {d : Nat} (h : d < 10) : String.utf8EncodeChar d.digitChar = [digitByte d] := by
  interval_cases d <;> rfl

/-- The last digits of a number, as many as `width`. -/
def digitsOf : Nat → Nat → List Nat
  | 0, _ => []
  | width + 1, n => digitsOf width (n / 10) ++ [n % 10]

theorem length_digitsOf (width n : Nat) : (digitsOf width n).length = width := by
  induction width generalizing n with
  | zero => rfl
  | succ width ih => rw [digitsOf, List.length_append, ih, List.length_singleton]

theorem lt_of_mem_digitsOf {width n d : Nat} (h : d ∈ digitsOf width n) : d < 10 := by
  induction width generalizing n with
  | zero => cases h
  | succ width ih =>
    rcases List.mem_append.1 h with h | h
    · exact ih h
    · obtain rfl := List.mem_singleton.1 h
      exact Nat.mod_lt _ (by decide)

namespace Timestamp

theorem ofDigits_concat (ds : List Nat) (d : Nat) : ofDigits (ds ++ [d]) = ofDigits ds * 10 + d :=
  List.foldl_concat _ _ _ _

theorem ofDigits_digitsOf {width n : Nat} (h : n < 10 ^ width) : ofDigits (digitsOf width n) = n := by
  induction width generalizing n with
  | zero =>
    have hn : n = 0 := by simpa using h
    rw [hn]
    rfl
  | succ width ih =>
    have hquotient : n / 10 < 10 ^ width := by
      rw [pow_succ] at h
      omega
    rw [digitsOf, ofDigits_concat, ih hquotient]
    omega

/-- The digits of a number are those that it was read from. -/
theorem digitsOf_ofDigits {ds : List Nat} (h : ∀ d ∈ ds, d < 10) :
    digitsOf ds.length (ofDigits ds) = ds ∧ ofDigits ds < 10 ^ ds.length := by
  induction ds using List.reverseRecOn with
  | nil => exact ⟨rfl, by decide⟩
  | append_singleton ds d ih =>
    rw [List.forall_mem_append, List.forall_mem_singleton] at h
    obtain ⟨hds, hd⟩ := h
    obtain ⟨hdigits, hlt⟩ := ih hds
    have hquotient : (ofDigits ds * 10 + d) / 10 = ofDigits ds := by omega
    have hrest : (ofDigits ds * 10 + d) % 10 = d := by omega
    rw [List.length_append, List.length_singleton, ofDigits_concat, digitsOf, hquotient, hrest, hdigits,
      pow_succ]
    exact ⟨rfl, by omega⟩

end Timestamp

/-! ### Padded numbers -/

theorem toList_padded (width n : Nat) : (padded width n).toList =
    List.replicate (width - (Nat.toDigits 10 n).length) '0' ++ Nat.toDigits 10 n := by
  simp [padded, Nat.toList_repr, ← String.length_toList]

/-- A number that has a place for each digit is `padded` to just those places. -/
theorem toList_padded_of_lt {width n : Nat} (hwidth : 0 < width) (h : n < 10 ^ width) :
    (padded width n).toList = (digitsOf width n).map Nat.digitChar := by
  induction width generalizing n with
  | zero => cases hwidth
  | succ width ih =>
    have hlast : (digitsOf (width + 1) n).map Nat.digitChar =
        (digitsOf width (n / 10)).map Nat.digitChar ++ [(n % 10).digitChar] := by
      rw [digitsOf, List.map_append, List.map_singleton]
    rcases Nat.eq_zero_or_pos width with rfl | hpos
    · have hn : n < 10 := by simpa using h
      rw [toList_padded, hlast, Nat.toDigits_of_lt_base hn, Nat.mod_eq_of_lt hn]
      rfl
    · have hquotient : n / 10 < 10 ^ width := by
        rw [pow_succ] at h
        omega
      rw [hlast, ← ih hpos hquotient, toList_padded, toList_padded]
      by_cases hn : n < 10
      · -- The places before the last digit are all padding.
        have hzero : n / 10 = 0 := Nat.div_eq_of_lt hn
        obtain ⟨places, rfl⟩ : ∃ places, width = places + 1 := ⟨width - 1, by omega⟩
        rw [hzero, Nat.mod_eq_of_lt hn, Nat.toDigits_of_lt_base hn, Nat.toDigits_zero]
        simp [List.replicate_succ']
      · rw [Nat.toDigits_eq_if (by decide), if_neg hn, List.length_append, List.length_singleton,
          Nat.add_sub_add_right, List.append_assoc]

theorem encode_padded {width n : Nat} (hwidth : 0 < width) (h : n < 10 ^ width) :
    Utf8.encode (padded width n) = (digitsOf width n).map digitByte := by
  rw [Utf8.encode_eq_flatMap, toList_padded_of_lt hwidth h, List.flatMap_map, List.map_eq_flatMap]
  exact List.flatMap_congr fun d hd => utf8EncodeChar_digitChar (lt_of_mem_digitsOf hd)

theorem length_encode_padded {width n : Nat} (hwidth : 0 < width) (h : n < 10 ^ width) :
    (Utf8.encode (padded width n)).length = width := by
  rw [encode_padded hwidth h, List.length_map, length_digitsOf]

theorem mapM_digit?_eq_some_iff {bs : List UInt8} {ds : List Nat} :
    bs.mapM digit? = some ds ↔ (∀ d ∈ ds, d < 10) ∧ bs = ds.map digitByte := by
  rw [mapM_eq_some_iff]
  simp only [digit?_eq_some_iff]
  induction ds generalizing bs with
  | nil => simp
  | cons d ds ih =>
    simp only [List.forall₂_cons_right_iff, ih, List.forall_mem_cons, List.map_cons]
    constructor
    · rintro ⟨b, bs, ⟨hd, rfl⟩, ⟨hds, rfl⟩, rfl⟩
      exact ⟨⟨hd, hds⟩, rfl⟩
    · rintro ⟨⟨hd, hds⟩, rfl⟩
      exact ⟨_, _, ⟨hd, rfl⟩, ⟨hds, rfl⟩, rfl⟩

/-- A number is read from its `padded` form alone. -/
theorem Timestamp.number_eq_ok_iff {width n : Nat} (hwidth : 0 < width) {s r : List UInt8} :
    number width s = .ok (n, r) ↔ n < 10 ^ width ∧ s = Utf8.encode (padded width n) ++ r := by
  constructor
  · intro h
    unfold number at h
    split at h
    · cases h
    · rename_i hlength
      split at h
      · rename_i ds hds
        obtain ⟨rfl, rfl⟩ := Prod.mk.inj (Except.ok.inj h)
        obtain ⟨hlt, hbytes⟩ := mapM_digit?_eq_some_iff.1 hds
        have hwidth' : ds.length = width := by
          have hlen := congrArg List.length hbytes
          rw [List.length_take, List.length_map] at hlen
          omega
        obtain ⟨hdigits, hn⟩ := digitsOf_ofDigits hlt
        rw [hwidth'] at hdigits hn
        refine ⟨hn, ?_⟩
        rw [encode_padded hwidth hn, hdigits, ← hbytes, List.take_append_drop]
      · cases h
  · rintro ⟨hn, rfl⟩
    have hlength := length_encode_padded hwidth hn
    have hdigits : ((digitsOf width n).map digitByte).mapM digit? = some (digitsOf width n) :=
      mapM_digit?_eq_some_iff.2 ⟨fun d hd => lt_of_mem_digitsOf hd, rfl⟩
    unfold number
    rw [if_neg (by rw [List.length_append]; omega), List.take_left' hlength, List.drop_left' hlength,
      encode_padded hwidth hn, hdigits]
    simp only [ofDigits_digitsOf hn]

end JmapClient
