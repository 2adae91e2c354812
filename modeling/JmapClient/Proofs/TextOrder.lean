import JmapClient.Proofs.Utf8
import Mathlib.Data.List.Nodup
import Mathlib.Data.String.Basic

/-!
# The order of texts

Texts are ordered by their characters. That is the order of their bytes too (`Utf8.encode_lt_encode_iff`): of two
characters the lesser one has the lesser bytes, whatever follows them (`Utf8.utf8EncodeChar_append_lt`).
-/

namespace JmapClient.Utf8

/-- Of two numbers the lesser one has less behind its last digit to the base 64, or the same and a lesser last
digit. -/
theorem div_lt_or_mod_lt {v w : Nat} (h : v < w) :
    v / 64 < w / 64 ∨ v / 64 = w / 64 ∧ v % 64 < w % 64 := by
  omega

theorem utf8EncodeChar_append_lt {c d : Char} (h : c < d) (bs bs' : List UInt8) :
    String.utf8EncodeChar c ++ bs < String.utf8EncodeChar d ++ bs' := by
  obtain ⟨v, hv⟩ : ∃ v, v = c.val.toNat := ⟨_, rfl⟩
  obtain ⟨w, hw⟩ : ∃ w, w = d.val.toNat := ⟨_, rfl⟩
  have hlt : v < w := by
    rw [hv, hw, ← UInt32.lt_iff_toNat_lt]
    exact h
  have hmax : w < 0x110000 := by
    have hvalid := d.valid
    rw [UInt32.isValidChar, Nat.isValidChar, ← hw] at hvalid
    omega
  simp only [String.utf8EncodeChar, ← hv, ← hw]
  by_cases hfour : 65535 < v
  · -- Both have four bytes, the digits of their numbers to the base 64.
    have htail (n : Nat) : (n % 64 + 128) % 256 = n % 64 + 128 := by omega
    have hlead (n : Nat) (hn : n < 0x110000) : (n / 262144 % 8 + 240) % 256 = n / 262144 + 240 := by omega
    have hfirst := div_lt_or_mod_lt hlt
    have hsecond : v / 64 < w / 64 → _ := div_lt_or_mod_lt
    have hthird : v / 64 / 64 < w / 64 / 64 → _ := div_lt_or_mod_lt
    simp only [Nat.div_div_eq_div_mul, Nat.reduceMul] at hsecond hthird
    rw [if_neg (by omega), if_neg (by omega), if_neg (by omega), if_neg (by omega), if_neg (by omega),
      if_neg (by omega)]
    simp only [List.cons_append, List.nil_append, List.cons_lt_cons_iff, UInt8.lt_iff_toNat_lt,
      ← UInt8.toNat_inj, UInt8.toNat_ofNat', Nat.reducePow, htail, hlead v (by omega), hlead w hmax]
    omega
  · split_ifs <;>
      simp only [List.cons_append, List.nil_append, List.cons_lt_cons_iff, UInt8.lt_iff_toNat_lt,
        ← UInt8.toNat_inj, UInt8.toNat_ofNat'] <;>
      omega

theorem flatMap_utf8EncodeChar_lt {cs ds : List Char} (h : cs < ds) :
    cs.flatMap String.utf8EncodeChar < ds.flatMap String.utf8EncodeChar := by
  induction cs generalizing ds with
  | nil =>
    cases ds with
    | nil => cases h
    | cons d ds =>
      obtain ⟨b, tail, hd⟩ := List.exists_cons_of_ne_nil (l := String.utf8EncodeChar d) (by simp)
      rw [List.flatMap_cons, hd]
      exact List.nil_lt_cons _ _
  | cons c cs ih =>
    cases ds with
    | nil => cases h
    | cons d ds =>
      rw [List.flatMap_cons, List.flatMap_cons]
      rcases List.cons_lt_cons_iff.1 h with hcd | ⟨rfl, hrest⟩
      · exact utf8EncodeChar_append_lt hcd _ _
      · exact List.append_left_lt (ih hrest)

theorem encode_lt_encode {s t : String} (h : s < t) : encode s < encode t := by
  rw [encode_eq_flatMap, encode_eq_flatMap]
  exact flatMap_utf8EncodeChar_lt (String.lt_iff.1 h)

/-- Texts are ordered like their bytes (`Utf8.encode`). -/
theorem encode_lt_encode_iff {s t : String} : encode s < encode t ↔ s < t := by
  refine ⟨fun h => ?_, encode_lt_encode⟩
  rcases lt_trichotomy s t with hst | rfl | hts
  · exact hst
  · exact absurd h (List.lt_irrefl _)
  · exact absurd (encode_lt_encode hts) (List.lt_asymm h)

/-! ### Sorting by texts -/

section Sorting

variable {α : Type} {text : α → String} {as bs : List α}

/-- Sorts a list by its texts, `text`, byte by byte. -/
def sortBy (text : α → String) (as : List α) : List α :=
  as.mergeSort fun a b => !decide (encode (text b) < encode (text a))

/-- A list that is in strictly increasing order is what any list of the same items is sorted into. -/
theorem sortBy_eq_of_perm (hperm : as.Perm bs) (hbs : bs.Pairwise fun a b => text a < text b) :
    sortBy text as = bs := by
  have hle {a b : α} : (!decide (encode (text b) < encode (text a))) = true ↔ text a ≤ text b := by
    rw [Bool.not_eq_true', decide_eq_false_iff_not, encode_lt_encode_iff, not_lt]
  have htrans (a b c : α) (hab : (!decide (encode (text b) < encode (text a))) = true)
      (hbc : (!decide (encode (text c) < encode (text b))) = true) :
      (!decide (encode (text c) < encode (text a))) = true :=
    hle.2 ((hle.1 hab).trans (hle.1 hbc))
  have htotal (a b : α) :
      (!decide (encode (text b) < encode (text a)) || !decide (encode (text a) < encode (text b))) = true := by
    rw [Bool.or_eq_true, hle, hle]
    exact le_total _ _
  have hn : (bs.map text).Nodup := by
    rw [List.Nodup, List.pairwise_map]
    exact hbs.imp ne_of_lt
  have hsorted := (List.mergeSort_perm as fun a b => !decide (encode (text b) < encode (text a))).trans hperm
  refine hsorted.eq_of_pairwise (fun a b ha hb hab hba => ?_) (List.pairwise_mergeSort htrans htotal as)
    (hbs.imp fun hab => hle.2 hab.le)
  exact List.inj_on_of_nodup_map hn (hsorted.mem_iff.1 ha) hb (le_antisymm (hle.1 hab) (hle.1 hba))

end Sorting

end JmapClient.Utf8
