import JmapClient.Proofs.Except
import JmapClient.Utf8
import Mathlib.Data.List.Basic
import Mathlib.Data.List.Infix
import Mathlib.Tactic.SplitIfs

/-!
# Reading what was encoded

The bytes of a text are read as its characters (`Utf8.pieces_encode`), so decoding undoes encoding
(`Utf8.decode?_encode`). Of the bytes of a text that are cut within a character no text is made
(`Utf8.decode?_take_encode_eq_none_iff`).
-/

namespace JmapClient.Utf8

/-! ### Bytes -/

theorem toList_loop (bytes : ByteArray) (i : Nat) (r : List UInt8) :
    ByteArray.toList.loop bytes i r = r.reverse ++ bytes.data.toList.drop i := by
  induction i, r using ByteArray.toList.loop.induct bytes with
  | case1 i r h ih =>
    have hi : i < bytes.data.toList.length := by simpa using h
    rw [ByteArray.toList.loop, if_pos h, ih, List.drop_eq_getElem_cons hi]
    simp [ByteArray.get!, h]
  | case2 i r h =>
    have hi : bytes.data.toList.length ≤ i := by simpa using Nat.le_of_not_lt h
    rw [ByteArray.toList.loop, if_neg h, List.drop_eq_nil_of_le hi, List.append_nil]

theorem toList_eq_data (bytes : ByteArray) : bytes.toList = bytes.data.toList := by
  rw [ByteArray.toList, toList_loop]
  rfl

/-- The bytes of a text as they are stored, which the kernel evaluates faster than `encode`. -/
theorem encode_eq_data (s : String) : encode s = s.toUTF8.data.toList := toList_eq_data s.toUTF8

/-- The bytes of a text are those of its characters (`String.utf8EncodeChar`). -/
theorem encode_eq_flatMap (s : String) : encode s = s.toList.flatMap String.utf8EncodeChar := by
  rw [encode_eq_data, String.toUTF8_eq_toByteArray, ← String.utf8Encode_toList, List.utf8Encode,
    List.toList_data_toByteArray]

theorem encode_append (s t : String) : encode (s ++ t) = encode s ++ encode t := by
  simp [encode_eq_flatMap]

theorem length_encode (s : String) : (encode s).length = s.utf8ByteSize := by
  rw [encode_eq_data, String.toUTF8_eq_toByteArray, ← String.size_toByteArray]
  rfl

/-! ### One character -/

section Pending

variable {p : Pending} {x : Nat}

theorem toNat_tailByte (hx : x < 64) : (UInt8.ofNat (x + 128)).toNat = x + 128 := by
  rw [UInt8.toNat_ofNat']
  omega

/-- A byte in the range that is pending completes a character, or leaves fewer bytes missing. -/
theorem piecesFrom_tailByte (hx : x < 64) (hlow : p.low.toNat ≤ x + 128) (hhigh : x + 128 ≤ p.high.toNat)
    (bs : List UInt8) :
    piecesFrom (some p) (UInt8.ofNat (x + 128) :: bs) =
      if p.missing ≤ 1 then some (Char.ofNat (p.bits * 64 + x)) :: piecesFrom none bs
      else piecesFrom (some ⟨p.missing - 1, 0x80, 0xBF, p.bits * 64 + x⟩) bs := by
  have hrange : p.low ≤ UInt8.ofNat (x + 128) ∧ UInt8.ofNat (x + 128) ≤ p.high := by
    rw [UInt8.le_iff_toNat_le, UInt8.le_iff_toNat_le, toNat_tailByte hx]
    exact ⟨hlow, hhigh⟩
  have hbits : (UInt8.ofNat (x + 128)).toNat % 64 = x := by
    rw [toNat_tailByte hx]
    omega
  rw [piecesFrom, if_pos hrange, hbits]

theorem piecesFrom_lastByte (hx : x < 64) (bits : Nat) (bs : List UInt8) :
    piecesFrom (some ⟨1, 0x80, 0xBF, bits⟩) (UInt8.ofNat (x + 128) :: bs) =
      some (Char.ofNat (bits * 64 + x)) :: piecesFrom none bs := by
  have hlow : (0x80 : UInt8).toNat = 128 := rfl
  have hhigh : (0xBF : UInt8).toNat = 191 := rfl
  rw [piecesFrom_tailByte hx (by rw [hlow]; omega) (by rw [hhigh]; omega), if_pos (Nat.le_refl 1)]

theorem piecesFrom_middleByte {low high : UInt8} (hx : x < 64) (hlow : low.toNat ≤ x + 128)
    (hhigh : x + 128 ≤ high.toNat) (missing bits : Nat) (bs : List UInt8) :
    piecesFrom (some ⟨missing + 2, low, high, bits⟩) (UInt8.ofNat (x + 128) :: bs) =
      piecesFrom (some ⟨missing + 1, 0x80, 0xBF, bits * 64 + x⟩) bs := by
  rw [piecesFrom_tailByte hx hlow hhigh, if_neg (by simp)]
  rfl

/-- Of a character that breaks off nothing is made. -/
theorem none_mem_piecesFrom_of_length_lt {bs : List UInt8} (h : bs.length < p.missing) :
    none ∈ piecesFrom (some p) bs := by
  induction bs generalizing p with
  | nil => simp [piecesFrom]
  | cons b bs ih =>
    rw [List.length_cons] at h
    rw [piecesFrom]
    split_ifs with hrange hlast
    · omega
    · exact ih (by dsimp only; omega)
    · exact List.mem_cons_self

end Pending

section Leads

variable {v : Nat}

theorem ofByte_two (h : 0x80 ≤ v) (hv : v < 0x800) :
    Lead.ofByte (UInt8.ofNat (v / 64 % 32 + 192)) = .longer ⟨1, 0x80, 0xBF, v / 64⟩ := by
  have hn : (UInt8.ofNat (v / 64 % 32 + 192)).toNat = v / 64 + 192 := by
    rw [UInt8.toNat_ofNat']
    omega
  rw [Lead.ofByte, hn, if_neg (by omega), if_neg (by omega), if_pos (by omega), Nat.add_sub_cancel]

/-- The second byte of three excludes overlong forms and surrogates. -/
theorem ofByte_three (h : 0x800 ≤ v) (hv : v < 0x10000) (hvalid : v < 0xD800 ∨ 0xDFFF < v) :
    ∃ low high, Lead.ofByte (UInt8.ofNat (v / 4096 % 16 + 224)) = .longer ⟨2, low, high, v / 4096⟩ ∧
      low.toNat ≤ v / 64 % 64 + 128 ∧ v / 64 % 64 + 128 ≤ high.toNat := by
  have hn : (UInt8.ofNat (v / 4096 % 16 + 224)).toNat = v / 4096 + 224 := by
    rw [UInt8.toNat_ofNat']
    omega
  rw [Lead.ofByte, hn, if_neg (by omega), if_neg (by omega), if_neg (by omega)]
  by_cases hfirst : v / 4096 = 0
  · refine ⟨0xA0, 0xBF, ?_, ?_, ?_⟩
    · rw [if_pos (by omega), hfirst]
    · show 160 ≤ _
      omega
    · show _ ≤ 191
      omega
  rw [if_neg (by omega)]
  by_cases hsurrogates : v / 4096 = 13
  · refine ⟨0x80, 0x9F, ?_, ?_, ?_⟩
    · rw [if_pos (by omega), hsurrogates]
    · show 128 ≤ _
      omega
    · show _ ≤ 159
      omega
  · refine ⟨0x80, 0xBF, ?_, ?_, ?_⟩
    · rw [if_neg (by omega), if_pos (by omega), Nat.add_sub_cancel]
    · show 128 ≤ _
      omega
    · show _ ≤ 191
      omega

/-- The second byte of four excludes overlong forms and what is no character. -/
theorem ofByte_four (h : 0x10000 ≤ v) (hv : v < 0x110000) :
    ∃ low high, Lead.ofByte (UInt8.ofNat (v / 262144 % 8 + 240)) = .longer ⟨3, low, high, v / 262144⟩ ∧
      low.toNat ≤ v / 4096 % 64 + 128 ∧ v / 4096 % 64 + 128 ≤ high.toNat := by
  have hn : (UInt8.ofNat (v / 262144 % 8 + 240)).toNat = v / 262144 + 240 := by
    rw [UInt8.toNat_ofNat']
    omega
  rw [Lead.ofByte, hn, if_neg (by omega), if_neg (by omega), if_neg (by omega), if_neg (by omega),
    if_neg (by omega), if_neg (by omega)]
  by_cases hfirst : v / 262144 = 0
  · refine ⟨0x90, 0xBF, ?_, ?_, ?_⟩
    · rw [if_pos (by omega), hfirst]
    · show 144 ≤ _
      omega
    · show _ ≤ 191
      omega
  rw [if_neg (by omega)]
  by_cases hlast : v / 262144 = 4
  · refine ⟨0x80, 0x8F, ?_, ?_, ?_⟩
    · rw [if_neg (by omega), if_pos (by omega), hlast]
    · show 128 ≤ _
      omega
    · show _ ≤ 143
      omega
  · refine ⟨0x80, 0xBF, ?_, ?_, ?_⟩
    · rw [if_pos (by omega), Nat.add_sub_cancel]
    · show 128 ≤ _
      omega
    · show _ ≤ 191
      omega

end Leads

/-- A character that is not ASCII has no ASCII byte. -/
theorem le_of_mem_utf8EncodeChar {c : Char} {b : UInt8} (hfar : 0x80 ≤ c.toNat) (hb : b ∈ String.utf8EncodeChar c) :
    0x80 ≤ b := by
  have hascii : ¬ c.val.toNat ≤ 0x7f := by
    have : c.val.toNat = c.toNat := rfl
    omega
  rw [UInt8.le_iff_toNat_le]
  show 128 ≤ b.toNat
  simp only [String.utf8EncodeChar, hascii, if_false] at hb
  split_ifs at hb
  all_goals
    simp only [List.mem_cons, List.not_mem_nil, or_false] at hb
    rcases hb with rfl | rfl | rfl | rfl
  all_goals
    rw [UInt8.toNat_ofNat']
    omega

/-- How a character is read from its bytes: an ASCII one at once, any other when the bytes that the first one
announces have come. -/
theorem utf8EncodeChar_cases (c : Char) :
    (∃ b, String.utf8EncodeChar c = [b] ∧ Lead.ofByte b = .ascii c) ∨
    ∃ b tail p, String.utf8EncodeChar c = b :: tail ∧ Lead.ofByte b = .longer p ∧
      p.missing = tail.length ∧
      ∀ bs, piecesFrom (some p) (tail ++ bs) = some c :: piecesFrom none bs := by
  obtain ⟨v, hv⟩ : ∃ v, v = c.val.toNat := ⟨_, rfl⟩
  have hchar : Char.ofNat v = c := by
    rw [hv]
    exact Char.ofNat_toNat c
  have hvalid : v < 0xD800 ∨ 0xDFFF < v ∧ v < 0x110000 := by
    rw [hv]
    exact c.valid
  rw [String.utf8EncodeChar]
  simp only [← hv]
  by_cases h₁ : v ≤ 127
  · have hn : (UInt8.ofNat v).toNat = v := by
      rw [UInt8.toNat_ofNat']
      omega
    refine Or.inl ⟨_, by rw [if_pos h₁], ?_⟩
    rw [Lead.ofByte, hn, if_pos (by omega), hchar]
  right
  rw [if_neg h₁]
  by_cases h₂ : v ≤ 2047
  · refine ⟨_, _, _, by rw [if_pos h₂], ofByte_two (by omega) (by omega), rfl, fun bs => ?_⟩
    have hsum : v / 64 * 64 + v % 64 = v := by omega
    rw [List.singleton_append, piecesFrom_lastByte (by omega), hsum, hchar]
  rw [if_neg h₂]
  by_cases h₃ : v ≤ 65535
  · obtain ⟨low, high, hlead, hlow, hhigh⟩ := ofByte_three (v := v) (by omega) (by omega) (by omega)
    refine ⟨_, _, _, by rw [if_pos h₃], hlead, rfl, fun bs => ?_⟩
    have hsum : (v / 4096 * 64 + v / 64 % 64) * 64 + v % 64 = v := by omega
    rw [List.cons_append, List.singleton_append, piecesFrom_middleByte (by omega) hlow hhigh,
      piecesFrom_lastByte (by omega), hsum, hchar]
  · obtain ⟨low, high, hlead, hlow, hhigh⟩ := ofByte_four (v := v) (by omega) (by omega)
    refine ⟨_, _, _, by rw [if_neg h₃], hlead, rfl, fun bs => ?_⟩
    have hsum : ((v / 262144 * 64 + v / 4096 % 64) * 64 + v / 64 % 64) * 64 + v % 64 = v := by omega
    have hmiddle : 128 ≤ v / 64 % 64 + 128 ∧ v / 64 % 64 + 128 ≤ 191 := by omega
    rw [List.cons_append, List.cons_append, List.singleton_append,
      piecesFrom_middleByte (by omega) hlow hhigh, piecesFrom_middleByte (by omega) hmiddle.1 hmiddle.2,
      piecesFrom_lastByte (by omega), hsum, hchar]

theorem pieces_utf8EncodeChar_append (c : Char) (bs : List UInt8) :
    pieces (String.utf8EncodeChar c ++ bs) = some c :: pieces bs := by
  obtain ⟨b, hc, hlead⟩ | ⟨b, tail, p, hc, hlead, -, hread⟩ := utf8EncodeChar_cases c
  · rw [hc, List.singleton_append, pieces, piecesFrom, hlead]
    rfl
  · rw [hc, List.cons_append, pieces, piecesFrom, hlead]
    exact hread bs

/-- Of some bytes of a character, but not all, nothing is made. -/
theorem none_mem_pieces_take_utf8EncodeChar {c : Char} {n : Nat} (hpos : 0 < n) (hn : n < c.utf8Size) :
    none ∈ pieces ((String.utf8EncodeChar c).take n) := by
  rw [← String.length_utf8EncodeChar] at hn
  obtain ⟨b, hc, -⟩ | ⟨b, tail, p, hc, hlead, hmissing, -⟩ := utf8EncodeChar_cases c
  · rw [hc, List.length_singleton] at hn
    omega
  · obtain ⟨k, rfl⟩ : ∃ k, n = k + 1 := ⟨n - 1, by omega⟩
    rw [hc, List.length_cons] at hn
    rw [hc, List.take_succ_cons, pieces, piecesFrom, hlead]
    refine none_mem_piecesFrom_of_length_lt ?_
    rw [hmissing, List.length_take]
    omega

/-! ### Texts -/

theorem pieces_flatMap_append (cs : List Char) (bs : List UInt8) :
    pieces (cs.flatMap String.utf8EncodeChar ++ bs) = cs.map some ++ pieces bs := by
  induction cs with
  | nil => rfl
  | cons c cs ih =>
    rw [List.flatMap_cons, List.append_assoc, pieces_utf8EncodeChar_append, ih, List.map_cons,
      List.cons_append]

theorem pieces_encode (s : String) : pieces (encode s) = s.toList.map some := by
  rw [encode_eq_flatMap, ← List.append_nil (s.toList.flatMap _), pieces_flatMap_append]
  exact List.append_nil _

theorem decode?_eq_none_iff {bs : List UInt8} : decode? bs = none ↔ none ∈ pieces bs := by
  rw [decode?, Option.map_eq_none_iff, mapM_eq_none_iff]
  simp

/-- What `encode` gives is decoded as the text. -/
theorem decode?_encode (s : String) : decode? (encode s) = some s := by
  have hchars : (s.toList.map some).mapM id = some s.toList := by
    rw [List.mapM_map]
    exact List.mapM_pure.trans (congrArg some (List.map_id _))
  rw [decode?, pieces_encode, hchars, Option.map_some, String.ofList_toList]

/-! ### Beginnings of texts -/

/-- The first `n` octets of a text, which are not all of it, end within a character. -/
def Splits (n : Nat) (s : String) : Prop :=
  n < s.utf8ByteSize ∧ ∀ t u, s = t ++ u → t.utf8ByteSize ≠ n

theorem decode?_take_append (t u : String) : decode? ((encode (t ++ u)).take t.utf8ByteSize) = some t := by
  rw [encode_append, ← length_encode, List.take_left, decode?_encode]

/-- Some octets of a text end between two characters or within one. -/
theorem exists_split {cs : List Char} {n : Nat} (h : n ≤ (cs.flatMap String.utf8EncodeChar).length) :
    (∃ front back, cs = front ++ back ∧ (front.flatMap String.utf8EncodeChar).length = n) ∨
    ∃ front c back k, cs = front ++ c :: back ∧ (front.flatMap String.utf8EncodeChar).length + k = n ∧
      0 < k ∧ k < c.utf8Size := by
  induction cs generalizing n with
  | nil => exact Or.inl ⟨[], [], rfl, (Nat.le_zero.1 h).symm⟩
  | cons c cs ih =>
    rw [List.flatMap_cons, List.length_append, String.length_utf8EncodeChar] at h
    by_cases hzero : n = 0
    · exact Or.inl ⟨[], c :: cs, rfl, hzero.symm⟩
    by_cases hwithin : n < c.utf8Size
    · exact Or.inr ⟨[], c, cs, n, rfl, Nat.zero_add n, by omega, hwithin⟩
    obtain ⟨m, rfl⟩ : ∃ m, n = c.utf8Size + m := ⟨n - c.utf8Size, by omega⟩
    obtain ⟨front, back, rfl, hn⟩ | ⟨front, d, back, k, rfl, hn, hk⟩ := ih (n := m) (by omega)
    · refine Or.inl ⟨c :: front, back, rfl, ?_⟩
      rw [List.flatMap_cons, List.length_append, String.length_utf8EncodeChar, hn]
    · refine Or.inr ⟨c :: front, d, back, k, rfl, ?_, hk⟩
      rw [List.flatMap_cons, List.length_append, String.length_utf8EncodeChar, Nat.add_assoc, hn]

/-- There is a character within which the octets end. -/
theorem Splits.exists_char {n : Nat} {s : String} (h : Splits n s) :
    ∃ front c back k, s.toList = front ++ c :: back ∧
      (front.flatMap String.utf8EncodeChar).length + k = n ∧ 0 < k ∧ k < c.utf8Size := by
  have hlength : n ≤ (s.toList.flatMap String.utf8EncodeChar).length := by
    rw [← encode_eq_flatMap, length_encode]
    exact Nat.le_of_lt h.1
  refine (exists_split hlength).resolve_left ?_
  rintro ⟨front, back, hs, hn⟩
  have happend : s = String.ofList front ++ String.ofList back := by
    rw [← String.ofList_append, ← hs, String.ofList_toList]
  refine absurd ?_ (h.2 _ _ happend)
  rw [← length_encode, encode_eq_flatMap, String.toList_ofList, hn]

/-- Of the first octets of a text no text is made if and only if they end within a character. -/
theorem decode?_take_eq_none_iff {n : Nat} {s : String} (h : n < s.utf8ByteSize) :
    decode? ((encode s).take n) = none ↔ Splits n s := by
  constructor
  · intro hnone
    refine ⟨h, ?_⟩
    rintro t u rfl rfl
    rw [decode?_take_append] at hnone
    cases hnone
  · intro hsplits
    obtain ⟨front, c, back, k, hs, rfl, hpos, hk⟩ := hsplits.exists_char
    have hle : k ≤ (String.utf8EncodeChar c).length := by
      rw [String.length_utf8EncodeChar]
      omega
    have htake : (encode s).take ((front.flatMap String.utf8EncodeChar).length + k) =
        front.flatMap String.utf8EncodeChar ++ (String.utf8EncodeChar c).take k := by
      rw [encode_eq_flatMap, hs, List.flatMap_append, List.flatMap_cons, List.take_length_add_append,
        List.take_append_of_le_length hle]
    rw [decode?_eq_none_iff, htake, pieces_flatMap_append]
    exact List.mem_append_right _ (none_mem_pieces_take_utf8EncodeChar hpos hk)

/-- A text in ASCII can be cut anywhere. -/
theorem not_splits_of_ascii {s : String} (h : ∀ c ∈ s.toList, c.utf8Size = 1) (n : Nat) : ¬ Splits n s := by
  intro hsplits
  obtain ⟨front, c, back, k, hs, -, hpos, hk⟩ := hsplits.exists_char
  have hc := h c (by rw [hs]; simp)
  omega

end JmapClient.Utf8
