import JmapClient.Percent
import JmapClient.Proofs.Utf8

/-!
# Percent encoding

The encoding of a value keeps the characters that stand for themselves everywhere and writes every other byte as a `%`
and two digits (`Percent.Encodes`). So no punctuation of URLs is left in it (`Percent.Encoded`), and the value can be
told from it (`Percent.decode_unreserved`, `Percent.unreserved_injective`). The encoding of a literal keeps the
punctuation and what is encoded already too (`Percent.EncodesLiteral`).
-/

namespace JmapClient.Percent

/-- The digits that are written behind a `%`. -/
def isUpperHexDigit (c : Char) : Bool := c.isDigit || decide ('A' ≤ c ∧ c ≤ 'F')

/-- Characters that stand for themselves everywhere, and `%` with two digits each. -/
inductive Encoded : List Char → Prop
  | nil : Encoded []
  | plain {c : Char} {cs : List Char} (hc : isUnreserved c) (hcs : Encoded cs) : Encoded (c :: cs)
  | triplet {h l : Char} {cs : List Char} (hh : isUpperHexDigit h) (hl : isUpperHexDigit l) (hcs : Encoded cs) :
    Encoded ('%' :: h :: l :: cs)

/-- The encoding of bytes: a byte of a character that stands for itself is this character, and any other is a `%` with
the two digits of the byte. -/
inductive Encodes : List UInt8 → List Char → Prop
  | nil : Encodes [] []
  | plain {c : Char} {bs : List UInt8} {cs : List Char} (hc : isUnreserved c) (hcs : Encodes bs cs) :
    Encodes (UInt8.ofNat c.toNat :: bs) (c :: cs)
  | triplet {b : UInt8} {h l : Char} {bs : List UInt8} {cs : List Char}
      (hb : ∀ c, isUnreserved c → b ≠ UInt8.ofNat c.toNat) (hh : isUpperHexDigit h) (hl : isUpperHexDigit l)
      (hhigh : hexValue? h = some (b.toNat / 16)) (hlow : hexValue? l = some (b.toNat % 16)) (hcs : Encodes bs cs) :
    Encodes (b :: bs) ('%' :: h :: l :: cs)

/-- The encoding of a literal: what may stand in a URL stays, as does a `%` before two hexadecimal digits, and of any
other character the bytes are encoded. -/
inductive EncodesLiteral : List Char → List Char → Prop
  | nil : EncodesLiteral [] []
  | kept {c : Char} {cs es : List Char} (hc : isReserved c) (hcs : EncodesLiteral cs es) :
    EncodesLiteral (c :: cs) (c :: es)
  | triplet {h l : Char} {cs es : List Char} (hh : isHexDigit h) (hl : isHexDigit l) (hcs : EncodesLiteral cs es) :
    EncodesLiteral ('%' :: h :: l :: cs) ('%' :: h :: l :: es)
  | escaped {c : Char} {cs ts es : List Char} (hc : ¬ isReserved c)
      (hfree : c = '%' → ∀ h l rest, cs = h :: l :: rest → ¬ (isHexDigit h ∧ isHexDigit l))
      (hts : Encodes (Utf8.encode (String.singleton c)) ts) (hcs : EncodesLiteral cs es) :
    EncodesLiteral (c :: cs) (ts ++ es)

/-! ### Characters -/

theorem toNat_lt_of_isAlphanum {c : Char} (h : c.isAlphanum) : c.toNat < 0x80 := by
  unfold Char.isAlphanum Char.isAlpha Char.isUpper Char.isLower Char.isDigit at h
  simp only [Bool.or_eq_true, Bool.and_eq_true, decide_eq_true_eq, UInt32.le_iff_toNat_le, ge_iff_le] at h
  obtain (h | h) | h := h <;> exact Nat.lt_of_le_of_lt h.2 (by decide)

theorem toNat_lt_of_isUnreserved {c : Char} (h : isUnreserved c) : c.toNat < 0x80 := by
  unfold isUnreserved at h
  simp only [Bool.or_eq_true, beq_iff_eq] at h
  obtain (((h | rfl) | rfl) | rfl) | rfl := h
  · exact toNat_lt_of_isAlphanum h
  all_goals decide

theorem ne_percent_of_isUnreserved {c : Char} (h : isUnreserved c) : c ≠ '%' := by
  rintro rfl
  exact absurd h (by decide)

theorem hexValue?_upperHexDigit {n : Nat} (h : n < 16) : hexValue? (upperHexDigit n) = some n := by
  have hall : ∀ n < 16, hexValue? (upperHexDigit n) = some n := by decide
  exact hall n h

theorem isUpperHexDigit_upperHexDigit {n : Nat} (h : n < 16) : isUpperHexDigit (upperHexDigit n) := by
  have hall : ∀ n < 16, isUpperHexDigit (upperHexDigit n) := by decide
  exact hall n h

theorem toNat_ofNat_toNat (b : UInt8) : (Char.ofNat b.toNat).toNat = b.toNat := by
  have hb := b.toNat_lt
  have hvalid : b.toNat.isValidChar := Or.inl (by omega)
  rw [Char.ofNat, dif_pos hvalid]
  rfl

/-- A character in ASCII is one byte. -/
theorem encode_singleton {c : Char} (h : c.toNat < 0x80) :
    Utf8.encode (String.singleton c) = [UInt8.ofNat c.toNat] := by
  have hbytes : String.utf8EncodeChar c = [UInt8.ofNat c.toNat] := by
    rw [String.utf8EncodeChar_eq_singleton]
    · rfl
    · rw [Char.utf8Size_eq_one_iff, UInt32.le_iff_toNat_le]
      exact Nat.le_of_lt_succ h
  rw [Utf8.encode_eq_flatMap, String.toList_singleton, List.flatMap_singleton, hbytes]

/-! ### Encoding -/

/-- A character in ASCII that `keep` lets be is its own encoding. -/
theorem encodeByte_of_keep {keep : Char → Bool} {c : Char} (hnear : c.toNat < 0x80) (hkeep : keep c) :
    encodeByte keep (UInt8.ofNat c.toNat) = [c] := by
  have htoNat : (UInt8.ofNat c.toNat).toNat = c.toNat := by
    rw [UInt8.toNat_ofNat', Nat.mod_eq_of_lt (by omega)]
  have hbyte : UInt8.ofNat c.toNat < 0x80 := by
    rw [UInt8.lt_iff_toNat_lt, htoNat]
    exact hnear
  rw [encodeByte, htoNat, Char.ofNat_toNat]
  exact if_pos ⟨hbyte, hkeep⟩

theorem encodeByte_of_forall_ne {b : UInt8} (h : ∀ c, isUnreserved c → b ≠ UInt8.ofNat c.toNat) :
    encodeByte isUnreserved b = escape b := by
  refine if_neg fun hkeep => h _ hkeep.2 ?_
  rw [toNat_ofNat_toNat, UInt8.ofNat_toNat]

theorem encodes_unreserved_bytes (bs : List UInt8) : Encodes bs (bs.flatMap (encodeByte isUnreserved)) := by
  induction bs with
  | nil => exact .nil
  | cons b bs ih =>
    have hb := b.toNat_lt
    rw [List.flatMap_cons]
    by_cases hplain : ∃ c, isUnreserved c ∧ b = UInt8.ofNat c.toNat
    · obtain ⟨c, hc, rfl⟩ := hplain
      rw [encodeByte_of_keep (toNat_lt_of_isUnreserved hc) hc]
      exact .plain hc ih
    · have hne (c : Char) (hc : isUnreserved c) : b ≠ UInt8.ofNat c.toNat := fun heq => hplain ⟨c, hc, heq⟩
      rw [encodeByte_of_forall_ne hne]
      exact .triplet hne (isUpperHexDigit_upperHexDigit (by omega))
        (isUpperHexDigit_upperHexDigit (by omega)) (hexValue?_upperHexDigit (by omega))
        (hexValue?_upperHexDigit (by omega)) ih

theorem encodes_unreserved (s : String) : Encodes (Utf8.encode s) (unreserved s) :=
  encodes_unreserved_bytes _

theorem Encodes.encoded {bs : List UInt8} {cs : List Char} (h : Encodes bs cs) : Encoded cs := by
  induction h with
  | nil => exact .nil
  | plain hc _ ih => exact .plain hc ih
  | triplet _ hh hl _ _ _ ih => exact .triplet hh hl ih

/-- Decoding undoes encoding. -/
theorem Encodes.decode_eq {bs : List UInt8} {cs : List Char} (h : Encodes bs cs) : decode cs = bs := by
  induction h with
  | nil => rfl
  | plain hc _ ih =>
    rw [decode, ih, encode_singleton (toNat_lt_of_isUnreserved hc), List.singleton_append]
    exact fun _ _ _ heq => absurd heq (ne_percent_of_isUnreserved hc)
  | @triplet b h l bs cs _ _ _ hhigh hlow _ ih =>
    have hbyte : (b.toNat / 16 * 16 + b.toNat % 16).toUInt8 = b := by
      rw [Nat.div_add_mod']
      exact UInt8.ofNat_toNat
    rw [decode, hhigh, hlow, ih]
    exact congrArg (· :: bs) hbyte

theorem decode_unreserved (s : String) : decode (unreserved s) = Utf8.encode s :=
  (encodes_unreserved s).decode_eq

/-- Different values have different encodings (`unreserved`). -/
theorem unreserved_injective : Function.Injective unreserved := by
  intro s s' h
  have hbytes := congrArg decode h
  rw [decode_unreserved, decode_unreserved] at hbytes
  have hdecoded := congrArg Utf8.decode? hbytes
  rw [Utf8.decode?_encode, Utf8.decode?_encode] at hdecoded
  exact Option.some.inj hdecoded

-- A `%` is encoded like any other character that does not stand for itself.
example : unreserved "a/%2Fé" = "a%2F%252F%C3%A9".toList := by decide +kernel

/-! ### Delimiters -/

theorem isUnreserved_of_isUpperHexDigit {c : Char} (h : isUpperHexDigit c) : isUnreserved c := by
  unfold isUpperHexDigit at h
  unfold isUnreserved Char.isAlphanum Char.isAlpha Char.isUpper
  simp only [Bool.or_eq_true, decide_eq_true_eq] at h ⊢
  obtain h | ⟨hlow, hhigh⟩ := h
  · simp [h]
  · have hle : c.val ≤ 'Z'.val := UInt32.le_trans hhigh (by decide)
    exact Or.inl (Or.inl (Or.inl (Or.inl (Or.inl (Or.inl ⟨hlow, hle⟩)))))

theorem not_isUnreserved_of_mem_delimiters {c : Char} (h : c ∈ delimiters) : ¬ isUnreserved c := by
  have hall : delimiters.all (!isUnreserved ·) := by decide
  simpa using List.all_eq_true.1 hall c h

/-- None of the `delimiters` of URLs is left. -/
theorem Encoded.not_mem_delimiters {cs : List Char} (h : Encoded cs) : ∀ c ∈ cs, c ∉ delimiters := by
  have hplain {c : Char} (hc : isUnreserved c) : c ∉ delimiters := fun hmem =>
    not_isUnreserved_of_mem_delimiters hmem hc
  induction h with
  | nil => simp
  | plain hc _ ih => exact List.forall_mem_cons.2 ⟨hplain hc, ih⟩
  | triplet hh hl _ ih =>
    simp only [List.forall_mem_cons]
    exact ⟨by decide, hplain (isUnreserved_of_isUpperHexDigit hh),
      hplain (isUnreserved_of_isUpperHexDigit hl), ih⟩

/-! ### Literals -/

theorem isReserved_of_isUnreserved {c : Char} (h : isUnreserved c) : isReserved c := by
  rw [isReserved, h, Bool.true_or]

theorem toNat_lt_of_isReserved {c : Char} (h : isReserved c) : c.toNat < 0x80 := by
  obtain h | h := Bool.or_eq_true_iff.1 h
  · exact toNat_lt_of_isUnreserved h
  · have hall : delimiters.all (·.toNat < 0x80) := by decide
    simpa using List.all_eq_true.1 hall c (by simpa using h)

theorem isUnreserved_of_isHexDigit {c : Char} (h : isHexDigit c) : isUnreserved c := by
  suffices halphanum : c.isAlphanum by simp [isUnreserved, halphanum]
  unfold isHexDigit hexValue? at h
  unfold Char.isAlphanum Char.isAlpha Char.isUpper Char.isLower
  simp only [Bool.or_eq_true, Bool.and_eq_true, decide_eq_true_eq, ge_iff_le]
  split_ifs at h with hdigit hlower hupper
  · exact Or.inr hdigit
  · exact Or.inl (Or.inr ⟨hlower.1, UInt32.le_trans hlower.2 (by decide)⟩)
  · exact Or.inl (Or.inl ⟨hupper.1, UInt32.le_trans hupper.2 (by decide)⟩)
  · cases h

/-- The encoding of `c` where what may stand in a URL stays. -/
def encodeChar (c : Char) : List Char := encode isReserved (String.singleton c)

theorem encode_ofList_nil : encode isReserved (String.ofList []) = [] := by
  rw [encode, Utf8.encode_eq_flatMap, String.toList_ofList]
  rfl

theorem encode_ofList_cons (c : Char) (cs : List Char) :
    encode isReserved (String.ofList (c :: cs)) = encodeChar c ++ encode isReserved (String.ofList cs) := by
  rw [encodeChar, encode, encode, encode, Utf8.encode_eq_flatMap, Utf8.encode_eq_flatMap, Utf8.encode_eq_flatMap]
  simp

theorem encodeChar_of_isReserved {c : Char} (h : isReserved c) : encodeChar c = [c] := by
  have hnear := toNat_lt_of_isReserved h
  rw [encodeChar, encode, encode_singleton hnear, List.flatMap_singleton, encodeByte_of_keep hnear h]

theorem encodeByte_of_not_isReserved {c : Char} (h : ¬ isReserved c) {keep : Char → Bool}
    (hkeep : ∀ c, keep c → isReserved c) {b : UInt8} (hb : b ∈ Utf8.encode (String.singleton c)) :
    encodeByte keep b = escape b := by
  refine if_neg fun ⟨hnear, hkept⟩ => ?_
  by_cases hc : c.toNat < 0x80
  · rw [encode_singleton hc, List.mem_singleton] at hb
    have hchar : Char.ofNat b.toNat = c := by
      rw [hb, UInt8.toNat_ofNat', Nat.mod_eq_of_lt (by omega), Char.ofNat_toNat]
    exact h (hchar ▸ hkeep _ hkept)
  · rw [Utf8.encode_eq_flatMap, String.toList_singleton, List.flatMap_singleton] at hb
    have hfar := Utf8.le_of_mem_utf8EncodeChar (by omega) hb
    exact absurd hnear (UInt8.not_lt.2 hfar)

/-- Any other character is encoded byte by byte. -/
theorem encodeChar_of_not_isReserved {c : Char} (h : ¬ isReserved c) :
    encodeChar c = (Utf8.encode (String.singleton c)).flatMap escape :=
  List.flatMap_congr fun _ hb => encodeByte_of_not_isReserved h (fun _ => id) hb

theorem encodes_encodeChar {c : Char} (h : ¬ isReserved c) :
    Encodes (Utf8.encode (String.singleton c)) (encodeChar c) := by
  have hsame : encodeChar c = unreserved (String.singleton c) := by
    rw [encodeChar_of_not_isReserved h]
    exact (List.flatMap_congr fun _ hb =>
      encodeByte_of_not_isReserved h (fun _ => isReserved_of_isUnreserved) hb).symm
  rw [hsame]
  exact encodes_unreserved _

theorem restore_cons {c : Char} (h : c ≠ '%') (cs : List Char) : restore (c :: cs) = c :: restore cs := by
  rw [restore]
  exact fun _ _ _ hc => absurd hc h

theorem upperHexDigit_ne_percent {n : Nat} (h : n < 16) : upperHexDigit n ≠ '%' :=
  ne_percent_of_isUnreserved (isUnreserved_of_isUpperHexDigit (isUpperHexDigit_upperHexDigit h))

/-- An encoded byte stays unless it is that of a `%`. -/
theorem restore_escape {b : UInt8} (h : b ≠ 0x25) (cs : List Char) :
    restore (escape b ++ cs) = escape b ++ restore cs := by
  have hb := b.toNat_lt
  have hhigh : b.toNat / 16 < 16 := by omega
  have hlow : b.toNat % 16 < 16 := by omega
  have hdigits : ¬ (upperHexDigit (b.toNat / 16) = '2' ∧ upperHexDigit (b.toNat % 16) = '5') := by
    rintro ⟨h2, h5⟩
    have hhighValue := hexValue?_upperHexDigit hhigh
    have hlowValue := hexValue?_upperHexDigit hlow
    rw [h2] at hhighValue
    rw [h5] at hlowValue
    have hhighEq : 2 = b.toNat / 16 := Option.some.inj hhighValue
    have hlowEq : 5 = b.toNat % 16 := Option.some.inj hlowValue
    exact h (UInt8.toNat_inj.1 (by show b.toNat = 37; omega))
  rw [escape, List.cons_append, List.cons_append, List.cons_append, List.nil_append, restore,
    restore_cons (upperHexDigit_ne_percent hhigh), restore_cons (upperHexDigit_ne_percent hlow)]
  · rfl
  · intro _ _ _ _ heq
    simp only [List.cons.injEq] at heq
    exact hdigits ⟨heq.1, heq.2.1⟩

theorem restore_escapes {bs : List UInt8} (h : ∀ b ∈ bs, b ≠ 0x25) (cs : List Char) :
    restore (bs.flatMap escape ++ cs) = bs.flatMap escape ++ restore cs := by
  induction bs with
  | nil => rfl
  | cons b bs ih =>
    obtain ⟨hb, hbs⟩ := List.forall_mem_cons.1 h
    rw [List.flatMap_cons, List.append_assoc, restore_escape hb, ih hbs, List.append_assoc]

theorem ne_of_mem_encode_singleton {c : Char} (h : c ≠ '%') {b : UInt8}
    (hb : b ∈ Utf8.encode (String.singleton c)) : b ≠ 0x25 := by
  by_cases hc : c.toNat < 0x80
  · rw [encode_singleton hc, List.mem_singleton] at hb
    rintro rfl
    have hcode : c.toNat = 0x25 := by
      have := congrArg UInt8.toNat hb
      rw [UInt8.toNat_ofNat', Nat.mod_eq_of_lt (by omega)] at this
      exact this.symm
    exact h (Char.toNat_inj.1 hcode)
  · rw [Utf8.encode_eq_flatMap, String.toList_singleton, List.flatMap_singleton] at hb
    rintro rfl
    exact absurd (Utf8.le_of_mem_utf8EncodeChar (by omega) hb) (by decide)

/-- An encoded `%` is turned back before two hexadecimal digits. -/
theorem restore_percent {h l : Char} (hh : isHexDigit h) (hl : isHexDigit l) (cs : List Char) :
    restore ('%' :: '2' :: '5' :: h :: l :: cs) = '%' :: h :: l :: restore cs := by
  rw [restore, hh, hl]
  rfl

/-- An encoded `%` stays before anything else. -/
theorem restore_percent_of_free {cs : List Char}
    (hfree : ∀ h l rest, cs = h :: l :: rest → ¬ (isHexDigit h ∧ isHexDigit l)) :
    restore ('%' :: '2' :: '5' :: cs) = '%' :: '2' :: '5' :: restore cs := by
  have htail : restore ('2' :: '5' :: cs) = '2' :: '5' :: restore cs := by
    rw [restore_cons (by decide), restore_cons (by decide)]
  rcases cs with _ | ⟨h, _ | ⟨l, cs⟩⟩
  · rfl
  · rw [restore, htail]
    exact fun _ _ _ _ heq => by simp at heq
  · rw [restore, if_neg (by simpa using hfree h l cs rfl), htail]

/-- What an encoded literal begins with is a hexadecimal digit only if the literal begins with it. -/
theorem exists_eq_cons_of_encode {cs es : List Char} {h : Char} (hh : isHexDigit h)
    (heq : encode isReserved (String.ofList cs) = h :: es) :
    ∃ rest, cs = h :: rest ∧ encode isReserved (String.ofList rest) = es := by
  cases cs with
  | nil =>
    rw [encode_ofList_nil] at heq
    cases heq
  | cons c cs =>
    rw [encode_ofList_cons] at heq
    by_cases hc : isReserved c
    · rw [encodeChar_of_isReserved hc, List.singleton_append, List.cons.injEq] at heq
      exact ⟨cs, by rw [heq.1], heq.2⟩
    · rw [encodeChar_of_not_isReserved hc] at heq
      have hne : Utf8.encode (String.singleton c) ≠ [] := by
        rw [← List.length_pos_iff, Utf8.length_encode, String.utf8ByteSize_singleton]
        exact Char.utf8Size_pos c
      obtain ⟨b, bs, hbytes⟩ := List.exists_cons_of_ne_nil hne
      rw [hbytes, List.flatMap_cons, escape] at heq
      obtain rfl : '%' = h := (List.cons.inj heq).1
      exact absurd hh (by decide)

theorem reserved_nil : reserved (String.ofList []) = [] := by
  rw [reserved, encode_ofList_nil, restore]

theorem reserved_cons_of_isReserved {c : Char} (h : isReserved c) (cs : List Char) :
    reserved (String.ofList (c :: cs)) = c :: reserved (String.ofList cs) := by
  have hne : c ≠ '%' := by
    rintro rfl
    exact absurd h (by decide)
  rw [reserved, encode_ofList_cons, encodeChar_of_isReserved h, List.singleton_append, restore_cons hne, reserved]

theorem encodeChar_percent : encodeChar '%' = ['%', '2', '5'] := by decide +kernel

theorem reserved_triplet {h l : Char} (hh : isHexDigit h) (hl : isHexDigit l) (cs : List Char) :
    reserved (String.ofList ('%' :: h :: l :: cs)) = '%' :: h :: l :: reserved (String.ofList cs) := by
  rw [reserved, encode_ofList_cons, encode_ofList_cons, encode_ofList_cons, encodeChar_percent,
    encodeChar_of_isReserved (isReserved_of_isUnreserved (isUnreserved_of_isHexDigit hh)), encodeChar_of_isReserved (isReserved_of_isUnreserved (isUnreserved_of_isHexDigit hl))]
  exact restore_percent hh hl _

theorem reserved_cons_of_not_isReserved {c : Char} {cs : List Char} (h : ¬ isReserved c)
    (hfree : c = '%' → ∀ h l rest, cs = h :: l :: rest → ¬ (isHexDigit h ∧ isHexDigit l)) :
    reserved (String.ofList (c :: cs)) = encodeChar c ++ reserved (String.ofList cs) := by
  rw [reserved, encode_ofList_cons, reserved]
  by_cases hc : c = '%'
  · subst hc
    rw [encodeChar_percent]
    refine restore_percent_of_free fun h l es heq ⟨hh, hl⟩ => ?_
    obtain ⟨rest, rfl, hrest⟩ := exists_eq_cons_of_encode hh heq
    obtain ⟨rest, rfl, -⟩ := exists_eq_cons_of_encode hl hrest
    exact hfree rfl h l rest rfl ⟨hh, hl⟩
  · rw [encodeChar_of_not_isReserved h]
    exact restore_escapes (fun b hb => ne_of_mem_encode_singleton hc hb) _

theorem encodesLiteral_reserved (cs : List Char) : EncodesLiteral cs (reserved (String.ofList cs)) := by
  induction hn : cs.length using Nat.strong_induction_on generalizing cs with
  | h n ih =>
    subst hn
    cases cs with
    | nil =>
      rw [reserved_nil]
      exact .nil
    | cons c cs =>
      have hcs := ih cs.length (by simp) cs rfl
      by_cases hc : isReserved c
      · rw [reserved_cons_of_isReserved hc]
        exact .kept hc hcs
      by_cases htriplet : c = '%' ∧ ∃ h l rest, cs = h :: l :: rest ∧ isHexDigit h ∧ isHexDigit l
      · obtain ⟨rfl, h, l, rest, rfl, hh, hl⟩ := htriplet
        rw [reserved_triplet hh hl]
        exact .triplet hh hl (ih rest.length (by simp; omega) rest rfl)
      · have hfree : c = '%' → ∀ h l rest, cs = h :: l :: rest → ¬ (isHexDigit h ∧ isHexDigit l) :=
          fun hpercent h l rest heq hdigits => htriplet ⟨hpercent, h, l, rest, heq, hdigits⟩
        rw [reserved_cons_of_not_isReserved hc hfree]
        exact .escaped hc hfree (encodes_encodeChar hc) hcs

theorem eq_upperHexDigit {c : Char} {n : Nat} (hc : isUpperHexDigit c) (hn : hexValue? c = some n) :
    c = upperHexDigit n := by
  have hall : ∀ i < 128, isUpperHexDigit (Char.ofNat i) →
      (hexValue? (Char.ofNat i)).map upperHexDigit = some (Char.ofNat i) := by decide +kernel
  have hself := hall c.toNat (toNat_lt_of_isUnreserved (isUnreserved_of_isUpperHexDigit hc))
  rw [Char.ofNat_toNat, hn] at hself
  exact (Option.some.inj (hself hc)).symm

theorem Encodes.eq {bs : List UInt8} {cs : List Char} (h : Encodes bs cs) :
    cs = bs.flatMap (encodeByte isUnreserved) := by
  induction h with
  | nil => rfl
  | plain hc _ ih =>
    rw [List.flatMap_cons, encodeByte_of_keep (toNat_lt_of_isUnreserved hc) hc, ← ih]
    rfl
  | triplet hb hh hl hhigh hlow _ ih =>
    rw [List.flatMap_cons, encodeByte_of_forall_ne hb, ← ih, eq_upperHexDigit hh hhigh, eq_upperHexDigit hl hlow]
    rfl

/-- A literal has one encoding, which is what `reserved` gives. -/
theorem encodesLiteral_iff {cs es : List Char} :
    EncodesLiteral cs es ↔ es = reserved (String.ofList cs) := by
  refine ⟨fun h => ?_, ?_⟩
  · induction h with
    | nil => rw [reserved_nil]
    | kept hc _ ih => rw [reserved_cons_of_isReserved hc, ih]
    | triplet hh hl _ ih => rw [reserved_triplet hh hl, ih]
    | escaped hc hfree hts _ ih =>
      rw [reserved_cons_of_not_isReserved hc hfree, ih, hts.eq, (encodes_encodeChar hc).eq]
  · rintro rfl
    exact encodesLiteral_reserved cs

-- What is encoded already stays, and a `%` that encodes nothing does not.
example : reserved "/a b%2f%25%zé" = "/a%20b%2f%25%25z%C3%A9".toList := by decide +kernel

/-- A delimiter in a literal stays there. -/
theorem EncodesLiteral.mem_of_mem_delimiters {cs es : List Char} (h : EncodesLiteral cs es) {d : Char}
    (hd : d ∈ delimiters) (hmem : d ∈ cs) : d ∈ es := by
  have hreserved : isReserved d := by simp [isReserved, hd]
  have hplain {c : Char} (hc : isUnreserved c) : d ≠ c := by
    rintro rfl
    exact not_isUnreserved_of_mem_delimiters hd hc
  induction h with
  | nil => cases hmem
  | kept _ _ ih => exact List.mem_cons.2 ((List.mem_cons.1 hmem).imp_right ih)
  | triplet hh hl _ ih =>
    simp only [List.mem_cons, hplain (isUnreserved_of_isHexDigit hh), hplain (isUnreserved_of_isHexDigit hl),
      false_or] at hmem ⊢
    exact hmem.imp_right ih
  | escaped hc _ _ _ ih =>
    obtain rfl | hmem := List.mem_cons.1 hmem
    · exact absurd hreserved hc
    · exact List.mem_append_right _ (ih hmem)

end JmapClient.Percent
