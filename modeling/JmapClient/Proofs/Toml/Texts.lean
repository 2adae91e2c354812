import JmapClient.Proofs.Percent
import JmapClient.Toml.Text
import Mathlib.Tactic.IntervalCases

/-!
# Texts in TOML are read again

Whatever a text is, it is read again as it was, in each style that can show it (`Text.read_printAs`). Two of the styles
can show every text, and the style that a text is written in is always one that can show it (`Text.shows_style`,
`Text.read_print`).
-/

namespace JmapClient.Toml.Text

variable {c quote : Char} {cs rest : List Char} {n : Nat}

/-! ### Escapes -/

theorem unescape?_letter {letter : Char} (h : letters.lookup c = some letter) :
    unescape? (letter :: rest) = some (c, 1) ∧ endsLine (letter :: rest) = false := by
  obtain ⟨before, after, heq, -⟩ := List.lookup_eq_some_iff.1 h
  have hmem : (c, letter) ∈ letters := by simp [heq]
  simp only [letters, List.mem_cons, Prod.mk.injEq, List.not_mem_nil, or_false] at hmem
  rcases hmem with ⟨rfl, rfl⟩ | ⟨rfl, rfl⟩ | ⟨rfl, rfl⟩ | ⟨rfl, rfl⟩ | ⟨rfl, rfl⟩ | ⟨rfl, rfl⟩ | ⟨rfl, rfl⟩ <;>
    exact ⟨rfl, rfl⟩

theorem unescape?_control (h : isControl c = true) :
    unescape? ('u' :: '0' :: '0' :: upperHexDigit (c.toNat / 16) :: upperHexDigit (c.toNat % 16) :: rest) =
      some (c, 5) := by
  have hlt : c.toNat < 256 := by
    simp only [isControl, decide_eq_true_eq] at h
    omega
  have hnumber : hexNumber? 4 ('0' :: '0' :: upperHexDigit (c.toNat / 16) :: upperHexDigit (c.toNat % 16) :: rest) =
      some c.toNat := by
    have hzero : hexValue? '0' = some 0 := by decide
    simp [hexNumber?, List.foldlM, hzero, Percent.hexValue?_upperHexDigit (n := c.toNat / 16) (by omega),
      Percent.hexValue?_upperHexDigit (n := c.toNat % 16) (by omega)]
    omega
  have hvalid : c.toNat.isValidChar := c.valid
  simp [unescape?, hexChar?, hnumber, hvalid]

/-- A character stands for itself, or it is escaped by what is read as an escape of it and not as the end of a
line. -/
theorem escape_cases (c : Char) :
    (escape c = [c] ∧ c ≠ '"' ∧ c ≠ '\\' ∧ isControl c = false) ∨
      ∃ body, escape c = '\\' :: body ∧
        ∀ rest, unescape? (body ++ rest) = some (c, body.length) ∧ endsLine (body ++ rest) = false := by
  unfold escape
  cases hletter : letters.lookup c with
  | some letter => exact .inr ⟨[letter], rfl, fun rest => unescape?_letter hletter⟩
  | none =>
    cases hcontrol : isControl c with
    | true => exact .inr ⟨_, rfl, fun rest => ⟨unescape?_control hcontrol, rfl⟩⟩
    | false =>
      have hquote : c ≠ '"' := by rintro rfl; cases hletter
      have hslash : c ≠ '\\' := by rintro rfl; cases hletter
      exact .inl ⟨rfl, hquote, hslash, rfl⟩

/-! ### Texts on one line -/

theorem readBasic_append (body rest : List Char) : readBasic body.length (body ++ rest) = readBasic 0 rest := by
  induction body with
  | nil => rfl
  | cons c body ih => exact ih

theorem readBasic_escape (c : Char) (rest : List Char) :
    readBasic 0 (escape c ++ rest) = (readBasic 0 rest).map (prepend c) := by
  obtain ⟨hescape, hquote, hslash, hcontrol⟩ | ⟨body, hescape, hbody⟩ := escape_cases c
  · simp [hescape, readBasic, hquote, hslash, hcontrol]
  · simp [hescape, readBasic, (hbody rest).1, readBasic_append]

theorem readBasic_flatMap (cs rest : List Char) :
    readBasic 0 (cs.flatMap escape ++ '"' :: rest) = some (cs, rest) := by
  induction cs with
  | nil => rfl
  | cons c cs ih =>
    rw [List.flatMap_cons, List.append_assoc, readBasic_escape, ih]
    rfl

theorem readLiteral_append (h : ∀ c ∈ cs, c ≠ '\'' ∧ isControl c = false) :
    readLiteral (cs ++ '\'' :: rest) = some (cs, rest) := by
  induction cs with
  | nil => rfl
  | cons c cs ih =>
    obtain ⟨⟨hquote, hcontrol⟩, htail⟩ := List.forall_mem_cons.1 h
    rw [List.cons_append, readLiteral, if_neg hquote, if_neg (by simp [hcontrol]), ih htail]
    rfl

/-! ### The end of a long text -/

/-- Three times `quote` in a row, which a long text begins and ends with. -/
def fence (quote : Char) : List Char := List.replicate 3 quote

theorem close_replicate (hn : n ≤ 2) (hrest : rest.head? ≠ some quote) :
    close quote (List.replicate n quote ++ rest) = (List.replicate n quote, rest) := by
  have hmore : (((List.replicate n quote ++ rest).take 2).takeWhile (· = quote)).length = n := by
    cases rest with
    | nil => interval_cases n <;> simp
    | cons c rest =>
      have hne : c ≠ quote := fun heq => hrest (by simp [heq])
      interval_cases n <;> simp [hne]
  simp [close, hmore]

/-- Before the end of a long text there may be one more quote or two. Where the text has no two quotes, what follows are
not two quotes either. -/
theorem eq_replicate_or_take_ne (quote : Char) (rest : List Char) (h : cs.take 2 ≠ [quote, quote]) :
    (∃ n < 2, cs = List.replicate n quote) ∨ (cs ++ (fence quote ++ rest)).take 2 ≠ [quote, quote] := by
  match cs with
  | [] => exact .inl ⟨0, by omega, rfl⟩
  | [c] =>
    by_cases hc : c = quote
    · exact .inl ⟨1, by omega, by rw [hc]; rfl⟩
    · exact .inr (by simp [hc])
  | c :: d :: cs => exact .inr h

theorem replicate_append_fence (n : Nat) (quote : Char) (rest : List Char) :
    List.replicate n quote ++ (fence quote ++ rest) =
      quote :: quote :: quote :: (List.replicate n quote ++ rest) := by
  rw [fence, ← List.append_assoc, ← List.replicate_add, Nat.add_comm, List.replicate_add, List.append_assoc]
  rfl

/-! ### Long basic texts -/

theorem readLongBasic_fence (hn : n ≤ 2) (hrest : rest.head? ≠ some '"') :
    readLongBasic .taking (List.replicate n '"' ++ (fence '"' ++ rest)) = some (List.replicate n '"', rest) := by
  rw [replicate_append_fence]
  simp [readLongBasic, close_replicate hn hrest]

theorem readLongBasic_quote (h : rest.take 2 ≠ ['"', '"']) :
    readLongBasic .taking ('"' :: rest) = (readLongBasic .taking rest).map (prepend '"') := by
  simp [readLongBasic, h, isControl]

theorem readLongBasic_break (rest : List Char) :
    readLongBasic .taking ('\n' :: rest) = (readLongBasic .taking rest).map (prepend '\n') := by
  simp [readLongBasic]

theorem readLongBasic_append (body rest : List Char) :
    readLongBasic (.passing body.length) (body ++ rest) = readLongBasic .taking rest := by
  induction body with
  | nil => cases rest <;> rfl
  | cons c body ih => exact ih

theorem readLongBasic_escape (c : Char) (rest : List Char) :
    readLongBasic .taking (escape c ++ rest) = (readLongBasic .taking rest).map (prepend c) := by
  obtain ⟨hescape, hquote, hslash, hcontrol⟩ | ⟨body, hescape, hbody⟩ := escape_cases c
  · simp [hescape, readLongBasic, hquote, hslash, hcontrol]
  · simp [hescape, readLongBasic, hbody rest, readLongBasic_append]

/-- No escape begins with a quote. -/
theorem escape_ne_cons_quote {c : Char} {t : List Char} : escape c ≠ '"' :: t := by
  obtain ⟨hescape, hquote, -⟩ | ⟨body, hescape, -⟩ := escape_cases c
  · simp [hescape, hquote]
  · simp [hescape]

theorem escape_ne_nil (c : Char) : escape c ≠ [] := by
  obtain ⟨hescape, -⟩ | ⟨body, hescape, -⟩ := escape_cases c <;> simp [hescape]

/-- A quote in the inside of a long basic text is a quote of the text, with no two before it. -/
theorem escapeLong_eq_cons_quote {quotes : Nat} {t : List Char} (h : escapeLong quotes cs = '"' :: t) :
    quotes < 2 ∧ ∃ cs', cs = '"' :: cs' ∧ t = escapeLong (quotes + 1) cs' := by
  cases cs with
  | nil => cases h
  | cons c cs =>
    rw [escapeLong] at h
    split_ifs at h with hquote hbreak
    · obtain ⟨rfl, rfl⟩ := List.cons.inj h
      exact ⟨hquote.2, cs, by rw [hquote.1], rfl⟩
    · obtain ⟨rfl, -⟩ := List.cons.inj h
      cases hbreak
    · obtain ⟨hescape, -⟩ | ⟨t', hescape, -⟩ := List.append_eq_cons_iff.1 h
      · exact absurd hescape (escape_ne_nil c)
      · exact absurd hescape escape_ne_cons_quote

theorem escapeLong_eq_nil_iff {quotes : Nat} : escapeLong quotes cs = [] ↔ cs = [] := by
  cases cs with
  | nil => simp [escapeLong]
  | cons c cs =>
    rw [escapeLong]
    split_ifs <;> simp [escape_ne_nil]

theorem eq_replicate_of_escapeLong {quotes : Nat} (h : escapeLong quotes cs = List.replicate n '"') :
    cs = List.replicate n '"' := by
  induction n generalizing quotes cs with
  | zero => exact escapeLong_eq_nil_iff.1 h
  | succ n ih =>
    obtain ⟨-, cs', rfl, htail⟩ := escapeLong_eq_cons_quote h
    rw [ih htail.symm]
    rfl

/-- There are no three quotes in a row in the inside of a long basic text. -/
theorem escapeLong_take_ne (cs : List Char) {quotes : Nat} (h : 0 < quotes) :
    (escapeLong quotes cs).take 2 ≠ ['"', '"'] := by
  intro htake
  obtain ⟨t, ht⟩ : ∃ t, escapeLong quotes cs = '"' :: '"' :: t := by
    exact ⟨_, by rw [← List.take_append_drop 2 (escapeLong quotes cs), htake]; rfl⟩
  obtain ⟨-, cs', -, ht'⟩ := escapeLong_eq_cons_quote ht
  have hlt := (escapeLong_eq_cons_quote ht'.symm).1
  omega

theorem readLongBasic_escapeLong (cs : List Char) (hrest : rest.head? ≠ some '"') (quotes : Nat) :
    readLongBasic .taking (escapeLong quotes cs ++ (fence '"' ++ rest)) = some (cs, rest) := by
  induction cs generalizing quotes with
  | nil => exact readLongBasic_fence (n := 0) (by omega) hrest
  | cons c cs ih =>
    rw [escapeLong]
    split_ifs with hquote hbreak
    · obtain ⟨rfl, -⟩ := hquote
      obtain ⟨n, hn, hend⟩ | hplain :=
        eq_replicate_or_take_ne '"' rest (escapeLong_take_ne cs (Nat.succ_pos quotes))
      · -- These are the last quotes of the text, which the end is read with.
        rw [hend, eq_replicate_of_escapeLong hend]
        exact readLongBasic_fence (n := n + 1) (by omega) hrest
      · rw [List.cons_append, readLongBasic_quote hplain, ih]
        rfl
    · obtain rfl := hbreak
      rw [List.cons_append, readLongBasic_break, ih]
      rfl
    · rw [List.append_assoc, readLongBasic_escape, ih]
      rfl

/-! ### Long literal texts -/

theorem readLongLiteral_fence (hn : n ≤ 2) (hrest : rest.head? ≠ some '\'') :
    readLongLiteral (List.replicate n '\'' ++ (fence '\'' ++ rest)) = some (List.replicate n '\'', rest) := by
  rw [replicate_append_fence]
  simp [readLongLiteral, close_replicate hn hrest]

theorem readLongLiteral_cons (hquote : c = '\'' → rest.take 2 ≠ ['\'', '\''])
    (hcontrol : isControl c = true → c = '\n') :
    readLongLiteral (c :: rest) = (readLongLiteral rest).map (prepend c) := by
  have hmay : c = '\n' ∨ (c = '\r' ∧ rest.head? = some '\n') ∨ ¬ isControl c := by
    cases h : isControl c with
    | true => exact .inl (hcontrol h)
    | false => simp
  rw [readLongLiteral, if_neg fun h => hquote h.1 h.2, if_pos hmay]

theorem le_longestRun (c : Char) (n : Nat) (cs : List Char) : n ≤ longestRun c n cs := by
  induction cs generalizing n with
  | nil => exact Nat.le_refl n
  | cons d cs ih =>
    rw [longestRun]
    split_ifs
    · exact Nat.le_of_succ_le (ih (n + 1))
    · exact Nat.le_max_left _ _

/-- Behind a `quote` there are no two more, if no run is longer than two. -/
theorem take_ne_of_longestRun (hn : 0 < n) (h : longestRun quote n cs ≤ 2) : cs.take 2 ≠ [quote, quote] := by
  intro htake
  obtain ⟨t, rfl⟩ : ∃ t, cs = quote :: quote :: t :=
    ⟨_, by rw [← List.take_append_drop 2 cs, htake]; rfl⟩
  have hle := le_longestRun quote (n + 1 + 1) t
  simp only [longestRun, if_pos] at h
  omega

theorem readLongLiteral_append (hcontrol : ∀ c ∈ cs, isControl c = true → c = '\n')
    (hrun : longestRun '\'' n cs ≤ 2) (hrest : rest.head? ≠ some '\'') :
    readLongLiteral (cs ++ (fence '\'' ++ rest)) = some (cs, rest) := by
  induction cs generalizing n with
  | nil => exact readLongLiteral_fence (n := 0) (by omega) hrest
  | cons c cs ih =>
    obtain ⟨hc, htail⟩ := List.forall_mem_cons.1 hcontrol
    rw [longestRun] at hrun
    split_ifs at hrun with hquote
    · obtain rfl := hquote
      obtain ⟨n, hn, rfl⟩ | hplain := eq_replicate_or_take_ne '\'' rest (take_ne_of_longestRun n.succ_pos hrun)
      · exact readLongLiteral_fence (n := n + 1) (by omega) hrest
      · rw [List.cons_append, readLongLiteral_cons (fun _ => hplain) hc, ih htail hrun]
        rfl
    · rw [List.cons_append, readLongLiteral_cons (fun h => absurd h hquote) hc, ih htail (Nat.max_le.1 hrun).2]
      rfl

/-! ### All texts -/

/-- A style can show a text: what the text has in it would be read as nothing else. -/
def Shows : Style → List Char → Prop
  | .basic, _ => True
  | .literal, cs => ∀ c ∈ cs, c ≠ '\'' ∧ isControl c = false
  | .longBasic, _ => True
  | .longLiteral, cs => (∀ c ∈ cs, isControl c = true → c = '\n') ∧ longestRun '\'' 0 cs ≤ 2

theorem not_mem_of_longestRun (h : longestRun c n cs = 0) : c ∉ cs := by
  induction cs generalizing n with
  | nil => exact List.not_mem_nil
  | cons d cs ih =>
    rw [longestRun] at h
    split_ifs at h with hd
    · have hle := le_longestRun c (n + 1) cs
      omega
    · have hmax : longestRun c 0 cs ≤ max n (longestRun c 0 cs) := Nat.le_max_right _ _
      exact List.not_mem_cons_of_ne_of_not_mem (Ne.symm hd) (ih (n := 0) (by omega))

/-- The `style` that a text is written in can show it. -/
theorem shows_style (cs : List Char) : Shows (style cs) cs := by
  have hbreaks (h : ¬ (cs.any fun c => isControl c && c ≠ '\n') = true) :
      ∀ c ∈ cs, isControl c = true → c = '\n' := by simpa using h
  unfold style
  dsimp only
  split_ifs with hbasic hliteral hlongBasic hlongLiteral
  · trivial
  · obtain ⟨hcontrol, hbreak, hsingle⟩ := hliteral
    refine fun c hc =>
      ⟨fun hquote => not_mem_of_longestRun hsingle (hquote ▸ hc), Bool.eq_false_iff.2 fun h => hbreak ?_⟩
    obtain rfl := hbreaks hcontrol c hc h
    exact List.contains_iff_mem.2 hc
  · trivial
  · exact ⟨hbreaks hlongLiteral.1, hlongLiteral.2⟩
  · trivial
  · trivial

/-- No line break is dropped where there is none. -/
theorem dropBreak_eq_self (h : ∀ c, cs.head? = some c → isControl c = false) : dropBreak cs = cs := by
  cases cs with
  | nil => rfl
  | cons c cs =>
    have hcontrol := h c rfl
    have hbreak : c ≠ '\n' := by rintro rfl; cases hcontrol
    have hreturn : c ≠ '\r' := by rintro rfl; cases hcontrol
    simp [dropBreak, afterBreak?, hbreak, hreturn]

theorem take_ne_of_head? (h : rest.head? ≠ some quote) : (c :: rest).take 2 ≠ [quote, quote] := by
  cases rest with
  | nil => simp
  | cons d rest => simpa using fun _ heq => h (congrArg some heq)

/-- A text is read on one line unless three times `quote` goes before it. -/
theorem read_cons (h : rest.take 2 ≠ [quote, quote]) :
    read (quote :: rest) = readShort (quote :: rest) := by
  unfold read
  split
  · simp_all
  · simp_all
  · rfl

/-- The line break before a long text of several lines is dropped again, and no other one is. -/
theorem dropBreak_append (h : '\n' ∉ cs → ∀ c, rest.head? = some c → isControl c = false) :
    dropBreak ((if cs.contains '\n' then ['\n'] else []) ++ rest) = rest := by
  split_ifs with hbreak
  · rfl
  · exact dropBreak_eq_self (h fun hmem => hbreak (List.contains_iff_mem.2 hmem))

theorem head?_escapeLong (hbreak : '\n' ∉ cs) {quotes : Nat} (h : (escapeLong quotes cs).head? = some c) :
    isControl c = false := by
  cases cs with
  | nil => cases h
  | cons d cs =>
    rw [escapeLong] at h
    split_ifs at h with hquote hline
    · obtain rfl := Option.some.inj h
      rw [hquote.1]
      rfl
    · exact absurd (hline ▸ List.mem_cons_self) hbreak
    · obtain ⟨hescape, -, -, hcontrol⟩ | ⟨body, hescape, -⟩ := escape_cases d
      all_goals
        rw [hescape] at h
        obtain rfl := Option.some.inj h
      · exact hcontrol
      · rfl

/-- What is written in a `style` that can show it is read as it was, up to its end. -/
theorem read_printAs {style : Style} (h : Shows style cs) (hdouble : rest.head? ≠ some '"')
    (hsingle : rest.head? ≠ some '\'') : read (printAs style cs ++ rest) = some (cs, rest) := by
  cases style with
  | basic =>
    have htake : (cs.flatMap escape ++ '"' :: rest).take 2 ≠ ['"', '"'] := by
      cases cs with
      | nil => exact take_ne_of_head? (by simpa using hdouble)
      | cons c cs =>
        obtain ⟨d, t, ht⟩ := List.exists_cons_of_ne_nil (escape_ne_nil c)
        have hd : d ≠ '"' := fun heq => escape_ne_cons_quote (heq ▸ ht)
        simp [ht, hd]
    have hprint : printAs .basic cs ++ rest = '"' :: (cs.flatMap escape ++ '"' :: rest) := by simp [printAs]
    rw [hprint, read_cons htake]
    exact readBasic_flatMap cs rest
  | literal =>
    have htake : (cs ++ '\'' :: rest).take 2 ≠ ['\'', '\''] := by
      cases cs with
      | nil => exact take_ne_of_head? (by simpa using hsingle)
      | cons c cs => simp [(h c List.mem_cons_self).1]
    have hprint : printAs .literal cs ++ rest = '\'' :: (cs ++ '\'' :: rest) := by simp [printAs]
    rw [hprint, read_cons htake]
    exact readLiteral_append h
  | longBasic =>
    have hprint : read (printAs .longBasic cs ++ rest) = readLongBasic .taking (dropBreak
        ((if cs.contains '\n' then ['\n'] else []) ++ (escapeLong 0 cs ++ (fence '"' ++ rest)))) := by
      simp only [printAs, List.append_assoc]
      rfl
    rw [hprint, dropBreak_append, readLongBasic_escapeLong cs hdouble]
    intro hbreak c hc
    cases hinside : escapeLong 0 cs with
    | nil =>
      obtain rfl : '"' = c := by simpa [hinside, fence] using hc
      rfl
    | cons d t =>
      obtain rfl : d = c := by simpa [hinside] using hc
      exact head?_escapeLong hbreak (congrArg List.head? hinside)
  | longLiteral =>
    have hprint : read (printAs .longLiteral cs ++ rest) = readLongLiteral (dropBreak
        ((if cs.contains '\n' then ['\n'] else []) ++ (cs ++ (fence '\'' ++ rest)))) := by
      simp only [printAs, List.append_assoc]
      rfl
    rw [hprint, dropBreak_append, readLongLiteral_append h.1 h.2 hsingle]
    intro hbreak c hc
    cases cs with
    | nil =>
      obtain rfl : '\'' = c := by simpa [fence] using hc
      rfl
    | cons d t =>
      obtain rfl : d = c := by simpa using hc
      exact Bool.eq_false_iff.2 fun hcontrol => hbreak (h.1 d List.mem_cons_self hcontrol ▸ List.mem_cons_self)

/-- Whatever a text is, it is read as it was written. -/
theorem read_print (cs : List Char) (hdouble : rest.head? ≠ some '"') (hsingle : rest.head? ≠ some '\'') :
    read (print cs ++ rest) = some (cs, rest) := read_printAs (shows_style cs) hdouble hsingle

/-- What `print` writes begins with a quote. -/
theorem exists_print_eq_cons (cs : List Char) : ∃ t, print cs = '"' :: t ∨ print cs = '\'' :: t := by
  unfold print printAs
  cases style cs with
  | basic | longBasic => exact ⟨_, .inl rfl⟩
  | literal | longLiteral => exact ⟨_, .inr rfl⟩

end JmapClient.Toml.Text
