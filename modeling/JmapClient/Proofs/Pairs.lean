import JmapClient.Command.Echo
import JmapClient.Proofs.Except
import JmapClient.Proofs.Maps
import Mathlib.Data.List.TakeDrop
import Mathlib.Data.List.TakeWhile

/-!
# Arguments that are typed

A text gives an argument if it has an `=` that is not the first thing in it (`Echo.isPair_iff`): its name is what goes
before the first `=`, and its value is read of all that follows (`Echo.Gives`). Of some texts either each one gives an
argument, and of those with one name the last counts (`Echo.find?_ofTexts`), or the first that gives none is told
(`Echo.ofTexts_eq_error_iff`).
-/

namespace JmapClient.Echo

open Json

variable {text key value : String} {texts : List String} {v : Value} {e : Echo}

/-! ### One text -/

/-- A text gives an argument: its name, before the first `=`, and what its value is read of. -/
def Gives (text key value : String) : Prop := text = key ++ "=" ++ value ∧ key ≠ "" ∧ '=' ∉ key.toList

/-- `text` gives an argument. -/
def IsPair (text : String) : Prop := ∃ key value, Gives text key value

/-- Why `text` gives no argument. -/
def unnamed (text : String) : Failure := if '=' ∈ text.toList then .emptyKey text else .notAPair text

/-- A text without an `=` or with one at its beginning gives no argument. -/
theorem isPair_iff : IsPair text ↔ '=' ∈ text.toList ∧ text.toList.head? ≠ some '=' := by
  constructor
  · rintro ⟨key, value, rfl, hkey, hsign⟩
    refine ⟨by simp, fun hhead => ?_⟩
    cases hfirst : key.toList with
    | nil => exact hkey (String.toList_eq_nil_iff.1 hfirst)
    | cons c cs =>
      obtain rfl : c = '=' := by simpa [hfirst] using hhead
      simp [hfirst] at hsign
  · rintro ⟨hsign, hhead⟩
    obtain ⟨front, value, htext, hfront⟩ := List.eq_append_cons_of_mem hsign
    refine ⟨.ofList front, .ofList value, ?_, ?_, by simpa using hfront⟩
    · simp [← String.toList_inj, htext]
    · intro hempty
      obtain rfl : front = [] := by simpa using hempty
      simp [htext] at hhead

theorem pairOfText_of_gives (h : Gives text key value) : pairOfText text = .ok (key, valueOf value) := by
  obtain ⟨rfl, hkey, hsign⟩ := h
  have htext : (key ++ "=" ++ value).toList = key.toList ++ '=' :: value.toList := by simp
  have hall : ∀ c ∈ key.toList, decide (c ≠ '=') = true := fun c hc => by
    simpa using fun heq : c = '=' => hsign (heq ▸ hc)
  have hspan : (key ++ "=" ++ value).toList.span (· ≠ '=') = (key.toList, '=' :: value.toList) := by
    rw [htext, List.span_eq_takeWhile_dropWhile, List.takeWhile_append_of_pos hall,
      List.dropWhile_append_of_pos hall]
    simp
  unfold pairOfText
  rw [hspan]
  cases hfirst : key.toList with
  | nil => exact absurd (String.toList_eq_nil_iff.1 hfirst) hkey
  | cons c cs => simp [← hfirst]

theorem Gives.key_eq {key' value' : String} (h : Gives text key value) (h' : Gives text key' value') : key' = key :=
  congrArg Prod.fst (Except.ok.inj ((pairOfText_of_gives h').symm.trans (pairOfText_of_gives h)))

theorem pairOfText_of_not_isPair (h : ¬ IsPair text) : pairOfText text = .error (unnamed text) := by
  rw [isPair_iff] at h
  unfold pairOfText unnamed
  rw [List.span_eq_takeWhile_dropWhile]
  by_cases hsign : '=' ∈ text.toList
  · have hhead : text.toList.head? = some '=' := by
      by_contra hne
      exact h ⟨hsign, hne⟩
    obtain ⟨rest, hrest⟩ := List.head?_eq_some_iff.1 hhead
    simp [hrest]
  · have hall : ∀ c ∈ text.toList, decide (c ≠ '=') = true := fun c hc => by
      simpa using fun heq : c = '=' => hsign (heq ▸ hc)
    rw [List.dropWhile_eq_nil_iff.2 hall, if_neg hsign]

theorem pairOfText_eq_ok_iff :
    pairOfText text = .ok (key, v) ↔ ∃ value, Gives text key value ∧ v = valueOf value := by
  constructor
  · intro h
    by_cases hpair : IsPair text
    · obtain ⟨key', value, hgives⟩ := hpair
      obtain ⟨rfl, rfl⟩ := Prod.mk.inj (Except.ok.inj ((pairOfText_of_gives hgives).symm.trans h))
      exact ⟨value, hgives, rfl⟩
    · cases (pairOfText_of_not_isPair hpair).symm.trans h
  · rintro ⟨value, hgives, rfl⟩
    exact pairOfText_of_gives hgives

theorem exists_pairOfText_eq_ok_iff : (∃ pair, pairOfText text = .ok pair) ↔ IsPair text := by
  constructor
  · rintro ⟨⟨key, v⟩, h⟩
    obtain ⟨value, hgives, -⟩ := pairOfText_eq_ok_iff.1 h
    exact ⟨key, value, hgives⟩
  · rintro ⟨key, value, hgives⟩
    exact ⟨_, pairOfText_of_gives hgives⟩

theorem pairOfText_eq_error_iff {failure : Failure} :
    pairOfText text = .error failure ↔ ¬ IsPair text ∧ failure = unnamed text := by
  constructor
  · intro h
    have hpair : ¬ IsPair text := fun hpair => by
      obtain ⟨pair, hok⟩ := exists_pairOfText_eq_ok_iff.2 hpair
      cases hok.symm.trans h
    exact ⟨hpair, Except.error.inj (h.symm.trans (pairOfText_of_not_isPair hpair))⟩
  · rintro ⟨hpair, rfl⟩
    exact pairOfText_of_not_isPair hpair

/-- What is read of `text`: the value that it is as JSON, or else the text itself. -/
def IsRead (text : String) (v : Value) : Prop :=
  (∀ u, Value.ofBytes (Utf8.encode text) = .ok u → v = u) ∧
    ((∀ u, Value.ofBytes (Utf8.encode text) ≠ .ok u) → v = .string text)

theorem isRead_iff : IsRead text v ↔ v = valueOf text := by
  unfold IsRead valueOf
  cases Value.ofBytes (Utf8.encode text) <;> simp

theorem isRead_string (h : (Value.ofBytes (Utf8.encode text)).isOk = false) : IsRead text (.string text) := by
  unfold IsRead
  cases hread : Value.ofBytes (Utf8.encode text) with
  | ok v =>
    rw [hread] at h
    cases h
  | error fault => simp

/-! ### Several texts -/

theorem ofTexts_eq_error_iff {failure : Failure} :
    ofTexts texts = .error failure ↔ ∃ earlier text later, texts = earlier ++ text :: later ∧
      (∀ t ∈ earlier, IsPair t) ∧ ¬ IsPair text ∧ failure = unnamed text := by
  have hmapM : ofTexts texts = .error failure ↔ texts.mapM pairOfText = .error failure := by
    unfold ofTexts
    cases texts.mapM pairOfText <;> simp
  simp only [hmapM, mapM_eq_error_iff, exists_pairOfText_eq_ok_iff, pairOfText_eq_error_iff]

theorem exists_ofTexts_eq_ok_iff : (∃ e, ofTexts texts = .ok e) ↔ ∀ t ∈ texts, IsPair t := by
  simp only [← exists_pairOfText_eq_ok_iff, ← exists_mapM_eq_ok_iff]
  unfold ofTexts
  cases texts.mapM pairOfText <;> simp

theorem arguments_foldl (e : Echo) (pairs : List (String × Value)) :
    (pairs.foldl (fun e p => e.insert p.1 p.2) e).arguments =
      pairs.foldl (fun m p => m.insert p.1 p.2) e.arguments :=
  (List.foldl_hom Echo.arguments fun _ _ => rfl).symm

/-- Of several `texts` that give an argument the last counts. -/
theorem find?_ofTexts (h : ofTexts texts = .ok e) :
    e.arguments.find? key = some v ↔ ∃ earlier text later value, texts = earlier ++ text :: later ∧
      Gives text key value ∧ (∀ t ∈ later, ∀ value, ¬ Gives t key value) ∧ IsRead value v := by
  simp only [isRead_iff]
  obtain ⟨pairs, hpairs, hfold⟩ := bind_eq_ok_iff.1 h
  rw [mapM_eq_ok_iff] at hpairs
  have hfind : e.arguments.find? key = pairs.reverse.lookup key := by
    have hnone : empty.arguments.find? key = none := rfl
    have hlast := SortedMap.find?_foldl_insert id empty.arguments pairs key
    rw [hnone, Option.map_id, Option.or_none] at hlast
    rw [← Except.ok.inj hfold, arguments_foldl]
    exact hlast
  rw [hfind, List.lookup_eq_some_iff]
  constructor
  · rintro ⟨after, before, hreverse, hafter⟩
    have hsplit : pairs = before.reverse ++ (key, v) :: after.reverse := by
      rw [← List.reverse_reverse pairs, hreverse]
      simp
    rw [hsplit] at hpairs
    obtain ⟨earlier, others, -, hothers, rfl⟩ := forall₂_append_left_iff.1 hpairs.flip
    obtain ⟨text, later, htext, hlater, rfl⟩ := List.forall₂_cons_left_iff.1 hothers
    obtain ⟨value, hgives, rfl⟩ := pairOfText_eq_ok_iff.1 htext
    refine ⟨earlier, text, later, value, rfl, hgives, fun t ht value' hgives' => ?_, rfl⟩
    obtain ⟨p, hp, hpair⟩ := exists_mem_of_forall₂ hlater.flip ht
    obtain rfl := Except.ok.inj (hpair.symm.trans (pairOfText_of_gives hgives'))
    simpa using hafter _ (List.mem_reverse.1 hp)
  · rintro ⟨earlier, text, later, value, rfl, hgives, hlater, rfl⟩
    obtain ⟨before, others, -, hothers, rfl⟩ := forall₂_append_left_iff.1 hpairs
    obtain ⟨p, after, hp, hafter, rfl⟩ := List.forall₂_cons_left_iff.1 hothers
    obtain rfl := Except.ok.inj (hp.symm.trans (pairOfText_of_gives hgives))
    refine ⟨after.reverse, before.reverse, by simp, fun p hp => ?_⟩
    obtain ⟨t, ht, hpair⟩ := exists_mem_of_forall₂ hafter.flip (List.mem_reverse.1 hp)
    obtain ⟨value', hgives', -⟩ := pairOfText_eq_ok_iff.1 hpair
    have hne : key ≠ p.1 := fun heq => hlater t ht value' (heq ▸ hgives')
    simpa using hne

end JmapClient.Echo
