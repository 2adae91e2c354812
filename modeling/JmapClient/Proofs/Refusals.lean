import JmapClient.Outcome
import JmapClient.Proofs.Executing
import Mathlib.Data.List.TakeWhile

/-!
# Refusals

An answer whose status is not one of success refuses a request. It may describe why (`Http.Response.Describes`): its
content type names a type of JSON, in any case of letters and with whatever parameters (`Http.Names`), and its body is a
problem document. From the description, or else from the bare status, it follows whether the trouble passes
(`Http.Response.Passing`), and so what a command that is refused ends with (`Outcome.fails_of_refusal`).
-/

namespace JmapClient

open Json

/-! ### Content types -/

namespace Http

/-- `contentType` names a media type: the letters of `name` stand in it in any case, perhaps with white space around
them, and with parameters after a semicolon. -/
def Names (contentType name : String) : Prop :=
  ∃ before letters after rest, contentType.toList = before ++ letters ++ after ++ rest ∧
    letters.map Char.toLower = name.toList ∧ (∀ c ∈ before ++ after, isBlank c = true) ∧
    (rest = [] ∨ ∃ parameters, rest = ';' :: parameters)

theorem toLower_of_isBlank {c : Char} (h : isBlank c = true) : c.toLower = c := by
  have hnat : c.toNat = c.val.toNat := rfl
  simp only [isBlank, blanks, List.any_cons, List.any_nil, Bool.or_false, Bool.or_eq_true, decide_eq_true_eq, hnat] at h
  unfold Char.toLower
  split_ifs with hupper
  · simp only [ge_iff_le, UInt32.le_iff_toNat_le] at hupper
    have hlow : 'A'.val.toNat = 65 := rfl
    have hhigh : 'Z'.val.toNat = 90 := rfl
    omega
  · rfl

/-- White space at the ends is all that `trim` takes away. -/
theorem exists_eq_trim (cs : List Char) :
    ∃ before after, cs = before ++ trim cs ++ after ∧ ∀ c ∈ before ++ after, isBlank c = true := by
  let core := (cs.dropWhile isBlank).reverse
  refine ⟨cs.takeWhile isBlank, (core.takeWhile isBlank).reverse, ?_, fun c hc => ?_⟩
  · calc cs
        = cs.takeWhile isBlank ++ core.reverse := by
          rw [List.reverse_reverse, List.takeWhile_append_dropWhile]
      _ = cs.takeWhile isBlank ++ (core.takeWhile isBlank ++ core.dropWhile isBlank).reverse := by
          rw [List.takeWhile_append_dropWhile]
      _ = cs.takeWhile isBlank ++ trim cs ++ (core.takeWhile isBlank).reverse := by
          rw [List.reverse_append, ← List.append_assoc]
          rfl
  · rcases List.mem_append.1 hc with hc | hc
    · exact List.mem_takeWhile_imp hc
    · exact List.mem_takeWhile_imp (List.mem_reverse.1 hc)

theorem dropWhile_isBlank {before letters after : List Char} (hbefore : ∀ c ∈ before, isBlank c = true)
    (hletters : ∀ c ∈ letters, isBlank c = false) (hne : letters ≠ []) :
    (before ++ letters ++ after).dropWhile isBlank = letters ++ after := by
  rw [List.append_assoc, List.dropWhile_append_of_pos hbefore]
  cases letters with
  | nil => exact absurd rfl hne
  | cons c letters => exact List.dropWhile_cons_of_neg (by simp [hletters c])

theorem trim_append {before letters after : List Char} (hblank : ∀ c ∈ before ++ after, isBlank c = true)
    (hletters : ∀ c ∈ letters, isBlank c = false) (hne : letters ≠ []) :
    trim (before ++ letters ++ after) = letters := by
  obtain ⟨hbefore, hafter⟩ := List.forall_mem_append.1 hblank
  have hreversed : (after.reverse ++ letters.reverse ++ []).dropWhile isBlank = letters.reverse ++ [] :=
    dropWhile_isBlank (by simpa using hafter) (by simpa using hletters) (by simpa using hne)
  rw [List.append_nil, List.append_nil] at hreversed
  rw [trim, dropWhile_isBlank hbefore hletters hne, List.reverse_append, hreversed, List.reverse_reverse]

theorem dropWhile_ne_semicolon (cs : List Char) :
    cs.dropWhile (· ≠ ';') = [] ∨ ∃ parameters, cs.dropWhile (· ≠ ';') = ';' :: parameters := by
  induction cs with
  | nil => exact Or.inl rfl
  | cons c cs ih =>
    by_cases hc : c = ';'
    · exact Or.inr ⟨cs, by rw [List.dropWhile_cons_of_neg (by simp [hc]), hc]⟩
    · rw [List.dropWhile_cons_of_pos (by simp [hc])]
      exact ih

theorem mediaType_eq_iff {contentType name : String} (hblank : ∀ c ∈ name.toList, isBlank c = false)
    (hsemicolon : ';' ∉ name.toList) (hne : name.toList ≠ []) :
    mediaType contentType = name ↔ Names contentType name := by
  constructor
  · intro h
    obtain ⟨before, after, hcs, hblanks⟩ := exists_eq_trim (contentType.toList.takeWhile (· ≠ ';'))
    refine ⟨before, trim (contentType.toList.takeWhile (· ≠ ';')), after, contentType.toList.dropWhile (· ≠ ';'),
      ?_, ?_, hblanks, dropWhile_ne_semicolon _⟩
    · rw [← hcs, List.takeWhile_append_dropWhile]
    · rw [← h, mediaType, String.toList_ofList]
  · rintro ⟨before, letters, after, rest, hcs, hletters, hblanks, hrest⟩
    have hmem {c : Char} (hc : c ∈ letters) : c.toLower ∈ name.toList := by
      rw [← hletters]
      exact List.mem_map_of_mem hc
    -- White space has no case, so it would be in the name as well.
    have hnone : ∀ c ∈ letters, isBlank c = false := by
      intro c hc
      by_contra hb
      have hb : isBlank c = true := by simpa using hb
      have hlower := hblank _ (hmem hc)
      rw [toLower_of_isBlank hb, hb] at hlower
      cases hlower
    have hwhole : ∀ c ∈ before ++ letters ++ after, decide (c ≠ ';') = true := by
      intro c hc
      refine decide_eq_true fun heq => ?_
      subst heq
      have hblank : ';' ∈ before ++ after → False := fun h => absurd (hblanks _ h) (by decide)
      simp only [List.mem_append] at hc hblank
      rcases hc with (hc | hc) | hc
      · exact hblank (Or.inl hc)
      · exact hsemicolon (hmem hc)
      · exact hblank (Or.inr hc)
    have hempty : letters ≠ [] := fun h => hne (by rw [← hletters, h]; rfl)
    have hrest : rest.takeWhile (· ≠ ';') = [] := by
      rcases hrest with rfl | ⟨parameters, rfl⟩
      · rfl
      · exact List.takeWhile_cons_of_neg (by decide)
    rw [mediaType, hcs, List.takeWhile_append_of_pos hwhole, hrest, List.append_nil, trim_append hblanks hnone hempty,
      hletters, String.ofList_toList]

theorem Response.isJson_iff {r : Response} :
    r.isJson = true ↔ ∃ contentType, r.contentType = some contentType ∧
      (Names contentType "application/json" ∨ Names contentType "application/problem+json") := by
  have hjson (contentType : String) : mediaType contentType = jsonType ↔ Names contentType "application/json" :=
    mediaType_eq_iff (by simp [jsonType, isBlank, blanks]) (by decide) (by decide)
  have hproblem (contentType : String) :
      mediaType contentType = problemType ↔ Names contentType "application/problem+json" :=
    mediaType_eq_iff (by simp [problemType, isBlank, blanks]) (by decide) (by decide)
  unfold isJson
  cases r.contentType with
  | none => simp
  | some contentType =>
    simp only [Bool.or_eq_true, beq_iff_eq, hjson, hproblem, Option.some.injEq, exists_eq_left']

/-! ### Why a request is refused -/

namespace Response

/-- `r` describes why it refuses: it is JSON by its content type, and its body is the problem document `e`. -/
def Describes (r : Response) (e : RequestError) : Prop :=
  (∃ contentType, r.contentType = some contentType ∧
    (Names contentType "application/json" ∨ Names contentType "application/problem+json")) ∧ readText r.body = .ok e

/-- The status that counts: the one that `e` describes, unless it is 0. -/
def effectiveStatus (r : Response) (e : RequestError) : UInt16 := if e.status = 0 then r.status else e.status

/-- The trouble that an answer tells of passes: there are too many requests, or the server has trouble of its own. If
a reason is described, its status counts, and its type must not be that of an exceeded limit. -/
def Passing (r : Response) : Prop :=
  (∃ e, r.Describes e ∧ e.type ≠ ErrorType.limit ∧ (r.effectiveStatus e = 429 ∨ 500 ≤ r.effectiveStatus e)) ∨
    (∀ e, ¬ r.Describes e) ∧ (r.status = 429 ∨ 500 ≤ r.status)

theorem refusal_of_describes {r : Response} {e : RequestError} (h : r.Describes e) :
    r.refusal = .request { e with status := r.effectiveStatus e } := by
  obtain ⟨hjson, hread⟩ := h
  unfold refusal effectiveStatus
  rw [if_pos (isJson_iff.2 hjson), hread]
  dsimp only
  split_ifs with hstatus <;> rfl

theorem refusal_of_not_describes {r : Response} (h : ∀ e, ¬ r.Describes e) :
    r.refusal = .status r.status r.bodyText := by
  unfold refusal
  split_ifs with hjson
  · cases hread : (readText r.body : Except Problem RequestError) with
    | error problem => rfl
    | ok e => exact absurd ⟨isJson_iff.1 hjson, hread⟩ (h e)
  · rfl

theorem Describes.eq {r : Response} {e e' : RequestError} (h : r.Describes e) (h' : r.Describes e') : e = e' :=
  Except.ok.inj (h.2.symm.trans h'.2)

theorem passing_of_describes {r : Response} {e : RequestError} (h : r.Describes e) :
    r.Passing ↔ e.type ≠ ErrorType.limit ∧ (r.effectiveStatus e = 429 ∨ 500 ≤ r.effectiveStatus e) := by
  constructor
  · rintro (⟨e', h', hpassing⟩ | ⟨hnone, -⟩)
    · rw [h.eq h']
      exact hpassing
    · exact absurd h (hnone e)
  · exact fun hpassing => Or.inl ⟨e, h, hpassing⟩

theorem passing_of_not_describes {r : Response} (h : ∀ e, ¬ r.Describes e) :
    r.Passing ↔ r.status = 429 ∨ 500 ≤ r.status := by
  constructor
  · rintro (⟨e, he, -⟩ | ⟨-, hpassing⟩)
    · exact absurd he (h e)
    · exact hpassing
  · exact fun hpassing => Or.inr ⟨h, hpassing⟩

end Response

end Http

theorem isPassingStatus_iff {status : UInt16} : isPassingStatus status = true ↔ status = 429 ∨ 500 ≤ status := by
  simp [isPassingStatus]

/-- The verdict on a refusal is that it passes if and only if the trouble does (`Passing`). -/
theorem Error.verdict_refusal (r : Http.Response) :
    ∃ kind passing, r.refusal.verdict = .of kind passing ∧ (passing = true ↔ r.Passing) := by
  by_cases h : ∃ e, r.Describes e
  · obtain ⟨e, he⟩ := h
    rw [Http.Response.refusal_of_describes he, Http.Response.passing_of_describes he, verdict]
    by_cases hlimit : e.type = ErrorType.limit
    · exact ⟨_, _, if_pos hlimit, by simp [hlimit]⟩
    · refine ⟨_, _, if_neg hlimit, ?_⟩
      rw [isPassingStatus_iff]
      exact (and_iff_right hlimit).symm
  · have hnone : ∀ e, ¬ r.Describes e := not_exists.1 h
    rw [Http.Response.refusal_of_not_describes hnone, Http.Response.passing_of_not_describes hnone]
    exact ⟨_, _, rfl, isPassingStatus_iff⟩

/-! ### What a command ends with -/

namespace Outcome

/-- A command ends with a report of a failure, which tells whether it is `retryable`, and with `number`. -/
def Fails (o : Outcome) (number : Nat) (retryable : Bool) : Prop :=
  ∃ code kind message, code.number = number ∧ o = .ended code
    ((Tree.object [("ok", .bool false), ("error", .object [("type", .string kind), ("message", .string message),
      ("retryable", .bool retryable)])]).print ++ "\n")

theorem fails_of_verdict {f : Failure} {kind : String} {passing : Bool} (hfatal : f.isFatal = false)
    (hverdict : f.verdict = .of kind passing) : (ofFailure f).Fails (if passing then 1 else 2) passing := by
  have hcode : f.verdict.code.number = if passing then 1 else 2 := by
    rw [hverdict]
    cases passing <;> rfl
  have hretryable : f.verdict.isRetryable = passing := by
    rw [hverdict]
    cases passing <;> rfl
  refine ⟨f.verdict.code, f.verdict.kind, f.message, hcode, ?_⟩
  rw [ofFailure, hfatal, ← hretryable]
  rfl

/-- A command that is refused fails for now if the trouble passes, and for good if it does not. -/
theorem fails_of_refusal (r : Http.Response) :
    (r.Passing → (ofFailure (.client r.refusal)).Fails 1 true) ∧
      (¬ r.Passing → (ofFailure (.client r.refusal)).Fails 2 false) := by
  have hfatal : (Failure.client r.refusal).isFatal = false := by
    rcases r.refusal_cases with ⟨e, he⟩ | he <;> rw [he] <;> rfl
  obtain ⟨kind, passing, hverdict, hpassing⟩ := Error.verdict_refusal r
  have hfails := fails_of_verdict hfatal hverdict
  cases passing with
  | true => exact ⟨fun _ => hfails, fun h => absurd (hpassing.1 rfl) h⟩
  | false => exact ⟨fun h => absurd (hpassing.2 h) (by decide), fun _ => hfails⟩

end Outcome

end JmapClient
