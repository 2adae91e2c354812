import JmapClient.Proofs.References
import Mathlib.Data.List.Nodup
import Mathlib.Data.List.Perm.Subperm
import Mathlib.Order.Bounds.Basic

/-!
# Generated ids

A call that is queued without an id of the caller's choice gets the numeral of its place, or the first one
behind it that is no call's id. This search has no bound of its own (`Search`), but it ends: no two numbers have
the same numeral (`hexNumeral_injective`), so that among one more numerals than there are calls one is free
(`Request.search_nextNumber`). Hence the numbers that are generated increase along any run
(`Build.exists_generated_eq`), and they are the places of the calls where no other ids are given
(`Build.callId_of_invokes`).
-/

namespace JmapClient

open Json

/-! ### Numerals -/

/-- The number that the hexadecimal digits `cs` stand for. -/
def hexNumber? (cs : List Char) : Option Nat :=
  cs.foldlM (fun n c => (hexValue? c).map (16 * n + ·)) 0

theorem hexValue?_digitChar {d : Nat} (h : d < 16) : hexValue? d.digitChar = some d := by
  have hall : ∀ d < 16, hexValue? (Nat.digitChar d) = some d := by decide
  exact hall d h

/-- A numeral (`Nat.toDigits`) stands for its number. -/
theorem hexNumber?_toDigits (n : Nat) : hexNumber? (Nat.toDigits 16 n) = some n := by
  induction n using Nat.strongRecOn with
  | ind n ih =>
    rw [Nat.toDigits_eq_if (by decide)]
    split_ifs with h
    · simp [hexNumber?, hexValue?_digitChar h]
    · have hquotient : hexNumber? (Nat.toDigits 16 (n / 16)) = some (n / 16) := ih _ (by omega)
      have hdigit : hexValue? (n % 16).digitChar = some (n % 16) := hexValue?_digitChar (by omega)
      unfold hexNumber? at hquotient ⊢
      rw [List.foldlM_append, hquotient]
      simp [hdigit, Nat.div_add_mod]

theorem hexNumeral_injective : Function.Injective hexNumeral := by
  intro m n h
  have hdigits : Nat.toDigits 16 m = Nat.toDigits 16 n := String.ofList_injective h
  have hnumber := hexNumber?_toDigits m
  rw [hdigits, hexNumber?_toDigits] at hnumber
  exact (Option.some.inj hnumber).symm

/-! ### The search for a numeral -/

/-- Looking from a number on for a numeral that is not taken: the number at which the search ends, and how many
numerals it looks at. -/
inductive Search (taken : String → Bool) : Nat → Nat → Nat → Prop
  | found {n : Nat} (h : taken (hexNumeral n) = false) : Search taken n n 1
  | next {n m k : Nat} (h : taken (hexNumeral n) = true) (rest : Search taken (n + 1) m k) :
    Search taken n m (k + 1)

section Search

variable {taken : String → Bool} {n m k : Nat}

theorem Search.isLeast (h : Search taken n m k) :
    IsLeast {i | n ≤ i ∧ taken (hexNumeral i) = false} m := by
  induction h with
  | found h => exact ⟨⟨le_rfl, h⟩, fun i hi => hi.1⟩
  | @next n m k h _ ih =>
    obtain ⟨⟨hle, hfree⟩, hleast⟩ := ih
    refine ⟨⟨by omega, hfree⟩, fun i hi => hleast ⟨?_, hi.2⟩⟩
    obtain ⟨hi, hifree⟩ := hi
    have hne : n ≠ i := by
      rintro rfl
      rw [h] at hifree
      cases hifree
    omega

/-- Where one of the `fuel` numerals looked at is free, the search ends. -/
theorem search_firstFree {fuel i : Nat} (hi : i < fuel) (hfree : taken (hexNumeral (n + i)) = false) :
    ∃ k ≤ fuel, Search taken n (Request.firstFree taken n fuel) k := by
  induction fuel generalizing n i with
  | zero => cases hi
  | succ fuel ih =>
    unfold Request.firstFree
    cases h : taken (hexNumeral n) with
    | false => exact ⟨1, by omega, .found h⟩
    | true =>
      cases i with
      | zero =>
        rw [Nat.add_zero, h] at hfree
        cases hfree
      | succ i =>
        have hplace : n + (i + 1) = n + 1 + i := by omega
        rw [hplace] at hfree
        obtain ⟨k, hk, hsearch⟩ := ih (by omega) hfree
        exact ⟨k + 1, by omega, .next h hsearch⟩

end Search

namespace Request

/-- Among one more numerals than there are calls, one is no call's id. -/
theorem exists_hasCall_eq_false (r : Request) :
    ∃ i < r.calls.length + 1, r.hasCall (hexNumeral (r.calls.length + i)) = false := by
  by_contra! htaken
  let numerals := (List.range (r.calls.length + 1)).map fun i => hexNumeral (r.calls.length + i)
  have hnodup : numerals.Nodup :=
    List.nodup_range.map fun i j h => Nat.add_left_cancel (hexNumeral_injective h)
  have hsubset : numerals ⊆ r.calls.map (·.callId) := by
    intro s hs
    obtain ⟨i, hi, rfl⟩ := List.mem_map.1 hs
    by_contra hfree
    exact htaken i (List.mem_range.1 hi) (hasCall_eq_false_iff.2 hfree)
  have hlength := (List.subperm_of_subset hnodup hsubset).length_le
  simp only [numerals, List.length_map, List.length_range] at hlength
  omega

/-- The `Search` for an id ends, and looks at no more than one more numerals than there are calls. -/
theorem search_nextNumber (r : Request) :
    ∃ k ≤ r.calls.length + 1, Search r.hasCall r.calls.length r.nextNumber k := by
  obtain ⟨i, hi, hfree⟩ := r.exists_hasCall_eq_false
  exact search_firstFree hi hfree

theorem isLeast_nextNumber (r : Request) :
    IsLeast {n | r.calls.length ≤ n ∧ hexNumeral n ∉ r.calls.map (·.callId)} r.nextNumber := by
  obtain ⟨k, -, hsearch⟩ := r.search_nextNumber
  simpa only [hasCall_eq_false_iff] using hsearch.isLeast

-- The place of the call is 1, but this id is taken.
example : nextNumber ⟨[], [⟨"Core/echo", .null, "1"⟩], none⟩ = 2 := by decide +kernel

theorem hexNumeral_nextNumber_not_mem (r : Request) :
    hexNumeral r.nextNumber ∉ r.calls.map (·.callId) :=
  r.isLeast_nextNumber.1.2

/-- What was taken stays taken when a batch grows. -/
theorem nextNumber_le_of_prefix {r r' : Request} (h : r.calls <+: r'.calls) :
    r.nextNumber ≤ r'.nextNumber := by
  obtain ⟨⟨hle, hfree⟩, -⟩ := r'.isLeast_nextNumber
  refine r.isLeast_nextNumber.2 ⟨h.length_le.trans hle, fun hmem => hfree ?_⟩
  exact (h.map (·.callId)).subset hmem

/-- Where the ids are the numerals of the places, the next id is so too. -/
theorem nextNumber_of_places {r : Request}
    (h : r.calls.map (·.callId) = (List.range r.calls.length).map hexNumeral) :
    r.nextNumber = r.calls.length := by
  refine r.isLeast_nextNumber.unique ⟨⟨le_rfl, fun hmem => ?_⟩, fun n hn => hn.1⟩
  rw [h, List.mem_map] at hmem
  obtain ⟨n, hn, heq⟩ := hmem
  exact absurd (List.mem_range.1 hn) (by rw [hexNumeral_injective heq]; exact lt_irrefl _)

theorem invoke_ne_duplicateCallId (r : Request) (m : MethodCall) (callId : String) :
    r.invoke m ≠ .error (.duplicateCallId callId) := by
  have hfresh := hasCall_eq_false_iff.2 r.hexNumeral_nextNumber_not_mem
  rw [invoke, invokeAs, hfresh, if_neg Bool.false_ne_true]
  cases m.arguments with
  | error p => simp
  | ok v =>
    cases hv : conflict? v with
    | some name => simp [hv]
    | none => simp [hv]

end Request

/-! ### Runs -/

/-- The id that a step generates, if it is to generate one and succeeds. -/
def BuildStep.generated? (r : Request) : BuildStep → Option String
  | .invoke m => (r.invoke m).toOption.map (·.2)
  | .invokeAs _ _ => none
  | .withCreatedIds _ => none

namespace Build

/-- The ids that steps generate which are carried out one after the other from `b`. -/
def generated (b : Build) : List BuildStep → List String
  | [] => []
  | s :: steps => (s.generated? b.request).toList ++ (b.step s).generated steps

/-- A call without an id of the caller's choice is queued under the next numeral, or not at all. -/
theorem step_invoke_cases (b : Build) (m : MethodCall) :
    (b.step (.invoke m) = b ∧ BuildStep.generated? b.request (.invoke m) = none) ∨
      ∃ v, b.step (.invoke m) = ⟨b.request.push m v (hexNumeral b.request.nextNumber),
          b.queued ++ [⟨m, hexNumeral b.request.nextNumber⟩]⟩ ∧
        BuildStep.generated? b.request (.invoke m) = some (hexNumeral b.request.nextNumber) := by
  simp only [step, BuildStep.apply, BuildStep.generated?]
  cases h : b.request.invoke m with
  | error e => exact Or.inl ⟨rfl, rfl⟩
  | ok p =>
    obtain ⟨r, callId⟩ := p
    obtain ⟨-, rfl, v, -, -, rfl⟩ := Request.invokeAs_eq_ok_iff.1 h
    exact Or.inr ⟨v, rfl, rfl⟩

theorem generated?_cases (b : Build) (s : BuildStep) :
    s.generated? b.request = none ∨
      s.generated? b.request = some (hexNumeral b.request.nextNumber) ∧
        hexNumeral b.request.nextNumber ∈ (b.step s).request.calls.map (·.callId) := by
  cases s with
  | invoke m =>
    rcases b.step_invoke_cases m with ⟨-, hnone⟩ | ⟨v, hstep, hsome⟩
    · exact Or.inl hnone
    · refine Or.inr ⟨hsome, ?_⟩
      rw [hstep]
      simp [Request.push]
  | invokeAs _ _ | withCreatedIds _ => exact Or.inl rfl

/-- The numbers that are generated increase, from the next number of the batch on. -/
theorem exists_generated_eq (b : Build) (steps : List BuildStep) :
    ∃ ns : List Nat, b.generated steps = ns.map hexNumeral ∧ ns.Pairwise (· < ·) ∧
      ∀ n ∈ ns, b.request.nextNumber ≤ n := by
  induction steps generalizing b with
  | nil => exact ⟨[], rfl, .nil, by simp⟩
  | cons s steps ih =>
    obtain ⟨ns, hns, hincreasing, hle⟩ := ih (b.step s)
    have hgrows : b.request.nextNumber ≤ (b.step s).request.nextNumber :=
      Request.nextNumber_le_of_prefix (Extends.calls_prefix (b.extends_step s))
    rw [generated, hns]
    rcases b.generated?_cases s with hnone | ⟨hsome, hmem⟩
    · rw [hnone]
      exact ⟨ns, rfl, hincreasing, fun n hn => hgrows.trans (hle n hn)⟩
    · -- The number that was generated is taken from now on.
      have hne : b.request.nextNumber ≠ (b.step s).request.nextNumber := by
        intro heq
        rw [heq] at hmem
        exact (b.step s).request.hexNumeral_nextNumber_not_mem hmem
      have hlt : ∀ n ∈ ns, b.request.nextNumber < n := fun n hn =>
        (lt_of_le_of_ne hgrows hne).trans_le (hle n hn)
      rw [hsome]
      refine ⟨b.request.nextNumber :: ns, rfl, List.pairwise_cons.2 ⟨hlt, hincreasing⟩, ?_⟩
      simpa using fun n hn => (hlt n hn).le

theorem Sound.map_callId {b : Build} (h : b.Sound) :
    b.request.calls.map (·.callId) = b.queued.map (·.callId) := by
  have hids := congrArg (List.map fun c : String × Except Problem Value × String => c.2.2) h.calls_eq
  simpa [Function.comp_def] using hids

/-- Where no call has an id of the caller's choice, the ids are the numerals of the places. -/
theorem callId_of_invokes (ms : List MethodCall) :
    (run (ms.map .invoke)).queued.map (·.callId) =
      (List.range (run (ms.map .invoke)).queued.length).map hexNumeral := by
  refine (run_induction (P := fun b => b.Sound ∧
    b.queued.map (·.callId) = (List.range b.queued.length).map hexNumeral) ⟨sound_empty, rfl⟩ ?_).2
  intro b s hs ⟨hsound, hplaces⟩
  obtain ⟨m, -, rfl⟩ := List.mem_map.1 hs
  refine ⟨hsound.step _, ?_⟩
  rcases b.step_invoke_cases m with ⟨hstep, -⟩ | ⟨v, hstep, -⟩
  · rwa [hstep]
  · have hids := hsound.map_callId
    have hlength : b.request.calls.length = b.queued.length := by
      simpa using congrArg List.length hids
    have hnext : b.request.nextNumber = b.queued.length :=
      hlength ▸ Request.nextNumber_of_places (by rw [hids, hplaces, hlength])
    rw [hstep]
    simp [hplaces, hnext, List.range_succ]

/-- The `Search` for an id ends at the least number whose numeral is free, so the id is never refused, and the numbers
that are generated increase. -/
theorem numbers_generated :
    (∀ r : Request,
      (∃ k ≤ r.calls.length + 1, Search r.hasCall r.calls.length r.nextNumber k) ∧
      IsLeast {n | r.calls.length ≤ n ∧ hexNumeral n ∉ r.calls.map (·.callId)} r.nextNumber ∧
      ∀ m, r.invoke m = r.invokeAs (hexNumeral r.nextNumber) m ∧
        ∀ callId, r.invoke m ≠ .error (.duplicateCallId callId)) ∧
    (∀ r steps, ∃ ns : List Nat,
      (Build.mk r []).generated steps = ns.map hexNumeral ∧ ns.Pairwise (· < ·)) ∧
    ∀ ms : List MethodCall, (run (ms.map .invoke)).queued.map (·.callId) =
      (List.range (run (ms.map .invoke)).queued.length).map hexNumeral := by
  refine ⟨fun r => ⟨r.search_nextNumber, r.isLeast_nextNumber, fun m => ⟨rfl, ?_⟩⟩, fun r steps => ?_,
    callId_of_invokes⟩
  · exact r.invoke_ne_duplicateCallId m
  · obtain ⟨ns, hns, hincreasing, -⟩ := exists_generated_eq ⟨r, []⟩ steps
    exact ⟨ns, hns, hincreasing⟩

end Build

end JmapClient
