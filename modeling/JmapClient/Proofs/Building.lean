import JmapClient.Request
import Mathlib.Data.List.Nodup
import Mathlib.Data.List.Induction

/-!
# Building batches

A batch is built by a run of steps (`BuildStep`), some of which may fail. `Build` is a batch together with
the calls that were queued in it so far, and `Build.run` carries the steps out from the empty batch. What
one step does is said once (`Build.step_cases`); `Build.Sound` is what every step preserves, so that it
holds of every batch that is built (`Build.sound_run`).
-/

namespace JmapClient

open Json

/-! ### Steps -/

/-- A step in building a batch. -/
inductive BuildStep
  | invoke (m : MethodCall)
  | invokeAs (callId : String) (m : MethodCall)
  | withCreatedIds (ids : SortedMap Id Id)

/-- The call that a step is to queue. -/
def BuildStep.method? : BuildStep → Option MethodCall
  | .invoke m => some m
  | .invokeAs _ m => some m
  | .withCreatedIds _ => none

/-- A call that was queued: what was asked for, and the id that was returned for it. -/
structure Queued where
  method : MethodCall
  callId : String

/-- The batch after a step from `r`, and the call that the step queued. -/
def BuildStep.apply (r : Request) : BuildStep → Except Error (Request × Option Queued)
  | .invoke m => (r.invoke m).map fun (r', callId) => (r', some ⟨m, callId⟩)
  | .invokeAs callId m => (r.invokeAs callId m).map fun (r', callId) => (r', some ⟨m, callId⟩)
  | .withCreatedIds ids => .ok (r.withCreatedIds ids, none)

/-- A batch that is being built, and the calls queued in it so far. -/
structure Build where
  request : Request
  queued : List Queued

namespace Build

/-- Nothing is built yet. -/
def empty : Build := ⟨.empty, []⟩

/-- Carries out the step `s`. One that fails leaves everything as it was. -/
def step (b : Build) (s : BuildStep) : Build :=
  match s.apply b.request with
  | .ok (r, queued?) => ⟨r, b.queued ++ queued?.toList⟩
  | .error _ => b

/-- Carries out `steps` from the empty batch. -/
def run (steps : List BuildStep) : Build := steps.foldl step empty

theorem run_concat (steps : List BuildStep) (s : BuildStep) :
    run (steps ++ [s]) = (run steps).step s := by
  simp [run]

end Build

/-! ### What a step does -/

namespace Request

/-- The batch `r` with one more call. -/
def push (r : Request) (m : MethodCall) (arguments : Value) (callId : String) : Request :=
  { r with uses := addUses r.uses m.requires, calls := r.calls ++ [⟨m.name, arguments, callId⟩] }

theorem hasCall_eq_false_iff {r : Request} {callId : String} :
    r.hasCall callId = false ↔ callId ∉ r.calls.map (·.callId) := by
  simp [hasCall]

theorem invokeAs_eq_ok_iff {r r' : Request} {callId callId' : String} {m : MethodCall} :
    r.invokeAs callId m = .ok (r', callId') ↔
      callId ∉ r.calls.map (·.callId) ∧ callId' = callId ∧
        ∃ v, m.arguments = .ok v ∧ conflict? v = none ∧ r' = r.push m v callId := by
  rw [← hasCall_eq_false_iff]
  unfold invokeAs
  cases hc : r.hasCall callId with
  | true => simp
  | false =>
    cases hm : m.arguments with
    | error p => simp
    | ok v =>
      cases hv : conflict? v with
      | some name => simp [hv]
      | none => simp [hv, push, and_comm, eq_comm]

end Request

theorem BuildStep.apply_eq_ok {r r' : Request} {s : BuildStep} {queued? : Option Queued}
    (h : s.apply r = .ok (r', queued?)) :
    (∃ ids, r' = r.withCreatedIds ids ∧ queued? = none) ∨
      ∃ m v callId, s.method? = some m ∧ callId ∉ r.calls.map (·.callId) ∧ m.arguments = .ok v ∧
        Request.conflict? v = none ∧ r' = r.push m v callId ∧ queued? = some ⟨m, callId⟩ := by
  have queue {m : MethodCall} {callId : String}
      (h : (r.invokeAs callId m).map (fun (r', callId) => (r', some (Queued.mk m callId))) =
        .ok (r', queued?)) :
      ∃ v callId, callId ∉ r.calls.map (·.callId) ∧ m.arguments = .ok v ∧
        Request.conflict? v = none ∧ r' = r.push m v callId ∧ queued? = some ⟨m, callId⟩ := by
    cases hi : r.invokeAs callId m with
    | error e => simp [hi, Except.map] at h
    | ok p =>
      obtain ⟨r₁, callId₁⟩ := p
      obtain ⟨hfresh, rfl, v, hv, hn, rfl⟩ := Request.invokeAs_eq_ok_iff.1 hi
      simp only [hi, Except.map, Except.ok.injEq, Prod.mk.injEq] at h
      obtain ⟨rfl, rfl⟩ := h
      exact ⟨v, _, hfresh, hv, hn, rfl, rfl⟩
  cases s with
  | withCreatedIds ids =>
    simp only [apply, Except.ok.injEq, Prod.mk.injEq] at h
    exact Or.inl ⟨ids, h.1.symm, h.2.symm⟩
  | invoke m =>
    obtain ⟨v, callId, h⟩ := queue h
    exact Or.inr ⟨m, v, callId, rfl, h⟩
  | invokeAs callId m =>
    obtain ⟨v, callId, h⟩ := queue h
    exact Or.inr ⟨m, v, callId, rfl, h⟩

namespace Build

/-- A step does nothing, or tells of records created earlier, or queues its call under a new id. -/
theorem step_cases (b : Build) (s : BuildStep) :
    b.step s = b ∨ (∃ ids, b.step s = ⟨b.request.withCreatedIds ids, b.queued⟩) ∨
      ∃ m v callId, s.method? = some m ∧ callId ∉ b.request.calls.map (·.callId) ∧
        m.arguments = .ok v ∧ Request.conflict? v = none ∧
        b.step s = ⟨b.request.push m v callId, b.queued ++ [⟨m, callId⟩]⟩ := by
  unfold step
  cases h : s.apply b.request with
  | error e => exact Or.inl rfl
  | ok p =>
    obtain ⟨r, queued?⟩ := p
    rcases BuildStep.apply_eq_ok h with ⟨ids, rfl, rfl⟩ | ⟨m, v, callId, hm, hfresh, hv, hn, rfl, rfl⟩
    · exact Or.inr (Or.inl ⟨ids, by simp⟩)
    · exact Or.inr (Or.inr ⟨m, v, callId, hm, hfresh, hv, hn, by simp⟩)

/-- A call under a new id is queued if its arguments can be written and none is given both ways. -/
theorem step_invokeAs {b : Build} {m : MethodCall} {v : Value} {callId : String}
    (hfresh : callId ∉ b.request.calls.map (·.callId)) (hv : m.arguments = .ok v)
    (hn : Request.conflict? v = none) :
    b.step (.invokeAs callId m) = ⟨b.request.push m v callId, b.queued ++ [⟨m, callId⟩]⟩ := by
  have hinvoke : b.request.invokeAs callId m = .ok (b.request.push m v callId, callId) :=
    Request.invokeAs_eq_ok_iff.2 ⟨hfresh, rfl, v, hv, hn, rfl⟩
  rw [step, BuildStep.apply, hinvoke]
  rfl

/-- What every step preserves holds of everything that is built. -/
theorem run_induction {P : Build → Prop} {steps : List BuildStep} (h₀ : P empty)
    (hstep : ∀ b, ∀ s ∈ steps, P b → P (b.step s)) : P (run steps) := by
  induction steps using List.reverseRecOn with
  | nil => exact h₀
  | append_singleton steps s ih =>
    rw [run_concat]
    exact hstep _ s (by simp) (ih fun b s' hs' => hstep b s' (by simp [hs']))

end Build

/-! ### The capabilities of a batch -/

theorem eraseDups_concat (us : List Uri) (u : Uri) :
    (us ++ [u]).eraseDups = if u ∈ us then us.eraseDups else us.eraseDups ++ [u] := by
  rw [List.eraseDups_append]
  by_cases h : u ∈ us <;> simp [List.cons_removeAll, List.eraseDups_cons, h]

theorem nodup_eraseDups (us : List Uri) : us.eraseDups.Nodup := by
  induction us using List.reverseRecOn with
  | nil => simp
  | append_singleton us u ih =>
    rw [eraseDups_concat]
    split_ifs with h
    · exact ih
    · refine ih.append (List.nodup_singleton u) ?_
      simpa [List.disjoint_singleton, List.mem_eraseDups] using h

/-- What is found first is found first among the capabilities that `eraseDups` keeps. -/
theorem find?_eraseDups (p : Uri → Bool) (us : List Uri) : us.eraseDups.find? p = us.find? p := by
  induction us using List.reverseRecOn with
  | nil => simp
  | append_singleton us u ih =>
    rw [eraseDups_concat]
    split_ifs with hu
    · rw [ih, List.find?_append]
      cases hfind : us.find? p with
      | some v => rfl
      | none =>
        have hpu : ¬p u = true := List.find?_eq_none.1 hfind u hu
        simp [hpu]
    · rw [List.find?_append, List.find?_append, ih]

/-- Adding capabilities keeps the first of those that are equal. -/
theorem Request.addUses_eraseDups (us more : List Uri) :
    addUses us.eraseDups more = (us ++ more).eraseDups := by
  induction more generalizing us with
  | nil => simp [addUses]
  | cons u more ih =>
    have hstep : (if us.eraseDups.contains u then us.eraseDups else us.eraseDups ++ [u]) =
        (us ++ [u]).eraseDups := by
      simp [eraseDups_concat, List.mem_eraseDups]
    calc addUses us.eraseDups (u :: more) = addUses (us ++ [u]).eraseDups more := by
          rw [← hstep]
          rfl
      _ = (us ++ u :: more).eraseDups := by rw [ih, List.append_assoc, List.singleton_append]

/-! ### Arguments given both ways -/

/-- None of `arguments` is given both as a value and as a reference. -/
def Unambiguous (arguments : Value) : Prop :=
  ∀ ms, arguments.members? = some ms → ∀ name v, "#" ++ name ∈ ms.keys →
    ms.find? name = some v → v.isNull = true

theorem unambiguous_of_conflict?_eq_none {arguments : Value}
    (h : Request.conflict? arguments = none) : Unambiguous arguments := by
  intro ms hms name v hkey hv
  simp only [Request.conflict?, hms, bind, Option.bind, List.findSome?_eq_none_iff] at h
  have hlist : ("#" ++ name).toList = '#' :: name.toList := by simp
  have := h _ hkey
  simp only [hlist, String.ofList_toList, hv] at this
  by_contra hnull
  simp [hnull] at this

/-! ### What building preserves -/

namespace Build

/-- The capabilities that the queued calls need, in their order. -/
def required (b : Build) : List Uri := b.queued.flatMap (·.method.requires)

/-- The batch holds exactly the `queued` calls, under ids of their own. -/
structure Sound (b : Build) : Prop where
  nodup_callIds : (b.request.calls.map (·.callId)).Nodup
  calls_eq : b.request.calls.map (fun c => (c.name, Except.ok c.content, c.callId)) =
    b.queued.map fun q => (q.method.name, q.method.arguments, q.callId)
  uses_eq : b.request.uses = b.required.eraseDups
  unambiguous : ∀ c ∈ b.request.calls, Unambiguous c.content

theorem sound_empty : empty.Sound where
  nodup_callIds := by simp [empty, Request.empty]
  calls_eq := by simp [empty, Request.empty]
  uses_eq := by simp [empty, Request.empty, required]
  unambiguous := by simp [empty, Request.empty]

theorem Sound.push {b : Build} (h : b.Sound) {m : MethodCall} {v : Value} {callId : String}
    (hfresh : callId ∉ b.request.calls.map (·.callId)) (hv : m.arguments = .ok v)
    (hn : Request.conflict? v = none) :
    Sound ⟨b.request.push m v callId, b.queued ++ [⟨m, callId⟩]⟩ where
  nodup_callIds := by
    simp only [Request.push, List.map_append, List.map_cons, List.map_nil]
    exact h.nodup_callIds.append (List.nodup_singleton _) (by simpa using hfresh)
  calls_eq := by simp [Request.push, h.calls_eq, hv]
  uses_eq := by
    simp only [Request.push, h.uses_eq, Request.addUses_eraseDups]
    simp [required]
  unambiguous := by
    intro c hc
    simp only [Request.push, List.mem_append, List.mem_singleton] at hc
    rcases hc with hc | rfl
    · exact h.unambiguous c hc
    · exact unambiguous_of_conflict?_eq_none hn

theorem Sound.step {b : Build} (h : b.Sound) (s : BuildStep) : (b.step s).Sound := by
  rcases b.step_cases s with hs | ⟨ids, hs⟩ | ⟨m, v, callId, -, hfresh, hv, hn, hs⟩
  · rwa [hs]
  · rw [hs]
    exact ⟨h.nodup_callIds, h.calls_eq, h.uses_eq, h.unambiguous⟩
  · rw [hs]
    exact h.push hfresh hv hn

theorem sound_run (steps : List BuildStep) : (run steps).Sound :=
  run_induction sound_empty fun _ s _ h => h.step s

theorem Sound.mem_uses_iff {b : Build} (h : b.Sound) {u : Uri} :
    u ∈ b.request.uses ↔ ∃ q ∈ b.queued, u ∈ q.method.requires := by
  rw [h.uses_eq, List.mem_eraseDups, required, List.mem_flatMap]

/-- The call of a queued step stands at the step's own place. -/
theorem Sound.exists_call {b : Build} (h : b.Sound) {i : Nat} {q : Queued} (hq : b.queued[i]? = some q) :
    ∃ c, b.request.calls[i]? = some c ∧ c.name = q.method.name ∧ q.method.arguments = .ok c.content ∧
      c.callId = q.callId := by
  have hplace := congrArg (·[i]?) h.calls_eq
  simp only [List.getElem?_map, hq, Option.map_some, Option.map_eq_some_iff, Prod.mk.injEq] at hplace
  obtain ⟨c, hc, hname, harguments, hcallId⟩ := hplace
  exact ⟨c, hc, hname, harguments.symm, hcallId⟩

/-- After any steps the `callId`s differ, the calls are those that were queued, `uses` has what they need in the order
of need, and no argument is given both as a value and as a reference. -/
theorem run_exact (steps : List BuildStep) :
    let b := run steps
    (b.request.calls.map (·.callId)).Nodup ∧
      b.request.calls.map (fun c => (c.name, Except.ok c.content, c.callId)) =
        b.queued.map (fun q => (q.method.name, q.method.arguments, q.callId)) ∧
      (b.request.uses.Nodup ∧
        b.request.uses = (b.queued.flatMap (·.method.requires)).eraseDups ∧
        ∀ u, u ∈ b.request.uses ↔ ∃ q ∈ b.queued, u ∈ q.method.requires) ∧
      ∀ c ∈ b.request.calls, ∀ ms, c.content.members? = some ms → ∀ name v,
        "#" ++ name ∈ ms.keys → ms.find? name = some v → v.isNull = true := by
  intro b
  have h : b.Sound := sound_run steps
  refine ⟨h.nodup_callIds, h.calls_eq, ⟨?_, h.uses_eq, fun u => h.mem_uses_iff⟩, h.unambiguous⟩
  rw [h.uses_eq]
  exact nodup_eraseDups _

end Build

end JmapClient
