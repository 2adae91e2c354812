import JmapClient.Notes
import JmapClient.Proofs.Building
import JmapClient.Proofs.Json.Members

/-!
# References to earlier calls

A batch only grows at its end (`Build.Extends`), and the ids of its calls differ. So a reference that is made
from a batch is to one call, at a place of its own (`ResultReference.PointsTo`), and stays so whatever is
queued later. An argument that is such a reference is written under its name with a `#` in front
(`MethodCall.Refers.find?_arguments`) and hence tells of a call that stands before its own
(`Build.reference_resolves`).
-/

namespace JmapClient

open Json Json.Record Notes

/-! ### Growing batches -/

namespace Build

/-- What was built in `b` is in its place still, and more may stand behind it. -/
structure Extends (b b' : Build) : Prop where
  calls_prefix : b.request.calls <+: b'.request.calls
  queued_prefix : b.queued <+: b'.queued

theorem Extends.refl (b : Build) : b.Extends b := ⟨List.prefix_rfl, List.prefix_rfl⟩

theorem Extends.trans {b b' b'' : Build} (h : b.Extends b') (h' : b'.Extends b'') : b.Extends b'' :=
  ⟨h.calls_prefix.trans h'.calls_prefix, h.queued_prefix.trans h'.queued_prefix⟩

theorem extends_step (b : Build) (s : BuildStep) : b.Extends (b.step s) := by
  rcases b.step_cases s with hs | ⟨ids, hs⟩ | ⟨m, v, callId, -, -, -, -, hs⟩
  · rw [hs]
    exact .refl b
  · rw [hs]
    exact ⟨List.prefix_rfl, List.prefix_rfl⟩
  · rw [hs]
    exact ⟨List.prefix_append _ _, List.prefix_append _ _⟩

theorem extends_run_append (steps more : List BuildStep) :
    (run steps).Extends (run (steps ++ more)) := by
  induction more using List.reverseRecOn with
  | nil =>
    rw [List.append_nil]
    exact .refl _
  | append_singleton more s ih =>
    rw [← List.append_assoc, run_concat]
    exact ih.trans (extends_step _ s)

end Build

/-! ### References -/

namespace Request

variable {r : Request} {callId path : String} {ref : ResultReference}

theorem reference_eq_ok_iff :
    r.reference callId path = .ok ref ↔
      ∃ c, r.calls.find? (·.callId == callId) = some c ∧ ref = ⟨callId, c.name, path⟩ := by
  unfold reference
  cases r.calls.find? (·.callId == callId) <;> simp [eq_comm]

theorem reference_of_not_mem (h : callId ∉ r.calls.map (·.callId)) :
    r.reference callId path = .error (.unknownCallId callId) := by
  have hnone : r.calls.find? (·.callId == callId) = none := by
    rw [List.find?_eq_none]
    rintro c hc hid
    exact h (List.mem_map.2 ⟨c, hc, by simpa using hid⟩)
  rw [reference, hnone]

theorem exists_reference_iff :
    (∃ ref, r.reference callId path = .ok ref) ↔ callId ∈ r.calls.map (·.callId) := by
  constructor
  · rintro ⟨ref, h⟩
    by_contra hnot
    rw [reference_of_not_mem hnot] at h
    cases h
  · intro h
    obtain ⟨c, hc, rfl⟩ := List.mem_map.1 h
    cases hfind : r.calls.find? (·.callId == c.callId) with
    | none => simpa using List.find?_eq_none.1 hfind c hc
    | some d => exact ⟨_, reference_eq_ok_iff.2 ⟨d, hfind, rfl⟩⟩

end Request

/-- The call that `ref` is to stands at a place in a batch, and no other call has its id. -/
structure ResultReference.PointsTo (ref : ResultReference) (r : Request) (i : Nat) : Prop where
  exists_call : ∃ c, r.calls[i]? = some c ∧ c.callId = ref.resultOf ∧ c.name = ref.name
  unique : ∀ j c, r.calls[j]? = some c → c.callId = ref.resultOf → j = i

namespace ResultReference

variable {ref : ResultReference} {r r' : Request} {i : Nat}

theorem pointsTo_of_getElem? (hn : (r.calls.map (·.callId)).Nodup) {c : Invocation Value}
    (hc : r.calls[i]? = some c) (hid : c.callId = ref.resultOf) (hname : c.name = ref.name) :
    ref.PointsTo r i := by
  refine ⟨⟨c, hc, hid, hname⟩, fun j d hd hdid => ?_⟩
  have hi : i < (r.calls.map (·.callId)).length := by
    rw [List.length_map]
    exact (List.getElem?_eq_some_iff.1 hc).1
  refine ((List.getElem?_inj hi hn).1 ?_).symm
  rw [List.getElem?_map, List.getElem?_map, hc, hd, Option.map_some, Option.map_some, hid, hdid]

theorem exists_pointsTo (hn : (r.calls.map (·.callId)).Nodup) {callId path : String}
    (h : r.reference callId path = .ok ref) : ∃ i, ref.PointsTo r i := by
  obtain ⟨c, hfind, rfl⟩ := Request.reference_eq_ok_iff.1 h
  have hid : c.callId = callId := by simpa using List.find?_some hfind
  obtain ⟨i, hi⟩ := List.getElem?_of_mem (List.mem_of_find?_eq_some hfind)
  exact ⟨i, pointsTo_of_getElem? hn hi hid rfl⟩

theorem PointsTo.lt_length (h : ref.PointsTo r i) : i < r.calls.length := by
  obtain ⟨c, hc, -⟩ := h.exists_call
  exact (List.getElem?_eq_some_iff.1 hc).1

/-- A reference `PointsTo` the same place when the batch has grown. -/
theorem PointsTo.of_prefix (h : ref.PointsTo r i) (hcalls : r.calls <+: r'.calls)
    (hn : (r'.calls.map (·.callId)).Nodup) : ref.PointsTo r' i := by
  obtain ⟨c, hc, hid, hname⟩ := h.exists_call
  obtain ⟨later, hlater⟩ := hcalls
  refine pointsTo_of_getElem? hn (c := c) ?_ hid hname
  rw [← hlater, List.getElem?_append_left h.lt_length, hc]

end ResultReference

/-! ### Arguments that are references -/

theorem ResultReference.faithful : Faithful ResultReference fun _ => [] := by
  refine .of_record (fun _ => rfl) (fun _ => rfl) (by decide) fun ref => ?_
  have h := (((restores_required faithful_string "resultOf" ref.resultOf).map mk).seq
    (restores_required faithful_string "name" ref.name)).seq
    (restores_required faithful_string "path" ref.path)
  exact h.congr (by simp)

/-- An argument that is a reference is written under its name with a `#`, and what is written is read as the
reference. -/
theorem Argument.members_reference {α : Type} [Writable α] (name : String) (ref : ResultReference) :
    ∃ t, (Argument.reference ref : Argument α).members name = .ok [("#" ++ name, t)] ∧
      (Value.ofTree t).read = .ok ref := by
  obtain ⟨t, ht⟩ := (ResultReference.faithful.written_iff ref).2 (by simp)
  exact ⟨t, by rw [members, member, ht]; rfl, ResultReference.faithful.read_ofTree ref t ht⟩

/-- What is written of `part` of a record has some of these `names`, each at most once. -/
def NamedBy (names : List String) (part : Except Problem (List (String × Tree))) : Prop :=
  ∀ ms, part = .ok ms → (ms.map (·.1)).Sublist names

section NamedBy

variable {α : Type} [Writable α] (name : String)

theorem namedBy_nothing (names : List String) : NamedBy names (.ok []) := by
  intro ms h
  obtain rfl := Except.ok.inj h
  exact List.nil_sublist _

theorem namedBy_member (a : α) : NamedBy [name] (member name a) := by
  intro ms h
  obtain ⟨t, -, h⟩ := bind_eq_ok_iff.1 h
  obtain rfl := Except.ok.inj h
  exact List.Sublist.refl _

theorem namedBy_optionalMember (o : Option α) : NamedBy [name] (optionalMember name o) := by
  cases o with
  | none => exact namedBy_nothing _
  | some a => exact namedBy_member name a

theorem namedBy_mapMember {κ : Type} [TextKey κ] [WritableKey κ] (m : SortedMap κ α) :
    NamedBy [name] (SetRecords.mapMember name m) := by
  unfold SetRecords.mapMember
  split_ifs
  · exact namedBy_nothing _
  · exact namedBy_member name m

theorem namedBy_optionalArgument (o : Option (Argument α)) :
    NamedBy [name, "#" ++ name] (optionalArgument name o) := by
  rcases o with _ | (a | ref)
  · exact namedBy_nothing _
  · exact fun ms h => (namedBy_member name a ms h).trans (by simp)
  · exact fun ms h => (namedBy_member ("#" ++ name) ref ms h).trans (by simp)

end NamedBy

theorem sublist_flatten_of_namedBy {names : List (List String)} {parts : Parts}
    (h : List.Forall₂ NamedBy names parts) {mss : List (List (String × Tree))}
    (hmss : parts.mapM id = .ok mss) : (mss.flatten.map (·.1)).Sublist names.flatten := by
  induction h generalizing mss with
  | nil =>
    obtain rfl := Except.ok.inj hmss
    exact List.Sublist.refl _
  | cons hpart _ ih =>
    simp only [List.mapM_cons, id, bind_eq_ok_iff, pure_eq_ok, Except.ok.injEq] at hmss
    obtain ⟨ms, hms, mss, hmss, rfl⟩ := hmss
    rw [List.flatten_cons, List.map_append, List.flatten_cons]
    exact (hpart ms hms).append (ih hmss)

/-- If the parts of arguments have names of their own, what is written of one is found under its name. -/
theorem MethodCall.find?_argumentsOf {names : List (List String)} {parts : Parts}
    (hnames : List.Forall₂ NamedBy names parts) (hn : names.flatten.Nodup) {v : Value}
    (hv : argumentsOf parts = .ok v) {k : String} {t : Tree} (ht : .ok [(k, t)] ∈ parts) :
    ∃ arguments, v.members? = some arguments ∧ arguments.find? k = some (.ofTree t) := by
  simp only [argumentsOf, writeRecord, map_eq_ok_iff, bind_eq_ok_iff, pure_eq_ok, Except.ok.injEq] at hv
  obtain ⟨_, ⟨mss, hmss, rfl⟩, rfl⟩ := hv
  obtain ⟨m, hm, hfind⟩ :=
    Value.exists_members?_ofTree (hn.sublist (sublist_flatten_of_namedBy hnames hmss))
  obtain ⟨ms, hms, heq⟩ := exists_mem_of_forall₂ (mapM_eq_ok_iff.1 hmss) ht
  obtain rfl := Except.ok.inj heq
  exact ⟨m, hm, (hfind k _).2 ⟨t, List.mem_flatten.2 ⟨_, hms, by simp⟩, rfl⟩⟩

/-- An argument of a call is the reference `ref`: the records or the properties to fetch, or the records to destroy. -/
inductive MethodCall.Refers (ref : ResultReference) : String → MethodCall → Prop
  | ids {τ C : Type} [RecordType τ C] {g : Get} (h : g.ids = some (.reference ref)) :
    Refers ref "ids" (g.call τ)
  | properties {τ C : Type} [RecordType τ C] {g : Get} (h : g.properties = some (.reference ref)) :
    Refers ref "properties" (g.call τ)
  | destroy {τ C : Type} [RecordType τ C] {s : SetRecords τ} (h : s.destroy = some (.reference ref)) :
    Refers ref "destroy" s.call

namespace MethodCall.Refers

variable {ref : ResultReference} {name : String} {m : MethodCall}

/-- The arguments of a call to fetch records have names of their own (`NamedBy`). -/
theorem namedBy_get (g : Get) : List.Forall₂ NamedBy
    [["accountId"], ["ids", "#" ++ "ids"], ["properties", "#" ++ "properties"]]
    [member "accountId" g.accountId, optionalArgument "ids" g.ids,
      optionalArgument "properties" g.properties] :=
  .cons (namedBy_member _ _) <| .cons (namedBy_optionalArgument _ _) <|
    .cons (namedBy_optionalArgument _ _) .nil

/-- The arguments of a call to change records have names of their own. -/
theorem namedBy_set {τ : Type} [Writable τ] (s : SetRecords τ) : List.Forall₂ NamedBy
    [["accountId"], ["ifInState"], ["create"], ["update"], ["destroy", "#" ++ "destroy"]]
    [member "accountId" s.accountId, optionalMember "ifInState" s.ifInState,
      SetRecords.mapMember "create" s.create, SetRecords.mapMember "update" s.update,
      optionalArgument "destroy" s.destroy] :=
  .cons (namedBy_member _ _) <| .cons (namedBy_optionalMember _ _) <|
    .cons (namedBy_mapMember _ _) <| .cons (namedBy_mapMember _ _) <|
    .cons (namedBy_optionalArgument _ _) .nil

/-- Under the name of the argument, with a `#` in front, the arguments of the call hold the reference. -/
theorem find?_arguments (h : m.Refers ref name) {v : Value} (hv : m.arguments = .ok v) :
    ∃ arguments u, v.members? = some arguments ∧ arguments.find? ("#" ++ name) = some u ∧
      u.read = .ok ref := by
  -- It is enough that the reference is written as one of the parts of the arguments.
  have of_part {names : List (List String)} {parts : Parts} (hnames : List.Forall₂ NamedBy names parts)
      (hn : names.flatten.Nodup) (hv : argumentsOf parts = .ok v) {α : Type} [Writable α]
      (hpart : (Argument.reference ref : Argument α).members name ∈ parts) :
      ∃ arguments u, v.members? = some arguments ∧ arguments.find? ("#" ++ name) = some u ∧
        u.read = .ok ref := by
    obtain ⟨t, ht, hread⟩ := Argument.members_reference (α := α) name ref
    obtain ⟨arguments, harguments, hfind⟩ := find?_argumentsOf hnames hn hv (ht ▸ hpart)
    exact ⟨arguments, _, harguments, hfind, hread⟩
  cases h with
  | @ids _ _ _ g h =>
    refine of_part (α := List Id) (namedBy_get g) (by decide) hv ?_
    simp [h, optionalArgument]
  | @properties _ _ _ g h =>
    refine of_part (α := List String) (namedBy_get g) (by decide) hv ?_
    simp [h, optionalArgument]
  | @destroy _ _ _ s h =>
    refine of_part (α := List Id) (namedBy_set s) (by decide) hv ?_
    simp [h, optionalArgument]

end MethodCall.Refers

/-! ### References in batches -/

namespace Build

/-- A `reference` is made exactly to calls in the batch. Whatever is queued later, it points to the same call
(`PointsTo`), which stands before every call that holds it as an argument. -/
theorem reference_resolves (steps : List BuildStep) (callId path : String) :
    let b := run steps
    ((∃ ref, b.request.reference callId path = .ok ref) ↔ callId ∈ b.request.calls.map (·.callId)) ∧
    (callId ∉ b.request.calls.map (·.callId) →
      b.request.reference callId path = .error (.unknownCallId callId)) ∧
    ∀ ref, b.request.reference callId path = .ok ref →
      ref.resultOf = callId ∧ ref.path = path ∧ ∃ i, ref.PointsTo b.request i ∧ ∀ more,
        let b' := run (steps ++ more)
        ref.PointsTo b'.request i ∧ b.Extends b' ∧
        ∀ j q, b.queued.length ≤ j → b'.queued[j]? = some q →
          i < j ∧ ∃ c, b'.request.calls[j]? = some c ∧ c.name = q.method.name ∧ c.callId = q.callId ∧
            ∀ name, q.method.Refers ref name →
              ∃ arguments u, c.content.members? = some arguments ∧
                arguments.find? ("#" ++ name) = some u ∧ u.read = .ok ref := by
  intro b
  refine ⟨Request.exists_reference_iff, Request.reference_of_not_mem, fun ref href => ?_⟩
  have hsound : b.Sound := sound_run steps
  obtain ⟨i, hi⟩ := ResultReference.exists_pointsTo hsound.nodup_callIds href
  obtain ⟨_, -, heq⟩ := Request.reference_eq_ok_iff.1 href
  refine ⟨by rw [heq], by rw [heq], i, hi, fun more => ?_⟩
  intro b'
  have hsound' : b'.Sound := sound_run (steps ++ more)
  have hextends : b.Extends b' := extends_run_append steps more
  refine ⟨hi.of_prefix hextends.calls_prefix hsound'.nodup_callIds, hextends, fun j q hj hq => ⟨?_, ?_⟩⟩
  · have hlength : b.request.calls.length = b.queued.length := by
      simpa using congrArg List.length hsound.calls_eq
    have := hi.lt_length
    omega
  · obtain ⟨c, hc, hname, harguments, hid⟩ := hsound'.exists_call hq
    exact ⟨c, hc, hname, hid, fun name hrefers => hrefers.find?_arguments harguments⟩

/-- The records that a search finds are fetched by a reference to it, with another call in between. -/
theorem reference_resolves_of_query :
    let query : MethodCall := (Query.all ⟨"a"⟩).call Note
    let ref : ResultReference := ⟨"0", query.name, "/ids"⟩
    let get : MethodCall := ((Get.all ⟨"a"⟩).withIds (.reference ref)).call Note
    let b := run [.invokeAs "0" query]
    let b' := run [.invokeAs "0" query, .invokeAs "e" Echo.empty.call, .invokeAs "1" get]
    b.request.reference "0" "/ids" = .ok ref ∧ ref.PointsTo b'.request 0 ∧
      ∃ c arguments u, b'.request.calls[2]? = some c ∧ c.name = get.name ∧
        c.content.members? = some arguments ∧ arguments.find? ("#" ++ "ids") = some u ∧
        u.read = .ok ref := by
  intro query ref get b b'
  have hquery : query.arguments = .ok (.ofTree (.object [("accountId", .string "a")])) := rfl
  have hget : get.arguments = .ok (.ofTree (.object [("accountId", .string "a"),
      ("#" ++ "ids", .object [("resultOf", .string "0"), ("name", .string query.name),
        ("path", .string "/ids")])])) := by
    unfold get ref query
    rfl
  have hecho : Echo.empty.call.arguments = .ok (.ofTree (.object [])) := rfl
  have hfirst : b = ⟨Request.empty.push query (.ofTree (.object [("accountId", .string "a")])) "0",
      [⟨query, "0"⟩]⟩ :=
    step_invokeAs (b := empty) (by decide) hquery (by decide +kernel)
  have hall : b'.queued = [⟨query, "0"⟩, ⟨Echo.empty.call, "e"⟩, ⟨get, "1"⟩] := by
    show ((b.step (.invokeAs "e" Echo.empty.call)).step (.invokeAs "1" get)).queued = _
    rw [hfirst, step_invokeAs (by decide +kernel) hecho (by decide +kernel),
      step_invokeAs (by decide +kernel) hget (by decide +kernel)]
    rfl
  have href : b.request.reference "0" "/ids" = .ok ref := by
    rw [hfirst]
    rfl
  obtain ⟨-, -, hresolves⟩ := reference_resolves [.invokeAs "0" query] "0" "/ids"
  obtain ⟨-, -, i, hi, hmore⟩ := hresolves ref href
  obtain ⟨hpoints, -, hlater⟩ := hmore [.invokeAs "e" Echo.empty.call, .invokeAs "1" get]
  have hzero : i = 0 := by
    have hlength : b.request.calls.length = 1 := by rw [hfirst]; rfl
    have hlt : i < b.request.calls.length := hi.lt_length
    omega
  subst hzero
  have hqueued : b.queued.length ≤ 2 := by rw [hfirst]; decide
  have hthird : b'.queued[2]? = some ⟨get, "1"⟩ := by rw [hall]; rfl
  obtain ⟨-, c, hc, hname, -, hrefers⟩ := hlater 2 ⟨get, "1"⟩ hqueued hthird
  obtain ⟨arguments, u, harguments, hu, hread⟩ := hrefers "ids" (.ids rfl)
  exact ⟨href, hpoints, c, arguments, u, hc, hname, harguments, hu, hread⟩

end Build

end JmapClient
