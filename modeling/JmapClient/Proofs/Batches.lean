import JmapClient.Proofs.Building
import JmapClient.Proofs.Json.Members
import JmapClient.Proofs.RoundTrip

/-!
# Batches that are read as they were written

A batch is faithful: it is written if and only if the ids of records created earlier are valid, and read as
it was written (`Request.faithful`). Its calls are written in their order, each as an array of its name, its
arguments and its id (`Request.methodCalls_of_write`).
-/

namespace JmapClient

open Json Json.Record

/-! ### Capabilities and calls -/

theorem writeList_eq_ok {α : Type} [Writable α] {tree : α → Tree} (h : ∀ a, write a = .ok (tree a))
    (as : List α) : writeList as = .ok (as.map tree) := by
  rw [writeList_eq_mapM, mapM_eq_ok_iff, List.forall₂_map_right_iff, List.forall₂_same]
  exact fun a _ => h a

theorem faithful_uri : Faithful Uri fun _ => [] :=
  .of_always (fun uri => .string uri.text) (fun _ => rfl) fun _ => rfl

/-- A call as it is written. -/
def Invocation.tree (i : Invocation Value) : Tree :=
  .array [.string i.name, i.content.tree, .string i.callId]

theorem Invocation.read_value (i : Invocation Value) : i.value.read = .ok i := by
  have hdraft : i.value.draft =
      .array false [.string i.name, i.content.tree.draft, .string i.callId] none := by
    show (Tree.normalize _).draft = _
    simp only [Tree.normalize, Tree.normalizeAll, Tree.normalize_eq_self i.content.canonical, Tree.draft,
      Tree.drafts]
  have hcontent : (read i.content.tree.draft : Except Problem Value) = .ok i.content := by
    rw [read_value_draft, Value.ofTree_tree]
  let r : Record (Invocation Value) := mk <$> required "name" <*> required "content" <*> required "callId"
  have hrow : r.ofRow "a tuple of size 3"
      ⟨0, [.string i.name, i.content.tree.draft, .string i.callId], none⟩ = .ok (i, ⟨3, [], none⟩) :=
    ofRow_seq (ofRow_seq (ofRow_map (ofRow_field rfl) mk) (ofRow_field hcontent)) (ofRow_field rfl)
  rw [Value.read, hdraft]
  show r.readRow "a tuple of size 3" _ none = _
  rw [readRow, hrow]
  rfl

theorem Invocation.faithful : Faithful (Invocation Value) fun _ => [] :=
  .of_always tree (fun _ => rfl) read_value

/-! ### Batches -/

namespace Request

/-- The ids in the batch `r`, apart from those in arguments. -/
def allIds (r : Request) : List Id := r.createdIds.elim [] fun ids => ids.keys ++ ids.values

theorem faithful : Faithful Request allIds := by
  refine .of_record (fun _ => rfl) (fun _ => rfl) (by decide) fun r => ?_
  have h := (((restores_required faithful_uri.list "using" r.uses).map mk).seq
    (restores_required Invocation.faithful.list "methodCalls" r.calls)).seq
    (restores_optional faithful_idsById neverNull_map "createdIds" r.createdIds)
  exact h.congr (by simp [allIds])

/-- The members of a batch: the capabilities, the calls, and what is `created` earlier, if it tells of that. -/
def members (r : Request) (created : List (String × Tree)) : List (String × Tree) :=
  ("using", .array (r.uses.map fun uri => .string uri.text)) ::
    ("methodCalls", .array (r.calls.map Invocation.tree)) :: created

theorem write_eq_ok_iff {r : Request} {t : Tree} :
    write r = .ok t ↔ ∃ created, optionalMember "createdIds" r.createdIds = .ok created ∧
      .object (r.members created) = t := by
  have huses : member "using" r.uses =
      .ok [("using", .array (r.uses.map fun uri => .string uri.text))] := by
    show ((writeList r.uses).map Tree.array >>= fun t => pure [("using", t)]) = _
    rw [writeList_eq_ok (fun _ => rfl)]
    rfl
  have hcalls : member "methodCalls" r.calls =
      .ok [("methodCalls", .array (r.calls.map Invocation.tree))] := by
    show ((writeList r.calls).map Tree.array >>= fun t => pure [("methodCalls", t)]) = _
    rw [writeList_eq_ok (fun _ => rfl)]
    rfl
  have hwrite : write r = writeRecord
      [member "using" r.uses, member "methodCalls" r.calls, optionalMember "createdIds" r.createdIds] := rfl
  rw [hwrite, huses, hcalls, writeRecord]
  simp [List.mapM_cons, bind_eq_ok_iff, members]

/-- In what is written of a batch its calls stand in their order. -/
theorem methodCalls_of_write {r : Request} {t : Tree} (h : write r = .ok t) :
    ∃ members calls, (Value.ofTree t).members? = some members ∧
      members.find? "methodCalls" = some calls ∧ calls.items? = some (r.calls.map Invocation.value) := by
  obtain ⟨created, hcreated, rfl⟩ := write_eq_ok_iff.1 h
  have hn : ((r.members created).map (·.1)).Nodup := by
    rcases Response.createdMember_cases hcreated with ⟨-, rfl⟩ | ⟨m, t, -, -, rfl⟩
    · exact (by decide : ["using", "methodCalls"].Nodup)
    · exact (by decide : ["using", "methodCalls", "createdIds"].Nodup)
  have hmem : ("methodCalls", Tree.array (r.calls.map Invocation.tree)) ∈ r.members created :=
    List.mem_cons_of_mem _ List.mem_cons_self
  obtain ⟨members, hmembers, hfind⟩ := Value.exists_members?_ofTree hn
  refine ⟨members, _, hmembers, (hfind _ _).2 ⟨_, hmem, rfl⟩, ?_⟩
  rw [Value.items?_ofTree_array, List.map_map]
  rfl

end Request

namespace Build

/-- A batch that is built or read is written if and only if its ids are `Valid`, call by call, and is read as the same
batch again. -/
theorem request_writtenAgain (steps : List BuildStep) :
    let b := run steps
    ((∃ v, toValue b.request = .ok v) ↔
      ∀ ids, b.request.createdIds = some ids → ∀ id, id ∈ ids.keys ∨ id ∈ ids.values → id.Valid) ∧
    (∀ v, toValue b.request = .ok v → v.read = .ok b.request ∧
      ∃ members calls items, v.members? = some members ∧ members.find? "methodCalls" = some calls ∧
        calls.items? = some items ∧ items.length = b.queued.length ∧
        ∀ (i : Nat) (q : Queued), b.queued[i]? = some q → ∃ arguments, q.method.arguments = .ok arguments ∧
          items[i]? = some (.ofTree
            (.array [.string q.method.name, arguments.tree, .string q.callId]))) ∧
    ∀ (u : Value) (r : Request), u.read = .ok r → ∀ v, toValue r = .ok v → v.read = .ok r := by
  intro b
  have read_again {r : Request} {v : Value} (hv : toValue r = .ok v) :
      ∃ t, write r = .ok t ∧ v = .ofTree t ∧ v.read = .ok r := by
    obtain ⟨t, ht, rfl⟩ := map_eq_ok_iff.1 hv
    exact ⟨t, ht, rfl, Request.faithful.read_ofTree r t ht⟩
  have hsound : b.Sound := sound_run steps
  refine ⟨?_, fun v hv => ?_, fun u r _ v hv => ?_⟩
  · have hids : (∀ id ∈ b.request.allIds, id.Valid) ↔
        ∀ ids, b.request.createdIds = some ids → ∀ id, id ∈ ids.keys ∨ id ∈ ids.values → id.Valid := by
      unfold Request.allIds
      cases b.request.createdIds <;> simp
    rw [← hids, ← Request.faithful.written_iff]
    simp [toValue, map_eq_ok_iff]
  · obtain ⟨t, ht, rfl, hread⟩ := read_again hv
    obtain ⟨members, calls, hmembers, hcalls, hitems⟩ := Request.methodCalls_of_write ht
    refine ⟨hread, members, calls, _, hmembers, hcalls, hitems, ?_, fun i q hq => ?_⟩
    · simpa using congrArg List.length hsound.calls_eq
    · obtain ⟨c, hc, hname, harguments, hid⟩ := hsound.exists_call hq
      refine ⟨c.content, harguments, ?_⟩
      rw [List.getElem?_map, hc, Option.map_some, ← hname, ← hid]
      rfl
  · obtain ⟨-, -, -, hread⟩ := read_again hv
    exact hread

/-- A batch of one echo that tells of one record created earlier. -/
theorem request_writtenAgain_of_echo :
    let ids : SortedMap Id Id := SortedMap.empty.insert ⟨"a"⟩ ⟨"b"⟩
    let b := run [.invokeAs "0" Echo.empty.call, .withCreatedIds ids]
    ∃ v, toValue b.request = .ok v ∧ v.read = .ok b.request ∧
      ∃ members calls items, v.members? = some members ∧ members.find? "methodCalls" = some calls ∧
        calls.items? = some items ∧ items.length = 1 ∧
        items[0]? = some (.ofTree (.array [.string Echo.methodName, .object [], .string "0"])) := by
  intro ids b
  have hfirst : empty.step (.invokeAs "0" Echo.empty.call) =
      ⟨Request.empty.push Echo.empty.call (.ofMap ∅) "0", [⟨Echo.empty.call, "0"⟩]⟩ :=
    step_invokeAs (b := empty) (by decide) rfl (by decide +kernel)
  have hb : b = ⟨(Request.empty.push Echo.empty.call (.ofMap ∅) "0").withCreatedIds ids,
      [⟨Echo.empty.call, "0"⟩]⟩ := by
    show (empty.step _).step (.withCreatedIds ids) = _
    rw [hfirst]
    rfl
  obtain ⟨hwritten, hread, -⟩ := request_writtenAgain [.invokeAs "0" Echo.empty.call, .withCreatedIds ids]
  have hvalid : ∀ ids', b.request.createdIds = some ids' →
      ∀ id, id ∈ ids'.keys ∨ id ∈ ids'.values → id.Valid := by
    rw [hb]
    rintro _ ⟨⟩ id hid
    have hid : id = ⟨"a"⟩ ∨ id = ⟨"b"⟩ := hid.imp List.mem_singleton.1 List.mem_singleton.1
    rcases hid with rfl | rfl <;> exact Id.fault?_eq_none_iff.1 (by decide +kernel)
  obtain ⟨v, hv⟩ := hwritten.2 hvalid
  obtain ⟨hagain, members, calls, items, hmembers, hcalls, hitems, hlength, hplace⟩ := hread v hv
  have hqueued : b.queued = [⟨Echo.empty.call, "0"⟩] := congrArg Build.queued hb
  obtain ⟨arguments, harguments, hitem⟩ := hplace 0 ⟨Echo.empty.call, "0"⟩ (congrArg (·[0]?) hqueued)
  obtain rfl := Except.ok.inj harguments
  exact ⟨v, hv, hagain, members, calls, items, hmembers, hcalls, hitems,
    hlength.trans (congrArg List.length hqueued), hitem⟩

end Build

end JmapClient
