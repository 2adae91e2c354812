import JmapClient.Proofs.Decoding
import JmapClient.Proofs.Json.Faithful

/-!
# Answers that are read as they were written

The answers of the standard methods are faithful. For each type of answer the identifiers in it are listed.
-/

namespace JmapClient

open Json Json.Record

/-! ### Identifiers in parts of answers -/

theorem mem_elim_nil {α : Type} {o : Option α} {f : α → List Id} {id : Id} :
    id ∈ o.elim [] f ↔ ∃ a, o = some a ∧ id ∈ f a := by
  cases o <;> simp

theorem faithful_strings : Faithful (List String) fun _ => [] :=
  faithful_string.list.congr (by simp)

theorem faithful_ids : Faithful (List Id) id :=
  faithful_id.list.congr (by simp)

theorem faithful_values : Faithful (SortedMap String Value) fun _ => [] :=
  (Faithful.map faithfulKey_string faithful_value).congr (by simp [SortedMap.idsOf])

/-- Data without identifiers, each under one. -/
theorem Faithful.underIds {α : Type} [Readable α] [Writable α] (h : Faithful α fun _ => []) :
    Faithful (SortedMap Id α) SortedMap.keys :=
  (Faithful.map faithfulKey_id h).congr fun m id => by
    simp [SortedMap.idsOf, SortedMap.keys, eq_comm]

/-- Data without identifiers, each under a text. -/
theorem Faithful.underTexts {α : Type} [Readable α] [Writable α] (h : Faithful α fun _ => []) :
    Faithful (SortedMap String α) fun _ => [] :=
  (Faithful.map faithfulKey_string h).congr (by simp [SortedMap.idsOf])

theorem faithful_idsById : Faithful (SortedMap Id Id) fun m => m.keys ++ m.values :=
  (Faithful.map faithfulKey_id faithful_id).congr fun m id => by
    simp [SortedMap.idsOf, SortedMap.keys, SortedMap.values, eq_comm, exists_or, and_or_left]

/-! ### Errors of records, copies of blobs -/

theorem SetError.faithful : Faithful SetError fun _ => [] := by
  refine .of_record (fun _ => rfl) (fun _ => rfl) (by decide) fun e => ?_
  have h := (((restores_required faithful_string "type" e.type).map SetError.mk).seq
    (restores_optional faithful_string neverNull_string "description" e.description)).seq
    (restores_optional faithful_strings neverNull_list "properties" e.properties)
  exact h.congr (by simp [mem_elim_nil])

/-- The identifiers in an answer. -/
def BlobCopyResponse.allIds (c : BlobCopyResponse) : List Id :=
  c.fromAccountId :: c.accountId ::
    (c.copied.elim [] (fun m => m.keys ++ m.values) ++ c.notCopied.elim [] SortedMap.keys)

theorem BlobCopyResponse.faithful : Faithful BlobCopyResponse allIds := by
  refine .of_record (fun _ => rfl) (fun _ => rfl) (by decide) fun c => ?_
  have h := ((((restores_required faithful_id "fromAccountId" c.fromAccountId).map mk).seq
    (restores_required faithful_id "accountId" c.accountId)).seq
    (restores_optional faithful_idsById neverNull_map "copied" c.copied)).seq
    (restores_optional SetError.faithful.underIds neverNull_map "notCopied" c.notCopied)
  exact h.congr (by simp [allIds, or_imp, forall_and, and_assoc])

/-! ### Records -/

/-- The identifiers in an answer, with those in the records (`recordIds`). -/
def GetResponse.allIds {τ : Type} (recordIds : τ → List Id) (g : GetResponse τ) : List Id :=
  g.accountId :: (g.list.flatMap recordIds ++ g.notFound)

theorem GetResponse.faithful {τ : Type} [Readable τ] [Writable τ] {recordIds : τ → List Id}
    (hrecord : Faithful τ recordIds) : Faithful (GetResponse τ) (allIds recordIds) := by
  have hnames : ["accountId", "state", "list", "notFound"].Nodup := by decide
  refine .of_record (fun _ => rfl) (fun _ => rfl) hnames fun g => ?_
  have h := ((((restores_required faithful_id "accountId" g.accountId).map mk).seq
    (restores_required faithful_string "state" g.state)).seq
    (restores_required hrecord.list "list" g.list)).seq
    (restores_defaulted faithful_ids "notFound" [] g.notFound)
  exact h.congr (by simp [allIds, or_imp, forall_and, and_assoc])

/-- The identifiers in an answer. -/
def ChangesResponse.allIds (c : ChangesResponse) : List Id :=
  c.accountId :: (c.created ++ c.updated ++ c.destroyed)

theorem ChangesResponse.faithful : Faithful ChangesResponse allIds := by
  refine .of_record (fun _ => rfl) (fun _ => rfl) (by decide) fun c => ?_
  have h := (((((((restores_required faithful_id "accountId" c.accountId).map mk).seq
    (restores_required faithful_string "oldState" c.oldState)).seq
    (restores_required faithful_string "newState" c.newState)).seq
    (restores_required faithful_bool "hasMoreChanges" c.hasMoreChanges)).seq
    (restores_defaulted faithful_ids "created" [] c.created)).seq
    (restores_defaulted faithful_ids "updated" [] c.updated)).seq
    (restores_defaulted faithful_ids "destroyed" [] c.destroyed)
  exact h.congr (by simp [allIds, or_imp, forall_and, and_assoc])

/-- The identifiers in an answer. -/
def SetResponse.allIds (s : SetResponse) : List Id :=
  s.accountId :: (s.updated.elim [] SortedMap.keys ++ s.destroyed.elim [] id ++
    s.notUpdated.elim [] SortedMap.keys ++ s.notDestroyed.elim [] SortedMap.keys)

theorem SetResponse.faithful : Faithful SetResponse allIds := by
  refine .of_record (fun _ => rfl) (fun _ => rfl) (by decide) fun s => ?_
  have hchanged : Faithful (Option (SortedMap String Value)) fun _ => [] :=
    (faithful_values.option neverNull_map).congr (by simp [mem_elim_nil])
  have h := (((((((((restores_required faithful_id "accountId" s.accountId).map mk).seq
    (restores_optional faithful_string neverNull_string "oldState" s.oldState)).seq
    (restores_required faithful_string "newState" s.newState)).seq
    (restores_optional faithful_values.underTexts neverNull_map "created" s.created)).seq
    (restores_optional hchanged.underIds neverNull_map "updated" s.updated)).seq
    (restores_optional faithful_ids neverNull_list "destroyed" s.destroyed)).seq
    (restores_optional SetError.faithful.underTexts neverNull_map "notCreated" s.notCreated)).seq
    (restores_optional SetError.faithful.underIds neverNull_map "notUpdated" s.notUpdated)).seq
    (restores_optional SetError.faithful.underIds neverNull_map "notDestroyed" s.notDestroyed)
  exact h.congr (by simp [allIds, mem_elim_nil, or_imp, forall_and, and_assoc])

/-- The identifiers in an answer. -/
def QueryResponse.allIds (q : QueryResponse) : List Id := q.accountId :: q.ids

theorem QueryResponse.faithful : Faithful QueryResponse allIds := by
  refine .of_record (fun _ => rfl) (fun _ => rfl) (by decide) fun q => ?_
  have h := (((((((restores_required faithful_id "accountId" q.accountId).map mk).seq
    (restores_required faithful_string "queryState" q.queryState)).seq
    (restores_required faithful_bool "canCalculateChanges" q.canCalculateChanges)).seq
    (restores_required faithful_uint64 "position" q.position)).seq
    (restores_required faithful_ids "ids" q.ids)).seq
    (restores_optional faithful_uint64 neverNull_uint64 "total" q.total)).seq
    (restores_optional faithful_uint64 neverNull_uint64 "limit" q.limit)
  exact h.congr (by simp [allIds, mem_elim_nil])

theorem AddedItem.faithful : Faithful AddedItem fun a => [a.id] := by
  refine .of_record (fun _ => rfl) (fun _ => rfl) (by decide) fun a => ?_
  have h := ((restores_required faithful_id "id" a.id).map mk).seq
    (restores_required faithful_uint64 "index" a.index)
  exact h.congr (by simp)

theorem AddedItem.faithful_list : Faithful (List AddedItem) (·.map AddedItem.id) :=
  AddedItem.faithful.list.congr (by simp [eq_comm])

/-- The identifiers in an answer. -/
def QueryChangesResponse.allIds (q : QueryChangesResponse) : List Id :=
  q.accountId :: (q.removed ++ q.added.map AddedItem.id)

theorem QueryChangesResponse.faithful : Faithful QueryChangesResponse allIds := by
  refine .of_record (fun _ => rfl) (fun _ => rfl) (by decide) fun q => ?_
  have h := ((((((restores_required faithful_id "accountId" q.accountId).map mk).seq
    (restores_required faithful_string "oldQueryState" q.oldQueryState)).seq
    (restores_required faithful_string "newQueryState" q.newQueryState)).seq
    (restores_optional faithful_uint64 neverNull_uint64 "total" q.total)).seq
    (restores_defaulted faithful_ids "removed" [] q.removed)).seq
    (restores_defaulted AddedItem.faithful_list "added" [] q.added)
  exact h.congr (by simp [allIds, mem_elim_nil, or_imp, forall_and, and_assoc])

/-! ### Echoes and errors of methods -/

theorem Echo.faithful : Faithful Echo fun _ => [] :=
  .of_always (fun e => (Value.ofMap e.arguments).tree) (fun _ => rfl) fun e => by
    rw [Value.ofTree_tree, Echo.read_ofMap]

namespace MethodError

/-- The names of the parts of an error. -/
def names : List String := ["type", "description"]

/-- What else the server told has other names than the parts of an error (`names`). -/
def Tidy (e : MethodError) : Prop := ∀ m ∈ e.extra.entries, m.1 ∉ names

/-- The members of an error's own parts. -/
def ownMembers (e : MethodError) : List (String × Tree) :=
  ("type", .string e.type) :: e.description.elim [] fun d => [("description", .string d)]

/-- An error is always written. -/
theorem write_eq (e : MethodError) :
    write e = .ok (.object (e.ownMembers ++ Value.memberTrees e.extra)) := by
  obtain ⟨type, description, extra⟩ := e
  cases description <;> simp [write, writeRecord, member, optionalMember, ownMembers]

theorem restores_own (e : MethodError) :
    Restores (Prod.mk <$> defaulted "type" "" <*> Record.optional "description")
      [member "type" e.type, optionalMember "description" e.description] (e.type, e.description) True :=
  (((restores_defaulted faithful_string "type" "" e.type).map Prod.mk).seq
    (restores_optional faithful_string neverNull_string "description" e.description)).congr
    (by simp [mem_elim_nil])

theorem flatten_own {e : MethodError} {mss : List (List (String × Tree))}
    (h : [member "type" e.type, optionalMember "description" e.description].mapM id = .ok mss) :
    mss.flatten = e.ownMembers := by
  obtain ⟨type, description, extra⟩ := e
  cases description with
  | none =>
    obtain rfl : [[("type", .string type)], []] = mss := Except.ok.inj h
    rfl
  | some d =>
    obtain rfl : [[("type", .string type)], [("description", .string d)]] = mss := Except.ok.inj h
    rfl

theorem names_own_sublist (e : MethodError) : (e.ownMembers.map (·.1)).Sublist names := by
  obtain ⟨mss, hmss⟩ := e.restores_own.written_iff.2 trivial
  exact flatten_own hmss ▸ e.restores_own.names_sublist mss hmss

namespace Tidy

variable {e : MethodError}

theorem not_mem_names (h : e.Tidy) : ∀ m ∈ Value.memberTrees e.extra, m.1 ∉ names := by
  intro m hm
  obtain ⟨d, hd, rfl⟩ := List.mem_map.1 hm
  exact h d hd

theorem nodup_names (h : e.Tidy) :
    ((e.ownMembers ++ Value.memberTrees e.extra).map (·.1)).Nodup := by
  rw [List.map_append, List.nodup_append']
  refine ⟨(by decide : names.Nodup).sublist e.names_own_sublist, ?_, fun name hname hmem => ?_⟩
  · simpa [Value.memberTrees, Function.comp_def] using e.extra.increasing.nodup_keys
  · obtain ⟨m, hm, rfl⟩ := List.mem_map.1 hmem
    exact h.not_mem_names m hm (e.names_own_sublist.subset hname)

/-- What is no part of an error is what else the server told (`extra`). -/
theorem others_eq (h : e.Tidy) :
    others names ((e.ownMembers ++ Value.memberTrees e.extra).map fun m => (m.1, m.2.normalize)) =
      e.extra.entries := by
  have hown : ∀ m ∈ e.ownMembers, m.1 ∈ names := fun m hm =>
    e.names_own_sublist.subset (List.mem_map_of_mem hm)
  have hfilter : (e.ownMembers ++ Value.memberTrees e.extra).filter (fun m => m.1 ∉ names) =
      Value.memberTrees e.extra := by
    rw [List.filter_append, List.filter_eq_nil_iff.2 (by simpa using hown), List.nil_append,
      List.filter_eq_self.2 (by simpa using h.not_mem_names)]
  rw [others, List.filter_map, List.map_map]
  show ((e.ownMembers ++ Value.memberTrees e.extra).filter fun m => m.1 ∉ names).map _ = _
  rw [hfilter]
  simp [Value.memberTrees, Function.comp_def, ofTree_normalize]

/-- A `Tidy` error is read as it was written. -/
theorem read_ofTree (h : e.Tidy) {t : Tree} (ht : write e = .ok t) : (Value.ofTree t).read = .ok e := by
  let r : Record (String × Option String) :=
    Prod.mk <$> defaulted "type" "" <*> Record.optional "description"
  obtain rfl : Tree.object (e.ownMembers ++ Value.memberTrees e.extra) = t :=
    Except.ok.inj (e.write_eq.symm.trans ht)
  obtain ⟨ms, hms, hperm⟩ := exists_normalize_object h.nodup_names
  have hfields : r.ofMembers (view ms) = .ok (e.type, e.description) := by
    obtain ⟨mss, hmss⟩ := e.restores_own.written_iff.2 trivial
    refine e.restores_own.read mss hmss (by decide) _ (flatten_own hmss ▸ ?_)
    -- The members that are kept have other names, so the record sees its own parts only.
    refine (shows_view names h.nodup_names hperm).restrict (List.subset_append_left _ _)
      (List.Subset.refl _) fun name hname hmem => ?_
    rw [List.map_append, List.mem_append] at hmem
    refine hmem.resolve_right fun hmem => ?_
    obtain ⟨m, hm, rfl⟩ := List.mem_map.1 hmem
    exact h.not_mem_names m hm hname
  have hothers : (others names ms).Perm e.extra.entries :=
    h.others_eq ▸ (hperm.filter _).map _
  have hopen : OpenRecord.read "MethodError" r (Tree.object ms).draft =
      .ok ((e.type, e.description), e.extra) := by
    rw [e.restores_own.lawful.readOpen_object_draft_eq_ok_iff]
    exact ⟨given_nodup _ h.nodup_names hperm, hfields, SortedMap.ofList_eq_of_perm hothers⟩
  have hread : (read (Tree.object ms).draft : Except Problem MethodError) =
      OpenRecord.read "MethodError" r (Tree.object ms).draft >>= fun p => .ok ⟨p.1.1, p.1.2, p.2⟩ := rfl
  rw [Value.read_ofTree, hms, hread, hopen]
  rfl

end Tidy

theorem tidy_of_read {v : Value} {e : MethodError} (h : v.read = .ok e) : e.Tidy := by
  obtain ⟨t, ht⟩ := v
  cases t with
  | object ms =>
    let r : Record (String × Option String) :=
      Prod.mk <$> defaulted "type" "" <*> Record.optional "description"
    obtain ⟨⟨own, extra⟩, hopen, heq⟩ :
        ∃ p, OpenRecord.read "MethodError" r (Tree.object ms).draft = .ok p ∧
          Except.ok (⟨p.1.1, p.1.2, p.2⟩ : MethodError) = (.ok e : Except Problem MethodError) :=
      bind_eq_ok_iff.1 h
    have hlawful : r.Lawful := e.restores_own.lawful
    obtain rfl := Except.ok.inj heq
    obtain ⟨-, -, rfl⟩ := hlawful.readOpen_object_draft_eq_ok_iff.1 hopen
    intro m hm
    obtain ⟨d, hd, rfl⟩ := List.mem_map.1 (mem_of_mem_sortEntries hm)
    exact of_decide_eq_true (List.mem_filter.1 hd).2
  | null | bool _ | number _ | string _ | array _ => cases h

theorem tidy_salvage (v : Value) : (salvage v).Tidy := by
  intro m hm
  obtain ⟨hm, hdescription⟩ := List.mem_filter.1 hm
  obtain ⟨-, htype⟩ := List.mem_filter.1 hm
  simp only [TextKey.text, id, bne_iff_ne, ne_eq] at hdescription htype
  simp [names, hdescription, htype]

/-- Whatever a server sent as an error, the error that is made of it is `Tidy`. -/
theorem tidy_ofValue (v : Value) : (ofValue v).Tidy := by
  unfold ofValue
  cases h : (v.read : Except Problem MethodError) with
  | ok e => exact tidy_of_read h
  | error p => exact tidy_salvage v

theorem ofValue_of_read {v : Value} {e : MethodError} (h : v.read = .ok e) : ofValue v = e := by
  rw [ofValue, h]

end MethodError

end JmapClient
