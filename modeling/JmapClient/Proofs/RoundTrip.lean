import JmapClient.Proofs.Elements
import JmapClient.Proofs.Payloads
import JmapClient.Proofs.Utf8

/-!
# Answers that are written again

An answer that was decoded can be written again if and only if the identifiers in it are valid, and what is
written is decoded as the same answer (`Response.ofTree_write`).
-/

namespace JmapClient

open Json Json.Record

variable {S : Schema} {recordIds : ∀ r, S.Record r → List Id}

/-! ### Payloads -/

/-- The identifiers in a payload, where `recordIds` are those in a record. -/
def Payload.allIds (recordIds : ∀ r, S.Record r → List Id) : Payload S → List Id
  | ⟨.blobCopy, c⟩ => BlobCopyResponse.allIds c
  | ⟨.get r, g⟩ => GetResponse.allIds (recordIds r) g
  | ⟨.changes _, c⟩ => ChangesResponse.allIds c
  | ⟨.set _, s⟩ => SetResponse.allIds s
  | ⟨.query _, q⟩ => QueryResponse.allIds q
  | ⟨.queryChanges _, q⟩ => QueryChangesResponse.allIds q
  | ⟨.methodError, _⟩ | ⟨.echo, _⟩ | ⟨.other _, _⟩ => []

/-- The type is that of the answers of a standard method, on records that are faithful. -/
def PayloadType.Standard (recordIds : ∀ r, S.Record r → List Id) : PayloadType S → Prop
  | .get r => Faithful (S.Record r) (recordIds r)
  | .methodError | .other _ => False
  | .echo | .blobCopy | .changes _ | .set _ | .query _ | .queryChanges _ => True

/-- Answers are decoded as errors or as the answers of standard methods (`PayloadType.Standard`). -/
def MethodRegistry.Standard (recordIds : ∀ r, S.Record r → List Id) (methods : MethodRegistry S) : Prop :=
  ∀ name t, methods.decoders.find? name = some (.strict t) → t.Standard recordIds

theorem PayloadType.Standard.faithful {t : PayloadType S} (h : t.Standard recordIds) :
    Faithful t.Data fun d => Payload.allIds recordIds ⟨t, d⟩ := by
  cases t with
  | methodError => exact h.elim
  | echo => exact Echo.faithful
  | blobCopy => exact BlobCopyResponse.faithful
  | get r => exact GetResponse.faithful h
  | changes r => exact ChangesResponse.faithful
  | set r => exact SetResponse.faithful
  | query r => exact QueryResponse.faithful
  | queryChanges r => exact QueryChangesResponse.faithful
  | other o => exact h.elim

namespace MethodRegistry.Standard

variable {methods : MethodRegistry S}

theorem empty : (MethodRegistry.empty (S := S)).Standard recordIds := by
  intro name t h
  by_cases hname : name = errorName
  · subst hname
    cases (SortedMap.find?_insert_self _ _ _).symm.trans h
  · cases (SortedMap.find?_insert_of_ne _ _ hname).symm.trans h

theorem register (h : methods.Standard recordIds) (name : String) {t : PayloadType S}
    (ht : t.Standard recordIds) : (methods.register name t).Standard recordIds := by
  intro name' t' h'
  by_cases hname : name' = name
  · subst hname
    obtain rfl : t = t' := by simpa using (SortedMap.find?_insert_self _ _ _).symm.trans h'
    exact ht
  · exact h name' t' ((SortedMap.find?_insert_of_ne _ _ hname).symm.trans h')

end MethodRegistry.Standard

theorem Registry.standard_core : (Registry.core (S := S)).methods.Standard recordIds := by
  have hecho : (PayloadType.echo (S := S)).Standard recordIds := trivial
  have hcopy : (PayloadType.blobCopy (S := S)).Standard recordIds := trivial
  exact (MethodRegistry.Standard.empty.register Echo.methodName hecho).register BlobCopy.methodName hcopy

theorem Registry.standard_registerRecords {registry : Registry S} (h : registry.methods.Standard recordIds)
    {r : S.Records} (hr : Faithful (S.Record r) (recordIds r)) :
    (registry.registerRecords r).methods.Standard recordIds :=
  h.register _ (t := .get r) hr
    |>.register _ (t := .changes r) trivial
    |>.register _ (t := .set r) trivial
    |>.register _ (t := .query r) trivial
    |>.register _ (t := .queryChanges r) trivial

/-- Something is written if and only if its identifiers are `Valid`, and what is written is decoded as it. -/
structure WrittenAgain {α : Type} [Writable α] (decode : Value → Except Error α) (a : α) (ids : List Id) :
    Prop where
  written_iff : (∃ t, write a = .ok t) ↔ ∀ id ∈ ids, id.Valid
  decode_ofTree : ∀ t, write a = .ok t → decode (.ofTree t) = .ok a

theorem MethodRegistry.Standard.writtenAgain {methods : MethodRegistry S} (h : methods.Standard recordIds)
    {name callId : String} {v : Value} {p : Payload S} (hp : methods.decode name callId v = .ok p) :
    WrittenAgain (methods.decode name callId) p (p.allIds recordIds) := by
  obtain ⟨decoder, hfind, hp⟩ := MethodRegistry.decode_eq_ok_iff.1 hp
  suffices h : ((∃ t, write p = .ok t) ↔ ∀ id ∈ p.allIds recordIds, id.Valid) ∧
      ∀ t, write p = .ok t → decoder.decode (.ofTree t) = .ok p from
    ⟨h.1, fun t ht => MethodRegistry.decode_eq_ok_iff.2 ⟨decoder, hfind, h.2 t ht⟩⟩
  cases decoder with
  | lenient =>
    obtain rfl := Except.ok.inj hp
    refine ⟨?_, fun t ht => ?_⟩
    · have hwrite := (MethodError.ofValue v).write_eq
      simp only [Payload.allIds, List.not_mem_nil, false_implies, implies_true, iff_true]
      exact ⟨_, hwrite⟩
    · have hread := (MethodError.tidy_ofValue v).read_ofTree ht
      rw [AnswerDecoder.decode, MethodError.ofValue_of_read hread]
  | strict t =>
    obtain ⟨d, -, rfl⟩ := map_eq_ok_iff.1 hp
    have hfaithful := (h name t hfind).faithful
    exact ⟨hfaithful.written_iff d, fun u hu => map_eq_ok_iff.2 ⟨d, hfaithful.read_ofTree d u hu, rfl⟩⟩

/-! ### Invocations -/

namespace Invocation

theorem write_eq_ok_iff {α : Type} [Writable α] {i : Invocation α} {t : Tree} :
    write i = .ok t ↔
      ∃ content, write i.content = .ok content ∧
        .array [.string i.name, content, .string i.callId] = t := by
  simp [write, bind_eq_ok_iff]

theorem ofTree_array (name callId : String) (content : Tree) :
    Value.ofTree (.array [.string name, content, .string callId]) =
      (⟨name, .ofTree content, callId⟩ : Invocation Value).value := by
  refine Value.ext ?_
  show Tree.normalize _ = Tree.normalize _
  simp only [Tree.normalize, Tree.normalizeAll, Value.ofTree,
    Tree.normalize_eq_self content.canonical_normalize]

theorem writtenAgain {methods : MethodRegistry S} (h : methods.Standard recordIds) {v : Value}
    {i : Invocation (Payload S)} (hi : ofValue methods v = .ok i) :
    WrittenAgain (ofValue methods) i (i.content.allIds recordIds) := by
  obtain ⟨content, -, hdecode⟩ := ofValue_eq_ok_iff.1 hi
  have hpayload := h.writtenAgain hdecode
  refine ⟨?_, fun t ht => ?_⟩
  · rw [← hpayload.written_iff]
    simp [write_eq_ok_iff]
  · obtain ⟨u, hu, rfl⟩ := write_eq_ok_iff.1 ht
    rw [ofTree_array]
    exact ofValue_eq_ok_iff.2 ⟨_, rfl, hpayload.decode_ofTree u hu⟩

end Invocation

/-! ### Answers -/

/-- What a client knows that has records of type `τ` only. -/
def Schema.ofRecords (τ : Type) [Readable τ] [Writable τ] (typeName : String) : Schema where
  Records := Unit
  Others := Empty
  Capability := Empty
  Record _ := τ
  Condition _ := Empty
  Other := Empty.elim
  recordType _ := ⟨typeName, []⟩
  readable o := o.elim
  writable o := o.elim
  decideRecords := inferInstance
  decideOthers := inferInstance

namespace Response

/-- Decodes the document `t` of an answer. -/
def ofTree (methods : MethodRegistry S) (t : Tree) : Except Error (Response S) := do
  let e ← Error.ofProblem (read (α := Envelope) t.draft)
  ofEnvelope methods e

theorem ofTree_eq_ok_iff {methods : MethodRegistry S} {t : Tree} {r : Response S} :
    ofTree methods t = .ok r ↔
      ∃ e : Envelope, read t.draft = .ok e ∧ ofEnvelope methods e = .ok r := by
  simp [ofTree, bind_eq_ok_iff, Error.ofProblem_eq_ok_iff]

/-- The body of an answer is decoded as its document is. -/
theorem ofBytes_eq_ok_iff {methods : MethodRegistry S} {body : List UInt8} {t : Tree} {r : Response S}
    (h : Tree.ofBytes body = .ok t) : ofBytes methods body = .ok r ↔ ofTree methods t = .ok r := by
  rw [ofTree_eq_ok_iff]
  simp [ofBytes, bind_eq_ok_iff, Error.ofProblem_eq_ok_iff, readText_eq_ok_iff h]

/-- The identifiers in an answer, where `recordIds` are those in a record. -/
def allIds (recordIds : ∀ r, S.Record r → List Id) (r : Response S) : List Id :=
  r.answers.flatMap (fun i => i.content.allIds recordIds) ++
    r.createdIds.elim [] fun ids => ids.keys ++ ids.values

/-- The members of an answer: its elements `ts`, the records `created`, and the state of the session. -/
def members (ts : List Tree) (created : List (String × Tree)) (sessionState : String) :
    List (String × Tree) :=
  ("methodResponses", .array ts) :: (created ++ [("sessionState", .string sessionState)])

theorem write_eq_ok_iff {r : Response S} {t : Tree} :
    write r = .ok t ↔ ∃ ts created, r.answers.mapM write = .ok ts ∧
      optionalMember "createdIds" r.createdIds = .ok created ∧
      .object (members ts created r.sessionState) = t := by
  have hwrite : write r = writeRecord
      [member "methodResponses" r.answers, optionalMember "createdIds" r.createdIds,
        .ok [("sessionState", .string r.sessionState)]] := rfl
  have hanswers : member "methodResponses" r.answers =
      (r.answers.mapM write).map fun ts => [("methodResponses", .array ts)] := by
    rw [← writeList_eq_mapM]
    show ((writeList r.answers).map Tree.array >>= fun t => pure [("methodResponses", t)]) = _
    cases writeList r.answers <;> rfl
  rw [hwrite, writeRecord, hanswers]
  simp [List.mapM_cons, bind_eq_ok_iff, map_eq_ok_iff, members]

/-- The records created are written under one name or not at all. -/
theorem createdMember_cases {ids : Option (SortedMap Id Id)} {created : List (String × Tree)}
    (h : optionalMember "createdIds" ids = .ok created) :
    (ids = none ∧ created = []) ∨
      ∃ m t, ids = some m ∧ write m = .ok t ∧ created = [("createdIds", t)] := by
  cases ids with
  | none =>
    obtain rfl := Except.ok.inj h
    exact Or.inl ⟨rfl, rfl⟩
  | some m =>
    obtain ⟨t, ht, heq⟩ := bind_eq_ok_iff.1 h
    obtain rfl := Except.ok.inj heq
    exact Or.inr ⟨m, t, rfl, ht, rfl⟩

theorem nodup_members {ids : Option (SortedMap Id Id)} {created : List (String × Tree)}
    (h : optionalMember "createdIds" ids = .ok created) (ts : List Tree) (state : String) :
    ((members ts created state).map (·.1)).Nodup := by
  rcases createdMember_cases h with ⟨-, rfl⟩ | ⟨m, t, -, -, rfl⟩
  · exact (by decide : ["methodResponses", "sessionState"].Nodup)
  · exact (by decide : ["methodResponses", "createdIds", "sessionState"].Nodup)

/-- A document as it was written or in normal form (`normalize`). -/
def IsForm (form : Tree → Tree) : Prop := form = id ∨ form = Tree.normalize

theorem IsForm.read_values {form : Tree → Tree} (h : IsForm form) (ts : List Tree) :
    read (form (.array ts)).draft = (.ok (ts.map .ofTree) : Except Problem (List Value)) := by
  rcases h with rfl | rfl
  · exact read_values_draft ts
  · exact read_values_array ts

/-- Identifiers by identifiers are written in normal form. -/
theorem normalize_idsById {m : SortedMap Id Id} {t : Tree} (h : write m = .ok t) : t.normalize = t := by
  obtain ⟨ms, hms, rfl⟩ := map_eq_ok_iff.1 h
  refine Tree.normalize_eq_self ?_
  rw [Tree.Canonical, Tree.membersCanonical_iff]
  refine ⟨fun d hd => ?_, increasing_writeEntries faithfulKey_id hms⟩
  obtain ⟨e, -, -, he⟩ := exists_mem_of_forall₂ (writeEntries_forall₂ faithfulKey_id hms) hd
  obtain ⟨s, -, hs⟩ := map_eq_ok_iff.1 he
  rw [← hs]
  simp [Tree.Canonical]

theorem IsForm.read_createdIds {form : Tree → Tree} (h : IsForm form) {m : SortedMap Id Id} {t : Tree}
    (ht : write m = .ok t) : read (form t).draft = (.ok (some m) : Except Problem _) := by
  have hread := (faithful_idsById.option neverNull_map).read_ofTree (some m) t ht
  rw [Value.read_ofTree, normalize_idsById ht] at hread
  rcases h with rfl | rfl
  · exact hread
  · rw [normalize_idsById ht]
    exact hread

/-- From the members written of an answer its envelope is read, in whatever order they are. -/
theorem read_members {form : Tree → Tree} (hform : IsForm form) {ts : List Tree}
    {ids : Option (SortedMap Id Id)} {created : List (String × Tree)} {state : String}
    (hcreated : optionalMember "createdIds" ids = .ok created) {ms : List (String × Tree)}
    (hperm : ms.Perm ((members ts created state).map fun m => (m.1, form m.2))) :
    read (Tree.object ms).draft = (.ok ⟨ts.map .ofTree, ids, state⟩ : Except Problem Envelope) := by
  have hn := nodup_members hcreated ts state
  have hshows := shows_view Envelope.names hn hperm
  refine Envelope.read_object_draft_eq_ok_iff.2 ⟨given_nodup _ hn hperm, ?_, ?_, Or.inr ?_⟩
  · exact ⟨_, hshows.of_mem ("methodResponses", .array ts) (by simp [members]), hform.read_values ts⟩
  · rcases createdMember_cases hcreated with ⟨rfl, rfl⟩ | ⟨m, t, rfl, ht, rfl⟩
    · exact Or.inl ⟨hshows.of_not_mem "createdIds" (by decide) (by simp [members]), rfl⟩
    · exact Or.inr ⟨_, hshows.of_mem ("createdIds", t) (by simp [members]), hform.read_createdIds ht⟩
  · refine ⟨_, hshows.of_mem ("sessionState", .string state) (by simp [members]), ?_⟩
    rcases hform with rfl | rfl <;> rfl

/-- An answer is written if and only if the elements and the records created are. -/
theorem exists_write_eq_ok_iff {r : Response S} :
    (∃ t, write r = .ok t) ↔ (∀ i ∈ r.answers, ∃ t, write i = .ok t) ∧
      ∀ id ∈ r.createdIds.elim [] fun ids => ids.keys ++ ids.values, id.Valid := by
  have hcreated : (∃ created, optionalMember "createdIds" r.createdIds = .ok created) ↔
      ∀ id ∈ r.createdIds.elim [] fun ids => ids.keys ++ ids.values, id.Valid := by
    rw [← (restores_optional faithful_idsById neverNull_map "createdIds" r.createdIds).written_iff]
    simp [List.mapM_cons, bind_eq_ok_iff]
  rw [← hcreated, ← exists_mapM_eq_ok_iff]
  simp [write_eq_ok_iff]

section Decoded

variable {methods : MethodRegistry S} {r : Response S}

theorem writtenAgain_of_mem (hmethods : methods.Standard recordIds) {body : List UInt8}
    (h : ofBytes methods body = .ok r) :
    ∀ i ∈ r.answers, WrittenAgain (Invocation.ofValue methods) i (i.content.allIds recordIds) := by
  obtain ⟨e, -, he⟩ := bind_eq_ok_iff.1 h
  obtain ⟨-, -, hanswers⟩ := ofEnvelope_eq_ok_iff.1 he
  intro i hi
  obtain ⟨v, -, hv⟩ := exists_mem_of_forall₂ hanswers.flip hi
  exact Invocation.writtenAgain hmethods hv.1

theorem ofEnvelope_written
    (h : ∀ i ∈ r.answers, WrittenAgain (Invocation.ofValue methods) i (i.content.allIds recordIds))
    {ts : List Tree} (hts : r.answers.mapM write = .ok ts) :
    ofEnvelope methods ⟨ts.map .ofTree, r.createdIds, r.sessionState⟩ = .ok r := by
  refine ofEnvelope_eq_ok_iff.2 ⟨rfl, rfl, ?_⟩
  have hboth := (List.forall₂_and_left r.answers ts).2 ⟨h, mapM_eq_ok_iff.1 hts⟩
  rw [List.forall₂_map_left_iff]
  exact hboth.flip.imp fun t i hi => Invocation.isDecoded_iff.2 (hi.1.decode_ofTree t hi.2)

/-- With errors and answers of standard methods (`Standard`), what was decoded is written if and only if the
identifiers in it are `Valid`, and it is decoded as the same answer again. -/
theorem ofTree_write (hmethods : methods.Standard recordIds) {body : List UInt8}
    (h : ofBytes methods body = .ok r) :
    ((∃ t, write r = .ok t) ↔ ∀ id ∈ r.allIds recordIds, id.Valid) ∧
      ∀ t, write r = .ok t →
        ofTree methods (Value.ofTree t).tree = .ok r ∧ ofTree methods t = .ok r ∧
          ∀ body', Tree.ofBytes body' = .ok t → ofBytes methods body' = .ok r := by
  have hagain := writtenAgain_of_mem hmethods h
  constructor
  · rw [exists_write_eq_ok_iff, allIds, List.forall_mem_append]
    refine and_congr_left fun _ => ?_
    simp only [List.mem_flatMap]
    constructor
    · rintro hall id ⟨i, hi, hid⟩
      exact (hagain i hi).written_iff.1 (hall i hi) id hid
    · exact fun hall i hi => (hagain i hi).written_iff.2 fun id hid => hall id ⟨i, hi, hid⟩
  · intro t ht
    obtain ⟨ts, created, hts, hcreated, rfl⟩ := write_eq_ok_iff.1 ht
    have hdecoded := ofEnvelope_written hagain hts
    have hwritten : ofTree methods (.object (members ts created r.sessionState)) = .ok r :=
      ofTree_eq_ok_iff.2 ⟨_, read_members (Or.inl rfl) hcreated (by simp), hdecoded⟩
    refine ⟨?_, hwritten, fun body' hbody' => (ofBytes_eq_ok_iff hbody').2 hwritten⟩
    -- A value lists the members in another order.
    obtain ⟨ms, hms, hperm⟩ := exists_normalize_object (nodup_members hcreated ts r.sessionState)
    show ofTree methods (Tree.normalize _) = .ok r
    rw [hms]
    exact ofTree_eq_ok_iff.2 ⟨_, read_members (Or.inr rfl) hcreated hperm, hdecoded⟩

end Decoded

/-- An error that is no object, records and an answer given as arrays, and nulls. -/
theorem ofTree_write_of_copies :
    let S : Schema := .ofRecords BlobCopyResponse "Copy"
    let ids : ∀ r, S.Record r → List Id := fun _ => BlobCopyResponse.allIds
    let methods := ((Registry.core (S := S)).registerRecords ()).methods
    let body := Utf8.encode <| "\x7b\"methodResponses\":[[\"error\",[\"x\"],\"0\"]," ++
      "[\"Copy/get\",[\"a\",\"s\",[[\"b\",\"a\",\x7b\"c\":\"d\"\x7d,null]]],\"1\"]],\"createdIds\":null\x7d"
    methods.Standard ids ∧ ∃ r, ofBytes methods body = .ok r ∧ r.answers.length = 2 ∧
      ∃ t, write r = .ok t ∧ ofTree methods t = .ok r := by
  intro S ids methods body
  have hmethods : methods.Standard ids :=
    Registry.standard_registerRecords Registry.standard_core BlobCopyResponse.faithful
  have hbody : ((ofBytes methods body).toOption.map fun r =>
      (r.answers.length, (r.allIds ids).all fun id => id.fault?.isNone)) = some (2, true) := by
    simp only [body, Utf8.encode_eq_data]
    decide +kernel
  obtain ⟨r, h, hbody⟩ := toOption_map_eq_some_iff.1 hbody
  simp only [Prod.mk.injEq, List.all_eq_true, Option.isNone_iff_eq_none, Id.fault?_eq_none_iff] at hbody
  obtain ⟨hwritten, hread⟩ := ofTree_write hmethods h
  obtain ⟨t, ht⟩ := hwritten.2 hbody.2
  exact ⟨hmethods, r, h, hbody.1, t, ht, (hread t ht).2.1⟩

end Response

end JmapClient
