import JmapClient.Response
import JmapClient.Proofs.Json.Records
import JmapClient.Proofs.Maps

/-!
# Decoding answers

When an envelope can be read from an object (`Envelope.read_object_draft_eq_ok_iff`), what an element of it
is decoded as (`Invocation.ofValue_value`), and how the registry of the core capability decodes errors and
echoes.
-/

namespace JmapClient

open Json Json.Record

variable {S : Schema}

/-! ### Values -/

theorem ofTree_normalize (t : Tree) : Value.ofTree t.normalize = Value.ofTree t :=
  Value.ext (Tree.normalize_eq_self t.canonical_normalize)

theorem normalizeAll_eq_map (ts : List Tree) : Tree.normalizeAll ts = ts.map Tree.normalize := by
  induction ts with
  | nil => rfl
  | cons t ts ih => rw [Tree.normalizeAll, ih, List.map_cons]

/-- The items of an array are read from it as values. -/
theorem read_values_array (ts : List Tree) :
    (Value.ofTree (.array ts)).read = (.ok (ts.map .ofTree) : Except Problem (List Value)) := by
  have hdraft : (Value.ofTree (.array ts)).draft = (Tree.array (ts.map Tree.normalize)).draft := by
    show (Tree.normalize (.array ts)).draft = _
    rw [Tree.normalize, normalizeAll_eq_map]
  rw [Value.read, hdraft, read_values_draft, List.map_map]
  simp [Function.comp_def, ofTree_normalize]

/-- Nothing but an array is read as a list of values. -/
theorem read_values_eq_ok_iff {v : Value} {vs : List Value} :
    (v.read : Except Problem (List Value)) = .ok vs ↔ v = .ofTree (.array (vs.map (·.tree))) := by
  obtain ⟨t, ht⟩ := v
  constructor
  · intro h
    cases t with
    | array ts =>
      obtain rfl : ts.map Value.ofTree = vs := Except.ok.inj ((read_values_draft ts).symm.trans h)
      rw [Tree.Canonical] at ht
      have hts : (ts.map Value.ofTree).map (·.tree) = ts := by
        rw [List.map_map]
        conv_rhs => rw [← List.map_id ts]
        exact List.map_congr_left fun t hmem =>
          Tree.normalize_eq_self (Tree.allCanonical_iff.1 ht t hmem)
      rw [hts]
      exact (Value.ofTree_tree _).symm
    | null | bool _ | number _ | string _ | object _ => cases h
  · rintro h
    rw [h, read_values_array]
    simp [Function.comp_def]

theorem read_string (s : String) : (Value.ofTree (.string s)).read = (.ok s : Except Problem String) :=
  rfl

theorem read_string_eq_ok_iff {v : Value} {s : String} :
    (v.read : Except Problem String) = .ok s ↔ v = .ofTree (.string s) := by
  obtain ⟨t, ht⟩ := v
  constructor
  · intro h
    cases t with
    | string s' =>
      obtain rfl := Except.ok.inj h
      rfl
    | null | bool _ | number _ | array _ | object _ => cases h
  · intro h
    rw [h]
    rfl

theorem Error.ofProblem_eq_ok_iff {α : Type} {x : Except Problem α} {a : α} :
    ofProblem x = .ok a ↔ x = .ok a := by
  cases x <;> simp [ofProblem]

/-! ### Envelopes -/

/-- The names of the parts of an envelope. -/
def Envelope.names : List String := ["methodResponses", "createdIds", "sessionState"]

theorem Envelope.read_object_draft_eq_ok_iff {ms : List (String × Tree)} {e : Envelope} :
    (read (Tree.object ms).draft : Except Problem Envelope) = .ok e ↔
      (given Envelope.names ms).Nodup ∧
        (∃ d, view ms "methodResponses" = some d ∧ read d = .ok e.elements) ∧
        (view ms "createdIds" = none ∧ none = e.createdIds ∨
          ∃ d, view ms "createdIds" = some d ∧ read d = .ok e.createdIds) ∧
        (view ms "sessionState" = none ∧ "" = e.sessionState ∨
          ∃ d, view ms "sessionState" = some d ∧ read d = .ok e.sessionState) := by
  let r : Record Envelope :=
    Envelope.mk <$> required "methodResponses" <*> Record.optional "createdIds" <*>
      defaulted "sessionState" ""
  have hr : r.Lawful := (((lawful_field _ _).map _).seq (lawful_field _ _)).seq (lawful_field _ _)
  have hread : (read (Tree.object ms).draft : Except Problem Envelope) =
      r.read "RawResponse" (Tree.object ms).draft := rfl
  rw [hread, hr.read_object_draft_eq_ok_iff]
  refine and_congr_right fun _ => ?_
  simp only [r, ofMembers_seq_eq_ok_iff, ofMembers_map_eq_ok_iff, ofMembers_required_eq_ok_iff,
    Record.optional, ofMembers_defaulted_eq_ok_iff]
  obtain ⟨elements, createdIds, sessionState⟩ := e
  constructor
  · rintro ⟨_, _, ⟨_, _, ⟨_, h₁, rfl⟩, h₂, rfl⟩, h₃, heq⟩
    obtain ⟨rfl, rfl, rfl⟩ := Envelope.mk.inj heq
    exact ⟨h₁, h₂, h₃⟩
  · rintro ⟨h₁, h₂, h₃⟩
    exact ⟨_, _, ⟨_, _, ⟨_, h₁, rfl⟩, h₂, rfl⟩, h₃, rfl⟩

/-- Records created earlier, as they may be given: `null` or a map of identifiers. -/
def IsCreatedIds (t : Tree) : Prop :=
  t = .null ∨ ∃ ids, t = .object ids ∧ ∀ m ∈ ids, ∃ id, m.2 = .string id

theorem IsCreatedIds.read {t : Tree} (h : IsCreatedIds t) :
    ∃ ids, (Json.read t.draft : Except Problem (Option (SortedMap Id Id))) = .ok ids := by
  rcases h with rfl | ⟨ms, rfl, hids⟩
  · exact ⟨none, rfl⟩
  · obtain ⟨es, hes⟩ : ∃ es : List (Id × Id), readEntries (Tree.memberDrafts ms) = .ok es := by
      simp only [readEntries_memberDrafts_eq_ok_iff]
      induction ms with
      | nil => exact ⟨[], .nil⟩
      | cons m ms ih =>
        obtain ⟨id, hid⟩ := hids m (by simp)
        obtain ⟨es, hes⟩ := ih fun m' hm' => hids m' (by simp [hm'])
        refine ⟨(⟨m.1⟩, ⟨id⟩) :: es, .cons ⟨rfl, ?_⟩ hes⟩
        rw [hid]
        rfl
    refine ⟨some (.ofList es), ?_⟩
    show (Json.read (Tree.object ms).draft : Except Problem (SortedMap Id Id)).map some = _
    rw [read_map_draft, hes]
    rfl

/-- The text of an object whose parts are `elements`, the state of the session and perhaps records created earlier, each
of them given once. Members of other names may be anything. -/
def Envelope.IsText (body : List UInt8) (elements : List Value) (sessionState : String) : Prop :=
  ∃ ms items, Tree.ofBytes body = .ok (.object ms) ∧ (given Envelope.names ms).Nodup ∧
    ("methodResponses", .array items) ∈ ms ∧ items.map Value.ofTree = elements ∧
    ("sessionState", .string sessionState) ∈ ms ∧ ∀ t, ("createdIds", t) ∈ ms → IsCreatedIds t

theorem Envelope.IsText.readText {body : List UInt8} {elements : List Value} {state : String}
    (h : IsText body elements state) :
    ∃ ids, (Json.readText body : Except Problem Envelope) = .ok ⟨elements, ids, state⟩ := by
  obtain ⟨ms, items, hbody, hn, hitems, rfl, hstate, hids⟩ := h
  have hview {name : String} {t : Tree} (hname : name ∈ Envelope.names) (ht : (name, t) ∈ ms) :
      view ms name = some t.draft := by
    rw [view, lookup_eq_some_of_nodup hn hname ht, Option.map_some]
  obtain ⟨ids, hcreated⟩ : ∃ ids : Option (SortedMap Id Id),
      view ms "createdIds" = none ∧ none = ids ∨
        ∃ d, view ms "createdIds" = some d ∧ Json.read d = .ok ids := by
    cases hl : ms.lookup "createdIds" with
    | none => exact ⟨none, Or.inl ⟨by rw [view, hl, Option.map_none], rfl⟩⟩
    | some t =>
      have ht : ("createdIds", t) ∈ ms := by
        obtain ⟨l₁, l₂, rfl, -⟩ := List.lookup_eq_some_iff.1 hl
        simp
      obtain ⟨ids, hread⟩ := (hids t ht).read
      exact ⟨ids, Or.inr ⟨_, hview (by decide) ht, hread⟩⟩
  refine ⟨ids, (readText_eq_ok_iff hbody).2 ?_⟩
  refine Envelope.read_object_draft_eq_ok_iff.2 ⟨hn, ?_, hcreated, ?_⟩
  · exact ⟨_, hview (by decide) hitems, read_values_draft items⟩
  · exact Or.inr ⟨_, hview (by decide) hstate, rfl⟩

theorem Response.ofBytes_of_readText {body : List UInt8} {e : Envelope} (h : readText body = .ok e)
    (methods : MethodRegistry S) : ofBytes methods body = ofEnvelope methods e := by
  rw [ofBytes, h]
  rfl

/-- What is answered is decoded if and only if each of its elements is by `methods`. -/
theorem Response.ofBytes_eq_ok_of_isText {methods : MethodRegistry S} {body : List UInt8}
    {elements : List Value} {state : String} {answers : List (Invocation (Payload S))}
    (hbody : Envelope.IsText body elements state)
    (h : List.Forall₂ (fun v i => Invocation.ofValue methods v = .ok i) elements answers) :
    ∃ ids, ofBytes methods body = .ok ⟨answers, ids, state⟩ := by
  obtain ⟨ids, hread⟩ := hbody.readText
  refine ⟨ids, ?_⟩
  rw [ofBytes_of_readText hread]
  simp only [ofEnvelope, mapM_eq_ok_iff.2 h, ok_bind, pure_eq_ok]

/-! ### Elements -/

/-- The value of an invocation: an array of the method's name, the content and the id of the call. -/
def Invocation.value (i : Invocation Value) : Value :=
  .ofTree (.array [.string i.name, i.content.tree, .string i.callId])

theorem Invocation.ofValue_value (methods : MethodRegistry S) (i : Invocation Value) :
    ofValue methods i.value =
      (methods.decode i.name i.callId i.content).map fun p => ⟨i.name, p, i.callId⟩ := by
  unfold ofValue value
  rw [read_values_array]
  simp only [List.map_cons, List.map_nil, Value.ofTree_tree, Error.ofProblem, ok_bind, read_string]
  cases methods.decode i.name i.callId i.content <;> rfl

/-- What an element is decoded as has its name and its id, and the payload that its content is decoded as. -/
theorem Invocation.ofValue_eq_ok_iff {methods : MethodRegistry S} {v : Value}
    {i : Invocation (Payload S)} :
    ofValue methods v = .ok i ↔
      ∃ content, v = (⟨i.name, content, i.callId⟩ : Invocation Value).value ∧
        methods.decode i.name i.callId content = .ok i.content := by
  constructor
  · intro h
    obtain ⟨elements, helements, h⟩ := bind_eq_ok_iff.1 h
    rw [Error.ofProblem_eq_ok_iff, read_values_eq_ok_iff] at helements
    match elements, h with
    | [name, content, callId], h =>
      obtain ⟨n, hn, h⟩ := bind_eq_ok_iff.1 h
      obtain ⟨c, hc, h⟩ := bind_eq_ok_iff.1 h
      obtain ⟨payload, hp, h⟩ := bind_eq_ok_iff.1 h
      rw [Error.ofProblem_eq_ok_iff, read_string_eq_ok_iff] at hn hc
      obtain rfl := Except.ok.inj h
      subst hn hc
      exact ⟨content, helements, hp⟩
  · rintro ⟨content, rfl, hp⟩
    rw [ofValue_value, hp, map_ok]

theorem MethodRegistry.decode_eq_ok_iff {methods : MethodRegistry S} {name callId : String} {v : Value}
    {p : Payload S} :
    methods.decode name callId v = .ok p ↔
      ∃ decoder, methods.decoders.find? name = some decoder ∧ decoder.decode v = .ok p := by
  unfold decode
  cases methods.decoders.find? name with
  | none => simp
  | some decoder =>
    cases hv : decoder.decode v <;> simp [hv]

theorem MethodRegistry.decode_of_contains_eq_false {methods : MethodRegistry S} {name : String}
    (h : methods.contains name = false) (callId : String) (v : Value) :
    methods.decode name callId v = .error (.unknownMethod name) := by
  rw [contains, SortedMap.contains_eq_isSome_find?, Option.isSome_eq_false_iff,
    Option.isNone_iff_eq_none] at h
  rw [decode, h]

/-! ### The core registry -/

/-- An echo is read from its arguments. -/
theorem Echo.read_ofMap (m : SortedMap String Value) :
    (Value.ofMap m).read = (.ok ⟨m⟩ : Except Problem Echo) := by
  have hentries : (Value.memberTrees m).map (fun e => (e.1, Value.ofTree e.2)) = m.entries := by
    simp [Value.memberTrees, Function.comp_def]
  have hopen : OpenRecord.read "Echo" (pure ()) (Tree.object (Value.memberTrees m)).draft =
      .ok ((), m) := by
    rw [(lawful_pure ()).readOpen_object_draft_eq_ok_iff]
    refine ⟨by simp [given, names, pure], rfl, ?_⟩
    simp [others, names, pure, hentries, SortedMap.ofList_entries]
  have hread : (Value.ofMap m).read =
      (OpenRecord.read "Echo" (pure ()) (Tree.object (Value.memberTrees m)).draft >>=
        fun p => .ok ⟨p.2⟩ : Except Problem Echo) := rfl
  rw [hread, hopen]
  rfl

theorem find?_core_echo :
    (Registry.core (S := S)).methods.decoders.find? Echo.methodName = some (.strict .echo) := by
  show ((SortedMap.insert _ _ _).insert _ _).find? _ = _
  rw [SortedMap.find?_insert_of_ne _ _ (by decide), SortedMap.find?_insert_self]

theorem find?_core_error :
    (Registry.core (S := S)).methods.decoders.find? errorName = some .lenient := by
  show (((SortedMap.insert _ _ _).insert _ _).insert _ _).find? _ = _
  rw [SortedMap.find?_insert_of_ne _ _ (by decide), SortedMap.find?_insert_of_ne _ _ (by decide),
    SortedMap.find?_insert_self]

theorem decode_strict_echo (m : SortedMap String Value) :
    (AnswerDecoder.strict (.echo : PayloadType S)).decode (.ofMap m) = .ok ⟨.echo, (⟨m⟩ : Echo)⟩ := by
  show ((Value.ofMap m).read : Except Problem Echo).map (Payload.mk .echo) = _
  rw [Echo.read_ofMap]
  rfl

theorem decode_core_echo (callId : String) (m : SortedMap String Value) :
    (Registry.core (S := S)).methods.decode Echo.methodName callId (.ofMap m) =
      .ok ⟨.echo, (⟨m⟩ : Echo)⟩ := by
  simp only [MethodRegistry.decode, find?_core_echo, decode_strict_echo]

theorem decode_core_error (callId : String) (v : Value) :
    (Registry.core (S := S)).methods.decode errorName callId v =
      .ok ⟨.methodError, MethodError.ofValue v⟩ := by
  simp only [MethodRegistry.decode, find?_core_error, AnswerDecoder.decode]

end JmapClient
