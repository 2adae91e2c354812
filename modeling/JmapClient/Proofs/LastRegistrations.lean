import JmapClient.Notes
import JmapClient.Proofs.Registrations
import JmapClient.Proofs.UnknownCapabilities

/-!
# The last registration of a name

However a registry was filled, only the last registration of each name is left of it. So two sequences of
registrations in which each name has the same last one (`SameLast`) fill the same registry
(`Registry.after_eq_of_sameLast`), and whatever a server sends is decoded in the same way by both
(`Registry.last_registration_decides`). Of an answer to a batch even less counts: the names in it
(`Response.ofBytes_eq_of_agree`).
-/

namespace JmapClient

open Json

variable {S : Schema}

/-! ### Last registrations -/

/-- The capabilities that are bound, to how they are decoded. -/
def Registration.decoders : Registration S → List (Uri × (Value → Except Problem (Capability S)))
  | .capability uri decoder => [(uri, decoder)]
  | .method _ _ | .records _ => []

theorem Registration.mem_decoders_iff {reg : Registration S} {uri : Uri}
    {decoder : Value → Except Problem (Capability S)} :
    (uri, decoder) ∈ reg.decoders ↔ reg = .capability uri decoder := by
  cases reg <;> simp [decoders, eq_comm]

/-- The type of answers under `name`, as the last registration of the name has it. -/
def lastType? (rs : List (Registration S)) (name : String) : Option (PayloadType S) :=
  (rs.flatMap Registration.bindings).reverse.lookup name

/-- How the capability `uri` is decoded, as its last registration has it. -/
def lastDecoder? (rs : List (Registration S)) (uri : Uri) : Option (Value → Except Problem (Capability S)) :=
  (rs.flatMap Registration.decoders).reverse.lookup uri

/-- Each name has the same last registration in `rs` and in `rs'`, or none in both. -/
structure SameLast (rs rs' : List (Registration S)) : Prop where
  type?_eq : ∀ name, lastType? rs name = lastType? rs' name
  decoder?_eq : ∀ uri, lastDecoder? rs uri = lastDecoder? rs' uri

theorem isSome_lookup_reverse_iff {α β : Type} [DecidableEq α] {es : List (α × β)} {a : α} :
    (es.reverse.lookup a).isSome ↔ ∃ b, (a, b) ∈ es := by
  rw [List.lookup_isSome_iff]
  simp only [List.mem_reverse, beq_iff_eq]
  constructor
  · rintro ⟨e, he, rfl⟩
    exact ⟨e.2, he⟩
  · rintro ⟨b, hb⟩
    exact ⟨(a, b), hb, rfl⟩

theorem isSome_lastType?_iff {rs : List (Registration S)} {name : String} :
    (lastType? rs name).isSome ↔ ∃ reg ∈ rs, ∃ t, (name, t) ∈ reg.bindings := by
  rw [lastType?, isSome_lookup_reverse_iff]
  simp only [List.mem_flatMap]
  exact ⟨fun ⟨t, reg, hreg, ht⟩ => ⟨reg, hreg, t, ht⟩, fun ⟨reg, hreg, t, ht⟩ => ⟨t, reg, hreg, ht⟩⟩

theorem isSome_lastDecoder?_iff {rs : List (Registration S)} {uri : Uri} :
    (lastDecoder? rs uri).isSome ↔ ∃ decoder, .capability uri decoder ∈ rs := by
  rw [lastDecoder?, isSome_lookup_reverse_iff]
  simp only [List.mem_flatMap, Registration.mem_decoders_iff]
  exact ⟨fun ⟨decoder, _, hreg, heq⟩ => ⟨decoder, heq ▸ hreg⟩, fun ⟨decoder, hreg⟩ => ⟨decoder, _, hreg, rfl⟩⟩

/-! ### Registries -/

namespace Registry

theorem capabilities_apply (r : Registry S) (reg : Registration S) :
    (reg.apply r).capabilities.decoders =
      reg.decoders.foldl (fun m b => m.insert b.1 b.2) r.capabilities.decoders := by
  cases reg <;> rfl

theorem capabilities_after (r : Registry S) (rs : List (Registration S)) :
    (r.after rs).capabilities.decoders =
      (rs.flatMap Registration.decoders).foldl (fun m b => m.insert b.1 b.2) r.capabilities.decoders := by
  induction rs generalizing r with
  | nil => rfl
  | cons reg rs ih =>
    have hstep : r.after (reg :: rs) = (reg.apply r).after rs := rfl
    rw [hstep, ih, capabilities_apply, List.flatMap_cons, List.foldl_append]

/-- A capability is decoded as its last registration says (`lastDecoder?`). -/
theorem find?_capabilities_after (r : Registry S) (rs : List (Registration S)) (uri : Uri) :
    (r.after rs).capabilities.decoders.find? uri =
      (lastDecoder? rs uri).or (r.capabilities.decoders.find? uri) := by
  have hlast := SortedMap.find?_foldl_insert id r.capabilities.decoders (rs.flatMap Registration.decoders) uri
  rw [Option.map_id_fun] at hlast
  rw [capabilities_after]
  exact hlast

/-- Nothing but the last registration of each name is left in a registry. -/
theorem after_eq_of_sameLast (r : Registry S) {rs rs' : List (Registration S)} (h : SameLast rs rs') :
    r.after rs = r.after rs' := by
  have hmethods : (r.after rs).methods.decoders = (r.after rs').methods.decoders := by
    refine SortedMap.eq_of_find?_eq fun name => ?_
    have hlast := h.type?_eq name
    unfold lastType? at hlast
    rw [find?_after, find?_after, hlast]
  have hcapabilities : (r.after rs).capabilities.decoders = (r.after rs').capabilities.decoders := by
    refine SortedMap.eq_of_find?_eq fun uri => ?_
    rw [find?_capabilities_after, find?_capabilities_after, h.decoder?_eq]
  cases hr : r.after rs with
  | mk methods capabilities =>
    cases hr' : r.after rs' with
    | mk methods' capabilities' =>
      rw [hr, hr'] at hmethods hcapabilities
      obtain ⟨decoders⟩ := methods
      obtain ⟨decoders'⟩ := methods'
      cases capabilities
      cases capabilities'
      cases hmethods
      cases hcapabilities
      rfl

theorem mem_names_after_iff (rs : List (Registration S)) (name : String) :
    name ∈ (empty.after rs).methods.names ↔ name = errorName ∨ ∃ reg ∈ rs, ∃ t, (name, t) ∈ reg.bindings := by
  have hempty : ((empty : Registry S).methods.decoders.find? name).isSome ↔ name = errorName := by
    show ((SortedMap.empty.insert errorName AnswerDecoder.lenient).find? name).isSome ↔ _
    rw [SortedMap.find?_insert]
    split_ifs with h
    · simp [h]
    · simp [h, SortedMap.find?, SortedMap.empty]
  rw [MethodRegistry.names, ← SortedMap.contains_iff, SortedMap.contains_eq_isSome_find?, find?_after,
    Option.isSome_or, Bool.or_eq_true, Option.isSome_map, hempty, or_comm]
  exact or_congr_right isSome_lastType?_iff

theorem mem_uris_after_iff (rs : List (Registration S)) (uri : Uri) :
    uri ∈ (empty.after rs).capabilities.uris ↔ ∃ decoder, .capability uri decoder ∈ rs := by
  have hempty : (empty : Registry S).capabilities.decoders.find? uri = none := rfl
  rw [CapabilityRegistry.uris, ← SortedMap.contains_iff, SortedMap.contains_eq_isSome_find?,
    find?_capabilities_after, hempty, Option.or_none, isSome_lastDecoder?_iff]

end Registry

/-! ### Answers -/

/-- An element of an answer is decoded alike wherever answers under its own name are. -/
theorem Invocation.ofValue_congr {m m' : MethodRegistry S} {v : Value}
    (h : ∀ i : Invocation Value, i.value = v → m.decoders.find? i.name = m'.decoders.find? i.name) :
    ofValue m v = ofValue m' v := by
  unfold ofValue
  cases helements : (v.read : Except Problem (List Value)) with
  | error problem => rfl
  | ok vs =>
    match vs, helements with
    | [], _ | [_], _ | [_, _], _ | _ :: _ :: _ :: _ :: _, _ => rfl
    | [a, content, c], helements =>
      -- Nothing is looked up before the name and the id are read.
      simp only [Error.ofProblem, ok_bind]
      cases hname : (a.read : Except Problem String) with
      | error problem => rfl
      | ok name =>
        cases hid : (c.read : Except Problem String) with
        | error problem => rfl
        | ok callId =>
          have hvalue : (⟨name, content, callId⟩ : Invocation Value).value = v := by
            rw [read_values_eq_ok_iff.1 helements, read_string_eq_ok_iff.1 hname, read_string_eq_ok_iff.1 hid]
            rfl
          have hdecode : m.decode name callId content = m'.decode name callId content := by
            rw [MethodRegistry.decode, MethodRegistry.decode, h _ hvalue]
          simp only [ok_bind, hdecode]

/-- An answer is decoded alike wherever answers under the names in it are. -/
theorem Response.ofBytes_eq_of_agree {m m' : MethodRegistry S} {body : List UInt8}
    (h : ∀ e : Envelope, readText body = .ok e → ∀ i : Invocation Value, i.value ∈ e.elements →
      m.decoders.find? i.name = m'.decoders.find? i.name) :
    ofBytes m body = ofBytes m' body := by
  unfold ofBytes
  cases hread : (readText body : Except Problem Envelope) with
  | error problem => rfl
  | ok e =>
    have helements : e.elements.mapM (Invocation.ofValue m) = e.elements.mapM (Invocation.ofValue m') :=
      mapM_congr fun v hv => Invocation.ofValue_congr fun i hi => h e hread i (hi ▸ hv)
    show ofEnvelope m e = ofEnvelope m' e
    rw [ofEnvelope, helements, ofEnvelope]

/-! ### Sessions -/

/-- Two results are the same session, or errors of the same kind. -/
inductive Session.Alike : Except Error (Session S) → Except Error (Session S) → Prop
  | accepted (session : Session S) : Alike (.ok session) (.ok session)
  | undecodable (uri uri' : Uri) (problem problem' : Problem) :
    Alike (.error (.undecodableCapability uri problem)) (.error (.undecodableCapability uri' problem'))
  | unsound (reason reason' : String) :
    Alike (.error (.invalidSession reason)) (.error (.invalidSession reason'))

open SessionDocument in
/-- In whatever order a document is gone through, the result is the same but for which flaw is told of. -/
theorem Session.alike_ofWalk (registry : CapabilityRegistry S) {s : SessionDocument} (w w' : Walk s) :
    Alike (ofWalk registry w) (ofWalk registry w') := by
  -- Which of the three cases it is does not depend on the walk.
  rcases ofWalk_cases registry w with ⟨hdecodable, hsound, session, hok, hof⟩ |
    ⟨hdecodable, hsound, _, _, _, -, -, herror⟩ | ⟨hdecodable, _, _, _, -, -, herror⟩
  · rcases ofWalk_cases registry w' with ⟨-, -, session', hok', hof'⟩ | ⟨-, hsound', -⟩ | ⟨hdecodable', -⟩
    · rw [hok, hok', hof.eq hof']
      exact .accepted _
    · exact absurd hsound hsound'
    · exact absurd hdecodable hdecodable'
  · rcases ofWalk_cases registry w' with ⟨-, hsound', -⟩ | ⟨-, -, _, _, _, -, -, herror'⟩ | ⟨hdecodable', -⟩
    · exact absurd hsound' hsound
    · rw [herror, herror']
      exact .unsound _ _
    · exact absurd hdecodable hdecodable'
  · rcases ofWalk_cases registry w' with ⟨hdecodable', -⟩ | ⟨hdecodable', -⟩ | ⟨-, _, _, _, -, -, herror'⟩
    · exact absurd hdecodable' hdecodable
    · exact absurd hdecodable' hdecodable
    · rw [herror, herror']
      exact .undecodable _ _ _ _

/-! ### Registries that were filled -/

namespace Registry

open SessionDocument

/-- Two registries know the same names, and decode alike whatever a server sends. -/
structure Interchangeable (r r' : Registry S) : Prop where
  names_eq : r.methods.names = r'.methods.names
  uris_eq : r.capabilities.uris = r'.capabilities.uris
  contains_name : ∀ name, r.methods.contains name = r'.methods.contains name
  contains_uri : ∀ uri, r.capabilities.contains uri = r'.capabilities.contains uri
  response_eq : ∀ body, Response.ofBytes r.methods body = Response.ofBytes r'.methods body
  session_eq : ∀ body, Session.ofBytes r.capabilities body = Session.ofBytes r'.capabilities body
  session_alike : ∀ (s : SessionDocument) (w w' : Walk s),
    Session.Alike (Session.ofWalk r.capabilities w) (Session.ofWalk r'.capabilities w')

theorem Interchangeable.refl (r : Registry S) : r.Interchangeable r :=
  ⟨rfl, rfl, fun _ => rfl, fun _ => rfl, fun _ => rfl, fun _ => rfl, fun _ => Session.alike_ofWalk _⟩

/-- The names in a registry are those that were registered, and registries with the same last registrations
(`SameLast`) are `Interchangeable`. Only the names in an answer matter for it. -/
theorem last_registration_decides (rs : List (Registration S)) :
    let r := empty.after rs
    (r.methods.names.Pairwise (· < ·) ∧
      ∀ name, name ∈ r.methods.names ↔ name = errorName ∨ ∃ reg ∈ rs, ∃ t, (name, t) ∈ reg.bindings) ∧
    ((r.capabilities.uris.map Uri.text).Pairwise (· < ·) ∧
      ∀ uri, uri ∈ r.capabilities.uris ↔ ∃ decoder, .capability uri decoder ∈ rs) ∧
    (∀ rs', SameLast rs rs' → r.Interchangeable (empty.after rs')) ∧
    ∀ (m m' : MethodRegistry S) (body : List UInt8),
      (∀ e : Envelope, readText body = .ok e → ∀ i : Invocation Value, i.value ∈ e.elements →
        m.decoders.find? i.name = m'.decoders.find? i.name) →
      Response.ofBytes m body = Response.ofBytes m' body := by
  intro r
  refine ⟨⟨r.methods.decoders.pairwise_keys, mem_names_after_iff rs⟩, ⟨?_, mem_uris_after_iff rs⟩,
    fun rs' h => ?_, fun m m' body => Response.ofBytes_eq_of_agree⟩
  · rw [List.pairwise_map]
    exact r.capabilities.decoders.pairwise_keys
  · rw [← after_eq_of_sameLast empty h]
    exact .refl r

/-- The answers to a method on notes are registered twice, and so is a capability. An answer that has only an error in
it does not need any of that. -/
theorem last_registration_decides_of_notes :
    let flag (b : Bool) : Value → Except Problem (Capability Notes.schema) := fun _ => .ok (.other (.flag b))
    let rs : List (Registration Notes.schema) := [.method "Note/get" .echo, .capability ⟨"x"⟩ (flag true), .records (),
      .method errorName .echo, .capability ⟨"x"⟩ (flag false)]
    let rs' : List (Registration Notes.schema) := [.capability ⟨"x"⟩ (flag false), .method errorName .echo, .records ()]
    let body := Utf8.encode "\x7b\"methodResponses\":[[\"error\",\x7b\x7d,\"0\"]]\x7d"
    SameLast rs rs' ∧ (empty.after rs).Interchangeable (empty.after rs') ∧
      Response.ofBytes (empty.after rs).methods body =
        Response.ofBytes ((MethodRegistry.empty (S := Notes.schema)).register errorName .echo) body := by
  intro flag rs rs' body
  have hsame : SameLast rs rs' := by
    constructor
    · intro name
      by_cases herror : name = errorName
      · rw [herror]
        rfl
      · by_cases hget : name = "Note/get"
        · rw [hget]
          decide
        · have hnone {other : String} (hne : name ≠ other) :
              [(other, (.echo : PayloadType Notes.schema))].lookup name = none := by
            simp [List.lookup_cons, beq_false_of_ne hne]
          let bound := (Registration.records (S := Notes.schema) ()).bindings.reverse
          show ([(errorName, PayloadType.echo)] ++ bound ++ [("Note/get", PayloadType.echo)]).lookup name =
            (bound ++ [(errorName, PayloadType.echo)]).lookup name
          simp only [List.lookup_append, hnone herror, hnone hget, Option.none_or, Option.or_none]
    · intro uri
      by_cases h : uri = ⟨"x"⟩
      · rw [h]
        rfl
      · have hne : (uri == ⟨"x"⟩) = false := beq_false_of_ne h
        show [(⟨"x"⟩, flag false), (⟨"x"⟩, flag true)].lookup uri = [(⟨"x"⟩, flag false)].lookup uri
        simp only [List.lookup_cons, hne]
  obtain ⟨-, -, hinterchangeable, hagree⟩ := last_registration_decides rs
  have htree : Tree.ofBytes body = .ok (.object [("methodResponses",
      .array [.array [.string "error", .object [], .string "0"]])]) := by
    simp only [body, Utf8.encode_eq_data]
    decide +kernel
  refine ⟨hsame, hinterchangeable rs' hsame, hagree _ _ body fun e he i hi => ?_⟩
  have helements : e.elements = [.ofTree (.array [.string "error", .object [], .string "0"])] := by
    obtain ⟨-, ⟨d, hd, hread⟩, -⟩ := Envelope.read_object_draft_eq_ok_iff.1 ((readText_eq_ok_iff htree).1 he)
    obtain rfl := Option.some.inj hd
    exact Except.ok.inj (hread.symm.trans (read_values_draft _))
  rw [helements, List.mem_singleton] at hi
  have hname : i.name = errorName := by
    have hnormal : (Tree.array [.string i.name, i.content.tree, .string i.callId]).normalize =
        (Tree.array [.string "error", .object [], .string "0"]).normalize := congrArg Value.tree hi
    simp only [Tree.normalize, Tree.normalizeAll, Tree.array.injEq, List.cons.injEq, Tree.string.injEq] at hnormal
    exact hnormal.1
  rw [hname]
  decide

example : (core : Registry S) = empty.after [.capability Core.uri fun v => (v.read (α := CoreCapability)).map .core,
    .method Echo.methodName .echo, .method BlobCopy.methodName .blobCopy] := rfl

end Registry

end JmapClient
