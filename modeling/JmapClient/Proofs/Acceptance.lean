import JmapClient.Session
import JmapClient.Proofs.Except
import JmapClient.Proofs.Maps
import JmapClient.Proofs.Utf8

/-!
# Accepting sessions

A document is accepted as a session if and only if what it advertises under registered names is accepted
(`SessionDocument.Decodable`) and its primary accounts are sound (`SessionDocument.Sound`). That is so in
whatever order its maps are gone through (`SessionDocument.Walk`), and so is the kind of the error where it is
not accepted (`Session.ofBytes_accepts`).
-/

namespace JmapClient

open Json

variable {S : Schema}

/-! ### Capabilities -/

namespace CapabilityRegistry

/-- What the constructor of the capability `uri` makes of `v`, if it is registered. -/
def construct? (registry : CapabilityRegistry S) (uri : Uri) (v : Value) :
    Option (Except Problem (Capability S)) :=
  (registry.decoders.find? uri).map fun decoder => decoder v

/-- The capabilities `cs` are decoded of `raw`: those that are registered, each one from the value under its name. -/
structure Decoded (registry : CapabilityRegistry S) (raw : SortedMap Uri Value) (cs : Capabilities S) :
    Prop where
  contains_iff : ∀ uri, cs.contains uri = true ↔ raw.contains uri = true ∧ registry.contains uri = true
  construct?_eq : ∀ uri c, cs.find? uri = some c →
    ∃ v, raw.find? uri = some v ∧ registry.construct? uri v = some (.ok c)

/-- The capability in the entry `e`, if its constructor accepts the value. -/
def accepted? (registry : CapabilityRegistry S) (e : Uri × Value) : Option (Uri × Capability S) :=
  match registry.construct? e.1 e.2 with
  | some (.ok c) => some (e.1, c)
  | _ => none

variable {registry : CapabilityRegistry S} {es : List (Uri × Value)} {uri : Uri} {v : Value}

theorem contains_iff_exists_construct? :
    registry.contains uri = true ↔ ∃ x, registry.construct? uri v = some x := by
  rw [contains, SortedMap.contains_eq_isSome_find?, construct?]
  cases registry.decoders.find? uri <;> simp

theorem accepted?_eq_some_iff {e : Uri × Value} {c : Uri × Capability S} :
    registry.accepted? e = some c ↔ c.1 = e.1 ∧ registry.construct? e.1 e.2 = some (.ok c.2) := by
  obtain ⟨uri, capability⟩ := c
  unfold accepted?
  split
  · rename_i c' hc
    rw [hc]
    simp [eq_comm]
  · rename_i hnot
    simp only [reduceCtorEq, false_iff, not_and]
    exact fun _ => hnot _

theorem decodeEntries_cons (registry : CapabilityRegistry S) (e : Uri × Value) (es : List (Uri × Value)) :
    registry.decodeEntries (e :: es) =
      match registry.construct? e.1 e.2 with
      | none => registry.decodeEntries es
      | some (.error problem) => .error (.undecodableCapability e.1 problem)
      | some (.ok c) => (registry.decodeEntries es).map ((e.1, c) :: ·) := by
  obtain ⟨uri, v⟩ := e
  rw [decodeEntries, construct?]
  cases registry.decoders.find? uri with
  | none => rfl
  | some decoder =>
    dsimp only [Option.map_some]
    cases decoder v <;> rfl

/-- Either no constructor refuses its value, and all that is accepted is decoded, or the error is that of a
constructor which refuses its value. -/
theorem decodeEntries_cases (registry : CapabilityRegistry S) (es : List (Uri × Value)) :
    ((∀ e ∈ es, ∀ problem, registry.construct? e.1 e.2 ≠ some (.error problem)) ∧
      registry.decodeEntries es = .ok (es.filterMap registry.accepted?)) ∨
    ∃ e ∈ es, ∃ problem, registry.construct? e.1 e.2 = some (.error problem) ∧
      registry.decodeEntries es = .error (.undecodableCapability e.1 problem) := by
  induction es with
  | nil => exact Or.inl ⟨by simp, rfl⟩
  | cons e es ih =>
    rw [decodeEntries_cons, List.filterMap_cons, accepted?, List.forall_mem_cons]
    cases he : registry.construct? e.1 e.2 with
    | none =>
      rcases ih with ⟨hes, hok⟩ | ⟨d, hd, problem, hproblem, herror⟩
      · exact Or.inl ⟨⟨by simp, hes⟩, hok⟩
      · exact Or.inr ⟨d, by simp [hd], problem, hproblem, herror⟩
    | some x =>
      cases x with
      | error problem => exact Or.inr ⟨e, by simp, problem, he, rfl⟩
      | ok c =>
        rcases ih with ⟨hes, hok⟩ | ⟨d, hd, problem, hproblem, herror⟩
        · exact Or.inl ⟨⟨by simp, hes⟩, by simp [hok]⟩
        · exact Or.inr ⟨d, by simp [hd], problem, hproblem, by simp [herror]⟩

theorem map_fst_accepted?_sublist (registry : CapabilityRegistry S) (es : List (Uri × Value)) :
    ((es.filterMap registry.accepted?).map (·.1)).Sublist (es.map (·.1)) := by
  induction es with
  | nil => exact .slnil
  | cons e es ih =>
    rw [List.filterMap_cons]
    cases hc : registry.accepted? e with
    | none => exact ih.cons _
    | some c =>
      rw [List.map_cons, List.map_cons, (accepted?_eq_some_iff.1 hc).1]
      exact ih.cons_cons _

/-- What is `accepted?` of the entries of a map is what is decoded of the map, in whatever order. -/
theorem decoded_accepted? {raw : SortedMap Uri Value} (hperm : es.Perm raw.entries)
    (h : ∀ e ∈ es, ∀ problem, registry.construct? e.1 e.2 ≠ some (.error problem)) :
    registry.Decoded raw (.ofList (es.filterMap registry.accepted?)) := by
  have hnodup : ((es.filterMap registry.accepted?).map (·.1)).Nodup :=
    ((hperm.map _).nodup_iff.2 raw.increasing.nodup_keys).sublist
      (map_fst_accepted?_sublist registry es)
  have hfind (uri : Uri) (c : Capability S) :
      (SortedMap.ofList (es.filterMap registry.accepted?)).find? uri = some c ↔
        ∃ v, raw.find? uri = some v ∧ registry.construct? uri v = some (.ok c) := by
    rw [SortedMap.find?_ofList_eq_some_iff hnodup, List.mem_filterMap]
    simp only [accepted?_eq_some_iff, SortedMap.find?_eq_some_iff, hperm.mem_iff]
    constructor
    · rintro ⟨⟨_, v⟩, hmem, rfl, hc⟩
      exact ⟨v, hmem, hc⟩
    · rintro ⟨v, hmem, hc⟩
      exact ⟨(uri, v), hmem, rfl, hc⟩
  refine ⟨fun uri => ?_, fun uri c => (hfind uri c).1⟩
  rw [SortedMap.contains_eq_isSome_find?, SortedMap.contains_eq_isSome_find?, Option.isSome_iff_exists,
    Option.isSome_iff_exists]
  simp only [hfind]
  constructor
  · rintro ⟨c, v, hv, hc⟩
    exact ⟨⟨v, hv⟩, contains_iff_exists_construct?.2 ⟨_, hc⟩⟩
  · rintro ⟨⟨v, hv⟩, hcontains⟩
    obtain ⟨x, hx⟩ := contains_iff_exists_construct?.1 hcontains
    cases x with
    | error problem =>
      exact absurd hx (h (uri, v) (hperm.mem_iff.2 (SortedMap.find?_eq_some_iff.1 hv)) problem)
    | ok c => exact ⟨c, v, hv, hx⟩

end CapabilityRegistry

/-! ### Documents -/

namespace SessionDocument

/-- The server advertises the capability `uri` with the value `v`, or an account has it. -/
def Advertises (s : SessionDocument) (uri : Uri) (v : Value) : Prop :=
  s.capabilities.find? uri = some v ∨
    ∃ id a, s.accounts.find? id = some a ∧ a.capabilities.find? uri = some v

/-- Whatever the document `Advertises` under a registered name is accepted. -/
def Decodable (registry : CapabilityRegistry S) (s : SessionDocument) : Prop :=
  ∀ uri v, s.Advertises uri v → registry.contains uri = true →
    ∃ c, registry.construct? uri v = some (.ok c)

/-- The primary account for each capability is one of the `accounts` and has the capability. -/
def Sound (s : SessionDocument) : Prop :=
  ∀ uri id, s.primaryAccounts.find? uri = some id →
    ∃ a, s.accounts.find? id = some a ∧ a.capabilities.contains uri = true

/-- Orders in which the maps of a document are gone through. -/
structure Walk (s : SessionDocument) where
  capabilities : List (Uri × Value)
  accounts : List (Id × AccountDocument)
  /-- The order of the capabilities of an account. -/
  capabilitiesOf : Id → List (Uri × Value)
  primaryAccounts : List (Uri × Id)
  capabilities_perm : capabilities.Perm s.capabilities.entries
  accounts_perm : accounts.Perm s.accounts.entries
  capabilitiesOf_perm : ∀ e ∈ s.accounts.entries, (capabilitiesOf e.1).Perm e.2.capabilities.entries
  primaryAccounts_perm : primaryAccounts.Perm s.primaryAccounts.entries

/-- Goes through all maps in the order of their keys. -/
def Walk.sorted (s : SessionDocument) : Walk s where
  capabilities := s.capabilities.entries
  accounts := s.accounts.entries
  capabilitiesOf id := (s.accounts.find? id).elim [] (·.capabilities.entries)
  primaryAccounts := s.primaryAccounts.entries
  capabilities_perm := .refl _
  accounts_perm := .refl _
  capabilitiesOf_perm e he := by rw [SortedMap.find?_eq_some_iff.2 he]; rfl
  primaryAccounts_perm := .refl _

variable {registry : CapabilityRegistry S} {s : SessionDocument}

theorem decodable_iff : s.Decodable registry ↔
    ∀ uri v, s.Advertises uri v → ∀ problem, registry.construct? uri v ≠ some (.error problem) := by
  constructor
  · intro h uri v hv problem hproblem
    obtain ⟨c, hc⟩ := h uri v hv (CapabilityRegistry.contains_iff_exists_construct?.2 ⟨_, hproblem⟩)
    rw [hproblem] at hc
    cases hc
  · intro h uri v hv hcontains
    obtain ⟨x, hx⟩ := CapabilityRegistry.contains_iff_exists_construct?.1 hcontains
    cases x with
    | error problem => exact absurd hx (h uri v hv problem)
    | ok c => exact ⟨c, hx⟩

theorem flaw?_eq_none_iff {uri : Uri} {id : Id} :
    s.flaw? uri id = none ↔
      ∃ a, s.accounts.find? id = some a ∧ a.capabilities.contains uri = true := by
  unfold flaw?
  cases s.accounts.find? id <;> simp

theorem Walk.sound_iff (w : Walk s) :
    s.Sound ↔ w.primaryAccounts.findSome? (fun e => s.flaw? e.1 e.2) = none := by
  simp only [List.findSome?_eq_none_iff, w.primaryAccounts_perm.mem_iff, flaw?_eq_none_iff, Prod.forall,
    ← SortedMap.find?_eq_some_iff, Sound]

end SessionDocument

/-! ### Sessions -/

namespace Session

open SessionDocument

/-- Decodes the capabilities of an account along the walk `w`. -/
def decodeAccount (registry : CapabilityRegistry S) {s : SessionDocument} (w : Walk s)
    (e : Id × AccountDocument) : Except Error (Id × Account S) :=
  (registry.decodeEntries (w.capabilitiesOf e.1)).map fun cs => (e.1, ⟨e.1, e.2, .ofList cs⟩)

/-- Decodes the capabilities of all accounts along the walk `w`. -/
def accountsOfWalk (registry : CapabilityRegistry S) {s : SessionDocument} (w : Walk s) :
    Except Error (List (Id × Account S)) :=
  w.accounts.mapM (decodeAccount registry w)

/-- Decodes and checks a document, going through its maps along the walk `w`. -/
def ofWalk (registry : CapabilityRegistry S) {s : SessionDocument} (w : Walk s) :
    Except Error (Session S) := do
  let capabilities ← registry.decodeEntries w.capabilities
  let accounts ← accountsOfWalk registry w
  match w.primaryAccounts.findSome? fun (uri, id) => s.flaw? uri id with
  | some reason => .error (.invalidSession reason)
  | none => return ⟨s, .ofList capabilities, .ofList accounts⟩

/-- `session` is what `s` says: the document is kept as it is, the accounts are those in it, each under its own id, and
the capabilities of the server and of each account are `Decoded`. -/
structure IsOf (registry : CapabilityRegistry S) (s : SessionDocument) (session : Session S) : Prop where
  document_eq : session.document = s
  decoded : registry.Decoded s.capabilities session.capabilities
  keys_eq : session.accounts.keys = s.accounts.keys
  account : ∀ id a, session.accounts.find? id = some a →
    a.id = id ∧ s.accounts.find? id = some a.document ∧
      registry.Decoded a.document.capabilities a.capabilities

variable {registry : CapabilityRegistry S} {s : SessionDocument}

theorem decodeAccounts_eq_mapM {w : Walk s} {es : List (Id × AccountDocument)}
    (h : ∀ e ∈ es, w.capabilitiesOf e.1 = e.2.capabilities.entries) :
    decodeAccounts registry es = es.mapM (decodeAccount registry w) := by
  induction es with
  | nil => rfl
  | cons e es ih =>
    obtain ⟨id, a⟩ := e
    obtain ⟨he, hes⟩ := List.forall_mem_cons.1 h
    rw [decodeAccounts, List.mapM_cons, ih hes, CapabilityRegistry.decode, decodeAccount, he]
    cases registry.decodeEntries a.capabilities.entries <;> rfl

/-- A document is decoded along the walk in the order of the keys (`Walk.sorted`). -/
theorem ofDocument_eq_ofWalk (registry : CapabilityRegistry S) (s : SessionDocument) :
    ofDocument registry s = ofWalk registry (.sorted s) := by
  have horder : ∀ e ∈ s.accounts.entries,
      (Walk.sorted s).capabilitiesOf e.1 = e.2.capabilities.entries := by
    intro e he
    simp only [Walk.sorted, SortedMap.find?_eq_some_iff.2 he, Option.elim_some]
  have haccounts : decodeAccounts registry s.accounts.entries = accountsOfWalk registry (.sorted s) :=
    decodeAccounts_eq_mapM horder
  rw [ofDocument, ofWalk, haccounts, CapabilityRegistry.decode]
  show (registry.decodeEntries s.capabilities.entries).map _ >>= _ =
    registry.decodeEntries s.capabilities.entries >>= _
  cases registry.decodeEntries s.capabilities.entries <;> rfl

/-- Either no constructor refuses its value in an account, and all accounts are decoded, or the error is that
of a constructor which refuses its value. -/
theorem accountsOfWalk_cases (registry : CapabilityRegistry S) (w : Walk s) :
    ((∀ e ∈ s.accounts.entries, ∀ d ∈ w.capabilitiesOf e.1, ∀ problem,
        registry.construct? d.1 d.2 ≠ some (.error problem)) ∧
      ∃ accounts, accountsOfWalk registry w = .ok accounts ∧
        SortedMap.ofList accounts = s.accounts.mapValues fun id a =>
          ⟨id, a, .ofList ((w.capabilitiesOf id).filterMap registry.accepted?)⟩) ∨
    ∃ e ∈ s.accounts.entries, ∃ d ∈ w.capabilitiesOf e.1, ∃ problem,
      registry.construct? d.1 d.2 = some (.error problem) ∧
        accountsOfWalk registry w = .error (.undecodableCapability d.1 problem) := by
  cases h : accountsOfWalk registry w with
  | error error =>
    obtain ⟨earlier, e, later, heq, -, he⟩ := mapM_eq_error_iff.1 h
    have hmem : e ∈ s.accounts.entries := w.accounts_perm.mem_iff.1 (by simp [heq])
    rcases registry.decodeEntries_cases (w.capabilitiesOf e.1) with
      ⟨-, hok⟩ | ⟨d, hd, problem, hproblem, herror⟩
    · simp [decodeAccount, hok] at he
    · simp only [decodeAccount, herror, map_error, Except.error.injEq] at he
      exact Or.inr ⟨e, hmem, d, hd, problem, hproblem, by rw [he]⟩
  | ok accounts =>
    let decoded (id : Id) (a : AccountDocument) : Account S :=
      ⟨id, a, .ofList ((w.capabilitiesOf id).filterMap registry.accepted?)⟩
    have hone : ∀ e ∈ w.accounts, (∀ d ∈ w.capabilitiesOf e.1, ∀ problem,
        registry.construct? d.1 d.2 ≠ some (.error problem)) ∧
        decodeAccount registry w e = .ok (e.1, decoded e.1 e.2) := by
      intro e he
      obtain ⟨a, ha⟩ := exists_mapM_eq_ok_iff.1 ⟨accounts, h⟩ e he
      rcases registry.decodeEntries_cases (w.capabilitiesOf e.1) with
        ⟨hnone, hok⟩ | ⟨_, _, _, _, herror⟩
      · exact ⟨hnone, by rw [decodeAccount, hok, map_ok]⟩
      · rw [decodeAccount, herror, map_error] at ha
        cases ha
    have haccounts : accounts = w.accounts.map fun e => (e.1, decoded e.1 e.2) := by
      refine Except.ok.inj (h.symm.trans (mapM_eq_ok_iff.2 ?_))
      rw [List.forall₂_map_right_iff, List.forall₂_same]
      exact fun e he => (hone e he).2
    refine Or.inl ⟨fun e he => (hone e (w.accounts_perm.mem_iff.2 he)).1, accounts, rfl, ?_⟩
    rw [haccounts]
    exact SortedMap.ofList_eq_of_perm (m := s.accounts.mapValues decoded) (w.accounts_perm.map _)

/-- A document is accepted, or its primary accounts are refused, or a capability in it is, and then the error
tells of a capability that is really refused. -/
theorem ofWalk_cases (registry : CapabilityRegistry S) (w : Walk s) :
    (s.Decodable registry ∧ s.Sound ∧ ∃ session, ofWalk registry w = .ok session ∧
      IsOf registry s session) ∨
    (s.Decodable registry ∧ ¬ s.Sound ∧ ∃ uri id reason, s.primaryAccounts.find? uri = some id ∧
      s.flaw? uri id = some reason ∧ ofWalk registry w = .error (.invalidSession reason)) ∨
    ¬ s.Decodable registry ∧ ∃ uri v problem, s.Advertises uri v ∧
      registry.construct? uri v = some (.error problem) ∧
      ofWalk registry w = .error (.undecodableCapability uri problem) := by
  have hrefused {uri : Uri} {v : Value} {problem : Problem} (hv : s.Advertises uri v)
      (hproblem : registry.construct? uri v = some (.error problem)) : ¬ s.Decodable registry :=
    fun h => decodable_iff.1 h uri v hv problem hproblem
  rcases registry.decodeEntries_cases w.capabilities with
    ⟨hserver, hcapabilities⟩ | ⟨e, he, problem, hproblem, herror⟩
  swap
  · have hv : s.Advertises e.1 e.2 :=
      Or.inl (SortedMap.find?_eq_some_iff.2 (w.capabilities_perm.mem_iff.1 he))
    exact Or.inr (Or.inr ⟨hrefused hv hproblem, _, _, _, hv, hproblem,
      by rw [ofWalk, herror, error_bind]⟩)
  rcases accountsOfWalk_cases registry w with
    ⟨heach, accounts, haccounts, hmap⟩ | ⟨e, he, d, hd, problem, hproblem, herror⟩
  swap
  · have hv : s.Advertises d.1 d.2 := Or.inr ⟨e.1, e.2, SortedMap.find?_eq_some_iff.2 he,
      SortedMap.find?_eq_some_iff.2 ((w.capabilitiesOf_perm e he).mem_iff.1 hd)⟩
    exact Or.inr (Or.inr ⟨hrefused hv hproblem, _, _, _, hv, hproblem,
      by rw [ofWalk, hcapabilities, ok_bind, herror, error_bind]⟩)
  have hdecodable : s.Decodable registry := by
    refine decodable_iff.2 fun uri v hv => ?_
    rcases hv with hv | ⟨id, a, ha, hv⟩
    · exact hserver (uri, v) (w.capabilities_perm.mem_iff.2 (SortedMap.find?_eq_some_iff.1 hv))
    · have ha := SortedMap.find?_eq_some_iff.1 ha
      exact heach (id, a) ha (uri, v)
        ((w.capabilitiesOf_perm _ ha).mem_iff.2 (SortedMap.find?_eq_some_iff.1 hv))
  cases hflaw : w.primaryAccounts.findSome? fun e => s.flaw? e.1 e.2 with
  | some reason =>
    obtain ⟨⟨uri, id⟩, he, hreason⟩ := List.exists_of_findSome?_eq_some hflaw
    refine Or.inr (Or.inl ⟨hdecodable, fun hsound => ?_, uri, id, reason,
      SortedMap.find?_eq_some_iff.2 (w.primaryAccounts_perm.mem_iff.1 he), hreason, ?_⟩)
    · rw [w.sound_iff.1 hsound] at hflaw
      cases hflaw
    · rw [ofWalk, hcapabilities, ok_bind, haccounts, ok_bind, hflaw]
  | none =>
    refine Or.inl ⟨hdecodable, w.sound_iff.2 hflaw,
      ⟨s, .ofList (w.capabilities.filterMap registry.accepted?), .ofList accounts⟩,
      by rw [ofWalk, hcapabilities, ok_bind, haccounts, ok_bind, hflaw]; rfl,
      rfl, CapabilityRegistry.decoded_accepted? w.capabilities_perm hserver, ?_, ?_⟩
    · rw [hmap, SortedMap.keys_mapValues]
    · intro id a ha
      rw [hmap, SortedMap.find?_mapValues_eq_some_iff] at ha
      obtain ⟨document, hdocument, rfl⟩ := ha
      have hmem := SortedMap.find?_eq_some_iff.1 hdocument
      exact ⟨rfl, hdocument,
        CapabilityRegistry.decoded_accepted? (w.capabilitiesOf_perm _ hmem) (heach _ hmem)⟩

/-- However the maps of a document are gone through (`Walk`), it is accepted if and only if it is `Decodable` and
`Sound`, and a refused capability is told before a primary account. -/
theorem ofBytes_accepts (registry : CapabilityRegistry S) {body : List UInt8} {s : SessionDocument}
    (hbody : readText body = .ok s) :
    ofBytes registry body = ofWalk registry (.sorted s) ∧
      ∀ w : Walk s,
        ((∃ session, ofWalk registry w = .ok session) ↔ s.Decodable registry ∧ s.Sound) ∧
        (∀ session, ofWalk registry w = .ok session → IsOf registry s session) ∧
        ∀ error, ofWalk registry w = .error error →
          (¬ s.Decodable registry ∧ ∃ uri v problem, s.Advertises uri v ∧
            registry.construct? uri v = some (.error problem) ∧
            error = .undecodableCapability uri problem) ∨
          s.Decodable registry ∧ ¬ s.Sound ∧ ∃ uri id reason,
            s.primaryAccounts.find? uri = some id ∧ s.flaw? uri id = some reason ∧
            error = .invalidSession reason := by
  constructor
  · rw [ofBytes, hbody, ← ofDocument_eq_ofWalk]
    rfl
  · intro w
    rcases ofWalk_cases registry w with ⟨hdecodable, hsound, session, hok, hof⟩ |
      ⟨hdecodable, hsound, uri, id, reason, hprimary, hreason, herror⟩ |
      ⟨hdecodable, uri, v, problem, hv, hproblem, herror⟩
    · simp [hok, hdecodable, hsound, hof]
    · simp only [herror, reduceCtorEq, exists_false, hsound, and_false, false_implies, implies_true,
        Except.error.injEq, true_and]
      rintro _ rfl
      exact Or.inr ⟨hdecodable, not_false, uri, id, reason, hprimary, hreason, rfl⟩
    · simp only [herror, reduceCtorEq, exists_false, hdecodable, false_and, false_implies, implies_true,
        Except.error.injEq, true_and]
      rintro _ rfl
      exact Or.inl ⟨not_false, uri, v, problem, hv, hproblem, rfl⟩

/-- A refused capability of an account decides, though a primary account is not listed either. -/
theorem ofBytes_accepts_of_faults :
    let problem : Problem := .here (.missingField "size")
    let registry := (CapabilityRegistry.empty (S := Schema.core)).register ⟨"b"⟩ fun _ => .error problem
    let body := Utf8.encode <| "\x7b\"capabilities\":\x7b\x7d,\"apiUrl\":\"/\"," ++
      "\"accounts\":\x7b\"a\":\x7b\"name\":\"\",\"accountCapabilities\":\x7b\"b\":null\x7d\x7d\x7d," ++
      "\"primaryAccounts\":\x7b\"c\":\"z\"\x7d\x7d"
    ∃ s : SessionDocument, readText body = .ok s ∧ ¬ s.Sound ∧
      ofBytes registry body = .error (.undecodableCapability ⟨"b"⟩ problem) ∧
      ∀ w : Walk s, ofWalk registry w = .error (.undecodableCapability ⟨"b"⟩ problem) := by
  intro problem registry body
  have hread : (readText body : Except Problem SessionDocument).toOption.map (fun s =>
      (s.primaryAccounts.find? ⟨"c"⟩, s.accounts.contains ⟨"z"⟩,
        (s.accounts.find? ⟨"a"⟩).map fun a => a.capabilities.contains ⟨"b"⟩)) =
      some (some ⟨"z"⟩, false, some true) := by
    simp only [body, Utf8.encode_eq_data]
    decide +kernel
  obtain ⟨s, hbody, hread⟩ := toOption_map_eq_some_iff.1 hread
  simp only [Prod.mk.injEq, Option.map_eq_some_iff] at hread
  obtain ⟨hprimary, hunlisted, a, ha, hb⟩ := hread
  rw [SortedMap.contains_eq_isSome_find?, Option.isSome_iff_exists] at hb
  obtain ⟨v, hv⟩ := hb
  have honly {uri : Uri} {v : Value} {x : Except Problem (Capability Schema.core)}
      (h : registry.construct? uri v = some x) : uri = ⟨"b"⟩ ∧ x = .error problem := by
    by_cases huri : uri = ⟨"b"⟩
    · subst huri
      exact ⟨rfl, (Option.some.inj h).symm⟩
    · have hnone : registry.decoders.find? uri = none := SortedMap.find?_insert_of_ne _ _ huri
      rw [CapabilityRegistry.construct?, hnone] at h
      cases h
  have hnot : ¬ s.Decodable registry := by
    intro h
    obtain ⟨c, hc⟩ := h ⟨"b"⟩ v (Or.inr ⟨_, a, ha, hv⟩) rfl
    cases (honly hc).2
  obtain ⟨hwalk, hwalks⟩ := ofBytes_accepts registry hbody
  have herror (w : Walk s) :
      ofWalk registry w = .error (.undecodableCapability ⟨"b"⟩ problem) := by
    obtain ⟨hiff, -, herrors⟩ := hwalks w
    cases h : ofWalk registry w with
    | ok session => exact absurd (hiff.1 ⟨session, h⟩).1 hnot
    | error e =>
      rcases herrors e h with ⟨-, uri, v, problem', -, hrefused, rfl⟩ | ⟨hdecodable, -⟩
      · obtain ⟨rfl, heq⟩ := honly hrefused
        rw [Except.error.inj heq]
      · exact absurd hdecodable hnot
  refine ⟨s, hbody, fun hsound => ?_, hwalk.trans (herror _), herror⟩
  obtain ⟨z, hz, -⟩ := hsound _ _ hprimary
  rw [SortedMap.contains_eq_isSome_find?, hz] at hunlisted
  cases hunlisted

end Session

end JmapClient
