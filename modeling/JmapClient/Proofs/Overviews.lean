import JmapClient.Command.Overview
import JmapClient.Proofs.Accounts
import JmapClient.Proofs.Forms

/-!
# What a session is shown as

A session is shown as a summary that the session alone determines (`Session.ShownAs`): capabilities and accounts are
listed by the bytes of their names, whatever the order in which they are come upon (`Session.overviewAlong`). A
session is accepted whatever the ids of its accounts are, but only valid ids are written. So there is an overview of a
session that was accepted if and only if the ids of its accounts are valid (`Session.overview_exact`).
-/

namespace JmapClient

open Json SessionDocument

variable {S : Schema}

/-! ### Lists of names -/

/-- The list `as` has what has the property `p` and nothing else, in strictly increasing order of the texts, byte by
byte. -/
def Lists {α : Type} (text : α → String) (p : α → Prop) (as : List α) : Prop :=
  as.Pairwise (fun a b => Utf8.encode (text a) < Utf8.encode (text b)) ∧ ∀ a, a ∈ as ↔ p a

theorem Lists.eq {α : Type} {text : α → String} {p : α → Prop} {as bs : List α} (h : Lists text p as)
    (h' : Lists text p bs) : as = bs := by
  have hnodup {cs : List α} (hcs : Lists text p cs) : cs.Nodup :=
    hcs.1.imp fun {a b} hlt heq => by
      subst heq
      exact List.lt_irrefl _ hlt
  have hperm : as.Perm bs :=
    (List.perm_ext_iff_of_nodup (hnodup h) (hnodup h')).2 fun a => (h.2 a).trans (h'.2 a).symm
  exact hperm.eq_of_pairwise (fun a b _ _ hab hba => absurd hba (List.lt_asymm hab)) h.1 h'.1

theorem SortedMap.lists_keys {κ ν : Type} [TextKey κ] (m : SortedMap κ ν) :
    Lists TextKey.text (fun k => m.contains k = true) m.keys :=
  ⟨m.pairwise_keys.imp Utf8.encode_lt_encode, fun _ => contains_iff.symm⟩

/-! ### Summaries -/

/-- What is shown of an account. -/
structure Account.Summary where
  id : Id
  name : String
  isPersonal : Bool
  isReadOnly : Bool
  capabilities : List Uri
deriving DecidableEq

/-- What is shown of a session. -/
structure Session.Summary where
  username : String
  apiUrl : String
  state : String
  capabilities : List Uri
  core : Option CoreCapability
  accounts : List Account.Summary
  primaryAccounts : SortedMap Uri Id

/-- Each member of an account that is shown is that of `a`. -/
structure Account.ShownAs (a : Account S) (o : Summary) : Prop where
  id_eq : o.id = a.id
  name_eq : o.name = a.document.name
  isPersonal_eq : o.isPersonal = a.document.isPersonal
  isReadOnly_eq : o.isReadOnly = a.document.isReadOnly
  capabilities : Lists Uri.text (fun uri => a.supports uri = true) o.capabilities

/-- Each member of a session that is shown is that of `s`, and no account or capability is left out. -/
structure Session.ShownAs (s : Session S) (o : Summary) : Prop where
  username_eq : o.username = s.document.username
  apiUrl_eq : o.apiUrl = s.document.apiUrl
  state_eq : o.state = s.document.state
  capabilities : Lists Uri.text (fun uri => s.supports uri = true) o.capabilities
  core_eq : o.core = s.capabilities.core?
  accounts : Lists (·.id.text) (fun b => ∃ a, s.account? b.id = some a ∧ a.ShownAs b) o.accounts
  primaryAccounts_eq : o.primaryAccounts = s.document.primaryAccounts

theorem Account.ShownAs.eq {a : Account S} {o o' : Summary} (h : a.ShownAs o) (h' : a.ShownAs o') : o = o' := by
  obtain ⟨_, _, _, _, _⟩ := o
  obtain ⟨_, _, _, _, _⟩ := o'
  obtain ⟨rfl, rfl, rfl, rfl, hcapabilities⟩ := h
  obtain ⟨rfl, rfl, rfl, rfl, hcapabilities'⟩ := h'
  obtain rfl := hcapabilities.eq hcapabilities'
  rfl

/-- What `s` is shown as is determined. -/
theorem Session.ShownAs.eq {s : Session S} {o o' : Summary} (h : s.ShownAs o) (h' : s.ShownAs o') : o = o' := by
  obtain ⟨_, _, _, _, _, _, _⟩ := o
  obtain ⟨_, _, _, _, _, _, _⟩ := o'
  obtain ⟨rfl, rfl, rfl, hcapabilities, rfl, haccounts, rfl⟩ := h
  obtain ⟨rfl, rfl, rfl, hcapabilities', rfl, haccounts', rfl⟩ := h'
  obtain rfl := hcapabilities.eq hcapabilities'
  obtain rfl := haccounts.eq haccounts'
  rfl

/-- The summary of an account. -/
def Account.summary (a : Account S) : Summary :=
  ⟨a.id, a.document.name, a.document.isPersonal, a.document.isReadOnly, a.document.capabilities.keys⟩

/-- The summary of a session. -/
def Session.summary (s : Session S) : Summary :=
  ⟨s.document.username, s.document.apiUrl, s.document.state, s.document.capabilities.keys, s.capabilities.core?,
    s.accounts.values.map Account.summary, s.document.primaryAccounts⟩

theorem Account.shownAs_summary (a : Account S) : a.ShownAs a.summary :=
  ⟨rfl, rfl, rfl, rfl, a.document.capabilities.lists_keys⟩

/-! ### What is written of summaries -/

/-- What is written of the names `uris` of capabilities. -/
def Uri.listTree (uris : List Uri) : Tree := .array (uris.map fun uri => .string uri.text)

/-- What is written of the limits of a server. -/
def CoreCapability.tree (c : CoreCapability) : Tree :=
  .object [("maxSizeUpload", .number (.int c.maxSizeUpload.toNat)),
    ("maxConcurrentUpload", .number (.int c.maxConcurrentUpload.toNat)),
    ("maxSizeRequest", .number (.int c.maxSizeRequest.toNat)),
    ("maxConcurrentRequests", .number (.int c.maxConcurrentRequests.toNat)),
    ("maxCallsInRequest", .number (.int c.maxCallsInRequest.toNat)),
    ("maxObjectsInGet", .number (.int c.maxObjectsInGet.toNat)),
    ("maxObjectsInSet", .number (.int c.maxObjectsInSet.toNat)),
    ("collationAlgorithms", .array (c.collationAlgorithms.map .string))]

/-- The value of the summary of an account. -/
def Account.Summary.value (o : Summary) : Value :=
  .ofTree <| .object [("id", .string o.id.text), ("name", .string o.name), ("isPersonal", .bool o.isPersonal),
    ("isReadOnly", .bool o.isReadOnly), ("capabilities", Uri.listTree o.capabilities)]

/-- The value of the summary of a session. -/
def Session.Summary.value (o : Summary) : Value :=
  .ofTree <| .object [("username", .string o.username), ("apiUrl", .string o.apiUrl), ("state", .string o.state),
    ("capabilities", Uri.listTree o.capabilities), ("core", o.core.elim .null CoreCapability.tree),
    ("accounts", .array (o.accounts.map fun a => a.value.tree)),
    ("primaryAccounts", .object (o.primaryAccounts.entries.map fun e => (e.1.text, .string e.2.text)))]

/-- Names of capabilities are written as they are. -/
def Form.uris : Form (List Uri) where
  ids _ := []
  tree := Uri.listTree
  guards uris := ((Form.list .uri).guards uris).congr fun id => by simp [Form.list, Form.uri, Form.plain]

/-- The limits of a server are written as they are. -/
def CoreCapability.form : Form CoreCapability where
  ids _ := []
  tree := CoreCapability.tree
  guards c := by
    refine (guards_writeRecord <| .cons (Form.uint64.gives_member _ _) <| .cons (Form.uint64.gives_member _ _) <|
      .cons (Form.uint64.gives_member _ _) <| .cons (Form.uint64.gives_member _ _) <|
      .cons (Form.uint64.gives_member _ _) <| .cons (Form.uint64.gives_member _ _) <|
      .cons (Form.uint64.gives_member _ _) <| .cons (Form.string.list.gives_member _ _) .nil).congr fun id => ?_
    simp [Given.idsOf, Form.given, Form.list, Form.uint64, Form.string, Form.plain]

/-- The overview of an account is the value of its `summary`. -/
theorem Account.guards_overview (a : Account S) : Guards a.overview [a.id] a.summary.value := by
  refine ((guards_writeRecord <| .cons (Form.id.gives_member _ _) <| .cons (Form.string.gives_member _ _) <|
    .cons (Form.bool.gives_member _ _) <| .cons (Form.bool.gives_member _ _) <|
    .cons (Form.uris.gives_member _ _) .nil).map Value.ofTree).congr fun id => ?_
  simp [Given.idsOf, Form.given, Form.id, Form.uris, Form.string, Form.bool, Form.plain]

/-- The overview of a session is the value of its `summary`. -/
theorem Session.guards_overview (s : Session S) :
    Guards s.overview (s.accounts.values.map (·.id) ++ s.document.primaryAccounts.values) s.summary.value := by
  have haccounts := Guards.mapM Account.guards_overview s.accounts.values
  have hrecord : Guards (MethodCall.argumentsOf
      [member "username" s.document.username, member "apiUrl" s.document.apiUrl, member "state" s.document.state,
        member "capabilities" s.document.capabilities.keys, member "core" s.capabilities.core?,
        member "accounts" (s.accounts.values.map fun a => a.summary.value),
        member "primaryAccounts" s.document.primaryAccounts]) s.document.primaryAccounts.values s.summary.value := by
    have htrees : s.summary.accounts.map (fun o => o.value.tree) =
        (s.accounts.values.map fun a => a.summary.value).map Value.tree := by
      simp [summary]
    rw [Summary.value, htrees]
    refine ((guards_writeRecord <| .cons (Form.string.gives_member _ _) <| .cons (Form.string.gives_member _ _) <|
      .cons (Form.string.gives_member _ _) <| .cons (Form.uris.gives_member _ _) <|
      .cons (CoreCapability.form.nullable.gives_member _ _) <| .cons (Form.value.list.gives_member _ _) <|
      .cons ((Form.map faithfulKey_uri .id).gives_member _ _) .nil).map Value.ofTree).congr fun id => ?_
    cases hcore : s.capabilities.core? <;>
      simp [Given.idsOf, Form.given, Form.id, Form.uris, Form.string, Form.value, Form.list, Form.plain, Form.map,
        Form.nullable, CoreCapability.form, SortedMap.idsOf, SortedMap.values, eq_comm]
  refine (haccounts.bind hrecord).congr fun id => ?_
  simp [eq_comm]

/-! ### The order of the maps -/

/-- The overview of an account whose `capabilities` are come upon in some order: they are sorted. -/
def AccountDocument.overviewAlong (id : Id) (a : AccountDocument) (capabilities : List (Uri × Value)) :
    Except Problem Value :=
  MethodCall.argumentsOf
    [member "id" id, member "name" a.name, member "isPersonal" a.isPersonal, member "isReadOnly" a.isReadOnly,
      member "capabilities" (Utf8.sortBy Uri.text (capabilities.map (·.1)))]

/-- The overview of a session whose maps are gone through along `w`. The capabilities and the accounts are sorted, and
the main accounts are written in the order in which they are come upon. -/
def Session.overviewAlong (s : Session S) (w : Walk s.document) : Except Problem Value := do
  let accounts ← (Utf8.sortBy (·.1.text) w.accounts).mapM fun e => e.2.overviewAlong e.1 (w.capabilitiesOf e.1)
  MethodCall.argumentsOf
    [member "username" s.document.username, member "apiUrl" s.document.apiUrl, member "state" s.document.state,
      member "capabilities" (Utf8.sortBy Uri.text (w.capabilities.map (·.1))),
      member "core" s.capabilities.core?, member "accounts" accounts,
      (writeEntries w.primaryAccounts).map fun ms => [("primaryAccounts", .object ms)]]

theorem SortedMap.sortBy_eq_keys {ν : Type} {es : List (Uri × ν)} {m : SortedMap Uri ν} (h : es.Perm m.entries) :
    Utf8.sortBy Uri.text (es.map (·.1)) = m.keys :=
  Utf8.sortBy_eq_of_perm (h.map _) m.pairwise_keys

/-- The order of the members of the last object of a record does not matter. -/
theorem MethodCall.argumentsOf_concat_of_perm (parts : Parts) (name : String) {ms ms' : List (String × Tree)}
    (h : ms.Perm ms') (hn : (ms'.map (·.1)).Nodup) :
    argumentsOf (parts ++ [.ok [(name, .object ms)]]) = argumentsOf (parts ++ [.ok [(name, .object ms')]]) := by
  unfold argumentsOf writeRecord
  rw [List.mapM_append, List.mapM_append]
  cases parts.mapM id with
  | error e => rfl
  | ok mss =>
    have hnormal (ms : List (String × Tree)) :
        (Tree.object (mss ++ [[(name, Tree.object ms)]]).flatten).normalize = .object (sortEntries
          (mss.flatten.map (fun m => (m.1, m.2.normalize)) ++ [(name, (Tree.object ms).normalize)])) := by
      rw [Tree.normalize, normalizeMembers_eq_map, List.flatten_append, List.map_append]
      rfl
    refine congrArg Except.ok (Value.ext ?_)
    exact (hnormal ms).trans (normalize_object_of_perm h hn ▸ (hnormal ms').symm)

section

variable {registry : CapabilityRegistry S} {document : SessionDocument} {s : Session S}

namespace Session

/-- The accounts are those of the document, in the order of their ids. -/
theorem IsOf.map_values (h : IsOf registry document s) :
    s.accounts.values.map (fun a => (a.id, a.document)) = document.accounts.entries := by
  have hmap : s.accounts.mapValues (fun _ a => a.document) = document.accounts := by
    refine SortedMap.eq_of_find?_eq fun id => Option.ext fun d => ?_
    rw [SortedMap.find?_mapValues_eq_some_iff]
    constructor
    · rintro ⟨a, ha, rfl⟩
      exact (h.account id a ha).2.1
    · intro hd
      obtain ⟨a, ha⟩ : ∃ a, s.account? id = some a := by
        rw [exists_account?_iff, h.keys_eq, ← SortedMap.contains_iff, SortedMap.contains_eq_isSome_find?, hd,
          Option.isSome_some]
      exact ⟨a, ha, Option.some.inj ((h.account id a ha).2.1.symm.trans hd)⟩
  rw [← hmap, SortedMap.values, SortedMap.mapValues, List.map_map]
  refine List.map_congr_left fun e he => ?_
  rw [Function.comp_apply, (h.account e.1 e.2 (SortedMap.find?_eq_some_iff.2 he)).1]

/-- The main accounts are among the accounts. -/
theorem IsOf.valid_of_sound (h : IsOf registry document s) (hsound : document.Sound)
    (hvalid : ∀ id ∈ s.accounts.keys, id.Valid) : ∀ id ∈ document.primaryAccounts.values, id.Valid := by
  intro id hid
  obtain ⟨⟨uri, id⟩, hmem, rfl⟩ := List.mem_map.1 hid
  obtain ⟨a, ha, -⟩ := hsound uri id (SortedMap.find?_eq_some_iff.2 hmem)
  refine hvalid id ?_
  rw [h.keys_eq, ← SortedMap.contains_iff, SortedMap.contains_eq_isSome_find?, ha, Option.isSome_some]

theorem IsOf.map_id_values (h : IsOf registry document s) : s.accounts.values.map (·.id) = s.accounts.keys := by
  rw [SortedMap.values, SortedMap.keys, List.map_map]
  exact List.map_congr_left fun e he => (h.account e.1 e.2 (SortedMap.find?_eq_some_iff.2 he)).1

theorem IsOf.mapM_overviewAlong (h : IsOf registry s.document s) (w : Walk s.document) :
    (Utf8.sortBy (·.1.text) w.accounts).mapM (fun e => e.2.overviewAlong e.1 (w.capabilitiesOf e.1)) =
      s.accounts.values.mapM Account.overview := by
  have hone : ∀ a ∈ s.accounts.values, a.document.overviewAlong a.id (w.capabilitiesOf a.id) = a.overview := by
    intro a ha
    have hmem : (a.id, a.document) ∈ s.document.accounts.entries := by
      rw [← h.map_values]
      exact List.mem_map_of_mem ha
    rw [AccountDocument.overviewAlong, SortedMap.sortBy_eq_keys (w.capabilitiesOf_perm _ hmem)]
    rfl
  have hsorted : Utf8.sortBy (·.1.text) w.accounts = s.document.accounts.entries :=
    Utf8.sortBy_eq_of_perm w.accounts_perm s.document.accounts.increasing
  rw [hsorted, ← h.map_values, List.mapM_map]
  exact mapM_congr hone

/-- Whatever the order in which the maps of a session are gone through, the overview is the same. -/
theorem IsOf.overviewAlong_eq (h : IsOf registry s.document s) (hsound : s.document.Sound) (w : Walk s.document) :
    s.overviewAlong w = s.overview := by
  rw [overviewAlong, overview, h.mapM_overviewAlong w, SortedMap.sortBy_eq_keys w.capabilities_perm]
  cases haccounts : s.accounts.values.mapM Account.overview with
  | error e => rfl
  | ok accounts =>
    -- The accounts are written before the main ones, which are among them.
    have hvalid : ∀ id ∈ s.document.primaryAccounts.values, id.Valid := by
      have hids := (Guards.mapM Account.guards_overview s.accounts.values).valid accounts haccounts
      rw [← List.map_eq_flatMap, h.map_id_values] at hids
      exact h.valid_of_sound hsound hids
    have hwritten {es : List (Uri × Id)} (hes : es.Perm s.document.primaryAccounts.entries) :
        writeEntries es = .ok (es.map fun e => (e.1.text, .string e.2.text)) := by
      refine (Form.guards_writeEntries faithfulKey_uri .id es).eq_ok fun id hid => hvalid id ?_
      obtain ⟨e, he, heq⟩ := List.mem_flatMap.1 hid
      obtain rfl : id = e.2 := by simpa [Form.id] using heq
      exact List.mem_map_of_mem (hes.mem_iff.1 he)
    have hperm := w.primaryAccounts_perm
    have hmember : member "primaryAccounts" s.document.primaryAccounts =
        (writeEntries s.document.primaryAccounts.entries).map fun ms => [("primaryAccounts", Tree.object ms)] := by
      show ((writeEntries s.document.primaryAccounts.entries).map Tree.object >>= _) = _
      cases writeEntries s.document.primaryAccounts.entries <;> rfl
    have hnodup : ((s.document.primaryAccounts.entries.map fun e =>
        (e.1.text, Tree.string e.2.text)).map (·.1)).Nodup := by
      rw [List.map_map, List.Nodup, List.pairwise_map]
      exact s.document.primaryAccounts.increasing.imp ne_of_lt
    rw [hmember, hwritten hperm, hwritten (.refl _)]
    exact MethodCall.argumentsOf_concat_of_perm
      [member "username" s.document.username, member "apiUrl" s.document.apiUrl, member "state" s.document.state,
        member "capabilities" s.document.capabilities.keys, member "core" s.capabilities.core?,
        member "accounts" accounts] "primaryAccounts" (hperm.map _) hnodup

/-! ### The overview -/

theorem IsOf.shownAs_summary (h : IsOf registry s.document s) : s.ShownAs s.summary where
  username_eq := rfl
  apiUrl_eq := rfl
  state_eq := rfl
  capabilities := s.document.capabilities.lists_keys
  core_eq := rfl
  accounts := by
    refine ⟨List.pairwise_map.2 h.pairwise_values, fun o => ?_⟩
    constructor
    · intro ho
      obtain ⟨a, ha, rfl⟩ := List.mem_map.1 ho
      exact ⟨a, h.mem_values_iff.1 ha, a.shownAs_summary⟩
    · rintro ⟨a, ha, hshown⟩
      rw [hshown.eq a.shownAs_summary]
      rw [hshown.id_eq] at ha
      exact List.mem_map_of_mem (h.mem_values_iff.2 ha)
  primaryAccounts_eq := rfl

theorem IsOf.exists_overview_iff (h : IsOf registry s.document s) (hsound : s.document.Sound) :
    (∃ v, s.overview = .ok v) ↔ ∀ id ∈ s.accounts.keys, id.Valid := by
  rw [s.guards_overview.exists_ok_iff, h.map_id_values, List.forall_mem_append]
  exact ⟨And.left, fun hvalid => ⟨hvalid, h.valid_of_sound hsound hvalid⟩⟩

/-- There is an `overview` if and only if the ids of the accounts are `Valid`. It is the value of the only summary
that the session is `ShownAs`, however its maps are gone through. -/
theorem overview_exact {body : List UInt8} (h : ofBytes registry body = .ok s) :
    (∀ w : Walk s.document, s.overviewAlong w = s.overview) ∧
      ((∃ v, s.overview = .ok v) ↔ ∀ id ∈ s.accounts.keys, id.Valid) ∧
      ∀ v, s.overview = .ok v → ∃ o, (∀ o', s.ShownAs o' ↔ o' = o) ∧ v = o.value := by
  obtain ⟨-, hdocument⟩ := ofBytes_eq_ok_iff.1 h
  obtain ⟨-, hsound, hof⟩ := ofDocument_eq_ok_iff.1 hdocument
  refine ⟨hof.overviewAlong_eq hsound, hof.exists_overview_iff hsound, fun v hv => ?_⟩
  refine ⟨s.summary, fun o => ⟨fun ho => ho.eq hof.shownAs_summary, ?_⟩, s.guards_overview.eq_of_eq_ok hv⟩
  rintro rfl
  exact hof.shownAs_summary

/-- Two accounts and two capabilities are given in the wrong order, and shown in the right one. -/
theorem overview_exact_of_two :
    let body := Utf8.encode <|
      "\x7b\"capabilities\":\x7b\"x\":0,\"w\":0\x7d," ++
        "\"accounts\":\x7b\"b\":\x7b\"name\":\"\",\"isReadOnly\":true\x7d," ++
        "\"a\":\x7b\"name\":\"n\",\"accountCapabilities\":\x7b\"x\":0\x7d\x7d\x7d," ++
        "\"primaryAccounts\":\x7b\"x\":\"a\"\x7d,\"apiUrl\":\"\"\x7d"
    ∃ s : Session Schema.core, ofBytes Registry.core.capabilities body = .ok s ∧
      ∃ v o, (∀ w : Walk s.document, s.overviewAlong w = .ok v) ∧ s.ShownAs o ∧ v = o.value ∧
        o.capabilities = [⟨"w"⟩, ⟨"x"⟩] ∧
        o.accounts = [⟨⟨"a"⟩, "n", false, false, [⟨"x"⟩]⟩, ⟨⟨"b"⟩, "", false, true, []⟩] := by
  intro body
  have hsession : (ofBytes (S := Schema.core) Registry.core.capabilities body).toOption.map
      (fun s => (s.accounts.keys, s.summary.capabilities, s.summary.accounts)) =
      some ([⟨"a"⟩, ⟨"b"⟩], [⟨"w"⟩, ⟨"x"⟩],
        [⟨⟨"a"⟩, "n", false, false, [⟨"x"⟩]⟩, ⟨⟨"b"⟩, "", false, true, []⟩]) := by
    simp only [body, Utf8.encode_eq_data]
    decide +kernel
  obtain ⟨s, hs, hsession⟩ := toOption_map_eq_some_iff.1 hsession
  simp only [Prod.mk.injEq] at hsession
  obtain ⟨hkeys, hcapabilities, haccounts⟩ := hsession
  have hvalid : ∀ id ∈ s.accounts.keys, id.Valid := by
    rw [hkeys, List.forall_mem_cons, List.forall_mem_singleton]
    exact ⟨Id.fault?_eq_none_iff.1 (by decide), Id.fault?_eq_none_iff.1 (by decide)⟩
  obtain ⟨halong, hexists, honly⟩ := overview_exact hs
  obtain ⟨v, hv⟩ := hexists.2 hvalid
  obtain ⟨o, ho, rfl⟩ := honly v hv
  have hof := (ofDocument_eq_ok_iff.1 (ofBytes_eq_ok_iff.1 hs).2).2.2
  obtain rfl := (ho s.summary).1 hof.shownAs_summary
  exact ⟨s, hs, _, _, fun w => (halong w).trans hv, hof.shownAs_summary, rfl, hcapabilities, haccounts⟩

/-- The id of an account has a blank in it. The session is accepted, but has no overview. -/
theorem overview_ne_ok_of_blank :
    let body := Utf8.encode <|
      "\x7b\"capabilities\":\x7b\x7d,\"accounts\":\x7b\"a b\":\x7b\"name\":\"\"\x7d\x7d," ++
        "\"primaryAccounts\":\x7b\x7d,\"apiUrl\":\"a\"\x7d"
    ∃ s : Session Schema.core, ofBytes Registry.core.capabilities body = .ok s ∧ ∀ v, s.overview ≠ .ok v := by
  intro body
  have hsession : (ofBytes (S := Schema.core) Registry.core.capabilities body).toOption.map
      (fun s => s.overview.toOption.isSome) = some false := by
    simp only [body, Utf8.encode_eq_data]
    decide +kernel
  obtain ⟨s, hs, hnone⟩ := toOption_map_eq_some_iff.1 hsession
  refine ⟨s, hs, fun v hv => ?_⟩
  rw [hv] at hnone
  cases hnone

end Session

end

end JmapClient
