import JmapClient.Notes
import JmapClient.Proofs.Acceptance
import JmapClient.Proofs.Decoding
import JmapClient.Proofs.Json.Additions

/-!
# Unknown capabilities

What a session is of its document is determined (`Session.IsOf.eq`). So a value under a name that is not
registered does not matter (`Session.ofDocument_of_sets`), and a registry that knows fewer capabilities
accepts whatever one that knows more accepts, and decodes fewer of them (`Session.ofDocument_restrict`).
Such a value is what a document has when an object in its text gains a member (`SessionDocument.read_gains`).
The text must still be readable, since a value may nest so deeply that a text with it is not read.
-/

namespace JmapClient

open Json Json.Record

variable {S : Schema}

/-! ### Decoded capabilities -/

/-- The decoded capabilities that `registry` knows. -/
def Capabilities.restrict (cs : Capabilities S) (registry : CapabilityRegistry S) : Capabilities S :=
  ⟨cs.entries.filter fun e => registry.contains e.1, cs.increasing.sublist List.filter_sublist⟩

theorem Capabilities.find?_restrict (cs : Capabilities S) (registry : CapabilityRegistry S) (uri : Uri) :
    (cs.restrict registry).find? uri = if registry.contains uri then cs.find? uri else none := by
  refine Option.ext fun c => ?_
  rw [SortedMap.find?_eq_some_iff, restrict, List.mem_filter, ← SortedMap.find?_eq_some_iff]
  split_ifs with h <;> simp [h]

/-- `registry` decodes no capability in another way than `registry'`, which knows more. -/
def CapabilityRegistry.Within (registry registry' : CapabilityRegistry S) : Prop :=
  ∀ uri decoder, registry.decoders.find? uri = some decoder → registry'.decoders.find? uri = some decoder

namespace CapabilityRegistry

variable {registry registry' : CapabilityRegistry S} {raw : SortedMap Uri Value} {cs cs' : Capabilities S}
  {uri : Uri}

theorem construct?_eq_none_iff {v : Value} :
    registry.construct? uri v = none ↔ registry.contains uri = false := by
  rw [construct?, Option.map_eq_none_iff, contains, SortedMap.contains_eq_isSome_find?]
  simp

theorem Within.construct?_eq (h : registry'.Within registry) (hcontains : registry'.contains uri = true)
    (v : Value) : registry'.construct? uri v = registry.construct? uri v := by
  rw [contains, SortedMap.contains_eq_isSome_find?, Option.isSome_iff_exists] at hcontains
  obtain ⟨decoder, hdecoder⟩ := hcontains
  rw [construct?, construct?, hdecoder, h _ _ hdecoder]

theorem Within.contains (h : registry'.Within registry) (hcontains : registry'.contains uri = true) :
    registry.contains uri = true := by
  obtain ⟨x, hx⟩ := contains_iff_exists_construct?.1 hcontains
  exact contains_iff_exists_construct?.2 ⟨x, (h.construct?_eq hcontains .null).symm.trans hx⟩

theorem Decoded.find?_eq_some_iff (h : registry.Decoded raw cs) {c : Capability S} :
    cs.find? uri = some c ↔ ∃ v, raw.find? uri = some v ∧ registry.construct? uri v = some (.ok c) := by
  refine ⟨h.construct?_eq uri c, fun ⟨v, hv, hc⟩ => ?_⟩
  have hcontains : cs.contains uri = true := by
    rw [h.contains_iff, SortedMap.contains_eq_isSome_find?, hv]
    exact ⟨rfl, contains_iff_exists_construct?.2 ⟨_, hc⟩⟩
  rw [SortedMap.contains_eq_isSome_find?, Option.isSome_iff_exists] at hcontains
  obtain ⟨c', hc'⟩ := hcontains
  obtain ⟨v', hv', hconstruct⟩ := h.construct?_eq uri c' hc'
  obtain rfl := Option.some.inj (hv.symm.trans hv')
  rw [hc', Except.ok.inj (Option.some.inj (hc.symm.trans hconstruct))]

/-- What is `Decoded` of capabilities is determined. -/
theorem Decoded.eq (h : registry.Decoded raw cs) (h' : registry.Decoded raw cs') : cs = cs' := by
  refine SortedMap.eq_of_find?_eq fun uri => Option.ext fun c => ?_
  rw [h.find?_eq_some_iff, h'.find?_eq_some_iff]

/-- A value under a name that is not registered does not matter for what is `Decoded`. -/
theorem Decoded.insert (h : registry.Decoded raw cs) (huri : registry.contains uri = false) (v : Value) :
    registry.Decoded (raw.insert uri v) cs where
  contains_iff u := by
    rw [h.contains_iff]
    refine and_congr_left fun hu => ?_
    have hne : u ≠ uri := fun heq => by simp [heq, huri] at hu
    rw [SortedMap.contains_eq_isSome_find?, SortedMap.contains_eq_isSome_find?,
      SortedMap.find?_insert_of_ne _ _ hne]
  construct?_eq u c hc := by
    obtain ⟨w, hw, hconstruct⟩ := h.construct?_eq u c hc
    have hne : u ≠ uri := fun heq => by
      rw [heq, construct?_eq_none_iff.2 huri] at hconstruct
      cases hconstruct
    exact ⟨w, by rwa [SortedMap.find?_insert_of_ne _ _ hne], hconstruct⟩

/-- A registry `Within` another one decodes those capabilities that it knows. -/
theorem Decoded.restrict (h : registry.Decoded raw cs) (hwithin : registry'.Within registry) :
    registry'.Decoded raw (cs.restrict registry') where
  contains_iff uri := by
    rw [SortedMap.contains_eq_isSome_find?, Capabilities.find?_restrict]
    split_ifs with huri
    · rw [← SortedMap.contains_eq_isSome_find?, h.contains_iff]
      simp [huri, hwithin.contains huri]
    · simp [huri]
  construct?_eq uri c hc := by
    rw [Capabilities.find?_restrict] at hc
    split_ifs at hc with huri
    obtain ⟨v, hv, hconstruct⟩ := h.construct?_eq uri c hc
    exact ⟨v, hv, (hwithin.construct?_eq huri v).trans hconstruct⟩

end CapabilityRegistry

/-! ### Documents -/

namespace SessionDocument

/-- A document with `v` set under `uri`, among the capabilities of the server or of an account. -/
inductive Sets (uri : Uri) (v : Value) (s : SessionDocument) : SessionDocument → Prop
  | server : Sets uri v s { s with capabilities := s.capabilities.insert uri v }
  | account {id : Id} {a : AccountDocument} (ha : s.accounts.find? id = some a) :
    Sets uri v s { s with
      accounts := s.accounts.insert id { a with capabilities := a.capabilities.insert uri v } }

namespace Sets

variable {registry : CapabilityRegistry S} {uri : Uri} {v : Value} {s s' : SessionDocument}

/-- An account is as it was but for its capabilities. -/
theorem find?_accounts (h : s.Sets uri v s') (id : Id) :
    s'.accounts.find? id = s.accounts.find? id ∨ ∃ a, s.accounts.find? id = some a ∧
      s'.accounts.find? id = some { a with capabilities := a.capabilities.insert uri v } := by
  cases h with
  | server => exact Or.inl rfl
  | @account id' a ha =>
    by_cases hid : id = id'
    · subst hid
      exact Or.inr ⟨a, ha, SortedMap.find?_insert_self _ _ _⟩
    · exact Or.inl (SortedMap.find?_insert_of_ne _ _ hid)

theorem find?_capabilities (h : s.Sets uri v s') {u : Uri} (hu : u ≠ uri) :
    s'.capabilities.find? u = s.capabilities.find? u := by
  cases h with
  | server => exact SortedMap.find?_insert_of_ne _ _ hu
  | account _ => rfl

theorem primaryAccounts_eq (h : s.Sets uri v s') : s'.primaryAccounts = s.primaryAccounts := by
  cases h <;> rfl

theorem urls_eq (h : s.Sets uri v s') : s'.apiUrl = s.apiUrl ∧ s'.downloadUrl = s.downloadUrl ∧
    s'.uploadUrl = s.uploadUrl ∧ s'.eventSourceUrl = s.eventSourceUrl := by
  cases h <;> exact ⟨rfl, rfl, rfl, rfl⟩

theorem keys_accounts (h : s.Sets uri v s') : s'.accounts.keys = s.accounts.keys := by
  refine SortedMap.keys_eq_of_contains_eq fun id => ?_
  rw [SortedMap.contains_eq_isSome_find?, SortedMap.contains_eq_isSome_find?]
  rcases h.find?_accounts id with heq | ⟨a, ha, ha'⟩
  · rw [heq]
  · rw [ha, ha', Option.isSome_some, Option.isSome_some]

theorem decoded {cs : Capabilities S} (h : s.Sets uri v s') (huri : registry.contains uri = false)
    (hcs : registry.Decoded s.capabilities cs) : registry.Decoded s'.capabilities cs := by
  cases h with
  | server => exact hcs.insert huri v
  | account _ => exact hcs

theorem decodable (h : s.Sets uri v s') (huri : registry.contains uri = false)
    (hs : s.Decodable registry) : s'.Decodable registry := by
  intro u w hw hu
  have hne : u ≠ uri := fun heq => by simp [heq, huri] at hu
  refine hs u w ?_ hu
  rcases hw with hw | ⟨id, a', ha', hw⟩
  · exact Or.inl ((h.find?_capabilities hne).symm.trans hw)
  · rcases h.find?_accounts id with heq | ⟨a, ha, hset⟩
    · exact Or.inr ⟨id, a', heq.symm.trans ha', hw⟩
    · obtain rfl := Option.some.inj (ha'.symm.trans hset)
      exact Or.inr ⟨id, a, ha, (SortedMap.find?_insert_of_ne _ _ hne).symm.trans hw⟩

theorem sound (h : s.Sets uri v s') (hs : s.Sound) : s'.Sound := by
  intro u id hid
  obtain ⟨a, ha, hu⟩ := hs u id (h.primaryAccounts_eq ▸ hid)
  rcases h.find?_accounts id with heq | ⟨a', ha', hset⟩
  · exact ⟨a, heq.trans ha, hu⟩
  · obtain rfl := Option.some.inj (ha.symm.trans ha')
    refine ⟨_, hset, ?_⟩
    rw [SortedMap.contains_eq_isSome_find?] at hu ⊢
    by_cases hne : u = uri
    · rw [hne, SortedMap.find?_insert_self, Option.isSome_some]
    · rwa [SortedMap.find?_insert_of_ne _ _ hne]

end Sets

end SessionDocument

/-! ### Documents as JSON -/

/-- How an account is read. -/
def AccountDocument.record : Record AccountDocument :=
  AccountDocument.mk <$> required "name" <*> defaulted "isPersonal" false <*>
    defaulted "isReadOnly" false <*> defaulted "accountCapabilities" ∅

/-- An account whose capabilities gain a member has one capability more. -/
theorem AccountDocument.read_gains {uri : Uri} {v t t' : Tree} {a : AccountDocument}
    (h : Tree.Gains uri.text v ["accountCapabilities"] t t') (ha : read t.draft = .ok a) :
    read t'.draft = .ok { a with capabilities := a.capabilities.insert uri (.ofTree v) } := by
  cases h with
  | under _ _ h =>
    have hlawful : record.Lawful :=
      ((((lawful_field _ _).map _).seq (lawful_field _ _)).seq (lawful_field _ _)).seq (lawful_field _ _)
    have ha : record.read "Account" _ = .ok a := ha
    obtain ⟨a', ha', rfl⟩ := hlawful.exists_read_replace
      (R := fun a a' => a' = { a with capabilities := a.capabilities.insert uri (.ofTree v) })
      (by decide) ha fun view view' hv hv' hsame =>
        ((((Relates.field_of_eq (hsame "name" (by decide))).map (by
            rintro name _ rfl isPersonal _ rfl isReadOnly _ rfl capabilities _ rfl
            rfl)).seq
          (Relates.field_of_eq (hsame "isPersonal" (by decide)))).seq
          (Relates.field_of_eq (hsame "isReadOnly" (by decide)))).seq
          (Relates.field_of_read hv hv' fun m hm => ⟨_, h.read_values hm, rfl⟩)
    exact ha'

namespace SessionDocument

/-- Where the capabilities of the server or of an account stand in a document. -/
inductive IsPlace : List String → Prop
  | server : IsPlace ["capabilities"]
  | account (id : String) : IsPlace ["accounts", id, "accountCapabilities"]

/-- How a session is read. -/
def record : Record SessionDocument :=
  SessionDocument.mk <$> required "capabilities" <*> required "accounts" <*>
    required "primaryAccounts" <*> defaulted "username" "" <*> required "apiUrl" <*>
    defaulted "downloadUrl" "" <*> defaulted "uploadUrl" "" <*> defaulted "eventSourceUrl" "" <*>
    defaulted "state" ""

theorem lawful_record : record.Lawful :=
  (((((((((lawful_field _ _).map _).seq (lawful_field _ _)).seq (lawful_field _ _)).seq
    (lawful_field _ _)).seq (lawful_field _ _)).seq (lawful_field _ _)).seq (lawful_field _ _)).seq
    (lawful_field _ _)).seq (lawful_field _ _)

/-- Sessions are related (`Sets`) if their capabilities and accounts are, and the rest is the same. -/
theorem relates_record {view view' : String → Option Draft}
    {C : SortedMap Uri Value → SortedMap Uri Value → Prop}
    {A : SortedMap Id AccountDocument → SortedMap Id AccountDocument → Prop}
    (hcapabilities : (required "capabilities").Relates view view' C)
    (haccounts : (required "accounts").Relates view view' A)
    (hsame : ∀ k, k ≠ "capabilities" → k ≠ "accounts" → view' k = view k) :
    record.Relates view view' fun s s' => ∃ capabilities accounts, C s.capabilities capabilities ∧
      A s.accounts accounts ∧ s' = { s with capabilities := capabilities, accounts := accounts } := by
  have other {α : Type} [Readable α] {absence : Absence α} {name : String} (h₁ : name ≠ "capabilities")
      (h₂ : name ≠ "accounts") : (field name absence).Relates view view' Eq :=
    .field_of_eq (hsame name h₁ h₂)
  refine ((((((((hcapabilities.map ?_).seq haccounts).seq (other ?_ ?_)).seq (other ?_ ?_)).seq
    (other ?_ ?_)).seq (other ?_ ?_)).seq (other ?_ ?_)).seq (other ?_ ?_)).seq (other ?_ ?_)
  · rintro capabilities capabilities' hC accounts accounts' hA _ _ rfl _ _ rfl _ _ rfl _ _ rfl _ _ rfl
      _ _ rfl _ _ rfl
    exact ⟨capabilities', accounts', hC, hA, rfl⟩
  all_goals decide

/-- A document whose capabilities, of the server or of an account, gain a member is read as one with a value
set for it. Nothing comes of the member if the account is given once more behind it. -/
theorem read_gains {uri : Uri} {v t t' : Tree} {place : List String} {s : SessionDocument}
    (hplace : IsPlace place) (h : Tree.Gains uri.text v place t t') (hs : read t.draft = .ok s) :
    ∃ s', read t'.draft = .ok s' ∧ (s' = s ∨ s.Sets uri (.ofTree v) s') := by
  cases hplace with
  | server =>
    cases h with
    | under _ _ h =>
      have hs : record.read "Session" _ = .ok s := hs
      obtain ⟨s', hs', _, _, rfl, rfl, rfl⟩ := lawful_record.exists_read_replace (by decide) hs
        fun view view' hv hv' hsame => relates_record
          (.field_of_read hv hv' fun m hm => ⟨_, h.read_values hm, rfl⟩)
          (.field_of_eq (hsame "accounts" (by decide))) fun k hk _ => hsame k hk
      exact ⟨_, hs', Or.inr .server⟩
  | account id =>
    cases h with
    | under _ _ h =>
      cases h with
      | under _ _ h =>
        have hs : record.read "Session" _ = .ok s := hs
        obtain ⟨s', hs', _, _, rfl, haccounts, rfl⟩ := lawful_record.exists_read_replace (by decide) hs
          fun view view' hv hv' hsame => relates_record
            (A := fun m m' => m' = m ∨ ∃ a, m.find? ⟨id⟩ = some a ∧ m' = m.insert ⟨id⟩
              { a with capabilities := a.capabilities.insert uri (.ofTree v) })
            (.field_of_eq (hsame "capabilities" (by decide)))
            (.field_of_read hv hv' fun m hm => by
              obtain ⟨a, ha, hreplace⟩ := read_map_replace hm
              rcases hreplace _ _ (AccountDocument.read_gains h ha) with hread | ⟨hfind, hread⟩
              · exact ⟨m, hread, Or.inl rfl⟩
              · exact ⟨_, hread, Or.inr ⟨a, hfind, rfl⟩⟩)
            fun k _ hk => hsame k hk
        rcases haccounts with rfl | ⟨a, ha, rfl⟩
        · exact ⟨_, hs', Or.inl rfl⟩
        · exact ⟨_, hs', Or.inr (.account ha)⟩

end SessionDocument

/-! ### Sessions -/

namespace Session

variable {registry registry' : CapabilityRegistry S} {s s' : SessionDocument} {session session' : Session S}

/-- The accounts of a session are those of its document, each with its capabilities decoded. -/
theorem IsOf.find?_accounts_eq_some_iff (h : IsOf registry s session) {id : Id} {a : Account S} :
    session.accounts.find? id = some a ↔ a.id = id ∧ s.accounts.find? id = some a.document ∧
      registry.Decoded a.document.capabilities a.capabilities := by
  refine ⟨h.account id a, fun ⟨hid, ha, hdecoded⟩ => ?_⟩
  have hmem : session.accounts.contains id = true := by
    rw [SortedMap.contains_iff, h.keys_eq, ← SortedMap.contains_iff, SortedMap.contains_eq_isSome_find?,
      ha, Option.isSome_some]
  rw [SortedMap.contains_eq_isSome_find?, Option.isSome_iff_exists] at hmem
  obtain ⟨a', ha'⟩ := hmem
  obtain ⟨hid', hdocument, hdecoded'⟩ := h.account id a' ha'
  have hsame : a'.document = a.document := Option.some.inj (hdocument.symm.trans ha)
  have hcapabilities : a'.capabilities = a.capabilities := (hsame ▸ hdecoded').eq hdecoded
  obtain ⟨_, _, _⟩ := a
  obtain ⟨_, _, _⟩ := a'
  dsimp only at hid hid' hsame hcapabilities
  rw [ha', hid', hsame, hcapabilities, hid]

/-- What a session is of its document (`IsOf`) is determined. -/
theorem IsOf.eq (h : IsOf registry s session) (h' : IsOf registry s session') : session = session' := by
  have haccounts : session.accounts = session'.accounts :=
    SortedMap.eq_of_find?_eq fun id => Option.ext fun a => by
      rw [h.find?_accounts_eq_some_iff, h'.find?_accounts_eq_some_iff]
  have hcapabilities := h.decoded.eq h'.decoded
  have hdocument := h.document_eq.trans h'.document_eq.symm
  obtain ⟨_, _, _⟩ := session
  obtain ⟨_, _, _⟩ := session'
  obtain rfl : _ = _ := haccounts
  obtain rfl : _ = _ := hcapabilities
  obtain rfl : _ = _ := hdocument
  rfl

theorem ofDocument_eq_ok_iff :
    ofDocument registry s = .ok session ↔ s.Decodable registry ∧ s.Sound ∧ IsOf registry s session := by
  rw [ofDocument_eq_ofWalk]
  rcases ofWalk_cases registry (.sorted s) with ⟨hdecodable, hsound, session', hok, hof⟩ |
    ⟨-, hsound, _, _, _, -, -, herror⟩ | ⟨hdecodable, _, _, _, -, -, herror⟩
  · rw [hok, Except.ok.injEq]
    constructor
    · rintro rfl
      exact ⟨hdecodable, hsound, hof⟩
    · rintro ⟨-, -, hof'⟩
      exact hof.eq hof'
  · simp [herror, hsound]
  · simp [herror, hdecodable]

theorem exists_ofDocument_eq_ok_iff :
    (∃ session, ofDocument registry s = .ok session) ↔ s.Decodable registry ∧ s.Sound := by
  rw [ofDocument_eq_ofWalk]
  rcases ofWalk_cases registry (.sorted s) with ⟨hdecodable, hsound, session, hok, -⟩ |
    ⟨-, hsound, _, _, _, -, -, herror⟩ | ⟨hdecodable, _, _, _, -, -, herror⟩
  · simp [hok, hdecodable, hsound]
  · simp [herror, hsound]
  · simp [herror, hdecodable]

/-- What does not depend on capabilities that are not registered is the same in two sessions. -/
structure Agrees (session session' : Session S) : Prop where
  capabilities_eq : session'.capabilities = session.capabilities
  keys_accounts : session'.accounts.keys = session.accounts.keys
  account : ∀ id a, session.accounts.find? id = some a →
    ∃ a', session'.accounts.find? id = some a' ∧ a'.id = a.id ∧ a'.capabilities = a.capabilities
  primaryAccounts_eq : session'.document.primaryAccounts = session.document.primaryAccounts
  apiUrl_eq : session'.document.apiUrl = session.document.apiUrl
  downloadUrl_eq : session'.document.downloadUrl = session.document.downloadUrl
  uploadUrl_eq : session'.document.uploadUrl = session.document.uploadUrl
  eventSourceUrl_eq : session'.document.eventSourceUrl = session.document.eventSourceUrl

/-- The session as `registry` knows it, which knows fewer capabilities. -/
def restrict (session : Session S) (registry : CapabilityRegistry S) : Session S where
  document := session.document
  capabilities := session.capabilities.restrict registry
  accounts := session.accounts.mapValues fun _ a =>
    { a with capabilities := a.capabilities.restrict registry }

/-- With a value under a name that is not registered a document is accepted as before, and nothing that was
decoded of it changes. -/
theorem ofDocument_of_sets {uri : Uri} {v : Value} (h : s.Sets uri v s')
    (huri : registry.contains uri = false) (hs : ofDocument registry s = .ok session) :
    ∃ session', ofDocument registry s' = .ok session' ∧ session'.document = s' ∧
      session.Agrees session' := by
  obtain ⟨hdecodable, hsound, hof⟩ := ofDocument_eq_ok_iff.1 hs
  obtain ⟨session', hs'⟩ :=
    exists_ofDocument_eq_ok_iff.2 ⟨h.decodable huri hdecodable, h.sound hsound⟩
  obtain ⟨-, -, hof'⟩ := ofDocument_eq_ok_iff.1 hs'
  refine ⟨session', hs', hof'.document_eq, ?_⟩
  have haccount : ∀ id a, session.accounts.find? id = some a → ∃ a',
      session'.accounts.find? id = some a' ∧ a'.id = a.id ∧ a'.capabilities = a.capabilities := by
    intro id a ha
    obtain ⟨hid, hdocument, hdecoded⟩ := hof.account id a ha
    rcases h.find?_accounts id with heq | ⟨d, hd, hset⟩
    · exact ⟨a, hof'.find?_accounts_eq_some_iff.2 ⟨hid, heq.trans hdocument, hdecoded⟩, rfl, rfl⟩
    · obtain rfl := Option.some.inj (hd.symm.trans hdocument)
      exact ⟨⟨id, _, a.capabilities⟩,
        hof'.find?_accounts_eq_some_iff.2 ⟨rfl, hset, hdecoded.insert huri v⟩, hid.symm, rfl⟩
  have same {α : Type} (field : SessionDocument → α) (hfield : field s' = field s) :
      field session'.document = field session.document := by
    rw [hof'.document_eq, hof.document_eq, hfield]
  obtain ⟨hapi, hdownload, hupload, heventSource⟩ := h.urls_eq
  exact
    { capabilities_eq := hof'.decoded.eq (h.decoded huri hof.decoded)
      keys_accounts := by rw [hof'.keys_eq, hof.keys_eq, h.keys_accounts]
      account := haccount
      primaryAccounts_eq := same (·.primaryAccounts) h.primaryAccounts_eq
      apiUrl_eq := same (·.apiUrl) hapi
      downloadUrl_eq := same (·.downloadUrl) hdownload
      uploadUrl_eq := same (·.uploadUrl) hupload
      eventSourceUrl_eq := same (·.eventSourceUrl) heventSource }

/-- A registry that knows fewer capabilities (`Within`) accepts a document as well, and decodes those that it knows. -/
theorem ofDocument_restrict (hwithin : registry'.Within registry)
    (hs : ofDocument registry s = .ok session) :
    ofDocument registry' s = .ok (session.restrict registry') := by
  obtain ⟨hdecodable, hsound, hof⟩ := ofDocument_eq_ok_iff.1 hs
  refine ofDocument_eq_ok_iff.2 ⟨fun uri v hv huri => ?_, hsound, hof.document_eq,
    hof.decoded.restrict hwithin, ?_, fun id a ha => ?_⟩
  · obtain ⟨c, hc⟩ := hdecodable uri v hv (hwithin.contains huri)
    exact ⟨c, (hwithin.construct?_eq huri v).trans hc⟩
  · rw [← hof.keys_eq]
    exact SortedMap.keys_mapValues _ _
  · obtain ⟨a', ha', rfl⟩ := SortedMap.find?_mapValues_eq_some_iff.1 ha
    obtain ⟨hid, hdocument, hdecoded⟩ := hof.account id a' ha'
    exact ⟨hid, hdocument, hdecoded.restrict hwithin⟩

theorem Agrees.refl (session : Session S) : session.Agrees session :=
  ⟨rfl, rfl, fun _ a ha => ⟨a, ha, rfl, rfl⟩, rfl, rfl, rfl, rfl, rfl⟩

theorem ofBytes_eq_ok_iff {body : List UInt8} :
    ofBytes registry body = .ok session ↔
      readText body = .ok session.document ∧ ofDocument registry session.document = .ok session := by
  rw [ofBytes, bind_eq_ok_iff]
  constructor
  · rintro ⟨s, hs, hsession⟩
    obtain ⟨-, -, hof⟩ := ofDocument_eq_ok_iff.1 hsession
    rw [hof.document_eq]
    exact ⟨Error.ofProblem_eq_ok_iff.1 hs, hsession⟩
  · rintro ⟨hs, hsession⟩
    exact ⟨_, Error.ofProblem_eq_ok_iff.2 hs, hsession⟩

/-- What a document gains under a name that is not registered (`Gains`, `Sets`) changes nothing else in the session,
and a registry that knows less gives the session without it (`restrict`). -/
theorem ofBytes_unknown (registry : CapabilityRegistry S) {body : List UInt8} {session : Session S}
    (h : ofBytes registry body = .ok session) :
    (∀ (uri : Uri) (v t t' : Tree) (place : List String), registry.contains uri = false →
      SessionDocument.IsPlace place → Tree.ofBytes body = .ok t → Tree.Gains uri.text v place t t' →
      ∀ body', Tree.ofBytes body' = .ok t' →
        ∃ session', ofBytes registry body' = .ok session' ∧ session.Agrees session') ∧
    (∀ (uri : Uri) (v : Value) (s' : SessionDocument), registry.contains uri = false →
      session.document.Sets uri v s' → ∀ body', readText body' = .ok s' →
        ∃ session', ofBytes registry body' = .ok session' ∧ session'.document = s' ∧
          session.Agrees session') ∧
    ∀ registry' : CapabilityRegistry S,
      (∀ uri decoder, registry'.decoders.find? uri = some decoder →
        registry.decoders.find? uri = some decoder) →
      ofBytes registry' body = .ok (session.restrict registry') := by
  obtain ⟨hbody, hsession⟩ := ofBytes_eq_ok_iff.1 h
  have sets {uri : Uri} {v : Value} {s' : SessionDocument} (huri : registry.contains uri = false)
      (hs' : session.document.Sets uri v s') {body' : List UInt8} (hbody' : readText body' = .ok s') :
      ∃ session', ofBytes registry body' = .ok session' ∧ session'.document = s' ∧
        session.Agrees session' := by
    obtain ⟨session', hsession', rfl, hagrees⟩ := ofDocument_of_sets hs' huri hsession
    exact ⟨session', ofBytes_eq_ok_iff.2 ⟨hbody', hsession'⟩, rfl, hagrees⟩
  refine ⟨fun uri v t t' place huri hplace ht hgains body' ht' => ?_,
    fun uri v s' huri hs' body' hbody' => sets huri hs' hbody', fun registry' hwithin => ?_⟩
  · obtain ⟨s', hs', hsame⟩ :=
      SessionDocument.read_gains hplace hgains ((readText_eq_ok_iff ht).1 hbody)
    have hbody' : readText body' = .ok s' := (readText_eq_ok_iff ht').2 hs'
    rcases hsame with rfl | hset
    · exact ⟨session, ofBytes_eq_ok_iff.2 ⟨hbody', hsession⟩, .refl session⟩
    · obtain ⟨session', hsession', -, hagrees⟩ := sets huri hset hbody'
      exact ⟨session', hsession', hagrees⟩
  · exact ofBytes_eq_ok_iff.2 ⟨hbody, ofDocument_restrict hwithin hsession⟩

/-- The text of a session with one account, with the members `server` and `account` for their capabilities. -/
def textWith (server account : String) : List UInt8 :=
  Utf8.encode <| "\x7b\"capabilities\":\x7b" ++ server ++ "\x7d,\"accounts\":\x7b\"a\":" ++
    "\x7b\"name\":\"\",\"accountCapabilities\":\x7b" ++ account ++ "\x7d\x7d\x7d," ++
    "\"primaryAccounts\":\x7b\x7d,\"apiUrl\":\"/\"\x7d"

/-- An account gains a capability that is not registered, and a registry knows no capability at all. -/
theorem ofBytes_unknown_of_account :
    let registry := (CapabilityRegistry.empty (S := Notes.schema)).register ⟨"y"⟩
      fun v => .ok (.other (.flag v.isNull))
    ∃ session session', ofBytes registry (textWith "\"y\":null" "\"y\":1") = .ok session ∧
      ofBytes registry (textWith "\"y\":null" "\"y\":1,\"x\":[2]") = .ok session' ∧
      session.Agrees session' ∧
      ofBytes .empty (textWith "\"y\":null" "\"y\":1") = .ok (session.restrict .empty) := by
  intro registry
  let before : Tree := .object [("y", .number (.int 1))]
  let after : Tree := .object [("y", .number (.int 1)), ("x", .array [.number (.int 2)])]
  let document (capabilities : Tree) : Tree := .object [("capabilities", .object [("y", .null)]),
    ("accounts", .object [("a", .object [("name", .string ""), ("accountCapabilities", capabilities)])]),
    ("primaryAccounts", .object []), ("apiUrl", .string "/")]
  have hbefore : Tree.ofBytes (textWith "\"y\":null" "\"y\":1") = .ok (document before) := by
    rw [textWith, Utf8.encode_eq_data]
    decide +kernel
  have hafter : Tree.ofBytes (textWith "\"y\":null" "\"y\":1,\"x\":[2]") = .ok (document after) := by
    rw [textWith, Utf8.encode_eq_data]
    decide +kernel
  have haccepted : (ofBytes registry (textWith "\"y\":null" "\"y\":1")).isOk = true := by
    rw [textWith, Utf8.encode_eq_data]
    decide +kernel
  obtain ⟨session, h⟩ := isOk_iff_exists.1 haccepted
  obtain ⟨hgains, -, hrestrict⟩ := ofBytes_unknown registry h
  have hplace : Tree.Gains "x" (.array [.number (.int 2)]) ["accounts", "a", "accountCapabilities"]
      (document before) (document after) :=
    .under [_] _ <| .under [] _ <| .under [_] _ <| .here [_] [] (by decide)
  obtain ⟨session', hsession', hagrees⟩ :=
    hgains ⟨"x"⟩ _ _ _ _ (by decide) (.account "a") hbefore hplace _ hafter
  exact ⟨session, session', h, hsession', hagrees, hrestrict .empty fun _ _ h => nomatch h⟩

/-- Arrays in each other, the innermost without items. -/
def nested : Nat → Tree
  | 0 => .array []
  | n + 1 => .array [nested n]

/-- A text is not read if a value in it, of a capability that is not registered, makes it nest too deeply. -/
theorem ofBytes_ne_ok_of_nested :
    let registry : CapabilityRegistry Schema.core := .empty
    let v : Value := .ofTree (nested 125)
    (∃ session, ofBytes registry (textWith "" "") = .ok session) ∧ registry.contains ⟨"x"⟩ = false ∧
      ∀ session, ofBytes registry (textWith ("\"x\":" ++ v.print) "") ≠ .ok session := by
  intro registry v
  have hok : (ofBytes registry (textWith "" "")).isOk = true := by
    rw [textWith, Utf8.encode_eq_data]
    decide +kernel
  have herror : (ofBytes registry (textWith ("\"x\":" ++ v.print) "")).isOk = false := by
    rw [textWith, Utf8.encode_eq_data]
    decide +kernel
  refine ⟨isOk_iff_exists.1 hok, rfl, fun session h => ?_⟩
  rw [h] at herror
  cases herror

end Session

end JmapClient
