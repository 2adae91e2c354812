import JmapClient.Proofs.Json.Completed
import JmapClient.Proofs.Json.Orderless
import JmapClient.Proofs.Payloads
import JmapClient.Proofs.UnknownCapabilities

/-!
# Sessions that are read again

Documents that describe accounts and sessions are faithful (`SessionDocument.faithful`), and what is written of
one is the complete document that it was read from (`SessionDocument.retold`). So a session is written if and
only if the identifiers in it are valid, its value is that of the completed text, and it is decoded as the very
session again, in whatever order the members are (`Session.ofTree_written`).
-/

namespace JmapClient

open Json Json.Record

variable {S : Schema}

theorem faithful_valuesByUri : Faithful (SortedMap Uri Value) fun _ => [] :=
  (Faithful.map faithfulKey_uri faithful_value).congr (by simp [SortedMap.idsOf])

theorem faithful_idsByUri : Faithful (SortedMap Uri Id) SortedMap.values :=
  (Faithful.map faithfulKey_uri faithful_id).congr fun m id => by
    simp [SortedMap.idsOf, SortedMap.values, eq_comm]

theorem writtenOnce_valuesByUri : WrittenOnce (SortedMap Uri Value) := writtenOnce_value.map faithfulKey_uri

theorem retold_valuesByUri : Retold (SortedMap Uri Value) (completeMap kept) :=
  retold_value.map faithfulKey_uri

/-! ### Accounts -/

namespace AccountDocument

theorem nodup_names : record.names.Nodup := by decide

theorem restores (a : AccountDocument) :
    Restores record
      [member "name" a.name, member "isPersonal" a.isPersonal, member "isReadOnly" a.isReadOnly,
        member "accountCapabilities" a.capabilities]
      a (∀ id ∈ ([] : List Id), id.Valid) := by
  have h := ((((restores_required faithful_string "name" a.name).map mk).seq
    (restores_defaulted faithful_bool "isPersonal" false a.isPersonal)).seq
    (restores_defaulted faithful_bool "isReadOnly" false a.isReadOnly)).seq
    (restores_defaulted faithful_valuesByUri "accountCapabilities" ∅ a.capabilities)
  exact h.congr (by simp)

theorem faithful : Faithful AccountDocument fun _ => [] :=
  .of_record (fun _ => rfl) (fun _ => rfl) nodup_names restores

theorem writtenOnce : WrittenOnce AccountDocument := by
  refine .of_record (fun _ => rfl) nodup_names restores fun a => ?_
  simp only [List.forall_mem_cons]
  exact ⟨writtenOnce_string.member _ _, writtenOnce_bool.member _ _, writtenOnce_bool.member _ _,
    writtenOnce_valuesByUri.member _ _, List.forall_mem_nil _⟩

theorem orderless : Orderless AccountDocument := by
  refine .of_record (r := record) (fun _ => rfl) ?_
  exact ((((Record.Orderless.of_field orderless_string "name" _).map mk).seq
    (.of_field orderless_bool "isPersonal" _)).seq
    (.of_field orderless_bool "isReadOnly" _)).seq
    (.of_field orderless_value.map "accountCapabilities" _)

/-- The document of an account, made complete. -/
def complete : Draft → Option Tree :=
  completeRecord [⟨"name", none, kept⟩, ⟨"isPersonal", some (.bool false), kept⟩,
    ⟨"isReadOnly", some (.bool false), kept⟩, ⟨"accountCapabilities", some (.object []), completeMap kept⟩]

theorem retold : Retold AccountDocument complete := by
  refine .of_record (r := record) (fun _ => rfl) (fun _ => rfl) ?_
  refine ((((Retells.of_required retold_string "name").map ?_).seq
    (.of_defaulted retold_bool "isPersonal" rfl)).seq
    (.of_defaulted retold_bool "isReadOnly" rfl)).seq
    (.of_defaulted retold_valuesByUri "accountCapabilities" rfl)
  rintro name _ rfl isPersonal _ rfl isReadOnly _ rfl capabilities _ rfl
  rfl

end AccountDocument

/-! ### Sessions -/

namespace SessionDocument

theorem nodup_names : record.names.Nodup := by decide

theorem restores (s : SessionDocument) :
    Restores record
      [member "capabilities" s.capabilities, member "accounts" s.accounts,
        member "primaryAccounts" s.primaryAccounts, member "username" s.username, member "apiUrl" s.apiUrl,
        member "downloadUrl" s.downloadUrl, member "uploadUrl" s.uploadUrl,
        member "eventSourceUrl" s.eventSourceUrl, member "state" s.state]
      s (∀ id ∈ s.accounts.keys ++ s.primaryAccounts.values, id.Valid) := by
  have h := (((((((((restores_required faithful_valuesByUri "capabilities" s.capabilities).map mk).seq
    (restores_required AccountDocument.faithful.underIds "accounts" s.accounts)).seq
    (restores_required faithful_idsByUri "primaryAccounts" s.primaryAccounts)).seq
    (restores_defaulted faithful_string "username" "" s.username)).seq
    (restores_required faithful_string "apiUrl" s.apiUrl)).seq
    (restores_defaulted faithful_string "downloadUrl" "" s.downloadUrl)).seq
    (restores_defaulted faithful_string "uploadUrl" "" s.uploadUrl)).seq
    (restores_defaulted faithful_string "eventSourceUrl" "" s.eventSourceUrl)).seq
    (restores_defaulted faithful_string "state" "" s.state)
  exact h.congr (by simp [or_imp, forall_and])

theorem faithful : Faithful SessionDocument fun s => s.accounts.keys ++ s.primaryAccounts.values :=
  .of_record (fun _ => rfl) (fun _ => rfl) nodup_names restores

theorem writtenOnce : WrittenOnce SessionDocument := by
  refine .of_record (fun _ => rfl) nodup_names restores fun s => ?_
  have haccounts := AccountDocument.writtenOnce.map faithfulKey_id
  have hprimary := writtenOnce_id.map faithfulKey_uri
  simp only [List.forall_mem_cons]
  exact ⟨writtenOnce_valuesByUri.member _ _, haccounts.member _ _, hprimary.member _ _,
    writtenOnce_string.member _ _, writtenOnce_string.member _ _, writtenOnce_string.member _ _,
    writtenOnce_string.member _ _, writtenOnce_string.member _ _, writtenOnce_string.member _ _,
    List.forall_mem_nil _⟩

theorem orderless : Orderless SessionDocument := by
  refine .of_record (r := record) (fun _ => rfl) ?_
  exact (((((((((Record.Orderless.of_field orderless_value.map "capabilities" _).map mk).seq
    (.of_field AccountDocument.orderless.map "accounts" _)).seq
    (.of_field orderless_id.map "primaryAccounts" _)).seq
    (.of_field orderless_string "username" _)).seq
    (.of_field orderless_string "apiUrl" _)).seq
    (.of_field orderless_string "downloadUrl" _)).seq
    (.of_field orderless_string "uploadUrl" _)).seq
    (.of_field orderless_string "eventSourceUrl" _)).seq
    (.of_field orderless_string "state" _)

/-- The document of a session, made complete: what no field is called is left out, what has a default is there,
and records are objects. -/
def complete : Draft → Option Tree :=
  completeRecord [⟨"capabilities", none, completeMap kept⟩,
    ⟨"accounts", none, completeMap AccountDocument.complete⟩, ⟨"primaryAccounts", none, completeMap kept⟩,
    ⟨"username", some (.string ""), kept⟩, ⟨"apiUrl", none, kept⟩, ⟨"downloadUrl", some (.string ""), kept⟩,
    ⟨"uploadUrl", some (.string ""), kept⟩, ⟨"eventSourceUrl", some (.string ""), kept⟩,
    ⟨"state", some (.string ""), kept⟩]

theorem retold : Retold SessionDocument complete := by
  refine .of_record (r := record) (fun _ => rfl) (fun _ => rfl) ?_
  refine (((((((((Retells.of_required retold_valuesByUri "capabilities").map ?_).seq
    (.of_required (.map faithfulKey_id AccountDocument.retold) "accounts")).seq
    (.of_required (.map faithfulKey_uri retold_id) "primaryAccounts")).seq
    (.of_defaulted retold_string "username" rfl)).seq
    (.of_required retold_string "apiUrl")).seq
    (.of_defaulted retold_string "downloadUrl" rfl)).seq
    (.of_defaulted retold_string "uploadUrl" rfl)).seq
    (.of_defaulted retold_string "eventSourceUrl" rfl)).seq
    (.of_defaulted retold_string "state" rfl)
  rintro capabilities _ rfl accounts _ rfl primaryAccounts _ rfl username _ rfl apiUrl _ rfl downloadUrl _ rfl
    uploadUrl _ rfl eventSourceUrl _ rfl state _ rfl
  rfl

end SessionDocument

namespace Session

/-- Decodes and checks the document `t`, which is given as JSON. -/
def ofTree (registry : CapabilityRegistry S) (t : Tree) : Except Error (Session S) := do
  let s ← Error.ofProblem (read (α := SessionDocument) t.draft)
  ofDocument registry s

variable {registry : CapabilityRegistry S} {session : Session S}

theorem ofBytes_eq_ok_iff_ofTree {body : List UInt8} {t : Tree} (h : Tree.ofBytes body = .ok t) :
    ofBytes registry body = .ok session ↔ ofTree registry t = .ok session := by
  simp only [ofBytes, ofTree, bind_eq_ok_iff, Error.ofProblem_eq_ok_iff, readText_eq_ok_iff h]

/-- A session is written if and only if its ids are `Valid`. What is written is the text made `complete`, and whatever
has its value and repeats no name is decoded as the same session. -/
theorem ofTree_written {body : List UInt8} (h : ofBytes registry body = .ok session) :
    ((∃ t, write session = .ok t) ↔
      (∀ id ∈ session.accounts.keys, id.Valid) ∧
        ∀ id ∈ session.document.primaryAccounts.values, id.Valid) ∧
      ∀ t, write session = .ok t →
        t.Unrepeated ∧
        (∃ u, SessionDocument.complete (Draft.ofBytes body).1 = some u ∧ Value.ofTree t = Value.ofTree u) ∧
        ∀ t', t'.Unrepeated → Value.ofTree t' = Value.ofTree t →
          ofTree registry t' = .ok session ∧
          ∀ body', Tree.ofBytes body' = .ok t' → ofBytes registry body' = .ok session := by
  obtain ⟨hread, hdocument⟩ := ofBytes_eq_ok_iff.1 h
  obtain ⟨-, -, hof⟩ := ofDocument_eq_ok_iff.1 hdocument
  refine ⟨?_, fun t ht => ⟨SessionDocument.writtenOnce session.document t ht, ?_, fun t' honce hsame => ?_⟩⟩
  · rw [hof.keys_eq, ← List.forall_mem_append]
    exact SessionDocument.faithful.written_iff session.document
  · obtain ⟨u, hu, hwritten⟩ := SessionDocument.retold _ _ (read_of_readText hread)
    exact ⟨u, hu, Value.ext (hwritten t ht).symm⟩
  · have hvalue : (Value.ofTree t').read = .ok session.document := by
      rw [hsame]
      exact SessionDocument.faithful.read_ofTree session.document t ht
    have hagain : ofTree registry t' = .ok session := by
      rw [ofTree, SessionDocument.orderless t' session.document honce hvalue]
      exact hdocument
    exact ⟨hagain, fun body' hbody' => (ofBytes_eq_ok_iff_ofTree hbody').2 hagain⟩

/-- A document gives an account as an array and has a member that is no field. The session is written, and is
decoded again from the complete document. -/
theorem ofTree_written_of_array :
    let body := Utf8.encode <|
      "\x7b\"w\":[],\"capabilities\":\x7b\"x\":null\x7d,\"primaryAccounts\":\x7b\"x\":\"A1\"\x7d," ++
      "\"accounts\":\x7b\"A1\":[\"n\",true,false,\x7b\"x\":1\x7d]\x7d,\"apiUrl\":\"u\"\x7d"
    let account := Tree.object [("name", .string "n"), ("isPersonal", .bool true), ("isReadOnly", .bool false),
      ("accountCapabilities", .object [("x", .number (.int 1))])]
    let completed := Tree.object [("capabilities", .object [("x", .null)]), ("accounts", .object [("A1", account)]),
      ("primaryAccounts", .object [("x", .string "A1")]), ("username", .string ""), ("apiUrl", .string "u"),
      ("downloadUrl", .string ""), ("uploadUrl", .string ""), ("eventSourceUrl", .string ""),
      ("state", .string "")]
    ∃ s t, ofBytes (S := Schema.core) .empty body = .ok s ∧ write s = .ok t ∧
      Value.ofTree t = Value.ofTree completed ∧ ofTree .empty completed = .ok s := by
  intro body account completed
  have hids : (ofBytes (S := Schema.core) .empty body).toOption.map
      (fun s => (s.accounts.keys, s.document.primaryAccounts.values)) = some ([⟨"A1"⟩], [⟨"A1"⟩]) := by
    simp only [body, Utf8.encode_eq_data]
    decide +kernel
  have hcomplete : SessionDocument.complete (Draft.ofBytes body).1 = some completed := by
    simp only [body, Utf8.encode_eq_data]
    decide +kernel
  obtain ⟨s, hs, hids⟩ := toOption_map_eq_some_iff.1 hids
  obtain ⟨haccounts, hprimary⟩ := Prod.mk.inj hids
  have hvalid : Id.Valid ⟨"A1"⟩ := Id.fault?_eq_none_iff.1 (by decide)
  obtain ⟨hwritten, hagain⟩ := ofTree_written hs
  obtain ⟨t, ht⟩ := hwritten.2 (by simp [haccounts, hprimary, hvalid])
  obtain ⟨-, ⟨u, hu, hsame⟩, hread⟩ := hagain t ht
  obtain rfl := Option.some.inj (hcomplete.symm.trans hu)
  have honce : completed.Unrepeated := by
    simp [completed, account, Tree.Unrepeated, Tree.MembersUnrepeated]
  exact ⟨s, t, hs, ht, hsame, (hread completed honce hsame.symm).1⟩

end Session

end JmapClient
