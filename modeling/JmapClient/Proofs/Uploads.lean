import JmapClient.Proofs.Accounts
import JmapClient.Proofs.Commands
import JmapClient.Proofs.Folders

/-!
# Uploading a file

A file is uploaded in one request or not at all (`Client.Uploads`). Every check comes before the request: that there is
an account to upload to, that the file can be read, that the server takes a file of its size
(`Session.checkSize_eq_ok_iff`) and that the account's id is valid. Whatever fails, nothing was sent then but what a
session was fetched with (`Client.uploadFile_exact`).
-/

namespace JmapClient

open Json Client

variable {S : Schema}

namespace Session

/-- A session was made of a document that was accepted. -/
def Accepted (s : Session S) : Prop := ∃ registry body, ofBytes registry body = .ok s

/-- In a session that was `Accepted` the account to use is always a listed one. -/
theorem Accepted.mem_keys {s : Session S} (h : s.Accepted) {asked : Option String} {account : String}
    (haccount : s.resolveAccount asked = .ok account) : ⟨account⟩ ∈ s.accounts.keys := by
  cases asked with
  | some id =>
    obtain ⟨rfl, hmem⟩ := resolveAccount_some_eq_ok_iff.1 haccount
    exact hmem
  | none =>
    obtain ⟨registry, body, hbody⟩ := h
    obtain ⟨-, hdocument⟩ := ofBytes_eq_ok_iff.1 hbody
    obtain ⟨-, hsound, hof⟩ := ofDocument_eq_ok_iff.1 hdocument
    exact hof.mem_keys_of_defaultAccount? hsound (resolveAccount_none_eq_ok_iff.1 haccount)

/-- The server takes files of this `size`: it tells of no limit, or of the limit zero, which is none, or of one that is
no smaller. -/
def Takes (s : Session S) (size : Nat) : Prop :=
  ∀ core, s.capabilities.core? = some core → 0 < core.maxSizeUpload → size ≤ core.maxSizeUpload.toNat

theorem checkSize_eq_ok_iff {s : Session S} {path : String} {size : Nat} :
    s.checkSize path size = .ok () ↔ s.Takes size := by
  unfold checkSize uploadLimit? Takes
  cases s.capabilities.core? with
  | none => simp
  | some core =>
    by_cases hzero : core.maxSizeUpload = 0
    · simp [hzero]
    · have hpos : 0 < core.maxSizeUpload := UInt64.pos_iff_ne_zero.2 hzero
      by_cases hsize : core.maxSizeUpload.toNat < size
      · simp [hzero, hpos, hsize]
      · simp [hzero, hpos, hsize, Nat.le_of_not_lt hsize]

end Session

/-- The transfer of the file of `u` to `account`, where `content` is what it has. -/
def Upload.transfer (types : MediaTypes) (u : Upload) (account : String) (content : Bytes) :
    Transfer UploadResponse :=
  .upload account (u.mediaType.getD ((types u.path).getD "application/octet-stream")) content

namespace Client

/-- What is told of a file after its transfer to `account`. -/
def uploaded (account : String) : Except Error UploadResponse → Except Failure (Value × String)
  | .error e => .error (.client e)
  | .ok blob =>
    match toValue blob with
    | .ok v => .ok (v, account)
    | .error problem => .error (.unwritable problem)

/-- What comes of the file of `u` once a session was opened, or was not: what is asked of the world about the file, what
is sent, and the result. -/
inductive Uploads (w : World) (types : MediaTypes) (u : Upload) (log : List Exchange) : Except Error (Session S) → List Exchange →
    List Exchange → Except Failure (Value × String) → Prop
  | unopened (e : Error) : Uploads w types u log (.error e) [] [] (.error (.client e))
  | unresolved {s : Session S} {e : Failure} (haccount : s.resolveAccount u.account = .error e) :
      Uploads w types u log (.ok s) [] [] (.error e)
  | unreadable {s : Session S} {account : String} {fault : FileFault}
      (haccount : s.resolveAccount u.account = .ok account) (hfile : w log (.read u.path) = .error fault) :
      Uploads w types u log (.ok s) [⟨.read u.path, .error fault⟩] [] (.error (.file fault))
  | tooLarge {s : Session S} {account : String} {content : Bytes} {e : Failure}
      (haccount : s.resolveAccount u.account = .ok account) (hfile : w log (.read u.path) = .ok content)
      (hsize : s.checkSize u.path content.length = .error e) :
      Uploads w types u log (.ok s) [⟨.read u.path, .ok content⟩] [] (.error e)
  | transferred {s : Session S} {account : String} {content : Bytes} {sent : List Exchange}
      {result : Except Error UploadResponse} (haccount : s.resolveAccount u.account = .ok account)
      (hfile : w log (.read u.path) = .ok content) (hsize : s.checkSize u.path content.length = .ok ())
      (htransfers : Transfers w (u.transfer types account content) (log ++ [⟨.read u.path, .ok content⟩]) (.ok s) sent
        result) :
      Uploads w types u log (.ok s) [⟨.read u.path, .ok content⟩] sent (uploaded account result)

variable (c : Client S) (types : MediaTypes) (u : Upload) (w : World)

/-- To upload a file a client comes by a session, and does in it what can be done. -/
theorem uploads_uploadFile (before : Option (Held S)) (log : List Exchange) :
    let o := (c.uploadFile types u).runIn w before log
    ∃ opened fetched asked sent, o.log = log ++ fetched ++ asked ++ sent ∧ c.ComesBy w before log opened fetched ∧
      Uploads w types u (log ++ fetched) opened asked sent o.result := by
  unfold uploadFile
  obtain ⟨opened, fetched, held, hcomes, hrun⟩ := c.runIn_opened_bind w before log _
  rw [hrun]
  cases opened with
  | error e => exact ⟨_, fetched, [], [], by simp, hcomes, .unopened e⟩
  | ok h =>
    dsimp only
    rw [Job.runIn_ofExcept_bind]
    cases haccount : h.session.resolveAccount u.account with
    | error e => exact ⟨_, fetched, [], [], by simp, hcomes, .unresolved haccount⟩
    | ok account =>
      dsimp only
      rw [Job.runIn_ask_bind, Job.runIn_ofExcept_bind]
      generalize hfile : w (log ++ fetched) (.read u.path) = file
      cases file with
      | error fault => exact ⟨_, fetched, _, [], (List.append_nil _).symm, hcomes, .unreadable haccount hfile⟩
      | ok content =>
        dsimp only [fileAnswer]
        rw [Job.runIn_ofExcept_bind]
        cases hsize : h.session.checkSize u.path content.length with
        | error e => exact ⟨_, fetched, _, [], (List.append_nil _).symm, hcomes, .tooLarge haccount hfile hsize⟩
        | ok =>
          have hupload : c.upload account (u.mediaType.getD ((types u.path).getD MediaTypes.unknown)) content =
              c.transfer (u.transfer types account content) := rfl
          dsimp only
          rw [hupload]
          obtain ⟨sent, result, htransfers, hlast⟩ := c.runIn_transfer_bind w (u.transfer types account content) h
            (log ++ fetched ++ [⟨.read u.path, .ok content⟩]) _
          rw [hlast]
          have huploads := Uploads.transferred haccount hfile hsize htransfers
          cases result with
          | error e => exact ⟨_, fetched, _, sent, rfl, hcomes, huploads⟩
          | ok blob =>
            dsimp only [uploaded] at huploads ⊢
            revert huploads
            cases toValue blob <;> exact fun huploads => ⟨_, fetched, _, sent, rfl, hcomes, huploads⟩

/-! ### What follows -/

section

variable {c : Client S} {types : MediaTypes} {u : Upload} {w : World} {before : Option (Held S)} {log fetched asked sent : List Exchange}
  {opened : Except Error (Session S)} {result : Except Failure (Value × String)} {s : Session S}

/-- A session that a client comes by was `Accepted`, if the one was that it held before. -/
theorem ComesBy.accepted (h : c.ComesBy w before log opened fetched)
    (hbefore : ∀ h, before = some h → h.session.Accepted) (hopened : opened = .ok s) : s.Accepted := by
  subst hopened
  cases before with
  | some held =>
    obtain ⟨hsession, -⟩ := h.of_held held rfl
    obtain rfl := Except.ok.inj hsession
    exact hbefore held rfl
  | none =>
    cases hendpoint : c.endpoint with
    | none => cases (h.of_nowhere rfl hendpoint).1
    | some url =>
      obtain ⟨-, haccept⟩ := h.of_endpoint url rfl hendpoint
      cases hanswer : w log (.http (.get url)) with
      | error failure =>
        rw [hanswer] at haccept
        cases haccept
      | ok response =>
        rw [hanswer, accept] at haccept
        split at haccept
        · exact ⟨_, _, haccept.symm⟩
        · cases haccept

theorem Uploads.asked_eq (h : Uploads w types u log opened asked sent result) :
    asked = [] ∨ asked = [⟨.read u.path, w log (.read u.path)⟩] := by
  cases h with
  | unopened | unresolved => exact Or.inl rfl
  | unreadable _ hfile | tooLarge _ hfile | transferred _ hfile => exact Or.inr (by rw [hfile])

theorem Uploads.exists_error (h : Uploads w types u log opened asked sent result) (hsent : sent = []) :
    ∃ e, result = .error e := by
  cases h with
  | unopened | unresolved | unreadable | tooLarge => exact ⟨_, rfl⟩
  | transferred _ _ _ htransfers =>
    obtain ⟨e, rfl⟩ := htransfers.exists_error hsent
    exact ⟨_, rfl⟩

/-- A file is sent if all is well with it, with the account and with the server's template. -/
theorem Uploads.sent_ne_nil_iff (h : Uploads w types u log opened asked sent result) :
    sent ≠ [] ↔ ∃ s account content, opened = .ok s ∧ s.resolveAccount u.account = .ok account ∧
      (⟨account⟩ : Id).Valid ∧ w log (.read u.path) = .ok content ∧ s.Takes content.length ∧
      ∃ url, (u.transfer types account content).url? s = some url := by
  cases h with
  | unopened e => simp
  | unresolved haccount => simp [haccount]
  | unreadable haccount hfile => simp [hfile]
  | tooLarge haccount hfile hsize =>
    have hnot := mt Session.checkSize_eq_ok_iff.2 (by rw [hsize]; simp)
    simp [hfile, hnot]
  | transferred haccount hfile hsize htransfers =>
    simp [htransfers.sent_ne_nil_iff, haccount, hfile, Session.checkSize_eq_ok_iff.1 hsize, Upload.transfer,
      Transfer.ids]

/-- What is sent of a file is its content, to the account that was found. -/
theorem Uploads.eq_of_sent (h : Uploads w types u log opened asked sent result) {account url : String} {content : Bytes}
    (hopened : opened = .ok s) (haccount : s.resolveAccount u.account = .ok account)
    (hfile : w log (.read u.path) = .ok content) (hurl : (u.transfer types account content).url? s = some url)
    (hsent : sent ≠ []) :
    let request := (u.transfer types account content).request url
    let answer : Http.Answer := w (log ++ asked) (.http request)
    asked ≠ [] ∧ sent = [⟨.http request, answer⟩] ∧
      result = uploaded account ((u.transfer types account content).answered answer) := by
  subst hopened
  cases h with
  | unresolved | unreadable | tooLarge => exact absurd rfl hsent
  | transferred haccount' hfile' _ htransfers =>
    obtain rfl := Except.ok.inj (haccount.symm.trans haccount')
    obtain rfl := Except.ok.inj (hfile.symm.trans hfile')
    have hvalid := Transfer.fault?_eq_none_iff.2 (htransfers.valid_of_sent hsent)
    obtain ⟨hone, rfl⟩ := htransfers.result_of_url rfl hvalid hurl
    exact ⟨by simp, hone, rfl⟩

end

theorem uploaded_eq_ok_iff {account told : String} {x : Except Error UploadResponse} {v : Value} :
    uploaded account x = .ok (v, told) ↔ told = account ∧ ∃ blob, x = .ok blob ∧ toValue blob = .ok v := by
  cases x with
  | error e => simp [uploaded]
  | ok blob => cases h : toValue blob <;> simp [uploaded, h, eq_comm, and_comm]

/-- A file is sent, once and as it is, exactly if the client comes by a session that has an account with a valid id
for it and `Takes` its size. What its name tells (`types`) is its media type if none is given. -/
theorem uploadFile_exact (c : Client S) (types : MediaTypes) (u : Upload) (w : World) (before : Option (Held S))
    (log : List Exchange) :
    let o := (c.uploadFile types u).runIn w before log
    ∃ opened fetched asked sent, o.log = log ++ fetched ++ asked ++ sent ∧ c.ComesBy w before log opened fetched ∧
      let file : Except FileFault Bytes := w (log ++ fetched) (.read u.path)
      (asked = [] ∨ asked = [⟨.read u.path, file⟩]) ∧
      (sent ≠ [] ↔ ∃ s account content, opened = .ok s ∧ s.resolveAccount u.account = .ok account ∧
        (⟨account⟩ : Id).Valid ∧ file = .ok content ∧ s.Takes content.length ∧
        ∃ url, UriTemplate.expand? s.document.uploadUrl (.ofList [("accountId", account)]) = some url) ∧
      (∀ s account content url, opened = .ok s → s.resolveAccount u.account = .ok account → file = .ok content →
        UriTemplate.expand? s.document.uploadUrl (.ofList [("accountId", account)]) = some url → sent ≠ [] →
        let request := .post url (u.mediaType.getD ((types u.path).getD "application/octet-stream")) content
        let answer : Http.Answer := w (log ++ fetched ++ asked) (.http request)
        asked ≠ [] ∧ sent = [⟨.http request, answer⟩] ∧
        ∀ v told, o.result = .ok (v, told) ↔ told = account ∧ ∃ response blob, answer = .ok response ∧
          (200 ≤ response.status ∧ response.status < 300) ∧ readText (α := UploadResponse) response.body = .ok blob ∧
          toValue blob = .ok v) ∧
      (sent = [] → ∃ e, o.result = .error e) ∧
      ((∀ h, before = some h → h.session.Accepted) → ∀ s account, opened = .ok s →
        s.resolveAccount u.account = .ok account → ⟨account⟩ ∈ s.accounts.keys) := by
  intro o
  obtain ⟨opened, fetched, asked, sent, hlog, hcomes, h⟩ := uploads_uploadFile c types u w before log
  refine ⟨opened, fetched, asked, sent, hlog, hcomes, h.asked_eq, h.sent_ne_nil_iff,
    fun s account content url hopened haccount hfile hurl hsent => ?_, h.exists_error,
    fun hbefore s account hopened haccount => (hcomes.accepted hbefore hopened).mem_keys haccount⟩
  obtain ⟨hasked, hone, hresult⟩ := h.eq_of_sent hopened haccount hfile hurl hsent
  refine ⟨hasked, hone, fun v told => ?_⟩
  have hresult : o.result = _ := hresult
  rw [hresult, uploaded_eq_ok_iff]
  simp only [Transfer.answered_eq_ok_iff]
  refine and_congr_right fun _ => ?_
  constructor
  · rintro ⟨blob, ⟨response, hanswer, hsuccess, hread⟩, hv⟩
    exact ⟨response, blob, hanswer, hsuccess, hread, hv⟩
  · rintro ⟨response, blob, hanswer, hsuccess, hread, hv⟩
    exact ⟨blob, ⟨response, hanswer, hsuccess, hread⟩, hv⟩

/-- A file of just the largest size is sent to the user's main account, as what its name tells that it is. -/
theorem uploadFile_exact_of_limit :
    let body := Utf8.encode <|
      "\x7b\"capabilities\":\x7b\"urn:ietf:params:jmap:core\":\x7b\"maxSizeUpload\":3\x7d\x7d," ++
      "\"accounts\":\x7b\"A\":\x7b\"name\":\"\"\x7d\x7d,\"primaryAccounts\":\x7b\x7d,\"apiUrl\":\"a\"," ++
      "\"uploadUrl\":\"u/\x7baccountId\x7d\"\x7d"
    let answer := Utf8.encode
      "\x7b\"accountId\":\"A\",\"blobId\":\"B\",\"type\":\"text/plain\",\"size\":3\x7d"
    let folder := Folder.ofEntries [("f.txt", [1, 2, 3])]
    let c : Client Schema.core := ⟨.core, some "e"⟩
    let types : MediaTypes := fun path => if path.endsWith ".txt" then some "text/plain" else none
    let w := (World.scripted [.ok ⟨200, none, body⟩, .error ⟨none, ""⟩, .ok ⟨201, none, answer⟩]).withFolder folder
    let o := (c.uploadFile types ⟨"f.txt", none, none⟩).runIn w none []
    o.log = [⟨.http (.get "e"), .ok ⟨200, none, body⟩⟩, ⟨.read "f.txt", .ok [1, 2, 3]⟩,
        ⟨.http (.post "u/A" "text/plain" [1, 2, 3]), .ok ⟨201, none, answer⟩⟩] ∧
      o.result.toOption.map (·.2) = some "A" := by
  intro body answer folder c types w o
  have hfile : folder.read "f.txt" = .ok [1, 2, 3] := by
    have hfollow : folder.follow "f.txt" = .ok ⟨some 0, ["f.txt"]⟩ := by
      rw [Folder.follow, String.contains_char_eq]
      decide +kernel
    rw [Folder.read, hfollow]
    decide +kernel
  have hsession : (c.accept (.ok ⟨200, none, body⟩)).toOption.map (fun s =>
      (s.document.uploadUrl, (s.resolveAccount none).toOption, (s.checkSize "f.txt" 3).toOption)) =
      some ("u/\x7baccountId\x7d", some "A", some ()) := by
    simp only [body, Utf8.encode_eq_data]
    decide +kernel
  have hanswer : (readText (α := UploadResponse) answer).toOption.map (fun blob => (toValue blob).isOk) =
      some true := by
    simp only [answer, Utf8.encode_eq_data]
    decide +kernel
  obtain ⟨s, hs, hsession⟩ := toOption_map_eq_some_iff.1 hsession
  obtain ⟨hurl, hsession⟩ := Prod.mk.inj hsession
  obtain ⟨haccount, hsize⟩ := Prod.mk.inj hsession
  obtain ⟨blob, hblob, hwritable⟩ := toOption_map_eq_some_iff.1 hanswer
  have haccount := toOption_eq_some_iff.1 haccount
  have htakes := Session.checkSize_eq_ok_iff.1 (toOption_eq_some_iff.1 hsize)
  have hexpand : UriTemplate.expand? s.document.uploadUrl (.ofList [("accountId", "A")]) = some "u/A" := by
    rw [hurl]
    decide +kernel
  obtain ⟨opened, fetched, asked, sent, hlog, hcomes, hasked, hiff, hsent, -, -⟩ :=
    uploadFile_exact c types ⟨"f.txt", none, none⟩ w none []
  obtain ⟨rfl, rfl⟩ := hcomes.of_endpoint "e" rfl rfl
  have hvalid : (⟨"A"⟩ : Id).Valid := Id.fault?_eq_none_iff.1 (by decide)
  obtain ⟨hread, hone, hresult⟩ := hsent s "A" [1, 2, 3] "u/A" hs haccount hfile hexpand
    (hiff.2 ⟨s, "A", [1, 2, 3], hs, haccount, hvalid, hfile, htakes, _, hexpand⟩)
  obtain rfl := hasked.resolve_left hread
  obtain ⟨v, hv⟩ := isOk_iff_exists.1 hwritable
  have hdone : o.result = .ok (v, "A") := (hresult v "A").2
    ⟨rfl, ⟨201, none, answer⟩, blob, rfl, by decide, hblob, hv⟩
  refine ⟨?_, by rw [hdone]; rfl⟩
  have htypes : types "f.txt" = some "text/plain" := by decide +kernel
  rw [hlog, hone]
  dsimp only
  rw [htypes]
  show [Exchange.mk (.http (.get "e")) (.ok ⟨200, none, body⟩), ⟨.read "f.txt", folder.read "f.txt"⟩,
    ⟨.http (.post "u/A" "text/plain" [1, 2, 3]), .ok ⟨201, none, answer⟩⟩] = _
  rw [hfile]

end Client

end JmapClient
