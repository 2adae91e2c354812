import JmapClient.Proofs.Commands
import JmapClient.Proofs.Folders

/-!
# Downloading to a file

To download a blob a client looks first whether there is a file already that is not to be overwritten. It is done with
then, and otherwise the file is written at the end, when the server has handed out the blob (`Client.Downloads`,
`Download.Served`). Until then every file is as it was, and afterwards all but that one
(`Client.showDownload_exact`).
-/

namespace JmapClient

open Json Client

variable {S : Schema}

/-- The transfer of a blob that is downloaded from `account`. -/
def Download.transfer (d : Download) (account : String) : Transfer Bytes :=
  .download account d.blobId (d.mediaType.getD "application/octet-stream") (d.fileName.getD d.blobId)

/-- A server hands out the blob of `d`, when it is asked at `url` for the account that there is to use in a session. -/
structure Download.Served (w : World) (d : Download) (log : List Exchange) (s : Session S) (account url : String)
    (response : Http.Response) : Prop where
  account_eq : s.resolveAccount d.account = .ok account
  validAccount : (⟨account⟩ : Id).Valid
  validBlob : (⟨d.blobId⟩ : Id).Valid
  url_eq : UriTemplate.expand? s.document.downloadUrl (.ofList [("accountId", account), ("blobId", d.blobId),
    ("type", d.mediaType.getD "application/octet-stream"), ("name", d.fileName.getD d.blobId)]) = some url
  response_eq : w log (.http (.get url)) = .ok response
  isSuccess : 200 ≤ response.status ∧ response.status < 300

namespace Client

/-- The members of what is told of a download (`downloaded`). -/
theorem tree_downloaded (d : Download) (size : Nat) :
    (downloaded d size).tree = .object
      [("blobId", .string d.blobId), ("savedTo", .string d.output), ("size", .number (.int size))] := by
  have hsize : "blobId" < "size" := by decide +kernel
  have hsaved : "blobId" < "savedTo" := by decide +kernel
  have hlast : "savedTo" < "size" := by decide +kernel
  simp [downloaded, Value.ofTree, Tree.normalize, Tree.normalizeMembers, sortEntries, insertEntry, TextKey.text,
    String.lt_asymm hsize, String.lt_asymm hsaved, hlast]

/-- What is told of the download `d` after its file was written, or was not. -/
def saved (d : Download) (account : String) (content : Bytes) :
    Except FileFault Unit → Except Failure (Value × Option Meta)
  | .ok () => .ok (downloaded d content.length, some ⟨none, some account⟩)
  | .error fault => .error (.file fault)

/-- What comes of a download once a session was opened, or was not: what is sent, what is written, and the result. -/
inductive Downloads (w : World) (d : Download) (log : List Exchange) : Except Error (Session S) → List Exchange →
    List Exchange → Except Failure (Value × Option Meta) → Prop
  | unopened (e : Error) : Downloads w d log (.error e) [] [] (.error (.client e))
  | unresolved {s : Session S} {e : Failure} (haccount : s.resolveAccount d.account = .error e) :
      Downloads w d log (.ok s) [] [] (.error e)
  | failed {s : Session S} {account : String} {sent : List Exchange} {e : Error}
      (haccount : s.resolveAccount d.account = .ok account)
      (htransfers : Transfers w (d.transfer account) log (.ok s) sent (.error e)) :
      Downloads w d log (.ok s) sent [] (.error (.client e))
  | written {s : Session S} {account : String} {sent : List Exchange} {content : Bytes}
      (haccount : s.resolveAccount d.account = .ok account)
      (htransfers : Transfers w (d.transfer account) log (.ok s) sent (.ok content)) :
      Downloads w d log (.ok s) sent [⟨.write d.output content, w (log ++ sent) (.write d.output content)⟩]
        (saved d account content (w (log ++ sent) (.write d.output content)))

/-! ### The parts -/

section

variable (c : Client S) (d : Download) (w : World)

/-- What is left of the download `d` once its file may be written. -/
def downloadOver : Job S Failure (Value × Option Meta) := do
  let s := (← ExceptT.adapt Failure.client c.currentSession).session
  let accountId ← ofExcept (s.resolveAccount d.account)
  let content ← ExceptT.adapt Failure.client (c.transfer (d.transfer accountId))
  ofExcept (fileAnswer (← Job.ask (.write d.output content)))
  return (downloaded d content.length, some ⟨none, some accountId⟩)

/-- A download is refused, or else nothing is in its way. -/
theorem runIn_showDownload (before : Option (Held S)) (log : List Exchange) :
    let isPresent : Bool := w log (.isPresent d.output)
    let look : Exchange := ⟨.isPresent d.output, isPresent⟩
    (c.showDownload d).runIn w before log =
      if isPresent = true ∧ d.force = false then
        ⟨.error (.refused (d.output ++ " already exists. Pass --force to overwrite it")), before, log ++ [look]⟩
      else (c.downloadOver d).runIn w before (log ++ [look]) := by
  unfold showDownload
  rw [Job.runIn_ask_bind]
  generalize w log (.isPresent d.output) = isPresent
  obtain ⟨blobId, output, account, mediaType, fileName, force⟩ := d
  cases isPresent <;> cases force <;> rfl

/-- Once its file may be written, a client comes by a session for a download and does in it what can be done. -/
theorem downloads_downloadOver (before : Option (Held S)) (log : List Exchange) :
    let o := (c.downloadOver d).runIn w before log
    ∃ opened fetched sent written, o.log = log ++ fetched ++ sent ++ written ∧ c.ComesBy w before log opened fetched ∧
      Downloads w d (log ++ fetched) opened sent written o.result := by
  unfold downloadOver
  obtain ⟨opened, fetched, held, hcomes, hrun⟩ := c.runIn_opened_bind w before log _
  rw [hrun]
  cases opened with
  | error e => exact ⟨_, fetched, [], [], by simp, hcomes, .unopened e⟩
  | ok h =>
    dsimp only
    rw [Job.runIn_ofExcept_bind]
    cases haccount : h.session.resolveAccount d.account with
    | error e => exact ⟨_, fetched, [], [], by simp, hcomes, .unresolved haccount⟩
    | ok account =>
      dsimp only
      obtain ⟨sent, result, htransfers, hlast⟩ :=
        c.runIn_transfer_bind w (d.transfer account) h (log ++ fetched) _
      rw [hlast]
      cases result with
      | error e => exact ⟨_, fetched, sent, [], (List.append_nil _).symm, hcomes, .failed haccount htransfers⟩
      | ok content =>
        have hwritten := Downloads.written haccount htransfers
        dsimp only
        rw [Job.runIn_ask_bind, Job.runIn_ofExcept_bind]
        revert hwritten
        generalize w (log ++ fetched ++ sent) (.write d.output content) = answer
        cases answer <;> exact fun hwritten => ⟨_, fetched, sent, _, rfl, hcomes, hwritten⟩

end

/-! ### What follows -/

section

variable {c : Client S} {d : Download} {w : World} {before : Option (Held S)}
  {log fetched sent written : List Exchange} {opened : Except Error (Session S)}
  {result : Except Failure (Value × Option Meta)} {s : Session S} {account url : String} {response : Http.Response}

theorem Downloads.exists_error (h : Downloads w d log opened sent written result) (hwritten : written = []) :
    ∃ e, result = .error e := by
  cases h with
  | unopened | unresolved | failed => exact ⟨_, rfl⟩
  | written => cases hwritten

/-- What is written is what was handed out (`Download.Served`). -/
theorem Downloads.eq_of_served (h : Downloads w d log opened sent written result) (hopened : opened = .ok s)
    (hserved : d.Served w log s account url response) :
    let answer : Except FileFault Unit :=
      w (log ++ [⟨.http (.get url), .ok response⟩]) (.write d.output response.body)
    sent = [⟨.http (.get url), .ok response⟩] ∧ written = [⟨.write d.output response.body, answer⟩] ∧
      result = saved d account response.body answer := by
  have hvalid : ∀ id ∈ (d.transfer account).ids, id.Valid := by
    simpa [Download.transfer, Transfer.ids] using ⟨hserved.validAccount, hserved.validBlob⟩
  have hanswered : (d.transfer account).answered (w log (.http (.get url))) = .ok response.body :=
    Transfer.answered_eq_ok_iff.2 ⟨response, hserved.response_eq, hserved.isSuccess, rfl⟩
  subst hopened
  cases h with
  | unresolved haccount => cases hserved.account_eq.symm.trans haccount
  | failed haccount htransfers =>
    obtain rfl := Except.ok.inj (hserved.account_eq.symm.trans haccount)
    obtain ⟨-, hresult⟩ := htransfers.result_of_url rfl (Transfer.fault?_eq_none_iff.2 hvalid) hserved.url_eq
    cases hresult.trans hanswered
  | written haccount htransfers =>
    obtain rfl := Except.ok.inj (hserved.account_eq.symm.trans haccount)
    obtain ⟨rfl, hresult⟩ := htransfers.result_of_url rfl (Transfer.fault?_eq_none_iff.2 hvalid) hserved.url_eq
    obtain rfl := Except.ok.inj (hresult.trans hanswered)
    have hsent : (⟨.http ((d.transfer account).request url), w log (.http ((d.transfer account).request url))⟩ :
        Exchange) = ⟨.http (.get url), .ok response⟩ := congrArg (Exchange.mk _) hserved.response_eq
    rw [hsent]
    exact ⟨rfl, rfl, rfl⟩

/-- A file is written for a download if the server has handed out the blob, and for no other reason. -/
theorem Downloads.written_ne_nil_iff (h : Downloads w d log opened sent written result) :
    written ≠ [] ↔ ∃ s account url response, opened = .ok s ∧ d.Served w log s account url response := by
  constructor
  · intro hwritten
    cases h with
    | unopened | unresolved | failed => exact absurd rfl hwritten
    | @written s account sent content haccount htransfers =>
      have hsent : sent ≠ [] := fun hsent => by
        obtain ⟨e, he⟩ := htransfers.exists_error hsent
        cases he
      obtain ⟨s', url, hs, hvalid, hurl⟩ := htransfers.sent_ne_nil_iff.1 hsent
      obtain rfl := Except.ok.inj hs
      obtain ⟨-, hresult⟩ := htransfers.result_of_url rfl (Transfer.fault?_eq_none_iff.2 hvalid) hurl
      obtain ⟨response, hresponse, hsuccess, -⟩ := Transfer.answered_eq_ok_iff.1 hresult.symm
      have hids := hvalid
      simp only [Download.transfer, Transfer.ids, List.forall_mem_cons] at hids
      exact ⟨s, account, url, response, rfl, haccount, hids.1, hids.2.1, hurl, hresponse, hsuccess⟩
  · rintro ⟨s, account, url, response, hopened, hserved⟩
    obtain ⟨-, rfl, -⟩ := h.eq_of_served hopened hserved
    simp

/-- Nothing but a request is sent for a download. -/
theorem Downloads.exists_http (h : Downloads w d log opened sent written result) :
    ∀ x ∈ sent, ∃ r, x.effect = .http r := by
  cases h with
  | unopened | unresolved => simp
  | failed _ htransfers | written _ htransfers => exact htransfers.exists_http

end

/-- A download is refused at a file that it may not overwrite. Else it writes once if it is `Served`, and reports the
account and the size then, and fails without touching a file if it is not. -/
theorem showDownload_exact (c : Client S) (d : Download) (w : World) (f : Folder) (before : Option (Held S))
    (log : List Exchange) :
    let files := f.after log
    let look : Exchange := ⟨.isPresent d.output, files.isPresent d.output⟩
    let o := (c.showDownload d).runIn (w.withFolder f) before log
    let left := f.after o.log
    (files.isPresent d.output = true ∧ d.force = false →
      o.result = .error (.refused (d.output ++ " already exists. Pass --force to overwrite it")) ∧
      o.log = log ++ [look] ∧ left = files) ∧
    (¬ (files.isPresent d.output = true ∧ d.force = false) → ∃ opened fetched sent written,
      o.log = log ++ [look] ++ fetched ++ sent ++ written ∧
      c.ComesBy (w.withFolder f) before (log ++ [look]) opened fetched ∧
      (written ≠ [] ↔ ∃ s account url response, opened = .ok s ∧
        d.Served (w.withFolder f) (log ++ [look] ++ fetched) s account url response) ∧
      (written = [] → left = files ∧ ∃ e, o.result = .error e) ∧
      ∀ s account url response, opened = .ok s →
        d.Served (w.withFolder f) (log ++ [look] ++ fetched) s account url response →
        sent = [⟨.http (.get url), .ok response⟩] ∧
        written = [⟨.write d.output response.body, (files.write d.output response.body).map fun _ => ()⟩] ∧
        (∀ fault, files.write d.output response.body = .error fault →
          left = files ∧ o.result = .error (.file fault)) ∧
        ∀ g, files.write d.output response.body = .ok g →
          left = g ∧ files.Wrote g d.output response.body ∧
          o.result.map (fun told => (told.1.tree, told.2)) = .ok
            (.object [("blobId", .string d.blobId), ("savedTo", .string d.output),
              ("size", .number (.int response.body.length))], some ⟨none, some account⟩)) := by
  intro files look o left
  have hrun : o = if files.isPresent d.output = true ∧ d.force = false then
      ⟨.error (.refused (d.output ++ " already exists. Pass --force to overwrite it")), before, log ++ [look]⟩
      else (c.downloadOver d).runIn (w.withFolder f) before (log ++ [look]) :=
    runIn_showDownload c d (w.withFolder f) before log
  have hlook : f.after (log ++ [look]) = files := Folder.after_append f log [look]
  refine ⟨fun hspared => ?_, fun hspared => ?_⟩
  · rw [if_pos hspared] at hrun
    exact ⟨congrArg (·.result) hrun, congrArg (·.log) hrun, by rw [← hlook]; exact congrArg (f.after ·.log) hrun⟩
  · rw [if_neg hspared] at hrun
    obtain ⟨opened, fetched, sent, written, hlog, hcomes, h⟩ :=
      downloads_downloadOver c d (w.withFolder f) before (log ++ [look])
    rw [← hrun] at hlog h
    -- Before the write there are only requests, and the look at the file.
    have hbefore : f.after (log ++ [look] ++ fetched ++ sent) = files := by
      rw [List.append_assoc, Folder.after_append, hlook]
      refine Folder.after_eq_self fun x hx path content => ?_
      obtain ⟨r, hr⟩ := (List.mem_append.1 hx).elim (hcomes.exists_http x) (h.exists_http x)
      simp [hr]
    have hleft : left = files.after written := by
      rw [← hbefore, ← Folder.after_append, ← hlog]
    refine ⟨opened, fetched, sent, written, hlog, hcomes, h.written_ne_nil_iff,
      fun hwritten => ⟨?_, h.exists_error hwritten⟩, fun s account url response hopened hserved => ?_⟩
    · rw [hleft, hwritten]
      rfl
    · obtain ⟨hsent, hwritten, hresult⟩ := h.eq_of_served hopened hserved
      have hanswer : (w.withFolder f) (log ++ [look] ++ fetched ++ [⟨.http (.get url), .ok response⟩])
          (.write d.output response.body) = (files.write d.output response.body).map fun _ => () := by
        rw [← hbefore, hsent]
        rfl
      rw [hanswer] at hwritten hresult
      have hstep : left = files.step (.write d.output response.body) := by
        rw [hleft, hwritten]
        rfl
      refine ⟨hsent, hwritten, fun fault hfault => ?_, fun g hg => ?_⟩
      · rw [hresult, hstep, Folder.step, hfault]
        exact ⟨rfl, rfl⟩
      · rw [hresult, hstep, Folder.step, hg]
        exact ⟨rfl, Folder.wrote_of_write hg, by rw [← tree_downloaded]; rfl⟩

/-- A file that is there already is overwritten if that is asked for, and is kept if it is not. -/
theorem showDownload_exact_of_force :
    let body := Utf8.encode <|
      "\x7b\"capabilities\":\x7b\x7d,\"accounts\":\x7b\"A\":\x7b\"name\":\"\"\x7d\x7d,\"primaryAccounts\":\x7b\x7d," ++
      "\"apiUrl\":\"a\",\"downloadUrl\":\"d/\x7bblobId\x7d\"\x7d"
    let folder := Folder.ofEntries [("f.txt", [9]), ("g.txt", [8])]
    let c : Client Schema.core := ⟨.core, some "e"⟩
    let w := World.scripted [.error ⟨none, ""⟩, .ok ⟨200, none, body⟩, .ok ⟨206, none, [1, 2]⟩]
    let run (d : Download) := (c.showDownload d).runIn (w.withFolder folder) none []
    let d : Download := ⟨"B", "f.txt", none, none, none, true⟩
    let kept : Download := ⟨"B", "f.txt", none, none, none, false⟩
    ((run d).result.map (fun told => (told.1.tree, told.2)) = .ok
        (.object [("blobId", .string "B"), ("savedTo", .string "f.txt"), ("size", .number (.int 2))],
          some ⟨none, some "A"⟩) ∧
      (folder.after (run d).log).read "f.txt" = .ok [1, 2]) ∧
    folder.after (run kept).log = folder := by
  intro body folder c w run d kept
  have hfollow : folder.follow "f.txt" = .ok ⟨some 0, ["f.txt"]⟩ := by
    rw [Folder.follow, String.contains_char_eq]
    decide +kernel
  have hpresent : folder.isPresent "f.txt" = true := by
    rw [Folder.isPresent, hfollow]
    decide +kernel
  have hwritable : ∃ g, folder.write "f.txt" [1, 2] = .ok g :=
    ⟨_, Folder.write_eq_ok_iff.2 ⟨_, hfollow, by decide +kernel, by decide +kernel, rfl⟩⟩
  have hsession : (c.accept (.ok ⟨200, none, body⟩)).toOption.map (fun s =>
      (s.document.downloadUrl, (s.resolveAccount none).toOption)) = some ("d/\x7bblobId\x7d", some "A") := by
    simp only [body, Utf8.encode_eq_data]
    decide +kernel
  obtain ⟨s, hopened, hsession⟩ := toOption_map_eq_some_iff.1 hsession
  obtain ⟨hurl, haccount⟩ := Prod.mk.inj hsession
  obtain ⟨-, hforced⟩ := showDownload_exact c d w folder none []
  obtain ⟨hkept, -⟩ := showDownload_exact c kept w folder none []
  refine ⟨?_, (hkept ⟨hpresent, rfl⟩).2.2⟩
  obtain ⟨opened, fetched, sent, written, -, hcomes, -, -, hserved⟩ := hforced (by simp [d])
  obtain ⟨rfl, rfl⟩ := hcomes.of_endpoint "e" rfl rfl
  obtain ⟨g, hg⟩ := hwritable
  obtain ⟨-, -, -, hwrote⟩ := hserved s "A" "d/B" ⟨206, none, [1, 2]⟩ hopened
    { account_eq := toOption_eq_some_iff.1 haccount
      validAccount := Id.fault?_eq_none_iff.1 (by decide)
      validBlob := Id.fault?_eq_none_iff.1 (by decide)
      url_eq := by rw [hurl]; decide +kernel
      response_eq := rfl
      isSuccess := by decide }
  obtain ⟨hleft, hfile, hresult⟩ := hwrote g hg
  refine ⟨hresult, ?_⟩
  rw [hleft]
  exact hfile.read_eq

end Client

end JmapClient
