import JmapClient.Proofs.Elements
import JmapClient.Proofs.Executing
import JmapClient.Proofs.HandingOut
import JmapClient.Proofs.Pairs
import JmapClient.Proofs.Queueing
import Mathlib.Algebra.BigOperators.Group.List.Basic

/-!
# Having typed arguments echoed

What is typed is sent as it was read, in a batch of a single call whose text is known (`Echo.batchText`). A text that
gives no argument, or an argument that is given both ways, keeps anything from being asked at all
(`Client.runIn_showEcho_of_error`, `Client.runIn_showEcho_of_conflict`). Otherwise the batch is executed as any other
(`Client.executes_showEcho`), and the answer that is got for its call is shown. Which one this is hangs on the names
that are registered: if echoes are told by the name of the method alone (`MethodRegistry.NamesEchoes`), as with nothing
registered besides, it is the first answer under this name (`Response.firstSettling_echo_iff`).
-/

namespace JmapClient

open Json

variable {S : Schema}

/-! ### Arguments given both ways -/

theorem conflict_ofMap_iff {arguments : SortedMap String Value} {name : String} :
    Conflict (.ofMap arguments) name ↔
      (∃ v, arguments.find? ("#" ++ name) = some v) ∧ ∃ v, arguments.find? name = some v ∧ v.isNull = false := by
  have hmembers : (Value.ofMap arguments).members? = some arguments := Value.members?_eq_some_iff.2 rfl
  simp only [Conflict, hmembers, Option.some.injEq, exists_eq_left', SortedMap.mem_keys_iff]

/-- A single argument is not given both ways. -/
theorem Request.conflict?_single (key : String) (v : Value) : conflict? (.ofMap (.ofList [(key, v)])) = none := by
  have hfind {name : String} {u : Value} (h : (SortedMap.ofList [(key, v)]).find? name = some u) : name = key :=
    (Prod.mk.inj (List.mem_singleton.1 ((SortedMap.find?_ofList_eq_some_iff (by simp)).1 h))).1
  rw [conflict?_eq_none_iff]
  intro name hconflict
  obtain ⟨⟨reference, hreference⟩, u, hu, -⟩ := conflict_ofMap_iff.1 hconflict
  have hname : "#" ++ name = name := (hfind hreference).trans (hfind hu).symm
  simpa using congrArg String.length hname

/-! ### The batch -/

/-- The batch of a single call to have `arguments` echoed. -/
def Request.echoing (arguments : SortedMap String Value) : Request :=
  ⟨[Core.uri], [⟨Echo.methodName, .ofMap arguments, "0"⟩], none⟩

/-- The batch of a single call to have `arguments` echoed, as it is written. -/
def Echo.batchTree (arguments : Tree) : Tree :=
  .object [("using", .array [.string Core.uri.text]),
    ("methodCalls", .array [.array [.string Echo.methodName, arguments, .string "0"]])]

/-- The text of the batch of a single call to have `arguments` echoed. -/
def Echo.batchText (arguments : SortedMap String Value) : String :=
  "\x7b\"using\":[\"urn:ietf:params:jmap:core\"],\"methodCalls\":[[\"Core/echo\"," ++ (Value.ofMap arguments).print ++
    ",\"0\"]]\x7d"

theorem Echo.print_batchTree (arguments : SortedMap String Value) :
    (Echo.batchTree (Value.ofMap arguments).tree).print = Echo.batchText arguments := by
  have husing : printString "using" = "\"using\"" := by decide +kernel
  have hcalls : printString "methodCalls" = "\"methodCalls\"" := by decide +kernel
  have huri : printString Core.uri.text = "\"urn:ietf:params:jmap:core\"" := by decide +kernel
  have hname : printString Echo.methodName = "\"Core/echo\"" := by decide +kernel
  have hid : printString "0" = "\"0\"" := by decide +kernel
  unfold Echo.batchTree Echo.batchText Value.print
  simp only [Tree.print, Tree.printMembers, Tree.printAll, husing, hcalls, huri, hname, hid]
  generalize (Value.ofMap arguments).tree.print = text
  apply String.toList_injective
  simp

theorem Json.Value.print_single (key : String) (v : Value) :
    (Value.ofMap (.ofList [(key, v)])).print = "\x7b" ++ printString key ++ ":" ++ v.print ++ "\x7d" := by
  have htree : (Value.ofMap (.ofList [(key, v)])).tree = .object [(key, v.tree)] := rfl
  unfold Value.print
  rw [htree]
  generalize v.tree = tree
  simp only [Tree.print, Tree.printMembers]
  generalize tree.print = text
  apply String.toList_injective
  simp

theorem Echo.batchText_single_inj {key : String} {v u : Value}
    (h : batchText (.ofList [(key, v)]) = batchText (.ofList [(key, u)])) : v.print = u.print := by
  unfold batchText at h
  rw [Value.print_single, Value.print_single] at h
  generalize v.print = typed, u.print = read at h ⊢
  apply String.toList_injective
  simpa using congrArg String.toList h

/-- Written as JSON, a text is longer than it is. -/
theorem Json.Value.length_lt_length_print_string (text : String) : text.length < (Value.string text).print.length := by
  show text.length < (printString text).length
  have hone : ∀ n ∈ text.toList.map fun c => (printChar c).length, 1 ≤ n := by
    simp only [List.mem_map, forall_exists_index, and_imp]
    rintro n c - rfl
    unfold printChar
    split
    · simp
    · split_ifs <;> simp
  have hlength := List.length_le_sum_of_one_le _ hone
  rw [List.length_map, String.length_toList] at hlength
  simp only [printString, String.length_ofList, List.length_append, List.length_cons, List.length_flatMap,
    List.length_nil]
  omega

theorem Request.toText_echoing (arguments : SortedMap String Value) :
    toText (Request.echoing arguments) = .ok (Echo.batchText arguments) := by
  have hwrite : write (Request.echoing arguments) = .ok (Echo.batchTree (Value.ofMap arguments).tree) := rfl
  rw [toText, hwrite, map_ok, Echo.print_batchTree]

theorem Request.empty_invoke_call (e : Echo) :
    Request.empty.invoke e.call = match Request.conflict? (.ofMap e.arguments) with
      | some name => .error (.conflictingArgument name)
      | none => .ok (Request.echoing e.arguments, "0") := rfl

/-! ### The answer -/

/-- Answers under the name of the method are decoded as echoes, and no others are. Errors are decoded as such. -/
structure MethodRegistry.NamesEchoes (methods : MethodRegistry S) : Prop where
  echo_iff : ∀ name, methods.decoders.find? name = some (.strict .echo) ↔ name = Echo.methodName
  error_eq : methods.decoders.find? errorName = some .lenient

theorem Registry.namesEchoes_core : (core (S := S)).methods.NamesEchoes := by
  refine ⟨fun name => ⟨fun h => ?_, fun h => h ▸ find?_core_echo⟩, find?_core_error⟩
  by_contra hne
  have hfind : (((SortedMap.empty.insert errorName AnswerDecoder.lenient).insert Echo.methodName (.strict .echo)).insert
      BlobCopy.methodName (.strict .blobCopy)).find? name = some (.strict (.echo : PayloadType S)) := h
  rw [SortedMap.find?_insert, SortedMap.find?_insert, SortedMap.find?_insert] at hfind
  split_ifs at hfind <;> cases hfind

namespace Response

variable {methods : MethodRegistry S} {body : List UInt8} {x : Response S} {callId : String} {e : Echo}
  {i : Invocation (Payload S)}

theorem exists_isDecoded (h : ofBytes methods body = .ok x) (hi : i ∈ x.answers) :
    ∃ v, Invocation.IsDecoded methods v i := by
  obtain ⟨envelope, -, hx⟩ := bind_eq_ok_iff.1 h
  obtain ⟨-, -, hanswers⟩ := ofEnvelope_eq_ok_iff.1 hx
  obtain ⟨v, -, hv⟩ := exists_mem_of_forall₂ hanswers.flip hi
  exact ⟨v, hv⟩

/-- Where echoes are told by the name of the method (`NamesEchoes`), so are the answers that settle what is got. -/
theorem settles_echo_iff (hnames : methods.NamesEchoes) (h : ofBytes methods body = .ok x) (hi : i ∈ x.answers) :
    (i.content.type = .echo ↔ i.name = Echo.methodName) ∧
      (i.Settles .echo ↔ i.name = Echo.methodName ∨ i.name = errorName) := by
  obtain ⟨v, -, content, -, hdecode⟩ := exists_isDecoded h hi
  obtain ⟨decoder, hfind, hcontent⟩ := MethodRegistry.decode_eq_ok_iff.1 hdecode
  unfold Invocation.Settles Invocation.FailsWith
  cases decoder with
  | lenient =>
    have hname : i.name ≠ Echo.methodName := fun hname => by
      cases hfind.symm.trans ((hnames.echo_iff _).2 hname)
    simp only [← Except.ok.inj hcontent, hname, reduceCtorEq, false_or, true_and]
    exact ⟨fun ⟨_, h, _⟩ => h, fun h => ⟨_, h, rfl⟩⟩
  | strict t =>
    have hname : i.name ≠ errorName := fun hname => by
      rw [hname, hnames.error_eq] at hfind
      cases hfind
    obtain ⟨d, -, hd⟩ := map_eq_ok_iff.1 hcontent
    have htype : t = .echo ↔ i.name = Echo.methodName := by simp [← hnames.echo_iff, hfind]
    simp [← hd, hname, htype]

/-- Where echoes are told by the name of the method, the one that is got is the first answer to the call under this
name, if none before it tells that the server failed. -/
theorem firstSettling_echo_iff (hnames : methods.NamesEchoes) (h : ofBytes methods body = .ok x) :
    x.FirstSettling .echo callId i ∧ i.content = ⟨.echo, e⟩ ↔ ∃ earlier later, x.answers = earlier ++ i :: later ∧
      i.callId = callId ∧ i.name = Echo.methodName ∧ i.content = ⟨.echo, e⟩ ∧
      ∀ k ∈ earlier, k.callId = callId → k.name ≠ Echo.methodName ∧ k.name ≠ errorName := by
  have hsettles {k : Invocation (Payload S)} (hk : k ∈ x.answers) := settles_echo_iff hnames h hk
  rw [firstSettling_iff]
  constructor
  · rintro ⟨⟨earlier, later, hanswers, hid, -, hearlier⟩, hi⟩
    have hname := (hsettles (k := i) (by simp [hanswers])).1.1 (congrArg Payload.type hi)
    refine ⟨earlier, later, hanswers, hid, hname, hi, fun k hk hcall => ?_⟩
    have hnot := hearlier k hk hcall
    rw [(hsettles (k := k) (by simp [hanswers, hk])).2] at hnot
    exact not_or.1 hnot
  · rintro ⟨earlier, later, hanswers, hid, hname, hi, hearlier⟩
    refine ⟨⟨earlier, later, hanswers, hid, Or.inl (congrArg Payload.type hi), fun k hk hcall => ?_⟩, hi⟩
    rw [(hsettles (k := k) (by simp [hanswers, hk])).2]
    exact not_or.2 (hearlier k hk hcall)

end Response

/-! ### The command -/

namespace Client

/-- What is shown of the answer `x` to the batch, or else told. -/
def echoShown (x : Response S) : Except Error (Value × Option Meta) :=
  (x.take .echo "0").map fun p => (.ofMap p.1.arguments, some ⟨some p.2.sessionState, none⟩)

theorem echoShown_eq_ok_iff {x : Response S} {v : Value} {told : Option Meta} :
    echoShown x = .ok (v, told) ↔ ∃ i e, (x.FirstSettling .echo "0" i ∧ i.content = ⟨.echo, e⟩) ∧
      v = .ofMap e.arguments ∧ told = some ⟨some x.sessionState, none⟩ := by
  have hget : echoShown x =
      (x.get .echo "0").map fun e => (.ofMap e.arguments, some ⟨some x.sessionState, none⟩) := by
    rw [echoShown, Response.take_eq_map]
    cases x.get .echo "0" <;> rfl
  rw [hget, map_eq_ok_iff]
  simp only [Response.get_eq_ok_iff, Prod.mk.injEq, eq_comm (b := v), eq_comm (b := told)]
  constructor
  · rintro ⟨e, ⟨i, hi⟩, htold⟩
    exact ⟨i, e, hi, htold⟩
  · rintro ⟨i, e, hi, htold⟩
    exact ⟨e, ⟨i, hi⟩, htold⟩

variable (c : Client S) (w : World) (before : Option (Held S)) (log : List Exchange) {texts : List String} {e : Echo}

theorem runIn_showEcho_of_error {failure : Failure} (h : Echo.ofTexts texts = .error failure) :
    (c.showEcho texts).runIn w before log = ⟨.error failure, before, log⟩ := by
  unfold showEcho
  rw [Job.runIn_ofExcept_bind, h]

theorem runIn_showEcho_of_conflict {name : String} (h : Echo.ofTexts texts = .ok e)
    (hconflict : Request.conflict? (.ofMap e.arguments) = some name) :
    (c.showEcho texts).runIn w before log = ⟨.error (.client (.conflictingArgument name)), before, log⟩ := by
  unfold showEcho
  rw [Job.runIn_ofExcept_bind, h]
  dsimp only
  rw [Job.runIn_adapt, Job.runIn_ofExcept_bind, Request.empty_invoke_call, hconflict]
  rfl

theorem executes_showEcho (h : Echo.ofTexts texts = .ok e) (hconflict : Request.conflict? (.ofMap e.arguments) = none) :
    let o := (c.showEcho texts).runIn w before log
    ∃ opened fetched posted result, o.log = log ++ fetched ++ posted ∧ c.ComesBy w before log opened fetched ∧
      c.Executes w (Request.echoing e.arguments) (log ++ fetched) opened posted result ∧
      o.result = (result >>= echoShown).mapError .client := by
  unfold showEcho
  rw [Job.runIn_ofExcept_bind, h]
  dsimp only
  rw [Job.runIn_adapt, Job.runIn_ofExcept_bind, Request.empty_invoke_call, hconflict]
  dsimp only
  rw [Job.runIn_bind]
  obtain ⟨opened, fetched, posted, hlog, hcomes, hexecutes⟩ :=
    executes_execute c w (Request.echoing e.arguments) before log
  generalize (c.execute (Request.echoing e.arguments)).runIn w before log = o at hlog hexecutes
  obtain ⟨result, held, log'⟩ := o
  obtain rfl : log' = log ++ fetched ++ posted := hlog
  cases result with
  | error e => exact ⟨opened, fetched, posted, _, rfl, hcomes, hexecutes, rfl⟩
  | ok x =>
    dsimp only
    rw [Job.runIn_ofExcept_bind]
    refine ⟨opened, fetched, posted, _, ?_, hcomes, hexecutes, ?_⟩
    · cases x.take .echo "0" <;> rfl
    · simp only [ok_bind, echoShown]
      cases x.take .echo "0" <;> rfl

theorem effects_showEcho_of_endpoint {url : String} {s : Session S} (h : Echo.ofTexts texts = .ok e)
    (hconflict : Request.conflict? (.ofMap e.arguments) = none) (hurl : c.endpoint = some url)
    (hs : c.accept (w [] (.http (.get url))) = .ok s) (hcore : Core.uri ∈ s.document.capabilities.keys) :
    ((c.showEcho texts).runIn w none []).log.map (·.effect) = [.http (.get url),
      .http (.post s.document.apiUrl "application/json" (Utf8.encode (Echo.batchText e.arguments)))] := by
  obtain ⟨opened, fetched, posted, result, hlog, hcomes, hexecutes, -⟩ := c.executes_showEcho w none [] h hconflict
  obtain ⟨rfl, rfl⟩ := hcomes.of_endpoint url rfl hurl
  have htext := Request.toText_echoing e.arguments
  have hposted := hexecutes.posted_ne_nil_iff.2 ⟨s, hs, by simpa [Request.echoing] using hcore, _, htext⟩
  rw [hlog, hexecutes.posted_eq hs htext hposted]
  rfl

/-- Nothing is asked if a text is no pair or two of the names are in conflict. Else one call of `Core/echo` with the
last value for each name is posted, and what is shown is what `get` gives for it. -/
theorem showEcho_exact (c : Client S) (texts : List String) (w : World) (before : Option (Held S))
    (log : List Exchange) :
    let o := (c.showEcho texts).runIn w before log
    ((∃ text ∈ texts, '=' ∉ text.toList ∨ text.toList.head? = some '=') → o.log = log ∧
      ∃ earlier text later, texts = earlier ++ text :: later ∧ (∀ t ∈ earlier, Echo.IsPair t) ∧ ¬ Echo.IsPair text ∧
        o.result = .error (Echo.unnamed text)) ∧
    ((∀ text ∈ texts, '=' ∈ text.toList ∧ text.toList.head? ≠ some '=') → ∃ arguments : SortedMap String Value,
      (∀ key v, arguments.find? key = some v ↔ ∃ earlier text later value, texts = earlier ++ text :: later ∧
        Echo.Gives text key value ∧ (∀ t ∈ later, ∀ value, ¬ Echo.Gives t key value) ∧ Echo.IsRead value v) ∧
      ((∃ name, Conflict (.ofMap arguments) name) → o.log = log ∧
        ∃ name, FirstConflict (.ofMap arguments) name ∧ o.result = .error (.client (.conflictingArgument name))) ∧
      ((∀ name, ¬ Conflict (.ofMap arguments) name) → ∃ opened fetched posted,
        o.log = log ++ fetched ++ posted ∧ c.ComesBy w before log opened fetched ∧
        (posted ≠ [] ↔ ∃ s, opened = .ok s ∧ Core.uri ∈ s.document.capabilities.keys) ∧
        (posted = [] → ∃ e, o.result = .error e) ∧
        ∀ s, opened = .ok s → posted ≠ [] →
          let request := .post s.document.apiUrl "application/json" (Utf8.encode (Echo.batchText arguments))
          let answer : Http.Answer := w (log ++ fetched) (.http request)
          posted = [⟨.http request, answer⟩] ∧ ∀ v told, o.result = .ok (v, told) ↔ ∃ response x i e,
            answer = .ok response ∧ response.status = 200 ∧
            Response.ofBytes c.registry.methods response.body = .ok x ∧
            (x.FirstSettling .echo "0" i ∧ i.content = ⟨.echo, e⟩) ∧
            v = .ofMap e.arguments ∧ told = some ⟨some x.sessionState, none⟩)) ∧
    (c.registry.methods.NamesEchoes → ∀ body x i e, Response.ofBytes c.registry.methods body = .ok x →
      (x.FirstSettling .echo "0" i ∧ i.content = ⟨.echo, e⟩ ↔ ∃ earlier later, x.answers = earlier ++ i :: later ∧
        i.callId = "0" ∧ i.name = Echo.methodName ∧ i.content = ⟨.echo, e⟩ ∧
        ∀ k ∈ earlier, k.callId = "0" → k.name ≠ Echo.methodName ∧ k.name ≠ errorName)) := by
  intro o
  refine ⟨fun hbad => ?_, fun hgood => ?_, fun hnames body x i e => Response.firstSettling_echo_iff hnames⟩
  · obtain ⟨text, hmem, htext⟩ := hbad
    have hnot : ¬ Echo.IsPair text := by
      rw [Echo.isPair_iff, not_and_or, not_not]
      exact htext
    cases hread : Echo.ofTexts texts with
    | ok e => exact absurd (Echo.exists_ofTexts_eq_ok_iff.1 ⟨e, hread⟩ text hmem) hnot
    | error failure =>
      obtain ⟨earlier, text, later, htexts, hearlier, hpair, rfl⟩ := Echo.ofTexts_eq_error_iff.1 hread
      have hrun : o = ⟨.error (Echo.unnamed text), before, log⟩ := c.runIn_showEcho_of_error w before log hread
      exact ⟨congrArg (·.log) hrun, earlier, text, later, htexts, hearlier, hpair, congrArg (·.result) hrun⟩
  · obtain ⟨e, hread⟩ := Echo.exists_ofTexts_eq_ok_iff.2 fun text hmem => Echo.isPair_iff.2 (hgood text hmem)
    refine ⟨e.arguments, fun key v => Echo.find?_ofTexts hread, fun hconflict => ?_, fun hfree => ?_⟩
    · obtain ⟨name, hname⟩ := Request.exists_firstConflict_iff.2 hconflict
      have hrun : o = ⟨.error (.client (.conflictingArgument name)), before, log⟩ :=
        c.runIn_showEcho_of_conflict w before log hread (Request.conflict?_eq_some_iff.2 hname)
      exact ⟨congrArg (·.log) hrun, name, hname, congrArg (·.result) hrun⟩
    · obtain ⟨opened, fetched, posted, result, hlog, hcomes, hexecutes, hresult⟩ :=
        c.executes_showEcho w before log hread (Request.conflict?_eq_none_iff.2 hfree)
      have hresult : o.result = _ := hresult
      refine ⟨opened, fetched, posted, hlog, hcomes, ?_, fun hposted => ?_, fun s hopened hposted => ?_⟩
      · rw [hexecutes.posted_ne_nil_iff]
        simp only [Request.toText_echoing]
        simp [Request.echoing]
      · cases result with
        | error e => exact ⟨_, hresult⟩
        | ok x =>
          obtain ⟨request, answer, hone⟩ := hexecutes.exists_posted rfl
          rw [hposted] at hone
          cases hone
      · have hone := hexecutes.posted_eq hopened (Request.toText_echoing _) hposted
        refine ⟨hone, fun v told => ?_⟩
        rw [hresult, hexecutes.result_of_posted hone, mapError_eq_ok_iff, bind_eq_ok_iff]
        simp only [answered_eq_ok_iff, echoShown_eq_ok_iff]
        constructor
        · rintro ⟨x, ⟨response, hanswer, hstatus, hx⟩, i, e, hi, hv, htold⟩
          exact ⟨response, x, i, e, hanswer, hstatus, hx, hi, hv, htold⟩
        · rintro ⟨response, x, i, e, hanswer, hstatus, hx, hi, hv, htold⟩
          exact ⟨x, ⟨response, hanswer, hstatus, hx⟩, i, e, hi, hv, htold⟩

/-- Of several texts for one argument the last counts; its value is no JSON, and so it is taken as it is. -/
theorem showEcho_exact_of_repeated :
    let session := Utf8.encode <|
      "\x7b\"capabilities\":\x7b\"urn:ietf:params:jmap:core\":\x7b\x7d\x7d,\"accounts\":\x7b\x7d," ++
      "\"primaryAccounts\":\x7b\x7d,\"apiUrl\":\"a\"\x7d"
    let body := Utf8.encode "\x7b\"methodResponses\":[[\"Core/echo\",\x7b\"b\":2\x7d,\"0\"]],\"sessionState\":\"s\"\x7d"
    let c : Client Schema.core := ⟨.core, some "e"⟩
    let w := World.scripted [.ok ⟨200, none, session⟩, .ok ⟨200, none, body⟩]
    let o (texts : List String) := (c.showEcho texts).runIn w none []
    ((o ["a=1", "=2"]).log = [] ∧ (o ["a=1", "=2"]).result = .error (Echo.unnamed "=2")) ∧
      ((o ["#a=1", "a=2"]).log = [] ∧
        ∃ name, (o ["#a=1", "a=2"]).result = .error (.client (.conflictingArgument name))) ∧
      ∃ (arguments : SortedMap String Value) (e : Echo), arguments.find? "a" = some (.string "x=y") ∧
        (o ["a=1", "a=x=y"]).log = [⟨.http (.get "e"), .ok ⟨200, none, session⟩⟩,
          ⟨.http (.post "a" "application/json" (Utf8.encode (Echo.batchText arguments))), .ok ⟨200, none, body⟩⟩] ∧
        (o ["a=1", "a=x=y"]).result = .ok (.ofMap e.arguments, some ⟨some "s", none⟩) := by
  intro session body c w o
  have hsession : (c.accept (.ok ⟨200, none, session⟩)).toOption.map (fun s =>
      (s.document.apiUrl, s.document.capabilities.keys)) = some ("a", [Core.uri]) := by
    simp only [session, Utf8.encode_eq_data]
    decide +kernel
  have hbody : (Response.ofBytes c.registry.methods body).toOption.map (fun x =>
      (x.sessionState, x.answers.map fun i => (i.name, i.callId))) = some ("s", [(Echo.methodName, "0")]) := by
    simp only [body, Utf8.encode_eq_data]
    decide +kernel
  obtain ⟨s, hs, hsession⟩ := toOption_map_eq_some_iff.1 hsession
  obtain ⟨hurl, hkeys⟩ := Prod.mk.inj hsession
  obtain ⟨x, hx, hbody⟩ := toOption_map_eq_some_iff.1 hbody
  obtain ⟨hstate, hanswers⟩ := Prod.mk.inj hbody
  refine ⟨?bad, ?conflict, ?posted⟩
  case bad =>
    obtain ⟨hbad, -, -⟩ := showEcho_exact c ["a=1", "=2"] w none []
    obtain ⟨hlog, earlier, text, later, htexts, hearlier, htext, hresult⟩ := hbad ⟨"=2", by simp, .inr rfl⟩
    have hfirst : Echo.IsPair "a=1" := ⟨"a", "1", rfl, by decide, by decide⟩
    have hmem : text ∈ ["a=1", "=2"] := by simp [htexts]
    obtain rfl | rfl : text = "a=1" ∨ text = "=2" := by simpa using hmem
    · exact absurd hfirst htext
    · exact ⟨hlog, hresult⟩
  case conflict =>
    obtain ⟨-, hgood, -⟩ := showEcho_exact c ["#a=1", "a=2"] w none []
    obtain ⟨arguments, hfind, hconflict, -⟩ := hgood (by decide)
    have hreference : Echo.Gives "#a=1" "#a" "1" := ⟨rfl, by decide, by decide⟩
    have hvalue : Echo.Gives "a=2" "a" "2" := ⟨rfl, by decide, by decide⟩
    have hlater : ∀ t ∈ ["a=2"], ∀ value, ¬ Echo.Gives t "#a" value := fun t ht value hgives => by
      obtain rfl := List.mem_singleton.1 ht
      exact absurd (hvalue.key_eq hgives) (by decide)
    have hkey : arguments.find? "#a" = some (Echo.valueOf "1") :=
      (hfind _ _).2 ⟨[], _, _, _, rfl, hreference, hlater, Echo.isRead_iff.2 rfl⟩
    have hgiven : arguments.find? "a" = some (Echo.valueOf "2") :=
      (hfind _ _).2 ⟨["#a=1"], _, [], _, rfl, hvalue, by simp, Echo.isRead_iff.2 rfl⟩
    have hboth : Conflict (.ofMap arguments) "a" :=
      conflict_ofMap_iff.2 ⟨⟨_, hkey⟩, _, hgiven, by decide +kernel⟩
    obtain ⟨hlog, name, -, hresult⟩ := hconflict ⟨"a", hboth⟩
    exact ⟨hlog, name, hresult⟩
  case posted =>
    obtain ⟨-, hgood, hshown⟩ := showEcho_exact c ["a=1", "a=x=y"] w none []
    obtain ⟨arguments, hfind, -, hfree⟩ := hgood (by decide)
    have hfirst : Echo.Gives "a=1" "a" "1" := ⟨rfl, by decide, by decide⟩
    have hsecond : Echo.Gives "a=x=y" "a" "x=y" := ⟨rfl, by decide, by decide⟩
    have hnone : ∀ name, ¬ Conflict (.ofMap arguments) name := by
      intro name hconflict
      obtain ⟨⟨v, hv⟩, -⟩ := conflict_ofMap_iff.1 hconflict
      obtain ⟨earlier, text, later, value, htexts, hgives, -⟩ := (hfind _ _).1 hv
      have hmem : text ∈ ["a=1", "a=x=y"] := by simp [htexts]
      have hname : "#" ++ name = "a" := by
        obtain rfl | rfl : text = "a=1" ∨ text = "a=x=y" := by simpa using hmem
        · exact hfirst.key_eq hgives
        · exact hsecond.key_eq hgives
      simpa using congrArg String.toList hname
    have hread : Echo.IsRead "x=y" (.string "x=y") := Echo.isRead_string (by decide +kernel)
    obtain ⟨opened, fetched, posted, hlog, hcomes, hposted, -, hsent⟩ := hfree hnone
    obtain ⟨rfl, rfl⟩ := hcomes.of_endpoint "e" rfl rfl
    obtain ⟨hone, hresult⟩ := hsent s hs (hposted.2 ⟨s, hs, by simp [hkeys]⟩)
    obtain ⟨i, hi, hpair⟩ := List.map_eq_singleton_iff.1 hanswers
    obtain ⟨hname, hid⟩ := Prod.mk.inj hpair
    have htype : i.content.type = .echo :=
      (Response.settles_echo_iff Registry.namesEchoes_core hx (by simp [hi])).1.2 hname
    obtain ⟨e, he⟩ : ∃ e, i.content = ⟨.echo, e⟩ := by
      obtain ⟨name, ⟨t, e⟩, callId⟩ := i
      obtain rfl : t = .echo := htype
      exact ⟨e, rfl⟩
    have hsettling := (hshown Registry.namesEchoes_core body x i e hx).2
      ⟨[], [], hi, hid, hname, he, fun k hk => absurd hk List.not_mem_nil⟩
    refine ⟨arguments, e, (hfind _ _).2 ⟨["a=1"], _, [], _, rfl, hsecond, by simp, hread⟩, ?_, ?_⟩
    · rw [hlog, hone, hurl]
      rfl
    · exact (hresult _ _).2 ⟨_, x, i, e, rfl, rfl, hx, hsettling, rfl, by rw [hstate]⟩

/-- Arrays in each other can be too many for what is typed to be read as JSON, and then it is sent as a string. What is
shown need not be what was given for `Core/echo` either, if another name is registered for echoes too. -/
theorem showEcho_ne_of_nested :
    let session := Utf8.encode <|
      "\x7b\"capabilities\":\x7b\"urn:ietf:params:jmap:core\":\x7b\x7d\x7d,\"accounts\":\x7b\x7d," ++
      "\"primaryAccounts\":\x7b\x7d,\"apiUrl\":\"a\"\x7d"
    let body := Utf8.encode <|
      "\x7b\"methodResponses\":[[\"x/y\",\x7b\"b\":2\x7d,\"0\"],[\"Core/echo\",\x7b\"c\":3\x7d,\"0\"]]," ++
      "\"sessionState\":\"s\"\x7d"
    let v : Value := .ofTree ((fun t => .array [t])^[127] (.array []))
    let text (v : Value) := Echo.batchText (.ofList [("x", v)])
    let w := World.scripted [.ok ⟨200, none, session⟩, .ok ⟨200, none, body⟩]
    let c : Client Schema.core := ⟨.core, some "e"⟩
    let c' : Client Schema.core := ⟨Registry.core.registerMethod "x/y" .echo, some "e"⟩
    (((c.showEcho ["x=" ++ v.print]).runIn w none []).log.map (·.effect) =
        [.http (.get "e"), .http (.post "a" "application/json" (Utf8.encode (text (.string v.print))))] ∧
      text (.string v.print) ≠ text v) ∧
      ((c'.showEcho ["a=1"]).runIn w none []).result.toOption.map (·.1.print) = some "\x7b\"b\":2\x7d" := by
  intro session body v text w c c'
  have hother : ((c'.showEcho ["a=1"]).runIn w none []).result.toOption.map (·.1.print) =
      some "\x7b\"b\":2\x7d" := by
    simp only [w, session, body, Utf8.encode_eq_data]
    decide +kernel
  have hread : Echo.ofTexts ["x=" ++ v.print] = .ok ⟨.ofList [("x", .string v.print)]⟩ := by
    have hgives : Echo.Gives ("x=" ++ v.print) "x" v.print := ⟨rfl, by decide, by decide⟩
    have hvalue : Echo.valueOf v.print = .string v.print :=
      (Echo.isRead_iff.1 (Echo.isRead_string (by rw [Utf8.encode_eq_data]; decide +kernel))).symm
    rw [Echo.ofTexts, List.mapM_cons, Echo.pairOfText_of_gives hgives, hvalue]
    rfl
  have hsession : (c.accept (.ok ⟨200, none, session⟩)).toOption.map (fun s =>
      (s.document.apiUrl, s.document.capabilities.keys)) = some ("a", [Core.uri]) := by
    simp only [session, Utf8.encode_eq_data]
    decide +kernel
  obtain ⟨s, hs, hsession⟩ := toOption_map_eq_some_iff.1 hsession
  obtain ⟨hurl, hkeys⟩ := Prod.mk.inj hsession
  refine ⟨⟨?_, fun heq => ?_⟩, hother⟩
  · have heffects := c.effects_showEcho_of_endpoint w hread (Request.conflict?_single _ _) rfl hs (by simp [hkeys])
    rw [heffects, hurl]
  · exact absurd (congrArg String.length (Echo.batchText_single_inj heq))
      (Value.length_lt_length_print_string v.print).ne'

end Client

end JmapClient
