import JmapClient.Blob
import JmapClient.Notes
import JmapClient.Proofs.CallIds
import JmapClient.Proofs.Forms
import JmapClient.Proofs.Queueing
import JmapClient.Records.Changes
import JmapClient.Records.Get
import JmapClient.Records.Query

/-!
# Calls of the standard methods

A call of a standard method is built in steps (`StandardCall`), of which the last that sets an argument decides what is
given for it (`StandardCall.given`). Nothing is ever given both ways, so the call is queued in every batch if all
identifiers in it are valid, and else it is refused because it cannot be written (`StandardCall.invoke_exact`).
-/

namespace JmapClient

open Json

variable {τ C : Type}

/-! ### Building in steps -/

section Steps

variable {σ γ β : Type}

/-- What the last of `steps` sets that set something. -/
def lastSet (set? : σ → Option β) (steps : List σ) : Option β := (steps.filterMap set?).getLast?

/-- The entries that `steps` put into a map, if there are any. -/
def entriesSet {κ ν : Type} [TextKey κ] (set? : σ → Option (κ × ν)) (steps : List σ) : Option (SortedMap κ ν) :=
  let entries := steps.filterMap set?
  if entries.isEmpty then none else some (.ofList entries)

variable {apply : γ → σ → γ}

/-- A `field` that every step leaves as it is stays. -/
theorem foldl_eq_self {field : γ → β} (h : ∀ c s, field (apply c s) = field c) (c : γ) (steps : List σ) :
    field (steps.foldl apply c) = field c := by
  induction steps using List.reverseRecOn with
  | nil => rfl
  | append_singleton steps s ih => rw [List.foldl_concat, h, ih]

/-- A `field` that some steps set, and that the others leave as it is, is as the last step has set it. -/
theorem foldl_eq_lastSet {field : γ → Option β} {set? : σ → Option β}
    (h : ∀ c s, field (apply c s) = (set? s).or (field c)) {c : γ} (hc : field c = none) (steps : List σ) :
    field (steps.foldl apply c) = lastSet set? steps := by
  induction steps using List.reverseRecOn with
  | nil => exact hc
  | append_singleton steps s ih =>
    rw [List.foldl_concat, h, ih, lastSet, lastSet, List.filterMap_append, List.getLast?_append]
    cases hs : set? s <;> simp [hs]

variable {κ ν : Type} [TextKey κ]

/-- A `field` that some steps put an entry into, and that the others leave as it is, is made of the entries. -/
theorem foldl_eq_ofList {field : γ → SortedMap κ ν} {set? : σ → Option (κ × ν)}
    (h : ∀ c s, field (apply c s) = (set? s).elim (field c) fun e => (field c).insert e.1 e.2) {c : γ}
    (hc : field c = ∅) (steps : List σ) : field (steps.foldl apply c) = .ofList (steps.filterMap set?) := by
  induction steps using List.reverseRecOn with
  | nil => exact hc
  | append_singleton steps s ih =>
    rw [List.foldl_concat, h, ih, List.filterMap_append]
    cases hs : set? s with
    | none => simp [hs]
    | some e => simp [hs, SortedMap.ofList_concat]

theorem isEmpty_ofList (es : List (κ × ν)) : (SortedMap.ofList es).isEmpty = es.isEmpty := by
  induction es using List.reverseRecOn with
  | nil => rfl
  | append_singleton es e =>
    have hinsert : insertEntry e.1 e.2 (SortedMap.ofList es).entries ≠ [] := by
      cases (SortedMap.ofList es).entries with
      | nil => simp [insertEntry]
      | cons d ds =>
        unfold insertEntry
        split_ifs <;> simp
    rw [SortedMap.ofList_concat, SortedMap.isEmpty, SortedMap.insert, List.isEmpty_eq_false_iff.2 hinsert]
    simp

/-! What is written of such fields. -/

theorem Form.gives_kept [Writable β] (f : Form β) {name : String} {field : γ → β}
    (h : ∀ c s, field (apply c s) = field c) (c : γ) (steps : List σ) :
    Gives (member name (field (steps.foldl apply c))) (name, some (f.given (field c))) := by
  rw [foldl_eq_self h]
  exact f.gives_member name _

theorem Form.gives_lastSet [Writable β] (f : Form β) {name : String} {field : γ → Option β} {set? : σ → Option β}
    (h : ∀ c s, field (apply c s) = (set? s).or (field c)) {c : γ} (hc : field c = none) (steps : List σ) :
    Gives (optionalMember name (field (steps.foldl apply c))) (name, (lastSet set? steps).map f.given) := by
  rw [foldl_eq_lastSet h hc]
  exact f.gives_optionalMember name _

theorem Form.gives_lastSet_argument [Writable β] (f : Form β) {name : String} {field : γ → Option (Argument β)}
    {set? : σ → Option (Argument β)} (h : ∀ c s, field (apply c s) = (set? s).or (field c)) {c : γ}
    (hc : field c = none) (steps : List σ) :
    Gives (optionalArgument name (field (steps.foldl apply c))) (name, (lastSet set? steps).map f.argument) := by
  rw [foldl_eq_lastSet h hc]
  exact f.gives_optionalArgument name _

theorem Form.gives_entriesSet [WritableKey κ] [Writable ν] (f : Form (SortedMap κ ν)) {name : String}
    {field : γ → SortedMap κ ν} {set? : σ → Option (κ × ν)}
    (h : ∀ c s, field (apply c s) = (set? s).elim (field c) fun e => (field c).insert e.1 e.2) {c : γ}
    (hc : field c = ∅) (steps : List σ) :
    Gives (SetRecords.mapMember name (field (steps.foldl apply c))) (name, (entriesSet set? steps).map f.given) := by
  have hgives := Form.gives_mapMember f name (field (steps.foldl apply c))
  rw [foldl_eq_ofList h hc, isEmpty_ofList] at hgives
  rw [foldl_eq_ofList h hc, entriesSet]
  split_ifs at hgives ⊢ with hempty
  · exact hgives
  · exact hgives

end Steps

/-- A step in building a call to fetch records. -/
inductive GetStep
  | withIds (ids : Argument (List Id))
  | withProperties (properties : Argument (List String))

/-- Carries out a step. -/
def GetStep.apply (g : Get) : GetStep → Get
  | .withIds ids => g.withIds ids
  | .withProperties properties => g.withProperties properties

/-- A step in building a call to change records. -/
inductive SetStep (τ : Type)
  | withState (state : String)
  | creating (creationId : String) (record : τ)
  | updating (id : Id) (patch : Patch)
  | destroying (ids : Argument (List Id))

/-- Carries out a step. -/
def SetStep.apply (s : SetRecords τ) : SetStep τ → SetRecords τ
  | .withState state => s.withState state
  | .creating creationId record => s.creating creationId record
  | .updating id patch => s.updating id patch
  | .destroying ids => s.destroying ids

/-- A step in building a search. -/
inductive QueryStep (C : Type)
  | withFilter (f : Filter C)
  | sortedBy (cs : List Comparator)
  | startingAt (n : Int64)
  | anchoredAt (id : Id) (offset : Int64)
  | withLimit (n : UInt64)
  | countingTotal (b : Bool)

/-- Carries out a step. -/
def QueryStep.apply (q : Query C) : QueryStep C → Query C
  | .withFilter f => q.withFilter f
  | .sortedBy cs => q.sortedBy cs
  | .startingAt n => q.startingAt n
  | .anchoredAt id offset => q.anchoredAt id offset
  | .withLimit n => q.withLimit n
  | .countingTotal b => q.countingTotal b

/-- A step in building a call that asks how results have changed. -/
inductive QueryChangesStep
  | withMaxChanges (n : UInt64)
  | upTo (id : Id)

/-- Carries out a step. -/
def QueryChangesStep.apply (q : QueryChanges C) : QueryChangesStep → QueryChanges C
  | .withMaxChanges n => q.withMaxChanges n
  | .upTo id => q.upTo id

/-- A call of a standard method, as it is built. -/
inductive StandardCall (τ C : Type)
  | get (accountId : Id) (steps : List GetStep)
  | changes (accountId : Id) (sinceState : String) (limits : List UInt64)
  | set (accountId : Id) (steps : List (SetStep τ))
  | query (accountId : Id) (steps : List (QueryStep C))
  | queryChanges (accountId : Id) (search : List (QueryStep C)) (sinceQueryState : String)
      (steps : List QueryChangesStep)
  | blobCopy (copy : BlobCopy)

namespace StandardCall

/-- The call that is built. -/
def method [RecordType τ C] [Writable C] : StandardCall τ C → MethodCall
  | .get accountId steps => (steps.foldl GetStep.apply (.all accountId)).call τ
  | .changes accountId sinceState limits =>
    (limits.foldl Changes.withMaxChanges (.since accountId sinceState)).call τ
  | .set accountId steps => (steps.foldl SetStep.apply (.of accountId : SetRecords τ)).call
  | .query accountId steps => (steps.foldl QueryStep.apply (.all accountId : Query C)).call τ
  | .queryChanges accountId search sinceQueryState steps =>
    (steps.foldl QueryChangesStep.apply
      (.of (search.foldl QueryStep.apply (.all accountId : Query C)) sinceQueryState)).call τ
  | .blobCopy copy => copy.call

/-- The names of a method's arguments. -/
def names : StandardCall τ C → List String
  | .get _ _ => ["accountId", "ids", "properties"]
  | .changes _ _ _ => ["accountId", "sinceState", "maxChanges"]
  | .set _ _ => ["accountId", "ifInState", "create", "update", "destroy"]
  | .query _ _ =>
    ["accountId", "filter", "sort", "position", "anchor", "anchorOffset", "limit", "calculateTotal"]
  | .queryChanges _ _ _ _ =>
    ["accountId", "filter", "sort", "sinceQueryState", "maxChanges", "upToId", "calculateTotal"]
  | .blobCopy _ => ["fromAccountId", "accountId", "blobIds"]

section Given

variable [Writable τ] [Writable C] (records : Form τ) (conditions : Form C)

/-- What is given for each argument, if anything is. -/
def given : StandardCall τ C → List (String × Option Given)
  | .get accountId steps =>
    [("accountId", some (Form.id.given accountId)),
      ("ids", (lastSet (fun | .withIds ids => some ids | _ => none) steps).map Form.id.list.argument),
      ("properties",
        (lastSet (fun | .withProperties ps => some ps | _ => none) steps).map Form.string.list.argument)]
  | .changes accountId sinceState limits =>
    [("accountId", some (Form.id.given accountId)),
      ("sinceState", some (Form.string.given sinceState)),
      ("maxChanges", (lastSet some limits).map Form.uint64.given)]
  | .set accountId steps =>
    [("accountId", some (Form.id.given accountId)),
      ("ifInState", (lastSet (fun | .withState state => some state | _ => none) steps).map Form.string.given),
      ("create",
        (entriesSet (fun | .creating id record => some (id, record) | _ => none) steps).map
          (records.map faithfulKey_string).given),
      ("update",
        (entriesSet (fun | .updating id patch => some (id, patch) | _ => none) steps).map
          ((Form.value.map faithfulKey_string).map faithfulKey_id).given),
      ("destroy", (lastSet (fun | .destroying ids => some ids | _ => none) steps).map Form.id.list.argument)]
  | .query accountId steps =>
    [("accountId", some (Form.id.given accountId)),
      ("filter", (lastSet (fun | .withFilter f => some f | _ => none) steps).map conditions.filter.given),
      ("sort", (lastSet (fun | .sortedBy cs => some cs | _ => none) steps).map Form.comparator.list.given),
      ("position", (lastSet (fun | .startingAt n => some n | _ => none) steps).map Form.int64.given),
      ("anchor", (lastSet (fun | .anchoredAt id _ => some id | _ => none) steps).map Form.id.given),
      ("anchorOffset", (lastSet (fun | .anchoredAt _ n => some n | _ => none) steps).map Form.int64.given),
      ("limit", (lastSet (fun | .withLimit n => some n | _ => none) steps).map Form.uint64.given),
      ("calculateTotal", (lastSet (fun | .countingTotal b => some b | _ => none) steps).map Form.bool.given)]
  | .queryChanges accountId search sinceQueryState steps =>
    [("accountId", some (Form.id.given accountId)),
      ("filter", (lastSet (fun | .withFilter f => some f | _ => none) search).map conditions.filter.given),
      ("sort", (lastSet (fun | .sortedBy cs => some cs | _ => none) search).map Form.comparator.list.given),
      ("sinceQueryState", some (Form.string.given sinceQueryState)),
      ("maxChanges", (lastSet (fun | .withMaxChanges n => some n | _ => none) steps).map Form.uint64.given),
      ("upToId", (lastSet (fun | .upTo id => some id | _ => none) steps).map Form.id.given),
      ("calculateTotal", none)]
  | .blobCopy copy =>
    [("fromAccountId", some (Form.id.given copy.fromAccountId)), ("accountId", some (Form.id.given copy.accountId)),
      ("blobIds", some (Form.id.list.given copy.blobIds))]

theorem map_fst_given (c : StandardCall τ C) : (c.given records conditions).map (·.1) = c.names := by
  cases c <;> rfl

theorem nodup_names (c : StandardCall τ C) : ((c.given records conditions).map (·.1)).Nodup := by
  rw [map_fst_given]
  cases c <;> (rw [names]; decide)

/-- No argument's name begins with a `#`. -/
theorem head?_ne_of_mem_given (c : StandardCall τ C) :
    ∀ d ∈ c.given records conditions, d.1.toList.head? ≠ some '#' := by
  have hall : ∀ name ∈ c.names, name.toList.head? ≠ some '#' := by
    cases c <;> (rw [names]; decide)
  intro d hd
  exact hall d.1 (c.map_fst_given records conditions ▸ List.mem_map_of_mem hd)

end Given

/-! ### What is written of a call -/

section Written

variable [RecordType τ C] [Writable C] (records : Form τ) (conditions : Form C)

/-- What is `given` for the arguments of a call is what is written of its parts. -/
theorem exists_parts (c : StandardCall τ C) :
    ∃ parts, c.method.arguments = MethodCall.argumentsOf parts ∧
      List.Forall₂ Gives parts (c.given records conditions) := by
  cases c with
  | get accountId steps =>
    exact ⟨_, rfl, .cons (Form.id.gives_kept (fun c s => by cases s <;> rfl) _ _) <|
      .cons (Form.id.list.gives_lastSet_argument (fun c s => by cases s <;> rfl) rfl _) <|
      .cons (Form.string.list.gives_lastSet_argument (fun c s => by cases s <;> rfl) rfl _) .nil⟩
  | changes accountId sinceState limits =>
    exact ⟨_, rfl, .cons (Form.id.gives_kept (fun _ _ => by rfl) _ _) <|
      .cons (Form.string.gives_kept (fun _ _ => by rfl) _ _) <|
      .cons (Form.uint64.gives_lastSet (fun _ _ => by rfl) rfl _) .nil⟩
  | set accountId steps =>
    exact ⟨_, rfl, .cons (Form.id.gives_kept (fun c s => by cases s <;> rfl) _ _) <|
      .cons (Form.string.gives_lastSet (fun c s => by cases s <;> rfl) rfl _) <|
      .cons ((records.map _).gives_entriesSet (fun c s => by cases s <;> rfl) (by rfl) _) <|
      .cons (((Form.value.map _).map _).gives_entriesSet (fun c s => by cases s <;> rfl) (by rfl) _) <|
      .cons (Form.id.list.gives_lastSet_argument (fun c s => by cases s <;> rfl) rfl _) .nil⟩
  | query accountId steps =>
    exact ⟨_, rfl, .cons (Form.id.gives_kept (fun c s => by cases s <;> rfl) _ _) <|
      .cons (conditions.filter.gives_lastSet (fun c s => by cases s <;> rfl) rfl _) <|
      .cons (Form.comparator.list.gives_lastSet (fun c s => by cases s <;> rfl) rfl _) <|
      .cons (Form.int64.gives_lastSet (fun c s => by cases s <;> rfl) rfl _) <|
      .cons (Form.id.gives_lastSet (fun c s => by cases s <;> rfl) rfl _) <|
      .cons (Form.int64.gives_lastSet (fun c s => by cases s <;> rfl) rfl _) <|
      .cons (Form.uint64.gives_lastSet (fun c s => by cases s <;> rfl) rfl _) <|
      .cons (Form.bool.gives_lastSet (fun c s => by cases s <;> rfl) rfl _) .nil⟩
  | queryChanges accountId search sinceQueryState steps =>
    let q : Query C := search.foldl QueryStep.apply (.all accountId)
    let qc := steps.foldl QueryChangesStep.apply (.of q sinceQueryState)
    have haccountId : q.accountId = accountId := foldl_eq_self (fun c s => by cases s <;> rfl) _ search
    have haccountId' : qc.accountId = q.accountId := foldl_eq_self (fun c s => by cases s <;> rfl) _ steps
    have hfilter : qc.filter = q.filter := foldl_eq_self (fun c s => by cases s <;> rfl) _ steps
    have hsort : qc.sort = q.sort := foldl_eq_self (fun c s => by cases s <;> rfl) _ steps
    have htotal : qc.calculateTotal = none := foldl_eq_self (fun c s => by cases s <;> rfl) _ steps
    refine ⟨_, rfl, .cons ?_ <| .cons ?_ <| .cons ?_ <|
      .cons (Form.string.gives_kept (fun c s => by cases s <;> rfl) _ _) <|
      .cons (Form.uint64.gives_lastSet (fun c s => by cases s <;> rfl) rfl _) <|
      .cons (Form.id.gives_lastSet (fun c s => by cases s <;> rfl) rfl _) <| .cons ?_ .nil⟩
    · show Gives (member "accountId" qc.accountId) _
      rw [haccountId', haccountId]
      exact Form.id.gives_member _ _
    · show Gives (optionalMember "filter" qc.filter) _
      rw [hfilter]
      exact conditions.filter.gives_lastSet (fun c s => by cases s <;> rfl) rfl _
    · show Gives (optionalMember "sort" qc.sort) _
      rw [hsort]
      exact Form.comparator.list.gives_lastSet (fun c s => by cases s <;> rfl) rfl _
    · show Gives (optionalMember "calculateTotal" qc.calculateTotal) _
      rw [htotal]
      exact Form.bool.gives_optionalMember _ none
  | blobCopy copy =>
    exact ⟨_, rfl, .cons (Form.id.gives_member _ _) <| .cons (Form.id.gives_member _ _) <|
      .cons (Form.id.list.gives_member _ _) .nil⟩

/-- The arguments of a call are written if and only if the identifiers in them are `Valid`. -/
theorem guards_arguments (c : StandardCall τ C) :
    Guards c.method.arguments (Given.idsOf (c.given records conditions))
      (.ofTree (.object (Given.members (c.given records conditions)))) := by
  obtain ⟨parts, harguments, hgives⟩ := c.exists_parts records conditions
  rw [harguments]
  exact (guards_writeRecord hgives).map Value.ofTree

/-- The members of what is written are what was `given`, and nothing was given both as it is and as a reference. -/
theorem exists_members?_eq (c : StandardCall τ C) :
    ∃ arguments, (Value.ofTree (.object (Given.members (c.given records conditions)))).members? = some arguments ∧
      (∀ k u, arguments.find? k = some u ↔
        ∃ name g, (name, some g) ∈ c.given records conditions ∧ k = g.key name ∧ u = .ofTree g.tree) ∧
      ∀ name, ¬ (arguments.contains name ∧ arguments.contains ("#" ++ name)) := by
  have hn := c.nodup_names records conditions
  have hplain := c.head?_ne_of_mem_given records conditions
  obtain ⟨arguments, harguments, hfind⟩ := Value.exists_members?_ofTree (Given.nodup_members hn hplain)
  have hgiven (k : String) (u : Value) : arguments.find? k = some u ↔
      ∃ name g, (name, some g) ∈ c.given records conditions ∧ k = g.key name ∧ u = .ofTree g.tree := by
    rw [hfind]
    simp only [Given.mem_members_iff]
    constructor
    · rintro ⟨t, ⟨name, g, hmem, rfl, rfl⟩, rfl⟩
      exact ⟨name, g, hmem, rfl, rfl⟩
    · rintro ⟨name, g, hmem, rfl, rfl⟩
      exact ⟨g.tree, ⟨name, g, hmem, rfl, rfl⟩, rfl⟩
  refine ⟨arguments, harguments, hgiven, fun name hboth => ?_⟩
  simp only [SortedMap.contains_eq_isSome_find?, Option.isSome_iff_exists, hgiven] at hboth
  obtain ⟨⟨_, n, g, hg, hname, -⟩, _, n', g', hg', hname', -⟩ := hboth
  rw [hname] at hname'
  exact Given.key_ne_of_mem hn hplain hg hg' hname'.symm

/-- No call is refused because an argument is given both ways (`conflict?`). -/
theorem conflict?_eq_none (c : StandardCall τ C) :
    Request.conflict? (.ofTree (.object (Given.members (c.given records conditions)))) = none := by
  obtain ⟨arguments, harguments, -, hnot⟩ := c.exists_members?_eq records conditions
  rw [Request.conflict?_eq_none_iff]
  rintro name ⟨ms, hms, hkey, v, hv, -⟩
  obtain rfl := Option.some.inj (harguments.symm.trans hms)
  refine hnot name ⟨?_, SortedMap.contains_iff.2 hkey⟩
  rw [SortedMap.contains_eq_isSome_find?, hv, Option.isSome_some]

end Written

/-- A standard call is never refused for an argument given both ways. It is queued if and only if the ids in what is
`given` are `Valid`, and its arguments are what was given and no more. -/
theorem invoke_exact [RecordType τ C] [Writable C] (records : Form τ) (conditions : Form C) (r : Request)
    (c : StandardCall τ C) :
    let given := c.given records conditions
    (∀ name, r.invoke c.method ≠ .error (.conflictingArgument name)) ∧
    ((∃ r' callId, r.invoke c.method = .ok (r', callId)) ↔ ∀ id ∈ Given.idsOf given, id.Valid) ∧
    ((∃ id ∈ Given.idsOf given, ¬ id.Valid) → ∃ p, r.invoke c.method = .error (.json p) ∧
      (Request.queue c.method).run r = .error (.json p) r) ∧
    ∀ r' callId, r.invoke c.method = .ok (r', callId) →
      ∃ v arguments, r' = r.push c.method v callId ∧ v.members? = some arguments ∧
        (∀ k u, arguments.find? k = some u ↔
          ∃ name g, (name, some g) ∈ given ∧ k = g.key name ∧ u = .ofTree g.tree) ∧
        ∀ name, ¬ (arguments.contains name ∧ arguments.contains ("#" ++ name)) := by
  intro given
  have hguards := c.guards_arguments records conditions
  have hfresh := r.hexNumeral_nextNumber_not_mem
  have hconflict := c.conflict?_eq_none records conditions
  refine ⟨fun name hname => ?_, ?_, ?_, ?_⟩
  · obtain ⟨-, v, hv, hfirst⟩ := Request.invokeAs_eq_conflictingArgument_iff.1 hname
    obtain rfl := hguards.eq_of_eq_ok hv
    exact Request.conflict?_eq_none_iff.1 hconflict name hfirst.1
  · rw [← hguards.exists_ok_iff]
    constructor
    · rintro ⟨r', callId, h⟩
      obtain ⟨-, -, v, hv, -⟩ := Request.invokeAs_eq_ok_iff.1 h
      exact ⟨v, hv⟩
    · rintro ⟨v, hv⟩
      obtain rfl := hguards.eq_of_eq_ok hv
      exact ⟨_, _, Request.invokeAs_eq_ok_iff.2 ⟨hfresh, rfl, _, hv, hconflict, rfl⟩⟩
  · rintro ⟨id, hid, hinvalid⟩
    cases harguments : c.method.arguments with
    | ok v => exact absurd (hguards.valid v harguments id hid) hinvalid
    | error p =>
      have hjson : r.invoke c.method = .error (.json p) := Request.invokeAs_eq_json_iff.2 ⟨hfresh, harguments⟩
      refine ⟨p, hjson, ?_⟩
      rw [Request.run_queue, hjson]
      rfl
  · intro r' callId h
    obtain ⟨-, rfl, v, hv, -, rfl⟩ := Request.invokeAs_eq_ok_iff.1 h
    obtain rfl := hguards.eq_of_eq_ok hv
    obtain ⟨arguments, harguments, hrest⟩ := c.exists_members?_eq records conditions
    exact ⟨_, arguments, rfl, harguments, hrest⟩

end StandardCall

/-! ### Calls on notes -/

namespace Notes

/-- Notes hold the identifiers of their folders, and their own if they have one. -/
def Note.form : Form Note :=
  .record (fun n => [("id", n.id.map Form.id.given), ("title", some (Form.string.given n.title)),
      ("tags", if n.tags.isEmpty then none else some (Form.string.list.given n.tags)),
      ("createdAt", n.createdAt.map (Form.plain (fun u => .string u.print) fun _ => rfl).given),
      ("dueAt", n.dueAt.map (Form.plain (fun d => .string d.print) fun _ => rfl).given),
      ("folderIds", n.folderIds.map (Form.bool.map faithfulKey_id).given)])
    fun n => by
      refine ⟨_, rfl, .cons (Form.id.gives_optionalMember _ _) <| .cons (Form.string.gives_member _ _) <|
        .cons ?_ <| .cons (Form.gives_optionalMember _ _ _) <| .cons (Form.gives_optionalMember _ _ _) <|
        .cons (Form.gives_optionalMember _ _ _) .nil⟩
      split_ifs
      · exact .ok []
      · exact Form.string.list.gives_member _ _

/-- Conditions on notes hold the identifier of a folder, if they ask for one. -/
def NoteFilter.form : Form NoteFilter :=
  .record (fun f => [("titleContains", f.titleContains.map Form.string.given), ("inFolder", f.inFolder.map Form.id.given),
      ("minSize", f.minSize.map Form.uint64.given)])
    fun _ => ⟨_, rfl, .cons (Form.string.gives_optionalMember _ _) <| .cons (Form.id.gives_optionalMember _ _) <|
      .cons (Form.uint64.gives_optionalMember _ _) .nil⟩

end Notes

open Notes in
/-- A search for the notes in a folder is refused if the folder's identifier is not valid. Records are fetched by a
reference, though they were to be fetched by an identifier that is not valid before. -/
theorem StandardCall.invoke_exact_of_notes :
    let condition : NoteFilter := { titleContains := none, inFolder := some ⟨"no id"⟩, minSize := none }
    let query : StandardCall Note NoteFilter := .query ⟨"A"⟩ [.withFilter (.condition condition), .withLimit 1]
    let ref : ResultReference := ⟨"0", "Note/query", "/ids"⟩
    let get : StandardCall Note NoteFilter := .get ⟨"A"⟩ [.withIds (.value [⟨"no id"⟩]), .withIds (.reference ref)]
    (∃ p, (Request.queue query.method).run ∅ = .error (.json p) ∅) ∧
      ∃ r' callId v arguments, Request.invoke ∅ get.method = .ok (r', callId) ∧
        r' = Request.push ∅ get.method v callId ∧ v.members? = some arguments ∧ arguments.find? "ids" = none := by
  intro condition query ref get
  constructor
  · obtain ⟨-, -, hrefused, -⟩ := invoke_exact Note.form NoteFilter.form ∅ query
    have hinvalid : ∃ id ∈ Given.idsOf (query.given Note.form NoteFilter.form), ¬ id.Valid := by
      simp only [← Id.fault?_eq_none_iff]
      decide
    obtain ⟨p, -, hp⟩ := hrefused hinvalid
    exact ⟨p, hp⟩
  · obtain ⟨-, hqueued, -, hmembers⟩ := invoke_exact Note.form NoteFilter.form ∅ get
    have hvalid : ∀ id ∈ Given.idsOf (get.given Note.form NoteFilter.form), id.Valid := by
      simp only [← Id.fault?_eq_none_iff]
      decide
    obtain ⟨r', callId, h⟩ := hqueued.2 hvalid
    obtain ⟨v, arguments, hr', harguments, hfind, hnot⟩ := hmembers r' callId h
    have hgiven : ("ids", some (Form.id.list.argument (.reference ref))) ∈ get.given Note.form NoteFilter.form :=
      List.mem_cons_of_mem _ List.mem_cons_self
    have hreference := (hfind "#ids" _).2 ⟨"ids", _, hgiven, rfl, rfl⟩
    have hboth := hnot "ids"
    simp only [SortedMap.contains_eq_isSome_find?] at hboth
    refine ⟨r', callId, v, arguments, h, hr', harguments, Option.not_isSome_iff_eq_none.1 fun hvalue => ?_⟩
    exact hboth ⟨hvalue, Option.isSome_iff_exists.2 ⟨_, hreference⟩⟩

end JmapClient
