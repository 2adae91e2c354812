import JmapClient.Session
import JmapClient.Proofs.Json.Faithful
import JmapClient.Proofs.Percent
import JmapClient.Proofs.Utf8

/-!
# Templates that cannot be expanded

A template cannot be expanded if an expression in it has a character that is not ASCII, or asks for so many
octets of a value that they end within a character (`UriTemplate.expand?_eq_none_iff`). Every other template
can be expanded, whatever the values of the variables are. So it is known for which sessions and arguments
there is no URL to upload to or to download from (`Session.urls_broken_iff`).
-/

namespace JmapClient

open Utf8

namespace UriTemplate

/-! ### Expressions that can be read -/

theorem Variable.ofText?_eq_none_iff {cs : List Char} :
    Variable.ofText? cs = none ↔ ∃ c ∈ cs, 0x80 ≤ c.toNat := by
  unfold Variable.ofText?
  by_cases hall : cs.all (·.toNat < 0x80)
  · have hascii : ¬ ∃ c ∈ cs, 0x80 ≤ c.toNat := by
      rintro ⟨c, hc, hfar⟩
      have hnear := List.all_eq_true.1 hall c hc
      rw [decide_eq_true_iff] at hnear
      omega
    simp only [hall, Bool.not_true, Bool.false_eq_true, if_false, hascii, iff_false]
    split_ifs
    · simp
    · cases cs.dropWhile (· ≠ ':') <;> simp
  · have hforeign : ∃ c ∈ cs, 0x80 ≤ c.toNat := by
      simpa using hall
    simp [hall, hforeign]

theorem flatten_splitCommas (cs : List Char) : (splitCommas cs).flatten = cs.filter (· ≠ ',') := by
  induction cs with
  | nil => rfl
  | cons c cs ih =>
    unfold splitCommas
    by_cases hc : c = ','
    · rw [if_pos hc, List.flatten_cons, List.nil_append, ih, List.filter_cons_of_neg (by simpa using hc)]
    · rw [if_neg hc, List.filter_cons_of_pos (by simpa using hc), ← ih]
      cases splitCommas cs <;> simp

/-- An operator is written in ASCII. -/
theorem lt_of_formOf?_eq_some {c : Char} {f : Form} (h : formOf? c = some f) : c.toNat < 0x80 := by
  unfold formOf? at h
  split at h
  case h_8 => cases h
  all_goals decide

theorem Expression.ofText?_eq_none_iff {cs : List Char} :
    Expression.ofText? cs = none ↔ ∃ c ∈ cs, 0x80 ≤ c.toNat := by
  have hnames (names : List Char) :
      (splitCommas names).mapM Variable.ofText? = none ↔ ∃ c ∈ names, 0x80 ≤ c.toNat := by
    have hmem (c : Char) : (∃ part ∈ splitCommas names, c ∈ part) ↔ c ∈ names ∧ c ≠ ',' := by
      rw [← List.mem_flatten, flatten_splitCommas, List.mem_filter, decide_eq_true_iff]
    simp only [mapM_eq_none_iff, Variable.ofText?_eq_none_iff]
    constructor
    · rintro ⟨part, hpart, c, hc, hfar⟩
      exact ⟨c, ((hmem c).1 ⟨part, hpart, hc⟩).1, hfar⟩
    · rintro ⟨c, hc, hfar⟩
      have hne : c ≠ ',' := by
        rintro rfl
        exact absurd hfar (by decide)
      obtain ⟨part, hpart, hc⟩ := (hmem c).2 ⟨hc, hne⟩
      exact ⟨part, hpart, c, hc, hfar⟩
  cases cs with
  | nil => simp [Expression.ofText?]
  | cons c cs =>
    rw [Expression.ofText?]
    cases hform : formOf? c with
    | none => rw [Option.map_eq_none_iff, hnames]
    | some form =>
      have hnear := lt_of_formOf?_eq_some hform
      rw [Option.map_eq_none_iff, hnames, List.exists_mem_cons_iff]
      exact (or_iff_right (by omega)).symm

/-! ### Values that can be cut -/

theorem takeOctets?_eq_none_iff {n : Nat} {s : String} : takeOctets? n s = none ↔ Splits n s := by
  unfold takeOctets?
  by_cases hall : s.utf8ByteSize ≤ n
  · have hnot : ¬ Splits n s := fun h => absurd h.1 (by omega)
    simp [hall, hnot]
  · rw [if_neg hall, decode?_take_eq_none_iff (by omega)]

/-- The value of a variable cannot be put in if and only if it would be cut within a character. -/
theorem Variable.expand?_eq_none_iff {f : Form} {v : Variable} {value : String} :
    v.expand? f value = none ↔ ∃ n, v.maxOctets = some n ∧ Splits n value := by
  unfold Variable.expand?
  by_cases hempty : f.named ∧ value.isEmpty
  · have hsize : value.utf8ByteSize = 0 := by
      rw [String.utf8ByteSize_eq_zero_iff, ← String.isEmpty_iff]
      exact hempty.2
    have hnot (n : Nat) : ¬ Splits n value := fun h => absurd h.1 (by omega)
    simp [hempty, hnot]
  · rw [if_neg hempty]
    cases hn : v.maxOctets with
    | none => simp
    | some n => cases htake : takeOctets? n value <;> simp [htake, ← takeOctets?_eq_none_iff]

theorem Expression.expand?_eq_none_iff {values : SortedMap String String} {e : Expression} :
    e.expand? values = none ↔
      ∃ v ∈ e.items, ∃ n value, v.maxOctets = some n ∧ values.find? v.name = some value ∧
        Splits n value := by
  have hparts : e.expand? values = none ↔
      none ∈ e.items.filterMap fun v => (values.find? v.name).map (v.expand? e.form) := by
    have hmapM (os : List (Option (List Char))) : os.mapM id = none ↔ none ∈ os := by
      simp [mapM_eq_none_iff]
    rw [← hmapM, Expression.expand?]
    cases (e.items.filterMap fun v => (values.find? v.name).map (v.expand? e.form)).mapM id <;> simp
  rw [hparts, List.mem_filterMap]
  simp only [Option.map_eq_some_iff, Variable.expand?_eq_none_iff]
  constructor
  · rintro ⟨v, hv, value, hvalue, n, hn, hsplits⟩
    exact ⟨v, hv, n, value, hn, hvalue, hsplits⟩
  · rintro ⟨v, hv, n, value, hn, hvalue, hsplits⟩
    exact ⟨v, hv, value, hvalue, n, hn, hsplits⟩

/-! ### Templates that can be expanded -/

/-- An expression in `template` has a character that is not ASCII. -/
def HasForeign (template : String) : Prop :=
  ∃ text, .expression text ∈ pieces template ∧ ∃ c ∈ text, 0x80 ≤ c.toNat

/-- An expression asks for at most `n` octets of a variable. -/
def AsksPrefix (template name : String) (n : Nat) : Prop :=
  ∃ text e, .expression text ∈ pieces template ∧ Expression.ofText? text = some e ∧
    ⟨name, some n⟩ ∈ e.items

/-- An expression asks for a beginning of the variable `name` that ends within a character of `value`. -/
def Cuts (template name value : String) : Prop := ∃ n, AsksPrefix template name n ∧ Splits n value

theorem Piece.part?_eq_none_iff {p : Piece} :
    p.part? = none ↔ ∃ text, p = .expression text ∧ ∃ c ∈ text, 0x80 ≤ c.toNat := by
  cases p <;> simp [Piece.part?, Expression.ofText?_eq_none_iff]

theorem exists_piece_broken_iff {template : String} {values : SortedMap String String} :
    (∃ p ∈ pieces template, ∃ part, p.part? = some part ∧ part.expand? values = none) ↔
      ∃ name value, values.find? name = some value ∧ Cuts template name value := by
  constructor
  · rintro ⟨p, hp, part, hpart, hbroken⟩
    cases p with
    | literal text =>
      obtain rfl := Option.some.inj hpart
      cases hbroken
    | expression text =>
      obtain ⟨e, he, rfl⟩ := Option.map_eq_some_iff.1 hpart
      obtain ⟨⟨name, octets⟩, hv, n, value, rfl, hvalue, hsplits⟩ := Expression.expand?_eq_none_iff.1 hbroken
      exact ⟨name, value, hvalue, n, ⟨text, e, hp, he, hv⟩, hsplits⟩
  · rintro ⟨name, value, hvalue, n, ⟨text, e, hp, he, hv⟩, hsplits⟩
    refine ⟨_, hp, .expression e, by rw [Piece.part?, he, Option.map_some], ?_⟩
    exact Expression.expand?_eq_none_iff.2 ⟨_, hv, n, value, rfl, hvalue, hsplits⟩

/-- A template can be expanded unless an expression in it cannot be read (`HasForeign`) or `Cuts` a value within a
character. -/
theorem expand?_eq_none_iff {template : String} {values : SortedMap String String} :
    expand? template values = none ↔
      HasForeign template ∨ ∃ name value, values.find? name = some value ∧ Cuts template name value := by
  have hforeign : (pieces template).mapM Piece.part? = none ↔ HasForeign template := by
    rw [mapM_eq_none_iff]
    simp only [Piece.part?_eq_none_iff]
    constructor
    · rintro ⟨p, hp, text, rfl, hfar⟩
      exact ⟨text, hp, hfar⟩
    · rintro ⟨text, hp, hfar⟩
      exact ⟨_, hp, text, rfl, hfar⟩
  rw [← hforeign, ← exists_piece_broken_iff, expand?]
  cases hparts : (pieces template).mapM Piece.part? with
  | none => simp
  | some parts =>
    have hread := mapM_eq_some_iff.1 hparts
    have hbroken : parts.mapM (Part.expand? values) = none ↔
        ∃ p ∈ pieces template, ∃ part, p.part? = some part ∧ part.expand? values = none := by
      rw [mapM_eq_none_iff]
      constructor
      · rintro ⟨part, hpart, hnone⟩
        obtain ⟨p, hp, hpart⟩ := exists_mem_of_forall₂ hread.flip hpart
        exact ⟨p, hp, part, hpart, hnone⟩
      · rintro ⟨p, hp, part, hpart, hnone⟩
        obtain ⟨part', hmem, hpart'⟩ := exists_mem_of_forall₂ hread hp
        obtain rfl := Option.some.inj (hpart.symm.trans hpart')
        exact ⟨part, hmem, hnone⟩
    rw [← hbroken]
    cases htexts : parts.mapM (Part.expand? values) <;> simp [htexts]

end UriTemplate

/-! ### URLs of sessions -/

open UriTemplate

variable {S : Schema}

theorem Id.toNat_lt_of_isLegal {c : Char} (h : Id.isLegal c) : c.toNat < 0x80 := by
  unfold Id.isLegal at h
  simp only [Bool.or_eq_true, beq_iff_eq] at h
  obtain (h | rfl) | rfl := h
  · exact Percent.toNat_lt_of_isAlphanum h
  all_goals decide

/-- A `Valid` identifier can be cut anywhere. -/
theorem Id.Valid.not_splits {id : Id} (h : id.Valid) (n : Nat) : ¬ Splits n id.text := by
  refine not_splits_of_ascii (fun c hc => ?_) n
  have hnear := Id.toNat_lt_of_isLegal (h.2.2 c hc)
  rw [Char.utf8Size_eq_one_iff, UInt32.le_iff_toNat_le]
  exact Nat.le_of_lt_succ hnear

theorem Id.orElse_fault?_eq_none_iff {id other : Id} :
    (id.fault? <|> other.fault?) = none ↔ id.Valid ∧ other.Valid := by
  rw [← Id.fault?_eq_none_iff, ← Id.fault?_eq_none_iff]
  cases id.fault? <;> simp

namespace Session

/-- An attempt at a URL, by what is amiss with the identifiers in it (`fault?`) and by what the template gives (`url?`).
-/
def attempted (fault? : Option IdFault) (url? : Option String) : Attempt String :=
  match fault? with
  | some fault => throw (.invalidId fault)
  | none => ExceptT.lift url?

section Attempted

variable {fault? : Option IdFault} {url? : Option String}

theorem attempted_eq_none_iff : (attempted fault? url?).run = none ↔ fault? = none ∧ url? = none := by
  cases fault? with
  | some fault => simp [attempted]
  | none => cases url? <;> simp [attempted]

theorem attempted_eq_ok_iff {url : String} :
    (attempted fault? url?).run = some (.ok url) ↔ fault? = none ∧ url? = some url := by
  cases fault? with
  | some fault => simp [attempted]
  | none => cases url? <;> simp [attempted]

theorem attempted_eq_error_iff {e : Error} :
    (attempted fault? url?).run = some (.error e) ↔ ∃ fault, fault? = some fault ∧ e = .invalidId fault := by
  cases fault? with
  | some fault => simp [attempted, eq_comm]
  | none => cases url? <;> simp [attempted]

theorem exists_attempted_eq_ok_iff :
    (∃ url, (attempted fault? url?).run = some (.ok url)) ↔ fault? = none ∧ ¬ url? = none := by
  simp only [attempted_eq_ok_iff, exists_and_left, ← ne_eq, Option.ne_none_iff_exists']

end Attempted

theorem uploadUrlFor_eq (s : Session S) (accountId : String) :
    s.uploadUrlFor accountId = attempted (Id.fault? ⟨accountId⟩)
      (UriTemplate.expand? s.document.uploadUrl (.ofList [("accountId", accountId)])) := by
  rw [uploadUrlFor, checkId]
  cases Id.fault? ⟨accountId⟩ <;> rfl

theorem downloadUrlFor_eq (s : Session S) (accountId blobId mediaType name : String) :
    s.downloadUrlFor accountId blobId mediaType name =
      attempted (Id.fault? ⟨accountId⟩ <|> Id.fault? ⟨blobId⟩)
        (UriTemplate.expand? s.document.downloadUrl (.ofList
          [("accountId", accountId), ("blobId", blobId), ("type", mediaType), ("name", name)])) := by
  rw [downloadUrlFor, checkId, checkId]
  cases Id.fault? ⟨accountId⟩ with
  | some fault => rfl
  | none => cases Id.fault? ⟨blobId⟩ <;> rfl

section Expand

variable {template : String} {values : List (String × String)}

theorem expand?_ofList_eq_none_iff (h : (values.map (·.1)).Nodup) :
    UriTemplate.expand? template (.ofList values) = none ↔
      HasForeign template ∨ ∃ v ∈ values, Cuts template v.1 v.2 := by
  rw [expand?_eq_none_iff]
  refine or_congr_right ?_
  constructor
  · rintro ⟨name, value, hvalue, hcuts⟩
    exact ⟨_, (SortedMap.find?_ofList_eq_some_iff h).1 hvalue, hcuts⟩
  · rintro ⟨⟨name, value⟩, hmem, hcuts⟩
    exact ⟨name, value, (SortedMap.find?_ofList_eq_some_iff h).2 hmem, hcuts⟩

theorem expand?_upload_eq_none_iff {accountId : String} (h : Id.Valid ⟨accountId⟩) :
    UriTemplate.expand? template (.ofList [("accountId", accountId)]) = none ↔ HasForeign template := by
  rw [expand?_ofList_eq_none_iff (by simp)]
  refine or_iff_left ?_
  rintro ⟨v, hv, n, -, hsplits⟩
  obtain rfl := List.mem_singleton.1 hv
  exact h.not_splits n hsplits

theorem expand?_download_eq_none_iff {accountId blobId mediaType name : String}
    (haccount : Id.Valid ⟨accountId⟩) (hblob : Id.Valid ⟨blobId⟩) :
    UriTemplate.expand? template (.ofList
        [("accountId", accountId), ("blobId", blobId), ("type", mediaType), ("name", name)]) = none ↔
      HasForeign template ∨ Cuts template "type" mediaType ∨ Cuts template "name" name := by
  rw [expand?_ofList_eq_none_iff (by simp)]
  refine or_congr_right ?_
  constructor
  · rintro ⟨v, hv, n, hasks, hsplits⟩
    simp only [List.mem_cons, List.not_mem_nil, or_false] at hv
    obtain rfl | rfl | rfl | rfl := hv
    · exact absurd hsplits (haccount.not_splits n)
    · exact absurd hsplits (hblob.not_splits n)
    · exact Or.inl ⟨n, hasks, hsplits⟩
    · exact Or.inr ⟨n, hasks, hsplits⟩
  · rintro (hcuts | hcuts)
    · exact ⟨("type", mediaType), by simp, hcuts⟩
    · exact ⟨("name", name), by simp, hcuts⟩

end Expand

/-- With valid identifiers the program is given up (`none`) exactly if a template has an expression that is not
ASCII (`HasForeign`) or cuts the media type or the name within a character (`Cuts`), and else there is a URL. -/
theorem urls_broken_iff (s : Session S) (accountId blobId mediaType name : String) :
    let upload := s.uploadUrlFor accountId
    let download := s.downloadUrlFor accountId blobId mediaType name
    let foreign := HasForeign s.document.uploadUrl
    let broken := HasForeign s.document.downloadUrl ∨ Cuts s.document.downloadUrl "type" mediaType ∨
      Cuts s.document.downloadUrl "name" name
    (upload.run = none ↔ Id.Valid ⟨accountId⟩ ∧ foreign) ∧
    ((∃ url, upload.run = some (.ok url)) ↔ Id.Valid ⟨accountId⟩ ∧ ¬ foreign) ∧
    (∀ e, upload.run = some (.error e) ↔ ∃ fault, Id.fault? ⟨accountId⟩ = some fault ∧ e = .invalidId fault) ∧
    (download.run = none ↔ Id.Valid ⟨accountId⟩ ∧ Id.Valid ⟨blobId⟩ ∧ broken) ∧
    ((∃ url, download.run = some (.ok url)) ↔ Id.Valid ⟨accountId⟩ ∧ Id.Valid ⟨blobId⟩ ∧ ¬ broken) ∧
    ∀ e, download.run = some (.error e) ↔
      ∃ fault, (Id.fault? ⟨accountId⟩ <|> Id.fault? ⟨blobId⟩) = some fault ∧ e = .invalidId fault := by
  intro upload download foreign broken
  have hupload := uploadUrlFor_eq s accountId
  have hdownload := downloadUrlFor_eq s accountId blobId mediaType name
  refine ⟨?_, ?_, fun e => ?_, ?_, ?_, fun e => ?_⟩
  · rw [show upload = _ from hupload, attempted_eq_none_iff, Id.fault?_eq_none_iff]
    exact and_congr_right expand?_upload_eq_none_iff
  · rw [show upload = _ from hupload, exists_attempted_eq_ok_iff, Id.fault?_eq_none_iff]
    exact and_congr_right fun h => not_congr (expand?_upload_eq_none_iff h)
  · rw [show upload = _ from hupload, attempted_eq_error_iff]
  · rw [show download = _ from hdownload, attempted_eq_none_iff, Id.orElse_fault?_eq_none_iff, and_assoc]
    exact and_congr_right fun haccount => and_congr_right fun hblob =>
      expand?_download_eq_none_iff haccount hblob
  · rw [show download = _ from hdownload, exists_attempted_eq_ok_iff, Id.orElse_fault?_eq_none_iff, and_assoc]
    exact and_congr_right fun haccount => and_congr_right fun hblob =>
      not_congr (expand?_download_eq_none_iff haccount hblob)
  · rw [show download = _ from hdownload, attempted_eq_error_iff]

/-- A session is accepted though the program is given up at both of its templates: one names a variable that is not
ASCII, and the other asks for the first octet of a name that begins with two. -/
theorem exists_broken_urls :
    let body := Utf8.encode <|
      "\x7b\"capabilities\":\x7b\x7d,\"accounts\":\x7b\x7d,\"primaryAccounts\":\x7b\x7d,\"apiUrl\":\"a\"," ++
      "\"uploadUrl\":\"\x7b\u00e9\x7d\",\"downloadUrl\":\"\x7bname:1\x7d\"\x7d"
    ∃ s, ofBytes (S := Schema.core) .empty body = .ok s ∧
      (s.uploadUrlFor "A1").run = none ∧
      (s.downloadUrlFor "A1" "B1" "text/plain" "\u00e9").run = none := by
  intro body
  have hurls : (ofBytes (S := Schema.core) .empty body).toOption.map
      (fun s => (s.document.uploadUrl, s.document.downloadUrl)) =
        some ("\x7b\u00e9\x7d", "\x7bname:1\x7d") := by
    simp only [body, Utf8.encode_eq_data]
    decide +kernel
  obtain ⟨s, hs, hurls⟩ := toOption_map_eq_some_iff.1 hurls
  obtain ⟨hupload, hdownload⟩ := Prod.mk.inj hurls
  refine ⟨s, hs, ?_, ?_⟩
  · rw [uploadUrlFor_eq, hupload, attempted_eq_none_iff]
    exact ⟨by decide, by decide +kernel⟩
  · rw [downloadUrlFor_eq, hdownload, attempted_eq_none_iff]
    exact ⟨by decide, by decide +kernel⟩

end Session

end JmapClient
