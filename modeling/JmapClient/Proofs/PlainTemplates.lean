import JmapClient.Proofs.Percent
import JmapClient.Proofs.Templates
import Mathlib.Data.List.TakeWhile

/-!
# Templates without operators

In a template whose expressions are no more than names (`UriTemplate.Plain`) every literal and every value has a piece
of its own in the expansion (`UriTemplate.Plain.expand?_text`). The piece of a literal depends on the literal only, and
that of a value tells the value. Where delimiters stand between the names, the whole expansion tells the values
(`UriTemplate.Plain.piece_eq_of_expansion_eq`). So the parts of a blob's URL cannot be mistaken for each other
(`UriTemplate.Plain.values_apart`).
-/

namespace JmapClient

open Percent

namespace UriTemplate

/-- A template of literals without braces and of names in braces between them. -/
structure Plain where
  /-- The literal before the first name. -/
  front : List Char
  /-- The names, each with the literal behind it. -/
  fields : List (String × List Char)
  front_braceless : ∀ c ∈ front, c ≠ '\x7b' ∧ c ≠ '\x7d'
  literals_braceless : ∀ f ∈ fields, ∀ c ∈ f.2, c ≠ '\x7b' ∧ c ≠ '\x7d'
  names_plain : ∀ f ∈ fields, f.1 ≠ "" ∧ ∀ c ∈ f.1.toList, c.isAlphanum

namespace Plain

/-- The text of a name, in braces, and the literal behind it: `f`. -/
def fieldText (f : String × List Char) : List Char := '\x7b' :: (f.1.toList ++ '\x7d' :: f.2)

/-- The template as a text. -/
def text (t : Plain) : String := String.ofList (t.front ++ t.fields.flatMap fieldText)

/-- The names in a template. -/
def names (t : Plain) : List String := t.fields.map (·.1)

/-- What is written for `name`: the encoding of its value, or nothing if it has none. -/
def piece (values : SortedMap String String) (name : String) : List Char :=
  (values.find? name).elim [] unreserved

/-- What is written for the names in `fields` and the literals behind them. -/
def fieldsExpansion (values : SortedMap String String) (fields : List (String × List Char)) : List Char :=
  fields.flatMap fun f => piece values f.1 ++ reserved (String.ofList f.2)

/-- The expansion of `t` with `values`, piece by piece. -/
def expansion (t : Plain) (values : SortedMap String String) : List Char :=
  reserved (String.ofList t.front) ++ fieldsExpansion values t.fields

/-- Between any two names stands one of the `delimiters`. -/
def Separated (t : Plain) : Prop := ∀ l ∈ (t.fields.map (·.2)).dropLast, ∃ c ∈ delimiters, c ∈ l

end Plain

/-! ### Reading a template -/

theorem piecesFrom_append_of_outside {l : List Char} (h : ∀ c ∈ l, c ≠ '\x7b') (buffer rest : List Char) :
    piecesFrom false buffer (l ++ rest) = piecesFrom false (buffer ++ l) rest := by
  induction l generalizing buffer with
  | nil => simp
  | cons c l ih =>
    obtain ⟨hc, hl⟩ := List.forall_mem_cons.1 h
    rw [List.cons_append, piecesFrom, if_neg (by simp), if_neg hc, ih hl, List.append_assoc]
    rfl

theorem piecesFrom_append_of_inside {l : List Char} (h : ∀ c ∈ l, c ≠ '\x7d') (buffer rest : List Char) :
    piecesFrom true buffer (l ++ rest) = piecesFrom true (buffer ++ l) rest := by
  induction l generalizing buffer with
  | nil => simp
  | cons c l ih =>
    obtain ⟨hc, hl⟩ := List.forall_mem_cons.1 h
    rw [List.cons_append, piecesFrom, if_pos rfl, if_neg hc, ih hl, List.append_assoc]
    rfl

/-- A letter or digit is none of the characters that mean something in a template. -/
theorem ne_of_isAlphanum {c d : Char} (h : c.isAlphanum) (hd : d.isAlphanum = false) : c ≠ d := by
  rintro rfl
  rw [hd] at h
  cases h

theorem formOf?_of_isAlphanum {c : Char} (h : c.isAlphanum) : formOf? c = none := by
  unfold formOf?
  split
  case h_8 => rfl
  all_goals exact absurd h (by decide)

theorem splitCommas_of_not_mem {cs : List Char} (h : ',' ∉ cs) : splitCommas cs = [cs] := by
  induction cs with
  | nil => rfl
  | cons c cs ih =>
    rw [List.mem_cons, not_or] at h
    rw [splitCommas, if_neg (Ne.symm h.1), ih h.2]

section Name

variable {name : String}

theorem Variable.ofText?_of_isAlphanum (h : ∀ c ∈ name.toList, c.isAlphanum) :
    Variable.ofText? name.toList = some ⟨name, none⟩ := by
  have hascii : name.toList.all (·.toNat < 0x80) = true :=
    List.all_eq_true.2 fun c hc => decide_eq_true (toNat_lt_of_isAlphanum (h c hc))
  have hstar : name.toList.getLast? ≠ some '*' := fun hlast =>
    ne_of_isAlphanum (h _ (List.mem_of_getLast? hlast)) (by decide) rfl
  have hcolon : name.toList.dropWhile (· ≠ ':') = [] := by
    rw [List.dropWhile_eq_nil_iff]
    exact fun c hc => decide_eq_true (ne_of_isAlphanum (h c hc) (by decide))
  rw [Variable.ofText?, if_neg (by rw [hascii]; decide), if_neg hstar, hcolon, String.ofList_toList]

theorem Expression.ofText?_of_isAlphanum (hne : name ≠ "") (h : ∀ c ∈ name.toList, c.isAlphanum) :
    Expression.ofText? name.toList = some ⟨plainForm, [⟨name, none⟩]⟩ := by
  have hcomma : ',' ∉ name.toList := fun hmem => ne_of_isAlphanum (h _ hmem) (by decide) rfl
  have hvariable := Variable.ofText?_of_isAlphanum h
  cases hchars : name.toList with
  | nil => exact absurd (by simpa using hchars) hne
  | cons c cs =>
    rw [hchars] at h hcomma hvariable
    rw [Expression.ofText?, formOf?_of_isAlphanum (h c List.mem_cons_self)]
    simp [splitCommas_of_not_mem hcomma, hvariable]

end Name

/-- What is written for an expression that is no more than a name. -/
theorem Expression.expand?_name (values : SortedMap String String) (name : String) :
    Expression.expand? values ⟨plainForm, [⟨name, none⟩]⟩ = some (Plain.piece values name) := by
  unfold Expression.expand? Plain.piece
  cases hvalue : values.find? name with
  | none => simp [hvalue]
  | some value =>
    have hexpand : Variable.expand? plainForm ⟨name, none⟩ value = some (unreserved value) := rfl
    rw [List.filterMap_cons_some (by rw [hvalue, Option.map_some, hexpand])]
    simp [plainForm]

namespace Plain

theorem pieces_text (t : Plain) :
    pieces t.text =
      .literal t.front :: t.fields.flatMap fun f => [.expression f.1.toList, .literal f.2] := by
  have hfields (fields : List (String × List Char)) (buffer : List Char)
      (hliterals : ∀ f ∈ fields, ∀ c ∈ f.2, c ≠ '\x7b' ∧ c ≠ '\x7d')
      (hnames : ∀ f ∈ fields, f.1 ≠ "" ∧ ∀ c ∈ f.1.toList, c.isAlphanum) :
      piecesFrom false buffer (fields.flatMap fieldText) =
        .literal buffer :: fields.flatMap fun f => [.expression f.1.toList, .literal f.2] := by
    induction fields generalizing buffer with
    | nil => rfl
    | cons f fields ih =>
      obtain ⟨hliteral, hliterals⟩ := List.forall_mem_cons.1 hliterals
      obtain ⟨hname, hnames⟩ := List.forall_mem_cons.1 hnames
      have hinside : ∀ c ∈ f.1.toList, c ≠ '\x7d' := fun c hc => ne_of_isAlphanum (hname.2 c hc) (by decide)
      rw [List.flatMap_cons, fieldText, List.cons_append, piecesFrom, if_neg (by simp), if_pos rfl,
        List.append_assoc, piecesFrom_append_of_inside hinside, List.nil_append, List.cons_append, piecesFrom,
        if_pos rfl, if_pos rfl, piecesFrom_append_of_outside fun c hc => (hliteral c hc).1, List.nil_append,
        ih _ hliterals hnames]
      rfl
  rw [pieces, text, String.toList_ofList,
    piecesFrom_append_of_outside fun c hc => (t.front_braceless c hc).1, List.nil_append]
  exact hfields t.fields t.front t.literals_braceless t.names_plain

theorem mapM_part?_pieces (t : Plain) :
    (pieces t.text).mapM Piece.part? = some (.literal t.front ::
      t.fields.flatMap fun f => [.expression ⟨plainForm, [⟨f.1, none⟩]⟩, .literal f.2]) := by
  have hfields (fields : List (String × List Char))
      (hnames : ∀ f ∈ fields, f.1 ≠ "" ∧ ∀ c ∈ f.1.toList, c.isAlphanum) :
      List.Forall₂ (fun p part => Piece.part? p = some part)
        (fields.flatMap fun f => [.expression f.1.toList, .literal f.2])
        (fields.flatMap fun f => [.expression ⟨plainForm, [⟨f.1, none⟩]⟩, .literal f.2]) := by
    induction fields with
    | nil => exact .nil
    | cons f fields ih =>
      obtain ⟨⟨hne, hname⟩, hnames⟩ := List.forall_mem_cons.1 hnames
      refine .cons ?_ (.cons rfl (ih hnames))
      rw [Piece.part?, Expression.ofText?_of_isAlphanum hne hname, Option.map_some]
  rw [pieces_text, mapM_eq_some_iff]
  exact .cons rfl (hfields t.fields t.names_plain)

theorem mapM_expand?_fields (values : SortedMap String String) (fields : List (String × List Char)) :
    ∃ texts, (fields.flatMap fun f => [.expression ⟨plainForm, [⟨f.1, none⟩]⟩, .literal f.2]).mapM
      (Part.expand? values) = some texts ∧ texts.flatten = fieldsExpansion values fields := by
  induction fields with
  | nil => exact ⟨[], rfl, rfl⟩
  | cons f fields ih =>
    obtain ⟨texts, htexts, hflatten⟩ := ih
    refine ⟨piece values f.1 :: reserved (String.ofList f.2) :: texts, ?_, ?_⟩
    · rw [List.flatMap_cons, mapM_eq_some_iff]
      exact .cons (Expression.expand?_name values f.1) (.cons rfl (mapM_eq_some_iff.1 htexts))
    · rw [fieldsExpansion, List.flatMap_cons, List.flatten_cons, List.flatten_cons, hflatten, List.append_assoc]
      rfl

/-- Every template of this kind can be expanded, whatever the `values` are, and into these pieces. -/
theorem expand?_text (t : Plain) (values : SortedMap String String) :
    expand? t.text values = some (String.ofList (t.expansion values)) := by
  obtain ⟨texts, htexts, hflatten⟩ := mapM_expand?_fields values t.fields
  have hall := mapM_eq_some_iff.2 (List.Forall₂.cons
    (R := fun part cs => Part.expand? values part = some cs) (a := .literal t.front) rfl
    (mapM_eq_some_iff.1 htexts))
  simp only [expand?, mapM_part?_pieces, Option.bind_eq_bind, Option.bind_some, hall]
  rw [List.flatten_cons, hflatten]
  rfl

/-! ### Telling values from expansions -/

theorem encoded_piece (values : SortedMap String String) (name : String) : Encoded (piece values name) := by
  unfold piece
  cases values.find? name with
  | none => exact .nil
  | some value => exact (encodes_unreserved value).encoded

/-- What stands before a text with a delimiter can be told if it has none itself. -/
theorem append_cancel_of_delimiter {p p' l x x' : List Char} (hp : ∀ c ∈ p, c ∉ delimiters)
    (hp' : ∀ c ∈ p', c ∉ delimiters) (hl : ∃ c ∈ delimiters, c ∈ l) (h : p ++ (l ++ x) = p' ++ (l ++ x')) :
    p = p' ∧ x = x' := by
  let free (c : Char) : Bool := decide (c ∉ delimiters)
  have hstop (y : List Char) : (l ++ y).takeWhile free = l.takeWhile free := by
    obtain ⟨c, hc, hmem⟩ := hl
    rw [List.takeWhile_append, if_neg]
    intro hall
    have hself := (List.takeWhile_prefix free).eq_of_length hall
    exact of_decide_eq_true (List.takeWhile_eq_self_iff.1 hself c hmem) hc
  have hfront : p = p' := by
    have htake := congrArg (List.takeWhile free) h
    rw [List.takeWhile_append_of_pos fun c hc => decide_eq_true (hp c hc),
      List.takeWhile_append_of_pos fun c hc => decide_eq_true (hp' c hc), hstop, hstop] at htake
    exact List.append_cancel_right htake
  subst hfront
  exact ⟨rfl, List.append_cancel_left (List.append_cancel_left h)⟩

/-- Where delimiters stand between the names (`Separated`), an expansion tells what is written for each of them. -/
theorem piece_eq_of_expansion_eq {t : Plain} (ht : t.Separated) {values values' : SortedMap String String}
    (h : t.expansion values = t.expansion values') : ∀ name ∈ t.names, piece values name = piece values' name := by
  have hfields (fields : List (String × List Char))
      (hseparated : ∀ l ∈ (fields.map (·.2)).dropLast, ∃ c ∈ delimiters, c ∈ l)
      (heq : fieldsExpansion values fields = fieldsExpansion values' fields) :
      ∀ f ∈ fields, piece values f.1 = piece values' f.1 := by
    induction fields with
    | nil => simp
    | cons f fields ih =>
      simp only [fieldsExpansion, List.flatMap_cons, List.append_assoc] at heq
      rw [List.forall_mem_cons]
      cases fields with
      | nil => exact ⟨List.append_cancel_right heq, by simp⟩
      | cons g fields =>
        rw [List.map_cons, List.map_cons, List.dropLast_cons_cons, List.forall_mem_cons] at hseparated
        obtain ⟨⟨c, hc, hmem⟩, hseparated⟩ := hseparated
        obtain ⟨hpiece, hrest⟩ := append_cancel_of_delimiter (encoded_piece values f.1).not_mem_delimiters
          (encoded_piece values' f.1).not_mem_delimiters ⟨c, hc, (encodesLiteral_reserved f.2).mem_of_mem_delimiters hc hmem⟩ heq
        exact ⟨hpiece, ih hseparated hrest⟩
  have hall := hfields t.fields ht (List.append_cancel_left h)
  rintro name hname
  obtain ⟨f, hf, rfl⟩ := List.mem_map.1 hname
  exact hall f hf

end Plain

end UriTemplate

/-! ### URLs of blobs -/

open UriTemplate

variable {S : Schema}

namespace Session

/-- The variables of a template to download with, and their values. -/
def downloadValues (accountId blobId mediaType name : String) : SortedMap String String :=
  .ofList [("accountId", accountId), ("blobId", blobId), ("type", mediaType), ("name", name)]

theorem piece_downloadValues {accountId blobId mediaType name k v : String}
    (h : (k, v) ∈ [("accountId", accountId), ("blobId", blobId), ("type", mediaType), ("name", name)]) :
    Plain.piece (downloadValues accountId blobId mediaType name) k = unreserved v := by
  rw [Plain.piece, downloadValues, (SortedMap.find?_ofList_eq_some_iff (by simp)).2 h]
  rfl

theorem downloadUrlFor_of_plain {s : Session S} {t : Plain} (hs : s.document.downloadUrl = t.text)
    {accountId blobId : String} (haccount : Id.Valid ⟨accountId⟩) (hblob : Id.Valid ⟨blobId⟩)
    (mediaType name : String) :
    (s.downloadUrlFor accountId blobId mediaType name).run =
      some (.ok (String.ofList (t.expansion (downloadValues accountId blobId mediaType name)))) := by
  rw [downloadUrlFor_eq, attempted_eq_ok_iff, Id.orElse_fault?_eq_none_iff, hs]
  exact ⟨⟨haccount, hblob⟩, t.expand?_text _⟩

end Session

namespace UriTemplate.Plain

/-- An `expansion` has a piece for each literal (`EncodesLiteral`) and one for each value (`Encodes`), and where delimiters
stand between the names it tells the values, as does the URL of a blob. -/
theorem values_apart (t : Plain) :
    (∀ values, expand? t.text values = some (String.ofList (t.expansion values))) ∧
    (∀ value, Encodes (Utf8.encode value) (unreserved value) ∧ Encoded (unreserved value) ∧
      (∀ c ∈ unreserved value, c ∉ delimiters) ∧ decode (unreserved value) = Utf8.encode value) ∧
    Function.Injective unreserved ∧
    (∀ literal es, EncodesLiteral literal es ↔ es = reserved (String.ofList literal)) ∧
    (t.Separated → ∀ values values', expand? t.text values = expand? t.text values' →
      ∀ name ∈ t.names, piece values name = piece values' name) ∧
    ∀ s : Session S, s.document.downloadUrl = t.text →
      ∀ accountId blobId mediaType name, Id.Valid ⟨accountId⟩ → Id.Valid ⟨blobId⟩ →
        let values := Session.downloadValues accountId blobId mediaType name
        (s.downloadUrlFor accountId blobId mediaType name).run = some (.ok (String.ofList (t.expansion values))) ∧
        (piece values "accountId" = unreserved accountId ∧ piece values "blobId" = unreserved blobId ∧
          piece values "type" = unreserved mediaType ∧ piece values "name" = unreserved name) ∧
        (t.Separated → ∀ accountId' blobId' mediaType' name', Id.Valid ⟨accountId'⟩ → Id.Valid ⟨blobId'⟩ →
          (s.downloadUrlFor accountId blobId mediaType name).run =
            (s.downloadUrlFor accountId' blobId' mediaType' name').run →
          ("accountId" ∈ t.names → accountId = accountId') ∧ ("blobId" ∈ t.names → blobId = blobId') ∧
            ("type" ∈ t.names → mediaType = mediaType') ∧ ("name" ∈ t.names → name = name')) := by
  refine ⟨t.expand?_text, fun value => ?_, unreserved_injective, fun _ _ => encodesLiteral_iff,
    fun ht values values' heq => ?_, ?_⟩
  · have hencodes := encodes_unreserved value
    exact ⟨hencodes, hencodes.encoded, hencodes.encoded.not_mem_delimiters, hencodes.decode_eq⟩
  · rw [t.expand?_text, t.expand?_text, Option.some.injEq, String.ofList_inj] at heq
    exact piece_eq_of_expansion_eq ht heq
  · intro s hs accountId blobId mediaType name haccount hblob values
    have hpiece {k v : String}
        (h : (k, v) ∈ [("accountId", accountId), ("blobId", blobId), ("type", mediaType), ("name", name)]) :
        piece values k = unreserved v := Session.piece_downloadValues h
    have hurl := Session.downloadUrlFor_of_plain hs haccount hblob mediaType name
    refine ⟨hurl, ⟨hpiece (by simp), hpiece (by simp), hpiece (by simp), hpiece (by simp)⟩, ?_⟩
    intro ht accountId' blobId' mediaType' name' haccount' hblob' heq
    rw [hurl, Session.downloadUrlFor_of_plain hs haccount' hblob', Option.some.injEq, Except.ok.injEq,
      String.ofList_inj] at heq
    have hall := piece_eq_of_expansion_eq ht heq
    have hvalue {k v v' : String}
        (hv : (k, v) ∈ [("accountId", accountId), ("blobId", blobId), ("type", mediaType), ("name", name)])
        (hv' : (k, v') ∈
          [("accountId", accountId'), ("blobId", blobId'), ("type", mediaType'), ("name", name')])
        (hk : k ∈ t.names) : v = v' := by
      have hpieces := hall k hk
      rw [Session.piece_downloadValues hv, Session.piece_downloadValues hv'] at hpieces
      exact unreserved_injective hpieces
    exact ⟨hvalue (by simp) (by simp), hvalue (by simp) (by simp), hvalue (by simp) (by simp),
      hvalue (by simp) (by simp)⟩

/-- A template with a place for each variable of a blob. -/
def ofBlob : Plain where
  front := "/d/".toList
  fields := [("accountId", ['/']), ("blobId", ['/']), ("name", "?accept=".toList), ("type", [])]
  front_braceless := by simp
  literals_braceless := by simp
  names_plain := by simp

/-- A name and a media type with punctuation of URLs in them change nothing but their own pieces, and are told by the
URL. -/
theorem values_apart_of_punctuation :
    let body := Utf8.encode <|
      "\x7b\"capabilities\":\x7b\x7d,\"accounts\":\x7b\x7d,\"primaryAccounts\":\x7b\x7d,\"apiUrl\":\"a\"," ++
      "\"downloadUrl\":\"/d/\x7baccountId\x7d/\x7bblobId\x7d/\x7bname\x7d?accept=\x7btype\x7d\"\x7d"
    ∃ s, Session.ofBytes (S := Schema.core) .empty body = .ok s ∧
      (s.downloadUrlFor "A1" "B1" "text/plain" "a/b?c%2F").run =
        some (.ok "/d/A1/B1/a%2Fb%3Fc%252F?accept=text%2Fplain") ∧
      ∀ mediaType name, (s.downloadUrlFor "A1" "B1" mediaType name).run =
          some (.ok "/d/A1/B1/a%2Fb%3Fc%252F?accept=text%2Fplain") →
        mediaType = "text/plain" ∧ name = "a/b?c%2F" := by
  intro body
  have hseparated : ofBlob.Separated := by
    simp [Separated, ofBlob, delimiters]
  have hbody : (Session.ofBytes (S := Schema.core) .empty body).toOption.map (·.document.downloadUrl) =
      some ofBlob.text := by
    simp only [body, Utf8.encode_eq_data]
    decide +kernel
  obtain ⟨s, hs, hbody⟩ := toOption_map_eq_some_iff.1 hbody
  have haccount : Id.Valid ⟨"A1"⟩ := Id.fault?_eq_none_iff.1 (by decide)
  have hblob : Id.Valid ⟨"B1"⟩ := Id.fault?_eq_none_iff.1 (by decide)
  obtain ⟨-, -, -, -, -, hdownload⟩ := values_apart (S := Schema.core) ofBlob
  obtain ⟨hurl, -, htold⟩ := hdownload s hbody "A1" "B1" "text/plain" "a/b?c%2F" haccount hblob
  have hexpansion : String.ofList (ofBlob.expansion (Session.downloadValues "A1" "B1" "text/plain" "a/b?c%2F")) =
      "/d/A1/B1/a%2Fb%3Fc%252F?accept=text%2Fplain" := by decide +kernel
  rw [hexpansion] at hurl
  refine ⟨s, hs, hurl, fun mediaType name heq => ?_⟩
  obtain ⟨-, -, hmediaType, hname⟩ := htold hseparated "A1" "B1" mediaType name haccount hblob (hurl.trans heq.symm)
  exact ⟨(hmediaType (by decide)).symm, (hname (by decide)).symm⟩

end UriTemplate.Plain

end JmapClient
