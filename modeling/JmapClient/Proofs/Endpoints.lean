import JmapClient.Discovery
import Mathlib.Data.List.Basic
import Mathlib.Data.List.Forall2

/-!
# The order of servers

The servers of a domain are tried in the order of their priorities, and those of one priority in the order of their
weights, heavier ones first. Records with the same of both stay in their order, so they are put in order in one way only
(`ServiceRecord.InOrder.eq`). The URLs are those of the records that name a host, one for each
(`ServiceRecord.endpoints_exact`).
-/

namespace JmapClient.ServiceRecord

/-! ### The order of records -/

/-- `a` has the lower priority, or the same and no less weight. -/
def Precedes (a b : ServiceRecord) : Prop := a.priority < b.priority ∨ a.priority = b.priority ∧ b.weight ≤ a.weight

/-- The records of `rs` with this `priority` and `weight`, in their order. -/
def ofRank (priority weight : UInt16) (rs : List ServiceRecord) : List ServiceRecord :=
  rs.filter fun r => r.priority = priority ∧ r.weight = weight

/-- Records are put in order: each is there as often as before, none comes before one that `Precedes` it, and those with
the same priority and weight stay in their order. -/
structure InOrder (rs sorted : List ServiceRecord) : Prop where
  perm : sorted.Perm rs
  pairwise : sorted.Pairwise Precedes
  ofRank_eq : ∀ priority weight, ofRank priority weight sorted = ofRank priority weight rs

variable {a b : ServiceRecord} {rs rs' sorted sorted' : List ServiceRecord}

theorem noLater_iff : noLater a b = true ↔ Precedes a b := by
  simp [noLater, Precedes]

theorem Precedes.trans {c : ServiceRecord} (hab : Precedes a b) (hbc : Precedes b c) : Precedes a c := by
  unfold Precedes at *
  rw [UInt16.lt_iff_toNat_lt, UInt16.le_iff_toNat_le, ← UInt16.toNat_inj] at *
  omega

theorem precedes_total (a b : ServiceRecord) : Precedes a b ∨ Precedes b a := by
  unfold Precedes
  rw [UInt16.lt_iff_toNat_lt, UInt16.lt_iff_toNat_lt, UInt16.le_iff_toNat_le, UInt16.le_iff_toNat_le,
    ← UInt16.toNat_inj, ← UInt16.toNat_inj]
  omega

theorem Precedes.antisymm (hab : Precedes a b) (hba : Precedes b a) :
    a.priority = b.priority ∧ a.weight = b.weight := by
  unfold Precedes at *
  rw [UInt16.lt_iff_toNat_lt, UInt16.le_iff_toNat_le, ← UInt16.toNat_inj] at *
  rw [← UInt16.toNat_inj]
  omega

theorem Precedes.refl (a : ServiceRecord) : Precedes a a := Or.inr ⟨rfl, UInt16.le_refl _⟩

theorem ofRank_cons (priority weight : UInt16) (a : ServiceRecord) (rs : List ServiceRecord) :
    ofRank priority weight (a :: rs) =
      if a.priority = priority ∧ a.weight = weight then a :: ofRank priority weight rs
      else ofRank priority weight rs := by
  simp only [ofRank, List.filter_cons, decide_eq_true_eq]

theorem mem_ofRank {priority weight : UInt16} :
    a ∈ ofRank priority weight rs ↔ a ∈ rs ∧ a.priority = priority ∧ a.weight = weight := by
  simp [ofRank]

theorem mem_iff_of_ofRank_eq (h : ∀ priority weight, ofRank priority weight rs = ofRank priority weight rs') :
    a ∈ rs ↔ a ∈ rs' := by
  have hrank : a ∈ ofRank a.priority a.weight rs ↔ a ∈ ofRank a.priority a.weight rs' := by rw [h]
  simpa [mem_ofRank] using hrank

/-- Records in order are determined by those of each priority and weight. -/
theorem eq_of_ofRank_eq (hsorted : sorted.Pairwise Precedes) (hsorted' : sorted'.Pairwise Precedes)
    (h : ∀ priority weight, ofRank priority weight sorted = ofRank priority weight sorted') : sorted = sorted' := by
  induction sorted generalizing sorted' with
  | nil =>
    cases sorted' with
    | nil => rfl
    | cons b sorted' => simpa using mem_iff_of_ofRank_eq (a := b) h
  | cons a sorted ih =>
    cases sorted' with
    | nil => simpa using mem_iff_of_ofRank_eq (a := a) h
    | cons b sorted' =>
      obtain ⟨hfirst, hrest⟩ := List.pairwise_cons.1 hsorted
      obtain ⟨hfirst', hrest'⟩ := List.pairwise_cons.1 hsorted'
      -- Each of the first records precedes the other, so both have the same priority and weight.
      have hab : Precedes a b := by
        rcases List.mem_cons.1 ((mem_iff_of_ofRank_eq h).2 (List.mem_cons_self ..)) with rfl | hb
        · exact .refl b
        · exact hfirst b hb
      have hba : Precedes b a := by
        rcases List.mem_cons.1 ((mem_iff_of_ofRank_eq h).1 (List.mem_cons_self ..)) with rfl | ha
        · exact .refl a
        · exact hfirst' a ha
      obtain ⟨hpriority, hweight⟩ := hab.antisymm hba
      have hheads := h a.priority a.weight
      rw [ofRank_cons, ofRank_cons, if_pos ⟨rfl, rfl⟩, if_pos ⟨hpriority.symm, hweight.symm⟩] at hheads
      obtain rfl := (List.cons.inj hheads).1
      refine congrArg (a :: ·) (ih hrest hrest' fun priority weight => ?_)
      have hboth := h priority weight
      rw [ofRank_cons, ofRank_cons] at hboth
      split_ifs at hboth
      · exact (List.cons.inj hboth).2
      · exact hboth

theorem InOrder.eq (h : InOrder rs sorted) (h' : InOrder rs' sorted')
    (hrank : ∀ priority weight, ofRank priority weight rs = ofRank priority weight rs') : sorted = sorted' := by
  refine eq_of_ofRank_eq h.pairwise h'.pairwise fun priority weight => ?_
  rw [h.ofRank_eq, h'.ofRank_eq, hrank]

/-- Records of one priority and weight precede each other. -/
theorem pairwise_ofRank (priority weight : UInt16) (rs : List ServiceRecord) :
    (ofRank priority weight rs).Pairwise fun a b => noLater a b = true := by
  refine List.pairwise_of_forall_mem_list fun a ha b hb => ?_
  obtain ⟨-, hpriority, hweight⟩ := mem_ofRank.1 ha
  obtain ⟨-, hpriority', hweight'⟩ := mem_ofRank.1 hb
  rw [noLater_iff]
  exact Or.inr ⟨hpriority.trans hpriority'.symm, by rw [hweight, hweight']; exact UInt16.le_refl _⟩

theorem inOrder_sort (rs : List ServiceRecord) : InOrder rs (sort rs) := by
  have htrans (a b c : ServiceRecord) (hab : noLater a b = true) (hbc : noLater b c = true) : noLater a c = true :=
    noLater_iff.2 ((noLater_iff.1 hab).trans (noLater_iff.1 hbc))
  have htotal (a b : ServiceRecord) : (noLater a b || noLater b a) = true := by
    rw [Bool.or_eq_true, noLater_iff, noLater_iff]
    exact precedes_total a b
  have hperm : (sort rs).Perm rs := List.mergeSort_perm rs noLater
  refine ⟨hperm, (List.pairwise_mergeSort htrans htotal rs).imp noLater_iff.1, fun priority weight => ?_⟩
  -- The records of a rank are in order as they stand, so sorting leaves them in this order.
  have hsublist : (ofRank priority weight rs).Sublist (sort rs) :=
    List.sublist_mergeSort htrans htotal (pairwise_ofRank priority weight rs) List.filter_sublist
  have hkept := hsublist.filter fun r => r.priority = priority ∧ r.weight = weight
  rw [ofRank, List.filter_filter] at hkept
  simp only [Bool.and_self] at hkept
  exact (hkept.eq_of_length (hperm.filter _).length_eq.symm).symm

/-! ### URLs -/

/-- `host` is the name in a record, without the one `.` at its end. -/
def IsHost (target host : String) : Prop := target = host ++ "." ∨ target = host ∧ ∀ name, target ≠ name ++ "."

/-- What stands for `port` in a URL. -/
def IsPort (port : UInt16) (text : String) : Prop :=
  (port = 0 ∨ port = 443) ∧ text = "" ∨ (port ≠ 0 ∧ port ≠ 443) ∧ text = ":" ++ Nat.repr port.toNat

/-- The URL at which the host of `r` gives sessions. -/
def IsUrl (r : ServiceRecord) (url : String) : Prop :=
  ∃ host port, IsHost r.target host ∧ IsPort r.port port ∧ url = "https://" ++ host ++ port ++ "/.well-known/jmap"

theorem isHost_hostName (target : String) : IsHost target (hostName target) := by
  have hpoint (name : String) (h : target = name ++ ".") : target.toList.reverse = '.' :: name.toList.reverse := by
    simp [h]
  unfold hostName
  split
  · rename_i rest hrest
    left
    rw [← String.toList_inj, String.toList_append, String.toList_ofList, ← List.reverse_inj, hrest]
    simp
  · rename_i hnone
    exact Or.inr ⟨rfl, fun name h => hnone _ (hpoint name h)⟩

theorem IsHost.eq {target host host' : String} (h : IsHost target host) (h' : IsHost target host') : host = host' := by
  rcases h with h | ⟨rfl, hnone⟩ <;> rcases h' with h' | ⟨rfl, hnone'⟩
  · exact String.append_left_inj "." |>.1 (h.symm.trans h')
  · exact absurd h (hnone' host)
  · exact absurd h' (hnone host')
  · rfl

theorem IsPort.eq {port : UInt16} {text text' : String} (h : IsPort port text) (h' : IsPort port text') :
    text = text' := by
  unfold IsPort at h h'
  grind

theorem isUrl_iff {r : ServiceRecord} {url : String} : IsUrl r url ↔ r.sessionUrl = url := by
  have hport : IsPort r.port (if r.port = 0 ∨ r.port = 443 then "" else ":" ++ toString r.port.toNat) := by
    unfold IsPort
    split_ifs with h
    · exact Or.inl ⟨h, rfl⟩
    · exact Or.inr ⟨not_or.1 h, rfl⟩
  constructor
  · rintro ⟨host, port, hhost, hport', rfl⟩
    rw [sessionUrl, hhost.eq (isHost_hostName r.target), hport'.eq hport]
  · rintro rfl
    exact ⟨_, _, isHost_hostName r.target, hport, rfl⟩

theorem forall₂_isUrl_iff {urls : List String} : List.Forall₂ IsUrl rs urls ↔ rs.map sessionUrl = urls := by
  have hfun : IsUrl = fun r url => r.sessionUrl = url := funext fun r => funext fun url => propext isUrl_iff
  rw [hfun, ← List.forall₂_map_left_iff, List.forall₂_eq_eq_eq]

/-! ### The servers of a domain -/

/-- The records of `rs` that name a host. -/
def offered (rs : List ServiceRecord) : List ServiceRecord :=
  rs.filter fun r => ¬ (r.target = "" ∨ r.target = ".")

theorem filter_isOffered (rs : List ServiceRecord) : rs.filter isOffered = offered rs :=
  List.filter_congr fun r _ => by rw [Bool.eq_iff_iff]; simp [isOffered]

theorem offered_eq_nil_iff : offered rs = [] ↔ ∀ r ∈ rs, r.target = "" ∨ r.target = "." := by
  simp [offered, or_iff_not_imp_left]

theorem ofRank_offered (priority weight : UInt16) (rs : List ServiceRecord) :
    ofRank priority weight (offered rs) = offered (ofRank priority weight rs) :=
  List.filter_comm _ _ rs

theorem endpoints_eq (domain : String) (rs : List ServiceRecord) :
    endpoints domain rs =
      if offered rs = [] then .error (.discovery domain "no JMAP SRV record found")
      else .ok ((sort (offered rs)).map sessionUrl) := by
  rw [endpoints, filter_isOffered]
  simp only [List.isEmpty_iff]

/-- There is one URL for each record that names a host (`offered`), in the order of the records (`InOrder`) and
however they are listed, and it is the only error that there is none. -/
theorem endpoints_exact (domain : String) (rs : List ServiceRecord) :
    (∀ e, endpoints domain rs = .error e ↔
      (∀ r ∈ rs, r.target = "" ∨ r.target = ".") ∧ e = .discovery domain "no JMAP SRV record found") ∧
    (∀ urls, endpoints domain rs = .ok urls ↔
      (∃ r ∈ rs, ¬ (r.target = "" ∨ r.target = ".")) ∧
        ∃ sorted, InOrder (offered rs) sorted ∧ List.Forall₂ IsUrl sorted urls) ∧
    ∀ rs', (∀ priority weight, ofRank priority weight rs' = ofRank priority weight rs) →
      endpoints domain rs' = endpoints domain rs := by
  refine ⟨fun e => ?_, fun urls => ?_, fun rs' hrank => ?_⟩
  · rw [endpoints_eq, ← offered_eq_nil_iff]
    split_ifs with hnone
    · simp [hnone, eq_comm]
    · simp [hnone]
  · have hsome : (∃ r ∈ rs, ¬ (r.target = "" ∨ r.target = ".")) ↔ ¬ offered rs = [] := by
      rw [offered_eq_nil_iff]
      push Not
      rfl
    rw [endpoints_eq, hsome]
    split_ifs with hnone
    · simp [hnone]
    · simp only [hnone, not_false_iff, true_and, Except.ok.injEq]
      constructor
      · exact fun h => ⟨_, inOrder_sort _, forall₂_isUrl_iff.2 h⟩
      · rintro ⟨sorted, hsorted, hurls⟩
        rw [(inOrder_sort _).eq hsorted fun _ _ => rfl]
        exact forall₂_isUrl_iff.1 hurls
  · have hoffered (priority weight : UInt16) :
        ofRank priority weight (offered rs') = ofRank priority weight (offered rs) := by
      rw [ofRank_offered, ofRank_offered, hrank]
    have hnone : offered rs' = [] ↔ offered rs = [] := by
      simp only [List.eq_nil_iff_forall_not_mem, mem_iff_of_ofRank_eq hoffered]
    have hsort : sort (offered rs') = sort (offered rs) := (inOrder_sort _).eq (inOrder_sort _) hoffered
    rw [endpoints_eq, endpoints_eq, hsort]
    simp only [hnone]

/-- Two servers with the same priority and weight, one that is tried after them, and a record that names no host. -/
theorem endpoints_exact_of_four :
    let a : ServiceRecord := ⟨10, 5, 443, "a.example."⟩
    let b : ServiceRecord := ⟨10, 5, 8443, "b.example"⟩
    let c : ServiceRecord := ⟨20, 50, 0, "c.example.."⟩
    let absent : ServiceRecord := ⟨0, 0, 0, "."⟩
    (∀ priority weight, ofRank priority weight [c, a, absent, b] = ofRank priority weight [a, b, c, absent]) ∧
      endpoints "example" [c, a, absent, b] = endpoints "example" [a, b, c, absent] ∧
      ∃ urls, endpoints "example" [a, b, c, absent] = .ok urls := by
  intro a b c absent
  have hrank (priority weight : UInt16) :
      ofRank priority weight [c, a, absent, b] = ofRank priority weight [a, b, c, absent] := by
    simp only [ofRank_cons, a, b, c, absent]
    grind
  obtain ⟨herror, -, hsame⟩ := endpoints_exact "example" [a, b, c, absent]
  refine ⟨hrank, hsame _ hrank, ?_⟩
  cases h : endpoints "example" [a, b, c, absent] with
  | error e => simpa [a] using ((herror e).1 h).1 a
  | ok urls => exact ⟨urls, rfl⟩

end JmapClient.ServiceRecord
