import JmapClient.Proofs.Turns

/-!
# Sharing a client

Jobs that share a client take turns (`Client.Turn`), and what they come to is what strands come to that do their strokes
one after the other (`Client.Step`). What the client holds is the session that was accepted last, and each task acts in
the one session that it opened, whatever the client holds by then (`Client.shared_coherent`). A task that fails may well
have fetched a session before (`Client.held_ne_of_failed`).
-/

namespace JmapClient

open Json

variable {S : Schema}

namespace Client

/-! ### What holds in every state -/

/-- A task has come as far as it can with the answers to fetches that it received, `fetched`: it waits for one, or it
has opened a session, or failed at that, or acts in the session that it opened. -/
inductive Proceeds (c : Client S) (fetched : List Exchange) : Strand S → Prop
  | fetching {op url} (hendpoint : c.endpoint = some url) (hfetched : fetched = []) :
      Proceeds c fetched ⟨op, .opening (.waiting (.http (.get url)) c.receive)⟩
  | opened {op opened before after} (hopens : c.Opens op before opened after fetched) :
      Proceeds c fetched ⟨op, .opening (.ended opened)⟩
  | acting {op h p before after} (hopens : c.Opens op before (.ok h) after fetched)
      (hacts : c.Acts op h p) : Proceeds c fetched ⟨op, .acting h p⟩

/-- The client holds the session that was accepted last, all tasks have come as far as they can, and each
session that one of them opened was held at some time. -/
structure Coherent (c : Client S) (initial : Option (Session S)) (x : Shared S) : Prop where
  held_eq : x.held.map (·.session) = c.lastSession initial x.fetched
  lt_length : ∀ m ∈ x.fetched, m.1 < x.strands.length
  proceeds : ∀ (i : Nat) t, x.strands[i]? = some t → Proceeds c (x.fetchedBy i) t
  opened : ∀ (i : Nat) (t : Strand S) (h : Held S), x.strands[i]? = some t → t.stage.opened? = some h →
    ∃ earlier later, x.fetched = earlier ++ later ∧ c.lastSession initial earlier = some h.session

/-- What a stroke from `x` changes: a task is added, or goes on, or receives a session that is refused or accepted. Only
in the last case the client comes to hold another session. -/
inductive Change (c : Client S) (x : Shared S) : Shared S → Prop
  | added {t : Strand S} (ht : Proceeds c [] t) (hopened : ∀ h, t.stage.opened? = some h → x.held = some h) :
      Change c x ⟨x.held, x.strands ++ [t], x.fetched⟩
  | moved {i : Nat} {t t' : Strand S} (hi : x.strands[i]? = some t) (ht : Proceeds c (x.fetchedBy i) t')
      (hop : t'.operation = t.operation) (hopened : t'.stage.opened? = t.stage.opened?) :
      Change c x ⟨x.held, x.strands.set i t', x.fetched⟩
  | refused {i op url answer e}
      (hi : x.strands[i]? = some ⟨op, .opening (.waiting (.http (.get url)) c.receive)⟩)
      (haccept : c.accept answer = .error e) :
      Change c x ⟨x.held, x.strands.set i ⟨op, .opening (.ended (.error e))⟩,
        x.fetched ++ [(i, ⟨.http (.get url), answer⟩)]⟩
  | accepted {i op url answer h}
      (hi : x.strands[i]? = some ⟨op, .opening (.waiting (.http (.get url)) c.receive)⟩)
      (haccept : c.accept answer = .ok h.session) :
      Change c x ⟨some h, x.strands.set i ⟨op, .opening (.ended (.ok h))⟩,
        x.fetched ++ [(i, ⟨.http (.get url), answer⟩)]⟩

section Invariant

variable {c : Client S} {initial : Option (Session S)} {x y : Shared S}

theorem Step.change (hx : Coherent c initial x) (h : Step c x y) : Change c x y := by
  cases h with
  | @begin op p held hstroke =>
    rcases stroke_opening c op x.held with
      ⟨h, hop, hheld, heq⟩ | ⟨hfetch, ⟨hendpoint, heq⟩ | ⟨url, hendpoint, heq⟩⟩
    all_goals
      rw [heq] at hstroke
      obtain ⟨rfl, rfl⟩ := Prod.mk.inj hstroke
    · refine .added (.opened (.kept h hop)) fun h' h'' => ?_
      rw [hheld]
      exact h''
    · exact .added (.opened (.nowhere hfetch hendpoint)) (fun _ h => nomatch h)
    · exact .added (.fetching hendpoint rfl) (fun _ h => nomatch h)
  | @fetch i op e k p held hi answer hstroke =>
    cases hx.proceeds i _ hi with
    | fetching hendpoint hfetched =>
      rw [stroke_receive] at hstroke
      cases haccept : c.accept answer with
      | error e =>
        rw [haccept] at hstroke
        obtain ⟨rfl, rfl⟩ := Prod.mk.inj hstroke
        exact .refused hi haccept
      | ok session =>
        rw [haccept] at hstroke
        obtain ⟨rfl, rfl⟩ := Prod.mk.inj hstroke
        exact .accepted hi haccept
  | @act i op h p held hi hstroke =>
    obtain ⟨p', heq, hacts⟩ := acts_stroke_action c op h x.held
    rw [heq] at hstroke
    obtain ⟨rfl, rfl⟩ := Prod.mk.inj hstroke
    cases hx.proceeds i _ hi with
    | opened hopens => exact .moved hi (.acting hopens hacts) rfl rfl
  | @receive i op h e k p held hi answer hstroke =>
    cases hx.proceeds i _ hi with
    | acting hopens hacts =>
      cases hacts with
      | asked hrequest =>
        rw [finish, stroke_ofExcept] at hstroke
        obtain ⟨rfl, rfl⟩ := Prod.mk.inj hstroke
        exact .moved hi (.acting hopens (.ended (.sent hrequest answer))) rfl rfl

theorem lastSession_concat (fetched : List (Nat × Exchange)) (m : Nat × Exchange) :
    c.lastSession initial (fetched ++ [m]) = (c.accepted? m.2).or (c.lastSession initial fetched) := by
  unfold lastSession
  rw [List.filterMap_append]
  cases h : c.accepted? m.2 <;> simp [h]

theorem coherent_start (c : Client S) (held : Option (Held S)) :
    Coherent c (held.map (·.session)) (.start held) :=
  ⟨rfl, by simp [Shared.start], by simp [Shared.start], by simp [Shared.start]⟩

theorem getElem?_concat_cases {α : Type} {l : List α} {i : Nat} {a b : α}
    (h : (l ++ [a])[i]? = some b) : l[i]? = some b ∨ i = l.length ∧ b = a := by
  rw [List.getElem?_append] at h
  split_ifs at h with hi
  · exact Or.inl h
  · rw [List.getElem?_singleton] at h
    split_ifs at h with hi'
    exact Or.inr ⟨by omega, (Option.some.inj h).symm⟩

theorem getElem?_set_cases {α : Type} {l : List α} {i j : Nat} {a b : α}
    (h : (l.set i a)[j]? = some b) : j ≠ i ∧ l[j]? = some b ∨ j = i ∧ b = a := by
  rw [List.getElem?_set] at h
  split_ifs at h with hij hi
  · exact Or.inr ⟨hij.symm, (Option.some.inj h).symm⟩
  · exact Or.inl ⟨Ne.symm hij, h⟩

namespace Coherent

theorem fetchedBy_length (hx : Coherent c initial x) : x.fetchedBy x.strands.length = [] := by
  rw [Shared.fetchedBy, List.map_eq_nil_iff, List.filter_eq_nil_iff]
  intro m hm
  have := hx.lt_length m hm
  simp only [beq_iff_eq]
  omega

theorem add (hx : Coherent c initial x) {t : Strand S} (ht : Proceeds c [] t)
    (hopened : ∀ h, t.stage.opened? = some h → x.held = some h) :
    Coherent c initial ⟨x.held, x.strands ++ [t], x.fetched⟩ where
  held_eq := hx.held_eq
  lt_length m hm := by
    have := hx.lt_length m hm
    simp only [List.length_append, List.length_singleton]
    omega
  proceeds j t' hj := by
    rcases getElem?_concat_cases hj with hj | ⟨rfl, rfl⟩
    · exact hx.proceeds j t' hj
    · have hnone : (⟨x.held, x.strands ++ [t'], x.fetched⟩ : Shared S).fetchedBy x.strands.length = [] :=
        hx.fetchedBy_length
      rwa [hnone]
  opened j t' h hj ht' := by
    rcases getElem?_concat_cases hj with hj | ⟨rfl, rfl⟩
    · exact hx.opened j t' h hj ht'
    · refine ⟨x.fetched, [], (List.append_nil _).symm, ?_⟩
      rw [← hx.held_eq, hopened h ht']
      rfl

theorem move (hx : Coherent c initial x) {i : Nat} {t t' : Strand S} (hi : x.strands[i]? = some t)
    (ht : Proceeds c (x.fetchedBy i) t') (hopened : t'.stage.opened? = t.stage.opened?) :
    Coherent c initial ⟨x.held, x.strands.set i t', x.fetched⟩ where
  held_eq := hx.held_eq
  lt_length m hm := by
    rw [List.length_set]
    exact hx.lt_length m hm
  proceeds j u hj := by
    rcases getElem?_set_cases hj with ⟨-, hj⟩ | ⟨rfl, rfl⟩
    · exact hx.proceeds j u hj
    · exact ht
  opened j u h hj hu := by
    rcases getElem?_set_cases hj with ⟨-, hj⟩ | ⟨rfl, rfl⟩
    · exact hx.opened j u h hj hu
    · exact hx.opened j t h hi (hopened ▸ hu)

/-- A task that waits for the answer to its fetch receives it. -/
theorem receive (hx : Coherent c initial x) {i : Nat} {op : Operation} {url : String}
    {answer : Http.Answer} {held : Option (Held S)} {t : Strand S}
    (hi : x.strands[i]? = some ⟨op, .opening (.waiting (.http (.get url)) c.receive)⟩)
    (hheld : held.map (·.session) =
      (c.accepted? ⟨.http (.get url), answer⟩).or (x.held.map (·.session)))
    (ht : c.endpoint = some url → Proceeds c [⟨.http (.get url), answer⟩] t)
    (hopened : ∀ h, t.stage.opened? = some h → held = some h) :
    Coherent c initial
      ⟨held, x.strands.set i t, x.fetched ++ [(i, ⟨.http (.get url), answer⟩)]⟩ where
  held_eq := by rw [hheld, lastSession_concat, hx.held_eq]
  lt_length m hm := by
    rw [List.length_set]
    rcases List.mem_append.1 hm with hm | hm
    · exact hx.lt_length m hm
    · obtain rfl := List.mem_singleton.1 hm
      exact (List.getElem?_eq_some_iff.1 hi).1
  proceeds j u hj := by
    rcases getElem?_set_cases hj with ⟨hne, hj⟩ | ⟨rfl, rfl⟩
    · rw [Shared.fetchedBy_concat, if_neg (Ne.symm hne), List.append_nil]
      exact hx.proceeds j u hj
    · cases hx.proceeds j _ hi with
      | fetching hendpoint hfetched =>
        have hown : (⟨held, x.strands.set j u, x.fetched⟩ : Shared S).fetchedBy j = [] := hfetched
        rw [Shared.fetchedBy_concat, if_pos rfl, hown]
        exact ht hendpoint
  opened j u h hj hu := by
    rcases getElem?_set_cases hj with ⟨-, hj⟩ | ⟨rfl, rfl⟩
    · obtain ⟨earlier, later, hfetched, hlast⟩ := hx.opened j u h hj hu
      refine ⟨earlier, later ++ [(i, (⟨.http (.get url), answer⟩ : Exchange))], ?_, hlast⟩
      rw [hfetched, List.append_assoc]
    · refine ⟨_, [], (List.append_nil _).symm, ?_⟩
      rw [lastSession_concat, ← hx.held_eq, ← hheld, hopened h hu]
      rfl

end Coherent

theorem Step.coherent (hx : Coherent c initial x) (h : Step c x y) : Coherent c initial y := by
  cases h.change hx with
  | added ht hopened => exact hx.add ht hopened
  | moved hi ht hop hopened => exact hx.move hi ht hopened
  | refused hi haccept =>
    refine hx.receive hi ?_ (fun hendpoint => ?_) (fun _ h => nomatch h)
    · simp [accepted?_eq, haccept, Except.toOption]
    · exact .opened (.refused (Or.inr rfl) hendpoint haccept)
  | @accepted i op url answer h hi haccept =>
    refine hx.receive hi ?_ (fun hendpoint => ?_) (fun _ h => h)
    · simp [accepted?_eq, haccept, Except.toOption]
    · exact .opened (.accepted (Or.inr rfl) hendpoint haccept)

theorem Reaches.coherent (hx : Coherent c initial x) (h : Reaches c x y) : Coherent c initial y := by
  induction h with
  | refl => exact hx
  | tail _ hstep ih => exact hstep.coherent ih

theorem Step.isSome_held (hx : Coherent c initial x) (h : Step c x y) (hsome : x.held.isSome) :
    y.held.isSome := by
  cases h.change hx with
  | added ht hopened => exact hsome
  | moved hi ht hop hopened => exact hsome
  | refused hi haccept => exact hsome
  | accepted hi haccept => rfl

theorem Reaches.isSome_held (hx : Coherent c initial x) (h : Reaches c x y) (hsome : x.held.isSome) :
    y.held.isSome := by
  induction h with
  | refl => exact hsome
  | tail hreach hstep ih => exact hstep.isSome_held (Reaches.coherent hx hreach) ih

/-- A task keeps the session that it opened. -/
theorem Change.opened (h : Change c x y) {i : Nat} {t : Strand S} {s : Held S} (ht : x.strands[i]? = some t)
    (hs : t.stage.opened? = some s) :
    ∃ t', y.strands[i]? = some t' ∧ t'.operation = t.operation ∧ t'.stage.opened? = some s := by
  -- The task that receives a session has not opened one yet.
  have hother {j : Nat} {u u' : Strand S} (hj : x.strands[j]? = some u) (hu : u.stage.opened? = none) :
      (x.strands.set j u')[i]? = some t := by
    have hne : j ≠ i := by
      rintro rfl
      obtain rfl : t = u := Option.some.inj (ht.symm.trans hj)
      rw [hu] at hs
      cases hs
    rw [List.getElem?_set_ne hne, ht]
  cases h with
  | added hu hopened =>
    exact ⟨t, by rw [List.getElem?_append_left (List.getElem?_eq_some_iff.1 ht).1, ht], rfl, hs⟩
  | @moved j u u' hj hu hop hopened =>
    by_cases hij : j = i
    · subst hij
      obtain rfl : t = u := Option.some.inj (ht.symm.trans hj)
      exact ⟨u', List.getElem?_set_self (List.getElem?_eq_some_iff.1 ht).1, hop, hopened.trans hs⟩
    · exact ⟨t, by rw [List.getElem?_set_ne hij, ht], rfl, hs⟩
  | refused hj haccept => exact ⟨t, hother hj rfl, rfl, hs⟩
  | accepted hj haccept => exact ⟨t, hother hj rfl, rfl, hs⟩

theorem Reaches.opened (hx : Coherent c initial x) (h : Reaches c x y) {i : Nat} {t : Strand S} {s : Held S}
    (ht : x.strands[i]? = some t) (hs : t.stage.opened? = some s) :
    ∃ t', y.strands[i]? = some t' ∧ t'.operation = t.operation ∧ t'.stage.opened? = some s := by
  induction h with
  | refl => exact ⟨t, ht, rfl, hs⟩
  | tail hreach hstep ih =>
    obtain ⟨u, hu, hop, hus⟩ := ih
    obtain ⟨u', hu', hop', hus'⟩ := (hstep.change (Reaches.coherent hx hreach)).opened hu hus
    exact ⟨u', hu', hop'.trans hop, hus'⟩

theorem Opens.accepted_of_error {op : Operation} {before after : Option (Held S)} {e : Error}
    {fetched : List Exchange} (h : c.Opens op before (.error e) after fetched) :
    fetched.filterMap c.accepted? = [] := by
  cases h with
  | nowhere hfetch hendpoint => rfl
  | refused hfetch hendpoint haccept => simp [accepted?_eq, haccept, Except.toOption]

theorem Opens.accepted_of_ok {op : Operation} {before after : Option (Held S)} {h : Held S}
    {fetched : List Exchange} (hopens : c.Opens op before (.ok h) after fetched) :
    ∀ s ∈ fetched.filterMap c.accepted?, s = h.session := by
  cases hopens with
  | kept h hop => simp
  | accepted hfetch hendpoint haccept => simp [accepted?_eq, haccept, Except.toOption]

/-- A stroke at which a task fails does not change what the client holds. -/
theorem Change.held_of_failed (h : Change c x y) {i : Nat} (hy : y.Failed i) (hx : ¬ x.Failed i) :
    y.held = x.held := by
  cases h with
  | added ht hopened => rfl
  | moved hi ht hop hopened => rfl
  | refused hi haccept => rfl
  | accepted hi haccept =>
    obtain ⟨t, ht, hfailed⟩ := hy
    rcases getElem?_set_cases ht with ⟨-, ht⟩ | ⟨-, rfl⟩
    · exact absurd ⟨t, ht, hfailed⟩ hx
    · exact hfailed.elim

/-- What jobs come to in `Turns`, `Strand`s come to; the client holds what was accepted last and never loses it, and each
strand keeps to the one session that it opened (`Acts`), whatever the client holds by then. -/
theorem shared_coherent {held : Option (Held S)} (h : Reaches c (.start held) x) :
    (∀ y, Turns c (.start held) y →
      ∃ x', Reaches c (.start held) x' ∧ x'.held = y.held ∧ List.Forall₂ (Matches c) x'.strands y.jobs) ∧
      (∀ w op log, let o := (c.job op).runIn w held log
        Turns c (.start held) ⟨o.held, [(op, .ended o.result)]⟩) ∧
      x.held.map (·.session) = c.lastSession (held.map (·.session)) x.fetched ∧
      (∀ y, Reaches c x y → x.held.isSome → y.held.isSome) ∧
      (∀ y, Step c x y → y.held ≠ x.held → ∃ i op url answer h,
        x.strands[i]? = some ⟨op, .opening (.waiting (.http (.get url)) c.receive)⟩ ∧
          c.accept answer = .ok h.session ∧
          y = ⟨some h, x.strands.set i ⟨op, .opening (.ended (.ok h))⟩,
            x.fetched ++ [(i, ⟨.http (.get url), answer⟩)]⟩) ∧
      (∀ y i, Step c x y → y.Failed i → ¬ x.Failed i → y.held = x.held) ∧
      ∀ i op stage, x.strands[i]? = some ⟨op, stage⟩ →
        (∀ e, stage = .opening (.ended (.error e)) → (x.fetchedBy i).filterMap c.accepted? = []) ∧
        (∀ h, stage.opened? = some h →
          (∀ s ∈ (x.fetchedBy i).filterMap c.accepted?, s = h.session) ∧
            (∃ earlier later, x.fetched = earlier ++ later ∧
              c.lastSession (held.map (·.session)) earlier = some h.session) ∧
            ∀ y, Reaches c x y →
              ∃ stage', y.strands[i]? = some ⟨op, stage'⟩ ∧ stage'.opened? = some h) ∧
        ∀ h p, stage = .acting h p → c.Acts op h p := by
  have hx : Coherent c (held.map (·.session)) x := Reaches.coherent (coherent_start c held) h
  refine ⟨fun y => Turns.simulated, fun w op log => turns_runIn c w op held log, hx.held_eq,
    fun y hy => Reaches.isSome_held hx hy, fun y hy hne => ?_, fun y i hy => (hy.change hx).held_of_failed,
    fun i op stage hi => ⟨?_, ?_, ?_⟩⟩
  · cases hy.change hx with
    | added ht hopened => exact absurd rfl hne
    | moved hi ht hop hopened => exact absurd rfl hne
    | refused hi haccept => exact absurd rfl hne
    | accepted hi haccept => exact ⟨_, _, _, _, _, hi, haccept, rfl⟩
  · rintro e rfl
    cases hx.proceeds i _ hi with
    | opened hopens => exact hopens.accepted_of_error
  · intro h hopened
    refine ⟨?_, hx.opened i _ h hi hopened, fun y hy => ?_⟩
    · cases hx.proceeds i _ hi with
      | fetching hendpoint hfetched => cases hopened
      | @opened _ opened before after hopens =>
        cases opened with
        | error e => cases hopened
        | ok h' =>
          obtain rfl := Option.some.inj hopened
          exact hopens.accepted_of_ok
      | acting hopens hacts =>
        obtain rfl := Option.some.inj hopened
        exact hopens.accepted_of_ok
    · obtain ⟨⟨op', stage'⟩, hy', rfl, hstage⟩ := Reaches.opened hx hy hi hopened
      exact ⟨stage', hy', hstage⟩
  · rintro h p rfl
    cases hx.proceeds i _ hi with
    | acting hopens hacts => exact hacts

end Invariant

/-! ### Single steps -/

section Steps

variable {c : Client S} {x : Shared S} {url : String}

theorem step_ask (op : Operation) (hendpoint : c.endpoint = some url)
    (hfetch : op = .authenticate ∨ x.held = none) :
    Step c x ⟨x.held, x.strands ++ [⟨op, .opening (.waiting (.http (.get url)) c.receive)⟩],
      x.fetched⟩ := by
  refine .begin ?_
  rcases stroke_opening c op x.held with ⟨h, hop, hheld, -⟩ | ⟨-, ⟨hnone, -⟩ | ⟨url', hsome, heq⟩⟩
  · rcases hfetch with hauthenticate | hnone
    · exact absurd hauthenticate hop
    · rw [hnone] at hheld
      cases hheld
  · rw [hendpoint] at hnone
    cases hnone
  · obtain rfl : url = url' := Option.some.inj (hendpoint.symm.trans hsome)
    exact heq

theorem step_accept {op : Operation} {i : Nat} {answer : Http.Answer} {session : Session S}
    (hi : x.strands[i]? = some ⟨op, .opening (.waiting (.http (.get url)) c.receive)⟩)
    (haccept : c.accept answer = .ok session) :
    let h : Held S := ⟨x.held.elim 0 (·.number + 1), session⟩
    Step c x ⟨some h, x.strands.set i ⟨op, .opening (.ended (.ok h))⟩,
      x.fetched ++ [(i, ⟨.http (.get url), answer⟩)]⟩ :=
  .fetch hi answer (by rw [stroke_receive, haccept])

end Steps

/-- The answer with a session at `apiUrl` that has no capabilities. -/
def bareAnswer (apiUrl : String) : Http.Answer :=
  .ok ⟨200, none, Utf8.encode <|
    "\x7b\"capabilities\":\x7b\x7d,\"accounts\":\x7b\x7d,\"primaryAccounts\":\x7b\x7d,\"apiUrl\":\"" ++
      apiUrl ++ "\"\x7d"⟩

/-- While a batch is executed in the first session, the client is told to fetch another. -/
theorem shared_coherent_of_replaced :
    let c : Client Schema.core := ⟨.core, some "https://e/"⟩
    ∃ (x : Shared Schema.core) (a b : Held Schema.core) (text : String),
      Reaches c (.start none) x ∧ toText Request.empty = .ok text ∧
      a.session.document.apiUrl = "a" ∧ b.session.document.apiUrl = "b" ∧
      x.held = some b ∧ c.lastSession none x.fetched = some b.session ∧
      x.strands = [⟨.execute .empty, .acting a (.waiting
          (.http (.post "a" "application/json" (Utf8.encode text))) (c.finish (.execute .empty)))⟩,
        ⟨.authenticate, .opening (.ended (.ok b))⟩] ∧
      c.Acts (.execute .empty) a (.waiting
        (.http (.post "a" "application/json" (Utf8.encode text))) (c.finish (.execute .empty))) := by
  intro c
  obtain ⟨a, haccepta, ha⟩ : ∃ s, c.accept (bareAnswer "a") = .ok s ∧ s.document.apiUrl = "a" :=
    toOption_map_eq_some_iff.1 (by decide +kernel)
  obtain ⟨b, hacceptb, hb⟩ : ∃ s, c.accept (bareAnswer "b") = .ok s ∧ s.document.apiUrl = "b" :=
    toOption_map_eq_some_iff.1 (by decide +kernel)
  obtain ⟨text, htext⟩ : ∃ text, toText Request.empty = .ok text := ⟨_, rfl⟩
  have hrequest : (Operation.execute .empty).request? a =
      .ok (some (.post "a" "application/json" (Utf8.encode text))) := by
    rw [← ha]
    exact request?_execute_of_none rfl htext
  have hasked := (Relation.ReflTransGen.refl (r := Step c) (a := .start none)).tail
    (step_ask (.execute .empty) rfl (Or.inr rfl))
  have hopened := hasked.tail (step_accept (i := 0) rfl haccepta)
  have hsent := hopened.tail (.act (i := 0) rfl (stroke_action_of_some hrequest))
  have hfetches := hsent.tail (step_ask .authenticate rfl (Or.inl rfl))
  have hreplaced := hfetches.tail (step_accept (i := 1) rfl hacceptb)
  obtain ⟨-, -, hheld, -, -, -, hstrands⟩ := shared_coherent hreplaced
  exact ⟨_, ⟨0, a⟩, ⟨1, b⟩, text, hreplaced, htext, ha, hb, rfl, hheld.symm, rfl,
    (hstrands 0 _ _ rfl).2.2 _ _ rfl⟩

/-- A task that fails may have fetched a session before, which stays. -/
theorem held_ne_of_failed :
    let c : Client Schema.core := ⟨.core, some "https://e/"⟩
    let batch := (Build.run [.invokeAs "0" Echo.empty.call]).request
    ∃ x h, Reaches c (.start none) x ∧ x.held = some h ∧ h.session.document.apiUrl = "a" ∧
      x.strands =
        [⟨.execute batch, .acting h (.ended (.error (.unsupportedCapability Core.uri)))⟩] := by
  intro c batch
  obtain ⟨a, haccept, ha⟩ : ∃ s, c.accept (bareAnswer "a") = .ok s ∧
      (s.document.apiUrl, s.supports Core.uri) = ("a", false) := toOption_map_eq_some_iff.1 (by decide +kernel)
  obtain ⟨hurl, hsupports⟩ := Prod.mk.inj ha
  have hbatch : batch.uses = [Core.uri] := by decide +kernel
  have hrequest : (Operation.execute batch).request? a = .error (.unsupportedCapability Core.uri) :=
    request?_execute_of_some (by simp [hbatch, hsupports])
  have hasked := (Relation.ReflTransGen.refl (r := Step c) (a := .start none)).tail
    (step_ask (.execute batch) rfl (Or.inr rfl))
  have hopened := hasked.tail (step_accept (i := 0) rfl haccept)
  have hfailed := hopened.tail (.act (i := 0) rfl (stroke_action_of_error hrequest))
  exact ⟨_, ⟨0, a⟩, hfailed, rfl, hurl, rfl⟩

end Client

end JmapClient
