import Mathlib
import ClaimCheck.Proofs.Relay.Amid
import ClaimCheck.Proofs.World.Opening
import ClaimCheck.Relay.InFlight

/-!
# Worlds that differ in their tokens

Two worlds draw their tokens from two supplies, at some places, and neither draws a token twice there.
A token of one world and a token of the other play the same part when they were drawn at the same
place, or when both are the same token and neither supply draws it (`TokensPaired`).  So a token of one
world has at most one partner in the other, and two tokens are the same in one world exactly when their
partners are in the other (`biUnique_tokensPaired`).

That is all that a world asks of tokens: whether one is out, and which of those that are out it is.
Worlds that differ in their tokens alone (`World.Alike`) thus answer alike requests alike, and still
differ in their tokens alone afterwards (`World.Alike.answer`).
-/

namespace ClaimCheck

open Identity

/-! ## Lists place by place -/

section Lists

variable {α β : Type} {R : α → β → Prop}

/-- The same place of two lists. -/
lemma forall₂_getElem? {l : List α} {l' : List β} (h : List.Forall₂ R l l') (i : Nat) :
    Option.Rel R l[i]? l'[i]? := by
  induction h generalizing i with
  | nil => exact .none
  | cons hhead _ ih =>
    cases i with
    | zero => exact .some hhead
    | succ i => exact ih i

/-- What is there of two values, as lists. -/
lemma forall₂_toList {o : Option α} {o' : Option β} (h : Option.Rel R o o') :
    List.Forall₂ R o.toList o'.toList := by
  cases h with
  | some hab => exact .cons hab .nil
  | none => exact .nil

/-- One place of two lists is left out. -/
lemma forall₂_eraseIdx {l : List α} {l' : List β} (h : List.Forall₂ R l l') (i : Nat) :
    List.Forall₂ R (l.eraseIdx i) (l'.eraseIdx i) := by
  rw [List.eraseIdx_eq_take_drop_succ, List.eraseIdx_eq_take_drop_succ]
  exact List.rel_append (List.forall₂_take i h) (List.forall₂_drop (i + 1) h)

/-- One place of two lists is changed. -/
lemma forall₂_set {l : List α} {l' : List β} (h : List.Forall₂ R l l') (i : Nat) {a : α} {b : β}
    (hab : R a b) : List.Forall₂ R (l.set i a) (l'.set i b) := by
  induction h generalizing i with
  | nil => exact .nil
  | cons hhead htail ih =>
    cases i with
    | zero => exact .cons hab htail
    | succ i => exact .cons hhead (ih i)

/-- A value and its only partner are taken out of two lists. -/
lemma forall₂_erase [DecidableEq α] [DecidableEq β] (hR : Relator.BiUnique R) {l : List α}
    {l' : List β} (h : List.Forall₂ R l l') {a : α} {b : β} (hab : R a b) :
    List.Forall₂ R (l.erase a) (l'.erase b) := by
  induction h with
  | nil => exact .nil
  | @cons c d l l' hcd htail ih =>
    have hiff : c = a ↔ d = b := Relator.rel_eq hR hcd hab
    rw [List.erase_cons, List.erase_cons]
    by_cases hc : c = a
    · rw [if_pos (by simpa using hc), if_pos (by simpa using hiff.mp hc)]
      exact htail
    · rw [if_neg (by simpa using hc), if_neg (by simpa using fun hd => hc (hiff.mpr hd))]
      exact .cons hcd ih

end Lists

/-! ## Tokens and what carries them -/

/-- A token that neither of two supplies draws at some places. -/
def IsForeign (places : Set ℕ) (draw draw' : ℕ → String) (token : String) : Prop :=
  (∀ n ∈ places, draw n ≠ token) ∧ ∀ n ∈ places, draw' n ≠ token

/-- Two tokens that play the same part: they were drawn at the same place, or they are one token that
neither supply draws. -/
def TokensPaired (places : Set ℕ) (draw draw' : ℕ → String) (token token' : String) : Prop :=
  (∃ n ∈ places, token = draw n ∧ token' = draw' n) ∨
    (token = token' ∧ IsForeign places draw draw' token)

/-- A token has at most one partner if neither supply draws a token twice. -/
lemma biUnique_tokensPaired {places : Set ℕ} {draw draw' : ℕ → String}
    (hdraw : Set.InjOn draw places) (hdraw' : Set.InjOn draw' places) :
    Relator.BiUnique (TokensPaired places draw draw') := by
  constructor
  · rintro s t u (⟨n, hn, rfl, rfl⟩ | ⟨rfl, hforeign⟩) (⟨m, hm, rfl, hsame⟩ | ⟨rfl, hforeign'⟩)
    · rw [hdraw' hn hm hsame]
    · exact absurd rfl (hforeign'.2 n hn)
    · exact absurd hsame.symm (hforeign.2 m hm)
    · rfl
  · rintro s t u (⟨n, hn, rfl, rfl⟩ | ⟨rfl, hforeign⟩) (⟨m, hm, hsame, rfl⟩ | ⟨rfl, hforeign'⟩)
    · rw [hdraw hn hm hsame]
    · exact absurd rfl (hforeign'.1 n hn)
    · exact absurd hsame.symm (hforeign.1 m hm)
    · rfl

/-- Outcomes with the same fault or with values that are related. -/
inductive OutcomesAlike {ε α α' : Type} (R : α → α' → Prop) : Except ε α → Except ε α' → Prop
  | ok {a : α} {a' : α'} (h : R a a') : OutcomesAlike R (.ok a) (.ok a')
  | error (fault : ε) : OutcomesAlike R (.error fault) (.error fault)

/-- Credentials that differ in their tokens alone. -/
structure Identity.Credential.Alike (T : String → String → Prop) (c c' : Credential) : Prop where
  selector_eq : c'.selector = c.selector
  expiresAt_eq : c'.expiresAt = c.expiresAt
  token : T c.token c'.token

/-- Sessions that differ in the tokens of their credentials alone. -/
structure Session.Alike (T : String → String → Prop) (s s' : Session) : Prop where
  client_eq : s'.client = s.client
  credential : Credential.Alike T s.credential s'.credential

/-- The same is held, but for the tokens of the credentials. -/
structure Held.Alike (T : String → String → Prop) (h h' : Held) : Prop where
  credentials : List.Forall₂ (Credential.Alike T) h.credentials h'.credentials
  clients_eq : h'.clients = h.clients

variable {T : String → String → Prop} {c c' : Credential}

/-- A credential has at most one partner if its token has. -/
lemma Identity.Credential.biUnique_alike (hT : Relator.BiUnique T) :
    Relator.BiUnique (Credential.Alike T) := by
  constructor
  · rintro ⟨_, s, _⟩ ⟨_, t, _⟩ ⟨_, u, _⟩ ⟨rfl, rfl, hs⟩ ⟨rfl, rfl, ht⟩
    cases hT.1 hs ht
    rfl
  · rintro ⟨_, s, _⟩ ⟨_, t, _⟩ ⟨_, u, _⟩ ⟨rfl, rfl, ht⟩ ⟨rfl, rfl, hu⟩
    cases hT.2 ht hu
    rfl

/-- Whether a credential has expired does not depend on its token. -/
lemma Identity.Credential.Alike.isExpiredAt (h : Credential.Alike T c c') (now : Instant) :
    c'.isExpiredAt now = c.isExpiredAt now := by
  unfold Credential.isExpiredAt
  rw [h.expiresAt_eq]

/-! ## Ledgers -/

namespace Identity.Ledger

/-- A ledger with other tokens out. -/
def withLive (l : Ledger) (live : List String) : Ledger := { l with live }

variable {l : Ledger} {live : List String} (hT : Relator.BiUnique T)
  (hlive : List.Forall₂ T l.live live)

include hT hlive

/-- A token is out exactly if its partner is. -/
lemma contains_withLive {t t' : String} (ht : T t t') : live.contains t' = l.live.contains t := by
  rw [Bool.eq_iff_iff, List.contains_iff_mem, List.contains_iff_mem]
  exact (List.rel_mem hT ht hlive).symm

/-- A credential is out exactly if its partner is. -/
lemma isLive_withLive (hc : Credential.Alike T c c') : (l.withLive live).isLive c' = l.isLive c :=
  contains_withLive hT hlive hc.token

/-- Releasing partners from two ledgers that differ in their tokens alone. -/
lemma release_withLive (hc : Credential.Alike T c c') :
    ∃ live', (l.withLive live).release c' = (l.release c).withLive live' ∧
      List.Forall₂ T (l.release c).live live' := by
  unfold release
  rw [isLive_withLive hT hlive hc]
  cases l.isLive c with
  | true => exact ⟨_, rfl, forall₂_erase hT hlive hc.token⟩
  | false => exact ⟨live, rfl, hlive⟩

/-- Acquiring from two ledgers that differ in their tokens alone. -/
lemma acquire_withLive {t t' : String} (ht : T t t') (selector : Selector) (now : Instant) :
    ∃ live', ((l.withLive live).acquire selector t' now).2 =
        (l.acquire selector t now).2.withLive live' ∧
      List.Forall₂ T (l.acquire selector t now).2.live live' := by
  by_cases hfails : l.failing = true
  · unfold acquire
    rw [if_pos hfails, if_pos (show (l.withLive live).failing = true from hfails)]
    exact ⟨live, rfl, hlive⟩
  · unfold acquire
    rw [if_neg hfails, if_neg (show ¬ (l.withLive live).failing = true from hfails)]
    refine ⟨_, rfl, ?_⟩
    change List.Forall₂ T (if l.live.contains t then l.live else t :: l.live)
      (if live.contains t' then live else t' :: live)
    rw [contains_withLive hT hlive ht]
    split
    · exact hlive
    · exact .cons ht hlive

end Identity.Ledger

/-! ## Requests -/

/-- A request that carries no credential and asks for none. -/
inductive Request.IsTokenless : Request → Prop
  | drawId : IsTokenless .drawId
  | clock : IsTokenless .clock
  | disconnect (client : Client) : IsTokenless (.disconnect client)
  | call (client : Client) (call : Store.Call) : IsTokenless (.call client call)

/-- A call carries no credential. -/
lemma Request.IsCall.isTokenless {r : Request} (hr : r.IsCall) : r.IsTokenless := by
  obtain ⟨client, call, rfl⟩ := hr
  exact .call client call

/-- Requests that differ in the tokens of their credentials alone, and how replies to them have to be
related. -/
inductive Request.Alike (T : String → String → Prop) :
    (r r' : Request) → (r.Reply → r'.Reply → Prop) → Prop
  | tokenless {r : Request} (hr : r.IsTokenless) : Alike T r r Eq
  | acquire (selector : Selector) :
    Alike T (.acquire selector) (.acquire selector) (OutcomesAlike (Credential.Alike T))
  | release {c c' : Credential} (hc : Credential.Alike T c c') :
    Alike T (.release c) (.release c') Eq
  | connect (endpoint : Endpoint) {c c' : Credential} (hc : Credential.Alike T c c') :
    Alike T (.connect endpoint c) (.connect endpoint c') Eq
  | enqueue (space : String) {c c' : Credential} (hc : Credential.Alike T c c')
    (destination : String) (message : Message) :
    Alike T (.enqueue space c destination message) (.enqueue space c' destination message) Eq
  | publish {c c' : Credential} (hc : Credential.Alike T c c') (topic : String) (event : Event) :
    Alike T (.publish c topic event) (.publish c' topic event) Eq

/-- What is held after alike replies to alike requests. -/
lemma Held.Alike.after (hT : Relator.BiUnique T) {h h' : Held} (hheld : Held.Alike T h h')
    {r r' : Request} {Q : r.Reply → r'.Reply → Prop} (hr : Request.Alike T r r' Q) {reply : r.Reply}
    {reply' : r'.Reply} (hreply : Q reply reply') :
    Held.Alike T (h.after r reply) (h'.after r' reply') := by
  cases hr with
  | tokenless hr =>
    cases hreply
    cases hr with
    | disconnect client => exact ⟨hheld.credentials, congrArg (·.erase client) hheld.clients_eq⟩
    | _ => exact hheld
  | acquire selector =>
    cases hreply with
    | ok hc => exact ⟨.cons hc hheld.credentials, hheld.clients_eq⟩
    | error fault => exact hheld
  | release hc =>
    exact ⟨forall₂_erase (Credential.biUnique_alike hT) hheld.credentials hc, hheld.clients_eq⟩
  | connect endpoint hc =>
    cases hreply
    rcases reply with fault | client
    · exact hheld
    · exact ⟨hheld.credentials, congrArg (client :: ·) hheld.clients_eq⟩
  | enqueue => exact hheld
  | publish => exact hheld

/-! ## Worlds -/

namespace World

/-- A world with another supply of tokens, drawn from as often, and other tokens out. -/
def withTokens (w : World) (draw : Nat → String) (live : List String) : World :=
  { w with tokens := { w.tokens with draw }, ledger := w.ledger.withLive live }

/-- Worlds that differ in their tokens alone, each of which plays the same part as its partner. -/
def Alike (places : Set ℕ) (draw draw' : ℕ → String) (w w' : World) : Prop :=
  ∃ live, w' = w.withTokens draw' live ∧ w.tokens.draw = draw ∧
    List.Forall₂ (TokensPaired places draw draw') w.ledger.live live

variable {places : Set ℕ} {draw draw' : ℕ → String} {w w' : World}

/-- Worlds that differ in their tokens alone are changed alike from outside. -/
lemma Alike.outside (h : Alike places draw draw' w w') (change : Outside) :
    Alike places draw draw' (change.apply w) (change.apply w') := by
  obtain ⟨live, rfl, hdraw, hlive⟩ := h
  cases change <;> exact ⟨_, rfl, hdraw, hlive⟩

/-- Requests without credentials are answered the same. -/
lemma Alike.tokenless (h : Alike places draw draw' w w') {r : Request} (hr : r.IsTokenless) :
    (answer r w).1 = (answer r w').1 ∧ Alike places draw draw' (answer r w).2 (answer r w').2 := by
  obtain ⟨live, rfl, hdraw, hlive⟩ := h
  cases hr <;> exact ⟨rfl, _, rfl, hdraw, hlive⟩

/-- Messages are taken alike. -/
lemma Alike.enqueue (h : Alike places draw draw' w w')
    (hc : Credential.Alike (TokensPaired places draw draw') c c') (space destination : String)
    (message : Message) :
    (w.enqueue space c destination message).1 = (w'.enqueue space c' destination message).1 ∧
      Alike places draw draw' (w.enqueue space c destination message).2
        (w'.enqueue space c' destination message).2 := by
  obtain ⟨live, rfl, hdraw, hlive⟩ := h
  have hfailing : (w.withTokens draw' live).channelFailing = w.channelFailing := rfl
  have hexpired : c'.isExpiredAt (w.withTokens draw' live).now = c.isExpiredAt w.now :=
    hc.isExpiredAt w.now
  unfold World.enqueue
  rw [hfailing, hexpired]
  dsimp only
  split
  · exact ⟨rfl, _, rfl, hdraw, hlive⟩
  · split <;> exact ⟨rfl, _, rfl, hdraw, hlive⟩

/-- Events are taken alike. -/
lemma Alike.publish (h : Alike places draw draw' w w')
    (hc : Credential.Alike (TokensPaired places draw draw') c c') (topic : String) (event : Event) :
    (w.publish c topic event).1 = (w'.publish c' topic event).1 ∧
      Alike places draw draw' (w.publish c topic event).2 (w'.publish c' topic event).2 := by
  obtain ⟨live, rfl, hdraw, hlive⟩ := h
  have hexpired : c'.isExpiredAt (w.withTokens draw' live).now = c.isExpiredAt w.now :=
    hc.isExpiredAt w.now
  unfold World.publish
  rw [hexpired]
  split <;> exact ⟨rfl, _, rfl, hdraw, hlive⟩

variable (hT : Relator.BiUnique (TokensPaired places draw draw')) (h : Alike places draw draw' w w')

include hT h

/-- Credentials are given out alike: what is drawn next in one world is the partner of what is drawn
next in the other. -/
lemma Alike.acquire (selector : Selector)
    (hplaces : Set.Ico w.tokens.drawn (w.acquire selector).2.tokens.drawn ⊆ places) :
    OutcomesAlike (Credential.Alike (TokensPaired places draw draw')) (w.acquire selector).1
        (w'.acquire selector).1 ∧
      Alike places draw draw' (w.acquire selector).2 (w'.acquire selector).2 := by
  obtain ⟨live, rfl, hdraw, hlive⟩ := h
  by_cases hfails : w.ledger.failing = true
  · have hfails' : (w.withTokens draw' live).ledger.failing = true := hfails
    rw [acquire_of_failing hfails, acquire_of_failing hfails']
    exact ⟨.error _, _, rfl, hdraw, hlive⟩
  · have hworks : w.ledger.failing = false := by simpa using hfails
    have hworks' : (w.withTokens draw' live).ledger.failing = false := hworks
    rw [acquire_of_working hworks] at hplaces ⊢
    rw [acquire_of_working hworks']
    have hplace : w.tokens.drawn ∈ places :=
      hplaces (Set.mem_Ico.mpr ⟨le_rfl, Nat.lt_succ_self w.tokens.drawn⟩)
    have hnext : TokensPaired places draw draw' w.tokens.next (draw' w.tokens.drawn) :=
      .inl ⟨w.tokens.drawn, hplace, by rw [Supply.next, hdraw], rfl⟩
    obtain ⟨live', hledger, hlive'⟩ := Ledger.acquire_withLive hT hlive hnext selector w.now
    refine ⟨.ok ⟨rfl, rfl, hnext⟩, ?_⟩
    change Alike places draw draw' _ { w.withTokens draw' live with
      ledger := ((w.ledger.withLive live).acquire selector (draw' w.tokens.drawn) w.now).2
      tokens := (w.withTokens draw' live).tokens.rest }
    rw [hledger]
    exact ⟨_, rfl, hdraw, hlive'⟩

/-- The same credentials are out. -/
lemma Alike.isLive (hc : Credential.Alike (TokensPaired places draw draw') c c') :
    w'.ledger.isLive c' = w.ledger.isLive c := by
  obtain ⟨live, rfl, hdraw, hlive⟩ := h
  exact Ledger.isLive_withLive hT hlive hc

/-- Credentials are taken back alike. -/
lemma Alike.release (hc : Credential.Alike (TokensPaired places draw draw') c c') :
    Alike places draw draw' { w with ledger := w.ledger.release c }
      { w' with ledger := w'.ledger.release c' } := by
  obtain ⟨live, rfl, hdraw, hlive⟩ := h
  obtain ⟨live', hledger, hlive'⟩ := Ledger.release_withLive hT hlive hc
  change Alike places draw draw' _ { w.withTokens draw' live with
    ledger := (w.ledger.withLive live).release c' }
  rw [hledger]
  exact ⟨_, rfl, hdraw, hlive'⟩

/-- Clients are opened alike, and denied for the same reason. -/
lemma Alike.connect (hc : Credential.Alike (TokensPaired places draw draw') c c') (endpoint : Endpoint) :
    (w.connect endpoint c).1 = (w'.connect endpoint c').1 ∧
      Alike places draw draw' (w.connect endpoint c).2 (w'.connect endpoint c').2 := by
  have hdenial : w'.denial? c' = w.denial? c := by
    unfold denial?
    rw [h.isLive hT hc]
    obtain ⟨live, rfl, -⟩ := h
    rw [hc.isExpiredAt]
    rfl
  unfold World.connect
  rw [hdenial]
  cases w.denial? c with
  | some denial => exact ⟨rfl, h⟩
  | none =>
    obtain ⟨live, rfl, hdraw, hlive⟩ := h
    exact ⟨rfl, _, rfl, hdraw, hlive⟩

/-- Worlds that differ in their tokens alone answer alike requests alike, and still differ in their
tokens alone. -/
lemma Alike.answer {r r' : Request} {Q : r.Reply → r'.Reply → Prop}
    (hr : Request.Alike (TokensPaired places draw draw') r r' Q)
    (hplaces : Set.Ico w.tokens.drawn (answer r w).2.tokens.drawn ⊆ places) :
    Q (answer r w).1 (answer r' w').1 ∧ Alike places draw draw' (answer r w).2 (answer r' w').2 := by
  cases hr with
  | tokenless hr => exact h.tokenless hr
  | acquire selector => exact h.acquire hT selector hplaces
  | release hc => exact ⟨rfl, h.release hT hc⟩
  | connect endpoint hc => exact h.connect hT hc endpoint
  | enqueue space hc destination message => exact h.enqueue hc space destination message
  | publish hc topic event => exact h.publish hc topic event

end World

end ClaimCheck
