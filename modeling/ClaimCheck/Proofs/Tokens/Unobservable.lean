import Mathlib
import ClaimCheck.Proofs.Tokens.Bench
import ClaimCheck.Proofs.Tokens.Programs

/-!
# Tokens are not observable

The same moves made against two supplies of tokens, of which neither draws a token twice meanwhile,
have the same reports and the same views, step by step (`tokens_unobservable`).  The invariant is that the two
benches differ in their tokens alone, each token of one being the partner of a token of the other
(`Bench.Alike`): such benches look the same (`Bench.Alike.view_eq`), and each move is reported alike
and leads to such benches again (`Bench.Alike.move`).
-/

namespace ClaimCheck

open Identity Text

/-! ## Alike to the eye -/

variable {T : String → String → Prop}

/-- Lists are the same when what is related has the same image. -/
lemma map_eq_of_forall₂ {α α' β : Type} {R : α → α' → Prop} {f : α → β} {g : α' → β}
    (hfg : ∀ a a', R a a' → f a = g a') {l : List α} {l' : List α'} (h : List.Forall₂ R l l') :
    l.map f = l'.map g := by
  induction h with
  | nil => rfl
  | cons hhead _ ih => rw [List.map_cons, List.map_cons, hfg _ _ hhead, ih]

/-- Credentials that differ in their tokens alone are the same without them. -/
lemma Identity.Credential.Alike.redacted_eq {c c' : Credential} (h : Credential.Alike T c c') :
    c.redacted = c'.redacted := by
  unfold Credential.redacted
  rw [h.selector_eq, h.expiresAt_eq]

/-- Credentials that differ in their tokens alone have the same description. -/
lemma Identity.Credential.Alike.describe_eq {c c' : Credential} (h : Credential.Alike T c c') :
    c.describe = c'.describe := by
  unfold Credential.describe
  rw [h.selector_eq, h.expiresAt_eq]

/-- Sessions that differ in their tokens alone are the same without them. -/
lemma Session.Alike.redacted_eq {s s' : Session} (h : Session.Alike T s s') :
    s.redacted = s'.redacted := by
  unfold Session.redacted
  rw [h.credential.redacted_eq, h.client_eq]

/-- The same is held, without the tokens. -/
lemma Held.Alike.redacted_eq {h h' : Held} (hheld : Held.Alike T h h') :
    h.redacted = h'.redacted := by
  unfold Held.redacted
  rw [map_eq_of_forall₂ (fun _ _ hc => hc.redacted_eq) hheld.credentials, hheld.clients_eq]

/-- Worlds that differ in their tokens alone are the same without them. -/
lemma World.Alike.redacted_eq {places : Set ℕ} {draw draw' : ℕ → String} {w w' : World}
    (h : World.Alike places draw draw' w w') : w.redacted = w'.redacted := by
  obtain ⟨live, rfl, -, hlive⟩ := h
  unfold World.redacted
  rw [map_eq_of_forall₂ (fun _ _ _ => rfl) hlive]
  rfl

/-- Ends of operations that differ in the tokens of the sessions left open alone. -/
structure Ended.Alike (T : String → String → Prop) (e e' : Ended) : Prop where
  report_eq : e.report = e'.report
  left : Option.Rel (Session.Alike T) e.left e'.left

/-- Operations in progress that differ in their tokens alone. -/
structure InFlight.Alike (T : String → String → Prop) (f f' : InFlight Ended) : Prop where
  held : Held.Alike T f.held f'.held
  rest : Relay.Alike T (Ended.Alike T) f.rest f'.rest

/-- Benches that differ in their tokens alone. -/
structure Bench.Alike (places : Set ℕ) (draw draw' : ℕ → String) (b b' : Bench) : Prop where
  world : World.Alike places draw draw' b.world b'.world
  running : List.Forall₂ (InFlight.Alike (TokensPaired places draw draw')) b.running b'.running
  sessions : List.Forall₂ (Session.Alike (TokensPaired places draw draw')) b.sessions b'.sessions
  credentials :
    List.Forall₂ (Credential.Alike (TokensPaired places draw draw')) b.credentials b'.credentials

/-- Benches that differ in their tokens alone look the same. -/
lemma Bench.Alike.view_eq {places : Set ℕ} {draw draw' : ℕ → String} {b b' : Bench}
    (h : Bench.Alike places draw draw' b b') : b.view = b'.view := by
  unfold Bench.view
  rw [h.world.redacted_eq, map_eq_of_forall₂ (fun _ _ hf => hf.held.redacted_eq) h.running,
    map_eq_of_forall₂ (fun _ _ hs => hs.redacted_eq) h.sessions,
    map_eq_of_forall₂ (fun _ _ hc => hc.redacted_eq) h.credentials]

/-! ## Operations -/

section Operations

variable {ε α : Type}

/-- An attempt that treats all tokens alike ends alike. -/
lemma Attempt.Uniform.reporting {p : Attempt ε α} (hp : Attempt.Uniform T p)
    (report : Except ε α → Report) :
    Relay.Alike T (Ended.Alike T) (p.reporting report) (p.reporting report) := by
  unfold Attempt.reporting
  refine Relay.Alike.bind hp ?_
  rintro outcome _ rfl
  exact .done ⟨rfl, .none⟩

/-- Every operation treats all tokens alike. -/
lemma Operation.alike_reported (operation : Operation) :
    Relay.Alike T (Ended.Alike T) operation.reported operation.reported := by
  cases operation with
  | encodeText codec text => exact (codec.uniform_encodeText text).reporting _
  | encode codec payload => exact (codec.uniform_encode payload).reporting _
  | wrapValue codec value => exact (codec.uniform_wrapValue value).reporting _
  | fetch codec place => exact (codec.uniform_fetch place).reporting _
  | decode codec body => exact (codec.uniform_decode body).reporting _
  | send gateway message destination => exact (gateway.uniform_send message destination).reporting _
  | sendPayload gateway payload destination =>
    exact (gateway.uniform_sendPayload payload destination).reporting _
  | receive gateway body => exact (gateway.uniform_receive body).reporting _
  | receiveMessage gateway message => exact (gateway.uniform_receive message.body).reporting _
  | publish gateway event topic => exact (gateway.uniform_publish event topic).reporting _
  | publishNew gateway subject kind data topic =>
    have hevent : (EventGateway.newEvent subject kind data).AsksOnly Request.IsTokenless :=
      ⟨.drawId, fun _ => ⟨.clock, fun _ => trivial⟩⟩
    refine (Relay.Alike.of_asksOnly hevent).bind ?_
    rintro event _ rfl
    exact (gateway.uniform_publish event topic).reporting _
  | delete coordinator url => exact (coordinator.uniform_delete url).reporting _
  | handle trigger body => exact (trigger.uniform_handle body).reporting _
  | callIn access endpoint call => exact (access.uniform_call endpoint call).reporting _
  | openSession access endpoint =>
    refine (access.alike_openSession endpoint).bind ?_
    rintro _ _ (@⟨session, session', hsession⟩ | fault)
    · refine .done ⟨?_, .some hsession⟩
      change Report.opened (.ok session.client) = .opened (.ok session'.client)
      rw [hsession.client_eq]
    · exact .done ⟨rfl, .none⟩

/-- Alike programs for each of two lists, one after another. -/
lemma Relay.Alike.forM {β β' : Type} {R : β → β' → Prop} {f : β → Relay Unit} {f' : β' → Relay Unit}
    (hf : ∀ b b', R b b' → Relay.Alike T Eq (f b) (f' b')) {l : List β} {l' : List β'}
    (h : List.Forall₂ R l l') : Relay.Alike T Eq (l.forM f) (l'.forM f') := by
  induction h with
  | nil => exact .done rfl
  | cons hhead _ ih => exact (hf _ _ hhead).bind fun _ _ _ => ih

/-- What is held is given back alike. -/
lemma Held.Alike.giveBack {h h' : Held} (hheld : Held.Alike T h h') :
    Relay.Alike T Eq h.giveBack h'.giveBack := by
  obtain ⟨hcredentials, hclients⟩ := hheld
  unfold Held.giveBack
  rw [hclients]
  have hdisconnect : ∀ client client', client = client' →
      Relay.Alike T Eq (Relay.perform (.disconnect client)) (Relay.perform (.disconnect client')) := by
    rintro client _ rfl
    exact .of_asksOnly (Program.asksOnly_request (.disconnect client))
  have hrelease : ∀ c c', Credential.Alike T c c' →
      Relay.Alike T Eq (Relay.perform (.release c)) (Relay.perform (.release c')) :=
    fun c c' hc => .ask (.release hc) fun _ _ h => .done h
  refine (Relay.Alike.forM hdisconnect (List.forall₂_same.mpr fun _ _ => rfl)).bind ?_
  exact fun _ _ _ => Relay.Alike.forM hrelease hcredentials

/-- What remains of operations that are cancelled. -/
lemma InFlight.Alike.cancelled {f f' : InFlight Ended} (hf : InFlight.Alike T f f') :
    InFlight.Alike T (f.cancelled {}) (f'.cancelled {}) :=
  ⟨hf.held, hf.held.giveBack.bind fun _ _ _ => .done ⟨rfl, .none⟩⟩

/-- What remains of sessions that are dropped. -/
lemma Session.Alike.dropped {s s' : Session} (hs : Session.Alike T s s') :
    InFlight.Alike T (InFlight.dropped s {}) (InFlight.dropped s' {}) :=
  ⟨⟨.cons hs.credential .nil, congrArg ([·]) hs.client_eq⟩,
    hs.close.bind fun _ _ _ => .done ⟨rfl, .none⟩⟩

end Operations

/-! ## Moves -/

/-- A move that brings in no token that either of two supplies draws. -/
def Move.IsForeign (places : Set ℕ) (draw draw' : ℕ → String) : Move → Prop
  | .make credential => ClaimCheck.IsForeign places draw draw' credential.token
  | _ => True

namespace Bench.Alike

variable {places : Set ℕ} {draw draw' : ℕ → String} {b b' : Bench}

/-- A component has the same description on both benches. -/
lemma describe_eq (h : Bench.Alike places draw draw' b b') (part : Component) :
    b.describe part = b'.describe part := by
  have hcredential (i : Nat) (f : String → String) :
      (b.credentials[i]?.map fun c => f c.describe) =
        b'.credentials[i]?.map fun c => f c.describe := by
    have hplace := forall₂_getElem? h.credentials i
    generalize b.credentials[i]? = c at hplace ⊢
    generalize b'.credentials[i]? = c' at hplace ⊢
    cases hplace with
    | none => rfl
    | some hc => exact congrArg (fun text => some (f text)) hc.describe_eq
  obtain ⟨live, hworld, -⟩ := h.world
  unfold describe
  rw [hworld]
  cases part with
  | credential i => exact hcredential i id
  | heldCredential i =>
    exact hcredential i fun text => described "ScopedCredential" [("credential", text)]
  | _ => rfl

/-- What stands at the same place of alike lists is treated alike. -/
lemma atPlace {α : Type} {R : α → α → Prop} (h : Bench.Alike places draw draw' b b') {l l' : List α}
    (hl : List.Forall₂ R l l') (i : Nat) {f f' : α → Report × Bench}
    (hf : ∀ a a', l[i]? = some a → R a a' →
      (f a).1 = (f' a').1 ∧ Bench.Alike places draw draw' (f a).2 (f' a').2) :
    (b.atPlace l i f).1 = (b'.atPlace l' i f').1 ∧
      Bench.Alike places draw draw' (b.atPlace l i f).2 (b'.atPlace l' i f').2 := by
  have hplace := forall₂_getElem? hl i
  unfold Bench.atPlace
  generalize l[i]? = a at hplace hf ⊢
  generalize l'[i]? = a' at hplace ⊢
  cases hplace with
  | none => exact ⟨rfl, h⟩
  | some ha => exact hf _ _ rfl ha

variable (hT : Relator.BiUnique (TokensPaired places draw draw')) (h : Bench.Alike places draw draw' b b')

include hT h

/-- Letting an operation go on is reported alike. -/
lemma advance (i : Nat)
    (hplaces : Set.Ico b.world.tokens.drawn (b.advance i).2.world.tokens.drawn ⊆ places) :
    (b.advance i).1 = (b'.advance i).1 ∧
      Bench.Alike places draw draw' (b.advance i).2 (b'.advance i).2 := by
  refine h.atPlace h.running i ?_
  rintro ⟨held, rest⟩ ⟨held', rest'⟩ hget ⟨hheld, hrest⟩
  cases hrest with
  | done hended =>
    exact ⟨hended.report_eq, h.world, forall₂_eraseIdx h.running i,
      List.rel_append h.sessions (forall₂_toList hended.left), h.credentials⟩
  | @ask r _ _ _ _ hr hnext =>
    have hworld : (b.advance i).2.world = (World.answer r b.world).2 := by
      unfold Bench.advance Bench.atPlace
      rw [hget]
      rfl
    rw [hworld] at hplaces
    obtain ⟨hreply, hworld⟩ := h.world.answer hT hr hplaces
    exact ⟨rfl, hworld, forall₂_set h.running i ⟨hheld.after hT hr hreply, hnext _ _ hreply⟩,
      h.sessions, h.credentials⟩

/-- Credentials are given out alike, and nothing is told of their tokens. -/
lemma acquire (selector : Selector) (hplaces : Set.Ico b.world.tokens.drawn
      (b.move (.acquire selector)).2.world.tokens.drawn ⊆ places) :
    (b.move (.acquire selector)).1 = (b'.move (.acquire selector)).1 ∧
      Bench.Alike places draw draw' (b.move (.acquire selector)).2 (b'.move (.acquire selector)).2 := by
  obtain ⟨hreply, hworld⟩ := h.world.answer hT (.acquire selector) hplaces
  unfold Bench.move
  dsimp only
  generalize (World.answer (.acquire selector) b.world).1 = outcome at hreply ⊢
  generalize (World.answer (.acquire selector) b'.world).1 = outcome' at hreply ⊢
  cases hreply with
  | @ok c c' hc =>
    refine ⟨?_, hworld, h.running, h.sessions, List.rel_append h.credentials (.cons hc .nil)⟩
    change Report.acquired (.ok (c.selector, c.expiresAt)) = .acquired (.ok (c'.selector, c'.expiresAt))
    rw [hc.selector_eq, hc.expiresAt_eq]
  | error fault =>
    exact ⟨rfl, hworld, h.running, h.sessions, List.rel_append h.credentials .nil⟩

/-- A move is reported alike on benches that differ in their tokens alone, and leads to such benches
again. -/
lemma move {move : Move} (hmove : move.IsForeign places draw draw')
    (hplaces : Set.Ico b.world.tokens.drawn (b.move move).2.world.tokens.drawn ⊆ places) :
    (b.move move).1 = (b'.move move).1 ∧ Bench.Alike places draw draw' (b.move move).2 (b'.move move).2 := by
  cases move with
  | begin operation =>
    have hstart : InFlight.Alike (TokensPaired places draw draw') (InFlight.start operation.reported)
        (InFlight.start operation.reported) := ⟨⟨.nil, rfl⟩, operation.alike_reported⟩
    exact ⟨rfl, h.world, List.rel_append h.running (.cons hstart .nil), h.sessions, h.credentials⟩
  | advance i => exact h.advance hT i hplaces
  | cancel i =>
    refine h.atPlace h.running i fun f f' _ hf => ?_
    exact ⟨rfl, h.world, forall₂_set h.running i hf.cancelled, h.sessions, h.credentials⟩
  | close i =>
    refine h.atPlace h.sessions i fun s s' _ hs => ?_
    exact ⟨rfl, h.world, List.rel_append h.running (.cons hs.dropped .nil),
      forall₂_eraseIdx h.sessions i, h.credentials⟩
  | call client call =>
    obtain ⟨hreply, hworld⟩ := h.world.tokenless (.call client call)
    exact ⟨congrArg (Report.called call) hreply, hworld, h.running, h.sessions, h.credentials⟩
  | disconnect client =>
    obtain ⟨-, hworld⟩ := h.world.tokenless (.disconnect client)
    exact ⟨rfl, hworld, h.running, h.sessions, h.credentials⟩
  | acquire selector => exact h.acquire hT selector hplaces
  | make credential =>
    have hmade : Credential.Alike (TokensPaired places draw draw') credential credential :=
      ⟨rfl, rfl, .inr ⟨rfl, hmove⟩⟩
    exact ⟨rfl, h.world, h.running, h.sessions, List.rel_append h.credentials (.cons hmade .nil)⟩
  | release i =>
    refine h.atPlace h.credentials i fun c c' _ hc => ?_
    exact ⟨rfl, h.world.release hT hc, h.running, h.sessions, h.credentials⟩
  | isLive i =>
    refine h.atPlace h.credentials i fun c c' _ hc => ?_
    exact ⟨congrArg Report.live (h.world.isLive hT hc).symm, h⟩
  | connect i endpoint =>
    refine h.atPlace h.credentials i fun c c' _ hc => ?_
    obtain ⟨hreply, hworld⟩ := h.world.connect hT hc endpoint
    exact ⟨congrArg Report.opened hreply, hworld, h.running, h.sessions, h.credentials⟩
  | describe part => exact ⟨congrArg Report.described (h.describe_eq part), h⟩
  | outside change =>
    have htaken : change.taken b.world = change.taken b'.world := by
      obtain ⟨live, hworld, -⟩ := h.world
      rw [hworld]
      rfl
    exact ⟨congrArg Report.taken htaken, h.world.outside change, h.running, h.sessions,
      h.credentials⟩

/-- Moves that are made one after another are reported alike, and look alike after each. -/
lemma transcript_eq {moves : List Move}
    (hmoves : ∀ move ∈ moves, move.IsForeign places draw draw') (hplaces : b.drawnIn moves ⊆ places) :
    b.transcript moves = b'.transcript moves := by
  induction moves generalizing b b' with
  | nil => rfl
  | cons move moves ih =>
    obtain ⟨hfirst, hothers⟩ := b.drawnIn_cons move moves
    obtain ⟨hreport, hnext⟩ := h.move hT (hmoves move List.mem_cons_self) (hfirst.trans hplaces)
    have hrest := ih hnext (fun move hmove => hmoves move (List.mem_cons_of_mem _ hmove))
      (hothers.trans hplaces)
    unfold Bench.transcript
    rw [hreport, hnext.view_eq, hrest]

end Bench.Alike

/-- Whatever is done, tokens do not show: the same moves, made against two supplies of which neither
draws a token twice at the places at which these moves draw, have the same reports and look the same
after each of them.  Credentials that were out before and credentials that are made by hand are the same
in both runs, so their tokens must not be drawn there. -/
theorem tokens_unobservable {places : Set ℕ} {draw draw' : ℕ → String}
    (hdraw : Set.InjOn draw places) (hdraw' : Set.InjOn draw' places) {w : World}
    (hlive : ∀ token ∈ w.ledger.live, IsForeign places draw draw' token) {moves : List Move}
    (hmoves : ∀ move ∈ moves, move.IsForeign places draw draw')
    (hplaces : Bench.drawnIn { world := w.withTokens draw w.ledger.live } moves ⊆ places) :
    Bench.transcript { world := w.withTokens draw w.ledger.live } moves =
      Bench.transcript { world := w.withTokens draw' w.ledger.live } moves := by
  have hworld : World.Alike places draw draw' (w.withTokens draw w.ledger.live)
      (w.withTokens draw' w.ledger.live) :=
    ⟨w.ledger.live, rfl, rfl, List.forall₂_same.mpr fun token htoken =>
      .inr ⟨rfl, hlive token htoken⟩⟩
  have hstart : Bench.Alike places draw draw' { world := w.withTokens draw w.ledger.live }
      { world := w.withTokens draw' w.ledger.live } := ⟨hworld, .nil, .nil, .nil⟩
  exact hstart.transcript_eq (biUnique_tokensPaired hdraw hdraw') hmoves hplaces

/-- Tokens of one, two and three letters, over and over. -/
def roundToken (letter : Char) (n : ℕ) : String := String.ofList (List.replicate (n % 3 + 1) letter)

/-- The first three of them are different. -/
lemma injOn_roundToken (letter : Char) : Set.InjOn (roundToken letter) (Set.Iio 3) := by
  intro n hn m hm h
  rw [Set.mem_Iio] at hn hm
  have hlength := congrArg String.length h
  unfold roundToken at hlength
  simp only [String.length_ofList, List.length_replicate] at hlength
  omega

/-- The account that the moves below are about. -/
def stairlock : Endpoint := ⟨"stairlock", "core.windows.net"⟩

/-- A session is opened, two credentials are taken and one without a token is made by hand; one is
released twice, and all three are shown to the store. -/
def threeCredentials : List Move :=
  [.begin (.openSession ⟨.ambient⟩ stairlock), .advance 0, .advance 0, .advance 0,
    .acquire .ambient, .acquire (.managed "client"), .make ⟨.ambient, "", ⟨1, 0⟩⟩, .release 0,
    .release 0, .isLive 0, .isLive 1, .connect 0 stairlock, .connect 1 stairlock,
    .connect 2 stairlock, .describe (.heldCredential 1)]

/-- A store opens to one of three credentials, and none shows its token. -/
theorem three_credentials_unobservable :
    roundToken 'x' 0 ≠ roundToken 'y' 0 ∧
      (Bench.transcript { world := World.repeating.withTokens (roundToken 'x') [] }
        threeCredentials).map Prod.fst =
        [.nothing, .nothing, .nothing, .opened (.ok ⟨"stairlock"⟩),
          .acquired (.ok (.ambient, ⟨300, 0⟩)), .acquired (.ok (.managed "client", ⟨300, 0⟩)),
          .nothing, .nothing, .nothing, .live false, .live true,
          .opened (.error (.accessDenied .unknown stairlock)), .opened (.ok ⟨"stairlock"⟩),
          .opened (.error (.accessDenied .unknown stairlock)),
          .described (some ("ScopedCredential \x7b credential: Credential \x7b selector: " ++
            "ManagedIdentity(\"client\"), token: \"<redacted>\", " ++
            "expires_at: 1970-01-01T00:05:00Z \x7d \x7d"))] ∧
      Bench.transcript { world := World.repeating.withTokens (roundToken 'x') [] }
          threeCredentials =
        Bench.transcript { world := World.repeating.withTokens (roundToken 'y') [] }
          threeCredentials := by
  have hne : ∀ letter n, roundToken letter n ≠ "" := by
    intro letter n h
    have hlength := congrArg String.length h
    unfold roundToken at hlength
    simp at hlength
  have hmoves : ∀ move ∈ threeCredentials,
      move.IsForeign (Set.Iio 3) (roundToken 'x') (roundToken 'y') := by
    simp only [threeCredentials, List.forall_mem_cons]
    exact ⟨trivial, trivial, trivial, trivial, trivial, trivial,
      ⟨fun n _ => hne 'x' n, fun n _ => hne 'y' n⟩, trivial, trivial, trivial, trivial, trivial, trivial,
      trivial, trivial, List.forall_mem_nil _⟩
  have hlive : ∀ token ∈ World.repeating.ledger.live,
      IsForeign (Set.Iio 3) (roundToken 'x') (roundToken 'y') token := List.forall_mem_nil _
  have hplaces : Bench.drawnIn { world := World.repeating.withTokens (roundToken 'x') [] }
      threeCredentials ⊆ Set.Iio 3 := fun n hn => (Set.mem_Ico.mp hn).2
  exact ⟨by decide, rfl, tokens_unobservable (injOn_roundToken 'x') (injOn_roundToken 'y') hlive hmoves
    hplaces⟩

end ClaimCheck
