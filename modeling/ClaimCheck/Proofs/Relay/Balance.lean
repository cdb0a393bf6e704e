import Mathlib
import ClaimCheck.Proofs.Relay.Grip
import ClaimCheck.Proofs.Relay.InFlight
import ClaimCheck.Proofs.World.Opening

/-!
# The ledger and the clients stay in balance

Whatever relays do side by side, in whatever order their requests are answered and wherever they
fail or are cancelled, the ledger knows exactly the credentials that are held: by an operation in
progress, with a session, or by hand.  The clients that are open are those of operations in progress
and of sessions.

`World.Balanced` says this of a world and of what is held in it; each reply to a request that is
allowed keeps it (`World.Balanced.moves`), provided that no token was drawn twice.  `Traffic.Sound`
adds that every operation in progress is careful, and each step of the work keeps both
(`Traffic.Sound.step`).  So what an operation holds is given back wherever it is cancelled
(`Traffic.Sound.cancel`).
-/

namespace ClaimCheck

open Identity

/-! ## Balanced worlds -/

namespace World

/-- The ledger of a world knows exactly the credentials that are held, none of those that were given
back among them, and so many clients are open. -/
structure Balanced (w : World) (held returned : List Credential) (clients : Nat) : Prop where
  live : w.ledger.live.Perm (held.map Credential.token)
  nodup : w.ledger.live.Nodup
  drawn : ∀ c ∈ held ++ returned, ∃ n < w.tokens.drawn, w.tokens.draw n = c.token
  gone : ∀ c ∈ returned, c.token ∉ w.ledger.live
  counted : w.ledger.acquired = w.ledger.released + w.ledger.outstanding
  openClients_eq : w.openClients = clients

variable {w w' : World} {held held' returned : List Credential} {clients : Nat} {c : Credential}

namespace Balanced

/-- The order in which credentials are held does not matter. -/
lemma perm (h : w.Balanced held returned clients) (hperm : held.Perm held') :
    w.Balanced held' returned clients where
  live := h.live.trans (hperm.map _)
  nodup := h.nodup
  drawn := by
    intro c hc
    refine h.drawn c ?_
    rw [List.mem_append] at hc ⊢
    rwa [hperm.mem_iff]
  gone := h.gone
  counted := h.counted
  openClients_eq := h.openClients_eq

/-- Only the ledger, the tokens and the open clients of a world count. -/
lemma of_same (h : w.Balanced held returned clients) (hlive : w'.ledger.live = w.ledger.live)
    (hacquired : w'.ledger.acquired = w.ledger.acquired)
    (hreleased : w'.ledger.released = w.ledger.released) (htokens : w'.tokens = w.tokens)
    (hclients : w'.openClients = w.openClients) : w'.Balanced held returned clients where
  live := by rw [hlive]; exact h.live
  nodup := by rw [hlive]; exact h.nodup
  drawn := by rw [htokens]; exact h.drawn
  gone := by rw [hlive]; exact h.gone
  counted := by
    unfold Ledger.outstanding
    rw [hacquired, hreleased, hlive]
    exact h.counted
  openClients_eq := by rw [hclients, h.openClients_eq]

/-- A credential that was given back may be forgotten. -/
lemma forget (h : w.Balanced held (c :: returned) clients) : w.Balanced held returned clients where
  live := h.live
  nodup := h.nodup
  drawn := by
    intro other hother
    refine h.drawn other ?_
    rw [List.mem_append] at hother ⊢
    exact hother.imp id (List.mem_cons_of_mem _)
  gone := fun other hother => h.gone other (List.mem_cons_of_mem _ hother)
  counted := h.counted
  openClients_eq := h.openClients_eq

/-- As many credentials are out as are held. -/
lemma outstanding_eq (h : w.Balanced held returned clients) :
    w.ledger.outstanding = held.length := by
  unfold Ledger.outstanding
  rw [h.live.length_eq, List.length_map]

/-- The next token is not out and was never out before, if no token is drawn twice. -/
lemma next_fresh (h : w.Balanced held returned clients) (hdistinct : w.tokens.rest.IsDistinct)
    {c : Credential} (hc : c ∈ held ++ returned) : c.token ≠ w.tokens.next := by
  obtain ⟨n, hn, hdraw⟩ := h.drawn c hc
  rw [← hdraw]
  exact hdistinct.draw_ne_next hn

/-- A credential that is given out is held. -/
lemma acquire (h : w.Balanced held returned clients) (hworks : w.ledger.failing = false)
    (hdistinct : w.tokens.rest.IsDistinct) (selector : Selector) :
    (w.acquire selector).2.Balanced (w.nextCredential selector :: held) returned clients := by
  have hfresh : w.tokens.next ∉ w.ledger.live := by
    intro hmem
    rw [h.live.mem_iff, List.mem_map] at hmem
    obtain ⟨c, hc, htoken⟩ := hmem
    exact h.next_fresh hdistinct (List.mem_append_left _ hc) htoken
  have hledger : (w.ledger.acquire selector w.tokens.next w.now).2 =
      { w.ledger with
        live := w.tokens.next :: w.ledger.live
        acquired := w.ledger.acquired + 1 } := by
    unfold Ledger.acquire
    rw [if_neg (by rw [hworks]; exact Bool.false_ne_true)]
    dsimp only
    rw [if_neg (by rwa [List.contains_iff_mem])]
  rw [acquire_of_working hworks, hledger]
  refine ⟨?_, ?_, ?_, ?_, ?_, h.openClients_eq⟩
  · exact h.live.cons _
  · exact List.nodup_cons.mpr ⟨hfresh, h.nodup⟩
  · intro c hc
    rw [List.cons_append, List.mem_cons] at hc
    rcases hc with rfl | hc
    · exact ⟨w.tokens.drawn, Nat.lt_succ_self _, rfl⟩
    · obtain ⟨n, hn, hdraw⟩ := h.drawn c hc
      exact ⟨n, Nat.lt_succ_of_lt hn, hdraw⟩
  · intro c hc hmem
    rcases List.mem_cons.mp hmem with htoken | hmem
    · exact h.next_fresh hdistinct (List.mem_append_right _ hc) htoken
    · exact h.gone c hc hmem
  · have hcounted := h.counted
    unfold Ledger.outstanding at hcounted ⊢
    dsimp only
    rw [List.length_cons]
    omega

/-- A credential that is held is given back. -/
lemma release (h : w.Balanced (c :: held) returned clients) :
    (World.answer (.release c) w).2.Balanced held (c :: returned) clients := by
  have hmem : c.token ∈ w.ledger.live := by
    rw [h.live.mem_iff, List.map_cons]
    exact List.mem_cons_self
  have hledger : w.ledger.release c =
      { w.ledger with
        live := w.ledger.live.erase c.token
        released := w.ledger.released + 1 } := by
    unfold Ledger.release Ledger.isLive
    rw [if_pos (List.contains_iff_mem.mpr hmem)]
  have hsplit : w.ledger.live.Perm (c.token :: w.ledger.live.erase c.token) :=
    List.perm_cons_erase hmem
  change ({ w with ledger := w.ledger.release c } : World).Balanced _ _ _
  rw [hledger]
  refine ⟨?_, ?_, ?_, ?_, ?_, h.openClients_eq⟩
  · have := hsplit.symm.trans h.live
    rw [List.map_cons] at this
    exact this.cons_inv
  · exact h.nodup.erase _
  · intro other hother
    refine h.drawn other ?_
    rw [List.mem_append, List.mem_cons] at hother ⊢
    tauto
  · intro other hother herased
    rcases List.mem_cons.mp hother with rfl | hother
    · exact h.nodup.not_mem_erase herased
    · exact h.gone other hother (List.mem_of_mem_erase herased)
  · have hcounted := h.counted
    unfold Ledger.outstanding at hcounted ⊢
    dsimp only
    rw [hsplit.length_eq, List.length_cons] at hcounted
    omega

/-- A credential that was given back before is given back again, and nothing changes. -/
lemma release_again (h : w.Balanced held returned clients) (hc : c ∈ returned) :
    (World.answer (.release c) w).2.Balanced held returned clients := by
  have hledger : w.ledger.release c = w.ledger := by
    unfold Ledger.release Ledger.isLive
    rw [if_neg (by rw [List.contains_iff_mem]; exact h.gone c hc)]
  change ({ w with ledger := w.ledger.release c } : World).Balanced _ _ _
  rw [hledger]
  exact h

/-- A request that takes nothing and gives nothing back keeps the balance. -/
lemma neutral (h : w.Balanced held returned clients) {r : Request} (hr : r.IsNeutral) :
    (World.answer r w).2.Balanced held returned clients := by
  cases r with
  | drawId => exact h.of_same rfl rfl rfl rfl rfl
  | clock => exact h
  | acquire => exact hr.elim
  | release => exact hr.elim
  | connect => exact hr.elim
  | disconnect => exact hr.elim
  | call client call => exact h.of_same rfl rfl rfl rfl rfl
  | enqueue space credential destination message =>
    have hsame : ∀ w' : World, w' = (w.enqueue space credential destination message).2 →
        w'.Balanced held returned clients := by
      rintro w' rfl
      unfold enqueue
      dsimp only
      repeat' split
      · exact h
      · exact h
      · exact h.of_same rfl rfl rfl rfl rfl
    exact hsame _ rfl
  | publish credential topic event =>
    change (w.publish credential topic event).2.Balanced held returned clients
    unfold publish
    split
    · exact h
    · exact h.of_same rfl rfl rfl rfl rfl

/-- A change from outside keeps the balance. -/
lemma outside (h : w.Balanced held returned clients) (change : Outside) :
    (change.apply w).Balanced held returned clients := by
  cases change <;> exact h.of_same rfl rfl rfl rfl rfl

/-- A request that a grip allows keeps the balance, whatever else is held. -/
lemma moves {g g' : Grip} {r : Request} (hmoves : Grip.Moves g r (World.answer r w).1 g')
    (hdistinct : (World.answer r w).2.tokens.IsDistinct)
    (h : w.Balanced (g.held.credentials ++ held) returned (g.held.clients.length + clients)) :
    (World.answer r w).2.Balanced (g'.held.credentials ++ held) returned
      (g'.held.clients.length + clients) := by
  generalize hreply : (World.answer r w).1 = reply at hmoves
  cases hmoves with
  | acquired selector c =>
    change (w.acquire selector).1 = _ at hreply
    change (w.acquire selector).2.tokens.IsDistinct at hdistinct
    change (w.acquire selector).2.Balanced _ _ _
    cases hworks : w.ledger.failing with
    | true =>
      rw [acquire_of_failing hworks] at hreply
      cases hreply
    | false =>
      rw [acquire_of_working hworks] at hdistinct
      have hc : w.nextCredential selector = c := by
        rw [acquire_of_working hworks] at hreply
        exact Except.ok.inj hreply
      rw [← hc]
      exact Balanced.acquire h hworks hdistinct selector
  | notAcquired selector fault =>
    change (w.acquire selector).1 = _ at hreply
    change (w.acquire selector).2.Balanced _ _ _
    cases hworks : w.ledger.failing with
    | true =>
      rw [acquire_of_failing hworks]
      exact h
    | false =>
      rw [acquire_of_working hworks] at hreply
      cases hreply
  | connected endpoint c client =>
    change (w.connect endpoint c).1 = _ at hreply
    change (w.connect endpoint c).2.Balanced _ _ _
    unfold connect at hreply ⊢
    cases hdenial : w.denial? c with
    | some denial =>
      rw [hdenial] at hreply
      cases hreply
    | none =>
      refine ⟨h.live, h.nodup, h.drawn, h.gone, h.counted, ?_⟩
      have hclients := h.openClients_eq
      simp only [Grip.held, List.length_nil, List.length_cons] at hclients ⊢
      omega
  | notConnected endpoint c fault =>
    change (w.connect endpoint c).1 = _ at hreply
    change (w.connect endpoint c).2.Balanced _ _ _
    unfold connect at hreply ⊢
    cases hdenial : w.denial? c with
    | some denial => exact h
    | none =>
      rw [hdenial] at hreply
      cases hreply
  | disconnected s =>
    refine ⟨h.live, h.nodup, h.drawn, h.gone, h.counted, ?_⟩
    change w.openClients - 1 = _
    have hclients := h.openClients_eq
    simp only [Grip.held, List.length_nil, List.length_cons] at hclients ⊢
    omega
  | released c => exact (Balanced.release h).forget
  | neutral _ hr => exact h.neutral hr

end Balanced

/-- A world whose ledger has given out nothing yet, and where no client is open. -/
structure IsFresh (w : World) : Prop where
  live : w.ledger.live = []
  acquired : w.ledger.acquired = 0
  released : w.ledger.released = 0
  openClients : w.openClients = 0

end World

/-! ## Work in balance -/

namespace Traffic

/-- The credentials that are held: in operations in progress, with sessions, and by hand. -/
def credentials (s : Traffic) : List Credential :=
  s.running.flatMap (fun f => f.held.credentials) ++ s.sessions.map Session.credential ++ s.taken

/-- The clients that are open: in operations in progress, and those of sessions. -/
def clients (s : Traffic) : List Client :=
  s.running.flatMap (fun f => f.held.clients) ++ s.sessions.map Session.client

variable {s s' : Traffic} {h : Happening} {before after : List (InFlight (Option Session))}
  {f : InFlight (Option Session)}

/-- The credentials of one operation and all the others. -/
lemma credentials_perm (hrunning : s.running = before ++ f :: after) :
    s.credentials.Perm
      (f.held.credentials ++ ({ s with running := before ++ after } : Traffic).credentials) := by
  unfold credentials
  rw [hrunning, List.flatMap_append, List.flatMap_cons, List.flatMap_append]
  simp only [List.append_assoc]
  exact List.perm_append_comm_assoc _ _ _

/-- The clients of one operation and all the others. -/
lemma length_clients (hrunning : s.running = before ++ f :: after) :
    s.clients.length =
      f.held.clients.length + ({ s with running := before ++ after } : Traffic).clients.length := by
  unfold clients
  rw [hrunning, List.flatMap_append, List.flatMap_cons, List.flatMap_append]
  simp only [List.length_append]
  omega

/-- The credential of one session and all the others. -/
lemma credentials_perm_session {before after : List Session} {session : Session}
    (hsessions : s.sessions = before ++ session :: after) :
    s.credentials.Perm
      (session.credential :: ({ s with sessions := before ++ after } : Traffic).credentials) := by
  unfold credentials
  rw [hsessions, List.map_append, List.map_cons, List.map_append]
  simp only [List.append_assoc, List.cons_append]
  rw [← List.append_assoc, ← List.append_assoc]
  exact List.perm_middle

/-- The client of one session and all the others. -/
lemma length_clients_session {before after : List Session} {session : Session}
    (hsessions : s.sessions = before ++ session :: after) :
    s.clients.length = 1 + ({ s with sessions := before ++ after } : Traffic).clients.length := by
  unfold clients
  rw [hsessions, List.map_append, List.map_cons, List.map_append]
  simp only [List.length_append, List.length_cons]
  omega

/-- One credential that was taken by hand and all the others. -/
lemma credentials_perm_taken {before after : List Credential} {credential : Credential}
    (htaken : s.taken = before ++ credential :: after) :
    s.credentials.Perm
      (credential :: ({ s with taken := before ++ after } : Traffic).credentials) := by
  unfold credentials
  rw [htaken, ← List.append_assoc]
  simp only [← List.append_assoc _ before after]
  exact List.perm_middle

/-- Every operation in progress is careful, and the world is in balance with what is held. -/
structure Sound (s : Traffic) : Prop where
  careful : ∀ f ∈ s.running, ∃ g : Grip, f.held = g.held ∧ Careful Leaves g f.rest
  balanced : s.world.Balanced s.credentials s.returned s.clients.length

namespace Sound

/-- What one operation holds, and the balance of the world with it and all the others. -/
lemma split (hsound : s.Sound) (hrunning : s.running = before ++ f :: after) :
    ∃ g : Grip, f.held = g.held ∧ Careful Leaves g f.rest ∧
      s.world.Balanced
        (g.held.credentials ++ ({ s with running := before ++ after } : Traffic).credentials)
        s.returned
        (g.held.clients.length +
          ({ s with running := before ++ after } : Traffic).clients.length) := by
  obtain ⟨g, hheld, hcareful⟩ := hsound.careful f (by rw [hrunning]; simp)
  refine ⟨g, hheld, hcareful, ?_⟩
  rw [← hheld, ← length_clients hrunning]
  exact hsound.balanced.perm (credentials_perm hrunning)

/-- One operation went on, and the others are as they were. -/
lemma join {w : World} {g : Grip} {rest : Relay (Option Session)}
    (hsound : s.Sound) (hrunning : s.running = before ++ f :: after)
    (hcareful : Careful Leaves g rest)
    (hbalanced : w.Balanced
      (g.held.credentials ++ ({ s with running := before ++ after } : Traffic).credentials)
      s.returned
      (g.held.clients.length + ({ s with running := before ++ after } : Traffic).clients.length)) :
    Sound { s with world := w, running := before ++ ⟨g.held, rest⟩ :: after } := by
  set s' : Traffic := { s with world := w, running := before ++ ⟨g.held, rest⟩ :: after }
  have hrunning' : s'.running = before ++ ⟨g.held, rest⟩ :: after := rfl
  refine ⟨fun other hother => ?_, ?_⟩
  · rw [hrunning', List.mem_append, List.mem_cons] at hother
    rcases hother with hother | rfl | hother
    · exact hsound.careful other (by rw [hrunning]; simp [hother])
    · exact ⟨g, rfl, hcareful⟩
    · exact hsound.careful other (by rw [hrunning]; simp [hother])
  · rw [length_clients hrunning']
    exact hbalanced.perm (credentials_perm hrunning').symm

/-- The world changed and nothing that is held did. -/
lemma of_world {w : World} (hsound : s.Sound)
    (hbalanced : w.Balanced s.credentials s.returned s.clients.length) :
    Sound { s with world := w } :=
  ⟨hsound.careful, hbalanced⟩

/-- Each step keeps everything in balance, if no token was drawn twice. -/
lemma step (hsound : s.Sound) (hstep : Step s h s') (hdistinct : s'.world.tokens.IsDistinct) :
    s'.Sound := by
  cases hstep with
  | begin operation =>
    refine ⟨fun f hf => ?_, ?_⟩
    · rcases List.mem_cons.mp hf with rfl | hf
      · exact ⟨.nothing, rfl, operation.careful_program⟩
      · exact hsound.careful f hf
    · exact hsound.balanced
  | @advance before after held r next hrunning =>
    obtain ⟨g, hheld, hcareful, hbalanced⟩ := hsound.split hrunning
    obtain ⟨g', hmoves, hrest⟩ := hcareful (World.answer r s.world).1
    have hafter : (InFlight.mk held (.ask r next)).step World.answer s.world =
        (⟨g'.held, next (World.answer r s.world).1⟩, (World.answer r s.world).2) := by
      rw [← hmoves.held_after, ← hheld]
      rfl
    rw [hafter]
    exact hsound.join hrunning hrest (World.Balanced.moves hmoves hdistinct hbalanced)
  | @cancel before after f hrunning =>
    obtain ⟨g, hheld, -, hbalanced⟩ := hsound.split hrunning
    have hrest := g.careful_cancelled hheld
    unfold InFlight.cancelled at hrest ⊢
    rw [hheld] at hrest ⊢
    exact hsound.join hrunning hrest hbalanced
  | @finish before after held result hrunning =>
    obtain ⟨g, hheld, hleaves, hbalanced⟩ := hsound.split hrunning
    change g = Grip.ofResult result at hleaves
    subst hleaves
    refine ⟨fun f hf => hsound.careful f ?_, ?_⟩
    · change f ∈ before ++ after at hf
      rw [hrunning]
      rw [List.mem_append] at hf ⊢
      exact hf.imp id (List.mem_cons_of_mem _)
    · cases result with
      | none =>
        change s.world.Balanced _ s.returned _
        simpa [Grip.ofResult, Grip.held, credentials, clients] using hbalanced
      | some session =>
        set s' : Traffic := { s with running := before ++ after, sessions := session :: s.sessions }
        have hsessions : s'.sessions = [] ++ session :: s.sessions := rfl
        change s.world.Balanced s'.credentials s.returned s'.clients.length
        rw [length_clients_session hsessions]
        exact hbalanced.perm (credentials_perm_session hsessions).symm
  | @drop before after session hsessions =>
    refine ⟨fun f hf => ?_, ?_⟩
    · rcases List.mem_cons.mp hf with rfl | hf
      · exact ⟨.session session, rfl, session.careful_dropped⟩
      · exact hsound.careful f hf
    · have hbalanced := hsound.balanced.perm (credentials_perm_session hsessions)
      rw [length_clients_session hsessions] at hbalanced
      set s' : Traffic := { s with
        running := InFlight.dropped session none :: s.running
        sessions := before ++ after }
      have hrunning : s'.running = [] ++ InFlight.dropped session none :: s.running := rfl
      change s.world.Balanced s'.credentials s.returned s'.clients.length
      rw [length_clients hrunning]
      exact hbalanced.perm (credentials_perm hrunning).symm
  | call client call =>
    exact hsound.of_world (hsound.balanced.neutral trivial)
  | take selector =>
    refine ⟨hsound.careful, ?_⟩
    have hbalanced : s.world.Balanced (Grip.nothing.held.credentials ++ s.credentials) s.returned
        (Grip.nothing.held.clients.length + s.clients.length) := by
      simpa [Grip.held] using hsound.balanced
    cases hreply : (World.answer (.acquire selector) s.world).1 with
    | error fault =>
      have hmoves := Grip.Moves.notAcquired selector fault
      rw [← hreply] at hmoves
      have hheld : (World.answer (.acquire selector) s.world).2.Balanced s.credentials s.returned
          s.clients.length := by
        simpa [Grip.held] using World.Balanced.moves hmoves hdistinct hbalanced
      exact hheld
    | ok credential =>
      have hmoves := Grip.Moves.acquired selector credential
      rw [← hreply] at hmoves
      have hheld : (World.answer (.acquire selector) s.world).2.Balanced
          (credential :: s.credentials) s.returned s.clients.length := by
        simpa [Grip.held] using World.Balanced.moves hmoves hdistinct hbalanced
      set s' : Traffic := { s with
        world := (World.answer (.acquire selector) s.world).2
        taken := credential :: s.taken }
      have htaken : s'.taken = [] ++ credential :: s.taken := rfl
      exact hheld.perm (credentials_perm_taken htaken).symm
  | @giveBack before after credential htaken =>
    refine ⟨hsound.careful, ?_⟩
    exact (hsound.balanced.perm (credentials_perm_taken htaken)).release
  | giveBackAgain hreturned =>
    exact hsound.of_world (hsound.balanced.release_again hreturned)
  | outside change =>
    exact hsound.of_world (hsound.balanced.outside change)

end Sound

/-! ## Whole runs -/

/-- Nothing is held at the start. -/
lemma Sound.start {w : World} (hfresh : w.IsFresh) : Sound { world := w } where
  careful := fun _ hf => (List.not_mem_nil hf).elim
  balanced := {
    live := by
      rw [hfresh.live]
      exact .nil
    nodup := by
      rw [hfresh.live]
      exact List.nodup_nil
    drawn := fun _ hc => (List.not_mem_nil hc).elim
    gone := fun _ hc => (List.not_mem_nil hc).elim
    counted := by
      unfold Ledger.outstanding
      rw [hfresh.acquired, hfresh.released, hfresh.live]
      rfl
    openClients_eq := hfresh.openClients }

/-- Whatever happens in a run, everything stays in balance, if no token was drawn twice in it. -/
lemma Sound.run {allowed : World → Happening → Prop} (hsound : s.Sound) (hrun : Run allowed s s')
    (hdistinct : s'.world.tokens.IsDistinct) : s'.Sound := by
  induction hrun with
  | refl => exact hsound
  | tail _ hlast ih =>
    obtain ⟨h, -, hstep⟩ := hlast
    have hbefore := hdistinct
    rw [hstep.world_eq] at hbefore
    exact (ih (Happening.isDistinct_of_apply hbefore)).step hstep hdistinct

/-- An operation that is cancelled gives back all that it holds, and nothing else is given back. -/
lemma Sound.cancel (hsound : s.Sound) (hrunning : s.running = before ++ f :: after)
    (hdistinct : s.world.tokens.IsDistinct) :
    (f.cancel World.answer s.world).ledger.outstanding + f.held.credentials.length =
        s.world.ledger.outstanding ∧
      (f.cancel World.answer s.world).openClients + f.held.clients.length =
        s.world.openClients := by
  have htokens : (f.cancel World.answer s.world).tokens = s.world.tokens := by
    obtain ⟨g, hheld, -⟩ := hsound.careful f (by rw [hrunning]; simp)
    unfold InFlight.cancel
    rw [hheld]
    cases g <;> rfl
  have hcancelled := hsound.run (run_cancel hrunning) (by rwa [htokens])
  have hcredentials := (credentials_perm hrunning).length_eq
  have hclients := length_clients hrunning
  rw [List.length_append] at hcredentials
  have houtstanding := hcancelled.balanced.outstanding_eq
  have hopen := hcancelled.balanced.openClients_eq
  rw [hsound.balanced.outstanding_eq, hsound.balanced.openClients_eq, hcredentials, hclients]
  change (f.cancel World.answer s.world).ledger.outstanding =
    ({ s with running := before ++ after } : Traffic).credentials.length at houtstanding
  change (f.cancel World.answer s.world).openClients =
    ({ s with running := before ++ after } : Traffic).clients.length at hopen
  omega

/-- The ledger and the open clients are those of what is held, and what is held is little: an
operation in progress holds at most one credential and one client, and one that ended only the
session that it leaves open, if it does. -/
structure InBalance (s : Traffic) : Prop where
  counted : s.world.ledger.acquired = s.world.ledger.released + s.world.ledger.outstanding
  outstanding_eq : s.world.ledger.outstanding = s.credentials.length
  at_most_one : ∀ f ∈ s.running, f.held.credentials.length ≤ 1 ∧ f.held.clients.length ≤ 1
  openClients_eq : s.world.openClients = s.clients.length
  openClients_le : s.world.openClients ≤ s.world.ledger.outstanding
  ended : ∀ f ∈ s.running, ∀ result, f.rest = .done result → f.held = (Grip.ofResult result).held

/-- What is sound is in balance. -/
lemma Sound.inBalance (hsound : s.Sound) : s.InBalance := by
  have hle : s.clients.length ≤ s.credentials.length := by
    have hrunning : (s.running.flatMap fun f => f.held.clients).length ≤
        (s.running.flatMap fun f => f.held.credentials).length := by
      rw [List.length_flatMap, List.length_flatMap]
      refine List.sum_le_sum fun f hf => ?_
      obtain ⟨g, hheld, -⟩ := hsound.careful f hf
      rw [hheld]
      exact g.length_held.2
    unfold clients credentials
    simp only [List.length_append, List.length_map]
    omega
  refine ⟨hsound.balanced.counted, hsound.balanced.outstanding_eq, fun f hf => ?_,
    hsound.balanced.openClients_eq, ?_, fun f hf result hdone => ?_⟩
  · obtain ⟨g, hheld, -⟩ := hsound.careful f hf
    rw [hheld]
    exact ⟨g.length_held.1, g.length_held.2.trans g.length_held.1⟩
  · rw [hsound.balanced.openClients_eq, hsound.balanced.outstanding_eq]
    exact hle
  · obtain ⟨g, hheld, hcareful⟩ := hsound.careful f hf
    rw [hdone] at hcareful
    rw [hheld, show g = Grip.ofResult result from hcareful]

/-- An operation ended in a later state, in which everything else holds what was held before. -/
structure EndedSince (s s' : Traffic) (f : InFlight (Option Session)) : Prop where
  split : ∃ before after, s'.running = before ++ f :: after ∧
    (before ++ after).map InFlight.held = s.running.map InFlight.held
  rest : f.rest = .done none
  sessions : s'.sessions = s.sessions
  taken : s'.taken = s.taken

/-- In every state of every run that starts in a fresh world everything is in balance, and when an
operation has ended, completed, failed or cancelled, as many credentials are out and as many clients
are open as were before it, unless others took or gave back some. -/
theorem traffic_in_balance {w : World} (hfresh : w.IsFresh)
    (hrun : Run (fun _ _ => True) { world := w } s) (hdistinct : s.world.tokens.IsDistinct) :
    s.InBalance ∧ ∀ s' f, Run (fun _ _ => True) s s' → s'.world.tokens.IsDistinct →
      EndedSince s s' f →
        s'.world.ledger.outstanding = s.world.ledger.outstanding ∧
          s'.world.openClients = s.world.openClients := by
  have hsound : s.Sound := (Sound.start hfresh).run hrun hdistinct
  refine ⟨hsound.inBalance, fun s' f hlater hdistinct' hended => ?_⟩
  have hsound' := hsound.run hlater hdistinct'
  obtain ⟨before, after, hrunning, hothers⟩ := hended.split
  have hnothing : f.held = {} :=
    hsound'.inBalance.ended f (by rw [hrunning]; simp) none hended.rest
  have hcredentials : s'.credentials.length = s.credentials.length := by
    have hsame := congrArg (List.flatMap Held.credentials) hothers
    rw [List.flatMap_map, List.flatMap_map] at hsame
    rw [(credentials_perm hrunning).length_eq, hnothing, List.nil_append]
    unfold credentials
    rw [hsame, hended.sessions, hended.taken]
  have hclients : s'.clients.length = s.clients.length := by
    have hsame := congrArg (List.flatMap Held.clients) hothers
    rw [List.flatMap_map, List.flatMap_map] at hsame
    rw [length_clients hrunning, hnothing, List.length_nil, Nat.zero_add]
    unfold clients
    rw [hsame, hended.sessions]
  rw [hsound'.balanced.outstanding_eq, hsound.balanced.outstanding_eq,
    hsound'.balanced.openClients_eq, hsound.balanced.openClients_eq]
  exact ⟨hcredentials, hclients⟩

/-- Lets the operation that was started last go on by a request. -/
def proceed (s : Traffic) : Traffic :=
  match s.running with
  | f :: after =>
    { s with
      world := (f.step World.answer s.world).2
      running := (f.step World.answer s.world).1 :: after }
  | [] => s

/-- Cancels the operation that was started last. -/
def cancelLast (s : Traffic) : Traffic :=
  match s.running with
  | f :: after => { s with running := f.cancelled none :: after }
  | [] => s

/-- Going on is part of a run. -/
lemma run_proceed (s : Traffic) : Run (fun _ _ => True) s s.proceed := by
  unfold proceed
  split
  · next f after hrunning => exact @run_step s [] after f hrunning
  · exact .refl

/-- Cancelling is part of a run. -/
lemma run_cancelLast (s : Traffic) : Run (fun _ _ => True) s s.cancelLast := by
  unfold cancelLast
  split
  · next hrunning =>
    have hsplit : s.running = [] ++ _ :: _ := hrunning
    exact .single ⟨_, trivial, .cancel hsplit⟩
  · exact .refl

/-- An operation that has opened a session and is cancelled before it makes its call. -/
def interrupted : Traffic :=
  ({ world := World.repeating
     running := [InFlight.start (Operation.callIn ⟨.ambient⟩ ⟨"stairlock", "core.windows.net"⟩
       (.get ⟨"c1", "a"⟩)).program] } : Traffic).proceed.proceed.cancelLast

/-- A credential is out and a client is open while the operation is being cancelled, and neither is
afterwards.  A supply that would draw the same token again and again does for this, since only one is
drawn. -/
theorem interrupted_in_balance :
    interrupted.InBalance ∧ interrupted.world.ledger.outstanding = 1 ∧
      interrupted.world.openClients = 1 ∧
      interrupted.proceed.proceed.world.ledger.outstanding = 0 ∧
      interrupted.proceed.proceed.world.openClients = 0 := by
  have hfresh : World.repeating.IsFresh := ⟨rfl, rfl, rfl, rfl⟩
  have hone : ({ draw := fun _ => "token", drawn := 1 } : Supply String).IsDistinct :=
    fun n hn m hm _ => (Nat.lt_one_iff.mp hn).trans (Nat.lt_one_iff.mp hm).symm
  have hnone : World.repeating.tokens.IsDistinct := fun n hn => absurd hn (Nat.not_lt_zero n)
  have hbegin : Run (fun _ _ => True) { world := World.repeating } _ :=
    .single ⟨_, trivial, .begin _ (.callIn ⟨.ambient⟩ ⟨"stairlock", "core.windows.net"⟩
      (.get ⟨"c1", "a"⟩))⟩
  have hrun : Run (fun _ _ => True) { world := World.repeating } interrupted :=
    (((hbegin.trans (run_proceed _)).trans (run_proceed _)).trans (run_cancelLast _))
  have hlater : Run (fun _ _ => True) { world := World.repeating } interrupted.proceed.proceed :=
    (hrun.trans (run_proceed _)).trans (run_proceed _)
  have hended : EndedSince { world := World.repeating } interrupted.proceed.proceed
      ⟨{}, .done none⟩ := ⟨⟨[], [], rfl, rfl⟩, rfl, rfl, rfl⟩
  -- nothing was out before the operation
  obtain ⟨houtstanding, hclients⟩ :=
    (traffic_in_balance hfresh .refl hnone).2 _ _ hlater hone hended
  exact ⟨(traffic_in_balance hfresh hrun hone).1, rfl, rfl, houtstanding, hclients⟩

end Traffic

end ClaimCheck
