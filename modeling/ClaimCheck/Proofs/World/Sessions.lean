import Mathlib
import ClaimCheck.Proofs.Relay.Amid
import ClaimCheck.Proofs.World.Opening

/-!
# What sessions leave behind

A session that opens ends as it began: one more credential was acquired and released, one more
connection was made, and all else is as before but for what its calls did to the accounts
(`World.AfterSessions`).  What calls do depends only on the contents of the accounts: from worlds with
the same contents the same calls are answered alike and leave the same contents, whatever the logs
already held (`Program.AsksOnly.runsAlike_calls`).

Both together say that work in a session goes alike from two such worlds
(`World.runsAlike_within`), although the two sessions have different tokens.
-/

namespace ClaimCheck

open Identity Store

/-! ## Accounts with the same contents -/

namespace Store.Account

variable {a b : Account}

/-- Every call is logged, whatever becomes of it. -/
lemma log_answer (a : Account) (call : Call) : (a.answer call).2.log = a.log ++ [call.entry] := by
  cases h : a.isUnavailable with
  | true =>
    rw [answer_of_unavailable h]
    rfl
  | false =>
    rw [answer_of_available h]
    cases call <;> simp only [perform] <;> repeat' split
    all_goals rfl

/-- What is done for a call does not depend on the log. -/
lemma perform_congr (hcontainers : b.containers = a.containers) (call : Call) :
    (b.perform call).1 = (a.perform call).1 ∧
      (b.perform call).2.containers = (a.perform call).2.containers := by
  cases call with
  | put place data =>
    have hblob : (b.createContainer place.container).blob? place =
        (a.createContainer place.container).blob? place := by
      rw [blob?_createContainer, blob?_createContainer, blob?_eq, blob?_eq, hcontainers]
    simp only [perform, hblob]
    split <;> simp [createContainer, seed, hcontainers]
  | get place =>
    simp only [perform, hcontainers]
    repeat' split
    all_goals exact ⟨rfl, hcontainers⟩
  | deleteBlob place =>
    simp only [perform, hcontainers]
    split
    · exact ⟨rfl, hcontainers⟩
    · split
      · exact ⟨rfl, hcontainers⟩
      · exact ⟨rfl, rfl⟩
  | list container =>
    simp only [perform, hcontainers]
    split <;> exact ⟨rfl, hcontainers⟩
  | deleteContainer container =>
    simp only [perform, hcontainers]
    split
    · exact ⟨rfl, hcontainers⟩
    · exact ⟨rfl, rfl⟩

/-- An account that is available answers with what it does for the call. -/
lemma answer_fst_of_available (havailable : a.isUnavailable = false) (call : Call) :
    (a.answer call).1 = (a.perform call).1 := by
  rw [answer_of_available havailable]
  exact (perform_congr (containers_record a call) call).1

/-- A call is answered from the containers, by an account that is available. -/
lemma answer_congr (hcontainers : b.containers = a.containers)
    (havailable : b.isUnavailable = a.isUnavailable) (call : Call) :
    (b.answer call).1 = (a.answer call).1 ∧
      (b.answer call).2.containers = (a.answer call).2.containers := by
  cases h : a.isUnavailable with
  | true =>
    rw [answer_of_unavailable h, answer_of_unavailable (havailable.trans h)]
    exact ⟨rfl, hcontainers⟩
  | false =>
    rw [answer_of_available h, answer_of_available (havailable.trans h)]
    exact perform_congr (a := a.record call) (b := b.record call) hcontainers call

end Store.Account

namespace World

/-- All accounts of two worlds hold the same, and the same ones are unavailable. -/
structure SameContents (w w' : World) : Prop where
  containers : ∀ name, (w'.account name).containers = (w.account name).containers
  isUnavailable : ∀ name, (w'.account name).isUnavailable = (w.account name).isUnavailable

/-- The log of each account has grown by some entries. -/
def Logged (later : String → List LogEntry) (w w' : World) : Prop :=
  ∀ name, (w'.account name).log = (w.account name).log ++ later name

variable {w w' w'' : World} {later more : String → List LogEntry}

/-- Nothing is logged where the accounts stay as they were. -/
lemma logged_of_account_eq (h : ∀ name, w'.account name = w.account name) :
    Logged (fun _ => []) w w' := by
  intro name
  rw [h, List.append_nil]

/-- What is logged first stands before what is logged later. -/
lemma Logged.trans (h : Logged later w w') (h' : Logged more w' w'') :
    Logged (fun name => later name ++ more name) w w'' := by
  intro name
  rw [h', h, List.append_assoc]

/-- Worlds with the same accounts have the same contents. -/
lemma sameContents_of_account_eq (h : ∀ name, w'.account name = w.account name) :
    SameContents w w' := ⟨fun name => by rw [h], fun name => by rw [h]⟩

/-- The same contents as a third world. -/
lemma SameContents.trans (h : SameContents w w') (h' : SameContents w' w'') : SameContents w w'' :=
  ⟨fun name => (h'.containers name).trans (h.containers name),
    fun name => (h'.isUnavailable name).trans (h.isUnavailable name)⟩

/-- The same contents as each other. -/
lemma SameContents.symm (h : SameContents w w') : SameContents w' w :=
  ⟨fun name => (h.containers name).symm, fun name => (h.isUnavailable name).symm⟩

/-! ## Calls -/

variable {α : Type}

/-- A call logs its entry in the account of its client. -/
lemma logged_call (w : World) (client : Client) (call : Call) :
    Logged (fun name => if client.account = name then [call.entry] else []) w
      (answer (.call client call) w).2 := by
  intro name
  dsimp only
  rw [account_answer_call]
  split
  · exact Account.log_answer _ _
  · rw [List.append_nil]

/-- The same call leaves the same contents where they were the same. -/
lemma SameContents.call (h : SameContents w w') (client : Client) (call : Call) :
    (answer (.call client call) w').1 = (answer (.call client call) w).1 ∧
      SameContents (answer (.call client call) w).2 (answer (.call client call) w').2 := by
  have hanswer : ∀ name, ((w'.account name).answer call).1 = ((w.account name).answer call).1 ∧
      ((w'.account name).answer call).2.containers = ((w.account name).answer call).2.containers :=
    fun name => Account.answer_congr (h.containers name) (h.isUnavailable name) call
  refine ⟨(hanswer client.account).1, fun name => ?_, fun name => ?_⟩
  · rw [account_answer_call, account_answer_call]
    split
    · exact (hanswer name).2
    · exact h.containers name
  · rw [account_answer_call, account_answer_call]
    split
    · rw [Account.isUnavailable_answer, Account.isUnavailable_answer, h.isUnavailable]
    · exact h.isUnavailable name

/-- A program that only calls changes nothing but the accounts. -/
lemma exists_accounts_of_calls {p : Relay α} (hp : p.AsksOnly Request.IsCall) (w : World) :
    ∃ accounts, (w.run p).2 = { w with accounts } := by
  induction p generalizing w with
  | done a => exact ⟨w.accounts, rfl⟩
  | ask r next ih =>
    obtain ⟨⟨client, call, rfl⟩, hnext⟩ := hp
    obtain ⟨accounts, haccounts⟩ := ih _ (hnext _) (answer (.call client call) w).2
    exact ⟨accounts, haccounts⟩

/-- A program that only calls is answered alike from worlds with the same contents, and leaves the
same contents and the same entries in the logs. -/
lemma SameContents.run_calls {p : Relay α} (hp : p.AsksOnly Request.IsCall)
    (h : SameContents w w') :
    (w'.run p).1 = (w.run p).1 ∧ SameContents (w.run p).2 (w'.run p).2 ∧
      ∃ later, Logged later w (w.run p).2 ∧ Logged later w' (w'.run p).2 := by
  induction p generalizing w w' with
  | done a => exact ⟨rfl, h, _, logged_of_account_eq fun _ => rfl, logged_of_account_eq fun _ => rfl⟩
  | ask r next ih =>
    obtain ⟨⟨client, call, rfl⟩, hnext⟩ := hp
    obtain ⟨hreply, hcontents⟩ := h.call client call
    obtain ⟨hresult, hafter, later, hlogged, hlogged'⟩ := ih _ (hnext _) hcontents
    change ((answer (.call client call) w').2.run (next (answer (.call client call) w').1)).1 = _ ∧
      SameContents _ ((answer (.call client call) w').2.run
        (next (answer (.call client call) w').1)).2 ∧
      ∃ later, _ ∧ Logged later w' ((answer (.call client call) w').2.run
        (next (answer (.call client call) w').1)).2
    rw [hreply]
    exact ⟨hresult, hafter, _, (logged_call w client call).trans hlogged,
      (logged_call w' client call).trans hlogged'⟩

/-! ## Sessions -/

/-- No token that is still to be drawn is out. -/
def TokensFresh (w : World) : Prop :=
  ∀ n, w.tokens.drawn ≤ n → w.tokens.draw n ∉ w.ledger.live

/-- A world after sessions that were opened and closed one after another, but for the accounts. -/
structure AfterSessions (count : Nat) (w w' : World) : Prop where
  now : w'.now = w.now
  ids : w'.ids = w.ids
  draw : w'.tokens.draw = w.tokens.draw
  drawn : w'.tokens.drawn = w.tokens.drawn + count
  lifetime : w'.ledger.lifetime = w.ledger.lifetime
  failing : w'.ledger.failing = w.ledger.failing
  acquired : w'.ledger.acquired = w.ledger.acquired + count
  released : w'.ledger.released = w.ledger.released + count
  live : w.TokensFresh → w'.ledger.live = w.ledger.live
  isVerifying : w'.isVerifying = w.isVerifying
  connections : w'.connections = w.connections + count
  openClients : w'.openClients = w.openClients
  queues : w'.queues = w.queues
  channelFailing : w'.channelFailing = w.channelFailing
  published : w'.published = w.published

/-- Nothing changes by no session. -/
lemma afterSessions_zero (w : World) : AfterSessions 0 w w :=
  ⟨rfl, rfl, rfl, rfl, rfl, rfl, rfl, rfl, fun _ => rfl, rfl, rfl, rfl, rfl, rfl, rfl⟩

/-- Tokens stay fresh over sessions. -/
lemma AfterSessions.tokensFresh {count : Nat} (h : AfterSessions count w w')
    (hfresh : w.TokensFresh) : w'.TokensFresh := by
  intro n hn
  rw [h.live hfresh, h.draw]
  exact hfresh n (by rw [h.drawn] at hn; omega)

/-- More sessions after some. -/
lemma AfterSessions.trans {count more : Nat} {w'' : World} (h : AfterSessions count w w')
    (h' : AfterSessions more w' w'') : AfterSessions (count + more) w w'' where
  now := h'.now.trans h.now
  ids := h'.ids.trans h.ids
  draw := h'.draw.trans h.draw
  drawn := by rw [h'.drawn, h.drawn, Nat.add_assoc]
  lifetime := h'.lifetime.trans h.lifetime
  failing := h'.failing.trans h.failing
  acquired := by rw [h'.acquired, h.acquired, Nat.add_assoc]
  released := by rw [h'.released, h.released, Nat.add_assoc]
  live hfresh := (h'.live (h.tokensFresh hfresh)).trans (h.live hfresh)
  isVerifying := h'.isVerifying.trans h.isVerifying
  connections := by rw [h'.connections, h.connections, Nat.add_assoc]
  openClients := h'.openClients.trans h.openClients
  queues := h'.queues.trans h.queues
  channelFailing := h'.channelFailing.trans h.channelFailing
  published := h'.published.trans h.published

/-- A world opens after sessions if it opened before. -/
lemma AfterSessions.opens {count : Nat} (h : AfterSessions count w w') (hopens : w.Opens) :
    w'.Opens := by
  unfold Opens
  rw [h.failing, h.lifetime]
  exact hopens

/-- The world in which a session has just been opened. -/
def opened (w : World) (access : Access) (endpoint : Endpoint) : World :=
  { w.changeAccount endpoint.account id with
    ledger := (w.ledger.acquire access.selector w.tokens.next w.now).2
    tokens := w.tokens.rest
    connections := w.connections + 1
    openClients := w.openClients + 1 }

/-- The session that is opened next. -/
def nextSession (w : World) (access : Access) (endpoint : Endpoint) : Session :=
  ⟨⟨endpoint.account⟩, w.nextCredential access.selector⟩

/-- The world in which a session has just been closed. -/
def closed (w : World) (session : Session) : World :=
  { w with openClients := w.openClients - 1, ledger := w.ledger.release session.credential }

/-- Opening a session changes no account. -/
lemma account_opened (w : World) (access : Access) (endpoint : Endpoint) (name : String) :
    (w.opened access endpoint).account name = w.account name := by
  change (w.changeAccount endpoint.account id).account name = _
  rw [account_changeAccount, id, ite_self]

/-- A world that opens opens its next session. -/
lemma run_openSession (hopens : w.Opens) (access : Access) (endpoint : Endpoint) :
    w.run (access.openSession endpoint).run =
      (.ok (w.nextSession access endpoint), w.opened access endpoint) := by
  obtain ⟨hworks, hlifetime⟩ := hopens
  have hacquire : answer (.acquire access.selector) w = w.acquire access.selector := rfl
  have hdenial := denial?_acquired hworks access.selector
  rw [if_pos hlifetime] at hdenial
  have hconnect : answer (.connect endpoint (w.nextCredential access.selector))
      (w.acquire access.selector).2 =
        (.ok ⟨endpoint.account⟩, w.opened access endpoint) := by
    change connect _ _ _ = _
    unfold connect
    rw [hdenial, acquire_of_working hworks]
    rfl
  unfold run
  rw [Access.run_openSession, Program.run_ask, hacquire]
  have hfirst : (w.acquire access.selector).1 = .ok (w.nextCredential access.selector) := by
    rw [acquire_of_working hworks]
  rw [hfirst]
  dsimp only
  rw [Program.run_ask, hconnect]
  rfl

/-- Work in a session goes on from the world in which it was opened. -/
lemma run_within (hopens : w.Opens) (access : Access) (endpoint : Endpoint)
    (work : Session → Attempt Store.Fault α) :
    w.run (access.within endpoint work).run =
      (((w.opened access endpoint).run (work (w.nextSession access endpoint)).run).1,
        ((w.opened access endpoint).run (work (w.nextSession access endpoint)).run).2.closed
          (w.nextSession access endpoint)) := by
  have hopen := run_openSession hopens access endpoint
  unfold run at hopen ⊢
  rw [Access.run_within, Program.run_bind, hopen]
  dsimp only
  rw [Program.run_bind]
  rfl

/-- Nothing is opened without a credential. -/
lemma run_openSession_of_failing (hfails : w.ledger.failing = true) (access : Access)
    (endpoint : Endpoint) :
    w.run (access.openSession endpoint).run = (.error (.identity ⟨access.selector⟩), w) := by
  have hacquire : answer (.acquire access.selector) w = (.error ⟨access.selector⟩, w) :=
    acquire_of_failing hfails access.selector
  unfold run
  rw [Access.run_openSession, Program.run_ask, hacquire]
  rfl

/-- A credential that has expired when it is given out opens nothing and is given back. -/
lemma run_openSession_of_expired (hworks : w.ledger.failing = false)
    (hexpired : w.ledger.lifetime ≤ 0) (access : Access) (endpoint : Endpoint) :
    w.run (access.openSession endpoint).run =
      (.error (.accessDenied .expired endpoint),
        { w with
          tokens := w.tokens.rest
          ledger := (w.ledger.acquire access.selector w.tokens.next w.now).2.release
            (w.nextCredential access.selector) }) := by
  have hacquire : answer (.acquire access.selector) w = w.acquire access.selector := rfl
  have hfirst := acquire_of_working hworks access.selector
  have hdenial := denial?_acquired hworks access.selector
  rw [if_neg (by omega), hfirst] at hdenial
  have hconnect : ∀ w₁ : World, w₁.denial? (w.nextCredential access.selector) = some .expired →
      answer (.connect endpoint (w.nextCredential access.selector)) w₁ =
        (.error (.accessDenied .expired endpoint), w₁) := by
    intro w₁ hdenied
    change w₁.connect endpoint _ = _
    unfold connect
    rw [hdenied]
  unfold run
  rw [Access.run_openSession, Program.run_ask, hacquire, hfirst]
  dsimp only
  rw [Program.run_ask, hconnect _ hdenial]
  rfl

/-- Where no session is opened, no work is done in one. -/
lemma run_within_of_error {access : Access} {endpoint : Endpoint} {fault : Store.Fault}
    (work : Session → Attempt Store.Fault α)
    (hopen : w.run (access.openSession endpoint).run = (.error fault, w')) :
    w.run (access.within endpoint work).run = (.error fault, w') := by
  unfold run at hopen ⊢
  rw [Access.run_within, Program.run_bind, hopen]
  rfl

/-- A credential that was given out and taken back: what the ledger knows of it is how often this
was done, unless the token was out before. -/
lemma exists_live_of_release (hworks : w.ledger.failing = false) (selector : Selector) :
    ∃ live, (w.ledger.acquire selector w.tokens.next w.now).2.release (w.nextCredential selector) =
        { w.ledger with
          live
          acquired := w.ledger.acquired + 1
          released := w.ledger.released + 1 } ∧
      (w.TokensFresh → live = w.ledger.live) := by
  have hlive := (Ledger.isLive_acquire hworks selector w.tokens.next w.now).2
  have hacquired : (w.ledger.acquire selector w.tokens.next w.now).2 =
      { w.ledger with
        live := if w.ledger.live.contains w.tokens.next then w.ledger.live
          else w.tokens.next :: w.ledger.live
        acquired := w.ledger.acquired + 1 } := by
    unfold Ledger.acquire
    rw [if_neg (by simp [hworks])]
  have hreleased : (w.ledger.acquire selector w.tokens.next w.now).2.release
      (w.nextCredential selector) =
        { (w.ledger.acquire selector w.tokens.next w.now).2 with
          live := (w.ledger.acquire selector w.tokens.next w.now).2.live.erase w.tokens.next
          released := (w.ledger.acquire selector w.tokens.next w.now).2.released + 1 } := by
    unfold Ledger.release
    exact if_pos hlive
  rw [hacquired] at hreleased
  rw [hacquired]
  refine ⟨_, hreleased, ?_⟩
  intro hfresh
  have hnew : w.tokens.next ∉ w.ledger.live := hfresh _ le_rfl
  dsimp only
  rw [if_neg (by simpa using hnew), List.erase_cons_head]

/-- A session that only calls leaves one credential acquired and released, and one connection. -/
lemma afterSessions_closed (hopens : w.Opens) (access : Access) (endpoint : Endpoint)
    (accounts : Keyed Account) :
    AfterSessions 1 w
      (closed { w.opened access endpoint with accounts } (w.nextSession access endpoint)) := by
  obtain ⟨live, hreleased, hlive⟩ := exists_live_of_release hopens.1 access.selector
  have hledger : (closed { w.opened access endpoint with accounts }
      (w.nextSession access endpoint)).ledger =
        { w.ledger with
          live
          acquired := w.ledger.acquired + 1
          released := w.ledger.released + 1 } := hreleased
  refine ⟨rfl, rfl, rfl, rfl, ?_, ?_, ?_, ?_, ?_, rfl, rfl, rfl, rfl, rfl, rfl⟩
  · rw [hledger]
  · rw [hledger]
  · rw [hledger]
  · rw [hledger]
  · rw [hledger]
    exact hlive

/-- Work in a session does to the accounts what its calls do. -/
lemma account_within (hopens : w.Opens) (access : Access) (endpoint : Endpoint)
    (work : Session → Attempt Store.Fault α) (name : String) :
    (w.run (access.within endpoint work).run).2.account name =
      ((w.opened access endpoint).run (work (w.nextSession access endpoint)).run).2.account
        name := by
  rw [run_within hopens]
  rfl

/-- Work in a session that only calls leaves the world as after one session. -/
lemma afterSessions_within (hopens : w.Opens) (access : Access) (endpoint : Endpoint)
    {work : Session → Attempt Store.Fault α}
    (hcalls : ∀ session, (work session).run.AsksOnly Request.IsCall) :
    AfterSessions 1 w (w.run (access.within endpoint work).run).2 := by
  obtain ⟨accounts, haccounts⟩ :=
    exists_accounts_of_calls (hcalls (w.nextSession access endpoint)) (w.opened access endpoint)
  rw [run_within hopens, haccounts]
  exact afterSessions_closed hopens access endpoint accounts

/-- A program goes alike from two worlds: it gives the same result, leaves the same contents and the
same entries in the logs, and opens and closes as many sessions. -/
structure RunsAlike (p : Relay α) (w w' : World) : Prop where
  result : (w'.run p).1 = (w.run p).1
  contents : SameContents (w.run p).2 (w'.run p).2
  exists_later : ∃ later, Logged later w (w.run p).2 ∧ Logged later w' (w'.run p).2
  exists_count : ∃ count, AfterSessions count w (w.run p).2 ∧ AfterSessions count w' (w'.run p).2

/-- A program without requests goes alike. -/
lemma runsAlike_done (h : SameContents w w') (a : α) : RunsAlike (.done a) w w' :=
  ⟨rfl, h, ⟨_, logged_of_account_eq fun _ => rfl, logged_of_account_eq fun _ => rfl⟩,
    0, afterSessions_zero w, afterSessions_zero w'⟩

/-- A program whose result is changed goes alike. -/
lemma RunsAlike.map {β : Type} {p : Relay α} (h : RunsAlike p w w') (f : α → β) :
    RunsAlike (p.bind fun a => .done (f a)) w w' := by
  have hrun : ∀ w : World, w.run (p.bind fun a => .done (f a)) = (f (w.run p).1, (w.run p).2) :=
    fun w => Program.run_bind _ _ _ _
  obtain ⟨hresult, hcontents, hlater, hcount⟩ := h
  refine ⟨?_, ?_, ?_, ?_⟩
  · rw [hrun, hrun, hresult]
  · rw [hrun, hrun]
    exact hcontents
  · rw [hrun, hrun]
    exact hlater
  · rw [hrun, hrun]
    exact hcount

/-- Work in a session that only calls, and does not look at its credential, goes alike. -/
lemma runsAlike_within (h : SameContents w w') (hopens : w.Opens) (hopens' : w'.Opens)
    (access : Access) (endpoint : Endpoint) {work : Session → Attempt Store.Fault α}
    (hwork : ∀ session session', session.client = session'.client →
      (work session).run = (work session').run)
    (hcalls : ∀ session, (work session).run.AsksOnly Request.IsCall) :
    RunsAlike (access.within endpoint work).run w w' := by
  have hsame : SameContents (w.opened access endpoint) (w'.opened access endpoint) := by
    refine (sameContents_of_account_eq (account_opened w access endpoint)).symm.trans (h.trans ?_)
    exact sameContents_of_account_eq (account_opened w' access endpoint)
  have heq : (work (w'.nextSession access endpoint)).run =
      (work (w.nextSession access endpoint)).run := hwork _ _ rfl
  have haccount := account_within hopens access endpoint work
  have haccount' := account_within hopens' access endpoint work
  rw [heq] at haccount'
  obtain ⟨hresult, hafter, later, hlater, hlater'⟩ :=
    hsame.run_calls (hcalls (w.nextSession access endpoint))
  refine ⟨?_, ⟨fun name => ?_, fun name => ?_⟩, ⟨later, fun name => ?_, fun name => ?_⟩, 1,
    afterSessions_within hopens access endpoint hcalls,
    afterSessions_within hopens' access endpoint hcalls⟩
  · rw [run_within hopens, run_within hopens', heq, hresult]
  · rw [haccount, haccount', hafter.containers]
  · rw [haccount, haccount', hafter.isUnavailable]
  · rw [haccount, hlater, account_opened]
  · rw [haccount', hlater', account_opened]

end World

end ClaimCheck
