import Mathlib
import ClaimCheck.Proofs.Relay.Attempt
import ClaimCheck.Proofs.World.Happening

/-!
# Opening a session

A session is opened at once exactly when the identity backend gives out credentials and these are
still good when they are given out (`World.Opens`); the ledger then knows the credential, so a
verifying store takes it.  Opening changes no account, whether it succeeds or not, and neither does
closing, so working in a session does to the accounts what the work does.

The lemmas are about any handler that answers as the world does whatever is not a call to a store:
one that lets others write between two calls is such a handler, too.
-/

namespace ClaimCheck

open Identity

/-- An instant is not before the one some seconds later exactly when these are not positive. -/
lemma Instant.notBefore_later (t : Instant) (seconds : Int) :
    t.notBefore (t.later seconds) = true ↔ seconds ≤ 0 := by
  unfold notBefore later
  simp
  omega

/-- A token is out after it was given out. -/
lemma Ledger.isLive_acquire {l : Ledger} (hworks : l.failing = false) (selector : Selector)
    (token : String) (now : Instant) :
    (l.acquire selector token now).1 = .ok ⟨selector, token, now.later l.lifetime⟩ ∧
      (l.acquire selector token now).2.isLive ⟨selector, token, now.later l.lifetime⟩ = true := by
  unfold Ledger.acquire Ledger.isLive
  rw [if_neg (by rw [hworks]; exact Bool.false_ne_true)]
  refine ⟨rfl, ?_⟩
  dsimp only
  split
  · next hlive => exact hlive
  · exact List.contains_iff_mem.mpr List.mem_cons_self

namespace World

variable {w : World}

/-- Credentials are given out, and they are good when they are. -/
def Opens (w : World) : Prop := w.ledger.failing = false ∧ 0 < w.ledger.lifetime

/-- A world without an identity backend that works gives out nothing. -/
lemma acquire_of_failing (hfails : w.ledger.failing = true) (selector : Selector) :
    w.acquire selector = (.error ⟨selector⟩, w) := by
  have hledger : w.ledger.acquire selector w.tokens.next w.now = (.error ⟨selector⟩, w.ledger) := by
    unfold Ledger.acquire
    rw [if_pos hfails]
  unfold acquire
  rw [hledger]

/-- The credential that is given out when the identity backend works. -/
def nextCredential (w : World) (selector : Selector) : Credential :=
  ⟨selector, w.tokens.next, w.now.later w.ledger.lifetime⟩

/-- A world whose identity backend works gives out its next credential. -/
lemma acquire_of_working (hworks : w.ledger.failing = false) (selector : Selector) :
    w.acquire selector =
      (.ok (w.nextCredential selector),
        { w with
          ledger := (w.ledger.acquire selector w.tokens.next w.now).2
          tokens := w.tokens.rest }) := by
  have hledger := (Ledger.isLive_acquire hworks selector w.tokens.next w.now).1
  unfold acquire
  rcases hpair : w.ledger.acquire selector w.tokens.next w.now with ⟨outcome, ledger⟩
  rw [hpair] at hledger
  cases hledger
  rfl

/-- A credential has expired when it is given out exactly if it was to last no time at all. -/
lemma isExpiredAt_nextCredential (w : World) (selector : Selector) :
    (w.nextCredential selector).isExpiredAt w.now = true ↔ w.ledger.lifetime ≤ 0 :=
  Instant.notBefore_later w.now w.ledger.lifetime

/-- A credential opens a store right after it was given out unless it has expired by then. -/
lemma denial?_acquired (hworks : w.ledger.failing = false) (selector : Selector) :
    (w.acquire selector).2.denial? (w.nextCredential selector) =
      if 0 < w.ledger.lifetime then none else some .expired := by
  have hlive := (Ledger.isLive_acquire hworks selector w.tokens.next w.now).2
  have hexpired := w.isExpiredAt_nextCredential selector
  rw [acquire_of_working hworks]
  unfold denial?
  by_cases hlifetime : 0 < w.ledger.lifetime
  · rw [if_pos hlifetime, if_neg (by rw [hexpired]; omega), if_neg]
    simp only [nextCredential, hlive]
    simp
  · rw [if_neg hlifetime, if_pos (hexpired.mpr (by omega))]

/-- Connecting without a denial opens a client of the account. -/
lemma connect_fst (w : World) (endpoint : Endpoint) (credential : Credential) :
    (w.connect endpoint credential).1 =
      match w.denial? credential with
      | some denial => .error (.accessDenied denial endpoint)
      | none => .ok ⟨endpoint.account⟩ := by
  unfold connect
  cases w.denial? credential <;> rfl

end World

/-! ## Sessions under a handler -/

section Handler

variable {α : Type} {w : World} {handle : (r : Request) → World → r.Reply × World}

/-- Answers as the world does whatever is not a call to a store. -/
def AnswersButCalls (handle : (r : Request) → World → r.Reply × World) : Prop :=
  ∀ r w, (∀ client call, r ≠ .call client call) → handle r w = World.answer r w

/-- In a world that opens, a session is opened at once, and no account changes. -/
lemma AnswersButCalls.run_openSession (hhandle : AnswersButCalls handle) (hopens : w.Opens)
    (access : Access) (endpoint : Endpoint) :
    ∃ session w', (access.openSession endpoint).run.run handle w = (.ok session, w') ∧
      session.client = ⟨endpoint.account⟩ ∧ ∀ name, w'.account name = w.account name := by
  obtain ⟨hworks, hlifetime⟩ := hopens
  have hacquire : World.answer (.acquire access.selector) w = w.acquire access.selector := rfl
  have hfirst := World.acquire_of_working hworks access.selector
  have hdenial := World.denial?_acquired hworks access.selector
  rw [if_pos hlifetime, hfirst] at hdenial
  set w₁ : World := { w with
    ledger := (w.ledger.acquire access.selector w.tokens.next w.now).2
    tokens := w.tokens.rest } with hw₁
  set credential := w.nextCredential access.selector
  have hconnect := World.connect_fst w₁ endpoint credential
  rw [hdenial] at hconnect
  refine ⟨⟨⟨endpoint.account⟩, credential⟩, (w₁.connect endpoint credential).2, ?_, rfl, ?_⟩
  · have hsecond : World.answer (.connect endpoint credential) w₁ =
        (.ok ⟨endpoint.account⟩, (w₁.connect endpoint credential).2) := Prod.ext hconnect rfl
    rw [Access.run_openSession, Program.run_ask, hhandle _ _ (by simp), hacquire, hfirst]
    dsimp only
    rw [Program.run_ask, hhandle _ _ (by simp), hsecond]
    rfl
  · intro name
    rw [World.account_connect, hw₁]
    rfl

/-- In a world that does not open, opening a session fails, and no account changes. -/
lemma AnswersButCalls.run_openSession_of_not_opens (hhandle : AnswersButCalls handle)
    (hcloses : ¬ w.Opens) (access : Access) (endpoint : Endpoint) :
    ∃ fault w', (access.openSession endpoint).run.run handle w = (.error fault, w') ∧
      ∀ name, w'.account name = w.account name := by
  have hacquire : World.answer (.acquire access.selector) w = w.acquire access.selector := rfl
  cases hworks : w.ledger.failing with
  | true =>
    refine ⟨.identity ⟨access.selector⟩, w, ?_, fun _ => rfl⟩
    rw [Access.run_openSession, Program.run_ask, hhandle _ _ (by simp), hacquire,
      World.acquire_of_failing hworks]
    rfl
  | false =>
    have hlifetime : ¬ 0 < w.ledger.lifetime := fun h => hcloses ⟨hworks, h⟩
    have hfirst := World.acquire_of_working hworks access.selector
    have hdenial := World.denial?_acquired hworks access.selector
    rw [if_neg hlifetime, hfirst] at hdenial
    set w₁ : World := { w with
      ledger := (w.ledger.acquire access.selector w.tokens.next w.now).2
      tokens := w.tokens.rest } with hw₁
    set credential := w.nextCredential access.selector
    have hconnect := World.connect_fst w₁ endpoint credential
    rw [hdenial] at hconnect
    refine ⟨.accessDenied .expired endpoint,
      (World.answer (.release credential) (w₁.connect endpoint credential).2).2, ?_, ?_⟩
    · have hsecond : World.answer (.connect endpoint credential) w₁ =
          (.error (.accessDenied .expired endpoint), (w₁.connect endpoint credential).2) :=
        Prod.ext hconnect rfl
      rw [Access.run_openSession, Program.run_ask, hhandle _ _ (by simp), hacquire, hfirst]
      dsimp only
      rw [Program.run_ask, hhandle _ _ (by simp), hsecond]
      dsimp only
      rw [Program.run_ask, hhandle _ _ (by simp)]
      rfl
    · intro name
      change (w₁.connect endpoint credential).2.account name = _
      rw [World.account_connect, hw₁]
      rfl

/-- In a world that opens, working in a session gives what the work gives, from the same accounts,
and leaves the accounts as the work does. -/
lemma AnswersButCalls.run_within (hhandle : AnswersButCalls handle) (hopens : w.Opens)
    (access : Access) (endpoint : Endpoint) (work : Session → Attempt Store.Fault α) :
    ∃ session w', session.client = ⟨endpoint.account⟩ ∧
      (∀ name, w'.account name = w.account name) ∧
      ((access.within endpoint work).run.run handle w).1 =
        ((work session).run.run handle w').1 ∧
      ∀ name, ((access.within endpoint work).run.run handle w).2.account name =
        ((work session).run.run handle w').2.account name := by
  obtain ⟨session, w', hrun, hclient, haccounts⟩ := hhandle.run_openSession hopens access endpoint
  refine ⟨session, w', hclient, haccounts, ?_⟩
  rw [Access.run_within, Program.run_bind, hrun]
  dsimp only
  rw [Program.run_bind, Program.run_ask, hhandle _ _ (by simp), Program.run_ask,
    hhandle _ _ (by simp)]
  exact ⟨rfl, fun _ => rfl⟩

/-- In a world that does not open, nothing is done in a session. -/
lemma AnswersButCalls.run_within_of_not_opens (hhandle : AnswersButCalls handle)
    (hcloses : ¬ w.Opens) (access : Access) (endpoint : Endpoint)
    (work : Session → Attempt Store.Fault α) :
    (∃ fault, ((access.within endpoint work).run.run handle w).1 = .error fault) ∧
      ∀ name, ((access.within endpoint work).run.run handle w).2.account name =
        w.account name := by
  obtain ⟨fault, w', hrun, haccounts⟩ :=
    hhandle.run_openSession_of_not_opens hcloses access endpoint
  rw [Access.run_within, Program.run_bind, hrun]
  exact ⟨⟨fault, rfl⟩, haccounts⟩

/-- The world answers as the world does. -/
lemma answersButCalls_answer : AnswersButCalls World.answer := fun _ _ _ => rfl

end Handler

end ClaimCheck
