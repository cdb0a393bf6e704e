import Mathlib
import ClaimCheck.Proofs.World.Sessions

/-!
# One call in a session of its own

A codec stores a text, or fetches one, by a single call for which a session is opened and closed.
`World.CallsOnce` lists the ways in which that ends: no credential is given out, the one that is does
not open the store, or the call is made and answered.  Each way says which world is left, so all that
a caller may want to know follows by cases: the call succeeds or fails as the account does what is
asked or not, unless it is denied before (`World.DeniesCall`); a call that fails leaves every
container of every account as it was; the log of the account grows by the call exactly if the session
is opened; and no other account changes.

Whatever becomes of it, one credential is asked for (`Access.acquires_within`).
-/

namespace ClaimCheck

open Store

/-- A request for a credential. -/
def Request.isAcquire : Request → Bool
  | .acquire _ => true
  | _ => false

/-- Work in a session that only calls asks for one credential, which is the one of the session. -/
lemma Access.acquires_within {α : Type} (access : Access) (endpoint : Endpoint)
    {work : Session → Attempt Store.Fault α}
    (hcalls : ∀ session, (work session).run.AsksOnly Request.IsCall) (w : World) :
    ((access.within endpoint work).run.asked World.answer w).filter Request.isAcquire =
      [.acquire access.selector] := by
  rw [Access.run_within, Access.run_openSession]
  refine (Program.filter_asked_bind _ (fun opened => ?_) w).trans
    (Program.filter_asked_ask rfl (fun acquired => ?_) w)
  · rcases opened with fault | session
    · trivial
    · refine ((hcalls session).mono fun r hr => ?_).bind fun outcome => ?_
      · obtain ⟨client, call, rfl⟩ := hr
        rfl
      · exact ⟨rfl, fun _ => ⟨rfl, fun _ => trivial⟩⟩
  · rcases acquired with fault | credential
    · trivial
    · refine ⟨rfl, fun connected => ?_⟩
      rcases connected with fault | client
      · exact ⟨rfl, fun _ => trivial⟩
      · trivial

namespace World

variable {w w' : World} {access : Access} {endpoint : Endpoint} {call : Call}
  {outcome : call.Outcome}

/-! ## Opening -/

/-- A credential is given out, and a session with it is opened. -/
def OpensSession (w : World) (access : Access) (endpoint : Endpoint) : Prop :=
  ∃ session, (w.run (access.openSession endpoint).run).1 = .ok session

/-- A session is opened exactly if credentials are given out and are good when they are, whoever asks
for it and to whichever account. -/
lemma opensSession_iff (w : World) (access : Access) (endpoint : Endpoint) :
    w.OpensSession access endpoint ↔ w.Opens := by
  unfold OpensSession Opens
  cases hfails : w.ledger.failing with
  | true =>
    rw [run_openSession_of_failing hfails]
    simp
  | false =>
    by_cases hlifetime : 0 < w.ledger.lifetime
    · rw [run_openSession ⟨hfails, hlifetime⟩]
      simp [hlifetime]
    · rw [run_openSession_of_expired hfails (by omega)]
      simp [hlifetime]

/-- Which identifiers are drawn later decides nothing about sessions. -/
lemma opensSession_withIds {ids : Supply Uuid} :
    ({ w with ids } : World).OpensSession access endpoint ↔ w.OpensSession access endpoint := by
  rw [opensSession_iff, opensSession_iff]
  rfl

/-! ## Calling -/

/-- Why a call is not made, or is refused whatever the account holds. -/
inductive DeniesCall (w : World) (access : Access) (endpoint : Endpoint) : Store.Fault → Prop
  | withoutCredential (hfails : w.ledger.failing = true) :
    DeniesCall w access endpoint (.identity ⟨access.selector⟩)
  | refused (hworks : w.ledger.failing = false) (hexpired : w.ledger.lifetime ≤ 0) :
    DeniesCall w access endpoint (.accessDenied .expired endpoint)
  | unavailable (hopens : w.OpensSession access endpoint)
    (hunavailable : (w.account endpoint.account).isUnavailable = true) :
    DeniesCall w access endpoint .unavailable

/-- The reasons for which a call is denied. -/
lemma deniesCall_iff {fault : Store.Fault} :
    w.DeniesCall access endpoint fault ↔
      (w.ledger.failing = true ∧ fault = .identity ⟨access.selector⟩) ∨
        (w.ledger.failing = false ∧ w.ledger.lifetime ≤ 0 ∧
          fault = .accessDenied .expired endpoint) ∨
        (w.Opens ∧ (w.account endpoint.account).isUnavailable = true ∧ fault = .unavailable) := by
  rw [← w.opensSession_iff access endpoint]
  constructor
  · rintro (hfails | ⟨hworks, hexpired⟩ | ⟨hopens, hunavailable⟩)
    · exact .inl ⟨hfails, rfl⟩
    · exact .inr (.inl ⟨hworks, hexpired, rfl⟩)
    · exact .inr (.inr ⟨hopens, hunavailable, rfl⟩)
  · rintro (⟨hfails, rfl⟩ | ⟨hworks, hexpired, rfl⟩ | ⟨hopens, hunavailable, rfl⟩)
    · exact .withoutCredential hfails
    · exact .refused hworks hexpired
    · exact .unavailable hopens hunavailable

/-- Which identifiers are drawn later decides nothing about what is denied. -/
lemma deniesCall_withIds {ids : Supply Uuid} {fault : Store.Fault} :
    ({ w with ids } : World).DeniesCall access endpoint fault ↔
      w.DeniesCall access endpoint fault := by
  rw [deniesCall_iff, deniesCall_iff]
  rfl

/-- How a call in a session of its own ends in a world, and which world it leaves. -/
inductive CallsOnce (w : World) (access : Access) (endpoint : Endpoint) (call : Call) :
    call.Outcome → World → Prop
  | withoutCredential (hfails : w.ledger.failing = true) :
    CallsOnce w access endpoint call (.error (.identity ⟨access.selector⟩)) w
  | refused (hworks : w.ledger.failing = false) (hexpired : w.ledger.lifetime ≤ 0)
    {tokens : Supply String} {ledger : Identity.Ledger} :
    CallsOnce w access endpoint call (.error (.accessDenied .expired endpoint))
      { w with tokens, ledger }
  | inSession (hopens : w.Opens) {outcome : call.Outcome} {w' : World}
    (houtcome : outcome = ((w.account endpoint.account).answer call).1)
    (hsession : AfterSessions 1 w w')
    (haccount : w'.account endpoint.account = ((w.account endpoint.account).answer call).2)
    (hothers : ∀ name, name ≠ endpoint.account → w'.account name = w.account name) :
    CallsOnce w access endpoint call outcome w'

/-- A call in a session of its own ends in one of these ways. -/
lemma callsOnce_within (w : World) (access : Access) (endpoint : Endpoint) (call : Call) :
    w.CallsOnce access endpoint call
      (w.run (access.within endpoint fun session => session.call call).run).1
      (w.run (access.within endpoint fun session => session.call call).run).2 := by
  cases hfails : w.ledger.failing with
  | true =>
    have hopen := run_openSession_of_failing hfails access endpoint
    rw [run_within_of_error _ hopen]
    exact .withoutCredential hfails
  | false =>
    by_cases hlifetime : 0 < w.ledger.lifetime
    · have hopens : w.Opens := ⟨hfails, hlifetime⟩
      have hcalls : ∀ session : Session, (session.call call).run.AsksOnly Request.IsCall :=
        fun session => session.isCall_call call
      have haccount := account_within hopens access endpoint fun session => session.call call
      refine .inSession hopens ?_ (afterSessions_within hopens access endpoint hcalls) ?_ ?_
      · rw [run_within hopens]
        change (((w.opened access endpoint).account endpoint.account).answer call).1 = _
        rw [account_opened]
      · rw [haccount]
        change (answer (.call ⟨endpoint.account⟩ call) (w.opened access endpoint)).2.account _ = _
        rw [account_answer_call, if_pos rfl, account_opened]
      · intro name hne
        rw [haccount]
        change (answer (.call ⟨endpoint.account⟩ call) (w.opened access endpoint)).2.account _ = _
        rw [account_answer_call, if_neg hne.symm, account_opened]
    · have hexpired : w.ledger.lifetime ≤ 0 := by omega
      have hopen := run_openSession_of_expired hfails hexpired access endpoint
      rw [run_within_of_error _ hopen]
      exact .refused hfails hexpired

namespace CallsOnce

/-- A call succeeds exactly if the session is opened and the account is available and does what is
asked. -/
lemma eq_ok_iff (h : w.CallsOnce access endpoint call outcome w') (answer : call.Answer) :
    outcome = .ok answer ↔
      w.OpensSession access endpoint ∧ (w.account endpoint.account).isUnavailable = false ∧
        ((w.account endpoint.account).perform call).1 = .ok answer := by
  rw [opensSession_iff]
  cases h with
  | withoutCredential hfails => simp [Opens, hfails]
  | refused hworks hexpired => simp [Opens, hexpired.not_gt]
  | inSession hopens houtcome =>
    rw [houtcome, and_iff_right hopens]
    cases havailable : (w.account endpoint.account).isUnavailable with
    | true => simp [Account.answer_of_unavailable havailable]
    | false => simp [Account.answer_fst_of_available havailable]

/-- A call fails exactly if it is denied, or if the account does not do what is asked. -/
lemma eq_error_iff (h : w.CallsOnce access endpoint call outcome w') (fault : Store.Fault) :
    outcome = .error fault ↔
      w.DeniesCall access endpoint fault ∨
        (w.OpensSession access endpoint ∧ (w.account endpoint.account).isUnavailable = false ∧
          ((w.account endpoint.account).perform call).1 = .error fault) := by
  rw [deniesCall_iff, opensSession_iff]
  cases h with
  | withoutCredential hfails =>
    have hcloses : ¬ w.Opens := fun hopens => by simp [hopens.1] at hfails
    simp [hcloses, hfails, eq_comm (a := fault)]
  | refused hworks hexpired =>
    have hcloses : ¬ w.Opens := fun hopens => hexpired.not_gt hopens.2
    simp [hcloses, hworks, hexpired, eq_comm (a := fault)]
  | inSession hopens houtcome =>
    have hworks : w.ledger.failing = false := hopens.1
    have hlifetime : 0 < w.ledger.lifetime := hopens.2
    rw [houtcome]
    cases havailable : (w.account endpoint.account).isUnavailable with
    | true =>
      simp [Account.answer_of_unavailable havailable, hopens, hworks, hlifetime,
        eq_comm (a := fault)]
    | false => simp [Account.answer_fst_of_available havailable, hopens, hworks, hlifetime]

/-- If the session was opened, the account has answered the call and all else is as after one
session. -/
lemma of_opens (h : w.CallsOnce access endpoint call outcome w')
    (hopens : w.OpensSession access endpoint) :
    w'.account endpoint.account = ((w.account endpoint.account).answer call).2 ∧
      AfterSessions 1 w w' := by
  rw [opensSession_iff] at hopens
  cases h with
  | withoutCredential hfails => simp [Opens, hfails] at hopens
  | refused hworks hexpired => exact absurd hopens.2 hexpired.not_gt
  | inSession _ _ hsession haccount => exact ⟨haccount, hsession⟩

/-- No account has changed if the session was not opened. -/
lemma account_of_not_opens (h : w.CallsOnce access endpoint call outcome w')
    (hcloses : ¬ w.OpensSession access endpoint) (name : String) :
    w'.account name = w.account name := by
  rw [opensSession_iff] at hcloses
  cases h with
  | withoutCredential => rfl
  | refused => rfl
  | inSession hopens => exact absurd hopens hcloses

/-- Every account but the one that was called is as it was. -/
lemma account_of_ne (h : w.CallsOnce access endpoint call outcome w') {name : String}
    (hne : name ≠ endpoint.account) : w'.account name = w.account name := by
  cases h with
  | withoutCredential => rfl
  | refused => rfl
  | inSession _ _ _ _ hothers => exact hothers name hne

/-- The log has grown by the call if the session was opened. -/
lemma log_of_opens (h : w.CallsOnce access endpoint call outcome w')
    (hopens : w.OpensSession access endpoint) :
    (w'.account endpoint.account).log = (w.account endpoint.account).log ++ [call.entry] := by
  rw [(h.of_opens hopens).1, Account.log_answer]

/-- A call that the account refuses, or that is not made, leaves all containers as they were. -/
lemma containers_of_error {fault : Store.Fault}
    (h : w.CallsOnce access endpoint call (.error fault) w') (name : String) :
    (w'.account name).containers = (w.account name).containers := by
  cases h with
  | withoutCredential => rfl
  | refused => rfl
  | inSession hopens houtcome hsession haccount hothers =>
    rcases eq_or_ne name endpoint.account with rfl | hne
    · rw [haccount]
      exact Account.containers_answer_of_error houtcome.symm
    · rw [hothers name hne]

end CallsOnce

end World

end ClaimCheck
