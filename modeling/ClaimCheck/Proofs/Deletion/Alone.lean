import Mathlib
import ClaimCheck.Proofs.Deletion.Program
import ClaimCheck.Proofs.World.Sessions

/-!
# Deletions that nobody disturbs

What a deletion does is decided by the target, by what the account of the target holds, and by
whether a session is opened.  `Store.Account.Deletes` lists the cases for the account: the outcome,
the calls that are logged and the containers that are left.  In each case that ends with a fault the
containers are those from before, also when the fault comes after some of the calls
(`Store.Account.Deletes.eq_of_error`), and no case touches a container other than the target's.

`World.Deletes` says the same of a world: without a session nothing but the ledger changes, and with
one the account changes as listed and all else is as after one session (`World.AfterSessions`).
-/

namespace ClaimCheck

open Deletion Identity

namespace Store

/-! ## Accounts after calls -/

namespace Account

/-- An account after calls that left these containers. -/
def after (a : Account) (calls : List Call) (containers : Keyed Blobs) : Account :=
  { a with log := a.log ++ calls.map Call.entry, containers }

/-- No calls were made yet. -/
lemma after_nil (a : Account) : a.after [] a.containers = a := by
  unfold after
  rw [List.map_nil, List.append_nil]

section Calls

variable {a : Account} {calls : List Call} {containers : Keyed Blobs} {container : String}
  {place : Locator} {blobs : Blobs}

/-- An account that is unavailable refuses a call and logs it. -/
lemma answer_after_of_unavailable (h : a.isUnavailable = true) (call : Call) :
    (a.after calls containers).answer call =
      (.error .unavailable, a.after (calls ++ [call]) containers) := by
  rw [answer_of_unavailable (a := a.after calls containers) h]
  simp [after, record]

/-- An account that is available logs a call and does what it asks. -/
lemma answer_after_of_available (h : a.isUnavailable = false) (call : Call) :
    (a.after calls containers).answer call = (a.after (calls ++ [call]) containers).perform call := by
  rw [answer_of_available (a := a.after calls containers) h]
  simp [after, record]

variable (hopen : a.isUnavailable = false)

include hopen

/-- The listing of a container that is there. -/
lemma answer_after_list (hthere : containers.get? container = some blobs) :
    (a.after calls containers).answer (.list container) =
      (.ok blobs.keys, a.after (calls ++ [.list container]) containers) := by
  rw [answer_after_of_available hopen]
  simp only [perform, after, hthere]

/-- The listing of a container that is not there. -/
lemma answer_after_list_of_none (habsent : containers.get? container = none) :
    (a.after calls containers).answer (.list container) =
      (.error (.containerNotFound container), a.after (calls ++ [.list container]) containers) := by
  rw [answer_after_of_available hopen]
  simp only [perform, after, habsent]

/-- The deletion of a blob that is there takes it out of its container. -/
lemma answer_after_deleteBlob (hthere : containers.get? place.container = some blobs)
    (hblob : blobs.get? place.name ≠ none) :
    (a.after calls containers).answer (.deleteBlob place) =
      (.ok (), a.after (calls ++ [.deleteBlob place])
        (containers.insert place.container (blobs.erase place.name))) := by
  obtain ⟨data, hdata⟩ := Option.ne_none_iff_exists'.mp hblob
  rw [answer_after_of_available hopen]
  simp only [perform, after, hthere, hdata]

/-- The deletion of a blob that its container does not hold. -/
lemma answer_after_deleteBlob_of_none (hthere : containers.get? place.container = some blobs)
    (habsent : blobs.get? place.name = none) :
    (a.after calls containers).answer (.deleteBlob place) =
      (.error (.blobNotFound place), a.after (calls ++ [.deleteBlob place]) containers) := by
  rw [answer_after_of_available hopen]
  simp only [perform, after, hthere, habsent]

/-- The deletion of a container that is there takes it out with all it holds. -/
lemma answer_after_deleteContainer (hthere : containers.get? container = some blobs) :
    (a.after calls containers).answer (.deleteContainer container) =
      (.ok (), a.after (calls ++ [.deleteContainer container]) (containers.erase container)) := by
  rw [answer_after_of_available hopen]
  simp only [perform, after, hthere]

/-- The deletion of a container that is not there. -/
lemma answer_after_deleteContainer_of_none (habsent : containers.get? container = none) :
    (a.after calls containers).answer (.deleteContainer container) =
      (.error (.containerNotFound container),
        a.after (calls ++ [.deleteContainer container]) containers) := by
  rw [answer_after_of_available hopen]
  simp only [perform, after, habsent]

end Calls

end Account

/-! ## What is left of an account -/

/-- The call that a deletion makes first. -/
def firstCall (target : Target) : Call :=
  match target.blob with
  | none => .deleteContainer target.container
  | some _ => .list target.container

/-- How the deletion of a target ends for an account: with which outcome, after which calls and
leaving which containers. -/
inductive Account.Deletes (a : Account) (target : Target) :
    Except Fault DeletionOutcome → List Call → Keyed Blobs → Prop
  | unavailable (hclosed : a.isUnavailable = true) :
    Deletes a target (.error .unavailable) [firstCall target] a.containers
  | noContainer (hopen : a.isUnavailable = false)
    (habsent : a.containers.get? target.container = none) :
    Deletes a target (.error (.containerNotFound target.container)) [firstCall target] a.containers
  | wholeContainer (hopen : a.isUnavailable = false) (htarget : target.blob = none)
    {blobs : Blobs} (hthere : a.containers.get? target.container = some blobs) :
    Deletes a target (.ok (.container target.container)) [.deleteContainer target.container]
      (a.containers.erase target.container)
  | noBlob (hopen : a.isUnavailable = false) {name : String} (htarget : target.blob = some name)
    {blobs : Blobs} (hthere : a.containers.get? target.container = some blobs)
    (habsent : blobs.get? name = none) :
    Deletes a target (.error (.blobNotFound ⟨target.container, name⟩))
      [.list target.container, .deleteBlob ⟨target.container, name⟩] a.containers
  | amongOthers (hopen : a.isUnavailable = false) {name : String} (htarget : target.blob = some name)
    {blobs : Blobs} (hthere : a.containers.get? target.container = some blobs)
    (hblob : blobs.get? name ≠ none) {other : String} (hne : other ≠ name)
    (hother : blobs.get? other ≠ none) :
    Deletes a target (.ok (.blob ⟨target.container, name⟩ false))
      [.list target.container, .deleteBlob ⟨target.container, name⟩]
      (a.containers.insert target.container (blobs.erase name))
  | lastBlob (hopen : a.isUnavailable = false) {name : String} (htarget : target.blob = some name)
    {blobs : Blobs} (hthere : a.containers.get? target.container = some blobs)
    (hblob : blobs.get? name ≠ none) (honly : ∀ other, other ≠ name → blobs.get? other = none) :
    Deletes a target (.ok (.blob ⟨target.container, name⟩ true))
      [.list target.container, .deleteBlob ⟨target.container, name⟩,
        .deleteContainer target.container]
      (a.containers.erase target.container)

namespace Account.Deletes

variable {a : Account} {target : Target} {outcome : Except Fault DeletionOutcome}
  {calls : List Call} {containers : Keyed Blobs}

/-- A deletion that fails leaves all containers as they were. -/
lemma eq_of_error {fault : Fault} (h : a.Deletes target (.error fault) calls containers) :
    containers = a.containers := by
  cases h <;> rfl

/-- A deletion leaves all containers but the target's as they were. -/
lemma get?_of_ne (h : a.Deletes target outcome calls containers) {k : String}
    (hk : k ≠ target.container) : containers.get? k = a.containers.get? k := by
  cases h with
  | unavailable => rfl
  | noContainer => rfl
  | wholeContainer => exact Keyed.get?_erase_of_ne _ hk
  | noBlob => rfl
  | amongOthers => exact Keyed.get?_insert_of_ne _ hk _
  | lastBlob => exact Keyed.get?_erase_of_ne _ hk

end Account.Deletes

/-- Dropping a key forgets what was kept under it just before. -/
lemma erase_insert (c : Keyed Blobs) (key : String) (blobs : Blobs) :
    (c.insert key blobs).erase key = c.erase key := by
  apply Keyed.ext_get?
  intro k
  simp only [Keyed.get?_erase, Keyed.get?_insert]
  split <;> rfl

/-- A container that holds a blob lists one name exactly when it holds no other. -/
lemma length_keys_eq_one_iff {blobs : Blobs} {name : String} (hblob : blobs.get? name ≠ none) :
    blobs.keys.length = 1 ↔ ∀ other, other ≠ name → blobs.get? other = none := by
  have hmem : ∀ x, x ∈ blobs.keys ↔ blobs.get? x ≠ none := by
    intro x
    rw [Option.ne_none_iff_exists', Keyed.mem_keys]
  have hnodup : blobs.keys.Nodup := by
    refine blobs.keys_pairwise.imp fun {x y} hlt heq => ?_
    rw [heq] at hlt
    exact String.lt_irrefl y hlt
  constructor
  · intro hlength other hne
    obtain ⟨x, hx⟩ := List.length_eq_one_iff.mp hlength
    by_contra hother
    have hname := (hmem name).mpr hblob
    have hlisted := (hmem other).mpr hother
    rw [hx, List.mem_singleton] at hname hlisted
    exact hne (hlisted.trans hname.symm)
  · intro honly
    have hperm : blobs.keys.Perm [name] := by
      apply (List.perm_ext_iff_of_nodup hnodup (List.nodup_singleton name)).mpr
      intro x
      rw [hmem, List.mem_singleton]
      constructor
      · intro hx
        by_contra hne
        exact hx (honly x hne)
      · rintro rfl
        exact hblob
    exact hperm.length_eq

end Store

/-! ## Deletions in a session -/

namespace World

variable {α : Type} {w w' : World}

/-- The account that was put in its place last counts. -/
lemma setAccount_setAccount (w : World) (name : String) (a b : Store.Account) :
    (w.setAccount name a).setAccount name b = w.setAccount name b := by
  unfold setAccount
  congr 1
  apply Keyed.ext_get?
  intro k
  simp only [Keyed.get?_insert]
  split <;> rfl

section Calls

variable {a : Store.Account} {target : Target}

/-- A call is answered by the account that was put in its place, and the rest goes on from there. -/
lemma run_setAccount_ask_call (client : Client) (call : Store.Call)
    (next : call.Outcome → Relay α) :
    (w.setAccount client.account a).run (.ask (.call client call) next) =
      (w.setAccount client.account (a.answer call).2).run (next (a.answer call).1) := by
  change (((w.setAccount client.account a).setAccount client.account
    (((w.setAccount client.account a).account client.account).answer call).2).run
      (next (((w.setAccount client.account a).account client.account).answer call).1)) = _
  rw [account_setAccount, if_pos rfl, setAccount_setAccount]

/-- The deletion of a container in a session. -/
lemma exists_deletes_of_container (w : World) (a : Store.Account) (session : Session)
    (htarget : target.blob = none) :
    ∃ outcome calls containers, a.Deletes target outcome calls containers ∧
      (w.setAccount session.client.account (a.after [] a.containers)).run
          (Coordinator.deleteTarget target session).run =
        (outcome, w.setAccount session.client.account (a.after calls containers)) := by
  have hprogram : (Coordinator.deleteTarget target session).run =
      .ask (.call session.client (.deleteContainer target.container)) fun
        | .error fault => .done (.error fault)
        | .ok _ => .done (.ok (.container target.container)) := by
    unfold Coordinator.deleteTarget
    rw [htarget]
    dsimp only
    rw [Attempt.run_bind, Session.run_call, Program.ask_bind]
    congr 1
    funext emptied
    rcases emptied with fault | _ <;> rfl
  have hfirst : Store.firstCall target = .deleteContainer target.container := by
    unfold Store.firstCall
    rw [htarget]
  rw [hprogram, run_setAccount_ask_call]
  cases hopen : a.isUnavailable with
  | true =>
    have hends : a.Deletes target _ _ _ := .unavailable hopen
    rw [hfirst] at hends
    rw [Store.Account.answer_after_of_unavailable hopen]
    exact ⟨_, _, _, hends, rfl⟩
  | false =>
    cases hthere : a.containers.get? target.container with
    | none =>
      have hends := Store.Account.Deletes.noContainer hopen hthere
      rw [hfirst] at hends
      rw [Store.Account.answer_after_deleteContainer_of_none hopen hthere]
      exact ⟨_, _, _, hends, rfl⟩
    | some blobs =>
      rw [Store.Account.answer_after_deleteContainer hopen hthere]
      exact ⟨_, _, _, .wholeContainer hopen htarget hthere, rfl⟩

/-- The deletion of a blob in a session. -/
lemma exists_deletes_of_blob (w : World) (a : Store.Account) (session : Session) {name : String}
    (htarget : target.blob = some name) :
    ∃ outcome calls containers, a.Deletes target outcome calls containers ∧
      (w.setAccount session.client.account (a.after [] a.containers)).run
          (Coordinator.deleteTarget target session).run =
        (outcome, w.setAccount session.client.account (a.after calls containers)) := by
  have hprogram : Coordinator.deleteTarget target session =
      Coordinator.deleteBlob ⟨target.container, name⟩ session := by
    unfold Coordinator.deleteTarget
    rw [htarget]
  have hfirst : Store.firstCall target = .list target.container := by
    unfold Store.firstCall
    rw [htarget]
  rw [hprogram, Coordinator.run_deleteBlob, run_setAccount_ask_call]
  cases hopen : a.isUnavailable with
  | true =>
    have hends : a.Deletes target _ _ _ := .unavailable hopen
    rw [hfirst] at hends
    rw [Store.Account.answer_after_of_unavailable hopen]
    exact ⟨_, _, _, hends, rfl⟩
  | false =>
    cases hthere : a.containers.get? target.container with
    | none =>
      have hends := Store.Account.Deletes.noContainer hopen hthere
      rw [hfirst] at hends
      rw [Store.Account.answer_after_list_of_none hopen hthere]
      exact ⟨_, _, _, hends, rfl⟩
    | some blobs =>
      rw [Store.Account.answer_after_list hopen hthere]
      dsimp only
      rw [run_setAccount_ask_call]
      by_cases hblob : blobs.get? name = none
      · rw [Store.Account.answer_after_deleteBlob_of_none hopen hthere hblob]
        exact ⟨_, _, _, .noBlob hopen htarget hthere hblob, rfl⟩
      · rw [Store.Account.answer_after_deleteBlob hopen hthere hblob]
        dsimp only
        by_cases hlength : blobs.keys.length = 1
        · -- the listing held one name, so the container goes, too
          have honly := (Store.length_keys_eq_one_iff hblob).mp hlength
          rw [if_pos hlength, run_setAccount_ask_call,
            Store.Account.answer_after_deleteContainer hopen (Keyed.get?_insert_self _ _ _),
            Store.erase_insert]
          exact ⟨_, _, _, .lastBlob hopen htarget hthere hblob honly, rfl⟩
        · obtain ⟨other, hne, hother⟩ : ∃ other, other ≠ name ∧ blobs.get? other ≠ none := by
            by_contra hnone
            push Not at hnone
            exact hlength ((Store.length_keys_eq_one_iff hblob).mpr hnone)
          rw [if_neg hlength]
          exact ⟨_, _, _, .amongOthers hopen htarget hthere hblob hne hother, rfl⟩

/-- The deletion of what a target names in a session. -/
lemma exists_deletes (w : World) (a : Store.Account) (session : Session) (target : Target) :
    ∃ outcome calls containers, a.Deletes target outcome calls containers ∧
      (w.setAccount session.client.account a).run (Coordinator.deleteTarget target session).run =
        (outcome, w.setAccount session.client.account (a.after calls containers)) := by
  have hstart := a.after_nil
  cases htarget : target.blob with
  | none =>
    have hdeletes := exists_deletes_of_container w a session htarget
    rwa [hstart] at hdeletes
  | some name =>
    have hdeletes := exists_deletes_of_blob w a session htarget
    rwa [hstart] at hdeletes

end Calls

/-! ## Deletions by address -/

/-- The requests of a deletion: every client that is asked for is one of the target's account. -/
def ConnectsTo (endpoint : Endpoint) (r : Request) : Prop :=
  ∀ other credential, r = .connect other credential → other = endpoint

/-- How the deletion of a target ends in a world, and which world it leaves. -/
inductive Deletes (w : World) (access : Access) (target : Target) :
    Except Store.Fault DeletionOutcome → World → Prop
  | withoutCredential (hfails : w.ledger.failing = true) :
    Deletes w access target (.error (.identity ⟨access.selector⟩)) w
  | refused (hworks : w.ledger.failing = false) (hexpired : w.ledger.lifetime ≤ 0)
    {live : List String} (hlive : w.TokensFresh → live = w.ledger.live) :
    Deletes w access target (.error (.accessDenied .expired target.endpoint))
      { w with
        tokens := w.tokens.rest
        ledger := { w.ledger with
          live
          acquired := w.ledger.acquired + 1
          released := w.ledger.released + 1 } }
  | inSession (hopens : w.Opens) {outcome : Except Store.Fault DeletionOutcome}
    {calls : List Store.Call} {containers : Keyed Store.Blobs} {w' : World}
    (hdeletes : (w.account target.account).Deletes target outcome calls containers)
    (hsession : AfterSessions 1 w w')
    (haccount : w'.account target.account = (w.account target.account).after calls containers)
    (hothers : ∀ name, name ≠ target.account → w'.account name = w.account name) :
    Deletes w access target outcome w'

/-- The world in which a session was opened has the account of the session in its place. -/
lemma opened_eq_setAccount (w : World) (access : Access) (endpoint : Endpoint) :
    w.opened access endpoint =
      (w.opened access endpoint).setAccount endpoint.account (w.account endpoint.account) := by
  have haccounts : (w.accounts.insert endpoint.account (w.account endpoint.account)).insert
      endpoint.account (w.account endpoint.account) =
        w.accounts.insert endpoint.account (w.account endpoint.account) :=
    congrArg accounts (w.setAccount_setAccount endpoint.account (w.account endpoint.account)
      (w.account endpoint.account))
  unfold opened setAccount
  dsimp only [changeAccount, setAccount, id]
  rw [haccounts]

variable {access : Access} {endpoint : Endpoint}

/-- The deletion of what a target names, with a session for it. -/
lemma exists_deletes_within (w : World) (access : Access) (target : Target) :
    ∃ outcome w', w.run (access.within target.endpoint (Coordinator.deleteTarget target)).run =
        (outcome, w') ∧ w.Deletes access target outcome w' := by
  by_cases hfails : w.ledger.failing = true
  · have hopen := run_openSession_of_failing hfails access target.endpoint
    exact ⟨_, _, run_within_of_error _ hopen, .withoutCredential hfails⟩
  · have hworks : w.ledger.failing = false := Bool.eq_false_iff.mpr hfails
    by_cases hlifetime : 0 < w.ledger.lifetime
    · have hopens : w.Opens := ⟨hworks, hlifetime⟩
      obtain ⟨outcome, calls, containers, hdeletes, hrun⟩ := exists_deletes
        (w.opened access target.endpoint) (w.account target.account)
        (w.nextSession access target.endpoint) target
      have hstart := opened_eq_setAccount w access target.endpoint
      have hwithin := run_within hopens access target.endpoint (Coordinator.deleteTarget target)
      have hsession := afterSessions_within hopens access target.endpoint
        (Coordinator.isCall_deleteTarget target)
      have haccount := account_within hopens access target.endpoint
        (Coordinator.deleteTarget target)
      have hafter : (w.opened access target.endpoint).run
          (Coordinator.deleteTarget target (w.nextSession access target.endpoint)).run =
            (outcome, (w.opened access target.endpoint).setAccount target.account
              ((w.account target.account).after calls containers)) := by
        change ((w.opened access target.endpoint).setAccount target.endpoint.account
          (w.account target.endpoint.account)).run _ = _ at hrun
        rw [← hstart] at hrun
        exact hrun
      refine ⟨outcome, _, ?_, .inSession hopens hdeletes hsession ?_ ?_⟩
      · rw [hwithin, hafter]
      · rw [haccount, hafter, account_setAccount, if_pos rfl]
      · intro name hne
        rw [haccount, hafter, account_setAccount, if_neg hne, account_opened]
    · have hexpired : w.ledger.lifetime ≤ 0 := by omega
      have hopen := run_openSession_of_expired hworks hexpired access target.endpoint
      obtain ⟨live, hledger, hlive⟩ := exists_live_of_release hworks access.selector
      rw [hledger] at hopen
      exact ⟨_, _, run_within_of_error _ hopen, .refused hworks hexpired hlive⟩

/-- A deletion that fails leaves the containers of every account as they were. -/
lemma Deletes.containers_of_error {target : Target} {fault : Store.Fault}
    (h : w.Deletes access target (.error fault) w') (name : String) :
    (w'.account name).containers = (w.account name).containers := by
  cases h with
  | withoutCredential => rfl
  | refused => rfl
  | inSession hopens hdeletes hsession haccount hothers =>
    rcases eq_or_ne name target.account with rfl | hne
    · rw [haccount]
      exact hdeletes.eq_of_error
    · rw [hothers name hne]

/-- A deletion leaves every account but the target's as it was. -/
lemma Deletes.account_of_ne {target : Target} {outcome : Except Store.Fault DeletionOutcome}
    (h : w.Deletes access target outcome w') {name : String} (hne : name ≠ target.account) :
    w'.account name = w.account name := by
  cases h with
  | withoutCredential => rfl
  | refused => rfl
  | inSession hopens hdeletes hsession haccount hothers => exact hothers name hne

/-- A deletion leaves every container but the target's as it was. -/
lemma Deletes.get?_of_ne {target : Target} {outcome : Except Store.Fault DeletionOutcome}
    (h : w.Deletes access target outcome w') {container : String}
    (hne : container ≠ target.container) :
    (w'.account target.account).containers.get? container =
      (w.account target.account).containers.get? container := by
  cases h with
  | withoutCredential => rfl
  | refused => rfl
  | inSession hopens hdeletes hsession haccount hothers =>
    rw [haccount]
    exact hdeletes.get?_of_ne hne

/-- A session asks for what opens and closes it and for what its work asks. -/
lemma asksOnly_within {kind : Request → Prop} {work : Session → Attempt Store.Fault α}
    (hacquire : kind (.acquire access.selector))
    (hconnect : ∀ credential, kind (.connect endpoint credential))
    (hdisconnect : ∀ client, kind (.disconnect client))
    (hrelease : ∀ credential, kind (.release credential))
    (hwork : ∀ session, (work session).run.AsksOnly kind) :
    (access.within endpoint work).run.AsksOnly kind := by
  rw [Access.run_within, Access.run_openSession]
  refine Program.AsksOnly.bind ⟨hacquire, fun acquired => ?_⟩ fun opened => ?_
  · rcases acquired with fault | credential
    · trivial
    · refine ⟨hconnect credential, fun connected => ?_⟩
      rcases connected with fault | client
      · exact ⟨hrelease credential, fun _ => trivial⟩
      · trivial
  · rcases opened with fault | session
    · trivial
    · exact (hwork session).bind fun _ =>
      ⟨hdisconnect _, fun _ => ⟨hrelease _, fun _ => trivial⟩⟩

/-- A deletion connects to the account of its target only. -/
lemma asksOnly_delete {coordinator : Coordinator} {url : String} {target : Target}
    (htarget : Target.ofUrl url = .ok target) :
    (coordinator.delete url).run.AsksOnly (ConnectsTo target.endpoint) := by
  rw [Coordinator.run_delete_of_target htarget]
  refine Program.AsksOnly.bind (asksOnly_within ?_ ?_ ?_ ?_ fun session => ?_) fun _ => trivial
  · intro other credential h
    cases h
  · intro credential other credential' h
    cases h
    rfl
  · intro client other credential h
    cases h
  · intro credential other credential' h
    cases h
  · refine (Coordinator.isCall_deleteTarget target session).mono fun r hr => ?_
    obtain ⟨client, call, rfl⟩ := hr
    intro other credential h
    cases h

end World

/-- What an address that names nothing leads to is a fault before anything is asked.  Any other
deletion connects to the account of its target only and ends in one of the ways that
`World.Deletes` lists: when it fails no container of any account is other than it was, and in any case
every other account and every other container of the account are as they were. -/
theorem delete_alone (w : World) (coordinator : Coordinator) (url : String) :
    match Target.ofUrl url with
    | .error fault => w.run (coordinator.delete url).run = (.error (.target fault), w)
    | .ok target =>
      (coordinator.delete url).run.AsksOnly (World.ConnectsTo target.endpoint) ∧
      ∃ outcome w', w.run (coordinator.delete url).run = (outcome.mapError .store, w') ∧
        w.Deletes coordinator.access target outcome w' ∧
        (∀ fault, outcome = .error fault →
          ∀ name, (w'.account name).containers = (w.account name).containers) ∧
        (∀ name, name ≠ target.account → w'.account name = w.account name) ∧
        ∀ container, container ≠ target.container →
          (w'.account target.account).containers.get? container =
            (w.account target.account).containers.get? container := by
  cases htarget : Target.ofUrl url with
  | error fault =>
    dsimp only
    unfold Coordinator.delete
    rw [Attempt.run_bind, Attempt.run_ofOutcome, htarget]
    rfl
  | ok target =>
    obtain ⟨outcome, w', hrun, hdeletes⟩ := w.exists_deletes_within coordinator.access target
    refine ⟨World.asksOnly_delete htarget, outcome, w', ?_, hdeletes, ?_, ?_, ?_⟩
    · unfold World.run at hrun ⊢
      rw [Coordinator.run_delete_of_target htarget, Program.run_bind, hrun]
      rfl
    · rintro fault rfl
      exact hdeletes.containers_of_error
    · intro name hne
      exact hdeletes.account_of_ne hne
    · intro container hne
      exact hdeletes.get?_of_ne hne

/-- A world in which a container holds one blob and another container holds a blob of that name. -/
def shelvedWorld : World :=
  World.repeating.setAccount "stairlock"
    ((Store.Account.seed {} ⟨"c1", "b"⟩ "data".toUTF8).seed ⟨"c2", "b"⟩ "other".toUTF8)

/-- The only blob of a container is deleted by its address, and the container with it. -/
theorem delete_alone_last :
    (shelvedWorld.run
        (Coordinator.delete ⟨⟨.ambient⟩⟩ "https://stairlock.blob.core.windows.net/c1/b").run).1 =
      .ok (.blob ⟨"c1", "b"⟩ true) ∧
    ∃ outcome w',
      shelvedWorld.run
          (Coordinator.delete ⟨⟨.ambient⟩⟩ "https://stairlock.blob.core.windows.net/c1/b").run =
        (outcome.mapError .store, w') ∧
      shelvedWorld.Deletes ⟨.ambient⟩ ⟨"stairlock", "core.windows.net", "c1", some "b"⟩ outcome w' ∧
      (w'.account "stairlock").containers.get? "c2" =
        (shelvedWorld.account "stairlock").containers.get? "c2" := by
  refine ⟨rfl, ?_⟩
  obtain ⟨-, outcome, w', hrun, hdeletes, -, -, hothers⟩ := delete_alone shelvedWorld ⟨⟨.ambient⟩⟩
    "https://stairlock.blob.core.windows.net/c1/b"
  exact ⟨outcome, w', hrun, hdeletes, hothers "c2" (by decide)⟩

end ClaimCheck
