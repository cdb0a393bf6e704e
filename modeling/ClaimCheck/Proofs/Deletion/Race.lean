import Mathlib
import ClaimCheck.Proofs.Deletion.Program
import ClaimCheck.Proofs.World.Opening

/-!
# Deletions amid writes

The deletion of a blob lists the container first and decides by the number of names whether the
container goes, too.  What others write between the listing and the deletion is not looked at again.
`World.answerAmid` lets others put and seed blobs right after a listing, and `lost_amid_writes_iff`
says exactly when this costs a blob that was listed and that nobody asked to delete: when it was the
only one listed and someone else then writes the blob to be deleted, which was not there before.
-/

namespace ClaimCheck

/-! ## Writes -/

/-- A write of someone else: a put through the store of an account, or a seed past it. -/
inductive Write where
  | put (account : String) (place : Locator) (data : ByteArray)
  | seed (account : String) (place : Locator) (data : ByteArray)

namespace Write

/-- What happens to the world. -/
def happening : Write → Happening
  | put account place data => .asked (.call ⟨account⟩ (.put place data))
  | seed account place data => .outside (.seed account place data)

/-- The write is one of a blob of an account. -/
def Targets (account : String) (place : Locator) : Write → Prop
  | put other written _ => other = account ∧ written = place
  | seed other written _ => other = account ∧ written = place

variable {a : Store.Account} {account container : String}

/-- A write does not make an account available or unavailable. -/
lemma isUnavailable_onAccount (write : Write) :
    (write.happening.onAccount account a).isUnavailable = a.isUnavailable := by
  cases write with
  | put other place data =>
    change (if other = account then (a.answer (.put place data)).2 else a).isUnavailable = _
    split
    · exact Store.Account.isUnavailable_answer a _
    · rfl
  | seed other place data =>
    change (if other = account then a.seed place data else a).isUnavailable = _
    split <;> rfl

/-- A blob is there after a write exactly when it was there before or is the one written. -/
lemma blob?_onAccount (hopen : a.isUnavailable = false) (write : Write) (place : Locator) :
    (write.happening.onAccount account a).blob? place ≠ none ↔
      a.blob? place ≠ none ∨ write.Targets account place := by
  cases write with
  | put other written data =>
    change (if other = account then (a.answer (.put written data)).2 else a).blob? place ≠ none ↔
      _ ∨ (other = account ∧ written = place)
    by_cases haccount : other = account
    · rw [if_pos haccount, Store.Account.blob?_answer_put hopen]
      by_cases hplace : place = written
      · simp [haccount, hplace]
      · simp [hplace, Ne.symm hplace]
    · simp [haccount]
  | seed other written data =>
    change (if other = account then a.seed written data else a).blob? place ≠ none ↔
      _ ∨ (other = account ∧ written = place)
    by_cases haccount : other = account
    · rw [if_pos haccount, Store.Account.blob?_seed]
      by_cases hplace : place = written
      · simp [haccount, hplace]
      · simp [hplace, Ne.symm hplace]
    · simp [haccount]

end Write

/-! ## Containers that grow -/

namespace Store.Account

/-- A container that was there is there, and every blob of it has a blob of its name. -/
def Grows (container : String) (a b : Store.Account) : Prop :=
  ∀ blobs, a.containers.get? container = some blobs →
    ∃ grown, b.containers.get? container = some grown ∧
      ∀ x, blobs.get? x ≠ none → grown.get? x ≠ none

variable {container : String} {a b c : Store.Account}

/-- A container that stays as it was has grown. -/
lemma Grows.of_eq (h : b.containers.get? container = a.containers.get? container) :
    Grows container a b :=
  fun blobs hblobs => ⟨blobs, h.trans hblobs, fun _ hx => hx⟩

/-- Growing twice is growing. -/
lemma Grows.trans (hab : Grows container a b) (hbc : Grows container b c) :
    Grows container a c := by
  intro blobs hblobs
  obtain ⟨grown, hgrown, hx⟩ := hab blobs hblobs
  obtain ⟨more, hmore, hy⟩ := hbc grown hgrown
  exact ⟨more, hmore, fun x h => hy x (hx x h)⟩

/-- A write drops nothing. -/
lemma Grows.of_write (account : String) (write : Write) :
    Grows container a (write.happening.onAccount account a) := by
  cases write with
  | put other place data =>
    change Grows container a (if other = account then (a.answer (.put place data)).2 else a)
    split
    · cases hopen : a.isUnavailable with
      | true => exact .of_eq (by rw [containers_answer_of_unavailable hopen])
      | false =>
        intro blobs hblobs
        rw [get?_answer_put hopen, hblobs]
        split
        · refine ⟨_, rfl, fun x hx => ?_⟩
          rw [Option.getD_some, Keyed.get?_insertIfNew]
          split
          · exact Option.some_ne_none _
          · exact hx
        · exact ⟨blobs, rfl, fun _ hx => hx⟩
    · exact .of_eq rfl
  | seed other place data =>
    change Grows container a (if other = account then a.seed place data else a)
    split
    · intro blobs hblobs
      rw [get?_seed, hblobs]
      split
      · refine ⟨_, rfl, fun x hx => ?_⟩
        rw [Option.getD_some, Keyed.get?_insert]
        split
        · exact Option.some_ne_none _
        · exact hx
      · exact ⟨blobs, rfl, fun _ hx => hx⟩
    · exact .of_eq rfl

end Store.Account

/-! ## Writes after a listing -/

namespace World

/-- The world after others wrote. -/
def afterWrites (writes : List Write) (w : World) : World :=
  writes.foldl (fun w write => write.happening.apply w) w

/-- Answers as the world does, and lets others write right after a listing. -/
def answerAmid (writes : List Write) : (r : Request) → World → r.Reply × World
  | .call client (.list container), w =>
    ((answer (.call client (.list container)) w).1,
      (answer (.call client (.list container)) w).2.afterWrites writes)
  | r, w => answer r w

variable {account container : String}

/-- Others write at listings only. -/
lemma answersButCalls_answerAmid (writes : List Write) : AnswersButCalls (answerAmid writes) := by
  intro r w hr
  unfold answerAmid
  split
  · next client container => exact absurd rfl (hr client (.list container))
  · rfl

/-- Writes do not make an account available or unavailable. -/
lemma isUnavailable_afterWrites (writes : List Write) (w : World) :
    ((w.afterWrites writes).account account).isUnavailable = (w.account account).isUnavailable := by
  induction writes generalizing w with
  | nil => rfl
  | cons write writes ih =>
    refine (ih _).trans ?_
    rw [Happening.account_apply, Write.isUnavailable_onAccount]

/-- A blob is there after writes exactly when it was there before or is among those written. -/
lemma blob?_afterWrites {w : World} (hopen : (w.account account).isUnavailable = false)
    (writes : List Write) (place : Locator) :
    ((w.afterWrites writes).account account).blob? place ≠ none ↔
      (w.account account).blob? place ≠ none ∨ ∃ write ∈ writes, write.Targets account place := by
  induction writes generalizing w with
  | nil => simp [afterWrites]
  | cons write writes ih =>
    have hopen' : ((write.happening.apply w).account account).isUnavailable = false := by
      rw [Happening.account_apply, Write.isUnavailable_onAccount, hopen]
    refine (ih hopen').trans ?_
    rw [Happening.account_apply, Write.blob?_onAccount hopen, List.exists_mem_cons_iff, or_assoc]

/-- Writes drop nothing. -/
lemma grows_afterWrites (writes : List Write) (w : World) :
    Store.Account.Grows container (w.account account) ((w.afterWrites writes).account account) := by
  induction writes generalizing w with
  | nil => exact .of_eq rfl
  | cons write writes ih =>
    refine Store.Account.Grows.trans ?_ (ih _)
    rw [Happening.account_apply]
    exact .of_write account write

/-- A call that is answered leaves its account as the account answers it. -/
lemma account_of_answer_call {w w' : World} {client : Client} {call : Store.Call}
    {reply : call.Outcome} (hclient : client = ⟨account⟩)
    (hanswer : answer (.call client call) w = (reply, w')) :
    reply = ((w.account account).answer call).1 ∧
      w'.account account = ((w.account account).answer call).2 := by
  subst hclient
  have hreply := congrArg Prod.fst hanswer
  have hworld := congrArg Prod.snd hanswer
  dsimp only at hreply hworld
  rw [← hreply, ← hworld, account_answer_call, if_pos rfl]
  exact ⟨rfl, rfl⟩

/-- A container is gone after a call to delete it. -/
lemma get?_of_answer_deleteContainer {w w' : World} {client : Client}
    {reply : (Store.Call.deleteContainer container).Outcome} (hclient : client = ⟨account⟩)
    (hopen : (w.account account).isUnavailable = false)
    (hanswer : answer (.call client (.deleteContainer container)) w = (reply, w')) :
    (w'.account account).containers.get? container = none := by
  obtain ⟨-, haccount⟩ := account_of_answer_call hclient hanswer
  rw [haccount, Store.Account.get?_answer_deleteContainer hopen, if_pos rfl]

/-- The account right after a listing that others wrote after. -/
lemma afterListing (w : World) (writes : List Write) (container : String) {client : Client}
    (hclient : client = ⟨account⟩) :
    (answerAmid writes (.call client (.list container)) w).1 =
        ((w.account account).answer (.list container)).1 ∧
      ((answerAmid writes (.call client (.list container)) w).2.account account).isUnavailable =
        (w.account account).isUnavailable ∧
      Store.Account.Grows container (w.account account)
        ((answerAmid writes (.call client (.list container)) w).2.account account) ∧
      ((w.account account).isUnavailable = false → ∀ place,
        ((answerAmid writes (.call client (.list container)) w).2.account account).blob? place ≠
            none ↔
          (w.account account).blob? place ≠ none ∨
            ∃ write ∈ writes, write.Targets account place) := by
  subst hclient
  set w₁ := (answer (.call ⟨account⟩ (.list container)) w).2 with hw₁
  have haccount : w₁.account account = ((w.account account).answer (.list container)).2 := by
    rw [hw₁, account_answer_call, if_pos rfl]
  have hcontainers : (w₁.account account).containers = (w.account account).containers := by
    rw [haccount, Store.Account.containers_answer_of_reads (.inr ⟨container, rfl⟩)]
  have hopen : (w₁.account account).isUnavailable = (w.account account).isUnavailable := by
    rw [haccount, Store.Account.isUnavailable_answer]
  refine ⟨rfl, ?_, ?_, ?_⟩
  · exact (isUnavailable_afterWrites writes w₁).trans hopen
  · exact Store.Account.Grows.trans (.of_eq (by rw [hcontainers])) (grows_afterWrites writes w₁)
  · intro havailable place
    refine (blob?_afterWrites (hopen.trans havailable) writes place).trans ?_
    rw [Store.Account.blob?_eq, hcontainers]
    rfl

end World

/-! ## The deletion -/

namespace Coordinator

open Store

/-- What is left of a container after a blob was deleted: all its other blobs. -/
def LeavesOthers (container name : String) (a b : Account) : Prop :=
  ∀ blobs, a.containers.get? container = some blobs →
    ∃ left, b.containers.get? container = some left ∧
      ∀ x ≠ name, blobs.get? x ≠ none → left.get? x ≠ none

/-- A container that grew has its other blobs. -/
lemma LeavesOthers.of_grows {container name : String} {a b : Account}
    (h : Account.Grows container a b) : LeavesOthers container name a b := by
  intro blobs hblobs
  obtain ⟨grown, hgrown, hx⟩ := h blobs hblobs
  exact ⟨grown, hgrown, fun x _ => hx x⟩

/-- Deleting a blob leaves the others, those from before the container grew among them. -/
lemma LeavesOthers.of_deleteBlob {container name : String} {a b : Account}
    (hopen : b.isUnavailable = false) (h : Account.Grows container a b) :
    LeavesOthers container name a (b.answer (.deleteBlob ⟨container, name⟩)).2 := by
  intro blobs hblobs
  obtain ⟨grown, hgrown, hx⟩ := h blobs hblobs
  refine ⟨grown.erase name, ?_, fun x hne hthere => ?_⟩
  · rw [Account.get?_answer_deleteBlob hopen, if_pos rfl, hgrown]
    rfl
  · rw [Keyed.get?_erase, if_neg hne]
    exact hx x hthere

/-- The listing held one name, and the blob to be deleted was there when it was deleted: it was
listed, or someone else wrote it since. -/
def TakesContainer (account container name : String) (writes : List Write) (a : Account) : Prop :=
  a.isUnavailable = false ∧ (a.blobNames container).length = 1 ∧
    (a.blob? ⟨container, name⟩ ≠ none ∨
      ∃ write ∈ writes, write.Targets account ⟨container, name⟩)

variable {account container name : String} {session : Session} {w : World}

/-- The container goes with all that it holds when the listing held one name and the blob to be
deleted is there; otherwise all other blobs stay. -/
lemma account_deleteBlob_amid (name : String) (hclient : session.client = ⟨account⟩)
    (writes : List Write)
    (hthere : (w.account account).containers.get? container ≠ none) :
    (TakesContainer account container name writes (w.account account) →
      (((deleteBlob ⟨container, name⟩ session).run.run (World.answerAmid writes) w).2.account
        account).containers.get? container = none) ∧
    (¬ TakesContainer account container name writes (w.account account) →
      LeavesOthers container name (w.account account)
        (((deleteBlob ⟨container, name⟩ session).run.run (World.answerAmid writes) w).2.account
          account)) := by
  obtain ⟨blobs, hblobs⟩ := Option.ne_none_iff_exists'.mp hthere
  obtain ⟨hreply, havailable, hgrows, hpresent⟩ :=
    World.afterListing w writes container hclient
  rw [run_deleteBlob, Program.run_ask]
  dsimp only
  rcases hlist : World.answerAmid writes (.call session.client (.list container)) w with ⟨reply, w₁⟩
  rw [hlist] at hreply havailable hgrows hpresent
  dsimp only at hreply havailable hgrows hpresent
  cases hopen : (w.account account).isUnavailable with
  | true =>
    rw [Account.answer_of_unavailable hopen] at hreply
    subst hreply
    refine ⟨fun htakes => ?_, fun _ => .of_grows hgrows⟩
    rw [htakes.1] at hopen
    cases hopen
  | false =>
    rw [Account.answer_list_of_some hopen hblobs] at hreply
    subst hreply
    have hnames : (w.account account).blobNames container = blobs.keys := by
      unfold Account.blobNames
      rw [hblobs]
    have hopen₁ : (w₁.account account).isUnavailable = false := havailable.trans hopen
    rw [Program.run_ask]
    dsimp only
    rcases hdelete :
      World.answerAmid writes (.call session.client (.deleteBlob ⟨container, name⟩)) w₁
      with ⟨reply₂, w₂⟩
    obtain ⟨hreply₂, haccount₂⟩ := World.account_of_answer_call hclient hdelete
    have hleft : LeavesOthers container name (w.account account) (w₂.account account) := by
      rw [haccount₂]
      exact .of_deleteBlob hopen₁ hgrows
    by_cases hblob : (w₁.account account).blob? ⟨container, name⟩ = none
    · -- the blob is not there when it is deleted, so the session ends with a refusal
      obtain ⟨fault, hfault, -⟩ := Account.answer_deleteBlob_of_missing hopen₁ hblob
      rw [hfault] at hreply₂
      subst hreply₂
      refine ⟨fun htakes => ?_, fun _ => hleft⟩
      exact absurd hblob ((hpresent hopen ⟨container, name⟩).mpr htakes.2.2)
    · rw [Account.answer_deleteBlob_of_present hopen₁ hblob] at hreply₂
      subst hreply₂
      have hwritten := (hpresent hopen ⟨container, name⟩).mp hblob
      dsimp only
      by_cases hone : blobs.keys.length = 1
      · rw [if_pos hone, Program.run_ask]
        rcases hempty :
          World.answerAmid writes (.call session.client (.deleteContainer container)) w₂
          with ⟨reply₃, w₃⟩
        have hopen₂ : (w₂.account account).isUnavailable = false := by
          rw [haccount₂, Account.isUnavailable_answer, hopen₁]
        have hgone := World.get?_of_answer_deleteContainer hclient hopen₂ hempty
        have htakes : TakesContainer account container name writes (w.account account) := by
          refine ⟨hopen, ?_, hwritten⟩
          rw [hnames, hone]
        refine ⟨fun _ => ?_, fun hkeeps => absurd htakes hkeeps⟩
        dsimp only
        rcases reply₃ with fault | _ <;> exact hgone
      · rw [if_neg hone]
        refine ⟨fun htakes => absurd ?_ hone, fun _ => hleft⟩
        rw [← hnames]
        exact htakes.2.1

variable {url suffix : String}

/-- The same for the deletion as a whole, which does nothing where no session is opened. -/
lemma account_delete_amid (coordinator : Coordinator)
    (htarget : Target.ofUrl url = .ok ⟨account, suffix, container, some name⟩) (writes : List Write)
    (hthere : (w.account account).containers.get? container ≠ none) :
    (w.Opens ∧ TakesContainer account container name writes (w.account account) →
      (((coordinator.delete url).run.run (World.answerAmid writes) w).2.account
        account).containers.get? container = none) ∧
    (¬ (w.Opens ∧ TakesContainer account container name writes (w.account account)) →
      LeavesOthers container name (w.account account)
        (((coordinator.delete url).run.run (World.answerAmid writes) w).2.account account)) := by
  have hhandle := World.answersButCalls_answerAmid writes
  rw [run_delete_of_target htarget, Program.run_bind, Program.run_done]
  dsimp only
  by_cases hopens : w.Opens
  · obtain ⟨session, w', hclient, haccounts, -, hafter⟩ := hhandle.run_within hopens
      coordinator.access (Target.endpoint ⟨account, suffix, container, some name⟩)
      (deleteTarget ⟨account, suffix, container, some name⟩)
    rw [hafter account]
    have hsame : w'.account account = w.account account := haccounts account
    have hclient' : session.client = ⟨account⟩ := hclient
    rw [← hsame] at hthere ⊢
    obtain ⟨htaken, hleft⟩ := account_deleteBlob_amid name hclient' writes hthere
    exact ⟨fun h => htaken h.2, fun h => hleft fun htakes => h ⟨hopens, htakes⟩⟩
  · obtain ⟨-, hafter⟩ := hhandle.run_within_of_not_opens hopens coordinator.access
      (Target.endpoint ⟨account, suffix, container, some name⟩)
      (deleteTarget ⟨account, suffix, container, some name⟩)
    rw [hafter account]
    exact ⟨fun h => absurd h.1 hopens, fun _ => .of_grows (.of_eq rfl)⟩

/-- A name that is listed alone. -/
lemma keys_eq_singleton {blobs : Blobs} {x : String} :
    blobs.keys = [x] ↔ blobs.keys.length = 1 ∧ blobs.get? x ≠ none := by
  have hmem : blobs.get? x ≠ none ↔ x ∈ blobs.keys := by
    rw [Option.ne_none_iff_exists', ← Keyed.mem_keys]
  rw [hmem]
  constructor
  · intro h
    rw [h]
    exact ⟨rfl, List.mem_singleton.mpr rfl⟩
  · rintro ⟨hlength, hx⟩
    obtain ⟨y, hy⟩ := List.length_eq_one_iff.mp hlength
    rw [hy] at hx ⊢
    rw [List.mem_singleton.mp hx]

/-- The container is taken when it listed only the blob to be deleted, or only one other and the
blob to be deleted was written since. -/
lemma takesContainer_iff {blobs : Blobs} {writes : List Write} {a : Account}
    (hthere : a.containers.get? container = some blobs) :
    TakesContainer account container name writes a ↔
      a.isUnavailable = false ∧ (blobs.keys = [name] ∨ (∃ x, blobs.keys = [x]) ∧
        ∃ write ∈ writes, write.Targets account ⟨container, name⟩) := by
  have hnames : a.blobNames container = blobs.keys := by
    unfold Account.blobNames
    rw [hthere]
  have hblob : a.blob? ⟨container, name⟩ = blobs.get? name := by
    rw [Account.blob?_eq, hthere, Option.bind_some]
  unfold TakesContainer
  rw [hnames, hblob, keys_eq_singleton, ← List.length_eq_one_iff]
  tauto

/-- A container that listed a blob other than the one to be deleted is taken when it listed no more
and the blob to be deleted was written since. -/
lemma takesContainer_iff_of_listed {blobs : Blobs} {writes : List Write} {a : Account} {x : String}
    (hthere : a.containers.get? container = some blobs) (hne : x ≠ name)
    (hx : blobs.get? x ≠ none) :
    TakesContainer account container name writes a ↔
      a.isUnavailable = false ∧ blobs.keys = [x] ∧
        ∃ write ∈ writes, write.Targets account ⟨container, name⟩ := by
  rw [takesContainer_iff hthere]
  constructor
  · rintro ⟨havailable, hkeys | ⟨hlone, hwritten⟩⟩
    · -- the blob `x` was listed as well
      have hmem : x ∈ blobs.keys := Keyed.mem_keys.mpr (Option.ne_none_iff_exists'.mp hx)
      rw [hkeys, List.mem_singleton] at hmem
      exact absurd hmem hne
    · exact ⟨havailable, keys_eq_singleton.mpr ⟨List.length_eq_one_iff.mpr hlone, hx⟩, hwritten⟩
  · rintro ⟨havailable, hkeys, hwritten⟩
    exact ⟨havailable, .inr ⟨⟨x, hkeys⟩, hwritten⟩⟩

/-- A blob that was listed and that nobody asked to delete is lost exactly when it was the only one
listed and someone else wrote the blob to be deleted after the listing.  The container goes exactly
when it listed only the blob to be deleted, or only one other and the blob to be deleted was written
since. -/
theorem lost_amid_writes_iff (coordinator : Coordinator) {blobs : Blobs}
    (htarget : Target.ofUrl url = .ok ⟨account, suffix, container, some name⟩)
    (hthere : (w.account account).containers.get? container = some blobs) (writes : List Write) :
    (∀ x, x ≠ name → blobs.get? x ≠ none →
      ((((coordinator.delete url).run.run (World.answerAmid writes) w).2.account account).blob?
          ⟨container, x⟩ = none ↔
        w.Opens ∧ (w.account account).isUnavailable = false ∧ blobs.keys = [x] ∧
          ∃ write ∈ writes, write.Targets account ⟨container, name⟩)) ∧
    ((((coordinator.delete url).run.run (World.answerAmid writes) w).2.account
        account).containers.get? container = none ↔
      w.Opens ∧ (w.account account).isUnavailable = false ∧
        (blobs.keys = [name] ∨ (∃ x, blobs.keys = [x]) ∧
          ∃ write ∈ writes, write.Targets account ⟨container, name⟩)) := by
  obtain ⟨htaken, hleft⟩ := account_delete_amid coordinator htarget writes
    (by rw [hthere]; exact Option.some_ne_none _)
  constructor
  · intro x hne hx
    rw [← takesContainer_iff_of_listed hthere hne hx]
    constructor
    · intro hlost
      by_contra hkeeps
      obtain ⟨left, hcontainer, hothers⟩ := hleft hkeeps blobs hthere
      rw [Account.blob?_eq, hcontainer] at hlost
      exact hothers x hne hx hlost
    · intro htakes
      rw [Account.blob?_eq, htaken htakes]
      rfl
  · rw [← takesContainer_iff hthere]
    constructor
    · intro hgone
      by_contra hkeeps
      obtain ⟨left, hcontainer, -⟩ := hleft hkeeps blobs hthere
      rw [hgone] at hcontainer
      cases hcontainer
    · exact htaken

/-- A world where a container holds one blob. -/
def loneBlobWorld : World :=
  World.repeating.setAccount "stairlock" (Account.seed {} ⟨"c1", "a"⟩ "data".toUTF8)

/-- Someone else writes the blob that is to be deleted. -/
def lateWrites : List Write := [.seed "stairlock" ⟨"c1", "b"⟩ "late".toUTF8]

/-- The deletion of a blob that someone else writes after the listing. -/
def racedDeletion : Except LifecycleFault DeletionOutcome × World :=
  (Coordinator.delete ⟨⟨.ambient⟩⟩ "https://stairlock.blob.core.windows.net/c1/b").run.run
    (World.answerAmid lateWrites) loneBlobWorld

/-- A blob that was the only one listed is lost with its container by the deletion of another. -/
theorem listed_blob_lost :
    (loneBlobWorld.account "stairlock").blob? ⟨"c1", "a"⟩ = some "data".toUTF8 ∧
      racedDeletion.1 = .ok (.blob ⟨"c1", "b"⟩ true) ∧
      (racedDeletion.2.account "stairlock").blob? ⟨"c1", "a"⟩ = none ∧
      (racedDeletion.2.account "stairlock").hasContainer "c1" = false :=
  ⟨rfl, rfl, rfl, rfl⟩

/-- It is lost since it was listed alone and the blob to be deleted was written afterwards. -/
theorem lost_amid_late_writes :
    loneBlobWorld.Opens ∧ (∃ write ∈ lateWrites, write.Targets "stairlock" ⟨"c1", "b"⟩) ∧
      (racedDeletion.2.account "stairlock").blob? ⟨"c1", "a"⟩ = none := by
  have hopens : loneBlobWorld.Opens := ⟨rfl, by decide⟩
  have hwritten : ∃ write ∈ lateWrites, write.Targets "stairlock" ⟨"c1", "b"⟩ :=
    ⟨_, List.mem_singleton.mpr rfl, rfl, rfl⟩
  have htarget : Target.ofUrl "https://stairlock.blob.core.windows.net/c1/b" =
      .ok ⟨"stairlock", "core.windows.net", "c1", some "b"⟩ := rfl
  have hthere : (loneBlobWorld.account "stairlock").containers.get? "c1" =
      some (Keyed.empty.insert "a" "data".toUTF8) := rfl
  have hlost := (lost_amid_writes_iff ⟨⟨.ambient⟩⟩ htarget hthere lateWrites).1 "a"
    (by decide) (Option.some_ne_none _)
  exact ⟨hopens, hwritten, hlost.mpr ⟨hopens, rfl, rfl, hwritten⟩⟩

end Coordinator

end ClaimCheck
