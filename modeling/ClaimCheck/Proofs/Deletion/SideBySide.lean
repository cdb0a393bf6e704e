import Mathlib
import ClaimCheck.Proofs.Deletion.Contents

/-!
# Deletions side by side

Any number of deletions of blobs of one container go on at once, their requests answered in any
order, while everything else that happens leaves the container as it is and its account available
(`Deletions.Step`).  The history of such a run keeps every request of a deletion with the world that
it was asked in.

`Deletions.deletions_agree` says what holds in every state of such a run: nobody loses a blob that
no deletion names, every blob is deleted at most once and by the time its deletion ends exactly
once, a deletion that deleted its blob succeeds, the container is deleted at most once and only when
it is empty, and every other deletion that got to the store was told that its blob or the container
is not there.
-/

namespace ClaimCheck

open Store

variable {ι : Type}

/-! ## Histories -/

/-- A request of one of the deletions, and the world that it was asked in. -/
structure Asked (ι : Type) where
  call : ι
  before : World
  request : Request

namespace Asked

/-- The request is a call to a store. -/
def isCall (entry : Asked ι) : Bool :=
  match entry.request with
  | .call _ _ => true
  | _ => false

/-- The request deletes a blob of the container, and succeeds. -/
def deletesBlob (d : DeletionCalls ι) (x : String) (entry : Asked ι) : Bool :=
  match entry.request with
  | .call client call =>
    client = d.client && call = .deleteBlob ⟨d.container, x⟩ &&
      ((entry.before.account d.account).answer call).1.isOk
  | _ => false

/-- The request asks to delete the container. -/
def asksContainer (d : DeletionCalls ι) (entry : Asked ι) : Bool :=
  match entry.request with
  | .call client call => client = d.client && call = .deleteContainer d.container
  | _ => false

variable {d : DeletionCalls ι} {i : ι} {w : World} {r : Request} {x : String}

/-- A request that is no call deletes no blob. -/
lemma deletesBlob_of_not_call (hr : ∀ client call, r ≠ .call client call) :
    (Asked.mk i w r).deletesBlob d x = false := by
  cases r with
  | call client call => exact absurd rfl (hr client call)
  | _ => rfl

/-- A request that is no call does not ask to delete the container. -/
lemma asksContainer_of_not_call (hr : ∀ client call, r ≠ .call client call) :
    (Asked.mk i w r).asksContainer d = false := by
  cases r with
  | call client call => exact absurd rfl (hr client call)
  | _ => rfl

/-- A request that is no call is none. -/
lemma isCall_of_not_call (hr : ∀ client call, r ≠ .call client call) :
    (Asked.mk i w r).isCall = false := by
  cases r with
  | call client call => exact absurd rfl (hr client call)
  | _ => rfl

/-- The deletion of a blob deletes this blob only, and only if it succeeds. -/
lemma deletesBlob_delete {j : ι} :
    (Asked.mk i w (.call d.client (.deleteBlob (d.place j)))).deletesBlob d x =
      (decide (d.name j = x) &&
        ((w.account d.account).answer (.deleteBlob (d.place j))).1.isOk) := by
  have hplace : (Call.deleteBlob (d.place j) = .deleteBlob ⟨d.container, x⟩) ↔ d.name j = x := by
    simp [DeletionCalls.place]
  unfold deletesBlob
  simp [hplace]

end Asked

/-! ## What one request does -/

namespace Standing.Moves

variable {d : DeletionCalls ι} {i : ι} {w : World} {st st' : Standing} {r : Request}

/-- A deletion has deleted its blob when it had before or does now. -/
lemma deleted_iff (hmoves : Standing.Moves d i (w.account d.account) st r st')
    (hempty : st = .emptied →
      ((w.account d.account).answer (.deleteContainer d.container)).1 = .ok ()) :
    st'.Deleted ↔ st.Deleted ∨ (Asked.mk i w r).deletesBlob d (d.name i) = true := by
  cases hmoves with
  | quiet _ hr => simp [Asked.deletesBlob_of_not_call hr]
  | list =>
    have hentry : (Asked.mk i w (.call d.client (.list d.container))).deletesBlob d (d.name i) =
        false := by simp [Asked.deletesBlob]
    rw [hentry]
    rcases ((w.account d.account).answer (.list d.container)).1 with fault | names <;>
      simp [afterList, Deleted]
  | delete names =>
    rw [Asked.deletesBlob_delete]
    rcases ((w.account d.account).answer (.deleteBlob (d.place i))).1 with fault | _
    · simp [afterDelete, Deleted, Except.isOk, Except.toBool]
    · simp only [afterDelete, Except.isOk, Except.toBool, decide_true, Bool.and_self, or_true,
        iff_true]
      split <;> trivial
  | empty =>
    rw [hempty rfl]
    exact ⟨fun _ => .inl trivial, fun _ => trivial⟩

/-- A deletion has deleted the container when it had before or asks for it now. -/
lemma took_iff (hmoves : Standing.Moves d i (w.account d.account) st r st')
    (hempty : st = .emptied →
      ((w.account d.account).answer (.deleteContainer d.container)).1 = .ok ()) :
    st'.Took ↔ st.Took ∨ (Asked.mk i w r).asksContainer d = true := by
  cases hmoves with
  | quiet _ hr => simp [Asked.asksContainer_of_not_call hr]
  | list =>
    have hentry : (Asked.mk i w (.call d.client (.list d.container))).asksContainer d = false := by
      simp [Asked.asksContainer]
    rw [hentry]
    rcases ((w.account d.account).answer (.list d.container)).1 with fault | names <;>
      simp [afterList, Took]
  | delete names =>
    have hentry : (Asked.mk i w (.call d.client (.deleteBlob (d.place i)))).asksContainer d =
        false := by simp [Asked.asksContainer]
    rw [hentry]
    rcases ((w.account d.account).answer (.deleteBlob (d.place i))).1 with fault | _
    · simp [afterDelete, Took]
    · simp only [afterDelete]
      split <;> simp [Took]
  | empty =>
    rw [hempty rfl]
    have hentry : (Asked.mk i w (.call d.client (.deleteContainer d.container))).asksContainer d =
        true := by simp [Asked.asksContainer]
    exact ⟨fun _ => .inr hentry, fun _ => trivial⟩

/-- Only a deletion that has deleted the last blob asks to delete the container. -/
lemma emptied_of_asksContainer (hmoves : Standing.Moves d i (w.account d.account) st r st')
    (hentry : (Asked.mk i w r).asksContainer d = true) : st = .emptied := by
  cases hmoves with
  | quiet _ hr =>
    rw [Asked.asksContainer_of_not_call hr] at hentry
    cases hentry
  | list => simp [Asked.asksContainer] at hentry
  | delete names => simp [Asked.asksContainer] at hentry
  | empty => rfl

/-- A deletion that has made no call makes none while it goes on waiting. -/
lemma waiting_of_waiting (hmoves : Standing.Moves d i (w.account d.account) st r st')
    (hwaiting : st' = .waiting) : st = .waiting ∧ (Asked.mk i w r).isCall = false := by
  cases hmoves with
  | quiet _ hr => exact ⟨hwaiting, Asked.isCall_of_not_call hr⟩
  | list => exact absurd hwaiting (afterList_ne_waiting _)
  | delete names => exact absurd hwaiting (afterDelete_ne_waiting names _)
  | empty => exact absurd hwaiting (afterEmpty_ne_waiting _)

/-- A blob that a request deletes is the one that its deletion names, and it is there before. -/
lemma of_deletesBlob {start : Account} {standing : ι → Standing} {x : String}
    (hmoves : Standing.Moves d i (w.account d.account) st r st')
    (hcontents : Contents d start (w.account d.account) standing)
    (hentry : (Asked.mk i w r).deletesBlob d x = true) :
    d.name i = x ∧ d.blob? (w.account d.account) x ≠ none := by
  cases hmoves with
  | quiet _ hr =>
    rw [Asked.deletesBlob_of_not_call hr] at hentry
    cases hentry
  | list => simp [Asked.deletesBlob] at hentry
  | delete names =>
    rw [Asked.deletesBlob_delete, Bool.and_eq_true, decide_eq_true_eq] at hentry
    obtain ⟨rfl, hok⟩ := hentry
    exact ⟨rfl, hcontents.present_of_answer hok⟩
  | empty => simp [Asked.deletesBlob] at hentry

end Standing.Moves

/-! ## What a history tells -/

/-- The requests of a history, known from the standings of the deletions. -/
structure Recorded (d : DeletionCalls ι) (standing : ι → Standing) (history : List (Asked ι)) :
    Prop where
  one : ∀ x, (∃ i, d.name i = x ∧ (standing i).Deleted) →
    history.countP (Asked.deletesBlob d x) = 1
  none : ∀ x, (¬ ∃ i, d.name i = x ∧ (standing i).Deleted) →
    history.countP (Asked.deletesBlob d x) = 0
  deleter : ∀ i, (standing i).Deleted ↔
    ∃ entry ∈ history, entry.call = i ∧ entry.deletesBlob d (d.name i) = true
  once : history.countP (Asked.asksContainer d) ≤ 1
  taker : ∀ entry ∈ history, entry.asksContainer d = true → ∃ i, (standing i).Took
  onEmpty : ∀ entry ∈ history, entry.asksContainer d = true →
    d.contents (entry.before.account d.account) = some Keyed.empty
  waiting : ∀ i, standing i = .waiting → ∀ entry ∈ history, entry.call = i → entry.isCall = false

namespace Recorded

variable {d : DeletionCalls ι} {standing : ι → Standing} {history : List (Asked ι)}

/-- Nothing was asked at the start. -/
lemma initial : Recorded d (fun _ => .waiting) [] where
  one := fun _ ⟨_, _, h⟩ => h.elim
  none := fun _ _ => rfl
  deleter := fun _ => ⟨fun h => h.elim, fun ⟨_, h, _⟩ => (List.not_mem_nil h).elim⟩
  once := Nat.zero_le 1
  taker := fun _ h => (List.not_mem_nil h).elim
  onEmpty := fun _ h => (List.not_mem_nil h).elim
  waiting := fun _ _ _ h => (List.not_mem_nil h).elim

variable [DecidableEq ι] {start : Account} {i : ι} {w : World} {r : Request} {st : Standing}

/-- A request that moves a deletion is recorded. -/
lemma moves (h : Recorded d standing history)
    (hcontents : Contents d start (w.account d.account) standing)
    (hmoves : Standing.Moves d i (w.account d.account) (standing i) r st) :
    Recorded d (Function.update standing i st) (⟨i, w, r⟩ :: history) := by
  have hempty := hcontents.answer_of_emptied (i := i)
  have hdeleted := Standing.update_iff_or Standing.Deleted (hmoves.deleted_iff hempty)
  have htook := Standing.update_iff_or Standing.Took (hmoves.took_iff hempty)
  refine ⟨?_, ?_, ?_, ?_, ?_, ?_, ?_⟩
  · rintro x ⟨j, hj, hnow⟩
    rw [List.countP_cons]
    by_cases hentry : (Asked.mk i w r).deletesBlob d x = true
    · -- the blob is there, so nobody has deleted it before
      obtain ⟨-, hpresent⟩ := hmoves.of_deletesBlob hcontents hentry
      rw [if_pos hentry, h.none x]
      rintro ⟨k, hk, hbefore⟩
      exact hcontents.not_deleted_of_present hpresent k hk hbefore
    · rw [if_neg hentry, h.one x ⟨j, hj, ?_⟩]
      refine ((hdeleted j).mp hnow).resolve_right ?_
      rintro ⟨rfl, hdeletes⟩
      exact hentry (hj ▸ hdeletes)
  · intro x hnobody
    have hentry : ¬ (Asked.mk i w r).deletesBlob d x = true := by
      intro hentry
      obtain ⟨rfl, -⟩ := hmoves.of_deletesBlob hcontents hentry
      exact hnobody ⟨i, rfl, (hdeleted i).mpr (.inr ⟨rfl, hentry⟩)⟩
    rw [List.countP_cons, if_neg hentry, h.none x]
    rintro ⟨j, hj, hbefore⟩
    exact hnobody ⟨j, hj, (hdeleted j).mpr (.inl hbefore)⟩
  · intro j
    rw [hdeleted, h.deleter, List.exists_mem_cons_iff]
    constructor
    · rintro (hbefore | ⟨rfl, hentry⟩)
      · exact .inr hbefore
      · exact .inl ⟨rfl, hentry⟩
    · rintro (⟨rfl, hentry⟩ | hbefore)
      · exact .inr ⟨rfl, hentry⟩
      · exact .inl hbefore
  · rw [List.countP_cons]
    split
    · next hentry =>
      have hemptied := hmoves.emptied_of_asksContainer hentry
      have hzero : history.countP (Asked.asksContainer d) = 0 := by
        rw [List.countP_eq_zero]
        intro entry hmem hasks
        obtain ⟨j, hj⟩ := h.taker entry hmem hasks
        have hbare : (standing i).Bare := by
          rw [hemptied]
          trivial
        rw [hcontents.sole j i hj.bare hbare, hemptied] at hj
        exact hj
      rw [hzero]
    · exact h.once
  · intro entry hmem hasks
    rcases List.mem_cons.mp hmem with rfl | hmem
    · exact ⟨i, (htook i).mpr (.inr ⟨rfl, hasks⟩)⟩
    · obtain ⟨j, hj⟩ := h.taker entry hmem hasks
      exact ⟨j, (htook j).mpr (.inl hj)⟩
  · intro entry hmem hasks
    rcases List.mem_cons.mp hmem with rfl | hmem
    · exact hcontents.contents_of_emptied (hmoves.emptied_of_asksContainer hasks)
    · exact h.onEmpty entry hmem hasks
  · intro j hj entry hmem hcall
    rcases eq_or_ne j i with rfl | hne
    · rw [Function.update_self] at hj
      obtain ⟨hbefore, hentry⟩ := hmoves.waiting_of_waiting hj
      rcases List.mem_cons.mp hmem with rfl | hmem
      · exact hentry
      · exact h.waiting j hbefore entry hmem hcall
    · rw [Function.update_of_ne hne] at hj
      rcases List.mem_cons.mp hmem with rfl | hmem
      · exact absurd hcall.symm hne
      · exact h.waiting j hj entry hmem hcall

end Recorded

/-! ## Runs -/

/-- Deletions in progress: the world, what remains to be done by each of them, and the history, the
last request first. -/
structure Deletions (ι : Type) where
  world : World
  calls : ι → Relay (Except LifecycleFault DeletionOutcome)
  history : List (Asked ι) := []

namespace Deletions

/-- The deletions before any of them has asked anything. -/
def start (d : DeletionCalls ι) (w : World) : Deletions ι := { world := w, calls := d.program }

section Steps

variable [DecidableEq ι]

/-- One of the deletions has its next request answered, or something happens that leaves the
container as it is and the account available. -/
inductive Step (d : DeletionCalls ι) : Deletions ι → Deletions ι → Prop
  | own {s : Deletions ι} (i : ι) {r : Request}
    {next : r.Reply → Relay (Except LifecycleFault DeletionOutcome)}
    (hcall : s.calls i = .ask r next) :
    Step d s
      { world := (World.answer r s.world).2
        calls := Function.update s.calls i (next (World.answer r s.world).1)
        history := ⟨i, s.world, r⟩ :: s.history }
  | other (s : Deletions ι) {h : Happening} (hkept : ¬ h.Disturbs d.account d.container) :
    Step d s { s with world := h.apply s.world }

/-- A state of a run that starts in a world. -/
def Reachable (d : DeletionCalls ι) (w : World) : Deletions ι → Prop :=
  Relation.ReflTransGen (Step d) (start d w)

end Steps

/-- The state of the account of the deletions. -/
def account (s : Deletions ι) (d : DeletionCalls ι) : Account := s.world.account d.account

/-- A deletion has made a call to the store. -/
def HasCalled (s : Deletions ι) (i : ι) : Prop :=
  ∃ entry ∈ s.history, entry.call = i ∧ entry.isCall = true

/-- A deletion has deleted its blob. -/
def HasDeleted (s : Deletions ι) (d : DeletionCalls ι) (i : ι) : Prop :=
  ∃ entry ∈ s.history, entry.call = i ∧ entry.deletesBlob d (d.name i) = true

/-- A deletion was denied a credential or its credential did not open the store. -/
def WasDenied (s : Deletions ι) (i : ι) : Prop :=
  ∃ entry ∈ s.history, entry.call = i ∧ entry.before.Denies entry.request

/-- What is known of every state of a run: each deletion is in a phase, and the phases tell the
contents of the container and the history. -/
structure Consistent (d : DeletionCalls ι) (w : World) (s : Deletions ι) (phase : ι → Phase) :
    Prop where
  calls : ∀ i, s.calls i = (phase i).program d i
  denied : ∀ i, (phase i).TurnedAway → s.WasDenied i
  contents : Contents d (w.account d.account) (s.account d) fun i => (phase i).standing
  recorded : Recorded d (fun i => (phase i).standing) s.history

variable {d : DeletionCalls ι} {w : World} {s s' : Deletions ι}

/-- At the start every deletion is at its start. -/
lemma consistent_start (havailable : (w.account d.account).isUnavailable = false) :
    Consistent d w (start d w) fun _ => .start where
  calls := fun _ => rfl
  denied := fun _ h => h.elim
  contents := Contents.initial havailable
  recorded := Recorded.initial

/-- The deletions did no harm and agree on what they did, from the account at the start on. -/
structure Agree (d : DeletionCalls ι) (start : Account) (s : Deletions ι) : Prop where
  unnamed_kept : ∀ x, (∀ i, d.name i ≠ x) → d.blob? (s.account d) x = d.blob? start x
  deleted_once : ∀ x, d.blob? start x ≠ none →
    (d.blob? (s.account d) x = d.blob? start x ∧
      s.history.countP (Asked.deletesBlob d x) = 0) ∨
    (d.blob? (s.account d) x = none ∧
      s.history.countP (Asked.deletesBlob d x) = 1 ∧ ∃! i, d.name i = x ∧ s.HasDeleted d i)
  gone_after : ∀ i result, s.calls i = .done result → s.HasCalled i →
    d.blob? (s.account d) (d.name i) = none
  deleter_succeeds : ∀ i result, s.calls i = .done result → s.HasDeleted d i →
    ∃ withContainer, result = .ok (.blob (d.place i) withContainer)
  container_once : s.history.countP (Asked.asksContainer d) ≤ 1
  container_empty : ∀ entry ∈ s.history, entry.asksContainer d = true →
    d.contents (entry.before.account d.account) = some Keyed.empty
  others_not_found : ∀ i result, s.calls i = .done result → ¬ s.HasDeleted d i →
    result = .error (.store (.blobNotFound (d.place i))) ∨
    result = .error (.store (.containerNotFound d.container)) ∨
    (¬ s.HasCalled i ∧ s.WasDenied i)

/-- A blob that was deleted once was deleted by one deletion. -/
lemma existsUnique_deleter {x : String} (hnamed : ∃ i, d.name i = x ∧ s.HasDeleted d i)
    (hone : s.history.countP (Asked.deletesBlob d x) = 1) :
    ∃! i, d.name i = x ∧ s.HasDeleted d i := by
  rw [List.countP_eq_length_filter] at hone
  obtain ⟨only, honly⟩ := List.length_eq_one_iff.mp hone
  have hsame : ∀ i, d.name i = x → s.HasDeleted d i → i = only.call := by
    rintro i rfl ⟨entry, hmem, rfl, hdeletes⟩
    have hfiltered := List.mem_filter.mpr ⟨hmem, hdeletes⟩
    rw [honly, List.mem_singleton] at hfiltered
    rw [hfiltered]
  obtain ⟨i, hi, hdeleted⟩ := hnamed
  refine ⟨i, ⟨hi, hdeleted⟩, fun j ⟨hj, hdeleted'⟩ => ?_⟩
  rw [hsame i hi hdeleted, hsame j hj hdeleted']

/-- A deletion that has made a call and ended had a verdict, and its blob is gone. -/
lemma Consistent.gone_after {phase : ι → Phase} (h : Consistent d w s phase) {i : ι}
    {result : Except LifecycleFault DeletionOutcome} (hended : s.calls i = .done result)
    (hcalled : s.HasCalled i) : d.blob? (s.account d) (d.name i) = none := by
  rw [h.calls i] at hended
  rcases Phase.eq_of_program_done hended with ⟨fault, hphase⟩ | ⟨verdict, hphase, -⟩
  · obtain ⟨entry, hmem, hcall, hiscall⟩ := hcalled
    have := h.recorded.waiting i (by rw [hphase]; rfl) entry hmem hcall
    rw [this] at hiscall
    cases hiscall
  · cases verdict with
    | deleted withContainer => exact h.contents.gone i (by rw [hphase]; trivial)
    | failed fault => exact (h.contents.failed i fault (by rw [hphase]; rfl)).1

variable [DecidableEq ι]

/-- The standings after one deletion went on to another phase. -/
lemma standing_update (phase : ι → Phase) (i : ι) (next : Phase) :
    (fun j => (Function.update phase i next j).standing) =
      Function.update (fun j => (phase j).standing) i next.standing := by
  funext j
  rcases eq_or_ne j i with rfl | hne
  · rw [Function.update_self, Function.update_self]
  · rw [Function.update_of_ne hne, Function.update_of_ne hne]

/-- One step keeps what is known. -/
lemma Consistent.step {phase : ι → Phase} (h : Consistent d w s phase) (hstep : Step d s s') :
    ∃ phase', Consistent d w s' phase' := by
  cases hstep with
  | @other happening hkept =>
    refine ⟨phase, h.calls, h.denied, ?_, h.recorded⟩
    refine h.contents.of_same ?_ ?_
    · change ((happening.apply s.world).account d.account).isUnavailable = false
      rw [Happening.account_apply]
      exact Happening.isUnavailable_onAccount hkept h.contents.available
    · change ((happening.apply s.world).account d.account).containers.get? d.container = _
      rw [Happening.account_apply]
      exact Happening.get?_onAccount hkept
  | @own i r next hcall =>
    rw [h.calls i] at hcall
    obtain ⟨phase', hnext, hturned, hmoves⟩ := Phase.exists_moves hcall s.world
    refine ⟨Function.update phase i phase', ?_, ?_, ?_, ?_⟩
    · intro j
      rcases eq_or_ne j i with rfl | hne
      · rw [Function.update_self]
        exact (Function.update_self ..).trans hnext
      · rw [Function.update_of_ne hne]
        exact (Function.update_of_ne hne ..).trans (h.calls j)
    · have hbefore : ∀ j, s.WasDenied j → ∃ entry ∈ (⟨i, s.world, r⟩ : Asked ι) :: s.history,
          entry.call = j ∧ entry.before.Denies entry.request := by
        rintro j ⟨entry, hmem, hentry⟩
        exact ⟨entry, List.mem_cons_of_mem _ hmem, hentry⟩
      intro j hj
      rcases eq_or_ne j i with rfl | hne
      · rw [Function.update_self] at hj
        rcases hturned hj with hold | hdenies
        · exact hbefore j (h.denied j hold)
        · exact ⟨_, List.mem_cons_self, rfl, hdenies⟩
      · rw [Function.update_of_ne hne] at hj
        exact hbefore j (h.denied j hj)
    · rw [standing_update]
      change Contents d _ ((World.answer r s.world).2.account d.account) _
      rw [show (World.answer r s.world).2 = (Happening.asked r).apply s.world from rfl,
        Happening.account_apply]
      exact h.contents.moves hmoves
    · rw [standing_update]
      exact h.recorded.moves h.contents hmoves

/-- Every state of a run is known in this way. -/
lemma Reachable.consistent (hreachable : Reachable d w s)
    (havailable : (w.account d.account).isUnavailable = false) :
    ∃ phase, Consistent d w s phase := by
  induction hreachable with
  | refl => exact ⟨_, consistent_start havailable⟩
  | tail _ hstep ih =>
    obtain ⟨phase, h⟩ := ih
    exact h.step hstep

/-! ## What holds in every state -/

/-- Deletions that go on side by side do no harm and agree, in every state of every run in which
nobody else changes the container or closes the account. -/
theorem deletions_agree (hreachable : Reachable d w s)
    (havailable : (w.account d.account).isUnavailable = false) :
    Agree d (w.account d.account) s := by
  obtain ⟨phase, h⟩ := hreachable.consistent havailable
  have hdeleter : ∀ i, (phase i).standing.Deleted ↔ s.HasDeleted d i := h.recorded.deleter
  refine ⟨?_, ?_, fun i result => h.gone_after, ?_, h.recorded.once, h.recorded.onEmpty, ?_⟩
  · intro x hx
    exact h.contents.kept x fun i hi => absurd hi (hx i)
  · intro x hx
    by_cases hdeleted : ∃ i, d.name i = x ∧ (phase i).standing.Deleted
    · have hone := h.recorded.one x hdeleted
      refine .inr ⟨(h.contents.blob?_eq_none_iff hx).mpr hdeleted, hone, ?_⟩
      obtain ⟨i, hi, hstanding⟩ := hdeleted
      exact existsUnique_deleter ⟨i, hi, (hdeleter i).mp hstanding⟩ hone
    · refine .inl ⟨?_, h.recorded.none x hdeleted⟩
      exact h.contents.kept x fun i hi hstanding => hdeleted ⟨i, hi, hstanding⟩
  · intro i result hended hdeleted
    rw [h.calls i] at hended
    have hstanding := (hdeleter i).mpr hdeleted
    rcases Phase.eq_of_program_done hended with ⟨fault, hphase⟩ | ⟨verdict, hphase, hresult⟩
    · rw [hphase] at hstanding
      exact hstanding.elim
    · rw [hphase] at hstanding
      cases verdict with
      | deleted withContainer => exact ⟨withContainer, hresult⟩
      | failed fault => exact hstanding.elim
  · intro i result hended hnot
    rw [h.calls i] at hended
    rw [← hdeleter] at hnot
    rcases Phase.eq_of_program_done hended with ⟨fault, hphase⟩ | ⟨verdict, hphase, hresult⟩
    · refine .inr (.inr ⟨?_, h.denied i (by rw [hphase]; trivial)⟩)
      rintro ⟨entry, hmem, hcall, hiscall⟩
      have := h.recorded.waiting i (by rw [hphase]; rfl) entry hmem hcall
      rw [this] at hiscall
      cases hiscall
    · rw [hphase] at hnot
      cases verdict with
      | deleted withContainer => exact absurd trivial hnot
      | failed fault =>
        obtain ⟨-, hfault⟩ := h.contents.failed i fault (by rw [hphase]; rfl)
        rw [hresult]
        rcases hfault with rfl | rfl
        · exact .inl rfl
        · exact .inr (.inl rfl)

/-- Lets one deletion have its next request answered. -/
def advance (s : Deletions ι) (i : ι) : Deletions ι :=
  match s.calls i with
  | .done _ => s
  | .ask r next =>
    { world := (World.answer r s.world).2
      calls := Function.update s.calls i (next (World.answer r s.world).1)
      history := ⟨i, s.world, r⟩ :: s.history }

/-- Every order of the requests of deletions is that of a run. -/
lemma reachable_foldl_advance (d : DeletionCalls ι) (w : World) (order : List ι) :
    Reachable d w (order.foldl advance (start d w)) := by
  induction order using List.reverseRecOn with
  | nil => exact .refl
  | append_singleton order i ih =>
    rw [List.foldl_append, List.foldl_cons, List.foldl_nil]
    set s := order.foldl advance (start d w)
    unfold advance
    split
    · exact ih
    · next hcall => exact ih.tail (.own i hcall)

/-- Two deletions of the same blob. -/
def twoDeletions : DeletionCalls Bool where
  account := "stairlock"
  container := "c1"
  coordinator _ := ⟨⟨.ambient⟩⟩
  url _ := "https://stairlock.blob.core.windows.net/c1/a"
  suffix _ := "core.windows.net"
  name _ := "a"
  target_eq _ := rfl

/-- The world of the two deletions, in which the blob is alone in its container. -/
def twoDeletionsWorld : World :=
  World.repeating.setAccount "stairlock" (Account.seed {} ⟨"c1", "a"⟩ "data".toUTF8)

/-- A run in which both list the blob before one of them deletes it. -/
def twoDeletionsRun : Deletions Bool :=
  [false, true, false, true, false, true, false, true, true, true, false, false, false].foldl
    advance (start twoDeletions twoDeletionsWorld)

/-- One of the two deletions deletes the blob and the container, and the other finds no blob. -/
theorem two_deletions_agree :
    Agree twoDeletions (twoDeletionsWorld.account "stairlock") twoDeletionsRun ∧
      twoDeletionsRun.calls false = .done (.ok (.blob ⟨"c1", "a"⟩ true)) ∧
      twoDeletionsRun.calls true = .done (.error (.store (.blobNotFound ⟨"c1", "a"⟩))) :=
  ⟨deletions_agree (reachable_foldl_advance _ _ _) rfl, rfl, rfl⟩

end Deletions

end ClaimCheck
