import Mathlib
import ClaimCheck.Proofs.Text.Order
import ClaimCheck.Proofs.World.Sessions

/-!
# The store as a map that is written once

A call is refused for one of four reasons, which depend on the account alone
(`Store.Account.Refuses`), and a call that is refused changes no container.  What a call that
succeeds does to the account is told blob by blob and container by container
(`Store.Account.Performs`).  Either way the call is logged, and no other account changes
(`World.AnswersCall`).

So along everything that can happen to a world the log of an account grows by the calls that were
made to it, and a blob holds what was written to it until it is dropped
(`World.account_written_once`).
-/

namespace ClaimCheck

open Store

/-! ## Calls to an account -/

namespace Store.Account

variable {a a' : Account} {call : Call}

/-- Why an account refuses a call: it is unavailable, the name of a put is taken, or what is read,
listed or deleted is not there. -/
inductive Refuses (a : Account) : Call → Fault → Prop
  | unavailable {call : Call} (hunavailable : a.isUnavailable = true) : Refuses a call .unavailable
  | blobExists {place : Locator} {data : ByteArray} (havailable : a.isUnavailable = false)
    (htaken : a.blob? place ≠ none) : Refuses a (.put place data) (.blobExists place)
  | blobNotFound {call : Call} {place : Locator} (havailable : a.isUnavailable = false)
    (hcall : call = .get place ∨ call = .deleteBlob place)
    (hcontainer : a.hasContainer place.container = true) (hmissing : a.blob? place = none) :
    Refuses a call (.blobNotFound place)
  | containerNotFound {call : Call} (havailable : a.isUnavailable = false)
    (hcall : ∀ place data, call ≠ .put place data)
    (hmissing : a.hasContainer call.container = false) :
    Refuses a call (.containerNotFound call.container)

/-- What a call that succeeds finds in an account, answers, and leaves. -/
inductive Performs (a a' : Account) : (call : Call) → call.Answer → Prop
  | put {place : Locator} {data : ByteArray} (hfree : a.blob? place = none)
    (hblobs : ∀ other, a'.blob? other = if other = place then some data else a.blob? other)
    (hcontainers : ∀ container, a'.hasContainer container =
      (decide (container = place.container) || a.hasContainer container)) :
    Performs a a' (.put place data) ()
  | get {place : Locator} {data : ByteArray} (hblob : a.blob? place = some data)
    (hkept : a'.containers = a.containers) : Performs a a' (.get place) data
  | deleteBlob {place : Locator} (hblob : a.blob? place ≠ none)
    (hblobs : ∀ other, a'.blob? other = if other = place then none else a.blob? other)
    (hcontainers : ∀ container, a'.hasContainer container = a.hasContainer container) :
    Performs a a' (.deleteBlob place) ()
  | list {container : String} {names : List String} (hcontainer : a.hasContainer container = true)
    (hnames : ∀ name, name ∈ names ↔ a.blob? ⟨container, name⟩ ≠ none)
    (hincreasing : names.Pairwise Text.Precedes) (honce : names.Nodup)
    (hkept : a'.containers = a.containers) : Performs a a' (.list container) names
  | deleteContainer {container : String} (hcontainer : a.hasContainer container = true)
    (hcontainers : ∀ other, a'.containers.get? other =
      if other = container then none else a.containers.get? other) :
    Performs a a' (.deleteContainer container) ()

/-- A blob of a container that is there. -/
lemma blob?_of_get? {container : String} {blobs : Blobs}
    (h : a.containers.get? container = some blobs) (name : String) :
    a.blob? ⟨container, name⟩ = blobs.get? name := by
  rw [blob?_eq, h, Option.bind_some]

/-- The names of a container that is there: those of its blobs, in the order of their bytes. -/
lemma performs_list {container : String} {blobs : Blobs}
    (h : a.containers.get? container = some blobs) (hkept : a'.containers = a.containers) :
    Performs a a' (.list container) blobs.keys := by
  have hpairwise := blobs.keys_pairwise
  refine .list (by rw [hasContainer_eq, h]; rfl) ?_ ?_ ?_ hkept
  · intro name
    rw [Keyed.mem_keys, blob?_of_get? h, Option.ne_none_iff_exists']
  · exact hpairwise.imp Text.precedes_iff_lt.mpr
  · exact hpairwise.imp ne_of_lt

/-- Where the container is not there, every call but a put is refused. -/
lemma refuses_of_no_container (h : a.isUnavailable = false)
    (hcall : ∀ place data, call ≠ .put place data)
    (hnone : a.containers.get? call.container = none) :
    a.Refuses call (.containerNotFound call.container) := by
  refine .containerNotFound h hcall ?_
  rw [hasContainer_eq, hnone]
  rfl

/-- Where the blob is not in its container, it is neither read nor deleted. -/
lemma refuses_of_no_blob {place : Locator} {blobs : Blobs} (h : a.isUnavailable = false)
    (hcall : call = .get place ∨ call = .deleteBlob place)
    (hblobs : a.containers.get? place.container = some blobs)
    (hnone : blobs.get? place.name = none) : a.Refuses call (.blobNotFound place) := by
  refine .blobNotFound h hcall ?_ ((blob?_of_get? hblobs place.name).trans hnone)
  rw [hasContainer_eq, hblobs]
  rfl

/-- An account that is available refuses a call, or does what it asks. -/
lemma refuses_or_performs (h : a.isUnavailable = false) (call : Call) :
    (∃ fault, (a.answer call).1 = .error fault ∧ a.Refuses call fault) ∨
      ∃ answer, (a.answer call).1 = .ok answer ∧ a.Performs (a.answer call).2 call answer := by
  cases call with
  | put place data =>
    cases hblob : a.blob? place with
    | some old =>
      left
      rw [answer_put_of_taken h hblob]
      exact ⟨_, rfl, .blobExists h (by simp [hblob])⟩
    | none =>
      right
      refine ⟨(), by rw [answer_put_of_free h hblob], .put hblob ?_ ?_⟩
      · intro other
        rw [blob?_answer_put h, hblob, Option.getD_none]
      · intro container
        rw [hasContainer_eq, get?_answer_put h, hasContainer_eq]
        by_cases hcontainer : container = place.container
        · simp [hcontainer]
        · simp [hcontainer]
  | get place =>
    rw [answer_get h]
    cases hcontainer : a.containers.get? place.container with
    | none => exact .inl ⟨_, rfl, refuses_of_no_container h (by simp) hcontainer⟩
    | some blobs =>
      have hfound := blob?_of_get? hcontainer place.name
      dsimp only
      cases hname : blobs.get? place.name with
      | none => exact .inl ⟨_, rfl, refuses_of_no_blob h (.inl rfl) hcontainer hname⟩
      | some data =>
        have hkept := containers_answer_of_reads (a := a) (.inl ⟨place, rfl⟩)
        exact .inr ⟨_, rfl, .get (hfound.trans hname) hkept⟩
  | deleteBlob place =>
    rw [answer_deleteBlob h]
    cases hcontainer : a.containers.get? place.container with
    | none => exact .inl ⟨_, rfl, refuses_of_no_container h (by simp) hcontainer⟩
    | some blobs =>
      have hfound := blob?_of_get? hcontainer place.name
      dsimp only
      cases hname : blobs.get? place.name with
      | none => exact .inl ⟨_, rfl, refuses_of_no_blob h (.inr rfl) hcontainer hname⟩
      | some data =>
        refine .inr ⟨_, rfl, .deleteBlob (by simp [hfound.trans hname]) ?_ ?_⟩
        · exact blob?_answer_deleteBlob h place
        · intro container
          rw [hasContainer_eq, get?_answer_deleteBlob h, hasContainer_eq]
          split
          · exact Option.isSome_map
          · rfl
  | list container =>
    cases hcontainer : a.containers.get? container with
    | none =>
      exact .inl ⟨_, answer_list_of_none h hcontainer,
        refuses_of_no_container h (by simp) hcontainer⟩
    | some blobs =>
      exact .inr ⟨_, answer_list_of_some h hcontainer,
        performs_list hcontainer (containers_answer_of_reads (.inr ⟨container, rfl⟩))⟩
  | deleteContainer container =>
    rw [answer_deleteContainer h]
    cases hcontainer : a.containers.get? container with
    | none => exact .inl ⟨_, rfl, refuses_of_no_container h (by simp) hcontainer⟩
    | some blobs =>
      refine .inr ⟨_, rfl, .deleteContainer ?_ (get?_answer_deleteContainer h container)⟩
      rw [hasContainer_eq, hcontainer]
      rfl

/-- A call is refused exactly for the reason that the account has. -/
lemma answer_eq_error_iff {fault : Fault} :
    (a.answer call).1 = .error fault ↔ a.Refuses call fault := by
  constructor
  · intro hfault
    cases h : a.isUnavailable with
    | true =>
      rw [answer_of_unavailable h] at hfault
      cases hfault
      exact .unavailable h
    | false =>
      rcases refuses_or_performs h call with ⟨other, hother, hrefuses⟩ | ⟨answer, hanswer, -⟩
      · rw [hother] at hfault
        cases hfault
        exact hrefuses
      · rw [hanswer] at hfault
        cases hfault
  · intro hrefuses
    cases hrefuses with
    | unavailable h => rw [answer_of_unavailable h]
    | blobExists h htaken =>
      obtain ⟨old, hold⟩ := Option.ne_none_iff_exists'.mp htaken
      rw [answer_put_of_taken h hold]
    | blobNotFound h hcall hcontainer hmissing =>
      rw [hasContainer_eq] at hcontainer
      obtain ⟨blobs, hblobs⟩ := Option.isSome_iff_exists.mp hcontainer
      rw [blob?_eq, hblobs, Option.bind_some] at hmissing
      rcases hcall with rfl | rfl
      · simp [answer_get h, hblobs, hmissing]
      · simp [answer_deleteBlob h, hblobs, hmissing]
    | containerNotFound h hcall hmissing =>
      rw [hasContainer_eq, Option.isSome_eq_false_iff, Option.isNone_iff_eq_none] at hmissing
      cases call with
      | put place data => exact absurd rfl (hcall place data)
      | get place =>
        rw [Call.container] at hmissing
        simp [answer_get h, hmissing, Call.container]
      | deleteBlob place =>
        rw [Call.container] at hmissing
        simp [answer_deleteBlob h, hmissing, Call.container]
      | list container => exact answer_list_of_none h hmissing
      | deleteContainer container =>
        rw [Call.container] at hmissing
        simp [answer_deleteContainer h, hmissing, Call.container]

/-- A call that succeeds does what it asks. -/
lemma performs_of_answer_eq_ok {answer : call.Answer} (hok : (a.answer call).1 = .ok answer) :
    a.Performs (a.answer call).2 call answer := by
  cases h : a.isUnavailable with
  | true =>
    rw [answer_of_unavailable h] at hok
    cases hok
  | false =>
    rcases refuses_or_performs h call with ⟨fault, hfault, -⟩ | ⟨other, hother, hperforms⟩
    · rw [hfault] at hok
      cases hok
    · rw [hother] at hok
      cases hok
      exact hperforms

/-- What was put is read back. -/
lemma answer_get_of_put {place : Locator} {data : ByteArray}
    (hok : (a.answer (.put place data)).1 = .ok ()) :
    ((a.answer (.put place data)).2.answer (.get place)).1 = .ok data := by
  refine answer_get_of_some ?_ (blob?_answer_put_of_ok hok)
  rw [isUnavailable_answer]
  exact (answer_put_eq_ok_iff.mp hok).1

end Store.Account

/-! ## Calls in a world -/

/-- What a call through a client answers in a world, and which world it leaves. -/
structure World.AnswersCall (w : World) (client : Client) (call : Call) (outcome : call.Outcome)
    (w' : World) : Prop where
  logged : (w'.account client.account).log = (w.account client.account).log ++ [call.entry]
  others : ∀ name, name ≠ client.account → w'.account name = w.account name
  refused : ∀ fault, outcome = .error fault ↔ (w.account client.account).Refuses call fault
  unchanged : ∀ fault, outcome = .error fault →
    ∀ name, (w'.account name).containers = (w.account name).containers
  performed : ∀ answer, outcome = .ok answer →
    (w.account client.account).Performs (w'.account client.account) call answer
  readBack : ∀ place data, call = .put place data → (∃ answer, outcome = .ok answer) →
    ∀ reader : Client, reader.account = client.account →
      (World.answer (.call reader (.get place)) w').1 = .ok data

/-! ## Whole histories -/

namespace Happening

/-- What a happening adds to the log of an account: the call, if it is one to that account. -/
def noted? (name : String) : Happening → Option LogEntry
  | asked (.call client call) => if client.account = name then some call.entry else none
  | _ => none

/-- The log of an account grows by the calls that are made to it, and by nothing else. -/
lemma log_onAccount (h : Happening) (name : String) (a : Account) :
    (h.onAccount name a).log = a.log ++ (h.noted? name).toList := by
  cases h with
  | quiet => exact (List.append_nil _).symm
  | asked request =>
    cases request with
    | call client call =>
      by_cases hname : client.account = name
      · simp only [onAccount, noted?, if_pos hname]
        exact Account.log_answer a call
      · simp only [onAccount, noted?, if_neg hname]
        exact (List.append_nil _).symm
    | _ => exact (List.append_nil _).symm
  | outside change =>
    have hkept : (onAccount name a (outside change)).log = a.log := by
      cases change <;> simp only [onAccount]
      all_goals
        split <;> rfl
    rw [hkept]
    exact (List.append_nil _).symm

end Happening

namespace World

/-- The world after some happenings, one after another. -/
def afterAll (w : World) (happenings : List Happening) : World :=
  happenings.foldl (fun w happening => happening.apply w) w

/-- The world after one happening more. -/
lemma afterAll_concat (w : World) (happenings : List Happening) (last : Happening) :
    w.afterAll (happenings ++ [last]) = last.apply (w.afterAll happenings) :=
  List.foldl_concat ..

/-- Whatever happens, the log of an account tells the calls that were made to it, in their order. -/
lemma log_afterAll (w : World) (happenings : List Happening) (name : String) :
    ((w.afterAll happenings).account name).log =
      (w.account name).log ++ happenings.filterMap (·.noted? name) := by
  induction happenings using List.reverseRecOn with
  | nil => exact (List.append_nil _).symm
  | append_singleton happenings last ih =>
    rw [afterAll_concat, Happening.account_apply, Happening.log_onAccount, ih,
      List.filterMap_append, List.append_assoc, List.filterMap_cons, List.filterMap_nil]
    cases last.noted? name <;> rfl

/-- A blob keeps its bytes until something drops it. -/
lemma blob?_afterAll {w : World} {name : String} {place : Locator} {data : ByteArray}
    (hblob : (w.account name).blob? place = some data) (happenings : List Happening) :
    ((w.afterAll happenings).account name).blob? place = some data ∨
      ∃ before drop after, happenings = before ++ drop :: after ∧
        drop.Drops name place ((w.afterAll before).account name) := by
  induction happenings using List.reverseRecOn with
  | nil => exact .inl hblob
  | append_singleton happenings last ih =>
    rcases ih with hkept | ⟨before, drop, after, rfl, hdrops⟩
    · by_cases hlast : last.Drops name place ((w.afterAll happenings).account name)
      · exact .inr ⟨happenings, last, [], rfl, hlast⟩
      · left
        rw [afterAll_concat, Happening.account_apply]
        exact Happening.blob?_onAccount hkept hlast
    · exact .inr ⟨before, drop, after ++ [last], by simp, hdrops⟩

/-- **A store that is written once.**  Every call through every client is logged once, is refused for
one of four reasons and then changes nothing, or else does what it asks and nothing more.  Along
everything that happens to the world the log of an account is that of the calls made to it, and a
blob keeps its bytes until it is dropped. -/
theorem account_written_once (w : World) :
    (∀ client call, w.AnswersCall client call (answer (.call client call) w).1
      (answer (.call client call) w).2) ∧
    ∀ happenings name,
      ((w.afterAll happenings).account name).log =
        (w.account name).log ++ happenings.filterMap (·.noted? name) ∧
      ∀ place data, (w.account name).blob? place = some data →
        ((w.afterAll happenings).account name).blob? place = some data ∨
          ∃ before drop after, happenings = before ++ drop :: after ∧
            drop.Drops name place ((w.afterAll before).account name) := by
  refine ⟨fun client call => ?_, fun happenings name => ⟨w.log_afterAll happenings name, ?_⟩⟩
  · have hself : (answer (.call client call) w).2.account client.account =
        ((w.account client.account).answer call).2 := by
      rw [account_answer_call, if_pos rfl]
    have hothers : ∀ name, name ≠ client.account →
        (answer (.call client call) w).2.account name = w.account name := by
      intro name hne
      rw [account_answer_call, if_neg hne.symm]
    constructor
    · rw [hself, Account.log_answer]
    · exact hothers
    · intro fault
      rw [answer_call_fst]
      exact Account.answer_eq_error_iff
    · intro fault hfault name
      rcases eq_or_ne name client.account with rfl | hne
      · rw [hself]
        exact Account.containers_answer_of_error hfault
      · rw [hothers name hne]
    · intro answer hok
      rw [hself]
      exact Account.performs_of_answer_eq_ok hok
    · rintro place data rfl ⟨⟨⟩, hok⟩ reader hreader
      rw [answer_call_fst, hreader, hself]
      exact Account.answer_get_of_put hok
  · intro place data hblob
    exact blob?_afterAll hblob happenings

/-- The second put of a name is refused and logged, and the container outlives its last blob. -/
example :
    let place : Locator := ⟨"bodies", "1"⟩
    let once := (({} : Account).answer (.put place ⟨#[1]⟩)).2
    let twice := (once.answer (.put place ⟨#[2]⟩)).2
    let deleted := (twice.answer (.deleteBlob place)).2
    (once.answer (.put place ⟨#[2]⟩)).1 = .error (.blobExists place) ∧
      twice.blob? place = some ⟨#[1]⟩ ∧ deleted.hasContainer "bodies" = true ∧
      deleted.blobNames "bodies" = [] ∧
      deleted.log = [.put place, .put place, .deleteBlob place] := by
  decide

end World

end ClaimCheck
