import Mathlib
import ClaimCheck.Proofs.Channel.Progress

/-!
# How far an event has got

Publishing an event goes like sending a message (`Progress`): data whose compact document is too
large are put into a blob of their own, and then the event is published, with its data or with an
envelope that names the blob.  Either may fail, and nothing is done after a failure.
`Posting.Moves` says which requests may be asked for an event and how far it gets by each, and
`Posting.follows_attempt` that publishing it asks no others and gives back what was published.

What was published on all topics only grows, and only by the request that publishes an event
(`Posting.Moves.published`).
-/

namespace ClaimCheck

open Progress

/-! ## Events on topics -/

/-- An event is published, or it is refused and nothing changes. -/
lemma World.answer_publish (w : World) (credential : Identity.Credential) (topic : String)
    (event : Event) :
    answer (.publish credential topic event) w =
        (.ok (), { w with published := w.published ++ [(topic, event)] }) ∨
      ∃ fault, answer (.publish credential topic event) w = (.error fault, w) := by
  change w.publish credential topic event = _ ∨ ∃ fault, w.publish credential topic event = _
  unfold publish
  split
  · exact .inr ⟨_, rfl⟩
  · exact .inl rfl

/-- A request that publishes no event. -/
def Request.IsNoPublish (r : Request) : Prop :=
  ∀ credential topic event, r ≠ .publish credential topic event

/-- No other request changes what was published. -/
lemma World.published_answer (w : World) {r : Request} (hr : r.IsNoPublish) :
    (answer r w).2.published = w.published := by
  cases r with
  | drawId => rfl
  | clock => rfl
  | acquire selector =>
    change (w.acquire selector).2.published = _
    unfold acquire
    rcases w.ledger.acquire selector w.tokens.next w.now with ⟨_ | credential, ledger⟩ <;> rfl
  | release credential => rfl
  | connect endpoint credential =>
    change (w.connect endpoint credential).2.published = _
    unfold connect
    cases w.denial? credential <;> rfl
  | disconnect client => rfl
  | call client call => rfl
  | enqueue space credential destination message =>
    rcases w.answer_enqueue space credential destination message with hanswer | ⟨fault, hanswer⟩ <;>
      rw [hanswer]
  | publish credential topic event => exact absurd rfl (hr _ _ _)

/-- A happening that publishes no event. -/
def Happening.KeepsPublished : Happening → Prop
  | asked request => request.IsNoPublish
  | _ => True

/-- What was published stays the same. -/
lemma Happening.KeepsPublished.published_apply {h : Happening} (hkept : h.KeepsPublished)
    (w : World) : (h.apply w).published = w.published := by
  cases h with
  | quiet => rfl
  | asked request => exact w.published_answer hkept
  | outside change => cases change <;> rfl

/-! ## Publishing -/

/-- An event that is published: by which gateway, and on which topic. -/
structure Posting where
  gateway : EventGateway
  event : Event
  topic : String

namespace Posting

/-- The attempt to publish the event. -/
def attempt (p : Posting) : Attempt ChannelFault Event := p.gateway.publish p.event p.topic

/-- The document of the event's data. -/
def text (p : Posting) : String := p.event.data.compact

/-- The data are too large for the topic. -/
def isLarge (p : Posting) : Bool := p.gateway.codec.threshold.exceededBy p.text.utf8ByteSize

/-- The event as it is published: with its own data, or with the envelope of the place where its data
are kept. -/
def onTopic (p : Posting) : Option Locator → Event
  | none => p.event
  | some place => { p.event with data := EncodedBody.envelope place }

/-- The put of the data at a place of an account. -/
def put (p : Posting) (account : String) (place : Locator) : Request :=
  .call ⟨account⟩ (.put place p.text.toUTF8)

/-- The requests that may be asked for an event, and how far it gets by each. -/
inductive Moves (p : Posting) : Progress → (r : Request) → r.Reply → Progress → Prop
  | idle (st : Progress) {r : Request} (reply : r.Reply) (hr : r.IsIdle) : Moves p st r reply st
  | put (hlarge : p.isLarge = true) {endpoint : Endpoint}
    (hendpoint : p.gateway.codec.endpoint = some endpoint) (id : Uuid)
    (reply : Except Store.Fault Unit) :
    Moves p fresh
      (p.put endpoint.account (Codec.freshPlace p.gateway.codec.threshold.container id)) reply
      (afterPut (Codec.freshPlace p.gateway.codec.threshold.container id) reply)
  | publish {claim : Option Locator} (hclaim : claim.isSome = p.isLarge)
    (credential : Identity.Credential) (reply : Except TransportFault Unit) :
    Moves p (ready claim) (.publish credential p.topic (p.onTopic claim)) reply
      (afterEnqueue claim reply)

/-- An event that was published is given back as it was, and one that was not is not. -/
def Ends (p : Posting) (st : Progress) : Except ChannelFault Event → Prop
  | .ok published => ∃ claim, st = sent claim ∧ published = p.onTopic claim
  | .error _ => st.isSent = false

variable {p : Posting}

/-- Wrapping the data leaves the event ready for its topic, with an envelope exactly when the data
are too large, or it fails. -/
lemma follows_wrapValue (p : Posting) :
    Follows p.Moves (fun st outcome => match outcome with
      | .ok data => ∃ claim, st = ready claim ∧ claim.isSome = p.isLarge ∧
          { p.event with data } = p.onTopic claim
      | .error _ => st = fresh) fresh (p.gateway.codec.wrapValue p.event.data).run := by
  unfold Codec.wrapValue
  refine .attempt_bind ((Codec.follows_encodeText (fun st _ => .idle st)
    fun hlarge endpoint hendpoint id => .put hlarge hendpoint id).mono fun st outcome hready => ?_)
  rcases outcome with fault | encoded
  · exact hready
  · obtain ⟨rfl, hclaim, -⟩ := hready
    cases encoded with
    | inline text => exact ⟨none, rfl, hclaim, rfl⟩
    | claimCheck place => exact ⟨some place, rfl, hclaim, rfl⟩

/-- Publishing an event asks what may be asked for it, and gives back what was published. -/
lemma follows_attempt (p : Posting) : Follows p.Moves p.Ends fresh p.attempt.run := by
  unfold attempt EventGateway.publish
  refine .attempt_bind (.attempt_wrapping (p.follows_wrapValue.mono fun st outcome hready => ?_))
  rcases outcome with fault | data
  · subst hready
    rfl
  · obtain ⟨claim, rfl, hclaim, hevent⟩ := hready
    refine .attempt_bind (.withCredential (fun st _ => .idle st) (fun credential reply _ => ?_)
      fun fault => isSent_ready _)
    rw [hevent]
    refine ⟨_, .publish hclaim credential reply, ?_⟩
    rcases reply with fault | _
    · exact isSent_ready _
    · exact ⟨claim, rfl, rfl⟩

/-! ## What an event has reached -/

/-- What was published of an event that has got so far. -/
def publishedAt (p : Posting) : Progress → List (String × Event)
  | sent claim => [(p.topic, p.onTopic claim)]
  | _ => []

@[simp] lemma publishedAt_ready (p : Posting) (claim : Option Locator) :
    p.publishedAt (ready claim) = [] := by
  cases claim <;> rfl

/-- Nothing was published of an event that was not. -/
lemma publishedAt_of_not_sent {st : Progress} (hst : st.isSent = false) :
    p.publishedAt st = [] := by
  cases st with
  | sent claim => cases hst
  | _ => rfl

/-- A request for an event publishes nothing else. -/
lemma Moves.published {st st' : Progress} {r : Request} {w : World} {before : List (String × Event)}
    (hmove : p.Moves st r (World.answer r w).1 st')
    (hpublished : w.published = before ++ p.publishedAt st) :
    (World.answer r w).2.published = before ++ p.publishedAt st' := by
  cases hmove with
  | idle _ _ hr =>
    rw [w.published_answer (by rintro _ _ _ rfl; exact hr)]
    exact hpublished
  | @put _ endpoint _ id =>
    rw [w.published_answer (by simp [Posting.put, Request.IsNoPublish])]
    cases (World.answer (p.put endpoint.account
      (Codec.freshPlace p.gateway.codec.threshold.container id)) w).1 <;> exact hpublished
  | @publish claim _ credential =>
    rw [publishedAt_ready, List.append_nil] at hpublished
    rcases w.answer_publish credential p.topic (p.onTopic claim) with hanswer | ⟨fault, hanswer⟩
    · rw [hanswer]
      exact congrArg (· ++ [(p.topic, p.onTopic claim)]) hpublished
    · rw [hanswer]
      change w.published = before ++ p.publishedAt (ready claim)
      rw [publishedAt_ready, List.append_nil]
      exact hpublished

/-- An event is published with an envelope exactly when its data are too large. -/
lemma Moves.claimed {st st' : Progress} {r : Request} {reply : r.Reply}
    (hmove : p.Moves st r reply st')
    (hclaimed : ∀ claim, st = sent claim → claim.isSome = p.isLarge) :
    ∀ claim, st' = sent claim → claim.isSome = p.isLarge := by
  intro claim hsent
  cases hmove with
  | idle => exact hclaimed claim hsent
  | put _ _ _ reply => cases reply <;> cases hsent
  | @publish ready hclaim _ reply =>
    rcases reply with fault | _
    · cases ready <;> cases hsent
    · cases hsent
      exact hclaim

/-- The place of the data was known before a request, or the request is the put of the data there and
it succeeded. -/
lemma Moves.stored {st st' : Progress} {r : Request} {w : World} {place : Locator}
    (hmove : p.Moves st r (World.answer r w).1 st') (hplace : st'.place? = some place) :
    st.place? = some place ∨ ∃ endpoint, p.gateway.codec.endpoint = some endpoint ∧
      (∃ id, place = Codec.freshPlace p.gateway.codec.threshold.container id) ∧
        r = p.put endpoint.account place ∧
          (World.answer (p.put endpoint.account place) w).1 = .ok () := by
  cases hmove with
  | idle => exact .inl hplace
  | @put _ endpoint hendpoint id =>
    cases hput : (World.answer (p.put endpoint.account
      (Codec.freshPlace p.gateway.codec.threshold.container id)) w).1 with
    | error fault =>
      rw [hput] at hplace
      cases hplace
    | ok _ =>
      rw [hput] at hplace
      cases hplace
      exact .inr ⟨endpoint, hendpoint, ⟨id, rfl⟩, rfl, hput⟩
  | @publish ready _ credential =>
    refine .inl ?_
    rw [place?_ready]
    cases hpublish : (World.answer (.publish credential p.topic (p.onTopic ready)) w).1 with
    | error fault =>
      rw [hpublish] at hplace
      exact (place?_ready ready).symm.trans hplace
    | ok _ =>
      rw [hpublish] at hplace
      exact hplace

end Posting

end ClaimCheck
