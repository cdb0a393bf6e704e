import Mathlib
import ClaimCheck.Proofs.Codec.Transparency
import ClaimCheck.Proofs.World.SingleCall

/-!
# What encoding does to a world

A text that stays inline is encoded without a request.  Any other text is put into a fresh blob by
one call in a session of its own, and `Codec.Offloads` says all that becomes of it: when it succeeds,
with which result, which blobs there are then and what was logged.

The codec of a configuration offloads only if the configuration names an account
(`Codec.exists_account_of_not_staysInline`), so no text is refused for want of one.
-/

namespace ClaimCheck

namespace Codec

/-- Why a text is not put into a blob of its own. -/
inductive Unstored (access : Access) (endpoint : Endpoint) (place : Locator) (w : World) :
    CodecFault → Prop
  | denied {cause : Store.Fault} (hdenied : w.DeniesCall access endpoint cause) :
    Unstored access endpoint place w (.store cause)
  | taken (hopens : w.OpensSession access endpoint)
    (havailable : (w.account endpoint.account).isUnavailable = false)
    (htaken : (w.account endpoint.account).blob? place ≠ none) :
    Unstored access endpoint place w (.store (.blobExists place))

/-- What becomes of a text that is put into a blob of its own: it is encoded exactly if a session is
opened, the account is available and the name is free, and then its blob is all that is new.  When it
is not encoded, the store says why, and no container of any account is other than it was.  The put is
logged exactly if the session was opened, and nothing else is; then all but the account is as after
one session and one identifier. -/
structure Offloads (access : Access) (endpoint : Endpoint) (place : Locator) (text : String)
    (w : World) (outcome : Except CodecFault EncodedBody) (w' : World) : Prop where
  eq_ok_iff : ∀ body, outcome = .ok body ↔
    body = .claimCheck place ∧ w.OpensSession access endpoint ∧
      (w.account endpoint.account).isUnavailable = false ∧
      (w.account endpoint.account).blob? place = none
  containers_of_ok : ∀ body, outcome = .ok body →
    (w'.account endpoint.account).containers =
      ((w.account endpoint.account).seed place text.toUTF8).containers
  eq_error_iff : ∀ fault, outcome = .error fault ↔ Unstored access endpoint place w fault
  store_of_error : ∀ fault, outcome = .error fault → ∃ cause, fault = .store cause
  containers_of_error : ∀ fault, outcome = .error fault →
    ∀ name, (w'.account name).containers = (w.account name).containers
  log_of_opens : w.OpensSession access endpoint →
    (w'.account endpoint.account).log = (w.account endpoint.account).log ++ [.put place]
  log_of_not_opens : ¬ w.OpensSession access endpoint →
    (w'.account endpoint.account).log = (w.account endpoint.account).log
  account_of_ne : ∀ name, name ≠ endpoint.account → w'.account name = w.account name
  session : w.OpensSession access endpoint →
    World.AfterSessions 1 { w with ids := w.ids.rest } w'

variable {codec : Codec} {endpoint : Endpoint} {text : String}

/-- A text that exceeds the threshold is encoded by offloading it. -/
lemma run_encodeText_of_exceeds
    (hlarge : codec.threshold.exceededBy text.utf8ByteSize = true)
    (hendpoint : codec.endpoint = some endpoint) :
    (codec.encodeText text).run = .ask .drawId fun id =>
      (codec.access.within endpoint fun session =>
        session.call (.put (freshPlace codec.threshold.container id) text.toUTF8)).run.bind fun
          | .error fault => .done (.error (.store fault))
          | .ok _ => .done (.ok (.claimCheck (freshPlace codec.threshold.container id))) := by
  unfold encodeText
  rw [if_pos hlarge, Attempt.run_map, run_offload hendpoint, Program.ask_bind]
  congr 1
  funext id
  rw [Program.bind_assoc]
  congr 1
  funext outcome
  rcases outcome with fault | _ <;> rfl

/-- The outcome of encoding a text from the outcome of its put. -/
def encodedAt (place : Locator) (outcome : Except Store.Fault Unit) :
    Except CodecFault EncodedBody :=
  (outcome.mapError .store).map fun _ => .claimCheck place

section Puts

variable {access : Access} {place : Locator} {w w' : World} {outcome : Except Store.Fault Unit}

/-- A put in a session of its own fails for one of the reasons for which a text is not stored. -/
lemma encodedAt_eq_error_iff {data : ByteArray}
    (h : w.CallsOnce access endpoint (.put place data) outcome w') {fault : CodecFault} :
    encodedAt place outcome = .error fault ↔ Unstored access endpoint place w fault := by
  have hrefused : ∀ cause, outcome = .error cause ↔ w.DeniesCall access endpoint cause ∨
      w.OpensSession access endpoint ∧ (w.account endpoint.account).isUnavailable = false ∧
        (w.account endpoint.account).blob? place ≠ none ∧ cause = .blobExists place := by
    intro cause
    rw [h.eq_error_iff, Store.Account.perform_put_eq_error_iff]
  have hstore : encodedAt place outcome = .error fault ↔
      ∃ cause, outcome = .error cause ∧ fault = .store cause := by
    rcases outcome with cause | _ <;> simp [encodedAt, Except.mapError, Except.map, eq_comm]
  rw [hstore]
  constructor
  · rintro ⟨cause, houtcome, rfl⟩
    rcases (hrefused cause).mp houtcome with hdenied | ⟨hopens, havailable, htaken, rfl⟩
    · exact .denied hdenied
    · exact .taken hopens havailable htaken
  · rintro (hdenied | ⟨hopens, havailable, htaken⟩)
    · exact ⟨_, (hrefused _).mpr (.inl hdenied), rfl⟩
    · exact ⟨_, (hrefused _).mpr (.inr ⟨hopens, havailable, htaken, rfl⟩), rfl⟩

/-- Which identifiers are drawn later decides nothing about the reasons. -/
lemma unstored_withIds {ids : Supply Uuid} {fault : CodecFault} :
    Unstored access endpoint place { w with ids } fault ↔
      Unstored access endpoint place w fault := by
  constructor
  · rintro (hdenied | ⟨hopens, havailable, htaken⟩)
    · exact .denied (World.deniesCall_withIds.mp hdenied)
    · exact .taken (World.opensSession_withIds.mp hopens) havailable htaken
  · rintro (hdenied | ⟨hopens, havailable, htaken⟩)
    · exact .denied (World.deniesCall_withIds.mpr hdenied)
    · exact .taken (World.opensSession_withIds.mpr hopens) havailable htaken

/-- A put in a session of its own, once an identifier was drawn, offloads what it puts. -/
lemma offloads_of_callsOnce
    (h : ({ w with ids := w.ids.rest } : World).CallsOnce access endpoint
      (.put place text.toUTF8) outcome w') :
    Offloads access endpoint place text w (encodedAt place outcome) w' := by
  have hok : outcome = .ok () ↔ w.OpensSession access endpoint ∧
      (w.account endpoint.account).isUnavailable = false ∧
        (w.account endpoint.account).blob? place = none :=
    (h.eq_ok_iff ()).trans (and_congr World.opensSession_withIds
      (and_congr Iff.rfl Store.Account.perform_put_eq_ok_iff))
  refine ⟨?_, ?_, ?_, ?_, ?_, ?_, ?_, fun name hne => h.account_of_ne hne, ?_⟩
  · intro body
    rw [← hok]
    rcases outcome with fault | _
    · simp [encodedAt, Except.mapError, Except.map]
    · simp [encodedAt, Except.mapError, Except.map, eq_comm]
  · intro body hbody
    rcases outcome with fault | _
    · cases hbody
    · obtain ⟨hopens, havailable, hfree⟩ := hok.mp rfl
      rw [(h.of_opens (World.opensSession_withIds.mpr hopens)).1]
      exact Store.Account.containers_answer_put_of_ok
        (Store.Account.answer_put_eq_ok_iff.mpr ⟨havailable, hfree⟩)
  · intro fault
    exact (encodedAt_eq_error_iff h).trans unstored_withIds
  · intro fault hfault
    rcases outcome with cause | _
    · cases hfault
      exact ⟨cause, rfl⟩
    · cases hfault
  · intro fault hfault name
    rcases outcome with cause | _
    · exact h.containers_of_error name
    · cases hfault
  · intro hopens
    exact h.log_of_opens (World.opensSession_withIds.mpr hopens)
  · intro hcloses
    rw [h.account_of_not_opens (mt World.opensSession_withIds.mp hcloses)]
    rfl
  · intro hopens
    exact (h.of_opens (World.opensSession_withIds.mpr hopens)).2

end Puts

/-- A text that exceeds the threshold is offloaded to the endpoint. -/
lemma offloads_encodeText (hlarge : codec.threshold.exceededBy text.utf8ByteSize = true)
    (hendpoint : codec.endpoint = some endpoint) (w : World) :
    Offloads codec.access endpoint (freshPlace codec.threshold.container w.ids.next) text w
      (w.run (codec.encodeText text).run).1 (w.run (codec.encodeText text).run).2 := by
  set place := freshPlace codec.threshold.container w.ids.next
  -- the session is opened once the identifier of the place was drawn
  set w₁ : World := { w with ids := w.ids.rest }
  set put := (codec.access.within endpoint fun session =>
    session.call (.put place text.toUTF8)).run
  have hrun : w.run (codec.encodeText text).run =
      (encodedAt place (w₁.run put).1, (w₁.run put).2) := by
    rw [run_encodeText_of_exceeds hlarge hendpoint]
    change World.run w₁ (put.bind _) = _
    unfold World.run
    rw [Program.run_bind]
    rcases (put.run World.answer w₁).1 with fault | _ <;> rfl
  rw [hrun]
  exact offloads_of_callsOnce (w₁.callsOnce_within codec.access endpoint _)

/-- A text that exceeds the threshold is encoded with one credential. -/
lemma acquires_encodeText (hlarge : codec.threshold.exceededBy text.utf8ByteSize = true)
    (hendpoint : codec.endpoint = some endpoint) (w : World) :
    ((codec.encodeText text).run.asked World.answer w).filter Request.isAcquire =
      [.acquire codec.access.selector] := by
  rw [run_encodeText_of_exceeds hlarge hendpoint, Program.asked,
    List.filter_cons_of_neg (by decide)]
  refine (Program.filter_asked_bind _ (fun outcome => ?_) _).trans
    (codec.access.acquires_within endpoint (fun session => session.isCall_call _) _)
  rcases outcome with fault | _ <;> trivial

/-! ## The codec of a configuration -/

/-- The codec of a configuration, with an access of its own. -/
def forConfig (c : Config) (access : Access) : Codec := { ofConfig c with access }

variable {c : Config} {access : Access}

/-- The codec of a configuration that names an account offloads to it. -/
lemma endpoint_forConfig (access : Access) {account : String}
    (haccount : c.offloadAccount = some account) :
    (forConfig c access).endpoint = some ⟨account, c.endpointSuffix⟩ := by
  change c.offloadAccount.map _ = _
  rw [haccount]
  rfl

/-- A configuration under which a text does not stay inline names an account to offload to. -/
lemma exists_account_of_not_staysInline (hlarge : ¬ StaysInline c text) :
    ∃ account, c.offloadAccount = some account := by
  unfold StaysInline at hlarge
  push Not at hlarge
  exact Option.isSome_iff_exists.mp (Bool.ne_false_iff.mp hlarge.1)

/-- Encoding a text that stays inline asks nothing, so the world is as it was.  Any other text is
offloaded to the account that the configuration then names, with one credential asked for: no text
is refused for want of an account. -/
theorem encodeText_outcomes (c : Config) (access : Access) (w : World) (text : String) :
    (StaysInline c text →
      ((forConfig c access).encodeText text).run = .done (.ok (.inline text)) ∧
        w.run ((forConfig c access).encodeText text).run = (.ok (.inline text), w)) ∧
    (¬ StaysInline c text → ∃ account, c.offloadAccount = some account ∧
      (((forConfig c access).encodeText text).run.asked World.answer w).filter Request.isAcquire =
        [.acquire access.selector] ∧
      Offloads access ⟨account, c.endpointSuffix⟩ (freshPlace c.offloadContainer w.ids.next) text w
        (w.run ((forConfig c access).encodeText text).run).1
        (w.run ((forConfig c access).encodeText text).run).2) := by
  constructor
  · intro hinline
    have hsmall : (forConfig c access).threshold.exceededBy text.utf8ByteSize = false :=
      staysInline_iff.mp hinline
    rw [run_encodeText_of_small hsmall]
    exact ⟨rfl, rfl⟩
  · intro hlarge
    obtain ⟨account, haccount⟩ := exists_account_of_not_staysInline hlarge
    have hexceeds : (forConfig c access).threshold.exceededBy text.utf8ByteSize = true := by
      rw [staysInline_iff, Bool.not_eq_false] at hlarge
      exact hlarge
    have hendpoint := endpoint_forConfig access haccount
    exact ⟨account, haccount, acquires_encodeText hexceeds hendpoint w,
      offloads_encodeText hexceeds hendpoint w⟩

/-- A text of five bytes is offloaded where four are the limit, to the place that was free. -/
theorem encodeText_outcomes_hello :
    ¬ StaysInline stairlockConfig "hello" ∧
      (World.repeating.run ((forConfig stairlockConfig ⟨.ambient⟩).encodeText "hello").run).1 =
        .ok (.claimCheck repeatedPlace) ∧
      ((World.repeating.run ((forConfig stairlockConfig ⟨.ambient⟩).encodeText "hello").run).2.account
        "stairlock").blob? repeatedPlace = some "hello".toUTF8 := by
  have hlarge : ¬ StaysInline stairlockConfig "hello" := by
    rintro (h | h)
    · cases h
    · exact absurd h (by decide)
  obtain ⟨account, haccount, -, hoffloads⟩ :=
    (encodeText_outcomes stairlockConfig ⟨.ambient⟩ World.repeating "hello").2 hlarge
  cases haccount
  have hopens : World.repeating.OpensSession ⟨.ambient⟩ ⟨"stairlock", "core.windows.net"⟩ :=
    (World.opensSession_iff _ _ _).mpr ⟨rfl, by decide⟩
  have hok := (hoffloads.eq_ok_iff (.claimCheck repeatedPlace)).mpr ⟨rfl, hopens, rfl, rfl⟩
  refine ⟨hlarge, hok, ?_⟩
  rw [Store.Account.blob?_eq, hoffloads.containers_of_ok _ hok, ← Store.Account.blob?_eq,
    Store.Account.blob?_seed]
  exact if_pos rfl

end Codec

end ClaimCheck
