import Mathlib
import ClaimCheck.Proofs.Channel.Exchange
import ClaimCheck.Proofs.Channel.Posting

/-!
# From the publisher to the topic

A bulletin is what comes of any sequence of events that are published on any topics, one after
another, while before each of their requests and between them anything may happen that publishes no
other event: identities, stores and channels fail and work again, time passes, blobs are written and
deleted.  Its log tells all that happened to the world, the requests of the publishers included, and
how each publication ended.

Whatever was done (`Bulletin.publishing_faithful`), each topic holds the events that the successful
publications to it gave back, in order, and each of these is the event that was given or has the
envelope of a blob in place of its data.  The blob was put with the document of the data and holds it
until it is dropped, and until then whoever decodes the published data gets that document.

One publication is followed through its requests and all that happens between them
(`Posting.Underway`), and `Bulletin.Consistent` is kept deed by deed.  That a blob which was put holds
what it held as long as the log tells of no drop is a property of the log alone (`Bulletin.IsHistory`).
-/

namespace ClaimCheck

open Progress

/-! ## Logs -/

/-- Something else that happens: it publishes no event. -/
structure Aside where
  happening : Happening
  keepsPublished : happening.KeepsPublished

/-- What is remembered: what happened in which world, and how a publication ended. -/
inductive Bulletin.Entry where
  | happened (before : World) (happening : Happening)
  | returned (posting : Posting) (outcome : Except ChannelFault Event)

/-- A world with events, and the log of what was done in it, the last thing first. -/
structure Bulletin where
  world : World
  log : List Bulletin.Entry := []

namespace Bulletin

namespace Entry

/-- The event that a publication gave back, with its topic. -/
def returned? : Entry → Option (String × Event)
  | returned posting (.ok published) => some (posting.topic, published)
  | _ => none

/-- What happened drops a blob. -/
def Drops (account : String) (place : Locator) : Entry → Prop
  | happened before happening => before.Drops account place happening
  | returned .. => False

end Entry

/-- Something happens to the world. -/
def happen (s : Bulletin) (h : Happening) : Bulletin where
  world := h.apply s.world
  log := .happened s.world h :: s.log

/-- A publication ends. -/
def conclude (s : Bulletin) (p : Posting) (outcome : Except ChannelFault Event) : Bulletin :=
  { s with log := .returned p outcome :: s.log }

/-- Other things happen one after another. -/
def pause (s : Bulletin) (asides : List Aside) : Bulletin :=
  asides.foldl (fun s aside => s.happen aside.happening) s

/-- A program is run, and before each of its requests a part of a script happens. -/
def runAmid {α : Type} : Relay α → List (List Aside) → Bulletin → α × Bulletin
  | .done a, _, s => (a, s)
  | .ask r next, script, s =>
    runAmid (next (World.answer r (s.pause (script.headD [])).world).1) script.tail
      ((s.pause (script.headD [])).happen (.asked r))

/-- What is done: an event is published while a script happens, or something else happens. -/
inductive Deed where
  | publish (posting : Posting) (script : List (List Aside))
  | other (aside : Aside)

/-- The bulletin after a deed. -/
def step (s : Bulletin) : Deed → Bulletin
  | .publish p script =>
    (runAmid p.attempt.run script s).2.conclude p (runAmid p.attempt.run script s).1
  | .other aside => s.happen aside.happening

/-- The bulletin after some deeds. -/
def run (w : World) (deeds : List Deed) : Bulletin := deeds.foldl step { world := w }

/-- The last deed comes after all others. -/
lemma run_append (w : World) (deeds : List Deed) (deed : Deed) :
    run w (deeds ++ [deed]) = (run w deeds).step deed :=
  List.foldl_concat step _ deed deeds

/-- A publication ends with what its attempt gave. -/
lemma log_step_publish (s : Bulletin) (p : Posting) (script : List (List Aside)) :
    (s.step (.publish p script)).log =
      .returned p (runAmid p.attempt.run script s).1 :: (runAmid p.attempt.run script s).2.log := rfl

/-- The events that publications gave back, the first ones first. -/
def returned (s : Bulletin) : List (String × Event) := (s.log.filterMap Entry.returned?).reverse

/-- An event that is given back comes last. -/
lemma returned_conclude (s : Bulletin) (p : Posting) (outcome : Except ChannelFault Event) :
    (s.conclude p outcome).returned =
      s.returned ++ (outcome.toOption.map (Prod.mk p.topic)).toList := by
  cases outcome with
  | error fault => exact (List.append_nil _).symm
  | ok published => exact List.reverse_cons

/-! ## Blobs and the log -/

/-- The log is the history of the world, as far as blobs are concerned: a blob holds what it held
after something that is on record unless something after that drops it. -/
def IsHistory (s : Bulletin) : Prop :=
  ∀ later before h earlier, s.log = later ++ .happened before h :: earlier →
    ∀ account place data, (h.apply before).Holds account place data →
      (∀ entry ∈ later, ¬ entry.Drops account place) → s.world.Holds account place data

variable {s : Bulletin} {p : Posting} {first : World}

/-- What happens becomes history. -/
lemma IsHistory.happen (hs : s.IsHistory) (h : Happening) : (s.happen h).IsHistory := by
  intro later before past earlier hlog account place data hholds hkept
  cases later with
  | nil =>
    cases hlog
    exact hholds
  | cons entry later =>
    obtain ⟨rfl, htail⟩ := List.cons.inj hlog
    have hnow := hs later before past earlier htail account place data hholds
      fun entry hentry => hkept entry (List.mem_cons_of_mem _ hentry)
    exact hnow.apply (hkept _ List.mem_cons_self)

/-- The end of a publication changes no blob. -/
lemma IsHistory.conclude (hs : s.IsHistory) (p : Posting) (outcome : Except ChannelFault Event) :
    (s.conclude p outcome).IsHistory := by
  intro later before h earlier hlog account place data hholds hkept
  cases later with
  | nil => cases hlog
  | cons entry later =>
    obtain ⟨-, htail⟩ := List.cons.inj hlog
    exact hs later before h earlier htail account place data hholds
      fun entry hentry => hkept entry (List.mem_cons_of_mem _ hentry)

end Bulletin

/-! ## One publication -/

/-- The data of an event were put into a fresh blob of an account, and some things happened since. -/
structure Posting.Put (p : Posting) (place : Locator) (endpoint : Endpoint)
    (since log : List Bulletin.Entry) : Prop where
  offloads : p.gateway.codec.endpoint = some endpoint
  fresh : ∃ id, place = Codec.freshPlace p.gateway.codec.threshold.container id
  logged : ∃ before earlier,
    log = since ++ .happened before (.asked (p.put endpoint.account place)) :: earlier ∧
      (World.answer (p.put endpoint.account place) before).1 = .ok ()

/-- Something more happened since a put. -/
lemma Posting.Put.cons {p : Posting} {place : Locator} {endpoint : Endpoint}
    {since log : List Bulletin.Entry} (h : p.Put place endpoint since log) (entry : Bulletin.Entry) :
    p.Put place endpoint (entry :: since) (entry :: log) := by
  obtain ⟨before, earlier, hlog, hok⟩ := h.logged
  exact ⟨h.offloads, h.fresh, before, earlier, congrArg (entry :: ·) hlog, hok⟩

/-- A blob that was put holds the document of the data unless it was dropped since. -/
lemma Posting.Put.holds {p : Posting} {place : Locator} {endpoint : Endpoint}
    {later since earlier : List Bulletin.Entry} {s : Bulletin} {outcome : Except ChannelFault Event}
    (h : p.Put place endpoint since earlier) (hs : s.IsHistory)
    (hlog : s.log = later ++ .returned p outcome :: earlier)
    (hkept : ∀ entry ∈ later ++ since, ¬ entry.Drops endpoint.account place) :
    s.world.Holds endpoint.account place p.text.toUTF8 := by
  obtain ⟨before, rest, rfl, hok⟩ := h.logged
  refine hs (later ++ .returned p outcome :: since) before
    (.asked (p.put endpoint.account place)) rest (by simp [hlog]) _ _ _
    (Parcel.holds_answer_put hok) fun entry hentry => ?_
  rcases List.mem_append.mp hentry with hlater | hentry
  · exact hkept entry (List.mem_append_left _ hlater)
  · rcases List.mem_cons.mp hentry with rfl | hsince
    · exact id
    · exact hkept entry (List.mem_append_right _ hsince)

namespace Bulletin.Entry

/-- An event that was given back is the one that was given or has an envelope in place of its data,
which names a blob that the data were put into. -/
def IsSound (earlier : List Entry) : Entry → Prop
  | returned p (.ok published) => ∃ claim, published = p.onTopic claim ∧ claim.isSome = p.isLarge ∧
      ∀ place, claim = some place → ∃ endpoint since, p.Put place endpoint since earlier
  | _ => True

/-- Every entry of a log is sound, given the ones before it. -/
def AllSound : List Entry → Prop
  | [] => True
  | entry :: earlier => entry.IsSound earlier ∧ AllSound earlier

/-- An entry somewhere in a log whose entries are sound. -/
lemma AllSound.isSound {later earlier : List Entry} {entry : Entry}
    (h : AllSound (later ++ entry :: earlier)) : entry.IsSound earlier := by
  induction later with
  | nil => exact h.1
  | cons _ later ih => exact ih h.2

end Bulletin.Entry

/-- What holds while an event is published, however far it has got. -/
structure Posting.Underway (p : Posting) (first : World) (st : Progress) (s : Bulletin) : Prop where
  listed : s.world.published = first.published ++ s.returned ++ p.publishedAt st
  history : s.IsHistory
  sound : Bulletin.Entry.AllSound s.log
  claimed : ∀ claim, st = sent claim → claim.isSome = p.isLarge
  stored : ∀ place, st.place? = some place → ∃ endpoint since, p.Put place endpoint since s.log

namespace Posting.Underway

variable {p : Posting} {first : World} {st st' : Progress} {s : Bulletin}

/-- What else happens leaves an event where it is. -/
lemma aside (h : p.Underway first st s) (aside : Aside) :
    p.Underway first st (s.happen aside.happening) := by
  refine ⟨?_, h.history.happen _, ⟨trivial, h.sound⟩, h.claimed, fun place hplace => ?_⟩
  · exact (aside.keepsPublished.published_apply s.world).trans h.listed
  · obtain ⟨endpoint, since, hput⟩ := h.stored place hplace
    exact ⟨endpoint, _, hput.cons _⟩

/-- A pause leaves an event where it is. -/
lemma pause (h : p.Underway first st s) (asides : List Aside) :
    p.Underway first st (s.pause asides) := by
  unfold Bulletin.pause
  induction asides generalizing s with
  | nil => exact h
  | cons aside asides ih => exact ih (h.aside aside)

/-- A request for an event takes it where it is said to be then. -/
lemma asked (h : p.Underway first st s) {r : Request}
    (hmove : p.Moves st r (World.answer r s.world).1 st') :
    p.Underway first st' (s.happen (.asked r)) := by
  refine ⟨hmove.published h.listed, h.history.happen _, ⟨trivial, h.sound⟩,
    hmove.claimed h.claimed, fun place hplace => ?_⟩
  rcases hmove.stored hplace with hbefore | ⟨endpoint, hendpoint, hfresh, rfl, hok⟩
  · obtain ⟨endpoint, since, hput⟩ := h.stored place hbefore
    exact ⟨endpoint, _, hput.cons _⟩
  · exact ⟨endpoint, [], hendpoint, hfresh, s.world, s.log, rfl, hok⟩

/-- Whatever happens while an event is published, it ends where it is said to. -/
lemma runAmid {q : Relay (Except ChannelFault Event)} (h : p.Underway first st s)
    (hq : Follows p.Moves p.Ends st q) (script : List (List Aside)) :
    ∃ st', p.Ends st' (Bulletin.runAmid q script s).1 ∧
      p.Underway first st' (Bulletin.runAmid q script s).2 := by
  induction q generalizing st s script with
  | done outcome => exact ⟨st, hq, h⟩
  | ask r next ih =>
    have hpaused := h.pause (script.headD [])
    obtain ⟨st', hmove, hrest⟩ := hq.of_ask (s.pause (script.headD [])).world
    exact ih _ (hpaused.asked hmove) hrest script.tail

end Posting.Underway

/-! ## Whole runs -/

namespace Bulletin

variable {s : Bulletin} {p : Posting} {first w : World}

/-- What was published is what was there at first and what publications gave back, and each entry of
the log is sound. -/
structure Consistent (first : World) (s : Bulletin) : Prop where
  listed : s.world.published = first.published ++ s.returned
  history : s.IsHistory
  sound : Entry.AllSound s.log

/-- The first bulletin of all. -/
lemma consistent_start (w : World) : Consistent w { world := w } where
  listed := (List.append_nil _).symm
  history later before h earlier hlog := by simp at hlog
  sound := trivial

/-- Nothing was done for an event yet. -/
lemma Consistent.underway (h : Consistent first s) (p : Posting) : p.Underway first fresh s where
  listed := h.listed.trans (List.append_nil _).symm
  history := h.history
  sound := h.sound
  claimed _ hsent := by cases hsent
  stored _ hplace := by cases hplace

/-- A publication that has ended keeps everything consistent. -/
lemma Consistent.conclude {st : Progress} {outcome : Except ChannelFault Event}
    (hends : p.Ends st outcome) (h : p.Underway first st s) :
    Consistent first (s.conclude p outcome) := by
  refine ⟨?_, h.history.conclude p outcome, ?_, h.sound⟩
  · change s.world.published = _
    rw [returned_conclude, h.listed, List.append_assoc]
    cases outcome with
    | error fault => rw [Posting.publishedAt_of_not_sent hends]; rfl
    | ok published =>
      obtain ⟨claim, rfl, rfl⟩ := hends
      rfl
  · cases outcome with
    | error fault => trivial
    | ok published =>
      obtain ⟨claim, rfl, rfl⟩ := hends
      exact ⟨claim, rfl, h.claimed claim rfl, fun place hplace => h.stored place hplace⟩

/-- Every deed keeps everything consistent. -/
lemma Consistent.step (h : Consistent first s) (deed : Deed) : Consistent first (s.step deed) := by
  cases deed with
  | publish p script =>
    obtain ⟨st, hends, hunderway⟩ := (h.underway p).runAmid p.follows_attempt script
    exact Consistent.conclude hends hunderway
  | other aside =>
    refine ⟨?_, h.history.happen _, trivial, h.sound⟩
    exact (aside.keepsPublished.published_apply s.world).trans h.listed

/-- Every bulletin is consistent. -/
lemma consistent_run (w : World) (deeds : List Deed) : Consistent w (run w deeds) := by
  induction deeds using List.reverseRecOn with
  | nil => exact consistent_start w
  | append_singleton deeds deed ih =>
    rw [run_append]
    exact ih.step deed

/-! ## What a consumer gets -/

/-- The data that a publication has put on its topic can be decoded: data that stayed inline are not
taken for an envelope, and for data that are kept in a blob the configuration was accepted, sessions
are opened, the account is available and nothing that happened since the put dropped the blob. -/
structure Decodable (s : Bulletin) (p : Posting) (published : Event) (later earlier : List Entry) :
    Prop where
  plain : p.isLarge = false → (p.event.data.member? claimCheckLabel).isSome = false
  accepted : p.isLarge = true → ∃ c : Config, c.IsAccepted ∧ p.gateway.codec = Codec.ofConfig c
  opens : p.isLarge = true → s.world.Opens
  available : p.isLarge = true → ∀ endpoint, p.gateway.codec.endpoint = some endpoint →
    (s.world.account endpoint.account).isUnavailable = false
  kept : p.isLarge = true → ∃ place endpoint since, published = p.onTopic (some place) ∧
    p.Put place endpoint since earlier ∧
      ∀ entry ∈ later ++ since, ¬ entry.Drops endpoint.account place

/-- The document of data without a claim check is a plain body. -/
lemma isPlain_ofText_compact {data : Json.Value}
    (h : (data.member? claimCheckLabel).isSome = false) :
    ReceivedBody.isPlain (ReceivedBody.ofText data.compact) = true := by
  have htext : (Payload.value data).text = .ok data.compact := rfl
  refine (Payload.isPlain_ofText_iff htext).mpr ?_
  rintro ⟨⟨value, hvalue, hmember⟩, -⟩
  cases hvalue
  rw [h] at hmember
  cases hmember

/-- Data that can be decoded give the document of the data that were given. -/
lemma Consistent.decode (h : Consistent first s) {later earlier : List Entry} {published : Event}
    (hlog : s.log = later ++ .returned p (.ok published) :: earlier)
    (hdecodable : s.Decodable p published later earlier) :
    (s.world.run (p.gateway.codec.decode published.data.compact).run).1 = .ok p.text := by
  cases hlarge : p.isLarge with
  | false =>
    have hsound := h.sound
    rw [hlog] at hsound
    obtain ⟨claim, rfl, hclaim, -⟩ := hsound.isSound
    obtain rfl : claim = none := by
      rw [hlarge] at hclaim
      exact Option.isNone_iff_eq_none.mp (by simpa using hclaim)
    change (s.world.run (p.gateway.codec.decode p.event.data.compact).run).1 = _
    rw [Codec.run_decode_of_isPlain (isPlain_ofText_compact (hdecodable.plain hlarge))]
    rfl
  | true =>
    obtain ⟨place, endpoint, since, rfl, hput, hkept⟩ := hdecodable.kept hlarge
    have hholds := hput.holds h.history hlog hkept
    have hpath : Locator.ofPath place.path = .ok place := by
      obtain ⟨c, haccepted, hcodec⟩ := hdecodable.accepted hlarge
      obtain ⟨hempty, hslash⟩ := haccepted.offloadContainer
      obtain ⟨id, rfl⟩ := hput.fresh
      rw [hcodec]
      exact Locator.ofPath_path hempty hslash (Codec.name_freshPlace_ne _ id)
    exact Codec.run_decode_of_holds hput.offloads hpath (hdecodable.opens hlarge)
      (hdecodable.available hlarge endpoint hput.offloads) hholds

/-! ## Faithful bulletins -/

/-- What a bulletin owes to publishers and consumers, when `first` is the world at the beginning. -/
structure Faithful (first : World) (s : Bulletin) : Prop where
  /-- Each topic holds the events that the publications to it gave back, in order, behind those that
  it held at first. -/
  inOrder : ∀ topic, s.world.events topic = first.events topic ++ valuesAt topic s.returned
  /-- An event is given back as it was given, or with an envelope in place of its data exactly when
  these are too large; the blob that the envelope names was put with the document of the data and
  holds it unless something that happened since dropped it. -/
  asGiven : ∀ later p published earlier,
    s.log = later ++ .returned p (.ok published) :: earlier →
      ∃ claim, published = p.onTopic claim ∧ claim.isSome = p.isLarge ∧
        ∀ place, claim = some place → ∃ endpoint since, p.Put place endpoint since earlier ∧
          ((∀ entry ∈ later ++ since, ¬ entry.Drops endpoint.account place) →
            s.world.Holds endpoint.account place p.text.toUTF8)
  /-- A consumer gets the document of the data that were given. -/
  decoded : ∀ later p published earlier,
    s.log = later ++ .returned p (.ok published) :: earlier →
      s.Decodable p published later earlier →
        (s.world.run (p.gateway.codec.decode published.data.compact).run).1 = .ok p.text

/-- Every bulletin is faithful, from whatever world it starts, whatever is published in it and
whatever else happens. -/
theorem publishing_faithful (w : World) (deeds : List Deed) : Faithful w (run w deeds) := by
  have h := consistent_run w deeds
  refine ⟨fun topic => ?_, fun later p published earlier hlog => ?_,
    fun later p published earlier hlog => h.decode hlog⟩
  · change valuesAt topic (run w deeds).world.published = valuesAt topic w.published ++ _
    rw [h.listed, valuesAt_append]
  · have hsound := h.sound
    rw [hlog] at hsound
    obtain ⟨claim, hpublished, hclaim, hstored⟩ := hsound.isSound
    refine ⟨claim, hpublished, hclaim, fun place hplace => ?_⟩
    obtain ⟨endpoint, since, hput⟩ := hstored place hplace
    exact ⟨endpoint, since, hput, hput.holds h.history hlog⟩

/-- What happened leaves all blobs where they are, whatever they hold. -/
def Entry.keepsBlobs : Entry → Bool
  | happened _ (.asked (.call _ (.put ..))) => true
  | happened _ (.asked (.call ..)) => false
  | happened _ (.outside (.seed ..)) => false
  | _ => true

/-- What leaves all blobs where they are drops none. -/
lemma Entry.not_drops_of_keepsBlobs {entry : Entry} (h : entry.keepsBlobs = true)
    (account : String) (place : Locator) : ¬ entry.Drops account place := by
  rcases entry with ⟨before, _ | request | change⟩ | ⟨posting, outcome⟩
  · exact id
  · cases request with
    | call client call =>
      cases call with
      | put => exact fun hdrops => hdrops.2.2
      | _ => cases h
    | _ => exact id
  · cases change with
    | seed => cases h
    | _ => exact id
  · exact id

/-- An event on a topic. -/
def onTopicOne (data : String) : Posting :=
  ⟨.ofConfig stairlockConfig, .make "e1" "/requests/1" "Changed" (.string data) ⟨0, 0⟩, "one"⟩

/-- The identity backend fails or works again. -/
def identityFailing (value : Bool) : Aside := ⟨.outside (.setIdentityFailing value), trivial⟩

/-- An event with short data is published, and then the identity backend fails right after longer
data were stored and works again later. -/
def interruptedDeeds : List Deed :=
  [.publish (onTopicOne "hi") [],
    .publish (onTopicOne "lost data") (List.replicate 6 [] ++ [[identityFailing true]]),
    .other (identityFailing false)]

/-- The bulletin in which longer data are published at last. -/
def interruptedBulletin : Bulletin :=
  run Exchange.countingWorld (interruptedDeeds ++ [.publish (onTopicOne "hello") []])

/-- The text of the envelope.  The identifier before the one of its place was drawn for the data that
were not published. -/
def lastEnvelope : String := (EncodedBody.claimCheck (Codec.freshPlace "sb-messages" ⟨1⟩)).text

/-- The topic holds the short data and an envelope, which gives the longer data, and what was stored
between them has left nothing on the topic. -/
theorem interrupted_publishing_faithful :
    Faithful Exchange.countingWorld interruptedBulletin ∧
      (interruptedBulletin.world.events "one").map (fun event => event.data.compact) =
        ["\"hi\"", lastEnvelope] ∧
      (interruptedBulletin.world.run
        ((Codec.ofConfig stairlockConfig).decode lastEnvelope).run).1 = .ok "\"hello\"" := by
  have hfaithful : Faithful Exchange.countingWorld interruptedBulletin :=
    publishing_faithful Exchange.countingWorld _
  refine ⟨hfaithful, by decide +kernel, ?_⟩
  set ended := runAmid (onTopicOne "hello").attempt.run []
    (run Exchange.countingWorld interruptedDeeds) with hended
  have hdata : ended.1.toOption.map (fun event => event.data.compact) = some lastEnvelope := by
    decide +kernel
  have hkeeps : ended.2.log.all Entry.keepsBlobs = true := by decide +kernel
  obtain ⟨published, hpublished, hcompact⟩ := Option.map_eq_some_iff.mp hdata
  have houtcome : ended.1 = .ok published := by
    cases houtcome : ended.1 with
    | error fault =>
      rw [houtcome] at hpublished
      cases hpublished
    | ok event =>
      rw [houtcome] at hpublished
      rw [Option.some.inj hpublished]
  have hlog : interruptedBulletin.log =
      [] ++ .returned (onTopicOne "hello") (.ok published) :: ended.2.log := by
    unfold interruptedBulletin
    rw [run_append, log_step_publish, ← hended, houtcome, List.nil_append]
  obtain ⟨claim, honTopic, hclaim, hstored⟩ := hfaithful.asGiven [] _ published _ hlog
  obtain ⟨place, rfl⟩ : ∃ place, claim = some place := Option.isSome_iff_exists.mp hclaim
  obtain ⟨endpoint, since, hput, -⟩ := hstored place rfl
  have hdecodable :
      interruptedBulletin.Decodable (onTopicOne "hello") published [] ended.2.log := by
    refine ⟨fun hsmall => ?_, fun _ => ⟨stairlockConfig, ?_, rfl⟩, fun _ => ⟨?_, ?_⟩, ?_,
      fun _ => ⟨place, endpoint, since, honTopic, hput, fun entry hentry => ?_⟩⟩
    · rw [← hclaim] at hsmall
      cases hsmall
    · exact .inr ⟨stairlockConfig, [], rfl⟩
    · decide +kernel
    · decide +kernel
    · rintro - endpoint hendpoint
      cases hendpoint
      decide +kernel
    · obtain ⟨before, earlier, hearlier, -⟩ := hput.logged
      refine Entry.not_drops_of_keepsBlobs (List.all_eq_true.mp hkeeps entry ?_) _ _
      rw [hearlier]
      exact List.mem_append_left _ hentry
  have htext : (onTopicOne "hello").text = "\"hello\"" := by decide +kernel
  have hcodec : (onTopicOne "hello").gateway.codec = Codec.ofConfig stairlockConfig := rfl
  have hdecoded := hfaithful.decoded [] _ published _ hlog hdecodable
  rw [hcodec, hcompact, htext] at hdecoded
  exact hdecoded

end Bulletin

end ClaimCheck
