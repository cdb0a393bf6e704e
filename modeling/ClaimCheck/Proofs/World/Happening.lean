import Mathlib
import ClaimCheck.Proofs.Store.Account
import ClaimCheck.World.Basic

/-!
# What happens to a world

A world changes when it answers a request of some relay, or when someone outside of all relays
changes it: a blob is placed past the log, an account becomes unavailable, the identity backend or
the channel fails or works again, time passes, messages are taken.  A `Happening` is one such
change; whatever relays do side by side, the world goes through a sequence of happenings.

Two questions are asked of a happening: whether it drops a blob (`Happening.Drops`), and whether it
changes a container or closes its account (`Happening.Disturbs`).  A blob outlives all happenings
that do not drop it (`Happening.blob?_onAccount`).  Tokens are drawn one at a time and in order
(`Happening.tokens_apply`).
-/

namespace ClaimCheck

/-! ## The accounts of a world -/

namespace World

/-- The account that was put in its place is found there. -/
lemma account_setAccount (w : World) (name other : String) (a : Store.Account) :
    (w.setAccount name a).account other = if other = name then a else w.account other := by
  unfold setAccount account
  rw [Keyed.get?_insert]
  split <;> rfl

/-- Changing one account leaves the others as they were. -/
lemma account_changeAccount (w : World) (name other : String)
    (f : Store.Account → Store.Account) :
    (w.changeAccount name f).account other =
      if name = other then f (w.account other) else w.account other := by
  unfold changeAccount
  rw [account_setAccount]
  rcases eq_or_ne name other with rfl | hne
  · rw [if_pos rfl]
  · rw [if_neg hne.symm, if_neg hne]

/-- A call is answered by the account of its client. -/
lemma answer_call_fst (w : World) (client : Client) (call : Store.Call) :
    (answer (.call client call) w).1 = ((w.account client.account).answer call).1 := rfl

/-- A call changes the account of its client only. -/
lemma account_answer_call (w : World) (client : Client) (call : Store.Call) (name : String) :
    (answer (.call client call) w).2.account name =
      if client.account = name then ((w.account name).answer call).2 else w.account name :=
  account_changeAccount w client.account name fun a => (a.answer call).2

/-- Connecting makes the account if it was never used, which leaves every account as it was. -/
lemma account_connect (w : World) (endpoint : Endpoint) (credential : Identity.Credential)
    (name : String) : (w.connect endpoint credential).2.account name = w.account name := by
  unfold connect
  cases w.denial? credential with
  | some denial => rfl
  | none =>
    change (w.changeAccount endpoint.account id).account name = _
    rw [account_changeAccount, id, ite_self]

/-- Acquiring a credential changes no account. -/
lemma account_acquire (w : World) (selector : Identity.Selector) (name : String) :
    (w.acquire selector).2.account name = w.account name := by
  unfold acquire
  rcases w.ledger.acquire selector w.tokens.next w.now with ⟨_ | credential, ledger⟩ <;> rfl

/-- Sending a message changes no account. -/
lemma account_enqueue (w : World) (space : String) (credential : Identity.Credential)
    (destination : String) (message : Message) (name : String) :
    (w.enqueue space credential destination message).2.account name = w.account name := by
  unfold enqueue
  dsimp only
  repeat' split
  all_goals rfl

/-- Publishing an event changes no account. -/
lemma account_publish (w : World) (credential : Identity.Credential) (topic : String)
    (event : Event) (name : String) :
    (w.publish credential topic event).2.account name = w.account name := by
  unfold publish
  split <;> rfl

/-- No request but a call changes an account. -/
lemma account_answer_of_not_call (w : World) {r : Request}
    (h : ∀ client call, r ≠ .call client call) (name : String) :
    (answer r w).2.account name = w.account name := by
  cases r with
  | drawId => rfl
  | clock => rfl
  | acquire selector => exact account_acquire w selector name
  | release credential => rfl
  | connect endpoint credential => exact account_connect w endpoint credential name
  | disconnect client => rfl
  | call client call => exact absurd rfl (h client call)
  | enqueue space credential destination message =>
    exact account_enqueue w space credential destination message name
  | publish credential topic event => exact account_publish w credential topic event name

end World

/-- A world that draws the same identifier and the same token again and again. -/
def World.repeating : World where
  now := ⟨0, 0⟩
  ids := { draw := fun _ => ⟨0⟩ }
  tokens := { draw := fun _ => "token" }

/-! ## Happenings -/

/-- A change of a world that no relay asks for. -/
inductive Outside where
  | seed (account : String) (place : Locator) (data : ByteArray)
  | createContainer (account container : String)
  | setUnavailable (account : String) (value : Bool)
  | setIdentityFailing (value : Bool)
  | setChannelFailing (value : Bool)
  | setClock (now : Instant)
  | pop (destination : String)
  | drain (destination : String)

/-- The world after a change that no relay asks for. -/
def Outside.apply : Outside → World → World
  | seed account place data, w => w.changeAccount account (·.seed place data)
  | createContainer account container, w =>
    w.changeAccount account (·.createContainer container)
  | setUnavailable account value, w =>
    w.changeAccount account ({ · with isUnavailable := value })
  | setIdentityFailing value, w => { w with ledger.failing := value }
  | setChannelFailing value, w => { w with channelFailing := value }
  | setClock now, w => { w with now }
  | pop destination, w => { w with queues := (w.queues.pop destination).2 }
  | drain destination, w => { w with queues := (w.queues.drain destination).2 }

/-- A step of a world: nothing is asked of it, a request of some relay is answered, or someone
outside changes it. -/
inductive Happening where
  | quiet
  | asked (request : Request)
  | outside (change : Outside)

namespace Happening

/-- The world after a happening. -/
def apply : Happening → World → World
  | quiet, w => w
  | asked request, w => (World.answer request w).2
  | outside change, w => change.apply w

/-- What a happening does to one account. -/
def onAccount (name : String) (a : Store.Account) : Happening → Store.Account
  | asked (.call client call) => if client.account = name then (a.answer call).2 else a
  | outside (.seed other place data) => if other = name then a.seed place data else a
  | outside (.createContainer other container) =>
    if other = name then a.createContainer container else a
  | outside (.setUnavailable other value) =>
    if other = name then { a with isUnavailable := value } else a
  | _ => a

/-- Whether a happening drops a blob of an account, or puts another in its place: the blob or its
container is deleted while the account is available, or the blob is seeded. -/
def Drops (name : String) (place : Locator) (a : Store.Account) : Happening → Prop
  | asked (.call client call) =>
    client.account = name ∧ a.isUnavailable = false ∧ call.Drops place
  | outside (.seed other seeded _) => other = name ∧ seeded = place
  | _ => False

/-- Whether a happening asks to change a container of an account, or closes the account. -/
def Disturbs (name container : String) : Happening → Prop
  | asked (.call client call) => client.account = name ∧ call.Changes container
  | outside (.seed other place _) => other = name ∧ place.container = container
  | outside (.createContainer other made) => other = name ∧ made = container
  | outside (.setUnavailable other value) => other = name ∧ value = true
  | _ => False

/-- An account after a happening is known from the account before. -/
lemma account_apply (h : Happening) (w : World) (name : String) :
    (h.apply w).account name = h.onAccount name (w.account name) := by
  cases h with
  | quiet => rfl
  | asked r =>
    cases r with
    | call client call => exact World.account_answer_call w client call name
    | _ => exact World.account_answer_of_not_call w (fun _ _ => by simp) name
  | outside change =>
    cases change with
    | seed other place data => exact World.account_changeAccount w other name _
    | createContainer other container => exact World.account_changeAccount w other name _
    | setUnavailable other value => exact World.account_changeAccount w other name _
    | _ => rfl

variable {a : Store.Account} {name : String}

/-- A blob outlives every happening that does not drop it, and holds what it held. -/
lemma blob?_onAccount {h : Happening} {place : Locator} {data : ByteArray}
    (hblob : a.blob? place = some data) (hkept : ¬ h.Drops name place a) :
    (h.onAccount name a).blob? place = some data := by
  unfold onAccount
  split
  case h_1 client call =>
    split
    · next hname =>
      cases hu : a.isUnavailable with
      | true =>
        rw [Store.Account.blob?_eq, Store.Account.containers_answer_of_unavailable hu]
        exact hblob
      | false =>
        exact Store.Account.blob?_answer_of_not_drops hblob fun hd => hkept ⟨hname, hu, hd⟩
    · exact hblob
  case h_2 other seeded data' =>
    split
    · next hname =>
      have hne : place ≠ seeded := fun heq => hkept ⟨hname, heq.symm⟩
      rw [Store.Account.blob?_seed, if_neg hne]
      exact hblob
    · exact hblob
  case h_3 other container =>
    split
    · rw [Store.Account.blob?_createContainer]
      exact hblob
    · exact hblob
  case h_4 other value =>
    split
    · exact hblob
    · exact hblob
  case h_5 => exact hblob

/-- A container stays as it was through every happening that does not disturb it. -/
lemma get?_onAccount {h : Happening} {container : String} (hkept : ¬ h.Disturbs name container) :
    (h.onAccount name a).containers.get? container = a.containers.get? container := by
  unfold onAccount
  split
  case h_1 client call =>
    split
    · next hname =>
      exact Store.Account.get?_answer_of_not_changes a fun hc => hkept ⟨hname, hc⟩
    · rfl
  case h_2 other place data =>
    split
    · next hname =>
      have hne : container ≠ place.container := fun heq => hkept ⟨hname, heq.symm⟩
      rw [Store.Account.get?_seed, if_neg hne]
    · rfl
  case h_3 other made =>
    split
    · next hname =>
      have hne : container ≠ made := fun heq => hkept ⟨hname, heq.symm⟩
      rw [Store.Account.get?_createContainer, if_neg hne]
    · rfl
  case h_4 other value =>
    split <;> rfl
  case h_5 => rfl

/-- An account stays available through every happening that does not disturb a container of it. -/
lemma isUnavailable_onAccount {h : Happening} {container : String}
    (hkept : ¬ h.Disturbs name container) (hopen : a.isUnavailable = false) :
    (h.onAccount name a).isUnavailable = false := by
  unfold onAccount
  split
  case h_1 client call =>
    split
    · rw [Store.Account.isUnavailable_answer, hopen]
    · exact hopen
  case h_2 other place data =>
    split <;> exact hopen
  case h_3 other made =>
    split <;> exact hopen
  case h_4 other value =>
    split
    · next hname =>
      cases value with
      | true => exact absurd ⟨hname, rfl⟩ hkept
      | false => rfl
    · exact hopen
  case h_5 => exact hopen

end Happening

/-! ## Tokens -/

/-- No value was drawn twice from a supply. -/
def Supply.IsDistinct {α : Type} (s : Supply α) : Prop := Set.InjOn s.draw (Set.Iio s.drawn)

/-- What is drawn next from a supply is new if no value is then drawn twice. -/
lemma Supply.IsDistinct.draw_ne_next {α : Type} {s : Supply α} (h : s.rest.IsDistinct) {n : ℕ}
    (hn : n < s.drawn) : s.draw n ≠ s.next := fun hsame =>
  hn.ne (h (Nat.lt_succ_of_lt hn) (Nat.lt_succ_self s.drawn) hsame)

/-- A request draws one token or none. -/
lemma World.tokens_answer (w : World) (r : Request) :
    (answer r w).2.tokens = w.tokens ∨ (answer r w).2.tokens = w.tokens.rest := by
  cases r with
  | acquire selector =>
    change (w.acquire selector).2.tokens = _ ∨ (w.acquire selector).2.tokens = _
    unfold acquire
    rcases w.ledger.acquire selector w.tokens.next w.now with ⟨_ | credential, ledger⟩
    · exact .inl rfl
    · exact .inr rfl
  | connect endpoint credential =>
    change (w.connect endpoint credential).2.tokens = _ ∨ _
    unfold connect
    split <;> exact .inl rfl
  | enqueue space credential destination message =>
    change (w.enqueue space credential destination message).2.tokens = _ ∨ _
    unfold enqueue
    dsimp only
    repeat' split
    all_goals exact .inl rfl
  | publish credential topic event =>
    change (w.publish credential topic event).2.tokens = _ ∨ _
    unfold publish
    split <;> exact .inl rfl
  | _ => exact .inl rfl

namespace Happening

/-- A happening draws one token or none. -/
lemma tokens_apply (h : Happening) (w : World) :
    (h.apply w).tokens = w.tokens ∨ (h.apply w).tokens = w.tokens.rest := by
  cases h with
  | quiet => exact .inl rfl
  | asked request => exact w.tokens_answer request
  | outside change => cases change <;> exact .inl rfl

/-- Where no token was drawn twice, none was before. -/
lemma isDistinct_of_apply {h : Happening} {w : World} (hdistinct : (h.apply w).tokens.IsDistinct) :
    w.tokens.IsDistinct := by
  rcases h.tokens_apply w with hsame | hrest
  · rwa [hsame] at hdistinct
  · rw [hrest] at hdistinct
    exact hdistinct.mono (Set.Iio_subset_Iio (Nat.le_succ _))

end Happening

end ClaimCheck
