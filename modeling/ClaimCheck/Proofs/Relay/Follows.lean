import Mathlib
import ClaimCheck.Proofs.Relay.Attempt
import ClaimCheck.Proofs.Relay.Amid
import ClaimCheck.Proofs.World.Opening

/-!
# How far a program has got

What a program has done so far is often all that matters of the requests that it asked: whether a
text is stored already, whether a message was handed over.  `Follows moves ends st p` says that `p`
can be followed from the standing `st`: each request that it asks moves the standing on, whatever
the reply, and when it is done its value agrees with the standing then.

Replies are those that a world may give (`Request.Fits`).  A program that is followed can be run in
one go (`Follows.run`), amid what else happens (`Follows.amid`) or request by request
(`Follows.of_ask`), and what every move keeps holds wherever the program is.
-/

namespace ClaimCheck

variable {σ α β ε ε' : Type}

/-! ## Replies -/

/-- A reply that a world may give: a client that is opened is one of the account asked for. -/
def Request.Fits : (r : Request) → r.Reply → Prop
  | .connect endpoint _, .ok client => client = ⟨endpoint.account⟩
  | _, _ => True

/-- A world gives replies that fit. -/
lemma World.fits_answer (w : World) (r : Request) : r.Fits (answer r w).1 := by
  cases r with
  | connect endpoint credential =>
    change Request.Fits (.connect endpoint credential) (w.connect endpoint credential).1
    rw [World.connect_fst]
    cases w.denial? credential <;> trivial
  | _ => trivial

/-- A request that neither calls a store nor hands anything to a transport. -/
def Request.IsIdle : Request → Prop
  | .call .. | .enqueue .. | .publish .. => False
  | _ => True

/-! ## Programs that are followed -/

/-- A program whose requests move a standing on, and whose value agrees with the standing at its
end. -/
def Follows (moves : σ → (r : Request) → r.Reply → σ → Prop) (ends : σ → α → Prop) :
    σ → Relay α → Prop
  | st, .done a => ends st a
  | st, .ask r next =>
    ∀ reply, r.Fits reply → ∃ st', moves st r reply st' ∧ Follows moves ends st' (next reply)

namespace Follows

variable {moves : σ → (r : Request) → r.Reply → σ → Prop} {ends : σ → β → Prop} {st : σ}

/-- A program that goes on with another is followed when the other one is from wherever the first
one ends. -/
lemma bind {p : Relay α} {f : α → Relay β}
    (h : Follows moves (fun st a => Follows moves ends st (f a)) st p) :
    Follows moves ends st (p.bind f) := by
  induction p generalizing st with
  | done a => exact h
  | ask r next ih =>
    intro reply hfits
    obtain ⟨st', hmoves, hrest⟩ := h reply hfits
    exact ⟨st', hmoves, ih reply hrest⟩

/-- A program is followed also when less is asked of its end. -/
lemma mono {ends ends' : σ → α → Prop} {p : Relay α} (h : Follows moves ends st p)
    (hends : ∀ st a, ends st a → ends' st a) : Follows moves ends' st p := by
  induction p generalizing st with
  | done a => exact hends st a h
  | ask r next ih =>
    intro reply hfits
    obtain ⟨st', hmoves, hrest⟩ := h reply hfits
    exact ⟨st', hmoves, ih reply hrest⟩

/-- An attempt in two parts, the second one only where the first one succeeds. -/
lemma attempt_bind {ends : σ → Except ε β → Prop} {p : Attempt ε α} {f : α → Attempt ε β}
    (h : Follows moves (fun st outcome => match outcome with
      | .ok a => Follows moves ends st (f a).run
      | .error fault => ends st (.error fault)) st p.run) :
    Follows moves ends st (p >>= f).run := by
  rw [Attempt.run_bind]
  refine bind (h.mono fun st outcome houtcome => ?_)
  cases outcome <;> exact houtcome

/-- An attempt whose fault is put into other terms. -/
lemma attempt_wrapping {ends : σ → Except ε' α → Prop} {wrap : ε → ε'} {p : Attempt ε α}
    (h : Follows moves (fun st outcome => ends st (outcome.mapError wrap)) st p.run) :
    Follows moves ends st (Attempt.wrapping wrap p).run := by
  rw [Attempt.run_wrapping]
  exact bind h

/-- An attempt whose value is changed. -/
lemma attempt_map {ends : σ → Except ε β → Prop} {f : α → β} {p : Attempt ε α}
    (h : Follows moves (fun st outcome => ends st (outcome.map f)) st p.run) :
    Follows moves ends st (f <$> p).run := by
  rw [Attempt.run_map]
  exact bind h

/-- A reply that a world gives moves the standing on. -/
lemma of_ask {r : Request} {next : r.Reply → Relay β} (h : Follows moves ends st (.ask r next))
    (w : World) :
    ∃ st', moves st r (World.answer r w).1 st' ∧ Follows moves ends st' (next (World.answer r w).1) :=
  h _ (w.fits_answer r)

/-- What every move keeps holds when a program was run, and its value agrees with the standing
then. -/
lemma run {p : Relay β} {w : World} (h : Follows moves ends st p) (keeps : σ → World → Prop)
    (hmoves : ∀ st r st' w, moves st r (World.answer r w).1 st' → keeps st w →
      keeps st' (World.answer r w).2)
    (hstart : keeps st w) : ∃ st', ends st' (w.run p).1 ∧ keeps st' (w.run p).2 := by
  induction p generalizing st w with
  | done a => exact ⟨st, h, hstart⟩
  | ask r next ih =>
    obtain ⟨st', hmove, hrest⟩ := h.of_ask w
    exact ih _ hrest (hmoves st r st' w hmove hstart)

/-- What every move keeps, and whatever happens in between, holds when a program is done, and its
value agrees with the standing then. -/
lemma amid {allowed : World → Happening → Prop} {p : Relay β} {w w' : World} {b : β}
    (h : Follows moves ends st p) (hrun : RunsAmid allowed p w b w') (keeps : σ → World → Prop)
    (hallowed : ∀ st w happening, allowed w happening → keeps st w → keeps st (happening.apply w))
    (hmoves : ∀ st r st' w, moves st r (World.answer r w).1 st' → keeps st w →
      keeps st' (World.answer r w).2)
    (hstart : keeps st w) : ∃ st', ends st' b ∧ keeps st' w' := by
  induction hrun generalizing st with
  | done b w => exact ⟨st, h, hstart⟩
  | ask hrest ih =>
    obtain ⟨st', hmove, hfollows⟩ := h.of_ask _
    exact ih hfollows (hmoves _ _ _ _ hmove hstart)
  | meanwhile hhappens hrest ih => exact ih h (hallowed _ _ _ hhappens hstart)

/-! ## Sessions and credentials -/

section Idle

variable (hidle : ∀ st r reply, r.IsIdle → moves st r reply st)

include hidle

/-- Work in a session is followed like the work alone, with a client of the account asked for. -/
lemma within {ends : σ → Except Store.Fault β → Prop} {access : Access} {endpoint : Endpoint}
    {work : Session → Attempt Store.Fault β}
    (hwork : ∀ session, session.client = ⟨endpoint.account⟩ →
      Follows moves ends st (work session).run)
    (hfault : ∀ fault, ends st (.error fault)) :
    Follows moves ends st (access.within endpoint work).run := by
  rw [Access.run_within, Access.run_openSession]
  intro acquired _
  refine ⟨st, hidle _ _ _ trivial, ?_⟩
  rcases acquired with fault | credential
  · exact hfault _
  · intro connected hfits
    refine ⟨st, hidle _ _ _ trivial, ?_⟩
    rcases connected with fault | client
    · exact fun _ _ => ⟨st, hidle _ _ _ trivial, hfault fault⟩
    · change Follows moves ends st (Program.bind (work ⟨client, credential⟩).run _)
      refine bind ((hwork ⟨client, credential⟩ hfits).mono fun st' outcome hends => ?_)
      exact fun _ _ => ⟨st', hidle _ _ _ trivial, fun _ _ => ⟨st', hidle _ _ _ trivial, hends⟩⟩

/-- Work with a credential is followed like the work alone. -/
lemma withCredential {ends : σ → Except ε β → Prop} {selector : Identity.Selector}
    {onFault : Identity.Fault → ε} {work : Identity.Credential → Relay (Except ε β)}
    (hwork : ∀ credential, Follows moves ends st (work credential))
    (hfault : ∀ fault, ends st (.error (onFault fault))) :
    Follows moves ends st (withCredential selector onFault work).run := by
  rw [run_withCredential]
  intro acquired _
  refine ⟨st, hidle _ _ _ trivial, ?_⟩
  rcases acquired with fault | credential
  · exact hfault fault
  · refine bind ((hwork credential).mono fun st' outcome hends => ?_)
    exact fun _ _ => ⟨st', hidle _ _ _ trivial, hends⟩

end Idle

end Follows

end ClaimCheck
