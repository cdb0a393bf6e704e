import Mathlib
import ClaimCheck.Proofs.Program
import ClaimCheck.Proofs.Relay.Traffic

/-!
# Operations that are let go on

Letting an operation go on as long as it can (`InFlight.settle`) is to answer one request after another
(`InFlight.exists_iterate_step`), so it is one way in which the steps of relays at work may come
(`Traffic.run_settle`).  What remains of an operation that is cancelled, or of a session that is
dropped, holds nothing in the end (`InFlight.settle_cancelled`, `InFlight.settle_dropped`).  At any
request an operation may thus be cancelled and, once it has given back what it holds, be gone
(`Traffic.run_cancel`), and so may a session be dropped (`Traffic.run_drop`).
-/

namespace ClaimCheck

/-! ## Steps -/

namespace InFlight

section Settling

variable {α β σ : Type} (handle : (r : Request) → σ → r.Reply × σ)

/-- Letting an operation go on leaves the state that its program leaves. -/
lemma settle_snd (held : Held) (p : Relay α) (s : σ) :
    (settle handle held p s).2 = (p.run handle s).2 := by
  induction p generalizing held s with
  | done a => rfl
  | ask r next ih => exact ih _ _ _

/-- An operation is let go on by answering one request after another. -/
lemma exists_iterate_step (f : InFlight α) (s : σ) :
    ∃ n, (fun x : InFlight α × σ => x.1.step handle x.2)^[n] (f, s) =
      (⟨(settle handle f.held f.rest s).1, .done (f.rest.run handle s).1⟩,
        (f.rest.run handle s).2) := by
  obtain ⟨held, p⟩ := f
  induction p generalizing held s with
  | done a => exact ⟨0, rfl⟩
  | ask r next ih =>
    obtain ⟨n, hn⟩ := ih (handle r s).1 (handle r s).2 (held.after r (handle r s).1)
    exact ⟨n + 1, hn⟩

/-- What goes on with another program holds in between what the first one leaves. -/
lemma settle_bind (held : Held) (p : Relay α) (f : α → Relay β) (s : σ) :
    settle handle held (p.bind f) s =
      settle handle (settle handle held p s).1 (f (p.run handle s).1) (p.run handle s).2 := by
  induction p generalizing held s with
  | done a => rfl
  | ask r next ih => exact ih _ _ _

/-! ## Giving back -/

/-- Clients that are closed one after another are held no more. -/
lemma settle_disconnect (held : Held) (s : σ) :
    (settle handle held
      (held.clients.forM fun client => Relay.perform (.disconnect client)) s).1 =
        { held with clients := [] } := by
  obtain ⟨credentials, clients⟩ := held
  induction clients generalizing s with
  | nil => rfl
  | cons client clients ih =>
    have hafter : (Held.mk credentials (client :: clients)).after (.disconnect client) () =
        ⟨credentials, clients⟩ := by simp [Held.after]
    change (settle handle ((Held.mk credentials (client :: clients)).after (.disconnect client) ())
      (clients.forM fun client => Relay.perform (.disconnect client))
        (handle (.disconnect client) s).2).1 = _
    rw [hafter]
    exact ih _

/-- Credentials that are released one after another are held no more. -/
lemma settle_release (held : Held) (s : σ) :
    (settle handle held
      (held.credentials.forM fun credential => Relay.perform (.release credential)) s).1 =
        { held with credentials := [] } := by
  obtain ⟨credentials, clients⟩ := held
  induction credentials generalizing s with
  | nil => rfl
  | cons credential credentials ih =>
    have hafter : (Held.mk (credential :: credentials) clients).after (.release credential) () =
        ⟨credentials, clients⟩ := by simp [Held.after]
    change (settle handle
      ((Held.mk (credential :: credentials) clients).after (.release credential) ())
        (credentials.forM fun credential => Relay.perform (.release credential))
          (handle (.release credential) s).2).1 = _
    rw [hafter]
    exact ih _

/-- Nothing is held when all was given back. -/
lemma settle_giveBack (held : Held) (s : σ) : (settle handle held held.giveBack s).1 = {} := by
  have hclients := settle_disconnect handle held s
  unfold Held.giveBack
  change (settle handle held (Program.bind (held.clients.forM fun client =>
    Relay.perform (.disconnect client)) _) s).1 = _
  rw [settle_bind, hclients]
  exact settle_release handle { held with clients := [] } _

/-- An operation that is cancelled and then let go on holds nothing in the end. -/
lemma settle_cancelled (f : InFlight α) (ended : α) (s : σ) :
    settle handle (f.cancelled ended).held (f.cancelled ended).rest s =
      ({}, f.cancel handle s) := by
  change settle handle f.held (f.held.giveBack.bind fun _ => .done ended) s = _
  rw [settle_bind, settle_giveBack]
  rfl

/-- A session that is dropped holds nothing in the end. -/
lemma settle_dropped (session : Session) (ended : α) (s : σ) :
    settle handle (dropped session ended).held (dropped session ended).rest s =
      ({}, (session.close.run handle s).2) := by
  have hafter : ((Held.mk [session.credential] [session.client]).after
      (.disconnect session.client) ()).after (.release session.credential) () = {} := by
    simp [Held.after]
  exact Prod.ext hafter rfl

end Settling

end InFlight

/-! ## Among others at work -/

namespace Traffic

variable {s : Traffic} {before after : List (InFlight (Option Session))}
  {f : InFlight (Option Session)}

/-- What is running is what it is. -/
lemma with_running {running : List (InFlight (Option Session))} (hrunning : s.running = running) :
    ({ s with running } : Traffic) = s := by
  rw [← hrunning]

/-- An operation may take a step. -/
lemma run_step (hrunning : s.running = before ++ f :: after) :
    Run (fun _ _ => True) s { s with
      world := (f.step World.answer s.world).2
      running := before ++ (f.step World.answer s.world).1 :: after } := by
  obtain ⟨held, rest⟩ := f
  cases rest with
  | done result =>
    change Run (fun _ _ => True) s { s with running := before ++ ⟨held, .done result⟩ :: after }
    rw [with_running hrunning]
    exact .refl
  | ask r next => exact .single ⟨_, trivial, .advance hrunning⟩

/-- An operation may take any number of steps without a break. -/
lemma run_iterate_step (hrunning : s.running = before ++ f :: after) (n : ℕ) :
    Run (fun _ _ => True) s { s with
      world := ((fun x => x.1.step World.answer x.2)^[n] (f, s.world)).2
      running :=
        before ++ ((fun x => x.1.step World.answer x.2)^[n] (f, s.world)).1 :: after } := by
  induction n generalizing s f with
  | zero =>
    change Run (fun _ _ => True) s { s with running := before ++ f :: after }
    rw [with_running hrunning]
    exact .refl
  | succ n ih => exact (run_step hrunning).trans (ih rfl)

/-- Among relays at work an operation may be let go on without a break. -/
lemma run_settle (hrunning : s.running = before ++ f :: after) :
    Run (fun _ _ => True) s { s with
      world := (f.rest.run World.answer s.world).2
      running := before ++ ⟨(InFlight.settle World.answer f.held f.rest s.world).1,
        .done (f.rest.run World.answer s.world).1⟩ :: after } := by
  obtain ⟨n, hn⟩ := InFlight.exists_iterate_step World.answer f s.world
  have hrun := run_iterate_step hrunning n
  rw [hn] at hrun
  exact hrun

/-- At any request an operation may be cancelled, and it is gone once it has given back what it
holds. -/
lemma run_cancel (hrunning : s.running = before ++ f :: after) :
    Run (fun _ _ => True) s
      { s with world := f.cancel World.answer s.world, running := before ++ after } := by
  refine .head ⟨_, trivial, .cancel hrunning⟩ ?_
  set s' : Traffic := { s with running := before ++ f.cancelled none :: after }
  have hsettle := InFlight.settle_cancelled World.answer f none s'.world
  have hresult : (f.cancelled none).rest.run World.answer s'.world =
      (none, f.cancel World.answer s'.world) := by
    change (f.held.giveBack.bind fun _ => .done none).run World.answer s'.world = _
    rw [Program.run_bind]
    rfl
  have hrun := run_settle (s := s') rfl
  rw [hsettle, hresult] at hrun
  exact hrun.tail ⟨.quiet, trivial, @Step.finish _ before after {} none rfl⟩

/-- A session may be dropped, and it is gone once it is closed. -/
lemma run_drop {before after : List Session} {session : Session}
    (hsessions : s.sessions = before ++ session :: after) :
    Run (fun _ _ => True) s
      { s with world := (session.close.run World.answer s.world).2, sessions := before ++ after } := by
  refine .head ⟨_, trivial, .drop hsessions⟩ ?_
  set s' : Traffic := { s with
    running := InFlight.dropped session none :: s.running
    sessions := before ++ after }
  have hrunning : s'.running = [] ++ InFlight.dropped session none :: s.running := rfl
  have hsettle :=
    InFlight.settle_dropped World.answer session (none : Option Session) s'.world
  have hrun := run_settle hrunning
  rw [hsettle] at hrun
  exact hrun.tail ⟨.quiet, trivial, @Step.finish _ [] s.running {} none rfl⟩

end Traffic

end ClaimCheck
