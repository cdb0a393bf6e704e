import Mathlib
import ClaimCheck.Proofs.Relay.Attempt
import ClaimCheck.Proofs.World.Happening

/-!
# Runs amid happenings

A program seldom has the world for itself: between two of its requests other relays ask theirs, and
someone outside may change the world.  `RunsAmid allowed p w a w'` says that `p`, started in `w`, is
done with `a` in `w'` when all that happens in between is allowed.  A run that nothing interrupts is
one of them (`RunsAmid.of_run`).

A run of two programs in sequence is a run of each (`RunsAmid.of_bind`), and what every allowed
happening and every request of a program preserves, its run preserves (`RunsAmid.keeps`).
-/

namespace ClaimCheck

variable {α β : Type} {allowed : World → Happening → Prop}

/-- A program runs to its end while allowed things happen between its requests. -/
inductive RunsAmid (allowed : World → Happening → Prop) {α : Type} :
    Relay α → World → α → World → Prop
  | done (a : α) (w : World) : RunsAmid allowed (.done a) w a w
  | ask {r : Request} {next : r.Reply → Relay α} {w w' : World} {a : α}
    (hrest : RunsAmid allowed (next (World.answer r w).1) (World.answer r w).2 a w') :
    RunsAmid allowed (.ask r next) w a w'
  | meanwhile {p : Relay α} {w w' : World} {h : Happening} {a : α} (hallowed : allowed w h)
    (hrest : RunsAmid allowed p (h.apply w) a w') : RunsAmid allowed p w a w'

namespace RunsAmid

/-- A run that nothing interrupts. -/
lemma of_run (p : Relay α) (w : World) : RunsAmid allowed p w (w.run p).1 (w.run p).2 := by
  induction p generalizing w with
  | done a => exact .done a w
  | ask r next ih => exact .ask (ih _ _)

/-- A program that was run as two programs ran as the first one and then as the second. -/
lemma of_bind {p : Relay α} {f : α → Relay β} {w w'' : World} {b : β}
    (hrun : RunsAmid allowed (p.bind f) w b w'') :
    ∃ a w', RunsAmid allowed p w a w' ∧ RunsAmid allowed (f a) w' b w'' := by
  generalize hq : p.bind f = q at hrun
  induction hrun generalizing p with
  | done b w =>
    cases p with
    | done a =>
      rw [Program.pure_bind] at hq
      exact ⟨a, w, .done a w, hq ▸ .done b w⟩
    | ask r next => cases hq
  | ask hrest ih =>
    cases p with
    | done a =>
      rw [Program.pure_bind] at hq
      exact ⟨a, _, .done a _, hq ▸ .ask hrest⟩
    | ask r next =>
      cases hq
      obtain ⟨a, w', hfirst, hsecond⟩ := ih rfl
      exact ⟨a, w', .ask hfirst, hsecond⟩
  | meanwhile hallowed hrest ih =>
    obtain ⟨a, w', hfirst, hsecond⟩ := ih hq
    exact ⟨a, w', .meanwhile hallowed hfirst, hsecond⟩

/-- What allowed happenings and the requests of a program preserve holds when it is done. -/
lemma keeps {kind : Request → Prop} {P : World → Prop} {p : Relay α} {w w' : World} {a : α}
    (hrun : RunsAmid allowed p w a w') (hp : p.AsksOnly kind)
    (hallowed : ∀ w h, allowed w h → P w → P (h.apply w))
    (hasked : ∀ w r, kind r → P w → P (World.answer r w).2) (hstart : P w) : P w' := by
  induction hrun with
  | done a w => exact hstart
  | ask hrest ih => exact ih (hp.2 _) (hasked _ _ hp.1 hstart)
  | meanwhile hh hrest ih => exact ih hp (hallowed _ _ hh hstart)

/-- A program that is done gives its value. -/
lemma of_done {a b : α} {w w' : World} (hrun : RunsAmid allowed (.done a) w b w') : b = a := by
  generalize hq : (Program.done a : Relay α) = q at hrun
  induction hrun with
  | done b w => cases hq; rfl
  | ask hrest ih => cases hq
  | meanwhile _ _ ih => exact ih hq

/-- The first request of a program is answered in some world, and the program goes on from there. -/
lemma of_ask {r : Request} {next : r.Reply → Relay α} {w w'' : World} {a : α}
    (hrun : RunsAmid allowed (.ask r next) w a w'') :
    ∃ w', RunsAmid allowed (next (World.answer r w').1) (World.answer r w').2 a w'' := by
  generalize hq : Program.ask r next = q at hrun
  induction hrun with
  | done b w => cases hq
  | ask hrest ih => cases hq; exact ⟨_, hrest⟩
  | meanwhile _ _ ih => exact ih hq

/-! ## Attempts that succeed -/

/-- What happens after a program is done may be counted to its run. -/
lemma append_done {p : Relay α} {w w' w'' : World} {a : α} {b : β}
    (hrun : RunsAmid allowed p w a w') (hrest : RunsAmid allowed (.done b) w' b w'') :
    RunsAmid allowed p w a w'' := by
  induction hrun with
  | done a w =>
    generalize hq : (Program.done b : Relay β) = q at hrest
    induction hrest with
    | done b w => exact .done a w
    | ask _ _ => cases hq
    | meanwhile hallowed _ ih => exact .meanwhile hallowed (ih hq)
  | ask _ ih => exact .ask (ih hrest)
  | meanwhile hallowed _ ih => exact .meanwhile hallowed (ih hrest)

variable {ε ε' : Type} {w w' : World}

/-- An attempt in two parts that succeeds succeeded in both. -/
lemma of_ok_bind {p : Attempt ε α} {f : α → Attempt ε β} {b : β}
    (hrun : RunsAmid allowed (p >>= f).run w (.ok b) w') :
    ∃ a w₁, RunsAmid allowed p.run w (.ok a) w₁ ∧ RunsAmid allowed (f a).run w₁ (.ok b) w' := by
  rw [Attempt.run_bind] at hrun
  obtain ⟨outcome, w₁, hfirst, hsecond⟩ := hrun.of_bind
  rcases outcome with fault | a
  · cases hsecond.of_done
  · exact ⟨a, w₁, hfirst, hsecond⟩

/-- An attempt without requests that succeeds gives its value. -/
lemma of_ok_pure {a b : α} (hrun : RunsAmid allowed (pure a : Attempt ε α).run w (.ok b) w') :
    b = a := by
  rw [Attempt.run_pure] at hrun
  cases hrun.of_done
  rfl

/-- An outcome that was known and is a success is this success. -/
lemma of_ok_ofOutcome {wrap : ε → ε'} {outcome : Except ε α} {a : α}
    (hrun : RunsAmid allowed (Attempt.ofOutcome wrap outcome).run w (.ok a) w') :
    outcome = .ok a := by
  rw [Attempt.run_ofOutcome] at hrun
  have hdone := hrun.of_done
  rcases outcome with fault | b <;> cases hdone
  rfl

/-- An attempt succeeds whatever terms its faults are put into. -/
lemma of_ok_wrapping {wrap : ε → ε'} {p : Attempt ε α} {a : α}
    (hrun : RunsAmid allowed (Attempt.wrapping wrap p).run w (.ok a) w') :
    RunsAmid allowed p.run w (.ok a) w' := by
  rw [Attempt.run_wrapping] at hrun
  obtain ⟨outcome, w₁, hfirst, hsecond⟩ := hrun.of_bind
  have hdone := hsecond.of_done
  rcases outcome with fault | b
  · cases hdone
  · cases hdone
    exact hfirst.append_done hsecond

/-- An attempt whose value is changed succeeds where the attempt does. -/
lemma of_ok_map {f : α → β} {p : Attempt ε α} {b : β}
    (hrun : RunsAmid allowed (f <$> p).run w (.ok b) w') :
    ∃ a, b = f a ∧ RunsAmid allowed p.run w (.ok a) w' := by
  rw [Attempt.run_map] at hrun
  obtain ⟨outcome, w₁, hfirst, hsecond⟩ := hrun.of_bind
  have hdone := hsecond.of_done
  rcases outcome with fault | a
  · cases hdone
  · cases hdone
    exact ⟨a, rfl, hfirst.append_done hsecond⟩

end RunsAmid

end ClaimCheck
