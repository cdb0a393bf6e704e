import Mathlib
import ClaimCheck.Proofs.Codec.Transparency

/-!
# Wrapped values

The data of an event are wrapped as a value, and the body of a message is encoded as a text: two ways
of replacing what is too large, each with its own words for what stays.  As programs they are one
when their results are written out (`Codec.compact_wrapValue`).  What stays inline is the text that
was measured, and that is what the value is written as; what does not is named by the same envelope.

So in any world both fail alike or both succeed, after the same requests, and a receiver cannot tell
the body of a message from the data of an event (`Codec.wrapped_value_writes_body`).
-/

namespace ClaimCheck

variable {α β γ ε σ : Type}

/-! ## Attempts with the same results -/

namespace Attempt

variable {p : Attempt ε α} {q : Attempt ε β} {f : α → γ} {g : β → γ}
  (handle : (r : Request) → σ → r.Reply × σ)

/-- A run ends with the changed value and leaves the same state. -/
lemma run_run_map (f : α → γ) (p : Attempt ε α) (s : σ) :
    (f <$> p).run.run handle s = ((p.run.run handle s).1.map f, (p.run.run handle s).2) := by
  rw [run_map, Program.run_bind]
  rfl

/-- Changing the value changes nothing in what is asked. -/
lemma asked_map (f : α → γ) (p : Attempt ε α) (s : σ) :
    (f <$> p).run.asked handle s = p.run.asked handle s := by
  rw [run_map, Program.asked_bind]
  exact List.append_nil _

/-- Attempts that are one when their values are changed ask the same requests. -/
lemma asked_eq_of_map_eq (h : f <$> p = g <$> q) (s : σ) :
    p.run.asked handle s = q.run.asked handle s := by
  rw [← asked_map handle f p, h, asked_map]

/-- Attempts that are one when their values are changed leave the same state, with outcomes that are
one when they are changed. -/
lemma run_eq_of_map_eq (h : f <$> p = g <$> q) (s : σ) :
    (p.run.run handle s).1.map f = (q.run.run handle s).1.map g ∧
      (p.run.run handle s).2 = (q.run.run handle s).2 := by
  have hrun := run_run_map handle f p s
  rw [h, run_run_map, Prod.mk.injEq] at hrun
  exact ⟨hrun.1.symm, hrun.2.symm⟩

end Attempt

/-- Two outcomes agree: they are the same fault, or values of which one is written as the other. -/
inductive Agree (writes : α → β → Prop) : Except ε α → Except ε β → Prop
  | error (fault : ε) : Agree writes (.error fault) (.error fault)
  | ok {a : α} {b : β} (hwrites : writes a b) : Agree writes (.ok a) (.ok b)

/-- Outcomes that are one when they are changed agree. -/
lemma agree_of_map_eq {x : Except ε α} {y : Except ε β} {f : α → γ} {g : β → γ}
    (h : x.map f = y.map g) : Agree (fun a b => f a = g b) x y := by
  cases x with
  | error fault =>
    cases y with
    | error other =>
      cases h
      exact .error fault
    | ok b => cases h
  | ok a =>
    cases y with
    | error other => cases h
    | ok b => exact .ok (Except.ok.inj h)

/-! ## Values and texts -/

namespace Codec

open Json

/-- A document value is encoded as the text that it is written as. -/
lemma run_encode_value (codec : Codec) (value : Value) :
    (codec.encode (.value value)).run = (codec.encodeText value.compact).run := by
  have htext : (Payload.value value).text = .ok value.compact := rfl
  unfold encode
  rw [Attempt.run_bind, Attempt.run_ofOutcome, htext]
  rfl

/-- What a wrapped value is written as is the body that the value is encoded as: the same requests
are asked, whatever is replied, and they end alike. -/
lemma compact_wrapValue (codec : Codec) (value : Value) :
    Value.compact <$> codec.wrapValue value = EncodedBody.text <$> codec.encode (.value value) := by
  refine ExceptT.ext ?_
  rw [Attempt.run_map, Attempt.run_map, run_encode_value]
  unfold wrapValue
  rw [Attempt.run_bind, Program.bind_assoc]
  cases hlarge : codec.threshold.exceededBy value.compact.utf8ByteSize with
  | false =>
    rw [run_encodeText_of_small hlarge]
    rfl
  | true =>
    unfold encodeText
    rw [if_pos hlarge, Attempt.run_map, Program.bind_assoc, Program.bind_assoc]
    congr 1
    funext outcome
    rcases outcome with fault | place <;> rfl

/-- A value that is wrapped and a value that is encoded ask the same requests and leave the same
world.  They fail with the same fault, or the wrapped value is written as the body, and then every
receiver decodes both alike. -/
theorem wrapped_value_writes_body (codec : Codec) (value : Value) (w : World) :
    (codec.wrapValue value).run.asked World.answer w =
        (codec.encode (.value value)).run.asked World.answer w ∧
      (w.run (codec.wrapValue value).run).2 = (w.run (codec.encode (.value value)).run).2 ∧
      Agree (fun wrapped body => wrapped.compact.toUTF8 = body.text.toUTF8 ∧
          ∀ (receiver : Codec) (later : World),
            later.run (receiver.decode wrapped.compact).run =
              later.run (receiver.decode body.text).run)
        (w.run (codec.wrapValue value).run).1 (w.run (codec.encode (.value value)).run).1 := by
  have hsame := codec.compact_wrapValue value
  obtain ⟨houtcome, hworld⟩ := Attempt.run_eq_of_map_eq World.answer hsame w
  refine ⟨Attempt.asked_eq_of_map_eq World.answer hsame w, hworld, ?_⟩
  have hagree := agree_of_map_eq houtcome
  unfold World.run
  generalize ((codec.wrapValue value).run.run World.answer w).1 = wrapped at hagree ⊢
  generalize ((codec.encode (.value value)).run.run World.answer w).1 = encoded at hagree ⊢
  cases hagree with
  | error fault => exact .error fault
  | ok hwrites =>
    refine .ok ⟨by rw [hwrites], fun receiver later => ?_⟩
    rw [hwrites]

end Codec

end ClaimCheck
