import Mathlib
import ClaimCheck.Program

/-!
# What a program asks

`Program.AsksOnly kind p` says that all requests that a program may ask are of one kind, whatever the
replies.  It is a property of the parts, of attempts as well, and what the handler keeps at every
request of the kind, a run of the program keeps (`Program.AsksOnly.keeps`).

`Program.asked` are the requests of one run, in order, and `Program.AsksAfter kind p past` says what
may be asked after what was asked and replied before.

A program whose requests are answered by programs runs in one go (`Program.run_interpret`).
-/

namespace ClaimCheck.Program

variable {Request : Type} {Reply : Request → Type} {α β σ ε : Type} {kind kind' : Request → Prop}

/-- A program whose requests are programs themselves runs as these do. -/
lemma run_interpret {Inner : Type} {InnerReply : Inner → Type}
    (handle : (r : Request) → Program Inner InnerReply (Reply r))
    (answer : (r : Inner) → σ → InnerReply r × σ) (p : Program Request Reply α) (s : σ) :
    (p.interpret handle).run answer s = p.run (fun r s => (handle r).run answer s) s := by
  induction p generalizing s with
  | done a => rfl
  | ask r next ih =>
    change (Program.bind (handle r) fun reply => (next reply).interpret handle).run answer s = _
    rw [run_bind, run_ask, ih]

/-- All requests that a program may ask are of a kind. -/
def AsksOnly (kind : Request → Prop) : Program Request Reply α → Prop
  | .done _ => True
  | .ask r next => kind r ∧ ∀ reply, (next reply).AsksOnly kind

/-- A single request. -/
lemma asksOnly_request {r : Request} (hr : kind r) :
    AsksOnly kind (request r : Program Request Reply (Reply r)) := ⟨hr, fun _ => trivial⟩

namespace AsksOnly

/-- A program that goes on with another asks what both ask. -/
lemma bind {p : Program Request Reply α} {f : α → Program Request Reply β} (hp : p.AsksOnly kind)
    (hf : ∀ a, (f a).AsksOnly kind) : AsksOnly kind (p.bind f) := by
  induction p with
  | done a => exact hf a
  | ask r next ih => exact ⟨hp.1, fun reply => ih reply (hp.2 reply)⟩

/-- A program asks what is allowed also when more is allowed. -/
lemma mono {p : Program Request Reply α} (hp : p.AsksOnly kind) (hkind : ∀ r, kind r → kind' r) :
    AsksOnly kind' p := by
  induction p with
  | done a => trivial
  | ask r next ih => exact ⟨hkind r hp.1, fun reply => ih reply (hp.2 reply)⟩

/-- What every request of a program keeps, a run of the program keeps. -/
lemma keeps {handle : (r : Request) → σ → Reply r × σ} {P : σ → Prop}
    {p : Program Request Reply α} (hp : p.AsksOnly kind)
    (hkeep : ∀ r s, kind r → P s → P (handle r s).2) {s : σ} (hs : P s) :
    P (p.run handle s).2 := by
  induction p generalizing s with
  | done a => exact hs
  | ask r next ih => exact ih _ (hp.2 _) (hkeep r s hp.1 hs)

end AsksOnly

/-- An attempt in two parts asks what both ask. -/
lemma asksOnly_attempt_bind {p : ExceptT ε (Program Request Reply) α}
    {f : α → ExceptT ε (Program Request Reply) β} (hp : AsksOnly kind p.run)
    (hf : ∀ a, AsksOnly kind (f a).run) : AsksOnly kind (p >>= f).run := by
  refine AsksOnly.bind hp fun outcome => ?_
  rcases outcome with fault | a
  · trivial
  · exact hf a

/-! ## What a run asks -/

/-- The requests that a run asks, the first one first. -/
def asked (handle : (r : Request) → σ → Reply r × σ) : Program Request Reply α → σ → List Request
  | .done _, _ => []
  | .ask r next, s => r :: (next (handle r s).1).asked handle (handle r s).2

section Asked

variable {handle : (r : Request) → σ → Reply r × σ}

/-- A run in two parts asks what the first part asks, and then what the second one asks. -/
lemma asked_bind (p : Program Request Reply α) (f : α → Program Request Reply β) (s : σ) :
    (p.bind f).asked handle s =
      p.asked handle s ++ (f (p.run handle s).1).asked handle (p.run handle s).2 := by
  induction p generalizing s with
  | done a => rfl
  | ask r next ih => simp only [ask_bind, asked, ih, run_ask, List.cons_append]

/-- Among what a run asks there is nothing of a kind that its program never asks. -/
lemma AsksOnly.filter_asked {keep : Request → Bool} {p : Program Request Reply α}
    (hp : p.AsksOnly fun r => keep r = false) (s : σ) : (p.asked handle s).filter keep = [] := by
  induction p generalizing s with
  | done a => rfl
  | ask r next ih =>
    rw [asked, List.filter_cons_of_neg (by simp [hp.1])]
    exact ih _ (hp.2 _) _

/-- Where a run goes on with what is never of a kind, all it asks of the kind comes before. -/
lemma filter_asked_bind {keep : Request → Bool} (p : Program Request Reply α)
    {f : α → Program Request Reply β} (hf : ∀ a, (f a).AsksOnly fun r => keep r = false) (s : σ) :
    ((p.bind f).asked handle s).filter keep = (p.asked handle s).filter keep := by
  rw [asked_bind, List.filter_append, (hf _).filter_asked, List.append_nil]

/-- Where only the first request is of a kind, it is all that a run asks of the kind. -/
lemma filter_asked_ask {keep : Request → Bool} {r : Request}
    {next : Reply r → Program Request Reply α} (hr : keep r = true)
    (hnext : ∀ reply, (next reply).AsksOnly fun r => keep r = false) (s : σ) :
    ((ask r next).asked handle s).filter keep = [r] := by
  rw [asked, List.filter_cons_of_pos hr, (hnext _).filter_asked]

end Asked

/-! ## What is asked after what was replied -/

/-- What was asked and what was replied to it, the latest first. -/
abbrev Past (Request : Type) (Reply : Request → Type) : Type := List (Σ r : Request, Reply r)

/-- All requests that a program may ask are of a kind that depends on what was asked and replied
before. -/
def AsksAfter (kind : Past Request Reply → Request → Prop) :
    Program Request Reply α → Past Request Reply → Prop
  | .done _, _ => True
  | .ask r next, past => kind past r ∧ ∀ reply, (next reply).AsksAfter kind (⟨r, reply⟩ :: past)

section AsksAfter

variable {kinds kinds' : Past Request Reply → Request → Prop} {past : Past Request Reply}

/-- What a program asks whatever was replied, it asks after any replies. -/
lemma AsksOnly.asksAfter {p : Program Request Reply α} (hp : p.AsksOnly kind)
    (hkind : ∀ past r, kind r → kinds past r) : p.AsksAfter kinds past := by
  induction p generalizing past with
  | done a => trivial
  | ask r next ih => exact ⟨hkind past r hp.1, fun reply => ih reply (hp.2 reply)⟩

namespace AsksAfter

/-- A kind that does not depend on replies. -/
lemma asksOnly {p : Program Request Reply α} (hp : p.AsksAfter (fun _ => kind) past) :
    p.AsksOnly kind := by
  induction p generalizing past with
  | done a => trivial
  | ask r next ih => exact ⟨hp.1, fun reply => ih reply (hp.2 reply)⟩

/-- A program asks what is allowed also when more is allowed. -/
lemma mono {p : Program Request Reply α} (hp : p.AsksAfter kinds past)
    (hkinds : ∀ past r, kinds past r → kinds' past r) : p.AsksAfter kinds' past := by
  induction p generalizing past with
  | done a => trivial
  | ask r next ih => exact ⟨hkinds past r hp.1, fun reply => ih reply (hp.2 reply)⟩

/-- A program that goes on with another asks what both ask, the second one after all that was replied to
the first. -/
lemma bind {p : Program Request Reply α} {f : α → Program Request Reply β}
    (hp : p.AsksAfter kinds past)
    (hf : ∀ a later, past <:+ later → (f a).AsksAfter kinds later) :
    AsksAfter kinds (p.bind f) past := by
  induction p generalizing past with
  | done a => exact hf a past List.suffix_rfl
  | ask r next ih =>
    exact ⟨hp.1, fun reply => ih reply (hp.2 reply) fun a later hlater =>
      hf a later ((List.suffix_cons _ _).trans hlater)⟩

/-- What every request of a program keeps, a run of the program keeps. -/
lemma keeps {handle : (r : Request) → σ → Reply r × σ} {P : σ → Prop}
    {p : Program Request Reply α} (hp : p.AsksAfter kinds past)
    (hkeep : ∀ past r s, kinds past r → P s → P (handle r s).2) {s : σ} (hs : P s) :
    P (p.run handle s).2 := by
  induction p generalizing past s with
  | done a => exact hs
  | ask r next ih => exact ih _ (hp.2 _) (hkeep past r s hp.1 hs)

end AsksAfter

/-- An attempt in two parts asks what both ask. -/
lemma asksAfter_attempt_bind {p : ExceptT ε (Program Request Reply) α}
    {f : α → ExceptT ε (Program Request Reply) β} (hp : AsksAfter kinds p.run past)
    (hf : ∀ a later, past <:+ later → AsksAfter kinds (f a).run later) :
    AsksAfter kinds (p >>= f).run past := by
  refine AsksAfter.bind hp fun outcome later hlater => ?_
  rcases outcome with fault | a
  · trivial
  · exact hf a later hlater

end AsksAfter

end ClaimCheck.Program
