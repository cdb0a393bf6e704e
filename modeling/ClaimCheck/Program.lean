/-!
# Programs over requests

A `Program` is a finite tree of requests to its surroundings: it either is done with a value, or
asks one request and goes on with the reply.  What a request does is left to a handler, so one
program can be run against a store in memory or on disk, stopped after any request, or interleaved
with other programs.
-/

namespace ClaimCheck

/-- A computation that asks requests, each answered by a value of its reply type. -/
inductive Program (Request : Type) (Reply : Request → Type) (α : Type) where
  | done (value : α)
  | ask (request : Request) (next : Reply request → Program Request Reply α)

namespace Program

variable {Request : Type} {Reply : Request → Type} {α β γ σ : Type}

/-- One request, done with its reply. -/
def request (r : Request) : Program Request Reply (Reply r) :=
  ask r done

/-- Goes on with `f` once the program is done. -/
protected def bind (p : Program Request Reply α) (f : α → Program Request Reply β) :
    Program Request Reply β :=
  match p with
  | done a => f a
  | ask r next => ask r fun reply => (next reply).bind f

instance : Monad (Program Request Reply) where
  pure := done
  bind := Program.bind

@[simp] theorem pure_bind (a : α) (f : α → Program Request Reply β) :
    (done a).bind f = f a := rfl

@[simp] theorem ask_bind (r : Request) (next : Reply r → Program Request Reply α)
    (f : α → Program Request Reply β) :
    (ask r next).bind f = ask r fun reply => (next reply).bind f := rfl

@[simp] theorem bind_done (p : Program Request Reply α) : p.bind done = p := by
  induction p with
  | done a => rfl
  | ask r next ih => simp only [ask_bind, ih]

theorem bind_assoc (p : Program Request Reply α) (f : α → Program Request Reply β)
    (g : β → Program Request Reply γ) :
    (p.bind f).bind g = p.bind fun a => (f a).bind g := by
  induction p with
  | done a => rfl
  | ask r next ih => simp only [ask_bind, ih]

/-- Answers every request in the monad `m`. -/
def interpret {m : Type → Type} [Monad m] (handle : (r : Request) → m (Reply r)) :
    Program Request Reply α → m α
  | done a => pure a
  | ask r next => do
    let reply ← handle r
    (next reply).interpret handle

/-- Answers every request from a state, which each request may change. -/
def run (handle : (r : Request) → σ → Reply r × σ) : Program Request Reply α → σ → α × σ
  | done a, s => (a, s)
  | ask r next, s => (next (handle r s).1).run handle (handle r s).2

@[simp] theorem run_done (handle : (r : Request) → σ → Reply r × σ) (a : α) (s : σ) :
    (done a : Program Request Reply α).run handle s = (a, s) := rfl

@[simp] theorem run_ask (handle : (r : Request) → σ → Reply r × σ) (r : Request)
    (next : Reply r → Program Request Reply α) (s : σ) :
    (ask r next).run handle s = (next (handle r s).1).run handle (handle r s).2 := rfl

/-- A run passes through the state that its first part leaves. -/
theorem run_bind (handle : (r : Request) → σ → Reply r × σ) (p : Program Request Reply α)
    (f : α → Program Request Reply β) (s : σ) :
    (p.bind f).run handle s = (f (p.run handle s).1).run handle (p.run handle s).2 := by
  induction p generalizing s with
  | done a => rfl
  | ask r next ih => simp only [ask_bind, run_ask, ih]

end Program

end ClaimCheck
