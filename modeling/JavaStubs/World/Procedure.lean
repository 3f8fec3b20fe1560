import JavaStubs.Failure
import JavaStubs.World.Request

/-!
# Procedures

A procedure is done, or it makes a request and goes on with the answer. A world turns requests into
answers; running a procedure in a world gives its result and the world afterwards.
-/

namespace JavaStubs

inductive Procedure (α : Type) where
  | done (a : α)
  | call (request : Request) (next : request.Answer → Procedure α)

namespace Procedure

variable {α β σ : Type}

def bind : Procedure α → (α → Procedure β) → Procedure β
  | .done a, f => f a
  | .call q next, f => .call q fun answer => (next answer).bind f

instance : Monad Procedure where
  pure := .done
  bind := bind

def ask (q : Request) : Procedure q.Answer := .call q .done

end Procedure

/-- How requests are answered: the answer and the state afterwards. -/
abbrev World (σ : Type) := (q : Request) → σ → q.Answer × σ

namespace Procedure

variable {α β σ : Type}

def run (w : World σ) : Procedure α → σ → α × σ
  | .done a, s => (a, s)
  | .call q next, s =>
    let (answer, s) := w q s
    (next answer).run w s

/-- Runs a procedure where requests are answered by effects. -/
def runIn {m : Type → Type} [Monad m] (answer : (q : Request) → m q.Answer) : Procedure α → m α
  | .done a => pure a
  | .call q next => do (next (← answer q)).runIn answer

/-- The requests that a run makes, in order. -/
def trace (w : World σ) : Procedure α → σ → List Request
  | .done _, _ => []
  | .call q next, s =>
    let (answer, s) := w q s
    q :: (next answer).trace w s

@[simp] theorem run_done (w : World σ) (a : α) (s : σ) : (Procedure.done a).run w s = (a, s) := rfl

@[simp] theorem run_call (w : World σ) (q : Request) (next : q.Answer → Procedure α) (s : σ) :
    (Procedure.call q next).run w s = (next (w q s).1).run w (w q s).2 := rfl

theorem run_bind (w : World σ) (p : Procedure α) (f : α → Procedure β) (s : σ) :
    (p.bind f).run w s = (f (p.run w s).1).run w (p.run w s).2 := by
  induction p generalizing s with
  | done a => rfl
  | call q next ih => simpa [bind] using ih (w q s).1 (w q s).2

theorem trace_bind (w : World σ) (p : Procedure α) (f : α → Procedure β) (s : σ) :
    (p.bind f).trace w s = p.trace w s ++ (f (p.run w s).1).trace w (p.run w s).2 := by
  induction p generalizing s with
  | done a => rfl
  | call q next ih => simpa [bind, trace] using ih (w q s).1 (w q s).2

end Procedure

/-- A procedure that may end in a failure. -/
abbrev Action := ExceptT Failure Procedure

namespace Action

variable {α : Type}

def fail (e : Failure) : Action α := ExceptT.mk (.done (.error e))

/-- A result that was computed without a request. -/
def ofExcept (r : Except Failure α) : Action α := ExceptT.mk (.done r)

def ask (q : Request) : Action q.Answer := ExceptT.mk (.call q fun answer => .done (.ok answer))

/-- The value of an answer; one that failed is an input-output failure in the given context. -/
def require (context : String) : Except String α → Action α
  | .ok a => ofExcept (.ok a)
  | .error source => fail (.io context source)

/-- Goes on with the outcome of an action, whether it failed or not. -/
def outcome (t : Action α) : Action (Except Failure α) :=
  ExceptT.mk (t.run.bind fun r => .done (.ok r))

end Action
end JavaStubs
