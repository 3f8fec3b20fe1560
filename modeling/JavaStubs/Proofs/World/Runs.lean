import JavaStubs.World.Procedure

/-!
# Runs

What holds of every run of a procedure, given the requests that it can make at all, and the calls of
one run: its requests with their answers.
-/

namespace JavaStubs

abbrev Call := (q : Request) × q.Answer

/-- The answer says that the operation failed. -/
def Call.failed : Call → Bool
  | ⟨.createDirAll _, .error _⟩ | ⟨.create _, .error _⟩ | ⟨.write _ _, .error _⟩
  | ⟨.flush _, .error _⟩ | ⟨.read _, .error _⟩ | ⟨.removeFile _, .error _⟩
  | ⟨.removeDirAll _, .error _⟩ | ⟨.compile _, .error _⟩ | ⟨.archive _, .error _⟩ => true
  | _ => false

namespace Procedure

variable {α β γ σ : Type} {w : World σ}

theorem bind_assoc (p : Procedure α) (f : α → Procedure β) (g : β → Procedure γ) :
    (p.bind f).bind g = p.bind fun a => (f a).bind g := by
  induction p with
  | done => rfl
  | call q next ih => simp [bind, ih]

/-- Every request that the procedure can make, whatever the answers to the others, satisfies `P`. -/
def Asks (P : Request → Prop) : Procedure α → Prop
  | .done _ => True
  | .call q next => P q ∧ ∀ answer, (next answer).Asks P

theorem Asks.bind {P : Request → Prop} {p : Procedure α} {f : α → Procedure β}
    (asks : p.Asks P) (later : ∀ a, (f a).Asks P) : (p.bind f).Asks P := by
  induction p with
  | done a => exact later a
  | call q next ih => exact ⟨asks.1, fun answer => ih answer (asks.2 answer)⟩

theorem Asks.mono {P Q : Request → Prop} (weaker : ∀ q, P q → Q q) {p : Procedure α}
    (asks : p.Asks P) : p.Asks Q := by
  induction p with
  | done => trivial
  | call q next ih => exact ⟨weaker q asks.1, fun answer => ih answer (asks.2 answer)⟩

/-- Every value that the procedure can end with, whatever the answers, satisfies `V`. -/
def Gives (V : α → Prop) : Procedure α → Prop
  | .done a => V a
  | .call _ next => ∀ answer, (next answer).Gives V

theorem Gives.bind {V : β → Prop} {p : Procedure α} {f : α → Procedure β}
    (gives : ∀ a, (f a).Gives V) : (p.bind f).Gives V := by
  induction p with
  | done a => exact gives a
  | call q next ih => exact fun answer => ih answer

theorem Gives.bind_of_gives {U : α → Prop} {V : β → Prop} {p : Procedure α} {f : α → Procedure β}
    (gives : p.Gives U) (later : ∀ a, U a → (f a).Gives V) : (p.bind f).Gives V := by
  induction p with
  | done a => exact later a gives
  | call q next ih => exact fun answer => ih answer (gives answer)

theorem Gives.run {V : α → Prop} {p : Procedure α} (gives : p.Gives V) (w : World σ) (s : σ) :
    V (p.run w s).1 := by
  induction p generalizing s with
  | done => exact gives
  | call q next ih => exact ih _ (gives _) _

/-- What every request that a procedure can make preserves, its runs preserve. -/
theorem Asks.preserves {P : Request → Prop} {I : σ → Prop} {p : Procedure α} (asks : p.Asks P)
    (step : ∀ q s, P q → I s → I (w q s).2) {s : σ} (start : I s) : I (p.run w s).2 := by
  induction p generalizing s with
  | done => exact start
  | call q next ih => exact ih _ (asks.2 _) (step q s asks.1 start)

/-- One request, of which the result is read off the answer. -/
def single (q : Request) (result : q.Answer → α) : Procedure α :=
  .call q fun answer => .done (result answer)

/-- Goes on with the value of a procedure, unless it failed. -/
def andThen {ε : Type} (p : Procedure (Except ε α)) (f : α → Procedure (Except ε β)) :
    Procedure (Except ε β) :=
  p.bind fun result => match result with
    | .error e => .done (.error e)
    | .ok a => f a

theorem andThen_assoc {ε : Type} (p : Procedure (Except ε α)) (f : α → Procedure (Except ε β))
    (g : β → Procedure (Except ε γ)) :
    (p.andThen f).andThen g = p.andThen fun a => (f a).andThen g := by
  refine (bind_assoc _ _ _).trans (congrArg _ (funext fun result => ?_))
  cases result <;> rfl

theorem Asks.andThen {ε : Type} {P : Request → Prop} {p : Procedure (Except ε α)}
    {f : α → Procedure (Except ε β)} (asks : p.Asks P) (later : ∀ a, (f a).Asks P) :
    (p.andThen f).Asks P := by
  apply asks.bind
  intro result
  cases result with
  | error => trivial
  | ok a => exact later a

/-- Only the values that the first procedure can give are to be considered. -/
theorem Asks.andThen_of_gives {ε : Type} {P : Request → Prop} {V : α → Prop}
    {p : Procedure (Except ε α)} {f : α → Procedure (Except ε β)} (asks : p.Asks P)
    (gives : p.Gives fun result => ∀ a, result = .ok a → V a) (later : ∀ a, V a → (f a).Asks P) :
    (p.andThen f).Asks P := by
  induction p with
  | done result =>
    cases result with
    | error => trivial
    | ok a => exact later a (gives a rfl)
  | call q next ih => exact ⟨asks.1, fun answer => ih answer (asks.2 answer) (gives answer)⟩

def calls (w : World σ) : Procedure α → σ → List Call
  | .done _, _ => []
  | .call q next, s =>
    let (answer, s) := w q s
    ⟨q, answer⟩ :: (next answer).calls w s

theorem trace_eq_map_calls (p : Procedure α) (s : σ) :
    p.trace w s = (p.calls w s).map Sigma.fst := by
  induction p generalizing s with
  | done => rfl
  | call q next ih => simp [trace, calls, ih]

@[simp] theorem calls_done (w : World σ) (a : α) (s : σ) :
    (Procedure.done a).calls w s = [] := rfl

@[simp] theorem calls_call (w : World σ) (q : Request) (next : q.Answer → Procedure α) (s : σ) :
    (Procedure.call q next).calls w s =
      ⟨q, (w q s).1⟩ :: (next (w q s).1).calls w (w q s).2 := rfl

theorem calls_bind (w : World σ) (p : Procedure α) (f : α → Procedure β) (s : σ) :
    (p.bind f).calls w s = p.calls w s ++ (f (p.run w s).1).calls w (p.run w s).2 := by
  induction p generalizing s with
  | done => rfl
  | call q next ih => simp [bind, ih]

theorem Asks.of_mem_calls {P : Request → Prop} {p : Procedure α} (asks : p.Asks P) {s : σ}
    {c : Call} (hc : c ∈ p.calls w s) : P c.1 := by
  induction p generalizing s with
  | done => cases hc
  | call q next ih =>
    rcases List.mem_cons.mp hc with rfl | hc
    · exact asks.1
    · exact ih _ (asks.2 _) hc

theorem Asks.of_mem_trace {P : Request → Prop} {p : Procedure α} (asks : p.Asks P) {s : σ}
    {q : Request} (hq : q ∈ p.trace w s) : P q := by
  rw [trace_eq_map_calls] at hq
  obtain ⟨c, hc, rfl⟩ := List.mem_map.mp hq
  exact asks.of_mem_calls hc

theorem run_andThen_eq_ok {ε : Type} {p : Procedure (Except ε α)} {f : α → Procedure (Except ε β)}
    {s : σ} {b : β} (ok : ((p.andThen f).run w s).1 = .ok b) :
    ∃ a, (p.run w s).1 = .ok a ∧ ((f a).run w (p.run w s).2).1 = .ok b ∧
      (p.andThen f).calls w s = p.calls w s ++ (f a).calls w (p.run w s).2 := by
  rw [andThen, run_bind] at ok
  rw [andThen, calls_bind]
  generalize p.run w s = ended at ok ⊢
  obtain ⟨result, s'⟩ := ended
  cases result with
  | error => cases ok
  | ok a => exact ⟨a, rfl, ok, rfl⟩

theorem run_andThen_of_ok {ε : Type} {p : Procedure (Except ε α)} {f : α → Procedure (Except ε β)}
    {s : σ} {a : α} (ok : (p.run w s).1 = .ok a) :
    (p.andThen f).run w s = (f a).run w (p.run w s).2 := by
  rw [andThen, run_bind, ok]

theorem run_andThen_of_error {ε : Type} {p : Procedure (Except ε α)}
    {f : α → Procedure (Except ε β)} {s : σ} {e : ε} (error : (p.run w s).1 = .error e) :
    (p.andThen f).run w s = (.error e, (p.run w s).2) ∧
      (p.andThen f).trace w s = p.trace w s := by
  rw [andThen, run_bind, trace_bind, error, run_done, trace, List.append_nil]
  exact ⟨rfl, rfl⟩

def firstFailure? (w : World σ) (p : Procedure α) (s : σ) : Option Request :=
  ((p.calls w s).find? Call.failed).map Sigma.fst

@[simp] theorem firstFailure?_done (w : World σ) (a : α) (s : σ) :
    (Procedure.done a).firstFailure? w s = none := rfl

theorem firstFailure?_call (w : World σ) (q : Request) (next : q.Answer → Procedure α) (s : σ) :
    (Procedure.call q next).firstFailure? w s =
      if Call.failed ⟨q, (w q s).1⟩ then some q
      else (next (w q s).1).firstFailure? w (w q s).2 := by
  simp only [firstFailure?, calls_call, List.find?_cons]
  split <;> simp_all

theorem Asks.of_firstFailure? {P : Request → Prop} {p : Procedure α} (asks : p.Asks P) {s : σ}
    {q : Request} (failed : p.firstFailure? w s = some q) : P q := by
  obtain ⟨c, found, rfl⟩ := Option.map_eq_some_iff.mp failed
  exact asks.of_mem_calls (List.mem_of_find?_eq_some found)

theorem firstFailure?_bind (w : World σ) (p : Procedure α) (f : α → Procedure β) (s : σ) :
    (p.bind f).firstFailure? w s =
      (p.firstFailure? w s).or ((f (p.run w s).1).firstFailure? w (p.run w s).2) := by
  simp only [firstFailure?, calls_bind, List.find?_append, Option.map_or]

end Procedure

namespace Action

variable {α β : Type}

theorem run_lift_bind (t : Procedure α) (f : α → Action β) :
    ((liftM t : Action α) >>= f).run = t.bind fun a => (f a).run := by
  change (t.bind _).bind _ = _
  rw [Procedure.bind_assoc]
  rfl

theorem run_bind (t : Action α) (f : α → Action β) :
    (t >>= f).run = t.run.andThen fun a => (f a).run := by
  refine congrArg (Procedure.bind t.run) (funext fun result => ?_)
  cases result <;> rfl

end Action
end JavaStubs
