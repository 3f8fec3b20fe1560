import JavaStubs.Proofs.World.Runs

/-!
# Interleaved runs

Two procedures that run on one state, each in a world of its own, and take turns with their
requests. If what a request of one leaves to the other looks the same as before, each of them ends as
if it ran alone.
-/

namespace JavaStubs

inductive Turn
  | first | second
  deriving DecidableEq, Repr

structure Course (α : Type) where
  result : α
  calls : List Call

namespace Course

variable {α : Type}

def after (c : Call) (course : Course α) : Course α := ⟨course.result, c :: course.calls⟩

end Course

namespace Procedure

variable {α β σ : Type}

def course (w : World σ) (p : Procedure α) (s : σ) : Course α := ⟨(p.run w s).1, p.calls w s⟩

theorem course_call (w : World σ) (q : Request) (next : q.Answer → Procedure α) (s : σ) :
    (Procedure.call q next).course w s =
      ((next (w q s).1).course w (w q s).2).after ⟨q, (w q s).1⟩ := rfl

/-- Two runs on one state with their requests in the order of the turns. A turn of a run that has
ended is passed over; when there are no more turns, the first run goes on to its end and then the
second. -/
def runTogether (w₁ w₂ : World σ) :
    List Turn → Procedure α → Procedure β → σ → Course α × Course β
  | [], p₁, p₂, s => (p₁.course w₁ s, p₂.course w₂ (p₁.run w₁ s).2)
  | .first :: turns, .call q next, p₂, s =>
    let (answer, s) := w₁ q s
    (runTogether w₁ w₂ turns (next answer) p₂ s).map (Course.after ⟨q, answer⟩) id
  | .second :: turns, p₁, .call q next, s =>
    let (answer, s) := w₂ q s
    (runTogether w₁ w₂ turns p₁ (next answer) s).map id (Course.after ⟨q, answer⟩)
  | .first :: turns, .done a, p₂, s => runTogether w₁ w₂ turns (.done a) p₂ s
  | .second :: turns, p₁, .done b, s => runTogether w₁ w₂ turns p₁ (.done b) s

theorem runTogether_first (w₁ w₂ : World σ) (turns : List Turn) (q : Request)
    (next : q.Answer → Procedure α) (p₂ : Procedure β) (s : σ) :
    runTogether w₁ w₂ (.first :: turns) (.call q next) p₂ s =
      (runTogether w₁ w₂ turns (next (w₁ q s).1) p₂ (w₁ q s).2).map
        (Course.after ⟨q, (w₁ q s).1⟩) id := rfl

theorem runTogether_second (w₁ w₂ : World σ) (turns : List Turn) (p₁ : Procedure α) (q : Request)
    (next : q.Answer → Procedure β) (s : σ) :
    runTogether w₁ w₂ (.second :: turns) p₁ (.call q next) s =
      (runTogether w₁ w₂ turns p₁ (next (w₂ q s).1) (w₂ q s).2).map id
        (Course.after ⟨q, (w₂ q s).1⟩) := by
  cases p₁ <;> rfl

/-- Every request that the procedure can make when it is the world `w` that answers, in whatever
states, satisfies `P`. -/
def AsksIn (w : World σ) (P : Request → Prop) : Procedure α → Prop
  | .done _ => True
  | .call q next => P q ∧ ∀ s, (next (w q s).1).AsksIn w P

theorem Asks.asksIn {P : Request → Prop} {p : Procedure α} (asks : p.Asks P) (w : World σ) :
    p.AsksIn w P := by
  induction p with
  | done => trivial
  | call q next ih => exact ⟨asks.1, fun s => ih _ (asks.2 _)⟩

/-- States that are alike for a run with the requests `P` in the world `w`, which the requests `P'`
in the world `w'` do not change. -/
structure Shielded (w w' : World σ) (P P' : Request → Prop) (alike : σ → σ → Prop) : Prop where
  answer : ∀ {q s t}, P q → alike s t → (w q s).1 = (w q t).1
  step : ∀ {q s t}, P q → alike s t → alike (w q s).2 (w q t).2
  frame : ∀ {q s t}, P' q → alike s t → alike (w' q s).2 t

namespace Shielded

variable {w w₁ w₂ : World σ} {P P₁ P₂ : Request → Prop} {alike alike₁ alike₂ : σ → σ → Prop}
  {s s₁ s₂ : σ}

theorem course_eq (shielded : Shielded w₁ w₂ P₁ P₂ alike) {p : Procedure α}
    (asks : p.AsksIn w₁ P₁) (h : alike s s₁) : p.course w₁ s = p.course w₁ s₁ := by
  induction p generalizing s s₁ with
  | done => rfl
  | call q next ih =>
    have same := shielded.answer asks.1 h
    rw [course_call, course_call, ih _ (asks.2 s) (shielded.step asks.1 h), same]

theorem frame_run (shielded : Shielded w₁ w₂ P₁ P₂ alike) {p : Procedure α}
    (asks : p.AsksIn w₂ P₂) (h : alike s s₁) : alike (p.run w₂ s).2 s₁ := by
  induction p generalizing s with
  | done => exact h
  | call q next ih => exact ih _ (asks.2 s) (shielded.frame asks.1 h)

/-- Two runs that are shielded from each other end as if each ran alone, in states that are alike
for it. -/
theorem runTogether_eq (one : Shielded w₁ w₂ P₁ P₂ alike₁) (two : Shielded w₂ w₁ P₂ P₁ alike₂)
    (turns : List Turn) {p₁ : Procedure α} {p₂ : Procedure β} (asks₁ : p₁.AsksIn w₁ P₁)
    (asks₂ : p₂.AsksIn w₂ P₂) (h₁ : alike₁ s s₁) (h₂ : alike₂ s s₂) :
    runTogether w₁ w₂ turns p₁ p₂ s = (p₁.course w₁ s₁, p₂.course w₂ s₂) := by
  induction turns generalizing p₁ p₂ s s₁ s₂ with
  | nil => rw [runTogether, one.course_eq asks₁ h₁, two.course_eq asks₂ (two.frame_run asks₁ h₂)]
  | cons turn turns ih =>
    cases turn with
    | first =>
      cases p₁ with
      | done a =>
        rw [runTogether]
        exact ih asks₁ asks₂ h₁ h₂
      | call q next =>
        have rest := ih (asks₁.2 s) asks₂ (one.step asks₁.1 h₁) (two.frame asks₁.1 h₂)
        rw [runTogether_first, rest, course_call, ← one.answer asks₁.1 h₁]
        rfl
    | second =>
      cases p₂ with
      | done b =>
        rw [runTogether]
        exact ih asks₁ asks₂ h₁ h₂
      | call q next =>
        have rest := ih asks₁ (asks₂.2 s) (one.frame asks₂.1 h₁) (two.step asks₂.1 h₂)
        rw [runTogether_second, rest, course_call, ← two.answer asks₂.1 h₂]
        rfl

end Shielded

end Procedure
end JavaStubs
