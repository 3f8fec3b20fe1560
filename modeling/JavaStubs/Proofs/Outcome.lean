import Mathlib.Data.List.Nodup

/-!
# Outcomes

When a computation that may fail ends with a value, and when it ends with a failure. A look-up in a
list with distinct keys ends with the member that has the key.
-/

namespace JavaStubs
namespace Outcome

variable {ε α β : Type}

theorem ok_bind (a : α) (f : α → Except ε β) : (Except.ok a >>= f) = f a := rfl

theorem map_eq_ok_iff {f : α → β} {x : Except ε α} {b : β} :
    x.map f = .ok b ↔ ∃ a, x = .ok a ∧ f a = b := by
  cases x <;> simp [Except.map]

theorem map_eq_error_iff {f : α → β} {x : Except ε α} {e : ε} :
    x.map f = .error e ↔ x = .error e := by
  cases x <;> simp [Except.map]

theorem mapError_eq_ok_iff {δ : Type} {f : ε → δ} {x : Except ε α} {a : α} :
    x.mapError f = .ok a ↔ x = .ok a := by
  cases x with
  | error => constructor <;> rintro ⟨⟩
  | ok =>
    constructor
    all_goals
      rintro ⟨⟩
      rfl

theorem mapError_eq_error_iff {δ : Type} {f : ε → δ} {x : Except ε α} {d : δ} :
    x.mapError f = .error d ↔ ∃ e, x = .error e ∧ f e = d := by
  cases x with
  | error e =>
    constructor
    · rintro ⟨⟩
      exact ⟨e, rfl, rfl⟩
    · rintro ⟨_, ⟨⟩, rfl⟩
      rfl
  | ok =>
    constructor
    · rintro ⟨⟩
    · rintro ⟨_, ⟨⟩, _⟩

theorem bind_eq_ok_iff {x : Except ε α} {f : α → Except ε β} {b : β} :
    (x >>= f) = .ok b ↔ ∃ a, x = .ok a ∧ f a = .ok b := by
  cases x <;> simp [bind, Except.bind]

theorem bind_eq_error_iff {x : Except ε α} {f : α → Except ε β} {e : ε} :
    (x >>= f) = .error e ↔ x = .error e ∨ ∃ a, x = .ok a ∧ f a = .error e := by
  cases x <;> simp [bind, Except.bind]

theorem forall_of_mapM {f : α → Except ε β} {P : β → Prop} (each : ∀ a b, f a = .ok b → P b)
    {l : List α} {r : List β} (ok : l.mapM f = .ok r) : ∀ b ∈ r, P b := by
  induction l generalizing r with
  | nil =>
    obtain rfl := Except.ok.inj ok
    simp
  | cons a rest ih =>
    rw [List.mapM_cons] at ok
    obtain ⟨b, first, ok⟩ := bind_eq_ok_iff.mp ok
    obtain ⟨bs, later, ok⟩ := bind_eq_ok_iff.mp ok
    obtain rfl := Except.ok.inj ok
    simpa using ⟨each a b first, ih later⟩

theorem mapM_map_of_inverse {m : Type → Type} [Monad m] [LawfulMonad m] {f : α → m β} {g : β → α}
    {l : List β} (inverse : ∀ b ∈ l, f (g b) = pure b) : (l.map g).mapM f = pure l := by
  induction l with
  | nil => rfl
  | cons b rest ih =>
    have later := ih fun c hc => inverse c (List.mem_cons_of_mem _ hc)
    rw [List.map_cons, List.mapM_cons, inverse b List.mem_cons_self, pure_bind, later, pure_bind]

def error? : Except ε α → Option ε
  | .ok _ => none
  | .error e => some e

@[simp] theorem error?_ok (a : α) : error? (.ok a : Except ε α) = none := rfl

@[simp] theorem error?_error (e : ε) : error? (.error e : Except ε α) = some e := rfl

theorem error?_eq_some_iff {x : Except ε α} {e : ε} : error? x = some e ↔ x = .error e := by
  cases x <;> simp

theorem error?_eq_none_iff {x : Except ε Unit} : error? x = none ↔ x = .ok () := by
  cases x <;> simp

theorem ok_or_error (x : Except ε α) : (∃ a, x = .ok a) ∨ ∃ e, x = .error e := by
  cases x <;> simp

theorem exists_ok_iff {x : Except ε α} : (∃ a, x = .ok a) ↔ ¬ ∃ e, x = .error e := by
  cases x <;> simp

end Outcome

namespace Keyed

variable {α κ : Type} [DecidableEq κ]

theorem find?_of_mem {key : α → κ} {l : List α} (distinct : (l.map key).Nodup) {a : α}
    (mem : a ∈ l) : (l.find? fun b => key b = key a) = some a := by
  cases found : l.find? fun b => key b = key a with
  | none =>
    rw [List.find?_eq_none] at found
    simpa using found a mem
  | some b =>
    have same : key b = key a := by simpa using List.find?_some found
    rw [List.inj_on_of_nodup_map distinct (List.mem_of_find?_eq_some found) mem same]

end Keyed
end JavaStubs
