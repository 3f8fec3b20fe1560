/-!
# Cutting a sequence at a separator

`split` and `join` undo each other as long as the pieces are free of the separator.
-/

namespace JavaStubs
namespace Text

variable {α : Type} [DecidableEq α]

/-- The stretches between the occurrences of `sep`; there is always at least one. -/
def split (sep : α) : List α → List (List α)
  | [] => [[]]
  | c :: rest =>
    if c = sep then [] :: split sep rest
    else match split sep rest with
      | [] => [[c]]
      | piece :: pieces => (c :: piece) :: pieces

/-- The pieces in order with `sep` between neighbours. -/
def join (sep : List α) : List (List α) → List α
  | [] => []
  | [piece] => piece
  | piece :: next :: pieces => piece ++ sep ++ join sep (next :: pieces)

def joinStrings (sep : String) : List String → String
  | [] => ""
  | [piece] => piece
  | piece :: next :: pieces => piece ++ sep ++ joinStrings sep (next :: pieces)

/-- Every occurrence of `old` becomes `new`. -/
def replace (old new : α) (s : List α) : List α :=
  s.map fun c => if c = old then new else c

/-- What follows `lead`, if the sequence begins with it. -/
def dropLead? : List α → List α → Option (List α)
  | [], s => some s
  | _ :: _, [] => none
  | a :: lead, b :: s => if a = b then dropLead? lead s else none

/-- The stretch before the first `sep` and the stretch after it. -/
def cut? (sep : α) : List α → Option (List α × List α)
  | [] => none
  | c :: rest =>
    if c = sep then some ([], rest)
    else (cut? sep rest).map fun (before, after) => (c :: before, after)

omit [DecidableEq α] in
/-- The sequence without the members of `p` at its end. -/
def dropLastWhile (p : α → Bool) (s : List α) : List α :=
  (s.reverse.dropWhile p).reverse

theorem split_ne_nil (sep : α) (s : List α) : split sep s ≠ [] := by
  cases s with
  | nil => simp [split]
  | cons c rest =>
    by_cases hc : c = sep
    · simp [split, hc]
    · cases h : split sep rest <;> simp [split, hc, h]

theorem split_cons_self (sep : α) (rest : List α) :
    split sep (sep :: rest) = [] :: split sep rest := by
  simp [split]

theorem join_split (sep : α) (s : List α) : join [sep] (split sep s) = s := by
  induction s with
  | nil => rfl
  | cons c rest ih =>
    match h : split sep rest with
    | [] => exact absurd h (split_ne_nil sep rest)
    | piece :: pieces =>
      rw [h] at ih
      by_cases hc : c = sep
      · simp [split, hc, h, join, ih]
      · cases pieces with
        | nil => simpa [split, hc, h, join] using ih
        | cons q qs => simpa [split, hc, h, join] using ih

theorem not_mem_of_mem_split {sep : α} {s piece : List α} (h : piece ∈ split sep s) :
    sep ∉ piece := by
  induction s generalizing piece with
  | nil => simp_all [split]
  | cons c rest ih =>
    by_cases hc : c = sep
    · simp only [split, hc, ↓reduceIte, List.mem_cons] at h
      rcases h with rfl | h
      · simp
      · exact ih h
    · match hs : split sep rest with
      | [] => exact absurd hs (split_ne_nil sep rest)
      | q :: qs =>
        simp only [split, hc, ↓reduceIte, hs, List.mem_cons] at h
        rcases h with rfl | h
        · have := ih (hs ▸ List.mem_cons_self)
          simp [this, Ne.symm hc]
        · exact ih (hs ▸ List.mem_cons_of_mem _ h)

theorem split_append_sep (sep : α) (s t : List α) :
    split sep (s ++ sep :: t) = split sep s ++ split sep t := by
  induction s with
  | nil => simp [split]
  | cons c rest ih =>
    by_cases hc : c = sep
    · simp [split, hc, ih]
    · match hs : split sep rest with
      | [] => exact absurd hs (split_ne_nil sep rest)
      | q :: qs => simp [split, hc, ih, hs]

theorem split_eq_singleton {sep : α} {s : List α} (h : sep ∉ s) : split sep s = [s] := by
  induction s with
  | nil => rfl
  | cons c rest ih =>
    simp only [List.mem_cons, not_or] at h
    simp [split, Ne.symm h.1, ih h.2]

theorem split_join {sep : α} {pieces : List (List α)} (nonempty : pieces ≠ [])
    (free : ∀ piece ∈ pieces, sep ∉ piece) : split sep (join [sep] pieces) = pieces := by
  induction pieces with
  | nil => exact absurd rfl nonempty
  | cons piece rest ih =>
    have front : split sep piece = [piece] := split_eq_singleton (free piece List.mem_cons_self)
    cases rest with
    | nil => exact front
    | cons next more =>
      have later : split sep (join [sep] (next :: more)) = next :: more :=
        ih (List.cons_ne_nil _ _) fun q hq => free q (List.mem_cons_of_mem _ hq)
      rw [join, List.append_assoc, List.singleton_append, split_append_sep, front, later]
      rfl

omit [DecidableEq α] in
theorem mem_join {sep piece : List α} {pieces : List (List α)} {a : α} (h : piece ∈ pieces)
    (ha : a ∈ piece) : a ∈ join sep pieces := by
  induction pieces with
  | nil => cases h
  | cons front rest ih =>
    cases rest with
    | nil =>
      obtain rfl := List.mem_singleton.mp h
      exact ha
    | cons next more =>
      rw [join, List.mem_append, List.mem_append]
      rcases List.mem_cons.mp h with rfl | later
      · exact .inl (.inl ha)
      · exact .inr (ih later)

theorem mem_of_mem_split {sep a : α} {s piece : List α} (h : piece ∈ split sep s) (ha : a ∈ piece) :
    a ∈ s := by
  rw [← join_split sep s]
  exact mem_join h ha

omit [DecidableEq α] in
theorem mem_of_mem_join {sep : List α} {pieces : List (List α)} {a : α} (h : a ∈ join sep pieces) :
    a ∈ sep ∨ ∃ piece ∈ pieces, a ∈ piece := by
  induction pieces with
  | nil => cases h
  | cons front rest ih =>
    cases rest with
    | nil => exact .inr ⟨front, List.mem_cons_self, h⟩
    | cons next more =>
      rw [join, List.mem_append, List.mem_append] at h
      rcases h with (inFront | inSep) | later
      · exact .inr ⟨front, List.mem_cons_self, inFront⟩
      · exact .inl inSep
      · rcases ih later with inSep | ⟨piece, mem, ha⟩
        · exact .inl inSep
        · exact .inr ⟨piece, List.mem_cons_of_mem _ mem, ha⟩

end Text
end JavaStubs
