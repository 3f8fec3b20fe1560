import JavaStubs.Path
import Mathlib.Data.List.DropRight

/-!
# Components of paths

What joining, taking the parent and changing the extension do to the components of a path. A name
that is joined to a path is one more component; the parent of a path has all components but the
last; and another extension changes the last component alone.
-/

namespace JavaStubs
namespace Path

open Text

variable {p q r : Path} {piece : OsText}

/-- A stretch that is a name wherever it stands in a path. -/
structure IsName (piece : OsText) : Prop where
  noSlash : slash ∉ piece
  nonempty : piece ≠ []
  notHere : piece ≠ [dot]
  notUp : piece ≠ [dot, dot]

theorem IsName.componentOfPiece?_eq (h : IsName piece) :
    componentOfPiece? piece = some (.name piece) := by
  simp [componentOfPiece?, h.nonempty, h.notHere, h.notUp]

theorem IsName.frontComponent_eq (h : IsName piece) : frontComponent piece = .name piece := by
  simp [frontComponent, h.notHere, h.componentOfPiece?_eq]

theorem IsName.not_isAbsolute_append (h : IsName piece) (rest : OsText) :
    ¬ (Path.mk (piece ++ rest)).isAbsolute := by
  intro absolute
  have front : (piece ++ rest).head? = some slash := by simpa [isAbsolute] using absolute
  rw [List.head?_append_of_ne_nil _ h.nonempty] at front
  exact h.noSlash (List.mem_of_head? front)

theorem IsName.not_isAbsolute (h : IsName piece) : ¬ (Path.mk piece).isAbsolute := by
  simpa using h.not_isAbsolute_append []

section Under

theorem same_iff : p.same q ↔ p.components = q.components := by
  simp [same]

theorem isUnder_iff : p.isUnder q ↔ q.components <+: p.components :=
  List.isPrefixOf_iff_prefix

theorem isUnder_self (p : Path) : p.isUnder p :=
  isUnder_iff.mpr List.prefix_rfl

theorem isUnder_trans (h : p.isUnder q) (h' : q.isUnder r) : p.isUnder r := by
  simp only [isUnder_iff] at *
  exact h'.trans h

theorem isUnder_or_isUnder (h : r.isUnder p) (h' : r.isUnder q) : p.isUnder q ∨ q.isUnder p := by
  simp only [isUnder_iff] at *
  exact (List.prefix_or_prefix_of_prefix h h').symm

theorem isUnder_congr (h : p.same q) : p.isUnder r ↔ q.isUnder r := by
  rw [isUnder_iff, isUnder_iff, same_iff.mp h]

end Under

section Join

theorem components_of_pieces {front : OsText} {rest : List OsText} (h : p.pieces = front :: rest)
    (nonempty : front ≠ [] ∨ rest ≠ []) :
    p.components = frontComponent front :: rest.filterMap componentOfPiece? := by
  unfold components
  rw [h]
  rcases nonempty with nonempty | nonempty
  · cases front with
    | nil => exact absurd rfl nonempty
    | cons => rfl
  · cases rest with
    | nil => exact absurd rfl nonempty
    | cons => cases front <;> rfl

/-- A name in place of an empty last stretch, or after the last stretch, is one more component. -/
theorem components_of_last_name (h : IsName piece) {front : OsText} {rest last : List OsText}
    (hp : p.pieces = front :: (rest ++ last)) (hlast : last.filterMap componentOfPiece? = [])
    (nonempty : front ≠ [] ∨ rest ++ last ≠ []) (hq : q.pieces = front :: (rest ++ [piece])) :
    q.components = p.components ++ [.name piece] := by
  rw [components_of_pieces hp nonempty, components_of_pieces hq (.inr (by simp))]
  simp [hlast, h.componentOfPiece?_eq]

theorem components_join_name (h : IsName piece) :
    (p.join ⟨piece⟩).components = p.components ++ [.name piece] := by
  have alone : split slash piece = [piece] := split_eq_singleton h.noSlash
  rw [join, if_neg h.not_isAbsolute]
  by_cases empty : p.text = []
  · have before : p.components = [] := by simp [components, pieces, empty, split]
    have after : (Path.mk (p.text ++ piece)).pieces = [piece] := by simp [pieces, empty, alone]
    rw [if_pos (.inl empty), before, components_of_pieces after (.inl h.nonempty),
      h.frontComponent_eq]
    rfl
  by_cases closed : p.text.getLast? = some slash
  · obtain ⟨s, hs⟩ := List.getLast?_eq_some_iff.mp closed
    cases hfront : split slash s with
    | nil => exact absurd hfront (split_ne_nil slash s)
    | cons front rest =>
      have before : p.pieces = front :: (rest ++ [[]]) := by
        rw [pieces, hs, split_append_sep, hfront]
        rfl
      have after : (Path.mk (p.text ++ piece)).pieces = front :: (rest ++ [piece]) := by
        rw [pieces, hs, List.append_assoc, List.singleton_append, split_append_sep, hfront, alone]
        rfl
      rw [if_pos (.inr closed)]
      exact components_of_last_name h before rfl (.inr (by simp)) after
  · cases hfront : p.pieces with
    | nil => exact absurd hfront (split_ne_nil slash p.text)
    | cons front rest =>
      have after : (Path.mk (p.text ++ slash :: piece)).pieces = front :: (rest ++ [piece]) := by
        rw [pieces, split_append_sep, alone, ← pieces, hfront]
        rfl
      have nonempty : front ≠ [] ∨ rest ++ [] ≠ [] := by
        by_contra both
        simp only [List.append_nil, not_or, ne_eq, not_not] at both
        have text := join_split slash p.text
        rw [← pieces, hfront, both.1, both.2] at text
        exact empty text.symm
      rw [if_neg (by simp [empty, closed])]
      exact components_of_last_name h (by rw [hfront, List.append_nil]) rfl nonempty after

def lead (p : Path) : OsText :=
  if p.text = [] ∨ p.text.getLast? = some slash then p.text else p.text ++ [slash]

theorem join_eq (relative : ¬ q.isAbsolute) : p.join q = ⟨p.lead ++ q.text⟩ := by
  rw [join, if_neg relative, lead]
  split
  case isTrue => rfl
  case isFalse => rw [List.append_assoc, List.singleton_append]

theorem lead_eq_nil_or (p : Path) : p.lead = [] ∨ ∃ s, p.lead = s ++ [slash] := by
  unfold lead
  split
  case isTrue closed => exact closed.imp_right List.getLast?_eq_some_iff.mp
  case isFalse => exact .inr ⟨p.text, rfl⟩

/-- The stretches of a path that ends in a name: those before it do not depend on the name. -/
theorem exists_pieces_join (p : Path) :
    ∃ before, ∀ piece, IsName piece → (p.join ⟨piece⟩).pieces = before ++ [piece] := by
  rcases p.lead_eq_nil_or with bare | ⟨s, closed⟩
  · refine ⟨[], fun piece h => ?_⟩
    rw [join_eq h.not_isAbsolute, bare, pieces, List.nil_append, split_eq_singleton h.noSlash,
      List.nil_append]
  · refine ⟨split slash s, fun piece h => ?_⟩
    rw [join_eq h.not_isAbsolute, closed, pieces, List.append_assoc, List.singleton_append,
      split_append_sep, split_eq_singleton h.noSlash]

theorem join_join (h : IsName piece) {rest : OsText} (relative : ¬ (Path.mk rest).isAbsolute) :
    (p.join ⟨piece⟩).join ⟨rest⟩ = p.join ⟨piece ++ slash :: rest⟩ := by
  obtain ⟨init, last, rfl⟩ := (List.eq_nil_or_concat' piece).resolve_left h.nonempty
  have unclosed : last ≠ slash := by
    rintro rfl
    exact h.noSlash (List.mem_append_right _ List.mem_cons_self)
  have relative' := h.not_isAbsolute_append (slash :: rest)
  have extended : (Path.mk (p.lead ++ (init ++ [last]))).lead =
      p.lead ++ (init ++ [last]) ++ [slash] := by
    rw [lead, if_neg]
    simp [← List.append_assoc, unclosed]
  rw [join_eq h.not_isAbsolute, join_eq relative, join_eq relative', extended]
  simp only [List.append_assoc, List.cons_append, List.nil_append]

theorem components_child {name : String} (h : IsName (OsText.ofString name)) :
    (p.child name).components = p.components ++ [.name (OsText.ofString name)] :=
  components_join_name h

theorem components_descend {names : List String} (h : ∀ name ∈ names, IsName (OsText.ofString name)) :
    (p.descend names).components = p.components ++ names.map fun n => .name (OsText.ofString n) := by
  unfold descend
  induction names generalizing p with
  | nil => simp
  | cons name rest ih =>
    have later : ∀ n ∈ rest, IsName (OsText.ofString n) := fun n hn =>
      h n (List.mem_cons_of_mem _ hn)
    rw [List.foldl_cons, ih later, components_child (h name List.mem_cons_self), List.append_assoc]
    rfl

end Join

section Parent

/-- A stretch that is no component, unless it is in front. -/
def isSkipped (piece : OsText) : Bool := (componentOfPiece? piece).isNone

theorem dropEmptyPieces_append (backwards : List OsText) (front : OsText) :
    dropEmptyPieces (backwards ++ [front]) = backwards.dropWhile isSkipped ++ [front] := by
  induction backwards with
  | nil => rfl
  | cons piece rest ih =>
    have two : dropEmptyPieces (piece :: (rest ++ [front])) =
        if isSkipped piece then dropEmptyPieces (rest ++ [front])
        else piece :: (rest ++ [front]) := by
      cases rest <;> rfl
    rw [List.cons_append, two, ih, List.dropWhile_cons]
    split <;> rfl

theorem dropEmptyPieces_reverse (front : OsText) (rest : List OsText) :
    dropEmptyPieces (front :: rest).reverse = (front :: rest.rdropWhile isSkipped).reverse := by
  rw [List.reverse_cons, dropEmptyPieces_append, List.reverse_cons, List.rdropWhile,
    List.reverse_reverse]

theorem filterMap_rdropWhile (rest : List OsText) :
    (rest.rdropWhile isSkipped).filterMap componentOfPiece? =
      rest.filterMap componentOfPiece? := by
  induction rest using List.reverseRecOn with
  | nil => rfl
  | append_singleton rest last ih =>
    rw [List.rdropWhile_concat]
    split
    case isTrue skipped =>
      have none : componentOfPiece? last = none := by simpa [isSkipped] using skipped
      simp [ih, none]
    case isFalse => rfl

theorem parent?_of_single {front : OsText} {rest : List OsText} (h : p.pieces = front :: rest)
    (single : rest.rdropWhile isSkipped = []) :
    p.parent? = if front = [] then none else some empty := by
  rw [parent?, h, dropEmptyPieces_reverse, single]
  cases front <;> rfl

theorem parent?_of_last {front last : OsText} {rest init : List OsText}
    (h : p.pieces = front :: rest) (hinit : rest.rdropWhile isSkipped = init ++ [last]) :
    p.parent? = some (if front = [] ∧ init.rdropWhile isSkipped = [] then ⟨[slash]⟩
      else ⟨Text.join [slash] (front :: init.rdropWhile isSkipped)⟩) := by
  have backwards : dropEmptyPieces p.pieces.reverse = last :: (front :: init).reverse := by
    rw [h, dropEmptyPieces_reverse, hinit, ← List.cons_append, List.reverse_append]
    rfl
  have above := dropEmptyPieces_reverse front init
  rw [parent?, backwards]
  generalize (front :: init).reverse = back at above ⊢
  cases back with
  | nil => simp [dropEmptyPieces] at above
  | cons second more =>
    simp only [above]
    generalize init.rdropWhile isSkipped = kept
    cases kept using List.reverseRecOn with
    | nil => cases front <;> simp [Text.join]
    | append_singleton kept last =>
      have long : (front :: (kept ++ [last])).reverse = last :: (front :: kept).reverse := by simp
      rw [if_neg (by simp), long]
      split
      case h_1 one => simp at one
      case h_2 => simp

theorem noSlash_of_mem_rdropWhile {front : OsText} {rest init last : List OsText}
    (h : p.pieces = front :: rest) (hinit : rest.rdropWhile isSkipped = init ++ last) :
    ∀ piece ∈ front :: init.rdropWhile isSkipped, slash ∉ piece := by
  intro piece hpiece
  have kept : init.rdropWhile isSkipped <+: rest :=
    (List.rdropWhile_prefix _ _).trans
      ((hinit ▸ List.prefix_append init last).trans (List.rdropWhile_prefix _ _))
  have mem : piece ∈ p.pieces := by
    rw [h]
    rcases List.mem_cons.mp hpiece with rfl | hpiece
    · exact List.mem_cons_self
    · exact List.mem_cons_of_mem _ (kept.subset hpiece)
  exact not_mem_of_mem_split mem

theorem components_of_parent? (h : p.parent? = some q) :
    q.components = p.components.dropLast := by
  cases hp : p.pieces with
  | nil => exact absurd hp (split_ne_nil slash p.text)
  | cons front rest =>
    have same := filterMap_rdropWhile rest
    cases hrest : rest.rdropWhile isSkipped using List.reverseRecOn with
    | nil =>
      rw [parent?_of_single hp hrest] at h
      rw [hrest] at same
      split at h
      case isTrue => cases h
      case isFalse nonempty =>
        obtain rfl := Option.some.inj h
        rw [components_of_pieces hp (.inl nonempty), ← same]
        rfl
    | append_singleton init last =>
      have component : ∃ c, componentOfPiece? last = some c := by
        have kept := List.rdropWhile_last_not isSkipped rest (by simp [hrest])
        simp only [hrest, List.getLast_append_singleton] at kept
        simpa [isSkipped, Option.isNone_iff_eq_none, Option.ne_none_iff_exists'] using kept
      obtain ⟨c, hc⟩ := component
      have more : rest ≠ [] := by
        rintro rfl
        simp at hrest
      rw [components_of_pieces hp (.inr more), ← same, hrest, List.filterMap_append]
      simp only [List.filterMap_cons, hc, List.filterMap_nil]
      rw [← List.cons_append, List.dropLast_concat, ← filterMap_rdropWhile init]
      rw [parent?_of_last hp hrest] at h
      obtain rfl := Option.some.inj h
      split
      case isTrue bare =>
        rw [bare.1, bare.2]
        rfl
      case isFalse deep =>
        apply components_of_pieces
        · exact split_join (List.cons_ne_nil _ _) (noSlash_of_mem_rdropWhile hp hrest)
        · tauto

theorem isUnder_of_mem_withAncestors (h : q ∈ p.withAncestors) : p.isUnder q := by
  unfold withAncestors at h
  generalize p.text.length = n at h
  rw [isUnder_iff]
  induction n generalizing p with
  | zero =>
    obtain ⟨rfl, _⟩ : q = p ∧ _ := by simpa [withAncestors.go] using h
    exact List.prefix_rfl
  | succ n ih =>
    rw [withAncestors.go] at h
    split at h
    case isTrue => cases h
    case isFalse =>
      cases hparent : p.parent? with
      | none =>
        rw [hparent] at h
        obtain rfl := List.mem_singleton.mp h
        exact List.prefix_rfl
      | some parent =>
        rw [hparent] at h
        rcases List.mem_cons.mp h with rfl | h
        · exact List.prefix_rfl
        · have above : parent.components <+: p.components := by
            rw [components_of_parent? hparent]
            exact List.dropLast_prefix _
          exact (ih h).trans above

end Parent

section Extension

theorem fileName?_of_last_name {names : List Component} {name : OsText}
    (h : p.components = names ++ [.name name]) : p.fileName? = some name := by
  rw [fileName?, h, List.getLast?_concat]

theorem splitExtension_append {stem extension : OsText} (nonempty : stem ≠ [])
    (hstem : dot ∉ stem) (hextension : dot ∉ extension) :
    splitExtension (stem ++ dot :: extension) = (stem, some extension) := by
  rw [splitExtension, split_append_sep, split_eq_singleton hstem, split_eq_singleton hextension]
  simp [Text.join, nonempty]

theorem dropEmptyPieces_of_isName (h : IsName piece) (before : List OsText) :
    dropEmptyPieces (piece :: before) = piece :: before := by
  cases before with
  | nil => rfl
  | cons => simp [dropEmptyPieces, h.componentOfPiece?_eq]

theorem withExtension_join {stem old : OsText} {new : String} (h : IsName (stem ++ dot :: old))
    (hnew : IsName (stem ++ dot :: OsText.ofString new)) (nonempty : stem ≠ []) (hstem : dot ∉ stem)
    (hold : dot ∉ old) :
    (p.join ⟨stem ++ dot :: old⟩).withExtension new =
      p.join ⟨stem ++ dot :: OsText.ofString new⟩ := by
  obtain ⟨before, hbefore⟩ := p.exists_pieces_join
  have name := fileName?_of_last_name (components_join_name (p := p) h)
  have cut : dropEmptyPieces (p.join ⟨stem ++ dot :: old⟩).pieces.reverse =
      (stem ++ dot :: old) :: before.reverse := by
    rw [hbefore _ h, List.reverse_append]
    exact dropEmptyPieces_of_isName h _
  have text : Text.join [slash] (before ++ [stem ++ dot :: OsText.ofString new]) =
      (p.join ⟨stem ++ dot :: OsText.ofString new⟩).text := by
    rw [← hbefore _ hnew]
    exact join_split slash _
  simp only [withExtension, name, cut, splitExtension_append nonempty hstem hold,
    List.reverse_cons, List.reverse_reverse, text]

end Extension

end Path
end JavaStubs
