import JavaStubs.Catalog.Hierarchy
import JavaStubs.Proofs.Outcome
import Mathlib.Logic.Relation

/-!
# Superclass chains

The chain of a name is the list of declarations along its superclass links, up to one without a
superclass. The walk returns this list exactly if it exists, and it exists exactly if every name on
the way is declared and none of them leads back to itself.
-/

namespace JavaStubs
namespace Store

open Relation

variable {s : Store}

def SuperLink (s : Store) (name parent : String) : Prop :=
  ∃ d, s.find? name = some d ∧ d.superclass = some parent

/-- The declarations from `name` up to one without a superclass. -/
inductive SuperChain (s : Store) : String → List TypeDecl → Prop
  | top {name d} : s.find? name = some d → d.superclass = none → SuperChain s name [d]
  | link {name parent d ds} : s.find? name = some d → d.superclass = some parent →
      SuperChain s parent ds → SuperChain s name (d :: ds)

/-- The superclass walk from `name` meets a name that is not declared, or one that it comes back to.
-/
def BrokenChain (s : Store) (name : String) : Prop :=
  ∃ n, ReflTransGen s.SuperLink name n ∧ (s.find? n = none ∨ TransGen s.SuperLink n n)

theorem SuperChain.cases_cons {name : String} {ds : List TypeDecl} (h : s.SuperChain name ds) :
    ∃ d rest, ds = d :: rest ∧ s.find? name = some d ∧
      (d.superclass = none ∧ rest = [] ∨
        ∃ parent, d.superclass = some parent ∧ s.SuperChain parent rest) := by
  cases h with
  | top found last => exact ⟨_, [], rfl, found, .inl ⟨last, rfl⟩⟩
  | link found next rest => exact ⟨_, _, rfl, found, .inr ⟨_, next, rest⟩⟩

theorem SuperChain.unique {name : String} {ds es : List TypeDecl} (h : s.SuperChain name ds)
    (h' : s.SuperChain name es) : ds = es := by
  induction h generalizing es with
  | top found last =>
    obtain ⟨d, rest, rfl, found', ⟨_, rfl⟩ | ⟨parent, next, _⟩⟩ := h'.cases_cons
    · rw [Option.some.inj (found.symm.trans found')]
    · rw [← Option.some.inj (found.symm.trans found'), last] at next
      cases next
  | link found next _ ih =>
    obtain ⟨d, rest, rfl, found', ⟨last, _⟩ | ⟨parent, next', chain⟩⟩ := h'.cases_cons
    · rw [← Option.some.inj (found.symm.trans found'), next] at last
      cases last
    · obtain rfl := Option.some.inj (found.symm.trans found')
      obtain rfl := Option.some.inj (next.symm.trans next')
      rw [ih chain]

theorem SuperChain.of_link {name parent : String} {ds : List TypeDecl} (h : s.SuperChain name ds)
    (link : s.SuperLink name parent) : ∃ d rest, ds = d :: rest ∧ s.SuperChain parent rest := by
  obtain ⟨e, found, next⟩ := link
  obtain ⟨d, rest, rfl, found', ⟨last, _⟩ | ⟨q, next', chain⟩⟩ := h.cases_cons
  · rw [← Option.some.inj (found.symm.trans found'), next] at last
    cases last
  · obtain rfl := Option.some.inj (found.symm.trans found')
    obtain rfl := Option.some.inj (next.symm.trans next')
    exact ⟨e, rest, rfl, chain⟩

/-- Following links cuts declarations off the front of the chain. -/
theorem SuperChain.of_reachable {name n : String} {ds : List TypeDecl} (h : s.SuperChain name ds)
    (path : ReflTransGen s.SuperLink name n) : ∃ rest, s.SuperChain n rest ∧ rest <:+ ds := by
  induction path with
  | refl => exact ⟨ds, h, List.suffix_refl ds⟩
  | tail _ link ih =>
    obtain ⟨rest, chain, suffix⟩ := ih
    obtain ⟨d, left, rfl, chain'⟩ := chain.of_link link
    exact ⟨left, chain', (List.suffix_cons d left).trans suffix⟩

theorem SuperChain.length_lt {name n : String} {ds es : List TypeDecl} (h : s.SuperChain name ds)
    (h' : s.SuperChain n es) (path : TransGen s.SuperLink name n) : es.length < ds.length := by
  obtain ⟨m, link, path⟩ := TransGen.head'_iff.mp path
  obtain ⟨d, rest, rfl, chain⟩ := h.of_link link
  obtain ⟨left, chain', suffix⟩ := chain.of_reachable path
  rw [h'.unique chain']
  exact Nat.lt_succ_of_le suffix.length_le

theorem SuperChain.not_broken {name : String} {ds : List TypeDecl} (h : s.SuperChain name ds) :
    ¬ s.BrokenChain name := by
  rintro ⟨n, path, missing | back⟩
  all_goals obtain ⟨rest, chain, -⟩ := h.of_reachable path
  · obtain ⟨d, _, _, found, _⟩ := chain.cases_cons
    rw [missing] at found
    cases found
  · exact Nat.lt_irrefl _ (chain.length_lt chain back)

theorem SuperChain.mem_iff {name : String} {ds : List TypeDecl} (h : s.SuperChain name ds)
    {d : TypeDecl} :
    d ∈ ds ↔ ReflTransGen s.SuperLink name d.name ∧ s.find? d.name = some d := by
  constructor
  · intro mem
    induction h with
    | top found _ =>
      rw [List.mem_singleton] at mem
      subst mem
      rw [name_of_find? found]
      exact ⟨.refl, found⟩
    | link found next _ ih =>
      rcases List.mem_cons.mp mem with rfl | mem
      · rw [name_of_find? found]
        exact ⟨.refl, found⟩
      · exact ⟨(ih mem).1.head ⟨_, found, next⟩, (ih mem).2⟩
  · rintro ⟨path, found⟩
    obtain ⟨rest, chain, suffix⟩ := h.of_reachable path
    obtain ⟨e, left, rfl, found', _⟩ := chain.cases_cons
    obtain rfl := Option.some.inj (found.symm.trans found')
    exact suffix.subset List.mem_cons_self

theorem chainFrom_of_undeclared {met : List String} {name : String}
    (missing : s.find? name = none) : s.chainFrom met name = .error (.unresolved name) := by
  rw [chainFrom]
  split <;> simp_all

theorem chainFrom_of_met {met : List String} {name : String} {d : TypeDecl}
    (found : s.find? name = some d) (old : name ∈ met) :
    s.chainFrom met name = .error (.inheritanceCycle name) := by
  rw [chainFrom]
  split <;> simp_all

theorem chainFrom_of_last {met : List String} {name : String} {d : TypeDecl}
    (found : s.find? name = some d) (new : name ∉ met) (last : d.superclass = none) :
    s.chainFrom met name = .ok [d] := by
  rw [chainFrom]
  split
  · simp_all
  · split <;> simp_all

theorem chainFrom_of_link {met : List String} {name parent : String} {d : TypeDecl}
    (found : s.find? name = some d) (new : name ∉ met) (next : d.superclass = some parent) :
    s.chainFrom met name = (s.chainFrom (name :: met) parent).map (d :: ·) := by
  rw [chainFrom]
  split
  · simp_all
  · split <;> simp_all

theorem superChain_of_chainFrom {met : List String} {name : String} {ds : List TypeDecl}
    (h : s.chainFrom met name = .ok ds) : s.SuperChain name ds := by
  fun_induction chainFrom s met name generalizing ds with
  | case1 | case2 => cases h
  | case3 met name d found new last =>
    obtain rfl := Except.ok.inj h
    exact .top found last
  | case4 met name d found new parent next _ ih =>
    obtain ⟨rest, chain, rfl⟩ := Outcome.map_eq_ok_iff.mp h
    exact .link found next (ih chain)

/-- Where the walk fails: at the first name that is not declared, or at the first one that it has
met before. The names met so far lead to the current one, so meeting one of them closes a cycle. -/
theorem failure_of_chainFrom {met : List String} {name : String} {e : Failure}
    (leads : ∀ m ∈ met, TransGen s.SuperLink m name) (h : s.chainFrom met name = .error e) :
    ∃ n, ReflTransGen s.SuperLink name n ∧ (e = .unresolved n ∧ s.find? n = none ∨
      e = .inheritanceCycle n ∧ TransGen s.SuperLink n n) := by
  fun_induction chainFrom s met name with
  | case1 met name missing => exact ⟨name, .refl, .inl ⟨(Except.error.inj h).symm, missing⟩⟩
  | case2 met name d found old =>
    exact ⟨name, .refl, .inr ⟨(Except.error.inj h).symm, leads name old⟩⟩
  | case3 => cases h
  | case4 met name d found new parent next _ ih =>
    have link : s.SuperLink name parent := ⟨d, found, next⟩
    have leads' : ∀ m ∈ name :: met, TransGen s.SuperLink m parent := by
      intro m hm
      rcases List.mem_cons.mp hm with rfl | hm
      · exact .single link
      · exact (leads m hm).tail link
    obtain ⟨n, path, fault⟩ := ih leads' (Outcome.map_eq_error_iff.mp h)
    exact ⟨n, path.head link, fault⟩

theorem brokenChain_of_chain_error {name : String} {e : Failure} (h : s.chain name = .error e) :
    s.BrokenChain name := by
  obtain ⟨n, path, ⟨_, missing⟩ | ⟨_, back⟩⟩ := failure_of_chainFrom (by simp) h
  · exact ⟨n, path, .inl missing⟩
  · exact ⟨n, path, .inr back⟩

theorem chain_eq_ok_iff {name : String} {ds : List TypeDecl} :
    s.chain name = .ok ds ↔ s.SuperChain name ds := by
  constructor
  · exact superChain_of_chainFrom
  · intro h
    rcases Outcome.ok_or_error (s.chain name) with ⟨es, ok⟩ | ⟨e, error⟩
    · rw [ok, h.unique (superChain_of_chainFrom ok)]
    · exact absurd (brokenChain_of_chain_error error) h.not_broken

end Store
end JavaStubs
