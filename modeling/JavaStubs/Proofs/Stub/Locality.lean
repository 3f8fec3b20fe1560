import JavaStubs.Proofs.Hierarchy.Ancestors
import JavaStubs.Proofs.Hierarchy.InheritedMembers
import JavaStubs.Stub.Plan

/-!
# Planning is local

Every declaration that planning looks up is one that superclass links and interface links lead to
from the named type. Two stores that agree on those names give the same answers, plans and failures
alike, so a declaration of any other name can be added without an effect.
-/

namespace JavaStubs
namespace Store

open Relation

variable {s s' : Store}

def ParentLink (s : Store) (name parent : String) : Prop :=
  s.SuperLink name parent ∨ s.InterfaceLink name parent

/-- Links lead from `name` to `n`, which need not be declared. -/
def LeadsTo (s : Store) (name n : String) : Prop := ReflTransGen s.ParentLink name n

/-- The stores have the same declaration, or none, for every name that links lead to. -/
def AgreeAbove (s s' : Store) (name : String) : Prop :=
  ∀ n, s.LeadsTo name n → s'.find? n = s.find? n

namespace AgreeAbove

variable {name parent : String} {d : TypeDecl}

theorem find?_eq (agree : AgreeAbove s s' name) : s'.find? name = s.find? name := agree name .refl

theorem of_link (agree : AgreeAbove s s' name) (link : s.ParentLink name parent) :
    AgreeAbove s s' parent :=
  fun n path => agree n (.head link path)

theorem superclass (agree : AgreeAbove s s' name) (found : s.find? name = some d)
    (next : d.superclass = some parent) : AgreeAbove s s' parent :=
  agree.of_link (.inl ⟨d, found, next⟩)

theorem interface (agree : AgreeAbove s s' name) (found : s.find? name = some d)
    (listed : parent ∈ d.interfaces) : AgreeAbove s s' parent :=
  agree.of_link (.inr ⟨d, found, listed⟩)

theorem decl_eq (agree : AgreeAbove s s' name) : s'.decl name = s.decl name := by
  rw [decl, decl, agree.find?_eq]

theorem chainFrom_eq {met : List String} (agree : AgreeAbove s s' name) :
    s'.chainFrom met name = s.chainFrom met name := by
  fun_induction chainFrom s met name with
  | case1 met name missing => exact chainFrom_of_undeclared (agree.find?_eq.trans missing)
  | case2 met name d found old => exact chainFrom_of_met (agree.find?_eq.trans found) old
  | case3 met name d found new last => exact chainFrom_of_last (agree.find?_eq.trans found) new last
  | case4 met name d found new parent next _ ih =>
    rw [chainFrom_of_link (agree.find?_eq.trans found) new next, ih (agree.superclass found next)]

theorem chain_eq (agree : AgreeAbove s s' name) : s'.chain name = s.chain name := agree.chainFrom_eq

theorem of_mem_chain {chain : List TypeDecl} (agree : AgreeAbove s s' name)
    (isChain : s.SuperChain name chain) (hd : d ∈ chain) : AgreeAbove s s' d.name := by
  have path : s.LeadsTo name d.name :=
    ReflTransGen.mono (fun _ _ => Or.inl) _ _ (isChain.mem_iff.mp hd).1
  exact fun n above => agree n (path.trans above)

end AgreeAbove

theorem interfacesFrom_eq {met next : List String} (agree : ∀ n ∈ next, AgreeAbove s s' n) :
    s'.interfacesFrom met next = s.interfacesFrom met next := by
  fun_induction interfacesFrom s met next with
  | case1 => rw [interfacesFrom]
  | case2 met name later old ih =>
    rw [interfacesFrom_of_met old, ih fun n hn => agree n (List.mem_cons_of_mem _ hn)]
  | case3 met name later new missing =>
    have same := (agree name List.mem_cons_self).find?_eq
    rw [interfacesFrom_of_undeclared new (same.trans missing)]
  | case4 met name later new d found _ ih =>
    have here := agree name List.mem_cons_self
    rw [interfacesFrom_of_new new (here.find?_eq.trans found), ih]
    intro n hn
    rcases List.mem_append.mp hn with hn | hn
    · exact here.interface found hn
    · exact agree n (List.mem_cons_of_mem _ hn)

theorem AgreeAbove.interfacesOfChain_eq {name : String} {chain : List TypeDecl}
    (agree : AgreeAbove s s' name) (isChain : s.SuperChain name chain) :
    s'.interfacesOfChain chain = s.interfacesOfChain chain := by
  apply interfacesFrom_eq
  intro n hn
  obtain ⟨d, hd, listed⟩ := List.mem_flatMap.mp hn
  exact (agree.of_mem_chain isChain hd).interface (isChain.mem_iff.mp hd).2 listed

/-- The target is no declared type, or the stores agree above it. -/
def AgreeFor (s s' : Store) (t : Target) : Prop :=
  t.shape = .classType ∨ t.shape = .interfaceType → AgreeAbove s s' t.name

theorem superLink_of_superclassOf {t parent : Target}
    (next : s.superclassOf t = .ok (some parent)) :
    t.shape = .classType ∧ s.SuperLink t.name parent.name := by
  unfold superclassOf at next
  split at next
  case isFalse => cases next
  case isTrue isClass =>
    refine ⟨isClass, ?_⟩
    obtain ⟨d, found, next⟩ := Outcome.bind_eq_ok_iff.mp next
    cases hsuper : d.superclass with
    | none => simp [hsuper, pure, Except.pure] at next
    | some q =>
      simp only [hsuper] at next
      obtain ⟨e, above, next⟩ := Outcome.bind_eq_ok_iff.mp next
      obtain rfl := Option.some.inj (Except.ok.inj next)
      rw [decl_eq_ok_iff] at found above
      exact ⟨d, found, hsuper.trans (congrArg some (name_of_find? above).symm)⟩

namespace AgreeFor

variable {t parent : Target}

theorem superclass (agree : AgreeFor s s' t) (next : s.superclassOf t = .ok (some parent)) :
    AgreeFor s s' parent := by
  obtain ⟨isClass, link⟩ := superLink_of_superclassOf next
  exact fun _ => (agree (.inl isClass)).of_link (.inl link)

theorem superclassOf_eq (agree : AgreeFor s s' t) : s'.superclassOf t = s.superclassOf t := by
  unfold superclassOf
  split
  case isFalse => rfl
  case isTrue isClass =>
    have above := agree (.inl isClass)
    rw [above.decl_eq]
    cases found : s.decl t.name with
    | error e => rfl
    | ok d =>
      cases next : d.superclass with
      | none => simp [next, bind, Except.bind]
      | some parent =>
        have same := (above.superclass (decl_eq_ok_iff.mp found) next).decl_eq
        simp only [bind, Except.bind, next, same]

theorem ancestorsFrom_eq {met : List String} (agree : AgreeFor s s' t) :
    s'.ancestorsFrom met t = s.ancestorsFrom met t := by
  fun_induction ancestorsFrom s met t with
  | case1 met t e failed => exact ancestorsFrom_of_error (agree.superclassOf_eq.trans failed)
  | case2 met t last => exact ancestorsFrom_of_none (agree.superclassOf_eq.trans last)
  | case3 met t parent next old => exact ancestorsFrom_of_met (agree.superclassOf_eq.trans next) old
  | case4 met t parent next new _ ih =>
    rw [ancestorsFrom_of_new (agree.superclassOf_eq.trans next) new, ih (agree.superclass next)]

theorem of_mem_ancestorsFrom {met : List String} {ts : List Target} (agree : AgreeFor s s' t)
    (ok : s.ancestorsFrom met t = .ok ts) : ∀ u ∈ ts, AgreeFor s s' u := by
  fun_induction ancestorsFrom s met t generalizing ts with
  | case1 | case3 => cases ok
  | case2 met t last =>
    obtain rfl := Except.ok.inj ok
    simpa using agree
  | case4 met t parent next new _ ih =>
    obtain ⟨rest, okRest, rfl⟩ := Outcome.map_eq_ok_iff.mp ok
    simpa using ⟨agree, ih (agree.superclass next) okRest⟩

theorem declaredMethods_eq (agree : AgreeFor s s' t) :
    s'.declaredMethods t = s.declaredMethods t := by
  unfold declaredMethods
  cases h : t.shape with
  | primitive | array => rfl
  | classType => simp only [(agree (.inl h)).decl_eq]
  | interfaceType => simp only [(agree (.inr h)).decl_eq]

theorem declaredBy_eq {ts : List Target} (agree : ∀ t ∈ ts, AgreeFor s s' t) :
    s'.declaredBy ts = s.declaredBy ts := by
  induction ts with
  | nil => rfl
  | cons t rest ih =>
    rw [declaredBy, declaredBy, (agree t List.mem_cons_self).declaredMethods_eq,
      ih fun u hu => agree u (List.mem_cons_of_mem _ hu)]

theorem members_eq (agree : AgreeFor s s' t) : s'.members t = s.members t := by
  by_cases declared : t.shape = .classType ∨ t.shape = .interfaceType
  · have above := agree declared
    rw [Store.members_eq declared, Store.members_eq declared, above.chain_eq]
    cases h : s.chain t.name with
    | error e => rfl
    | ok chain =>
      have same := above.interfacesOfChain_eq (chain_eq_ok_iff.mp h)
      simp only [bind, Except.bind, same]
  · unfold members
    cases h : t.shape with
    | primitive | array => rfl
    | classType | interfaceType => simp [h] at declared

theorem constructors_eq (agree : AgreeFor s s' t) : s'.constructors t = s.constructors t := by
  unfold constructors
  split
  case isFalse => rfl
  case isTrue isClass => rw [(agree (.inl isClass)).decl_eq]

theorem obligations_eq (agree : AgreeFor s s' t) : s'.obligations t = s.obligations t := by
  have same : s'.ancestors t = s.ancestors t := agree.ancestorsFrom_eq
  unfold obligations
  rw [agree.members_eq, same]
  cases h : s.ancestors t with
  | error e => rfl
  | ok ts =>
    have below := declaredBy_eq (agree.of_mem_ancestorsFrom h)
    simp only [bind, Except.bind, below]

theorem plan_eq (agree : AgreeFor s s' t) : s'.plan t = s.plan t := by
  unfold plan surface
  rw [agree.obligations_eq, agree.constructors_eq]

end AgreeFor

theorem resolveRef_eq {ref : TypeRef}
    (agree : ∀ b, ref.innermost = .named b → AgreeAbove s s' b) :
    s'.resolveRef ref = s.resolveRef ref := by
  induction ref with
  | primitive p => rfl
  | array element ih => rw [resolveRef, resolveRef, ih agree]
  | named b => rw [resolveRef, resolveRef, (agree b rfl).decl_eq]

/-- The name of the declaration that the text of a type is about: of the type itself or, for an
array, of its innermost elements. -/
def baseName? (text : String) : Option String :=
  match TypeRef.parse text with
  | .ok ref =>
    match ref.innermost with
    | .named b => some b
    | _ => none
  | .error _ => none

structure SameAnswers (s s' : Store) (text : String) : Prop where
  resolve : s'.resolve text = s.resolve text
  members : ∀ t, s.resolve text = .ok t → s'.members t = s.members t
  ancestors : ∀ t, s.resolve text = .ok t → s'.ancestors t = s.ancestors t
  constructors : ∀ t, s.resolve text = .ok t → s'.constructors t = s.constructors t
  planFor : s'.planFor text = s.planFor text

theorem sameAnswers_of_agree {text : String}
    (agree : ∀ b, baseName? text = some b → AgreeAbove s s' b) : SameAnswers s s' text := by
  have resolve_eq : s'.resolve text = s.resolve text := by
    unfold resolve
    cases parsed : TypeRef.parse text with
    | error fault => rfl
    | ok ref =>
      apply resolveRef_eq
      intro b innermost
      exact agree b (by simp [baseName?, parsed, innermost])
  have agreeFor : ∀ t, s.resolve text = .ok t → AgreeFor s s' t := by
    intro t resolved declared
    obtain ⟨d, parsed, _, rfl⟩ := resolve_declared_iff.mp ⟨resolved, declared⟩
    exact agree d.name (by simp [baseName?, parsed, TypeRef.innermost])
  constructor
  case resolve => exact resolve_eq
  case members => exact fun t resolved => (agreeFor t resolved).members_eq
  case ancestors => exact fun t resolved => (agreeFor t resolved).ancestorsFrom_eq
  case constructors => exact fun t resolved => (agreeFor t resolved).constructors_eq
  case planFor =>
    unfold planFor
    rw [resolve_eq]
    cases resolved : s.resolve text with
    | error e => rfl
    | ok t => exact (agreeFor t resolved).plan_eq

theorem agreeAbove_insert {name : String} {d : TypeDecl} (unrelated : ¬ s.LeadsTo name d.name) :
    AgreeAbove s (s.insert ⟨[d]⟩) name := by
  intro n path
  have other : d.name ≠ n := by
    rintro rfl
    exact unrelated path
  exact (find?_insertDecl s d n).trans (if_neg other)

/-- A declaration changes no answer about a type from which no links lead to its name. -/
theorem insert_sameAnswers (s : Store) (text : String) (d : TypeDecl)
    (unrelated : ∀ b, baseName? text = some b → ¬ s.LeadsTo b d.name) :
    SameAnswers s (s.insert ⟨[d]⟩) text :=
  sameAnswers_of_agree fun b hb => agreeAbove_insert (unrelated b hb)

/-- Links do not leave a list of names that holds the parents of all declarations. -/
theorem LeadsTo.mem_of_parents_mem {names : List String} {name n : String}
    (path : s.LeadsTo name n) (start : name ∈ names)
    (closed : ∀ d ∈ s.decls, ∀ p ∈ d.superclass.toList ++ d.interfaces, p ∈ names) : n ∈ names := by
  induction path with
  | refl => exact start
  | tail _ link ih =>
    rcases link with ⟨d, found, next⟩ | ⟨d, found, listed⟩
    · exact closed d (List.mem_of_find?_eq_some found) _ (by simp [next])
    · exact closed d (List.mem_of_find?_eq_some found) _ (by simp [listed])

/-- A class whose superclass has an interface that is not declared. -/
def orchardStore : Store := empty.insert ⟨[
  { name := "a.Oak", superclass := some "a.Tree" },
  { name := "a.Tree", interfaces := ["a.Leafy"] },
  { name := "java.lang.Object" }]⟩

def stone : TypeDecl := { name := "b.Stone" }

theorem orchardStore_sameAnswers :
    (∀ b, baseName? "a.Oak" = some b → ¬ orchardStore.LeadsTo b stone.name) ∧
    SameAnswers orchardStore (orchardStore.insert ⟨[stone]⟩) "a.Oak" := by
  have unrelated : ∀ b, baseName? "a.Oak" = some b → ¬ orchardStore.LeadsTo b stone.name := by
    intro b hb path
    have base : baseName? "a.Oak" = some "a.Oak" := by cbv
    obtain rfl := Option.some.inj (base.symm.trans hb)
    have inside : stone.name ∈ ["a.Oak", "a.Tree", "a.Leafy", "java.lang.Object"] :=
      path.mem_of_parents_mem List.mem_cons_self (by decide)
    simp [stone] at inside
  exact ⟨unrelated, insert_sameAnswers orchardStore "a.Oak" stone unrelated⟩

end Store
end JavaStubs
