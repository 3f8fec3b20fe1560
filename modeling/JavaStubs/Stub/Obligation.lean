import JavaStubs.Catalog.Members

/-!
# Obligations

An obligation is a method or a constructor that a generated class has to supply. Methods with one
signature are one obligation, whatever their results; of several copies the first is kept.
-/

namespace JavaStubs

/-- An abstract method that the generated class implements. -/
structure MemberObligation where
  name : String
  params : List TypeRef
  returns : TypeRef
  throws : List TypeRef
  modifiers : Modifiers
  deriving DecidableEq, Repr

namespace MemberObligation

def signature (m : MemberObligation) : Signature := ⟨m.name, m.params⟩

def ofMethod (m : MethodDecl) : MemberObligation :=
  ⟨m.name, m.params, m.returns, m.throws, m.modifiers⟩

end MemberObligation

/-- A constructor of the superclass that a constructor of the generated class calls. -/
structure ConstructorObligation where
  params : List TypeRef
  throws : List TypeRef
  modifiers : Modifiers
  deriving DecidableEq, Repr

def ConstructorObligation.ofDecl (c : ConstructorDecl) : ConstructorObligation :=
  ⟨c.params, c.throws, c.modifiers⟩

/-- Obligations in the order of their insertion, with pairwise different signatures. -/
structure ObligationSet where
  toList : List MemberObligation
  distinct : (toList.map MemberObligation.signature).Nodup

namespace ObligationSet

def empty : ObligationSet := ⟨[], List.nodup_nil⟩

def signatures (s : ObligationSet) : List Signature := s.toList.map MemberObligation.signature

def contains (s : ObligationSet) (k : Signature) : Bool := k ∈ s.signatures

def size (s : ObligationSet) : Nat := s.toList.length

def isEmpty (s : ObligationSet) : Bool := s.toList.isEmpty

/-- Adds an obligation at the end unless its signature is present; the flag tells whether it was
added. -/
def insert (s : ObligationSet) (m : MemberObligation) : Bool × ObligationSet :=
  if present : m.signature ∈ s.signatures then (false, s)
  else (true, ⟨s.toList ++ [m], by
    have := s.distinct
    simp only [signatures] at present
    simp only [List.map_append, List.map_cons, List.map_nil]
    rw [List.nodup_append]
    refine ⟨this, by simp, ?_⟩
    intro a ha b hb
    rw [List.mem_singleton] at hb
    subst hb
    exact fun e => present (e ▸ ha)⟩)

def extend (s : ObligationSet) (ms : List MemberObligation) : ObligationSet :=
  ms.foldl (fun s m => (s.insert m).2) s

def ofList (ms : List MemberObligation) : ObligationSet := empty.extend ms

theorem extend_append (s : ObligationSet) (ms ns : List MemberObligation) :
    s.extend (ms ++ ns) = (s.extend ms).extend ns := by
  simp [extend]

theorem insert_fst (s : ObligationSet) (m : MemberObligation) :
    (s.insert m).1 = !s.contains m.signature := by
  unfold insert contains; split <;> simp_all

end ObligationSet
end JavaStubs
