import JavaStubs.Proofs.Stub.Obligations
import JavaStubs.Proofs.Stub.PlanPaths
import JavaStubs.Proofs.Stub.SourceText
import JavaStubs.Proofs.Types.SourceNames
import Mathlib.Data.List.Forall2
import Mathlib.Data.List.Nodup

/-!
# Methods that look alike

Members are told apart by the binary names of their parameter types, and source text writes a dot
for every dollar sign of them. So two members can have one head in the source: exactly if their
names are equal and their parameter types differ in no more than that one has a dot where the other
has a dollar sign.
-/

namespace JavaStubs

open Text

namespace TypeRef

variable {t u : TypeRef}

/-- A character that stands between two names. -/
def IsSeparator (c : Char) : Prop := c = '.' ∨ c = '$'

/-- The binary names differ at most in which separators they have. -/
def LooksLike (t u : TypeRef) : Prop :=
  List.Forall₂ (fun c d => c = d ∨ IsSeparator c ∧ IsSeparator d) t.binaryName.toList
    u.binaryName.toList

theorem toList_sourceName (t : TypeRef) :
    t.sourceName.toList = replace '$' '.' t.binaryName.toList := by
  induction t with
  | primitive p => cases p <;> decide
  | array element ih => simpa [sourceName, binaryName, replace] using ih
  | named name => exact toList_dotted name

theorem replaced_eq_iff {c d : Char} :
    (if c = '$' then '.' else c) = (if d = '$' then '.' else d) ↔
      c = d ∨ IsSeparator c ∧ IsSeparator d := by
  unfold IsSeparator
  grind

theorem sourceName_eq_iff : t.sourceName = u.sourceName ↔ t.LooksLike u := by
  rw [← String.toList_inj, toList_sourceName, toList_sourceName, replace, replace,
    ← List.forall₂_eq_eq_eq, List.forall₂_map_left_iff, List.forall₂_map_right_iff, LooksLike]
  simp only [replaced_eq_iff]

end TypeRef

namespace Signature

variable {k k' : Signature}

/-- The names are equal, and the parameter types look alike position by position. -/
structure LooksLike (k k' : Signature) : Prop where
  name : k.name = k'.name
  params : List.Forall₂ TypeRef.LooksLike k.params k'.params

/-- The name, and the parameter types as source text writes them. -/
def written (k : Signature) : String × List String := (k.name, k.params.map TypeRef.sourceName)

theorem written_eq_iff : k.written = k'.written ↔ k.LooksLike k' := by
  have types : k.params.map TypeRef.sourceName = k'.params.map TypeRef.sourceName ↔
      List.Forall₂ TypeRef.LooksLike k.params k'.params := by
    rw [← List.forall₂_eq_eq_eq, List.forall₂_map_left_iff, List.forall₂_map_right_iff]
    simp only [TypeRef.sourceName_eq_iff]
  rw [written, written, Prod.mk.injEq, types]
  exact ⟨fun ⟨name, params⟩ => ⟨name, params⟩, fun ⟨name, params⟩ => ⟨name, params⟩⟩

end Signature

/-- What tells a method of generated source from others: its name and its parameters' types. -/
def Source.MethodOutline.header (m : Source.MethodOutline) : String × List String :=
  (m.name, m.params.map Source.Parameter.type)

theorem Source.header_methodOutline (m : MemberObligation) :
    (Source.methodOutline m).header = m.signature.written := by
  rw [Source.MethodOutline.header, Source.methodOutline, Source.map_type_parametersOf]
  rfl

theorem Plan.map_header_methods (p : Plan) :
    p.outline.methods.map Source.MethodOutline.header =
      p.members.signatures.map Signature.written := by
  simp only [Plan.outline, ObligationSet.signatures, List.map_map]
  exact List.map_congr_left fun m _ => Source.header_methodOutline m

theorem ObligationSet.nodup_map_written_iff (set : ObligationSet) :
    (set.signatures.map Signature.written).Nodup ↔
      ∀ k k', set.contains k → set.contains k' → k.LooksLike k' → k = k' := by
  have distinct : set.signatures.Nodup := set.distinct
  rw [List.nodup_map_iff_inj_on distinct]
  simp only [ObligationSet.contains, decide_eq_true_eq, Signature.written_eq_iff]
  exact ⟨fun same k k' hk hk' => same k hk k' hk', fun same k hk k' hk' => same k k' hk hk'⟩

namespace Store

variable {s : Store} {name : String} {p : Plan}

theorem obligations_of_planFor (planned : s.planFor name = .ok p) :
    s.obligations p.target = .ok p.members := by
  obtain ⟨t, _, planned⟩ := Outcome.bind_eq_ok_iff.mp planned
  obtain ⟨surface, collected, planned⟩ := Outcome.bind_eq_ok_iff.mp planned
  obtain ⟨_, _, planned⟩ := Outcome.bind_eq_ok_iff.mp planned
  obtain rfl := Except.ok.inj planned
  obtain ⟨_, _, collected⟩ := Outcome.bind_eq_ok_iff.mp collected
  obtain ⟨members, owed, collected⟩ := Outcome.bind_eq_ok_iff.mp collected
  obtain ⟨_, _, collected⟩ := Outcome.bind_eq_ok_iff.mp collected
  obtain rfl := Except.ok.inj collected
  exact owed

/-- A type with the superclass chain `chain` owes a method with signature `k`: the first one that is
met in its place has no body, or some declaration on the chain is abstract. -/
def Owes (s : Store) (chain : List TypeDecl) (k : Signature) : Prop :=
  (∃ m, s.firstMet chain k = some m ∧ m.isAbstract) ∨ ∃ c ∈ chain, c.DeclaresAbstract k

/-- The methods of generated source have pairwise different heads exactly if no two signatures that
the target owes look alike. -/
theorem headers_nodup_iff (built : s.OfCatalogs) (planned : s.planFor name = .ok p) :
    ∃ chain, s.SuperChain p.target.name chain ∧
      ((p.outline.methods.map Source.MethodOutline.header).Nodup ↔
        ∀ k k', s.Owes chain k → s.Owes chain k' → k.LooksLike k' → k = k') := by
  obtain ⟨resolved, accepted, _⟩ := planFor_eq_ok planned
  obtain ⟨chain, _, isChain, _, owed⟩ := contains_obligations_iff built resolved
    (Target.declared_of_rejection?_eq_none accepted) (obligations_of_planFor planned)
  refine ⟨chain, isChain, ?_⟩
  rw [p.map_header_methods, ObligationSet.nodup_map_written_iff]
  simp only [owed, Owes]

/-- Two interfaces with a method each, whose parameter types look alike, and one extending both. -/
def inbox : TypeDecl :=
  { name := "a.Inbox", kind := .interfaceType,
    methods := [{ name := "put", params := [.named "a.Box$Lid"] }] }

def outbox : TypeDecl :=
  { name := "a.Outbox", kind := .interfaceType,
    methods := [{ name := "put", params := [.named "a.Box.Lid"] }] }

def mailbox : TypeDecl :=
  { name := "a.Mailbox", kind := .interfaceType, interfaces := ["a.Inbox", "a.Outbox"] }

def mailboxStore : Store := empty.insert ⟨[inbox, outbox, mailbox]⟩

def mailboxPlan : Plan :=
  { target := mailbox.normalize.target, generatedName := "MailboxImpl", constructors := [],
    members := .ofList [
      ⟨"put", [.named "a.Box$Lid"], .void, [], .ofList [.publicAccess, .abstract]⟩,
      ⟨"put", [.named "a.Box.Lid"], .void, [], .ofList [.publicAccess, .abstract]⟩] }

theorem obligations_mailboxStore :
    mailboxStore.obligations mailbox.normalize.target = .ok mailboxPlan.members := by
  have found : mailboxStore.find? mailbox.normalize.name = some mailbox.normalize := rfl
  have walk : mailboxStore.interfacesOfChain [mailbox.normalize] =
      .ok [inbox.normalize, outbox.normalize] := by cbv
  refine (obligations_eq_ok_iff (.insert _ .empty) found).mpr
    ⟨[mailbox.normalize], _, .top rfl rfl, walk, ?_⟩
  rfl

theorem planFor_mailboxStore : mailboxStore.planFor "a.Mailbox" = .ok mailboxPlan := by
  have resolved : mailboxStore.resolve "a.Mailbox" = .ok mailbox.normalize.target := rfl
  rw [planFor, resolved]
  simp only [plan, surface, bind, Except.bind, obligations_mailboxStore]
  rfl

theorem mailboxStore_headers :
    mailboxStore.OfCatalogs ∧ mailboxStore.planFor "a.Mailbox" = .ok mailboxPlan ∧
    ∃ chain, mailboxStore.SuperChain mailboxPlan.target.name chain ∧
      ((mailboxPlan.outline.methods.map Source.MethodOutline.header).Nodup ↔
        ∀ k k', mailboxStore.Owes chain k → mailboxStore.Owes chain k' → k.LooksLike k' → k = k') :=
  ⟨.insert _ .empty, planFor_mailboxStore,
    headers_nodup_iff (.insert _ .empty) planFor_mailboxStore⟩

/-- The source of a class that owes both methods has two methods with one head. -/
theorem header_written_twice :
    ¬ ∀ (s : Store) (name : String) (p : Plan), s.OfCatalogs → s.planFor name = .ok p →
      (p.outline.methods.map Source.MethodOutline.header).Nodup := by
  intro claim
  have distinct :=
    claim mailboxStore "a.Mailbox" mailboxPlan (.insert _ .empty) planFor_mailboxStore
  revert distinct
  decide +kernel

end Store
end JavaStubs
