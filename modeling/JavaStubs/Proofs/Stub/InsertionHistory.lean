import JavaStubs.Proofs.Stub.Obligations
import Mathlib.Data.Finset.Card
import Mathlib.Data.List.Induction

/-!
# Histories of a set of obligations

A set of obligations is filled by insertions, of single obligations and of lists. Whatever their
order, the set holds the first copy of each signature, in the order in which these were offered. The
same holds of a set in two parts, the members and an index of their signatures which alone decides
what is new: after every history the index has the signatures of the members and no others.
-/

namespace JavaStubs

inductive Update
  | insert (m : MemberObligation)
  | extend (ms : List MemberObligation)

namespace Update

def offered : Update → List MemberObligation
  | insert m => [m]
  | extend ms => ms

def offeredBy (history : List Update) : List MemberObligation := history.flatMap offered

theorem offeredBy_append (before after : List Update) :
    offeredBy (before ++ after) = offeredBy before ++ offeredBy after := List.flatMap_append

theorem offeredBy_map_insert (ms : List MemberObligation) : offeredBy (ms.map insert) = ms := by
  simp [offeredBy, offered, List.flatMap_map]

/-- Where an update adds what it offers one by one, so does a history: how it is cut into updates
makes no difference. -/
theorem foldl_eq_foldl_offeredBy {σ : Type} {apply : σ → Update → σ}
    {add : σ → MemberObligation → σ}
    (adds : ∀ s u, apply s u = u.offered.foldl add s) (s : σ) (history : List Update) :
    history.foldl apply s = (offeredBy history).foldl add s := by
  have step : apply = fun s u => u.offered.foldl add s := by
    funext s u
    exact adds s u
  rw [step, offeredBy, List.foldl_flatMap]

end Update

namespace MemberObligation

variable {m : MemberObligation} {ms : List MemberObligation} {k : Signature}

/-- What tells obligations apart: the name and the parameter types. -/
def key (m : MemberObligation) : String × List TypeRef := (m.name, m.params)

theorem mem_map_signature_iff : k ∈ ms.map signature ↔ (k.name, k.params) ∈ ms.map key := by
  obtain ⟨name, params⟩ := k
  simp only [List.mem_map, signature, key, Signature.mk.injEq, Prod.mk.injEq]

theorem nodup_map_key (distinct : (ms.map signature).Nodup) : (ms.map key).Nodup := by
  have keys : ms.map key = (ms.map signature).map fun k => (k.name, k.params) := by
    rw [List.map_map]
    rfl
  rw [keys]
  apply distinct.map
  rintro ⟨name, params⟩ ⟨name', params'⟩ same
  rwa [Signature.mk.injEq, ← Prod.mk.injEq]

end MemberObligation

/-- The obligations whose key none before them in the list has. -/
def firstCopies (ms : List MemberObligation) : List MemberObligation :=
  (ms.zipIdx.filter fun p =>
    p.1.key ∉ (ms.take p.2).map MemberObligation.key).map Prod.fst

/-- An obligation at the end is a first copy if its key is new; which of the others are first copies
does not depend on it. -/
theorem firstCopies_append_singleton (ms : List MemberObligation) (m : MemberObligation) :
    firstCopies (ms ++ [m]) =
      if m.key ∈ ms.map MemberObligation.key then firstCopies ms else firstCopies ms ++ [m] := by
  have earlier : ms.zipIdx.filter (fun p =>
        p.1.key ∉ ((ms ++ [m]).take p.2).map MemberObligation.key) =
      ms.zipIdx.filter fun p => p.1.key ∉ (ms.take p.2).map MemberObligation.key := by
    -- No place before the end looks as far as the new obligation.
    apply List.filter_congr
    intro p mem
    have inside : p.2 < ms.length := by simpa using List.snd_lt_add_of_mem_zipIdx mem
    rw [List.take_append_of_le_length inside.le]
  rw [firstCopies, List.zipIdx_append, List.filter_append, List.map_append, earlier, ← firstCopies]
  split
  case isTrue met => simp [met]
  case isFalse new => simp [new]

namespace ObligationSet

variable {s : ObligationSet} {m : MemberObligation} {ms : List MemberObligation} {k : Signature}

def apply (s : ObligationSet) : Update → ObligationSet
  | .insert m => (s.insert m).2
  | .extend ms => s.extend ms

def run (history : List Update) : ObligationSet := history.foldl apply empty

theorem run_eq_ofList (history : List Update) :
    run history = ofList (Update.offeredBy history) := by
  apply Update.foldl_eq_foldl_offeredBy
  intro s u
  cases u <;> rfl

theorem run_append_map_insert (history : List Update) (ms : List MemberObligation) :
    run (history ++ ms.map .insert) = (run history).extend ms := by
  rw [run_eq_ofList, run_eq_ofList, Update.offeredBy_append, Update.offeredBy_map_insert]
  exact extend_append empty _ ms

theorem contains_iff_mem_signatures : s.contains k ↔ k ∈ s.signatures := decide_eq_true_iff

theorem mem_signatures_ofList :
    k ∈ (ofList ms).signatures ↔ (k.name, k.params) ∈ ms.map MemberObligation.key := by
  rw [← contains_iff_mem_signatures, contains_ofList, ← List.mem_map,
    MemberObligation.mem_map_signature_iff]

theorem toList_insert :
    (s.insert m).2.toList = if s.contains m.signature then s.toList else s.toList ++ [m] := by
  simp only [contains_iff_mem_signatures]
  unfold insert
  split <;> rfl

/-- Of a list the first copies are kept. The induction takes the list from its end, which is where
an insertion happens. -/
theorem toList_ofList (ms : List MemberObligation) : (ofList ms).toList = firstCopies ms := by
  induction ms using List.reverseRecOn with
  | nil => rfl
  | append_singleton ms m ih =>
    have last : ofList (ms ++ [m]) = ((ofList ms).insert m).2 := extend_append empty ms [m]
    have present : (ofList ms).contains m.signature ↔ m.key ∈ ms.map MemberObligation.key :=
      contains_iff_mem_signatures.trans mem_signatures_ofList
    rw [last, toList_insert, firstCopies_append_singleton, ih]
    exact if_congr present rfl rfl

example : (ofList [⟨"get", [], .named "a.Key", [], .none⟩, ⟨"put", [], .void, [], .none⟩,
      ⟨"get", [], .named "a.Value", [], .none⟩]).toList =
    [⟨"get", [], .named "a.Key", [], .none⟩, ⟨"put", [], .void, [], .none⟩] := by decide

theorem size_ofList (ms : List MemberObligation) :
    (ofList ms).size = (ms.map MemberObligation.key).toFinset.card := by
  have same : (ms.map MemberObligation.key).toFinset =
      ((ofList ms).toList.map MemberObligation.key).toFinset := by
    ext ⟨name, params⟩
    rw [List.mem_toFinset, List.mem_toFinset, ← mem_signatures_ofList (k := ⟨name, params⟩),
      signatures, MemberObligation.mem_map_signature_iff]
  have distinct : ((ofList ms).toList.map MemberObligation.key).Nodup :=
    MemberObligation.nodup_map_key (ofList ms).distinct
  rw [same, List.toFinset_card_of_nodup distinct, List.length_map, size]

end ObligationSet

section Indexed

variable [Hashable Signature]

/-- A set of obligations in two parts, with any hash function for the index. That the index has the
signatures of the members is not part of the structure. -/
structure IndexedObligations where
  index : Std.HashSet Signature
  members : Array MemberObligation

namespace IndexedObligations

def empty : IndexedObligations := ⟨∅, #[]⟩

def contains (s : IndexedObligations) (k : Signature) : Bool := s.index.contains k

def size (s : IndexedObligations) : Nat := s.members.size

/-- Adds an obligation at the end if its signature is new to the index; the flag tells whether it
was. -/
def insert (s : IndexedObligations) (m : MemberObligation) : Bool × IndexedObligations :=
  let (present, index) := s.index.containsThenInsert m.signature
  if present then (false, { s with index }) else (true, ⟨index, s.members.push m⟩)

def extend (s : IndexedObligations) (ms : List MemberObligation) : IndexedObligations :=
  ms.foldl (fun s m => (s.insert m).2) s

def apply (s : IndexedObligations) : Update → IndexedObligations
  | .insert m => (s.insert m).2
  | .extend ms => s.extend ms

def run (history : List Update) : IndexedObligations := history.foldl apply empty

variable {s : IndexedObligations} {m : MemberObligation} {k : Signature}

theorem run_eq_extend (history : List Update) :
    run history = empty.extend (Update.offeredBy history) := by
  apply Update.foldl_eq_foldl_offeredBy
  intro s u
  cases u <;> rfl

theorem run_append_map_insert (history : List Update) (ms : List MemberObligation) :
    run (history ++ ms.map .insert) = (run history).extend ms := by
  rw [run_eq_extend, run_eq_extend, Update.offeredBy_append, Update.offeredBy_map_insert]
  exact List.foldl_append

theorem insert_eq (s : IndexedObligations) (m : MemberObligation) :
    s.insert m =
      if s.contains m.signature then (false, { s with index := s.index.insert m.signature })
      else (true, ⟨s.index.insert m.signature, s.members.push m⟩) := by
  have asked : s.index.containsThenInsert m.signature =
      (s.contains m.signature, s.index.insert m.signature) :=
    Prod.ext Std.HashSet.containsThenInsert_fst Std.HashSet.containsThenInsert_snd
  rw [insert, asked]

theorem insert_fst (s : IndexedObligations) (m : MemberObligation) :
    (s.insert m).1 = !s.contains m.signature := by
  rw [insert_eq]
  cases s.contains m.signature <;> rfl

theorem mem_index_insert : k ∈ (s.insert m).2.index ↔ k ∈ s.index ∨ m.signature = k := by
  have index : (s.insert m).2.index = s.index.insert m.signature := by
    rw [insert_eq]
    split <;> rfl
  rw [index, Std.HashSet.mem_insert, beq_iff_eq, or_comm]

theorem toList_members_insert : (s.insert m).2.members.toList =
    if s.contains m.signature then s.members.toList else s.members.toList ++ [m] := by
  rw [insert_eq]
  split
  · rfl
  · exact Array.toList_push

/-- The two parts stand for a set: the index tells what the set contains, the members are those of
the set. -/
structure Represents (s : IndexedObligations) (set : ObligationSet) : Prop where
  mem_index_iff : ∀ k, k ∈ s.index ↔ set.contains k
  toList_members : s.members.toList = set.toList

variable {set : ObligationSet}

theorem represents_empty : empty.Represents .empty := by
  constructor
  · intro k
    exact iff_of_false Std.HashSet.not_mem_empty ObligationSet.contains_empty
  · rfl

theorem Represents.contains_eq (represents : s.Represents set) (k : Signature) :
    s.contains k = set.contains k := by
  rw [Bool.eq_iff_iff, ← represents.mem_index_iff, contains, Std.HashSet.mem_iff_contains]

theorem Represents.insert_fst (represents : s.Represents set) (m : MemberObligation) :
    (s.insert m).1 = (set.insert m).1 := by
  rw [IndexedObligations.insert_fst, ObligationSet.insert_fst, represents.contains_eq]

theorem Represents.size_eq (represents : s.Represents set) : s.size = set.size := by
  rw [size, ← Array.length_toList, represents.toList_members, ObligationSet.size]

theorem Represents.insert (represents : s.Represents set) (m : MemberObligation) :
    (s.insert m).2.Represents (set.insert m).2 := by
  constructor
  · intro k
    rw [mem_index_insert, ObligationSet.contains_insert, represents.mem_index_iff]
  · rw [toList_members_insert, ObligationSet.toList_insert, represents.contains_eq,
      represents.toList_members]

theorem Represents.extend (represents : s.Represents set) (ms : List MemberObligation) :
    (s.extend ms).Represents (set.extend ms) := by
  induction ms generalizing s set with
  | nil => exact represents
  | cons m rest ih => exact ih (represents.insert m)

theorem represents_run (history : List Update) :
    (run history).Represents (ObligationSet.run history) := by
  rw [run_eq_extend, ObligationSet.run_eq_ofList]
  exact represents_empty.extend _

/-- What holds of the set in two parts and of the set that keeps its members alone, once a history
has been carried out on both. -/
structure KeepsFirstCopies (history : List Update) (s : IndexedObligations)
    (set : ObligationSet) : Prop where
  mem_index_iff : ∀ name params, ⟨name, params⟩ ∈ s.index ↔
    (name, params) ∈ s.members.toList.map MemberObligation.key
  nodup_keys : (s.members.toList.map MemberObligation.key).Nodup
  /-- The members are the first copies of what was offered. -/
  members_eq : s.members.toList = firstCopies (Update.offeredBy history)
  /-- An insertion tells whether the key was absent. -/
  insert_iff : ∀ m, (s.insert m).1 = true ↔ s.contains ⟨m.name, m.params⟩ = false
  /-- The size counts the different keys offered. -/
  size_eq : s.size = ((Update.offeredBy history).map MemberObligation.key).toFinset.card
  extend_eq : ∀ ms, s.extend ms = run (history ++ ms.map .insert)
  /-- How what was offered is cut into updates makes no difference. -/
  run_eq : ∀ other, Update.offeredBy other = Update.offeredBy history → run other = s
  set_toList : set.toList = s.members.toList
  set_size : set.size = s.size
  set_contains : ∀ k, set.contains k = s.contains k
  set_insert : ∀ m, (set.insert m).1 = (s.insert m).1
  set_extend : ∀ ms, set.extend ms = ObligationSet.run (history ++ ms.map .insert)
  set_run : ∀ other, Update.offeredBy other = Update.offeredBy history →
    ObligationSet.run other = set

/-- After every history both sets hold the first copies of what was offered, and the index of the
one has the keys of its members. -/
theorem run_keepsFirstCopies (history : List Update) :
    (run history).KeepsFirstCopies history (ObligationSet.run history) := by
  have represents : (run history).Represents (ObligationSet.run history) := represents_run history
  constructor
  case mem_index_iff =>
    intro name params
    rw [represents.mem_index_iff, ObligationSet.contains_iff_mem_signatures,
      represents.toList_members, ObligationSet.signatures, MemberObligation.mem_map_signature_iff]
  case nodup_keys =>
    rw [represents.toList_members]
    exact MemberObligation.nodup_map_key (ObligationSet.run history).distinct
  case members_eq =>
    rw [represents.toList_members, ← ObligationSet.toList_ofList, ← ObligationSet.run_eq_ofList]
  case insert_iff =>
    intro m
    rw [insert_fst, Bool.not_eq_true', MemberObligation.signature]
  case size_eq =>
    rw [represents.size_eq, ← ObligationSet.size_ofList, ← ObligationSet.run_eq_ofList]
  case extend_eq =>
    intro ms
    exact (run_append_map_insert history ms).symm
  case run_eq =>
    intro other same
    rw [run_eq_extend, same, ← run_eq_extend]
  case set_toList => exact represents.toList_members.symm
  case set_size => exact represents.size_eq.symm
  case set_contains =>
    intro k
    exact (represents.contains_eq k).symm
  case set_insert =>
    intro m
    exact (represents.insert_fst m).symm
  case set_extend =>
    intro ms
    exact (ObligationSet.run_append_map_insert history ms).symm
  case set_run =>
    intro other same
    rw [ObligationSet.run_eq_ofList, same, ← ObligationSet.run_eq_ofList]

end IndexedObligations
end Indexed
end JavaStubs
