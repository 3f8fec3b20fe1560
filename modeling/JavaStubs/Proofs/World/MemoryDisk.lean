import JavaStubs.Proofs.Path.Components
import JavaStubs.World.Memory

/-!
# The disk in memory

What is read from a disk after an operation, and which directories it has. An operation on a file
changes what is read under the paths with the components of that file and nothing else, and
directories are no files.
-/

namespace JavaStubs

namespace Path

@[simp] theorem same_self (p : Path) : p.same p := by
  simp [same]

end Path

namespace MemoryDisk

variable {d : MemoryDisk} {p q : Path} {bytes : List UInt8}

theorem not_hasFile_iff : ¬ d.hasFile p ↔ d.read? p = none := by
  simp [hasFile]

theorem read?_congr (h : p.same q) : d.read? p = d.read? q := by
  simp only [Path.same, decide_eq_true_eq] at h
  simp only [read?, Path.same, h]

theorem read?_overwrite (files : List (Path × List UInt8)) (dirs : List Path) :
    (MemoryDisk.mk (files.map fun f => if f.1.same p then (f.1, bytes) else f) dirs).read? q =
      ((MemoryDisk.mk files dirs).read? q).map fun old => if p.same q then bytes else old := by
  have key : ∀ f : Path × List UInt8, (if f.1.same p then (f.1, bytes) else f).1 = f.1 :=
    fun f => by split <;> rfl
  simp only [read?, List.find?_map, Function.comp_def, key]
  cases found : files.find? fun f => f.1.same q with
  | none => rfl
  | some f =>
    have hf : f.1.same q := by simpa using List.find?_some found
    have same : f.1.same p = p.same q := by
      simp only [Path.same, decide_eq_true_eq] at hf
      simp only [Path.same, hf, eq_comm]
    simp only [Option.map_some, same, apply_ite Prod.snd]

theorem read?_put_self : (d.put p bytes).read? p = some bytes := by
  unfold put
  split
  case isTrue there =>
    obtain ⟨old, found⟩ := Option.isSome_iff_exists.mp there
    rw [read?_overwrite, found]
    simp
  case isFalse missing =>
    have absent : (d.files.find? fun f => f.1.same p) = none := by
      simpa [hasFile, read?] using missing
    simp [read?, List.find?_append, absent]

theorem read?_put_of_not_same (h : ¬ p.same q) : (d.put p bytes).read? q = d.read? q := by
  unfold put
  split
  case isTrue => simp [read?_overwrite, h]
  case isFalse => simp [read?, List.find?_append, h]

theorem read?_removeFile_self : (d.removeFile p).read? p = none := by
  simp [removeFile, read?]

/-- Taking files off the disk does not change what is read under a path whose components are those
of no file that goes. -/
theorem read?_filter (files : List (Path × List UInt8)) (dirs dirs' : List Path)
    {keep : Path × List UInt8 → Bool} (stays : ∀ f, f.1.same q → keep f) :
    (MemoryDisk.mk (files.filter keep) dirs).read? q = (MemoryDisk.mk files dirs').read? q := by
  simp only [read?, List.find?_filter]
  congr 2
  funext f
  by_cases hf : f.1.same q
  · simp [hf, stays f hf]
  · simp [hf]

theorem read?_removeFile_of_not_same (h : ¬ p.same q) :
    (d.removeFile p).read? q = d.read? q := by
  apply read?_filter
  intro f hf
  simp only [Path.same, decide_eq_true_eq, Bool.not_eq_eq_eq_not, Bool.not_true,
    decide_eq_false_iff_not] at hf h ⊢
  intro same
  exact h (same.symm.trans hf)

theorem read?_removeUnder (h : ¬ q.isUnder p) : (d.removeUnder p).read? q = d.read? q := by
  apply read?_filter
  intro f hf
  simp only [Path.same, decide_eq_true_eq] at hf
  rw [Bool.not_eq_true']
  rw [Bool.not_eq_true] at h
  simpa only [Path.isUnder, hf] using h

theorem read?_removeUnder_of_isUnder (h : q.isUnder p) : (d.removeUnder p).read? q = none := by
  rw [read?, Option.map_eq_none_iff, List.find?_eq_none]
  intro f hf same
  obtain ⟨_, kept⟩ := List.mem_filter.mp hf
  rw [(Path.isUnder_congr same).mpr h] at kept
  cases kept

theorem read?_addDir : (d.addDir p).read? q = d.read? q := by
  unfold addDir
  split <;> rfl

theorem read?_addDirs : (d.addDirs p).read? q = d.read? q := by
  unfold addDirs
  induction p.withAncestors generalizing d with
  | nil => rfl
  | cons dir rest ih => rw [List.foldl_cons, ih, read?_addDir]

section Directories

theorem dirs_put : (d.put p bytes).dirs = d.dirs := by
  unfold put
  split <;> rfl

theorem hasDir_addDir : (d.addDir p).hasDir q ↔ d.hasDir q ∨ p.same q := by
  unfold addDir
  split
  case isTrue there =>
    constructor
    · exact .inl
    · rintro (old | same)
      · exact old
      · simp only [hasDir, List.any_eq_true, Path.same_iff] at there same ⊢
        obtain ⟨r, hr, there⟩ := there
        exact ⟨r, hr, there.trans same⟩
  case isFalse => simp [hasDir]

theorem hasDir_addDirs :
    (d.addDirs p).hasDir q ↔ d.hasDir q ∨ ∃ r ∈ p.withAncestors, r.same q := by
  unfold addDirs
  induction p.withAncestors generalizing d with
  | nil => simp
  | cons r rest ih => rw [List.foldl_cons, ih, hasDir_addDir, or_assoc, List.exists_mem_cons_iff]

theorem hasDir_removeUnder : (d.removeUnder p).hasDir q ↔ d.hasDir q ∧ ¬ q.isUnder p := by
  simp only [removeUnder, hasDir, List.any_filter, List.any_eq_true, Bool.and_eq_true,
    Bool.not_eq_true']
  constructor
  · rintro ⟨r, hr, out, same⟩
    refine ⟨⟨r, hr, same⟩, ?_⟩
    rw [← Path.isUnder_congr same, out]
    simp
  · rintro ⟨⟨r, hr, same⟩, out⟩
    refine ⟨r, hr, ?_, same⟩
    rw [← Path.isUnder_congr same] at out
    simpa using out

end Directories

end MemoryDisk
end JavaStubs
