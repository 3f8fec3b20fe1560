import JavaStubs.Proofs.World.MemoryFrames

/-!
# Disks that agree below a directory

A request that asks only for what lies below a directory cannot tell apart two disks that agree
there, and they still agree afterwards. A request that touches nothing below the directory can be
made on one of them alone.
-/

namespace JavaStubs

open JavaStubs.Path

namespace MemoryDisk

/-- Two disks have the same files and the same directories below `root`. -/
structure AgreeUnder (root : Path) (d e : MemoryDisk) : Prop where
  files : ∀ f, f.isUnder root → d.read? f = e.read? f
  dirs : ∀ f, f.isUnder root → (d.hasDir f ↔ e.hasDir f)

namespace AgreeUnder

variable {root p : Path} {d e : MemoryDisk}

theorem refl (root : Path) (d : MemoryDisk) : AgreeUnder root d d :=
  ⟨fun _ _ => rfl, fun _ _ => Iff.rfl⟩

theorem hasFile_eq (agree : AgreeUnder root d e) (h : p.isUnder root) :
    d.hasFile p = e.hasFile p := by
  rw [hasFile, hasFile, agree.files p h]

theorem put (agree : AgreeUnder root d e) (p : Path) (bytes : List UInt8) :
    AgreeUnder root (d.put p bytes) (e.put p bytes) := by
  constructor
  case files =>
    intro f below
    by_cases same : p.same f
    · rw [← read?_congr same, ← read?_congr same, read?_put_self, read?_put_self]
    · rw [read?_put_of_not_same same, read?_put_of_not_same same]
      exact agree.files f below
  case dirs =>
    intro f below
    simp only [hasDir, dirs_put]
    exact agree.dirs f below

theorem addDirs (agree : AgreeUnder root d e) (p : Path) :
    AgreeUnder root (d.addDirs p) (e.addDirs p) := by
  constructor
  case files =>
    intro f below
    rw [read?_addDirs, read?_addDirs]
    exact agree.files f below
  case dirs =>
    intro f below
    rw [hasDir_addDirs, hasDir_addDirs, agree.dirs f below]

theorem removeFile (agree : AgreeUnder root d e) (p : Path) :
    AgreeUnder root (d.removeFile p) (e.removeFile p) := by
  constructor
  case files =>
    intro f below
    by_cases same : p.same f
    · rw [← read?_congr same, ← read?_congr same, read?_removeFile_self, read?_removeFile_self]
    · rw [read?_removeFile_of_not_same same, read?_removeFile_of_not_same same]
      exact agree.files f below
  case dirs => exact agree.dirs

theorem removeUnder (agree : AgreeUnder root d e) (p : Path) :
    AgreeUnder root (d.removeUnder p) (e.removeUnder p) := by
  constructor
  case files =>
    intro f below
    by_cases gone : f.isUnder p
    · rw [read?_removeUnder_of_isUnder gone, read?_removeUnder_of_isUnder gone]
    · rw [read?_removeUnder gone, read?_removeUnder gone]
      exact agree.files f below
  case dirs =>
    intro f below
    rw [hasDir_removeUnder, hasDir_removeUnder, agree.dirs f below]

end AgreeUnder

end MemoryDisk

namespace Request

/-- What the request asks for, if the answer depends on the disk at all, lies below `root`. -/
def AsksBelow (root : Path) : Request → Prop
  | .write p _ | .read p | .removeFile p | .pathExists p | .isDir p | .isFile p | .isProgram p =>
    p.isUnder root
  | _ => True

end Request

namespace MemoryScript

open MemoryDisk (AgreeUnder)

variable {script : MemoryScript} {root : Path} {s t : MemoryState} {q : Request}

theorem faultAt?_of_quiet (quiet : script.faults = []) (op : Operation) (n : Nat) :
    script.faultAt? op n = none := by
  simp [faultAt?, quiet]

theorem streamFault?_of_quiet (quiet : script.faults = []) (op : Operation) :
    script.streamFault? op = none := by
  simp [streamFault?, quiet]

theorem agree_compiled (agree : AgreeUnder root s.disk t.disk) (job : CompileJob) :
    AgreeUnder root (s.compiled script job).disk (t.compiled script job).disk := by
  unfold MemoryState.compiled
  cases script.compiler.classBytes? with
  | none => exact agree
  | some bytes =>
    dsimp only
    generalize s.disk = d at agree ⊢
    generalize t.disk = e at agree ⊢
    induction job.sources generalizing d e with
    | nil => exact agree
    | cons p rest ih => exact ih _ _ (agree.put _ _)

/-- Without faults, a request that asks only below `root` has one answer on disks that agree there,
and they still agree after it. -/
theorem world_of_agree (quiet : script.faults = []) (below : q.AsksBelow root)
    (agree : AgreeUnder root s.disk t.disk) :
    (script.world q s).1 = (script.world q t).1 ∧
      AgreeUnder root (script.world q s).2.disk (script.world q t).2.disk := by
  cases q with
  | createDirAll p =>
    simp only [world, MemoryState.faultOf?, faultAt?_of_quiet quiet]
    exact ⟨trivial, agree.addDirs p⟩
  | create p =>
    simp only [world, MemoryState.faultOf?, faultAt?_of_quiet quiet]
    exact ⟨trivial, agree.put p []⟩
  | write p bytes =>
    simp only [world, MemoryState.write, streamFault?_of_quiet quiet, agree.files p below]
    exact ⟨trivial, agree.put p _⟩
  | flush p =>
    simp only [world, streamFault?_of_quiet quiet]
    exact ⟨trivial, agree⟩
  | read p =>
    simp only [world, MemoryState.faultOf?, faultAt?_of_quiet quiet]
    have same : (s.record (.read p)).disk.read? p = (t.record (.read p)).disk.read? p :=
      agree.files p below
    rw [same]
    split <;> exact ⟨rfl, agree⟩
  | removeFile p =>
    simp only [world, MemoryState.faultOf?, faultAt?_of_quiet quiet]
    have same : (s.record (.removeFile p)).disk.hasFile p = (t.record (.removeFile p)).disk.hasFile p :=
      agree.hasFile_eq below
    rw [same]
    split
    · exact ⟨rfl, agree.removeFile p⟩
    · exact ⟨rfl, agree⟩
  | removeDirAll p =>
    simp only [world, MemoryState.faultOf?, faultAt?_of_quiet quiet]
    exact ⟨trivial, agree.removeUnder p⟩
  | pathExists p =>
    have sameDir := Bool.eq_iff_iff.mpr (agree.dirs p below)
    exact ⟨congrArg₂ or (agree.hasFile_eq below) sameDir, agree⟩
  | isDir p => exact ⟨Bool.eq_iff_iff.mpr (agree.dirs p below), agree⟩
  | isFile p | isProgram p => exact ⟨agree.hasFile_eq below, agree⟩
  | compile job =>
    have recorded : AgreeUnder root (s.record (.compile job)).disk (t.record (.compile job)).disk :=
      agree
    simp only [world]
    split
    · exact ⟨rfl, recorded⟩
    · exact ⟨rfl, agree_compiled recorded job⟩
  | archive job =>
    simp only [world]
    split <;> exact ⟨rfl, agree⟩
  | freshId => exact ⟨rfl, agree⟩

/-- A request that touches nothing below `root` can be made on one of two disks alone. -/
theorem agree_of_untouched (files : ∀ f, f.isUnder root → ¬ q.touches f)
    (dirs : ∀ f, f.isUnder root → ¬ q.touchesDir f) (agree : AgreeUnder root s.disk t.disk) :
    AgreeUnder root (script.world q s).2.disk t.disk := by
  constructor
  case files =>
    intro f below
    rw [script.read?_world q s (files f below)]
    exact agree.files f below
  case dirs =>
    intro f below
    rw [script.hasDir_world q s (dirs f below)]
    exact agree.dirs f below

end MemoryScript
end JavaStubs
