import JavaStubs.Proofs.World.MemoryDisk
import JavaStubs.Proofs.World.Runs

/-!
# Frames in the world in memory

Which files and directories a request can change, and that it leaves all others as they are. A run
leaves a file as it is if the procedure can make no request that changes it.
-/

namespace JavaStubs

/-- Whether the request can change what is read from `f`. -/
def Request.touches (f : Path) : Request → Prop
  | .create p | .write p _ | .removeFile p => p.same f
  | .removeDirAll p => f.isUnder p
  | .compile job => ∃ p ∈ job.sources, (p.withExtension "class").same f
  | _ => False

/-- Whether the request can change that the directory `d` is there, or is not. -/
def Request.touchesDir (d : Path) : Request → Prop
  | .createDirAll p => p.isUnder d
  | .removeDirAll p => d.isUnder p
  | _ => False

/-- An operation of its own. The others are questions, and what is done to a file that is open. -/
def Request.isLogged : Request → Bool
  | .write _ _ | .flush _ | .pathExists _ | .isDir _ | .isFile _ | .isProgram _ | .freshId => false
  | _ => true

namespace MemoryState

variable {script : MemoryScript} {s : MemoryState} {f : Path}

theorem read?_write {p : Path} {bytes : List UInt8} (h : ¬ p.same f) :
    (s.write script p bytes).2.disk.read? f = s.disk.read? f := by
  unfold write
  cases script.streamFault? .write with
  | none => exact MemoryDisk.read?_put_of_not_same h
  | some fault =>
    dsimp only
    split <;> exact MemoryDisk.read?_put_of_not_same h

theorem read?_compiled {job : CompileJob}
    (h : ∀ p ∈ job.sources, ¬ (p.withExtension "class").same f) :
    (s.compiled script job).disk.read? f = s.disk.read? f := by
  unfold compiled
  cases script.compiler.classBytes? with
  | none => rfl
  | some bytes =>
    dsimp only
    generalize s.disk = d
    revert h
    induction job.sources generalizing d with
    | nil =>
      intro _
      rfl
    | cons p rest ih =>
      intro h
      have others : ∀ q ∈ rest, ¬ (q.withExtension "class").same f := by
        intro q hq
        exact h q (List.mem_cons_of_mem _ hq)
      rw [List.foldl_cons, ih _ others, MemoryDisk.read?_put_of_not_same (h p List.mem_cons_self)]

theorem dirs_write {p : Path} {bytes : List UInt8} :
    (s.write script p bytes).2.disk.dirs = s.disk.dirs := by
  unfold write
  dsimp only
  repeat' split
  all_goals exact MemoryDisk.dirs_put

theorem dirs_compiled {job : CompileJob} :
    (s.compiled script job).disk.dirs = s.disk.dirs := by
  unfold compiled
  cases script.compiler.classBytes? with
  | none => rfl
  | some bytes =>
    dsimp only
    generalize s.disk = d
    induction job.sources generalizing d with
    | nil => rfl
    | cons p rest ih => rw [List.foldl_cons, ih, MemoryDisk.dirs_put]

theorem countOf_record (s : MemoryState) (q : Request) (op : Operation) :
    (s.record q).countOf op = s.countOf op + if q.operation? = some op then 1 else 0 := by
  by_cases h : q.operation? = some op <;> simp [countOf, record, h]

end MemoryState

namespace MemoryScript

variable {script : MemoryScript} {f : Path}

/-- A request leaves the files as they are that it does not touch. -/
theorem read?_world (script : MemoryScript) (q : Request) (s : MemoryState)
    (h : ¬ q.touches f) : (script.world q s).2.disk.read? f = s.disk.read? f := by
  cases q with
  | createDirAll p =>
    simp only [world]
    split
    · rfl
    · exact MemoryDisk.read?_addDirs
  | create p =>
    simp only [world]
    split
    · rfl
    · exact MemoryDisk.read?_put_of_not_same h
  | write p bytes => exact MemoryState.read?_write h
  | flush p =>
    simp only [world]
    split <;> rfl
  | read p =>
    simp only [world]
    split
    · rfl
    · split <;> rfl
  | removeFile p =>
    simp only [world]
    split
    · rfl
    · split
      · exact MemoryDisk.read?_removeFile_of_not_same h
      · rfl
  | removeDirAll p =>
    simp only [world]
    split
    · rfl
    · exact MemoryDisk.read?_removeUnder h
  | compile job =>
    simp only [world]
    split
    · rfl
    · exact MemoryState.read?_compiled fun p hp same => h ⟨p, hp, same⟩
  | archive job =>
    simp only [world]
    split <;> rfl
  | pathExists | isDir | isFile | isProgram | freshId => rfl

/-- Only two kinds of requests change which directories there are. -/
theorem dirs_world (script : MemoryScript) (q : Request) (s : MemoryState)
    (noneMade : q.operation? ≠ some .createDirAll)
    (noneRemoved : q.operation? ≠ some .removeDirAll) :
    (script.world q s).2.disk.dirs = s.disk.dirs := by
  cases q with
  | createDirAll => exact absurd rfl noneMade
  | removeDirAll => exact absurd rfl noneRemoved
  | write => exact MemoryState.dirs_write
  | create =>
    simp only [world]
    split
    · rfl
    · exact MemoryDisk.dirs_put
  | compile =>
    simp only [world]
    split
    · rfl
    · exact MemoryState.dirs_compiled
  | flush | read | removeFile | archive =>
    simp only [world]
    repeat' split
    all_goals rfl
  | pathExists | isDir | isFile | isProgram | freshId => rfl

theorem hasDir_world (script : MemoryScript) (q : Request) (s : MemoryState)
    (h : ¬ q.touchesDir f) : (script.world q s).2.disk.hasDir f ↔ s.disk.hasDir f := by
  by_cases made : q.operation? = some .createDirAll
  · cases q with
    | createDirAll p =>
      simp only [world]
      split
      · rfl
      · refine MemoryDisk.hasDir_addDirs.trans (or_iff_left ?_)
        rintro ⟨r, hr, same⟩
        apply h
        have above := Path.isUnder_of_mem_withAncestors hr
        rw [Path.isUnder_iff, Path.same_iff.mp same] at above
        exact Path.isUnder_iff.mpr above
    | _ => cases made
  by_cases removed : q.operation? = some .removeDirAll
  · cases q with
    | removeDirAll p =>
      simp only [world]
      split
      · rfl
      · exact MemoryDisk.hasDir_removeUnder.trans (and_iff_left h)
    | _ => cases removed
  rw [MemoryDisk.hasDir, script.dirs_world q s made removed, ← MemoryDisk.hasDir]

theorem hasDir_of_hasDir (script : MemoryScript) (q : Request) (s : MemoryState)
    (h : q.operation? ≠ some .removeDirAll) (there : s.disk.hasDir f) :
    (script.world q s).2.disk.hasDir f := by
  by_cases made : q.operation? = some .createDirAll
  · cases q with
    | createDirAll p =>
      simp only [world]
      split
      · exact there
      · exact MemoryDisk.hasDir_addDirs.mpr (.inl there)
    | _ => cases made
  · rwa [MemoryDisk.hasDir, script.dirs_world q s made h, ← MemoryDisk.hasDir]

theorem log_world (script : MemoryScript) (q : Request) (s : MemoryState) :
    (script.world q s).2.log = s.log ++ [q].filter Request.isLogged := by
  cases q with
  | write p bytes =>
    simp only [world, MemoryState.write]
    repeat' split
    all_goals simp [Request.isLogged]
  | flush p =>
    simp only [world]
    split <;> simp [Request.isLogged]
  | pathExists | isDir | isFile | isProgram | freshId => simp [world, Request.isLogged]
  | compile job =>
    simp only [world, MemoryState.compiled]
    repeat' split
    all_goals rfl
  | createDirAll | create | read | removeFile | removeDirAll | archive =>
    simp only [world]
    repeat' split
    all_goals rfl

/-- Only the requests for an operation count as its calls. -/
theorem countOf_world (script : MemoryScript) (op : Operation) (q : Request) (s : MemoryState)
    (h : q.operation? ≠ some op) : (script.world q s).2.countOf op = s.countOf op := by
  have other : ([q].filter Request.isLogged).filter (fun q => q.operation? = some op) = [] := by
    simp [List.filter_filter, h]
  simp [MemoryState.countOf, log_world, other]

section Effects

variable {s t : MemoryState} {p : Path} {bytes : List UInt8}

theorem disk_of_failed_create {e : String} (failed : script.world (.create p) s = (.error e, t)) :
    t.disk = s.disk := by
  simp only [world] at failed
  split at failed
  · cases failed
    rfl
  · cases failed

theorem disk_of_create (ok : script.world (.create p) s = (.ok (), t)) :
    t.disk = s.disk.put p [] := by
  simp only [world] at ok
  split at ok
  · cases ok
  · cases ok
    rfl

theorem disk_of_write (ok : script.world (.write p bytes) s = (.ok (), t)) :
    t.disk = s.disk.put p ((s.disk.read? p).getD [] ++ bytes) := by
  simp only [world, MemoryState.write] at ok
  split at ok
  · cases ok
    rfl
  · split at ok
    · cases ok
      rfl
    · cases ok

theorem state_of_flush {answer : Except String Unit}
    (flushed : script.world (.flush p) s = (answer, t)) : t = s := by
  simp only [world] at flushed
  split at flushed <;> cases flushed <;> rfl

theorem disk_of_failed_removeFile
    (planned : (script.faultAt? .removeFile (s.countOf .removeFile + 1)).isSome) :
    (script.world (.removeFile p) s).2.disk = s.disk := by
  obtain ⟨e, he⟩ := Option.isSome_iff_exists.mp planned
  have fault : (s.record (.removeFile p)).faultOf? script .removeFile = some e := by
    rw [MemoryState.faultOf?, MemoryState.countOf_record]
    exact he
  simp only [world, fault]
  rfl

theorem read?_of_removeFile
    (removable : script.faultAt? .removeFile (s.countOf .removeFile + 1) = none) :
    (script.world (.removeFile p) s).2.disk.read? p = none := by
  have planned : (s.record (.removeFile p)).faultOf? script .removeFile = none := by
    rw [MemoryState.faultOf?, MemoryState.countOf_record]
    exact removable
  simp only [world, planned]
  split
  case isTrue => exact MemoryDisk.read?_removeFile_self
  case isFalse missing => exact MemoryDisk.not_hasFile_iff.mp missing

theorem disk_of_removeDirAll
    (removable : script.faultAt? .removeDirAll (s.countOf .removeDirAll + 1) = none) :
    (script.world (.removeDirAll p) s).2.disk = s.disk.removeUnder p := by
  have planned : (s.record (.removeDirAll p)).faultOf? script .removeDirAll = none := by
    rw [MemoryState.faultOf?, MemoryState.countOf_record]
    exact removable
  simp only [world, planned]
  rfl

end Effects

end MemoryScript

namespace Procedure.Asks

variable {α : Type} {p : Procedure α}

theorem read?_run {f : Path} (asks : p.Asks fun q => ¬ q.touches f) (script : MemoryScript)
    (s : MemoryState) : (p.run script.world s).2.disk.read? f = s.disk.read? f :=
  asks.preserves (I := fun t => t.disk.read? f = s.disk.read? f)
    (fun q t untouched same => (script.read?_world q t untouched).trans same) rfl

theorem countOf_run {op : Operation} (asks : p.Asks fun q => q.operation? ≠ some op)
    (script : MemoryScript) (s : MemoryState) :
    (p.run script.world s).2.countOf op = s.countOf op :=
  asks.preserves (I := fun t => t.countOf op = s.countOf op)
    (fun q t other same => (script.countOf_world op q t other).trans same) rfl

end Procedure.Asks
end JavaStubs
