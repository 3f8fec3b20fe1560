import JavaStubs.Proofs.Build.Confinement

/-!
# Builds leave no trace

When the scratch directory can be removed, a build that has ended leaves nothing in it, whatever
else failed, and everything outside as it was but for directories above the scratch directory and
above the archive.
-/

namespace JavaStubs

open JavaStubs.Path

namespace Procedure.Asks

variable {α : Type} {t : Procedure α} {scratch destination f : Path}

theorem read?_run_of_within (asks : t.Asks (Request.Within scratch destination))
    (script : MemoryScript) (s : MemoryState) (outside : ¬ f.isUnder scratch) :
    (t.run script.world s).2.disk.read? f = s.disk.read? f := by
  have untouched : t.Asks fun q => ¬ q.touches f := by
    apply asks.mono
    intro q within touches
    exact outside (within.isUnder_of_touches touches)
  exact untouched.read?_run script s

theorem hasDir_run_of_within (asks : t.Asks (Request.Within scratch destination))
    (script : MemoryScript) (s : MemoryState) (old : s.disk.hasDir f) :
    (t.run script.world s).2.disk.hasDir f :=
  asks.preserves (I := fun s => s.disk.hasDir f)
    (fun q s within there => script.hasDir_of_hasDir q s within.not_removeDirAll there) old

theorem place_of_hasDir_run (asks : t.Asks (Request.Within scratch destination))
    (script : MemoryScript) (s : MemoryState) (there : (t.run script.world s).2.disk.hasDir f)
    (fresh : ¬ s.disk.hasDir f) :
    f.isUnder scratch ∨ scratch.isUnder f ∨
      ∃ parent, destination.parent? = some parent ∧ parent.isUnder f := by
  by_contra elsewhere
  have untouched : t.Asks fun q => ¬ q.touchesDir f := by
    apply asks.mono
    intro q within touches
    exact elsewhere (within.place_of_touchesDir touches)
  have same := untouched.preserves (w := script.world)
    (I := fun t => t.disk.hasDir f ↔ s.disk.hasDir f)
    (fun q t other same => (script.hasDir_world q t other).trans same) Iff.rfl
  exact fresh (same.mp there)

end Procedure.Asks

namespace Plan

/-- What a build leaves on a disk: nothing in the scratch directory, every file outside as it was,
and no new directory outside but those above the scratch directory or the archive. -/
structure NoTrace (scratch destination : Path) (before after : MemoryDisk) : Prop where
  noFile : ∀ f, f.isUnder scratch → after.read? f = none
  noDir : ∀ d, d.isUnder scratch → ¬ after.hasDir d
  sameFiles : ∀ f, ¬ f.isUnder scratch → after.read? f = before.read? f
  keptDirs : ∀ d, ¬ d.isUnder scratch → before.hasDir d → after.hasDir d
  newDirs : ∀ d, after.hasDir d → ¬ before.hasDir d → scratch.isUnder d ∨
    ∃ parent, destination.parent? = some parent ∧ parent.isUnder d

variable {p : Plan} {setting : BuildSetting} {script : MemoryScript} {before : MemoryState}

theorem disk_of_build (plain : p.PlainNames)
    (removable : script.faultAt? .removeDirAll (before.countOf .removeDirAll + 1) = none) :
    let scratch := scratchDir setting.scratchRoot script.id
    ((p.build setting).run.run script.world before).2.disk =
      (((p.buildIn setting scratch).run.run script.world before).2.disk.removeUnder scratch) := by
  intro scratch
  have noRemoval : (p.buildIn setting scratch).run.Asks fun q => q.operation? ≠ some .removeDirAll :=
    (plain.asks_buildIn_within setting scratch).mono fun q within => within.not_removeDirAll
  have sameCount := noRemoval.countOf_run script before
  rw [p.build_eq, Procedure.run_call]
  change (Procedure.run script.world ((p.buildIn setting scratch).run.bind _) before).2.disk = _
  rw [Procedure.run_bind]
  apply MemoryScript.disk_of_removeDirAll
  rw [sameCount]
  exact removable

/-- A build leaves no trace but its archive, if its scratch directory can be removed. -/
theorem build_noTrace (s : Store) (name : String) (p : Plan) (planned : s.planFor name = .ok p)
    (setting : BuildSetting) (script : MemoryScript) (before : MemoryState)
    (removable : script.faultAt? .removeDirAll (before.countOf .removeDirAll + 1) = none) :
    NoTrace (setting.scratchRoot.child ("implementor-" ++ script.id)) setting.destination before.disk
      ((p.build setting).run.run script.world before).2.disk := by
  have plain := plainNames_of_planFor planned
  rw [← scratchDir, disk_of_build plain removable]
  have asks := plain.asks_buildIn_within setting (scratchDir setting.scratchRoot script.id)
  generalize scratchDir setting.scratchRoot script.id = scratch at asks ⊢
  constructor
  case noFile =>
    intro f below
    exact MemoryDisk.read?_removeUnder_of_isUnder below
  case noDir =>
    intro d below there
    exact (MemoryDisk.hasDir_removeUnder.mp there).2 below
  case sameFiles =>
    intro f outside
    rw [MemoryDisk.read?_removeUnder outside]
    exact asks.read?_run_of_within script before outside
  case keptDirs =>
    intro d outside old
    exact MemoryDisk.hasDir_removeUnder.mpr ⟨asks.hasDir_run_of_within script before old, outside⟩
  case newDirs =>
    intro d there fresh
    obtain ⟨there, outside⟩ := MemoryDisk.hasDir_removeUnder.mp there
    exact (asks.place_of_hasDir_run script before there fresh).resolve_left outside

/-- A compiler that leaves a class file and still fails, on a disk where no file can be removed. -/
def brokenCompiler : MemoryScript :=
  { faults := [⟨.removeFile, 0, 0, "busy"⟩], compiler := ⟨none, ⟨1, "error"⟩, some [0xCA, 0xFE]⟩,
    archiveError? := none, id := "1" }

def shelf : MemoryState :=
  { disk := ⟨[(.ofString "/tmp/notes", [0x2A])], [.ofString "/tmp"]⟩, log := [] }

theorem brokenCompiler_noTrace :
    taskStore.planFor "a.Task" = .ok taskPlan ∧
    brokenCompiler.faultAt? .removeDirAll (shelf.countOf .removeDirAll + 1) = none ∧
    NoTrace (taskSetting.scratchRoot.child "implementor-1") taskSetting.destination shelf.disk
      ((taskPlan.build taskSetting).run.run brokenCompiler.world shelf).2.disk :=
  ⟨planFor_taskStore, rfl, build_noTrace taskStore "a.Task" taskPlan planFor_taskStore taskSetting
    brokenCompiler shelf rfl⟩

end Plan
end JavaStubs
