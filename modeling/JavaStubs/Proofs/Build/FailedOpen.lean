import JavaStubs.Proofs.Build.WriteSource

/-!
# Sources that cannot be opened

When the source file cannot be opened, nothing has been written to it. What stands at its path all
the same is removed as if it were a part of the new source, so an older file is lost unless the
removal fails as well.
-/

namespace JavaStubs
namespace Plan

variable (p : Plan) (root : Path)

/-- If opening the source is the first request that fails, discarding the file is all that follows. -/
theorem run_of_failedOpen {σ : Type} (w : World σ) (s : σ)
    (failed : (p.writeSource root).run.firstFailure? w s = some (.create (p.sourcePath root))) :
    ∃ e, (w (.create (p.sourcePath root)) (w (.createDirAll (p.packageDir root)) s).2).1 =
        .error e ∧
      (p.writeSource root).run.run w s =
        (discard (p.sourcePath root) (.io ("failed to write " ++ (p.sourcePath root).display) e)).run
          w (w (.create (p.sourcePath root)) (w (.createDirAll (p.packageDir root)) s).2).2 := by
  rw [writeSource_eq, Procedure.firstFailure?_call] at failed
  rw [writeSource_eq, Procedure.run_call]
  generalize w (.createDirAll (p.packageDir root)) s = answered at failed ⊢
  obtain ⟨made, s₁⟩ := answered
  cases made with
  | error => simp [Call.failed] at failed
  | ok =>
    simp only [writeEscaped_eq, Procedure.bind, Procedure.run_call, Procedure.firstFailure?_call w
      (.create _), Call.failed, Bool.false_eq_true, ↓reduceIte] at failed ⊢
    generalize w (.create (p.sourcePath root)) s₁ = opened at failed ⊢
    obtain ⟨opened, s₂⟩ := opened
    cases opened with
    | error e => exact ⟨e, rfl, rfl⟩
    | ok =>
      -- No request that is left opens the file, so none of them can be the one that failed.
      refine absurd rfl (Procedure.Asks.of_firstFailure? (P := (· ≠ .create (p.sourcePath root)))
        ?_ failed)
      refine ⟨by simp, ?_⟩
      intro written
      have discarded : ∀ e, (discard (p.sourcePath root) e).Asks
          (· ≠ .create (p.sourcePath root)) := by
        intro e
        apply (asks_discard _ e).mono
        simp
      cases written with
      | error => exact discarded _
      | ok =>
        refine ⟨by simp, ?_⟩
        intro flushed
        cases flushed with
        | error => exact discarded _
        | ok => trivial

section Memory

variable (script : MemoryScript) (s : MemoryState)

/-- A failed open leaves every file as it is, but for its own: that one goes unless it cannot be
removed. -/
theorem read?_of_failedOpen
    (failed : (p.writeSource root).run.firstFailure? script.world s =
      some (.create (p.sourcePath root))) :
    ((p.writeSource root).run.run script.world s).2.disk.read? (p.sourcePath root) =
      if (script.faultAt? .removeFile (s.countOf .removeFile + 1)).isSome then
        s.disk.read? (p.sourcePath root)
      else none := by
  obtain ⟨e, opened, run⟩ := p.run_of_failedOpen root script.world s failed
  rw [run]
  have sameCount : (script.world (.create (p.sourcePath root))
      (script.world (.createDirAll (p.packageDir root)) s).2).2.countOf .removeFile =
        s.countOf .removeFile := by
    rw [script.countOf_world .removeFile _ _ (by simp [Request.operation?]),
      script.countOf_world .removeFile _ _ (by simp [Request.operation?])]
  have sameFile : (script.world (.create (p.sourcePath root))
      (script.world (.createDirAll (p.packageDir root)) s).2).2.disk.read? (p.sourcePath root) =
        s.disk.read? (p.sourcePath root) := by
    rw [MemoryScript.disk_of_failed_create (Prod.ext opened rfl)]
    exact script.read?_world _ s (by simp [Request.touches])
  rw [← sameCount, ← sameFile]
  generalize (script.world (.create (p.sourcePath root))
    (script.world (.createDirAll (p.packageDir root)) s).2).2 = t
  split
  case isTrue planned =>
    rw [discard, Procedure.run_call]
    split
    · have kept : (script.world (.removeFile (p.sourcePath root)) t).2.disk = t.disk :=
        MemoryScript.disk_of_failed_removeFile planned
      exact congrArg (fun d : MemoryDisk => d.read? (p.sourcePath root)) kept
    · rfl
  case isFalse removable =>
    apply read?_of_discard
    simpa using removable

end Memory

/-- Opening the source fails: every file that stood before still stands if and only if none stood at
the path of the source, or it could not be removed. -/
theorem failedOpen_keeps_files_iff (script : MemoryScript) (before : MemoryState)
    (failed : (p.writeSource root).run.firstFailure? script.world before =
      some (.create (p.sourcePath root))) :
    let run := (p.writeSource root).run.run script.world before
    (∃ context source, run.1 = .error (.io context source)) ∧
    ((∀ f bytes, before.disk.read? f = some bytes → run.2.disk.read? f = some bytes) ↔
      before.disk.read? (p.sourcePath root) = none ∨
        (script.faultAt? .removeFile (before.countOf .removeFile + 1)).isSome) := by
  intro run
  obtain ⟨e, _, discarded⟩ := p.run_of_failedOpen root script.world before failed
  have ended : run.1 = _ := (congrArg Prod.fst discarded).trans (run_discard_fst _ _ _ _)
  have others : ∀ f, ¬ (p.sourcePath root).same f → run.2.disk.read? f = before.disk.read? f :=
    fun f => p.read?_writeSource_other root script before
  have own : run.2.disk.read? (p.sourcePath root) = _ :=
    p.read?_of_failedOpen root script before failed
  refine ⟨⟨_, e, ended⟩, ?_, ?_⟩
  · intro kept
    cases there : before.disk.read? (p.sourcePath root) with
    | none => exact .inl rfl
    | some bytes =>
      right
      have still := kept _ _ there
      rw [own] at still
      split at still
      case isTrue planned => exact planned
      case isFalse => cases still
  · intro safe f bytes there
    by_cases same : (p.sourcePath root).same f
    · rw [← MemoryDisk.read?_congr same] at there ⊢
      rcases safe with absent | planned
      · rw [absent] at there
        cases there
      · rw [own, planned, if_pos rfl, there]
    · rw [others f same, there]

def lockedDisk : MemoryScript :=
  { faults := [⟨.create, 0, 0, "permission denied"⟩], compiler := ⟨none, ⟨0, ""⟩, none⟩,
    archiveError? := none, id := "1" }

theorem firstFailure?_lockedDisk :
    (barePlan.writeSource .empty).run.firstFailure? lockedDisk.world occupied =
      some (.create (barePlan.sourcePath .empty)) := by
  rfl

theorem lockedDisk_failedOpen :
    (barePlan.writeSource .empty).run.firstFailure? lockedDisk.world occupied =
      some (.create (barePlan.sourcePath .empty)) ∧
    let run := (barePlan.writeSource .empty).run.run lockedDisk.world occupied
    (∃ context source, run.1 = .error (.io context source)) ∧
    ((∀ f bytes, occupied.disk.read? f = some bytes → run.2.disk.read? f = some bytes) ↔
      occupied.disk.read? (barePlan.sourcePath .empty) = none ∨
        (lockedDisk.faultAt? .removeFile (occupied.countOf .removeFile + 1)).isSome) :=
  ⟨firstFailure?_lockedDisk,
    failedOpen_keeps_files_iff barePlan .empty lockedDisk occupied firstFailure?_lockedDisk⟩

/-- The file that stood at the path of the source was neither opened nor written to, and is gone. -/
theorem failedOpen_removes_older_file :
    ¬ ∀ (p : Plan) (root : Path) (script : MemoryScript) (before : MemoryState),
      (p.writeSource root).run.firstFailure? script.world before =
          some (.create (p.sourcePath root)) →
        ∀ f bytes, before.disk.read? f = some bytes →
          ((p.writeSource root).run.run script.world before).2.disk.read? f = some bytes := by
  intro claim
  have kept := claim barePlan .empty lockedDisk occupied firstFailure?_lockedDisk
    (barePlan.sourcePath .empty) [0x2F, 0x2F] rfl
  have gone := barePlan.read?_of_failedOpen .empty lockedDisk occupied firstFailure?_lockedDisk
  rw [kept] at gone
  exact absurd gone (by decide)

end Plan
end JavaStubs
