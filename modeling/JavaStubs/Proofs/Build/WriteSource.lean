import JavaStubs.Build.Command
import JavaStubs.Proofs.World.MemoryFrames

/-!
# Writing is all or nothing

A run that writes a source either leaves the whole escaped text in its file or ends with a failure
and leaves no text of its own: a step that fails after the file was to be opened has the file
removed, and one that fails before leaves it as it was. No other file is changed.
-/

namespace JavaStubs

def sourceBytes (text : String) : List UInt8 := Text.Utf8.bytesOfString (Text.escape text)

section WriteEscaped

variable (file : Path) (text : String)

theorem writeEscaped_eq :
    writeEscaped file text = .call (.create file) fun opened => match opened with
      | .error e => .done (.error e)
      | .ok () => .call (.write file (sourceBytes text)) fun written => match written with
        | .error e => .done (.error e)
        | .ok () => .call (.flush file) .done :=
  rfl

def fileRequests : List Request :=
  [.create file, .write file (sourceBytes text), .flush file]

theorem not_removeFile_of_mem_fileRequests :
    ∀ q ∈ fileRequests file text, q.operation? ≠ some .removeFile := by
  simp [fileRequests, Request.operation?]

theorem asks_writeEscaped : (writeEscaped file text).Asks (· ∈ fileRequests file text) := by
  rw [writeEscaped_eq]
  refine ⟨by simp [fileRequests], ?_⟩
  intro opened
  cases opened with
  | error => trivial
  | ok =>
    refine ⟨by simp [fileRequests], ?_⟩
    intro written
    cases written with
    | error => trivial
    | ok => exact ⟨by simp [fileRequests], fun _ => trivial⟩

theorem firstFailure?_writeEscaped {σ : Type} (w : World σ) (s : σ) :
    match ((writeEscaped file text).run w s).1 with
    | .ok () => (writeEscaped file text).firstFailure? w s = none
    | .error _ => ∃ q ∈ fileRequests file text,
        (writeEscaped file text).firstFailure? w s = some q := by
  simp only [writeEscaped_eq, Procedure.run_call, Procedure.firstFailure?_call]
  obtain ⟨opened, s⟩ := w (.create file) s
  cases opened with
  | error e => exact ⟨.create file, by simp [fileRequests], rfl⟩
  | ok =>
    simp only [Procedure.run_call, Procedure.firstFailure?_call]
    obtain ⟨written, s⟩ := w (.write file (sourceBytes text)) s
    cases written with
    | error e => exact ⟨.write file (sourceBytes text), by simp [fileRequests], rfl⟩
    | ok =>
      simp only [Procedure.run_call, Procedure.firstFailure?_call]
      obtain ⟨flushed, s⟩ := w (.flush file) s
      cases flushed with
      | error e => exact ⟨.flush file, by simp [fileRequests], rfl⟩
      | ok => rfl

theorem read?_of_writeEscaped (script : MemoryScript) (s : MemoryState)
    (ok : ((writeEscaped file text).run script.world s).1 = .ok ()) :
    ((writeEscaped file text).run script.world s).2.disk.read? file = some (sourceBytes text) := by
  simp only [writeEscaped_eq, Procedure.run_call] at ok ⊢
  cases create : script.world (.create file) s with | mk opened s₁ =>
  rw [create] at ok
  cases opened with
  | error => cases ok
  | ok =>
    simp only [Procedure.run_call] at ok ⊢
    cases write : script.world (.write file (sourceBytes text)) s₁ with | mk written s₂ =>
    rw [write] at ok
    cases written with
    | error => cases ok
    | ok =>
      simp only [Procedure.run_call] at ok ⊢
      cases flush : script.world (.flush file) s₂ with | mk flushed s₃ =>
      rw [MemoryScript.state_of_flush flush, Procedure.run_done, MemoryScript.disk_of_write write,
        MemoryScript.disk_of_create create, MemoryDisk.read?_put_self, MemoryDisk.read?_put_self,
        Option.getD_some, List.nil_append]

end WriteEscaped

namespace Plan

variable (p : Plan) (root : Path)

/-- What is left to do when the file could not be written. -/
def discard (file : Path) (e : Failure) : Procedure (Except Failure Path) :=
  .call (.pathExists file) fun there =>
    if there then .call (.removeFile file) fun _ => .done (.error e) else .done (.error e)

theorem asks_discard (file : Path) (e : Failure) :
    (discard file e).Asks (· ∈ [.pathExists file, .removeFile file]) := by
  refine ⟨by simp, ?_⟩
  intro there
  cases there with
  | false => trivial
  | true => exact ⟨by simp, fun _ => trivial⟩

theorem writeSource_eq :
    (p.writeSource root).run = .call (.createDirAll (p.packageDir root)) fun made => match made with
      | .error e => .done (.error (.io ("failed to create " ++ (p.packageDir root).display) e))
      | .ok () => (writeEscaped (p.sourcePath root) p.render).bind fun written => match written with
        | .ok () => .done (.ok (p.sourcePath root))
        | .error e => discard (p.sourcePath root)
            (.io ("failed to write " ++ (p.sourcePath root).display) e) := by
  refine congrArg (Procedure.call _) (funext fun made => ?_)
  cases made with
  | error => rfl
  | ok =>
    refine (Action.run_lift_bind _ _).trans (congrArg _ (funext fun written => ?_))
    cases written with
    | error =>
      refine congrArg (Procedure.call _) (funext fun there => ?_)
      cases there <;> rfl
    | ok => rfl

def writeRequests : List Request :=
  .createDirAll (p.packageDir root) :: fileRequests (p.sourcePath root) p.render ++
    [.pathExists (p.sourcePath root), .removeFile (p.sourcePath root)]

theorem asks_writeSource : (p.writeSource root).run.Asks (· ∈ p.writeRequests root) := by
  rw [writeSource_eq]
  refine ⟨by simp [writeRequests], ?_⟩
  intro made
  cases made with
  | error => trivial
  | ok =>
    apply Procedure.Asks.bind
    · apply (asks_writeEscaped _ _).mono
      intro q hq
      simp [writeRequests, hq]
    · intro written
      cases written with
      | ok => trivial
      | error =>
        apply (asks_discard _ _).mono
        intro q hq
        exact List.mem_append_right _ hq

section Memory

variable {script : MemoryScript} {s : MemoryState} {file : Path} {e : Failure}

theorem run_discard_fst {σ : Type} (w : World σ) (file : Path) (e : Failure) (s : σ) :
    ((discard file e).run w s).1 = .error e := by
  rw [discard, Procedure.run_call]
  split <;> rfl

/-- Whatever stands at the path of a discarded file, no file is left there. -/
theorem read?_of_discard
    (removable : script.faultAt? .removeFile (s.countOf .removeFile + 1) = none) :
    ((discard file e).run script.world s).2.disk.read? file = none := by
  rw [discard, Procedure.run_call]
  split
  case isTrue => exact MemoryScript.read?_of_removeFile removable
  case isFalse missing =>
    have noFile : ¬ s.disk.hasFile file := by
      intro there
      apply missing
      simp [MemoryScript.world, there]
    exact MemoryDisk.not_hasFile_iff.mp noFile

end Memory

section Outcome

variable (script : MemoryScript) (s : MemoryState)

theorem read?_writeSource_other {f : Path} (other : ¬ (p.sourcePath root).same f) :
    ((p.writeSource root).run.run script.world s).2.disk.read? f = s.disk.read? f := by
  have untouched : (p.writeSource root).run.Asks fun q => ¬ q.touches f := by
    apply (p.asks_writeSource root).mono
    intro q hq
    simp only [writeRequests, fileRequests, List.cons_append, List.nil_append, List.mem_cons,
      List.not_mem_nil, or_false] at hq
    rcases hq with rfl | rfl | rfl | rfl | rfl | rfl <;> simp [Request.touches, other]
  exact untouched.read?_run script s

/-- The three ways in which writing a source can go: without the directory, with all that was to be
written, or without the file. -/
theorem writeSource_cases
    (removable : script.faultAt? .removeFile (s.countOf .removeFile + 1) = none) :
    let file := p.sourcePath root
    let run := (p.writeSource root).run.run script.world s
    let failure? := (p.writeSource root).run.firstFailure? script.world s
    (∃ context source, run.1 = .error (.io context source) ∧
      failure? = some (.createDirAll (p.packageDir root)) ∧
      run.2.disk.read? file = s.disk.read? file) ∨
    (run.1 = .ok file ∧ failure? = none ∧
      run.2.disk.read? file = some (sourceBytes p.render)) ∨
    ∃ context source, run.1 = .error (.io context source) ∧
      (∃ q ∈ fileRequests file p.render, failure? = some q) ∧
      run.2.disk.read? file = none := by
  simp only [writeSource_eq, Procedure.run_call, Procedure.firstFailure?_call]
  have sameFile := script.read?_world (f := p.sourcePath root) (.createDirAll (p.packageDir root)) s
    (by simp [Request.touches])
  have sameCount := script.countOf_world .removeFile (.createDirAll (p.packageDir root)) s
    (by simp [Request.operation?])
  generalize script.world (.createDirAll (p.packageDir root)) s = answered
    at sameFile sameCount ⊢
  obtain ⟨made, s₁⟩ := answered
  cases made with
  | error e => exact .inl ⟨_, e, rfl, rfl, sameFile⟩
  | ok =>
    right
    have failure := firstFailure?_writeEscaped (p.sourcePath root) p.render script.world s₁
    have content := read?_of_writeEscaped (p.sourcePath root) p.render script s₁
    have keptCount := ((asks_writeEscaped (p.sourcePath root) p.render).mono
      (not_removeFile_of_mem_fileRequests _ _)).countOf_run script s₁
    simp only [Call.failed, Bool.false_eq_true, ↓reduceIte, Procedure.run_bind,
      Procedure.firstFailure?_bind]
    generalize (writeEscaped (p.sourcePath root) p.render).run script.world s₁ = ended
      at failure content keptCount ⊢
    obtain ⟨written, s₂⟩ := ended
    cases written with
    | ok =>
      left
      exact ⟨rfl, by simpa using failure, content rfl⟩
    | error e =>
      right
      obtain ⟨q, hq, first⟩ := failure
      have removable' : script.faultAt? .removeFile (s₂.countOf .removeFile + 1) = none := by
        rw [keptCount, sameCount]
        exact removable
      exact ⟨_, e, run_discard_fst .., ⟨q, hq, by rw [first, Option.some_or]⟩,
        read?_of_discard removable'⟩

end Outcome

/-- What a run that writes the source of `p` does to the disk, given the first request that fails
and the result. A run that fails leaves the source file as it was if there was no directory for it,
and no file otherwise. -/
structure AllOrNothing (p : Plan) (root : Path) (before after : MemoryDisk)
    (failure? : Option Request) (result : Except Failure Path) : Prop where
  others : ∀ f, ¬ (p.sourcePath root).same f → after.read? f = before.read? f
  written : ∀ q, result = .ok q →
    q = p.sourcePath root ∧ after.read? q = some (sourceBytes p.render)
  failed : ∀ e, result = .error e → (∃ context source, e = .io context source) ∧
    (failure? = some (.createDirAll (p.packageDir root)) ∧
        after.read? (p.sourcePath root) = before.read? (p.sourcePath root) ∨
      (∃ q ∈ fileRequests (p.sourcePath root) p.render, failure? = some q) ∧
        after.read? (p.sourcePath root) = none)
  succeeds : failure? = none → result = .ok (p.sourcePath root)

/-- If the file can be removed, writing a source is all or nothing. -/
theorem writeSource_allOrNothing (p : Plan) (root : Path) (script : MemoryScript)
    (before : MemoryState)
    (removable : script.faultAt? .removeFile (before.countOf .removeFile + 1) = none) :
    AllOrNothing p root before.disk ((p.writeSource root).run.run script.world before).2.disk
      ((p.writeSource root).run.firstFailure? script.world before)
      ((p.writeSource root).run.run script.world before).1 := by
  have others := fun f => p.read?_writeSource_other root script before (f := f)
  rcases p.writeSource_cases root script before removable with
    ⟨context, source, error, first, same⟩ | ⟨ok, first, content⟩ |
      ⟨context, source, error, ⟨q, hq, first⟩, gone⟩
  · rw [error, first]
    refine ⟨others, ?_, ?_, ?_⟩
    · rintro q ⟨⟩
    · rintro e ⟨⟩
      exact ⟨⟨context, source, rfl⟩, .inl ⟨rfl, same⟩⟩
    · rintro ⟨⟩
  · rw [ok, first]
    refine ⟨others, ?_, ?_, fun _ => rfl⟩
    · rintro q ⟨⟩
      exact ⟨rfl, content⟩
    · rintro e ⟨⟩
  · rw [error, first]
    refine ⟨others, ?_, ?_, ?_⟩
    · rintro q ⟨⟩
    · rintro e ⟨⟩
      exact ⟨⟨context, source, rfl⟩, .inr ⟨⟨q, hq, rfl⟩, gone⟩⟩
    · rintro ⟨⟩

/-- A plan without members, a disk on which its file stands already, and one that takes no more than
three bytes. -/
def barePlan : Plan :=
  { target := ⟨"a.Task", .interfaceType, .none⟩, generatedName := "TaskImpl",
    constructors := [], members := .empty }

def occupied : MemoryState :=
  { disk := ⟨[(barePlan.sourcePath .empty, [0x2F, 0x2F])], []⟩, log := [] }

def fullDisk : MemoryScript :=
  { faults := [⟨.write, 0, 3, "no space left"⟩], compiler := ⟨none, ⟨0, ""⟩, none⟩,
    archiveError? := none, id := "1" }

theorem fullDisk_allOrNothing :
    fullDisk.faultAt? .removeFile (occupied.countOf .removeFile + 1) = none ∧
    AllOrNothing barePlan .empty occupied.disk
      ((barePlan.writeSource .empty).run.run fullDisk.world occupied).2.disk
      ((barePlan.writeSource .empty).run.firstFailure? fullDisk.world occupied)
      ((barePlan.writeSource .empty).run.run fullDisk.world occupied).1 :=
  ⟨rfl, writeSource_allOrNothing barePlan .empty fullDisk occupied rfl⟩

end Plan
end JavaStubs
