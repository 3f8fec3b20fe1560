import JavaStubs.Build.Command
import JavaStubs.Proofs.Build.Archive
import JavaStubs.Proofs.Stub.Faults
import JavaStubs.Proofs.World.MemoryFrames

/-!
# Rejected requests touch nothing

Both commands check their output path and plan before they work. A run that ends with a rejection
has asked questions only and leaves the disk as it was. Once the path is checked and the plan is
there, only an operation that fails, or the compiler, can end the run with a failure.
-/

namespace JavaStubs

namespace Failure

/-- An operation on files or on the archive failed, or the compiler did. -/
def isOperational : Failure → Bool
  | .io _ _ | .compilation _ _ _ => true
  | _ => false

theorem not_isRejection_of_isOperational {e : Failure} (operational : e.isOperational) :
    ¬ e.isRejection := by
  cases e <;> simp_all [isOperational, isRejection]

theorem isOperational_of_mapError {α : Type} {answer : Except String α} {context : String}
    {e : Failure} (failed : answer.mapError (.io context) = .error e) : e.isOperational := by
  cases answer with
  | ok => cases failed
  | error =>
    cases failed
    rfl

end Failure

def Request.isQuestion : Request → Bool
  | .pathExists _ | .isDir _ | .isFile _ | .isProgram _ => true
  | _ => false

theorem MemoryScript.world_of_isQuestion (script : MemoryScript) (s : MemoryState) {q : Request}
    (question : q.isQuestion) : (script.world q s).2 = s := by
  cases q with
  | pathExists | isDir | isFile | isProgram => rfl
  | _ => cases question

/-- Who only asks leaves everything as it was. -/
theorem Procedure.Asks.untouched {α : Type} {t : Procedure α} (asks : t.Asks fun q => q.isQuestion)
    (script : MemoryScript) (s : MemoryState) :
    (∀ q ∈ t.trace script.world s, q.isQuestion) ∧ (t.run script.world s).2 = s := by
  refine ⟨fun q hq => asks.of_mem_trace hq, ?_⟩
  apply asks.preserves (I := (· = s)) _ rfl
  rintro q _ question rfl
  exact script.world_of_isQuestion _ question

section FailsWith

variable {α β : Type} {kind : Failure → Bool}

/-- Whatever the answers, every failure that the procedure ends with is of the given kind. -/
def FailsWith (kind : Failure → Bool) (t : Procedure (Except Failure α)) : Prop :=
  t.Gives fun result => ∀ e, result = .error e → kind e

theorem FailsWith.andThen {t : Procedure (Except Failure α)}
    {f : α → Procedure (Except Failure β)} (first : FailsWith kind t)
    (later : ∀ a, FailsWith kind (f a)) : FailsWith kind (t.andThen f) := by
  apply Procedure.Gives.bind_of_gives first
  intro result fails
  cases result with
  | error e =>
    rintro _ ⟨⟩
    exact fails e rfl
  | ok a => exact later a

end FailsWith

namespace Plan

variable (p : Plan) (setting : BuildSetting) (scratch source file : Path)

theorem makeDir_failsWith (dir : Path) : FailsWith Failure.isOperational (makeDir dir) :=
  fun _ _ failed => Failure.isOperational_of_mapError failed

theorem writeFile_failsWith (text : String) :
    FailsWith Failure.isOperational (writeFile file text) := by
  apply Procedure.Gives.bind
  intro written
  cases written with
  | ok => rintro _ ⟨⟩
  | error =>
    intro there
    cases there with
    | false =>
      rintro _ ⟨⟩
      rfl
    | true =>
      rintro _ _ ⟨⟩
      rfl

theorem writeSource_failsWith : FailsWith Failure.isOperational (p.writeSource scratch).run := by
  rw [writeSource_eq_andThen]
  exact (makeDir_failsWith _).andThen fun () => writeFile_failsWith _ _

theorem compileIn_failsWith :
    FailsWith Failure.isOperational (p.compileIn setting scratch source).run := by
  rw [compileIn_eq]
  apply FailsWith.andThen
  · intro compiled e failed
    unfold verdict at failed
    split at failed
    · cases failed
      rfl
    · split at failed
      · cases failed
      · cases failed
        rfl
  · intro _ _ _ failed
    exact Failure.isOperational_of_mapError failed

theorem archiveAt_failsWith (bytes : List UInt8) (destination : Path) :
    FailsWith Failure.isOperational (p.archiveAt destination bytes).run := by
  rw [archiveAt_eq]
  apply FailsWith.andThen
  · cases archiveDir? destination with
    | none => rintro _ ⟨⟩
    | some dir => exact makeDir_failsWith dir
  · intro _ _ _ failed
    exact Failure.isOperational_of_mapError failed

theorem buildIn_failsWith : FailsWith Failure.isOperational (p.buildIn setting scratch).run := by
  rw [buildIn_eq]
  apply FailsWith.andThen
  · apply (makeDir_failsWith scratch).andThen
    intro _
    apply (p.writeSource_failsWith scratch).andThen
    intro source
    exact p.compileIn_failsWith setting scratch source
  · intro bytes
    exact p.archiveAt_failsWith bytes setting.destination

theorem build_failsWith : FailsWith Failure.isOperational (p.build setting).run := by
  rw [build_eq]
  intro id
  apply (p.buildIn_failsWith setting _).bind_of_gives
  intro result operational removed e failed
  exact operational e (Outcome.map_eq_error_iff.mp failed)

end Plan

section Checks

variable (dir file : Path)

theorem asks_checkOutputDir : (checkOutputDir dir).run.Asks fun q => q.isQuestion := by
  unfold checkOutputDir
  cases dir.textFault? with
  | some reason => trivial
  | none =>
    refine ⟨rfl, ?_⟩
    intro there
    cases there with
    | false => trivial
    | true =>
      refine ⟨rfl, ?_⟩
      intro isDir
      cases isDir <;> trivial

theorem checkOutputDir_failsWith : FailsWith Failure.isRejection (checkOutputDir dir).run := by
  unfold checkOutputDir
  cases dir.textFault? with
  | some reason =>
    rintro _ ⟨⟩
    rfl
  | none =>
    intro there
    cases there with
    | false => rintro _ ⟨⟩
    | true =>
      intro isDir
      cases isDir with
      | true => rintro _ ⟨⟩
      | false =>
        rintro _ ⟨⟩
        rfl

theorem asks_checkArchivePath : (checkArchivePath file).run.Asks fun q => q.isQuestion := by
  unfold checkArchivePath
  cases file.textFault? with
  | some reason => trivial
  | none =>
    refine ⟨rfl, ?_⟩
    intro isDir
    cases isDir <;> trivial

theorem checkArchivePath_failsWith : FailsWith Failure.isRejection (checkArchivePath file).run := by
  unfold checkArchivePath
  cases file.textFault? with
  | some reason =>
    rintro _ ⟨⟩
    rfl
  | none =>
    intro isDir
    cases isDir with
    | false => rintro _ ⟨⟩
    | true =>
      rintro _ ⟨⟩
      rfl

end Checks

section Screened

variable {α : Type} {check : Action Unit} {planned : Except Failure Plan} {work : Plan → Action α}

/-- A command that checks an output path, then plans, and then works. -/
def screened (check : Action Unit) (planned : Except Failure Plan) (work : Plan → Action α) :
    Action α := do
  check
  work (← Action.ofExcept planned)

theorem run_screened : (screened check planned work).run =
    check.run.andThen fun () => (Action.ofExcept planned >>= work).run :=
  Action.run_bind check _

/-- What a run of a command means that checks its path by `check` and plans `planned`. A failure of
either is its result, and a rejection; a rejection asks only questions and changes nothing; and
there is none after the check and the plan. -/
structure Screens (check : Action Unit) (planned : Except Failure Plan) (command : Action α)
    (script : MemoryScript) (before : MemoryState) : Prop where
  rejects : ∀ e, (check.run.run script.world before).1 = .error e ∨
      (check.run.run script.world before).1 = .ok () ∧ planned = .error e →
    (command.run.run script.world before).1 = .error e ∧ e.isRejection
  untouched : ∀ e, (command.run.run script.world before).1 = .error e → e.isRejection →
    (∀ q ∈ command.run.trace script.world before, q.isQuestion) ∧
      (command.run.run script.world before).2 = before
  operational : ∀ p, (check.run.run script.world before).1 = .ok () → planned = .ok p →
    ∀ e, (command.run.run script.world before).1 = .error e → e.isOperational

theorem screens_screened (asks : check.run.Asks fun q => q.isQuestion)
    (fails : FailsWith Failure.isRejection check.run)
    (unplanned : ∀ e, planned = .error e → e.isRejection)
    (works : ∀ p, FailsWith Failure.isOperational (work p).run) (script : MemoryScript)
    (before : MemoryState) : Screens check planned (screened check planned work) script before := by
  constructor
  case rejects =>
    rintro e (failed | ⟨ok, rfl⟩)
    · refine ⟨?_, fails.run _ _ e failed⟩
      rw [run_screened, (Procedure.run_andThen_of_error failed).1]
    · refine ⟨?_, unplanned e rfl⟩
      rw [run_screened, Procedure.run_andThen_of_ok ok]
      rfl
  case untouched =>
    intro e failed rejected
    rw [run_screened] at failed ⊢
    rcases Outcome.ok_or_error (check.run.run script.world before).1 with ⟨_, ok⟩ | ⟨_, error⟩
    · rw [Procedure.run_andThen_of_ok ok] at failed
      cases planned with
      | error fault =>
        -- Without a plan the command asks what its check asks, and ends.
        have asksAll : (check.run.andThen fun () =>
            (Action.ofExcept (.error fault) >>= work).run).Asks fun q => q.isQuestion :=
          asks.andThen fun _ => trivial
        exact asksAll.untouched script before
      | ok p =>
        -- What fails in the work is no rejection.
        have operational := (works p).run _ _ e failed
        exact absurd rejected (Failure.not_isRejection_of_isOperational operational)
    · obtain ⟨run, trace⟩ := Procedure.run_andThen_of_error
        (f := fun () => (Action.ofExcept planned >>= work).run) error
      rw [run, trace]
      exact asks.untouched script before
  case operational =>
    rintro p ok rfl e failed
    rw [run_screened, Procedure.run_andThen_of_ok ok] at failed
    exact (works p).run _ _ e failed

end Screened

namespace Store

/-- A command that ends with a rejection touches nothing. It rejects a path that fails the check and
a type without a plan, and otherwise ends with a result or with an operational failure. -/
theorem commands_screen (s : Store) (typeName : String) (outputDir : Path) (setting : BuildSetting)
    (script : MemoryScript) (before : MemoryState) :
    Screens (checkOutputDir outputDir) (s.planFor typeName) (s.implement typeName outputDir) script
      before ∧
    Screens (checkArchivePath setting.destination) (s.planFor typeName)
      (s.implementArchive typeName setting) script before := by
  have unplanned : ∀ e, s.planFor typeName = .error e → e.isRejection :=
    fun _ failed => failure_of_planFor failed
  constructor
  · exact screens_screened (asks_checkOutputDir outputDir) (checkOutputDir_failsWith outputDir)
      unplanned (fun p => p.writeSource_failsWith outputDir) script before
  · exact screens_screened (asks_checkArchivePath setting.destination)
      (checkArchivePath_failsWith setting.destination) unplanned
      (fun p => p.build_failsWith setting) script before

end Store
end JavaStubs
