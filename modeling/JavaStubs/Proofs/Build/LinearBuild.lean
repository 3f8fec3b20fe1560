import JavaStubs.Proofs.Build.Archive
import JavaStubs.Proofs.Outcome
import Mathlib.Data.List.Forall2

/-!
# Builds are linear

In every world a build takes its steps in one fixed order, up to the first step that fails, and then
removes the scratch directory. The failure of that step is the result, and a removal that fails is
no more than a remark in the result of a build that finished.
-/

namespace JavaStubs

/-- The failure that a call ends a build with, if it does. A failed removal never does. -/
def Call.failure? (source : Path) : Call → Option Failure
  | ⟨.createDirAll dir, .error e⟩ => some (.io ("failed to create " ++ dir.display) e)
  | ⟨.create file, .error e⟩ | ⟨.write file _, .error e⟩ | ⟨.flush file, .error e⟩ =>
    some (.io ("failed to write " ++ file.display) e)
  | ⟨.compile _, .error e⟩ => some (.io "failed to run the compiler" e)
  | ⟨.compile _, .ok report⟩ =>
    if report.succeeded then none
    else some (.compilation source report.exitCode report.diagnostics)
  | ⟨.read file, .error e⟩ => some (.io ("failed to read " ++ file.display) e)
  | ⟨.archive job, .error e⟩ => some (.io ("failed to write " ++ job.destination.display) e)
  | _ => none

def operations (calls : List Call) : List Request :=
  (calls.map Sigma.fst).filter Request.isLogged

theorem operations_append (calls later : List Call) :
    operations (calls ++ later) = operations calls ++ operations later := by
  simp [operations]

/-- The failure that a step ends the build with, given the calls of the step. -/
def stepFailure? (source : Path) (calls : List Call) : Option Failure :=
  calls.findSome? (Call.failure? source)

/-- The calls of the step that begins with `q`. It is the only operation, but that the source is
removed after a step that failed to write it. -/
def IsStep (source : Path) (q : Request) (calls : List Call) : Prop :=
  ∃ removal, operations calls = q :: removal ∧
    (removal = [] ∨ removal = [.removeFile source] ∧ q = .create source ∧
      (stepFailure? source calls).isSome)

/-- Steps taken in order, up to the first that fails: their calls, and that failure. -/
inductive Linear (source : Path) : List Request → List Call → Option Failure → Prop
  | finished : Linear source [] [] none
  | stopped {q : Request} {steps : List Request} {calls : List Call} {e : Failure}
      (step : IsStep source q calls) (failed : stepFailure? source calls = some e) :
      Linear source (q :: steps) calls (some e)
  | passed {q : Request} {steps : List Request} {calls later : List Call}
      {outcome : Option Failure} (step : IsStep source q calls)
      (succeeded : stepFailure? source calls = none) (rest : Linear source steps later outcome) :
      Linear source (q :: steps) (calls ++ later) outcome

section Linear

variable {source : Path} {q : Request} {steps more : List Request} {calls later : List Call}
  {outcome : Option Failure} {e : Failure}

namespace Linear

theorem of_isStep (step : IsStep source q calls) :
    Linear source [q] calls (stepFailure? source calls) := by
  cases h : stepFailure? source calls with
  | none => simpa using Linear.passed step h .finished
  | some e => exact .stopped step h

theorem append_of_failed (linear : Linear source steps calls outcome) (failed : outcome = some e)
    (more : List Request) : Linear source (steps ++ more) calls outcome := by
  induction linear with
  | finished => cases failed
  | stopped step h => exact .stopped step h
  | passed step h _ ih => exact .passed step h (ih failed)

theorem append (linear : Linear source steps calls outcome) (succeeded : outcome = none)
    {ending : Option Failure} (rest : Linear source more later ending) :
    Linear source (steps ++ more) (calls ++ later) ending := by
  induction linear with
  | finished => exact rest
  | stopped => cases succeeded
  | passed step h _ ih =>
    rw [List.append_assoc]
    exact .passed step h (ih succeeded)

/-- The steps and the calls cut at the last step that was taken. -/
theorem cut (linear : Linear source (q :: steps) calls outcome) :
    ∃ passed last left taken final, q :: steps = passed ++ last :: left ∧
      calls = taken.flatten ++ final ∧ List.Forall₂ (IsStep source) passed taken ∧
      (∀ step ∈ taken, stepFailure? source step = none) ∧ IsStep source last final ∧
      stepFailure? source final = outcome ∧ (outcome = none → left = []) := by
  generalize all_eq : q :: steps = all at linear
  induction linear generalizing q steps with
  | finished => cases all_eq
  | @stopped last left calls e step h =>
    exact ⟨[], last, left, [], calls, rfl, rfl, .nil, by simp, step, h, by simp⟩
  | @passed first more calls later outcome step h rest ih =>
    cases more with
    | nil =>
      cases rest
      exact ⟨[], first, [], [], calls, rfl, by simp, .nil, by simp, step, h, fun _ => rfl⟩
    | cons next more =>
      obtain ⟨passed, last, left, taken, final, steps_eq, calls_eq, isSteps, ok, rest⟩ := ih rfl
      refine ⟨first :: passed, last, left, calls :: taken, final, by simp [steps_eq],
        by simp [calls_eq], .cons step isSteps, ?_, rest⟩
      intro c hc
      rcases List.mem_cons.mp hc with rfl | hc
      · exact h
      · exact ok c hc

end Linear

theorem IsStep.operations_of_succeeded (step : IsStep source q calls)
    (succeeded : stepFailure? source calls = none) : operations calls = [q] := by
  obtain ⟨removal, hcalls, rfl | ⟨_, _, failed⟩⟩ := step
  · exact hcalls
  · simp [succeeded] at failed

theorem operations_of_taken {taken : List (List Call)}
    (isSteps : List.Forall₂ (IsStep source) steps taken)
    (succeeded : ∀ c ∈ taken, stepFailure? source c = none) : operations taken.flatten = steps := by
  induction isSteps with
  | nil => rfl
  | cons step _ ih =>
    rw [List.flatten_cons, operations_append,
      step.operations_of_succeeded (succeeded _ List.mem_cons_self),
      ih fun c hc => succeeded c (List.mem_cons_of_mem _ hc)]
    rfl

/-- What follows a source that could not be written belongs to the same step. -/
theorem isStep_discarded {file : Path} (opened : operations calls = [.create file])
    (failed : stepFailure? file calls = some e)
    (discarded : operations later = [] ∨ operations later = [.removeFile file]) :
    IsStep file (.create file) (calls ++ later) ∧ stepFailure? file (calls ++ later) = some e := by
  have outcome : stepFailure? file (calls ++ later) = some e := by
    rw [stepFailure?, List.findSome?_append, ← stepFailure?, failed, Option.some_or]
  refine ⟨⟨operations later, ?_, ?_⟩, outcome⟩
  · rw [operations_append, opened]
    rfl
  · rcases discarded with kept | removed
    · exact .inl kept
    · exact .inr ⟨removed, rfl, by rw [outcome]; rfl⟩

end Linear

section Stages

open Procedure (single)

variable {σ α β : Type} {w : World σ} {source : Path} {s : σ}

/-- In the world `w` a procedure takes the given steps, and ends as the last of them that is taken. -/
def TakesSteps (w : World σ) (source : Path) (steps : List Request)
    (t : Procedure (Except Failure α)) (s : σ) : Prop :=
  Linear source steps (t.calls w s) (Outcome.error? (t.run w s).1)

theorem takesSteps_done (a : α) : TakesSteps w source [] (.done (.ok a)) s :=
  .finished

theorem takesSteps_single {q : Request} {result : q.Answer → Except Failure α} (logged : q.isLogged)
    (failure : ∀ answer, Outcome.error? (result answer) = Call.failure? source ⟨q, answer⟩) :
    TakesSteps w source [q] (single q result) s := by
  have step : IsStep source q [⟨q, (w q s).1⟩] := ⟨[], by simp [operations, logged], .inl rfl⟩
  have outcome : stepFailure? source [⟨q, (w q s).1⟩] = Outcome.error? (result (w q s).1) := by
    rw [failure]
    cases h : Call.failure? source ⟨q, (w q s).1⟩ <;> simp [stepFailure?, h]
  have linear := Linear.of_isStep step
  rw [outcome] at linear
  exact linear

theorem TakesSteps.andThen {steps more : List Request} {t : Procedure (Except Failure α)}
    {f : α → Procedure (Except Failure β)} (first : TakesSteps w source steps t s)
    (later : ∀ a, (t.run w s).1 = .ok a → TakesSteps w source more (f a) (t.run w s).2) :
    TakesSteps w source (steps ++ more) (t.andThen f) s := by
  unfold TakesSteps at *
  rw [Procedure.andThen, Procedure.calls_bind, Procedure.run_bind]
  generalize t.run w s = ended at first later ⊢
  obtain ⟨result, s'⟩ := ended
  cases result with
  | error e =>
    rw [Procedure.calls_done, List.append_nil]
    exact first.append_of_failed rfl more
  | ok a => exact first.append rfl (later a rfl)

theorem takesSteps_makeDir (dir : Path) :
    TakesSteps w source [.createDirAll dir] (Plan.makeDir dir) s := by
  apply takesSteps_single rfl
  intro made
  cases made <;> rfl

section WriteFile

variable (w s) (file : Path) (text : String)

theorem operations_writeEscaped :
    operations ((writeEscaped file text).calls w s) = [.create file] := by
  simp only [writeEscaped_eq, Procedure.calls_call]
  obtain ⟨opened, s⟩ := w (.create file) s
  cases opened with
  | error => rfl
  | ok =>
    simp only [Procedure.calls_call]
    obtain ⟨written, s⟩ := w (.write file (sourceBytes text)) s
    cases written <;> rfl

theorem stepFailure?_writeEscaped (source : Path) :
    stepFailure? source ((writeEscaped file text).calls w s) =
      (Outcome.error? ((writeEscaped file text).run w s).1).map
        (.io ("failed to write " ++ file.display)) := by
  simp only [writeEscaped_eq, Procedure.calls_call, Procedure.run_call]
  obtain ⟨opened, s⟩ := w (.create file) s
  cases opened with
  | error => rfl
  | ok =>
    simp only [Procedure.calls_call, Procedure.run_call]
    obtain ⟨written, s⟩ := w (.write file (sourceBytes text)) s
    cases written with
    | error => rfl
    | ok =>
      simp only [Procedure.calls_call, Procedure.run_call]
      obtain ⟨flushed, s⟩ := w (.flush file) s
      cases flushed <;> rfl

theorem operations_discard (e : Failure) :
    operations ((Plan.discard file e).calls w s) = [] ∨
      operations ((Plan.discard file e).calls w s) = [.removeFile file] := by
  rw [Plan.discard, Procedure.calls_call]
  split
  · exact .inr rfl
  · exact .inl rfl

/-- Writing the source is one step, whatever was discarded after it. -/
theorem takesSteps_writeFile :
    TakesSteps w file [.create file] (Plan.writeFile file text) s := by
  have opened := operations_writeEscaped w s file text
  have failure := stepFailure?_writeEscaped w s file text file
  unfold TakesSteps
  rw [Plan.writeFile, Procedure.calls_bind, Procedure.run_bind]
  generalize (writeEscaped file text).run w s = ended at failure ⊢
  generalize (writeEscaped file text).calls w s = calls at opened failure ⊢
  obtain ⟨written, s'⟩ := ended
  cases written with
  | ok =>
    have step : IsStep file (.create file) calls := ⟨[], opened, .inl rfl⟩
    have linear := Linear.of_isStep step
    rw [failure] at linear
    rw [Procedure.calls_done, List.append_nil]
    exact linear
  | error e =>
    have step := isStep_discarded opened failure
      (operations_discard w s' file (.io ("failed to write " ++ file.display) e))
    simpa only [Plan.run_discard_fst, Outcome.error?_error] using Linear.stopped step.1 step.2

end WriteFile

/-- The contents of the first file that was read. -/
def bytesRead? (calls : List Call) : Option (List UInt8) :=
  calls.findSome? fun
    | ⟨.read _, .ok bytes⟩ => some bytes
    | _ => none

theorem bytesRead?_append (calls later : List Call) :
    bytesRead? (calls ++ later) = (bytesRead? calls).or (bytesRead? later) :=
  List.findSome?_append

theorem bytesRead?_eq_none {calls : List Call} (h : ∀ c ∈ calls, ∀ file, c.1 ≠ .read file) :
    bytesRead? calls = none := by
  apply List.findSome?_eq_none_iff.mpr
  intro c hc
  split
  · exact absurd rfl (h _ hc _)
  · rfl

section Build

variable (w s) (p : Plan) (setting : BuildSetting) (scratch : Path) (bytes : List UInt8)

theorem takesSteps_writeSource :
    TakesSteps w (p.sourcePath scratch)
      [.createDirAll (p.packageDir scratch), .create (p.sourcePath scratch)]
      (p.writeSource scratch).run s := by
  rw [p.writeSource_eq_andThen]
  exact (takesSteps_makeDir _).andThen fun _ _ => takesSteps_writeFile _ _ _ _

theorem takesSteps_compileIn :
    TakesSteps w source
      [.compile (Plan.compileJob setting scratch source), .read (p.classPath scratch)]
      (p.compileIn setting scratch source).run s := by
  have compiled : TakesSteps w source [.compile (Plan.compileJob setting scratch source)]
      (single (.compile (Plan.compileJob setting scratch source)) (Plan.verdict source)) s := by
    apply takesSteps_single rfl
    intro compiled
    cases compiled with
    | error => rfl
    | ok report => cases h : report.succeeded <;> simp [Plan.verdict, Call.failure?, h]
  rw [p.compileIn_eq]
  refine compiled.andThen fun _ _ => ?_
  apply takesSteps_single rfl
  intro found
  cases found <;> rfl

theorem takesSteps_archiveAt (destination : Path) :
    TakesSteps w source
      ((Plan.archiveDir? destination).toList.map .createDirAll ++
        [.archive (p.archiveJob bytes destination)])
      (p.archiveAt destination bytes).run s := by
  rw [p.archiveAt_eq]
  apply TakesSteps.andThen
  · cases Plan.archiveDir? destination with
    | none => exact takesSteps_done ()
    | some parent => exact takesSteps_makeDir parent
  · intro _ _
    apply takesSteps_single rfl
    intro written
    cases written <;> rfl

theorem takesSteps_compileStages :
    TakesSteps w (p.sourcePath scratch)
      [.createDirAll scratch, .createDirAll (p.packageDir scratch),
        .create (p.sourcePath scratch),
        .compile (Plan.compileJob setting scratch (p.sourcePath scratch)),
        .read (p.classPath scratch)]
      (p.compileStages setting scratch) s := by
  refine (takesSteps_makeDir _).andThen fun _ _ => ?_
  refine (takesSteps_writeSource _ _ p scratch).andThen fun file written => ?_
  obtain rfl := (p.writeSource_gives scratch).run _ _ file written
  exact takesSteps_compileIn _ _ p setting scratch

variable {w s p setting scratch bytes}

theorem bytesRead?_compileIn
    (ok : ((p.compileIn setting scratch source).run.run w s).1 = .ok bytes) :
    bytesRead? ((p.compileIn setting scratch source).run.calls w s) = some bytes := by
  rw [p.compileIn_eq] at ok ⊢
  obtain ⟨_, _, found, calls⟩ := Procedure.run_andThen_eq_ok ok
  have compiled : bytesRead? ((single (.compile (Plan.compileJob setting scratch source))
      (Plan.verdict source)).calls w s) = none :=
    bytesRead?_eq_none (by simp [single])
  rw [calls, bytesRead?_append, compiled, Option.none_or]
  simp only [single, Procedure.run_call, Procedure.run_done, Procedure.calls_call,
    Procedure.calls_done] at found ⊢
  rw [Outcome.mapError_eq_ok_iff] at found
  simp [bytesRead?, found]

theorem bytesRead?_compileStages
    (ok : ((p.compileStages setting scratch).run w s).1 = .ok bytes) :
    bytesRead? ((p.compileStages setting scratch).calls w s) = some bytes := by
  obtain ⟨_, _, ok, calls⟩ := Procedure.run_andThen_eq_ok ok
  obtain ⟨source, _, ok, later⟩ := Procedure.run_andThen_eq_ok ok
  rw [Plan.compileStages, calls, later, bytesRead?_append, bytesRead?_append,
    bytesRead?_compileIn ok, bytesRead?_eq_none, bytesRead?_eq_none, Option.none_or, Option.none_or]
  · intro c hc file read
    have mem := (p.asks_writeSource scratch).of_mem_calls hc
    simp [read, Plan.writeRequests, fileRequests] at mem
  · simp [Plan.makeDir, single]

end Build

end Stages

namespace Plan

/-- The steps of a build in a scratch directory, given the contents of the class file. -/
def buildSteps (p : Plan) (setting : BuildSetting) (scratch : Path) (bytes : List UInt8) :
    List Request :=
  [.createDirAll scratch, .createDirAll (p.packageDir scratch), .create (p.sourcePath scratch),
      .compile (compileJob setting scratch (p.sourcePath scratch)),
      .read (p.classPath scratch)] ++
    ((archiveDir? setting.destination).toList.map .createDirAll ++
      [.archive (p.archiveJob bytes setting.destination)])

variable {σ : Type} (w : World σ) (s : σ) (p : Plan) (setting : BuildSetting)

theorem takesSteps_buildIn (scratch : Path) :
    TakesSteps w (p.sourcePath scratch)
      (p.buildSteps setting scratch
        ((bytesRead? ((p.buildIn setting scratch).run.calls w s)).getD []))
      (p.buildIn setting scratch).run s := by
  rw [p.buildIn_eq]
  refine (takesSteps_compileStages _ _ p setting scratch).andThen fun bytes ok => ?_
  -- The stages up to the class file read it, and nothing else that a build reads comes before.
  have read : bytesRead? (((p.compileStages setting scratch).andThen fun bytes =>
      (p.archiveAt setting.destination bytes).run).calls w s) = some bytes := by
    rw [Procedure.andThen, Procedure.calls_bind, bytesRead?_append, bytesRead?_compileStages ok,
      Option.some_or]
  rw [read, Option.getD_some]
  exact takesSteps_archiveAt _ _ p bytes setting.destination

/-- The run of a build as a line of steps: those that it passed, the last one that it took, and the
removal of the scratch directory. -/
structure LinearRun (p : Plan) (setting : BuildSetting) (scratch : Path) (calls : List Call)
    (result : Except Failure Built) where
  passed : List Request
  last : Request
  /-- The steps that were not taken. -/
  left : List Request
  passedCalls : List (List Call)
  lastCalls : List Call
  removed : Except String Unit
  steps : p.buildSteps setting scratch ((bytesRead? calls).getD []) = passed ++ last :: left
  order : calls = passedCalls.flatten ++ lastCalls ++ [⟨.removeDirAll scratch, removed⟩]
  isStep_passed : List.Forall₂ (IsStep (p.sourcePath scratch)) passed passedCalls
  isStep_last : IsStep (p.sourcePath scratch) last lastCalls
  succeeded : ∀ step ∈ passedCalls, stepFailure? (p.sourcePath scratch) step = none
  operations_eq : ∃ removal,
    operations calls = passed ++ last :: (removal ++ [.removeDirAll scratch]) ∧
      (removal = [] ∨ removal = [.removeFile (p.sourcePath scratch)] ∧
        last = .create (p.sourcePath scratch) ∧
        (stepFailure? (p.sourcePath scratch) lastCalls).isSome)
  failed : ∀ e, stepFailure? (p.sourcePath scratch) lastCalls = some e → result = .error e
  finished : stepFailure? (p.sourcePath scratch) lastCalls = none → left = [] ∧
    result = .ok ⟨setting.destination, p.classEntry, (Outcome.error? removed).map fun e =>
      "failed to remove " ++ scratch.display ++ ": " ++ e⟩
  ok_iff : (∃ built, result = .ok built) ↔
    left = [] ∧ stepFailure? (p.sourcePath scratch) lastCalls = none

/-- In every world, a build that has its identifier runs in a line. -/
theorem build_linearRun {σ : Type} (w : World σ) (s : σ) (p : Plan) (setting : BuildSetting) :
    ∃ calls, (p.build setting).run.calls w s = ⟨.freshId, (w .freshId s).1⟩ :: calls ∧
      Nonempty (LinearRun p setting (setting.scratchRoot.child ("implementor-" ++ (w .freshId s).1))
        calls ((p.build setting).run.run w s).1) := by
  rw [p.build_eq, Procedure.calls_call, Procedure.run_call]
  refine ⟨_, rfl, ?_⟩
  generalize w .freshId s = answered
  obtain ⟨id, t⟩ := answered
  rw [← scratchDir]
  generalize scratchDir setting.scratchRoot id = scratch
  rw [Procedure.calls_bind, Procedure.run_bind]
  have linear := p.takesSteps_buildIn w t setting scratch
  unfold TakesSteps at linear
  generalize (p.buildIn setting scratch).run.run w t = ended at linear ⊢
  generalize (p.buildIn setting scratch).run.calls w t = calls at linear ⊢
  obtain ⟨result, u⟩ := ended
  obtain ⟨passed, last, left, taken, final, steps, rfl, isSteps, succeeded, isLast, outcome, rest⟩ :=
    Linear.cut linear
  simp only [Procedure.single, Procedure.calls_call, Procedure.calls_done, Procedure.run_call,
    Procedure.run_done]
  generalize (w (.removeDirAll scratch) u).1 = removed
  have unread : bytesRead? (taken.flatten ++ final ++ [⟨.removeDirAll scratch, removed⟩]) =
      bytesRead? (taken.flatten ++ final) := by
    have none : bytesRead? [⟨.removeDirAll scratch, removed⟩] = none := rfl
    rw [bytesRead?_append, none, Option.or_none]
  have removal_last : operations [⟨.removeDirAll scratch, removed⟩] = [.removeDirAll scratch] := rfl
  obtain ⟨removal, last_eq, removal_cases⟩ := isLast
  refine ⟨⟨passed, last, left, taken, final, removed, ?_, rfl, isSteps, ⟨removal, last_eq,
    removal_cases⟩, succeeded, ⟨removal, ?_, removal_cases⟩, ?_, ?_, ?_⟩⟩
  · rw [unread]
    exact steps
  · rw [operations_append, operations_append, operations_of_taken isSteps succeeded, last_eq,
      removal_last]
    simp
  · intro e h
    obtain rfl : result = .error e := Outcome.error?_eq_some_iff.mp (outcome.symm.trans h)
    rfl
  · intro h
    obtain rfl : result = .ok () := Outcome.error?_eq_none_iff.mp (outcome.symm.trans h)
    exact ⟨rest rfl, rfl⟩
  · rw [outcome]
    cases result with
    | error e => simp [built, Except.map]
    | ok => simpa [built, Except.map] using rest rfl

end Plan
end JavaStubs
