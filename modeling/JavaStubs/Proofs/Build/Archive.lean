import JavaStubs.Build.Command
import JavaStubs.Proofs.Build.WriteSource
import JavaStubs.Proofs.Outcome

/-!
# The stages of a build

A build laid open as a procedure: the stages one after the other, each with the requests that it
makes, and the removal of the scratch directory in the end.
-/

namespace JavaStubs

open Procedure (single)

namespace Plan

variable (p : Plan) (setting : BuildSetting) (scratch source : Path) (bytes : List UInt8)

def compileJob : CompileJob :=
  ⟨setting.compiler, [source], scratch :: setting.classpath, scratch⟩

/-- The archive of a build: a manifest that gives its own version, and the class file. -/
def archiveJob (destination : Path) : ArchiveJob :=
  ⟨destination, [("Manifest-Version", "1.0")], [⟨p.classEntry, bytes⟩]⟩

/-- The directory of the archive, where its path names one. -/
def archiveDir? (destination : Path) : Option Path :=
  destination.parent?.filter fun parent => !parent.isEmpty

def makeDir (dir : Path) : Procedure (Except Failure Unit) :=
  single (.createDirAll dir) fun made => made.mapError (.io ("failed to create " ++ dir.display))

/-- The source file written, or discarded again. -/
def writeFile (file : Path) (text : String) : Procedure (Except Failure Path) :=
  (writeEscaped file text).bind fun written => match written with
    | .ok () => .done (.ok file)
    | .error e => discard file (.io ("failed to write " ++ file.display) e)

theorem writeSource_eq_andThen :
    (p.writeSource scratch).run = (makeDir (p.packageDir scratch)).andThen fun () =>
      writeFile (p.sourcePath scratch) p.render := by
  refine (p.writeSource_eq scratch).trans (congrArg (Procedure.call _) (funext fun made => ?_))
  cases made with
  | error => rfl
  | ok =>
    refine congrArg (Procedure.bind _) (funext fun written => ?_)
    cases written <;> rfl

theorem writeSource_gives : (p.writeSource scratch).run.Gives fun result =>
    ∀ file, result = .ok file → file = p.sourcePath scratch := by
  rw [writeSource_eq]
  intro made
  cases made with
  | error => rintro _ ⟨⟩
  | ok =>
    apply Procedure.Gives.bind
    intro written
    cases written with
    | ok =>
      rintro _ ⟨⟩
      rfl
    | error =>
      intro there
      cases there with
      | false => rintro _ ⟨⟩
      | true => rintro _ _ ⟨⟩

def verdict (compiled : Except String CompileReport) : Except Failure Unit :=
  match compiled with
  | .error e => .error (.io "failed to run the compiler" e)
  | .ok report =>
    if report.succeeded then .ok ()
    else .error (.compilation source report.exitCode report.diagnostics)

theorem compileIn_eq :
    (p.compileIn setting scratch source).run =
      (single (.compile (compileJob setting scratch source)) (verdict source)).andThen fun () =>
        single (.read (p.classPath scratch)) fun found =>
          found.mapError (.io ("failed to read " ++ (p.classPath scratch).display)) := by
  refine congrArg (Procedure.call _) (funext fun compiled => ?_)
  cases compiled with
  | error => rfl
  | ok report =>
    change ExceptT.run (if (!report.succeeded) = true then _ else _) =
      Procedure.andThen (.done (if report.succeeded then _ else _)) _
    cases report.succeeded with
    | false => rfl
    | true =>
      refine congrArg (Procedure.call _) (funext fun found => ?_)
      cases found <;> rfl

theorem archiveAt_eq (destination : Path) :
    (p.archiveAt destination bytes).run =
      ((archiveDir? destination).elim (.done (.ok ())) makeDir).andThen fun () =>
        single (.archive (p.archiveJob bytes destination)) fun written =>
          written.mapError (.io ("failed to write " ++ destination.display)) := by
  have archived : ∀ written : Except String Unit,
      (Action.require ("failed to write " ++ destination.display) written).run =
        .done (written.mapError (.io ("failed to write " ++ destination.display))) := by
    intro written
    cases written <;> rfl
  unfold archiveAt archiveDir?
  cases destination.parent? with
  | none => exact congrArg (Procedure.call _) (funext archived)
  | some parent =>
    change ExceptT.run (if (!parent.isEmpty) = true then _ else _) = _
    cases empty : parent.isEmpty with
    | true =>
      simp only [Option.filter_some, empty]
      exact congrArg (Procedure.call _) (funext archived)
    | false =>
      simp only [Option.filter_some, empty]
      refine congrArg (Procedure.call _) (funext fun made => ?_)
      cases made with
      | error => rfl
      | ok => exact congrArg (Procedure.call _) (funext archived)

def compileStages : Procedure (Except Failure (List UInt8)) :=
  (makeDir scratch).andThen fun () =>
    (p.writeSource scratch).run.andThen fun source => (p.compileIn setting scratch source).run

theorem buildIn_eq :
    (p.buildIn setting scratch).run = (p.compileStages setting scratch).andThen fun bytes =>
      (p.archiveAt setting.destination bytes).run := by
  rw [compileStages, Procedure.andThen_assoc]
  refine congrArg (Procedure.call _) (funext fun made => ?_)
  cases made with
  | error => rfl
  | ok =>
    refine Eq.trans ?_ (Procedure.andThen_assoc _ _ _).symm
    refine (Action.run_bind (p.writeSource scratch) _).trans
      (congrArg (Procedure.andThen _) (funext fun source => ?_))
    exact Action.run_bind (p.compileIn setting scratch source) _

def built (result : Except Failure Unit) (removed : Except String Unit) : Except Failure Built :=
  result.map fun () => ⟨setting.destination, p.classEntry,
    (Outcome.error? removed).map fun e => "failed to remove " ++ scratch.display ++ ": " ++ e⟩

theorem build_eq :
    (p.build setting).run = .call .freshId fun id =>
      (p.buildIn setting (scratchDir setting.scratchRoot id)).run.bind fun result =>
        single (.removeDirAll (scratchDir setting.scratchRoot id)) fun removed =>
          p.built setting (scratchDir setting.scratchRoot id) result removed := by
  refine congrArg (Procedure.call _) (funext fun id => ?_)
  refine (Action.run_bind (Action.outcome _) _).trans ?_
  refine (Procedure.bind_assoc _ _ _).trans (congrArg _ (funext fun result => ?_))
  refine congrArg (Procedure.call _) (funext fun removed => ?_)
  cases result <;> cases removed <;> rfl

end Plan
end JavaStubs
