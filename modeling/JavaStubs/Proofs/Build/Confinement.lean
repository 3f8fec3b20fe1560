import JavaStubs.Proofs.Build.Archive
import JavaStubs.Proofs.Stub.PlanPaths

/-!
# Builds are confined

Every path of the requests up to the archive lies below the scratch directory, but for the directory
of the archive.
-/

namespace JavaStubs

open JavaStubs.Path

namespace Request

/-- The request changes no file that is not below `scratch`, and asks for none. -/
def Within (scratch destination : Path) : Request → Prop
  | .createDirAll dir => dir.isUnder scratch ∨ destination.parent? = some dir
  | .create file | .write file _ | .flush file | .read file | .removeFile file
  | .pathExists file => file.isUnder scratch
  | .compile job => ∀ source ∈ job.sources, (source.withExtension "class").isUnder scratch
  | .archive _ => True
  | _ => False

namespace Within

variable {scratch destination f : Path} {q : Request}

theorem not_removeDirAll (within : q.Within scratch destination) :
    q.operation? ≠ some .removeDirAll := by
  cases q with
  | removeDirAll => exact within.elim
  | _ => simp [operation?]

theorem isUnder_of_touches (within : q.Within scratch destination) (touches : q.touches f) :
    f.isUnder scratch := by
  cases q with
  | create | write | removeFile => exact (isUnder_congr touches).mp within
  | compile job =>
    obtain ⟨source, hsource, same⟩ := touches
    exact (isUnder_congr same).mp (within source hsource)
  | removeDirAll => exact within.elim
  | _ => exact touches.elim

/-- A build makes directories below its scratch directory, above it, and above the archive. -/
theorem place_of_touchesDir (within : q.Within scratch destination) (touches : q.touchesDir f) :
    f.isUnder scratch ∨ scratch.isUnder f ∨
      ∃ parent, destination.parent? = some parent ∧ parent.isUnder f := by
  cases q with
  | createDirAll dir =>
    rcases within with below | parent
    · rcases isUnder_or_isUnder below touches with above | below
      · exact .inr (.inl above)
      · exact .inl below
    · exact .inr (.inr ⟨dir, parent, touches⟩)
  | removeDirAll => exact within.elim
  | _ => exact touches.elim

end Within

end Request

namespace Plan

variable {p : Plan} {setting : BuildSetting} {scratch : Path}

namespace PlainNames

theorem asks_writeSource_within (plain : p.PlainNames) (destination : Path) :
    (p.writeSource scratch).run.Asks (Request.Within scratch destination) := by
  apply (p.asks_writeSource scratch).mono
  intro q hq
  have below := plain.isUnder_sourcePath scratch
  simp only [writeRequests, fileRequests, List.cons_append, List.nil_append, List.mem_cons,
    List.not_mem_nil, or_false] at hq
  rcases hq with rfl | rfl | rfl | rfl | rfl | rfl
  · exact .inl (plain.isUnder_packageDir scratch)
  all_goals exact below

theorem asks_buildIn_within (plain : p.PlainNames) (setting : BuildSetting) (scratch : Path) :
    (p.buildIn setting scratch).run.Asks (Request.Within scratch setting.destination) := by
  have compiled : ((p.compileIn setting scratch (p.sourcePath scratch)).run).Asks
      (Request.Within scratch setting.destination) := by
    rw [p.compileIn_eq]
    apply Procedure.Asks.andThen
    · refine ⟨?_, fun _ => trivial⟩
      intro source hsource
      obtain rfl := List.mem_singleton.mp hsource
      rw [plain.withExtension_sourcePath]
      exact plain.isUnder_classPath scratch
    · intro _
      exact ⟨plain.isUnder_classPath scratch, fun _ => trivial⟩
  have archived : ∀ bytes, (p.archiveAt setting.destination bytes).run.Asks
      (Request.Within scratch setting.destination) := by
    intro bytes
    rw [p.archiveAt_eq]
    apply Procedure.Asks.andThen
    · cases dir : archiveDir? setting.destination with
      | none => trivial
      | some parent =>
        obtain ⟨parent_eq, _⟩ := Option.filter_eq_some_iff.mp dir
        exact ⟨.inr parent_eq, fun _ => trivial⟩
    · intro _
      exact ⟨trivial, fun _ => trivial⟩
  rw [p.buildIn_eq]
  refine Procedure.Asks.andThen ?_ archived
  apply Procedure.Asks.andThen
  · exact ⟨.inl (isUnder_self scratch), fun _ => trivial⟩
  · intro _
    apply (plain.asks_writeSource_within _).andThen_of_gives (p.writeSource_gives scratch)
    rintro _ rfl
    exact compiled

end PlainNames

def taskSetting : BuildSetting :=
  { compiler := ⟨some (.ofString "javac"), .empty⟩, scratchRoot := .ofString "/tmp", classpath := [],
    destination := .ofString "out/task.jar" }

end Plan
end JavaStubs
