import JavaStubs.Proofs.Build.Concurrent
import JavaStubs.Proofs.Build.Rejection

/-!
# Several types, one after another

On a disk without faults a run for one name writes the source of its plan, adds the directories
above it, and changes nothing else; a name without a plan changes nothing at all. Types that differ
in their package or in their simple name have sources of their own, so what several runs leave is
told by the set of their names: neither their order nor a repeated run makes a difference.
-/

namespace JavaStubs

open JavaStubs.Path

/-- Two disks hold the same files and the same directories. -/
structure MemoryDisk.Alike (d e : MemoryDisk) : Prop where
  files : ∀ f, d.read? f = e.read? f
  dirs : ∀ f, d.hasDir f ↔ e.hasDir f

section OutputDir

variable {dir : Path}

theorem checkOutputDir_eq (sound : dir.textFault? = none) :
    (checkOutputDir dir).run = .call (.pathExists dir) fun there =>
      if there then .call (.isDir dir) fun isDir =>
        if isDir then .done (.ok ()) else .done (.error (.invalidPath dir "not a directory"))
      else .done (.ok ()) := by
  unfold checkOutputDir
  rw [sound]
  refine congrArg (Procedure.call _) (funext fun there => ?_)
  cases there with
  | false => rfl
  | true =>
    refine congrArg (Procedure.call _) (funext fun isDir => ?_)
    cases isDir <;> rfl

theorem checkOutputDir_eq_ok_iff {script : MemoryScript} {s : MemoryState} :
    ((checkOutputDir dir).run.run script.world s).1 = .ok () ↔
      dir.textFault? = none ∧ (s.disk.hasFile dir → s.disk.hasDir dir) := by
  cases fault : dir.textFault? with
  | some reason =>
    unfold checkOutputDir
    rw [fault]
    constructor
    · rintro ⟨⟩
    · rintro ⟨⟨⟩, _⟩
  | none =>
    rw [checkOutputDir_eq fault]
    cases file : s.disk.hasFile dir <;> cases found : s.disk.hasDir dir <;>
      simp [MemoryScript.world, file, found]

end OutputDir

namespace Plan

variable {p q : Plan} {root : Path}

theorem PlainNames.eq_of_sourcePath_same (hp : p.PlainNames) (hq : q.PlainNames)
    (same : (p.sourcePath root).same (q.sourcePath root)) :
    p.target.packageSegments = q.target.packageSegments ∧ p.generatedName = q.generatedName := by
  rw [same_iff, hp.components_sourcePath, hq.components_sourcePath, hp.components_packageDir,
    hq.components_packageDir, List.append_assoc, List.append_assoc,
    List.append_cancel_left_eq] at same
  obtain ⟨segments, file⟩ := List.append_inj' same rfl
  constructor
  · apply List.map_injective_iff.mpr _ segments
    intro a b h
    exact OsText.ofChars_injective (Component.name.inj h)
  · simp only [List.cons.injEq, Component.name.injEq, and_true,
      List.append_cancel_right_eq] at file
    have names := congrArg OsText.display file
    rwa [OsText.display_ofString, OsText.display_ofString] at names

theorem PlainNames.not_sourcePath_same_root (plain : p.PlainNames) :
    ¬ (p.sourcePath root).same root := by
  rw [same_iff, plain.components_sourcePath, plain.components_packageDir, List.append_assoc]
  intro same
  have length := congrArg List.length same
  simp at length

section Quiet

variable {script : MemoryScript} (quiet : script.faults = []) (p : Plan) (root : Path)
  (s : MemoryState)
include quiet

theorem writeSource_of_quiet :
    let run := (p.writeSource root).run.run script.world s
    run.1 = .ok (p.sourcePath root) ∧
      run.2.disk = ((s.disk.addDirs (p.packageDir root)).put (p.sourcePath root) []).put
        (p.sourcePath root) (sourceBytes p.render) := by
  simp only [writeSource_eq, writeEscaped_eq, Procedure.run_call, Procedure.run_bind,
    MemoryScript.world, MemoryState.faultOf?, MemoryScript.faultAt?_of_quiet quiet,
    MemoryState.write, MemoryScript.streamFault?_of_quiet quiet, MemoryState.record,
    Procedure.run_done, MemoryDisk.read?_put_self, Option.getD_some, List.nil_append, and_self]

end Quiet

end Plan

namespace Store

variable (s : Store) (outputDir : Path)

def implementEach : List String → Procedure (List (Except Failure Path))
  | [] => .done []
  | name :: rest => (s.implement name outputDir).run.bind fun result =>
      (implementEach rest).bind fun results => .done (result :: results)

/-- The source that is written for a name, or why there is no plan for it. -/
def sourceFor (name : String) : Except Failure Path :=
  (s.planFor name).map fun p => p.sourcePath outputDir

/-- Two different names, if there are plans for both, are planned for targets that differ in their
package or in their simple name. A name may stand in the list several times. -/
def DistinctTargets (names : List String) : Prop :=
  ∀ m ∈ names, ∀ n ∈ names, m ≠ n → ∀ p q, s.planFor m = .ok p → s.planFor n = .ok q →
    (p.target.package?, p.target.simpleName) ≠ (q.target.package?, q.target.simpleName)

/-- The disk `after` is `before` with the sources of all names that can be planned and with the
directories above them. -/
structure Generated (names : List String) (before after : MemoryDisk) : Prop where
  written : ∀ n ∈ names, ∀ p, s.planFor n = .ok p →
    after.read? (p.sourcePath outputDir) = some (sourceBytes p.render)
  others : ∀ f, (∀ n ∈ names, ∀ p, s.planFor n = .ok p → ¬ (p.sourcePath outputDir).same f) →
    after.read? f = before.read? f
  dirs : ∀ f, after.hasDir f ↔ before.hasDir f ∨
    ∃ n ∈ names, ∃ p, s.planFor n = .ok p ∧ ∃ r ∈ (p.packageDir outputDir).withAncestors, r.same f

variable {s outputDir} {names more : List String} {d e e' : MemoryDisk}

theorem DistinctTargets.mono (distinct : s.DistinctTargets more) (sub : names ⊆ more) :
    s.DistinctTargets names :=
  fun m hm n hn => distinct m (sub hm) n (sub hn)

/-- Names for which one file is written are one name. -/
theorem DistinctTargets.eq_of_sourcePath_same (distinct : s.DistinctTargets names) {m n : String}
    (hm : m ∈ names) (hn : n ∈ names) {p q : Plan} (planned : s.planFor m = .ok p)
    (planned' : s.planFor n = .ok q)
    (same : (p.sourcePath outputDir).same (q.sourcePath outputDir)) : m = n := by
  by_contra other
  obtain ⟨segments, generated⟩ := (Plan.plainNames_of_planFor planned).eq_of_sourcePath_same
    (Plan.plainNames_of_planFor planned') same
  rw [(planFor_eq_ok planned).2.2, (planFor_eq_ok planned').2.2] at generated
  apply distinct m hm n hn other p q planned planned'
  rw [Target.package?, Target.package?, segments]
  exact congrArg _ ((String.append_left_inj generatedSuffix).mp generated)

namespace Generated

theorem nil (d : MemoryDisk) : s.Generated outputDir [] d d := by
  constructor <;> simp

theorem append (first : s.Generated outputDir names d e) (later : s.Generated outputDir more e e')
    (distinct : s.DistinctTargets (names ++ more)) :
    s.Generated outputDir (names ++ more) d e' := by
  constructor
  case written =>
    intro n hn p planned
    by_cases again : n ∈ more
    · exact later.written n again p planned
    · have first_n : n ∈ names := (List.mem_append.mp hn).resolve_right again
      rw [later.others, first.written n first_n p planned]
      intro m hm q planned' same
      obtain rfl := distinct.eq_of_sourcePath_same (List.mem_append_right _ hm) hn planned' planned
        same
      exact again hm
  case others =>
    intro f other
    rw [later.others f fun n hn => other n (List.mem_append_right _ hn),
      first.others f fun n hn => other n (List.mem_append_left _ hn)]
  case dirs =>
    intro f
    rw [later.dirs, first.dirs]
    simp only [List.mem_append, or_and_right, exists_or, or_assoc]

/-- What is generated is told by the set of the names. -/
theorem alike (one : s.Generated outputDir names d e) (other : s.Generated outputDir more d e')
    (same : ∀ n, n ∈ names ↔ n ∈ more) : e.Alike e' := by
  constructor
  case files =>
    intro f
    by_cases own : ∃ n ∈ names, ∃ p, s.planFor n = .ok p ∧ (p.sourcePath outputDir).same f
    · obtain ⟨n, hn, p, planned, own⟩ := own
      rw [← MemoryDisk.read?_congr own, ← MemoryDisk.read?_congr own,
        one.written n hn p planned, other.written n ((same n).mp hn) p planned]
    · have outside : ∀ n ∈ names, ∀ p, s.planFor n = .ok p → ¬ (p.sourcePath outputDir).same f :=
        fun n hn p planned own' => own ⟨n, hn, p, planned, own'⟩
      rw [one.others f outside, other.others f fun n hn => outside n ((same n).mpr hn)]
  case dirs =>
    intro f
    rw [one.dirs, other.dirs]
    simp only [same]

/-- An accepted output directory is still accepted: no source stands at its own path. -/
theorem accepted {script : MemoryScript} {state state' : MemoryState}
    (generated : s.Generated outputDir names state.disk state'.disk)
    (accepted : ((checkOutputDir outputDir).run.run script.world state).1 = .ok ()) :
    ((checkOutputDir outputDir).run.run script.world state').1 = .ok () := by
  rw [checkOutputDir_eq_ok_iff] at accepted ⊢
  refine ⟨accepted.1, ?_⟩
  have kept : state'.disk.read? outputDir = state.disk.read? outputDir := by
    apply generated.others
    intro n _ p planned
    exact (Plan.plainNames_of_planFor planned).not_sourcePath_same_root
  rw [MemoryDisk.hasFile, kept]
  intro file
  exact (generated.dirs _).mpr (.inl (accepted.2 file))

end Generated

section Runs

variable {script : MemoryScript} {state : MemoryState}

theorem implement_of_quiet (name : String) (quiet : script.faults = [])
    (accepted : ((checkOutputDir outputDir).run.run script.world state).1 = .ok ()) :
    let run := (s.implement name outputDir).run.run script.world state
    run.1 = s.sourceFor outputDir name ∧
      s.Generated outputDir [name] state.disk run.2.disk := by
  have checked := ((asks_checkOutputDir outputDir).untouched script state).2
  have course : (s.implement name outputDir).run.run script.world state =
      (Action.ofExcept (s.planFor name) >>= fun p => p.writeSource outputDir).run.run script.world
        state := by
    change (screened (checkOutputDir outputDir) (s.planFor name) fun p =>
      p.writeSource outputDir).run.run script.world state = _
    rw [run_screened, Procedure.run_andThen_of_ok accepted, checked]
  dsimp only
  rw [course, sourceFor]
  cases planned : s.planFor name with
  | error e =>
    refine ⟨rfl, ?_⟩
    change s.Generated outputDir [name] state.disk state.disk
    constructor <;> simp [planned]
  | ok p =>
    obtain ⟨ok, disk⟩ := p.writeSource_of_quiet quiet outputDir state
    refine ⟨ok, ?_⟩
    change s.Generated outputDir [name] state.disk
      ((p.writeSource outputDir).run.run script.world state).2.disk
    rw [disk]
    constructor
    case written =>
      simp [planned, MemoryDisk.read?_put_self]
    case others =>
      intro f other
      have apart := other name List.mem_cons_self p planned
      rw [MemoryDisk.read?_put_of_not_same apart, MemoryDisk.read?_put_of_not_same apart,
        MemoryDisk.read?_addDirs]
    case dirs =>
      intro f
      rw [MemoryDisk.hasDir, MemoryDisk.dirs_put, MemoryDisk.dirs_put, ← MemoryDisk.hasDir,
        MemoryDisk.hasDir_addDirs]
      simp [planned]

theorem implementEach_of_quiet (quiet : script.faults = [])
    (accepted : ((checkOutputDir outputDir).run.run script.world state).1 = .ok ())
    (distinct : s.DistinctTargets names) :
    let run := (s.implementEach outputDir names).run script.world state
    run.1 = names.map (s.sourceFor outputDir) ∧
      s.Generated outputDir names state.disk run.2.disk := by
  induction names generalizing state with
  | nil => exact ⟨rfl, Generated.nil _⟩
  | cons name rest ih =>
    obtain ⟨result, first⟩ := implement_of_quiet name quiet accepted
    obtain ⟨results, later⟩ := ih (first.accepted accepted)
      (distinct.mono (List.subset_cons_self _ _))
    simp only [implementEach, Procedure.run_bind, Procedure.run_done, List.map_cons]
    rw [result, results]
    exact ⟨rfl, first.append later distinct⟩

end Runs

/-- What runs for several names come to, whatever their order. In every list of these names, also in
one with repetitions, each run ends with the source of its name or with the failure of its plan. The
disk afterwards has the sources of the names and is otherwise unchanged, and it is the same for every
such list; and one more run for any of the names ends as the one before and changes nothing. -/
structure OrderFree (s : Store) (outputDir : Path) (names : List String) (script : MemoryScript)
    (before : MemoryState) : Prop where
  planned : ∀ n ∈ names, ∀ p, s.planFor n = .ok p →
    s.sourceFor outputDir n = .ok (p.sourcePath outputDir)
  results : ∀ order : List String, (∀ n, n ∈ order ↔ n ∈ names) →
    ((s.implementEach outputDir order).run script.world before).1 =
      order.map (s.sourceFor outputDir)
  generated : s.Generated outputDir names before.disk
    ((s.implementEach outputDir names).run script.world before).2.disk
  disks : ∀ order : List String, (∀ n, n ∈ order ↔ n ∈ names) →
    ((s.implementEach outputDir order).run script.world before).2.disk.Alike
      ((s.implementEach outputDir names).run script.world before).2.disk
  again : ∀ order : List String, (∀ n, n ∈ order ↔ n ∈ names) → ∀ n ∈ names,
    let reached := ((s.implementEach outputDir order).run script.world before).2
    let rerun := (s.implement n outputDir).run.run script.world reached
    rerun.1 = s.sourceFor outputDir n ∧ rerun.2.disk.Alike reached.disk

/-- On a disk without faults, and for targets that differ in their package or their simple name, the
order of the runs makes no difference, and no run has to be made twice. -/
theorem implementEach_orderFree (s : Store) (outputDir : Path) (names : List String)
    (distinct : s.DistinctTargets names) (script : MemoryScript) (quiet : script.faults = [])
    (before : MemoryState)
    (accepted : ((checkOutputDir outputDir).run.run script.world before).1 = .ok ()) :
    s.OrderFree outputDir names script before := by
  have run : ∀ order : List String, (∀ n, n ∈ order ↔ n ∈ names) →
      ((s.implementEach outputDir order).run script.world before).1 =
        order.map (s.sourceFor outputDir) ∧
      s.Generated outputDir order before.disk
        ((s.implementEach outputDir order).run script.world before).2.disk := by
    intro order same
    apply implementEach_of_quiet quiet accepted
    exact distinct.mono fun n hn => (same n).mp hn
  constructor
  case planned =>
    intro n _ p planned
    rw [sourceFor, planned]
    rfl
  case results => exact fun order same => (run order same).1
  case generated => exact (run names fun _ => Iff.rfl).2
  case disks => exact fun order same => (run order same).2.alike (run names fun _ => Iff.rfl).2 same
  case again =>
    intro order same n hn reached rerun
    have first := (run order same).2
    obtain ⟨result, once⟩ := implement_of_quiet n quiet (first.accepted accepted)
    have known : ∀ m, m ∈ order ++ [n] ↔ m ∈ order := by
      intro m
      rw [List.mem_append, List.mem_singleton, or_iff_left_of_imp]
      rintro rfl
      exact (same m).mpr hn
    have both := first.append once (distinct.mono fun m hm => (same m).mp ((known m).mp hm))
    exact ⟨result, both.alike first known⟩

/-- A store with two interfaces of one simple name, and the plan for the one that `taskStore` does not
have. -/
def twoTasks : Store :=
  Store.empty.insert
    ⟨[{ name := "a.Task", kind := .interfaceType }, { name := "b.Task", kind := .interfaceType }]⟩

def otherTaskPlan : Plan :=
  { Plan.taskPlan with
    target := ⟨"b.Task", .interfaceType, (Modifiers.none.insert .interface).insert .abstract⟩ }

theorem planFor_twoTasks :
    twoTasks.planFor "a.Task" = .ok Plan.taskPlan ∧ twoTasks.planFor "b.Task" = .ok otherTaskPlan ∧
      (twoTasks.planFor "c.Task").toOption = none := by
  refine ⟨?_, ?_, ?_⟩ <;> cbv

theorem distinctTargets_twoTasks :
    twoTasks.DistinctTargets ["a.Task", "c.Task", "b.Task", "a.Task"] := by
  obtain ⟨first, second, missing⟩ := planFor_twoTasks
  have plans : ∀ n ∈ ["a.Task", "c.Task", "b.Task", "a.Task"], ∀ p, twoTasks.planFor n = .ok p →
      n = "a.Task" ∧ p = Plan.taskPlan ∨ n = "b.Task" ∧ p = otherTaskPlan := by
    intro n hn p planned
    simp only [List.mem_cons, List.not_mem_nil, or_false] at hn
    rcases hn with rfl | rfl | rfl | rfl
    · exact .inl ⟨rfl, Except.ok.inj (planned.symm.trans first)⟩
    · simp [planned, Except.toOption] at missing
    · exact .inr ⟨rfl, Except.ok.inj (planned.symm.trans second)⟩
    · exact .inl ⟨rfl, Except.ok.inj (planned.symm.trans first)⟩
  have packages : Plan.taskPlan.target.package? ≠ otherTaskPlan.target.package? := by decide
  intro m hm n hn other p q planned planned'
  rcases plans m hm p planned with ⟨rfl, rfl⟩ | ⟨rfl, rfl⟩ <;>
    rcases plans n hn q planned' with ⟨rfl, rfl⟩ | ⟨rfl, rfl⟩
  · exact absurd rfl other
  · exact fun same => packages (congrArg Prod.fst same)
  · exact fun same => packages (congrArg Prod.fst same).symm
  · exact absurd rfl other

/-- Two interfaces and an unknown name, on an empty disk. -/
theorem twoTasks_orderFree :
    let names := ["a.Task", "c.Task", "b.Task", "a.Task"]
    twoTasks.DistinctTargets names ∧
    ((checkOutputDir (.ofString "out")).run.run (Plan.quietDisk "1").world ⟨.empty, []⟩).1 = .ok () ∧
    twoTasks.OrderFree (.ofString "out") names (Plan.quietDisk "1") ⟨.empty, []⟩ := by
  have accepted : ((checkOutputDir (.ofString "out")).run.run (Plan.quietDisk "1").world
      ⟨.empty, []⟩).1 = .ok () := by
    rw [checkOutputDir_eq_ok_iff]
    decide
  exact ⟨distinctTargets_twoTasks, accepted, implementEach_orderFree twoTasks (.ofString "out") _
    distinctTargets_twoTasks (Plan.quietDisk "1") rfl _ accepted⟩

end Store
end JavaStubs
