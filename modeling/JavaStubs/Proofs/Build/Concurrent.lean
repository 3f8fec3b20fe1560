import JavaStubs.Proofs.Build.Confinement
import JavaStubs.Proofs.World.Interleaving
import JavaStubs.Proofs.World.Subtrees

/-!
# Builds do not interfere

Two builds below one root, with identifiers of their own, have scratch directories of which neither
lies below the other. On one disk without faults each of them ends as if it ran alone, however their
requests are interleaved.
-/

namespace JavaStubs

open JavaStubs.Path

namespace Request

def OfBuild (scratch destination : Path) (q : Request) : Prop :=
  q = .freshId ∨ q.Within scratch destination ∨ q = .removeDirAll scratch

namespace OfBuild

variable {scratch destination other f : Path} {q : Request}

theorem asksBelow (ofBuild : q.OfBuild scratch destination) : q.AsksBelow scratch := by
  rcases ofBuild with rfl | within | rfl
  · trivial
  · cases q with
    | write | read | removeFile | pathExists => exact within
    | isDir | isFile | isProgram => exact within.elim
    | _ => trivial
  · trivial

theorem not_touches (ofBuild : q.OfBuild scratch destination)
    (apart : ¬ scratch.isUnder other ∧ ¬ other.isUnder scratch) (below : f.isUnder other) :
    ¬ q.touches f := by
  intro touches
  have own : f.isUnder scratch := by
    rcases ofBuild with rfl | within | rfl
    · exact touches.elim
    · exact within.isUnder_of_touches touches
    · exact touches
  rcases isUnder_or_isUnder own below with h | h
  · exact apart.1 h
  · exact apart.2 h

theorem not_touchesDir (ofBuild : q.OfBuild scratch destination)
    (apart : ¬ scratch.isUnder other ∧ ¬ other.isUnder scratch)
    (outside : ∀ parent, destination.parent? = some parent → ¬ parent.isUnder other)
    (below : f.isUnder other) : ¬ q.touchesDir f := by
  intro touches
  have place : f.isUnder scratch ∨ scratch.isUnder f ∨
      ∃ parent, destination.parent? = some parent ∧ parent.isUnder f := by
    rcases ofBuild with rfl | within | rfl
    · exact touches.elim
    · exact within.place_of_touchesDir touches
    · exact .inl touches
  rcases place with own | above | ⟨parent, hparent, above⟩
  · rcases isUnder_or_isUnder own below with h | h
    · exact apart.1 h
    · exact apart.2 h
  · exact apart.1 (isUnder_trans above below)
  · exact outside parent hparent (isUnder_trans above below)

end OfBuild

end Request

theorem components_scratchDir {id : String} (plain : '/' ∉ id.toList) (root : Path) :
    (scratchDir root id).components =
      root.components ++ [.name (OsText.ofString ("implementor-" ++ id))] := by
  have front : OsText.ofString ("implementor-" ++ id) =
      .char 'i' :: (OsText.ofString "mplementor-" ++ OsText.ofString id) := by
    rw [OsText.ofString_append]
    rfl
  apply components_child
  constructor
  case noSlash =>
    rw [OsText.ofString_append, List.mem_append]
    rintro (fixed | own)
    · exact absurd fixed (by decide)
    · exact plain (char_mem_ofChars_iff.mp own)
  case nonempty => simp [front]
  case notHere => simp [front, dot]
  case notUp => simp [front, dot]

theorem scratchDir_apart {id₁ id₂ : String} (plain₁ : '/' ∉ id₁.toList) (plain₂ : '/' ∉ id₂.toList)
    (distinct : id₁ ≠ id₂) (root : Path) :
    ¬ (scratchDir root id₁).isUnder (scratchDir root id₂) := by
  rw [isUnder_iff, components_scratchDir plain₁, components_scratchDir plain₂]
  intro above
  have same := List.append_cancel_left (above.eq_of_length (by simp))
  simp only [List.cons.injEq, Component.name.injEq, and_true, OsText.ofString_append,
    List.append_cancel_left_eq] at same
  have sameId := congrArg OsText.display same
  rw [OsText.display_ofString, OsText.display_ofString] at sameId
  exact distinct sameId.symm

namespace Plan

variable {p : Plan} {setting : BuildSetting} {script : MemoryScript}

theorem PlainNames.asksIn_build (plain : p.PlainNames) (setting : BuildSetting)
    (script : MemoryScript) :
    (p.build setting).run.AsksIn script.world
      (Request.OfBuild (scratchDir setting.scratchRoot script.id) setting.destination) := by
  rw [p.build_eq]
  refine ⟨.inl rfl, fun _ => ?_⟩
  apply Procedure.Asks.asksIn
  apply Procedure.Asks.bind
  · apply (plain.asks_buildIn_within setting _).mono
    intro q within
    exact .inr (.inl within)
  · intro result
    exact ⟨.inr (.inr rfl), fun _ => trivial⟩

theorem shielded {scratch destination other destination' : Path} {script' : MemoryScript}
    (quiet : script.faults = [])
    (apart : ¬ other.isUnder scratch ∧ ¬ scratch.isUnder other)
    (outside : ∀ parent, destination'.parent? = some parent → ¬ parent.isUnder scratch) :
    Procedure.Shielded script.world script'.world (Request.OfBuild scratch destination)
      (Request.OfBuild other destination') fun s t => s.disk.AgreeUnder scratch t.disk where
  answer ofBuild agree := (MemoryScript.world_of_agree quiet ofBuild.asksBelow agree).1
  step ofBuild agree := (MemoryScript.world_of_agree quiet ofBuild.asksBelow agree).2
  frame ofBuild agree := MemoryScript.agree_of_untouched
    (fun _ below => ofBuild.not_touches apart below)
    (fun _ below => ofBuild.not_touchesDir apart outside below) agree

/-- On a disk without faults, two builds below one root end as if each ran alone, however their
requests are interleaved. -/
theorem builds_runTogether (store₁ store₂ : Store) (name₁ name₂ : String) (p₁ p₂ : Plan)
    (planned₁ : store₁.planFor name₁ = .ok p₁) (planned₂ : store₂.planFor name₂ = .ok p₂)
    (setting₁ setting₂ : BuildSetting) (sameRoot : setting₁.scratchRoot = setting₂.scratchRoot)
    (script₁ script₂ : MemoryScript) (quiet₁ : script₁.faults = []) (quiet₂ : script₂.faults = [])
    (plain₁ : '/' ∉ script₁.id.toList) (plain₂ : '/' ∉ script₂.id.toList)
    (distinct : script₁.id ≠ script₂.id)
    (outside₁ : ∀ parent, setting₁.destination.parent? = some parent →
      ¬ parent.isUnder (setting₂.scratchRoot.child ("implementor-" ++ script₂.id)))
    (outside₂ : ∀ parent, setting₂.destination.parent? = some parent →
      ¬ parent.isUnder (setting₁.scratchRoot.child ("implementor-" ++ script₁.id)))
    (turns : List Turn) (before : MemoryState) :
    Procedure.runTogether script₁.world script₂.world turns (p₁.build setting₁).run
        (p₂.build setting₂).run before =
      ((p₁.build setting₁).run.course script₁.world before,
        (p₂.build setting₂).run.course script₂.world before) := by
  have apart : ¬ (scratchDir setting₂.scratchRoot script₂.id).isUnder
      (scratchDir setting₁.scratchRoot script₁.id) := by
    rw [sameRoot]
    exact scratchDir_apart plain₂ plain₁ distinct.symm setting₂.scratchRoot
  have apart' : ¬ (scratchDir setting₁.scratchRoot script₁.id).isUnder
      (scratchDir setting₂.scratchRoot script₂.id) := by
    rw [sameRoot]
    exact scratchDir_apart plain₁ plain₂ distinct setting₂.scratchRoot
  exact (shielded quiet₁ ⟨apart, apart'⟩ outside₂).runTogether_eq
    (shielded quiet₂ ⟨apart', apart⟩ outside₁) turns
    ((plainNames_of_planFor planned₁).asksIn_build setting₁ script₁)
    ((plainNames_of_planFor planned₂).asksIn_build setting₂ script₂)
    (MemoryDisk.AgreeUnder.refl _ _) (MemoryDisk.AgreeUnder.refl _ _)

/-- A disk without faults, and a compiler that leaves a class file. -/
def quietDisk (id : String) : MemoryScript :=
  { faults := [], compiler := ⟨none, ⟨0, ""⟩, some [0xCA, 0xFE]⟩, archiveError? := none, id := id }

theorem outside_taskSetting :
    taskSetting.destination.parent? = some (.ofString "out") ∧
    ¬ (Path.ofString "out").isUnder (scratchDir taskSetting.scratchRoot "1") ∧
    ¬ (Path.ofString "out").isUnder (scratchDir taskSetting.scratchRoot "2") := by
  decide

theorem quietDisk_runTogether :
    let turns := (List.replicate 12 [Turn.first, .second]).flatten
    let build := (taskPlan.build taskSetting).run
    taskStore.planFor "a.Task" = .ok taskPlan ∧
    Procedure.runTogether (quietDisk "1").world (quietDisk "2").world turns build build ⟨.empty, []⟩ =
      (build.course (quietDisk "1").world ⟨.empty, []⟩,
        build.course (quietDisk "2").world ⟨.empty, []⟩) := by
  obtain ⟨parent, outside₁, outside₂⟩ := outside_taskSetting
  refine ⟨planFor_taskStore, ?_⟩
  apply builds_runTogether taskStore taskStore "a.Task" "a.Task" taskPlan taskPlan planFor_taskStore
    planFor_taskStore taskSetting taskSetting rfl (quietDisk "1") (quietDisk "2") rfl rfl (by decide)
    (by decide) (by decide)
  · rintro _ h
    obtain rfl := Option.some.inj (parent.symm.trans h)
    exact outside₂
  · rintro _ h
    obtain rfl := Option.some.inj (parent.symm.trans h)
    exact outside₁

end Plan
end JavaStubs
