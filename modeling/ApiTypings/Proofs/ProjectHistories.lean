import ApiTypings.Proofs.Histories
import ApiTypings.Proofs.Members
import Mathlib.Data.Finset.Card

/-!
# A project is what was done to it

The module of a path comes into being when it is first asked for, and then names are imported
into it and declarations added. However the steps on different modules are mixed, each of them
touches one module only, so a module is what its own steps make of an empty one, and there is
one for each path that was asked for.
-/

namespace ApiTypings

/-- The names that tidy imports list for a path are those that are recorded. -/
theorem Imports.Tidy.mem_names {imports : Imports} (h : imports.Tidy) {path name : String} :
    name ∈ imports.names path ↔ imports.Records path name := by
  unfold Imports.names Imports.Records
  cases hm : member? path imports with
  | none =>
    refine iff_of_false List.not_mem_nil ?_
    rintro ⟨names, he, _⟩
    rw [(member?_eq_some_iff h.keyed).mpr he] at hm
    cases hm
  | some names => exact (h.records_iff ((member?_eq_some_iff h.keyed).mp hm)).symm

theorem Module.after_path {τ : Type} (m : Module τ) (step : Module.Step τ) :
    (m.after step).path = m.path := by
  cases step with
  | importing path name => exact importing_path m path name
  | declaring d => exact declare_path m d

namespace Project

theorem module?_store (project : Project) (m : Module Json) (path : String) :
    (project.store m).module? path = if m.path = path then some m else project.module? path := by
  unfold module? store
  induction project.modules with
  | nil => by_cases hm : m.path = path <;> simp [put, hm]
  | cons n rest ih =>
    by_cases hn : n.path = m.path
    · by_cases hm : m.path = path <;> simp [put, hn, hm]
    · rw [put, if_neg hn]
      by_cases hp : n.path = path
      · have hm : m.path ≠ path := fun hm => hn (hp.trans hm.symm)
        simp [hp, hm]
      · simpa [hp] using ih

/-- The module that was stored is the one of its path, and no other path has another one. -/
theorem moduleAt_store (project : Project) (m : Module Json) (path : String) :
    (project.store m).moduleAt path = if m.path = path then m else project.moduleAt path := by
  unfold moduleAt
  rw [module?_store]
  split <;> rfl

/-! ## Steps -/

/-- What is done to a project: the module of a path is asked for, and it may be changed. -/
inductive Step
  | visit (path : String)
  | change (path : String) (step : Module.Step Json)

namespace Step

/-- The path of the module that is asked for. -/
def path : Step → String
  | visit path => path
  | change path _ => path

/-- What the step does to the module of a path. -/
def on? (path : String) : Step → Option (Module.Step Json)
  | visit _ => none
  | change p step => if p = path then some step else none

/-- The declaration that the step adds to the module of a path. -/
def declared? (path : String) (step : Step) : Option (Declaration Json) :=
  (step.on? path).bind Module.Step.declared?

theorem on?_eq_some {path : String} {step : Step} {done : Module.Step Json} :
    step.on? path = some done ↔ step = .change path done := by
  cases step with
  | visit p => simp [on?]
  | change p other => by_cases hp : p = path <;> simp [on?, hp]

end Step

/-- The module that the step leaves in the project. -/
def Step.leaves (project : Project) : Step → Module Json
  | visit path => project.moduleAt path
  | change path step => (project.moduleAt path).after step

/-- The project after a step. -/
def after (project : Project) (step : Step) : Project := project.store (step.leaves project)

/-- The project after these steps, one after the other, on a new one. -/
def replay (steps : List Step) : Project := steps.foldl after {}

/-- There is one module for each path that was asked for, and it is what the steps on it have
made. -/
structure Recounts (project : Project) (steps : List Step) : Prop where
  keyed : project.Keyed
  paths : ∀ path, path ∈ project.modules.map Module.path ↔ path ∈ steps.map Step.path
  moduleAt : ∀ path, project.moduleAt path = Module.replay path (steps.filterMap (Step.on? path))

variable {project : Project} {steps : List Step}

theorem Step.leaves_path (project : Project) (step : Step) :
    (step.leaves project).path = step.path := by
  cases step with
  | visit path => exact project.moduleAt_path path
  | change path step => exact (Module.after_path _ step).trans (project.moduleAt_path path)

/-- A step on one module is the next of its own steps. -/
theorem Recounts.leaves (h : project.Recounts steps) (step : Step) :
    step.leaves project =
      Module.replay step.path ((steps ++ [step]).filterMap (Step.on? step.path)) := by
  cases step with
  | visit path =>
    have hown : [Step.visit path].filterMap (Step.on? path) = [] := rfl
    rw [Step.path, List.filterMap_append, hown, List.append_nil, Step.leaves, h.moduleAt]
  | change path step =>
    have hown : [Step.change path step].filterMap (Step.on? path) = [step] := by simp [Step.on?]
    rw [Step.path, List.filterMap_append, hown, Step.leaves, h.moduleAt, Module.replay,
      Module.replay, List.foldl_append]
    rfl

theorem Recounts.after (h : project.Recounts steps) (step : Step) :
    (project.after step).Recounts (steps ++ [step]) := by
  refine ⟨h.keyed.store _, fun path => ?_, fun path => ?_⟩
  · have hpaths : ((project.after step).modules).map Module.path =
        if step.path ∈ project.modules.map Module.path then project.modules.map Module.path
        else project.modules.map Module.path ++ [step.path] := by
      rw [← step.leaves_path project]
      exact map_path_put _ _
    rw [hpaths, List.map_append, List.mem_append, List.map_singleton, List.mem_singleton,
      ← h.paths]
    split
    · rename_i hstep
      exact ⟨.inl, fun hp => hp.elim id fun he => he ▸ hstep⟩
    · rw [List.mem_append, List.mem_singleton]
  · rw [Project.after, moduleAt_store, step.leaves_path]
    split
    · rename_i hp
      rw [← hp, h.leaves]
    · rename_i hp
      have hskip : step.on? path = none := by
        cases step with
        | visit => rfl
        | change p done => exact if_neg hp
      rw [h.moduleAt, List.filterMap_append, List.filterMap_cons_none hskip, List.filterMap_nil,
        List.append_nil]

theorem replay_recounts (steps : List Step) : (replay steps).Recounts steps := by
  induction steps using List.reverseRecOn with
  | nil => exact ⟨List.nodup_nil, by simp [replay], fun path => rfl⟩
  | append_singleton steps step ih =>
    unfold replay
    rw [List.foldl_append]
    exact ih.after step

theorem Recounts.mem_steps {path : String} {done : Module.Step Json} :
    done ∈ steps.filterMap (Step.on? path) ↔ .change path done ∈ steps := by
  simp only [List.mem_filterMap, Step.on?_eq_some, exists_eq_right]

/-- The modules in the order of their paths are those of the paths that were asked for, each
once. -/
theorem Recounts.sorted (h : project.Recounts steps) :
    (project.sorted.map Module.path).Pairwise (· < ·) ∧
      (∀ path, path ∈ project.sorted.map Module.path ↔ path ∈ steps.map Step.path) ∧
      project.size = (steps.map Step.path).toFinset.card := by
  have hperm : (project.sorted.map Module.path).Perm (project.modules.map Module.path) :=
    (List.mergeSort_perm _ _).map _
  refine ⟨?_, fun path => ?_, ?_⟩
  · have hle := List.pairwise_map.mpr (pairwise_sortedBy Module.path project.modules)
    exact (hle.and (hperm.nodup_iff.mpr h.keyed)).imp fun hab => lt_of_le_of_ne hab.1 hab.2
  · rw [hperm.mem_iff, h.paths]
  · have hpaths : (project.modules.map Module.path).toFinset = (steps.map Step.path).toFinset :=
      Finset.ext fun path => by rw [List.mem_toFinset, List.mem_toFinset, h.paths]
    rw [← hpaths, List.toFinset_card_of_nodup h.keyed, List.length_map]
    rfl

/-- What is in a project is what was done to it. Its modules in order are those of the paths that
were asked for, each once, and there are as many of them. The module of a path holds the
declarations that were added to it, in order; it has an entry for a path exactly if that is another
one and a name was imported from there, one entry for each path, and in it are these names, each
once. So it has none for its own path. -/
theorem replay_accounts (steps : List Step) :
    let project := replay steps
    (project.sorted.map Module.path).Pairwise (· < ·) ∧
    (∀ path, path ∈ project.sorted.map Module.path ↔ path ∈ steps.map Step.path) ∧
    project.size = (steps.map Step.path).toFinset.card ∧
    project.sorted.map (fun m => project.moduleAt m.path) = project.sorted ∧
    ∀ path,
      let m := project.moduleAt path
      m.path = path ∧ m.declarations = steps.filterMap (Step.declared? path) ∧
      (∀ source, source ∈ m.imports.map Prod.fst ↔
        source ≠ path ∧ ∃ name, .change path (.importing source name) ∈ steps) ∧
      (∀ source name, name ∈ m.imports.names source ↔
        source ≠ path ∧ .change path (.importing source name) ∈ steps) ∧
      m.imports.Tidy ∧ path ∉ m.imports.map Prod.fst := by
  have h := replay_recounts steps
  obtain ⟨hordered, hpaths, hsize⟩ := h.sorted
  refine ⟨hordered, hpaths, hsize, ?_, fun path => ?_⟩
  · have hself : ∀ m ∈ (replay steps).sorted, (replay steps).moduleAt m.path = m := by
      intro m hm
      rw [moduleAt, h.keyed.module?_eq_some.mpr ⟨List.mem_mergeSort.mp hm, rfl⟩, Option.getD_some]
    rw [List.map_congr_left hself, List.map_id']
  · have hm := Module.replay_recounts path (steps.filterMap (Step.on? path))
    rw [← h.moduleAt path] at hm
    have hkeys : ∀ source, source ∈ ((replay steps).moduleAt path).imports.map Prod.fst ↔
        source ≠ path ∧ ∃ name, .change path (.importing source name) ∈ steps := by
      intro source
      rw [hm.imports.paths]
      simp only [Recounts.mem_steps, List.map_nil, List.not_mem_nil, false_or, exists_and_left]
    refine ⟨hm.path, ?_, hkeys, fun source name => ?_, hm.tidy, fun hp => ?_⟩
    · rw [hm.declarations, List.filterMap_filterMap]
      rfl
    · rw [hm.tidy.mem_names, hm.imports.records, Recounts.mem_steps,
        or_iff_right (Imports.not_records_nil source name)]
    · exact ((hkeys path).mp hp).1 rfl

end Project

end ApiTypings
