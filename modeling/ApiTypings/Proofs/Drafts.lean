import ApiTypings.Proofs.Canonical
import ApiTypings.Proofs.References
import ApiTypings.Proofs.Sketches
import ApiTypings.Typing.Sketching

/-!
# Building into the sketch of a module

A sketch takes over what a step of building has imported into an empty module. That is what the step
would have imported into the module itself: whether it returns and what it imports and notes does
not depend on what the module holds, and names that are added to imports all at once end up
where they do when they are added one by one. So what is built into the sketch of a module, under a
text as its name, is what is built into the module.
-/

namespace ApiTypings

namespace Imports

variable {imports : Imports} {path name : String}

/-- The names that are imported, each with its path. -/
def pairs (imports : Imports) : List (String × String) :=
  imports.flatMap fun (path, names) => names.map (path, ·)

theorem pairs_cons (entry : String × List String) (rest : Imports) :
    pairs (entry :: rest) = entry.2.map (entry.1, ·) ++ pairs rest := List.flatMap_cons

theorem names_cons (p : String) (names : List String) (rest : Imports) (path : String) :
    Imports.names ((p, names) :: rest) path = if p = path then names else Imports.names rest path := by
  by_cases hp : p = path <;> simp [Imports.names, member?, hp]

theorem mem_paths_of_mem_names (h : name ∈ imports.names path) : path ∈ imports.map Prod.fst := by
  induction imports with
  | nil => cases h
  | cons entry rest ih =>
    rw [names_cons] at h
    by_cases hp : entry.1 = path
    · simp [hp]
    · rw [if_neg hp] at h
      exact List.mem_cons_of_mem _ (ih h)

theorem names_insert (path name source : String) :
    (imports.insert path name).names source =
      if path = source ∧ name ∉ imports.names path then imports.names source ++ [name]
      else imports.names source := by
  induction imports with
  | nil => by_cases hs : path = source <;> simp [insert, Imports.names, member?, hs]
  | cons entry rest ih =>
    obtain ⟨p, names⟩ := entry
    by_cases hp : p = path
    · subst hp
      by_cases hs : p = source
      · by_cases hn : name ∈ names <;> simp [insert, names_cons, hs, hn]
      · simp [insert, names_cons, hs]
    · by_cases hs : p = source
      · subst hs
        simp [insert, names_cons, hp, Ne.symm hp]
      · simp [insert, names_cons, hp, hs, ih]

theorem insert_of_mem (h : name ∈ imports.names path) : imports.insert path name = imports := by
  induction imports with
  | nil => cases h
  | cons entry rest ih =>
    obtain ⟨p, names⟩ := entry
    rw [names_cons] at h
    by_cases hp : p = path
    · rw [if_pos hp] at h
      simp [insert, hp, h]
    · rw [if_neg hp] at h
      simp [insert, hp, ih h]

/-- Names of different paths can be added in either order if there is an entry for one of them. -/
theorem insert_comm {source other : String} (hne : path ≠ source)
    (h : path ∈ imports.map Prod.fst) :
    (imports.insert source other).insert path name = (imports.insert path name).insert source other := by
  induction imports with
  | nil => cases h
  | cons entry rest ih =>
    obtain ⟨p, names⟩ := entry
    by_cases hp : p = path
    · subst hp
      simp [insert, hne]
    · have hrest : path ∈ rest.map Prod.fst := by simpa [Ne.symm hp] using h
      by_cases hs : p = source
      · subst hs
        simp [insert, hp]
      · simp [insert, hp, hs, ih hrest]

/-- The imports with these names added, one after the other. -/
def insertAll (imports : Imports) (added : List (String × String)) : Imports :=
  added.foldl (fun imports (path, name) => imports.insert path name) imports

theorem insertAll_append (first second : List (String × String)) :
    imports.insertAll (first ++ second) = (imports.insertAll first).insertAll second :=
  List.foldl_append

theorem names_subset_insertAll (added : List (String × String)) (path : String) :
    imports.names path ⊆ (imports.insertAll added).names path := by
  induction added generalizing imports with
  | nil => exact List.Subset.refl _
  | cons entry rest ih =>
    refine List.Subset.trans ?_ ih
    rw [names_insert]
    split
    · exact List.subset_append_left _ _
    · exact List.Subset.refl _

theorem mem_names_insertAll {added : List (String × String)} (h : (path, name) ∈ added) :
    name ∈ (imports.insertAll added).names path := by
  induction added generalizing imports with
  | nil => cases h
  | cons entry rest ih =>
    rcases List.mem_cons.mp h with rfl | h
    · refine names_subset_insertAll rest path ?_
      rw [names_insert]
      by_cases hn : name ∈ imports.names path <;> simp [hn]
    · exact ih h

/-- A name may as well be added before names of other paths. -/
theorem insertAll_insert {later : List (String × String)} (hlater : ∀ entry ∈ later, entry.1 ≠ path)
    (h : later ≠ [] → path ∈ imports.map Prod.fst) :
    (imports.insert path name).insertAll later = (imports.insertAll later).insert path name := by
  induction later generalizing imports with
  | nil => rfl
  | cons entry rest ih =>
    have hpath := h (by simp)
    have hne : path ≠ entry.1 := (hlater entry (by simp)).symm
    have hrest : ∀ other ∈ rest, other.1 ≠ path := fun other ho => hlater other (by simp [ho])
    have hgrown : path ∈ (imports.insert entry.1 entry.2).map Prod.fst := by
      rw [map_fst_insert]
      split <;> simp [hpath]
    calc (imports.insert path name).insertAll (entry :: rest)
        = ((imports.insert path name).insert entry.1 entry.2).insertAll rest := rfl
      _ = ((imports.insert entry.1 entry.2).insert path name).insertAll rest := by
          rw [insert_comm hne hpath]
      _ = (imports.insertAll (entry :: rest)).insert path name := ih hrest fun _ => hgrown

/-- A name that is imported comes last of those of its path. -/
theorem pairs_insert (h : imports.Grown) (path name : String) :
    ∃ before after, imports.pairs = before ++ after ∧ (∀ entry ∈ after, entry.1 ≠ path) ∧
      (after ≠ [] → path ∈ before.map Prod.fst) ∧
      (imports.insert path name).pairs =
        if (path, name) ∈ before then before ++ after else before ++ (path, name) :: after := by
  induction imports with
  | nil => exact ⟨[], [], rfl, nofun, nofun, rfl⟩
  | cons entry rest ih =>
    obtain ⟨p, names⟩ := entry
    obtain ⟨hfirst, hkeyed⟩ := List.nodup_cons.mp h.keyed
    have hrest : Grown rest := ⟨⟨hkeyed, fun e he => h.names e (List.mem_cons_of_mem _ he)⟩,
      fun e he => h.inhabited e (List.mem_cons_of_mem _ he)⟩
    by_cases hp : p = path
    · subst hp
      refine ⟨names.map (p, ·), pairs rest, rfl, ?_, fun _ => ?_, ?_⟩
      · intro entry he hpath
        obtain ⟨found, hf, hentry⟩ := List.mem_flatMap.mp he
        obtain ⟨_, _, rfl⟩ := List.mem_map.mp hentry
        exact hfirst (List.mem_map.mpr ⟨found, hf, hpath⟩)
      · obtain ⟨first, hf⟩ := List.exists_mem_of_ne_nil names (h.inhabited (p, names) (by simp))
        exact List.mem_map.mpr ⟨(p, first), by simp [hf], rfl⟩
      · by_cases hn : name ∈ names <;> simp [insert, pairs, hn]
    · obtain ⟨before, after, hsplit, hafter, hbefore, hpairs⟩ := ih hrest
      refine ⟨names.map (p, ·) ++ before, after, ?_, hafter, fun hne => ?_, ?_⟩
      · rw [pairs_cons, hsplit, List.append_assoc]
      · simp [hbefore hne]
      · rw [insert, if_neg hp, pairs_cons, hpairs]
        by_cases hm : (path, name) ∈ before <;> simp [hm, hp]

theorem insertAll_pairs_insert {added : Imports} (h : added.Grown) (path name : String) :
    imports.insertAll (added.insert path name).pairs =
      (imports.insertAll added.pairs).insert path name := by
  obtain ⟨before, after, hsplit, hafter, hbefore, hpairs⟩ := pairs_insert h path name
  have hpath : after ≠ [] → path ∈ (imports.insertAll before).map Prod.fst := by
    intro hne
    obtain ⟨entry, he, rfl⟩ := List.mem_map.mp (hbefore hne)
    exact mem_paths_of_mem_names (mem_names_insertAll he)
  rw [hpairs, hsplit]
  split
  · rename_i hm
    exact (insert_of_mem (mem_names_insertAll (List.mem_append_left _ hm))).symm
  · rw [insertAll_append, insertAll_append]
    exact insertAll_insert hafter hpath

end Imports

namespace Module

/-- Importing into a module adds to its imports what is imported into an empty one. -/
theorem importingAll_eq (m : Module Json) (locations : List Location) :
    m.importingAll locations = { m with
      imports := m.imports.insertAll
        (({ path := m.path } : Module Json).importingAll locations).imports.pairs } := by
  -- From the right: the last name is imported into what the others have left, on either side.
  induction locations using List.reverseRecOn with
  | nil => rfl
  | append_singleton rest location ih =>
    have hgrown : (({ path := m.path } : Module Json).importingAll rest).imports.Grown :=
      importingAll_keeps Imports.Grown.insert Imports.grown_nil rest
    rw [importingAll_append, importingAll_append, importingAll_cons, importingAll_nil,
      importingAll_cons, importingAll_nil, importing, importing, importingAll_path,
      importingAll_path]
    by_cases hp : location.path = m.path
    · rw [if_pos hp, if_pos hp, ih]
    · rw [if_neg hp, if_neg hp, Imports.insertAll_pairs_insert hgrown, ih]

end Module

theorem Sketch.absorb_ofModule (m : Module Json) (added : Imports) :
    (Sketch.ofModule m).absorb added =
      Sketch.ofModule { m with imports := m.imports.insertAll added.pairs } := by
  have hnames : ∀ (path : String) (names : List String) (imports : Imports),
      names.foldl (fun table name => insertName (.string path) (.string name)
        (openEntry (.string path) table)) (ofImports imports) =
      ofImports (imports.insertAll (names.map (path, ·))) := by
    intro path names
    induction names with
    | nil => exact fun _ => rfl
    | cons name rest ih =>
      intro imports
      rw [List.foldl_cons, insertName_openEntry, ih]
      rfl
  have hentries : ∀ imports : Imports, added.foldl (fun table entry => entry.2.foldl
        (fun table name => insertName (.string entry.1) (.string name)
          (openEntry (.string entry.1) table)) table) (ofImports imports) =
      ofImports (imports.insertAll added.pairs) := by
    induction added with
    | nil => exact fun _ => rfl
    | cons entry rest ih =>
      intro imports
      rw [List.foldl_cons, hnames, ih, Imports.pairs_cons, Imports.insertAll_append]
  exact congrArg (fun table => { ofModule m with imports := table }) (hentries m.imports)

/-- From any module of the path the step ends in one way, and it imports the same names and notes
the same records. -/
def Building.Uniform {α : Type} (path : String) (step : Building α) : Prop :=
  ∃ r locations notes, ∀ d : Draft, d.module.path = path →
    step.outcome d = (r, { module := d.module.importingAll locations, log := d.log ++ notes })

namespace Building.Uniform

variable {α β : Type} {path : String}

theorem ofExcept (r : Except Failure α) : Building.Uniform path (Task.ofExcept r) := by
  refine ⟨r, [], [], fun d _ => ?_⟩
  rw [Module.importingAll_nil, List.append_nil]
  cases r <;> rfl

theorem pure (a : α) : Building.Uniform path (pure a : Building α) := .ofExcept (.ok a)

theorem throw (e : Failure) : Building.Uniform path (throw e : Building α) := .ofExcept (.error e)

theorem importName (source name : String) :
    Building.Uniform path (ApiTypings.importName source name) := by
  refine ⟨.ok (), [⟨source, name⟩], [], fun d _ => ?_⟩
  rw [List.append_nil]
  rfl

theorem note (record : LogRecord) : Building.Uniform path (Builder.note record) :=
  ⟨.ok (), [], [record], fun _ _ => rfl⟩

theorem bind {step : Building α} {next : α → Building β} (h : Building.Uniform path step)
    (hnext : ∀ a, Building.Uniform path (next a)) : Building.Uniform path (step >>= next) := by
  obtain ⟨r, locations, notes, hstep⟩ := h
  cases r with
  | error e =>
    refine ⟨.error e, locations, notes, fun d hd => ?_⟩
    rw [Task.outcome_bind, hstep d hd]
  | ok a =>
    obtain ⟨r, later, more, hlater⟩ := hnext a
    refine ⟨r, locations ++ later, notes ++ more, fun d hd => ?_⟩
    rw [Task.outcome_bind, hstep d hd]
    simp only
    rw [hlater _ ((Module.importingAll_path _ _).trans hd), Module.importingAll_append,
      List.append_assoc]

theorem map {step : Building α} (f : α → β) (h : Building.Uniform path step) :
    Building.Uniform path (f <$> step) := by
  rw [← bind_pure_comp]
  exact h.bind fun a => .pure (f a)

theorem mapM {step : α → Building β} (h : ∀ a, Building.Uniform path (step a)) (items : List α) :
    Building.Uniform path (items.mapM step) := by
  induction items with
  | nil => exact .pure []
  | cons item rest ih =>
    rw [List.mapM_cons]
    exact (h item).bind fun b => ih.bind fun others => .pure (b :: others)

/-- Of the draft only the path of its module may be looked at. -/
theorem get {next : Draft → Building β} (h : Building.Uniform path (next { module := { path } }))
    (hnext : ∀ d : Draft, d.module.path = path → next d = next { module := { path } }) :
    Building.Uniform path (MonadState.get >>= next) := by
  obtain ⟨r, locations, notes, hstep⟩ := h
  refine ⟨r, locations, notes, fun d hd => ?_⟩
  rw [Task.outcome_get_bind, hnext d hd, hstep d hd]

end Building.Uniform

open Building (Uniform)

theorem Typing.typeOf_uniform {path : String} (t : Typing) (value : Value) :
    Uniform path (t.typeOf value) := by
  induction value with
  | ref target =>
    refine .bind (.ofExcept _) fun location => .bind (.ofExcept _) fun found => ?_
    cases found with
    | some replacement => exact .pure replacement
    | none => exact (Uniform.importName _ _).bind fun _ => .pure _
  | scalar type =>
    unfold typeOf
    cases scalarType? type with
    | some name => exact .pure _
    | none => exact .throw _
  | oddScalar type =>
    unfold typeOf
    split <;> exact .throw _
  | array items ih => exact ih.map listOf
  | map entries ih => exact ih.map mapTo
  | foreign found => exact .throw _

namespace Builder

variable {path : String} (b : Builder) (name : String) (definition : Definition)

theorem buildInterface_uniform : Uniform path (b.buildInterface name definition) := by
  have hfield : ∀ entry, Uniform path (b.buildField definition entry) := by
    intro entry
    refine .bind (.ofExcept _) fun found => ?_
    cases found with
    | some text => exact .pure _
    | none => exact (b.typeOf_uniform entry.2.value).bind fun type => .pure _
  unfold buildInterface
  cases definition.properties with
  | none => exact .get ((Uniform.note _).bind fun _ => .pure _) fun d hd => by rw [hd]
  | some properties => exact (Uniform.mapM hfield properties).bind fun _ => .pure _

theorem buildUnion_uniform : Uniform path (b.buildUnion name definition) := by
  refine .bind (.ofExcept _) fun types => ?_
  cases types with
  | nil => exact .get (.throw _) fun d hd => by rw [hd]
  | cons type types => exact .pure _

end Builder

/-- A draft of a module as one of a sketch. -/
def SketchDraft.ofDraft (d : Draft) : SketchDraft := { sketch := .ofModule d.module, log := d.log }

namespace Builder

variable (b : Builder) (name : String) (definition : Definition)

/-- A step that is run for a sketch does to it what it does to the module. -/
theorem sketching_ofDraft {α : Type} {step : Building α} {d : Draft}
    (h : Uniform d.module.path step) :
    (b.sketching step).outcome (.ofDraft d) = Prod.map id .ofDraft (step.outcome d) := by
  obtain ⟨r, locations, notes, hstep⟩ := h
  have hhome : b.naming.home (SketchDraft.ofDraft d).sketch.path = d.module.path := rfl
  have habsorb : (Sketch.ofModule d.module).absorb
        (({ path := d.module.path } : Module Json).importingAll locations).imports =
      Sketch.ofModule (d.module.importingAll locations) := by
    rw [Sketch.absorb_ofModule, ← Module.importingAll_eq]
  have hstart := hstep { module := { path := d.module.path }, log := d.log } rfl
  unfold sketching
  rw [Task.outcome_get_bind, hhome, hstep d rfl]
  simp only [SketchDraft.ofDraft, hstart, habsorb]
  cases r <;> rfl

theorem build_uniform {path : String} : Uniform path (b.build name definition) := by
  unfold build
  split
  · exact b.buildInterface_uniform name definition
  · exact b.buildUnion_uniform name definition

/-- Building under a name into the sketch of a module is building into the module. -/
theorem sketch_ofDraft (d : Draft) :
    (b.sketch (.string name) definition).outcome (.ofDraft d) =
      Prod.map (Except.map .ofDeclaration) .ofDraft ((b.build name definition).outcome d) := by
  have hsketch : (b.sketch (.string name) definition).outcome (.ofDraft d) =
      (b.sketching (b.build name definition) >>= fun declaration =>
        pure (Sketch.Declaration.under (.string name) declaration)).outcome (.ofDraft d) := by
    -- The path and the name are texts, so either way of sketching runs the step of building.
    unfold sketch build
    split
    · unfold sketchInterface
      rw [Task.outcome_get_bind]
      rfl
    · unfold sketchUnion
      rw [Task.outcome_get_bind]
      rfl
  rw [hsketch, Task.outcome_bind, b.sketching_ofDraft (b.build_uniform name definition)]
  rcases hbuild : (b.build name definition).outcome d with ⟨e | declaration, d'⟩
  · rfl
  · have hname : declaration.name? = some name := (build_returns hbuild).2.1
    simp only [Prod.map, id, Sketch.Declaration.under_name hname]
    rfl

end Builder

end ApiTypings
