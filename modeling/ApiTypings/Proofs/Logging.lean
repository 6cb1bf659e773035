import ApiTypings.Files.Writer
import ApiTypings.Generation
import ApiTypings.Proofs.Paths

/-!
# Nothing is read from the log

Steps write to the log, but none of them looks at it. Begun in two states that are the same but
for their logs, a step ends in the same way and leaves two states that are the same but for their
logs. So what is generated does not depend on what was noted before, and no more does what is
written.
-/

namespace ApiTypings

namespace Task

variable {σ α β : Type} {same : σ → σ → Prop}

/-- Begun in two states that are the same in this sense the two steps end in the same way, and
leave two states that are the same again. -/
def Alike (same : σ → σ → Prop) (x y : Task σ α) : Prop :=
  ∀ s t, same s t → (x.outcome s).1 = (y.outcome t).1 ∧ same (x.outcome s).2 (y.outcome t).2

theorem Alike.pure (a : α) : Alike same (pure a) (pure a) := fun _ _ h => ⟨rfl, h⟩

theorem Alike.throw (e : Failure) : Alike same (throw e : Task σ α) (throw e) :=
  fun _ _ h => ⟨rfl, h⟩

theorem Alike.ofExcept (r : Except Failure α) :
    Alike same (Task.ofExcept r) (Task.ofExcept r) := by
  cases r with
  | ok a => exact .pure a
  | error e => exact .throw e

theorem Alike.modify {f g : σ → σ} (h : ∀ s t, same s t → same (f s) (g t)) :
    Alike same (modify f : Task σ Unit) (modify g) := fun s t hs => ⟨rfl, h s t hs⟩

theorem Alike.set {s t : σ} (h : same s t) : Alike same (set s : Task σ Unit) (set t) :=
  fun _ _ _ => ⟨rfl, h⟩

/-- What follows a look at the states may depend on them, but not on how they differ. -/
theorem Alike.get {next next' : σ → Task σ β}
    (h : ∀ s t, same s t → Alike same (next s) (next' t)) :
    Alike same (MonadState.get >>= next) (MonadState.get >>= next') := by
  intro s t hs
  rw [outcome_bind, outcome_bind]
  exact h s t hs s t hs

theorem Alike.bind {x y : Task σ α} {next next' : α → Task σ β} (h : Alike same x y)
    (hnext : ∀ a, Alike same (next a) (next' a)) : Alike same (x >>= next) (y >>= next') := by
  intro s t hs
  obtain ⟨hends, hleft⟩ := h s t hs
  rw [outcome_bind, outcome_bind]
  rcases hx : x.outcome s with ⟨r, u⟩
  rcases hy : y.outcome t with ⟨r', v⟩
  rw [hx, hy] at hends hleft
  obtain rfl : r = r' := hends
  cases r with
  | error e => exact ⟨rfl, hleft⟩
  | ok a => exact hnext a u v hleft

theorem Alike.map {x y : Task σ α} (f : α → β) (h : Alike same x y) :
    Alike same (f <$> x) (f <$> y) := by
  rw [← bind_pure_comp, ← bind_pure_comp]
  exact h.bind fun a => .pure (f a)

theorem Alike.mapM {step step' : α → Task σ β} (h : ∀ a, Alike same (step a) (step' a))
    (items : List α) : Alike same (items.mapM step) (items.mapM step') := by
  induction items with
  | nil => exact .pure []
  | cons item rest ih =>
    rw [List.mapM_cons, List.mapM_cons]
    exact (h item).bind fun b => ih.bind fun others => .pure (b :: others)

theorem Alike.forM {step step' : α → Task σ Unit} (h : ∀ a, Alike same (step a) (step' a))
    (items : List α) : Alike same (items.forM step) (items.forM step') := by
  induction items with
  | nil => exact .pure ()
  | cons item rest ih => exact (h item).bind fun _ => ih

end Task

/-- The drafts are the same but for their logs. -/
def Draft.Same (d d' : Draft) : Prop := d.module = d'.module

/-- The step does not look at the log of the draft. -/
abbrev Building.Blind {α : Type} (step : Building α) : Prop := Task.Alike Draft.Same step step

theorem importName_blind (path name : String) : Building.Blind (importName path name) :=
  .modify fun _ _ h => congrArg (Module.importing · path name) h

namespace Typing

theorem referenceType_blind (t : Typing) (reference : Json) :
    Building.Blind (t.referenceType reference) := by
  refine .bind (.ofExcept _) fun location => .bind (.ofExcept _) fun found => ?_
  cases found with
  | some replacement => exact .pure replacement
  | none => exact (importName_blind location.path location.name).bind fun _ => .pure _

theorem typeOf_blind (t : Typing) (value : Value) : Building.Blind (t.typeOf value) := by
  induction value with
  | ref target => exact t.referenceType_blind target
  | scalar type =>
    unfold typeOf
    cases scalarType? type with
    | some name => exact .pure _
    | none => exact .throw _
  | oddScalar type =>
    unfold typeOf
    split <;> exact .throw _
  | array items ih => exact ih.map listOf
  | map entries ih => exact ih.map mapTo
  | foreign found => exact .throw _

end Typing

namespace Builder

theorem note_blind (record : LogRecord) : Building.Blind (note record) := .modify fun _ _ h => h

theorem buildField_blind (b : Builder) (definition : Definition) (entry : String × Property) :
    Building.Blind (b.buildField definition entry) := by
  refine .bind (.ofExcept _) fun found => ?_
  cases found with
  | some text => exact .pure _
  | none => exact (b.typeOf_blind entry.2.value).bind fun type => .pure _

theorem buildInterface_blind (b : Builder) (name : String) (definition : Definition) :
    Building.Blind (b.buildInterface name definition) := by
  unfold buildInterface
  cases definition.properties with
  | none =>
    refine .get fun d d' h => ?_
    rw [show d.module = d'.module from h]
    exact (note_blind _).bind fun _ => .pure _
  | some properties =>
    exact (Task.Alike.mapM (b.buildField_blind definition) properties).bind fun _ => .pure _

theorem buildUnion_blind (b : Builder) (name : String) (definition : Definition) :
    Building.Blind (b.buildUnion name definition) := by
  refine .bind (.ofExcept _) fun types => ?_
  cases types with
  | nil =>
    refine .get fun d d' h => ?_
    rw [show d.module = d'.module from h]
    exact .throw _
  | cons type types => exact .pure _

theorem build_blind (b : Builder) (name : String) (definition : Definition) :
    Building.Blind (b.build name definition) := by
  unfold build
  split
  · exact b.buildInterface_blind name definition
  · exact b.buildUnion_blind name definition

end Builder

/-! ## Generating -/

/-- What was done is the same, but perhaps not what was noted about it. -/
def Work.Same (w w' : Work) : Prop := w.project = w'.project

/-- The step does not look at the log of the work. -/
abbrev Generating.Blind {α : Type} (step : Generating α) : Prop := Task.Alike Work.Same step step

namespace Generator

theorem note_blind (level : Level) (text : String) : Generating.Blind (note level text) :=
  .modify fun _ _ h => h

theorem place_blind (g : Generator) (entry : String × Definition) :
    Generating.Blind (g.place entry.1 entry.2) := by
  refine .bind (.ofExcept _) fun site => ?_
  cases site with
  | none => exact (note_blind _ _).bind fun _ => .pure none
  | some location =>
    refine .bind (.ofExcept _) fun replaced => ?_
    cases replaced with
    | some replacement => exact (note_blind _ _).bind fun _ => .pure none
    | none => exact .pure _

theorem definitions_blind (g : Generator) : Generating.Blind g.definitions :=
  (Task.Alike.mapM g.place_blind g.ordered).bind fun _ => .pure _

/-- A step of building is begun with the log of the work, so it must not look at that itself. -/
theorem inModule_blind {α : Type} {path : String} {step : Building α} (h : Building.Blind step) :
    Generating.Blind (inModule path step) := by
  refine .get fun w w' hw => ?_
  have hmodule : w.project.moduleAt path = w'.project.moduleAt path :=
    congrArg (Project.moduleAt · path) hw
  obtain ⟨hends, hleft⟩ := h { module := w.project.moduleAt path, log := w.log }
    { module := w'.project.moduleAt path, log := w'.log } hmodule
  generalize step.outcome { module := w.project.moduleAt path, log := w.log } = ended at hends hleft
  generalize step.outcome { module := w'.project.moduleAt path, log := w'.log } = ended'
    at hends hleft
  obtain ⟨outcome, draft⟩ := ended
  obtain ⟨outcome', draft'⟩ := ended'
  obtain rfl : outcome = outcome' := hends
  refine Task.Alike.bind (.set ?_) fun _ => .ofExcept outcome
  change w.project.store draft.module = w'.project.store draft'.module
  rw [show w.project = w'.project from hw, show draft.module = draft'.module from hleft]

theorem declare_blind (g : Generator) (located : Located) : Generating.Blind (g.declare located) :=
  inModule_blind ((Builder.build_blind _ _ _).bind fun declaration =>
    .modify fun _ _ h => congrArg (Module.declare · declaration) h)

theorem generate_blind (g : Generator) : Generating.Blind g.generate := by
  refine g.definitions_blind.bind fun declared => (Task.Alike.forM g.declare_blind declared).bind ?_
  refine fun _ => .get fun w w' h => ?_
  rw [show w.project = w'.project from h]
  exact (note_blind _ _).bind fun _ => .pure _

/-- What is generated and rendered does not depend on what was noted before. -/
theorem render_blind (g : Generator) : Generating.Blind g.render :=
  g.generate_blind.bind fun _ => .ofExcept _

end Generator

/-! ## Writing -/

/-- The files are the same, and so is what paths lead to. -/
structure World.Same (w w' : World) : Prop where
  home : w.home = w'.home
  tree : w.tree = w'.tree

theorem World.Same.refl (w : World) : w.Same w := ⟨rfl, rfl⟩

theorem World.Same.trail {w w' : World} (h : w.Same w') (path : Path) :
    w.trail path = w'.trail path := trail_congr h.home path

/-- The step looks at the files only. -/
abbrev Action.Blind {α : Type} (step : Action α) : Prop := Task.Alike World.Same step step

theorem report_blind (level : Level) (text : String) : Action.Blind (report level text) :=
  .modify fun _ _ h => ⟨h.home, h.tree⟩

theorem ofFileSystem_blind {α : Type} (answer : Except FileFault α) :
    Action.Blind (ofFileSystem answer) := by
  cases answer with
  | ok a => exact .pure a
  | error fault => exact .throw _

theorem changeTree_blind (change : FileTree → Except FileFault FileTree) :
    Action.Blind (changeTree change) := by
  refine .get fun w w' h => ?_
  rw [h.tree]
  exact (ofFileSystem_blind _).bind fun tree => .modify fun _ _ h => ⟨h.home, rfl⟩

namespace Writer

theorem checkPlace_blind (settings : OutputSettings) (path : Path) :
    Action.Blind (checkPlace settings path) := by
  unfold checkPlace
  split
  · refine .get fun w w' h => ?_
    rw [h.tree, h.trail]
    refine (ofFileSystem_blind _).bind fun there => ?_
    cases there with
    | true => exact .throw _
    | false => exact .pure _
  · exact .pure _

theorem check_blind (settings : OutputSettings) (path : Path) (content : String) :
    Action.Blind (check settings path content) := by
  refine (checkPlace_blind settings path).bind fun _ => ?_
  split
  · split
    · exact .pure _
    · exact .throw _
  · exact .pure _

theorem makeParents_blind (path : Path) : Action.Blind (makeParents path) := by
  refine .get fun w w' h => ?_
  dsimp only
  rw [h.tree, h.trail]
  exact Task.Alike.bind (.set ⟨h.home, rfl⟩) fun _ => ofFileSystem_blind _

theorem place_blind (settings : OutputSettings) (path : Path) (content : ByteArray) :
    Action.Blind (place settings path content) := by
  refine .get fun w w' h => ?_
  dsimp only
  rw [h.trail, h.trail, h.tree]
  split
  · exact changeTree_blind _
  · exact Task.Alike.bind (.set ⟨h.home, rfl⟩) fun _ => ofFileSystem_blind _

theorem write_blind (settings : OutputSettings) (path : Path) (content : String) :
    Action.Blind (write settings path content) :=
  (check_blind settings path content).bind fun _ => (makeParents_blind path).bind fun _ =>
    place_blind settings path _

/-- What is written does not depend on what was noted or asked for before. -/
theorem writeAll_blind (setting : OutputSetting) (root : Path) (files : List (String × String)) :
    Action.Blind (writeAll setting root files) := by
  have hcheck (file : String × String) : Action.Blind (do
      check (← Task.ofExcept setting.get) (root / file.1) file.2) :=
    .bind (.ofExcept _) fun settings => check_blind settings _ _
  have hwrite (file : String × String) : Action.Blind (do
      write (← Task.ofExcept setting.get) (root / file.1) file.2
      return root / file.1) :=
    .bind (.ofExcept _) fun settings => (write_blind settings _ _).bind fun _ => .pure _
  refine (Task.Alike.forM hcheck (inOrder files)).bind fun _ => ?_
  refine (Task.Alike.mapM hwrite (inOrder files)).bind fun written => ?_
  exact (report_blind _ _).bind fun _ => .pure written

end Writer

end ApiTypings
