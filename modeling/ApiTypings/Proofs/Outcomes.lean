import ApiTypings.Generation
import ApiTypings.Proofs.Projects
import ApiTypings.Proofs.Series

/-!
# What building yields

Building works on a module that already holds something. Whether it returns, and what,
does not depend on that: the state is written to, and nothing but the path of the module
is ever read. So every step of building has an outcome of its own, which needs no state,
and the outcome of generating a project is that of a series of them.
-/

namespace ApiTypings

namespace Task

variable {σ α β : Type} {P : σ → Prop}

/-- Begun in any state with the property the step ends as `r`, in a state with the property. -/
def Yields (P : σ → Prop) (task : Task σ α) (r : Except Failure α) : Prop :=
  ∀ s, P s → (task.outcome s).1 = r ∧ P (task.outcome s).2

theorem Yields.pure (a : α) : Yields P (pure a) (.ok a) := fun _ hs => ⟨rfl, hs⟩

theorem Yields.throw (e : Failure) : Yields P (throw e : Task σ α) (.error e) :=
  fun _ hs => ⟨rfl, hs⟩

theorem Yields.ofExcept (r : Except Failure α) : Yields P (Task.ofExcept r) r := by
  cases r with
  | ok a => exact .pure a
  | error e => exact .throw e

theorem Yields.set {t : σ} (h : P t) : Yields P (set t : Task σ Unit) (.ok ()) :=
  fun _ _ => ⟨rfl, h⟩

theorem Yields.modify {f : σ → σ} (h : ∀ s, P s → P (f s)) :
    Yields P (modify f : Task σ Unit) (.ok ()) := fun s hs => ⟨rfl, h s hs⟩

/-- What follows a look at the state may depend on it, but must not end differently. -/
theorem Yields.get {next : σ → Task σ β} {r : Except Failure β}
    (h : ∀ s, P s → Yields P (next s) r) : Yields P (MonadState.get >>= next) r := by
  intro s hs
  rw [outcome_bind]
  exact h s hs s hs

theorem Yields.bind {task : Task σ α} {next : α → Task σ β} {r : Except Failure α}
    {q : α → Except Failure β} (h : Yields P task r) (hnext : ∀ a, Yields P (next a) (q a)) :
    Yields P (task >>= next) (r >>= q) := by
  intro s hs
  obtain ⟨hr, ht⟩ := h s hs
  rw [outcome_bind]
  rcases ho : task.outcome s with ⟨e | a, t⟩ <;> rw [ho] at hr ht <;> subst hr
  · exact ⟨rfl, ht⟩
  · exact hnext a t ht

theorem Yields.map {task : Task σ α} {r : Except Failure α} (f : α → β) (h : Yields P task r) :
    Yields P (f <$> task) (f <$> r) := by
  rw [← bind_pure_comp, ← bind_pure_comp]
  exact h.bind fun a => .pure (f a)

theorem Yields.mapM {step : α → Task σ β} {q : α → Except Failure β}
    (h : ∀ a, Yields P (step a) (q a)) (items : List α) :
    Yields P (items.mapM step) (items.mapM q) := by
  induction items with
  | nil => exact .pure []
  | cons item rest ih =>
    rw [List.mapM_cons, List.mapM_cons]
    exact (h item).bind fun b => ih.bind fun others => .pure (b :: others)

theorem Yields.forM {step : α → Task σ Unit} {q : α → Except Failure Unit}
    (h : ∀ a, Yields P (step a) (q a)) (items : List α) :
    Yields P (items.forM step) (items.forM q) := by
  induction items with
  | nil => exact .pure ()
  | cons item rest ih => exact (h item).bind fun _ => ih

end Task

/-! ## Types -/

namespace Typing

/-- The type of a reference: the type that replaces what it leads to, or its name. -/
def referenceSpelling (t : Typing) (reference : Json) : Except Failure Json := do
  let location ← t.target reference
  return (← Table.entry? t.replaced location.name).getD (.string location.name)

/-- The type of a value, apart from what it takes to import it. -/
def spelling (t : Typing) : Value → Except Failure Json
  | .ref target => t.referenceSpelling target
  | .scalar type =>
    match scalarType? type with
    | some name => .ok (.string name)
    | none => .error (.generation (.strangeScalar (.string type)))
  | .oddScalar type =>
    .error (if type.isAtom then .generation (.strangeScalar type) else .fault .mismatch)
  | .map entries => mapTo <$> t.spelling entries
  | .array items => listOf <$> t.spelling items
  | .foreign found => .error (.generation (.strangeNode found))

end Typing

/-- The module that is built has this path. -/
def Draft.At (path : String) (draft : Draft) : Prop := draft.module.path = path

namespace Typing

variable {path : String}

theorem importName_yields (source name : String) :
    Task.Yields (Draft.At path) (importName source name) (.ok ()) :=
  .modify fun _ hd => (Module.importing_path _ _ _).trans hd

theorem referenceType_yields (t : Typing) (reference : Json) :
    Task.Yields (Draft.At path) (t.referenceType reference) (t.referenceSpelling reference) := by
  refine .bind (.ofExcept _) fun location => .bind (.ofExcept _) fun found => ?_
  cases found with
  | some replacement => exact .pure replacement
  | none => exact (importName_yields location.path location.name).bind fun _ => .pure _

theorem typeOf_yields (t : Typing) (value : Value) :
    Task.Yields (Draft.At path) (t.typeOf value) (t.spelling value) := by
  induction value with
  | ref target => exact t.referenceType_yields target
  | scalar type =>
    unfold typeOf spelling
    cases scalarType? type with
    | some name => exact .pure _
    | none => exact .throw _
  | oddScalar type =>
    unfold typeOf spelling
    split <;> exact .throw _
  | array items ih => exact ih.map listOf
  | map entries ih => exact ih.map mapTo
  | foreign found => exact .throw _

end Typing

/-! ## Declarations -/

namespace Builder

/-- The field of a property, apart from what it takes to import its type. -/
def fieldOf (b : Builder) (definition : Definition) (entry : String × Property) :
    Except Failure (Field Json) := do
  let type ← match ← literalType definition.served entry.1 with
    | some text => .ok (.string text)
    | none => b.spelling entry.2.value
  return { name := entry.1, description := entry.2.description, type,
           optional := !definition.requires entry.1 }

/-- The interface of an object, apart from what it takes to import the types of its fields. -/
def interfaceOf (b : Builder) (name : String) (definition : Definition) :
    Except Failure (Declaration Json) := do
  return .interface name definition.description
    (← (definition.properties.getD []).mapM (b.fieldOf definition))

/-- The union of a definition that is no object, in the module of the path. -/
def unionOf (b : Builder) (path name : String) (definition : Definition) :
    Except Failure (Declaration Json) := do
  match ← b.unionTypes name definition.type with
  | [] => .error (.generation (.untyped path name definition.type))
  | types => return .union name definition.description types

/-- The declaration of a definition in the module of the path. -/
def declarationOf (b : Builder) (path name : String) (definition : Definition) :
    Except Failure (Declaration Json) :=
  if definition.isObject then b.interfaceOf name definition else b.unionOf path name definition

variable {path : String}

theorem buildField_yields (b : Builder) (definition : Definition) (entry : String × Property) :
    Task.Yields (Draft.At path) (b.buildField definition entry) (b.fieldOf definition entry) := by
  refine .bind (.ofExcept _) fun found => ?_
  cases found with
  | some text => exact .pure _
  | none => exact (b.typeOf_yields entry.2.value).bind fun type => .pure _

theorem buildInterface_yields (b : Builder) (name : String) (definition : Definition) :
    Task.Yields (Draft.At path) (b.buildInterface name definition)
      (b.interfaceOf name definition) := by
  unfold buildInterface interfaceOf
  cases definition.properties with
  | none => exact .get fun _ _ => (Task.Yields.modify fun _ hd => hd).bind fun _ => .pure _
  | some properties =>
    exact (Task.Yields.mapM (b.buildField_yields definition) properties).bind fun _ => .pure _

theorem buildUnion_yields (b : Builder) (name : String) (definition : Definition) :
    Task.Yields (Draft.At path) (b.buildUnion name definition)
      (b.unionOf path name definition) := by
  refine .bind (.ofExcept _) fun types => ?_
  cases types with
  | nil =>
    -- the message names the path of the module that is being built
    refine .get fun d hd => ?_
    rw [show d.module.path = path from hd]
    exact .throw _
  | cons type types => exact .pure _

theorem build_yields (b : Builder) (name : String) (definition : Definition) :
    Task.Yields (Draft.At path) (b.build name definition)
      (b.declarationOf path name definition) := by
  unfold build declarationOf
  split
  · exact b.buildInterface_yields name definition
  · exact b.buildUnion_yields name definition

end Builder

/-! ## Projects -/

namespace Generator

/-- Whether and where a definition is declared, apart from what is noted about it. -/
def placeOf (g : Generator) (entry : String × Definition) : Except Failure (Option Located) := do
  match ← g.settings.naming.location entry.1 with
  | none => return none
  | some location =>
    match ← Table.entry? g.settings.replacedTypes location.name with
    | some _ => return none
    | none => return some { qualifiedName := entry.1, location, definition := entry.2 }

theorem note_yields (level : Level) (text : String) :
    Task.Yields (fun _ => True) (note level text) (.ok ()) := .modify fun _ _ => trivial

theorem place_yields (g : Generator) (entry : String × Definition) :
    Task.Yields (fun _ => True) (g.place entry.1 entry.2) (g.placeOf entry) := by
  refine .bind (.ofExcept _) fun found => ?_
  cases found with
  | none => exact (note_yields _ _).bind fun _ => .pure none
  | some location =>
    refine .bind (.ofExcept _) fun replaced => ?_
    cases replaced with
    | some replacement => exact (note_yields _ _).bind fun _ => .pure none
    | none => exact .pure _

/-- What is declared is settled for one definition after the other. -/
theorem definitions_yields (g : Generator) :
    Task.Yields (fun _ => True) g.definitions
      ((fun placed => placed.filterMap id) <$> g.ordered.mapM g.placeOf) := by
  rw [← bind_pure_comp]
  exact (Task.Yields.mapM g.place_yields g.ordered).bind fun placed => .pure _

/-- The declaration of a definition. -/
def declarationOf (g : Generator) (located : Located) : Except Failure (Declaration Json) :=
  (g.settings.builder g.document).declarationOf located.location.path located.location.name
    located.definition

/-- A step of building ends in every project as it does by itself. -/
theorem inModule_yields {α : Type} {path : String} {step : Building α} {r : Except Failure α}
    (h : Task.Yields (Draft.At path) step r) :
    Task.Yields (fun _ => True) (inModule path step) r := by
  refine .get fun w _ => ?_
  have hr := (h { module := w.project.moduleAt path, log := w.log }
    (Project.moduleAt_path w.project path)).1
  generalize step.outcome { module := w.project.moduleAt path, log := w.log } = ended at hr ⊢
  obtain ⟨outcome, draft⟩ := ended
  obtain rfl : outcome = r := hr
  exact (Task.Yields.set (P := fun _ => True) trivial).bind fun _ => .ofExcept outcome

theorem declare_yields (g : Generator) (located : Located) :
    Task.Yields (fun _ => True) (g.declare located) ((fun _ => ()) <$> g.declarationOf located) :=
  inModule_yields ((Builder.build_yields _ _ _).bind fun _ => .modify fun _ hd => hd)

/-- Once it is settled what is declared, generating ends as building the declarations does. -/
theorem generate_outcome {g : Generator} {log : Log} {declared : List Located}
    (h : (g.definitions.outcome { log }).1 = .ok declared) :
    (fun _ => ()) <$> (g.generate.outcome { log }).1 =
      declared.forM fun located => (fun _ => ()) <$> g.declarationOf located := by
  unfold generate
  rw [Task.outcome_bind]
  rcases ho : g.definitions.outcome { log } with ⟨e | found, w⟩ <;> rw [ho] at h <;> cases h
  dsimp only
  have hloop := ((Task.Yields.forM g.declare_yields declared) w trivial).1
  rw [Task.outcome_bind, ← hloop]
  -- nothing that comes after the loop can fail
  rcases (declared.forM g.declare).outcome w with ⟨e | _, w'⟩ <;> rfl

end Generator

end ApiTypings
