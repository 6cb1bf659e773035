import ApiTypings.Module.Sketch
import ApiTypings.Proofs.ProjectHistories

/-!
# Sketches of texts are modules

A sketch may have any value as a path or a name, so it is compared, sorted and written in ways of
its own. Where all of these values are texts the ways are those of modules: values that are texts
are sorted as texts are, a name is imported into the same entry, and so a sketch stays the sketch of
a module whatever is done to it, and is written as the module is.
-/

namespace ApiTypings

namespace Json

theorem equals_string (a b : String) : (Json.string a).equals (.string b) = decide (a = b) := by
  simp [equals, sameKey, Bool.beq_eq_decide_eq]

theorem before?_string (a b : String) :
    before? (.string a) (.string b) = some (decide (a < b)) := by
  simp [before?]

theorem itemsBefore?_strings (xs ys : List String) :
    itemsBefore? (xs.map .string) (ys.map .string) = some (decide (xs < ys)) := by
  induction xs generalizing ys with
  | nil => cases ys <;> simp [itemsBefore?]
  | cons x xs ih =>
    cases ys with
    | nil => simp [itemsBefore?]
    | cons y ys =>
      by_cases h : x = y
      · simp [itemsBefore?, equals_string, h, ih]
      · simp [itemsBefore?, equals_string, h, before?_string, List.cons_lt_cons_iff]

variable {α β : Type}

/-- Values that are compared like what they stand for are sorted like it. -/
theorem sortWith_map {before? : β → β → Option Bool} {lt : α → α → Prop} [DecidableRel lt]
    {f : α → β} (h : ∀ a b, before? (f a) (f b) = some (decide (lt a b))) (entries : List α) :
    sortWith before? (entries.map f) =
      .ok ((entries.mergeSort fun a b => !decide (lt b a)).map f) := by
  have hall : allPairs (fun a b => (before? a b).isSome) (entries.map f) = true := by
    induction entries with
    | nil => rfl
    | cons entry rest ih => simp [allPairs, ih, h]
  unfold sortWith
  rw [if_pos hall, List.map_mergeSort]
  intro a _ b _
  rw [h]
  cases decide (lt b a) <;> rfl

theorem sortValues_strings (texts : List String) :
    sortValues (texts.map .string) = .ok ((sortTexts texts).map .string) :=
  sortWith_map before?_string texts

/-- A text and what stands beside it, each written as a value. -/
def ofPair (f : α → β) (entry : String × α) : Json × β := (.string entry.1, f entry.2)

theorem sortWith_pairs [LT α] [DecidableLT α] {beside? : β → β → Option Bool} {f : α → β}
    (h : ∀ x y, beside? (f x) (f y) = some (decide (x < y))) (entries : List (String × α)) :
    sortWith (entryBefore? beside?) (entries.map (ofPair f)) =
      .ok ((sortPairs entries).map (ofPair f)) := by
  have hentry : ∀ a b : String × α, entryBefore? beside? (ofPair f a) (ofPair f b) =
      some (decide (a.1 < b.1 ∨ (a.1 = b.1 ∧ a.2 < b.2))) := by
    intro a b
    by_cases hab : a.1 = b.1
    · simp [entryBefore?, ofPair, equals_string, hab, h]
    · simp [entryBefore?, ofPair, equals_string, hab, before?_string]
  rw [sortWith_map hentry, sortPairs]
  congr 3
  funext a b
  rcases lt_trichotomy a.1 b.1 with hlt | heq | hgt
  · simp [pairLe, hlt, hlt.not_gt, hlt.ne']
  · simp [pairLe, heq]
  · simp [pairLe, hgt, hgt.not_gt, hgt.ne']

end Json

namespace Sketch

theorem Field.settle_ofField (field : ApiTypings.Field Json) :
    (Field.ofField field).settle = .ok field := by
  obtain ⟨name, description, type, optional⟩ := field
  simp [Field.ofField, Field.settle, Json.isVoid]

/-- A declaration as a sketch, under its own name. -/
def Declaration.ofDeclaration : ApiTypings.Declaration Json → Sketch.Declaration
  | .interface name description fields => .under (.string name) (.interface name description fields)
  | .union name description types => .under (.string name) (.union name description types)
  | .field f => .field (Field.ofField f)
  | .foreign found => .foreign found

namespace Declaration

variable (d : ApiTypings.Declaration Json)

theorem name?_ofDeclaration : (ofDeclaration d).name? = d.name?.map Json.string := by
  cases d <;> rfl

theorem settle_ofDeclaration : (ofDeclaration d).settle = .ok d := by
  cases d with
  | interface name description fields =>
    have hfields : (fields.map Field.ofField).mapM Field.settle = .ok fields := by
      rw [List.mapM_map]
      exact (mapM_ok (g := id) fun f _ => Field.settle_ofField f).trans (by rw [List.map_id])
    simp only [ofDeclaration, under, settle, hfields]
    rfl
  | union name description types => rfl
  | field f =>
    simp only [ofDeclaration, settle, Field.settle_ofField]
    rfl
  | foreign found => rfl

theorem render_ofDeclaration : (ofDeclaration d).render = d.render := by
  rw [Declaration.render, settle_ofDeclaration]
  rfl

end Declaration

theorem Declaration.under_name {d : ApiTypings.Declaration Json} {name : String}
    (h : d.name? = some name) : under (.string name) d = ofDeclaration d := by
  cases d <;> cases h <;> rfl

/-- Imports as a table of values. -/
def ofImports (imports : Imports) : List (Json × List Json) :=
  imports.map (Json.ofPair (List.map .string))

/-- A module as a sketch. -/
def ofModule (m : Module Json) : Sketch where
  path := .string m.path
  imports := ofImports m.imports
  declarations := m.declarations.map Declaration.ofDeclaration

variable (m : Module Json)

theorem insertName_openEntry (path name : String) (imports : Imports) :
    insertName (.string path) (.string name) (openEntry (.string path) (ofImports imports)) =
      ofImports (imports.insert path name) := by
  induction imports with
  | nil => simp [ofImports, openEntry, insertName, Imports.insert, Json.ofPair, Json.sameKey]
  | cons entry rest ih =>
    obtain ⟨p, names⟩ := entry
    by_cases hp : p = path
    · by_cases hn : name ∈ names <;>
        simp [ofImports, openEntry, insertName, Imports.insert, Json.ofPair, Json.sameKey, hp, hn]
    · simpa [ofImports, openEntry, insertName, Imports.insert, Json.ofPair, Json.sameKey, hp] using ih

theorem importName_ofModule (path name : String) :
    (importName (.string path) (.string name)).outcome (ofModule m) =
      (.ok (), ofModule (m.importing path name)) := by
  unfold importName
  rw [Task.outcome_get_bind]
  by_cases hp : path = m.path
  · subst hp
    simp only [ofModule, Json.equals_string, decide_true, Bool.not_true, Bool.false_eq_true, if_false,
      Module.importing_self]
    rfl
  · have hopened := insertName_openEntry path name m.imports
    simp only [ofModule, Json.equals_string, hp, decide_false, Bool.not_false, if_true, Json.isAtom,
      Bool.not_true, Bool.false_eq_true, if_false, hopened, Module.importing]
    rfl

theorem declare_ofModule (d : ApiTypings.Declaration Json) :
    (ofModule m).declare (.ofDeclaration d) = ofModule (m.declare d) := by
  simp [declare, ofModule, Module.declare]

theorem mapM_ofImports {step : Json × List Json → Except Failure (Json × List Json)}
    {g : String × List String → String × List String}
    (h : ∀ entry, step (Json.ofPair (List.map .string) entry) =
      .ok (Json.ofPair (List.map .string) (g entry))) (imports : Imports) :
    (ofImports imports).mapM step = .ok (ofImports (imports.map g)) := by
  rw [ofImports, List.mapM_map, ofImports, List.map_map]
  exact mapM_ok fun entry _ => h entry

theorem sortWith_ofImports (imports : Imports) :
    Json.sortWith (Json.entryBefore? Json.itemsBefore?) (ofImports imports) =
      .ok (ofImports (sortPairs imports)) :=
  Json.sortWith_pairs Json.itemsBefore?_strings imports

theorem sortedImports_ofModule :
    (ofModule m).sortedImports = .ok (ofImports m.sortedImports) := by
  unfold sortedImports
  rw [ofModule, mapM_ofImports (g := fun entry => (entry.1, sortTexts entry.2))]
  · exact sortWith_ofImports _
  · intro entry
    simp only [Json.ofPair, Json.sortValues_strings]
    rfl

theorem importLines_ofModule : (ofModule m).importLines = .ok m.importLines := by
  unfold importLines
  rw [ofModule,
    mapM_ofImports (g := fun entry => (Specifier.of m.path entry.1, sortTexts entry.2))]
  · change (Json.sortWith _ _ >>= _) = _
    rw [sortWith_ofImports]
    simp [ofImports, Module.importLines, Json.ofPair, Json.plain, Function.comp_def, pure,
      Except.pure, bind, Except.bind]
  · intro entry
    simp only [Json.ofPair, Json.sortValues_strings]
    rfl

theorem bodyLines_ofModule :
    (ofModule m).bodyLines = Module.bodyLines <$> m.declarations.mapM Module.named := by
  have hnamed : ∀ d, named (.ofDeclaration d) = Json.ofPair id <$> Module.named d := by
    intro d
    rw [named, Declaration.name?_ofDeclaration, Declaration.render_ofDeclaration, Module.named]
    cases d.name? with
    | none => rfl
    | some name => cases d.render <;> rfl
  have hall : (ofModule m).declarations.mapM named =
      List.map (Json.ofPair id) <$> m.declarations.mapM Module.named := by
    change (m.declarations.map Declaration.ofDeclaration).mapM named = _
    induction m.declarations with
    | nil => rfl
    | cons d rest ih => simp [hnamed, ih, monad_norm]
  unfold bodyLines
  rw [hall]
  cases m.declarations.mapM Module.named with
  | error e => rfl
  | ok entries =>
    change (Json.sortWith _ (entries.map (Json.ofPair id)) >>= _) = _
    rw [Json.sortWith_pairs fun _ _ => rfl]
    simp [Module.bodyLines, Json.ofPair, Function.comp_def, pure, Except.pure, bind, Except.bind]

theorem render_ofModule : (ofModule m).render = m.render := by
  rw [render, importLines_ofModule, bodyLines_ofModule, Module.render]
  cases m.declarations.mapM Module.named <;> rfl

theorem renderText_ofModule : (ofModule m).renderText = m.renderText := by
  rw [renderText, render_ofModule]
  rfl

end Sketch

/-! ## Projects -/

namespace Sketchbook

open Sketch (ofModule)

/-- A project as a book of sketches. -/
def ofProject (project : Project) : Sketchbook := ⟨project.modules.map ofModule⟩

variable (project : Project)

theorem sketchAt_ofProject (path : String) :
    (ofProject project).sketchAt (.string path) = .ok (ofModule (project.moduleAt path)) := by
  unfold sketchAt
  rw [if_pos (by rfl), Project.moduleAt, Project.module?, ofProject]
  congr 1
  induction project.modules with
  | nil => rfl
  | cons m rest ih =>
    by_cases hm : m.path = path
    · simp [ofModule, Json.sameKey, hm]
    · simpa [ofModule, Json.sameKey, hm] using ih

theorem store_ofProject (m : Module Json) :
    (ofProject project).store (ofModule m) = ofProject (project.store m) := by
  unfold store Project.store ofProject
  congr 1
  induction project.modules with
  | nil => rfl
  | cons n rest ih =>
    by_cases hn : n.path = m.path
    · simp [put, Project.put, ofModule, Json.sameKey, hn]
    · simpa [put, Project.put, ofModule, Json.sameKey, hn] using ih

theorem sorted_ofProject : (ofProject project).sorted = .ok (project.sorted.map ofModule) :=
  Json.sortWith_map (fun m n => Json.before?_string m.path n.path) project.modules

theorem size_ofProject : (ofProject project).size = project.size := by
  simp [size, Project.size, ofProject]

/-- What a step does to the sketch of its path. -/
def act : Project.Step → Task Sketch Unit
  | .visit _ => pure ()
  | .change _ (.importing path name) => Sketch.importName (.string path) (.string name)
  | .change _ (.declaring d) => modify fun sketch => sketch.declare (.ofDeclaration d)

/-- The book after a step. -/
def after (book : Sketchbook) (step : Project.Step) : Except Failure Sketchbook := do
  match (act step).outcome (← book.sketchAt (.string step.path)) with
  | (.ok (), sketch) => return book.store sketch
  | (.error e, _) => throw e

theorem after_ofProject (step : Project.Step) :
    (ofProject project).after step = .ok (ofProject (project.after step)) := by
  have hact : (act step).outcome (ofModule (project.moduleAt step.path)) =
      (.ok (), ofModule (step.leaves project)) := by
    cases step with
    | visit path => rfl
    | change path step =>
      cases step with
      | importing source name => exact Sketch.importName_ofModule _ source name
      | declaring d => exact congrArg (Prod.mk _) (Sketch.declare_ofModule _ d)
  unfold after
  rw [sketchAt_ofProject]
  simp only [bind, Except.bind, hact, store_ofProject]
  rfl

/-- Steps on a book of texts do to it what they do to a project, however many they are. -/
theorem foldlM_after_ofProject (steps : List Project.Step) :
    steps.foldlM after (ofProject project) = .ok (ofProject (steps.foldl Project.after project)) := by
  induction steps generalizing project with
  | nil => rfl
  | cons step rest ih =>
    rw [List.foldlM_cons, after_ofProject, List.foldl_cons, ← ih]
    rfl

end Sketchbook

end ApiTypings
