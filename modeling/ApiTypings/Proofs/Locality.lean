import Mathlib
import ApiTypings.Proofs.Canonical
import ApiTypings.Proofs.Generation
import ApiTypings.Proofs.Outcomes
import ApiTypings.Proofs.Reading

/-!
# Modules are independent of each other

What a module says depends on the definitions that belong there and on the settings. Of
the other definitions only the names matter, and these only as far as a reference has to
find something under them: where it leads is told by the reference itself.
-/

namespace ApiTypings

namespace Typing

variable {t t' : Typing}

/-- Where a reference leads does not depend on the document. -/
theorem target_congr (hn : t.naming = t'.naming) {reference : Json} {location location' : Location}
    (h : t.target reference = .ok location) (h' : t'.target reference = .ok location') :
    location = location' := by
  obtain ⟨name, _, hr, hl⟩ := target_eq_ok.mp h
  obtain ⟨name', _, hr', hl'⟩ := target_eq_ok.mp h'
  obtain ⟨rfl, _⟩ := Document.resolve_eq_ok_iff.mp hr
  have hname := Json.string.inj (Document.resolve_eq_ok_iff.mp hr').1
  obtain rfl := (String.append_right_inj _).mp hname
  rw [hn, hl'] at hl
  cases hl
  rfl

theorem spelling_congr (hn : t.naming = t'.naming) (hr : t.replaced = t'.replaced) {value : Value}
    {type type' : Json} (h : t.spelling value = .ok type) (h' : t'.spelling value = .ok type') :
    type = type' := by
  induction value generalizing type type' with
  | ref target =>
    obtain ⟨location, hl, h⟩ := bind_ok h
    obtain ⟨location', hl', h'⟩ := bind_ok h'
    obtain rfl := target_congr hn hl hl'
    rw [hr] at h
    exact Except.ok.inj (h.symm.trans h')
  | array items ih =>
    obtain ⟨inner, hi, rfl⟩ := map_ok h
    obtain ⟨inner', hi', rfl⟩ := map_ok h'
    rw [ih hi hi']
  | map entries ih =>
    obtain ⟨inner, hi, rfl⟩ := map_ok h
    obtain ⟨inner', hi', rfl⟩ := map_ok h'
    rw [ih hi hi']
  | scalar type => exact Except.ok.inj (h.symm.trans h')
  | oddScalar type => exact Except.ok.inj (h.symm.trans h')
  | foreign found => exact Except.ok.inj (h.symm.trans h')

end Typing

namespace Builder

variable {b b' : Builder}

theorem fieldOf_congr (hn : b.naming = b'.naming) (hr : b.replaced = b'.replaced)
    {definition : Definition} {entry : String × Property} {field field' : Field Json}
    (h : b.fieldOf definition entry = .ok field) (h' : b'.fieldOf definition entry = .ok field') :
    field = field' := by
  obtain ⟨found, hf, h⟩ := bind_ok h
  obtain ⟨found', hf', h'⟩ := bind_ok h'
  obtain rfl := Except.ok.inj (hf.symm.trans hf')
  cases found with
  | some text => exact Except.ok.inj (h.symm.trans h')
  | none =>
    obtain ⟨type, ht, h⟩ := bind_ok h
    obtain ⟨type', ht', h'⟩ := bind_ok h'
    obtain rfl := Typing.spelling_congr hn hr ht ht'
    exact Except.ok.inj (h.symm.trans h')

/-- The declaration of a definition does not depend on the document. -/
theorem declarationOf_congr (hn : b.naming = b'.naming) (hr : b.replaced = b'.replaced)
    (hd : b.redefined = b'.redefined) {path path' name : String} {definition : Definition}
    {declaration declaration' : Declaration Json}
    (h : b.declarationOf path name definition = .ok declaration)
    (h' : b'.declarationOf path' name definition = .ok declaration') :
    declaration = declaration' := by
  unfold declarationOf at h h'
  split at h
  · rename_i ho
    rw [if_pos ho] at h'
    obtain ⟨fields, hf, h⟩ := bind_ok h
    obtain ⟨fields', hf', h'⟩ := bind_ok h'
    have hf := mapM_eq_ok_iff.mp hf
    have hf' := mapM_eq_ok_iff.mp hf'
    have hfield : ∀ entry field field', b.fieldOf definition entry = .ok field →
        b'.fieldOf definition entry = .ok field' → field = field' :=
      fun _ _ _ => fieldOf_congr hn hr
    obtain rfl := eq_of_forall₂ hfield hf hf'
    exact Except.ok.inj (h.symm.trans h')
  · rename_i ho
    rw [if_neg ho] at h'
    obtain ⟨types, ht, h⟩ := bind_ok h
    obtain ⟨types', ht', h'⟩ := bind_ok h'
    unfold unionTypes at ht ht'
    rw [hd] at ht
    obtain rfl := Except.ok.inj (ht.symm.trans ht')
    -- the path is told only where there is no type
    cases types with
    | nil => cases h
    | cons type types => exact Except.ok.inj (h.symm.trans h')

end Builder

/-! ## The definitions of a module -/

/-- The location of a definition of this name, if it is declared. -/
def Settings.site? (settings : Settings) (name : String) : Option Location :=
  match settings.naming.location name with
  | .ok (some location) =>
    match Table.lists settings.replacedTypes location.name with
    | .ok false => some location
    | _ => none
  | _ => none

/-- The definitions of a schema that are declared in the module of the path, as they stand
there. -/
def Settings.definitionsIn (settings : Settings) (path : String) (schema : Json) :
    List (String × Json) :=
  (Document.rawDefinitions schema).filter fun entry =>
    (settings.site? entry.1).any (·.path = path)

namespace Generator

variable {g g' : Generator}

theorem located?_eq_map (entry : String × Definition) :
    g.located? entry = (g.settings.site? entry.1).map fun location =>
      { qualifiedName := entry.1, location, definition := entry.2 } := by
  unfold located? Settings.site?
  rcases g.settings.naming.location entry.1 with _ | _ | location
  · rfl
  · rfl
  · dsimp only
    rcases Table.lists g.settings.replacedTypes location.name with _ | _ | _ <;> rfl

/-- The definition stands under its name in the schema, and its properties are read. -/
def ReadsAt (settings : Settings) (found : String × Json) (located : Located) : Prop :=
  located.qualifiedName = found.1 ∧ settings.site? found.1 = some located.location ∧
    Definition.read (referencePrefix ++ found.1) true found.2 = .ok located.definition

theorem ofSchema_settings {settings : Settings} {schema : Json}
    (h : ofSchema settings schema = .ok g) : g.settings = settings :=
  (ofSchema_eq_ok.mp h).2.1

theorem hasLocation_of_site? {settings : Settings} {name : String} {location : Location}
    (h : settings.site? name = some location) : settings.naming.hasLocation name = .ok true := by
  unfold Settings.site? at h
  split at h
  · rename_i found hl
    unfold Naming.hasLocation
    rw [hl]
    rfl
  · cases h

/-- The definitions that belong to a module are read from what the schema says of them. -/
theorem ofSchema_readsAt {schema : Json} (h : ofSchema g.settings schema = .ok g) (path : String) :
    List.Forall₂ (ReadsAt g.settings) (g.settings.definitionsIn path schema)
      (declaredIn (g.document.definitions.filterMap g.located?) path) := by
  have hread : List.Forall₂ (Document.ReadFrom g.settings.naming.hasLocation)
      (Document.rawDefinitions schema) g.document.definitions :=
    Document.read_ok (ofSchema_eq_ok.mp h).2.2
  unfold Settings.definitionsIn
  generalize Document.rawDefinitions schema = members, g.document.definitions = definitions at hread
  induction hread with
  | nil => exact .nil
  | @cons found entry members definitions hentry _ ih =>
    obtain ⟨hname, whole, hw, hd⟩ := hentry
    have hlocated := located?_eq_map (g := g) entry
    rw [hname] at hlocated
    cases hsite : g.settings.site? found.1 with
    | none =>
      rw [hsite] at hlocated
      simpa [hsite, hlocated] using ih
    | some location =>
      rw [hsite] at hlocated
      obtain rfl := Except.ok.inj (hw.symm.trans (hasLocation_of_site? hsite))
      rw [List.filterMap_cons, hlocated]
      by_cases hp : location.path = path
      · simp only [List.filter_cons, hsite, Option.any_some, hp, decide_true, if_true, declaredIn,
          Option.map_some]
        exact .cons ⟨rfl, hsite, hd⟩ ih
      · simpa [List.filter_cons, hsite, hp, declaredIn] using ih

theorem declaredIn_perm (g : Generator) (path : String) :
    (declaredIn (g.ordered.filterMap g.located?) path).Perm
      (declaredIn (g.document.definitions.filterMap g.located?) path) :=
  ((List.mergeSort_perm _ _).filterMap _).filter _

/-- The definitions that belong to a module are the same ones if the schemas say the same of
them. -/
theorem declaredIn_perm_of_same {schema schema' : Json} {path : String}
    (hs : g.settings = g'.settings) (h : ofSchema g.settings schema = .ok g)
    (h' : ofSchema g'.settings schema' = .ok g')
    (same : (g.settings.definitionsIn path schema).Perm (g.settings.definitionsIn path schema')) :
    (declaredIn (g.ordered.filterMap g.located?) path).Perm
      (declaredIn (g'.ordered.filterMap g'.located?) path) := by
  have hreads := ofSchema_readsAt h path
  have hreads' := ofSchema_readsAt h' path
  rw [← hs] at hreads'
  refine (declaredIn_perm g path).trans (.trans ?_ (declaredIn_perm g' path).symm)
  refine Module.perm_of_forall₂ ?_ hreads hreads' same
  rintro found ⟨_, location, definition⟩ ⟨_, location', definition'⟩ ⟨hn, hl, hd⟩ ⟨hn', hl', hd'⟩
  cases hn
  cases hn'
  obtain rfl := Option.some.inj (hl.symm.trans hl')
  obtain rfl := Except.ok.inj (hd.symm.trans hd')
  rfl

/-! ## The modules of two projects -/

theorem Builds.declarationOf_eq {located : Located} {declaration : Declaration Json}
    (h : g.Builds located declaration) :
    ∃ path, (g.settings.builder g.document).declarationOf path located.location.name
      located.definition = .ok declaration := by
  obtain ⟨d, d', h⟩ := h
  refine ⟨d.module.path, ?_⟩
  rw [← ((g.settings.builder g.document).build_yields _ _ d rfl).1]
  exact congrArg Prod.fst h

/-- What the two generators build from a definition is the same. -/
theorem Builds.congr (hs : g.settings = g'.settings) {located : Located}
    {declaration declaration' : Declaration Json} (h : g.Builds located declaration)
    (h' : g'.Builds located declaration') : declaration = declaration' := by
  obtain ⟨_, h⟩ := h.declarationOf_eq
  obtain ⟨_, h'⟩ := h'.declarationOf_eq
  exact Builder.declarationOf_congr (congrArg Settings.naming hs)
    (congrArg Settings.replacedTypes hs) (congrArg Settings.redefinedTypes hs) h h'

section TwoProjects

variable {project project' : Project} {m n : Module Json}

/-- What a module imports is told by its definitions. -/
theorem Accounts.records_of_same (hs : g.settings = g'.settings)
    (acc : g.Accounts (g.ordered.filterMap g.located?) project)
    (acc' : g'.Accounts (g'.ordered.filterMap g'.located?) project')
    (hm : m ∈ project.modules) (hn : n ∈ project'.modules) (hp : m.path = n.path)
    (same : (declaredIn (g.ordered.filterMap g.located?) m.path).Perm
      (declaredIn (g'.ordered.filterMap g'.located?) n.path)) {path name : String}
    (h : m.imports.Records path name) : n.imports.Records path name := by
  obtain ⟨hne, located, hl, hlp, hneeds⟩ := (acc.records_iff hm).mp h
  obtain ⟨reference, hmention, hf⟩ := Typing.mem_needsOf.mp hneeds
  obtain ⟨hl', hlp'⟩ := mem_declaredIn.mp (same.mem_iff.mp (mem_declaredIn.mpr ⟨hl, hlp⟩))
  obtain ⟨location', replaced', hf'⟩ := acc'.follows hl' hmention
  -- the other project follows the same reference, to the same place
  obtain rfl : (⟨path, name⟩ : Location) = location' :=
    Typing.target_congr (congrArg Settings.naming hs) hf.1 hf'.1
  refine (acc'.records_iff hn).mpr ⟨hp ▸ hne, located, hl', hlp', ?_⟩
  refine Typing.mem_needsOf.mpr ⟨reference, hmention, hf'.1, ?_⟩
  have hlists := hf.2
  change Table.lists g.settings.replacedTypes name = _ at hlists
  rw [hs] at hlists
  exact hlists

theorem Holds.grown {declared : List Located} (h : g.Holds declared m) : m.imports.Grown := by
  rw [h.imports]
  exact Module.grown_importingAll Imports.grown_nil _

/-- Modules with the same definitions have the same source. -/
theorem Accounts.render_congr (hs : g.settings = g'.settings)
    (acc : g.Accounts (g.ordered.filterMap g.located?) project)
    (acc' : g'.Accounts (g'.ordered.filterMap g'.located?) project')
    (hm : m ∈ project.modules) (hn : n ∈ project'.modules) (hp : m.path = n.path)
    (same : (declaredIn (g.ordered.filterMap g.located?) m.path).Perm
      (declaredIn (g'.ordered.filterMap g'.located?) n.path)) {source source' : List String}
    (hsource : m.render = .ok source) (hsource' : n.render = .ok source') : source = source' := by
  have hgrown := (acc.holds m hm).grown
  have hgrown' := (acc'.holds n hn).grown
  have hrecords : m.imports.Same n.imports := by
    refine .of_records hgrown.inhabited hgrown'.inhabited fun path name => ⟨?_, ?_⟩
    · exact acc.records_of_same hs acc' hm hn hp same
    · exact acc'.records_of_same hs.symm acc hn hm hp.symm same.symm
  refine Module.render_congr hp hgrown.toTidy hgrown'.toTidy hrecords ?_ hsource hsource'
  exact Module.perm_of_forall₂ (fun _ _ _ hb hb' => hb.congr hs hb')
    (acc.holds m hm).declarations (acc'.holds n hn).declarations same

theorem Accounts.renderText_congr (hs : g.settings = g'.settings)
    (acc : g.Accounts (g.ordered.filterMap g.located?) project)
    (acc' : g'.Accounts (g'.ordered.filterMap g'.located?) project')
    (hm : m ∈ project.modules) (hn : n ∈ project'.modules) (hp : m.path = n.path)
    (same : (declaredIn (g.ordered.filterMap g.located?) m.path).Perm
      (declaredIn (g'.ordered.filterMap g'.located?) n.path)) {text text' : String}
    (htext : m.renderText = .ok text) (htext' : n.renderText = .ok text') : text = text' := by
  obtain ⟨source, hsource, rfl⟩ := map_ok htext
  obtain ⟨source', hsource', rfl⟩ := map_ok htext'
  rw [acc.render_congr hs acc' hm hn hp same hsource hsource']

end TwoProjects

theorem render_returns {log : Log} {texts : List (String × String)}
    (h : (g.render.outcome { log }).1 = .ok texts) :
    ∃ project, g.Accounts (g.ordered.filterMap g.located?) project ∧
      renderAll project = .ok texts := by
  have run : Task.Returns g.render { log } texts (g.render.outcome { log }).2 := Prod.ext h rfl
  obtain ⟨project, _, hgenerate, hrender⟩ := run.bind
  obtain ⟨_, _, rfl, acc⟩ := generate_returns (congrArg Prod.fst hgenerate)
  exact ⟨project, acc, hrender.ofExcept.1⟩

/-- The text is that of the module, under its path. -/
def Renders (m : Module Json) (entry : String × String) : Prop :=
  entry.1 = m.path ∧ m.renderText = .ok entry.2

section Texts

variable {project : Project} {texts : List (String × String)} {path : String}

theorem renderAll_eq_ok (h : renderAll project = .ok texts) :
    List.Forall₂ Renders project.sorted texts := by
  refine (mapM_eq_ok_iff.mp h).imp fun m entry he => ?_
  obtain ⟨text, ht, he⟩ := bind_ok he
  cases he
  exact ⟨rfl, ht⟩

theorem map_fst_of_renders {modules : List (Module Json)}
    (h : List.Forall₂ Renders modules texts) : texts.map Prod.fst = modules.map Module.path := by
  induction h with
  | nil => rfl
  | cons he _ ih => rw [List.map_cons, List.map_cons, he.1, ih]

theorem mem_sorted {m : Module Json} : m ∈ project.sorted ↔ m ∈ project.modules :=
  List.mem_mergeSort

/-- The text of a path is that of the module there. -/
theorem member?_renderAll (keyed : project.Keyed) (h : renderAll project = .ok texts)
    {text : String} :
    member? path texts = some text ↔
      ∃ m ∈ project.modules, m.path = path ∧ m.renderText = .ok text := by
  have hall := renderAll_eq_ok h
  have hnodup : (texts.map Prod.fst).Nodup := by
    rw [map_fst_of_renders hall]
    exact ((List.mergeSort_perm _ _).map Module.path).nodup_iff.mpr keyed
  rw [member?_eq_some_iff hnodup]
  constructor
  · intro hm
    obtain ⟨m, hmem, hp, ht⟩ := exists_of_forall₂ hall.flip hm
    exact ⟨m, mem_sorted.mp hmem, hp.symm, ht⟩
  · rintro ⟨m, hmem, rfl, ht⟩
    obtain ⟨⟨_, found⟩, he, rfl, hf⟩ := exists_of_forall₂ hall (mem_sorted.mpr hmem)
    rw [ht] at hf
    cases hf
    exact he

/-- There is a text of a path if there is a module. -/
theorem member?_renderAll_isSome (keyed : project.Keyed) (h : renderAll project = .ok texts) :
    (member? path texts).isSome ↔ ∃ m ∈ project.modules, m.path = path := by
  rw [Option.isSome_iff_exists]
  constructor
  · rintro ⟨text, ht⟩
    obtain ⟨m, hmem, hp, _⟩ := (member?_renderAll keyed h).mp ht
    exact ⟨m, hmem, hp⟩
  · rintro ⟨m, hmem, hp⟩
    obtain ⟨entry, _, _, ht⟩ := exists_of_forall₂ (renderAll_eq_ok h) (mem_sorted.mpr hmem)
    exact ⟨entry.2, (member?_renderAll keyed h).mpr ⟨m, hmem, hp, ht⟩⟩

end Texts

theorem Accounts.exists_module_iff {declared : List Located} {project : Project}
    (acc : g.Accounts declared project) {path : String} :
    (∃ m ∈ project.modules, m.path = path) ↔ declaredIn declared path ≠ [] := by
  constructor
  · rintro ⟨m, hmem, rfl⟩
    obtain ⟨located, hl, hp⟩ := acc.inhabited m hmem
    exact List.ne_nil_of_mem (mem_declaredIn.mpr ⟨hl, hp⟩)
  · intro hne
    obtain ⟨located, hin⟩ := List.exists_mem_of_ne_nil _ hne
    obtain ⟨hl, rfl⟩ := mem_declaredIn.mp hin
    exact acc.complete located hl

/-- The text of a module is told by its definitions as the schema gives them, and there is one if
there are any. It is the same text in every project with these definitions, whatever else the
schema says. -/
theorem module_locality {settings : Settings} {schema schema' : Json} {log log' : Log}
    {texts texts' : List (String × String)} {path : String}
    (hg : ofSchema settings schema = .ok g) (hg' : ofSchema settings schema' = .ok g')
    (ht : (g.render.outcome { log }).1 = .ok texts)
    (ht' : (g'.render.outcome { log := log' }).1 = .ok texts')
    (same : (settings.definitionsIn path schema).Perm (settings.definitionsIn path schema')) :
    member? path texts = member? path texts' ∧
      ((member? path texts).isSome ↔ settings.definitionsIn path schema ≠ []) := by
  obtain rfl := ofSchema_settings hg
  have hs := (ofSchema_settings hg').symm
  have hperm := declaredIn_perm_of_same hs hg (hs ▸ hg') same
  obtain ⟨project, acc, hr⟩ := render_returns ht
  obtain ⟨project', acc', hr'⟩ := render_returns ht'
  have hsome : (member? path texts).isSome ↔ ∃ m ∈ project.modules, m.path = path :=
    member?_renderAll_isSome acc.keyed hr
  have hsome' : (member? path texts').isSome ↔ ∃ m ∈ project'.modules, m.path = path :=
    member?_renderAll_isSome acc'.keyed hr'
  -- a module is at the path in both projects or in neither
  have hboth : (∃ m ∈ project.modules, m.path = path) ↔ ∃ m ∈ project'.modules, m.path = path := by
    rw [acc.exists_module_iff, acc'.exists_module_iff, ← List.length_pos_iff,
      ← List.length_pos_iff, hperm.length_eq]
  constructor
  · cases htext : member? path texts with
    | none =>
      have hnone : ¬ (member? path texts').isSome := by
        rw [hsome', ← hboth, ← hsome, htext]
        exact Bool.false_ne_true
      exact (Option.not_isSome_iff_eq_none.mp hnone).symm
    | some text =>
      obtain ⟨m, hm, rfl, hmt⟩ := (member?_renderAll acc.keyed hr).mp htext
      obtain ⟨n, hn, hp⟩ := hboth.mp ⟨m, hm, rfl⟩
      obtain ⟨text', htext'⟩ := Option.isSome_iff_exists.mp (hsome'.mpr ⟨n, hn, hp⟩)
      obtain ⟨k, hk, hkp, hkt⟩ := (member?_renderAll acc'.keyed hr').mp htext'
      rw [acc.renderText_congr hs acc' hm hk hkp.symm (hkp.symm ▸ hperm) hmt hkt]
      exact htext'.symm
  · rw [hsome, acc.exists_module_iff, ← List.length_pos_iff, ← List.length_pos_iff,
      (declaredIn_perm g path).length_eq, (ofSchema_readsAt hg path).length_eq]

/-- A definition that refers to another module. -/
def jobDefinition : String × Json := ("io.k8s.api.a.Job", .object [
  ("type", .string "object"),
  ("properties", .object [
    ("plain", .object [("$ref", .string "#/definitions/io.k8s.api.b.Plain")])])])

def firstSchema : Json :=
  .object [("definitions", .object [jobDefinition,
    ("io.k8s.api.b.Plain", .object [("type", .string "boolean")])])]

/-- A schema that says the same of the one module only. -/
def secondSchema : Json :=
  .object [("info", .object [("title", .string "Other")]), ("definitions", .object [
    ("Hidden", .object []), jobDefinition,
    ("io.k8s.api.b.Plain", .object [("type", .string "object")])])]

def readJob : String × Definition := ("io.k8s.api.a.Job", {
  description := .null
  type := .string "object"
  required := []
  properties := some [
    ("plain", ⟨.ref (.string "#/definitions/io.k8s.api.b.Plain"), .null⟩)]
  served := [] })

def firstGenerator : Generator where
  settings := .standard
  document := {
    title := .string ""
    version := .string ""
    definitions := [readJob,
      ("io.k8s.api.b.Plain", ⟨.null, .string "boolean", [], none, []⟩)] }

def secondGenerator : Generator where
  settings := .standard
  document := {
    title := .string "Other"
    version := .string ""
    definitions := [("Hidden", ⟨.null, .null, [], none, []⟩), readJob,
      ("io.k8s.api.b.Plain", ⟨.null, .string "object", [], none, []⟩)] }

/-- The text of the module that both have. -/
def sharedText : String :=
  "import \x7bPlain\x7d from \"./b.ts\"\n\nexport interface Job \x7b\n  plain?: Plain\n\x7d\n"

def firstTexts : List (String × String) :=
  [("a.ts", sharedText), ("b.ts", "export type Plain = boolean\n")]

def secondTexts : List (String × String) :=
  [("a.ts", sharedText), ("b.ts", "export interface Plain \x7b\n\x7d\n")]

theorem first_read : ofSchema .standard firstSchema = .ok firstGenerator := by rfl

theorem second_read : ofSchema .standard secondSchema = .ok secondGenerator := by rfl

theorem first_render : (firstGenerator.render.outcome {}).1 = .ok firstTexts := by cbv

theorem second_render : (secondGenerator.render.outcome {}).1 = .ok secondTexts := by cbv

theorem definitionsIn_first :
    Settings.standard.definitionsIn "a.ts" firstSchema = [jobDefinition] := by
  rfl

theorem definitionsIn_second :
    Settings.standard.definitionsIn "a.ts" secondSchema = [jobDefinition] := by
  rfl

theorem same_definitions : (Settings.standard.definitionsIn "a.ts" firstSchema).Perm
    (Settings.standard.definitionsIn "a.ts" secondSchema) := by
  rw [definitionsIn_first, definitionsIn_second]

theorem module_locality_of_shared :
    ofSchema .standard firstSchema = .ok firstGenerator ∧
      ofSchema .standard secondSchema = .ok secondGenerator ∧
      (firstGenerator.render.outcome {}).1 = .ok firstTexts ∧
      (secondGenerator.render.outcome {}).1 = .ok secondTexts ∧
      (Settings.standard.definitionsIn "a.ts" firstSchema).Perm
        (Settings.standard.definitionsIn "a.ts" secondSchema) ∧
      firstTexts ≠ secondTexts ∧
      member? "a.ts" firstTexts = member? "a.ts" secondTexts ∧
        ((member? "a.ts" firstTexts).isSome ↔
          Settings.standard.definitionsIn "a.ts" firstSchema ≠ []) :=
  ⟨first_read, second_read, first_render, second_render, same_definitions, by decide,
    module_locality first_read second_read first_render second_render same_definitions⟩

end Generator

end ApiTypings
