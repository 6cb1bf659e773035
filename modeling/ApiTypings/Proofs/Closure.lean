import Mathlib
import ApiTypings.Proofs.Generation
import ApiTypings.Proofs.Members

/-!
# References are closed

In a generated project nothing is missing and nothing is idle: what a definition
refers to is declared where it has its location and is imported by the module
that refers to it, and what a module imports is referred to from it and declared.
Types that are replaced are neither declared nor imported.
-/

namespace ApiTypings

namespace Project

/-- The module at the path of the location declares its name. -/
def Declares (project : Project) (location : Location) : Prop :=
  ∃ m, project.module? location.path = some m ∧
    ∃ declaration ∈ m.declarations, declaration.name? = some location.name

/-- The module of the path imports the name of the location from there. -/
def Imports (project : Project) (path : String) (location : Location) : Prop :=
  ∃ m, project.module? path = some m ∧ m.imports.Records location.path location.name

end Project

theorem Document.mem_of_resolve {document : Document} {target : Json} {name : String}
    {definition : Definition} (h : document.resolve target = .ok (name, definition)) :
    (name, definition) ∈ document.definitions := by
  unfold resolve at h
  split at h
  · split at h
    · cases h
    · split at h
      · rename_i hm
        cases h
        exact mem_of_member? hm
      · cases h
  · cases h

namespace Generator

variable {g : Generator}

/-- The reference resolves to a definition of this name, which has this location; `replaced` tells
whether the type there is replaced. -/
structure Leads (g : Generator) (reference : Json) (name : String) (location : Location)
    (replaced : Bool) : Prop where
  resolves : ∃ definition, g.document.resolve reference = .ok (name, definition)
  located : g.settings.naming.location name = .ok (some location)
  listed : Table.lists g.settings.replacedTypes location.name = .ok replaced

theorem follows_iff {reference : Json} {location : Location} {replaced : Bool} :
    g.typing.Follows reference location replaced ↔
      ∃ name, g.Leads reference name location replaced := by
  unfold Typing.Follows
  rw [Typing.target_eq_ok]
  constructor
  · rintro ⟨⟨name, definition, hr, hl⟩, ht⟩
    exact ⟨name, ⟨definition, hr⟩, hl, ht⟩
  · rintro ⟨name, ⟨definition, hr⟩, hl, ht⟩
    exact ⟨⟨name, definition, hr, hl⟩, ht⟩

/-- What the project has to hold for the definitions it declares. -/
structure Closed (g : Generator) (declared : List Located) (project : Project) : Prop where
  /-- Every reference leads to a location. Unless the type there is replaced it is declared, in the
  module that refers to it or in one that it is imported from. -/
  resolved : ∀ located ∈ declared, ∀ reference, located.definition.Mentions reference →
    ∃ name location replaced, g.Leads reference name location replaced ∧
      (replaced = false → project.Declares location ∧
        (located.location.path = location.path ∨ project.Imports located.location.path location))
  /-- Every import is declared, and a definition of the module refers to it. -/
  recorded : ∀ m ∈ project.modules, ∀ path name, m.imports.Records path name →
    project.Declares ⟨path, name⟩ ∧
      ∃ located ∈ declared, located.location.path = m.path ∧
        ∃ reference, located.definition.Mentions reference ∧
          ∃ target, g.Leads reference target ⟨path, name⟩ false
  declarations_kept : ∀ m ∈ project.modules, ∀ declaration ∈ m.declarations,
    ∃ name, declaration.name? = some name ∧ Table.lists g.settings.replacedTypes name = .ok false
  imports_kept : ∀ m ∈ project.modules, ∀ path name, m.imports.Records path name →
    Table.lists g.settings.replacedTypes name = .ok false

/-- Where a definition is declared the project declares its name. -/
theorem Accounts.declares {declared : List Located} {project : Project}
    (h : g.Accounts declared project) {located : Located} (hl : located ∈ declared) :
    project.Declares located.location := by
  obtain ⟨m, hm, hp⟩ := h.complete located hl
  exact ⟨m, h.keyed.module?_eq_some.mpr ⟨hm, hp⟩,
    (h.exists_declaration_iff hm).mpr ⟨located, hl, by rw [hp]⟩⟩

/-- What a reference leads to is declared, unless it is replaced. -/
theorem Leads.mem_declared {reference : Json} {name : String} {location : Location}
    (h : g.Leads reference name location false) :
    ∃ definition, g.document.resolve reference = .ok (name, definition) ∧
      ⟨name, location, definition⟩ ∈ g.ordered.filterMap g.located? := by
  obtain ⟨definition, hr⟩ := h.resolves
  exact ⟨definition, hr, Generator.mem_declared.mpr
    ⟨Document.mem_of_resolve hr, h.located, h.listed⟩⟩

/-- A generated project is closed under references. -/
theorem reference_closure {log : Log} {project : Project}
    (h : (g.generate.outcome { log }).1 = .ok project) :
    ∃ declared, (g.definitions.outcome { log }).1 = .ok declared ∧ g.Closed declared project := by
  obtain ⟨declared, hd, hlist, acc⟩ := generate_returns h
  have leads_declared : ∀ {reference name location}, g.Leads reference name location false →
      project.Declares location := by
    intro reference name location hl
    obtain ⟨definition, _, hm⟩ := hl.mem_declared
    exact acc.declares (hlist ▸ hm)
  refine ⟨declared, hd, ?_, ?_, ?_, ?_⟩
  · intro located hl reference hr
    obtain ⟨location, replaced, hf⟩ := acc.follows hl hr
    obtain ⟨name, leads⟩ := follows_iff.mp hf
    refine ⟨name, location, replaced, leads, ?_⟩
    rintro rfl
    refine ⟨leads_declared leads, ?_⟩
    -- an import is recorded only for another module
    by_cases hp : located.location.path = location.path
    · exact .inl hp
    · obtain ⟨m, hm, hmp⟩ := acc.complete located hl
      refine .inr ⟨m, acc.keyed.module?_eq_some.mpr ⟨hm, hmp⟩, ?_⟩
      rw [acc.records_iff hm]
      exact ⟨fun he => hp (hmp ▸ he.symm), located, hl, hmp.symm,
        Typing.mem_needsOf.mpr ⟨reference, hr, hf⟩⟩
  · intro m hm path name hr
    obtain ⟨_, located, hl, hp, hn⟩ := (acc.records_iff hm).mp hr
    obtain ⟨reference, hmention, hf⟩ := Typing.mem_needsOf.mp hn
    obtain ⟨target, leads⟩ := follows_iff.mp hf
    exact ⟨leads_declared leads, located, hl, hp, reference, hmention, target, leads⟩
  · intro m hm declaration hdecl
    have hname : declaration.name? ∈ m.declarations.map Declaration.name? :=
      List.mem_map_of_mem hdecl
    rw [acc.declaration_names hm] at hname
    obtain ⟨located, hin, he⟩ := List.mem_map.mp hname
    have hl := (mem_declaredIn.mp hin).1
    rw [hlist] at hl
    exact ⟨located.location.name, he.symm, (Generator.mem_declared.mp hl).2.2⟩
  · intro m hm path name hr
    obtain ⟨_, located, hl, hp, hn⟩ := (acc.records_iff hm).mp hr
    obtain ⟨reference, _, hf⟩ := Typing.mem_needsOf.mp hn
    exact hf.2

/-- Definitions that refer to another of their own module, to one of another module and to one that
is replaced. -/
def linked : Generator := ofObjects [
  ("io.k8s.api.batch.v1.Job", [
    ("spec", .ref (.string "#/definitions/io.k8s.api.batch.v1.JobSpec")),
    ("owners", .array (.map
      (.ref (.string "#/definitions/io.k8s.apimachinery.pkg.apis.meta.v1.OwnerReference"))))]),
  ("io.k8s.api.batch.v1.JobSpec", [
    ("limit", .ref (.string "#/definitions/io.k8s.apimachinery.pkg.util.intstr.IntOrString"))]),
  ("io.k8s.apimachinery.pkg.apis.meta.v1.OwnerReference", []),
  ("io.k8s.apimachinery.pkg.util.intstr.IntOrString", [])]

def linkedJobs : Module Json where
  path := "batch/v1.ts"
  imports := [("meta/v1.ts", ["OwnerReference"])]
  declarations := [
    .interface "Job" .null [
      ⟨"spec", .null, .string "JobSpec", true⟩,
      ⟨"owners", .null, .string "Array<\x7b[name: string]: OwnerReference\x7d>", true⟩],
    .interface "JobSpec" .null [⟨"limit", .null, .string "number | string", true⟩]]

def linkedProject : Project where
  modules := [
    linkedJobs,
    { path := "meta/v1.ts", declarations := [.interface "OwnerReference" .null []] }]

theorem generate_linked : (linked.generate.outcome {}).1 = .ok linkedProject := by cbv

theorem reference_closure_of_linked :
    (linked.generate.outcome {}).1 = .ok linkedProject ∧
      ∃ declared, (linked.definitions.outcome {}).1 = .ok declared ∧
        linked.Closed declared linkedProject :=
  ⟨generate_linked, reference_closure generate_linked⟩

end Generator

end ApiTypings
