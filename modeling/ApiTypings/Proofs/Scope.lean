import ApiTypings.Proofs.Closure

/-!
# What a name stands for in a module

The types of a module name what they refer to by the last part of its location
alone. Nothing keeps two locations from ending alike, so a module may import one
name twice, or import a name that it declares. It does neither exactly if the
locations that it has to do with end differently, and then every name in it stands
for the definition that the reference points to.
-/

namespace ApiTypings

namespace Module

/-- In the module the name of the location stands for what is declared there. -/
def Binds (m : Module Json) (location : Location) : Prop :=
  m.imports.Records location.path location.name ∨
    (location.path = m.path ∧
      ∃ declaration ∈ m.declarations, declaration.name? = some location.name)

/-- Every name that the module imports is imported from one module only and not declared here. -/
structure Unambiguous (m : Module Json) : Prop where
  once : ∀ p q name, m.imports.Records p name → m.imports.Records q name → p = q
  undeclared : ∀ p name, m.imports.Records p name →
    ∀ declaration ∈ m.declarations, declaration.name? ≠ some name

/-- In a module that imports nothing from itself this is to say that a name stands for one thing. -/
theorem unambiguous_iff {m : Module Json} (hself : ∀ name, ¬ m.imports.Records m.path name) :
    m.Unambiguous ↔ ∀ l l', m.Binds l → m.Binds l' → l.name = l'.name → l = l' := by
  constructor
  · rintro h ⟨p, name⟩ ⟨q, _⟩ hl hl' rfl
    rcases hl with hl | ⟨hp, declaration, hd, hn⟩ <;> rcases hl' with hl' | ⟨hq, other, ho, hn'⟩
    · rw [h.once p q name hl hl']
    · exact absurd hn' (h.undeclared p name hl other ho)
    · exact absurd hn (h.undeclared q name hl' declaration hd)
    · exact congrArg (Location.mk · name) (hp.trans hq.symm)
  · intro h
    constructor
    · intro p q name hp hq
      exact congrArg Location.path (h ⟨p, name⟩ ⟨q, name⟩ (.inl hp) (.inl hq) rfl)
    · intro p name hp declaration hd hn
      have hsame := h ⟨p, name⟩ ⟨m.path, name⟩ (.inl hp) (.inr ⟨rfl, declaration, hd, hn⟩) rfl
      obtain rfl : p = m.path := congrArg Location.path hsame
      exact hself name hp

end Module

namespace Generator

variable {g : Generator}

/-- A definition that belongs to the module of the path is declared at the location, or refers to
what is. -/
def InScope (g : Generator) (declared : List Located) (path : String) (location : Location) :
    Prop :=
  ∃ located ∈ declared, located.location.path = path ∧
    (located.location = location ∨
      ∃ reference, located.definition.Mentions reference ∧
        ∃ name, g.Leads reference name location false)

/-- A module binds the names of the locations in its scope. -/
theorem Accounts.binds_iff {project : Project}
    (h : g.Accounts (g.ordered.filterMap g.located?) project) {m : Module Json}
    (hm : m ∈ project.modules) {location : Location} :
    m.Binds location ↔ g.InScope (g.ordered.filterMap g.located?) m.path location := by
  unfold Module.Binds
  rw [h.records_iff hm, h.exists_declaration_iff hm]
  constructor
  · rintro (⟨_, located, hl, hp, hn⟩ | ⟨hp, located, hl, he⟩)
    · obtain ⟨reference, hmention, hf⟩ := Typing.mem_needsOf.mp hn
      exact ⟨located, hl, hp, .inr ⟨reference, hmention, follows_iff.mp hf⟩⟩
    · exact ⟨located, hl, by rw [he], .inl (by rw [he, ← hp])⟩
  · rintro ⟨located, hl, hp, rfl | ⟨reference, hmention, name, leads⟩⟩
    · exact .inr ⟨hp, located, hl, by rw [← hp]⟩
    -- what the module refers to in itself is not imported but declared there
    · by_cases hself : location.path = m.path
      · obtain ⟨definition, _, hdeclared⟩ := leads.mem_declared
        exact .inr ⟨hself, _, hdeclared, by rw [← hself]⟩
      · exact .inl ⟨hself, located, hl, hp,
          Typing.mem_needsOf.mpr ⟨reference, hmention, follows_iff.mpr ⟨name, leads⟩⟩⟩

/-- In the module the name of the location stands for that alone, and what is declared there is the
definition that the reference points to. -/
def Denotes (g : Generator) (declared : List Located) (m : Module Json) (reference : Json)
    (location : Location) : Prop :=
  (∀ l, m.Binds l ∧ l.name = location.name ↔ l = location) ∧
    ∃ name target, g.document.resolve reference = .ok (name, target) ∧
      ∀ other, other ∈ declared ∧ other.location = location ↔ other = ⟨name, location, target⟩

/-- The field is that of the property, and where its type ends in the name of what a reference leads
to, that name denotes it. -/
def Conveys (g : Generator) (declared : List Located) (m : Module Json) (definition : Definition)
    (entry : String × Property) (field : Field Json) : Prop :=
  field.name = entry.1 ∧
    (¬ definition.Narrows entry.1 → ∀ reference, entry.2.value.reference? = some reference →
      ∃ name location replaced, g.Leads reference name location replaced ∧
        (replaced = false →
          field.type = entry.2.value.around (.string location.name) ∧
            g.Denotes declared m reference location))

/-- Where no name stands for two locations, that of what a definition refers to denotes it. -/
theorem Accounts.denotes {declared : List Located} {project : Project}
    (h : g.Accounts declared project) (hlist : declared = g.ordered.filterMap g.located?)
    (hdistinct : (declared.map Located.location).Nodup) {m : Module Json}
    (hm : m ∈ project.modules) (hone : ∀ l l', m.Binds l → m.Binds l' → l.name = l'.name → l = l')
    {located : Located} (hl : located ∈ declared) (hp : located.location.path = m.path)
    {reference : Json} (hmention : located.definition.Mentions reference) {name : String}
    {location : Location} (leads : g.Leads reference name location false) :
    g.Denotes declared m reference location := by
  have hbinds : m.Binds location := by
    subst hlist
    exact (h.binds_iff hm).mpr ⟨located, hl, hp, .inr ⟨reference, hmention, name, leads⟩⟩
  obtain ⟨target, hresolve, hmem⟩ := leads.mem_declared
  rw [← hlist] at hmem
  refine ⟨fun l => ⟨fun hb => hone l location hb.1 hbinds hb.2, ?_⟩, name, target, hresolve,
    fun other => ⟨fun ho => List.inj_on_of_nodup_map hdistinct ho.1 hmem ho.2, ?_⟩⟩
  · rintro rfl
    exact ⟨hbinds, rfl⟩
  · rintro rfl
    exact ⟨hmem, rfl⟩

/-- When the names of a module are unambiguous. They are exactly if no two locations in its
scope end alike, and then every reference from it is spelled by a name that stands for the
definition that it points to. -/
theorem scope_unambiguous {log : Log} {project : Project} {declared : List Located}
    (hdeclared : (g.definitions.outcome { log }).1 = .ok declared)
    (hdistinct : (declared.map Located.location).Nodup)
    (h : (g.generate.outcome { log }).1 = .ok project) {m : Module Json}
    (hm : m ∈ project.modules) :
    (m.Unambiguous ↔ ∀ l l', g.InScope declared m.path l → g.InScope declared m.path l' →
      l.name = l'.name → l = l') ∧
    (m.Unambiguous → ∀ located ∈ declared, located.location.path = m.path →
      ∃ declaration ∈ m.declarations, declaration.name? = some located.location.name ∧
        (located.definition.isObject = true →
          ∀ properties, located.definition.properties = some properties →
            ∃ description fields,
              declaration = .interface located.location.name description fields ∧
                List.Forall₂ (g.Conveys declared m located.definition) properties fields)) := by
  obtain ⟨found, hfound, hlist, acc⟩ := generate_returns h
  obtain rfl : declared = found := Except.ok.inj (hdeclared.symm.trans hfound)
  have hself : ∀ name, ¬ m.imports.Records m.path name :=
    fun name hr => ((acc.records_iff hm).mp hr).1 rfl
  have hscope : ∀ l, m.Binds l ↔ g.InScope declared m.path l := by
    subst hlist
    exact fun l => acc.binds_iff hm
  have hunambiguous := Module.unambiguous_iff hself
  constructor
  · simp only [hunambiguous, hscope]
  · intro hone located hl hp
    obtain ⟨declaration, hd, hname, hbuilt⟩ := acc.declaration hm hl hp
    refine ⟨declaration, hd, hname, fun ho properties hprops => ?_⟩
    obtain ⟨description, fields, rfl, hfields⟩ := hbuilt ho properties hprops
    refine ⟨description, fields, rfl, ?_⟩
    refine ((List.forall₂_and_left _ _).mpr ⟨fun entry he => he, hfields⟩).imp ?_
    rintro entry field ⟨he, hcname, hspells⟩
    refine ⟨hcname, fun hn reference hr => ?_⟩
    obtain ⟨location, replaced, hf, htype⟩ := hspells hn reference hr
    obtain ⟨name, leads⟩ := follows_iff.mp hf
    refine ⟨name, location, replaced, leads, ?_⟩
    rintro rfl
    exact ⟨htype rfl, acc.denotes hlist hdistinct hm (hunambiguous.mp hone) hl hp
      ⟨ho, properties, hprops, entry, he, hn, hr⟩ leads⟩

def linkedDeclared : List Located :=
  List.zipWith (fun entry location => ⟨entry.1, location, entry.2⟩) linked.document.definitions
    [⟨"batch/v1.ts", "Job"⟩, ⟨"batch/v1.ts", "JobSpec"⟩, ⟨"meta/v1.ts", "OwnerReference"⟩]

theorem definitions_linked : (linked.definitions.outcome {}).1 = .ok linkedDeclared := by cbv

theorem linkedJobs_unambiguous : linkedJobs.Unambiguous := by
  constructor
  · intro p q name hp hq
    simp only [linkedJobs, Imports.records_cons, Imports.not_records_nil, or_false] at hp hq
    rw [hp.1, hq.1]
  · intro p name hp
    simp only [linkedJobs, Imports.records_cons, Imports.not_records_nil, or_false,
      List.mem_singleton] at hp
    rw [hp.2]
    decide

theorem scope_unambiguous_of_linked :
    (linked.definitions.outcome {}).1 = .ok linkedDeclared ∧
      (linkedDeclared.map Located.location).Nodup ∧
      (linked.generate.outcome {}).1 = .ok linkedProject ∧
      ∃ m ∈ linkedProject.modules, m.Unambiguous ∧
        (∀ l l', linked.InScope linkedDeclared m.path l → linked.InScope linkedDeclared m.path l' →
          l.name = l'.name → l = l') ∧
        ∀ located ∈ linkedDeclared, located.location.path = m.path →
          ∃ declaration ∈ m.declarations, declaration.name? = some located.location.name ∧
            (located.definition.isObject = true →
              ∀ properties, located.definition.properties = some properties →
                ∃ description fields,
                  declaration = .interface located.location.name description fields ∧
                    List.Forall₂ (linked.Conveys linkedDeclared m located.definition)
                      properties fields) := by
  have hm : linkedJobs ∈ linkedProject.modules := List.mem_cons_self ..
  obtain ⟨hscope, hconveys⟩ :=
    scope_unambiguous definitions_linked (by decide) generate_linked hm
  exact ⟨definitions_linked, by decide, generate_linked, _, hm, linkedJobs_unambiguous,
    hscope.mp linkedJobs_unambiguous, hconveys linkedJobs_unambiguous⟩

/-- Definitions that end alike, of which one refers to another and a third to both. -/
def homonyms : Generator := ofObjects [
  ("io.k8s.api.a.X", []),
  ("io.k8s.api.b.X", [("next", .ref (.string "#/definitions/io.k8s.api.a.X"))]),
  ("io.k8s.api.c.Y", [
    ("one", .ref (.string "#/definitions/io.k8s.api.a.X")),
    ("others", .array (.ref (.string "#/definitions/io.k8s.api.b.X")))])]

def homonymsDeclared : List Located :=
  List.zipWith (fun entry location => ⟨entry.1, location, entry.2⟩) homonyms.document.definitions
    [⟨"a.ts", "X"⟩, ⟨"b.ts", "X"⟩, ⟨"c.ts", "Y"⟩]

def homonymsProject : Project where
  modules := [
    { path := "a.ts", declarations := [.interface "X" .null []] },
    { path := "b.ts"
      imports := [("a.ts", ["X"])]
      declarations := [.interface "X" .null [⟨"next", .null, .string "X", true⟩]] },
    { path := "c.ts"
      imports := [("a.ts", ["X"]), ("b.ts", ["X"])]
      declarations := [.interface "Y" .null [
        ⟨"one", .null, .string "X", true⟩, ⟨"others", .null, .string "Array<X>", true⟩]] }]

theorem definitions_homonyms :
    (homonyms.definitions.outcome {}).1 = .ok homonymsDeclared := by cbv

theorem generate_homonyms : (homonyms.generate.outcome {}).1 = .ok homonymsProject := by cbv

def homonymsSchema : Json := .object [("definitions", .object [
  ("io.k8s.api.a.X", .object [("type", .string "object"), ("properties", .object [])]),
  ("io.k8s.api.b.X", .object [("type", .string "object"), ("properties", .object [
    ("next", .object [("$ref", .string "#/definitions/io.k8s.api.a.X")])])]),
  ("io.k8s.api.c.Y", .object [("type", .string "object"), ("properties", .object [
    ("one", .object [("$ref", .string "#/definitions/io.k8s.api.a.X")]),
    ("others", .object [("type", .string "array"),
      ("items", .object [("$ref", .string "#/definitions/io.k8s.api.b.X")])])])])])]

/-- A schema with such definitions is read, and though their locations are distinct one module of
the project imports a name twice and another imports a name that it declares. -/
theorem homonyms_ambiguous :
    ofSchema .standard homonymsSchema = .ok homonyms ∧
      (homonyms.definitions.outcome {}).1 = .ok homonymsDeclared ∧
      (homonymsDeclared.map Located.location).Nodup ∧
      (homonyms.generate.outcome {}).1 = .ok homonymsProject ∧
      (∃ m ∈ homonymsProject.modules, ∃ p q name, p ≠ q ∧
        m.imports.Records p name ∧ m.imports.Records q name) ∧
      ∃ m ∈ homonymsProject.modules, ∃ p name, m.imports.Records p name ∧
        ∃ declaration ∈ m.declarations, declaration.name? = some name := by
  refine ⟨by cbv, definitions_homonyms, by decide, generate_homonyms, ?_, ?_⟩
  · refine ⟨_, List.mem_cons_of_mem _ (List.mem_cons_of_mem _ (List.mem_cons_self ..)),
      "a.ts", "b.ts", "X", by decide, ?_, ?_⟩
    · exact ⟨["X"], by simp, by simp⟩
    · exact ⟨["X"], by simp, by simp⟩
  · exact ⟨_, List.mem_cons_of_mem _ (List.mem_cons_self ..), "a.ts", "X",
      ⟨["X"], by simp, by simp⟩, _, List.mem_cons_self .., rfl⟩

end Generator

end ApiTypings
