import ApiTypings.Generation
import ApiTypings.Proofs.References

/-!
# What a generated project holds

The definitions that a generator declares are those that have a location and are
not replaced; of the others it is noted why they are skipped. Declaring one of them
changes the module at its location only, so after any number of them a project
accounts for each: its modules are those at the locations, and a module holds the
declarations of the definitions that belong there, in order, and imports what they
need.
-/

namespace ApiTypings

theorem Settings.require_eq_ok {settings : Settings} {name : String} :
    settings.require name = .ok () ↔ name ∉ settings.missing := by
  unfold require
  split <;> simp_all [faulty]

/-- Settings that have the tables of names and of types. -/
structure Settings.HasTables (settings : Settings) : Prop where
  prefixes : "namespace_prefixes" ∉ settings.missing
  replaced : "replaced_types" ∉ settings.missing
  redefined : "redefined_types" ∉ settings.missing

namespace Generator

variable {g : Generator}

section Making

variable {settings : Settings} {schema : Json} {document : Document}

theorem ofDocument_eq_ok : ofDocument settings document = .ok g ↔
    "replaced_types" ∉ settings.missing ∧ "redefined_types" ∉ settings.missing ∧
      g = ⟨settings, document⟩ := by
  constructor
  · intro h
    obtain ⟨_, hreplaced, h⟩ := bind_ok h
    obtain ⟨_, hredefined, h⟩ := bind_ok h
    cases h
    exact ⟨Settings.require_eq_ok.mp hreplaced, Settings.require_eq_ok.mp hredefined, rfl⟩
  · rintro ⟨hreplaced, hredefined, rfl⟩
    rw [ofDocument, Settings.require_eq_ok.mpr hreplaced, Settings.require_eq_ok.mpr hredefined]
    rfl

theorem ofSchema_eq_ok : ofSchema settings schema = .ok g ↔ settings.HasTables ∧
    g.settings = settings ∧ Document.read settings.naming.hasLocation schema = .ok g.document := by
  constructor
  · intro h
    obtain ⟨_, hprefixes, h⟩ := bind_ok h
    obtain ⟨document, hread, h⟩ := bind_ok h
    obtain ⟨hreplaced, hredefined, rfl⟩ := ofDocument_eq_ok.mp h
    exact ⟨⟨Settings.require_eq_ok.mp hprefixes, hreplaced, hredefined⟩, rfl, hread⟩
  · rintro ⟨h, rfl, hread⟩
    rw [ofSchema, Settings.require_eq_ok.mpr h.prefixes, hread]
    exact ofDocument_eq_ok.mpr ⟨h.replaced, h.redefined, rfl⟩

theorem ofWholeSchema_eq_ok : ofWholeSchema settings schema = .ok g ↔ settings.HasTables ∧
    g.settings = settings ∧ Document.read Document.all schema = .ok g.document := by
  constructor
  · intro h
    obtain ⟨document, hread, h⟩ := bind_ok h
    obtain ⟨_, hprefixes, h⟩ := bind_ok h
    obtain ⟨hreplaced, hredefined, rfl⟩ := ofDocument_eq_ok.mp h
    exact ⟨⟨Settings.require_eq_ok.mp hprefixes, hreplaced, hredefined⟩, rfl, hread⟩
  · rintro ⟨h, rfl, hread⟩
    rw [ofWholeSchema, hread, Settings.require_eq_ok.mpr h.prefixes]
    exact ofDocument_eq_ok.mpr ⟨h.replaced, h.redefined, rfl⟩
end Making

/-! ## The definitions that are declared -/

/-- What types are worked out from while a generator runs. -/
def typing (g : Generator) : Typing := (g.settings.builder g.document).toTyping

/-- The definition of a name where it is declared, unless it has no location or is replaced. -/
def located? (g : Generator) (entry : String × Definition) : Option Located :=
  match g.settings.naming.location entry.1 with
  | .ok (some location) =>
    match Table.lists g.settings.replacedTypes location.name with
    | .ok false => some { qualifiedName := entry.1, location, definition := entry.2 }
    | _ => none
  | _ => none

theorem located?_eq_some {entry : String × Definition} {located : Located} :
    g.located? entry = some located ↔
      entry = (located.qualifiedName, located.definition) ∧
        g.settings.naming.location located.qualifiedName = .ok (some located.location) ∧
        Table.lists g.settings.replacedTypes located.location.name = .ok false := by
  constructor
  · intro h
    unfold located? at h
    split at h
    · rename_i location hl
      split at h
      · rename_i hk
        cases h
        exact ⟨rfl, hl, hk⟩
      · cases h
    · cases h
  · rintro ⟨rfl, hl, hk⟩
    simp [located?, hl, hk]

/-- A definition is declared at its location, or the record says why it is skipped. -/
inductive Settles (settings : Settings) : String × Definition → Located ⊕ LogRecord → Prop
  | declared {name : String} {definition : Definition} {location : Location}
      (hl : settings.naming.location name = .ok (some location))
      (hr : Table.entry? settings.replacedTypes location.name = .ok none) :
      Settles settings (name, definition) (.inl { qualifiedName := name, location, definition })
  | unplaced {name : String} {definition : Definition}
      (hl : settings.naming.location name = .ok none) :
      Settles settings (name, definition)
        (.inr ⟨.debug, "Skipping " ++ name ++ ": no known namespace prefix"⟩)
  | replaced {name : String} {definition : Definition} {location : Location} {replacement : Json}
      (hl : settings.naming.location name = .ok (some location))
      (hr : Table.entry? settings.replacedTypes location.name = .ok (some replacement)) :
      Settles settings (name, definition)
        (.inr ⟨.debug, "Skipping " ++ name ++ ": replaced by " ++ replacement.plain⟩)

theorem Settles.located?_eq {entry : String × Definition} {fate : Located ⊕ LogRecord}
    (h : Settles g.settings entry fate) : g.located? entry = fate.getLeft? := by
  cases h with
  | declared hl hr => exact located?_eq_some.mpr ⟨rfl, hl, Table.entry?_ok hr⟩
  | unplaced hl => simp [located?, hl]
  | replaced hl hr => simp [located?, hl, Table.entry?_ok hr]

/-- The definitions that are declared. -/
def declaredOf (fates : List (Located ⊕ LogRecord)) : List Located := fates.filterMap Sum.getLeft?

/-- The records about those that are not. -/
def skippedOf (fates : List (Located ⊕ LogRecord)) : Log := fates.filterMap Sum.getRight?

theorem place_settles {entry : String × Definition} {found : Option Located} {w w' : Work}
    (h : Task.Returns (g.place entry.1 entry.2) w found w') :
    ∃ fate, Settles g.settings entry fate ∧ found = fate.getLeft? ∧
      w' = { w with log := w.log ++ fate.getRight?.toList } := by
  obtain ⟨name, definition⟩ := entry
  obtain ⟨site, _, hs, rest⟩ := h.bind
  obtain ⟨hl, rfl⟩ := hs.ofExcept
  cases site with
  | none =>
    obtain ⟨_, u, hn, ret⟩ := rest.bind
    obtain ⟨rfl, rfl⟩ := ret.pure
    exact ⟨_, .unplaced hl, rfl, hn.modify⟩
  | some location =>
    obtain ⟨entry, _, he, last⟩ := rest.bind
    obtain ⟨hr, rfl⟩ := he.ofExcept
    cases entry with
    | none =>
      obtain ⟨rfl, rfl⟩ := last.pure
      exact ⟨_, .declared hl hr, rfl, by simp⟩
    | some replacement =>
      obtain ⟨_, u, hn, ret⟩ := last.bind
      obtain ⟨rfl, rfl⟩ := ret.pure
      exact ⟨_, .replaced hl hr, rfl, hn.modify⟩

theorem mapM_place_settles {entries : List (String × Definition)} {found : List (Option Located)}
    {w w' : Work}
    (h : Task.Returns (entries.mapM fun (name, definition) => g.place name definition) w found w') :
    ∃ fates, List.Forall₂ (Settles g.settings) entries fates ∧
      found = fates.map Sum.getLeft? ∧ w' = { w with log := w.log ++ skippedOf fates } := by
  induction entries generalizing w found with
  | nil =>
    obtain ⟨rfl, rfl⟩ := h.pure
    exact ⟨[], .nil, rfl, by simp [skippedOf]⟩
  | cons entry rest ih =>
    obtain ⟨first, u, others, hfirst, hothers, rfl⟩ := h.mapM_cons
    obtain ⟨fate, hfate, rfl, rfl⟩ := place_settles hfirst
    obtain ⟨fates, hfates, rfl, rfl⟩ := ih hothers
    refine ⟨fate :: fates, .cons hfate hfates, rfl, ?_⟩
    have hskipped : skippedOf (fate :: fates) = fate.getRight?.toList ++ skippedOf fates := by
      cases fate <;> rfl
    rw [hskipped, List.append_assoc]

theorem declaredOf_eq {entries : List (String × Definition)} {fates : List (Located ⊕ LogRecord)}
    (h : List.Forall₂ (Settles g.settings) entries fates) :
    declaredOf fates = entries.filterMap g.located? := by
  induction h with
  | nil => rfl
  | cons hfate _ ih =>
    rw [declaredOf, List.filterMap_cons, List.filterMap_cons, hfate.located?_eq, ← ih]
    rfl

theorem definitions_settles {declared : List Located} {w w' : Work}
    (h : Task.Returns g.definitions w declared w') :
    ∃ fates, List.Forall₂ (Settles g.settings) g.ordered fates ∧
      declared = declaredOf fates ∧ w' = { w with log := w.log ++ skippedOf fates } := by
  obtain ⟨found, u, hf, ret⟩ := h.bind
  obtain ⟨rfl, rfl⟩ := ret.pure
  obtain ⟨fates, hfates, rfl, rfl⟩ := mapM_place_settles hf
  refine ⟨fates, hfates, ?_, rfl⟩
  rw [declaredOf, List.filterMap_map, Function.id_comp]

/-- The definitions that are declared are those of the document that have a location and are not
replaced. -/
theorem mem_declared {located : Located} :
    located ∈ g.ordered.filterMap g.located? ↔
      (located.qualifiedName, located.definition) ∈ g.document.definitions ∧
        g.settings.naming.location located.qualifiedName = .ok (some located.location) ∧
        Table.lists g.settings.replacedTypes located.location.name = .ok false := by
  simp [ordered, List.mem_filterMap, located?_eq_some, and_assoc]

theorem location_of_mem {declared : List Located} (h : declared = g.ordered.filterMap g.located?)
    {located : Located} (hl : located ∈ declared) :
    g.settings.naming.location located.qualifiedName = .ok (some located.location) := by
  rw [h] at hl
  exact (mem_declared.mp hl).2.1

/-! ## Declaring one after the other -/

/-- The declaration is what the definition is built into. -/
def Builds (g : Generator) (located : Located) (declaration : Declaration Json) : Prop :=
  ∃ d d', Task.Returns
    ((g.settings.builder g.document).build located.location.name located.definition)
    d declaration d'

theorem Builds.declares {located : Located} {declaration : Declaration Json}
    (h : g.Builds located declaration) :
    g.typing.Declares located.location.name located.definition declaration := by
  obtain ⟨_, _, h⟩ := h
  exact (Builder.build_returns h).2

/-- The definitions among those given that belong to the module of a path. -/
def declaredIn (declared : List Located) (path : String) : List Located :=
  declared.filter fun located => located.location.path = path

theorem mem_declaredIn {declared : List Located} {path : String} {located : Located} :
    located ∈ declaredIn declared path ↔ located ∈ declared ∧ located.location.path = path := by
  simp [declaredIn]

/-- What the module of a path has to import for the definitions that belong there. -/
def needsIn (g : Generator) (declared : List Located) (path : String) : List Location :=
  (declaredIn declared path).flatMap fun located => g.typing.needsOf located.definition

/-- The module declares the definitions that belong there, and imports what they need. -/
structure Holds (g : Generator) (declared : List Located) (m : Module Json) : Prop where
  imports : m.imports =
    (({ path := m.path } : Module Json).importingAll (g.needsIn declared m.path)).imports
  declarations : List.Forall₂ g.Builds (declaredIn declared m.path) m.declarations

/-- The modules of the project are those at the locations of the definitions, and each holds what
belongs there. -/
structure Accounts (g : Generator) (declared : List Located) (project : Project) : Prop where
  keyed : project.Keyed
  holds : ∀ m ∈ project.modules, g.Holds declared m
  inhabited : ∀ m ∈ project.modules, ∃ located ∈ declared, located.location.path = m.path
  complete : ∀ located ∈ declared, ∃ m ∈ project.modules, m.path = located.location.path

/-- What is at a path in a project that accounts for definitions, a new module included. -/
theorem Accounts.moduleAt {declared : List Located} {project : Project}
    (h : g.Accounts declared project) (path : String) :
    g.Holds declared (project.moduleAt path) := by
  cases hm : project.module? path with
  | some m =>
    rw [Project.moduleAt, hm]
    exact h.holds m (h.keyed.module?_eq_some.mp hm).1
  | none =>
    -- a definition that belongs there would have made the module
    have hnone : declaredIn declared path = [] := by
      rw [declaredIn, List.filter_eq_nil_iff]
      intro located hl hp
      obtain ⟨m, hmem, hmp⟩ := h.complete located hl
      rw [of_decide_eq_true hp] at hmp
      rw [h.keyed.module?_eq_some.mpr ⟨hmem, hmp⟩] at hm
      cases hm
    rw [Project.moduleAt, hm]
    constructor
    · simp [needsIn, hnone]
    · simp [hnone]

theorem inModule_returns {α : Type} {path : String} {step : Building α} {a : α} {w w' : Work}
    (h : Task.Returns (inModule path step) w a w') :
    ∃ d, Task.Returns step { module := w.project.moduleAt path, log := w.log } a d ∧
      w' = { project := w.project.store d.module, log := d.log } := by
  obtain ⟨_, _, hg, rest⟩ := h.bind
  obtain ⟨rfl, rfl⟩ := hg.get
  obtain ⟨_, v, hs, ret⟩ := rest.bind
  obtain ⟨hout, rfl⟩ := ret.ofExcept
  refine ⟨_, Prod.ext hout rfl, ?_⟩
  rw [hs.set]
  rfl

/-- The warnings about the definitions that are declared, in their order. -/
def warningsOf (declared : List Located) : Log :=
  declared.flatMap fun located =>
    Builder.warnings located.location.path located.location.name located.definition

theorem declare_returns {located : Located} {w w' : Work} {u : Unit}
    (h : Task.Returns (g.declare located) w u w') :
    ∃ declaration, g.Builds located declaration ∧
      w' = { project := w.project.store
               (((w.project.moduleAt located.location.path).importingAll
                 (g.typing.needsOf located.definition)).declare declaration),
             log := w.log ++ warningsOf [located] } := by
  obtain ⟨d, hstep, rfl⟩ := inModule_returns h
  obtain ⟨declaration, d', hb, hdeclare⟩ := hstep.bind
  refine ⟨declaration, ⟨_, _, hb⟩, ?_⟩
  rw [hdeclare.modify, (Builder.build_returns hb).1, Project.moduleAt_path, warningsOf,
    List.flatMap_singleton]
  rfl

theorem Holds.declare {declared : List Located} {located : Located} {m : Module Json}
    {declaration : Declaration Json} (h : g.Holds declared m)
    (hp : located.location.path = m.path) (hb : g.Builds located declaration) :
    g.Holds (declared ++ [located])
      ((m.importingAll (g.typing.needsOf located.definition)).declare declaration) := by
  have hin : declaredIn (declared ++ [located]) m.path =
      declaredIn declared m.path ++ [located] := by
    simp [declaredIn, hp]
  constructor
  · rw [Module.declare_imports, Module.declare_path, Module.importingAll_path, needsIn, hin,
      List.flatMap_append, Module.importingAll_append, List.flatMap_singleton]
    exact Module.importingAll_imports_congr (by simp) h.imports _
  · rw [Module.declare_path, Module.importingAll_path, hin, Module.declare,
      Module.importingAll_declarations]
    exact List.rel_append h.declarations (.cons hb .nil)

theorem Holds.other {declared : List Located} {located : Located} {m : Module Json}
    (h : g.Holds declared m) (hp : located.location.path ≠ m.path) :
    g.Holds (declared ++ [located]) m := by
  have hin : declaredIn (declared ++ [located]) m.path = declaredIn declared m.path := by
    simp [declaredIn, hp]
  exact ⟨by rw [needsIn, hin]; exact h.imports, by rw [hin]; exact h.declarations⟩

/-- Declaring a definition more is accounted for. -/
theorem Accounts.step {declared : List Located} {located : Located} {w w' : Work} {u : Unit}
    (h : g.Accounts declared w.project) (run : Task.Returns (g.declare located) w u w') :
    g.Accounts (declared ++ [located]) w'.project := by
  obtain ⟨declaration, hb, hdone⟩ := declare_returns run
  have hw := congrArg Work.project hdone
  dsimp only at hw
  generalize hnew : ((w.project.moduleAt located.location.path).importingAll
    (g.typing.needsOf located.definition)).declare declaration = new at hw
  have hpath : new.path = located.location.path := by simp [← hnew]
  -- only the module at the location is another one than before
  have hmem : ∀ m, m ∈ w'.project.modules ↔
      m = new ∨ (m ∈ w.project.modules ∧ m.path ≠ located.location.path) := by
    intro m
    rw [hw, ← hpath]
    exact Project.mem_put h.keyed
  constructor
  · rw [hw]
    exact h.keyed.store new
  · intro m hm
    rcases (hmem m).mp hm with rfl | ⟨hm, hne⟩
    · rw [← hnew]
      exact (h.moduleAt _).declare (by simp) hb
    · exact (h.holds m hm).other (Ne.symm hne)
  · intro m hm
    rcases (hmem m).mp hm with rfl | ⟨hm, _⟩
    · exact ⟨located, by simp, hpath.symm⟩
    · obtain ⟨other, ho, hp⟩ := h.inhabited m hm
      exact ⟨other, by simp [ho], hp⟩
  · intro other ho
    by_cases hp : other.location.path = located.location.path
    · exact ⟨new, (hmem new).mpr (.inl rfl), by rw [hpath, hp]⟩
    · have hin : other ∈ declared := by
        rcases List.mem_append.mp ho with ho | ho
        · exact ho
        · exact absurd (by rw [List.mem_singleton.mp ho]) hp
      obtain ⟨m, hm, hmp⟩ := h.complete other hin
      exact ⟨m, (hmem m).mpr (.inr ⟨hm, by rw [hmp]; exact hp⟩), hmp⟩

/-- The paths of the modules are those of the locations. -/
theorem Accounts.forall_path_iff {declared : List Located} {project : Project}
    (h : g.Accounts declared project) {P : String → Prop} :
    (∀ m ∈ project.modules, P m.path) ↔ ∀ located ∈ declared, P located.location.path := by
  constructor
  · intro hall located hl
    obtain ⟨m, hm, hp⟩ := h.complete located hl
    exact hp ▸ hall m hm
  · intro hall m hm
    obtain ⟨located, hl, hp⟩ := h.inhabited m hm
    exact hp ▸ hall located hl

/-- A module imports what its definitions need, but nothing from itself. -/
theorem Accounts.records_iff {declared : List Located} {project : Project}
    (h : g.Accounts declared project) {m : Module Json} (hm : m ∈ project.modules)
    {path name : String} :
    m.imports.Records path name ↔
      path ≠ m.path ∧ ∃ located ∈ declared, located.location.path = m.path ∧
        ⟨path, name⟩ ∈ g.typing.needsOf located.definition := by
  rw [(h.holds m hm).imports, (Module.gains_importingAll _ _).records]
  simp only [Imports.not_records_nil, false_or, needsIn, List.mem_flatMap, mem_declaredIn,
    and_assoc]

theorem Accounts.declaration_names {declared : List Located} {project : Project}
    (h : g.Accounts declared project) {m : Module Json} (hm : m ∈ project.modules) :
    m.declarations.map Declaration.name? =
      (declaredIn declared m.path).map fun located => some located.location.name := by
  have hd := (h.holds m hm).declarations
  generalize declaredIn declared m.path = there, m.declarations = declarations at hd
  induction hd with
  | nil => rfl
  | cons hb _ ih => rw [List.map_cons, List.map_cons, ih, hb.declares.1]

/-- A module declares the names of the definitions that have their location there. -/
theorem Accounts.exists_declaration_iff {declared : List Located} {project : Project}
    (h : g.Accounts declared project) {m : Module Json} (hm : m ∈ project.modules) {name : String} :
    (∃ declaration ∈ m.declarations, declaration.name? = some name) ↔
      ∃ located ∈ declared, located.location = ⟨m.path, name⟩ := by
  rw [← List.mem_map, h.declaration_names hm, List.mem_map]
  constructor
  · rintro ⟨located, hin, hname⟩
    obtain ⟨hl, hp⟩ := mem_declaredIn.mp hin
    refine ⟨located, hl, ?_⟩
    calc located.location = ⟨m.path, located.location.name⟩ := by rw [← hp]
      _ = ⟨m.path, name⟩ := by rw [Option.some.inj hname]
  · rintro ⟨located, hl, he⟩
    exact ⟨located, mem_declaredIn.mpr ⟨hl, by rw [he]⟩, by rw [he]⟩

/-- Every definition has its declaration in the module at its location. -/
theorem Accounts.declaration {declared : List Located} {project : Project}
    (h : g.Accounts declared project) {m : Module Json} (hm : m ∈ project.modules)
    {located : Located} (hl : located ∈ declared) (hp : located.location.path = m.path) :
    ∃ declaration ∈ m.declarations,
      g.typing.Declares located.location.name located.definition declaration := by
  obtain ⟨declaration, hd, hb⟩ :=
    exists_of_forall₂ (h.holds m hm).declarations (mem_declaredIn.mpr ⟨hl, hp⟩)
  exact ⟨declaration, hd, hb.declares⟩

/-- Every reference that is mentioned could be followed. -/
theorem Accounts.follows {declared : List Located} {project : Project}
    (h : g.Accounts declared project) {located : Located} (hl : located ∈ declared)
    {reference : Json} (hr : located.definition.Mentions reference) :
    ∃ location replaced, g.typing.Follows reference location replaced := by
  obtain ⟨m, hm, hp⟩ := h.complete located hl
  obtain ⟨_, _, hd⟩ := h.declaration hm hl hp.symm
  exact hd.follows hr

theorem accounts_nil : g.Accounts [] {} := by
  constructor <;> simp [Project.Keyed]

/-- The last record: how many declarations there are in how many modules. -/
def summary (project : Project) : LogRecord :=
  ⟨.debug, "Generated " ++ toString (declarationCount project) ++ " declarations in " ++
    toString project.size ++ " files"⟩

/-- A project that was generated accounts for all definitions that are declared, and the log has
first why others are skipped and then what was noted about these. -/
theorem generate_settles {log : Log} {project : Project} {w : Work}
    (h : Task.Returns g.generate { log } project w) :
    ∃ fates, List.Forall₂ (Settles g.settings) g.ordered fates ∧
      (g.definitions.outcome { log }).1 = .ok (declaredOf fates) ∧
      g.Accounts (declaredOf fates) project ∧
      w = { project, log := log ++
        (skippedOf fates ++ warningsOf (declaredOf fates) ++ [summary project]) } := by
  obtain ⟨declared, u, hd, rest⟩ := h.bind
  obtain ⟨fates, hfates, rfl, rfl⟩ := definitions_settles hd
  obtain ⟨_, _, hloop, tail⟩ := rest.bind
  obtain ⟨_, v, hg, last⟩ := tail.bind
  obtain ⟨rfl, rfl⟩ := hg.get
  obtain ⟨_, x, hn, ret⟩ := last.bind
  obtain ⟨rfl, rfl⟩ := ret.pure
  -- after some of the definitions the log holds the warnings about these
  have hlog : v.log = log ++ skippedOf fates ++ warningsOf (declaredOf fates) := by
    have hstart : log ++ skippedOf fates = log ++ skippedOf fates ++ warningsOf [] := by
      simp [warningsOf]
    refine Task.Returns.forM_invariant
      (P := fun past w => w.log = log ++ skippedOf fates ++ warningsOf past) ?_ hloop hstart
    intro past located s _ t hpast ht
    obtain ⟨_, _, rfl⟩ := declare_returns ht
    dsimp only
    rw [hpast, warningsOf, warningsOf, warningsOf, List.flatMap_append, List.append_assoc]
  refine ⟨fates, hfates, congrArg Prod.fst hd, ?_, ?_⟩
  · exact Task.Returns.forM_invariant (P := fun past w => g.Accounts past w.project)
      (fun past located w _ w' hp ht => hp.step ht) hloop accounts_nil
  · rw [hn.modify, hlog]
    simp [summary]

theorem generate_returns {log : Log} {project : Project}
    (h : (g.generate.outcome { log }).1 = .ok project) :
    ∃ declared, (g.definitions.outcome { log }).1 = .ok declared ∧
      declared = g.ordered.filterMap g.located? ∧ g.Accounts declared project := by
  have run : Task.Returns g.generate { log } project (g.generate.outcome { log }).2 :=
    Prod.ext h rfl
  obtain ⟨fates, hfates, hdeclared, acc, -⟩ := generate_settles run
  exact ⟨declaredOf fates, hdeclared, declaredOf_eq hfates, acc⟩

/-- The standard generator of a document of objects, each with the values of its properties. -/
def ofObjects (objects : List (String × List (String × Value))) : Generator where
  settings := .standard
  document := {
    title := .string ""
    version := .string ""
    definitions := objects.map fun (name, properties) => (name, {
      description := .null
      type := .string "object"
      required := []
      properties := some (properties.map fun (property, value) =>
        (property, { value, description := .null }))
      served := [] }) }

end Generator

end ApiTypings
