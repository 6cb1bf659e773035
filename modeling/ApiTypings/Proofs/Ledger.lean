import ApiTypings.Proofs.Locality
import ApiTypings.Proofs.Refusals

/-!
# Every definition is accounted for

A definition is either declared or skipped. When a project has been generated, each one that
is declared has a declaration of its own at its location, and each one that is skipped a
record in the log that says why. The log holds these records first, in the order of the
names, then the warnings about interfaces without properties in the same order, and last
what was generated in all.
-/

namespace ApiTypings

namespace Generator

variable {g : Generator}

/-- The declaration is that of the definition: an interface for an object and else a union, under
the name of the location. -/
def DeclaredAs (located : Located) : Declaration Json → Prop
  | .interface name _ _ => name = located.location.name ∧ located.definition.isObject = true
  | .union name _ _ => name = located.location.name ∧ located.definition.isObject = false
  | .field _ | .foreign _ => False

theorem Builds.declaredAs {located : Located} {declaration : Declaration Json}
    (h : g.Builds located declaration) : DeclaredAs located declaration := by
  obtain ⟨path, h⟩ := h.declarationOf_eq
  unfold Builder.declarationOf at h
  split at h
  · rename_i ho
    obtain ⟨fields, _, h⟩ := bind_ok h
    cases h
    exact ⟨rfl, ho⟩
  · rename_i ho
    obtain ⟨types, _, h⟩ := bind_ok h
    cases types with
    | nil => cases h
    | cons type types =>
      cases h
      exact ⟨rfl, by simpa using ho⟩

/-- Cut into groups by different keys that cover all of them, the items are still all there. -/
theorem flatMap_filter_perm {α : Type} (key : α → String) {keys : List String}
    (hkeys : keys.Nodup) {items : List α} (hcover : ∀ item ∈ items, key item ∈ keys) :
    (keys.flatMap fun k => items.filter fun item => key item = k).Perm items := by
  induction keys generalizing items with
  | nil =>
    rw [List.eq_nil_iff_forall_not_mem.mpr fun item hi => List.not_mem_nil (hcover item hi)]
    exact .nil
  | cons k keys ih =>
    obtain ⟨hk, hkeys⟩ := List.nodup_cons.mp hkeys
    -- the other groups are groups of the items that are not in the first
    have hothers : ∀ k' ∈ keys, (items.filter fun item => key item = k') =
        (items.filter fun item => ¬ key item = k).filter fun item => key item = k' := by
      intro k' hk'
      rw [List.filter_filter]
      refine List.filter_congr fun item _ => ?_
      by_cases he : key item = k'
      · have hne : k' ≠ k := fun hkey => hk (hkey ▸ hk')
        simp [he, hne]
      · simp [he]
    have hcovers : ∀ item ∈ items.filter fun item => ¬ key item = k, key item ∈ keys := by
      intro item hi
      simp only [List.mem_filter, decide_eq_true_eq] at hi
      exact (List.mem_cons.mp (hcover item hi.1)).resolve_left hi.2
    rw [List.flatMap_cons, List.flatMap_congr hothers]
    refine ((ih hkeys hcovers).append_left _).trans ?_
    simpa using List.filter_append_perm (fun item => decide (key item = k)) items

/-- Module by module the declarations are those of all definitions that are declared, one for
each. -/
theorem Accounts.declarations {declared : List Located} {project : Project}
    (acc : g.Accounts declared project) :
    ∃ listed : List Located, listed.Perm declared ∧
      List.Forall₂ DeclaredAs listed (project.modules.flatMap (·.declarations)) := by
  refine ⟨(project.modules.map Module.path).flatMap (declaredIn declared), ?_, ?_⟩
  · refine flatMap_filter_perm (fun located : Located => located.location.path) acc.keyed ?_
    intro located hl
    obtain ⟨m, hm, hp⟩ := acc.complete located hl
    exact List.mem_map.mpr ⟨m, hm, hp⟩
  · have hholds := acc.holds
    generalize project.modules = modules at hholds
    induction modules with
    | nil => exact .nil
    | cons m rest ih =>
      rw [List.forall_mem_cons] at hholds
      rw [List.map_cons, List.flatMap_cons, List.flatMap_cons]
      refine List.rel_append ?_ (ih hholds.2)
      exact hholds.1.declarations.imp fun _ _ hb => hb.declaredAs

/-! ## The whole project and the whole log -/

/-- The project and the records account for what became of the definitions. -/
structure Ledger (fates : List (Located ⊕ LogRecord)) (project : Project) (records : Log) :
    Prop where
  keyed : project.Keyed
  /-- No declaration is missing, and there are no others. -/
  declarations : ∃ listed : List Located, listed.Perm (declaredOf fates) ∧
    List.Forall₂ DeclaredAs listed (project.modules.flatMap (·.declarations))
  /-- There is a module at every location. -/
  placed : ∀ located ∈ declaredOf fates, ∃ m ∈ project.modules, m.path = located.location.path
  inhabited : ∀ m ∈ project.modules, m.declarations ≠ []
  /-- A module has the declarations of the definitions with their location there, in the order
  of the names. -/
  holds : ∀ m ∈ project.modules,
    List.Forall₂ DeclaredAs (declaredIn (declaredOf fates) m.path) m.declarations
  ordered : (declaredOf fates).Pairwise fun a b => a.qualifiedName ≤ b.qualifiedName
  records : records = skippedOf fates ++ warningsOf (declaredOf fates) ++ [summary project]

theorem Accounts.ledger {fates : List (Located ⊕ LogRecord)} {project : Project}
    (acc : g.Accounts (declaredOf fates) project)
    (hdeclared : declaredOf fates = g.ordered.filterMap g.located?) :
    Ledger fates project
      (skippedOf fates ++ warningsOf (declaredOf fates) ++ [summary project]) where
  keyed := acc.keyed
  declarations := acc.declarations
  placed := acc.complete
  inhabited := by
    intro m hm hnil
    obtain ⟨located, hl, hp⟩ := acc.inhabited m hm
    have hd := (acc.holds m hm).declarations
    rw [hnil, List.forall₂_nil_right_iff] at hd
    have hin := mem_declaredIn.mpr ⟨hl, hp⟩
    rw [hd] at hin
    cases hin
  holds := fun m hm => (acc.holds m hm).declarations.imp fun _ _ hb => hb.declaredAs
  ordered := hdeclared ▸ pairwise_declared
  records := rfl

/-- When a project has been generated, every definition has been declared or skipped, in the order
of the names, and project and log account for each of them. -/
theorem generate_ledger {log : Log} {project : Project} {w : Work}
    (h : g.generate.outcome { log } = (.ok project, w)) :
    g.ordered.Perm g.document.definitions ∧ g.ordered.Pairwise (fun a b => a.1 ≤ b.1) ∧
      ∃ fates records, List.Forall₂ (Settles g.settings) g.ordered fates ∧
        Ledger fates project records ∧ w = { project, log := log ++ records } := by
  obtain ⟨fates, hfates, -, acc, hw⟩ := generate_settles h
  exact ⟨List.mergeSort_perm _ _, pairwise_sortedBy Prod.fst _, fates, _, hfates,
    acc.ledger (declaredOf_eq hfates), hw⟩

/-- A hidden and a replaced definition, an object without properties and two definitions more, two
of the five in one module. -/
def mixed : Generator where
  settings := .standard
  document := {
    title := .string ""
    version := .string ""
    definitions := [
      ("Hidden", ⟨.null, .string "object", [], none, []⟩),
      ("io.k8s.api.a.Job", ⟨.null, .string "object", [], none, []⟩),
      ("io.k8s.api.a.Name", ⟨.null, .string "string", [], none, []⟩),
      ("io.k8s.api.b.IntOrString", ⟨.null, .string "string", [], none, []⟩),
      ("io.k8s.api.b.Pod", ⟨.null, .string "object", [],
        some [("spec", ⟨.scalar "string", .null⟩)], []⟩)] }

def mixedProject : Project where
  modules := [
    { path := "a.ts"
      declarations := [.interface "Job" .null [], .union "Name" .null [.string "string"]] },
    { path := "b.ts"
      declarations := [.interface "Pod" .null [
        { name := "spec", description := .null, type := .string "string", optional := true }]] }]

def mixedLog : Log := [
  ⟨.debug, "Skipping Hidden: no known namespace prefix"⟩,
  ⟨.debug, "Skipping io.k8s.api.b.IntOrString: replaced by number | string"⟩,
  ⟨.warning, "a.ts: interface Job has no properties"⟩,
  ⟨.debug, "Generated 3 declarations in 2 files"⟩]

theorem mixed_generate :
    mixed.generate.outcome {} = (.ok mixedProject, { project := mixedProject, log := mixedLog }) := by
  cbv

theorem generate_ledger_of_mixed :
    mixed.generate.outcome {} =
        (.ok mixedProject, { project := mixedProject, log := mixedLog }) ∧
      mixed.ordered.Perm mixed.document.definitions ∧
      mixed.ordered.Pairwise (fun a b => a.1 ≤ b.1) ∧
      ∃ fates records, List.Forall₂ (Settles mixed.settings) mixed.ordered fates ∧
        Ledger fates mixedProject records ∧
        { project := mixedProject, log := mixedLog : Work } =
          { project := mixedProject, log := [] ++ records } :=
  ⟨mixed_generate, generate_ledger mixed_generate⟩

end Generator

end ApiTypings
