import Mathlib
import ApiTypings.Proofs.Generation
import ApiTypings.Proofs.Locations
import ApiTypings.Proofs.Paths

/-!
# Where modules are written

With the standard settings the path of a module is spelled by a qualified name,
and nothing keeps a name from having an empty segment or a slash in it. The
modules of a project are written below the root, and each to a place of its own,
exactly when no name of a definition that is declared leads through an empty
step; a first step that is empty leads out of every root.
-/

namespace ApiTypings

namespace Naming

/-- What stands before the last full stop of a simplified name, cut at full stops and slashes. -/
def steps (simplified : String) : List String :=
  (Text.split '.' simplified).dropLast.flatMap (Text.split '/')

theorem modulePart_eq_empty {simplified : String} (h : (Text.split '.' simplified).dropLast = []) :
    modulePart simplified = "" := by
  rw [modulePart, h]
  rfl

theorem steps_eq_nil {simplified : String} (h : (Text.split '.' simplified).dropLast = []) :
    steps simplified = [] := by
  rw [steps, h]
  rfl

theorem steps_eq {simplified : String} (h : (Text.split '.' simplified).dropLast ≠ []) :
    Text.split '/' (modulePart simplified) = steps simplified :=
  Text.split_join_eq_flatMap rfl h

theorem dot_not_mem_steps {simplified step : String} (h : step ∈ steps simplified) :
    '.' ∉ step.toList := by
  obtain ⟨segment, hs, hstep⟩ := List.mem_flatMap.mp h
  have hdot := Text.not_mem_of_mem_split (List.dropLast_subset _ hs)
  exact fun hm => hdot (Text.subset_of_mem_split hstep hm)

theorem dropLast_split_modulePart (simplified : String) :
    (Text.split '/' (modulePart simplified)).dropLast = (steps simplified).dropLast := by
  by_cases h : (Text.split '.' simplified).dropLast = []
  · rw [modulePart_eq_empty h, steps_eq_nil h]
    rfl
  · rw [steps_eq h]

/-- The extension lengthens the last step, or is all there is. -/
theorem split_path (simplified : String) :
    ∃ last, Text.split '/' (modulePart simplified ++ ".ts") =
      (steps simplified).dropLast ++ [last ++ ".ts"] := by
  refine ⟨(Text.split '/' (modulePart simplified)).getLast (Text.split_ne_nil _ _), ?_⟩
  have hcut : '/' ∉ ".ts".toList := by decide
  rw [Text.split_append hcut, dropLast_split_modulePart]

theorem append_extension_ne (last : String) :
    last ++ ".ts" ≠ "" ∧ last ++ ".ts" ≠ "." ∧ last ++ ".ts" ≠ ".." := by
  have hlength : 3 ≤ (last ++ ".ts").length := by
    rw [String.length_append]
    exact Nat.le_add_left 3 _
  refine ⟨?_, ?_, ?_⟩ <;> intro h <;> rw [h] at hlength <;> revert hlength <;> decide

theorem ne_dots_of_mem_steps {simplified step : String} (h : step ∈ steps simplified) :
    step ≠ "." ∧ step ≠ ".." := by
  have hdot := dot_not_mem_steps h
  constructor <;> rintro rfl <;> exact hdot (by decide)

/-- The path of a module is plain if no step before the last is empty. -/
theorem plain_iff (simplified : String) :
    Path.Plain (modulePart simplified ++ ".ts") ↔
      ∀ step ∈ (steps simplified).dropLast, step ≠ "" := by
  obtain ⟨last, hsplit⟩ := split_path simplified
  unfold Path.Plain
  rw [hsplit]
  constructor
  · intro h step hs
    exact (h step (List.mem_append_left _ hs)).1
  · intro h name hn
    rcases List.mem_append.mp hn with hn | hn
    · exact ⟨h name hn, ne_dots_of_mem_steps (List.dropLast_subset _ hn)⟩
    · rw [List.mem_singleton.mp hn]
      exact append_extension_ne last

/-- The path of a module begins with a slash if its first step is empty and not the last. -/
theorem path_head_iff (simplified : String) :
    (modulePart simplified ++ ".ts").toList.head? = some '/' ↔
      ∃ rest, rest ≠ [] ∧ steps simplified = "" :: rest := by
  by_cases h : (Text.split '.' simplified).dropLast = []
  · rw [modulePart_eq_empty h, steps_eq_nil h]
    simp
  · rw [← steps_eq h, Text.split_eq_empty_cons_iff, String.toList_append, List.head?_append]
    cases (modulePart simplified).toList <;> simp

/-- The path of a module stays below every root unless its first step is empty and not the last. -/
theorem below_iff (simplified : String) :
    (∀ root : Path, (root / (modulePart simplified ++ ".ts")).Below root) ↔
      ∀ rest, steps simplified = "" :: rest → rest = [] := by
  obtain ⟨last, hsplit⟩ := split_path simplified
  obtain ⟨hlast, hdot, hback⟩ := append_extension_ne last
  have hnames : (Path.ofString (modulePart simplified ++ ".ts")).names =
      ((steps simplified).dropLast.filter fun name => name ≠ "" ∧ name ≠ ".") ++
        [last ++ ".ts"] := by
    unfold Path.ofString
    rw [hsplit, List.filter_append]
    simp [hlast, hdot]
  have hdown : ".." ∉ (Path.ofString (modulePart simplified ++ ".ts")).names := by
    rw [hnames]
    simp only [List.mem_append, List.mem_filter, List.mem_singleton, not_or]
    exact ⟨fun h => (ne_dots_of_mem_steps (List.dropLast_subset _ h.1)).2 rfl, hback.symm⟩
  rw [Path.below_iff (by simp [hnames]) hdown, ne_eq, path_head_iff]
  constructor
  · intro h rest hs
    by_contra hrest
    exact h ⟨rest, hrest, hs⟩
  · rintro h ⟨rest, hrest, hs⟩
    exact hrest (h rest hs)

/-- The simplified form of the name has no empty step before its last. -/
def Gapless (name : String) : Prop :=
  ∀ simplified, simplify Settings.standardPrefixes name = some simplified →
    ∀ step ∈ (steps simplified).dropLast, step ≠ ""

/-- The first step of the simplified form of the name is not empty, or is the only one. -/
def Rootless (name : String) : Prop :=
  ∀ simplified, simplify Settings.standardPrefixes name = some simplified →
    ∀ rest, steps simplified = "" :: rest → rest = []

theorem plain_location_iff {name : String} {location : Location}
    (h : Settings.standard.naming.location name = .ok (some location)) :
    Path.Plain location.path ↔ Gapless name := by
  obtain ⟨simplified, hs, rfl⟩ := standard_location_iff.mp h
  rw [spellOut_eq, plain_iff, Gapless]
  simp only [hs, Option.some.injEq, forall_eq']

theorem below_location_iff {name : String} {location : Location}
    (h : Settings.standard.naming.location name = .ok (some location)) :
    (∀ root : Path, (root / location.path).Below root) ↔ Rootless name := by
  obtain ⟨simplified, hs, rfl⟩ := standard_location_iff.mp h
  rw [spellOut_eq, below_iff, Rootless]
  simp only [hs, Option.some.injEq, forall_eq']

end Naming

/-- The modules of the project are written below the root, whatever the root is, and no two of them
to the same place. -/
structure Project.Confined (project : Project) : Prop where
  plain : ∀ m ∈ project.modules, Path.Plain m.path
  below : ∀ m ∈ project.modules, ∀ root : Path, (root / m.path).Below root
  apart : ∀ m ∈ project.modules, ∀ n ∈ project.modules, m.path ≠ n.path →
    ∀ (w : World) (root : Path) (p q : Position),
      w.tree.target (w.trail (root / m.path)) = .ok p →
      w.tree.target (w.trail (root / n.path)) = .ok q → p ≠ q

/-- Plain paths are all that it takes. -/
theorem Project.confined_iff {project : Project} :
    project.Confined ↔ ∀ m ∈ project.modules, Path.Plain m.path := by
  constructor
  · intro h
    exact h.plain
  · intro h
    exact {
      plain := h
      below := fun m hm root => (h m hm).below root
      apart := fun m hm n hn hne w root p q hp hq => (h m hm).target_ne (h n hn) hne hp hq }

namespace Generator

/-- Where the modules of a standard project are written. They are confined exactly if no name
that is declared has an empty step before its last, and below every root exactly if none begins with
an empty step. -/
theorem standard_confinement {document : Document} {log : Log} {project : Project}
    (h : ((Generator.mk .standard document).generate.outcome { log }).1 = .ok project) :
    ∃ declared,
      ((Generator.mk .standard document).definitions.outcome { log }).1 = .ok declared ∧
      (project.Confined ↔ ∀ located ∈ declared, Naming.Gapless located.qualifiedName) ∧
      ((∀ m ∈ project.modules, ∀ root : Path, (root / m.path).Below root) ↔
        ∀ located ∈ declared, Naming.Rootless located.qualifiedName) := by
  obtain ⟨declared, hd, hlist, acc⟩ := generate_returns h
  refine ⟨declared, hd, ?_, ?_⟩
  · rw [Project.confined_iff, acc.forall_path_iff]
    exact forall₂_congr fun located hl => Naming.plain_location_iff (location_of_mem hlist hl)
  · rw [acc.forall_path_iff (P := fun path => ∀ root : Path, (root / path).Below root)]
    exact forall₂_congr fun located hl => Naming.below_location_iff (location_of_mem hlist hl)

/-- Names with empty segments: one begins with it, and one has it where another has none. -/
def stray : Generator :=
  ofObjects [("io.k8s.api..a.B", []), ("io.k8s.api.c..d.E", []), ("io.k8s.api.c.d.F", [])]

def strayProject : Project where
  modules := [
    { path := "/a.ts", declarations := [.interface "B" .null []] },
    { path := "c//d.ts", declarations := [.interface "E" .null []] },
    { path := "c/d.ts", declarations := [.interface "F" .null []] }]

theorem generate_stray : (stray.generate.outcome {}).1 = .ok strayProject := by cbv

theorem standard_confinement_of_stray :
    (stray.generate.outcome {}).1 = .ok strayProject ∧
      ∃ declared, (stray.definitions.outcome {}).1 = .ok declared ∧
        (strayProject.Confined ↔ ∀ located ∈ declared, Naming.Gapless located.qualifiedName) ∧
        ((∀ m ∈ strayProject.modules, ∀ root : Path, (root / m.path).Below root) ↔
          ∀ located ∈ declared, Naming.Rootless located.qualifiedName) :=
  ⟨generate_stray, standard_confinement generate_stray⟩

def straySchema : Json := .object [("definitions", .object [
  ("io.k8s.api..a.B", .object [("type", .string "object"), ("properties", .object [])]),
  ("io.k8s.api.c..d.E", .object [("type", .string "object"), ("properties", .object [])]),
  ("io.k8s.api.c.d.F", .object [("type", .string "object"), ("properties", .object [])])])]

/-- A schema with such names is read, but what is generated from it is not confined: one module is
written to the same place whatever the root is, and two others to one place. -/
theorem stray_not_confined :
    ofSchema .standard straySchema = .ok stray ∧
      (stray.generate.outcome {}).1 = .ok strayProject ∧ ¬ strayProject.Confined ∧
      (∃ m ∈ strayProject.modules, ∀ root other : Path, root / m.path = other / m.path) ∧
      ∃ m ∈ strayProject.modules, ∃ n ∈ strayProject.modules, m.path ≠ n.path ∧
        ∀ root : Path, root / m.path = root / n.path := by
  refine ⟨by cbv, generate_stray, ?_, ?_, ?_⟩
  · intro h
    exact (h.plain _ (List.mem_cons_self ..) "" (by decide)).1 rfl
  · exact ⟨_, List.mem_cons_self .., fun _ _ => rfl⟩
  · exact ⟨_, List.mem_cons_of_mem _ (List.mem_cons_self ..), _,
      List.mem_cons_of_mem _ (List.mem_cons_of_mem _ (List.mem_cons_self ..)), by decide,
      fun _ => rfl⟩

end Generator

end ApiTypings
