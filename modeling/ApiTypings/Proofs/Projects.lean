import ApiTypings.Module.Basic
import ApiTypings.Naming.Location
import Mathlib.Data.List.Nodup
import Mathlib.Tactic.Tauto

/-!
# Tables of imports and of modules

What an import adds to the imports that are recorded, and what storing a module
does to a project: one module for each path, and no other module is touched.
-/

namespace ApiTypings

namespace Imports

/-- The imports say that a name comes from the module of a path. -/
def Records (imports : Imports) (path name : String) : Prop :=
  ∃ names, (path, names) ∈ imports ∧ name ∈ names

theorem not_records_nil (path name : String) : ¬ Records [] path name := by
  rintro ⟨names, h, _⟩
  cases h

theorem records_cons {p path name : String} {names : List String} {rest : Imports} :
    Records ((p, names) :: rest) path name ↔
      (path = p ∧ name ∈ names) ∨ Records rest path name := by
  constructor
  · rintro ⟨found, h, hn⟩
    rcases List.mem_cons.mp h with h | h
    · cases h
      exact .inl ⟨rfl, hn⟩
    · exact .inr ⟨found, h, hn⟩
  · rintro (⟨rfl, hn⟩ | ⟨found, h, hn⟩)
    · exact ⟨names, by simp, hn⟩
    · exact ⟨found, by simp [h], hn⟩

theorem records_insert {p n path name : String} {imports : Imports} :
    (imports.insert p n).Records path name ↔
      imports.Records path name ∨ (path = p ∧ name = n) := by
  induction imports with
  | nil => simp [insert, records_cons, not_records_nil]
  | cons entry rest ih =>
    obtain ⟨q, names⟩ := entry
    by_cases hq : q = p
    · subst hq
      by_cases hn : n ∈ names
      · simp only [insert, if_pos, hn, records_cons]
        constructor
        · exact .inl
        · rintro (h | ⟨rfl, rfl⟩)
          · exact h
          · exact .inl ⟨rfl, hn⟩
      · simp only [insert, if_pos, hn, if_neg, not_false_eq_true, records_cons, List.mem_append,
          List.mem_singleton]
        tauto
    · simp only [insert, if_neg hq, records_cons, ih, or_assoc]

theorem map_fst_insert (path name : String) (imports : Imports) :
    (imports.insert path name).map Prod.fst =
      if path ∈ imports.map Prod.fst then imports.map Prod.fst
      else imports.map Prod.fst ++ [path] := by
  induction imports with
  | nil => simp [insert]
  | cons entry rest ih =>
    by_cases hp : entry.1 = path
    · simp [insert, hp]
    · simp only [insert, if_neg hp, List.map_cons, ih, List.mem_cons, Ne.symm hp, false_or]
      split <;> rfl

/-- The imports from before and those that were added: a name is recorded if it was or was added,
and a path has an entry if it had one or a name was added to it. -/
structure Gains (before after : Imports) (added : String → String → Prop) : Prop where
  records : ∀ path name, after.Records path name ↔ before.Records path name ∨ added path name
  paths : ∀ path,
    path ∈ after.map Prod.fst ↔ path ∈ before.map Prod.fst ∨ ∃ name, added path name

section Gains

variable {a b c : Imports} {added later : String → String → Prop}

theorem Gains.refl (imports : Imports) : imports.Gains imports fun _ _ => False :=
  ⟨by simp, by simp⟩

theorem Gains.trans (h : a.Gains b added) (h' : b.Gains c later) :
    a.Gains c fun path name => added path name ∨ later path name := by
  constructor
  · intro path name
    rw [h'.records, h.records, or_assoc]
  · intro path
    rw [h'.paths, h.paths, or_assoc, exists_or]

theorem Gains.congr (h : a.Gains b added) (hl : ∀ path name, added path name ↔ later path name) :
    a.Gains b later := by
  constructor
  · intro path name
    rw [h.records, hl]
  · intro path
    simp only [h.paths, hl]

theorem gains_insert (imports : Imports) (path name : String) :
    imports.Gains (imports.insert path name) fun p n => p = path ∧ n = name := by
  refine ⟨fun _ _ => records_insert, fun p => ?_⟩
  rw [map_fst_insert]
  split
  · rename_i hp
    constructor
    · exact .inl
    · rintro (h | ⟨_, rfl, _⟩)
      · exact h
      · exact hp
  · simp

end Gains

end Imports

namespace Module

variable {τ : Type}

/-- Imports the names of locations one after the other. -/
def importingAll (m : Module τ) (locations : List Location) : Module τ :=
  locations.foldl (fun m location => m.importing location.path location.name) m

@[simp] theorem importingAll_nil (m : Module τ) : m.importingAll [] = m := rfl

theorem importingAll_cons (m : Module τ) (location : Location) (rest : List Location) :
    m.importingAll (location :: rest) =
      (m.importing location.path location.name).importingAll rest := rfl

theorem importingAll_append (m : Module τ) (first second : List Location) :
    m.importingAll (first ++ second) = (m.importingAll first).importingAll second :=
  List.foldl_append

@[simp] theorem importingAll_path (m : Module τ) (locations : List Location) :
    (m.importingAll locations).path = m.path := by
  induction locations generalizing m with
  | nil => rfl
  | cons location rest ih => rw [importingAll_cons, ih, importing_path]

@[simp] theorem importingAll_declarations (m : Module τ) (locations : List Location) :
    (m.importingAll locations).declarations = m.declarations := by
  induction locations generalizing m with
  | nil => rfl
  | cons location rest ih => rw [importingAll_cons, ih, importing_declarations]

/-- What is imported depends on the path and on the imports so far. -/
theorem importingAll_imports_congr {m n : Module τ} (hp : m.path = n.path)
    (hi : m.imports = n.imports) (locations : List Location) :
    (m.importingAll locations).imports = (n.importingAll locations).imports := by
  induction locations generalizing m n with
  | nil => exact hi
  | cons location rest ih =>
    rw [importingAll_cons, importingAll_cons]
    apply ih
    · rw [importing_path, importing_path, hp]
    · unfold importing
      rw [← hp]
      split
      · exact hi
      · simp [hi]

/-- What holds of imports when a name is added holds of a module that imports one. -/
theorem importing_keeps {P : Imports → Prop}
    (hP : ∀ {imports : Imports}, P imports → ∀ path name, P (imports.insert path name))
    {m : Module τ} (h : P m.imports) (path name : String) : P (m.importing path name).imports := by
  unfold importing
  split
  · exact h
  · exact hP h path name

theorem importingAll_keeps {P : Imports → Prop}
    (hP : ∀ {imports : Imports}, P imports → ∀ path name, P (imports.insert path name))
    {m : Module τ} (h : P m.imports) (locations : List Location) :
    P (m.importingAll locations).imports := by
  induction locations generalizing m with
  | nil => exact h
  | cons location rest ih => exact ih (importing_keeps hP h location.path location.name)

theorem gains_importing (m : Module τ) (path name : String) :
    m.imports.Gains (m.importing path name).imports
      fun p n => p ≠ m.path ∧ p = path ∧ n = name := by
  unfold importing
  split
  · rename_i hp
    refine (Imports.Gains.refl _).congr fun p n => ⟨False.elim, ?_⟩
    rintro ⟨hne, rfl, _⟩
    exact hne hp
  · rename_i hp
    refine (Imports.gains_insert _ path name).congr fun p n => ⟨?_, And.right⟩
    rintro ⟨rfl, rfl⟩
    exact ⟨hp, rfl, rfl⟩

/-- A module that imports from locations gains their names, save those of its own path. -/
theorem gains_importingAll (m : Module τ) (locations : List Location) :
    m.imports.Gains (m.importingAll locations).imports
      fun path name => path ≠ m.path ∧ ⟨path, name⟩ ∈ locations := by
  induction locations generalizing m with
  | nil => exact (Imports.Gains.refl _).congr (by simp)
  | cons location rest ih =>
    refine ((m.gains_importing location.path location.name).trans (ih _)).congr
      fun path name => ?_
    rw [importing_path, ← and_or_left, List.mem_cons, Location.mk.injEq]

end Module

namespace Project

/-- No two modules have the same path. -/
def Keyed (project : Project) : Prop := (project.modules.map Module.path).Nodup

theorem map_path_put (m : Module Json) (modules : List (Module Json)) :
    (put m modules).map Module.path =
      if m.path ∈ modules.map Module.path then modules.map Module.path
      else modules.map Module.path ++ [m.path] := by
  induction modules with
  | nil => simp [put]
  | cons n rest ih =>
    by_cases hn : n.path = m.path
    · simp [put, hn]
    · simp only [put, if_neg hn, List.map_cons, ih, List.mem_cons, Ne.symm hn, false_or]
      split <;> rfl

theorem mem_put {m n : Module Json} {modules : List (Module Json)}
    (keyed : (modules.map Module.path).Nodup) :
    n ∈ put m modules ↔ n = m ∨ (n ∈ modules ∧ n.path ≠ m.path) := by
  induction modules with
  | nil => simp [put]
  | cons k rest ih =>
    obtain ⟨hk, hrest⟩ := List.nodup_cons.mp keyed
    by_cases he : k.path = m.path
    · have hm : ∀ n ∈ rest, n.path ≠ m.path := by
        intro n hn hnm
        exact hk (he ▸ hnm ▸ List.mem_map_of_mem hn)
      simp only [put, if_pos he, List.mem_cons]
      constructor
      · rintro (rfl | hn)
        · exact .inl rfl
        · exact .inr ⟨.inr hn, hm n hn⟩
      · rintro (rfl | ⟨rfl | hn, hne⟩)
        · exact .inl rfl
        · exact absurd he hne
        · exact .inr hn
    · simp only [put, if_neg he, List.mem_cons, ih hrest]
      constructor
      · rintro (rfl | rfl | ⟨hn, hne⟩)
        · exact .inr ⟨.inl rfl, he⟩
        · exact .inl rfl
        · exact .inr ⟨.inr hn, hne⟩
      · rintro (rfl | ⟨rfl | hn, hne⟩)
        · exact .inr (.inl rfl)
        · exact .inl rfl
        · exact .inr (.inr ⟨hn, hne⟩)

theorem Keyed.store {project : Project} (h : project.Keyed) (m : Module Json) :
    (project.store m).Keyed := by
  unfold Keyed Project.store
  rw [map_path_put]
  split
  · exact h
  · rename_i hm
    exact List.nodup_append.mpr ⟨h, by simp, by simpa using fun n hn he => hm (by
      rw [← he]; exact List.mem_map_of_mem hn)⟩

/-- The module of a path is the one that has it. -/
theorem Keyed.module?_eq_some {project : Project} (h : project.Keyed) {path : String}
    {m : Module Json} : project.module? path = some m ↔ m ∈ project.modules ∧ m.path = path := by
  constructor
  · intro hm
    exact ⟨List.mem_of_find?_eq_some hm, by simpa using List.find?_some hm⟩
  · rintro ⟨hm, rfl⟩
    obtain ⟨n, hn⟩ : ∃ n, project.module? m.path = some n := by
      rw [← Option.isSome_iff_exists]
      simpa [module?] using ⟨m, hm, rfl⟩
    have hnm : n.path = m.path := by simpa using List.find?_some hn
    rw [hn, List.inj_on_of_nodup_map h (List.mem_of_find?_eq_some hn) hm hnm]

@[simp] theorem moduleAt_path (project : Project) (path : String) :
    (project.moduleAt path).path = path := by
  unfold moduleAt
  cases h : project.module? path with
  | none => rfl
  | some m => simpa using List.find?_some h

end Project

end ApiTypings
