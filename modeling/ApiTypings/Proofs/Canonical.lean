import ApiTypings.Module.Rendering
import ApiTypings.Proofs.Orders
import ApiTypings.Proofs.Projects
import ApiTypings.Proofs.Series
import Mathlib.Data.List.Perm.Basic

/-!
# The source depends on content

What a module imports is a set of names for each of a set of paths, and what it declares
is a collection of declarations; in which order they came there leaves no trace. Imports
are the same exactly if they are the same when sorted, and modules with the same imports
and the same declarations have the same source.
-/

namespace ApiTypings

namespace Imports

/-- There is one entry for each path, and it lists every name once. -/
structure Tidy (imports : Imports) : Prop where
  keyed : (imports.map Prod.fst).Nodup
  names : ∀ entry ∈ imports, entry.2.Nodup

/-- Names are imported from the same paths, and the same names from each. -/
structure Same (a b : Imports) : Prop where
  paths : ∀ path, path ∈ a.map Prod.fst ↔ path ∈ b.map Prod.fst
  records : ∀ path name, a.Records path name ↔ b.Records path name

/-- The entries with their names in order. -/
def ordered (imports : Imports) : List (String × List String) :=
  imports.map fun entry => (entry.1, sortTexts entry.2)

variable {a b imports : Imports}

theorem Tidy.entry_eq (h : imports.Tidy) {path : String} {names others : List String}
    (hn : (path, names) ∈ imports) (ho : (path, others) ∈ imports) : names = others :=
  congrArg Prod.snd (List.inj_on_of_nodup_map h.keyed hn ho rfl)

theorem Tidy.records_iff (h : imports.Tidy) {path : String} {names : List String}
    (hn : (path, names) ∈ imports) {name : String} :
    imports.Records path name ↔ name ∈ names := by
  constructor
  · rintro ⟨others, ho, hm⟩
    exact h.entry_eq ho hn ▸ hm
  · exact fun hm => ⟨names, hn, hm⟩

theorem map_fst_ordered (imports : Imports) :
    imports.ordered.map Prod.fst = imports.map Prod.fst := by
  simp [ordered, Function.comp_def]

theorem records_ordered {path name : String} :
    Records imports.ordered path name ↔ imports.Records path name := by
  simp only [Records, ordered, List.mem_map, Prod.mk.injEq]
  constructor
  · rintro ⟨_, ⟨⟨path, names⟩, he, rfl, rfl⟩, hn⟩
    exact ⟨names, he, List.mem_mergeSort.mp hn⟩
  · rintro ⟨names, he, hn⟩
    exact ⟨_, ⟨_, he, rfl, rfl⟩, List.mem_mergeSort.mpr hn⟩

theorem Same.mem_ordered (h : a.Same b) (ha : a.Tidy) (hb : b.Tidy) {entry : String × List String}
    (he : entry ∈ a.ordered) : entry ∈ b.ordered := by
  obtain ⟨⟨path, names⟩, hn, rfl⟩ := List.mem_map.mp he
  obtain ⟨⟨_, others⟩, ho, rfl⟩ := List.mem_map.mp ((h.paths path).mp (List.mem_map_of_mem hn))
  refine List.mem_map.mpr ⟨_, ho, Prod.ext rfl (sortTexts_eq_iff.mpr ?_)⟩
  refine (List.perm_ext_iff_of_nodup (hb.names _ ho) (ha.names _ hn)).mpr fun name => ?_
  rw [← hb.records_iff ho, ← ha.records_iff hn, h.records]

/-- Imports are the same if they have the same entries once these are in order. -/
theorem same_iff_perm (ha : a.Tidy) (hb : b.Tidy) : a.Same b ↔ a.ordered.Perm b.ordered := by
  constructor
  · intro h
    have hnodup : ∀ {imports : Imports}, imports.Tidy → imports.ordered.Nodup := fun hi =>
      .of_map Prod.fst (by rw [map_fst_ordered]; exact hi.keyed)
    refine (List.perm_ext_iff_of_nodup (hnodup ha) (hnodup hb)).mpr fun entry => ?_
    have hsymm : b.Same a := ⟨fun p => (h.paths p).symm, fun p n => (h.records p n).symm⟩
    exact ⟨h.mem_ordered ha hb, hsymm.mem_ordered hb ha⟩
  · intro h
    constructor
    · intro path
      rw [← map_fst_ordered a, ← map_fst_ordered b]
      exact (h.map Prod.fst).mem_iff
    · intro path name
      rw [← @records_ordered a, ← @records_ordered b]
      simp only [Records, h.mem_iff]

/-- An entry after an import is one from before, or the one that the import lengthens. -/
theorem mem_insert {path name : String} {entry : String × List String}
    (h : entry ∈ imports.insert path name) :
    entry ∈ imports ∨ entry = (path, [name]) ∨
      ∃ names, (path, names) ∈ imports ∧ name ∉ names ∧ entry = (path, names ++ [name]) := by
  induction imports with
  | nil => exact .inr (.inl (List.mem_singleton.mp h))
  | cons first rest ih =>
    obtain ⟨p, names⟩ := first
    by_cases hp : p = path
    · subst hp
      simp only [insert, if_true, List.mem_cons] at h
      rcases h with h | h
      · split at h
        · exact .inl (by simp [h])
        · rename_i hn
          exact .inr (.inr ⟨names, by simp, hn, h⟩)
      · exact .inl (List.mem_cons_of_mem _ h)
    · simp only [insert, if_neg hp, List.mem_cons] at h
      rcases h with h | h
      · exact .inl (by simp [h])
      · rcases ih h with h | h | ⟨names, hm, hn, h⟩
        · exact .inl (List.mem_cons_of_mem _ h)
        · exact .inr (.inl h)
        · exact .inr (.inr ⟨names, List.mem_cons_of_mem _ hm, hn, h⟩)

/-- Imports as they grow from nothing: tidy, and no path without a name. -/
structure Grown (imports : Imports) : Prop extends imports.Tidy where
  inhabited : ∀ entry ∈ imports, entry.2 ≠ []

theorem grown_nil : Grown [] := ⟨⟨List.nodup_nil, nofun⟩, nofun⟩

theorem Tidy.insert (h : imports.Tidy) (path name : String) : (imports.insert path name).Tidy := by
  refine ⟨?_, fun entry he => ?_⟩
  · rw [map_fst_insert]
    split
    · exact h.keyed
    · rename_i hp
      exact List.nodup_append.mpr ⟨h.keyed, List.nodup_singleton _, by
        rintro p hm _ hq rfl
        exact hp (List.mem_singleton.mp hq ▸ hm)⟩
  · rcases mem_insert he with he | rfl | ⟨names, hm, hn, rfl⟩
    · exact h.names entry he
    · exact List.nodup_singleton name
    · exact List.nodup_append.mpr ⟨h.names _ hm, List.nodup_singleton name, by
        rintro other ho _ hq rfl
        exact hn (List.mem_singleton.mp hq ▸ ho)⟩

theorem Grown.insert (h : imports.Grown) (path name : String) :
    (imports.insert path name).Grown := by
  refine ⟨h.toTidy.insert path name, fun entry he => ?_⟩
  rcases mem_insert he with he | rfl | ⟨names, _, _, rfl⟩
  · exact h.inhabited entry he
  · simp
  · simp

/-- Where a name is imported from every path, the names tell the paths. -/
theorem Same.of_records (ha : ∀ entry ∈ a, entry.2 ≠ []) (hb : ∀ entry ∈ b, entry.2 ≠ [])
    (h : ∀ path name, a.Records path name ↔ b.Records path name) : a.Same b := by
  have hpaths : ∀ {imports : Imports}, (∀ entry ∈ imports, entry.2 ≠ []) → ∀ path,
      path ∈ imports.map Prod.fst ↔ ∃ name, imports.Records path name := by
    intro imports hi path
    rw [List.mem_map]
    constructor
    · rintro ⟨⟨path, names⟩, he, rfl⟩
      obtain ⟨name, hn⟩ := List.exists_mem_of_ne_nil names (hi _ he)
      exact ⟨name, names, he, hn⟩
    · rintro ⟨_, names, he, _⟩
      exact ⟨_, he, rfl⟩
  exact ⟨fun path => by simp only [hpaths ha, hpaths hb, h], h⟩

/-- What was added to nothing tells the imports. -/
theorem Gains.same {added : String → String → Prop} (ha : Gains [] a added)
    (hb : Gains [] b added) : a.Same b :=
  ⟨fun path => by rw [ha.paths, hb.paths], fun path name => by rw [ha.records, hb.records]⟩

end Imports

namespace Module

variable {τ : Type} {m n : Module τ}

theorem grown_importingAll (h : m.imports.Grown) (locations : List Location) :
    (m.importingAll locations).imports.Grown :=
  importingAll_keeps Imports.Grown.insert h locations

/-- The entries of the imports as they are written. -/
def importEntries (m : Module τ) : List (String × List String) :=
  m.imports.ordered.map fun entry => (Specifier.of m.path entry.1, entry.2)

theorem importLines_eq (m : Module τ) :
    m.importLines = (sortPairs m.importEntries).map fun entry => importLine entry.1 entry.2 := by
  simp [importLines, importEntries, Imports.ordered, Function.comp_def]

theorem importLines_congr (hp : m.path = n.path) (hm : m.imports.Tidy) (hn : n.imports.Tidy)
    (h : m.imports.Same n.imports) : m.importLines = n.importLines := by
  rw [importLines_eq, importLines_eq, importEntries, importEntries, hp, sortPairs_eq_iff.mpr
    (((Imports.same_iff_perm hm hn).mp h).map _)]

theorem assemble_congr (hp : m.path = n.path) (hm : m.imports.Tidy) (hn : n.imports.Tidy)
    (h : m.imports.Same n.imports) {named named' : List (String × List String)}
    (hperm : named.Perm named') : m.assemble named = n.assemble named' := by
  unfold assemble bodyLines
  rw [importLines_congr hp hm hn h, sortPairs_eq_iff.mpr hperm]

/-- Items that correspond to the same ones in another order are themselves in another order. -/
theorem perm_of_forall₂ {α β : Type} {R R' : α → β → Prop} {as as' : List α} {bs bs' : List β}
    (hR : ∀ a b b', R a b → R' a b' → b = b') (h : List.Forall₂ R as bs)
    (h' : List.Forall₂ R' as' bs') (hperm : as.Perm as') : bs.Perm bs' := by
  obtain ⟨cs, hcs, hp⟩ := List.perm_comp_forall₂ hperm h'
  rwa [eq_of_forall₂ hR h hcs]

/-- The same steps in another order have the same results in another order. -/
theorem results_perm {ε α β : Type} {f : α → Except ε β} {items others : List α}
    {results results' : List β} (hperm : items.Perm others) (h : items.mapM f = .ok results)
    (h' : others.mapM f = .ok results') : results.Perm results' := by
  refine perm_of_forall₂ ?_ (mapM_eq_ok_iff.mp h) (mapM_eq_ok_iff.mp h') hperm
  intro item b b' hb hb'
  rw [hb] at hb'
  exact Except.ok.inj hb'

/-- Modules with the same content have the same source. -/
theorem render_congr {m n : Module Json} (hp : m.path = n.path) (hm : m.imports.Tidy)
    (hn : n.imports.Tidy) (h : m.imports.Same n.imports)
    (hperm : m.declarations.Perm n.declarations) {source source' : List String}
    (hs : m.render = .ok source) (hs' : n.render = .ok source') : source = source' := by
  obtain ⟨named, hnamed, hs⟩ := bind_ok hs
  obtain ⟨named', hnamed', hs'⟩ := bind_ok hs'
  cases hs
  cases hs'
  exact assemble_congr hp hm hn h (results_perm hperm hnamed hnamed')

end Module

end ApiTypings
