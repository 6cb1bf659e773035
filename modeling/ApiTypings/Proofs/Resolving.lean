import ApiTypings.Proofs.Lossless
import ApiTypings.Proofs.Paths
import Mathlib.Data.List.Infix

/-!
# Specifiers lead to their modules

A specifier is followed from the directory of the module that it stands in, segment by segment.
The one for another module leads there: within the directory by a name, and else back to the root,
with one segment for each name of the directory, and down again by the whole path. Where it leads is
told by what it says, so different modules are imported by different specifiers.
-/

namespace ApiTypings

open Text

namespace Path

variable {path : String}

theorem Plain.joined (h : Path.Plain path) : Path.Joined path :=
  ⟨split '/' path, (join_split rfl path).symm, fun name hn =>
    ⟨(h name hn).1, (h name hn).2.1, (h name hn).2.2, not_mem_of_mem_split hn⟩⟩

/-- The names of a plain path, but for the last, are those of its directory. -/
theorem Plain.parts (h : Path.Plain path) :
    Specifier.directory path.toList = (join "/" (split '/' path).dropLast).toList ∧
      Specifier.baseName path.toList =
        ((split '/' path).getLast (split_ne_nil '/' path)).toList := by
  have hnames : ∀ name ∈ (split '/' path).dropLast.map String.toList, name ≠ [] ∧ '/' ∉ name := by
    intro name hm
    obtain ⟨text, ht, rfl⟩ := List.mem_map.mp hm
    have hs := List.dropLast_subset _ ht
    exact ⟨fun he => (h text hs).1 (String.toList_eq_nil_iff.mp he), not_mem_of_mem_split hs⟩
  have hlast := not_mem_of_mem_split (List.getLast_mem (split_ne_nil '/' path))
  have hpath : path.toList = ['/'].intercalate ((split '/' path).dropLast.map String.toList ++
      [((split '/' path).getLast (split_ne_nil '/' path)).toList]) := by
    have hjoin : join "/" (split '/' path) = path := join_split rfl path
    rw [← List.dropLast_concat_getLast (split_ne_nil '/' path)] at hjoin
    rw [← congrArg String.toList hjoin, toList_join, List.map_append]
    rfl
  rw [hpath, toList_join]
  exact Specifier.parts_of_intercalate hnames hlast

end Path

namespace Specifier

/-! ## Following a specifier -/

/-- Goes from a directory along one segment: `.` stays there, `..` leads back, but not beyond the
root, and any other leads down. -/
def follow (here : List String) (segment : String) : Option (List String) :=
  if segment = "." then some here
  else if segment = ".." then if here = [] then none else some here.dropLast
  else some (here ++ [segment])

/-- The path to which a specifier leads in the module at `source`, if it does not lead beyond the
root. -/
def resolve (source specifier : String) : Option String :=
  ((split '/' specifier).foldlM follow (split '/' source).dropLast).map (join "/")

variable {here names source target : List String}

theorem follow_down (h : ∀ name ∈ names, name ≠ "." ∧ name ≠ "..") :
    names.foldlM follow here = some (here ++ names) := by
  induction names generalizing here with
  | nil => simp
  | cons name rest ih =>
    rw [List.forall_mem_cons] at h
    have hstep : follow here name = some (here ++ [name]) := by
      unfold follow
      rw [if_neg h.1.1, if_neg h.1.2]
    rw [List.foldlM_cons, hstep, Option.bind_eq_bind, Option.bind_some, ih h.2, List.append_assoc]
    rfl

/-- As many steps back as a directory has names lead to the root. -/
theorem follow_back (here : List String) :
    (List.replicate here.length "..").foldlM follow here = some [] := by
  induction here using List.reverseRec with
  | nil => rfl
  | append_singleton here name ih =>
    have hstep : follow (here ++ [name]) ".." = some here := by
      unfold follow
      simp
    rw [List.length_append, List.length_singleton, List.replicate_succ, List.foldlM_cons, hstep]
    exact ih

/-- The segments of a specifier, told by those of the two paths. -/
def way (source target : List String) : List String :=
  if source.dropLast = target.dropLast then "." :: target.drop target.dropLast.length
  else if source.dropLast = [] then "." :: target
  else List.replicate source.dropLast.length ".." ++ target

theorem way_leads (h : ∀ name ∈ target, name ≠ "." ∧ name ≠ "..") :
    (way source target).foldlM follow source.dropLast = some target := by
  have hstay : ∀ here, follow here "." = some here := fun _ => rfl
  unfold way
  split
  · rename_i hsame
    rw [List.foldlM_cons, hstay, Option.bind_eq_bind, Option.bind_some, hsame,
      follow_down fun name hn => h name (List.mem_of_mem_drop hn)]
    exact congrArg some (List.prefix_iff_eq_append.mp (List.dropLast_prefix target))
  · split
    · rename_i hroot
      rw [List.foldlM_cons, hstay, Option.bind_eq_bind, Option.bind_some, hroot, follow_down h]
      rfl
    · rw [List.foldlM_append, follow_back, Option.bind_eq_bind, Option.bind_some, follow_down h]
      rfl

/-- The segments are no longer cut by cutting the specifier. -/
theorem split_way (hne : target ≠ []) (h : ∀ name ∈ target, '/' ∉ name.toList) :
    split '/' (join "/" (way source target)) = way source target := by
  unfold way
  split
  · refine split_join rfl (List.cons_ne_nil _ _) (List.forall_mem_cons.mpr ⟨by decide, ?_⟩)
    exact fun name hn => h name (List.mem_of_mem_drop hn)
  · split
    · exact split_join rfl (List.cons_ne_nil _ _) (List.forall_mem_cons.mpr ⟨by decide, h⟩)
    · refine split_join rfl (by simp [hne]) (List.forall_mem_append.mpr ⟨?_, h⟩)
      intro name hn
      rw [List.eq_of_mem_replicate hn]
      decide

/-! ## The segments of a specifier -/

/-- Joined names of a directory tell the names. -/
theorem join_names_inj (h : ∀ name ∈ source, name ≠ "" ∧ '/' ∉ name.toList)
    (h' : ∀ name ∈ target, name ≠ "" ∧ '/' ∉ name.toList)
    (he : join "/" source = join "/" target) : source = target := by
  have hempty : ∀ {others : List String},
      (∀ name ∈ others, name ≠ "" ∧ '/' ∉ name.toList) → join "/" others = "" → others = [] := by
    intro others ho hjoin
    by_contra hne
    have hchars := congrArg String.toList hjoin
    rw [toList_join] at hchars
    refine (getLast?_join (by simpa using hne) ?_).1 hchars
    intro name hm
    obtain ⟨text, ht, rfl⟩ := List.mem_map.mp hm
    exact ⟨fun hn => (ho text ht).1 (String.toList_eq_nil_iff.mp hn), (ho text ht).2⟩
  by_cases hs : source = []
  · rw [hs] at he ⊢
    exact (hempty h' he.symm).symm
  · by_cases ht : target = []
    · rw [ht] at he
      exact absurd (hempty h he) hs
    · have hsource : split '/' (join "/" source) = source := split_join rfl hs fun n hn => (h n hn).2
      have htarget : split '/' (join "/" target) = target := split_join rfl ht fun n hn => (h' n hn).2
      rw [← hsource, he, htarget]

theorem join_cons {name : String} (h : names ≠ []) :
    (join "/" (name :: names)).toList = name.toList ++ '/' :: (join "/" names).toList := by
  rw [toList_join, toList_join, List.map_cons, List.intercalate_cons_of_ne_nil (by simpa using h),
    List.append_assoc]
  rfl

/-- The way out of a directory is a step back for each of its names. -/
theorem join_back {α : Type} (steps : List α) (h : target ≠ []) :
    (join "/" (List.replicate steps.length ".." ++ target)).toList =
      steps.flatMap (fun _ => ['.', '.', '/']) ++ (join "/" target).toList := by
  induction steps with
  | nil => rfl
  | cons step rest ih =>
    rw [List.length_cons, List.replicate_succ, List.cons_append, join_cons (by simp [h]), ih]
    rfl

end Specifier

namespace Path

variable {source target : String}

theorem Plain.dropLast (h : Plain source) :
    ∀ name ∈ (split '/' source).dropLast, name ≠ "" ∧ '/' ∉ name.toList := fun name hn =>
  ⟨(h name (List.dropLast_subset _ hn)).1, not_mem_of_mem_split (List.dropLast_subset _ hn)⟩

theorem Plain.directory_eq_iff (h : Plain source) (h' : Plain target) :
    Specifier.directory source.toList = Specifier.directory target.toList ↔
      (split '/' source).dropLast = (split '/' target).dropLast := by
  rw [h.parts.1, h'.parts.1]
  constructor
  · intro he
    exact Specifier.join_names_inj h.dropLast h'.dropLast (String.toList_injective he)
  · intro he
    rw [he]

theorem Plain.directory_eq_nil_iff (h : Plain source) :
    Specifier.directory source.toList = [] ↔ (split '/' source).dropLast = [] := by
  rw [h.parts.1]
  constructor
  · intro he
    exact Specifier.join_names_inj h.dropLast (by simp) (String.toList_eq_nil_iff.mp he)
  · intro he
    rw [he]
    rfl

end Path

namespace Specifier

variable {source target : String}

theorem of_eq_join (h : Path.Plain source) (h' : Path.Plain target) :
    Specifier.of source target = join "/" (way (split '/' source) (split '/' target)) := by
  apply String.toList_injective
  unfold Specifier.of way
  rw [String.toList_ofList]
  by_cases hsame : directory source.toList = directory target.toList
  · rw [chars_of_same hsame, if_pos ((h.directory_eq_iff h').mp hsame), h'.parts.2]
    rw [List.length_dropLast, List.drop_length_sub_one (split_ne_nil _ _), join_cons (by simp)]
    simp [join]
  · rw [chars_of_other hsame, if_neg (mt (h.directory_eq_iff h').mpr hsame), wayOut]
    have htarget : target.toList = (join "/" (split '/' target)).toList := by
      rw [join_split rfl]
    by_cases hroot : directory source.toList = []
    · rw [hroot, if_pos (h.directory_eq_nil_iff.mp hroot), join_cons (split_ne_nil _ _), ← htarget]
      rfl
    · rw [if_neg (by simpa using hroot), if_neg (mt h.directory_eq_nil_iff.mpr hroot)]
      have hpieces : (pieces '/' (directory source.toList)).length =
          (split '/' source).dropLast.length := by
        have hsplit : split '/' (join "/" (split '/' source).dropLast) =
            (split '/' source).dropLast :=
          split_join rfl (mt h.directory_eq_nil_iff.mpr hroot) fun name hn => (h.dropLast name hn).2
        rw [h.parts.1, ← List.length_map String.ofList]
        exact congrArg List.length hsplit
      rw [← hpieces, join_back _ (split_ne_nil _ _), ← htarget]

/-- A specifier begins at the directory of its module. -/
theorem of_startsWith (source target : String) :
    startsWith "./" (Specifier.of source target) = true ∨
      startsWith "../" (Specifier.of source target) = true := by
  have hhere : "./".toList = ['.', '/'] := rfl
  have hback : "../".toList = ['.', '.', '/'] := rfl
  rw [startsWith_iff, startsWith_iff, hhere, hback, Specifier.of, String.toList_ofList]
  by_cases hsame : directory source.toList = directory target.toList
  · rw [chars_of_same hsame]
    exact .inl (List.prefix_append ['.', '/'] _)
  · rw [chars_of_other hsame, wayOut]
    split
    · exact .inl (List.prefix_append ['.', '/'] _)
    · cases hp : pieces '/' (directory source.toList) with
      | nil => exact absurd hp (pieces_ne_nil _ _)
      | cons piece rest => exact .inr (List.prefix_append ['.', '.', '/'] _)

/-- What the specifier of a module says leads to the module. -/
theorem resolve_of (h : Path.Plain source) (h' : Path.Plain target) :
    resolve source (Specifier.of source target) = some target := by
  have hnames : ∀ name ∈ split '/' target, name ≠ "." ∧ name ≠ ".." := fun name hn => (h' name hn).2
  rw [of_eq_join h h', resolve, split_way (split_ne_nil _ _) fun name => not_mem_of_mem_split,
    way_leads hnames, Option.map_some, join_split rfl]

/-- What leads beyond the root leads nowhere. -/
example : resolve "a.ts" "../b.ts" = none := by decide

end Specifier

/-- The line imports names by the specifier. -/
def ImportsBy (line specifier : String) : Prop := ∃ names, line = importLine specifier names

/-- A line has one specifier at most, whatever its names are. -/
theorem ImportsBy.unique {line specifier specifier' : String} (h : ImportsBy line specifier)
    (h' : ImportsBy line specifier') : specifier = specifier' := by
  obtain ⟨names, rfl⟩ := h
  obtain ⟨names', he⟩ := h'
  have hl := congrArg String.toList he
  have hshape : ∀ (text : String) (others : List String), (importLine text others).toList =
      ("import \x7b" ++ join ", " others ++ "\x7d from").toList ++ ' ' :: (quote text).toList := by
    intro text others
    simp [importLine]
  rw [hshape, hshape] at hl
  exact Text.quote_inj_of_append hl

namespace Module

variable {m : Module Json}

/-- No two of the lines have a specifier in common. -/
def SpecifiersDiffer (imports : List String) : Prop :=
  imports.Pairwise fun a b => ∀ specifier, ImportsBy a specifier → ¬ ImportsBy b specifier

theorem specifiersDiffer_importLines (hpaths : ∀ entry ∈ m.imports, Path.Joined entry.1)
    (hkeys : (m.imports.map Prod.fst).Nodup) : SpecifiersDiffer m.importLines := by
  have hspecifiers : (m.importEntries.map Prod.fst).Nodup := by
    have hmap : m.importEntries.map Prod.fst = (m.imports.map Prod.fst).map (Specifier.of m.path) := by
      simp [importEntries, Imports.ordered]
    rw [hmap]
    refine hkeys.map_on ?_
    intro path hp path' hp' he
    obtain ⟨entry, hentry, rfl⟩ := List.mem_map.mp hp
    obtain ⟨entry', hentry', rfl⟩ := List.mem_map.mp hp'
    exact Specifier.of_inj (hpaths entry hentry) (hpaths entry' hentry') he
  have hsorted := ((List.mergeSort_perm m.importEntries pairLe).map Prod.fst).nodup_iff.mpr hspecifiers
  rw [importLines_eq, SpecifiersDiffer, List.pairwise_map]
  refine (List.pairwise_map.mp hsorted).imp ?_
  intro a b hne specifier ha hb
  exact hne ((ImportsBy.unique ⟨a.2, rfl⟩ ha).trans (ImportsBy.unique ⟨b.2, rfl⟩ hb).symm)

/-- Specifiers between plain paths lead where they should and never beyond the root. So in the source
of a module with such paths each line that imports has a specifier that leads to one of the modules,
and no two have the same. -/
theorem specifiers_lead :
    (∀ source target, Path.Plain source → Path.Plain target →
      Specifier.resolve source (Specifier.of source target) = some target ∧
        (startsWith "./" (Specifier.of source target) = true ∨
          startsWith "../" (Specifier.of source target) = true)) ∧
    ∀ (m : Module Json) (lines : List String), Path.Plain m.path →
      (∀ entry ∈ m.imports, Path.Plain entry.1) → (m.imports.map Prod.fst).Nodup →
      m.render = .ok lines →
        (∃ named, m.declarations.mapM Module.named = .ok named ∧
          lines = flattenLines (m.importLines ++
            ((if m.importLines.isEmpty then [] else [""]) ++ bodyLines named))) ∧
        (∀ line ∈ m.importLines, ∃ specifier, ImportsBy line specifier ∧
          ∃ entry ∈ m.imports, Specifier.resolve m.path specifier = some entry.1) ∧
        SpecifiersDiffer m.importLines := by
  refine ⟨fun source target h h' => ⟨Specifier.resolve_of h h', Specifier.of_startsWith _ _⟩, ?_⟩
  intro m lines hpath himports hkeys hrender
  refine ⟨?_, fun line hl => ?_,
    specifiersDiffer_importLines (fun entry he => (himports entry he).joined) hkeys⟩
  · obtain ⟨named, hnamed, hlines⟩ := bind_ok hrender
    cases hlines
    exact ⟨named, hnamed, congrArg flattenLines (List.append_assoc _ _ _)⟩
  · rw [importLines_eq] at hl
    obtain ⟨written, hw, rfl⟩ := List.mem_map.mp hl
    obtain ⟨ordered, ho, rfl⟩ := List.mem_map.mp (List.mem_mergeSort.mp hw)
    obtain ⟨entry, he, rfl⟩ := List.mem_map.mp ho
    exact ⟨_, ⟨_, rfl⟩, entry, he, Specifier.resolve_of hpath (himports entry he)⟩

/-- A module imports from its own directory and from the root. -/
theorem specifiers_lead_of_gathered :
    Specifier.resolve "a/b.ts" (Specifier.of "a/b.ts" "d.ts") = some "d.ts" ∧
      gathered.render = .ok gathered.layout ∧ SpecifiersDiffer gathered.importLines := by
  have hpath : Path.Plain "a/b.ts" := by
    unfold Path.Plain
    decide
  have htarget : Path.Plain "d.ts" := by
    unfold Path.Plain
    decide
  have himports : ∀ entry ∈ gathered.imports, Path.Plain entry.1 := by
    unfold Path.Plain
    decide
  exact ⟨(specifiers_lead.1 _ _ hpath htarget).1, gathered_plain.render_eq,
    (specifiers_lead.2 gathered _ hpath himports (by decide) gathered_plain.render_eq).2.2⟩

end Module

end ApiTypings
