import ApiTypings.Text.Pieces
import Mathlib.Data.List.Induction

/-!
# Cutting undoes joining

Pieces hold no separator, joining them gives the text back, and cutting what was
joined gives the parts back as long as they hold no separator. What is appended
to a text without a separator lengthens its last piece only.
-/

namespace ApiTypings.Text

theorem pieces_eq_splitOn (sep : Char) (cs : List Char) : pieces sep cs = cs.splitOn sep := by
  induction cs with
  | nil => rfl
  | cons c cs ih =>
    rw [pieces_cons, List.splitOn_cons_eq_if_modifyHead, ← ih]
    by_cases h : c = sep
    · simp [h]
    · have hne := pieces_ne_nil sep cs
      cases hp : pieces sep cs with
      | nil => exact absurd hp hne
      | cons piece rest => simp [h, pushFirst]

/-- A piece of a longer text is empty, a piece of the rest, or one that the first character
lengthens. -/
theorem mem_pieces_cons {sep c : Char} {cs piece : List Char} (h : piece ∈ pieces sep (c :: cs)) :
    piece = [] ∨ piece ∈ pieces sep cs ∨
      (c ≠ sep ∧ ∃ shorter ∈ pieces sep cs, piece = c :: shorter) := by
  rw [pieces_cons] at h
  split at h
  · rcases List.mem_cons.mp h with h | h
    · exact .inl h
    · exact .inr (.inl h)
  · rename_i hc
    cases hp : pieces sep cs with
    | nil => exact absurd hp (pieces_ne_nil sep cs)
    | cons first rest =>
      rw [hp] at h
      rcases List.mem_cons.mp h with rfl | h
      · exact .inr (.inr ⟨hc, first, by simp, rfl⟩)
      · exact .inr (.inl (List.mem_cons_of_mem _ h))

theorem not_mem_of_mem_pieces {sep : Char} {cs piece : List Char} (h : piece ∈ pieces sep cs) :
    sep ∉ piece := by
  induction cs generalizing piece with
  | nil => simp_all
  | cons c cs ih =>
    rcases mem_pieces_cons h with rfl | h | ⟨hc, shorter, hs, rfl⟩
    · simp
    · exact ih h
    · rw [List.mem_cons, not_or]
      exact ⟨Ne.symm hc, ih hs⟩

theorem subset_of_mem_pieces {sep : Char} {cs piece : List Char} (h : piece ∈ pieces sep cs) :
    piece ⊆ cs := by
  induction cs generalizing piece with
  | nil => simp_all
  | cons c cs ih =>
    rcases mem_pieces_cons h with rfl | h | ⟨_, shorter, hs, rfl⟩
    · simp
    · exact List.subset_cons_of_subset c (ih h)
    · exact List.cons_subset_cons c (ih hs)

/-- Joining takes the last of the parts as it is. -/
theorem intercalate_concat_append (sep : Char) (parts : List (List Char)) (last tail : List Char) :
    [sep].intercalate (parts ++ [last ++ tail]) =
      [sep].intercalate (parts ++ [last]) ++ tail := by
  induction parts with
  | nil => simp
  | cons part parts ih =>
    rw [List.cons_append, List.cons_append, List.intercalate_cons_of_ne_nil (by simp),
      List.intercalate_cons_of_ne_nil (by simp), ih]
    simp

theorem intercalate_concat {sep : Char} {parts : List (List Char)} (h : parts ≠ [])
    (last : List Char) :
    [sep].intercalate (parts ++ [last]) = [sep].intercalate parts ++ sep :: last := by
  induction parts with
  | nil => exact absurd rfl h
  | cons part parts ih =>
    by_cases hp : parts = []
    · simp [hp]
    · rw [List.cons_append, List.intercalate_cons_of_ne_nil (by simp),
        List.intercalate_cons_of_ne_nil hp, ih hp]
      simp only [List.append_assoc]

/-- Joining more parts goes on from joining the first of them. -/
theorem intercalate_prefix (sep : Char) (parts more : List (List Char)) :
    [sep].intercalate parts <+: [sep].intercalate (parts ++ more) := by
  by_cases h : parts = []
  · rw [h]
    exact List.nil_prefix
  · induction more using List.reverseRec with
    | nil => simp
    | append_singleton more last ih =>
      rw [← List.append_assoc, intercalate_concat (by simp [h])]
      exact ih.trans (List.prefix_append _ _)

theorem pieces_append {sep : Char} {tail : List Char} (h : sep ∉ tail) (cs : List Char) :
    pieces sep (cs ++ tail) =
      (pieces sep cs).dropLast ++ [(pieces sep cs).getLast (pieces_ne_nil sep cs) ++ tail] := by
  -- the text is its pieces joined, and the tail may join the last of them
  have hcut : ∀ piece ∈ (pieces sep cs).dropLast ++
      [(pieces sep cs).getLast (pieces_ne_nil sep cs) ++ tail], sep ∉ piece := by
    intro piece hp
    rcases List.mem_append.mp hp with hp | hp
    · exact not_mem_of_mem_pieces (List.dropLast_subset _ hp)
    · rw [List.mem_singleton.mp hp, List.mem_append, not_or]
      exact ⟨not_mem_of_mem_pieces (List.getLast_mem _), h⟩
  have hjoin : [sep].intercalate ((pieces sep cs).dropLast ++
      [(pieces sep cs).getLast (pieces_ne_nil sep cs) ++ tail]) = cs ++ tail := by
    rw [intercalate_concat_append, List.dropLast_concat_getLast, pieces_eq_splitOn,
      List.intercalate_splitOn]
  rw [← hjoin, pieces_eq_splitOn, List.splitOn_intercalate sep hcut (by simp)]

theorem pieces_intercalate {sep : Char} {parts : List (List Char)} (h : parts ≠ []) :
    pieces sep ([sep].intercalate parts) = parts.flatMap (pieces sep) := by
  induction parts with
  | nil => exact absurd rfl h
  | cons part parts ih =>
    by_cases hp : parts = []
    · simp [hp]
    · rw [List.intercalate_cons_of_ne_nil hp, List.append_assoc, List.singleton_append,
        pieces_eq_splitOn, List.splitOn_append_cons_self, ← pieces_eq_splitOn,
        ← pieces_eq_splitOn, ih hp, List.flatMap_cons]

theorem dropStart?_eq_some {start cs rest : List Char} :
    dropStart? start cs = some rest ↔ cs = start ++ rest := by
  induction start generalizing cs with
  | nil => simp [dropStart?]
  | cons a start ih =>
    cases cs with
    | nil => simp [dropStart?]
    | cons c cs =>
      by_cases h : a = c
      · simp [dropStart?, h, ih]
      · simp [dropStart?, h, Ne.symm h]

/-! ## Strings -/

theorem afterPrefix?_eq_some {start s rest : String} :
    afterPrefix? start s = some rest ↔ s = start ++ rest := by
  simp only [afterPrefix?, Option.map_eq_some_iff, dropStart?_eq_some]
  constructor
  · rintro ⟨cs, hcs, rfl⟩
    exact String.toList_injective (by simp [hcs])
  · rintro rfl
    exact ⟨rest.toList, by simp, by simp⟩

theorem startsWith_iff {start text : String} :
    startsWith start text = true ↔ start.toList <+: text.toList := by
  unfold startsWith
  rw [Option.isSome_iff_exists]
  constructor
  · rintro ⟨rest, hrest⟩
    rw [afterPrefix?_eq_some.mp hrest, String.toList_append]
    exact List.prefix_append _ _
  · rintro ⟨rest, hrest⟩
    refine ⟨String.ofList rest, afterPrefix?_eq_some.mpr (String.toList_injective ?_)⟩
    rw [String.toList_append, String.toList_ofList, hrest]

theorem toList_join (sep : String) (parts : List String) :
    (join sep parts).toList = sep.toList.intercalate (parts.map String.toList) := by
  simp [join]

/-- What is joined has the characters of its parts and of the separator. -/
theorem mem_join {sep : String} {parts : List String} {c : Char}
    (h : c ∈ (join sep parts).toList) : c ∈ sep.toList ∨ ∃ part ∈ parts, c ∈ part.toList := by
  rw [toList_join] at h
  induction parts with
  | nil => cases h
  | cons part parts ih =>
    by_cases hp : parts = []
    · subst hp
      exact .inr ⟨part, by simp, by simpa using h⟩
    · rw [List.map_cons, List.intercalate_cons_of_ne_nil (by simpa using hp)] at h
      simp only [List.mem_append] at h
      rcases h with (h | h) | h
      · exact .inr ⟨part, by simp, h⟩
      · exact .inl h
      · rcases ih h with h | ⟨other, ho, h⟩
        · exact .inl h
        · exact .inr ⟨other, List.mem_cons_of_mem _ ho, h⟩

theorem subset_join {sep part : String} {parts : List String} (h : part ∈ parts) :
    part.toList ⊆ (join sep parts).toList := by
  rw [toList_join]
  induction parts with
  | nil => cases h
  | cons first rest ih =>
    by_cases hr : rest = []
    · subst hr
      rw [List.mem_singleton.mp h]
      simp
    · rw [List.map_cons, List.intercalate_cons_of_ne_nil (by simpa using hr)]
      rcases List.mem_cons.mp h with rfl | h
      · simp
      · exact List.Subset.trans (ih h) (List.subset_append_right _ _)

theorem map_toList_split (sep : Char) (s : String) :
    (split sep s).map String.toList = pieces sep s.toList := by
  simp [split, Function.comp_def]

theorem split_ne_nil (sep : Char) (s : String) : split sep s ≠ [] := by
  simp [split, pieces_ne_nil]

theorem not_mem_of_mem_split {sep : Char} {s part : String} (h : part ∈ split sep s) :
    sep ∉ part.toList := by
  obtain ⟨piece, hp, rfl⟩ := List.mem_map.mp h
  rw [String.toList_ofList]
  exact not_mem_of_mem_pieces hp

theorem subset_of_mem_split {sep : Char} {s part : String} (h : part ∈ split sep s) :
    part.toList ⊆ s.toList := by
  obtain ⟨piece, hp, rfl⟩ := List.mem_map.mp h
  rw [String.toList_ofList]
  exact subset_of_mem_pieces hp

/-- A text has an empty first piece, and others, if it begins with the separator. -/
theorem split_eq_empty_cons_iff {sep : Char} {s : String} :
    (∃ rest, rest ≠ [] ∧ split sep s = "" :: rest) ↔ s.toList.head? = some sep := by
  unfold split
  cases hs : s.toList with
  | nil => simp
  | cons c cs =>
    rw [pieces_cons]
    by_cases hc : c = sep
    · simp [hc, pieces_ne_nil]
    · cases hp : pieces sep cs with
      | nil => exact absurd hp (pieces_ne_nil sep cs)
      | cons first rest => simp [hc, pushFirst, String.ofList_eq_empty_iff]

/-- What begins with the parts of a text begins with the text. -/
theorem prefix_of_split_prefix {sep : Char} {s t : String} (h : split sep s <+: split sep t) :
    s.toList <+: t.toList := by
  obtain ⟨more, hm⟩ := h
  have hs : [sep].intercalate ((split sep s).map String.toList) = s.toList := by
    rw [map_toList_split, pieces_eq_splitOn, List.intercalate_splitOn]
  have ht : [sep].intercalate ((split sep t).map String.toList) = t.toList := by
    rw [map_toList_split, pieces_eq_splitOn, List.intercalate_splitOn]
  rw [← hs, ← ht, ← hm, List.map_append]
  exact intercalate_prefix _ _ _

theorem join_split {sep : String} {c : Char} (hc : sep.toList = [c]) (s : String) :
    join sep (split c s) = s := by
  apply String.toList_injective
  rw [toList_join, map_toList_split, hc, pieces_eq_splitOn, List.intercalate_splitOn]

theorem split_join {sep : String} {c : Char} (hc : sep.toList = [c]) {parts : List String}
    (hne : parts ≠ []) (hcut : ∀ part ∈ parts, c ∉ part.toList) :
    split c (join sep parts) = parts := by
  have hp : pieces c ([c].intercalate (parts.map String.toList)) = parts.map String.toList := by
    rw [pieces_eq_splitOn]
    exact List.splitOn_intercalate c (by simpa using hcut) (by simpa using hne)
  rw [split, toList_join, hc, hp]
  simp

/-- Cutting a joined text cuts each of its parts. -/
theorem split_join_eq_flatMap {sep : String} {c : Char} (hc : sep.toList = [c])
    {parts : List String} (hne : parts ≠ []) :
    split c (join sep parts) = parts.flatMap (split c) := by
  rw [split, toList_join, hc, pieces_intercalate (by simpa using hne), List.flatMap_map,
    List.map_flatMap]
  rfl

theorem split_append {c : Char} {tail : String} (h : c ∉ tail.toList) (s : String) :
    split c (s ++ tail) =
      (split c s).dropLast ++ [(split c s).getLast (split_ne_nil c s) ++ tail] := by
  simp only [split, String.toList_append, pieces_append h, List.map_append, List.map_dropLast,
    List.map_cons, List.map_nil, List.getLast_map, String.ofList_append, String.ofList_toList]

end ApiTypings.Text
