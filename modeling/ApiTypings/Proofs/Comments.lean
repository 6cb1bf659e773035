import ApiTypings.Module.Declaration
import ApiTypings.Proofs.Codes
import ApiTypings.Proofs.Pieces
import Mathlib.Data.String.Basic

/-!
# Comments end where they say

The lines of a comment lie between its first line and its last one, and none of them
looks like the last. So a comment is read off the front of what it stands before, as long
as that does not itself begin like one.
-/

namespace ApiTypings

open Text

theorem mem_docLines {description line : String} (h : line ∈ docLines description) :
    line = "/**" ∨ (∃ cs ∈ reflow description, line = " * " ++ String.ofList cs) ∨
      line = " */" := by
  unfold docLines at h
  split at h
  · cases h
  · simp only [List.cons_append, List.mem_cons, List.mem_append, List.mem_map, List.not_mem_nil,
      or_false] at h
    rcases h with h | ⟨cs, hcs, h⟩ | h
    · exact .inl h
    · exact .inr (.inl ⟨cs, hcs, h.symm⟩)
    · exact .inr (.inr h)

/-- A comment is nothing, or lines between two others of which none is like the last. -/
theorem docLines_cases (description : String) :
    docLines description = [] ∨
      ∃ body, docLines description = "/**" :: (body ++ [" */"]) ∧ " */" ∉ body := by
  unfold docLines
  split
  · exact .inl rfl
  · refine .inr ⟨_, List.cons_append .., fun h => ?_⟩
    obtain ⟨line, _, he⟩ := List.mem_map.mp h
    simpa using congrArg String.toList he

/-- A comment is read off the front of the lines it stands before, however they are indented. -/
theorem docLines_cancel {f : String → String} (hi : f.Injective) {a b line line' : String}
    {r s : List String} (hl : line ≠ "/**") (hl' : line' ≠ "/**")
    (h : (docLines a ++ [line]).map f ++ r = (docLines b ++ [line']).map f ++ s) :
    docLines a = docLines b ∧ line = line' ∧ r = s := by
  have hdiffer : ∀ {l : String} {t u v : List String}, l ≠ "/**" →
      f l :: t ≠ f "/**" :: u ++ v := by
    rintro l t u v hl h
    exact hl (hi (List.cons.inj h).1)
  rcases docLines_cases a with ha | ⟨body, ha, hbody⟩ <;>
    rcases docLines_cases b with hb | ⟨body', hb, hbody'⟩ <;>
    rw [ha, hb] at h ⊢
  · simpa [hi.eq_iff] using h
  · exact absurd h (hdiffer hl)
  · exact absurd h.symm (hdiffer hl')
  · -- the first line like the last is the last
    have hspan : ∀ {lines : List String}, " */" ∉ lines →
        ∀ l ∈ lines.map f, decide (l ≠ f " */") = true := by
      intro lines hn _ hl
      obtain ⟨l, hm, rfl⟩ := List.mem_map.mp hl
      exact decide_eq_true fun he => hn (hi he ▸ hm)
    simp only [List.map_append, List.map_cons, List.map_nil, List.cons_append, List.append_assoc,
      List.nil_append, List.cons.injEq, true_and] at h
    obtain ⟨hlines, hrest⟩ := span_cancel (hspan hbody) (hspan hbody') (by simp) (by simp) h
    obtain rfl := List.map_injective_iff.mpr hi hlines
    simpa [hi.eq_iff] using hrest

/-- No line of a comment has a line feed in it. -/
theorem lineFeed_notMem_docLines {description line : String} (h : line ∈ docLines description) :
    '\n' ∉ line.toList := by
  rcases mem_docLines h with rfl | ⟨cs, hcs, rfl⟩ | rfl
  · decide
  · obtain ⟨piece, hp, rfl⟩ := List.mem_map.mp hcs
    have htrim : trimEnd piece ⊆ piece := fun c hc =>
      List.mem_reverse.mp ((List.dropWhile_sublist _).subset (List.mem_reverse.mp hc))
    simp only [String.toList_append, String.toList_ofList, List.mem_append, not_or]
    exact ⟨by decide, fun hn => not_mem_of_mem_pieces hp (htrim hn)⟩
  · decide

end ApiTypings
