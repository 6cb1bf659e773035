import ApiTypings.Proofs.Enclosure
import Mathlib

/-!
# What a comment keeps of a description

The mark of a required member is found from the end of a description, and the word in it can
stand in one place only: so what is cut off is the longest such mark. The rest of the
description stands in the comment line by line, and a line loses the white space it ends in
and nothing else.
-/

namespace ApiTypings

open Text

variable {cs text mark : List Char}

/-- The longest mark of a required member that the text ends in; nothing if it ends in none. -/
structure LongestMark (cs mark : List Char) : Prop where
  suffix : mark <:+ cs
  marker : mark = [] ∨ Marker mark
  longest : ∀ other, other <:+ cs → Marker other → other.length ≤ mark.length

/-- Read backwards, behind white space and perhaps a full stop, the text goes on with the word and
a blank. -/
theorem dropMarker_of_reverse {dot more : List Char} {c : Char} (hdot : dot = [] ∨ dot = ['.'])
    (hc : isBlank c = true)
    (h : cs.reverse.dropWhile isBlank = dot ++ (markerBackwards ++ c :: more)) :
    dropMarker cs = (more.dropWhile isBlank).reverse := by
  have hfound : dropStart? markerBackwards (markerBackwards ++ c :: more) = some (c :: more) :=
    dropStart?_eq_some.mpr rfl
  unfold dropMarker
  rw [h]
  rcases hdot with rfl | rfl
  · have hword : markerBackwards = ['d', 'e', 'r', 'i', 'u', 'q', 'e', 'R'] := rfl
    rw [hword] at hfound ⊢
    simp only [List.nil_append, List.cons_append] at hfound ⊢
    simp [hfound, hc]
  · simp only [List.singleton_append, hfound, hc, if_true]

/-- Whatever mark a text ends in, the mark is dropped and the white space in front of it. -/
theorem dropMarker_append (h : Marker mark) : dropMarker (text ++ mark) = trimEnd text := by
  obtain ⟨before, dot, after, rfl, hne, hbefore, hdot, hafter⟩ := h
  obtain ⟨blanks, c, rfl⟩ := List.eq_nil_or_concat before |>.resolve_left hne
  have hword : "Required".toList.reverse = markerBackwards := by decide
  have hstop : dot.reverse = dot := by rcases hdot with rfl | rfl <;> rfl
  have hback : (text ++ (blanks.concat c ++ "Required".toList ++ dot ++ after)).reverse =
      after.reverse ++ (dot ++ (markerBackwards ++ c :: (blanks.reverse ++ text.reverse))) := by
    simp only [List.concat_eq_append, List.reverse_append, List.append_assoc, hword, hstop]
    rfl
  have htail : ((text ++ (blanks.concat c ++ "Required".toList ++ dot ++ after)).reverse).dropWhile
      isBlank = dot ++ (markerBackwards ++ c :: (blanks.reverse ++ text.reverse)) := by
    rw [hback, List.dropWhile_append_of_pos fun x hx => hafter x (List.mem_reverse.mp hx)]
    rcases hdot with rfl | rfl <;> rfl
  have hfront : ∀ x ∈ blanks.reverse, isBlank x = true :=
    fun x hx => hbefore x (by simp [List.mem_reverse.mp hx])
  rw [dropMarker_of_reverse hdot (hbefore c (by simp)) htail,
    List.dropWhile_append_of_pos hfront]
  rfl

/-- What is left of a text and what is cut off it are the text, and it is the longest mark
that is cut off. -/
theorem exists_longestMark (cs : List Char) :
    ∃ mark, cs = dropMarker cs ++ mark ∧ LongestMark cs mark := by
  have hlonger : ∀ {mark other : List Char}, cs = dropMarker cs ++ mark → other <:+ cs →
      Marker other → other.length ≤ mark.length := by
    rintro mark other hcs ⟨front, rfl⟩ hother
    rw [dropMarker_append hother] at hcs
    have hfront := (List.rdropWhile_prefix isBlank front).length_le
    have hlength := congrArg List.length hcs
    simp only [List.length_append] at hlength
    change (trimEnd front).length ≤ front.length at hfront
    omega
  rcases dropMarker_cases cs with h | ⟨mark, hmark, h⟩
  · have hcs : cs = dropMarker cs ++ [] := by rw [h, List.append_nil]
    exact ⟨[], hcs, List.nil_suffix, .inl rfl, fun other => hlonger hcs⟩
  · exact ⟨mark, h, ⟨_, h.symm⟩, .inr hmark, fun other => hlonger h⟩

/-! ## The lines that are kept -/

/-- The line without the white space it ends in. -/
structure EndTrimmed (line kept : List Char) : Prop where
  blanks : ∃ blanks, line = kept ++ blanks ∧ ∀ c ∈ blanks, isBlank c = true
  last : ∀ c ∈ kept.getLast?, isBlank c = false

theorem endTrimmed_trimEnd (line : List Char) : EndTrimmed line (trimEnd line) := by
  obtain ⟨blanks, hblanks, hline⟩ := exists_blanks_end line
  refine ⟨⟨blanks, hline, hblanks⟩, ?_⟩
  intro c hc
  rw [trimEnd, List.getLast?_reverse] at hc
  have hstop := List.head?_dropWhile_not isBlank line.reverse
  rw [Option.mem_def.mp hc] at hstop
  exact hstop

/-- White space within a line. -/
def LineBlank (c : Char) : Prop := isBlank c = true ∧ c ≠ '\n'

/-- What the lines have lost can be put back. -/
theorem exists_ends {lines kept : List (List Char)} (h : List.Forall₂ EndTrimmed lines kept)
    (hfeed : ∀ line ∈ lines, '\n' ∉ line) :
    ∃ ends, ends.length = kept.length ∧ (∀ blanks ∈ ends, ∀ c ∈ blanks, LineBlank c) ∧
      lines = List.zipWith (· ++ ·) kept ends := by
  induction h with
  | nil => exact ⟨[], rfl, by simp, rfl⟩
  | cons hline _ ih =>
    rw [List.forall_mem_cons] at hfeed
    obtain ⟨blanks, rfl, hblanks⟩ := hline.blanks
    obtain ⟨ends, hlength, hends, rfl⟩ := ih hfeed.2
    have hwithin : ∀ c ∈ blanks, LineBlank c := by
      intro c hc
      refine ⟨hblanks c hc, ?_⟩
      rintro rfl
      exact hfeed.1 (List.mem_append_right _ hc)
    exact ⟨blanks :: ends, by simp [hlength], List.forall_mem_cons.mpr ⟨hwithin, hends⟩, rfl⟩

/-- The description is the lines that are kept, in their order and one for each of its own, but for
the white space that each of them ended in and the longest mark of a required member at its
end. -/
structure Reflows (description mark : List Char) (kept : List (List Char)) : Prop where
  longest : LongestMark description mark
  lines : ∃ text, description = text ++ mark ∧
    List.Forall₂ EndTrimmed (text.splitOn '\n') kept
  restored : ∃ ends, ends.length = kept.length ∧
    (∀ blanks ∈ ends, ∀ c ∈ blanks, LineBlank c) ∧
    description = ['\n'].intercalate (List.zipWith (· ++ ·) kept ends) ++ mark

theorem exists_reflows (description : String) :
    ∃ mark, Reflows description.toList mark (reflow description) := by
  obtain ⟨mark, hsplit, hlongest⟩ := exists_longestMark description.toList
  have hkept : List.Forall₂ EndTrimmed ((dropMarker description.toList).splitOn '\n')
      (reflow description) := by
    rw [reflow, ← pieces_eq_splitOn, List.forall₂_map_right_iff, List.forall₂_same]
    exact fun line _ => endTrimmed_trimEnd line
  have hfeed : ∀ line ∈ (dropMarker description.toList).splitOn '\n', '\n' ∉ line := by
    rw [← pieces_eq_splitOn]
    exact fun line => not_mem_of_mem_pieces
  obtain ⟨ends, hlength, hends, hjoin⟩ := exists_ends hkept hfeed
  refine ⟨mark, hlongest, ⟨_, hsplit, hkept⟩, ends, hlength, hends, ?_⟩
  rw [← hjoin, List.intercalate_splitOn]
  exact hsplit

/-! ## The comment -/

/-- The lines of a comment that has these lines in it. -/
def commentOf (indent : String) (kept : List (List Char)) : List String :=
  (indent ++ "/**") :: kept.map (fun line => indent ++ " * " ++ String.ofList line) ++
    [indent ++ " */"]

/-- In the lines of a declaration every member that is described stands behind the comment that has
the lines of its description in it, without the white space they end in and without the
longest mark of a required member. -/
theorem Declaration.comment_keeps {declaration : Declaration Json} {settled : Declaration String}
    {d : Described} (hs : declaration.settle = .ok settled) (hd : d ∈ settled.described)
    (hne : d.description ≠ "") :
    ∃ mark kept before after, Reflows d.description.toList mark kept ∧
      declaration.render =
        .ok (before ++ commentOf d.indent kept ++ (d.indent ++ d.line) :: after) := by
  obtain ⟨mark, hreflows⟩ := exists_reflows d.description
  obtain ⟨before, after, hlines⟩ := lines_described hd
  have hblock : d.block = commentOf d.indent (reflow d.description) := by
    rw [Described.block, docLines_eq hne]
    simp only [commentOf, String.append_assoc]
  refine ⟨mark, _, before, after, hreflows, ?_⟩
  rw [Declaration.render, hs, ← hblock, ← hlines]
  rfl

/-- What is no mark, for more text follows, a line that is blank, and a mark over three lines. -/
def stepsText : String := "In Required. \n\nsteps\u3000\n \x1cRequired.\n\u2003"

example : docLines stepsText = ["/**", " * In Required.", " * ", " * steps", " */"] := by
  decide +kernel

def stepsShelf : Declaration Json :=
  .interface "Shelf" .null [⟨"size", .string stepsText, .string "number", false⟩]

def settledShelf : Declaration String :=
  .interface "Shelf" "" [⟨"size", stepsText, "number", false⟩]

def stepsDescribed : Described := ⟨"  ", stepsText, "size: number"⟩

theorem Declaration.comment_keeps_of_steps :
    stepsShelf.settle = .ok settledShelf ∧ stepsDescribed ∈ settledShelf.described ∧
      ∃ mark kept before after, Reflows stepsText.toList mark kept ∧
        stepsShelf.render =
          .ok (before ++ commentOf "  " kept ++ "  size: number" :: after) := by
  have hs : stepsShelf.settle = .ok settledShelf := rfl
  have hd : stepsDescribed ∈ settledShelf.described := by
    have hline : Field.line ⟨"size", stepsText, "number", false⟩ = "size: number" := by cbv
    exact List.mem_cons_of_mem _ (List.mem_singleton.mpr (congrArg _ hline.symm))
  exact ⟨hs, hd, Declaration.comment_keeps hs hd (by decide)⟩

end ApiTypings
