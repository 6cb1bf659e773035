import ApiTypings.Proofs.Blocks
import Mathlib

/-!
# What stays inside a comment

A description is written between the marks that open and end a comment as it is, but for
white space and the mark of a required member. So the comment ends where its last line says
exactly if the description does not itself hold the mark that ends a comment.
-/

namespace ApiTypings

open Text

namespace Text

theorem infix_append_cons_iff {part a b : List Char} {c : Char} (h : c ∉ part) :
    part <:+: a ++ c :: b ↔ part <:+: a ∨ part <:+: b := by
  constructor
  · rintro ⟨s, t, he⟩
    rw [List.append_assoc, List.append_eq_append_iff] at he
    rcases he with ⟨a', rfl, he⟩ | ⟨c', rfl, he⟩
    · -- the part begins in front of the character, so it ends there too
      rcases List.append_eq_append_iff.mp he with ⟨more, rfl, _⟩ | ⟨more, rfl, hm⟩
      · exact .inl ⟨s, more, by rw [List.append_assoc]⟩
      · cases more with
        | nil => exact .inl ⟨s, [], by simp⟩
        | cons d more =>
          obtain ⟨rfl, _⟩ := List.cons.inj hm
          exact absurd (by simp) h
    · cases c' with
      | nil =>
        cases part with
        | nil => exact .inl List.nil_infix
        | cons d part =>
          obtain ⟨rfl, _⟩ := List.cons.inj he
          exact absurd (List.mem_cons_self ..) h
      | cons d more =>
        obtain ⟨_, rfl⟩ := List.cons.inj he
        exact .inr ⟨more, t, by simp⟩
  · rintro (h | h)
    · exact h.trans (List.prefix_append _ _).isInfix
    · exact h.trans ((List.suffix_cons c b).trans (List.suffix_append _ _)).isInfix

/-- A part without the separator lies within one of those that are joined. -/
theorem infix_intercalate_iff {part : List Char} {sep : Char} (h : sep ∉ part)
    {parts : List (List Char)} (hne : parts ≠ []) :
    part <:+: [sep].intercalate parts ↔ ∃ p ∈ parts, part <:+: p := by
  induction parts with
  | nil => exact absurd rfl hne
  | cons p rest ih =>
    by_cases hr : rest = []
    · simp [hr]
    · rw [List.intercalate_cons_of_ne_nil hr, List.append_assoc, List.singleton_append,
        infix_append_cons_iff h, ih hr]
      simp

theorem infix_iff_pieces {part cs : List Char} {sep : Char} (h : sep ∉ part) :
    part <:+: cs ↔ ∃ piece ∈ pieces sep cs, part <:+: piece := by
  rw [← infix_intercalate_iff h (pieces_ne_nil sep cs), pieces_eq_splitOn,
    List.intercalate_splitOn]

end Text

/-! ## The mark that ends a comment -/

/-- The mark that ends a comment. -/
def commentEnd : List Char := ['*', '/']

/-- A comment would end within the text. -/
def EndsComment (cs : List Char) : Prop := commentEnd <:+: cs

instance (cs : List Char) : Decidable (EndsComment cs) :=
  inferInstanceAs (Decidable (commentEnd <:+: cs))

variable {a b cs : List Char}

theorem endsComment_append_cons {c : Char} (h : c ∉ commentEnd) :
    EndsComment (a ++ c :: b) ↔ EndsComment a ∨ EndsComment b := infix_append_cons_iff h

theorem notMem_commentEnd {c : Char} (h : isBlank c = true) : c ∉ commentEnd := by
  intro hm
  simp only [commentEnd, List.mem_cons, List.not_mem_nil, or_false] at hm
  rcases hm with rfl | rfl <;> revert h <;> decide

theorem not_endsComment {c : Char} (hc : c ∈ commentEnd) (h : c ∉ cs) : ¬ EndsComment cs :=
  fun he => h (he.subset hc)

theorem endsComment_blank_append (h : ∀ c ∈ a, isBlank c = true) :
    EndsComment (a ++ b) ↔ EndsComment b := by
  induction a with
  | nil => rfl
  | cons c a ih =>
    rw [List.forall_mem_cons] at h
    have hc := endsComment_append_cons (a := []) (b := a ++ b) (notMem_commentEnd h.1)
    rw [List.nil_append] at hc
    rw [List.cons_append, hc, ih h.2]
    exact or_iff_right (by decide)

theorem endsComment_append_blank (h : ∀ c ∈ b, c ∉ commentEnd) :
    EndsComment (a ++ b) ↔ EndsComment a := by
  cases b with
  | nil => rw [List.append_nil]
  | cons c b =>
    rw [List.forall_mem_cons] at h
    rw [endsComment_append_cons h.1]
    exact or_iff_left (not_endsComment (c := '*') (by decide) fun hm => h.2 _ hm (by decide))

/-- How a description says that a member is required. -/
def Marker (cs : List Char) : Prop :=
  ∃ before dot after, cs = before ++ "Required".toList ++ dot ++ after ∧ before ≠ [] ∧
    (∀ c ∈ before, isBlank c = true) ∧ (dot = [] ∨ dot = ['.']) ∧ ∀ c ∈ after, isBlank c = true

theorem exists_blanks (cs : List Char) :
    ∃ blanks, (∀ c ∈ blanks, isBlank c = true) ∧ cs = blanks ++ cs.dropWhile isBlank :=
  ⟨cs.takeWhile isBlank, List.all_eq_true.mp List.all_takeWhile,
    List.takeWhile_append_dropWhile.symm⟩

/-- The mark, found from the end of the text. -/
theorem marker_of_reverse {after dot more : List Char} {c : Char} (hc : isBlank c = true)
    (hafter : ∀ x ∈ after, isBlank x = true) (hdot : dot = [] ∨ dot = ['.'])
    (h : cs.reverse = after ++ (dot ++ (markerBackwards ++ c :: more))) :
    ∃ mark, Marker mark ∧ cs = (more.dropWhile isBlank).reverse ++ mark := by
  obtain ⟨blanks, hblanks, hmore⟩ := exists_blanks more
  have hbefore : ∀ x ∈ (c :: blanks).reverse, isBlank x = true := by
    intro x hx
    rcases List.mem_cons.mp (List.mem_reverse.mp hx) with rfl | hx
    · exact hc
    · exact hblanks x hx
  refine ⟨(c :: blanks).reverse ++ "Required".toList ++ dot ++ after.reverse,
    ⟨_, dot, _, rfl, by simp, hbefore, hdot, fun x hx => hafter x (List.mem_reverse.mp hx)⟩, ?_⟩
  have hword : markerBackwards.reverse = "Required".toList := by decide
  have hstop : dot.reverse = dot := by rcases hdot with rfl | rfl <;> rfl
  generalize more.dropWhile isBlank = kept at hmore
  rw [hmore] at h
  calc cs = cs.reverse.reverse := cs.reverse_reverse.symm
    _ = _ := by rw [h]; simp [hword, hstop]

/-- What is dropped from the end of a description is such a mark. -/
theorem dropMarker_cases (cs : List Char) :
    dropMarker cs = cs ∨ ∃ mark, Marker mark ∧ cs = dropMarker cs ++ mark := by
  obtain ⟨after, hafter, hsplit⟩ := exists_blanks cs.reverse
  unfold dropMarker
  dsimp only
  split
  · rename_i c more hstart
    split
    · rename_i hc
      rw [dropStart?_eq_some] at hstart
      refine .inr ?_
      split at hstart
      · rename_i hstop
        rw [hstop, hstart] at hsplit
        exact marker_of_reverse hc hafter (.inr rfl) hsplit
      · rw [hstart] at hsplit
        exact marker_of_reverse hc hafter (.inl rfl) hsplit
    · exact .inl rfl
  · exact .inl rfl

theorem Marker.notMem_commentEnd {mark : List Char} (h : Marker mark) :
    ∀ c ∈ mark, c ∉ commentEnd := by
  obtain ⟨before, dot, after, rfl, _, hbefore, hdot, hafter⟩ := h
  have hword : ∀ c ∈ "Required".toList, c ∉ commentEnd := by simp [commentEnd]
  have hstop : ∀ c ∈ dot, c ∉ commentEnd := by rcases hdot with rfl | rfl <;> simp [commentEnd]
  intro c hc
  simp only [List.mem_append] at hc
  rcases hc with ((hc | hc) | hc) | hc
  · exact ApiTypings.notMem_commentEnd (hbefore c hc)
  · exact hword c hc
  · exact hstop c hc
  · exact ApiTypings.notMem_commentEnd (hafter c hc)

theorem endsComment_dropMarker : EndsComment (dropMarker cs) ↔ EndsComment cs := by
  rcases dropMarker_cases cs with h | ⟨mark, hmark, h⟩
  · rw [h]
  · conv_rhs => rw [h]
    exact (endsComment_append_blank hmark.notMem_commentEnd).symm

theorem exists_blanks_end (cs : List Char) :
    ∃ blanks, (∀ c ∈ blanks, isBlank c = true) ∧ cs = trimEnd cs ++ blanks := by
  obtain ⟨blanks, hblanks, h⟩ := exists_blanks cs.reverse
  refine ⟨blanks.reverse, fun c hc => hblanks c (List.mem_reverse.mp hc), ?_⟩
  unfold trimEnd
  rw [← List.reverse_append, ← h, List.reverse_reverse]

theorem endsComment_trimEnd : EndsComment (trimEnd cs) ↔ EndsComment cs := by
  obtain ⟨blanks, hblanks, h⟩ := exists_blanks_end cs
  conv_rhs => rw [h]
  exact (endsComment_append_blank fun c hc => ApiTypings.notMem_commentEnd (hblanks c hc)).symm

/-- A line of the comment would end it exactly if the description would. -/
theorem endsComment_reflow {description : String} :
    (∃ line ∈ reflow description, EndsComment line) ↔ EndsComment description.toList := by
  have hfeed : '\n' ∉ commentEnd := by decide
  rw [← endsComment_dropMarker, EndsComment, infix_iff_pieces hfeed]
  unfold reflow
  simp only [List.mem_map, exists_exists_and_eq_and]
  exact exists_congr fun piece => and_congr_right fun _ => endsComment_trimEnd

section Block

variable {indent description : String}

/-- The lines of the comment between the first and the last. -/
theorem docLines_eq (h : description ≠ "") : (docLines description).map (indent ++ ·) =
    ((indent ++ "/**") :: (reflow description).map fun line =>
      indent ++ (" * " ++ String.ofList line)) ++ [indent ++ " */"] := by
  have hne : description.isEmpty = false := by simpa using h
  simp [docLines, hne]

theorem endsComment_line (hindent : ∀ c ∈ indent.toList, isBlank c = true) (line : List Char) :
    EndsComment (indent ++ (" * " ++ String.ofList line)).toList ↔ EndsComment line := by
  simp only [String.toList_append, String.toList_ofList]
  rw [endsComment_blank_append hindent]
  change EndsComment ([' ', '*'] ++ ' ' :: line) ↔ _
  rw [endsComment_append_cons (by decide)]
  exact or_iff_right (by decide)

/-- No line of the comment but the last holds the mark that ends it, unless the description does. -/
theorem docLines_enclose (hindent : ∀ c ∈ indent.toList, isBlank c = true) :
    (∀ line ∈ ((docLines description).map (indent ++ ·)).dropLast, ¬ EndsComment line.toList) ↔
      ¬ EndsComment description.toList := by
  by_cases he : description = ""
  · subst he
    exact iff_of_true (by simp [docLines]) (by decide)
  · have hopen : ¬ EndsComment (indent ++ "/**").toList := by
      rw [String.toList_append, endsComment_blank_append hindent]
      decide
    rw [docLines_eq he, List.dropLast_concat, List.forall_mem_cons, and_iff_right hopen,
      List.forall_mem_map, ← endsComment_reflow]
    simp only [endsComment_line hindent, not_exists, not_and]

end Block

/-! ## Where a comment ends -/

/-- What follows the end of the comment that the text goes on with. -/
def pastComment : List Char → Option (List Char)
  | [] => none
  | c :: cs =>
    match dropStart? commentEnd (c :: cs) with
    | some rest => some rest
    | none => pastComment cs

/-- What follows the comment that the text begins with, behind white space. -/
def afterComment? (cs : List Char) : Option (List Char) :=
  (dropStart? ['/', '*'] (trimStart cs)).bind pastComment

/-- A comment goes on up to the first mark that ends it. -/
theorem pastComment_of_not_endsComment {rest : List Char} (h : ¬ EndsComment (cs ++ ['*'])) :
    pastComment (cs ++ '*' :: '/' :: rest) = some rest := by
  induction cs with
  | nil => rfl
  | cons c cs ih =>
    have htail : ¬ EndsComment (cs ++ ['*']) :=
      fun hc => h (hc.trans (List.suffix_cons c _).isInfix)
    have hnone : dropStart? commentEnd (c :: (cs ++ '*' :: '/' :: rest)) = none := by
      rw [Option.eq_none_iff_forall_ne_some]
      intro more hmore
      obtain ⟨rfl, hnext⟩ := List.cons.inj (dropStart?_eq_some.mp hmore)
      cases cs with
      | nil => simp at hnext
      | cons d cs =>
        obtain ⟨rfl, _⟩ := List.cons.inj hnext
        exact h ⟨[], cs ++ ['*'], by simp [commentEnd]⟩
    rw [List.cons_append, pastComment, hnone]
    exact ih htail

theorem pastComment_of_endsComment (tail : List Char) (h : EndsComment cs) :
    ∃ rest, pastComment (cs ++ tail) = some rest ∧ tail.length ≤ rest.length := by
  induction cs with
  | nil => exact absurd h (by decide)
  | cons c cs ih =>
    rw [List.cons_append, pastComment]
    cases hs : dropStart? commentEnd (c :: (cs ++ tail)) with
    | some rest =>
      refine ⟨rest, rfl, ?_⟩
      have hlength := congrArg List.length (dropStart?_eq_some.mp hs)
      cases cs with
      | nil => exact absurd (List.IsInfix.length_le h) (by simp [commentEnd])
      | cons d cs =>
        simp only [List.length_cons, List.length_append, commentEnd, List.length_nil] at hlength
        omega
    | none =>
      rcases List.infix_cons_iff.mp h with hstart | hrest
      · obtain ⟨more, hm⟩ := hstart
        have hsplit : c :: (cs ++ tail) = commentEnd ++ (more ++ tail) := by
          rw [← List.append_assoc, hm, List.cons_append]
        have hsome := dropStart?_eq_some.mpr hsplit
        rw [hsome] at hs
        cases hs
      · exact ih hrest

section Block

variable {indent description : String}

/-- What stands on the lines of a comment between its first and its last. -/
def commentBody (indent description : String) : List Char :=
  ['\n'].intercalate ((reflow description).map fun line =>
    (indent ++ (" * " ++ String.ofList line)).toList)

theorem endsComment_commentBody (hindent : ∀ c ∈ indent.toList, isBlank c = true) :
    EndsComment (commentBody indent description) ↔ EndsComment description.toList := by
  have hne : (reflow description).map (fun line =>
      (indent ++ (" * " ++ String.ofList line)).toList) ≠ [] := by simp [reflow, pieces_ne_nil]
  rw [EndsComment, commentBody, infix_intercalate_iff (by decide) hne, ← endsComment_reflow]
  simp only [List.mem_map, exists_exists_and_eq_and]
  exact exists_congr fun line => and_congr_right fun _ => endsComment_line hindent line

theorem toList_docLines (hne : description ≠ "") :
    (join "\n" ((docLines description).map (indent ++ ·))).toList = indent.toList ++
      ('/' :: '*' :: '*' :: '\n' :: (commentBody indent description ++
        '\n' :: (indent.toList ++ [' ', '*', '/']))) := by
  rw [docLines_eq hne, toList_join, List.map_append, List.map_cons, List.map_map]
  change ['\n'].intercalate (_ ++ [_]) = _
  rw [intercalate_concat (by simp),
    List.intercalate_cons_of_ne_nil (by simp [reflow, pieces_ne_nil])]
  simp [commentBody, Function.comp_def]

/-- Read from its first mark on, the comment ends with its last line exactly if the description does
not hold the mark that ends a comment. -/
theorem afterComment?_docLines (hindent : ∀ c ∈ indent.toList, isBlank c = true)
    (hne : description ≠ "") (rest : List Char) :
    afterComment? ((join "\n" ((docLines description).map (indent ++ ·))).toList ++ rest) =
      some rest ↔ ¬ EndsComment description.toList := by
  have hends : ∀ last, '/' ∉ last → (EndsComment ('*' :: '\n' :: (commentBody indent description ++
      '\n' :: (indent.toList ++ last))) ↔ EndsComment description.toList) := by
    intro last hlast
    have hclose : ¬ EndsComment (indent.toList ++ last) := by
      rw [endsComment_blank_append hindent]
      exact not_endsComment (c := '/') (by decide) hlast
    change EndsComment (['*'] ++ '\n' :: _) ↔ _
    rw [endsComment_append_cons (by decide), or_iff_right (by decide),
      endsComment_append_cons (by decide), or_iff_left hclose, endsComment_commentBody hindent]
  have hopen :
      afterComment? ((join "\n" ((docLines description).map (indent ++ ·))).toList ++ rest) =
      pastComment (('*' :: '\n' :: (commentBody indent description ++
        '\n' :: (indent.toList ++ [' ']))) ++ '*' :: '/' :: rest) := by
    rw [toList_docLines hne, List.append_assoc]
    unfold afterComment? trimStart
    rw [List.dropWhile_append_of_pos hindent]
    simp [isBlank, dropStart?]
  rw [hopen]
  constructor
  · intro h he
    obtain ⟨more, hmore, hlength⟩ :=
      pastComment_of_endsComment ('*' :: '/' :: rest) ((hends [' '] (by decide)).mpr he)
    rw [h] at hmore
    cases hmore
    simp only [List.length_cons] at hlength
    omega
  · intro he
    refine pastComment_of_not_endsComment fun h => he ?_
    rw [← hends [' ', '*'] (by decide)]
    simpa using h

end Block

/-! ## Declarations -/

/-- A member that is described: how far it is indented, its description, and the line that stands
behind its comment. -/
structure Described where
  indent : String
  description : String
  line : String

/-- What is described in a declaration: itself and its fields. -/
def Declaration.described : Declaration String → List Described
  | .interface name description fields =>
    ⟨"", description, "export interface " ++ name ++ " \x7b"⟩ ::
      fields.map fun field => ⟨"  ", field.description, field.line⟩
  | .union name description types =>
    [⟨"", description, "export type " ++ name ++ " = " ++ join " | " types⟩]
  | .field f => [⟨"", f.description, f.line⟩]
  | .foreign _ => []

/-- The comment of the member. -/
def Described.block (d : Described) : List String := (docLines d.description).map (d.indent ++ ·)

theorem joinMembers_member (indent : String) {members : List (List String)} {member : List String}
    (h : member ∈ members) :
    ∃ before after, joinMembers indent members = before ++ member.map (indent ++ ·) ++ after := by
  cases members with
  | nil => cases h
  | cons first rest =>
    rcases List.mem_cons.mp h with rfl | h
    · exact ⟨[], _, rfl⟩
    · obtain ⟨front, back, rfl⟩ := List.append_of_mem h
      refine ⟨first.map (indent ++ ·) ++ front.flatMap (setOff indent) ++
        (if 1 < member.length then [""] else []), back.flatMap (setOff indent), ?_⟩
      simp [joinMembers, setOff, List.append_assoc]

theorem blank_indent {declaration : Declaration String} {d : Described}
    (h : d ∈ declaration.described) : ∀ c ∈ d.indent.toList, isBlank c = true := by
  have hnone : ∀ c ∈ "".toList, isBlank c = true := by simp
  have htwo : ∀ c ∈ "  ".toList, isBlank c = true := by simp [isBlank]
  cases declaration with
  | interface name description fields =>
    rcases List.mem_cons.mp h with rfl | h
    · exact hnone
    · obtain ⟨field, _, rfl⟩ := List.mem_map.mp h
      exact htwo
  | union name description types =>
    rw [List.mem_singleton.mp h]
    exact hnone
  | field f =>
    rw [List.mem_singleton.mp h]
    exact hnone
  | foreign found => cases h

/-- Every member that is described has its comment in front of its line. -/
theorem lines_described {declaration : Declaration String} {d : Described}
    (h : d ∈ declaration.described) :
    ∃ before after, declaration.lines = before ++ d.block ++ (d.indent ++ d.line) :: after := by
  cases declaration with
  | interface name description fields =>
    rw [Declaration.lines_interface]
    rcases List.mem_cons.mp h with rfl | h
    · exact ⟨[], joinMembers "  " (fields.map Field.lines) ++ ["\x7d"], by simp [Described.block]⟩
    · obtain ⟨field, hf, rfl⟩ := List.mem_map.mp h
      obtain ⟨before, after, hj⟩ :=
        joinMembers_member "  " (List.mem_map_of_mem (f := Field.lines) hf)
      refine ⟨docLines description ++ ["export interface " ++ name ++ " \x7b"] ++ before,
        after ++ ["\x7d"], ?_⟩
      rw [hj, Field.lines_eq]
      simp [Described.block]
  | union name description types =>
    rw [List.mem_singleton.mp h]
    exact ⟨[], [], by simp [Described.block, Declaration.lines_union]⟩
  | field f =>
    rw [List.mem_singleton.mp h]
    exact ⟨[], [], by simp [Described.block, Declaration.lines, Field.lines_eq]⟩
  | foreign found => cases h

/-- In the lines of a declaration every member that is described stands behind a comment that
holds its description. No line of the comment but the last holds the mark that ends a comment, and
read from its first mark on it ends with its last line, exactly if the description does not hold
that mark. -/
theorem Declaration.comment_closed_iff {declaration : Declaration String} {d : Described}
    (h : d ∈ declaration.described) :
    (∃ before after, declaration.lines = before ++ d.block ++ (d.indent ++ d.line) :: after) ∧
      ((∀ line ∈ d.block.dropLast, ¬ EndsComment line.toList) ↔
        ¬ EndsComment d.description.toList) ∧
      (d.description ≠ "" → d.block.getLast? = some (d.indent ++ " */") ∧
        ∀ rest, afterComment? ((join "\n" d.block).toList ++ rest) = some rest ↔
          ¬ EndsComment d.description.toList) := by
  refine ⟨lines_described h, docLines_enclose (blank_indent h), fun hne => ⟨?_, fun rest =>
    afterComment?_docLines (blank_indent h) hne rest⟩⟩
  rw [Described.block, docLines_eq hne, List.getLast?_concat]

/-- A field whose description has the signs of the mark apart, and says that it is required. -/
def sizeField : Field String := ⟨"size", "In * / steps\n of a * /b Required.", "number", false⟩

def shelf : Declaration String := .interface "Shelf" "A shelf" [sizeField]

def sizeDescribed : Described := ⟨"  ", sizeField.description, sizeField.line⟩

theorem Declaration.comment_closed_of_apart :
    sizeDescribed ∈ shelf.described ∧
      (∀ line ∈ sizeDescribed.block.dropLast, ¬ EndsComment line.toList) ∧
      ∀ rest, afterComment? ((join "\n" sizeDescribed.block).toList ++ rest) = some rest := by
  have hd : sizeDescribed ∈ shelf.described :=
    List.mem_cons_of_mem _ (List.mem_cons_self ..)
  have hclosed : ¬ EndsComment sizeDescribed.description.toList := by decide
  obtain ⟨_, hlines, hread⟩ := Declaration.comment_closed_iff hd
  exact ⟨hd, hlines.mpr hclosed, fun rest => ((hread (by decide)).2 rest).mpr hclosed⟩

def brokenUnion : Declaration String := .union "N" "a */ b" ["string"]

theorem lines_brokenUnion :
    brokenUnion.lines = ["/**", " * a */ b", " */", "export type N = string"] := by cbv

/-- The mark within a description ends the comment, and what follows it is read as code. -/
theorem Declaration.comment_not_closed :
    ∃ d ∈ brokenUnion.described, brokenUnion.lines = d.block ++ [d.line] ∧
      (∃ line ∈ d.block.dropLast, EndsComment line.toList) ∧
      afterComment? (join "\n" d.block).toList = some " b\n */".toList := by
  have hdescribed : brokenUnion.described = [⟨"", "a */ b", "export type N = string"⟩] := by cbv
  have hblock : Described.block ⟨"", "a */ b", "export type N = string"⟩ =
      ["/**", " * a */ b", " */"] := by cbv
  have htext : join "\n" ["/**", " * a */ b", " */"] = "/**\n * a */ b\n */" := by cbv
  rw [hdescribed]
  refine ⟨_, List.mem_singleton_self _, ?_⟩
  rw [hblock, htext, lines_brokenUnion]
  exact ⟨rfl, ⟨" * a */ b", by decide, by decide⟩, by decide⟩

end ApiTypings
