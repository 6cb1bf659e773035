import ApiTypings.Files.Writer
import ApiTypings.Json.Display
import ApiTypings.Proofs.Blocks

/-!
# Braces outside of comments

A text is accepted if as many braces open as close outside of its comments. Texts without
braces have none to spare, quoted or not, and what is put between two braces neither. The
lines of a comment are those that are passed over, however far they are indented.
-/

namespace ApiTypings

open Text

/-- The characters that count for whether a text is accepted. -/
def rough : List Char := ['\x7b', '\x7d', '\n']

/-- There is no brace and no line feed in the text. -/
def Smooth (s : String) : Prop := ∀ c ∈ s.toList, c ∉ rough

instance (s : String) : Decidable (Smooth s) :=
  decidable_of_iff (s.toList.all fun c => !rough.contains c) (by simp [Smooth])

namespace Smooth

variable {s t : String}

theorem of_subset (h : Smooth t) (hs : s.toList ⊆ t.toList) : Smooth s := fun c hc => h c (hs hc)

@[simp] theorem append_iff : Smooth (s ++ t) ↔ Smooth s ∧ Smooth t := by
  simp [Smooth, or_imp, forall_and]

theorem append (hs : Smooth s) (ht : Smooth t) : Smooth (s ++ t) := append_iff.mpr ⟨hs, ht⟩

theorem join {sep : String} {parts : List String} (hsep : Smooth sep)
    (h : ∀ part ∈ parts, Smooth part) : Smooth (join sep parts) := by
  intro c hc
  rcases mem_join hc with hc | ⟨part, hp, hc⟩
  · exact hsep c hc
  · exact h part hp c hc

theorem part_of_join {sep : String} {parts : List String} (h : Smooth (Text.join sep parts))
    {part : String} (hp : part ∈ parts) : Smooth part := h.of_subset (subset_join hp)

theorem lineFeed_notMem (h : Smooth s) : '\n' ∉ s.toList := fun hc => h _ hc (by decide)

end Smooth

/-! ## Quoted texts and values -/

theorem mem_encodeChar {c x : Char} (h : x ∈ encodeChar .needed c) : x = c ∨ x ∉ rough := by
  have hletter : ∀ r ∈ rough, shortEscape? r = none := by simp [rough, shortEscape?]
  have hdigit : ∀ n, hexDigit n ∉ rough := forall_hexDigit (p := (· ∉ rough)) (by decide)
  rcases encodeChar_needed c with ⟨he, _⟩ | ⟨letter, he, hl⟩ | ⟨he, _⟩ <;> rw [he] at h
  · exact .inl (List.mem_singleton.mp h)
  · rcases List.mem_pair.mp h with rfl | rfl
    · exact .inr (by decide)
    · refine .inr fun hr => ?_
      rw [hletter x hr] at hl
      cases hl
  · simp only [unitEscape, hex4, List.mem_cons, List.not_mem_nil, or_false] at h
    rcases h with rfl | rfl | rfl | rfl | rfl | rfl
    · exact .inr (by decide)
    · exact .inr (by decide)
    all_goals exact .inr (hdigit _)

theorem mem_of_mem_quote {s : String} {c : Char} (hc : c ∈ rough) (h : c ∈ (quote s).toList) :
    c ∈ s.toList := by
  simp only [toList_quote, encode, List.cons_append, List.mem_cons, List.mem_append,
    List.mem_flatMap, List.not_mem_nil, or_false] at h
  rcases h with rfl | ⟨d, hd, hx⟩ | rfl
  · exact absurd hc (by decide)
  · rcases mem_encodeChar hx with rfl | hx
    · exact hd
    · exact absurd hc hx
  · exact absurd hc (by decide)

theorem Smooth.quote {s : String} (h : Smooth s) : Smooth (quote s) :=
  fun c hc hr => h c (mem_of_mem_quote hr hc) hr

namespace Json

/-- A brace stands in a literal as it is. -/
theorem mem_literalText {s : String} {c : Char} (h : c ∈ s.toList) (hc : c = '\x7b' ∨ c = '\x7d') :
    c ∈ (literalText s).toList := by
  have hself : ∀ mark ∈ ['"', '\''], c ∈ literalChar mark c := by
    intro mark hm
    rcases List.mem_pair.mp hm with rfl | rfl <;> rcases hc with rfl | rfl <;> decide
  have hmark : (if hasChar '\'' s && !hasChar '"' s then '"' else '\'') ∈ ['"', '\''] := by
    split <;> decide
  unfold literalText
  simp only [String.toList_ofList, List.mem_append, List.mem_cons, List.mem_flatMap]
  exact .inl (.inr ⟨c, h, hself _ hmark⟩)

theorem smooth_quote_of_literal {s : String} (h : Smooth (literalText s)) : Smooth (quote s) := by
  intro c hc hr
  have hs := mem_of_mem_quote hr hc
  simp only [rough, List.mem_cons, List.not_mem_nil, or_false] at hr
  rcases hr with rfl | rfl | rfl
  · exact h _ (mem_literalText hs (.inl rfl)) (by decide)
  · exact h _ (mem_literalText hs (.inr rfl)) (by decide)
  · exact lineFeed_notMem_quote s hc

/-- Only what is no number is written differently. -/
theorem smooth_numbers {x : Number.Real64} (h : Smooth (plainNumbers.text x)) :
    Smooth (numbers.text x) := by
  cases x with
  | nan => decide
  | infinite negative => cases negative <;> decide
  | finite negative mantissa exponent => exact h

mutual

/-- A value whose literal has no braces is written without any. -/
theorem smooth_print_of_literal : (j : Json) → (Smooth j.literal → Smooth (j.print .needed))
  | .null => by
    simp only [print]
    decide
  | .bool b => by
    cases b <;> simp only [print] <;> decide
  | .int n => by
    simp only [literal, print]
    exact id
  | .real x => by
    simp only [literal, print]
    exact smooth_numbers
  | .string s => by
    simp only [literal, print]
    exact smooth_quote_of_literal
  | .array items => by
    simp only [literal, print, Smooth.append_iff]
    rintro ⟨⟨hopen, hitems⟩, hclose⟩
    have hprint := smooth_printItems items fun _ => hitems.part_of_join
    exact ⟨⟨hopen, .join (by decide) hprint⟩, hclose⟩
  | .object members => by
    simp only [literal, Smooth.append_iff]
    exact fun h => absurd h.2 (by decide)

theorem smooth_printItems : (items : List Json) → (∀ text ∈ literalItems items, Smooth text) →
    ∀ text ∈ printItems .needed items, Smooth text
  | [] => by simp [printItems]
  | item :: items => by
    simp only [literalItems, printItems, List.forall_mem_cons]
    exact fun h => ⟨smooth_print_of_literal item h.1, smooth_printItems items h.2⟩

end

theorem smooth_print {j : Json} (h : Smooth j.plain) : Smooth (j.print .needed) := by
  cases j with
  | string s => exact Smooth.quote h
  | _ => exact smooth_print_of_literal _ h

end Json

/-! ## Counting braces -/

/-- How many braces more open than close. -/
def surplus (cs : List Char) : Int := cs.count '\x7b' - cs.count '\x7d'

@[simp] theorem surplus_nil : surplus [] = 0 := rfl

@[simp] theorem surplus_append (a b : List Char) : surplus (a ++ b) = surplus a + surplus b := by
  simp only [surplus, List.count_append]
  omega

theorem Smooth.surplus {s : String} (h : Smooth s) : surplus s.toList = 0 := by
  have hopen : '\x7b' ∉ s.toList := fun hc => h _ hc (by decide)
  have hclose : '\x7d' ∉ s.toList := fun hc => h _ hc (by decide)
  simp [ApiTypings.surplus, List.count_eq_zero_of_not_mem, hopen, hclose]

/-- The text of a line neither opens a brace nor closes one that it does not close or open itself,
and it is one line. -/
structure Even (s : String) : Prop where
  surplus : surplus s.toList = 0
  lineFeed : '\n' ∉ s.toList

theorem Smooth.even {s : String} (h : Smooth s) : Even s := ⟨h.surplus, h.lineFeed_notMem⟩

theorem Even.append {s t : String} (hs : Even s) (ht : Even t) : Even (s ++ t) := by
  constructor
  · rw [String.toList_append, surplus_append, hs.surplus, ht.surplus, Int.add_zero]
  · simpa using ⟨hs.lineFeed, ht.lineFeed⟩

/-- A pair of braces around an even text keeps it even. -/
theorem Even.braced {s : String} (h : Even s) : Even ("\x7b" ++ s ++ "\x7d") := by
  have hopen : ApiTypings.surplus "\x7b".toList = 1 := by decide
  have hclose : ApiTypings.surplus "\x7d".toList = -1 := by decide
  constructor
  · rw [String.toList_append, String.toList_append, surplus_append, surplus_append, h.surplus,
      hopen, hclose]
    rfl
  · simpa using h.lineFeed

/-- What is written on the lines that are no part of a comment. -/
def codeOf (source : List String) : List Char :=
  ((source.map String.toList).filter (!isCommentLine ·)).flatten

@[simp] theorem codeOf_nil : codeOf [] = [] := rfl

@[simp] theorem codeOf_append (a b : List String) : codeOf (a ++ b) = codeOf a ++ codeOf b := by
  simp [codeOf]

theorem codeOf_singleton (line : String) :
    codeOf [line] = if isCommentLine line.toList then [] else line.toList := by
  unfold codeOf
  cases h : isCommentLine line.toList <;> simp [h]

theorem codeOf_code {line : String} (h : isCommentLine line.toList = false) :
    codeOf [line] = line.toList := by
  rw [codeOf_singleton, h]
  rfl

theorem surplus_codeOf_even {line : String} (h : Even line) : surplus (codeOf [line]) = 0 := by
  rw [codeOf_singleton]
  split
  · rfl
  · exact h.surplus

theorem surplus_codeOf {source : List String} (h : ∀ line ∈ source, surplus (codeOf [line]) = 0) :
    surplus (codeOf source) = 0 := by
  induction source with
  | nil => rfl
  | cons line rest ih =>
    rw [List.forall_mem_cons] at h
    rw [← List.singleton_append, codeOf_append, surplus_append, h.1, ih h.2, Int.add_zero]

/-- What is gathered from lines, nothing from a blank one, is gathered from the members of a block one
by one. -/
theorem gather_joinMembers {α : Type} {gather : List String → List α}
    (happend : ∀ a b, gather (a ++ b) = gather a ++ gather b) (hnil : gather [] = [])
    (hblank : gather [""] = []) (indent : String) (members : List (List String)) :
    gather (joinMembers indent members) =
      members.flatMap fun member => gather (member.map (indent ++ ·)) := by
  have hset : ∀ rest : List (List String), gather (rest.flatMap (setOff indent)) =
      rest.flatMap fun member => gather (member.map (indent ++ ·)) := by
    intro rest
    induction rest with
    | nil => exact hnil
    | cons member rest ih =>
      have hline : gather (if 1 < member.length then [""] else []) = [] := by
        split
        · exact hblank
        · exact hnil
      rw [List.flatMap_cons, List.flatMap_cons, happend, ih, setOff, happend, hline,
        List.nil_append]
  cases members with
  | nil => exact hnil
  | cons first rest => rw [joinMembers, happend, hset, List.flatMap_cons]

/-- Lines that are put together as the members of a block have no surplus if none of the members
has one. -/
theorem surplus_codeOf_joinMembers {indent : String} {members : List (List String)}
    (h : ∀ member ∈ members, surplus (codeOf (member.map (indent ++ ·))) = 0) :
    surplus (codeOf (joinMembers indent members)) = 0 := by
  rw [gather_joinMembers codeOf_append rfl (by rfl)]
  induction members with
  | nil => rfl
  | cons member rest ih =>
    rw [List.forall_mem_cons] at h
    rw [List.flatMap_cons, surplus_append, h.1, ih h.2, Int.add_zero]

theorem isCommentLine_append {blanks cs : List Char} (h : ∀ c ∈ blanks, isBlank c = true) :
    isCommentLine (blanks ++ cs) = isCommentLine cs := by
  unfold isCommentLine trimStart
  rw [List.dropWhile_append_of_pos h]

theorem isCommentLine_of_mem_docLines {description line : String}
    (h : line ∈ docLines description) : isCommentLine line.toList = true := by
  rcases mem_docLines h with rfl | ⟨cs, _, rfl⟩ | rfl
  · decide
  · simp [isCommentLine, trimStart, isBlank, dropStart?]
  · decide

/-- The lines of a comment do not count. -/
theorem codeOf_docLines {indent : String} (h : ∀ c ∈ indent.toList, isBlank c = true)
    (description : String) : codeOf ((docLines description).map (indent ++ ·)) = [] := by
  unfold codeOf
  rw [List.map_map, List.filter_eq_nil_iff.mpr, List.flatten_nil]
  rintro _ hl
  obtain ⟨line, hline, rfl⟩ := List.mem_map.mp hl
  rw [Function.comp_apply, String.toList_append, isCommentLine_append h,
    isCommentLine_of_mem_docLines hline]
  decide

/-! ## Texts that are accepted -/

theorem pieces_unlines {source : List String} (h : ∀ line ∈ source, '\n' ∉ line.toList) :
    pieces '\n' (String.join (source.map (· ++ "\n"))).toList =
      source.map String.toList ++ [[]] := by
  induction source with
  | nil => rfl
  | cons line rest ih =>
    rw [List.forall_mem_cons] at h
    have hfeed : "\n".toList = ['\n'] := rfl
    rw [List.map_cons, String.join_cons, String.toList_append, String.toList_append,
      List.append_assoc, hfeed, List.singleton_append, pieces_eq_splitOn,
      List.splitOn_append_cons_self, List.splitOn_eq_singleton h.1, ← pieces_eq_splitOn, ih h.2]
    rfl

/-- The braces of a text are those on the lines of it that count. -/
theorem countBraces_unlines {source : List String} (h : ∀ line ∈ source, '\n' ∉ line.toList) :
    countBraces (String.join (source.map (· ++ "\n"))).toList =
      ((codeOf source).count '\x7b', (codeOf source).count '\x7d') := by
  unfold countBraces
  rw [pieces_unlines h, List.filter_append, List.flatten_append]
  simp [codeOf, isCommentLine, trimStart, dropStart?]

/-- A text is accepted if the lines of it that count have no surplus. -/
theorem validate_unlines {source : List String} (h : ∀ line ∈ source, '\n' ∉ line.toList)
    (hs : surplus (codeOf source) = 0) :
    validate (String.join (source.map (· ++ "\n"))) = .ok () := by
  unfold validate
  rw [countBraces_unlines h]
  have heq : (codeOf source).count '\x7b' = (codeOf source).count '\x7d' := by
    unfold surplus at hs
    omega
  exact if_pos heq

end ApiTypings
