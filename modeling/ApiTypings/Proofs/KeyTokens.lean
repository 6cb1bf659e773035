import ApiTypings.Proofs.FieldKeys
import ApiTypings.Proofs.Literals

/-!
# What the line of a field says

In front of the colon stands a token for the name of the field: the name itself where it is an
identifier, and its quotation otherwise. There is one exception. A name that is an identifier
with a line feed behind it passes for an identifier, so it is written as it is and breaks
its line in two.
-/

namespace ApiTypings

open Text

/-- An identifier with a line feed behind it. -/
def FeedBehind (name : String) : Prop := ∃ word, Identifier word ∧ name = word ++ "\n"

theorem FeedBehind.lineFeed_mem {name : String} (h : FeedBehind name) : '\n' ∈ name.toList := by
  obtain ⟨word, _, rfl⟩ := h
  simp

theorem Identifier.not_feedBehind {name : String} (h : Identifier name) : ¬ FeedBehind name :=
  fun hf => h.notMem (by decide) hf.lineFeed_mem

/-- What is written as it is. -/
theorem isBare_iff {name : String} : isBare name = true ↔ Identifier name ∨ FeedBehind name := by
  constructor
  · intro h
    by_cases hline : '\n' ∈ name.toList
    · unfold isBare at h
      split at h
      · cases h
      · rename_i c rest hname
        rw [Bool.and_eq_true, Bool.or_eq_true, Bool.and_eq_true, beq_iff_eq, List.all_eq_true,
          List.all_eq_true] at h
        rcases h with ⟨hc, hrest | ⟨hlast, hrest⟩⟩
        · exact .inl ⟨c, rest, hname, hc, hrest⟩
        · refine .inr ⟨String.ofList (c :: rest.dropLast),
            ⟨c, rest.dropLast, String.toList_ofList, hc, hrest⟩, String.toList_injective ?_⟩
          obtain ⟨front, hfront⟩ := List.getLast?_eq_some_iff.mp hlast
          rw [hname, hfront]
          simp
    · exact .inl (identifier_of_isBare h hline)
  · rintro (⟨c, rest, hname, hc, hrest⟩ | ⟨word, ⟨c, rest, hword, hc, hrest⟩, rfl⟩)
    · unfold isBare
      rw [hname]
      simp [hc, List.all_eq_true.mpr hrest]
    · have hname : (word ++ "\n").toList = c :: (rest ++ ['\n']) := by
        rw [String.toList_append, hword]
        rfl
      unfold isBare
      rw [hname]
      simp [hc, List.all_eq_true.mpr hrest]

/-- The key of a field: its name, with the line feed it may end in, or a quotation. -/
theorem fieldKey_cases (name : String) :
    (Identifier name ∧ fieldKey name = name) ∨ (FeedBehind name ∧ fieldKey name = name) ∨
      (¬ FeedBehind name ∧ fieldKey name = quote name) := by
  unfold fieldKey
  by_cases h : isBare name = true
  · rw [if_pos h]
    rcases isBare_iff.mp h with hname | hname
    · exact .inl ⟨hname, rfl⟩
    · exact .inr (.inl ⟨hname, rfl⟩)
  · rw [if_neg h]
    exact .inr (.inr ⟨fun hf => h (isBare_iff.mpr (.inr hf)), rfl⟩)

/-! ## Tokens -/

/-- A text between quotes that is read as JSON for the other. -/
structure QuotationOf (literal text : String) : Prop where
  opens : literal.toList.head? = some '"'
  closes : literal.toList.getLast? = some '"'
  read : Json.parse literal = .ok (.string text)

theorem quotationOf_quote (text : String) : QuotationOf (quote text) text where
  opens := by rw [toList_quote, List.cons_append, List.head?_cons]
  closes := by rw [toList_quote, List.getLast?_concat]
  read := Json.parse_quote text

/-- The token stands for the name: it is the name, an identifier, or a quotation of the name. -/
def KeyToken (key name : String) : Prop := (Identifier key ∧ key = name) ∨ QuotationOf key name

theorem fieldKey_token_iff (name : String) : KeyToken (fieldKey name) name ↔ ¬ FeedBehind name := by
  rcases fieldKey_cases name with ⟨hname, he⟩ | ⟨hname, he⟩ | ⟨hname, he⟩ <;> rw [he]
  · exact iff_of_true (.inl ⟨hname, rfl⟩) hname.not_feedBehind
  · refine iff_of_false ?_ (not_not_intro hname)
    rintro (⟨hidentifier, _⟩ | hquotation)
    · exact hidentifier.not_feedBehind hname
    · -- what begins like an identifier is no quotation
      obtain ⟨word, ⟨c, rest, hword, hc, _⟩, rfl⟩ := hname
      have hopens := hquotation.opens
      rw [String.toList_append, hword, List.cons_append, List.head?_cons] at hopens
      rw [Option.some.inj hopens] at hc
      exact absurd hc (by decide)
  · exact iff_of_true (.inr (quotationOf_quote name)) hname

theorem lineFeed_mem_fieldKey_iff (name : String) :
    '\n' ∈ (fieldKey name).toList ↔ FeedBehind name := by
  rcases fieldKey_cases name with ⟨hname, he⟩ | ⟨hname, he⟩ | ⟨hname, he⟩ <;> rw [he]
  · exact iff_of_false (hname.notMem (by decide)) hname.not_feedBehind
  · exact iff_of_true hname.lineFeed_mem hname
  · exact iff_of_false (lineFeed_notMem_quote name) hname

/-- No identifier ends in a question mark. -/
theorem Identifier.getLast?_ne {name : String} (h : Identifier name) :
    name.toList.getLast? ≠ some '?' :=
  fun he => h.notMem (by decide) (List.mem_of_getLast? he)

theorem KeyToken.getLast?_ne {key name : String} (h : KeyToken key name) :
    key.toList.getLast? ≠ some '?' := by
  rcases h with ⟨hkey, _⟩ | hquotation
  · exact hkey.getLast?_ne
  · rw [hquotation.closes]
    decide

theorem getLast?_fieldKey_ne (name : String) : (fieldKey name).toList.getLast? ≠ some '?' := by
  rcases fieldKey_cases name with ⟨hname, he⟩ | ⟨⟨word, _, hname⟩, he⟩ | ⟨_, he⟩ <;> rw [he]
  · exact hname.getLast?_ne
  · rw [hname, String.toList_append]
    simp
  · exact KeyToken.getLast?_ne (.inr (quotationOf_quote name))

/-- The line is a token for the name, the mark of a member that may be missing or the other one,
and the type. -/
def Keyed (name type : String) (optional : Bool) (line : String) : Prop :=
  ∃ key, KeyToken key name ∧
    line.toList = key.toList ++ (Field.mark optional ++ type.toList)

namespace Field

/-- What ends in no question mark is told from the mark behind it. -/
theorem mark_cancel {a b : List Char} {p q : Bool} (ha : a.getLast? ≠ some '?')
    (hb : b.getLast? ≠ some '?') (h : a ++ mark p = b ++ mark q) : a = b ∧ p = q := by
  have hdiffer : ∀ {a b : List Char}, a.getLast? ≠ some '?' → a ++ mark false ≠ b ++ mark true := by
    intro a b ha he
    have hsplit : a ++ mark false = (b ++ ['?']) ++ mark false := by simpa [mark] using he
    rw [List.append_cancel_right hsplit, List.getLast?_concat] at ha
    exact ha rfl
  cases p <;> cases q
  · exact ⟨List.append_cancel_right h, rfl⟩
  · exact absurd h (hdiffer ha)
  · exact absurd h.symm (hdiffer hb)
  · exact ⟨List.append_cancel_right h, rfl⟩

theorem keyed_iff (field : Field String) (optional : Bool) :
    Keyed field.name field.type optional field.line ↔
      optional = field.optional ∧ ¬ FeedBehind field.name := by
  constructor
  · rintro ⟨key, hkey, he⟩
    rw [toList_line, ← List.append_assoc, ← List.append_assoc] at he
    obtain ⟨hname, hoptional⟩ := mark_cancel (getLast?_fieldKey_ne _) hkey.getLast?_ne
      (List.append_cancel_right he)
    rw [← String.toList_injective hname] at hkey
    exact ⟨hoptional.symm, (fieldKey_token_iff _).mp hkey⟩
  · rintro ⟨rfl, hname⟩
    exact ⟨_, (fieldKey_token_iff _).mpr hname, toList_line field⟩

theorem lineFeed_mem_line_iff {field : Field String} (h : '\n' ∉ field.type.toList) :
    '\n' ∈ field.line.toList ↔ FeedBehind field.name := by
  have hmark : '\n' ∉ mark field.optional := by cases field.optional <;> decide
  rw [toList_line, List.mem_append, List.mem_append, or_iff_left (not_or.mpr ⟨hmark, h⟩),
    lineFeed_mem_fieldKey_iff]

/-- The last line of a field is a token for its name, the mark that says whether it may be missing,
and its type, and it stands on one line, exactly if the name is no identifier with a line feed
behind it. -/
theorem key_denotes_iff {field : Field Json} {description type : String}
    (hd : settleDescription field.description = .ok description)
    (ht : field.type = .string type) (hline : '\n' ∉ type.toList) :
    ∃ lines last, (Declaration.field field).render = .ok lines ∧ lines.getLast? = some last ∧
      (∀ optional, Keyed field.name type optional last ↔
        optional = field.optional ∧ ¬ FeedBehind field.name) ∧
      ('\n' ∉ last.toList ↔ ¬ FeedBehind field.name) := by
  have hsettle : field.settle = .ok ⟨field.name, description, type, field.optional⟩ := by
    unfold Field.settle
    rw [hd, ht]
    rfl
  refine ⟨docLines description ++ [line ⟨field.name, description, type, field.optional⟩], _, ?_,
    List.getLast?_concat, keyed_iff ⟨field.name, description, type, field.optional⟩, ?_⟩
  · rw [Declaration.render, Declaration.settle, hsettle]
    rfl
  · exact not_congr (lineFeed_mem_line_iff hline)

/-- A name that begins like an identifier. -/
def hyphenField : Field Json := ⟨"x-\ny\"", .string "Both.", .string "Array<string>", true⟩

theorem key_denotes_of_hyphen :
    settleDescription hyphenField.description = .ok "Both." ∧
      hyphenField.type = .string "Array<string>" ∧ '\n' ∉ "Array<string>".toList ∧
      ∃ lines last, (Declaration.field hyphenField).render = .ok lines ∧
        lines.getLast? = some last ∧
        Keyed hyphenField.name "Array<string>" true last ∧ '\n' ∉ last.toList := by
  have hd : settleDescription hyphenField.description = .ok "Both." := rfl
  have hname : ¬ FeedBehind hyphenField.name := by
    rw [← fieldKey_token_iff]
    exact .inr ⟨by decide, by decide, by decide⟩
  have hline : '\n' ∉ "Array<string>".toList := by decide
  obtain ⟨lines, last, hlines, hlast, hkeyed, hfeed⟩ := key_denotes_iff hd rfl hline
  exact ⟨hd, rfl, hline, lines, last, hlines, hlast, (hkeyed true).mpr ⟨rfl, hname⟩,
    hfeed.mpr hname⟩

def brokenField : Field Json := ⟨"a\n", .null, .string "string", true⟩

/-- A name with a line feed behind it breaks the line of its field. -/
theorem key_breaks_line :
    (Declaration.field brokenField).render = .ok ["a\n?: string"] ∧
      (∀ optional, ¬ Keyed brokenField.name "string" optional "a\n?: string") ∧
      '\n' ∈ "a\n?: string".toList := by
  have hname : FeedBehind brokenField.name := ⟨"a", by decide, rfl⟩
  have hline : line ⟨"a\n", "", "string", true⟩ = "a\n?: string" := by decide
  have hrender : (Declaration.field brokenField).render = .ok [line ⟨"a\n", "", "string", true⟩] :=
    rfl
  rw [← hline]
  refine ⟨hrender, fun optional h => ?_, by decide⟩
  exact ((keyed_iff ⟨"a\n", "", "string", true⟩ optional).mp h).2 hname

end Field

end ApiTypings
