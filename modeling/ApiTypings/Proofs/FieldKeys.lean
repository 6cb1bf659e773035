import ApiTypings.Module.Declaration
import ApiTypings.Proofs.Quoting

/-!
# Names in the source

An identifier ends where the first character stands that is none of its own, and a key
that is no identifier is a quotation. So a key is read off the front of its line, and the
line of a field tells the field.
-/

namespace ApiTypings

open Text

/-- Letters, digits and underscores of ASCII, no digit first. -/
def Identifier (name : String) : Prop :=
  ∃ c rest, name.toList = c :: rest ∧ isNameStart c = true ∧ ∀ x ∈ rest, isNameChar x = true

/-- Whether the text is an identifier. -/
def isIdentifier (name : String) : Bool :=
  match name.toList with
  | [] => false
  | c :: rest => isNameStart c && rest.all isNameChar

theorem isIdentifier_iff {name : String} : isIdentifier name = true ↔ Identifier name := by
  unfold isIdentifier Identifier
  cases name.toList with
  | nil => simp
  | cons c rest =>
    rw [Bool.and_eq_true, List.all_eq_true]
    constructor
    · exact fun h => ⟨c, rest, rfl, h⟩
    · rintro ⟨_, _, ⟨⟩, h⟩
      exact h

instance (name : String) : Decidable (Identifier name) := decidable_of_iff _ isIdentifier_iff

theorem isNameChar_of_isNameStart {c : Char} (h : isNameStart c = true) : isNameChar c = true := by
  unfold isNameStart at h
  unfold isNameChar Char.isAlphanum
  rcases Bool.or_eq_true _ _ ▸ h with h | h <;> simp [h]

theorem Identifier.chars {name : String} (h : Identifier name) {c : Char}
    (hc : c ∈ name.toList) : isNameChar c = true := by
  obtain ⟨first, rest, hname, hfirst, hrest⟩ := h
  rw [hname] at hc
  rcases List.mem_cons.mp hc with rfl | hc
  · exact isNameChar_of_isNameStart hfirst
  · exact hrest c hc

/-- A character that no identifier has. -/
theorem Identifier.notMem {name : String} (h : Identifier name) {c : Char}
    (hc : isNameChar c = false) : c ∉ name.toList :=
  fun hm => Bool.false_ne_true (hc.symm.trans (h.chars hm))

/-- An identifier is read off the front of a text that goes on with another character. -/
theorem Identifier.cancel {a b : String} (ha : Identifier a) (hb : Identifier b) {r s : List Char}
    (hr : ∀ c ∈ r.head?, isNameChar c = false)
    (hs : ∀ c ∈ s.head?, isNameChar c = false)
    (h : a.toList ++ r = b.toList ++ s) : a = b ∧ r = s := by
  obtain ⟨hab, hrs⟩ := span_cancel (fun _ => ha.chars) (fun _ => hb.chars) hr hs h
  exact ⟨String.toList_injective hab, hrs⟩

/-- A name on one line is written as it is if it is an identifier. -/
theorem identifier_of_isBare {name : String} (h : isBare name = true) (hline : '\n' ∉ name.toList) :
    Identifier name := by
  unfold isBare at h
  split at h
  · cases h
  · rename_i c rest hname
    rw [hname, List.mem_cons, not_or] at hline
    have hlast : (rest.getLast? == some '\n') = false := by
      rw [beq_eq_false_iff_ne]
      exact fun he => hline.2 (List.mem_of_getLast? he)
    rw [hlast, Bool.false_and, Bool.or_false, Bool.and_eq_true, List.all_eq_true] at h
    exact ⟨c, rest, hname, h.1, h.2⟩

/-! ## Keys -/

/-- A quotation is no identifier. -/
theorem Identifier.ne_quote {a b : String} (ha : Identifier a) (r s : List Char) :
    a.toList ++ r ≠ (quote b).toList ++ s := by
  obtain ⟨c, rest, hname, hc, _⟩ := ha
  rw [hname, toList_quote]
  intro h
  obtain rfl : c = '"' := by simpa using congrArg List.head? h
  exact absurd hc (by decide)

/-- A key is read off the front of a text that goes on with what is in no identifier. -/
theorem fieldKey_cancel {a b : String} (ha : '\n' ∉ a.toList) (hb : '\n' ∉ b.toList)
    {r s : List Char} (hr : ∀ c ∈ r.head?, isNameChar c = false)
    (hs : ∀ c ∈ s.head?, isNameChar c = false)
    (h : (fieldKey a).toList ++ r = (fieldKey b).toList ++ s) : a = b ∧ r = s := by
  unfold fieldKey at h
  by_cases hba : isBare a = true <;> by_cases hbb : isBare b = true
  · rw [if_pos hba, if_pos hbb] at h
    exact (identifier_of_isBare hba ha).cancel (identifier_of_isBare hbb hb) hr hs h
  · rw [if_pos hba, if_neg hbb] at h
    exact absurd h ((identifier_of_isBare hba ha).ne_quote r s)
  · rw [if_neg hba, if_pos hbb] at h
    exact absurd h.symm ((identifier_of_isBare hbb hb).ne_quote s r)
  · rw [if_neg hba, if_neg hbb] at h
    exact quote_cancel h

theorem head_fieldKey (name : String) :
    ∃ c rest, (fieldKey name).toList = c :: rest ∧ (isNameStart c = true ∨ c = '"') := by
  unfold fieldKey
  split
  · rename_i h
    unfold isBare at h
    split at h
    · cases h
    · rename_i c rest hname
      exact ⟨c, rest, hname, .inl (Bool.and_eq_true _ _ ▸ h).1⟩
  · exact ⟨'"', _, by rw [toList_quote, List.cons_append], .inr rfl⟩

theorem lineFeed_notMem_fieldKey {name : String} (h : '\n' ∉ name.toList) :
    '\n' ∉ (fieldKey name).toList := by
  unfold fieldKey
  split
  · exact h
  · exact lineFeed_notMem_quote name

namespace Field

/-- The line of a field behind its comment. -/
def line (field : Field String) : String :=
  fieldKey field.name ++ (if field.optional then "?" else "") ++ ": " ++ field.type

theorem lines_eq (field : Field String) :
    field.lines = docLines field.description ++ [field.line] := rfl

/-- What stands between the key and the type. -/
def mark (optional : Bool) : List Char := if optional then ['?', ':', ' '] else [':', ' ']

theorem toList_line (field : Field String) : field.line.toList =
    (fieldKey field.name).toList ++ (mark field.optional ++ field.type.toList) := by
  unfold line mark
  cases field.optional <;> simp

/-- The line of a field tells its name, its type and whether it may be missing. -/
theorem line_inj {f g : Field String} (hf : '\n' ∉ f.name.toList) (hg : '\n' ∉ g.name.toList)
    (h : f.line = g.line) : f.name = g.name ∧ f.type = g.type ∧ f.optional = g.optional := by
  have hmark : ∀ (optional : Bool) (type : List Char),
      ∀ c ∈ (mark optional ++ type).head?, isNameChar c = false := by
    rintro (_ | _) type c hc <;> cases hc <;> decide
  have hl := congrArg String.toList h
  rw [toList_line, toList_line] at hl
  obtain ⟨hname, hrest⟩ := fieldKey_cancel hf hg (hmark _ _) (hmark _ _) hl
  refine ⟨hname, ?_⟩
  cases ho : f.optional <;> cases ho' : g.optional <;> rw [ho, ho'] at hrest
  · exact ⟨String.toList_injective (List.append_cancel_left hrest), rfl⟩
  · simp [mark] at hrest
  · simp [mark] at hrest
  · exact ⟨String.toList_injective (List.append_cancel_left hrest), rfl⟩

/-- The line of a field is not how a comment begins. -/
theorem line_ne (field : Field String) : field.line ≠ "/**" := by
  intro h
  have hl := congrArg String.toList h
  obtain ⟨c, rest, hkey, hc⟩ := head_fieldKey field.name
  rw [toList_line, hkey] at hl
  obtain rfl : c = '/' := (List.cons.inj hl).1
  revert hc
  decide

theorem lineFeed_notMem_line {field : Field String} (hname : '\n' ∉ field.name.toList)
    (htype : '\n' ∉ field.type.toList) : '\n' ∉ field.line.toList := by
  rw [toList_line]
  have hkey := lineFeed_notMem_fieldKey hname
  cases ho : field.optional <;> simp [hkey, htype, mark]

end Field

end ApiTypings
