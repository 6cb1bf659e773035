import Mathlib
import ApiTypings.Module.Rendering
import ApiTypings.Proofs.Interfaces
import ApiTypings.Proofs.KeyTokens

/-!
# Quotations end where they end

Whoever reads a literal looks for the quote that ends it: the first one that no backslash
announces. In a quotation a backslash stands before every character that needs one, so this
quote is the last character, whatever follows, and what is read is what was quoted. So the
names, paths and versions that stand in the source between quotes cannot leave them.
-/

namespace ApiTypings

namespace Text

/-- What stands behind the first quote that no backslash announces. -/
def closing? : List Char → Option (List Char)
  | '"' :: rest => some rest
  | '\\' :: _ :: rest => closing? rest
  | _ :: rest => closing? rest
  | [] => none

/-- What stands behind the literal at the front of a text. -/
def behindLiteral? : List Char → Option (List Char)
  | '"' :: inner => closing? inner
  | _ => none

theorem closing?_cons {c : Char} (hquote : c ≠ '"') (hslash : c ≠ '\\') (rest : List Char) :
    closing? (c :: rest) = closing? rest := by
  rw [closing?.eq_def]
  split
  · rename_i he
    exact absurd (List.cons.inj he).1 hquote
  · rename_i he
    exact absurd (List.cons.inj he).1 hslash
  · rename_i he
    rw [(List.cons.inj he).2]
  · rename_i he
    cases he

theorem hexDigit_ne_backslash (n : Nat) : hexDigit n ≠ '\\' :=
  forall_hexDigit (p := (· ≠ '\\')) (by decide) n

/-- The search goes on behind every character that is written. -/
theorem closing?_encodeChar (c : Char) (rest : List Char) :
    closing? (encodeChar .needed c ++ rest) = closing? rest := by
  rcases encodeChar_needed c with ⟨he, hquote, hslash, _⟩ | ⟨letter, he, _⟩ | ⟨he, _⟩ <;> rw [he]
  · exact closing?_cons hquote hslash rest
  · rfl
  · have hdigit : ∀ n more, closing? (hexDigit n :: more) = closing? more := fun n =>
      closing?_cons (hexDigit_ne_quote n) (hexDigit_ne_backslash n)
    rw [unitEscape, hex4]
    simp only [List.cons_append, List.nil_append, closing?, hdigit]

theorem closing?_encode (cs rest : List Char) :
    closing? (encode .needed cs ++ '"' :: rest) = some rest := by
  induction cs with
  | nil => rfl
  | cons c cs ih =>
    have hcons : encode .needed (c :: cs) = encodeChar .needed c ++ encode .needed cs :=
      List.flatMap_cons
    rw [hcons, List.append_assoc, closing?_encodeChar, ih]

end Text

open Text

/-! ## Literals -/

/-- A quotation on one line. Whatever follows it, whoever looks for its end finds it there. -/
structure LiteralOf (literal text : String) : Prop extends QuotationOf literal text where
  oneLine : ∀ c ∈ literal.toList, 0x20 ≤ c.toNat
  ends : ∀ rest, behindLiteral? (literal.toList ++ rest) = some rest

theorem literalOf_quote (text : String) : LiteralOf (quote text) text where
  toQuotationOf := quotationOf_quote text
  oneLine := fun _ h => le_of_mem_quote h
  ends := fun rest => by
    rw [toList_quote, List.append_assoc, List.cons_append]
    exact closing?_encode text.toList rest

theorem LiteralOf.text_eq {literal a b : String} (ha : LiteralOf literal a)
    (hb : LiteralOf literal b) : a = b :=
  Json.string.inj (Except.ok.inj (ha.read.symm.trans hb.read))

/-- In front of the line of a field stands its name, as it is or as a literal. -/
theorem fieldKey_literal (name : String) :
    (isBare name = true ∧ fieldKey name = name) ∨ LiteralOf (fieldKey name) name := by
  unfold fieldKey
  split
  · rename_i hbare
    exact .inl ⟨hbare, rfl⟩
  · exact .inr (literalOf_quote name)

theorem importLine_literal (specifier : String) (names : List String) :
    ∃ literal, LiteralOf literal specifier ∧
      importLine specifier names = "import \x7b" ++ join ", " names ++ "\x7d from " ++ literal :=
  ⟨_, literalOf_quote specifier, rfl⟩

/-- The text that a property of an object holds that is served in this way. -/
inductive GroupVersionKind.Holds (one : GroupVersionKind) : String → String → Prop
  | version : one.Holds "apiVersion" one.fullVersion
  | kind {kind : String} (h : one.kind = .string kind) : one.Holds "kind" kind

theorem literalType_literal {served : List GroupVersionKind} {property literal : String}
    (h : literalType served property = .ok (some literal)) :
    ∃ one, served = [one] ∧ ∀ text, one.Holds property text → LiteralOf literal text := by
  unfold literalType at h
  split at h
  · rename_i one
    refine ⟨one, rfl, ?_⟩
    rintro _ (_ | hkind)
    · obtain ⟨texts, htexts, h⟩ := bind_ok h
      obtain rfl : quote (join "/" texts) = literal := Option.some.inj (Except.ok.inj h)
      rw [join_givenTexts htexts]
      exact literalOf_quote _
    · obtain rfl : one.kind.print .needed = literal := Option.some.inj (Except.ok.inj h)
      rw [hkind]
      exact literalOf_quote _
  · cases h

/-- What is quoted is a literal for the text and for no other, and so is whatever stands between
quotes in the source: the name of a field that is not written as it is, the specifier of a module,
and the version and the kind of an object that is served in one way. -/
theorem quote_faithful :
    (∀ text, LiteralOf (quote text) text) ∧ Function.Injective quote ∧
    (∀ field : Field String,
      ((isBare field.name = true ∧ fieldKey field.name = field.name) ∨
        LiteralOf (fieldKey field.name) field.name) ∧
      field.line.toList =
        (fieldKey field.name).toList ++ (Field.mark field.optional ++ field.type.toList)) ∧
    (∀ specifier names, ∃ literal, LiteralOf literal specifier ∧
      importLine specifier names =
        "import \x7b" ++ join ", " names ++ "\x7d from " ++ literal) ∧
    ∀ served property literal, literalType served property = .ok (some literal) →
      ∃ one, served = [one] ∧ ∀ text, one.Holds property text → LiteralOf literal text :=
  ⟨literalOf_quote,
    fun a b h => (literalOf_quote a).text_eq (h ▸ literalOf_quote b),
    fun field => ⟨fieldKey_literal field.name, field.toList_line⟩,
    importLine_literal, fun _ _ _ => literalType_literal⟩

/-- A kind in which a quote stands behind a backslash, with a control character and a line feed. -/
def brokenKind : GroupVersionKind := ⟨.string "batch", .null, .string "a\\\"\x01\né"⟩

theorem quote_faithful_of_brokenKind :
    literalType [brokenKind] "apiVersion" = .ok (some "\"batch\"") ∧
      LiteralOf "\"batch\"" "batch" ∧
      literalType [brokenKind] "kind" = .ok (some "\"a\\\\\\\"\\u0001\\né\"") ∧
      LiteralOf "\"a\\\\\\\"\\u0001\\né\"" "a\\\"\x01\né" := by
  have hversion : literalType [brokenKind] "apiVersion" = .ok (some "\"batch\"") := by cbv
  have hkind : literalType [brokenKind] "kind" =
      .ok (some "\"a\\\\\\\"\\u0001\\né\"") := by cbv
  obtain ⟨one, hone, hheld⟩ := quote_faithful.2.2.2.2 _ _ _ hversion
  obtain ⟨other, hother, hheld'⟩ := quote_faithful.2.2.2.2 _ _ _ hkind
  obtain rfl := List.singleton_inj.mp hone
  obtain rfl := List.singleton_inj.mp hother
  exact ⟨hversion, hheld _ .version, hkind, hheld' _ (.kind rfl)⟩

end ApiTypings
