import ApiTypings.Json.Reader
import ApiTypings.Proofs.Quoting

/-!
# Quotations are read back

The reader of JSON takes one written character off the front of a text at a time: what stands
for itself, a letter behind a backslash, or the number of a control character. So a quotation
is read as what was quoted, and reading stops behind its closing quote.
-/

namespace ApiTypings

namespace Text

theorem hexValue?_hexDigit (n : Nat) : hexValue? (hexDigit n) = some (n % 16) := by
  have hall : ∀ m : Fin 16, hexValue? (Nat.digitChar m) = some m.val := by decide
  exact hall ⟨n % 16, Nat.mod_lt n (by decide)⟩

/-- Four digits are read back as the unit they were written for. -/
theorem unit16?_hex4 {n : Nat} (h : n < 0x10000) (rest : List Char) :
    unit16? (hex4 n ++ rest) = some (n, rest) := by
  have hvalue :
      4096 * (n / 4096 % 16) + 256 * (n / 256 % 16) + 16 * (n / 16 % 16) + n % 16 = n := by omega
  simp [hex4, unit16?, hexValue?_hexDigit, hvalue]

theorem isHighSurrogate_of_lt {n : Nat} (h : n < 0xD800) : isHighSurrogate n = false := by
  simp [isHighSurrogate, h]

theorem unitChar_toNat (c : Char) (h : c.toNat < 0xD800) : unitChar c.toNat = c := by
  have hlow : isLowSurrogate c.toNat = false := by
    simp only [isLowSurrogate, Bool.and_eq_false_iff, decide_eq_false_iff_not]
    omega
  rw [unitChar, isHighSurrogate_of_lt h, hlow]
  exact Char.ofNat_toNat c

end Text

namespace Json

open Text

/-- The reader takes a written character off the front of the text. -/
theorem readText_encodeChar (opening fuel : Nat) (acc rest : List Char) (c : Char)
    (hrest : rest ≠ []) :
    readText opening (fuel + 1) acc (encodeChar .needed c ++ rest) =
      readText opening fuel (c :: acc) rest := by
  rcases encodeChar_needed c with ⟨he, hquote, hslash, hc⟩ | ⟨letter, he, hl⟩ | ⟨he, hc⟩ <;> rw [he]
  · have hcontrol : ¬ c.toNat < 0x20 := Nat.not_lt.mpr hc
    simp [readText, hslash, hcontrol]
  · have hu : letter ≠ 'u' := by
      rintro rfl
      simp [shortEscape?_u] at hl
    simp [readText, hl]
  · have hunit := unit16?_hex4 (n := c.toNat) (by omega) rest
    have hhigh := isHighSurrogate_of_lt (n := c.toNat) (by omega)
    have hchar := unitChar_toNat c (by omega)
    rw [unitEscape, List.cons_append, List.cons_append, readText, hunit]
    split
    · cases ‹_ = none›
    · rename_i h
      exact absurd (Prod.ext_iff.mp (Option.some.inj h)).2 hrest
    · rename_i h
      obtain ⟨rfl, rfl⟩ := Prod.mk.inj (Option.some.inj h)
      simp [hhigh, hchar]
    · rename_i h
      obtain ⟨rfl, rfl⟩ := Prod.mk.inj (Option.some.inj h)
      rw [hchar]

/-- The body of a quotation is read up to the quote that ends it. -/
theorem readText_encode (opening : Nat) (cs acc rest : List Char) {fuel : Nat}
    (h : cs.length < fuel) :
    readText opening fuel acc (encode .needed cs ++ '"' :: rest) =
      .ok (String.ofList (acc.reverse ++ cs), rest) := by
  induction cs generalizing acc fuel with
  | nil =>
    obtain ⟨fuel, rfl⟩ := Nat.exists_eq_add_one_of_ne_zero (Nat.ne_zero_of_lt h)
    simp [encode, readText]
  | cons c cs ih =>
    obtain ⟨fuel, rfl⟩ := Nat.exists_eq_add_one_of_ne_zero (Nat.ne_zero_of_lt h)
    have hstep := readText_encodeChar opening fuel acc (encode .needed cs ++ '"' :: rest) c
      (by simp)
    have hcons : encode .needed (c :: cs) = encodeChar .needed c ++ encode .needed cs :=
      List.flatMap_cons
    rw [hcons, List.append_assoc, hstep, ih (c :: acc) (Nat.lt_of_succ_lt_succ h)]
    simp

theorem length_le_encode (cs : List Char) : cs.length ≤ (encode .needed cs).length := by
  induction cs with
  | nil => simp
  | cons c cs ih =>
    obtain ⟨first, more, hwrite, _⟩ := encodeChar_code.head c trivial
    simp only [encode, List.flatMap_cons, List.length_append, List.length_cons, hwrite] at ih ⊢
    omega

/-! ## Quotations -/

/-- A quotation is JSON for the text that is quoted. -/
theorem parse_quote (s : String) : parse (quote s) = .ok (.string s) := by
  have hfuel : s.toList.length < (encode .needed s.toList ++ ['"']).length + 1 := by
    have hlength := length_le_encode s.toList
    rw [List.length_append]
    omega
  have hbody := readText_encode ((encode .needed s.toList ++ ['"']).length + 1) s.toList [] [] hfuel
  rw [List.reverse_nil, List.nil_append, String.ofList_toList] at hbody
  have hvalue : readValue (2 * (quote s).toList.length + 2) (skip (quote s).toList) =
      .ok (.string s, []) := by
    have hopen : skip (quote s).toList = '"' :: (encode .needed s.toList ++ ['"']) := by
      rw [toList_quote]
      rfl
    rw [hopen, readValue, hbody]
  unfold parse parseChars
  split
  · rename_i h
    rw [toList_quote, List.cons_append] at h
    exact absurd (List.cons.inj h).1 (by decide)
  · rw [hvalue]
    rfl

end Json

end ApiTypings
