import ApiTypings.Proofs.Codes
import ApiTypings.Text.Quoted
import Mathlib.Data.List.Chain
import Mathlib.Data.String.Basic

/-!
# Quoted text is told from its quotation

The characters of a quoted text are read off its front one by one, and none of them is
written with a quote in front, so the closing quote ends the text. What is quoted stands
on one line.
-/

namespace ApiTypings.Text

/-- How a character is written where only the necessary is escaped: as it is, by a letter that
stands for it, or by its number. -/
theorem encodeChar_needed (c : Char) :
    (encodeChar .needed c = [c] ∧ c ≠ '"' ∧ c ≠ '\\' ∧ 0x20 ≤ c.toNat) ∨
    (∃ letter, encodeChar .needed c = ['\\', letter] ∧ shortEscape? letter = some c) ∨
    (encodeChar .needed c = unitEscape c.toNat ∧ c.toNat < 0x20) := by
  by_cases hc : c ∈ ['"', '\\', '\n', '\r', '\t', '\x08', '\x0c']
  · simp only [List.mem_cons, List.not_mem_nil, or_false] at hc
    rcases hc with rfl | rfl | rfl | rfl | rfl | rfl | rfl <;> exact .inr (.inl ⟨_, rfl, rfl⟩)
  · simp only [List.mem_cons, List.not_mem_nil, or_false, not_or] at hc
    obtain ⟨hquote, hslash, hfeed, hreturn, htab, hback, hform⟩ := hc
    unfold encodeChar
    rw [if_neg hquote, if_neg hslash, if_neg hfeed, if_neg hreturn, if_neg htab, if_neg hback,
      if_neg hform]
    by_cases hn : c.toNat < 0x20
    · rw [if_pos hn]
      exact .inr (.inr ⟨rfl, hn⟩)
    · rw [if_neg hn]
      exact .inl ⟨rfl, hquote, hslash, Nat.le_of_not_lt hn⟩

/-- A control character is told by the digits of its number. -/
theorem hex4_inj {m n : Nat} (hm : m < 0x20) (hn : n < 0x20) (h : hex4 m = hex4 n) : m = n := by
  have hall : ∀ a b : Fin 0x20, hex4 a = hex4 b → a = b := by decide
  exact congrArg Fin.val (hall ⟨m, hm⟩ ⟨n, hn⟩ h)

/-- The letter before a number stands for no character. -/
theorem shortEscape?_u : shortEscape? 'u' = none := by decide

theorem encodeChar_code :
    Code (encodeChar .needed) (fun _ => True) (· ≠ '"') Eq := by
  constructor
  · intro c _
    rcases encodeChar_needed c with ⟨h, hquote, _⟩ | ⟨letter, h, _⟩ | ⟨h, _⟩
    · exact ⟨c, [], h, hquote⟩
    · exact ⟨_, _, h, by decide⟩
    · exact ⟨_, _, h, by decide⟩
  · intro c d r s _ _ h
    rcases encodeChar_needed c with ⟨hc, _, hcs, _⟩ | ⟨x, hc, hx⟩ | ⟨hc, hcn⟩ <;>
      rcases encodeChar_needed d with ⟨hd, _, hds, _⟩ | ⟨y, hd, hy⟩ | ⟨hd, hdn⟩ <;>
      rw [hc, hd] at h
    · simpa using h
    · simp [hcs] at h
    · simp [unitEscape, hcs] at h
    · simp [hds.symm] at h
    · obtain ⟨rfl, rfl⟩ : x = y ∧ r = s := by simpa using h
      exact ⟨Option.some.inj (hx.symm.trans hy), rfl⟩
    · obtain ⟨rfl, _⟩ : x = 'u' ∧ _ := by simpa [unitEscape] using h
      simp [shortEscape?_u] at hx
    · simp [unitEscape, hds.symm] at h
    · obtain ⟨rfl, _⟩ : 'u' = y ∧ _ := by simpa [unitEscape] using h
      simp [shortEscape?_u] at hy
    · have hdigits : hex4 c.toNat = hex4 d.toNat ∧ r = s :=
        List.append_inj (by simpa [unitEscape] using h) rfl
      exact ⟨Char.toNat_inj.mp (hex4_inj hcn hdn hdigits.1), hdigits.2⟩

theorem le_of_shortEscape? {letter c : Char} (h : shortEscape? letter = some c) :
    0x20 ≤ letter.toNat := by
  unfold shortEscape? at h
  split_ifs at h <;> subst letter <;> decide

/-- What holds of the sixteen digits holds of each that is written. -/
theorem forall_hexDigit {p : Char → Prop} (h : ∀ m : Fin 16, p (Nat.digitChar m)) (n : Nat) :
    p (hexDigit n) := h ⟨n % 16, Nat.mod_lt n (by decide)⟩

theorem le_hexDigit (n : Nat) : 0x20 ≤ (hexDigit n).toNat :=
  forall_hexDigit (p := fun c => 0x20 ≤ c.toNat) (by decide) n

/-- No character is written with a control character in it. -/
theorem le_of_mem_encodeChar {c x : Char} (h : x ∈ encodeChar .needed c) : 0x20 ≤ x.toNat := by
  rcases encodeChar_needed c with ⟨he, _, _, hc⟩ | ⟨letter, he, hl⟩ | ⟨he, _⟩ <;> rw [he] at h
  · rw [List.mem_singleton.mp h]
    exact hc
  · rcases List.mem_pair.mp h with rfl | rfl
    · decide
    · exact le_of_shortEscape? hl
  · simp only [unitEscape, hex4, List.mem_cons, List.not_mem_nil, or_false] at h
    rcases h with rfl | rfl | rfl | rfl | rfl | rfl
    · decide
    · decide
    all_goals exact le_hexDigit _

/-! ## A text -/

theorem toList_quote (s : String) : (quote s).toList = '"' :: encode .needed s.toList ++ ['"'] := by
  simp [quote, quoteWith]

/-- A quotation is read off the front of any text. -/
theorem quote_cancel {a b : String} {r s : List Char}
    (h : (quote a).toList ++ r = (quote b).toList ++ s) : a = b ∧ r = s := by
  simp only [toList_quote, List.cons_append, List.append_assoc, List.nil_append, List.cons.injEq,
    true_and] at h
  obtain ⟨hab, hrs⟩ := encodeChar_code.flatMap_cancel (fun _ _ => trivial) (fun _ _ => trivial)
    (by simp) (by simp) h
  exact ⟨String.toList_injective (List.forall₂_eq_eq_eq ▸ hab), (List.cons.inj hrs).2⟩

theorem quote_injective {a b : String} (h : quote a = quote b) : a = b :=
  (quote_cancel (r := []) (s := []) (by rw [h])).1

/-- There is no control character in a quotation. -/
theorem le_of_mem_quote {s : String} {x : Char} (h : x ∈ (quote s).toList) : 0x20 ≤ x.toNat := by
  simp only [toList_quote, encode, List.cons_append, List.mem_cons, List.mem_append,
    List.mem_flatMap, List.not_mem_nil, or_false] at h
  rcases h with rfl | ⟨c, _, hx⟩ | rfl
  · decide
  · exact le_of_mem_encodeChar hx
  · decide

theorem lineFeed_notMem_quote (s : String) : '\n' ∉ (quote s).toList :=
  fun h => absurd (le_of_mem_quote h) (by decide)

/-- A quote that is no first one is written behind a backslash. -/
def Escaped (before c : Char) : Prop := c = '"' → before = '\\'

theorem hexDigit_ne_quote (n : Nat) : hexDigit n ≠ '"' :=
  forall_hexDigit (p := (· ≠ '"')) (by decide) n

theorem head_encode (cs : List Char) : ∀ c ∈ (encode .needed cs).head?, c ≠ '"' := by
  cases cs with
  | nil => simp [encode]
  | cons c rest =>
    obtain ⟨first, more, hwrite, hfirst⟩ := encodeChar_code.head c trivial
    simp [encode, hwrite, hfirst]

theorem isChain_encodeChar (c : Char) : (encodeChar .needed c).IsChain Escaped := by
  rcases encodeChar_needed c with ⟨h, _⟩ | ⟨letter, h, _⟩ | ⟨h, _⟩
  · rw [h]
    exact .singleton c
  · rw [h]
    exact .cons_cons (fun _ => rfl) (.singleton letter)
  · rw [h]
    simp [unitEscape, hex4, Escaped, hexDigit_ne_quote]

theorem isChain_encode (cs : List Char) : (encode .needed cs).IsChain Escaped := by
  induction cs with
  | nil => exact .nil
  | cons c rest ih =>
    have hnext : ∀ x ∈ (encodeChar .needed c).getLast?, ∀ y ∈ (encode .needed rest).head?,
        Escaped x y := fun x _ y hy hquote => absurd hquote (head_encode rest y hy)
    exact (isChain_encodeChar c).append ih hnext

/-- No quotation ends in a shorter one with a blank before it. -/
theorem quote_ne_append (a b : String) (r : List Char) :
    (quote a).toList ≠ r ++ ' ' :: (quote b).toList := by
  rw [toList_quote, toList_quote]
  intro h
  have hopen : '"' :: encode .needed a.toList = r ++ ' ' :: '"' :: encode .needed b.toList := by
    have hend : '"' :: encode .needed a.toList ++ ['"'] =
        (r ++ ' ' :: '"' :: encode .needed b.toList) ++ ['"'] := by simpa using h
    exact List.append_cancel_right hend
  have hchain : ('"' :: encode .needed a.toList).IsChain Escaped :=
    (isChain_encode a.toList).cons fun y hy hquote => absurd hquote (head_encode _ y hy)
  rw [hopen] at hchain
  have hpair := hchain.right_of_append.rel rfl
  cases hpair

/-- So a text that ends in a quotation after a blank tells what is quoted. -/
theorem quote_inj_of_append {a b : String} {r s : List Char}
    (h : r ++ ' ' :: (quote a).toList = s ++ ' ' :: (quote b).toList) : a = b := by
  have hfront : ∀ {a b : String} {more : List Char},
      ' ' :: (quote a).toList = more ++ ' ' :: (quote b).toList → a = b := by
    intro a b more hm
    cases more with
    | nil => exact quote_injective (String.toList_injective (List.cons.inj hm).2)
    | cons c rest => exact absurd (List.cons.inj hm).2 (quote_ne_append a b rest)
  rcases List.append_eq_append_iff.mp h with ⟨more, _, hm⟩ | ⟨more, _, hm⟩
  · exact hfront hm
  · exact (hfront hm).symm

end ApiTypings.Text
