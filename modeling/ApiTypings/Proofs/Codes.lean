import Mathlib.Data.List.Forall2

/-!
# Reading from the front

Items that are written one after the other can be told from what is written if each of
them can be read off the front of whatever it begins, up to a difference that leaves no
trace, and if what ends the series cannot be taken for another item.
-/

namespace ApiTypings

variable {ι σ : Type}

/-- Good items can be read off the front of a list. What was read is told up to what is alike, and
the symbol that an item begins with is of some kind. -/
structure Code (write : ι → List σ) (good : ι → Prop) (first : σ → Prop)
    (alike : ι → ι → Prop) : Prop where
  head : ∀ a, good a → ∃ c rest, write a = c :: rest ∧ first c
  cancel : ∀ {a b : ι} {r s : List σ}, good a → good b → write a ++ r = write b ++ s →
    alike a b ∧ r = s

namespace Code

variable {write : ι → List σ} {good : ι → Prop} {first : σ → Prop} {alike : ι → ι → Prop}

/-- What is written for an item is not what ends a series of items. -/
theorem append_ne (h : Code write good first alike) {a : ι} (ha : good a) {r s : List σ}
    (hs : ∀ c ∈ s.head?, ¬ first c) : write a ++ r ≠ s := by
  obtain ⟨c, rest, hw, hc⟩ := h.head a ha
  rintro rfl
  exact hs c (by simp [hw]) hc

/-- A series of items can be read off the front of a list that goes on with something else. -/
theorem flatMap_cancel (h : Code write good first alike) {as bs : List ι} {r s : List σ}
    (has : ∀ a ∈ as, good a) (hbs : ∀ b ∈ bs, good b) (hr : ∀ c ∈ r.head?, ¬ first c)
    (hs : ∀ c ∈ s.head?, ¬ first c) (he : as.flatMap write ++ r = bs.flatMap write ++ s) :
    List.Forall₂ alike as bs ∧ r = s := by
  induction as generalizing bs with
  | nil =>
    cases bs with
    | nil => exact ⟨.nil, he⟩
    | cons b bs =>
      rw [List.flatMap_cons, List.append_assoc] at he
      exact absurd he.symm (h.append_ne (hbs b (List.mem_cons_self ..)) hr)
  | cons a as ih =>
    rw [List.flatMap_cons, List.append_assoc] at he
    have ha := has a (List.mem_cons_self ..)
    cases bs with
    | nil => exact absurd he (h.append_ne ha hs)
    | cons b bs =>
      rw [List.flatMap_cons, List.append_assoc] at he
      obtain ⟨hab, he⟩ := h.cancel ha (hbs b (List.mem_cons_self ..)) he
      obtain ⟨hrest, hrs⟩ := ih (fun a ha => has a (List.mem_cons_of_mem _ ha))
        (fun b hb => hbs b (List.mem_cons_of_mem _ hb)) he
      exact ⟨.cons hab hrest, hrs⟩

end Code

/-- A run of symbols of a kind ends where the first of another kind stands. -/
theorem span_cancel {p : σ → Bool} {a b r s : List σ} (ha : ∀ c ∈ a, p c) (hb : ∀ c ∈ b, p c)
    (hr : ∀ c ∈ r.head?, p c = false) (hs : ∀ c ∈ s.head?, p c = false) (h : a ++ r = b ++ s) :
    a = b ∧ r = s := by
  have hstop : ∀ t : List σ, (∀ c ∈ t.head?, p c = false) → t.takeWhile p = [] := by
    rintro (_ | ⟨c, t⟩) ht
    · rfl
    · simp [ht c rfl]
  have hab : a = b := by
    have ht := congrArg (List.takeWhile p) h
    rwa [List.takeWhile_append_of_pos ha, List.takeWhile_append_of_pos hb, hstop r hr, hstop s hs,
      List.append_nil, List.append_nil] at ht
  subst hab
  exact ⟨rfl, List.append_cancel_left h⟩

end ApiTypings
