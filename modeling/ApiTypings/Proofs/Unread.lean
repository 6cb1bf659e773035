import ApiTypings.Json.Reader
import ApiTypings.Proofs.Pieces
import Mathlib.Data.List.Infix
import Mathlib.Data.List.TakeWhile

/-!
# Integers that are too long

A reader of JSON takes characters from the front of a text and leaves the rest of it unread. So
whatever it meets stands in the text as it is: if it gives up on an integer that is
too long, the text has a run of digits of that length.
-/

namespace ApiTypings.Json

open Text

variable {α β : Type} {cs rest : List Char}

/-- The text has so many digits one after the other, more than are read as an integer. -/
def LongRun (cs : List Char) (digits : Nat) : Prop :=
  longestInteger < digits ∧ ∃ run, run <:+: cs ∧ (∀ c ∈ run, isDigit c = true) ∧
    run.length = digits

/-- What was read stood at the front of the text, and an integer that is too long stands in it. -/
structure Reads (cs : List Char) (r : Reading α) : Prop where
  unread : ∀ a rest, r = .ok (a, rest) → rest <:+ cs
  long : ∀ digits, r = .error (.integerTooLong digits) → LongRun cs digits

namespace Reads

variable {r : Reading α}

theorem ok {a : α} (h : rest <:+ cs) : Reads cs (.ok (a, rest)) := by
  refine ⟨?_, nofun⟩
  rintro _ _ ⟨⟩
  exact h

theorem malformed (problem : Problem) (unread : Nat) :
    Reads cs (.error (.malformed problem unread) : Reading α) := ⟨nofun, nofun⟩

theorem of_error {e : Mistake} (h : Reads cs r) (he : r = .error e) :
    Reads cs (.error e : Reading β) := by
  refine ⟨nofun, ?_⟩
  rintro digits ⟨⟩
  exact h.long digits he

/-- It is enough to look at the end of the text. -/
theorem mono (h : Reads rest r) (hs : rest <:+ cs) : Reads cs r := by
  constructor
  · intro a left hr
    exact (h.unread a left hr).trans hs
  · intro digits hr
    obtain ⟨hlong, run, hrun, hdigits⟩ := h.long digits hr
    exact ⟨hlong, run, hrun.trans hs.isInfix, hdigits⟩

end Reads

theorem skip_suffix (cs : List Char) : skip cs <:+ cs := List.dropWhile_suffix _

theorem suffix_escape (c d : Char) (cs : List Char) : cs <:+ c :: d :: cs :=
  (List.suffix_cons d cs).trans (List.suffix_cons c (d :: cs))

theorem unit16?_suffix {unit : Nat} (h : unit16? cs = some (unit, rest)) : rest <:+ cs := by
  unfold unit16? at h
  split at h
  · simp only [Option.bind_eq_bind, Option.bind_eq_some_iff] at h
    obtain ⟨_, _, _, _, _, _, _, _, h⟩ := h
    cases h
    exact (suffix_escape _ _ _).trans (suffix_escape _ _ _)
  · cases h

theorem readText_reads (opening fuel : Nat) (acc cs : List Char) :
    Reads cs (readText opening fuel acc cs) := by
  fun_induction readText opening fuel acc cs with
  | case3 acc rest => exact .ok (List.suffix_cons ..)
  | case8 _ _ _ _ _ _ hu _ _ _ hl _ ih =>
    -- a pair of surrogates
    have hlow := (unit16?_suffix hl).trans (suffix_escape '\\' 'u' _)
    exact ih.mono ((hlow.trans (unit16?_suffix hu)).trans (suffix_escape '\\' 'u' _))
  | case9 _ _ _ _ _ _ hu _ _ _ _ _ ih =>
    exact ih.mono ((unit16?_suffix hu).trans (suffix_escape '\\' 'u' _))
  | case10 _ _ _ _ _ _ hu _ ih =>
    exact ih.mono ((unit16?_suffix hu).trans (suffix_escape '\\' 'u' _))
  | case11 _ _ _ _ _ _ _ hu ih =>
    exact ih.mono ((unit16?_suffix hu).trans (suffix_escape '\\' 'u' _))
  | case12 _ _ _ _ _ _ _ ih => exact ih.mono (suffix_escape '\\' _ _)
  | case15 _ _ _ _ _ _ _ _ _ ih => exact ih.mono (List.suffix_cons ..)
  | _ => exact .malformed _ _

/-! ## Numbers -/

theorem readFraction_suffix (cs : List Char) : (readFraction cs).2 <:+ cs := by
  unfold readFraction
  split
  · rename_i c rest
    split
    · exact (List.dropWhile_suffix _).trans (List.suffix_cons ..)
    · exact List.suffix_rfl
  · exact List.suffix_rfl

theorem readExponent_suffix {power : Int} (h : readExponent cs = some (power, rest)) :
    rest <:+ cs := by
  have hdigits : ∀ {digits : List Char} {n : Int},
      (if (digits.takeWhile isDigit).isEmpty then none else some (n, digits.dropWhile isDigit)) =
        some (power, rest) → rest <:+ digits := by
    intro digits n hsome
    obtain ⟨_, hpair⟩ := Option.ite_none_left_eq_some.mp hsome
    cases hpair
    exact List.dropWhile_suffix _
  unfold readExponent at h
  split at h
  · split at h
    · dsimp only at h
      -- there may be a sign in front of the digits
      split at h
      · exact (hdigits h).trans (suffix_escape _ _ _)
      · exact (hdigits h).trans (suffix_escape _ _ _)
      · exact (hdigits h).trans (List.suffix_cons ..)
    · cases h
  · cases h

theorem readNumber_reads (start : List Char) (negative : Bool) (cs : List Char) :
    Reads cs (readNumber start negative cs) := by
  unfold readNumber
  extract_lets whole
  have hwhole : whole <+: cs ∧ ∀ c ∈ whole, isDigit c = true := by
    unfold whole
    split
    · exact ⟨⟨_, rfl⟩, List.forall_mem_singleton.mpr rfl⟩
    · exact ⟨List.takeWhile_prefix _, fun _ hc => List.mem_takeWhile_imp hc⟩
  clear_value whole
  have hfraction : (readFraction (cs.drop whole.length)).2 <:+ cs :=
    (readFraction_suffix _).trans (List.drop_suffix _ _)
  split
  · exact .malformed _ _
  · generalize readFraction (cs.drop whole.length) = read at hfraction ⊢
    obtain ⟨fraction, more⟩ := read
    dsimp only at hfraction ⊢
    split
    · split
      · rename_i hlong
        refine ⟨nofun, ?_⟩
        rintro digits ⟨⟩
        exact ⟨hlong, whole, hwhole.1.isInfix, hwhole.2, rfl⟩
      · exact .ok hfraction
    · refine .ok ?_
      cases he : readExponent more with
      | none => exact hfraction
      | some exponent => exact (readExponent_suffix he).trans hfraction

/-! ## Values -/

theorem dropStart?_suffix {start : List Char} (h : dropStart? start cs = some rest) : rest <:+ cs :=
  ⟨start, (dropStart?_eq_some.mp h).symm⟩

theorem readPlain_reads (cs : List Char) : Reads cs (readPlain cs) := by
  unfold readPlain
  split
  · exact .ok (dropStart?_suffix ‹_›)
  · exact .ok (dropStart?_suffix ‹_›)
  · exact .ok (dropStart?_suffix ‹_›)
  · exact .ok (dropStart?_suffix ‹_›)
  · exact .ok (dropStart?_suffix ‹_›)
  · exact .ok (dropStart?_suffix ‹_›)
  · split
    · exact (readNumber_reads _ _ _).mono (List.suffix_cons ..)
    · exact readNumber_reads _ _ _

/-- All three readers of values do, with as much fuel. -/
structure ReadersRead (fuel : Nat) : Prop where
  value : ∀ cs, Reads cs (readValue fuel cs)
  items : ∀ acc cs, Reads cs (readItems fuel acc cs)
  members : ∀ acc cs, Reads cs (readMembers fuel acc cs)

namespace ReadersRead

variable {fuel : Nat}

theorem nextValue (h : ReadersRead fuel) (cs : List Char) : Reads cs (readValue (fuel + 1) cs) := by
  unfold readValue
  split
  · cases ‹_ = _›
  · rename_i rest hfuel
    cases hfuel
    have htext := readText_reads (rest.length + 1) (rest.length + 1) [] rest
    split
    · rename_i s more hs
      exact .ok ((htext.unread _ _ hs).trans (List.suffix_cons ..))
    · rename_i e he
      exact (htext.of_error he).mono (List.suffix_cons ..)
  · rename_i rest hfuel
    cases hfuel
    have hskip := (skip_suffix rest).trans (List.suffix_cons '[' rest)
    split
    · rename_i more hs
      rw [hs] at hskip
      exact .ok ((List.suffix_cons ..).trans hskip)
    · exact (h.items [] _).mono hskip
  · rename_i rest hfuel
    cases hfuel
    have hskip := (skip_suffix rest).trans (List.suffix_cons '\x7b' rest)
    split
    · rename_i more hs
      rw [hs] at hskip
      exact .ok ((List.suffix_cons ..).trans hskip)
    · exact (h.members [] _).mono hskip
  · exact readPlain_reads _

theorem nextItems (h : ReadersRead fuel) (acc : List Json) (cs : List Char) :
    Reads cs (readItems (fuel + 1) acc cs) := by
  have hvalue := h.value cs
  unfold readItems
  split
  · rename_i e he
    exact hvalue.of_error he
  · rename_i item rest hi
    have hskip := (skip_suffix rest).trans (hvalue.unread _ _ hi)
    split
    · rename_i more hs
      rw [hs] at hskip
      exact .ok ((List.suffix_cons ..).trans hskip)
    · rename_i more hs
      rw [hs] at hskip
      exact (h.items _ _).mono (((skip_suffix more).trans (List.suffix_cons ..)).trans hskip)
    · exact .malformed _ _

theorem nextMembers (h : ReadersRead fuel) (acc : List (String × Json)) (cs : List Char) :
    Reads cs (readMembers (fuel + 1) acc cs) := by
  unfold readMembers
  split
  · cases ‹_ = _›
  · rename_i rest hfuel
    cases hfuel
    have htext := readText_reads (rest.length + 1) (rest.length + 1) [] rest
    split
    · rename_i e he
      exact (htext.of_error he).mono (List.suffix_cons ..)
    · rename_i name more hn
      have hname := (skip_suffix more).trans
        ((htext.unread _ _ hn).trans (List.suffix_cons '"' rest))
      split
      · rename_i after hs
        rw [hs] at hname
        have hcolon := ((skip_suffix after).trans (List.suffix_cons ':' after)).trans hname
        have hvalue := (h.value (skip after)).mono hcolon
        split
        · rename_i e he
          exact hvalue.of_error he
        · rename_i value left hv
          have hskip := (skip_suffix left).trans (hvalue.unread _ _ hv)
          split
          · rename_i after he
            rw [he] at hskip
            exact .ok ((List.suffix_cons ..).trans hskip)
          · rename_i after he
            rw [he] at hskip
            exact (h.members _ _).mono (((skip_suffix _).trans (List.suffix_cons ..)).trans hskip)
          · exact .malformed _ _
      · exact .malformed _ _
  · exact .malformed _ _

end ReadersRead

theorem readersRead (fuel : Nat) : ReadersRead fuel := by
  induction fuel with
  | zero => exact ⟨fun _ => .malformed _ _, fun _ _ => .malformed _ _, fun _ _ => .malformed _ _⟩
  | succ fuel ih => exact ⟨ih.nextValue, ih.nextItems, ih.nextMembers⟩

/-- A text that is given up for an integer that is too long has that many digits somewhere. -/
theorem longRun_of_parse {text : String} {digits : Nat}
    (h : parse text = .error (.integerTooLong digits)) : LongRun text.toList digits := by
  unfold parse parseChars at h
  split at h
  · cases h
  · have hvalue := ((readersRead (2 * text.toList.length + 2)).value (skip text.toList)).mono
      (skip_suffix text.toList)
    split at h
    · rename_i e he
      cases h
      exact hvalue.long digits he
    · split at h <;> cases h

end ApiTypings.Json
