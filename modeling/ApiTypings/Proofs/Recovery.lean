import ApiTypings.Proofs.Locations
import Mathlib.Data.List.DropRight

/-!
# A location gives the simplified name back

The path of a module is the segments of a simplified name but the last, with slashes between
them and the extension behind them. While no segment is empty or holds a slash, the extension
can be taken off and the slashes turned into full stops again, whatever the extension
looks like. So locations are the same only where the simplified names are, and names whose
simplified forms are the same begin with different prefixes.
-/

namespace ApiTypings.Naming

open Text

/-- The text with a full stop in place of each slash. -/
def dotted (cs : List Char) : List Char := cs.map fun c => if c = '/' then '.' else c

theorem dotted_eq_self {cs : List Char} (h : '/' ∉ cs) : dotted cs = cs := by
  have hkept : ∀ c ∈ cs, (if c = '/' then '.' else c) = c := by
    intro c hc
    exact if_neg fun he : c = '/' => h (he ▸ hc)
  rw [dotted, List.map_congr_left hkept, List.map_id']

theorem dotted_intercalate {parts : List (List Char)} (h : ∀ part ∈ parts, '/' ∉ part) :
    dotted (['/'].intercalate parts) = ['.'].intercalate parts := by
  induction parts with
  | nil => rfl
  | cons part parts ih =>
    rw [List.forall_mem_cons] at h
    by_cases hp : parts = []
    · simp [hp, dotted_eq_self h.1]
    · have happend : dotted (part ++ ['/'] ++ ['/'].intercalate parts) =
          dotted part ++ ['.'] ++ dotted (['/'].intercalate parts) := by simp [dotted]
      rw [List.intercalate_cons_of_ne_nil hp, List.intercalate_cons_of_ne_nil hp, happend, ih h.2,
        dotted_eq_self h.1]

/-! ## Reading a location -/

/-- The simplified name that a location spells out: its path without the extension, each slash read
as a full stop, and the name behind another; the name alone if the path is the bare
extension. -/
def simplifiedOf (extension : String) (location : Location) : String :=
  if location.path = extension then location.name
  else String.ofList (dotted (location.path.toList.rdrop extension.toList.length)) ++ "." ++
    location.name

/-- A name of one segment is its local name. -/
theorem Tidy.eq_localName {s : String} (h : Tidy s) (hp : modulePart s = "") :
    s = localName s := by
  have hdrop := h.dropLast_eq
  rw [if_pos hp] at hdrop
  calc s = join "." (split '.' s) := (join_split rfl s).symm
    _ = join "." [localName s] := by rw [split_eq_concat s, hdrop, List.nil_append]
    _ = localName s := String.toList_injective (by simp [toList_join])

/-- A name of several segments is its module part, dotted, a full stop and its local name. -/
theorem Tidy.eq_dotted {s : String} (h : Tidy s) (hp : modulePart s ≠ "") :
    s = String.ofList (dotted (modulePart s).toList) ++ "." ++ localName s := by
  have hne : (split '.' s).dropLast.map String.toList ≠ [] := by
    intro he
    exact hp (by rw [modulePart, List.map_eq_nil_iff.mp he]; rfl)
  have hslash : ∀ part ∈ (split '.' s).dropLast.map String.toList, '/' ∉ part := by
    intro part hpart
    obtain ⟨segment, hs, rfl⟩ := List.mem_map.mp hpart
    exact (h segment (List.dropLast_subset _ hs)).2
  have hpath : dotted (modulePart s).toList =
      ['.'].intercalate ((split '.' s).dropLast.map String.toList) := by
    rw [modulePart, toList_join]
    exact dotted_intercalate hslash
  apply String.toList_injective
  calc s.toList = (join "." (split '.' s)).toList := by rw [join_split rfl]
    _ = ['.'].intercalate ((split '.' s).dropLast.map String.toList ++ [(localName s).toList]) := by
      rw [toList_join, split_eq_concat s, List.map_append, List.dropLast_concat]
      rfl
    _ = dotted (modulePart s).toList ++ '.' :: (localName s).toList := by
      rw [intercalate_concat hne, hpath]
    _ = _ := by simp

theorem simplifiedOf_spellOut (extension : String) {s : String} (h : Tidy s) :
    simplifiedOf extension (spellOut extension s) = s := by
  rw [spellOut_eq, simplifiedOf]
  by_cases hp : modulePart s = ""
  · rw [if_pos (by rw [hp, String.empty_append])]
    exact (h.eq_localName hp).symm
  · have hpath : modulePart s ++ extension ≠ extension := by
      intro he
      have hlength := congrArg (fun text => text.toList.length) he
      simp only [String.toList_append, List.length_append] at hlength
      exact hp (String.toList_injective (List.length_eq_zero_iff.mp (by omega)))
    rw [if_neg hpath, String.toList_append, List.rdrop_append_length]
    exact (h.eq_dotted hp).symm

/-- Of the entries with one prefix only the first ever fits. -/
theorem fitting?_eq_of_fst_eq {table : PrefixTable} {a b : String} {e f : String × String}
    (ha : fitting? table a = some e) (hb : fitting? table b = some f) (h : e.1 = f.1) : e = f := by
  have hea := fits_of_fitting? ha
  have hfb := fits_of_fitting? hb
  induction table with
  | nil => cases ha
  | cons entry table ih =>
    rw [fitting?, List.find?_cons] at ha hb
    split at ha
    · obtain rfl := Option.some.inj ha
      rw [h, hfb] at hb
      exact Option.some.inj hb
    · rename_i hskip
      split at hb
      · obtain rfl := Option.some.inj hb
        rw [← h, hea] at hskip
        cases hskip
      · exact ih ha hb

/-- Every name with a simplified form has a location, and of names whose simplified forms are tidy
those have the same that have the same simplified form, which is read off the location. Two
names that share one begin with different prefixes of the table. -/
theorem location_tells_simplified {table : PrefixTable} {extension a b s t : String}
    (ha : simplify table a = some s) (hb : simplify table b = some t) (hs : Tidy s) (ht : Tidy t) :
    ∃ l m, location ⟨Settings.textTable table, .string extension⟩ a = .ok (some l) ∧
      location ⟨Settings.textTable table, .string extension⟩ b = .ok (some m) ∧
      (l = m ↔ s = t) ∧ simplifiedOf extension l = s ∧ simplifiedOf extension m = t ∧
      (a ≠ b → l = m → ∃ e f, fitting? table a = some e ∧ fitting? table b = some f ∧
        e.1 ≠ f.1) := by
  have hl := simplifiedOf_spellOut extension hs
  have hm := simplifiedOf_spellOut extension ht
  have hsame : spellOut extension s = spellOut extension t → s = t := by
    intro he
    rw [← hl, he, hm]
  refine ⟨_, _, ?_, ?_, ⟨hsame, fun he => he ▸ rfl⟩, hl, hm, fun hne he => ?_⟩
  · rw [location_textTable, locate, ha, Option.map_some]
  · rw [location_textTable, locate, hb, Option.map_some]
  · obtain ⟨e, rest, hea, rfl, hse⟩ := simplify_eq_some.mp ha
    obtain ⟨f, more, hfb, rfl, htf⟩ := simplify_eq_some.mp hb
    refine ⟨e, f, hea, hfb, fun hbegins => hne ?_⟩
    obtain rfl := fitting?_eq_of_fst_eq hea hfb hbegins
    rw [hse, htf] at hsame
    rw [(String.append_right_inj e.2).mp (hsame (hse ▸ htf ▸ he))]

/-- Two prefixes of which one is replaced by more segments. -/
def grafts : PrefixTable := [("a.", "x.y."), ("b.", "x.")]

theorem location_tells_simplified_of_grafts :
    simplify grafts "a.K" = some "x.y.K" ∧ simplify grafts "b.y.K" = some "x.y.K" ∧ Tidy "x.y.K" ∧
      ∃ l, location ⟨Settings.textTable grafts, .string "/d.ts"⟩ "a.K" = .ok (some l) ∧
        location ⟨Settings.textTable grafts, .string "/d.ts"⟩ "b.y.K" = .ok (some l) ∧
        simplifiedOf "/d.ts" l = "x.y.K" ∧
        ∃ e f, fitting? grafts "a.K" = some e ∧ fitting? grafts "b.y.K" = some f ∧ e.1 ≠ f.1 := by
  have ha : simplify grafts "a.K" = some "x.y.K" := by decide
  have hb : simplify grafts "b.y.K" = some "x.y.K" := by decide
  have htidy : Tidy "x.y.K" := by
    have hsplit : split '.' "x.y.K" = ["x", "y", "K"] := by decide
    rw [Tidy, hsplit]
    simp
  obtain ⟨l, m, hl, hm, hiff, hread, _, hbegins⟩ :=
    @location_tells_simplified grafts "/d.ts" _ _ _ _ ha hb htidy htidy
  obtain rfl := hiff.mpr rfl
  exact ⟨ha, hb, htidy, l, hl, hm, hread, hbegins (by decide) rfl⟩

end ApiTypings.Naming
