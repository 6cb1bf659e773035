import ApiTypings.Proofs.Locations
import Mathlib.Data.List.Nodup

/-!
# The first prefix that fits is the longest

Prefixes of one name are prefixes of each other. So in a table that has no prefix behind a
shorter one that it begins with, the first entry that fits a name has the longest prefix of
those that fit, and what becomes of a name does not depend on how such a table is ordered
otherwise.
-/

namespace ApiTypings.Naming

open Text

/-- The prefixes of the table are distinct, and none of them comes after one of its own proper
prefixes. -/
structure LongerFirst (table : PrefixTable) : Prop where
  distinct : (table.map Prod.fst).Nodup
  ordered : table.Pairwise fun earlier later =>
    ¬ (earlier.1.toList <+: later.1.toList ∧ earlier.1 ≠ later.1)

variable {table : PrefixTable} {name : String}

/-- The entry has the longest prefix in the table that the name begins with. -/
structure LongestFit (table : PrefixTable) (name : String) (entry : String × String) : Prop where
  mem : entry ∈ table
  fits : entry.1.toList <+: name.toList
  longest : ∀ other ∈ table, other.1.toList <+: name.toList →
    other.1.toList.length ≤ entry.1.toList.length

theorem fitting?_eq_none_iff :
    fitting? table name = none ↔ ∀ entry ∈ table, ¬ entry.1.toList <+: name.toList := by
  simp [fitting?, startsWith_iff]

/-- The first entry that fits has the longest prefix. -/
theorem LongerFirst.longestFit (h : LongerFirst table) {entry : String × String}
    (he : fitting? table name = some entry) : LongestFit table name entry := by
  refine ⟨List.mem_of_find?_eq_some he, startsWith_iff.mp (fits_of_fitting? he), ?_⟩
  intro other hother hfits
  obtain ⟨_, before, after, rfl, hbefore⟩ := List.find?_eq_some_iff_append.mp he
  have hentry := startsWith_iff.mp (fits_of_fitting? he)
  rcases List.mem_append.mp hother with hmem | hmem
  · -- what stands before the first entry that fits does not fit
    have hskip := hbefore other hmem
    simp [startsWith_iff.mpr hfits] at hskip
  · rcases List.mem_cons.mp hmem with rfl | hmem
    · exact Nat.le_refl _
    · by_contra hlonger
      have hlength : entry.1.toList.length < other.1.toList.length := Nat.lt_of_not_le hlonger
      have hbegins := List.prefix_of_prefix_length_le hentry hfits (Nat.le_of_lt hlength)
      obtain ⟨_, hback, _⟩ := List.pairwise_append.mp h.ordered
      refine (List.pairwise_cons.mp hback).1 other hmem ⟨hbegins, fun hsame => ?_⟩
      rw [hsame] at hlength
      exact Nat.lt_irrefl _ hlength

theorem LongestFit.unique (hd : (table.map Prod.fst).Nodup) {entry other : String × String}
    (he : LongestFit table name entry) (ho : LongestFit table name other) : entry = other := by
  have hlength : entry.1.toList.length = other.1.toList.length :=
    Nat.le_antisymm (ho.longest entry he.mem he.fits) (he.longest other ho.mem ho.fits)
  have hbegins := List.prefix_of_prefix_length_le he.fits ho.fits (Nat.le_of_eq hlength)
  have hsame : entry.1 = other.1 := String.toList_injective (hbegins.eq_of_length hlength)
  exact List.inj_on_of_nodup_map hd he.mem ho.mem hsame

/-- A name becomes what the entry with the longest prefix makes of it. -/
theorem LongerFirst.simplify_eq_some_iff (h : LongerFirst table) {simplified : String} :
    simplify table name = some simplified ↔
      ∃ entry rest, LongestFit table name entry ∧ name = entry.1 ++ rest ∧
        simplified = entry.2 ++ rest := by
  rw [simplify_eq_some]
  constructor
  · rintro ⟨entry, rest, he, hname, hs⟩
    exact ⟨entry, rest, h.longestFit he, hname, hs⟩
  · rintro ⟨entry, rest, he, hname, hs⟩
    cases hf : fitting? table name with
    | none => exact absurd he.fits (fitting?_eq_none_iff.mp hf entry he.mem)
    | some first =>
      obtain rfl := (h.longestFit hf).unique h.distinct he
      exact ⟨first, rest, rfl, hname, hs⟩

/-- A name is left out exactly if it begins with no prefix of the table. -/
theorem simplify_eq_none_iff :
    simplify table name = none ↔ ∀ entry ∈ table, ¬ entry.1.toList <+: name.toList := by
  rw [← fitting?_eq_none_iff]
  constructor
  · intro h
    by_contra hsome
    obtain ⟨entry, he⟩ := Option.ne_none_iff_exists'.mp hsome
    obtain ⟨rest, hrest⟩ := startsWith_iff.mp (fits_of_fitting? he)
    have hname : name = entry.1 ++ String.ofList rest :=
      String.toList_injective (by rw [String.toList_append, String.toList_ofList, hrest])
    rw [simplify_eq_some.mpr ⟨entry, _, he, hname, rfl⟩] at h
    cases h
  · intro h
    refine Option.eq_none_iff_forall_ne_some.mpr fun simplified hs => ?_
    obtain ⟨entry, _, he, _⟩ := simplify_eq_some.mp hs
    rw [h] at he
    cases he

theorem LongestFit.of_perm {other : PrefixTable} (hp : other.Perm table)
    {entry : String × String} (h : LongestFit other name entry) : LongestFit table name entry :=
  ⟨hp.mem_iff.mp h.mem, h.fits, fun o ho => h.longest o (hp.mem_iff.mpr ho)⟩

/-- With a table of distinct prefixes, of which none comes after one of its own proper prefixes, the
longest prefix that a name begins with is replaced, and only a name that begins with none
of them has no simplified form. Every such order of the table gives every name the same
location. -/
theorem LongerFirst.replaces_longest (h : LongerFirst table) :
    (∀ name, (simplify table name = none ↔ ∀ entry ∈ table, ¬ entry.1.toList <+: name.toList) ∧
      ∀ simplified, simplify table name = some simplified ↔
        ∃ entry rest, LongestFit table name entry ∧ name = entry.1 ++ rest ∧
          simplified = entry.2 ++ rest) ∧
    ∀ other : PrefixTable, other.Perm table → LongerFirst other → ∀ extension name,
      location ⟨Settings.textTable other, .string extension⟩ name =
        location ⟨Settings.textTable table, .string extension⟩ name := by
  refine ⟨fun name => ⟨simplify_eq_none_iff, fun _ => h.simplify_eq_some_iff⟩, ?_⟩
  intro other hp ho extension name
  have hfit : ∀ entry, LongestFit other name entry ↔ LongestFit table name entry :=
    fun entry => ⟨LongestFit.of_perm hp, LongestFit.of_perm hp.symm⟩
  have hsame : simplify other name = simplify table name := by
    refine Option.ext fun simplified => ?_
    simp only [h.simplify_eq_some_iff, ho.simplify_eq_some_iff, hfit]
  rw [location_textTable, location_textTable, locate, locate, hsame]

/-- The standard table in another order of this kind. -/
def turnedPrefixes : PrefixTable := [
  ("io.k8s.apiextensions-apiserver.pkg.apis.", ""),
  ("io.k8s.apimachinery.pkg.apis.", ""),
  ("io.k8s.apimachinery.pkg.", ""),
  ("io.k8s.api.", "")]

theorem standardPrefixes_longerFirst : LongerFirst Settings.standardPrefixes :=
  ⟨by decide, by decide⟩

theorem turnedPrefixes_longerFirst : LongerFirst turnedPrefixes := ⟨by decide, by decide⟩

theorem LongerFirst.replaces_longest_of_standard :
    LongerFirst Settings.standardPrefixes ∧
      (∃ entry rest, LongestFit Settings.standardPrefixes "io.k8s.apimachinery.pkg.apis.m.T" entry ∧
        "io.k8s.apimachinery.pkg.apis.m.T" = entry.1 ++ rest ∧ "m.T" = entry.2 ++ rest) ∧
      ∀ extension name,
        location ⟨Settings.textTable turnedPrefixes, .string extension⟩ name =
          location ⟨Settings.textTable Settings.standardPrefixes, .string extension⟩ name := by
  have hs : simplify Settings.standardPrefixes "io.k8s.apimachinery.pkg.apis.m.T" = some "m.T" := by
    decide
  obtain ⟨hlongest, hperm⟩ := standardPrefixes_longerFirst.replaces_longest
  exact ⟨standardPrefixes_longerFirst, ((hlongest _).2 _).mp hs,
    hperm _ (by decide) turnedPrefixes_longerFirst⟩

end ApiTypings.Naming
