import ApiTypings.Module.Specifier
import ApiTypings.Proofs.Pieces
import Mathlib.Data.List.TakeWhile

/-!
# Specifiers tell modules apart

A path that is made of names is told by its directory and its last name. So two such
modules have different specifiers in every module that refers to both.
-/

namespace ApiTypings

/-- The path is made of names, each of which leads down, with slashes between them. -/
def Path.Joined (path : String) : Prop :=
  ∃ names, path = Text.join "/" names ∧
    ∀ name ∈ names, name ≠ "" ∧ name ≠ "." ∧ name ≠ ".." ∧ '/' ∉ name.toList

namespace Specifier

open Text

variable {u base path : List Char}

theorem ne_slash_of_mem_reverse (h : '/' ∉ base) {c : Char} (hc : c ∈ base.reverse) :
    decide (c ≠ '/') = true :=
  decide_eq_true fun hs => h (hs ▸ List.mem_reverse.mp hc)

/-- Seen from the end a path begins with its last name, and a slash follows if anything does. -/
theorem baseName_append (h : '/' ∉ base) (hu : ∀ c ∈ u.getLast?, c = '/') :
    baseName (u ++ base) = base := by
  have hstop : u.reverse.takeWhile (· ≠ '/') = [] := by
    rw [← List.head?_reverse] at hu
    cases hr : u.reverse with
    | nil => rfl
    | cons c rest =>
      rw [hr] at hu
      simp [hu c rfl]
  unfold baseName
  rw [List.reverse_append, List.takeWhile_append_of_pos fun c => ne_slash_of_mem_reverse h, hstop,
    List.append_nil, List.reverse_reverse]

theorem dropWhile_reverse (h : '/' ∉ base) (hu : ∀ c ∈ u.getLast?, c = '/') :
    (u ++ base).reverse.dropWhile (· ≠ '/') = u.reverse := by
  rw [List.reverse_append, List.dropWhile_append_of_pos fun c => ne_slash_of_mem_reverse h]
  rw [← List.head?_reverse] at hu
  cases hr : u.reverse with
  | nil => rfl
  | cons c rest =>
    rw [hr] at hu
    simp [hu c rfl]

theorem directory_name (h : '/' ∉ base) : directory base = [] := by
  have hdrop := dropWhile_reverse (u := []) h (by simp)
  rw [List.nil_append] at hdrop
  unfold directory
  rw [hdrop]
  rfl

theorem directory_append {home : List Char} (h : '/' ∉ base) (hne : home ≠ [])
    (hlast : ∀ c ∈ home.getLast?, c ≠ '/') : directory (home ++ '/' :: base) = home := by
  have hdrop := dropWhile_reverse (u := home ++ ['/']) h (by simp)
  rw [List.append_assoc, List.singleton_append] at hdrop
  obtain rfl | ⟨start, last, rfl⟩ := List.eq_nil_or_concat home
  · exact absurd rfl hne
  · have hc : last ≠ '/' := hlast last (by simp)
    unfold directory
    rw [hdrop]
    simp [hc]

/-- The path of a name in a directory. -/
def inside (home base : List Char) : List Char := if home = [] then base else home ++ '/' :: base

/-- What joined names end in. -/
theorem getLast?_join {names : List (List Char)} (hne : names ≠ [])
    (hn : ∀ name ∈ names, name ≠ [] ∧ '/' ∉ name) :
    ['/'].intercalate names ≠ [] ∧ ∀ c ∈ (['/'].intercalate names).getLast?, c ≠ '/' := by
  have hcut := intercalate_concat_append '/' names.dropLast [] (names.getLast hne)
  rw [List.nil_append, List.dropLast_concat_getLast] at hcut
  obtain ⟨hlast, hslash⟩ := hn _ (List.getLast_mem hne)
  rw [hcut, List.getLast?_append, List.getLast?_eq_some_getLast hlast]
  refine ⟨by simp [hlast], fun c hc hs => hslash (hs ▸ ?_)⟩
  rw [← Option.some.inj hc]
  exact List.getLast_mem hlast

/-- What joined names have as their directory and as their last name. -/
theorem parts_of_intercalate {home : List (List Char)} {last : List Char}
    (hhome : ∀ name ∈ home, name ≠ [] ∧ '/' ∉ name) (hlast : '/' ∉ last) :
    directory (['/'].intercalate (home ++ [last])) = ['/'].intercalate home ∧
      baseName (['/'].intercalate (home ++ [last])) = last := by
  by_cases hnil : home = []
  · have hbase := baseName_append (u := []) hlast (by simp)
    rw [List.nil_append] at hbase
    rw [hnil, List.nil_append, List.intercalate_singleton]
    exact ⟨directory_name hlast, hbase⟩
  · obtain ⟨hne, hend⟩ := getLast?_join hnil hhome
    have hbase := baseName_append (u := ['/'].intercalate home ++ ['/']) hlast (by simp)
    rw [List.append_assoc, List.singleton_append] at hbase
    rw [intercalate_concat hnil]
    exact ⟨directory_append hlast hne hend, hbase⟩

/-- A path of names is its last name in its directory. -/
theorem eq_inside_of_joined {path : String} (h : Path.Joined path) :
    path.toList = inside (directory path.toList) (baseName path.toList) := by
  obtain ⟨names, rfl, hn⟩ := h
  have hnames : ∀ name ∈ names.map String.toList, name ≠ [] ∧ '/' ∉ name := by
    intro name hm
    obtain ⟨text, ht, rfl⟩ := List.mem_map.mp hm
    exact ⟨fun he => (hn text ht).1 (String.toList_eq_nil_iff.mp he), (hn text ht).2.2.2⟩
  rw [toList_join]
  change ['/'].intercalate _ = inside (directory (['/'].intercalate _))
    (baseName (['/'].intercalate _))
  obtain he | ⟨home, last, he⟩ := List.eq_nil_or_concat (names.map String.toList)
  · rw [he]
    rfl
  · rw [he] at hnames ⊢
    rw [List.concat_eq_append] at hnames ⊢
    have hhome : ∀ name ∈ home, name ≠ [] ∧ '/' ∉ name := fun name hm => hnames name (by simp [hm])
    obtain ⟨hdirectory, hbase⟩ := parts_of_intercalate hhome (hnames last (by simp)).2
    rw [hdirectory, hbase, inside]
    by_cases hnil : home = []
    · simp [hnil]
    · rw [if_neg (getLast?_join hnil hhome).1, intercalate_concat hnil]

/-! ## Specifiers -/

theorem eq_of_directory_eq {path path' : String} (h : Path.Joined path) (h' : Path.Joined path')
    (hd : directory path.toList = directory path'.toList)
    (hb : baseName path.toList = baseName path'.toList) : path = path' := by
  apply String.toList_injective
  rw [eq_inside_of_joined h, eq_inside_of_joined h', hd, hb]

theorem slash_notMem_baseName (path : List Char) : '/' ∉ baseName path := by
  intro h
  have hc := List.mem_takeWhile_imp (List.mem_reverse.mp h)
  simp at hc

/-- A path of names with a directory has a slash in it. -/
theorem slash_mem_of_directory {path : String} (h : Path.Joined path)
    (hd : directory path.toList ≠ []) : '/' ∈ path.toList := by
  rw [eq_inside_of_joined h, inside, if_neg hd]
  simp

/-- How a specifier begins that leads out of the directory. -/
def wayOut (home : List Char) : List Char :=
  if home.isEmpty then ['.', '/'] else (pieces '/' home).flatMap fun _ => ['.', '.', '/']

theorem chars_of_same {source target : List Char} (h : directory source = directory target) :
    chars source target = '.' :: '/' :: baseName target := by
  unfold chars
  exact if_pos h

theorem chars_of_other {source target : List Char} (h : directory source ≠ directory target) :
    chars source target = wayOut (directory source) ++ target := by
  unfold chars wayOut
  dsimp only
  rw [if_neg h]
  split <;> rfl

/-- The specifier of a module in the same directory is not that of one elsewhere. -/
theorem chars_ne {source : List Char} {target target' : String} (h' : Path.Joined target')
    (hd : directory source = directory target.toList)
    (hd' : directory source ≠ directory target'.toList) :
    chars source target.toList ≠ chars source target'.toList := by
  rw [chars_of_same hd, chars_of_other hd', wayOut]
  intro he
  by_cases hhome : directory source = []
  · rw [hhome] at he hd'
    have hbase : baseName target.toList = target'.toList := by simpa using he
    refine slash_notMem_baseName target.toList ?_
    rw [hbase]
    exact slash_mem_of_directory h' hd'.symm
  · rw [if_neg (by simpa using hhome)] at he
    cases hp : pieces '/' (directory source) with
    | nil => exact pieces_ne_nil _ _ hp
    | cons piece rest => simp [hp] at he

/-- Different modules have different specifiers in a module. -/
theorem of_inj {source target target' : String} (h : Path.Joined target)
    (h' : Path.Joined target') (he : Specifier.of source target = Specifier.of source target') :
    target = target' := by
  have he : chars source.toList target.toList = chars source.toList target'.toList :=
    String.ofList_injective he
  by_cases hd : directory source.toList = directory target.toList <;>
    by_cases hd' : directory source.toList = directory target'.toList
  · rw [chars_of_same hd, chars_of_same hd'] at he
    exact eq_of_directory_eq h h' (hd.symm.trans hd') (by simpa using he)
  · exact absurd he (chars_ne h' hd hd')
  · exact absurd he.symm (chars_ne h hd' hd)
  · rw [chars_of_other hd, chars_of_other hd'] at he
    exact String.toList_injective (List.append_cancel_left he)

end Specifier

end ApiTypings
