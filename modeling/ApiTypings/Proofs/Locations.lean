import ApiTypings.Proofs.Pieces
import ApiTypings.Settings

/-!
# What a location tells of a name

A simplified name is cut into the part before its last full stop, which is the
path of the module, and the name of the type. Where no segment is empty or holds a
slash nothing is lost, so the location gives the simplified name back; of the
qualified name it leaves open only which prefix was replaced.
-/

namespace ApiTypings.Naming

/-- The entry of the table that replaces the beginning of a name: the first that fits. -/
def fitting? (table : PrefixTable) (name : String) : Option (String × String) :=
  table.find? fun entry => Text.startsWith entry.1 name

theorem fits_of_fitting? {table : PrefixTable} {name : String} {entry : String × String}
    (h : fitting? table name = some entry) : Text.startsWith entry.1 name = true := by
  simpa using List.find?_some h

/-- A simplified name is the rest of the name behind what replaces its beginning. -/
theorem simplify_eq_some {table : PrefixTable} {name simplified : String} :
    simplify table name = some simplified ↔
      ∃ entry rest, fitting? table name = some entry ∧ name = entry.1 ++ rest ∧
        simplified = entry.2 ++ rest := by
  induction table with
  | nil => simp [simplify, fitting?]
  | cons entry table ih =>
    obtain ⟨start, replacement⟩ := entry
    cases hr : Text.afterPrefix? start name with
    | none =>
      have hskip : fitting? ((start, replacement) :: table) name = fitting? table name := by
        simp [fitting?, Text.startsWith, hr]
      simp only [simplify, hr, ih, hskip]
    | some rest =>
      have htake : fitting? ((start, replacement) :: table) name = some (start, replacement) := by
        simp [fitting?, Text.startsWith, hr]
      have hname := Text.afterPrefix?_eq_some.mp hr
      simp only [simplify, hr, htake, Option.some.injEq]
      constructor
      · rintro rfl
        exact ⟨(start, replacement), rest, rfl, hname, rfl⟩
      · rintro ⟨_, other, rfl, hother, rfl⟩
        rw [hname] at hother
        rw [(String.append_right_inj start).mp hother]

/-! ## Locations -/

/-- What stands before the last full stop of a simplified name, each full stop read as a slash. -/
def modulePart (simplified : String) : String :=
  Text.join "/" (Text.split '.' simplified).dropLast

/-- What stands behind the last full stop of a simplified name. -/
def localName (simplified : String) : String := (Text.split '.' simplified).getLastD ""

theorem split_eq_concat (simplified : String) :
    Text.split '.' simplified = (Text.split '.' simplified).dropLast ++ [localName simplified] := by
  rw [localName, List.getLastD_eq_getLast?,
    List.getLast?_eq_some_getLast (Text.split_ne_nil '.' simplified), Option.getD_some,
    List.dropLast_concat_getLast]

theorem spellOut_eq (extension simplified : String) :
    spellOut extension simplified =
      { path := modulePart simplified ++ extension, name := localName simplified } := rfl

theorem spellOut_eq_iff {extension s t : String} :
    spellOut extension s = spellOut extension t ↔
      modulePart s = modulePart t ∧ localName s = localName t := by
  simp only [spellOut_eq, Location.mk.injEq]
  constructor
  · rintro ⟨hp, hn⟩
    exact ⟨(String.append_left_inj extension).mp hp, hn⟩
  · rintro ⟨hp, hn⟩
    exact ⟨by rw [hp], hn⟩

/-- Every segment between the full stops is there, and none holds a slash. -/
def Tidy (simplified : String) : Prop :=
  ∀ segment ∈ Text.split '.' simplified, segment ≠ "" ∧ '/' ∉ segment.toList

/-- The segments before the last full stop are the names between the slashes of the module part. -/
theorem Tidy.dropLast_eq {s : String} (h : Tidy s) :
    (Text.split '.' s).dropLast =
      if modulePart s = "" then [] else Text.split '/' (modulePart s) := by
  have hmem : ∀ segment ∈ (Text.split '.' s).dropLast, segment ≠ "" ∧ '/' ∉ segment.toList :=
    fun segment hs => h segment (List.dropLast_subset _ hs)
  by_cases hne : (Text.split '.' s).dropLast = []
  · simp [modulePart, hne, Text.join]
  · have hsplit : Text.split '/' (modulePart s) = (Text.split '.' s).dropLast :=
      Text.split_join rfl hne fun segment hs => (hmem segment hs).2
    have hpart : modulePart s ≠ "" := by
      intro he
      rw [he] at hsplit
      exact (hmem "" (hsplit ▸ by simp [Text.split])).1 rfl
    rw [if_neg hpart, hsplit]

/-- Among tidy names the location tells the simplified name. -/
theorem Tidy.eq_of_spellOut_eq {extension s t : String} (hs : Tidy s) (ht : Tidy t)
    (h : spellOut extension s = spellOut extension t) : s = t := by
  obtain ⟨hp, hn⟩ := spellOut_eq_iff.mp h
  have hdrop : (Text.split '.' s).dropLast = (Text.split '.' t).dropLast := by
    rw [hs.dropLast_eq, ht.dropLast_eq, hp]
  have hsplit : Text.split '.' s = Text.split '.' t := by
    rw [split_eq_concat s, split_eq_concat t, hdrop, hn]
  have hjoin : Text.join "." (Text.split '.' s) = s := Text.join_split rfl s
  rw [hsplit, Text.join_split rfl] at hjoin
  exact hjoin.symm

/-- Tables of texts replace prefixes as they say. -/
theorem location_textTable (table : PrefixTable) (extension name : String) :
    Naming.location ⟨Settings.textTable table, .string extension⟩ name =
      .ok (locate table extension name) := by
  have htable : Naming.table ⟨Settings.textTable table, .string extension⟩ = .ok table := by
    simp [Naming.table, Settings.textTable, Json.members, bind, Except.bind, pure, Except.pure,
      Function.comp_def, Json.plain]
  unfold Naming.location Naming.simplified
  rw [htable]
  change Naming.placed _ (simplify table name) = .ok ((simplify table name).map _)
  cases simplify table name <;> rfl

/-- With the standard settings a location spells out the simplified form of the name. -/
theorem standard_location_iff {name : String} {location : Location} :
    Settings.standard.naming.location name = .ok (some location) ↔
      ∃ simplified, simplify Settings.standardPrefixes name = some simplified ∧
        spellOut ".ts" simplified = location := by
  change Naming.location ⟨Settings.textTable Settings.standardPrefixes, .string ".ts"⟩ name = _ ↔ _
  rw [location_textTable, Except.ok.injEq, locate, Option.map_eq_some_iff]

end ApiTypings.Naming
