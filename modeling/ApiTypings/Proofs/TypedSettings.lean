import ApiTypings.Proofs.Locations
import ApiTypings.Proofs.Members
import ApiTypings.Typing.Table

/-!
# Settings of the right types

Settings are kept as they were found, so a table may be anything. Where each of them has
the type that it is meant to have, names are looked up in tables of texts, and looking
one up cannot fail.
-/

namespace ApiTypings

/-- Settings each of which has the type that it is meant to have. -/
structure TypedSettings where
  namespacePrefixes : Naming.PrefixTable
  replacedTypes : List (String × String)
  redefinedTypes : List (String × List String)
  fileExtension : String
  outputDir : String
  schemaUrl : String
  requestTimeout : Int
  mode : OutputMode
  validate : Bool
  atomic : Bool
deriving DecidableEq, Repr

namespace TypedSettings

/-- The settings as they are found. -/
def settings (typed : TypedSettings) : Settings where
  namespacePrefixes := Settings.textTable typed.namespacePrefixes
  replacedTypes := Settings.textTable typed.replacedTypes
  redefinedTypes := Settings.listTable typed.redefinedTypes
  fileExtension := .string typed.fileExtension
  outputDir := .string typed.outputDir
  schemaUrl := .string typed.schemaUrl
  requestTimeout := .int typed.requestTimeout
  output := .settings {
    mode := .mode typed.mode
    validate := .bool typed.validate
    atomic := .bool typed.atomic }

/-- The settings of a run that is told nothing. -/
def standard : TypedSettings where
  namespacePrefixes := Settings.standardPrefixes
  replacedTypes := Settings.standardReplacements
  redefinedTypes := Settings.standardRedefinitions
  fileExtension := ".ts"
  outputDir := "types"
  schemaUrl := Settings.standardUrl
  requestTimeout := 30
  mode := .force
  validate := true
  atomic := true

theorem settings_standard : standard.settings = Settings.standard := rfl

end TypedSettings

/-- An object has an entry for each of its members. -/
theorem Table.entry?_object (members : List (String × Json)) (name : String) :
    Table.entry? (.object members) name = .ok (member? name members) := by
  cases h : member? name members with
  | none => simp [Table.entry?, Table.lists, h, bind, Except.bind, pure, Except.pure]
  | some found =>
    simp [Table.entry?, Table.lists, Table.entry, h, bind, Except.bind, pure, Except.pure]

namespace TypedSettings

variable (typed : TypedSettings) (name : String)

theorem location : typed.settings.naming.location name =
    .ok (Naming.locate typed.namespacePrefixes typed.fileExtension name) :=
  Naming.location_textTable _ _ _

theorem replacement : Table.entry? typed.settings.replacedTypes name =
    .ok ((member? name typed.replacedTypes).map Json.string) := by
  rw [← member?_map]
  exact Table.entry?_object _ _

theorem redefinition : Table.entry? typed.settings.redefinedTypes name =
    .ok ((member? name typed.redefinedTypes).map fun types => .array (types.map .string)) := by
  rw [← member?_map]
  exact Table.entry?_object _ _

end TypedSettings

end ApiTypings
