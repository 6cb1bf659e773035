import Mathlib
import ApiTypings.Proofs.Canonical
import ApiTypings.Proofs.Outcomes
import ApiTypings.Proofs.Pieces
import ApiTypings.Proofs.Quoting
import ApiTypings.Proofs.References

/-!
# Interfaces say what their definitions say

The interface of a definition has one field for each of its properties, in order. A property
that can hold one text only has the literal of that text as its type, any other the type of
its value, and the module imports what these values refer to and nothing else.
-/

namespace ApiTypings

/-- The version under which objects are served, behind the group. Where one of them is empty the
other stands alone. -/
def GroupVersionKind.fullVersion (one : GroupVersionKind) : String :=
  let group := one.group.string?.getD ""
  let version := one.version.string?.getD ""
  if group = "" then version else if version = "" then group else group ++ "/" ++ version

/-- The texts that are given are those that are not empty. -/
theorem givenTexts_ok {parts : List Json} {texts : List String}
    (h : givenTexts parts = .ok texts) :
    texts = (parts.map fun part => part.string?.getD "").filter (· ≠ "") := by
  fun_induction givenTexts parts generalizing texts with
  | case1 =>
    cases h
    rfl
  | case2 text rest he ih =>
    rw [ih h, String.isEmpty_iff.mp he]
    rfl
  | case3 text rest he ih =>
    obtain ⟨others, ho, rfl⟩ := map_ok h
    have hne : text ≠ "" := fun hnil => he (String.isEmpty_iff.mpr hnil)
    simp [ih ho, Json.string?, hne]
  | case4 found rest hn hv ih =>
    have hnone : found.string? = none := by
      cases found with
      | string text => exact absurd rfl (hn text)
      | _ => rfl
    simp [ih h, hnone]
  | case5 => cases h

theorem join_givenTexts {one : GroupVersionKind} {texts : List String}
    (h : givenTexts [one.group, one.version] = .ok texts) :
    Text.join "/" texts = one.fullVersion := by
  rw [givenTexts_ok h, List.map_cons, List.map_cons, List.map_nil]
  unfold GroupVersionKind.fullVersion
  generalize one.group.string?.getD "" = group, one.version.string?.getD "" = version
  apply String.toList_injective
  by_cases hg : group = "" <;> by_cases hv : version = "" <;> simp [hg, hv, Text.toList_join]

/-- The literal that a property of the definition is narrowed to: that of the version or of the kind
under which it is served. -/
inductive Definition.NarrowedTo (d : Definition) : String → String → Prop
  | version {one : GroupVersionKind} (hs : d.served = [one]) :
    d.NarrowedTo "apiVersion" (Text.quote one.fullVersion)
  | kind {one : GroupVersionKind} (hs : d.served = [one]) :
    d.NarrowedTo "kind" (one.kind.print .needed)

theorem narrowedTo_of_literalType {d : Definition} {property text : String}
    (h : literalType d.served property = .ok (some text)) : d.NarrowedTo property text := by
  unfold literalType at h
  split at h
  · rename_i one hs
    split at h
    · rename_i hp
      obtain ⟨texts, ht, h⟩ := bind_ok h
      have htext : Text.quote (Text.join "/" texts) = text := Option.some.inj (Except.ok.inj h)
      rw [hp, ← htext, join_givenTexts ht]
      exact .version hs
    · split at h
      · rename_i hp
        cases h
        rw [hp]
        exact .kind hs
      · cases h
  · cases h

/-! ## Fields -/

theorem Definition.requires_iff {d : Definition} {name : String} :
    d.requires name = true ↔ .string name ∈ d.required := by
  have hsame : ∀ found : Json, found.isString name = true ↔ found = .string name := by
    intro found
    cases found <;> simp [Json.isString]
  simp [requires, hsame]

namespace Typing

/-- The field says what the property of the definition says. -/
structure Tells (t : Typing) (d : Definition) (entry : String × Property)
    (field : Field Json) : Prop where
  name : field.name = entry.1
  description : field.description = entry.2.description
  optional : field.optional = true ↔ .string entry.1 ∉ d.required
  literal : d.Narrows entry.1 → ∃ text, d.NarrowedTo entry.1 text ∧ field.type = .string text
  type : ¬ d.Narrows entry.1 → ∀ draft,
    ((t.typeOf entry.2.value).outcome draft).1 = .ok field.type

/-- A property of the definition that is not narrowed ends in a reference to this location, and
what stands there is not replaced. -/
def Uses (t : Typing) (d : Definition) (location : Location) : Prop :=
  ∃ entry ∈ d.properties.getD [], ¬ d.Narrows entry.1 ∧
    ∃ reference, entry.2.value.reference? = some reference ∧ t.Follows reference location false

end Typing

namespace Builder

variable {b : Builder} {name : String} {definition : Definition} {d d' : Draft}

theorem fieldOf_tells {entry : String × Property} {field : Field Json}
    (h : b.fieldOf definition entry = .ok field) : b.Tells definition entry field := by
  obtain ⟨literal, hliteral, h⟩ := bind_ok h
  have hnarrows := literalType_ok hliteral
  have hoptional : (!definition.requires entry.1) = true ↔
      .string entry.1 ∉ definition.required := by
    rw [← Definition.requires_iff, Bool.not_eq_true', Bool.not_eq_true]
  cases literal with
  | some text =>
    cases h
    exact ⟨rfl, rfl, hoptional, fun _ => ⟨text, narrowedTo_of_literalType hliteral, rfl⟩,
      fun hn => absurd (hnarrows.mp rfl) hn⟩
  | none =>
    obtain ⟨type, htype, h⟩ := bind_ok h
    cases h
    refine ⟨rfl, rfl, hoptional, fun hn => absurd (hnarrows.mpr hn) Bool.false_ne_true, ?_⟩
    intro _ draft
    exact (b.typeOf_yields entry.2.value draft rfl).1.trans htype

/-- What building the interface of a definition with these properties makes of a module: a field
for each property, in order, and what the values of those that are not narrowed refer to among the
imports. All else stays as it was. -/
structure Forms (b : Builder) (name : String) (definition : Definition)
    (properties : List (String × Property)) (declaration : Declaration Json) (d d' : Draft) :
    Prop where
  fields : ∃ fields, declaration = .interface name definition.description fields ∧
    List.Forall₂ (b.Tells definition) properties fields
  imports : d.module.imports.Gains d'.module.imports fun path imported =>
    path ≠ d.module.path ∧ b.Uses definition ⟨path, imported⟩
  tidy : d.module.imports.Tidy → d'.module.imports.Tidy
  path : d'.module.path = d.module.path
  declarations : d'.module.declarations = d.module.declarations
  log : d'.log = d.log

theorem buildInterface_exact {properties : List (String × Property)}
    {declaration : Declaration Json} (hp : definition.properties = some properties)
    (h : Task.Returns (b.buildInterface name definition) d declaration d') :
    b.Forms name definition properties declaration d d' := by
  have hbuilt : b.interfaceOf name definition = .ok declaration := by
    rw [← (b.buildInterface_yields name definition d rfl).1, h]
  obtain ⟨fields, hfields, hbuilt⟩ := bind_ok hbuilt
  cases hbuilt
  rw [hp, Option.getD_some, mapM_eq_ok_iff] at hfields
  unfold buildInterface at h
  rw [hp] at h
  obtain ⟨others, u, hrun, ret⟩ := h.bind
  obtain ⟨_, rfl⟩ := ret.pure
  obtain ⟨rfl, _⟩ := mapM_buildField_returns hrun
  refine ⟨⟨fields, rfl, hfields.imp fun _ _ => fieldOf_tells⟩, ?_, ?_, ?_, ?_, rfl⟩
  · refine (Module.gains_importingAll _ _).congr fun path imported => and_congr_right fun _ => ?_
    simp only [Typing.Uses, hp, Option.getD_some, List.mem_flatMap, Typing.mem_needsOfProperty]
  · exact fun ht => Module.importingAll_keeps Imports.Tidy.insert ht _
  · exact Module.importingAll_path _ _
  · exact Module.importingAll_declarations _ _

/-- The standard builder of a document that defines these names as empty objects. -/
def ofNames (names : List String) : Builder := Settings.standard.builder {
  title := .string ""
  version := .string ""
  definitions := names.map fun name => (name, {
    description := .null
    type := .string "object"
    required := []
    properties := none
    served := [] }) }

def jobProperties : List (String × Property) := [
  ("apiVersion", ⟨.ref (.string "#/definitions/io.k8s.api.meta.Version"), .null⟩),
  ("kind", ⟨.scalar "string", .null⟩),
  ("owners", ⟨.array (.ref (.string "#/definitions/io.k8s.api.meta.Owner")), .string "Owners"⟩),
  ("limit", ⟨.map (.ref (.string "#/definitions/io.k8s.api.util.IntOrString")), .null⟩)]

/-- A job with two properties that are narrowed, although one of them refers to something, one that
refers to another module and one that refers to what is replaced. -/
def job : Definition where
  description := .string "A job"
  type := .string "object"
  required := [.string "kind"]
  properties := some jobProperties
  served := [⟨.string "batch", .string "v1", .string "Job"⟩]

def jobBuilder : Builder :=
  ofNames ["io.k8s.api.meta.Version", "io.k8s.api.meta.Owner", "io.k8s.api.util.IntOrString"]

def jobModule : Module Json where
  path := "batch/v1.ts"
  imports := [("core.ts", ["Pod"])]

def jobInterface : Declaration Json := .interface "Job" (.string "A job") [
  ⟨"apiVersion", .null, .string "\"batch/v1\"", true⟩,
  ⟨"kind", .null, .string "\"Job\"", false⟩,
  ⟨"owners", .string "Owners", .string "Array<Owner>", true⟩,
  ⟨"limit", .null, .string "\x7b[name: string]: number | string\x7d", true⟩]

theorem job_returns : Task.Returns (jobBuilder.buildInterface "Job" job) { module := jobModule }
    jobInterface { module := jobModule.importing "meta.ts" "Owner" } := by
  unfold Task.Returns
  cbv

theorem buildInterface_exact_of_job :
    job.properties = some jobProperties ∧
      Task.Returns (jobBuilder.buildInterface "Job" job) { module := jobModule } jobInterface
        { module := jobModule.importing "meta.ts" "Owner" } ∧
      jobBuilder.Forms "Job" job jobProperties jobInterface { module := jobModule }
        { module := jobModule.importing "meta.ts" "Owner" } :=
  ⟨rfl, job_returns, buildInterface_exact rfl job_returns⟩

def unversionedSchema : Json := .object [
  ("type", .string "object"),
  ("properties", .object [("apiVersion", .object [("type", .string "string")])]),
  (servedMember, .array [.object [("group", .string "batch"), ("kind", .string "Job")]])]

/-- A definition that is served in a group, but under no version. -/
def unversioned : Definition where
  description := .null
  type := .string "object"
  required := []
  properties := some [("apiVersion", ⟨.scalar "string", .null⟩)]
  served := [⟨.string "batch", .string "", .string "Job"⟩]

/-- Where there is no version the group stands alone, without a slash behind it. -/
theorem unversioned_without_slash :
    Definition.read "#/definitions/io.k8s.api.batch.Job" true unversionedSchema =
        .ok unversioned ∧
      unversioned.served = [⟨.string "batch", .string "", .string "Job"⟩] ∧
      ∃ field, Task.Returns ((ofNames []).buildInterface "Job" unversioned)
          { module := { path := "batch.ts" } } (.interface "Job" .null [field])
          { module := { path := "batch.ts" } } ∧
        field.name = "apiVersion" ∧ field.type = .string (Text.quote "batch") ∧
        field.type ≠ .string (Text.quote ("batch" ++ "/" ++ "")) := by
  refine ⟨rfl, rfl, ⟨"apiVersion", .null, .string (Text.quote "batch"), true⟩, ?_, rfl, rfl, ?_⟩
  · unfold Task.Returns
    cbv
  · intro h
    exact absurd (Text.quote_injective (Json.string.inj h)) (by decide)

end Builder

end ApiTypings
