import Mathlib
import ApiTypings.Proofs.Generation
import ApiTypings.Proofs.Members
import ApiTypings.Proofs.Orders
import ApiTypings.Proofs.Outcomes
import ApiTypings.Proofs.Reading
import ApiTypings.Proofs.TypedSettings

/-!
# When a project is refused

A document that was read can still not be generated from for two reasons: a property
refers to what is not there or has no location, or a definition that is no object says
no type. The first definition in the order of the names that does so stops everything,
and its first such property says why.
-/

namespace ApiTypings

namespace Typing

/-- The reference leads to a definition of the document that has a location. -/
def Reaches (t : Typing) (reference : Json) : Prop :=
  ∃ name, reference = .string (referencePrefix ++ name) ∧
    (∃ definition, (name, definition) ∈ t.document.definitions) ∧
    ∃ location, t.naming.location name = .ok (some location)

/-- What is wrong with a reference that leads nowhere. -/
inductive Refuses (t : Typing) (reference : String) : GenerationError → Prop
  | foreign (h : ∀ name, reference ≠ referencePrefix ++ name) :
    Refuses t reference (.foreignReference reference)
  | dangling {name : String} (h : reference = referencePrefix ++ name)
    (hm : ∀ definition, (name, definition) ∉ t.document.definitions) :
    Refuses t reference (.danglingReference name t.document.title t.document.version)
  | excluded {name : String} (h : reference = referencePrefix ++ name)
    (hm : ∃ definition, (name, definition) ∈ t.document.definitions)
    (hl : t.naming.location name = .ok none) : Refuses t reference (.excludedReference reference)

/-- A reference is stopped if it is refused, and if it is no text. -/
inductive Stops (t : Typing) : Json → Failure → Prop
  | refused {reference : String} {error : GenerationError} (h : t.Refuses reference error) :
    Stops t (.string reference) (.generation error)
  | shapeless {reference : Json} (h : ∀ text, reference ≠ .string text) :
    Stops t reference (.fault .noMember)

variable {t : Typing}

theorem stops_string {reference : String} {failure : Failure} :
    t.Stops (.string reference) failure ↔
      ∃ error, t.Refuses reference error ∧ failure = .generation error := by
  constructor
  · intro h
    cases h with
    | refused h => exact ⟨_, h, rfl⟩
    | shapeless h => exact absurd rfl (h reference)
  · rintro ⟨error, h, rfl⟩
    exact .refused h

theorem text_decides (hn : ∀ name, ∃ found, t.naming.location name = .ok found)
    (reference : String) :
    Decides (t.target (.string reference)) (t.Reaches (.string reference))
      fun e => ∃ error, t.Refuses reference error ∧ e = .generation error := by
  refine .of_cases ?_ ?_ ?_
  · rintro ⟨name, h, ⟨_, hm⟩, location, hl⟩
    obtain ⟨definition, hd⟩ := member?_isSome_of_mem hm
    exact ⟨location, target_eq_ok.mpr
      ⟨name, definition, Document.resolve_eq_ok_iff.mpr ⟨h, hd⟩, hl⟩⟩
  · rintro _ ⟨error, hrefuse, rfl⟩
    cases hrefuse with
    | foreign h =>
      have hp : Text.afterPrefix? referencePrefix reference = none :=
        Option.eq_none_iff_forall_ne_some.mpr fun name hs =>
          h name (Text.afterPrefix?_eq_some.mp hs)
      simp [target, Document.resolve, hp, bind, Except.bind]
    | @dangling name h hm =>
      have hd : member? name t.document.definitions = none :=
        Option.eq_none_iff_forall_ne_some.mpr fun definition hs => hm definition (mem_of_member? hs)
      simp [target, Document.resolve, Text.afterPrefix?_eq_some.mpr h, hd, bind, Except.bind]
    | excluded h hm hl =>
      obtain ⟨_, hm⟩ := hm
      obtain ⟨definition, hd⟩ := member?_isSome_of_mem hm
      have hr := Document.resolve_eq_ok_iff.mpr ⟨congrArg Json.string h, hd⟩
      simp [target, hr, hl, bind, Except.bind, Json.string?]
  · cases hp : Text.afterPrefix? referencePrefix reference with
    | none =>
      refine .inr ⟨_, _, .foreign fun name h => ?_, rfl⟩
      rw [Text.afterPrefix?_eq_some.mpr h] at hp
      cases hp
    | some name =>
      have h := Text.afterPrefix?_eq_some.mp hp
      by_cases hm : ∃ definition, (name, definition) ∈ t.document.definitions
      · obtain ⟨found, hl⟩ := hn name
        cases found with
        | none => exact .inr ⟨_, _, .excluded h hm hl, rfl⟩
        | some location => exact .inl ⟨name, congrArg Json.string h, hm, location, hl⟩
      · exact .inr ⟨_, _, .dangling h (not_exists.mp hm), rfl⟩

theorem target_decides (hn : ∀ name, ∃ found, t.naming.location name = .ok found)
    (reference : Json) :
    Decides (t.target reference) (t.Reaches reference) (t.Stops reference) := by
  by_cases htext : ∃ text, reference = .string text
  · obtain ⟨text, rfl⟩ := htext
    exact (text_decides hn text).congr Iff.rfl fun failure => stops_string.symm
  · have hshape : ∀ text, reference ≠ .string text := not_exists.mp htext
    refine .of_cases ?_ ?_ (.inr ⟨_, .shapeless hshape⟩)
    · rintro ⟨name, h, _⟩
      exact absurd h (hshape _)
    · intro failure h
      cases h with
      | refused => exact absurd rfl (hshape _)
      | shapeless =>
        cases reference with
        | string text => exact absurd rfl (hshape text)
        | _ => rfl

/-- Only the reference at its end can be wrong with a value that was read. -/
theorem spelling_decides {value : Value} (hv : value.Readable) {good : Json → Prop}
    {bad : Json → Failure → Prop}
    (h : ∀ reference, value.reference? = some reference →
      Decides (t.referenceSpelling reference) (good reference) (bad reference)) :
    Decides (t.spelling value) (∀ reference, value.reference? = some reference → good reference)
      fun e => ∃ reference, value.reference? = some reference ∧ bad reference e := by
  induction hv with
  | ref target =>
    exact (h target rfl).congr (by simp [Value.reference?]) (by simp [Value.reference?])
  | @scalar type hs =>
    have hspelled : ∃ spelled, t.spelling (.scalar type) = .ok spelled := by
      simp only [Value.scalarTypes, List.mem_cons, List.not_mem_nil, or_false] at hs
      rcases hs with rfl | rfl | rfl | rfl <;> exact ⟨_, rfl⟩
    obtain ⟨spelled, hspelled⟩ := hspelled
    rw [hspelled]
    exact (Decides.pure spelled).congr (by simp [Value.reference?]) (by simp [Value.reference?])
  | array _ ih => exact Decides.map_iff.mpr (ih h)
  | map _ ih => exact Decides.map_iff.mpr (ih h)

end Typing

/-- The members that are only passed on are texts, save a type that is not given. -/
structure Document.WellTyped (document : Document) : Prop where
  references : ∀ entry ∈ document.definitions, ∀ properties,
    entry.2.properties = some properties → ∀ property ∈ properties, ∀ reference,
      property.2.value.reference? = some reference → ∃ text, reference = .string text
  served : ∀ entry ∈ document.definitions, ∀ one ∈ entry.2.served,
    ∃ group version kind, one = ⟨.string group, .string version, .string kind⟩
  types : ∀ entry ∈ document.definitions, entry.2.type = .null ∨ ∃ tag, entry.2.type = .string tag

/-- What a generator needs of its document and its settings to fail in foreseen ways only. -/
structure Generator.WellTyped (g : Generator) (typed : TypedSettings) : Prop where
  settings : g.settings = typed.settings
  read : ∃ wanted raw, Document.read wanted raw = .ok g.document
  document : g.document.WellTyped

/-- The same, but for the references. -/
structure Generator.Regular (g : Generator) (typed : TypedSettings) : Prop where
  settings : g.settings = typed.settings
  read : ∃ wanted raw, Document.read wanted raw = .ok g.document
  served : ∀ entry ∈ g.document.definitions, ∀ one ∈ entry.2.served,
    ∃ group version kind, one = ⟨.string group, .string version, .string kind⟩
  types : ∀ entry ∈ g.document.definitions,
    entry.2.type = .null ∨ ∃ tag, entry.2.type = .string tag

namespace Generator

variable {g : Generator} {typed : TypedSettings}

theorem WellTyped.regular (h : g.WellTyped typed) : g.Regular typed :=
  ⟨h.settings, h.read, h.document.served, h.document.types⟩

/-! ## Properties -/

/-- The property is narrowed, or what it refers to is there. -/
def Admits (g : Generator) (definition : Definition) (entry : String × Property) : Prop :=
  ¬ definition.Narrows entry.1 → ∀ reference, entry.2.value.reference? = some reference →
    g.typing.Reaches reference

/-- The property is not narrowed, and its reference is refused. -/
def Blocks (g : Generator) (definition : Definition) (entry : String × Property)
    (error : GenerationError) : Prop :=
  ¬ definition.Narrows entry.1 ∧ ∃ reference,
    entry.2.value.reference? = some (.string reference) ∧ g.typing.Refuses reference error

/-- The property is not narrowed, and its reference is stopped. -/
def Halts (g : Generator) (definition : Definition) (entry : String × Property)
    (failure : Failure) : Prop :=
  ¬ definition.Narrows entry.1 ∧ ∃ reference,
    entry.2.value.reference? = some reference ∧ g.typing.Stops reference failure

/-- If it refers to a text, the reference is refused. -/
theorem halts_iff {definition : Definition} {entry : String × Property} {failure : Failure}
    (htext : ∀ reference, entry.2.value.reference? = some reference →
      ∃ text, reference = .string text) :
    g.Halts definition entry failure ↔
      ∃ error, g.Blocks definition entry error ∧ failure = .generation error := by
  constructor
  · rintro ⟨hn, reference, hr, hstop⟩
    obtain ⟨text, rfl⟩ := htext reference hr
    obtain ⟨error, hrefuse, rfl⟩ := Typing.stops_string.mp hstop
    exact ⟨error, ⟨hn, text, hr, hrefuse⟩, rfl⟩
  · rintro ⟨error, ⟨hn, text, hr, hrefuse⟩, rfl⟩
    exact ⟨hn, _, hr, .refused hrefuse⟩

theorem Regular.referenceSpelling_decides (h : g.Regular typed) (reference : Json) :
    Decides (g.typing.referenceSpelling reference) (g.typing.Reaches reference)
      (g.typing.Stops reference) := by
  have hlocation : ∀ name, ∃ found, g.typing.naming.location name = .ok found := by
    intro name
    change ∃ found, g.settings.naming.location name = .ok found
    rw [h.settings]
    exact ⟨_, typed.location name⟩
  have hentry : ∀ location : Location, ∃ found,
      Table.entry? g.typing.replaced location.name = .ok found := by
    intro location
    change ∃ found, Table.entry? g.settings.replacedTypes location.name = .ok found
    rw [h.settings]
    exact ⟨_, typed.replacement location.name⟩
  refine (Typing.target_decides hlocation reference).bind_of_ok fun location _ => ?_
  -- looking up what replaces the type cannot fail
  obtain ⟨found, hf⟩ := hentry location
  rw [hf]
  exact ⟨_, rfl⟩

/-- A definition that is served under texts can be asked for the text of a property. -/
theorem Regular.exists_literalType (h : g.Regular typed) {entry : String × Definition}
    (he : entry ∈ g.document.definitions) (property : String) :
    ∃ found, literalType entry.2.served property = .ok found := by
  have hserved := h.served entry he
  unfold literalType
  split
  · rename_i one hs
    obtain ⟨group, version, kind, rfl⟩ := hserved one (by simp [hs])
    split
    · obtain ⟨texts, ht⟩ : ∃ texts, givenTexts [.string group, .string version] = .ok texts := by
        cases hg : group.isEmpty <;> cases hv : version.isEmpty <;>
          simp [givenTexts, hg, hv, Except.map]
      rw [ht]
      exact ⟨_, rfl⟩
    · split <;> exact ⟨_, rfl⟩
  · exact ⟨_, rfl⟩

theorem Regular.fieldOf_decides (h : g.Regular typed) {entry : String × Definition}
    (he : entry ∈ g.document.definitions) {properties : List (String × Property)}
    (hp : entry.2.properties = some properties) {property : String × Property}
    (hm : property ∈ properties) :
    Decides ((g.settings.builder g.document).fieldOf entry.2 property) (g.Admits entry.2 property)
      (g.Halts entry.2 property) := by
  obtain ⟨wanted, raw, hread⟩ := h.read
  have hspelling := Typing.spelling_decides (Document.read_readable hread he hp property hm)
    fun reference _ => h.referenceSpelling_decides reference
  refine .of_ok_bind (h.exists_literalType he property.1) fun found hfound => ?_
  have narrows := literalType_ok hfound
  cases found with
  | some text =>
    have hn : entry.2.Narrows property.1 := narrows.mp rfl
    refine (Decides.pure _).congr (iff_of_true trivial fun hnot => absurd hn hnot) fun e => ?_
    exact iff_of_false id fun hhalt => hhalt.1 hn
  | none =>
    have hn : ¬ entry.2.Narrows property.1 := fun hn => by cases narrows.mpr hn
    refine (hspelling.bind_of_ok fun type _ => ⟨_, rfl⟩).congr ?_ fun e => ?_
    · exact ⟨fun hall _ => hall, fun hadmits => hadmits hn⟩
    · exact ⟨fun hstop => ⟨hn, hstop⟩, fun hhalt => hhalt.2⟩

/-- A definition that is no object says its type, unless its name is redefined. -/
def SaysType (typed : TypedSettings) (located : Located) : Prop :=
  match member? located.location.name typed.redefinedTypes with
  | some types => types ≠ []
  | none => ∃ tag, located.definition.type = .string tag ∧ tag ≠ ""

/-- The definition can be declared. -/
def Sound (g : Generator) (typed : TypedSettings) (located : Located) : Prop :=
  if located.definition.isObject then
    ∀ properties, located.definition.properties = some properties →
      ∀ entry ∈ properties, g.Admits located.definition entry
  else SaysType typed located

/-- Why the definition cannot be declared: the first of its properties that is refused, or that it
says no type. -/
def Offends (g : Generator) (typed : TypedSettings) (located : Located) (error : GenerationError) :
    Prop :=
  if located.definition.isObject then
    ∃ properties, located.definition.properties = some properties ∧
      First (g.Admits located.definition) (g.Blocks located.definition) properties error
  else ¬ SaysType typed located ∧
    error = .untyped located.location.path located.location.name located.definition.type

/-- What generation is stopped with by the definition: by the first of its properties that halts it,
or that it says no type. -/
def Stalls (g : Generator) (typed : TypedSettings) (located : Located) (failure : Failure) :
    Prop :=
  if located.definition.isObject then
    ∃ properties, located.definition.properties = some properties ∧
      First (g.Admits located.definition) (g.Halts located.definition) properties failure
  else ¬ SaysType typed located ∧ failure =
    .generation (.untyped located.location.path located.location.name located.definition.type)

theorem Regular.interfaceOf_decides (h : g.Regular typed) {located : Located}
    (hl : (located.qualifiedName, located.definition) ∈ g.document.definitions)
    (ho : located.definition.isObject = true) :
    Decides ((g.settings.builder g.document).interfaceOf located.location.name located.definition)
      (g.Sound typed located) (g.Stalls typed located) := by
  unfold Sound Stalls
  rw [if_pos ho]
  simp only [if_pos ho]
  cases hp : located.definition.properties with
  | none =>
    unfold Builder.interfaceOf
    rw [hp]
    exact (Decides.pure _).congr (by simp) (by simp)
  | some properties =>
    have hfields := Decides.mapM fun property hm => h.fieldOf_decides hl hp hm
    unfold Builder.interfaceOf
    rw [hp]
    exact (hfields.bind_of_ok fun fields _ => ⟨_, rfl⟩).congr (by simp) fun e => by simp

theorem Regular.unionTypes (h : g.Regular typed) {located : Located}
    (hl : (located.qualifiedName, located.definition) ∈ g.document.definitions) :
    ∃ types, (g.settings.builder g.document).unionTypes located.location.name
        located.definition.type = .ok types ∧ (types ≠ [] ↔ SaysType typed located) := by
  have hentry : Table.entry? (g.settings.builder g.document).redefined located.location.name =
      .ok ((member? located.location.name typed.redefinedTypes).map
        fun types => .array (types.map .string)) := by
    change Table.entry? g.settings.redefinedTypes _ = _
    rw [h.settings]
    exact typed.redefinition _
  unfold Builder.unionTypes SaysType
  rw [hentry]
  cases member? located.location.name typed.redefinedTypes with
  | some types => exact ⟨types.map .string, rfl, by simp⟩
  | none =>
    rcases h.types _ hl with ht | ⟨tag, ht⟩ <;> dsimp only at ht <;> rw [ht]
    · exact ⟨[], rfl, by simp⟩
    · by_cases he : tag = ""
      · exact ⟨[], by rw [he]; rfl, by simp [he]⟩
      · refine ⟨[.string ((scalarType? tag).getD tag)], ?_, by simp [he]⟩
        simp [Builder.typesOfEntry, Builder.ownTypes, Json.isVoid, he, bind, Except.bind]

theorem Regular.unionOf_decides (h : g.Regular typed) {located : Located}
    (hl : (located.qualifiedName, located.definition) ∈ g.document.definitions)
    (ho : ¬ located.definition.isObject = true) :
    Decides ((g.settings.builder g.document).unionOf located.location.path located.location.name
        located.definition)
      (g.Sound typed located) (g.Stalls typed located) := by
  obtain ⟨types, ht, hsays⟩ := h.unionTypes hl
  unfold Sound Stalls Builder.unionOf
  rw [ht, if_neg ho]
  simp only [if_neg ho]
  cases types with
  | nil =>
    have hnot : ¬ SaysType typed located := fun hs => hsays.mpr hs rfl
    refine .of_cases (fun hs => absurd hs hnot) ?_ (.inr ⟨_, hnot, rfl⟩)
    rintro e ⟨_, rfl⟩
    rfl
  | cons type types =>
    have hs : SaysType typed located := hsays.mp nofun
    refine .of_cases (fun _ => ⟨_, rfl⟩) ?_ (.inl hs)
    rintro e ⟨hnot, _⟩
    exact absurd hs hnot

theorem Regular.declarationOf_decides (h : g.Regular typed) {located : Located}
    (hl : (located.qualifiedName, located.definition) ∈ g.document.definitions) :
    Decides (g.declarationOf located) (g.Sound typed located) (g.Stalls typed located) := by
  unfold declarationOf Builder.declarationOf
  split
  · rename_i ho
    exact h.interfaceOf_decides hl ho
  · rename_i ho
    exact h.unionOf_decides hl ho

/-- If all references are texts, generation is stopped by what the definition offends with. -/
theorem WellTyped.stalls_iff (h : g.WellTyped typed) {located : Located}
    (hl : (located.qualifiedName, located.definition) ∈ g.document.definitions)
    {failure : Failure} : g.Stalls typed located failure ↔
      ∃ error, g.Offends typed located error ∧ failure = .generation error := by
  unfold Stalls Offends
  split
  · have hfirst : ∀ properties, located.definition.properties = some properties →
        (First (g.Admits located.definition) (g.Halts located.definition) properties failure ↔
          ∃ error, First (g.Admits located.definition) (g.Blocks located.definition) properties
            error ∧ failure = .generation error) := by
      intro properties hp
      rw [← first_reason]
      exact first_congr fun property hm => halts_iff (h.document.references _ hl _ hp property hm)
    constructor
    · rintro ⟨properties, hp, hstop⟩
      obtain ⟨error, hoffend, he⟩ := (hfirst properties hp).mp hstop
      exact ⟨error, ⟨properties, hp, hoffend⟩, he⟩
    · rintro ⟨error, ⟨properties, hp, hoffend⟩, he⟩
      exact ⟨properties, hp, (hfirst properties hp).mpr ⟨error, hoffend, he⟩⟩
  · constructor
    · rintro ⟨hnot, rfl⟩
      exact ⟨_, ⟨hnot, rfl⟩, rfl⟩
    · rintro ⟨error, ⟨hnot, rfl⟩, rfl⟩
      exact ⟨hnot, rfl⟩

/-! ## Projects -/

/-- With settings of the right types it is always settled whether a definition is declared. -/
theorem placeOf_eq (hs : g.settings = typed.settings) (entry : String × Definition) :
    g.placeOf entry = .ok (g.located? entry) := by
  unfold placeOf located?
  rw [hs, typed.location entry.1]
  cases Naming.locate typed.namespacePrefixes typed.fileExtension entry.1 with
  | none => rfl
  | some location =>
    have hentry := typed.replacement location.name
    have hlists := Table.entry?_ok hentry
    change (Table.entry? _ _ >>= _) = _
    rw [hentry]
    dsimp only
    rw [hlists]
    cases member? location.name typed.replacedTypes <;> rfl

theorem definitions_outcome (hs : g.settings = typed.settings) (log : Log) :
    (g.definitions.outcome { log }).1 = .ok (g.ordered.filterMap g.located?) := by
  have hplaced : g.ordered.mapM g.placeOf = .ok (g.ordered.map g.located?) := by
    rw [funext (placeOf_eq hs)]
    exact List.mapM_pure
  rw [(g.definitions_yields { log } trivial).1, hplaced]
  change Except.ok ((g.ordered.map g.located?).filterMap id) = _
  rw [List.filterMap_map, Function.id_comp]

/-- Definitions are declared in the order of their names. -/
theorem pairwise_declared :
    (g.ordered.filterMap g.located?).Pairwise fun a b => a.qualifiedName ≤ b.qualifiedName := by
  refine (pairwise_sortedBy Prod.fst g.document.definitions).filterMap _ ?_
  intro a b hab located hl located' hl'
  obtain ⟨rfl, _⟩ := located?_eq_some.mp hl
  obtain ⟨rfl, _⟩ := located?_eq_some.mp hl'
  exact hab

theorem Regular.generate_decides (h : g.Regular typed) (log : Log) :
    Decides (g.generate.outcome { log }).1
      (∀ located ∈ g.ordered.filterMap g.located?, g.Sound typed located)
      (First (g.Sound typed) (g.Stalls typed) (g.ordered.filterMap g.located?)) := by
  rw [← Decides.map_iff (f := fun _ => ()),
    generate_outcome (definitions_outcome h.settings log)]
  exact .forM fun located hl =>
    Decides.map_iff.mpr (h.declarationOf_decides (mem_declared.mp hl).1)

theorem WellTyped.generate_decides (h : g.WellTyped typed) (log : Log) :
    Decides (g.generate.outcome { log }).1
      (∀ located ∈ g.ordered.filterMap g.located?, g.Sound typed located)
      (First (g.Sound typed)
        (fun located e => ∃ error, g.Offends typed located error ∧ e = .generation error)
        (g.ordered.filterMap g.located?)) :=
  (h.regular.generate_decides log).congr Iff.rfl fun _ =>
    first_congr fun _ hl => h.stalls_iff (mem_declared.mp hl).1

/-- What becomes of a document that was read, under settings of the right types. -/
theorem generate_verdict (h : g.WellTyped typed) (log : Log) :
    ∃ declared, (g.definitions.outcome { log }).1 = .ok declared ∧
      declared.Pairwise (fun a b => a.qualifiedName ≤ b.qualifiedName) ∧
      ((∃ project, (g.generate.outcome { log }).1 = .ok project) ↔
        ∀ located ∈ declared, g.Sound typed located) ∧
      ∀ failure, (g.generate.outcome { log }).1 = .error failure ↔
        ∃ error, First (g.Sound typed) (g.Offends typed) declared error ∧
          failure = .generation error := by
  have hdecides := h.generate_decides log
  exact ⟨_, definitions_outcome h.settings log, pairwise_declared, hdecides.ok,
    fun failure => (hdecides.error failure).trans first_reason⟩

/-- A schema with an object whose `kind` is narrowed, so that nothing has to be where that refers
to, but which then refers to what has no location; a definition behind it says no type. -/
def flawedSchema : Json := .object [("definitions", .object [
  ("Hidden", .object [("type", .string "object")]),
  ("io.k8s.api.a.Job", .object [
    ("type", .string "object"),
    ("properties", .object [
      ("kind", .object [("$ref", .string "nowhere")]),
      ("spec", .object [("type", .string "array"),
        ("items", .object [("$ref", .string "#/definitions/Hidden")])])]),
    ("x-kubernetes-group-version-kind", .array [.object [("kind", .string "Job")]])]),
  ("io.k8s.api.b.Plain", .object [])])]

def flawedJob : Definition where
  description := .null
  type := .string "object"
  required := []
  properties := some [
    ("kind", ⟨.ref (.string "nowhere"), .null⟩),
    ("spec", ⟨.array (.ref (.string "#/definitions/Hidden")), .null⟩)]
  served := [⟨.string "", .string "", .string "Job"⟩]

def flawed : Generator where
  settings := .standard
  document := {
    title := .string ""
    version := .string ""
    definitions := [
      ("Hidden", ⟨.null, .string "object", [], none, []⟩),
      ("io.k8s.api.a.Job", flawedJob),
      ("io.k8s.api.b.Plain", ⟨.null, .null, [], none, []⟩)] }

theorem flawed_read :
    Document.read Settings.standard.naming.hasLocation flawedSchema = .ok flawed.document := by
  rfl

theorem flawed_wellTyped : flawed.WellTyped .standard where
  settings := rfl
  read := ⟨_, _, flawed_read⟩
  document := by
    constructor
    · simp only [flawed, flawedJob, List.mem_cons, List.not_mem_nil, or_false]
      rintro entry (rfl | rfl | rfl) properties hp <;> cases hp
      rintro property hproperty reference hr
      simp only [List.mem_cons, List.not_mem_nil, or_false] at hproperty
      rcases hproperty with rfl | rfl <;> cases hr <;> exact ⟨_, rfl⟩
    · simp [flawed, flawedJob]
    · simp [flawed, flawedJob]

theorem generate_verdict_of_flawed :
    flawed.WellTyped .standard ∧
      (flawed.generate.outcome {}).1 =
        .error (.generation (.excludedReference "#/definitions/Hidden")) ∧
      ∃ declared, (flawed.definitions.outcome {}).1 = .ok declared ∧
        declared.Pairwise (fun a b => a.qualifiedName ≤ b.qualifiedName) ∧
        ((∃ project, (flawed.generate.outcome {}).1 = .ok project) ↔
          ∀ located ∈ declared, flawed.Sound .standard located) ∧
        ∀ failure, (flawed.generate.outcome {}).1 = .error failure ↔
          ∃ error, First (flawed.Sound .standard) (flawed.Offends .standard) declared error ∧
            failure = .generation error :=
  ⟨flawed_wellTyped, by cbv, generate_verdict flawed_wellTyped []⟩

end Generator

end ApiTypings
