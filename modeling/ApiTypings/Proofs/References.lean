import ApiTypings.Proofs.Projects
import ApiTypings.Proofs.Series
import ApiTypings.Typing.Building

/-!
# What a definition refers to

A value ends in at most one reference, and a definition mentions those of the
properties that become fields of their own type. Building the declaration of a
definition follows each of them, imports the names of those that are not
replaced, and does nothing else to the module.
-/

namespace ApiTypings

/-- The reference at the end of a value, under any nesting of lists and maps. -/
def Value.reference? : Value → Option Json
  | .ref target => some target
  | .array items => items.reference?
  | .map entries => entries.reference?
  | _ => none

/-- The type of a value in which the reference at the end has the inner type. -/
def Value.around : Value → Json → Json
  | .array items, inner => listOf (items.around inner)
  | .map entries, inner => mapTo (entries.around inner)
  | _, inner => inner

/-- The property has a single possible text, as the definition is served in one way only. -/
def Definition.Narrows (d : Definition) (property : String) : Prop :=
  d.served.length = 1 ∧ (property = "apiVersion" ∨ property = "kind")

instance (d : Definition) (property : String) : Decidable (d.Narrows property) :=
  inferInstanceAs (Decidable (_ ∧ _))

/-- The definition is an object with a property that is not narrowed and ends in the reference. -/
def Definition.Mentions (d : Definition) (reference : Json) : Prop :=
  d.isObject = true ∧ ∃ properties, d.properties = some properties ∧
    ∃ entry ∈ properties, ¬ d.Narrows entry.1 ∧ entry.2.value.reference? = some reference

/-! ## Following references -/

theorem Table.entry?_ok {table : Json} {name : String} {found : Option Json}
    (h : Table.entry? table name = .ok found) : Table.lists table name = .ok found.isSome := by
  obtain ⟨listed, hl, h⟩ := bind_ok h
  cases listed with
  | false =>
    cases h
    exact hl
  | true =>
    obtain ⟨entry, _, h⟩ := bind_ok h
    cases h
    exact hl

namespace Typing

/-- The reference leads to a location, and it can be told whether the type there is replaced. -/
def Follows (t : Typing) (reference : Json) (location : Location) (replaced : Bool) : Prop :=
  t.target reference = .ok location ∧ Table.lists t.replaced location.name = .ok replaced

/-- The reference at the end of the value can be followed, and unless it is replaced the type is
spelled around the name that it leads to. -/
def Spells (t : Typing) (value : Value) (type : Json) : Prop :=
  ∀ reference, value.reference? = some reference →
    ∃ location replaced, t.Follows reference location replaced ∧
      (replaced = false → type = value.around (.string location.name))

/-- A reference leads to the location of the name that it resolves to. -/
theorem target_eq_ok {t : Typing} {reference : Json} {location : Location} :
    t.target reference = .ok location ↔
      ∃ name definition, t.document.resolve reference = .ok (name, definition) ∧
        t.naming.location name = .ok (some location) := by
  constructor
  · intro h
    obtain ⟨⟨name, definition⟩, hr, h⟩ := bind_ok h
    obtain ⟨found, hn, h⟩ := bind_ok h
    cases found with
    | none => cases h
    | some found =>
      cases h
      exact ⟨name, definition, hr, hn⟩
  · rintro ⟨name, definition, hr, hn⟩
    simp only [target, hr, hn, bind, Except.bind]
    rfl

/-- What a module that holds the value has to import: the location of the reference at its end,
unless its type is replaced. -/
def needs (t : Typing) (value : Value) : List Location :=
  match value.reference?.map t.target with
  | some (.ok location) =>
    match Table.lists t.replaced location.name with
    | .ok false => [location]
    | _ => []
  | _ => []

theorem needs_of_follows {t : Typing} {value : Value} {reference : Json} {location : Location}
    {replaced : Bool} (hv : value.reference? = some reference)
    (h : t.Follows reference location replaced) :
    t.needs value = if replaced then [] else [location] := by
  simp only [needs, hv, Option.map_some, h.1, h.2]
  cases replaced <;> rfl

theorem needs_eq_nil {t : Typing} {value : Value} (h : value.reference? = none) :
    t.needs value = [] := by
  simp [needs, h]

theorem mem_needs {t : Typing} {value : Value} {location : Location} :
    location ∈ t.needs value ↔
      ∃ reference, value.reference? = some reference ∧ t.Follows reference location false := by
  constructor
  · intro h
    unfold needs at h
    split at h
    · rename_i found hf
      obtain ⟨reference, hv, ht⟩ := Option.map_eq_some_iff.mp hf
      split at h
      · rename_i hl
        rw [List.mem_singleton.mp h]
        exact ⟨reference, hv, ht, hl⟩
      · cases h
    · cases h
  · rintro ⟨reference, hv, h⟩
    simp [needs_of_follows hv h]

theorem referenceType_returns {t : Typing} {reference type : Json} {d d' : Draft}
    (h : Task.Returns (t.referenceType reference) d type d') :
    ∃ location replaced, t.Follows reference location replaced ∧
      (replaced = false → type = .string location.name) ∧
      d' = { d with module := d.module.importingAll (if replaced then [] else [location]) } := by
  obtain ⟨location, _, ht, rest⟩ := h.bind
  obtain ⟨target, rfl⟩ := ht.ofExcept
  obtain ⟨found, _, he, last⟩ := rest.bind
  obtain ⟨entry, rfl⟩ := he.ofExcept
  refine ⟨location, found.isSome, ⟨target, Table.entry?_ok entry⟩, ?_⟩
  cases found with
  | some replacement =>
    obtain ⟨_, rfl⟩ := last.pure
    exact ⟨nofun, rfl⟩
  | none =>
    obtain ⟨_, u, hi, ret⟩ := last.bind
    obtain ⟨rfl, rfl⟩ := ret.pure
    rw [hi.modify]
    exact ⟨fun _ => rfl, rfl⟩

/-- Typing a value spells its type and imports what it needs, whatever lists and maps stand around
the reference at its end. -/
theorem typeOf_returns {t : Typing} {value : Value} {type : Json} {d d' : Draft}
    (h : Task.Returns (t.typeOf value) d type d') :
    d' = { d with module := d.module.importingAll (t.needs value) } ∧ t.Spells value type := by
  induction value generalizing type with
  | ref target =>
    obtain ⟨location, replaced, hf, ht, hd⟩ := referenceType_returns h
    rw [needs_of_follows rfl hf]
    refine ⟨hd, fun reference hr => ?_⟩
    cases hr
    exact ⟨location, replaced, hf, ht⟩
  | scalar type =>
    unfold typeOf at h
    split at h
    · obtain ⟨_, rfl⟩ := h.pure
      exact ⟨by rw [needs_eq_nil rfl]; rfl, fun _ hr => by cases hr⟩
    · exact h.throw.elim
  -- lists and maps only write something around the type, so the reference stays the same one
  | array items ih =>
    obtain ⟨inner, hinner, rfl⟩ := h.map
    obtain ⟨hd, hs⟩ := ih hinner
    refine ⟨hd, fun reference hr => ?_⟩
    obtain ⟨location, replaced, hf, ht⟩ := hs reference hr
    exact ⟨location, replaced, hf, fun hk => by rw [ht hk, Value.around]⟩
  | map entries ih =>
    obtain ⟨inner, hinner, rfl⟩ := h.map
    obtain ⟨hd, hs⟩ := ih hinner
    refine ⟨hd, fun reference hr => ?_⟩
    obtain ⟨location, replaced, hf, ht⟩ := hs reference hr
    exact ⟨location, replaced, hf, fun hk => by rw [ht hk, Value.around]⟩
  | oddScalar type =>
    unfold typeOf at h
    split at h <;> exact h.throw.elim
  | foreign found => exact h.throw.elim

end Typing

/-! ## Building from a definition -/

theorem literalType_ok {d : Definition} {property : String} {found : Option String}
    (h : literalType d.served property = .ok found) : found.isSome = true ↔ d.Narrows property := by
  unfold Definition.Narrows
  unfold literalType at h
  split at h
  · rename_i one hs
    rw [hs]
    split at h
    · rename_i hp
      obtain ⟨texts, _, h⟩ := bind_ok h
      cases h
      simp [hp]
    · split at h <;> cases h <;> simp_all
  · rename_i hs
    cases h
    simp only [Option.isSome_none, Bool.false_eq_true, false_iff, not_and]
    intro hl
    obtain ⟨one, ho⟩ := List.length_eq_one_iff.mp hl
    exact absurd ho (hs one)

namespace Typing

/-- What a property adds to that, when it is one of the definition. -/
def needsOfProperty (t : Typing) (definition : Definition) (entry : String × Property) :
    List Location :=
  if definition.Narrows entry.1 then [] else t.needs entry.2.value

/-- What the module that declares a definition has to import for it. -/
def needsOf (t : Typing) (definition : Definition) : List Location :=
  if definition.isObject then
    (definition.properties.getD []).flatMap (t.needsOfProperty definition)
  else []

theorem mem_needsOfProperty {t : Typing} {definition : Definition} {entry : String × Property}
    {location : Location} :
    location ∈ t.needsOfProperty definition entry ↔ ¬ definition.Narrows entry.1 ∧
      ∃ reference, entry.2.value.reference? = some reference ∧
        t.Follows reference location false := by
  unfold needsOfProperty
  split
  · rename_i hn
    simp [hn]
  · rename_i hn
    rw [mem_needs, and_iff_right hn]

theorem mem_needsOf {t : Typing} {definition : Definition} {location : Location} :
    location ∈ t.needsOf definition ↔
      ∃ reference, definition.Mentions reference ∧ t.Follows reference location false := by
  unfold needsOf Definition.Mentions
  by_cases ho : definition.isObject = true
  · rw [if_pos ho, List.mem_flatMap]
    constructor
    · rintro ⟨entry, he, hl⟩
      cases hp : definition.properties with
      | none => simp [hp] at he
      | some properties =>
        rw [hp] at he
        obtain ⟨hn, reference, hv, hf⟩ := mem_needsOfProperty.mp hl
        exact ⟨reference, ⟨ho, properties, rfl, entry, he, hn, hv⟩, hf⟩
    · rintro ⟨reference, ⟨_, properties, hp, entry, he, hn, hv⟩, hf⟩
      exact ⟨entry, by rw [hp]; exact he, mem_needsOfProperty.mpr ⟨hn, reference, hv, hf⟩⟩
  · rw [if_neg ho]
    simp [ho]

/-- The field is that of the property: it has its name, and its type unless that is narrowed. -/
def Carries (t : Typing) (definition : Definition) (entry : String × Property)
    (field : Field Json) : Prop :=
  field.name = entry.1 ∧ (¬ definition.Narrows entry.1 → t.Spells entry.2.value field.type)

/-- The declaration is that of the definition: it has the name, and that of an object is an
interface with a field for each property. -/
def Declares (t : Typing) (name : String) (definition : Definition)
    (declaration : Declaration Json) : Prop :=
  declaration.name? = some name ∧
    (definition.isObject = true → ∀ properties, definition.properties = some properties →
      ∃ description fields, declaration = .interface name description fields ∧
        List.Forall₂ (t.Carries definition) properties fields)

/-- Every reference that a definition mentions could be followed where it is declared. -/
theorem Declares.follows {t : Typing} {name : String} {definition : Definition}
    {declaration : Declaration Json} {reference : Json} (h : t.Declares name definition declaration)
    (hm : definition.Mentions reference) :
    ∃ location replaced, t.Follows reference location replaced := by
  obtain ⟨ho, properties, hp, entry, he, hn, hv⟩ := hm
  obtain ⟨_, fields, _, hfields⟩ := h.2 ho properties hp
  obtain ⟨field, _, hc⟩ := exists_of_forall₂ hfields he
  obtain ⟨location, replaced, hf, _⟩ := hc.2 hn reference hv
  exact ⟨location, replaced, hf⟩

end Typing

namespace Builder

variable {b : Builder} {name : String} {definition : Definition} {d d' : Draft}

theorem buildField_returns {entry : String × Property} {field : Field Json}
    (h : Task.Returns (b.buildField definition entry) d field d') :
    d' = { d with module := d.module.importingAll (b.needsOfProperty definition entry) } ∧
      b.Carries definition entry field := by
  obtain ⟨found, _, hl, rest⟩ := h.bind
  obtain ⟨literal, rfl⟩ := hl.ofExcept
  have narrows := literalType_ok literal
  cases found with
  | some text =>
    obtain ⟨rfl, rfl⟩ := rest.pure
    have hn : definition.Narrows entry.1 := narrows.mp rfl
    exact ⟨by rw [Typing.needsOfProperty, if_pos hn]; rfl, rfl, fun h => absurd hn h⟩
  | none =>
    obtain ⟨type, u, ht, ret⟩ := rest.bind
    obtain ⟨rfl, rfl⟩ := ret.pure
    have hn : ¬ definition.Narrows entry.1 := fun h => by cases narrows.mpr h
    obtain ⟨hd, hs⟩ := Typing.typeOf_returns ht
    exact ⟨by rw [Typing.needsOfProperty, if_neg hn]; exact hd, rfl, fun _ => hs⟩

theorem mapM_buildField_returns {properties : List (String × Property)} {fields : List (Field Json)}
    (h : Task.Returns (properties.mapM (b.buildField definition)) d fields d') :
    d' = { d with
      module := d.module.importingAll (properties.flatMap (b.needsOfProperty definition)) } ∧
      List.Forall₂ (b.Carries definition) properties fields := by
  induction properties generalizing d fields with
  | nil =>
    obtain ⟨rfl, rfl⟩ := h.pure
    exact ⟨rfl, .nil⟩
  | cons entry rest ih =>
    obtain ⟨field, u, others, hfield, hothers, rfl⟩ := h.mapM_cons
    obtain ⟨hu, hentry⟩ := buildField_returns hfield
    obtain ⟨hd, hrest⟩ := ih hothers
    refine ⟨?_, .cons hentry hrest⟩
    rw [hd, hu, List.flatMap_cons, Module.importingAll_append]

/-- What is noted about a definition: that its interface has no properties. -/
def warnings (path name : String) (definition : Definition) : Log :=
  if definition.isObject ∧ definition.properties = none then [emptyInterface path name] else []

theorem buildInterface_returns {declaration : Declaration Json} (ho : definition.isObject = true)
    (h : Task.Returns (b.buildInterface name definition) d declaration d') :
    d' = { module := d.module.importingAll (b.needsOf definition),
           log := d.log ++ warnings d.module.path name definition } ∧
      b.Declares name definition declaration := by
  unfold buildInterface at h
  cases hp : definition.properties with
  | none =>
    rw [hp] at h
    obtain ⟨_, u, hg, rest⟩ := h.bind
    obtain ⟨rfl, rfl⟩ := hg.get
    obtain ⟨_, v, hn, last⟩ := rest.bind
    obtain ⟨rfl, rfl⟩ := last.pure
    refine ⟨?_, rfl, fun _ properties hsome => ?_⟩
    · rw [hn.modify, Typing.needsOf, if_pos ho, hp, warnings, if_pos ⟨ho, hp⟩]
      rfl
    · rw [hp] at hsome
      cases hsome
  | some properties =>
    rw [hp] at h
    obtain ⟨fields, u, hf, last⟩ := h.bind
    obtain ⟨rfl, rfl⟩ := last.pure
    obtain ⟨hd, hfields⟩ := mapM_buildField_returns hf
    refine ⟨?_, rfl, fun _ found hsome => ?_⟩
    · have hquiet : warnings d.module.path name definition = [] := by simp [warnings, hp]
      rw [hd, hquiet, List.append_nil, Typing.needsOf, if_pos ho, hp]
      rfl
    · rw [hp] at hsome
      cases hsome
      exact ⟨_, fields, rfl, hfields⟩

theorem buildUnion_returns {declaration : Declaration Json}
    (h : Task.Returns (b.buildUnion name definition) d declaration d') :
    declaration.name? = some name ∧ d' = d := by
  obtain ⟨types, _, ht, rest⟩ := h.bind
  obtain ⟨_, rfl⟩ := ht.ofExcept
  cases types with
  | nil =>
    obtain ⟨_, _, _, last⟩ := rest.bind
    exact last.throw.elim
  | cons type types =>
    obtain ⟨rfl, rfl⟩ := rest.pure
    exact ⟨rfl, rfl⟩

/-- Building a declaration imports what the definition needs, notes that it has no properties, and
leaves the rest alone. -/
theorem build_returns {declaration : Declaration Json}
    (h : Task.Returns (b.build name definition) d declaration d') :
    d' = { module := d.module.importingAll (b.needsOf definition),
           log := d.log ++ warnings d.module.path name definition } ∧
      b.Declares name definition declaration := by
  unfold build at h
  split at h
  · rename_i ho
    exact buildInterface_returns ho h
  · rename_i ho
    obtain ⟨hname, rfl⟩ := buildUnion_returns h
    refine ⟨?_, hname, fun h => absurd h ho⟩
    have hquiet : warnings d'.module.path name definition = [] := by simp [warnings, ho]
    rw [hquiet, List.append_nil, Typing.needsOf, if_neg ho]
    rfl

end Builder

end ApiTypings
