import ApiTypings.Proofs.Members
import ApiTypings.Proofs.Pieces
import ApiTypings.Proofs.Series
import ApiTypings.Schema.Document

/-!
# What is read from a schema

A schema is read definition by definition, each from what stands under its name alone.
Every value that is read is a reference, a scalar of a known type, or a list or a map of
such values.
-/

namespace ApiTypings

/-- The value is of a kind that a schema can have. -/
inductive Value.Readable : Value → Prop
  | ref (target : Json) : Readable (.ref target)
  | scalar {type : String} (h : type ∈ scalarTypes) : Readable (.scalar type)
  | array {items : Value} (h : Readable items) : Readable (.array items)
  | map {entries : Value} (h : Readable entries) : Readable (.map entries)

namespace Value

mutual

theorem read_readable : ∀ (raw : Json) {path : String} {value : Value},
    read path raw = .ok value → value.Readable
  | .object members, path, value, h => by
    unfold read at h
    split at h
    · cases h
      exact .ref _
    · split at h
      · cases h
      · cases h
      · split at h
        · rename_i hs
          cases h
          exact .scalar hs
        · split at h
          · split at h
            · cases h
            · rename_i items hi
              obtain ⟨value, hv, rfl⟩ := map_ok h
              exact .array (readMember_readable members (hv ▸ hi))
          · split at h
            · split at h
              · cases h
              · rename_i entries he
                obtain ⟨value, hv, rfl⟩ := map_ok h
                exact .map (readMember_readable members (hv ▸ he))
            · cases h
      · cases h
  | .null, _, _, h => by simp [read] at h
  | .bool _, _, _, h => by simp [read] at h
  | .int _, _, _, h => by simp [read] at h
  | .real _, _, _, h => by simp [read] at h
  | .string _, _, _, h => by simp [read] at h
  | .array _, _, _, h => by simp [read] at h

theorem readMember_readable :
    ∀ (members : List (String × Json)) {name path : String} {value : Value},
    readMember name path members = some (.ok value) → value.Readable
  | [], _, _, _, h => by simp [readMember] at h
  | (key, found) :: rest, name, path, value, h => by
    unfold readMember at h
    split at h
    · exact read_readable found (Option.some.inj h)
    · exact readMember_readable rest h

end

end Value

namespace Definition

theorem readProperties_ok {path : String} {raw : Json} {properties : List (String × Property)}
    (h : readProperties path raw = .ok properties) :
    ∀ entry ∈ properties, entry.2.value.Readable := by
  obtain ⟨members, _, h⟩ := bind_ok h
  intro entry he
  obtain ⟨_, _, hread⟩ := exists_of_forall₂ (mapM_eq_ok_iff.mp h).flip he
  obtain ⟨property, hp, hread⟩ := bind_ok hread
  cases hread
  obtain ⟨value, hv, hp⟩ := bind_ok hp
  cases hp
  exact Value.read_readable _ hv

/-- The properties of a definition, as far as they are wanted. -/
def readContent (path : String) (wanted : Bool) (members : List (String × Json)) :
    Except Failure (Option (List (String × Property))) :=
  match (member? "properties" members).getD .null with
  | .null => .ok none
  | found => if wanted then some <$> readProperties path found else .ok none

/-- The rest of a definition, which is read after its properties. -/
def readRest (members : List (String × Json)) (properties : Option (List (String × Property))) :
    Except Failure Definition := do
  let member (name : String) : Json := (member? name members).getD .null
  let served ← (← (member servedMember).partsOrNone).mapM GroupVersionKind.read
  let required ← (member "required").partsOrNone
  return { description := member "description", type := member "type", required, properties,
           served }

theorem read_object (path : String) (wanted : Bool) (members : List (String × Json)) :
    read path wanted (.object members) = readContent path wanted members >>= readRest members := by
  unfold read readContent
  dsimp only
  generalize (member? "properties" members).getD .null = found
  cases found with
  | null => rfl
  | _ => cases wanted <;> rfl

theorem readContent_unwanted (path : String) (members : List (String × Json)) :
    readContent path false members = .ok none := by
  unfold readContent
  split <;> rfl

/-- What the rest is does not depend on the properties. -/
theorem readRest_ok {members : List (String × Json)}
    {properties : Option (List (String × Property))} {definition : Definition}
    (h : readRest members properties = .ok definition) :
    definition.properties = properties ∧
      ∀ others, readRest members others = .ok { definition with properties := others } := by
  obtain ⟨parts, hparts, h⟩ := bind_ok h
  obtain ⟨served, hserved, h⟩ := bind_ok h
  obtain ⟨required, hrequired, h⟩ := bind_ok h
  cases h
  refine ⟨rfl, fun others => ?_⟩
  simp only [readRest, hparts, hserved, hrequired, bind, Except.bind]
  rfl

theorem readContent_ok {path : String} {wanted : Bool} {members : List (String × Json)}
    {properties : List (String × Property)}
    (h : readContent path wanted members = .ok (some properties)) :
    ∀ entry ∈ properties, entry.2.value.Readable := by
  unfold readContent at h
  split at h
  · cases h
  · split at h
    · obtain ⟨_, hread, hsome⟩ := map_ok h
      cases hsome
      exact readProperties_ok hread
    · cases h

theorem read_readable {path : String} {wanted : Bool} {raw : Json} {definition : Definition}
    (h : read path wanted raw = .ok definition) {properties : List (String × Property)}
    (hp : definition.properties = some properties) :
    ∀ entry ∈ properties, entry.2.value.Readable := by
  cases raw with
  | object members =>
    rw [read_object] at h
    obtain ⟨found, hfound, hrest⟩ := bind_ok h
    have hproperties : some properties = found := hp.symm.trans (readRest_ok hrest).1
    subst hproperties
    exact readContent_ok hfound
  | _ => cases h

end Definition

namespace Document

/-- A reference resolves to the definition whose name stands behind the prefix. -/
theorem resolve_eq_ok_iff {document : Document} {target : Json} {name : String}
    {definition : Definition} :
    document.resolve target = .ok (name, definition) ↔
      target = .string (referencePrefix ++ name) ∧
        member? name document.definitions = some definition := by
  constructor
  · intro h
    unfold resolve at h
    split at h
    · split at h
      · cases h
      · rename_i hp
        split at h
        · rename_i hm
          cases h
          exact ⟨congrArg Json.string (Text.afterPrefix?_eq_some.mp hp), hm⟩
        · cases h
    · cases h
  · rintro ⟨rfl, hm⟩
    simp only [resolve, Text.afterPrefix?_eq_some.mpr rfl, hm]

/-- The definitions of a schema as they stand there. -/
def rawDefinitions (raw : Json) : List (String × Json) :=
  match raw.get? "definitions" with
  | some (.object members) => members
  | _ => []

theorem rawDefinitions_of_get {raw : Json} {members : List (String × Json)}
    (h : raw.get? "definitions" = some (.object members)) : rawDefinitions raw = members := by
  unfold rawDefinitions
  rw [h]

/-- The definition is what stands under its name, read as far as it is wanted. -/
def ReadFrom (wanted : String → Except Failure Bool) (found : String × Json)
    (entry : String × Definition) : Prop :=
  entry.1 = found.1 ∧ ∃ whole, wanted found.1 = .ok whole ∧
    Definition.read (referencePrefix ++ found.1) whole found.2 = .ok entry.2

theorem readDefinitions_ok {wanted : String → Except Failure Bool} {members : List (String × Json)}
    {definitions : List (String × Definition)}
    (h : readDefinitions wanted members = .ok definitions) :
    List.Forall₂ (ReadFrom wanted) members definitions := by
  induction members generalizing definitions with
  | nil =>
    cases h
    exact .nil
  | cons found rest ih =>
    obtain ⟨whole, hw, h⟩ := bind_ok h
    obtain ⟨definition, hd, h⟩ := bind_ok h
    obtain ⟨others, ho, h⟩ := bind_ok h
    cases h
    exact .cons ⟨rfl, whole, hw, hd⟩ (ih ho)

/-- What a schema says of itself. -/
def infoOf (raw : Json) : Except Failure (List (String × Json)) :=
  let info := (raw.get? "info").getD .null
  if info.isVoid then .ok [] else info.members

/-- The document of some definitions, named as the schema says. -/
def labelled (info : List (String × Json)) (definitions : List (String × Definition)) :
    Document where
  title := (member? "title" info).getD (.string "")
  version := (member? "version" info).getD (.string "")
  definitions

theorem read_eq {wanted : String → Except Failure Bool} {raw : Json}
    {members : List (String × Json)} (h : raw.get? "definitions" = some (.object members)) :
    read wanted raw = (do
      let info ← infoOf raw
      return labelled info (← readDefinitions wanted members)) := by
  unfold read infoOf
  rw [h]
  dsimp only
  split <;> rfl

theorem exists_of_read {wanted : String → Except Failure Bool} {raw : Json} {document : Document}
    (h : read wanted raw = .ok document) :
    ∃ members, raw.get? "definitions" = some (.object members) := by
  unfold read at h
  split at h
  · rename_i members hm
    exact ⟨members, hm⟩
  · cases h

theorem read_ok {wanted : String → Except Failure Bool} {raw : Json} {document : Document}
    (h : read wanted raw = .ok document) :
    List.Forall₂ (ReadFrom wanted) (rawDefinitions raw) document.definitions := by
  obtain ⟨members, hm⟩ := exists_of_read h
  rw [read_eq hm] at h
  obtain ⟨info, _, h⟩ := bind_ok h
  obtain ⟨definitions, hd, h⟩ := bind_ok h
  cases h
  rw [rawDefinitions_of_get hm]
  exact readDefinitions_ok hd

theorem read_readable {wanted : String → Except Failure Bool} {raw : Json} {document : Document}
    (h : read wanted raw = .ok document) {entry : String × Definition}
    (he : entry ∈ document.definitions) {properties : List (String × Property)}
    (hp : entry.2.properties = some properties) :
    ∀ property ∈ properties, property.2.value.Readable := by
  obtain ⟨_, _, _, _, _, hd⟩ := exists_of_forall₂ (read_ok h).flip he
  exact Definition.read_readable hd hp

end Document

end ApiTypings
