import ApiTypings.Proofs.Reading
import ApiTypings.Proofs.Values

/-!
# The grammar of values

Exactly the well-formed values are read. A value that is not leads down to one that breaks the
grammar itself, and to no other, and the message names the place of that one. The least that
says what a value is, is read back as that value.
-/

namespace ApiTypings

namespace Value

/-- The value refers to something, or is a scalar, or another one is nested in it that is
well-formed. -/
inductive WellFormed : Json → Prop
  | ref {raw target : Json} (h : Refers raw target) : WellFormed raw
  | scalar {raw : Json} {type : String} (ht : Tagged raw (.string type)) (hs : type ∈ scalarTypes) :
    WellFormed raw
  | nested {raw inner : Json} {n : Nesting} (ht : Tagged raw (.string n.type))
    (hi : raw.get? n.member = some inner) (h : WellFormed inner) : WellFormed raw

/-- The value breaks the grammar itself, whatever is nested in it. -/
structure Breaks (raw : Json) : Prop where
  unreferred : ∀ target, ¬ Refers raw target
  untyped : ∀ type ∈ scalarTypes, ¬ Tagged raw (.string type)
  childless : ∀ n : Nesting, Tagged raw (.string n.type) → ∀ inner, raw.get? n.member ≠ some inner

variable {raw inner found target : Json} {path type : String} {value : Value}
  {n : Nesting} {steps : List Nesting}

theorem wellFormed_iff_describes : WellFormed raw ↔ ∃ value, Describes raw value := by
  constructor
  · intro h
    induction h with
    | ref h => exact ⟨_, .ref h⟩
    | scalar ht hs => exact ⟨_, .scalar ht hs⟩
    | @nested _ _ n ht hi _ ih =>
      obtain ⟨value, hv⟩ := ih
      exact ⟨n.wrap value, .nested ht hi hv⟩
  · intro h
    obtain ⟨value, hv⟩ := h
    induction hv with
    | ref h => exact .ref h
    | scalar ht hs => exact .scalar ht hs
    | nested ht hi _ ih => exact .nested ht hi ih

theorem Nesting.type_injective {m n : Nesting} (h : m.type = n.type) : m = n := by
  cases m <;> cases n <;> first | rfl | exact absurd h (by decide)

/-- A value is tagged in one way. -/
theorem Tagged.unique {tag other : Json} (h : Tagged raw tag) (h' : Tagged raw other) :
    tag = other := h.tag.symm.trans h'.tag

theorem Tagged.nesting_unique {m : Nesting} (h : Tagged raw (.string m.type))
    (h' : Tagged raw (.string n.type)) : m = n :=
  Nesting.type_injective (Json.string.inj (h.unique h'))

theorem Nesting.type_notMem (n : Nesting) : n.type ∉ scalarTypes := by
  cases n <;> decide

theorem Tagged.not_refers {tag : Json} (h : Tagged raw tag) : ¬ Refers raw target := by
  intro hr
  have := h.unreferred.symm.trans hr
  cases this

/-- What is flawed breaks the grammar. -/
theorem Flawed.breaks {e : Failure} (h : Flawed path raw e) : Breaks raw := by
  cases h with
  | notObject hno =>
    have hnone : ∀ {tag}, ¬ Tagged raw tag := by
      intro tag ht
      obtain ⟨members, hm⟩ := ht.object
      exact hno members hm
    refine ⟨fun target hr => ?_, fun _ _ => hnone, fun _ ht => absurd ht hnone⟩
    cases raw with
    | object members => exact hno members rfl
    | _ => cases hr
  | @missing n ht hi =>
    refine ⟨fun _ => ht.not_refers, fun type hs ht' => ?_, fun m ht' => ?_⟩
    · have hn : n.type = type := Json.string.inj (ht.unique ht')
      exact n.type_notMem (hn ▸ hs)
    · rw [ht'.nesting_unique ht, hi]
      simp
  | unknown ht _ hs hn =>
    refine ⟨fun _ => ht.not_refers, fun type hm ht' => ?_, fun m ht' => ?_⟩
    · exact hs type hm (ht.unique ht')
    · exact absurd (ht.unique ht') (hn m)
  | @shapeless tag ht ha =>
    have hno : ∀ text, ¬ Tagged raw (.string text) := by
      intro text ht'
      rw [ht.unique ht'] at ha
      cases ha
    exact ⟨fun _ => ht.not_refers, fun type _ => hno type, fun m ht' => absurd ht' (hno _)⟩

/-! ## The first value that breaks the grammar -/

/-- The value leads down to one that breaks the grammar, and to no other that does. -/
structure BreaksAt (raw : Json) (steps : List Nesting) (found : Json) : Prop where
  leads : Leads raw steps found
  breaks : Breaks found
  first : ∀ others other, Leads raw others other → Breaks other → others = steps ∧ other = found

/-- A value with another one nested in it does not break the grammar itself, so whatever else it
leads to is behind that one. -/
theorem Leads.unique {others : List Nesting} {other : Json} (h : Leads raw steps found)
    (hb : Breaks found) (h' : Leads raw others other) (hb' : Breaks other) :
    others = steps ∧ other = found := by
  -- on the first way down: what has a next step does not break the grammar, so neither way stops
  -- before the other
  induction h generalizing others with
  | here raw =>
    cases h' with
    | here => exact ⟨rfl, rfl⟩
    | step ht hi _ => exact absurd hi (hb.childless _ ht _)
  | @step raw inner _ n steps ht hi _ ih =>
    cases h' with
    | here => exact absurd hi (hb'.childless _ ht _)
    | @step _ inner' _ m others ht' hi' hrest =>
      have hm : m = n := ht'.nesting_unique ht
      subst hm
      have hinner : inner' = inner := Option.some.inj (hi'.symm.trans hi)
      subst hinner
      obtain ⟨rfl, rfl⟩ := ih hb hrest
      exact ⟨rfl, rfl⟩

theorem Leads.breaksAt (h : Leads raw steps found) (hb : Breaks found) :
    BreaksAt raw steps found := ⟨h, hb, fun _ _ => h.unique hb⟩

theorem Breaks.not_wellFormed (h : Breaks raw) : ¬ WellFormed raw := by
  intro hw
  cases hw with
  | ref hr => exact h.unreferred _ hr
  | scalar ht hs => exact h.untyped _ hs ht
  | nested ht hi _ => exact h.childless _ ht _ hi

/-- All that a well-formed value leads to is well-formed. -/
theorem Leads.wellFormed (h : Leads raw steps found) (hw : WellFormed raw) : WellFormed found := by
  induction h with
  | here => exact hw
  | @step _ inner _ n _ ht hi _ ih =>
    refine ih ?_
    cases hw with
    | ref hr => exact absurd hr ht.not_refers
    | scalar ht' hs => exact absurd hs (Json.string.inj (ht'.unique ht) ▸ n.type_notMem)
    | @nested _ inner' m ht' hi' hw =>
      have hm : m = n := ht'.nesting_unique ht
      subst hm
      have hinner : inner' = inner := Option.some.inj (hi'.symm.trans hi)
      exact hinner ▸ hw

/-- A value is not well-formed if it leads to one that breaks the grammar, and only then. -/
theorem not_wellFormed_iff : ¬ WellFormed raw ↔ ∃ steps found, BreaksAt raw steps found := by
  constructor
  · intro h
    cases hread : read "#" raw with
    | ok value => exact absurd (wellFormed_iff_describes.mpr ⟨value, read_eq_ok_iff.mp hread⟩) h
    | error e =>
      obtain ⟨steps, found, hl, hf⟩ := ((read_decides "#" raw).error e).mp hread
      exact ⟨steps, found, hl.breaksAt hf.breaks⟩
  · intro h hw
    obtain ⟨steps, found, hat⟩ := h
    exact hat.breaks.not_wellFormed (hat.leads.wellFormed hw)

/-- The message of what is wrong with a value begins with the place, and only a type that cannot be
compared has none. -/
theorem Flawed.message {e : Failure} (h : Flawed path raw e) :
    (∃ problem complaint, e = .generation (.schema problem) ∧
        problem.message = path ++ ": " ++ complaint) ∨
      (e = .fault .mismatch ∧ ∃ tag, Tagged raw tag ∧ tag.isAtom = false) := by
  have hmessage : ∀ {whole complaint rest : String}, whole = ": " ++ complaint →
      path ++ whole ++ rest = path ++ ": " ++ (complaint ++ rest) := by
    intro whole complaint rest hw
    rw [hw, String.append_assoc, String.append_assoc, String.append_assoc]
  cases h with
  | notObject =>
    exact .inl ⟨_, _, rfl, hmessage (by rfl : _ = ": " ++ "unsupported value ")⟩
  | @missing n =>
    refine .inl ?_
    cases n with
    | array =>
      refine ⟨_, "array without items", rfl, ?_⟩
      rw [String.append_assoc]
      rfl
    | map =>
      refine ⟨_, "object without additionalProperties", rfl, ?_⟩
      rw [String.append_assoc]
      rfl
  | unknown =>
    exact .inl ⟨_, _, rfl, hmessage (by rfl : _ = ": " ++ "unsupported value type ")⟩
  | shapeless ht ha => exact .inr ⟨rfl, _, ht, ha⟩

/-- The JSON that says what the value is, and nothing else. -/
def encode : Value → Json
  | .ref target => .object [("$ref", target)]
  | .scalar type => .object [("type", .string type)]
  | .array items => .object [("type", .string "array"), ("items", items.encode)]
  | .map entries => .object [("type", .string "object"), ("additionalProperties", entries.encode)]
  | .oddScalar type => .object [("type", type)]
  | .foreign found => found

theorem encode_describes (h : value.Readable) : Describes value.encode value := by
  induction h with
  | ref target => exact .ref rfl
  | @scalar type h => exact .scalar ⟨⟨_, rfl⟩, rfl, rfl⟩ h
  | @array items _ ih => exact .nested (n := .array) ⟨⟨_, rfl⟩, rfl, rfl⟩ rfl ih
  | @map entries _ ih => exact .nested (n := .map) ⟨⟨_, rfl⟩, rfl, rfl⟩ rfl ih

/-- What is read back is what a schema can say. -/
theorem read_encode_iff : read path value.encode = .ok value ↔ value.Readable :=
  ⟨read_readable _, fun h => read_of_describes (encode_describes h)⟩

/-! ## Reading and the grammar -/

/-- A value is read if it is well-formed, and only then, as what it is the description of. If it is
not read, then for the one value it leads to that breaks the grammar, and if that is reported, the
message begins with the place of that one. -/
theorem read_grammar (path : String) (raw : Json) :
    ((∃ value, read path raw = .ok value) ↔ WellFormed raw) ∧
      (∀ value, read path raw = .ok value ↔ Describes raw value) ∧
      (∀ value : Value, read path value.encode = .ok value ↔ value.Readable) ∧
      ∀ e, read path raw = .error e → ∃ steps found, BreaksAt raw steps found ∧
        ((∃ problem complaint, e = .generation (.schema problem) ∧
            problem.message = placeAt path steps ++ ": " ++ complaint) ∨
          (e = .fault .mismatch ∧ ∃ tag, Tagged found tag ∧ tag.isAtom = false)) := by
  refine ⟨?_, fun _ => read_eq_ok_iff, fun _ => read_encode_iff, ?_⟩
  · rw [wellFormed_iff_describes]
    exact (read_decides path raw).ok
  · intro e h
    obtain ⟨steps, found, hl, hf⟩ := ((read_decides path raw).error e).mp h
    exact ⟨steps, found, hl.breaksAt hf.breaks, hf.message⟩

/-- A list of maps to something that has no known type. -/
def listOfStrange : Json := .object [
  ("type", .string "array"),
  ("items", .object [
    ("type", .string "object"),
    ("additionalProperties", .object [("type", .string "null")])])]

theorem read_grammar_of_listOfStrange :
    ∃ e, read "#" listOfStrange = .error e ∧ ∃ steps found,
      BreaksAt listOfStrange steps found ∧
        ((∃ problem complaint, e = .generation (.schema problem) ∧
            problem.message = placeAt "#" steps ++ ": " ++ complaint) ∨
          (e = .fault .mismatch ∧ ∃ tag, Tagged found tag ∧ tag.isAtom = false)) :=
  have h : read "#" listOfStrange = .error (.generation (.schema
      (.unknownType "#/items/additionalProperties" (.string "null")))) := rfl
  ⟨_, h, (read_grammar "#" listOfStrange).2.2.2 _ h⟩

end Value

end ApiTypings
