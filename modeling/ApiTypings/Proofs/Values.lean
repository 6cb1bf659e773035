import ApiTypings.Proofs.References
import ApiTypings.Proofs.Series
import ApiTypings.Schema.Value

/-!
# How values are read

A value schema is an object that refers to something, or else is tagged: as a scalar, or as a
list or a map, and then another value is nested in it. So each value leads down to others, one
in the other, and reading follows them. It succeeds if the last is a reference or a scalar, and
fails for what is wrong with the last if it is neither.
-/

namespace ApiTypings

theorem Json.sizeOf_get?_lt {raw found : Json} {name : String} (h : raw.get? name = some found) :
    sizeOf found < sizeOf raw := by
  cases raw with
  | object members =>
    have hmembers : ∀ members : List (String × Json), member? name members = some found →
        sizeOf found < sizeOf members := by
      intro members hm
      induction members with
      | nil => cases hm
      | cons entry rest ih =>
        obtain ⟨key, value⟩ := entry
        unfold member? at hm
        split at hm
        · cases hm
          simp only [List.cons.sizeOf_spec, Prod.mk.sizeOf_spec]
          omega
        · have := ih hm
          simp only [List.cons.sizeOf_spec]
          omega
    have := hmembers members h
    simp only [Json.object.sizeOf_spec]
    omega
  | _ => cases h

/-- What holds of a value if it holds of its members, holds of all values. -/
theorem Json.member_induction {motive : Json → Prop}
    (step : ∀ raw, (∀ name found, raw.get? name = some found → motive found) → motive raw)
    (raw : Json) : motive raw :=
  step raw fun _ found _ => member_induction step found
termination_by sizeOf raw
decreasing_by exact sizeOf_get?_lt ‹_›

namespace Value

/-! ## What a value says -/

/-- The value is an object that refers to something. -/
def Refers (raw target : Json) : Prop := raw.get? "$ref" = some target

/-- The value is an object that refers to nothing, and this stands where its type should. -/
structure Tagged (raw tag : Json) : Prop where
  object : ∃ members, raw = .object members
  unreferred : raw.get? "$ref" = none
  tag : (raw.get? "type").getD .null = tag

/-- The ways in which a value is nested in another. -/
inductive Nesting
  | array
  | map

namespace Nesting

/-- The type of a value with another one nested in it. -/
def type : Nesting → String
  | array => "array"
  | map => "object"

/-- The member that the nested value is. -/
def member : Nesting → String
  | array => "items"
  | map => "additionalProperties"

/-- A value with another one nested in it. -/
def wrap : Nesting → Value → Value
  | array => .array
  | map => .map

/-- There is no nested value. -/
def missing (path : String) : Nesting → SchemaProblem
  | array => .noItems path
  | map => .noEntries path

end Nesting

/-- The value leads down to another one, which is nested in it in these ways. -/
inductive Leads : Json → List Nesting → Json → Prop
  | here (raw : Json) : Leads raw [] raw
  | step {raw inner found : Json} {n : Nesting} {steps : List Nesting}
    (ht : Tagged raw (.string n.type)) (hi : raw.get? n.member = some inner)
    (h : Leads inner steps found) : Leads raw (n :: steps) found

/-- Where in the document the value is to which another leads. -/
def placeAt (path : String) (steps : List Nesting) : String :=
  steps.foldl (fun path n => path ++ "/" ++ n.member) path

/-- What a value is the description of. -/
inductive Describes : Json → Value → Prop
  | ref {raw target : Json} (h : Refers raw target) : Describes raw (.ref target)
  | scalar {raw : Json} {type : String} (ht : Tagged raw (.string type)) (hs : type ∈ scalarTypes) :
    Describes raw (.scalar type)
  | nested {raw inner : Json} {n : Nesting} {value : Value} (ht : Tagged raw (.string n.type))
    (hi : raw.get? n.member = some inner) (h : Describes inner value) :
    Describes raw (n.wrap value)

/-- What is wrong with a value itself, whatever is nested in it. -/
inductive Flawed (path : String) (raw : Json) : Failure → Prop
  | notObject (h : ∀ members, raw ≠ .object members) :
    Flawed path raw (.generation (.schema (.notValue path raw)))
  | missing {n : Nesting} (ht : Tagged raw (.string n.type)) (hi : raw.get? n.member = none) :
    Flawed path raw (.generation (.schema (n.missing path)))
  | unknown {tag : Json} (ht : Tagged raw tag) (ha : tag.isAtom = true)
    (hs : ∀ type ∈ scalarTypes, tag ≠ .string type) (hn : ∀ n : Nesting, tag ≠ .string n.type) :
    Flawed path raw (.generation (.schema (.unknownType path tag)))
  /-- A list or an object cannot even be compared with the types that are known. -/
  | shapeless {tag : Json} (ht : Tagged raw tag) (ha : tag.isAtom = false) :
    Flawed path raw (.fault .mismatch)

/-! ## Reading -/

variable {raw inner found target tag : Json} {path type : String} {value : Value}

theorem Tagged.exists_members (h : Tagged raw tag) : ∃ members, raw = .object members ∧
    member? "$ref" members = none ∧ (member? "type" members).getD .null = tag := by
  obtain ⟨⟨members, rfl⟩, href, htag⟩ := h
  exact ⟨members, rfl, href, htag⟩

theorem read_of_refers (h : Refers raw target) : read path raw = .ok (.ref target) := by
  cases raw with
  | object members =>
    unfold read
    rw [show member? "$ref" members = some target from h]
  | _ => cases h

theorem read_of_scalar (ht : Tagged raw (.string type)) (hs : type ∈ scalarTypes) :
    read path raw = .ok (.scalar type) := by
  obtain ⟨members, rfl, href, htag⟩ := ht.exists_members
  unfold read
  rw [href]
  dsimp only
  rw [htag]
  exact if_pos hs

theorem read_of_nesting {n : Nesting} (ht : Tagged raw (.string n.type)) :
    read path raw =
      ((raw.get? n.member).map (read (path ++ "/" ++ n.member))).elim
        (.error (.generation (.schema (n.missing path)))) (·.map n.wrap) := by
  obtain ⟨members, rfl, href, htag⟩ := ht.exists_members
  rw [show (Json.object members).get? n.member = member? n.member members from rfl,
    String.append_assoc, ← readMember_eq]
  conv_lhs => unfold read
  rw [href]
  dsimp only
  rw [htag]
  cases n with
  | array =>
    dsimp only
    rw [if_neg (by decide), if_pos (by rfl), show "/" ++ Nesting.array.member = "/items" by decide,
      show Nesting.array.member = "items" from rfl]
    cases readMember "items" (path ++ "/items") members <;> rfl
  | map =>
    dsimp only
    rw [if_neg (by decide), if_neg (by decide), if_pos (by rfl),
      show "/" ++ Nesting.map.member = "/additionalProperties" by decide,
      show Nesting.map.member = "additionalProperties" from rfl]
    cases readMember "additionalProperties" (path ++ "/additionalProperties") members <;> rfl

theorem read_of_nested {n : Nesting} (ht : Tagged raw (.string n.type))
    (hi : raw.get? n.member = some inner) :
    read path raw = (read (path ++ "/" ++ n.member) inner).map n.wrap := by
  rw [read_of_nesting ht, hi]
  rfl

/-- What is wrong with a value itself is found before anything nested in it is looked at. -/
theorem read_of_flawed {e : Failure} (h : Flawed path raw e) : read path raw = .error e := by
  cases h with
  | notObject h =>
    cases raw with
    | object members => exact absurd rfl (h members)
    | _ => simp [read]
  | missing ht hi =>
    rw [read_of_nesting ht, hi]
    rfl
  | @unknown tag ht ha hs hn =>
    obtain ⟨members, rfl, href, htag⟩ := ht.exists_members
    unfold read
    rw [href]
    dsimp only
    rw [htag]
    cases tag with
    | string type =>
      dsimp only
      rw [if_neg fun hm => hs type hm rfl, if_neg, if_neg]
      · rintro rfl
        exact hn .map rfl
      · rintro rfl
        exact hn .array rfl
    | array => cases ha
    | object => cases ha
    | _ => rfl
  | @shapeless tag ht ha =>
    obtain ⟨members, rfl, href, htag⟩ := ht.exists_members
    unfold read
    rw [href]
    dsimp only
    rw [htag]
    cases tag with
    | array => rfl
    | object => rfl
    | _ => cases ha

theorem read_of_describes (h : Describes raw value) : read path raw = .ok value := by
  induction h generalizing path with
  | ref h => exact read_of_refers h
  | scalar ht hs => exact read_of_scalar ht hs
  | nested ht hi _ ih =>
    rw [read_of_nested ht hi, ih]
    rfl

/-- A flaw of the value to which another leads is what is wrong with that. -/
theorem read_of_leads {steps : List Nesting} {e : Failure} (h : Leads raw steps found)
    (hf : Flawed (placeAt path steps) found e) : read path raw = .error e := by
  induction h generalizing path with
  | here => exact read_of_flawed hf
  | @step _ inner _ n _ ht hi _ ih =>
    have hinner : read (path ++ "/" ++ n.member) inner = .error e := ih hf
    rw [read_of_nested ht hi, hinner]
    rfl

/-- What a value says itself: it is flawed, or a leaf, or leads to one that is nested in it. -/
theorem flawed_or_describes (raw : Json) :
    (∀ path, ∃ e, Flawed path raw e) ∨ (∃ value, Describes raw value) ∨
      ∃ n inner, Tagged raw (.string (Nesting.type n)) ∧ raw.get? n.member = some inner := by
  by_cases hobject : ∃ members, raw = .object members
  swap
  · exact .inl fun path => ⟨_, .notObject fun members h => hobject ⟨members, h⟩⟩
  cases href : raw.get? "$ref" with
  | some target => exact .inr (.inl ⟨_, .ref href⟩)
  | none =>
    have ht : Tagged raw ((raw.get? "type").getD .null) := ⟨hobject, href, rfl⟩
    -- what stands where the type should decides now, whatever it is
    generalize (raw.get? "type").getD .null = tag at ht
    by_cases hs : ∃ type ∈ scalarTypes, tag = .string type
    · obtain ⟨type, hs, rfl⟩ := hs
      exact .inr (.inl ⟨_, .scalar ht hs⟩)
    by_cases hn : ∃ n : Nesting, tag = .string n.type
    · obtain ⟨n, rfl⟩ := hn
      cases hi : raw.get? n.member with
      | none => exact .inl fun path => ⟨_, .missing ht hi⟩
      | some inner => exact .inr (.inr ⟨n, inner, ht, hi⟩)
    · refine .inl fun path => ?_
      cases ha : tag.isAtom with
      | false => exact ⟨_, .shapeless ht ha⟩
      | true =>
        simp only [not_exists, not_and] at hs hn
        exact ⟨_, .unknown ht ha hs hn⟩

/-- Reading a value is settled by the last of those it leads to. -/
theorem read_decides (path : String) (raw : Json) :
    Decides (read path raw) (∃ value, Describes raw value)
      fun e => ∃ steps found, Leads raw steps found ∧ Flawed (placeAt path steps) found e := by
  refine .of_cases ?_ ?_ ?_
  · rintro ⟨value, h⟩
    exact ⟨value, read_of_describes h⟩
  · rintro e ⟨steps, found, h, hf⟩
    exact read_of_leads h hf
  · induction raw using Json.member_induction generalizing path with
    | step raw ih =>
      rcases flawed_or_describes raw with hf | hd | ⟨n, inner, ht, hi⟩
      · obtain ⟨e, hf⟩ := hf path
        exact .inr ⟨e, [], raw, .here raw, hf⟩
      · exact .inl hd
      · rcases ih n.member inner hi (path ++ "/" ++ n.member) with
          ⟨value, hd⟩ | ⟨e, steps, found, hl, hf⟩
        · exact .inl ⟨n.wrap value, .nested ht hi hd⟩
        · exact .inr ⟨e, n :: steps, found, .step ht hi hl, hf⟩

theorem read_eq_ok_iff : read path raw = .ok value ↔ Describes raw value := by
  refine ⟨fun h => ?_, read_of_describes⟩
  obtain ⟨other, hd⟩ := (read_decides path raw).ok.mp ⟨value, h⟩
  rw [read_of_describes hd] at h
  cases h
  exact hd

/-- The value leads to one whose type is no atom, and that refers to nothing. -/
def Trips (raw : Json) : Prop :=
  ∃ steps found tag, Leads raw steps found ∧ Tagged found tag ∧ tag.isAtom = false

/-- Only such a value is not refused as part of a schema but stops reading. -/
theorem read_eq_fault_iff {fault : Fault} :
    read path raw = .error (.fault fault) ↔ fault = .mismatch ∧ Trips raw := by
  rw [(read_decides path raw).error]
  constructor
  · rintro ⟨steps, found, hl, hf⟩
    cases hf with
    | shapeless ht ha => exact ⟨rfl, steps, found, _, hl, ht, ha⟩
  · rintro ⟨rfl, steps, found, tag, hl, ht, ha⟩
    exact ⟨steps, found, hl, .shapeless ht ha⟩

/-- A value that is not read either trips or has a mistake. -/
theorem read_failure {e : Failure} (h : read path raw = .error e) :
    (e = .fault .mismatch ∧ Trips raw) ∨ ∃ error, e = .generation error := by
  obtain ⟨steps, found, hl, hf⟩ := ((read_decides path raw).error e).mp h
  cases hf with
  | shapeless ht ha => exact .inl ⟨rfl, steps, found, _, hl, ht, ha⟩
  | _ => exact .inr ⟨_, rfl⟩

/-- The reference of a value stands where the description leads. -/
theorem Describes.leads (h : Describes raw value) {reference : Json}
    (hr : value.reference? = some reference) :
    ∃ steps found, Leads raw steps found ∧ Refers found reference := by
  induction h with
  | ref h =>
    cases hr
    exact ⟨[], _, .here _, h⟩
  | scalar => cases hr
  | @nested _ _ n _ ht hi _ ih =>
    obtain ⟨steps, found, hl, hf⟩ := ih (by cases n <;> exact hr)
    exact ⟨n :: steps, found, .step ht hi hl, hf⟩

end Value

end ApiTypings
