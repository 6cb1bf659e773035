import ApiTypings.Proofs.Endings
import ApiTypings.Proofs.FieldKeys
import ApiTypings.Proofs.Outcomes
import ApiTypings.Proofs.References

/-!
# Types tell values

Typing a value either fails and leaves the module as it was, or imports the name that the
reference at the end of the value leads to and nothing else. Where this name is an identifier
and not that of a scalar type, the type is spelled in one way only: it tells the lists and maps
of the value and what stands at its end, save that an integer is spelled as a number.
-/

namespace ApiTypings

namespace Typing

/-- Typing a value imports what it needs or, if it fails, nothing at all. -/
theorem typeOf_ends (t : Typing) (value : Value) (d : Draft) :
    Task.Ends (t.typeOf value) d
      (fun _ d' => d' = { d with module := d.module.importingAll (t.needs value) })
      fun _ d' => d' = d := by
  refine ⟨fun type d' h => (typeOf_returns h).1, ?_⟩
  have hfails : Task.Ends (t.typeOf value) d (fun _ _ => True) fun _ d' => d' = d := by
    induction value with
    | ref target =>
      -- the name is imported last, when nothing can fail any more
      refine .ofExcept_bind (fun location _ => ?_) fun _ _ => rfl
      refine .ofExcept_bind (fun found _ => ?_) fun _ _ => rfl
      cases found with
      | some replacement => exact .pure trivial
      | none => exact .modify_bind (.pure trivial)
    | scalar type =>
      unfold typeOf
      cases scalarType? type with
      | some name => exact .pure trivial
      | none => exact .throw rfl
    | oddScalar type =>
      unfold typeOf
      split <;> exact .throw rfl
    | array items ih =>
      rw [typeOf, ← bind_pure_comp]
      exact ih.bind fun _ _ _ => .pure trivial
    | map entries ih =>
      rw [typeOf, ← bind_pure_comp]
      exact ih.bind fun _ _ _ => .pure trivial
    | foreign found => exact .throw rfl
  exact hfails.2

/-! ## How values are spelled -/

/-- The names of the types that scalars have in the source. -/
def scalarNames : List String := ["string", "number", "boolean"]

/-- The value ends in a scalar of a known type, or in a reference to a name that is written in the
source, an identifier and not the name of a scalar type. -/
inductive Plain (t : Typing) : Value → Prop
  | scalar {type : String} (h : type ∈ Value.scalarTypes) : t.Plain (.scalar type)
  | ref {target : Json} {location : Location} (h : t.Follows target location false)
    (hi : Identifier location.name) (hs : location.name ∉ scalarNames) : t.Plain (.ref target)
  | array {items : Value} (h : t.Plain items) : t.Plain (.array items)
  | map {entries : Value} (h : t.Plain entries) : t.Plain (.map entries)

/-- Two scalar types count as equal: they are, or both are types of numbers. -/
def SameScalar (a b : String) : Prop :=
  a = b ∨ (a ∈ ["integer", "number"] ∧ b ∈ ["integer", "number"])

/-- Two values are nested alike, and what they end in counts as equal: scalar types that do, or
references that lead to the same name. -/
inductive SameShape (t : Typing) : Value → Value → Prop
  | scalar {a b : String} (h : SameScalar a b) : t.SameShape (.scalar a) (.scalar b)
  | ref {a b : Json} {l m : Location} (ha : t.target a = .ok l) (hb : t.target b = .ok m)
    (h : l.name = m.name) : t.SameShape (.ref a) (.ref b)
  | array {v w : Value} (h : t.SameShape v w) : t.SameShape (.array v) (.array w)
  | map {v w : Value} (h : t.SameShape v w) : t.SameShape (.map v) (.map w)

/-- The spelling of a list around that of its items. -/
def inList (inner : String) : String := "Array<" ++ inner ++ ">"

/-- The spelling of a map around that of its entries. -/
def inMap (inner : String) : String := "\x7b[name: string]: " ++ inner ++ "\x7d"

/-- The value is spelled in this way. -/
inductive SpelledAs (t : Typing) : Value → String → Prop
  | scalar {type name : String} (h : scalarType? type = some name) : t.SpelledAs (.scalar type) name
  | ref {target : Json} {location : Location} (h : t.Follows target location false)
    (hi : Identifier location.name) (hs : location.name ∉ scalarNames) :
    t.SpelledAs (.ref target) location.name
  | array {items : Value} {inner : String} (h : t.SpelledAs items inner) :
    t.SpelledAs (.array items) (inList inner)
  | map {entries : Value} {inner : String} (h : t.SpelledAs entries inner) :
    t.SpelledAs (.map entries) (inMap inner)

variable {t : Typing} {v w : Value} {a b : String}

theorem scalarType?_of_mem {type : String} (h : type ∈ Value.scalarTypes) :
    ∃ name, scalarType? type = some name := by
  simp only [Value.scalarTypes, List.mem_cons, List.not_mem_nil, or_false] at h
  rcases h with rfl | rfl | rfl | rfl <;> exact ⟨_, rfl⟩

/-- A scalar type is spelled as it is, but an integer is a number. -/
theorem scalarType?_cases {type name : String} (h : scalarType? type = some name) :
    (type, name) ∈ [("string", "string"), ("number", "number"), ("boolean", "boolean"),
      ("integer", "number")] := by
  unfold scalarType? at h
  split_ifs at h with hs hn hb hi <;> cases h <;> simp [*]

theorem mem_scalarNames {type name : String} (h : scalarType? type = some name) :
    name ∈ scalarNames := by
  have hall : ∀ entry ∈ [("string", "string"), ("number", "number"), ("boolean", "boolean"),
      ("integer", "number")], entry.2 ∈ scalarNames := by decide
  exact hall _ (scalarType?_cases h)

theorem sameScalar_iff {type other : String} (h : scalarType? type = some a)
    (h' : scalarType? other = some b) : a = b ↔ SameScalar type other := by
  have hall : ∀ entry ∈ [("string", "string"), ("number", "number"), ("boolean", "boolean"),
      ("integer", "number")], ∀ entry' ∈ [("string", "string"), ("number", "number"),
      ("boolean", "boolean"), ("integer", "number")],
      (entry.2 = entry'.2 ↔ SameScalar entry.1 entry'.1) := by
    unfold SameScalar
    decide
  exact hall _ (scalarType?_cases h) _ (scalarType?_cases h')

theorem identifier_of_mem {name : String} (h : name ∈ scalarNames) : Identifier name := by
  have hall : ∀ name ∈ scalarNames, Identifier name := by decide
  exact hall name h

theorem inList_inj : inList a = inList b ↔ a = b := by
  unfold inList
  rw [String.append_left_inj, String.append_right_inj]

theorem inMap_inj : inMap a = inMap b ↔ a = b := by
  unfold inMap
  rw [String.append_left_inj, String.append_right_inj]

theorem ne_inList (h : Identifier a) (inner : String) : a ≠ inList inner := by
  unfold inList
  rintro rfl
  refine h.notMem (c := '<') (by decide) ?_
  rw [String.append_assoc, String.toList_append]
  exact List.mem_append_left _ (by decide)

theorem ne_inMap (h : Identifier a) (inner : String) : a ≠ inMap inner := by
  unfold inMap
  rintro rfl
  refine h.notMem (c := '[') (by decide) ?_
  rw [String.append_assoc, String.toList_append]
  exact List.mem_append_left _ (by decide)

theorem inList_ne_inMap (a b : String) : inList a ≠ inMap b := by
  unfold inList inMap
  intro h
  have hhead := congrArg (fun text => text.toList.head?) h
  simp at hhead

theorem Plain.spelledAs (h : t.Plain v) : ∃ text, t.SpelledAs v text := by
  induction h with
  | scalar h =>
    obtain ⟨name, hname⟩ := scalarType?_of_mem h
    exact ⟨name, .scalar hname⟩
  | ref h hi hs => exact ⟨_, .ref h hi hs⟩
  | array _ ih =>
    obtain ⟨inner, hinner⟩ := ih
    exact ⟨_, .array hinner⟩
  | map _ ih =>
    obtain ⟨inner, hinner⟩ := ih
    exact ⟨_, .map hinner⟩

theorem SpelledAs.spelling (h : t.SpelledAs v a) : t.spelling v = .ok (.string a) := by
  induction h with
  | scalar h =>
    unfold Typing.spelling
    rw [h]
  | @ref target location h hi hs =>
    have hentry : Table.entry? t.replaced location.name = .ok none := by
      unfold Table.entry?
      rw [h.2]
      rfl
    simp only [Typing.spelling, referenceSpelling, h.1, hentry, bind, Except.bind]
    rfl
  | array _ ih =>
    rw [Typing.spelling, ih]
    rfl
  | map _ ih =>
    rw [Typing.spelling, ih]
    rfl

/-- Spellings are the same exactly for values of the same shape. -/
theorem SpelledAs.eq_iff (hv : t.SpelledAs v a) (hw : t.SpelledAs w b) :
    a = b ↔ t.SameShape v w := by
  -- of the cases the mixed ones are refuted by what the spelling begins with
  induction hv generalizing w b with
  | scalar h =>
    have hword := identifier_of_mem (mem_scalarNames h)
    cases hw with
    | scalar h' =>
      rw [sameScalar_iff h h']
      exact ⟨.scalar, fun hs => by cases hs; assumption⟩
    | ref _ _ hs =>
      refine iff_of_false (fun he => hs ?_) nofun
      rw [← he]
      exact mem_scalarNames h
    | array => exact iff_of_false (ne_inList hword _) nofun
    | map => exact iff_of_false (ne_inMap hword _) nofun
  | ref h hword hs =>
    cases hw with
    | scalar h' =>
      refine iff_of_false (fun he => hs ?_) nofun
      rw [he]
      exact mem_scalarNames h'
    | ref h' _ _ =>
      refine ⟨.ref h.1 h'.1, fun hsame => ?_⟩
      cases hsame with
      | ref ha hb he =>
        rw [h.1] at ha
        rw [h'.1] at hb
        cases ha
        cases hb
        exact he
    | array => exact iff_of_false (ne_inList hword _) nofun
    | map => exact iff_of_false (ne_inMap hword _) nofun
  | array _ ih =>
    cases hw with
    | scalar h' =>
      have hword := identifier_of_mem (mem_scalarNames h')
      exact iff_of_false (ne_inList hword _).symm nofun
    | ref _ hword _ => exact iff_of_false (ne_inList hword _).symm nofun
    | array h' =>
      rw [inList_inj, ih h']
      exact ⟨.array, fun hs => by cases hs; assumption⟩
    | map => exact iff_of_false (inList_ne_inMap _ _) nofun
  | map _ ih =>
    cases hw with
    | scalar h' =>
      have hword := identifier_of_mem (mem_scalarNames h')
      exact iff_of_false (ne_inMap hword _).symm nofun
    | ref _ hword _ => exact iff_of_false (ne_inMap hword _).symm nofun
    | array => exact iff_of_false (inList_ne_inMap _ _).symm nofun
    | map h' =>
      rw [inMap_inj, ih h']
      exact ⟨.map, fun hs => by cases hs; assumption⟩

/-! ## Both together -/

theorem needs_cases (t : Typing) (value : Value) :
    t.needs value = [] ∨ ∃ reference location, value.reference? = some reference ∧
      t.target reference = .ok location ∧ t.needs value = [location] := by
  by_cases h : t.needs value = []
  · exact .inl h
  · obtain ⟨location, hl⟩ := List.exists_mem_of_ne_nil _ h
    obtain ⟨reference, hr, hf⟩ := mem_needs.mp hl
    exact .inr ⟨reference, location, hr, hf.1, needs_of_follows hr hf⟩

/-- Typing a value that fails leaves everything as it was, and otherwise at most one name is
imported, to which the reference at the end of the value leads. Values that end in scalars of
known types, or in references to names that are identifiers, have types, and the types of two of
them are the same, in whatever modules, exactly if the values are nested alike and what they end
in counts as equal. -/
theorem typeOf_faithful (t : Typing) :
    (∀ value d, Task.Ends (t.typeOf value) d
      (fun _ d' => d' = d ∨ ∃ reference location, value.reference? = some reference ∧
        t.target reference = .ok location ∧
        d' = { d with module := d.module.importing location.path location.name })
      fun _ d' => d' = d) ∧
    ∀ v w, t.Plain v → t.Plain w → ∀ d d', ∃ a b : String,
      ((t.typeOf v).outcome d).1 = .ok (.string a) ∧
      ((t.typeOf w).outcome d').1 = .ok (.string b) ∧ (a = b ↔ t.SameShape v w) := by
  constructor
  · intro value d
    refine (t.typeOf_ends value d).imp (fun _ d' hd => ?_) fun _ _ hd => hd
    rcases t.needs_cases value with hn | ⟨reference, location, hr, ht, hn⟩ <;> rw [hn] at hd
    · exact .inl hd
    · exact .inr ⟨reference, location, hr, ht, hd⟩
  · intro v w hv hw d d'
    obtain ⟨a, ha⟩ := hv.spelledAs
    obtain ⟨b, hb⟩ := hw.spelledAs
    refine ⟨a, b, ?_, ?_, ha.eq_iff hb⟩
    · exact ((t.typeOf_yields v) d rfl).1.trans ha.spelling
    · exact ((t.typeOf_yields w) d' rfl).1.trans hb.spelling

/-- Two definitions of one local name. -/
def namesakes : Typing where
  document := {
    title := .string "Parts", version := .string "v1"
    definitions := [
      ("io.k8s.api.a.Part", ⟨.null, .string "object", [], some [], []⟩),
      ("io.k8s.api.b.Part", ⟨.null, .string "object", [], some [], []⟩)] }
  naming := Settings.standard.naming
  replaced := Settings.standard.replacedTypes

/-- A list of maps to the definition of the path. -/
def nested (name : String) : Value := .array (.map (.ref (.string ("#/definitions/" ++ name))))

theorem namesakes_follows : namesakes.Follows (.string "#/definitions/io.k8s.api.a.Part")
    ⟨"a.ts", "Part"⟩ false ∧
    namesakes.Follows (.string "#/definitions/io.k8s.api.b.Part") ⟨"b.ts", "Part"⟩ false :=
  ⟨⟨rfl, rfl⟩, ⟨rfl, rfl⟩⟩

theorem typeOf_faithful_of_namesakes :
    namesakes.Plain (nested "io.k8s.api.a.Part") ∧ namesakes.Plain (nested "io.k8s.api.b.Part") ∧
      ∀ d d', ∃ type : String,
        ((namesakes.typeOf (nested "io.k8s.api.a.Part")).outcome d).1 = .ok (.string type) ∧
        ((namesakes.typeOf (nested "io.k8s.api.b.Part")).outcome d').1 = .ok (.string type) := by
  obtain ⟨ha, hb⟩ := namesakes_follows
  have hfirst : namesakes.Plain (nested "io.k8s.api.a.Part") :=
    .array (.map (.ref ha (by decide) (by decide)))
  have hsecond : namesakes.Plain (nested "io.k8s.api.b.Part") :=
    .array (.map (.ref hb (by decide) (by decide)))
  refine ⟨hfirst, hsecond, fun d d' => ?_⟩
  obtain ⟨a, b, hv, hw, hiff⟩ := namesakes.typeOf_faithful.2 _ _ hfirst hsecond d d'
  obtain rfl := hiff.mpr (.array (.map (.ref ha.1 hb.1 rfl)))
  exact ⟨a, hv, hw⟩

end Typing

end ApiTypings
