import ApiTypings.Proofs.Braces
import ApiTypings.Proofs.Closure
import ApiTypings.Proofs.Locality
import ApiTypings.Proofs.Locations
import ApiTypings.Proofs.Lossless

/-!
# What declarations are put together from

Apart from descriptions, a declaration is put together from texts of the schema and the
settings. If none of them has a brace or a line feed in it, then the only braces in its names
and types are those around the types of maps, and there as many open as close.
-/

namespace ApiTypings

open Text

/-- The values of the members of an object. -/
def Json.memberValues : Json → List Json
  | .object members => members.map Prod.snd
  | _ => []

/-- The texts of a definition, its descriptions apart: its type, the names of its properties, and
the groups, versions and kinds under which it is served. -/
def Definition.words (d : Definition) : List String :=
  d.type.plain :: (d.properties.getD []).map Prod.fst ++
    d.served.flatMap fun one => [one.group.plain, one.version.plain, one.kind.plain]

theorem Definition.forall_mem_words {d : Definition} {P : String → Prop} :
    (∀ word ∈ d.words, P word) ↔ P d.type.plain ∧ (∀ entry ∈ d.properties.getD [], P entry.1) ∧
      ∀ one ∈ d.served, P one.group.plain ∧ P one.version.plain ∧ P one.kind.plain := by
  simp only [words, List.cons_append, List.forall_mem_append, List.forall_mem_cons,
    List.forall_mem_map, List.forall_mem_flatMap, List.not_mem_nil, false_imp_iff, implies_true,
    and_true]

/-- The texts of the settings: the extension, what replaces prefixes and types, and the types that
definitions are redefined as. -/
def Settings.words (s : Settings) : List String :=
  s.fileExtension.plain ::
    (s.namespacePrefixes.memberValues ++ s.replacedTypes.memberValues).map Json.plain ++
      s.redefinedTypes.memberValues.flatMap fun found => (found.parts?.getD []).map Json.plain

/-- The texts that a project is put together from, descriptions apart. -/
def Generator.words (g : Generator) : List String :=
  g.settings.words ++ g.document.definitions.flatMap fun entry => entry.1 :: entry.2.words

/-- Every such text comes from one of five places. -/
theorem Generator.forall_mem_words {g : Generator} {P : String → Prop} :
    (∀ word ∈ g.words, P word) ↔ P g.settings.fileExtension.plain ∧
      (∀ found ∈ g.settings.namespacePrefixes.memberValues, P found.plain) ∧
      (∀ found ∈ g.settings.replacedTypes.memberValues, P found.plain) ∧
      (∀ found ∈ g.settings.redefinedTypes.memberValues, ∀ part ∈ found.parts?.getD [],
        P part.plain) ∧
      ∀ entry ∈ g.document.definitions, P entry.1 ∧ ∀ word ∈ entry.2.words, P word := by
  simp only [words, Settings.words, List.map_append, List.cons_append, List.forall_mem_append,
    List.forall_mem_cons, List.forall_mem_map, List.forall_mem_flatMap, and_assoc]

/-- The path and the name have no brace and no line feed in them. -/
structure Location.Smooth (location : Location) : Prop where
  path : ApiTypings.Smooth location.path
  name : ApiTypings.Smooth location.name

namespace Naming

theorem smooth_spellOut {extension simplified : String} (he : Smooth extension)
    (hs : Smooth simplified) : (spellOut extension simplified).Smooth := by
  have hpart : ∀ part ∈ Text.split '.' simplified, Smooth part :=
    fun part hp => hs.of_subset (subset_of_mem_split hp)
  constructor
  · exact (Smooth.join (by decide) fun part hp => hpart part (List.dropLast_subset _ hp)).append he
  · refine hpart _ ?_
    rw [spellOut_eq, split_eq_concat]
    simp

theorem smooth_location {naming : Naming} {name : String} {location : Location}
    (hprefixes : ∀ found ∈ naming.prefixes.memberValues, Smooth found.plain)
    (hextension : Smooth naming.extension.plain) (hname : Smooth name)
    (h : naming.location name = .ok (some location)) : location.Smooth := by
  obtain ⟨found, hfound, hplaced⟩ := bind_ok h
  obtain ⟨table, htable, hfound⟩ := bind_ok hfound
  obtain ⟨members, hmembers, htable⟩ := bind_ok htable
  cases htable
  cases hfound
  unfold placed at hplaced
  split at hplaced
  · cases hplaced
  · rename_i simplified extension hs he
    rw [he] at hextension
    obtain ⟨entry, rest, hfit, rfl, rfl⟩ := simplify_eq_some.mp hs
    obtain ⟨⟨start, found⟩, hin, rfl⟩ := List.mem_map.mp (List.mem_of_find?_eq_some hfit)
    have hvalue : found ∈ naming.prefixes.memberValues := by
      unfold Json.members at hmembers
      split at hmembers
      · rename_i hp
        cases hmembers
        rw [hp]
        exact List.mem_map_of_mem hin
      · cases hmembers
    rw [← Option.some.inj (Except.ok.inj hplaced)]
    exact smooth_spellOut hextension
      ((hprefixes found hvalue).append (Smooth.append_iff.mp hname).2)
  · cases hplaced

end Naming

/-! ## Types -/

theorem Table.mem_of_entry? {table : Json} {name : String} {found : Json}
    (h : Table.entry? table name = .ok (some found)) : found ∈ table.memberValues := by
  obtain ⟨listed, _, h⟩ := bind_ok h
  cases listed with
  | false => cases h
  | true =>
    obtain ⟨entry, he, h⟩ := bind_ok h
    cases h
    unfold Table.entry at he
    split at he
    · split at he
      · rename_i hm
        cases he
        exact List.mem_map_of_mem (mem_of_member? hm)
      · cases he
    · cases he

theorem smooth_scalarType {type name : String} (h : scalarType? type = some name) :
    Smooth name := by
  unfold scalarType? at h
  split_ifs at h <;> cases h <;> decide

theorem even_listOf {inner : Json} (h : Even inner.plain) : Even (listOf inner).plain := by
  have hopen : Smooth "Array<" := by decide
  have hclose : Smooth ">" := by decide
  exact (hopen.even.append h).append hclose.even

theorem even_mapTo {inner : Json} (h : Even inner.plain) : Even (mapTo inner).plain := by
  have hkey : Smooth "[name: string]: " := by decide
  have hbraced := (hkey.even.append h).braced
  rwa [← String.append_assoc] at hbraced

/-- What the builder puts into a declaration has no braces and no line feeds in it. -/
structure Builder.Smooth (b : Builder) : Prop where
  located : ∀ reference location, b.target reference = .ok location → location.Smooth
  replaced : ∀ found ∈ b.replaced.memberValues, ApiTypings.Smooth found.plain
  redefined : ∀ found ∈ b.redefined.memberValues, ∀ part ∈ found.parts?.getD [],
    ApiTypings.Smooth part.plain

namespace Builder

variable {b : Builder}

theorem Smooth.spelling (h : b.Smooth) {value : Value} {type : Json}
    (hs : b.spelling value = .ok type) : Even type.plain := by
  induction value generalizing type with
  | ref target =>
    obtain ⟨location, hl, hs⟩ := bind_ok hs
    obtain ⟨found, hf, hs⟩ := bind_ok hs
    cases hs
    cases found with
    | some replacement => exact (h.replaced _ (Table.mem_of_entry? hf)).even
    | none => exact (h.located _ _ hl).name.even
  | scalar type =>
    unfold Typing.spelling at hs
    split at hs
    · rename_i hname
      cases hs
      exact (smooth_scalarType hname).even
    · cases hs
  | oddScalar type => cases hs
  | map entries ih =>
    obtain ⟨inner, hi, rfl⟩ := map_ok hs
    exact even_mapTo (ih hi)
  | array items ih =>
    obtain ⟨inner, hi, rfl⟩ := map_ok hs
    exact even_listOf (ih hi)
  | foreign found => cases hs

end Builder

/-! ## Fields and unions -/

theorem mem_of_givenTexts {values : List Json} {texts : List String}
    (h : givenTexts values = .ok texts) {text : String} (ht : text ∈ texts) :
    .string text ∈ values := by
  induction values generalizing texts with
  | nil =>
    cases h
    cases ht
  | cons found rest ih =>
    unfold givenTexts at h
    split at h
    · cases ‹_ :: _ = []›
    · rename_i he
      cases he
      split at h
      · exact List.mem_cons_of_mem _ (ih h ht)
      · obtain ⟨others, ho, rfl⟩ := map_ok h
        rcases List.mem_cons.mp ht with rfl | ht
        · exact List.mem_cons_self ..
        · exact List.mem_cons_of_mem _ (ih ho ht)
    · rename_i he
      cases he
      split at h
      · exact List.mem_cons_of_mem _ (ih h ht)
      · cases h

theorem smooth_literalType {served : List GroupVersionKind} {property text : String}
    (hserved : ∀ one ∈ served,
      Smooth one.group.plain ∧ Smooth one.version.plain ∧ Smooth one.kind.plain)
    (h : literalType served property = .ok (some text)) : Smooth text := by
  unfold literalType at h
  split at h
  · rename_i one
    obtain ⟨hgroup, hversion, hkind⟩ := hserved one (List.mem_singleton_self one)
    split at h
    · obtain ⟨texts, hgiven, h⟩ := bind_ok h
      rw [← Option.some.inj (Except.ok.inj h)]
      refine Smooth.quote (.join (by decide) fun part hp => ?_)
      rcases List.mem_pair.mp (mem_of_givenTexts hgiven hp) with he | he
      · rwa [← he] at hgroup
      · rwa [← he] at hversion
    · split at h
      · rw [← Option.some.inj (Except.ok.inj h)]
        exact Json.smooth_print hkind
      · cases h
  · cases h

/-- The name of the field has no braces, and its type has as many that open as that close. -/
structure Field.Even (field : Field String) : Prop where
  name : Smooth field.name
  type : ApiTypings.Even field.type

/-- The declaration has such fields, or types without braces. -/
inductive Declaration.Even : Declaration String → Prop
  | interface {name description : String} {fields : List (Field String)} :
    Smooth name → (∀ field ∈ fields, field.Even) → Even (.interface name description fields)
  | union {name description : String} {types : List String} :
    Smooth name → (∀ type ∈ types, Smooth type) → Even (.union name description types)

namespace Builder

variable {b : Builder}

theorem Smooth.fieldOf (h : b.Smooth) {definition : Definition} {entry : String × Property}
    {field : Field Json} {settled : Field String} (hname : ApiTypings.Smooth entry.1)
    (hserved : ∀ one ∈ definition.served, ApiTypings.Smooth one.group.plain ∧
      ApiTypings.Smooth one.version.plain ∧ ApiTypings.Smooth one.kind.plain)
    (hf : b.fieldOf definition entry = .ok field) (hs : field.settle = .ok settled) :
    settled.Even := by
  obtain ⟨description, _, hs⟩ := bind_ok hs
  cases hs
  obtain ⟨found, hl, hf⟩ := bind_ok hf
  cases found with
  | some text =>
    cases hf
    exact ⟨hname, (smooth_literalType hserved hl).even⟩
  | none =>
    obtain ⟨type, ht, hf⟩ := bind_ok hf
    cases hf
    exact ⟨hname, h.spelling ht⟩

theorem Smooth.unionTypes (h : b.Smooth) {name text : String} {type : Json} {types : List Json}
    (htype : ApiTypings.Smooth type.plain) (hu : b.unionTypes name type = .ok types)
    (ht : .string text ∈ types) : ApiTypings.Smooth text := by
  obtain ⟨entry, he, hu⟩ := bind_ok hu
  unfold typesOfEntry at hu
  split at hu
  · rename_i found
    split at hu
    · rename_i parts hparts
      cases hu
      have hpart : .string text ∈ found.parts?.getD [] := by
        rw [hparts]
        exact ht
      have hsmooth := h.redefined found (Table.mem_of_entry? he) _ hpart
      exact hsmooth
    · cases hu
  · unfold ownTypes at hu
    split at hu
    · cases hu
      cases ht
    · split at hu
      · rename_i own _ _
        cases hu
        cases List.mem_singleton.mp ht
        cases hn : scalarType? own with
        | none => exact htype
        | some scalar => exact smooth_scalarType hn
      · cases hu
      · cases hu
      · cases hu
        rw [← List.mem_singleton.mp ht] at htype
        exact htype

/-- What a definition without braces is built into has no braces but those of its types. -/
theorem Smooth.declarationOf (h : b.Smooth) {path name : String} {definition : Definition}
    {declaration : Declaration Json} {settled : Declaration String}
    (hname : ApiTypings.Smooth name) (hwords : ∀ word ∈ definition.words, ApiTypings.Smooth word)
    (hd : b.declarationOf path name definition = .ok declaration)
    (hs : declaration.settle = .ok settled) : settled.Even := by
  obtain ⟨htype, hproperties, hserved⟩ := Definition.forall_mem_words.mp hwords
  unfold Builder.declarationOf at hd
  split at hd
  · obtain ⟨fields, hfields, hd⟩ := bind_ok hd
    cases hd
    obtain ⟨_, _, hs⟩ := bind_ok hs
    obtain ⟨texts, htexts, hs⟩ := bind_ok hs
    cases hs
    refine .interface hname fun text ht => ?_
    obtain ⟨field, hf, hsettle⟩ := exists_of_forall₂ (mapM_eq_ok_iff.mp htexts).flip ht
    obtain ⟨entry, he, hbuilt⟩ := exists_of_forall₂ (mapM_eq_ok_iff.mp hfields).flip hf
    exact h.fieldOf (hproperties entry he) hserved hbuilt hsettle
  · obtain ⟨types, htypes, hd⟩ := bind_ok hd
    split at hd
    · cases hd
    · cases hd
      obtain ⟨_, _, hs⟩ := bind_ok hs
      obtain ⟨texts, htexts, hs⟩ := bind_ok hs
      cases hs
      refine .union hname fun text ht => ?_
      obtain ⟨found, hf, hsettle⟩ := exists_of_forall₂ (mapM_eq_ok_iff.mp htexts).flip ht
      unfold settleAlternative at hsettle
      split at hsettle
      · cases hsettle
        exact h.unionTypes htype htypes hf
      · cases hsettle

end Builder

end ApiTypings
