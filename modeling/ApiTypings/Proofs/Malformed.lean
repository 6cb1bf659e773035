import Mathlib
import ApiTypings.Proofs.Refusals
import ApiTypings.Proofs.Values

/-!
# Schemas with malformed values

In a schema that is well-formed but for the values of its properties, these alone decide whether
it is read: the values of the definitions that have a location, in the order of the schema. What
is wrong with one is reported, with two exceptions. A type that is a list or an object cannot
be compared with the types that are known, and what is referred to cannot be looked up if it
is no text.
-/

namespace ApiTypings

namespace Json

/-- The value is a text. -/
def IsText (j : Json) : Prop := ∃ text, j = .string text

/-- The value is an object. -/
def IsObject (j : Json) : Prop := ∃ members, j = .object members

/-- The value is a list. -/
def IsList (j : Json) : Prop := ∃ items, j = .array items

/-- The member is of this kind, if it is there. -/
def May (kind : Json → Prop) (name : String) (j : Json) : Prop :=
  ∀ found, j.get? name = some found → kind found

end Json

/-- What says how the objects of a definition are served: objects of texts. -/
structure Json.IsServed (j : Json) : Prop where
  object : j.IsObject
  group : j.May Json.IsText "group"
  version : j.May Json.IsText "version"
  kind : j.May Json.IsText "kind"

/-- A definition whose members are of the right kinds; the values of its properties may be
anything. -/
structure Definition.Regular (raw : Json) : Prop where
  object : raw.IsObject
  properties : raw.May Json.IsObject "properties"
  required : raw.May Json.IsList "required"
  type : raw.May Json.IsText "type"
  served : raw.May (fun found => ∃ entries, found = .array entries ∧
    ∀ one ∈ entries, one.IsServed) servedMember

/-- A schema whose definitions are of the right kinds. -/
structure Document.Regular (schema : Json) : Prop where
  definitions : ∃ members, schema.get? "definitions" = some (.object members) ∧
    ∀ entry ∈ members, Definition.Regular entry.2
  info : schema.May Json.IsObject "info"

namespace Definition

variable {raw : Json} {path : String}

/-- The properties of a definition as they stand there. -/
def propertiesOf (raw : Json) : List (String × Json) :=
  match raw.get? "properties" with
  | some (.object properties) => properties
  | _ => []

/-- There is a value that this describes. -/
def Legible (raw : Json) : Prop := ∃ value, Value.Describes raw value

theorem readValue_decides (path : String) (raw : Json) :
    Decides (Property.read path raw) (Legible raw) fun e => Value.read path raw = .error e := by
  refine Decides.bind_of_ok (x := Value.read path raw) ?_ fun value _ => ⟨_, rfl⟩
  exact ⟨exists_congr fun value => Value.read_eq_ok_iff, fun e => Iff.rfl⟩

/-- The properties are read one after the other. -/
theorem readProperties_decides (path : String) (members : List (String × Json)) :
    Decides (readProperties path (.object members)) (∀ entry ∈ members, Legible entry.2)
      (First (fun entry => Legible entry.2)
        (fun entry e => Value.read (path ++ "/properties/" ++ entry.1) entry.2 = .error e)
        members) := by
  show Decides (members.mapM _) _ _
  refine Decides.mapM fun entry _ => ?_
  exact (readValue_decides _ entry.2).bind_of_ok fun property _ => ⟨_, rfl⟩

theorem Regular.readContent_decides (h : Regular raw) (wanted : Bool) {members : List (String × Json)}
    (hraw : raw = .object members) :
    Decides (readContent path wanted members)
      (wanted = true → ∀ entry ∈ propertiesOf raw, Legible entry.2)
      fun e => wanted = true ∧ First (fun entry => Legible entry.2)
        (fun entry e => Value.read (path ++ "/properties/" ++ entry.1) entry.2 = .error e)
        (propertiesOf raw) e := by
  subst hraw
  cases wanted with
  | false =>
    rw [readContent_unwanted]
    exact (Decides.pure none).congr (by simp) (by simp)
  | true =>
    unfold propertiesOf readContent
    cases hp : (Json.object members).get? "properties" with
    | none =>
      rw [show member? "properties" members = none from hp]
      exact (Decides.pure none).congr (by simp) (by simp [not_first_nil])
    | some found =>
      obtain ⟨properties, rfl⟩ := h.properties found hp
      rw [show member? "properties" members = some (.object properties) from hp]
      exact (Decides.map_iff.mpr (readProperties_decides path properties)).congr (by simp) (by simp)

/-- The kinds of what is served, and of the type. -/
structure Plain (definition : Definition) : Prop where
  served : ∀ one ∈ definition.served,
    ∃ group version kind, one = ⟨.string group, .string version, .string kind⟩
  type : definition.type = .null ∨ ∃ tag, definition.type = .string tag

/-- A list that may be missing has parts in any case: its items, if it is there. -/
theorem parts_of_may {kind : Json → Prop} {name : String} (h : raw.May kind name)
    (hlist : ∀ found, kind found → found.IsList) :
    ∃ parts, ((raw.get? name).getD .null).partsOrNone = .ok parts ∧
      ∀ part ∈ parts, ∃ items, kind (.array items) ∧ part ∈ items := by
  cases hm : raw.get? name with
  | none => exact ⟨[], rfl, by simp⟩
  | some found =>
    have hkind := h found hm
    obtain ⟨items, rfl⟩ := hlist found hkind
    refine ⟨items, ?_, fun part hp => ⟨items, hkind, hp⟩⟩
    cases items <;> rfl

theorem may_getD {kind : Json → Prop} {name : String} (h : raw.May kind name) {default : Json}
    (hd : kind default) : kind ((raw.get? name).getD default) := by
  cases hm : raw.get? name with
  | none => exact hd
  | some found => exact h found hm

theorem read_served (h : raw.IsServed) : ∃ group version kind,
    GroupVersionKind.read raw = .ok ⟨.string group, .string version, .string kind⟩ := by
  obtain ⟨members, rfl⟩ := h.object
  obtain ⟨group, hg⟩ := may_getD h.group ⟨"", rfl⟩
  obtain ⟨version, hv⟩ := may_getD h.version ⟨"", rfl⟩
  obtain ⟨kind, hk⟩ := may_getD h.kind ⟨"", rfl⟩
  refine ⟨group, version, kind, ?_⟩
  rw [← hg, ← hv, ← hk]
  rfl

/-- What comes behind the properties is read in any case. -/
theorem Regular.readRest_plain (h : Regular raw) {members : List (String × Json)}
    (hraw : raw = .object members) (properties : Option (List (String × Property))) :
    ∃ definition, readRest members properties = .ok definition ∧ definition.Plain := by
  subst hraw
  obtain ⟨parts, hparts, hserved⟩ := parts_of_may h.served fun _ ⟨entries, he, _⟩ => ⟨entries, he⟩
  obtain ⟨required, hrequired, _⟩ := parts_of_may h.required fun _ hl => hl
  have hread : ∀ part ∈ parts, ∃ group version kind,
      GroupVersionKind.read part = .ok ⟨.string group, .string version, .string kind⟩ := by
    intro part hp
    obtain ⟨_, ⟨entries, he, hentries⟩, hm⟩ := hserved part hp
    cases he
    exact read_served (hentries part hm)
  obtain ⟨served, hs⟩ := exists_mapM_ok fun part hp =>
    let ⟨_, _, _, hone⟩ := hread part hp
    ⟨_, hone⟩
  have htype : (member? "type" members).getD .null = .null ∨
      ∃ tag, (member? "type" members).getD .null = .string tag := by
    cases ht : member? "type" members with
    | none => exact .inl rfl
    | some found => exact .inr (h.type found ht)
  unfold Json.get? at hparts hrequired
  simp only [readRest, hparts, hrequired, hs, bind, Except.bind]
  refine ⟨_, rfl, ?_, htype⟩
  intro one ho
  obtain ⟨part, hp, hone⟩ := exists_of_forall₂ (mapM_eq_ok_iff.mp hs).flip ho
  obtain ⟨group, version, kind, hthis⟩ := hread part hp
  rw [hthis] at hone
  exact ⟨group, version, kind, (Except.ok.inj hone).symm⟩

theorem Regular.read_decides (h : Regular raw) (wanted : Bool) :
    Decides (read path wanted raw)
      (wanted = true → ∀ entry ∈ propertiesOf raw, Legible entry.2)
      fun e => wanted = true ∧ First (fun entry => Legible entry.2)
        (fun entry e => Value.read (path ++ "/properties/" ++ entry.1) entry.2 = .error e)
        (propertiesOf raw) e := by
  obtain ⟨members, hraw⟩ := h.object
  rw [hraw, read_object, ← hraw]
  refine (h.readContent_decides wanted hraw).bind_of_ok fun properties _ => ?_
  obtain ⟨definition, hd, _⟩ := h.readRest_plain hraw properties
  exact ⟨definition, hd⟩

theorem Regular.read_plain (h : Regular raw) {wanted : Bool} {definition : Definition}
    (hread : read path wanted raw = .ok definition) : definition.Plain := by
  obtain ⟨members, hraw⟩ := h.object
  rw [hraw, read_object] at hread
  obtain ⟨properties, _, hrest⟩ := bind_ok hread
  obtain ⟨other, ho, hplain⟩ := h.readRest_plain hraw properties
  rw [hrest] at ho
  cases ho
  exact hplain

/-- Each property that was read stands among the properties, and describes its value. -/
theorem readContent_describes {wanted : Bool} {members : List (String × Json)}
    {properties : List (String × Property)}
    (h : readContent path wanted members = .ok (some properties)) {property : String × Property}
    (hm : property ∈ properties) :
    wanted = true ∧
      ∃ entry ∈ propertiesOf (.object members), Value.Describes entry.2 property.2.value := by
  unfold readContent at h
  cases hp : member? "properties" members with
  | none =>
    rw [hp] at h
    cases h
  | some found =>
    rw [hp, Option.getD_some] at h
    split at h
    · cases h
    · split at h
      · rename_i hwanted
        refine ⟨hwanted, ?_⟩
        obtain ⟨_, hread, he⟩ := map_ok h
        cases he
        obtain ⟨entries, hentries, hread⟩ := bind_ok hread
        obtain ⟨entry, he, hone⟩ := exists_of_forall₂ (mapM_eq_ok_iff.mp hread).flip hm
        obtain ⟨value, hv, hone⟩ := bind_ok hone
        cases hone
        obtain ⟨described, hd, hv⟩ := bind_ok hv
        cases hv
        refine ⟨entry, ?_, Value.read_eq_ok_iff.mp hd⟩
        unfold propertiesOf
        rw [show (Json.object members).get? "properties" = some found from hp]
        cases found with
        | object =>
          cases hentries
          exact he
        | _ => cases hentries
      · cases h

theorem describes_of_read {wanted : Bool} {definition : Definition}
    (hread : read path wanted raw = .ok definition) {properties : List (String × Property)}
    (hp : definition.properties = some properties) {property : String × Property}
    (hm : property ∈ properties) :
    wanted = true ∧ ∃ entry ∈ propertiesOf raw, Value.Describes entry.2 property.2.value := by
  cases raw with
  | object members =>
    rw [read_object] at hread
    obtain ⟨found, hfound, hrest⟩ := bind_ok hread
    obtain rfl : some properties = found := hp.symm.trans (readRest_ok hrest).1
    exact readContent_describes hfound hm
  | _ => cases hread

end Definition

open Definition (Legible propertiesOf)

/-- Whether a definition of the name has a location. -/
def TypedSettings.locates (typed : TypedSettings) (name : String) : Bool :=
  (Naming.locate typed.namespacePrefixes typed.fileExtension name).isSome

theorem TypedSettings.hasLocation (typed : TypedSettings) (name : String) :
    typed.settings.naming.hasLocation name = .ok (typed.locates name) := by
  unfold Naming.hasLocation
  rw [typed.location]
  rfl

namespace Document

variable {typed : TypedSettings} {schema : Json} {members : List (String × Json)}

/-- The values of the properties of a definition, as far as they are read, each with the place that a
message names. -/
def sitesIn (typed : TypedSettings) (entry : String × Json) : List (String × Json) :=
  if typed.locates entry.1 then
    (propertiesOf entry.2).map fun property =>
      (referencePrefix ++ entry.1 ++ "/properties/" ++ property.1, property.2)
  else []

/-- The values of all definitions of a schema. -/
def sitesOf (typed : TypedSettings) (schema : Json) : List (String × Json) :=
  (rawDefinitions schema).flatMap (sitesIn typed)

theorem readDefinition_decides (typed : TypedSettings) {entry : String × Json}
    (h : Definition.Regular entry.2) :
    Decides (Definition.read (referencePrefix ++ entry.1) (typed.locates entry.1) entry.2)
      (∀ site ∈ sitesIn typed entry, Legible site.2)
      (First (fun site => Legible site.2) (fun site e => Value.read site.1 site.2 = .error e)
        (sitesIn typed entry)) := by
  refine (h.read_decides (typed.locates entry.1)).congr ?_ fun e => ?_
  · unfold sitesIn
    split
    · rename_i hl
      rw [List.forall_mem_map]
      exact forall_prop_of_true hl
    · rename_i hl
      exact iff_of_true (fun hl' => absurd hl' hl) (List.forall_mem_nil _)
  · unfold sitesIn
    split
    · rename_i hl
      rw [first_map]
      exact and_iff_right hl
    · rename_i hl
      exact iff_of_false (fun h => hl h.1) (not_first_nil _ _ e)

/-- The definitions are read if the values are, and the first that is not is what is wrong. -/
theorem readDefinitions_decides (h : ∀ entry ∈ members, Definition.Regular entry.2) :
    Decides (readDefinitions typed.settings.naming.hasLocation members)
      (∀ site ∈ members.flatMap (sitesIn typed), Legible site.2)
      (First (fun site => Legible site.2) (fun site e => Value.read site.1 site.2 = .error e)
        (members.flatMap (sitesIn typed))) := by
  induction members with
  | nil => exact (Decides.pure []).congr (by simp) (by simp [not_first_nil])
  | cons entry rest ih =>
    rw [List.forall_mem_cons] at h
    have hfirst := readDefinition_decides typed h.1
    unfold readDefinitions
    rw [typed.hasLocation, List.flatMap_cons]
    refine (hfirst.bind fun definition _ => Decides.map_iff.mpr (ih h.2)).congr ?_ fun e => ?_
    · exact List.forall_mem_append.symm
    · exact first_append.symm

theorem infoOf_regular (h : Regular schema) : ∃ info, infoOf schema = .ok info := by
  unfold infoOf
  cases hi : schema.get? "info" with
  | none => exact ⟨[], rfl⟩
  | some found =>
    obtain ⟨members, rfl⟩ := h.info found hi
    cases members <;> exact ⟨_, rfl⟩

/-- So is the schema. -/
theorem Regular.read_decides (h : Regular schema) :
    Decides (read typed.settings.naming.hasLocation schema)
      (∀ site ∈ sitesOf typed schema, Legible site.2)
      (First (fun site => Legible site.2) (fun site e => Value.read site.1 site.2 = .error e)
        (sitesOf typed schema)) := by
  obtain ⟨members, hm, hregular⟩ := h.definitions
  rw [read_eq hm]
  unfold sitesOf
  rw [rawDefinitions_of_get hm]
  refine .of_ok_bind (infoOf_regular h) fun info _ => ?_
  exact (readDefinitions_decides hregular).bind_of_ok fun definitions _ => ⟨_, rfl⟩

/-- What was read of such a schema is plain, and a value in it describes what stands in the schema. -/
theorem Regular.of_read (h : Regular schema) {document : Document}
    (hread : read typed.settings.naming.hasLocation schema = .ok document)
    {entry : String × Definition} (he : entry ∈ document.definitions) :
    entry.2.Plain ∧ ∀ properties, entry.2.properties = some properties →
      ∀ property ∈ properties, ∃ site ∈ sitesOf typed schema,
        Value.Describes site.2 property.2.value := by
  obtain ⟨members, hm, hregular⟩ := h.definitions
  obtain ⟨found, hf, _, wanted, hwanted, hdefinition⟩ :=
    exists_of_forall₂ (read_ok hread).flip he
  have hfound : found ∈ members := by rwa [rawDefinitions_of_get hm] at hf
  refine ⟨(hregular found hfound).read_plain hdefinition, ?_⟩
  intro properties hp property hproperty
  obtain ⟨rfl, site, hs, hd⟩ := Definition.describes_of_read hdefinition hp hproperty
  rw [typed.hasLocation] at hwanted
  refine ⟨(referencePrefix ++ found.1 ++ "/properties/" ++ site.1, site.2),
    List.mem_flatMap.mpr ⟨found, hf, ?_⟩, hd⟩
  unfold sitesIn
  rw [if_pos (Except.ok.inj hwanted)]
  exact List.mem_map.mpr ⟨site, hs, rfl⟩

end Document

open Document (sitesOf)

namespace Generator

variable {g : Generator} {typed : TypedSettings} {schema : Json}

/-! ## Runs that break off -/

/-- Makes a generator for the schema and runs it. -/
def produce (settings : Settings) (schema : Json) : Except Failure Project := do
  let g ← ofSchema settings schema
  (g.generate.outcome {}).1

/-- There is a project, or an error that says why there is none. -/
def Foreseen (outcome : Except Failure Project) : Prop :=
  (∃ project, outcome = .ok project) ∨ ∃ error, outcome = .error (.generation error)

/-- Why a run breaks off. -/
inductive Breaks (typed : TypedSettings) (schema : Json) : Fault → Prop
  /-- The first value of the schema that is not legible leads to a type that is a list or an
  object. -/
  | reading (h : First (fun site => Legible site.2)
      (fun site fault => fault = .mismatch ∧ Value.Trips site.2) (sitesOf typed schema)
      Fault.mismatch) : Breaks typed schema .mismatch
  /-- The schema is read, and the first definition that cannot be declared refers to what is no
  text, before it refers to anything else that is not there. -/
  | generating {g : Generator} (hg : ofSchema typed.settings schema = .ok g)
    (h : First (g.Sound typed) (g.Stalls typed) (g.ordered.filterMap g.located?)
      (.fault .noMember)) : Breaks typed schema .noMember

theorem ofSchema_decides (typed : TypedSettings) (h : Document.Regular schema) :
    Decides (ofSchema typed.settings schema) (∀ site ∈ sitesOf typed schema, Legible site.2)
      (First (fun site => Legible site.2) (fun site e => Value.read site.1 site.2 = .error e)
        (sitesOf typed schema)) :=
  h.read_decides.bind_of_ok fun _ _ => ⟨_, rfl⟩

theorem regular_of_ofSchema (h : Document.Regular schema)
    (hg : ofSchema typed.settings schema = .ok g) :
    Document.read typed.settings.naming.hasLocation schema = .ok g.document ∧
      g.Regular typed := by
  obtain ⟨_, hs, hread⟩ := ofSchema_eq_ok.mp hg
  refine ⟨hread, hs, ⟨_, _, hread⟩, ?_, ?_⟩
  · intro entry he
    exact (h.of_read hread he).1.served
  · intro entry he
    exact (h.of_read hread he).1.type

/-- A definition stalls for a reason that is given, or because a property of it refers to what is no
text. -/
theorem stalls_cases {located : Located} {failure : Failure}
    (h : g.Stalls typed located failure) :
    (∃ error, failure = .generation error) ∨ (failure = .fault .noMember ∧
      ∃ properties, located.definition.properties = some properties ∧ ∃ property ∈ properties,
        ∃ reference, property.2.value.reference? = some reference ∧ ¬ reference.IsText) := by
  unfold Stalls at h
  split at h
  · obtain ⟨properties, hp, before, property, after, hsplit, _, _, reference, hr, hstop⟩ := h
    cases hstop with
    | refused => exact .inl ⟨_, rfl⟩
    | shapeless hshape =>
      have hm : property ∈ properties := by simp [hsplit]
      exact .inr ⟨rfl, properties, hp, property, hm, reference, hr, fun ⟨text, ht⟩ => hshape text ht⟩
  · exact .inl ⟨_, h.2⟩

theorem produce_eq_fault_iff (h : Document.Regular schema) {fault : Fault} :
    produce typed.settings schema = .error (.fault fault) ↔ Breaks typed schema fault := by
  have hreading := ofSchema_decides typed h
  unfold produce
  constructor
  · intro hfault
    cases hg : ofSchema typed.settings schema with
    | error e =>
      rw [hg] at hfault
      cases hfault
      obtain ⟨before, site, after, hsplit, hbefore, hsite⟩ := (hreading.error _).mp hg
      obtain ⟨rfl, ht⟩ := Value.read_eq_fault_iff.mp hsite
      exact .reading ⟨before, site, after, hsplit, hbefore, rfl, ht⟩
    | ok g =>
      rw [hg] at hfault
      have hstop := (((regular_of_ofSchema h hg).2.generate_decides []).error _).mp hfault
      -- a definition stalls at one fault only, since the types that were read are texts
      have hreason : fault = .noMember := by
        obtain ⟨_, located, _, _, _, hstalls⟩ := hstop
        rcases stalls_cases hstalls with ⟨_, he⟩ | ⟨he, _⟩ <;> cases he
        rfl
      subst hreason
      exact .generating hg hstop
  · intro hbreaks
    cases hbreaks with
    | reading hfirst =>
      obtain ⟨before, site, after, hsplit, hbefore, _, ht⟩ := hfirst
      have hsite : Value.read site.1 site.2 = .error (.fault .mismatch) :=
        Value.read_eq_fault_iff.mpr ⟨rfl, ht⟩
      rw [(hreading.error _).mpr ⟨before, site, after, hsplit, hbefore, hsite⟩]
      rfl
    | generating hg hfirst =>
      rw [hg]
      exact (((regular_of_ofSchema h hg).2.generate_decides []).error _).mpr hfirst

/-- A run ends with a project, or with an error, or breaks off. -/
theorem produce_cases (typed : TypedSettings) (h : Document.Regular schema) :
    Foreseen (produce typed.settings schema) ∨
      ∃ fault, produce typed.settings schema = .error (.fault fault) := by
  cases hp : produce typed.settings schema with
  | ok project => exact .inl (.inl ⟨project, rfl⟩)
  | error e =>
    unfold produce at hp
    cases hg : ofSchema typed.settings schema with
    | error e' =>
      rw [hg] at hp
      cases hp
      obtain ⟨_, site, _, _, _, hsite⟩ := ((ofSchema_decides typed h).error _).mp hg
      rcases Value.read_failure hsite with ⟨rfl, _⟩ | ⟨error, rfl⟩
      · exact .inr ⟨_, rfl⟩
      · exact .inl (.inr ⟨error, rfl⟩)
    | ok g =>
      rw [hg] at hp
      obtain ⟨_, located, _, _, _, hstalls⟩ :=
        (((regular_of_ofSchema h hg).2.generate_decides []).error _).mp hp
      rcases stalls_cases hstalls with ⟨error, rfl⟩ | ⟨rfl, _⟩
      · exact .inl (.inr ⟨error, rfl⟩)
      · exact .inr ⟨_, rfl⟩

/-- All that is referred to is a text, and no type is a list or an object, wherever the values that
are read lead. -/
def Harmless (typed : TypedSettings) (schema : Json) : Prop :=
  ∀ site ∈ sitesOf typed schema, ∀ steps found, Value.Leads site.2 steps found →
    (∀ target, Value.Refers found target → target.IsText) ∧
      ∀ tag, Value.Tagged found tag → tag.isAtom = true

theorem Harmless.not_breaks (hharmless : Harmless typed schema) (h : Document.Regular schema)
    {fault : Fault} : ¬ Breaks typed schema fault := by
  intro hbreaks
  cases hbreaks with
  | reading hfirst =>
    obtain ⟨before, site, after, hsplit, _, _, steps, found, tag, hleads, ht, ha⟩ := hfirst
    have hatom := (hharmless site (by simp [hsplit]) steps found hleads).2 tag ht
    rw [ha] at hatom
    cases hatom
  | @generating g hg hfirst =>
    obtain ⟨before, located, after, hsplit, _, hstalls⟩ := hfirst
    have hl : located ∈ g.ordered.filterMap g.located? := by simp [hsplit]
    rcases stalls_cases hstalls with ⟨_, he⟩ | ⟨_, properties, hp, property, hm, reference, hr, hn⟩
    · cases he
    · obtain ⟨site, hs, hd⟩ :=
        (h.of_read (regular_of_ofSchema h hg).1 (mem_declared.mp hl).1).2 properties hp property hm
      obtain ⟨steps, found, hleads, hf⟩ := hd.leads hr
      exact hn ((hharmless site hs steps found hleads).1 reference hf)

/-- When a schema that is well-formed but for its values is generated from, the run breaks off for
two reasons only, and ends in a foreseen way otherwise. -/
theorem produce_foreseen (h : Document.Regular schema) :
    (Foreseen (produce typed.settings schema) ↔ ∀ fault, ¬ Breaks typed schema fault) ∧
      (∀ fault, produce typed.settings schema = .error (.fault fault) ↔
        Breaks typed schema fault) ∧
      (Harmless typed schema → Foreseen (produce typed.settings schema)) := by
  have hforeseen : Foreseen (produce typed.settings schema) ↔
      ∀ fault, ¬ Breaks typed schema fault := by
    constructor
    · rintro hends fault hbreaks
      have hfault := (produce_eq_fault_iff h).mpr hbreaks
      rcases hends with ⟨_, he⟩ | ⟨_, he⟩ <;> cases hfault.symm.trans he
    · intro hnone
      rcases produce_cases typed h with hends | ⟨fault, hfault⟩
      · exact hends
      · exact absurd ((produce_eq_fault_iff h).mp hfault) (hnone fault)
  refine ⟨hforeseen, fun fault => produce_eq_fault_iff h, fun hharmless => ?_⟩
  exact hforeseen.mpr fun fault => hharmless.not_breaks h

/-- A schema of one object with one property, of this value. -/
def schemaOf (value : Json) : Json := .object [("definitions", .object [
  ("io.k8s.api.a.A", .object [
    ("type", .string "object"),
    ("properties", .object [("x", value)])])])]

theorem schemaOf_regular (value : Json) : Document.Regular (schemaOf value) where
  definitions := by
    refine ⟨_, rfl, ?_⟩
    rw [List.forall_mem_singleton]
    refine ⟨⟨_, rfl⟩, ?_, nofun, ?_, nofun⟩
    · rintro _ ⟨⟩
      exact ⟨_, rfl⟩
    · rintro _ ⟨⟩
      exact ⟨_, rfl⟩
  info := nofun

/-- A list of what is not there. -/
def dangling : Json := .object [
  ("type", .string "array"),
  ("items", .object [("$ref", .string "#/definitions/B"), ("type", .array [])])]

theorem produce_dangling : produce .standard (schemaOf dangling) =
    .error (.generation (.danglingReference "B" (.string "") (.string ""))) := by
  cbv

theorem produce_foreseen_of_dangling :
    Document.Regular (schemaOf dangling) ∧
      produce .standard (schemaOf dangling) =
        .error (.generation (.danglingReference "B" (.string "") (.string ""))) ∧
      ∀ fault, ¬ Breaks .standard (schemaOf dangling) fault :=
  ⟨schemaOf_regular dangling, produce_dangling,
    (produce_foreseen (schemaOf_regular dangling)).1.mp (.inr ⟨_, produce_dangling⟩)⟩

/-- A reference that is a number, and a type that is a list: neither is reported. -/
theorem shapeless_not_foreseen :
    Document.Regular (schemaOf (.object [("$ref", .int 5)])) ∧
    ¬ Foreseen (produce .standard (schemaOf (.object [("$ref", .int 5)]))) ∧
    Document.Regular (schemaOf (.object [("type", .array [.string "string"])])) ∧
    ¬ Foreseen (produce .standard (schemaOf (.object [("type", .array [.string "string"])]))) := by
  have hreference : produce .standard (schemaOf (.object [("$ref", .int 5)])) =
      .error (.fault .noMember) := by cbv
  have htype : produce .standard (schemaOf (.object [("type", .array [.string "string"])])) =
      .error (.fault .mismatch) := by cbv
  refine ⟨schemaOf_regular _, ?_, schemaOf_regular _, ?_⟩
  · rw [hreference]
    rintro (⟨_, h⟩ | ⟨_, h⟩) <;> cases h
  · rw [htype]
    rintro (⟨_, h⟩ | ⟨_, h⟩) <;> cases h

end Generator

end ApiTypings
