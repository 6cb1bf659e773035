import ApiTypings.Proofs.Locality
import ApiTypings.Proofs.Orders

/-!
# The order of definitions

Two schemas that differ only in the order of their definitions are read into documents that
do, or neither of them is read. From there on the order is never seen: definitions are looked
up by their names and declared in the order of the names. So whatever is generated and
rendered, noted or found fault with is the same.
-/

namespace ApiTypings

/-- The two schemas say the same, but for the order of the definitions. These have different
names, as members of an object have. -/
structure Reordered (raw raw' : Json) : Prop where
  definitions : ∃ members members', raw.get? "definitions" = some (.object members) ∧
    raw'.get? "definitions" = some (.object members') ∧ members.Perm members' ∧
    (members.map Prod.fst).Nodup
  others : ∀ name, name ≠ "definitions" → raw.get? name = raw'.get? name

theorem Reordered.symm {raw raw' : Json} (h : Reordered raw raw') : Reordered raw' raw := by
  obtain ⟨members, members', hm, hm', hp, hn⟩ := h.definitions
  exact ⟨⟨members', members, hm', hm, hp.symm, (hp.map Prod.fst).nodup_iff.mp hn⟩,
    fun name hname => (h.others name hname).symm⟩

namespace Document

/-- The two documents are the same, but for the order of the definitions, which have different
names. -/
structure Reordered (document document' : Document) : Prop where
  title : document.title = document'.title
  version : document.version = document'.version
  definitions : document.definitions.Perm document'.definitions
  keyed : (document.definitions.map Prod.fst).Nodup

theorem Reordered.resolve_eq {document document' : Document} (h : Reordered document document')
    (target : Json) : document.resolve target = document'.resolve target := by
  have hfind : ∀ name, member? name document.definitions = member? name document'.definitions :=
    fun name => member?_of_perm h.keyed h.definitions
  unfold resolve
  simp only [hfind, h.title, h.version]

variable {wanted : String → Except Failure Bool}

theorem readDefinitions_eq_ok_iff {members : List (String × Json)}
    {definitions : List (String × Definition)} :
    readDefinitions wanted members = .ok definitions ↔
      List.Forall₂ (ReadFrom wanted) members definitions := by
  refine ⟨readDefinitions_ok, fun h => ?_⟩
  induction h with
  | nil => rfl
  | @cons found entry members definitions hread _ ih =>
    obtain ⟨name, definition⟩ := entry
    obtain ⟨rfl, whole, hw, hd⟩ := hread
    simp only [readDefinitions, hw, hd, ih, bind, Except.bind]
    rfl

/-- In another order the definitions are read as well, and come out in that order. -/
theorem readDefinitions_perm {members members' : List (String × Json)}
    {definitions : List (String × Definition)} (hp : members.Perm members')
    (h : readDefinitions wanted members = .ok definitions) :
    ∃ definitions', readDefinitions wanted members' = .ok definitions' ∧
      definitions.Perm definitions' := by
  obtain ⟨definitions', hread, hperm⟩ :=
    List.perm_comp_forall₂ hp.symm (readDefinitions_eq_ok_iff.mp h)
  exact ⟨definitions', readDefinitions_eq_ok_iff.mpr hread, hperm.symm⟩

theorem map_fst_of_readFrom {members : List (String × Json)}
    {definitions : List (String × Definition)}
    (h : List.Forall₂ (ReadFrom wanted) members definitions) :
    definitions.map Prod.fst = members.map Prod.fst := by
  induction h with
  | nil => rfl
  | cons hread _ ih => rw [List.map_cons, List.map_cons, hread.1, ih]

theorem read_reordered {raw raw' : Json} (h : ApiTypings.Reordered raw raw') {document : Document}
    (hr : read wanted raw = .ok document) :
    ∃ document', read wanted raw' = .ok document' ∧ document.Reordered document' := by
  obtain ⟨members, members', hm, hm', hp, hn⟩ := h.definitions
  have hinfo : infoOf raw' = infoOf raw := by
    unfold infoOf
    rw [h.others "info" (by decide)]
  rw [read_eq hm] at hr
  rw [read_eq hm', hinfo]
  obtain ⟨info, hi, hr⟩ := bind_ok hr
  obtain ⟨definitions, hd, hr⟩ := bind_ok hr
  cases hr
  obtain ⟨definitions', hd', hperm⟩ := readDefinitions_perm hp hd
  refine ⟨labelled info definitions', ?_, rfl, rfl, hperm, ?_⟩
  · rw [hi, hd']
    rfl
  · change (definitions.map Prod.fst).Nodup
    rw [map_fst_of_readFrom (readDefinitions_ok hd)]
    exact hn

end Document

/-- Types are worked out from where references lead to, however that is found. -/
theorem Typing.typeOf_congr {t t' : Typing}
    (htarget : ∀ reference, t.target reference = t'.target reference)
    (hreplaced : t.replaced = t'.replaced) (value : Value) : t.typeOf value = t'.typeOf value := by
  induction value with
  | ref target =>
    unfold typeOf referenceType
    rw [htarget, hreplaced]
  | scalar type => rfl
  | oddScalar type => rfl
  | array items ih => rw [typeOf, typeOf, ih]
  | map entries ih => rw [typeOf, typeOf, ih]
  | foreign found => rfl

theorem Builder.build_congr {b b' : Builder}
    (htarget : ∀ reference, b.target reference = b'.target reference)
    (hreplaced : b.replaced = b'.replaced) (hredefined : b.redefined = b'.redefined) (name : String)
    (definition : Definition) : b.build name definition = b'.build name definition := by
  have hfield : b.buildField definition = b'.buildField definition := by
    funext entry
    unfold buildField
    simp only [Typing.typeOf_congr htarget hreplaced]
  have hunion : b.unionTypes = b'.unionTypes := by
    funext name type
    unfold unionTypes
    rw [hredefined]
  unfold build buildInterface buildUnion
  rw [hfield, hunion]

/-! ## Generating -/

namespace Generator

variable {g g' : Generator}

/-- What is generated is told by the definitions that are declared and by where references lead. -/
theorem generate_congr (hs : g.settings = g'.settings)
    (hdefinitions : g.definitions = g'.definitions)
    (htarget : ∀ reference, g.typing.target reference = g'.typing.target reference) :
    g.generate = g'.generate := by
  have hdeclare : g.declare = g'.declare := by
    funext located
    unfold declare
    rw [Builder.build_congr htarget (congrArg Settings.replacedTypes hs)
      (congrArg Settings.redefinedTypes hs)]
  unfold generate
  rw [hdefinitions, hdeclare]

theorem ordered_eq (h : g.document.Reordered g'.document) : g.ordered = g'.ordered :=
  sortedBy_of_perm Prod.fst h.keyed h.definitions

theorem definitions_eq (hs : g.settings = g'.settings) (h : g.document.Reordered g'.document) :
    g.definitions = g'.definitions := by
  have hplace : g.place = g'.place := by
    funext name definition
    unfold place
    rw [hs]
  unfold definitions
  rw [ordered_eq h, hplace]

/-- Documents that differ in the order of their definitions are generated from in one way. -/
theorem generate_eq (hs : g.settings = g'.settings) (h : g.document.Reordered g'.document) :
    g.generate = g'.generate := by
  refine generate_congr hs (definitions_eq hs h) fun reference => ?_
  unfold Typing.target
  simp only [typing, Settings.builder, h.resolve_eq, hs]

theorem render_eq (hs : g.settings = g'.settings) (h : g.document.Reordered g'.document) :
    g.render = g'.render := by
  unfold render
  rw [generate_eq hs h]

theorem ofSchema_reordered {settings : Settings} {schema schema' : Json}
    (h : Reordered schema schema') (hg : ofSchema settings schema = .ok g) :
    ∃ g', ofSchema settings schema' = .ok g' ∧ g.settings = g'.settings ∧
      g.document.Reordered g'.document := by
  obtain ⟨htables, rfl, hd⟩ := ofSchema_eq_ok.mp hg
  obtain ⟨document', hd', hdocument⟩ := Document.read_reordered h hd
  exact ⟨⟨g.settings, document'⟩, ofSchema_eq_ok.mpr ⟨htables, rfl, hd'⟩, rfl, hdocument⟩

/-- Of two schemas that differ in the order of their definitions either none makes a generator, or
both do, and from any start the one generates and renders what the other does, with the same
project and the same log, or fails as the other does. -/
theorem reordering_irrelevant {settings : Settings} {schema schema' : Json}
    (h : Reordered schema schema') :
    ((∃ e, ofSchema settings schema = .error e) ∧ ∃ e, ofSchema settings schema' = .error e) ∨
      ∃ g g', ofSchema settings schema = .ok g ∧ ofSchema settings schema' = .ok g' ∧
        ∀ w, g.render.outcome w = g'.render.outcome w ∧
          g.generate.outcome w = g'.generate.outcome w := by
  cases hg : ofSchema settings schema with
  | ok g =>
    obtain ⟨g', hg', hs, hd⟩ := ofSchema_reordered h hg
    exact .inr ⟨g, g', rfl, hg', fun w => ⟨by rw [render_eq hs hd], by rw [generate_eq hs hd]⟩⟩
  | error e =>
    cases hg' : ofSchema settings schema' with
    | ok g' =>
      -- what is read in one order is read in the other
      obtain ⟨_, hback, _⟩ := ofSchema_reordered h.symm hg'
      rw [hg] at hback
      cases hback
    | error e' => exact .inl ⟨⟨e, rfl⟩, e', rfl⟩

/-- The first schema with its definitions the other way round. -/
def swappedSchema : Json :=
  .object [("definitions", .object [("io.k8s.api.b.Plain", .object [("type", .string "boolean")]),
    jobDefinition])]

theorem swapped_reordered : Reordered firstSchema swappedSchema where
  definitions := ⟨_, _, rfl, rfl, .swap .., by decide⟩
  others := by
    intro name hname
    simp [firstSchema, swappedSchema, Json.get?, member?, hname.symm]

theorem reordering_irrelevant_of_swapped :
    Reordered firstSchema swappedSchema ∧ firstSchema ≠ swappedSchema ∧
      ∃ g', ofSchema .standard swappedSchema = .ok g' ∧
        (g'.render.outcome {}).1 = .ok firstTexts := by
  refine ⟨swapped_reordered, by decide, ?_⟩
  rcases @reordering_irrelevant .standard _ _ swapped_reordered with
    ⟨⟨e, he⟩, _⟩ | ⟨g, g', hg, hg', hsame⟩
  · rw [first_read] at he
    cases he
  · rw [first_read] at hg
    cases hg
    refine ⟨g', hg', ?_⟩
    rw [← (hsame {}).1]
    exact first_render

end Generator

end ApiTypings
