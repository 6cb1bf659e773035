import ApiTypings.Proofs.Reordering
import ApiTypings.Proofs.TypedSettings

/-!
# Definitions that are left out

A definition without a location is never declared, and so the generator of a schema does not
read its properties. Nothing else looks at what such a definition says either: references are
resolved by its name, and refused by it. So generating from a document of which only the
located definitions were read in full is generating from all of it, and two schemas that
differ in what would be declared for the other definitions cannot be told apart.
-/

namespace ApiTypings

namespace Document

variable {naming : Naming} {document document' : Document}

/-- Under the same name stands the same definition, unless the name has no location. -/
def AgreeAt (naming : Naming) (entry entry' : String × Definition) : Prop :=
  entry.1 = entry'.1 ∧
    ∀ location, naming.location entry.1 = .ok (some location) → entry.2 = entry'.2

/-- The documents say the same, but perhaps of definitions without a location. -/
structure Agree (naming : Naming) (document document' : Document) : Prop where
  title : document.title = document'.title
  version : document.version = document'.version
  definitions : List.Forall₂ (AgreeAt naming) document.definitions document'.definitions

theorem Agree.refl (naming : Naming) (document : Document) : document.Agree naming document :=
  ⟨rfl, rfl, List.forall₂_same.mpr fun _ _ => ⟨rfl, fun _ _ => rfl⟩⟩

theorem labelled_agree {info : List (String × Json)}
    {definitions definitions' : List (String × Definition)}
    (h : List.Forall₂ (AgreeAt naming) definitions definitions') :
    (labelled info definitions).Agree naming (labelled info definitions') := ⟨rfl, rfl, h⟩

/-- Under a name there is something in both lists or in neither. -/
theorem member?_isSome_of_agree {entries entries' : List (String × Definition)}
    (h : List.Forall₂ (AgreeAt naming) entries entries') (name : String) :
    (member? name entries).isSome = (member? name entries').isSome := by
  induction h with
  | nil => rfl
  | @cons entry entry' rest rest' hentry _ ih =>
    obtain ⟨key, definition⟩ := entry
    obtain ⟨key', definition'⟩ := entry'
    obtain rfl : key = key' := hentry.1
    by_cases hk : key = name
    · simp [member?, hk]
    · simpa [member?, hk] using ih

/-- A reference resolves to one name in both, or is refused with the same message. -/
theorem Agree.resolve (h : Agree naming document document') (target : Json) :
    EndAlike (fun found found' => found.1 = found'.1) (document.resolve target)
      (document'.resolve target) := by
  unfold Document.resolve
  split
  · split
    · exact .error _
    · rename_i name _
      have hsome := member?_isSome_of_agree h.definitions name
      cases hm : member? name document.definitions <;>
        cases hm' : member? name document'.definitions <;> rw [hm, hm'] at hsome
      · rw [h.title, h.version]
        exact .error _
      · cases hsome
      · cases hsome
      · exact .ok rfl
  · exact .error _

end Document

/-! ## Generating from documents that agree -/

/-- A reference leads to the same place in both documents, or fails in the same way. -/
theorem Typing.target_agree {t t' : Typing} (hn : t.naming = t'.naming)
    (h : t.document.Agree t.naming t'.document) (reference : Json) :
    t.target reference = t'.target reference := by
  refine EndAlike.eq ((h.resolve reference).bind ?_)
  rintro ⟨name, definition⟩ ⟨name', definition'⟩ hname
  obtain rfl : name = name' := hname
  rw [hn]
  exact .refl (fun _ => rfl) _

namespace Generator

variable {g g' : Generator}

/-- Whether and where a definition is declared, and what is noted about it, is told by its
name. -/
theorem place_agree (hs : g.settings = g'.settings) {entry entry' : String × Definition}
    (h : Document.AgreeAt g.settings.naming entry entry') :
    g.place entry.1 entry.2 = g'.place entry'.1 entry'.2 := by
  obtain ⟨name, definition⟩ := entry
  obtain ⟨name', definition'⟩ := entry'
  obtain ⟨hname, hsame⟩ := h
  obtain rfl : name = name' := hname
  dsimp only at hsame ⊢
  unfold place
  rw [← hs]
  -- only with a location does the definition itself come in
  rcases hl : g.settings.naming.location name with e | _ | location
  · rfl
  · rfl
  · rw [hsame location hl]

theorem definitions_agree (hs : g.settings = g'.settings)
    (h : g.document.Agree g.settings.naming g'.document) : g.definitions = g'.definitions := by
  have hordered : List.Forall₂ (Document.AgreeAt g.settings.naming) g.ordered g'.ordered :=
    forall₂_sortedBy (fun _ _ hentry => hentry.1) h.definitions
  have hplace := hordered.imp fun _ _ hentry => place_agree hs hentry
  unfold definitions
  rw [mapM_eq_of_forall₂ hplace]

theorem generate_agree (hs : g.settings = g'.settings)
    (h : g.document.Agree g.settings.naming g'.document) : g.generate = g'.generate := by
  refine generate_congr hs (definitions_agree hs h) ?_
  exact Typing.target_agree (congrArg Settings.naming hs) h

theorem render_agree (hs : g.settings = g'.settings)
    (h : g.document.Agree g.settings.naming g'.document) : g.render = g'.render := by
  unfold render
  rw [generate_agree hs h]

end Generator

/-- A definition that can be read can be read without its properties. -/
theorem Definition.read_unwanted {path : String} {raw : Json} {definition : Definition}
    (h : read path true raw = .ok definition) :
    read path false raw = .ok { definition with properties := none } := by
  cases raw with
  | object members =>
    rw [read_object] at h
    obtain ⟨properties, _, hrest⟩ := bind_ok h
    rw [read_object, readContent_unwanted]
    exact (readRest_ok hrest).2 none
  | _ => cases h

namespace Document

variable {naming : Naming}

theorem readDefinitions_of_whole {members : List (String × Json)}
    {whole : List (String × Definition)}
    (hlocates : ∀ found ∈ members, ∃ site, naming.location found.1 = .ok site)
    (h : readDefinitions all members = .ok whole) :
    ∃ filtered, readDefinitions naming.hasLocation members = .ok filtered ∧
      List.Forall₂ (AgreeAt naming) filtered whole := by
  induction members generalizing whole with
  | nil =>
    cases h
    exact ⟨[], rfl, .nil⟩
  | cons found rest ih =>
    obtain ⟨name, raw⟩ := found
    obtain ⟨_, ⟨⟩, h⟩ := bind_ok h
    obtain ⟨definition, hd, h⟩ := bind_ok h
    obtain ⟨others, ho, h⟩ := bind_ok h
    cases h
    rw [List.forall_mem_cons] at hlocates
    obtain ⟨⟨site, hsite⟩, hrest⟩ := hlocates
    obtain ⟨filtered, hf, hagree⟩ := ih hrest ho
    have hwanted : naming.hasLocation name = .ok site.isSome := by
      simp only [Naming.hasLocation, hsite, bind, Except.bind, pure, Except.pure]
    cases site with
    | none =>
      have hd' := Definition.read_unwanted hd
      refine ⟨(name, { definition with properties := none }) :: filtered, ?_,
        .cons ⟨rfl, fun location hl => ?_⟩ hagree⟩
      · simp only [readDefinitions, hwanted, Option.isSome_none, hd', hf, bind, Except.bind]
        rfl
      · cases hsite.symm.trans hl
    | some location =>
      refine ⟨(name, definition) :: filtered, ?_, .cons ⟨rfl, fun _ _ => rfl⟩ hagree⟩
      simp only [readDefinitions, hwanted, Option.isSome_some, hd, hf, bind, Except.bind]
      rfl

theorem read_of_whole {raw : Json} {whole : Document}
    (hlocates : ∀ found ∈ rawDefinitions raw, ∃ site, naming.location found.1 = .ok site)
    (h : read all raw = .ok whole) :
    ∃ filtered, read naming.hasLocation raw = .ok filtered ∧ filtered.Agree naming whole := by
  obtain ⟨members, hm⟩ := exists_of_read h
  rw [rawDefinitions_of_get hm] at hlocates
  rw [read_eq hm] at h
  obtain ⟨info, hinfo, h⟩ := bind_ok h
  obtain ⟨definitions, hd, h⟩ := bind_ok h
  cases h
  obtain ⟨filtered, hf, hagree⟩ := readDefinitions_of_whole hlocates hd
  refine ⟨labelled info filtered, ?_, labelled_agree hagree⟩
  rw [read_eq hm, hinfo, hf]
  rfl

end Document

namespace Generator

theorem ofWholeSchema_agree {settings : Settings} {schema : Json} {whole : Generator}
    (hwhole : ofWholeSchema settings schema = .ok whole)
    (hlocates : ∀ found ∈ Document.rawDefinitions schema,
      ∃ site, settings.naming.location found.1 = .ok site) :
    ∃ filtered, ofSchema settings schema = .ok filtered ∧
      filtered.settings = whole.settings ∧
      filtered.document.Agree filtered.settings.naming whole.document := by
  obtain ⟨htables, rfl, hd⟩ := ofWholeSchema_eq_ok.mp hwhole
  obtain ⟨filtered, hf, hagree⟩ := Document.read_of_whole hlocates hd
  exact ⟨⟨whole.settings, filtered⟩, ofSchema_eq_ok.mpr ⟨htables, rfl, hf⟩, rfl, hagree⟩

/-- Leaving definitions without a location unread changes nothing that can be seen: what is
declared, generated, rendered, noted or found fault with is as if all had been read. -/
theorem filtering_irrelevant {settings : Settings} {schema : Json} {whole : Generator}
    (hwhole : ofWholeSchema settings schema = .ok whole)
    (hlocates : ∀ found ∈ Document.rawDefinitions schema,
      ∃ site, settings.naming.location found.1 = .ok site) :
    ∃ filtered, ofSchema settings schema = .ok filtered ∧
      ∀ w, filtered.definitions.outcome w = whole.definitions.outcome w ∧
        filtered.generate.outcome w = whole.generate.outcome w ∧
        filtered.render.outcome w = whole.render.outcome w := by
  obtain ⟨filtered, hfiltered, hs, hagree⟩ := ofWholeSchema_agree hwhole hlocates
  refine ⟨filtered, hfiltered, fun w => ⟨?_, ?_, ?_⟩⟩
  · rw [definitions_agree hs hagree]
  · rw [generate_agree hs hagree]
  · rw [render_agree hs hagree]

/-- The first schema with one more definition, which has no location. -/
def schemaHiding (hidden : Json) : Json :=
  .object [("definitions", .object [("Hidden", hidden), jobDefinition,
    ("io.k8s.api.b.Plain", .object [("type", .string "boolean")])])]

/-- A definition with a property that can be read. -/
def readableHidden : Json := .object [
  ("type", .string "object"),
  ("properties", .object [("size", .object [("type", .string "integer")])])]

/-- What is read of that property. -/
def hiddenSize : List (String × Property) := [("size", ⟨.scalar "integer", .null⟩)]

/-- The generator that knows this much of the hidden definition. -/
def knowing (properties : Option (List (String × Property))) : Generator where
  settings := .standard
  document := {
    title := .string ""
    version := .string ""
    definitions := [("Hidden", ⟨.null, .string "object", [], properties, []⟩), readJob,
      ("io.k8s.api.b.Plain", ⟨.null, .string "boolean", [], none, []⟩)] }

theorem readableHidden_whole : ofWholeSchema .standard (schemaHiding readableHidden) =
    .ok (knowing (some hiddenSize)) := by rfl

theorem readableHidden_filtered :
    ofSchema .standard (schemaHiding readableHidden) = .ok (knowing none) := by rfl

theorem standard_locates (name : String) :
    ∃ site, Settings.standard.naming.location name = .ok site :=
  ⟨_, TypedSettings.standard.location name⟩

theorem filtering_irrelevant_of_hidden :
    ofWholeSchema .standard (schemaHiding readableHidden) =
        .ok (knowing (some hiddenSize)) ∧
      (∀ found ∈ Document.rawDefinitions (schemaHiding readableHidden),
        ∃ site, Settings.standard.naming.location found.1 = .ok site) ∧
      ∃ filtered, ofSchema .standard (schemaHiding readableHidden) = .ok filtered ∧
        filtered = knowing none ∧
        ∀ w, filtered.definitions.outcome w = (knowing (some hiddenSize)).definitions.outcome w ∧
          filtered.generate.outcome w = (knowing (some hiddenSize)).generate.outcome w ∧
          filtered.render.outcome w = (knowing (some hiddenSize)).render.outcome w := by
  have hlocates : ∀ found ∈ Document.rawDefinitions (schemaHiding readableHidden),
      ∃ site, Settings.standard.naming.location found.1 = .ok site :=
    fun found _ => standard_locates found.1
  obtain ⟨filtered, hf, hsame⟩ := filtering_irrelevant readableHidden_whole hlocates
  have hfiltered : filtered = knowing none :=
    Except.ok.inj (hf.symm.trans readableHidden_filtered)
  exact ⟨readableHidden_whole, hlocates, filtered, hf, hfiltered, hsame⟩

end Generator

/-! ## Schemas that agree -/

/-- Two objects say the same under every name but these. -/
def Json.AgreeBut (names : List String) (raw raw' : Json) : Prop :=
  ∃ members members', raw = .object members ∧ raw' = .object members' ∧
    ∀ name ∉ names, member? name members = member? name members'

namespace Definition

/-- The members of a definition that its declaration is made of. -/
def content : List String := ["properties", "description", "type"]

/-- What would be declared for a definition does not matter where it is not wanted. -/
theorem read_unwanted_agree {raw raw' : Json} (h : raw.AgreeBut content raw') (path : String) :
    EndAlike (fun _ _ => True) (read path false raw) (read path false raw') := by
  obtain ⟨members, members', rfl, rfl, hsame⟩ := h
  have hserved := hsame servedMember (by decide)
  have hrequired := hsame "required" (by decide)
  simp only [read_object, readContent_unwanted]
  change EndAlike _ (readRest members none) (readRest members' none)
  unfold readRest
  dsimp only
  rw [hserved, hrequired]
  refine .bind_same fun parts _ => .bind_same fun served _ => .bind_same fun required _ => ?_
  exact .ok trivial

end Definition

namespace Settings

/-- The same stands under the same name; or the name has no location, and what differs is what
would be declared for it. -/
def AgreeAt (settings : Settings) (found found' : String × Json) : Prop :=
  found.1 = found'.1 ∧ (found.2 = found'.2 ∨
    (settings.naming.location found.1 = .ok none ∧
      found.2.AgreeBut Definition.content found'.2))

/-- The schemas say the same, but for what would be declared of definitions without a location. -/
structure Agree (settings : Settings) (schema schema' : Json) : Prop where
  definitions : schema.get? "definitions" = schema'.get? "definitions" ∨
    ∃ members members', schema.get? "definitions" = some (.object members) ∧
      schema'.get? "definitions" = some (.object members') ∧
      List.Forall₂ settings.AgreeAt members members'
  others : ∀ name, name ≠ "definitions" → schema.get? name = schema'.get? name

end Settings

namespace Document

variable {settings : Settings}

theorem readDefinitions_agree {members members' : List (String × Json)}
    (h : List.Forall₂ settings.AgreeAt members members') :
    EndAlike (List.Forall₂ (AgreeAt settings.naming))
      (readDefinitions settings.naming.hasLocation members)
      (readDefinitions settings.naming.hasLocation members') := by
  induction h with
  | nil => exact .ok .nil
  | @cons found found' rest rest' hfound _ ih =>
    obtain ⟨name, raw⟩ := found
    obtain ⟨name', raw'⟩ := found'
    obtain ⟨hname, hraw⟩ := hfound
    obtain rfl : name = name' := hname
    refine .bind_same fun wanted hwanted => ?_
    have hhead : EndAlike (fun d d' => AgreeAt settings.naming (name, d) (name, d'))
        (Definition.read (referencePrefix ++ name) wanted raw)
        (Definition.read (referencePrefix ++ name) wanted raw') := by
      rcases hraw with hraw | ⟨hnowhere, hraw⟩
      · obtain rfl : raw = raw' := hraw
        exact .refl (fun d => ⟨rfl, fun _ _ => rfl⟩) _
      · have hunwanted : wanted = false := by
          simp only [Naming.hasLocation, hnowhere, bind, Except.bind] at hwanted
          exact (Except.ok.inj hwanted).symm
        subst hunwanted
        refine (Definition.read_unwanted_agree hraw _).imp fun d d' _ => ⟨rfl, ?_⟩
        intro location hl
        cases hnowhere.symm.trans hl
    refine hhead.bind fun d d' hd => ih.bind fun others others' ho => ?_
    exact .ok (.cons hd ho)

theorem read_agree {schema schema' : Json} (h : settings.Agree schema schema') :
    EndAlike (Agree settings.naming) (read settings.naming.hasLocation schema)
      (read settings.naming.hasLocation schema') := by
  have hinfo : schema.get? "info" = schema'.get? "info" := h.others "info" (by decide)
  rcases h.definitions with hsame | ⟨members, members', hm, hm', hmembers⟩
  · have hread : read settings.naming.hasLocation schema =
        read settings.naming.hasLocation schema' := by
      unfold read
      rw [hsame, hinfo]
    rw [hread]
    exact .refl (.refl settings.naming) _
  · have hinfoOf : infoOf schema = infoOf schema' := by
      unfold infoOf
      rw [hinfo]
    rw [read_eq hm, read_eq hm', hinfoOf]
    refine .bind_same fun info _ => (readDefinitions_agree hmembers).bind ?_
    exact fun definitions definitions' hd => .ok (labelled_agree hd)

end Document

namespace Generator

theorem ofSchema_agree {settings : Settings} {schema schema' : Json}
    (h : settings.Agree schema schema') :
    EndAlike (fun g g' => g.settings = g'.settings ∧
        g.document.Agree g.settings.naming g'.document)
      (ofSchema settings schema) (ofSchema settings schema') := by
  refine .bind_same fun _ _ => (Document.read_agree h).bind fun _ _ hd => ?_
  -- the tables of types are asked of the same settings
  exact .bind_same fun _ _ => .bind_same fun _ _ => .ok ⟨rfl, hd⟩

/-- What would be declared of definitions without a location is never seen. Two schemas that
differ in nothing else are refused alike, or whatever is rendered from them, noted or found fault
with is the same; so nothing in such a definition, however malformed, is an error. -/
theorem exclusion_irrelevant {settings : Settings} {schema schema' : Json}
    (h : settings.Agree schema schema') :
    (∃ e, ofSchema settings schema = .error e ∧ ofSchema settings schema' = .error e) ∨
      ∃ g g', ofSchema settings schema = .ok g ∧ ofSchema settings schema' = .ok g' ∧
        ∀ w, g.render.outcome w = g'.render.outcome w := by
  have hend := ofSchema_agree h
  generalize ofSchema settings schema = read, ofSchema settings schema' = read' at hend
  cases hend with
  | error e => exact .inl ⟨e, rfl, rfl⟩
  | @ok g g' hg =>
    refine .inr ⟨g, g', rfl, rfl, fun w => ?_⟩
    rw [render_agree hg.1 hg.2]

/-- A definition with a property that no value can be read from. -/
def malformedHidden : Json := .object [
  ("description", .int 5),
  ("properties", .object [("size", .string "unsupported")])]

theorem malformedHidden_agree :
    Settings.standard.Agree (schemaHiding malformedHidden) (schemaHiding readableHidden) where
  definitions := by
    refine .inr ⟨_, _, rfl, rfl, .cons ⟨rfl, .inr ⟨by cbv, _, _, rfl, rfl, ?_⟩⟩ ?_⟩
    · intro name hname
      simp only [Definition.content, List.mem_cons, not_or] at hname
      simp [member?, Ne.symm hname.1, Ne.symm hname.2.1, Ne.symm hname.2.2.1]
    · exact List.forall₂_same.mpr fun _ _ => ⟨rfl, .inl rfl⟩
  others := by
    intro name hname
    simp [schemaHiding, Json.get?, member?, hname.symm]

theorem exclusion_irrelevant_of_malformed :
    Settings.standard.Agree (schemaHiding malformedHidden) (schemaHiding readableHidden) ∧
      (∃ e, ofWholeSchema .standard (schemaHiding malformedHidden) = .error e) ∧
      ∃ g, ofSchema .standard (schemaHiding malformedHidden) = .ok g ∧
        (g.render.outcome {}).1 = .ok firstTexts := by
  have hread : ofWholeSchema .standard (schemaHiding malformedHidden) =
      .error (.generation (.schema (.notValue "#/definitions/Hidden/properties/size"
        (.string "unsupported")))) := by cbv
  have hrender : ((knowing none).render.outcome {}).1 = .ok firstTexts := by cbv
  refine ⟨malformedHidden_agree, ⟨_, hread⟩, ?_⟩
  rcases exclusion_irrelevant malformedHidden_agree with ⟨e, _, he⟩ | ⟨g, g', hg, hg', hsame⟩
  · cases readableHidden_filtered.symm.trans he
  · obtain rfl : knowing none = g' := Except.ok.inj (readableHidden_filtered.symm.trans hg')
    refine ⟨g, hg, ?_⟩
    rw [hsame {}]
    exact hrender

end Generator

end ApiTypings
