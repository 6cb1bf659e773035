import ApiTypings.Proofs.Words

/-!
# What is rendered is accepted

If the texts that a project is put together from have no braces, then all braces outside of
comments are those that stand around the types of maps, the fields of interfaces and imported
names. So as many open as close and the text of every module is accepted, whatever the
descriptions hold.
-/

namespace ApiTypings

open Text

section Lines

variable {indent : String}

theorem Field.Even.line {field : Field String} (h : field.Even) : ApiTypings.Even field.line := by
  have hkey : Smooth (fieldKey field.name) := by
    unfold fieldKey
    split
    · exact h.name
    · exact h.name.quote
  have hmark : Smooth (if field.optional then "?" else "") := by
    split <;> decide
  have hcolon : Smooth ": " := by decide
  exact ((hkey.append hmark).append hcolon).even.append h.type

theorem Field.Even.surplus_lines {field : Field String} (h : field.Even)
    (hblank : ∀ c ∈ indent.toList, isBlank c = true) (hindent : ApiTypings.Even indent) :
    surplus (codeOf (field.lines.map (indent ++ ·))) = 0 := by
  rw [Field.lines_eq, List.map_append, codeOf_append, codeOf_docLines hblank, List.nil_append]
  exact surplus_codeOf_even (hindent.append h.line)

theorem Field.Even.plain {field : Field String} (h : field.Even) : field.Plain :=
  ⟨h.name.lineFeed_notMem, h.type.lineFeed⟩

/-- The brace that a declaration opens is closed where it ends. -/
theorem Declaration.Even.surplus_lines {d : Declaration String} (h : d.Even) :
    surplus (codeOf d.lines) = 0 := by
  have hdoc : ∀ description, codeOf (docLines description) = [] := by
    intro description
    have hempty : (docLines description).map ("" ++ ·) = docLines description := by simp
    rw [← hempty]
    exact codeOf_docLines (by simp) description
  cases h with
  | @interface name description fields hname hfields =>
    have hopen : surplus (codeOf ["export interface " ++ name ++ " \x7b"]) = 1 := by
      have hfirst : Smooth ("export interface " ++ name) := .append (by decide) hname
      have hlast : surplus " \x7b".toList = 1 := by decide
      rw [codeOf_code (by simp [isCommentLine, trimStart, isBlank, dropStart?]),
        String.toList_append, surplus_append, hfirst.surplus, hlast]
      rfl
    have hclose : surplus (codeOf ["\x7d"]) = -1 := by decide
    have hinner : surplus (codeOf (joinMembers "  " (fields.map Field.lines))) = 0 := by
      refine surplus_codeOf_joinMembers fun member hm => ?_
      obtain ⟨field, hf, rfl⟩ := List.mem_map.mp hm
      exact (hfields field hf).surplus_lines (by simp [isBlank]) (Smooth.even (by decide))
    rw [lines_interface, codeOf_append, codeOf_append, codeOf_append, hdoc, surplus_append,
      surplus_append, surplus_append, hopen, hinner, hclose]
    rfl
  | @union name description types hname htypes =>
    have hline : Smooth ("export type " ++ name ++ " = " ++ join " | " types) :=
      .append (.append (.append (by decide) hname) (by decide)) (.join (by decide) htypes)
    rw [lines_union, codeOf_append, hdoc, List.nil_append]
    exact surplus_codeOf_even hline.even

theorem Declaration.Even.lineFeed_notMem {d : Declaration String} (h : d.Even) {line : String}
    (hl : line ∈ d.lines) : '\n' ∉ line.toList := by
  cases h with
  | interface hname hfields =>
    exact Declaration.lineFeed_notMem_interface hname.lineFeed_notMem
      (fun field hf => (hfields field hf).plain) hl
  | union hname htypes =>
    exact Declaration.lineFeed_notMem_union hname.lineFeed_notMem
      (fun type ht => (htypes type ht).lineFeed_notMem) hl

theorem even_importLine {specifier : String} {names : List String} (hs : Smooth specifier)
    (hnames : ∀ name ∈ names, Smooth name) : Even (importLine specifier names) := by
  have hfirst : Smooth "import " := by decide
  have hjoin : Smooth (join ", " names) := .join (by decide) hnames
  have hlast : Smooth (" from " ++ quote specifier) := .append (by decide) hs.quote
  have hline := (hfirst.even.append hjoin.even.braced).append hlast.even
  have hassoc : "import " ++ ("\x7b" ++ join ", " names ++ "\x7d") ++
      (" from " ++ quote specifier) = importLine specifier names := by
    apply String.toList_injective
    simp [importLine]
  rwa [hassoc] at hline

theorem smooth_specifier {source target : String} (h : Smooth target) :
    Smooth (Specifier.of source target) := by
  have hbase : ∀ c ∈ Specifier.baseName target.toList, c ∉ rough := fun c hc =>
    h c (List.mem_reverse.mp ((List.takeWhile_sublist _).subset (List.mem_reverse.mp hc)))
  unfold Smooth Specifier.of Specifier.chars
  rw [String.toList_ofList]
  dsimp only
  split
  · simp only [List.forall_mem_cons]
    exact ⟨by decide, by decide, hbase⟩
  · split
    · simp only [List.forall_mem_cons]
      exact ⟨by decide, by decide, h⟩
    · intro c hc
      rcases List.mem_append.mp hc with hc | hc
      · obtain ⟨_, _, hc⟩ := List.mem_flatMap.mp hc
        have hstep : ∀ c ∈ ['.', '.', '/'], c ∉ rough := by simp [rough]
        exact hstep c hc
      · exact h c hc

end Lines

/-! ## Modules -/

theorem Builder.Smooth.named {b : Builder} (h : b.Smooth) {path name : String}
    {definition : Definition} {declaration : Declaration Json} {entry : String × List String}
    (hname : ApiTypings.Smooth name) (hwords : ∀ word ∈ definition.words, ApiTypings.Smooth word)
    (hd : b.declarationOf path name definition = .ok declaration)
    (hn : Module.named declaration = .ok entry) :
    surplus (codeOf entry.2) = 0 ∧ ∀ line ∈ entry.2, '\n' ∉ line.toList := by
  unfold Module.named at hn
  split at hn
  · cases hn
  · obtain ⟨source, hrender, hn⟩ := bind_ok hn
    obtain ⟨settled, hsettle, hrender⟩ := bind_ok hrender
    cases hn
    cases hrender
    have heven := h.declarationOf hname hwords hd hsettle
    exact ⟨heven.surplus_lines, fun _ => heven.lineFeed_notMem⟩

namespace Module

/-- A module is accepted whose imports have no braces and whose declarations close all they open. -/
theorem validate_assemble {m : Module Json} {named : List (String × List String)}
    (himports : ∀ path name, m.imports.Records path name → Smooth path ∧ Smooth name)
    (hgrown : m.imports.Grown)
    (hnamed : ∀ entry ∈ named,
      surplus (codeOf entry.2) = 0 ∧ ∀ line ∈ entry.2, '\n' ∉ line.toList) :
    validate (String.join ((m.assemble named).map (· ++ "\n"))) = .ok () := by
  have hlines : ∀ line ∈ m.importLines, Even line := by
    intro line hl
    obtain ⟨⟨specifier, names⟩, he, rfl⟩ := List.mem_map.mp hl
    obtain ⟨⟨path, found⟩, hin, he⟩ := List.mem_map.mp (List.mem_mergeSort.mp he)
    cases he
    obtain ⟨name, hname⟩ := List.exists_mem_of_ne_nil found (hgrown.inhabited _ hin)
    refine even_importLine (smooth_specifier (himports path name ⟨found, hin, hname⟩).1) ?_
    exact fun other ho => (himports path other ⟨found, hin, List.mem_mergeSort.mp ho⟩).2
  have hblank : ∀ line ∈ (if m.importLines.isEmpty then [] else [""]), Even line := by
    intro line hl
    split at hl
    · cases hl
    · rw [List.mem_singleton.mp hl]
      exact Smooth.even (by decide)
  have hbody : surplus (codeOf (bodyLines named)) = 0 := by
    refine surplus_codeOf_joinMembers fun member hm => ?_
    obtain ⟨entry, he, rfl⟩ := List.mem_map.mp hm
    simpa using (hnamed entry (List.mem_mergeSort.mp he)).1
  have hfeed : ∀ line ∈ bodyLines named, '\n' ∉ line.toList := by
    intro line hl
    rcases mem_joinMembers hl with rfl | ⟨block, hb, inner, hi, rfl⟩
    · decide
    · obtain ⟨entry, he, rfl⟩ := List.mem_map.mp hb
      simpa using (hnamed entry (List.mem_mergeSort.mp he)).2 inner hi
  have hall : ∀ line ∈ m.importLines ++ (if m.importLines.isEmpty then [] else [""]) ++
      bodyLines named, '\n' ∉ line.toList := by
    intro line hl
    simp only [List.mem_append] at hl
    rcases hl with (hl | hl) | hl
    · exact (hlines line hl).lineFeed
    · exact (hblank line hl).lineFeed
    · exact hfeed line hl
  unfold assemble
  dsimp only
  rw [flattenLines_eq_self hall]
  refine validate_unlines hall ?_
  rw [codeOf_append, codeOf_append, surplus_append, surplus_append, hbody,
    surplus_codeOf fun line hl => surplus_codeOf_even (hlines line hl),
    surplus_codeOf fun line hl => surplus_codeOf_even (hblank line hl)]
  rfl

end Module

/-! ## Projects -/

namespace Generator

variable {g : Generator}

theorem smooth_location (h : ∀ word ∈ g.words, Smooth word) {name : String}
    {definition : Definition} {location : Location}
    (hname : (name, definition) ∈ g.document.definitions)
    (hl : g.settings.naming.location name = .ok (some location)) : location.Smooth := by
  obtain ⟨hextension, hprefixes, _, _, hdefinitions⟩ := forall_mem_words.mp h
  refine Naming.smooth_location ?_ ?_ (hdefinitions _ hname).1 hl
  · exact hprefixes
  · exact hextension

theorem smooth_builder (h : ∀ word ∈ g.words, Smooth word) :
    (g.settings.builder g.document).Smooth := by
  obtain ⟨_, _, hreplaced, hredefined, _⟩ := forall_mem_words.mp h
  refine ⟨?_, hreplaced, hredefined⟩
  intro reference location ht
  obtain ⟨name, definition, hr, hl⟩ := Typing.target_eq_ok.mp ht
  exact smooth_location h (Document.mem_of_resolve hr) hl

theorem smooth_words (h : ∀ word ∈ g.words, Smooth word) {name : String} {definition : Definition}
    (hd : (name, definition) ∈ g.document.definitions) :
    ∀ word ∈ definition.words, Smooth word := by
  obtain ⟨_, _, _, _, hdefinitions⟩ := forall_mem_words.mp h
  exact (hdefinitions _ hd).2

/-- The text of each module of a project is accepted. -/
theorem Accounts.validate_renderText (h : ∀ word ∈ g.words, Smooth word) {project : Project}
    (acc : g.Accounts (g.ordered.filterMap g.located?) project) {m : Module Json}
    (hm : m ∈ project.modules) {text : String} (ht : m.renderText = .ok text) :
    validate text = .ok () := by
  obtain ⟨source, hsource, rfl⟩ := map_ok ht
  obtain ⟨named, hnamed, hsource⟩ := bind_ok hsource
  cases hsource
  refine Module.validate_assemble ?_ (acc.holds m hm).grown ?_
  · intro path name hrecords
    obtain ⟨_, located, _, _, hneeds⟩ := (acc.records_iff hm).mp hrecords
    obtain ⟨reference, _, hfollows⟩ := Typing.mem_needsOf.mp hneeds
    have hlocation := (smooth_builder h).located reference _ hfollows.1
    exact ⟨hlocation.path, hlocation.name⟩
  · intro entry he
    obtain ⟨declaration, hd, hentry⟩ := exists_of_forall₂ (mapM_eq_ok_iff.mp hnamed).flip he
    obtain ⟨located, hl, hbuilds⟩ := exists_of_forall₂ (acc.holds m hm).declarations.flip hd
    obtain ⟨path, hbuilt⟩ := Builds.declarationOf_eq hbuilds
    obtain ⟨hin, hlocation, _⟩ := mem_declared.mp (mem_declaredIn.mp hl).1
    exact (smooth_builder h).named (smooth_location h hin hlocation).name (smooth_words h hin)
      hbuilt hentry

/-- Whatever the descriptions of a schema hold, the text of every module of its project is
accepted, if there are no braces and no line feeds in what else the project is put together from. -/
theorem render_accepted {log : Log} {texts : List (String × String)}
    (h : ∀ word ∈ g.words, Smooth word) (hr : (g.render.outcome { log }).1 = .ok texts) :
    ∀ entry ∈ texts, validate entry.2 = .ok () := by
  obtain ⟨project, acc, hall⟩ := render_returns hr
  intro entry he
  obtain ⟨m, hm, hrenders⟩ := exists_of_forall₂ (renderAll_eq_ok hall).flip he
  exact acc.validate_renderText h (mem_sorted.mp hm) hrenders.2

/-- Descriptions with braces and line feeds, a map, and a reference to another module. -/
def bracedSchema : Json :=
  .object [("definitions", .object [
    ("io.k8s.api.a.Part", .object [
      ("description", .string "a \x7b\n\x7d\x7d"),
      ("type", .string "object"),
      ("properties", .object [
        ("labels", .object [
          ("description", .string "\x7b Required."),
          ("type", .string "object"),
          ("additionalProperties", .object [("type", .string "string")])])])]),
    ("io.k8s.api.b.Whole", .object [
      ("type", .string "object"),
      ("properties", .object [
        ("part", .object [("$ref", .string "#/definitions/io.k8s.api.a.Part")])])])])]

def braced : Generator where
  settings := .standard
  document := {
    title := .string ""
    version := .string ""
    definitions := [
      ("io.k8s.api.a.Part", {
        description := .string "a \x7b\n\x7d\x7d"
        type := .string "object"
        required := []
        properties := some [("labels", ⟨.map (.scalar "string"), .string "\x7b Required."⟩)]
        served := [] }),
      ("io.k8s.api.b.Whole", {
        description := .null
        type := .string "object"
        required := []
        properties := some [("part", ⟨.ref (.string "#/definitions/io.k8s.api.a.Part"), .null⟩)]
        served := [] })] }

def bracedTexts : List (String × String) := [
  ("a.ts", "/**\n * a \x7b\n * \x7d\x7d\n */\nexport interface Part \x7b\n" ++
    "  /**\n   * \x7b\n   */\n  labels?: \x7b[name: string]: string\x7d\n\x7d\n"),
  ("b.ts", "import \x7bPart\x7d from \"./a.ts\"\n\n" ++
    "export interface Whole \x7b\n  part?: Part\n\x7d\n")]

theorem braced_read : ofSchema .standard bracedSchema = .ok braced := by rfl

theorem braced_render : (braced.render.outcome {}).1 = .ok bracedTexts := by cbv

theorem braced_words : braced.words = [
    ".ts", "", "", "", "", "number | string", "any", "JSONSchemaProps", "JSONSchemaProps[]",
    "JSONSchemaProps", "boolean", "JSONSchemaProps", "string[]",
    "io.k8s.api.a.Part", "object", "labels", "io.k8s.api.b.Whole", "object", "part"] := by
  rfl

theorem render_accepted_of_braced :
    ofSchema .standard bracedSchema = .ok braced ∧ (∀ word ∈ braced.words, Smooth word) ∧
      (braced.render.outcome {}).1 = .ok bracedTexts ∧
      ∀ entry ∈ bracedTexts, validate entry.2 = .ok () := by
  have hsmooth : ∀ word ∈ braced.words, Smooth word := by
    rw [braced_words]
    decide
  exact ⟨braced_read, hsmooth, braced_render, render_accepted hsmooth braced_render⟩

end Generator

end ApiTypings
