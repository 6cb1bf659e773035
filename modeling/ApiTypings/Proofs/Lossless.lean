import ApiTypings.Proofs.Blocks
import ApiTypings.Proofs.Canonical
import ApiTypings.Proofs.Specifiers

/-!
# Rendering loses nothing

The source of a module whose names are identifiers and whose texts stand on one line tells
what the module imports and what it declares. All that is lost is in which order things
came there, how a description was given that makes the same comment, and how the types of
a union were cut.
-/

namespace ApiTypings

open Text

theorem lines_eq_self {line : String} (h : '\n' ∉ line.toList) : Text.lines line = [line] := by
  have hjoin : join "\n" [line] = line := by
    apply String.toList_injective
    rw [toList_join]
    simp
  have hsplit : split '\n' (join "\n" [line]) = [line] :=
    split_join rfl (List.cons_ne_nil line []) (by simpa using h)
  rwa [hjoin] at hsplit

theorem flattenLines_eq_self {source : List String} (h : ∀ line ∈ source, '\n' ∉ line.toList) :
    flattenLines source = source := by
  induction source with
  | nil => rfl
  | cons line rest ih =>
    rw [flattenLines, List.flatMap_cons, lines_eq_self (h line (by simp))]
    exact congrArg (line :: ·) (ih fun l hl => h l (List.mem_cons_of_mem _ hl))

theorem toList_join_cons (sep name : String) (names : List String) :
    (join sep (name :: names)).toList = name.toList ++
      if names = [] then [] else sep.toList ++ (join sep names).toList := by
  rw [toList_join, toList_join]
  by_cases h : names = []
  · simp [h]
  · rw [List.map_cons, List.intercalate_cons_of_ne_nil (by simpa using h), if_neg h,
      List.append_assoc]

/-- Identifiers are read off a list of them. -/
theorem join_identifiers_inj {names names' : List String} (h : ∀ name ∈ names, Identifier name)
    (h' : ∀ name ∈ names', Identifier name)
    (he : (join ", " names).toList = (join ", " names').toList) : names = names' := by
  have hstop : ∀ others : List String, ∀ c ∈ (if others = [] then [] else
      ", ".toList ++ (join ", " others).toList).head?, isNameChar c = false := by
    intro others c hc
    split at hc
    · cases hc
    · cases hc
      decide
  have hne : ∀ (name : String) (tail : List Char), Identifier name → name.toList ++ tail ≠ [] := by
    rintro name tail ⟨c, rest, hn, _⟩
    simp [hn]
  induction names generalizing names' with
  | nil =>
    cases names' with
    | nil => rfl
    | cons name names' =>
      rw [toList_join_cons] at he
      exact absurd he.symm (hne name _ (h' name (by simp)))
  | cons name names ih =>
    rw [toList_join_cons] at he
    cases names' with
    | nil => exact absurd he (hne name _ (h name (by simp)))
    | cons name' names' =>
      rw [toList_join_cons] at he
      obtain ⟨rfl, hrest⟩ := (h name (by simp)).cancel (h' name' (by simp)) (hstop _) (hstop _) he
      by_cases hn : names = [] <;> by_cases hn' : names' = []
      · rw [hn, hn']
      · simp [hn, hn'] at hrest
      · simp [hn, hn'] at hrest
      · rw [if_neg hn, if_neg hn'] at hrest
        rw [ih (fun n hm => h n (List.mem_cons_of_mem _ hm))
          (fun n hm => h' n (List.mem_cons_of_mem _ hm)) (List.append_cancel_left hrest)]

theorem notMem_join_identifiers {names : List String} (h : ∀ name ∈ names, Identifier name)
    {c : Char} (hc : isNameChar c = false) (hsep : c ∉ ", ".toList) :
    c ∉ (join ", " names).toList := by
  intro hm
  rcases mem_join hm with hm | ⟨name, hn, hm⟩
  · exact hsep hm
  · exact (h name hn).notMem hc hm

/-- A line that imports tells from where, and what. -/
theorem importLine_inj {specifier specifier' : String} {names names' : List String}
    (h : ∀ name ∈ names, Identifier name) (h' : ∀ name ∈ names', Identifier name)
    (he : importLine specifier names = importLine specifier' names') :
    specifier = specifier' ∧ names = names' := by
  have hl := congrArg String.toList he
  simp only [importLine, String.toList_append, List.append_assoc] at hl
  have hspan : ∀ {others : List String}, (∀ name ∈ others, Identifier name) →
      ∀ c ∈ (join ", " others).toList, decide (c ≠ '\x7d') = true := fun ho c hc =>
    decide_eq_true fun hs => notMem_join_identifiers ho (by decide) (by decide) (hs ▸ hc)
  obtain ⟨hnames, hrest⟩ := span_cancel (hspan h) (hspan h') (by simp) (by simp)
    (List.append_cancel_left hl)
  refine ⟨quote_injective ?_, join_identifiers_inj h h' hnames⟩
  exact String.toList_injective (List.append_cancel_left hrest)

theorem lineFeed_notMem_importLine {specifier : String} {names : List String}
    (h : ∀ name ∈ names, Identifier name) : '\n' ∉ (importLine specifier names).toList := by
  simpa [importLine] using
    ⟨notMem_join_identifiers h (by decide) (by decide), lineFeed_notMem_quote specifier⟩

theorem head_importLine (specifier : String) (names : List String) :
    (importLine specifier names).toList.head? = some 'i' := by
  simp [importLine]

/-! ## Texts of declarations -/

/-- A description that is a text or none. -/
def Describes (found : Json) : Prop := found = .null ∨ ∃ text, found = .string text

/-- The text of a description. -/
def descriptionText : Json → String
  | .string text => text
  | _ => ""

theorem settle_of_describes {found : Json} (h : Describes found) :
    settleDescription found = .ok (descriptionText found) := by
  rcases h with rfl | ⟨text, rfl⟩
  · rfl
  · unfold settleDescription
    split
    · rename_i hv
      rw [descriptionText, String.isEmpty_iff.mp hv]
    · rfl

namespace Field

/-- The field with its description and type as texts. -/
def texts (field : Field Json) : Field String where
  name := field.name
  description := descriptionText field.description
  type := field.type.plain
  optional := field.optional

/-- The description of the field is a text or none, and its type is a text. -/
structure Textual (field : Field Json) : Prop where
  description : Describes field.description
  type : ∃ text, field.type = .string text

theorem Textual.settle {field : Field Json} (h : field.Textual) :
    field.settle = .ok field.texts := by
  unfold Field.settle
  rw [settle_of_describes h.description]
  rfl

end Field

namespace Declaration

/-- The declaration with its descriptions and types as texts. -/
def texts : Declaration Json → Declaration String
  | .interface name description fields =>
    .interface name (descriptionText description) (fields.map Field.texts)
  | .union name description types =>
    .union name (descriptionText description) (types.map Json.plain)
  | .field f => .field f.texts
  | .foreign found => .foreign found

/-- The descriptions are texts or none, and the types are texts. -/
inductive Textual : Declaration Json → Prop
  | interface {name : String} {description : Json} {fields : List (Field Json)} :
    Describes description → (∀ field ∈ fields, field.Textual) →
      Textual (.interface name description fields)
  | union {name : String} {description : Json} {types : List Json} :
    Describes description → (∀ type ∈ types, ∃ text, type = .string text) →
      Textual (.union name description types)

theorem Textual.settle {d : Declaration Json} (h : d.Textual) : d.settle = .ok d.texts := by
  cases h with
  | interface hdescription hfields =>
    rw [Declaration.settle, settle_of_describes hdescription,
      mapM_ok fun field hf => (hfields field hf).settle]
    rfl
  | union hdescription htypes =>
    rw [Declaration.settle, settle_of_describes hdescription, mapM_ok fun type ht => ?_]
    · rfl
    · obtain ⟨text, rfl⟩ := htypes type ht
      rfl

theorem Textual.name? {d : Declaration Json} (h : d.Textual) :
    d.name? = some (d.texts.name?.getD "") := by cases h <;> rfl

theorem Textual.named {d : Declaration Json} (h : d.Textual) :
    Module.named d = .ok d.texts.entry := by
  unfold Module.named Declaration.render
  rw [h.name?, h.settle]
  rfl

end Declaration

/-! ## Modules -/

namespace Module

/-- The names in the module are identifiers, its paths are made of names, its declarations are
interfaces and unions, and names and types of fields stand on one line. -/
structure Plain (m : Module Json) : Prop where
  tidy : m.imports.Tidy
  paths : ∀ entry ∈ m.imports, Path.Joined entry.1
  names : ∀ entry ∈ m.imports, ∀ name ∈ entry.2, Identifier name
  textual : ∀ d ∈ m.declarations, d.Textual
  plain : ∀ d ∈ m.declarations, d.texts.Plain

/-- The modules import the same and declare the same, in whatever order, up to descriptions with the
same comment and to the cut of a union's types. -/
structure Alike (m n : Module Json) : Prop where
  imports : m.imports.Same n.imports
  declarations : ∃ others, others.Perm n.declarations ∧
    List.Forall₂ (fun d e => d.texts.Alike e.texts) m.declarations others

/-- The declarations in the order in which they are written. -/
def written (m : Module Json) : List (Declaration Json) :=
  m.declarations.mergeSort fun d e => pairLe d.texts.entry e.texts.entry

variable {m n : Module Json}

theorem render_of_textual (h : ∀ d ∈ m.declarations, d.Textual) :
    m.render = .ok (m.assemble (m.declarations.map fun d => d.texts.entry)) := by
  unfold Module.render
  rw [mapM_ok fun d hd => (h d hd).named]
  rfl

theorem renderText_of_textual (h : ∀ d ∈ m.declarations, d.Textual) :
    m.renderText = .ok (String.join
      ((m.assemble (m.declarations.map fun d => d.texts.entry)).map (· ++ "\n"))) := by
  unfold renderText
  rw [render_of_textual h]
  rfl

/-- The lines that import are read off the front, one by one. -/
theorem importCode : Code (fun entry : String × List String => [importLine entry.1 entry.2])
    (fun entry => ∀ name ∈ entry.2, Identifier name) (·.toList.head? = some 'i') Eq := by
  constructor
  · intro entry _
    exact ⟨_, [], rfl, head_importLine _ _⟩
  · intro entry entry' r s h h' he
    obtain ⟨hline, hrs⟩ := List.cons.inj he
    obtain ⟨hspecifier, hnames⟩ := importLine_inj h h' hline
    exact ⟨Prod.ext hspecifier hnames, hrs⟩

theorem Plain.identifiers (h : m.Plain) {entry : String × List String}
    (he : entry ∈ sortPairs m.importEntries) : ∀ name ∈ entry.2, Identifier name := by
  intro name hn
  obtain ⟨⟨_, _⟩, ho, rfl⟩ := List.mem_map.mp (List.mem_mergeSort.mp he)
  obtain ⟨found, hf, hfo⟩ := List.mem_map.mp ho
  cases hfo
  exact h.names found hf name (List.mem_mergeSort.mp hn)

/-- What is imported is told by the entries as they are written. -/
theorem same_of_importEntries (hp : m.path = n.path) (hm : m.Plain) (hn : n.Plain)
    (h : sortPairs m.importEntries = sortPairs n.importEntries) : m.imports.Same n.imports := by
  have hwritten : ∀ {k : Module Json}, k.Plain → List.Forall₂ (fun written entry =>
      written = (Specifier.of k.path entry.1, entry.2) ∧ Path.Joined entry.1)
      k.importEntries k.imports.ordered := by
    intro k hk
    refine List.forall₂_map_left_iff.mpr (List.forall₂_same.mpr fun entry he => ⟨rfl, ?_⟩)
    obtain ⟨found, hf, rfl⟩ := List.mem_map.mp he
    exact hk.paths found hf
  refine (Imports.same_iff_perm hm.tidy hn.tidy).mpr ?_
  refine perm_of_forall₂ ?_ (hwritten hm) (hwritten hn) (sortPairs_eq_iff.mp h)
  rintro _ ⟨path, names⟩ ⟨path', names'⟩ ⟨rfl, hj⟩ ⟨he, hj'⟩
  rw [hp, Prod.mk.injEq] at he
  exact Prod.ext (Specifier.of_inj hj hj' he.1) he.2

/-- The lines of the declarations in the order in which they are written. -/
def body (m : Module Json) : List String :=
  joinMembers "" ((m.written.map Declaration.texts).map Declaration.lines)

/-- The lines of a module, the imports first. -/
def layout (m : Module Json) : List String :=
  (sortPairs m.importEntries).flatMap (fun entry => [importLine entry.1 entry.2]) ++
    ((if (sortPairs m.importEntries).isEmpty then [] else [""]) ++ m.body)

theorem Plain.written (h : m.Plain) : ∀ d ∈ m.written.map Declaration.texts, d.Plain := by
  intro _ hm
  obtain ⟨d, hd, rfl⟩ := List.mem_map.mp hm
  exact h.plain d (List.mem_mergeSort.mp hd)

theorem bodyLines_entries (m : Module Json) :
    bodyLines (m.declarations.map fun d => d.texts.entry) = m.body := by
  have hsort : sortPairs (m.declarations.map fun d => d.texts.entry) =
      m.written.map fun d => d.texts.entry :=
    (List.map_mergeSort (f := fun d : Declaration Json => d.texts.entry)
      fun _ _ _ _ => rfl).symm
  rw [bodyLines, body, hsort, List.map_map, List.map_map]
  rfl

theorem Plain.lineFeed_notMem (h : m.Plain) {line : String} (hl : line ∈ m.layout) :
    '\n' ∉ line.toList := by
  simp only [layout, List.mem_append, List.mem_flatMap, List.mem_singleton] at hl
  rcases hl with ⟨entry, he, rfl⟩ | hl | hl
  · exact lineFeed_notMem_importLine (h.identifiers he)
  · split at hl
    · cases hl
    · rw [List.mem_singleton.mp hl]
      decide
  · rcases mem_joinMembers hl with rfl | ⟨block, hb, inner, hi, rfl⟩
    · decide
    · obtain ⟨d, hd, rfl⟩ := List.mem_map.mp hb
      simpa using (h.written d hd).lineFeed_notMem hi

theorem Plain.render_eq (h : m.Plain) : m.render = .ok m.layout := by
  have hassemble : m.assemble (m.declarations.map fun d => d.texts.entry) =
      flattenLines m.layout := by
    unfold assemble layout
    dsimp only
    rw [bodyLines_entries, importLines_eq, List.isEmpty_map, List.append_assoc,
      List.map_eq_flatMap]
  rw [render_of_textual h.textual, hassemble, flattenLines_eq_self fun _ hl => h.lineFeed_notMem hl]

theorem declarationCode : Code (fun d : Declaration String => d.lines.map ("" ++ ·))
    Declaration.Plain Declaration.Opens Declaration.Alike := by
  simpa using Declaration.code

/-- What follows the imports is not taken for one. -/
theorem Plain.head_rest (h : m.Plain) {entries : List (String × List String)} :
    ∀ line ∈ ((if entries.isEmpty then [] else [""]) ++ m.body).head?,
      ¬ line.toList.head? = some 'i' := by
  intro line hl
  split at hl
  · rcases joinMembers_head declarationCode h.written line hl with rfl | he
    · decide
    · rw [he]
      decide
  · cases hl
    decide

/-- What is declared is told by the lines of the declarations. -/
theorem declarations_of_body (hm : m.Plain) (hn : n.Plain) (h : m.body = n.body) :
    ∃ others, others.Perm n.declarations ∧
      List.Forall₂ (fun d e => d.texts.Alike e.texts) m.declarations others := by
  obtain ⟨hall, _⟩ := joinMembers_cancel declarationCode Declaration.not_opens_empty hm.written
    hn.written (r := []) (s := []) (by simp) (by simp)
    (by rwa [List.append_nil, List.append_nil])
  rw [List.forall₂_map_left_iff, List.forall₂_map_right_iff] at hall
  obtain ⟨others, hothers, hperm⟩ := List.perm_comp_forall₂ (List.mergeSort_perm _ _).symm hall
  exact ⟨others, hperm.trans (List.mergeSort_perm _ _), hothers⟩

theorem alike_of_layout (hp : m.path = n.path) (hm : m.Plain) (hn : n.Plain)
    (h : m.layout = n.layout) : m.Alike n := by
  obtain ⟨hentries, hrest⟩ := importCode.flatMap_cancel (fun _ he => hm.identifiers he)
    (fun _ he => hn.identifiers he) hm.head_rest hn.head_rest h
  have hentries : sortPairs m.importEntries = sortPairs n.importEntries :=
    List.forall₂_eq_eq_eq ▸ hentries
  rw [hentries] at hrest
  exact ⟨same_of_importEntries hp hm hn hentries,
    declarations_of_body hm hn (List.append_cancel_left hrest)⟩

theorem render_of_alike (hp : m.path = n.path) (hm : m.Plain) (hn : n.Plain) (h : m.Alike n) :
    m.render = n.render := by
  obtain ⟨others, hperm, hothers⟩ := h.declarations
  have hentries : m.declarations.map (fun d => d.texts.entry) =
      others.map fun d => d.texts.entry := by
    rw [← List.forall₂_eq_eq_eq, List.forall₂_map_left_iff, List.forall₂_map_right_iff]
    exact hothers.imp fun _ _ => Declaration.Alike.entry_eq
  rw [render_of_textual hm.textual, render_of_textual hn.textual, hentries,
    assemble_congr hp hm.tidy hn.tidy h.imports (hperm.map _)]

/-- The source of a plain module is there, and tells what is in the module. -/
theorem render_faithful (hp : m.path = n.path) (hm : m.Plain) (hn : n.Plain) :
    (∃ source, m.render = .ok source) ∧ (m.render = n.render ↔ m.Alike n) := by
  refine ⟨⟨_, hm.render_eq⟩, fun h => ?_, render_of_alike hp hm hn⟩
  rw [hm.render_eq, hn.render_eq] at h
  exact alike_of_layout hp hm hn (Except.ok.inj h)

/-- An interface with a field whose name is no identifier. -/
def runDeclaration : Declaration Json :=
  .interface "Run" (.string "Runs.") [⟨"of-job", .null, .string "Job[]", true⟩]

/-- A module that imports twice, and declares a union of two types. -/
def gathered : Module Json where
  path := "a/b.ts"
  imports := [("a/c.ts", ["Job", "Plan"]), ("d.ts", ["Meta"])]
  declarations := [runDeclaration, .union "Zone" .null [.string "string", .string "number"]]

/-- The same in another order, the union in one piece and with an empty description. -/
def scattered : Module Json where
  path := "a/b.ts"
  imports := [("d.ts", ["Meta"]), ("a/c.ts", ["Plan", "Job"])]
  declarations := [.union "Zone" (.string "") [.string "string | number"], runDeclaration]

theorem runDeclaration_textual : runDeclaration.Textual :=
  .interface (.inr ⟨_, rfl⟩) fun field hf => by
    rw [List.mem_singleton.mp hf]
    exact ⟨.inl rfl, _, rfl⟩

theorem runDeclaration_plain : runDeclaration.texts.Plain :=
  .interface (by decide) fun field hf => by
    rw [List.mem_singleton.mp hf]
    exact ⟨by decide, by decide⟩

theorem gathered_plain : gathered.Plain where
  tidy := ⟨by decide, by decide⟩
  paths := List.forall_mem_cons.mpr ⟨⟨["a", "c.ts"], by decide, by decide⟩,
    List.forall_mem_singleton.mpr ⟨["d.ts"], by decide, by decide⟩⟩
  names := by decide
  textual := List.forall_mem_cons.mpr ⟨runDeclaration_textual,
    List.forall_mem_singleton.mpr (.union (.inl rfl) (by simp))⟩
  plain := List.forall_mem_cons.mpr ⟨runDeclaration_plain,
    List.forall_mem_singleton.mpr (.union (by decide) (by decide))⟩

theorem scattered_plain : scattered.Plain where
  tidy := ⟨by decide, by decide⟩
  paths := List.forall_mem_cons.mpr ⟨⟨["d.ts"], by decide, by decide⟩,
    List.forall_mem_singleton.mpr ⟨["a", "c.ts"], by decide, by decide⟩⟩
  names := by decide
  textual := List.forall_mem_cons.mpr ⟨.union (.inr ⟨_, rfl⟩) (by simp),
    List.forall_mem_singleton.mpr runDeclaration_textual⟩
  plain := List.forall_mem_cons.mpr ⟨.union (by decide) (by decide),
    List.forall_mem_singleton.mpr runDeclaration_plain⟩

theorem gathered_alike : gathered.Alike scattered where
  imports := by
    have hnames : sortTexts ["Job", "Plan"] = sortTexts ["Plan", "Job"] :=
      sortTexts_eq_iff.mpr (.swap ..)
    refine (Imports.same_iff_perm gathered_plain.tidy scattered_plain.tidy).mpr ?_
    change List.Perm [(_, sortTexts ["Job", "Plan"]), _] [_, _]
    rw [hnames]
    exact .swap ..
  declarations :=
    ⟨[runDeclaration, .union "Zone" (.string "") [.string "string | number"]], .swap ..,
      .cons (.interface rfl (.cons ⟨rfl, rfl, rfl, rfl⟩ .nil))
        (.cons (.union rfl (by decide)) .nil)⟩

theorem render_faithful_of_gathered :
    gathered.path = scattered.path ∧ gathered.Plain ∧ scattered.Plain ∧ gathered.Alike scattered ∧
      (∃ source, gathered.render = .ok source) ∧
      (gathered.render = scattered.render ↔ gathered.Alike scattered) :=
  ⟨rfl, gathered_plain, scattered_plain, gathered_alike,
    render_faithful rfl gathered_plain scattered_plain⟩

end Module

end ApiTypings
