import ApiTypings.Proofs.Braces
import ApiTypings.Proofs.Lossless

/-!
# Descriptions are not checked

What counts when a text is checked stands outside of its comments. A description is written as a
comment, so all it can do is to set off a member by a blank line and to change places with another
declaration of the same name. The verdict on a module is that on the module without descriptions,
whatever stands in its names and types.
-/

namespace ApiTypings

open Text

theorem flattenLines_append (a b : List String) :
    flattenLines (a ++ b) = flattenLines a ++ flattenLines b := List.flatMap_append

theorem lineFeed_notMem_flattenLines {source : List String} {line : String}
    (h : line ∈ flattenLines source) : '\n' ∉ line.toList := by
  obtain ⟨_, _, hl⟩ := List.mem_flatMap.mp h
  exact not_mem_of_mem_split hl

/-- What counts on lines that may have line feeds in them. -/
def codeIn (source : List String) : List Char := codeOf (flattenLines source)

theorem codeIn_append (a b : List String) : codeIn (a ++ b) = codeIn a ++ codeIn b := by
  rw [codeIn, flattenLines_append, codeOf_append]
  rfl

theorem codeIn_joinMembers (indent : String) (members : List (List String)) :
    codeIn (joinMembers indent members) =
      members.flatMap fun member => codeIn (member.map (indent ++ ·)) :=
  gather_joinMembers codeIn_append rfl (by rfl) indent members

/-- A comment adds nothing to what stands behind it. -/
theorem codeIn_described {indent : String} (h : ∀ c ∈ indent.toList, isBlank c = true)
    (hfeed : '\n' ∉ indent.toList) (description : String) (rest : List String) :
    codeIn ((docLines description ++ rest).map (indent ++ ·)) =
      codeIn (rest.map (indent ++ ·)) := by
  have hlines : ∀ line ∈ (docLines description).map (indent ++ ·), '\n' ∉ line.toList := by
    intro _ hl
    obtain ⟨line, hline, rfl⟩ := List.mem_map.mp hl
    rw [String.toList_append, List.mem_append, not_or]
    exact ⟨hfeed, lineFeed_notMem_docLines hline⟩
  rw [List.map_append, codeIn_append, codeIn, flattenLines_eq_self hlines, codeOf_docLines h,
    List.nil_append]

theorem codeIn_doc (description : String) (rest : List String) :
    codeIn (docLines description ++ rest) = codeIn rest := by
  have hblank : ∀ c ∈ "".toList, isBlank c = true := by simp
  simpa using codeIn_described hblank (by simp) description rest

/-! ## Without descriptions -/

/-- The field without its description. -/
def Field.undescribed (field : Field Json) : Field Json := { field with description := .null }

namespace Declaration

/-- The declaration without its description and those of its fields. -/
def undescribed : Declaration Json → Declaration Json
  | .interface name _ fields => .interface name .null (fields.map Field.undescribed)
  | .union name _ types => .union name .null types
  | .field f => .field f.undescribed
  | .foreign found => .foreign found

theorem Textual.undescribed {d : Declaration Json} (h : d.Textual) : d.undescribed.Textual := by
  cases h with
  | interface _ hfields =>
    refine .interface (.inl rfl) fun _ hf => ?_
    obtain ⟨field, hfield, rfl⟩ := List.mem_map.mp hf
    exact ⟨.inl rfl, (hfields field hfield).type⟩
  | union _ htypes => exact .union (.inl rfl) htypes

/-- The lines of the fields that count are those without the descriptions. -/
theorem codeIn_fields (fields : List (Field Json)) :
    codeIn (joinMembers "  " (((fields.map Field.undescribed).map Field.texts).map Field.lines)) =
      codeIn (joinMembers "  " ((fields.map Field.texts).map Field.lines)) := by
  rw [codeIn_joinMembers, codeIn_joinMembers]
  simp only [List.flatMap_map]
  refine List.flatMap_congr fun field _ => ?_
  have hblank : ∀ c ∈ "  ".toList, isBlank c = true := by simp [isBlank]
  rw [Field.lines_eq, Field.lines_eq, codeIn_described hblank (by decide),
    codeIn_described hblank (by decide)]
  rfl

/-- The lines of a declaration that count are those without the descriptions. -/
theorem codeIn_lines (d : Declaration Json) :
    codeIn d.undescribed.texts.lines = codeIn d.texts.lines := by
  cases d with
  | interface name description fields =>
    rw [undescribed, texts, texts, lines_interface, lines_interface, List.append_assoc,
      List.append_assoc, codeIn_doc, codeIn_doc]
    simp only [codeIn_append, codeIn_fields]
  | union => rw [undescribed, texts, texts, lines_union, lines_union, codeIn_doc, codeIn_doc]
  | field f =>
    rw [undescribed, texts, texts, lines, lines, Field.lines_eq, Field.lines_eq, codeIn_doc,
      codeIn_doc]
    rfl
  | foreign => rfl

end Declaration

namespace Module

/-- The module without any descriptions. -/
def undescribed (m : Module Json) : Module Json :=
  { m with declarations := m.declarations.map Declaration.undescribed }

/-- The declarations are written in some order, and what counts of them is what counts of each. -/
theorem codeIn_bodyLines_perm (named : List (String × List String)) :
    (codeIn (bodyLines named)).Perm (named.flatMap fun entry => codeIn entry.2) := by
  unfold bodyLines sortPairs
  rw [codeIn_joinMembers, List.flatMap_map]
  simpa using (List.mergeSort_perm named pairLe).flatMap_right fun entry => codeIn entry.2

theorem codeIn_assemble_perm {τ : Type} (m : Module τ) (named : List (String × List String)) :
    (codeOf (m.assemble named)).Perm (codeIn m.importLines ++
      (codeIn (if m.importLines.isEmpty then [] else [""]) ++
        named.flatMap fun entry => codeIn entry.2)) := by
  change (codeIn (_ ++ _ ++ _)).Perm _
  rw [codeIn_append, codeIn_append, List.append_assoc]
  exact ((codeIn_bodyLines_perm named).append_left _).append_left _

/-- What counts in a module is what counts in it without descriptions, in some order. -/
theorem codeOf_undescribed_perm (m : Module Json) :
    (codeOf (m.assemble (m.declarations.map fun d => d.texts.entry))).Perm
      (codeOf (m.undescribed.assemble
        (m.undescribed.declarations.map fun d => d.texts.entry))) := by
  have hentries : (m.undescribed.declarations.map fun d => d.texts.entry).flatMap
      (fun entry => codeIn entry.2) =
        (m.declarations.map fun d => d.texts.entry).flatMap fun entry => codeIn entry.2 := by
    simp only [undescribed, List.flatMap_map]
    exact List.flatMap_congr fun d _ => d.codeIn_lines
  have hbare := m.undescribed.codeIn_assemble_perm
    (m.undescribed.declarations.map fun d => d.texts.entry)
  rw [hentries] at hbare
  exact (m.codeIn_assemble_perm _).trans hbare.symm

theorem countBraces_assemble {τ : Type} (m : Module τ) (named : List (String × List String)) :
    countBraces (String.join ((m.assemble named).map (· ++ "\n"))).toList =
      ((codeOf (m.assemble named)).count '\x7b', (codeOf (m.assemble named)).count '\x7d') :=
  countBraces_unlines fun _ => lineFeed_notMem_flattenLines

/-- Whatever the descriptions are, the text of a module has the braces that it has without them, and
the same verdict. -/
theorem validate_undescribed {m : Module Json} (h : ∀ d ∈ m.declarations, d.Textual) :
    ∃ text bare, m.renderText = .ok text ∧ m.undescribed.renderText = .ok bare ∧
      countBraces text.toList = countBraces bare.toList ∧ validate text = validate bare := by
  have hbare : ∀ d ∈ m.undescribed.declarations, d.Textual := by
    intro _ hd
    obtain ⟨d, hm, rfl⟩ := List.mem_map.mp hd
    exact (h d hm).undescribed
  refine ⟨_, _, renderText_of_textual h, renderText_of_textual hbare, ?_⟩
  have hperm := m.codeOf_undescribed_perm
  suffices hcount : countBraces _ = countBraces _ by
    refine ⟨hcount, ?_⟩
    unfold validate
    rw [hcount]
  rw [countBraces_assemble, countBraces_assemble, hperm.count_eq, hperm.count_eq]

/-- A module with braces and line feeds in names, types and descriptions, and two declarations of one
name that are in another order without these. -/
def uneven : Module Json where
  path := "a.ts"
  imports := [("b\x7b.ts", ["Plan\x7d", "Job\n*"])]
  declarations := [
    .union "Run\x7b" (.string "Runs \x7b\n\x7d twice.") [.string "string", .string "\x7b\n\x7d"],
    .interface "Run\x7b" .null [⟨"of\x7dJob", .string "\x7d", .string "Job\n * []", true⟩]]

theorem uneven_textual : ∀ d ∈ uneven.declarations, d.Textual := by
  refine List.forall_mem_cons.mpr ⟨.union (.inr ⟨_, rfl⟩) (by simp), ?_⟩
  refine List.forall_mem_singleton.mpr (.interface (.inl rfl) ?_)
  exact List.forall_mem_singleton.mpr ⟨.inr ⟨_, rfl⟩, _, rfl⟩

theorem validate_undescribed_of_uneven :
    (∀ d ∈ uneven.declarations, d.Textual) ∧
      ∃ text bare, uneven.renderText = .ok text ∧ uneven.undescribed.renderText = .ok bare ∧
        countBraces text.toList = countBraces bare.toList ∧ validate text = validate bare :=
  ⟨uneven_textual, validate_undescribed uneven_textual⟩

end Module

end ApiTypings
