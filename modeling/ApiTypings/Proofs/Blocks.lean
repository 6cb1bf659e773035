import ApiTypings.Proofs.Comments
import ApiTypings.Proofs.FieldKeys

/-!
# Declarations are read off their lines

A blank line stands before a member of several lines and before no other, so the members
of a block are told from its lines, one by one. The lines of a declaration tell its kind,
its name and what is in it, up to descriptions with the same comment and types of a union
with the same spelling.
-/

namespace ApiTypings

open Text

section Members

variable {ι : Type} {block : ι → List String} {indent : String} {good : ι → Prop}
  {first : String → Prop} {alike : ι → ι → Prop}

/-- Members that are set off are still read one by one, if no blank line begins one. -/
theorem setOff_code (h : Code (fun a => (block a).map (indent ++ ·)) good first alike)
    (hblank : ¬ first "") :
    Code (fun a => setOff indent (block a)) good (fun line => line = "" ∨ first line) alike := by
  constructor
  · intro a ha
    obtain ⟨line, rest, hl, hfirst⟩ := h.head a ha
    unfold setOff
    rw [hl]
    split
    · exact ⟨"", _, rfl, .inl rfl⟩
    · exact ⟨line, rest, rfl, .inr hfirst⟩
  · intro a b r s ha hb he
    -- a blank line is no line that a member begins with
    have hdiffer : ∀ {c : ι} {t u : List String}, good c →
        "" :: t ≠ (block c).map (indent ++ ·) ++ u := by
      intro c t u hc heq
      obtain ⟨line, rest, hl, hfirst⟩ := h.head c hc
      rw [hl] at heq
      obtain rfl := (List.cons.inj heq).1
      exact hblank hfirst
    unfold setOff at he
    by_cases hla : 1 < (block a).length <;> by_cases hlb : 1 < (block b).length
    · rw [if_pos hla, if_pos hlb] at he
      exact h.cancel ha hb (List.cons.inj he).2
    · rw [if_pos hla, if_neg hlb] at he
      exact absurd he (hdiffer hb)
    · rw [if_neg hla, if_pos hlb] at he
      exact absurd he.symm (hdiffer ha)
    · rw [if_neg hla, if_neg hlb] at he
      exact h.cancel ha hb he

/-- The members of a block are told by its lines. -/
theorem joinMembers_cancel (h : Code (fun a => (block a).map (indent ++ ·)) good first alike)
    (hblank : ¬ first "") {as bs : List ι} (has : ∀ a ∈ as, good a) (hbs : ∀ b ∈ bs, good b)
    {r s : List String} (hr : ∀ line ∈ r.head?, line ≠ "" ∧ ¬ first line)
    (hs : ∀ line ∈ s.head?, line ≠ "" ∧ ¬ first line)
    (he : joinMembers indent (as.map block) ++ r = joinMembers indent (bs.map block) ++ s) :
    List.Forall₂ alike as bs ∧ r = s := by
  cases as with
  | nil =>
    cases bs with
    | nil => exact ⟨.nil, he⟩
    | cons b bs =>
      rw [List.map_cons, joinMembers, List.append_assoc] at he
      exact absurd he.symm (h.append_ne (hbs b (by simp)) fun c hc => (hr c hc).2)
  | cons a as =>
    rw [List.map_cons, joinMembers, List.append_assoc] at he
    cases bs with
    | nil => exact absurd he (h.append_ne (has a (by simp)) fun c hc => (hs c hc).2)
    | cons b bs =>
      rw [List.map_cons, joinMembers, List.append_assoc] at he
      obtain ⟨hab, hrest⟩ := h.cancel (has a (by simp)) (hbs b (by simp)) he
      rw [List.flatMap_map, List.flatMap_map] at hrest
      obtain ⟨hall, hrs⟩ := (setOff_code h hblank).flatMap_cancel
        (fun a ha => has a (List.mem_cons_of_mem _ ha))
        (fun b hb => hbs b (List.mem_cons_of_mem _ hb))
        (fun c hc => not_or.mpr (hr c hc)) (fun c hc => not_or.mpr (hs c hc)) hrest
      exact ⟨.cons hab hall, hrs⟩

/-- A block begins as its first member does. -/
theorem joinMembers_head (h : Code (fun a => (block a).map (indent ++ ·)) good first alike)
    {as : List ι} (has : ∀ a ∈ as, good a) :
    ∀ line ∈ (joinMembers indent (as.map block)).head?, first line := by
  cases as with
  | nil => simp [joinMembers]
  | cons a as =>
    obtain ⟨line, rest, hl, hfirst⟩ := h.head a (has a (by simp))
    rw [List.map_cons, joinMembers, hl]
    rintro _ ⟨⟩
    exact hfirst

theorem mem_joinMembers {blocks : List (List String)} {line : String}
    (h : line ∈ joinMembers indent blocks) :
    line = "" ∨ ∃ block ∈ blocks, ∃ inner ∈ block, line = indent ++ inner := by
  cases blocks with
  | nil => cases h
  | cons block blocks =>
    rcases List.mem_append.mp h with h | h
    · obtain ⟨inner, hi, rfl⟩ := List.mem_map.mp h
      exact .inr ⟨block, by simp, inner, hi, rfl⟩
    · obtain ⟨member, hm, h⟩ := List.mem_flatMap.mp h
      rcases List.mem_append.mp h with h | h
      · split at h
        · exact .inl (List.mem_singleton.mp h)
        · cases h
      · obtain ⟨inner, hi, rfl⟩ := List.mem_map.mp h
        exact .inr ⟨member, List.mem_cons_of_mem _ hm, inner, hi, rfl⟩

end Members

namespace Field

/-- The name and the type stand on one line. -/
structure Plain (field : Field String) : Prop where
  name : '\n' ∉ field.name.toList
  type : '\n' ∉ field.type.toList

/-- The same field, up to the comment that a description becomes. -/
structure Alike (f g : Field String) : Prop where
  name : f.name = g.name
  comment : docLines f.description = docLines g.description
  type : f.type = g.type
  optional : f.optional = g.optional

/-- A field is read off the front of the lines it begins. -/
theorem code : Code (fun f : Field String => f.lines.map ("  " ++ ·)) Plain
    (fun line => ∃ text, line = "  " ++ text) Alike := by
  constructor
  · intro f _
    rw [lines_eq]
    rcases docLines_cases f.description with h | ⟨body, h, _⟩ <;> rw [h] <;>
      exact ⟨_, _, rfl, _, rfl⟩
  · intro f g r s hf hg h
    rw [lines_eq, lines_eq] at h
    obtain ⟨hc, hl, hrs⟩ := docLines_cancel (fun _ _ => (String.append_right_inj "  ").mp)
      f.line_ne g.line_ne h
    obtain ⟨hn, ht, ho⟩ := line_inj hf.name hg.name hl
    exact ⟨⟨hn, hc, ht, ho⟩, hrs⟩

theorem Alike.lines_eq {f g : Field String} (h : f.Alike g) : f.lines = g.lines := by
  rw [Field.lines_eq, Field.lines_eq, line, line, h.name, h.comment, h.type, h.optional]

theorem Plain.lineFeed_notMem {field : Field String} (h : field.Plain) {line : String}
    (hl : line ∈ field.lines) : '\n' ∉ line.toList := by
  rcases List.mem_append.mp hl with hl | hl
  · exact lineFeed_notMem_docLines hl
  · rw [List.mem_singleton.mp hl]
    exact lineFeed_notMem_line h.name h.type

end Field

/-! ## Declarations -/

namespace Declaration

/-- Interfaces and unions that are named by identifiers and hold texts on one line. -/
inductive Plain : Declaration String → Prop
  | interface {name description : String} {fields : List (Field String)} :
    Identifier name → (∀ field ∈ fields, field.Plain) → Plain (.interface name description fields)
  | union {name description : String} {types : List String} :
    Identifier name → (∀ type ∈ types, '\n' ∉ type.toList) → Plain (.union name description types)

/-- The same declaration, up to the comment that a description becomes and to how the types of a
union are joined. -/
inductive Alike : Declaration String → Declaration String → Prop
  | interface {name description description' : String} {fields fields' : List (Field String)} :
    docLines description = docLines description' → List.Forall₂ Field.Alike fields fields' →
      Alike (.interface name description fields) (.interface name description' fields')
  | union {name description description' : String} {types types' : List String} :
    docLines description = docLines description' → join " | " types = join " | " types' →
      Alike (.union name description types) (.union name description' types')

theorem opening_interface_ne (name name' types : String) :
    "export interface " ++ name ++ " \x7b" ≠ "export type " ++ name' ++ " = " ++ types := by
  intro h
  simpa using congrArg String.toList h

theorem opening_union_inj {name name' types types' : String} (h : Identifier name)
    (h' : Identifier name')
    (he : "export type " ++ name ++ " = " ++ types = "export type " ++ name' ++ " = " ++ types') :
    name = name' ∧ types = types' := by
  have hl := congrArg String.toList he
  simp only [String.toList_append, List.append_assoc] at hl
  obtain ⟨hn, ht⟩ := h.cancel h' (by simp; decide) (by simp; decide) (List.append_cancel_left hl)
  exact ⟨hn, String.toList_injective (List.append_cancel_left ht)⟩

theorem lines_interface (name description : String) (fields : List (Field String)) :
    (interface name description fields).lines =
      (docLines description ++ ["export interface " ++ name ++ " \x7b"]) ++
        (joinMembers "  " (fields.map Field.lines) ++ ["\x7d"]) := by
  simp [lines]

theorem lines_union (name description : String) (types : List String) :
    (union name description types).lines =
      docLines description ++ ["export type " ++ name ++ " = " ++ join " | " types] := rfl

/-- The line that opens a declaration is told by what begins the lines of a declaration. -/
theorem opening_cancel {a b line line' : String} {r s : List String}
    (hl : line.toList.head? = some 'e') (hl' : line'.toList.head? = some 'e')
    (h : docLines a ++ [line] ++ r = docLines b ++ [line'] ++ s) :
    docLines a = docLines b ∧ line = line' ∧ r = s := by
  refine docLines_cancel (f := id) Function.injective_id ?_ ?_ (by simpa using h)
  · rintro rfl
    cases hl
  · rintro rfl
    cases hl'

theorem head_interface (name : String) :
    ("export interface " ++ name ++ " \x7b").toList.head? = some 'e' := by simp

theorem head_union (name types : String) :
    ("export type " ++ name ++ " = " ++ types).toList.head? = some 'e' := by simp

/-- The fields of an interface end at the line that closes it. -/
theorem fields_cancel {fields fields' : List (Field String)} (hf : ∀ field ∈ fields, field.Plain)
    (hf' : ∀ field ∈ fields', field.Plain) {r s : List String}
    (h : joinMembers "  " (fields.map Field.lines) ++ ["\x7d"] ++ r =
      joinMembers "  " (fields'.map Field.lines) ++ ["\x7d"] ++ s) :
    List.Forall₂ Field.Alike fields fields' ∧ r = s := by
  have hindented : ∀ {line : String}, line.toList.head? ≠ some ' ' →
      ¬ ∃ text, line = "  " ++ text := by
    rintro line hne ⟨text, rfl⟩
    simp at hne
  have hclose : ∀ (rest : List String), ∀ line ∈ ("\x7d" :: rest).head?,
      line ≠ "" ∧ ¬ ∃ text, line = "  " ++ text := by
    rintro rest line ⟨⟩
    exact ⟨by decide, hindented (by decide)⟩
  rw [List.append_assoc, List.append_assoc] at h
  obtain ⟨hall, hrs⟩ := joinMembers_cancel Field.code (hindented (by decide)) hf hf'
    (hclose r) (hclose s) h
  exact ⟨hall, (List.cons.inj hrs).2⟩

/-- How the lines of a declaration begin. -/
def Opens (line : String) : Prop := line = "/**" ∨ line.toList.head? = some 'e'

theorem not_opens_empty : ¬ Opens "" := by
  rintro (h | h)
  · exact absurd h (by decide)
  · cases h

/-- A declaration is read off the front of the lines it begins. -/
theorem code : Code lines Plain Opens Alike := by
  constructor
  · intro d hd
    cases hd with
    | @interface name description fields _ _ =>
      rw [lines_interface]
      rcases docLines_cases description with h | ⟨body, h, _⟩ <;> rw [h]
      · exact ⟨_, _, rfl, .inr (head_interface name)⟩
      · exact ⟨"/**", _, rfl, .inl rfl⟩
    | @union name description types _ _ =>
      rw [lines_union]
      rcases docLines_cases description with h | ⟨body, h, _⟩ <;> rw [h]
      · exact ⟨_, _, rfl, .inr (head_union name _)⟩
      · exact ⟨"/**", _, rfl, .inl rfl⟩
  · intro d e r s hd he h
    cases hd with
    | interface hname hfields =>
      cases he with
      | interface hname' hfields' =>
        rw [lines_interface, lines_interface, List.append_assoc (_ ++ [_]),
          List.append_assoc (_ ++ [_])] at h
        obtain ⟨hdoc, hopen, hrest⟩ := opening_cancel (head_interface _) (head_interface _) h
        obtain ⟨hall, hrs⟩ := fields_cancel hfields hfields' hrest
        obtain rfl := (String.append_right_inj _).mp ((String.append_left_inj _).mp hopen)
        exact ⟨.interface hdoc hall, hrs⟩
      | union hname' _ =>
        rw [lines_interface, lines_union, List.append_assoc (_ ++ [_])] at h
        obtain ⟨_, hopen, _⟩ := opening_cancel (head_interface _) (head_union _ _) h
        exact absurd hopen (opening_interface_ne _ _ _)
    | union hname _ =>
      cases he with
      | interface hname' _ =>
        rw [lines_interface, lines_union, List.append_assoc (_ ++ [_])] at h
        obtain ⟨_, hopen, _⟩ := opening_cancel (head_union _ _) (head_interface _) h
        exact absurd hopen.symm (opening_interface_ne _ _ _)
      | union hname' _ =>
        rw [lines_union, lines_union] at h
        obtain ⟨hdoc, hopen, hrs⟩ := opening_cancel (head_union _ _) (head_union _ _) h
        obtain ⟨rfl, htypes⟩ := opening_union_inj hname hname' hopen
        exact ⟨.union hdoc htypes, hrs⟩

/-- What a declaration is sorted by. -/
def entry (d : Declaration String) : String × List String := (d.name?.getD "", d.lines)

theorem Alike.entry_eq {d e : Declaration String} (h : d.Alike e) : d.entry = e.entry := by
  cases h with
  | @interface name description description' fields fields' hdoc hfields =>
    have hlines : fields.map Field.lines = fields'.map Field.lines := by
      rw [← List.forall₂_eq_eq_eq, List.forall₂_map_left_iff, List.forall₂_map_right_iff]
      exact hfields.imp fun _ _ => Field.Alike.lines_eq
    simp only [entry, lines_interface, hdoc, hlines, name?]
  | union hdoc htypes => simp only [entry, lines_union, hdoc, htypes, name?]

theorem lineFeed_notMem_interface {name description : String} {fields : List (Field String)}
    (hname : '\n' ∉ name.toList) (hfields : ∀ field ∈ fields, field.Plain) {line : String}
    (hl : line ∈ (interface name description fields).lines) : '\n' ∉ line.toList := by
  rw [lines_interface] at hl
  simp only [List.mem_append, List.mem_singleton] at hl
  rcases hl with (hl | rfl) | hl | rfl
  · exact lineFeed_notMem_docLines hl
  · simpa using hname
  · rcases mem_joinMembers hl with rfl | ⟨block, hb, inner, hi, rfl⟩
    · decide
    · obtain ⟨field, hf, rfl⟩ := List.mem_map.mp hb
      simpa using (hfields field hf).lineFeed_notMem hi
  · decide

theorem lineFeed_notMem_union {name description : String} {types : List String}
    (hname : '\n' ∉ name.toList) (htypes : ∀ type ∈ types, '\n' ∉ type.toList) {line : String}
    (hl : line ∈ (union name description types).lines) : '\n' ∉ line.toList := by
  rw [lines_union] at hl
  simp only [List.mem_append, List.mem_singleton] at hl
  rcases hl with hl | rfl
  · exact lineFeed_notMem_docLines hl
  · have htext : '\n' ∉ (join " | " types).toList := fun hm =>
      (mem_join hm).elim (by decide) fun ⟨type, ht, hc⟩ => htypes type ht hc
    simpa using ⟨hname, htext⟩

/-- A plain declaration has no line feeds in its lines. -/
theorem Plain.lineFeed_notMem {d : Declaration String} (h : d.Plain) {line : String}
    (hl : line ∈ d.lines) : '\n' ∉ line.toList := by
  cases h with
  | interface hname hfields =>
    exact lineFeed_notMem_interface (hname.notMem (by decide)) hfields hl
  | union hname htypes => exact lineFeed_notMem_union (hname.notMem (by decide)) htypes hl

end Declaration

end ApiTypings
