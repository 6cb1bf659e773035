import ApiTypings.Proofs.Series
import ApiTypings.Proofs.TypedSettings

/-!
# Settings are dumped and read back

The members of the JSON form are applied one after the other, each to its own part of the
settings. So what is read is told by what stands under each name, and neither the order of the
members nor one of a name that settings do not answer to bears on it. Settings of the right types
are dumped without loss: read back they are what they were, the tables in the same order.
-/

namespace ApiTypings

theorem OutputMode.ofName?_name (mode : OutputMode) : ofName? mode.name = some mode := by
  cases mode <;> rfl

namespace Settings

/-- The output part as it is found. -/
def partOf : Json → Except Failure OutputSetting
  | .object parts => .settings <$> readOutput parts
  | found => .ok (.other found)

/-- The settings with what is found under each name in place of what was there. -/
def overlaid (start : Settings) (members : List (String × Json)) : Except Failure Settings := do
  let output ← ((member? "output" members).map partOf).getD (.ok start.output)
  return { start with
    namespacePrefixes := (member? "namespace_prefixes" members).getD start.namespacePrefixes
    replacedTypes := (member? "replaced_types" members).getD start.replacedTypes
    redefinedTypes := (member? "redefined_types" members).getD start.redefinedTypes
    fileExtension := (member? "file_extension" members).getD start.fileExtension
    outputDir := (member? "output_dir" members).getD start.outputDir
    schemaUrl := (member? "schema_url" members).getD start.schemaUrl
    requestTimeout := (member? "request_timeout" members).getD start.requestTimeout
    output }

/-- The names of the settings apart from the output part. -/
def memberNames : List String := ["namespace_prefixes", "replaced_types", "redefined_types",
  "file_extension", "output_dir", "schema_url", "request_timeout"]

/-- The names of what else settings answer to. -/
def otherNames : List String := ["__dict__", "to_dict", "__class__", "__weakref__"]

section Reading

variable {start : Settings} {name : String} {found : Json} {rest members : List (String × Json)}

/-- A member that is applied before others of other names can as well be looked up with them. -/
theorem set_overlaid (hstart : start.missing = []) (hname : name ∉ otherNames)
    (h : member? name rest = none) :
    (start.set name found >>= fun changed => changed.overlaid rest) =
      start.overlaid ((name, found) :: rest) := by
  unfold set
  split
  case h_8 =>
    -- only the output part can be refused
    cases found with
    | object parts =>
      cases hp : readOutput parts with
      | error e => simp [overlaid, member?, partOf, hp, bind, Except.bind]
      | ok output =>
        simp [overlaid, member?, partOf, hp, h, hstart, bind, Except.bind, pure, Except.pure]
    | _ => simp [overlaid, member?, partOf, h, change, hstart, bind, Except.bind]
  case h_13 => simp_all [overlaid, member?, bind, Except.bind]
  case h_9 | h_10 | h_11 | h_12 => simp [otherNames] at hname
  all_goals simp [overlaid, member?, h, change, hstart, bind, Except.bind]

/-- No member goes missing. -/
theorem set_missing (hstart : start.missing = []) (hname : name ∉ otherNames) {changed : Settings}
    (h : start.set name found = .ok changed) : changed.missing = [] := by
  unfold set at h
  split at h
  case h_8 =>
    split at h
    · obtain ⟨output, _, h⟩ := bind_ok h
      cases h
      simp [hstart]
    · cases h
      simp [change, hstart]
  case h_9 | h_10 | h_11 | h_12 => simp [otherNames] at hname
  all_goals
    cases h
    simp [change, hstart]

theorem foldlM_set (hstart : start.missing = []) (h : (members.map Prod.fst).Nodup)
    (hnames : ∀ name ∈ otherNames, member? name members = none) :
    members.foldlM (fun settings (name, found) => settings.set name found) start =
      start.overlaid members := by
  induction members generalizing start with
  | nil => rfl
  | cons entry rest ih =>
    obtain ⟨name, found⟩ := entry
    obtain ⟨hname, hrest⟩ := List.nodup_cons.mp h
    have hother : name ∉ otherNames := by
      intro hn
      simpa [member?] using hnames name hn
    have hlater : ∀ name ∈ otherNames, member? name rest = none := by
      intro later hl
      have hne : name ≠ later := fun he => hother (he ▸ hl)
      simpa [member?, hne] using hnames later hl
    rw [List.foldlM_cons, ← set_overlaid hstart hother (member?_eq_none hname)]
    change (start.set name found >>= fun changed => _) = _
    cases hset : start.set name found with
    | error e => rfl
    | ok changed => exact ih (set_missing hstart hother hset) hrest hlater

/-- Reading is looking up, whatever is found. -/
theorem read_object (h : (members.map Prod.fst).Nodup)
    (hnames : ∀ name ∈ otherNames, member? name members = none) :
    read (.object members) = standard.overlaid members := foldlM_set rfl h hnames

end Reading

/-- The names in the output part. -/
def partNames : List String := ["mode", "validate_before_write", "atomic_write"]

/-- Two output parts say the same: they are the same, or objects with the same under each name. -/
inductive SamePart : Json → Json → Prop
  | refl (found : Json) : SamePart found found
  | object {parts others : List (String × Json)}
    (h : ∀ name ∈ partNames, member? name parts = member? name others) :
    SamePart (.object parts) (.object others)

/-- Members say the same about the settings, in whatever order they stand and whatever members of
other names there are. -/
structure SaysSame (members others : List (String × Json)) : Prop where
  plain : ∀ name ∈ memberNames ++ otherNames, member? name members = member? name others
  output : Option.Rel SamePart (member? "output" members) (member? "output" others)

theorem SaysSame.of_perm {members others : List (String × Json)}
    (hd : (members.map Prod.fst).Nodup) (h : members.Perm others) : SaysSame members others := by
  refine ⟨fun name _ => member?_of_perm hd h, ?_⟩
  rw [← member?_of_perm hd h]
  cases member? "output" members with
  | none => exact .none
  | some found => exact .some (.refl found)

theorem SamePart.partOf_eq {a b : Json} (h : SamePart a b) : partOf a = partOf b := by
  cases h with
  | refl => rfl
  | object h =>
    have hmode := h "mode" (by decide)
    have hvalidate := h "validate_before_write" (by decide)
    have hatomic := h "atomic_write" (by decide)
    simp only [partOf, readOutput, hmode, hvalidate, hatomic]

theorem SaysSame.overlaid_eq {members others : List (String × Json)} (h : SaysSame members others)
    (start : Settings) : start.overlaid members = start.overlaid others := by
  have houtput : (member? "output" members).map partOf = (member? "output" others).map partOf := by
    have hrel := h.output
    generalize member? "output" members = found, member? "output" others = other at hrel ⊢
    cases hrel with
    | none => rfl
    | some hpart => exact congrArg some hpart.partOf_eq
  have hplain := fun name hn => h.plain name (List.mem_append_left otherNames hn)
  simp only [memberNames, List.forall_mem_cons] at hplain
  obtain ⟨hprefixes, hreplaced, hredefined, hextension, hdir, hurl, htimeout, -⟩ := hplain
  simp only [overlaid, houtput, hprefixes, hreplaced, hredefined, hextension, hdir, hurl, htimeout]

/-! ## Members of the right types -/

/-- What is found under a name, if anything, is a value of the type, written as a member. -/
def Typed {α : Type} (write : α → Json) (name : String) (members : List (String × Json)) : Prop :=
  ∀ found, member? name members = some found → ∃ a, found = write a

/-- The parts of an output part have the types that they are meant to have. -/
structure TypedParts (parts : List (String × Json)) : Prop where
  mode : Typed (fun mode : OutputMode => .string mode.name) "mode" parts
  validate : Typed Json.bool "validate_before_write" parts
  atomic : Typed Json.bool "atomic_write" parts

/-- The members that are there have the types that they are meant to have, and none has the name of
something else that settings answer to. -/
structure TypedMembers (members : List (String × Json)) : Prop where
  namespacePrefixes : Typed textTable "namespace_prefixes" members
  replacedTypes : Typed textTable "replaced_types" members
  redefinedTypes : Typed listTable "redefined_types" members
  fileExtension : Typed Json.string "file_extension" members
  outputDir : Typed Json.string "output_dir" members
  schemaUrl : Typed Json.string "schema_url" members
  requestTimeout : Typed Json.int "request_timeout" members
  output : ∀ found, member? "output" members = some found →
    ∃ parts, found = .object parts ∧ TypedParts parts
  others : ∀ name ∈ otherNames, member? name members = none

section Typed

variable {α : Type} {write : α → Json} {name : String} {members : List (String × Json)}

theorem Typed.exists_getD (h : Typed write name members) (start : α) :
    ∃ a, (member? name members).getD (write start) = write a := by
  cases hm : member? name members with
  | none => exact ⟨start, rfl⟩
  | some found => exact h found hm

theorem Typed.of_found {a : α} (h : member? name members = some (write a)) :
    Typed write name members := fun _ hf => ⟨a, Option.some.inj (hf.symm.trans h)⟩

theorem Typed.of_missing (h : member? name members = none) : Typed write name members := by
  intro found hf
  rw [h] at hf
  cases hf

end Typed

/-- Parts of the right types are read, each where it is missing as the standard one. -/
theorem TypedParts.read {parts : List (String × Json)} (h : TypedParts parts) :
    ∃ mode validate atomic, readOutput parts =
      .ok { mode := .mode mode, validate := .bool validate, atomic := .bool atomic } := by
  obtain ⟨validate, hvalidate⟩ := h.validate.exists_getD true
  obtain ⟨atomic, hatomic⟩ := h.atomic.exists_getD true
  cases hm : member? "mode" parts with
  | none =>
    refine ⟨.force, validate, atomic, ?_⟩
    simp [readOutput, hm, hvalidate, hatomic, bind, Except.bind, pure, Except.pure]
  | some found =>
    obtain ⟨mode, rfl⟩ := h.mode found hm
    refine ⟨mode, validate, atomic, ?_⟩
    simp [readOutput, hm, hvalidate, hatomic, OutputMode.ofName?_name, bind, Except.bind, pure,
      Except.pure]

/-- Settings of the right types over which members of the right types are laid have them still. -/
theorem TypedMembers.overlaid {members : List (String × Json)} (h : TypedMembers members)
    (start : TypedSettings) :
    ∃ typed : TypedSettings, start.settings.overlaid members = .ok typed.settings := by
  obtain ⟨prefixes, hprefixes⟩ := h.namespacePrefixes.exists_getD start.namespacePrefixes
  obtain ⟨replaced, hreplaced⟩ := h.replacedTypes.exists_getD start.replacedTypes
  obtain ⟨redefined, hredefined⟩ := h.redefinedTypes.exists_getD start.redefinedTypes
  obtain ⟨extension, hextension⟩ := h.fileExtension.exists_getD start.fileExtension
  obtain ⟨dir, hdir⟩ := h.outputDir.exists_getD start.outputDir
  obtain ⟨url, hurl⟩ := h.schemaUrl.exists_getD start.schemaUrl
  obtain ⟨timeout, htimeout⟩ := h.requestTimeout.exists_getD start.requestTimeout
  have houtput : ∃ mode validate atomic,
      ((member? "output" members).map partOf).getD (.ok start.settings.output) =
        .ok (.settings
          { mode := .mode mode, validate := .bool validate, atomic := .bool atomic }) := by
    cases hm : member? "output" members with
    | none => exact ⟨_, _, _, rfl⟩
    | some found =>
      obtain ⟨parts, rfl, hparts⟩ := h.output found hm
      obtain ⟨mode, validate, atomic, hread⟩ := hparts.read
      exact ⟨mode, validate, atomic, by simp [partOf, hread]⟩
  obtain ⟨mode, validate, atomic, houtput⟩ := houtput
  refine ⟨⟨prefixes, replaced, redefined, extension, dir, url, timeout, mode, validate, atomic⟩, ?_⟩
  unfold Settings.overlaid
  rw [houtput]
  simp only [TypedSettings.settings, hprefixes, hreplaced, hredefined, hextension, hdir, hurl,
    htimeout]
  rfl

end Settings

/-! ## Dumps -/

namespace TypedSettings

open Settings

variable (typed : TypedSettings)

/-- What a dump of the settings says. -/
def dump : Dump where
  namespacePrefixes := typed.namespacePrefixes.map fun (name, text) => (.string name, .string text)
  replacedTypes := typed.replacedTypes.map fun (name, text) => (.string name, .string text)
  redefinedTypes := typed.redefinedTypes.map fun (name, texts) =>
    (.string name, .array (texts.map .string))
  fileExtension := .string typed.fileExtension
  outputDir := .string typed.outputDir
  schemaUrl := .string typed.schemaUrl
  requestTimeout := .int typed.requestTimeout
  mode := typed.mode
  validate := .bool typed.validate
  atomic := .bool typed.atomic

/-- A table of texts is copied entry by entry, in its order. -/
theorem copyTable_textTable (table : List (String × String)) :
    copyTable (textTable table) =
      .ok (table.map fun (name, text) => (.string name, .string text)) := by
  simp [copyTable, textTable, Function.comp_def]

theorem copyLists_listTable (table : List (String × List String)) :
    copyLists (listTable table) =
      .ok (table.map fun (name, texts) => (.string name, .array (texts.map .string))) := by
  refine (mapM_ok (g := fun entry => (.string entry.1, entry.2)) fun entry he => ?_).trans ?_
  · obtain ⟨⟨name, texts⟩, _, rfl⟩ := List.mem_map.mp he
    rfl
  · rw [List.map_map]
    rfl

theorem settings_dump : typed.settings.dump = .ok typed.dump := by
  have hprefixes := copyTable_textTable typed.namespacePrefixes
  have hreplaced := copyTable_textTable typed.replacedTypes
  have hredefined := copyLists_listTable typed.redefinedTypes
  simp only [Settings.dump, settings, hprefixes, hreplaced, hredefined, bind, Except.bind]
  rfl

theorem tableObject_texts (table : List (String × String)) :
    tableObject (table.map fun (name, text) => (.string name, .string text)) = textTable table := by
  simp [tableObject, textTable, Function.comp_def, Json.string?]

theorem tableObject_lists (table : List (String × List String)) :
    tableObject (table.map fun (name, texts) => (.string name, .array (texts.map .string))) =
      listTable table := by
  simp [tableObject, listTable, Function.comp_def, Json.string?]

/-- The settings as members of the JSON form. -/
def members : List (String × Json) := [
  ("namespace_prefixes", textTable typed.namespacePrefixes),
  ("replaced_types", textTable typed.replacedTypes),
  ("redefined_types", listTable typed.redefinedTypes),
  ("file_extension", .string typed.fileExtension),
  ("output_dir", .string typed.outputDir),
  ("schema_url", .string typed.schemaUrl),
  ("request_timeout", .int typed.requestTimeout),
  ("output", .object [
    ("mode", .string typed.mode.name),
    ("validate_before_write", .bool typed.validate),
    ("atomic_write", .bool typed.atomic)])]

theorem members_names : typed.members.map Prod.fst = memberNames ++ ["output"] := rfl

theorem toJson_dump : typed.dump.toJson = .object typed.members := by
  simp only [Dump.toJson, dump, members, tableObject_texts, tableObject_lists]

theorem read_dump : read typed.dump.toJson = .ok typed.settings := by
  have hothers : ∀ name ∈ otherNames, member? name typed.members = none := by
    intro name hn
    apply member?_eq_none
    rw [members_names]
    exact (by decide : ∀ name ∈ otherNames, name ∉ memberNames ++ ["output"]) name hn
  rw [toJson_dump, read_object (by rw [members_names]; decide) hothers]
  simp [members, overlaid, member?, partOf, readOutput, OutputMode.ofName?_name, settings,
    Settings.standard, bind, Except.bind, pure, Except.pure]

end TypedSettings

namespace Settings

/-- Settings of the right types are read back from what their dump says, the prefixes in the same
order, so names have the same locations as before. Members of the right types, any of which may be
missing, are read as settings whose dump comes back as well; and whatever says the same in
another order, or beside members of other names, is read as the same settings. -/
theorem dumps_read_back :
    (∀ typed : TypedSettings, ∃ dump back, typed.settings.dump = .ok dump ∧
      read dump.toJson = .ok back ∧ back = typed.settings ∧
      back.namespacePrefixes = textTable typed.namespacePrefixes ∧
      ∀ name, ∃ found, typed.settings.naming.location name = .ok found ∧
        back.naming.location name = .ok found) ∧
    ∀ members : List (String × Json), (members.map Prod.fst).Nodup → TypedMembers members →
      (∃ settings dump back, read (.object members) = .ok settings ∧ settings.dump = .ok dump ∧
        read dump.toJson = .ok back ∧ back.dump = .ok dump) ∧
      (∀ others, members.Perm others → read (.object others) = read (.object members)) ∧
      ∀ others : List (String × Json), (others.map Prod.fst).Nodup → SaysSame members others →
        read (.object others) = read (.object members) := by
  constructor
  · intro typed
    refine ⟨typed.dump, typed.settings, typed.settings_dump, typed.read_dump, rfl, rfl, ?_⟩
    exact fun name => ⟨_, typed.location name, typed.location name⟩
  · intro members hd h
    have hsame : ∀ others : List (String × Json), (others.map Prod.fst).Nodup →
        SaysSame members others → read (.object others) = read (.object members) := by
      intro others ho hs
      have hothers : ∀ name ∈ otherNames, member? name others = none := fun name hn =>
        (hs.plain name (List.mem_append_right memberNames hn)).symm.trans (h.others name hn)
      rw [read_object hd h.others, read_object ho hothers, hs.overlaid_eq]
    refine ⟨?_, fun others hp => ?_, hsame⟩
    · obtain ⟨typed, htyped⟩ := h.overlaid .standard
      refine ⟨typed.settings, typed.dump, typed.settings, ?_, typed.settings_dump, typed.read_dump,
        typed.settings_dump⟩
      rw [read_object hd h.others, ← htyped, TypedSettings.settings_standard]
    · exact hsame others ((hp.map Prod.fst).nodup_iff.mp hd) (.of_perm hd hp)

/-- Part of the settings, beside a member of another name. -/
def someMembers : List (String × Json) := [
  ("output", .object [("mode", .string "error"), ("atomic_write", .bool false)]),
  ("namespace_prefixes", .object [("b.", .string ""), ("a.", .string "x.")]),
  ("colour", .int 3)]

/-- The same settings in another order, beside other members. -/
def turnedMembers : List (String × Json) := [
  ("namespace_prefixes", .object [("b.", .string ""), ("a.", .string "x.")]),
  ("size", .null),
  ("output", .object [("atomic_write", .bool false), ("depth", .int 1), ("mode", .string "error")])]

theorem someMembers_typed : TypedMembers someMembers where
  namespacePrefixes := .of_found (a := [("b.", ""), ("a.", "x.")]) rfl
  replacedTypes := .of_missing rfl
  redefinedTypes := .of_missing rfl
  fileExtension := .of_missing rfl
  outputDir := .of_missing rfl
  schemaUrl := .of_missing rfl
  requestTimeout := .of_missing rfl
  output := by
    intro found hf
    cases Option.some.inj hf
    exact ⟨_, rfl, .of_found (a := OutputMode.errorIfExists) rfl, .of_missing rfl,
      .of_found (a := false) rfl⟩
  others := by decide

theorem someMembers_saysSame : SaysSame someMembers turnedMembers :=
  ⟨by decide, .some (.object (by decide))⟩

theorem dumps_read_back_of_some :
    (someMembers.map Prod.fst).Nodup ∧ TypedMembers someMembers ∧
      SaysSame someMembers turnedMembers ∧
      ∃ settings dump back, read (.object someMembers) = .ok settings ∧
        read (.object turnedMembers) = .ok settings ∧
        read (.object someMembers.reverse) = .ok settings ∧ settings.dump = .ok dump ∧
        read dump.toJson = .ok back ∧ back.dump = .ok dump := by
  have hd : (someMembers.map Prod.fst).Nodup := by decide
  obtain ⟨⟨settings, dump, back, hread, hdump, hback, hagain⟩, hperm, hsame⟩ :=
    dumps_read_back.2 someMembers hd someMembers_typed
  refine ⟨hd, someMembers_typed, someMembers_saysSame, settings, dump, back, hread, ?_, ?_, hdump,
    hback, hagain⟩
  · rw [hsame turnedMembers (by decide) someMembers_saysSame, hread]
  · rw [hperm someMembers.reverse someMembers.reverse_perm.symm, hread]

end Settings

end ApiTypings
