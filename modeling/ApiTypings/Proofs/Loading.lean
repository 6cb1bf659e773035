import Mathlib
import ApiTypings.Loading
import ApiTypings.Proofs.Batches
import ApiTypings.Proofs.Unread

/-!
# Documents that cannot be had

Loading a document ends with the document, or with an error that has been noted in the log. There
are a few ways around that: a file whose name is too long to be looked for, or which is no text,
or in which an integer is too long, and an address that cannot be taken apart.
-/

namespace ApiTypings

open Text

namespace Text

theorem ofOctets?_eq_some {octets : ByteArray} {text : String} :
    ofOctets? octets = some text ↔ toOctets text = octets := by
  unfold ofOctets? toOctets String.fromUTF8?
  constructor
  · intro h
    split at h
    · cases h
      rfl
    · cases h
  · rintro rfl
    rw [String.toUTF8_eq_toByteArray, dif_pos text.isValidUTF8]
    rfl

theorem toOctets_inj {a b : String} (h : toOctets a = toOctets b) : a = b := by
  have hsame := ofOctets?_eq_some.mpr h
  rw [ofOctets?_eq_some.mpr rfl] at hsame
  exact (Option.some.inj hsame).symm

variable {run cs : List Char}

theorem prefix_of_unified (hline : '\n' ∉ run) (h : run <+: unifyLineEnds cs) : run <+: cs := by
  fun_induction unifyLineEnds cs generalizing run with
  | case1 | case2 =>
    cases run with
    | nil => exact List.nil_prefix
    | cons c run =>
      obtain ⟨rfl, _⟩ := List.cons_prefix_cons.mp h
      exact absurd (List.mem_cons_self ..) hline
  | case3 c rest _ _ ih =>
    cases run with
    | nil => exact List.nil_prefix
    | cons d run =>
      obtain ⟨rfl, hrun⟩ := List.cons_prefix_cons.mp h
      exact List.cons_prefix_cons.mpr ⟨rfl, ih (fun hm => hline (List.mem_cons_of_mem _ hm)) hrun⟩
  | case4 => exact h

theorem exists_of_suffix_unified {rest : List Char} (h : rest <:+ unifyLineEnds cs) :
    ∃ more, more <:+ cs ∧ rest = unifyLineEnds more := by
  fun_induction unifyLineEnds cs with
  | case1 more ih =>
    rcases List.suffix_cons_iff.mp h with rfl | h
    · exact ⟨_, List.suffix_rfl, by rw [unifyLineEnds]⟩
    · obtain ⟨found, hf, rfl⟩ := ih h
      exact ⟨found, hf.trans (Json.suffix_escape ..), rfl⟩
  | case2 more hne ih =>
    rcases List.suffix_cons_iff.mp h with rfl | h
    · refine ⟨_, List.suffix_rfl, ?_⟩
      rw [unifyLineEnds]
      exact hne
    · obtain ⟨found, hf, rfl⟩ := ih h
      exact ⟨found, hf.trans (List.suffix_cons ..), rfl⟩
  | case3 c more hpair hreturn ih =>
    rcases List.suffix_cons_iff.mp h with rfl | h
    · refine ⟨_, List.suffix_rfl, ?_⟩
      rw [unifyLineEnds]
      · exact hpair
      · exact hreturn
    · obtain ⟨found, hf, rfl⟩ := ih h
      exact ⟨found, hf.trans (List.suffix_cons ..), rfl⟩
  | case4 => exact ⟨[], List.suffix_rfl, List.suffix_nil.mp h⟩

/-- Within a line, what is read is what stands in the file. -/
theorem infix_of_unified (hline : '\n' ∉ run) (h : run <:+: unifyLineEnds cs) : run <:+: cs := by
  obtain ⟨rest, hrun, hrest⟩ := List.infix_iff_prefix_suffix.mp h
  obtain ⟨more, hmore, rfl⟩ := exists_of_suffix_unified hrest
  exact (prefix_of_unified hline hrun).isInfix.trans hmore.isInfix

end Text

namespace FileTree

variable {t : FileTree} {names : List String}

/-- None of the names is too long, nor is the path of them all. -/
structure Fitting (names : List String) : Prop where
  short : ∀ name ∈ names, Text.octets name ≤ longestName
  total : names.foldl (fun length name => length + Text.octets name + 1) 0 ≤ longestPath

theorem walk_of_short {here : Position} (h : ∀ name ∈ names, Text.octets name ≤ longestName) :
    t.walk here names ≠ .error .nameTooLong := by
  induction names generalizing here with
  | nil => nofun
  | cons name rest ih =>
    rw [List.forall_mem_cons] at h
    intro hwalk
    rcases bind_error hwalk with hs | ⟨next, _, hrest⟩
    · unfold step at hs
      split at hs
      · cases hs
      · cases hs
      · split at hs
        · cases hs
        · rw [if_neg (Nat.not_lt.mpr h.1)] at hs
          split at hs <;> cases hs
    · exact ih h.2 hrest

/-- Whether something is there can be found out, if the names fit. -/
theorem Fitting.stat (h : Fitting names) : t.stat names ≠ .error .nameTooLong := by
  have hcheck : checkNames names ≠ .error .nameTooLong := by
    unfold checkNames
    rw [if_neg (Nat.not_lt.mpr h.total)]
    split <;> nofun
  intro hstat
  rcases bind_error hstat with hc | ⟨_, _, hstat⟩
  · exact hcheck hc
  · rcases bind_error hstat with hw | ⟨p, _, hnode⟩
    · exact walk_of_short h.short hw
    · split at hnode <;> cases hnode

end FileTree

/-! ## Loading -/

/-- The log has grown, and what was noted last is an error. -/
def Reported (w t : World) : Prop :=
  ∃ notes record, t.log = w.log ++ notes ++ [⟨.error, record⟩]

/-- Loading ends with such a document, or with an error that has been reported. -/
def Foreseen (document : Json → Prop) (w : World) (ended : Except Failure Json × World) : Prop :=
  (∃ found, ended.1 = .ok found ∧ document found) ∨
    ∃ error, ended.1 = .error (.load error) ∧ Reported w ended.2

/-- What a step of loading comes to: a document or a report, if nothing breaks it off. -/
def Settles (document : Json → Prop) (breaks : Fault → Prop) (w : World) (step : Action Json) :
    Prop :=
  Task.Ends step w (fun found _ => document found ∧ ∀ fault, ¬ breaks fault)
    fun e t => (∃ error, e = .load error ∧ Reported w t ∧ ∀ fault, ¬ breaks fault) ∨
      ∃ fault, e = .fault fault ∧ breaks fault

theorem Settles.foreseen {document : Json → Prop} {breaks : Fault → Prop} {w : World}
    {step : Action Json} (h : Settles document breaks w step)
    (hunique : ∀ fault fault', breaks fault → breaks fault' → fault = fault') :
    (Foreseen document w (step.outcome w) ↔ ∀ fault, ¬ breaks fault) ∧
      ∀ fault, (step.outcome w).1 = .error (.fault fault) ↔ breaks fault := by
  unfold Foreseen
  rcases ho : step.outcome w with ⟨e | found, t⟩
  · rcases h.2 e t ho with ⟨error, rfl, hreported, hnone⟩ | ⟨fault, rfl, hbreaks⟩
    · refine ⟨iff_of_true (.inr ⟨error, rfl, hreported⟩) hnone, fun fault => ?_⟩
      exact iff_of_false nofun (hnone fault)
    · refine ⟨iff_of_false ?_ fun hnone => hnone fault hbreaks, fun fault' => ?_⟩
      · rintro (⟨_, he, _⟩ | ⟨_, he, _⟩) <;> cases he
      · constructor
        · rintro ⟨⟩
          exact hbreaks
        · intro hbreaks'
          rw [hunique fault fault' hbreaks hbreaks']
  · obtain ⟨hfound, hnone⟩ := h.1 found t ho
    refine ⟨iff_of_true (.inl ⟨found, rfl, hfound⟩) hnone, fun fault => ?_⟩
    exact iff_of_false nofun (hnone fault)

/-- The log has grown, and nothing else is different. -/
structure Grown (w t : World) : Prop where
  home : t.home = w.home
  tree : t.tree = w.tree
  requests : t.requests = w.requests
  log : ∃ notes, t.log = w.log ++ notes

theorem report_grows {w : World} {level : Level} {text : String} {bad : Failure → World → Prop} :
    Task.Ends (report level text) w (fun _ t => Grown w t) bad :=
  .modify ⟨rfl, rfl, rfl, _, rfl⟩

theorem failLoading_ends {w t : World} {notes : Log} (hlog : t.log = w.log ++ notes)
    {record : String} {error : LoadError} {good : Json → World → Prop}
    {bad : Failure → World → Prop}
    (h : ∀ u, u.requests = t.requests → Reported w u → bad (.load error) u) :
    Task.Ends (failLoading record error) t good bad := by
  refine Task.Ends.modify_bind (.throw (h _ rfl ⟨notes, record, ?_⟩))
  rw [hlog]

/-- What a file holds as it is read, the ends of its lines being line feeds. -/
def linesOf (text : String) : String := String.ofList (unifyLineEnds text.toList)

theorem textOfFile_octets (text : String) : textOfFile (toOctets text) = .ok (linesOf text) := by
  unfold textOfFile
  rw [ofOctets?_eq_some.mpr rfl]
  rfl

theorem textOfFile_of_ne {content : ByteArray} (h : ∀ text, toOctets text ≠ content) :
    textOfFile content = .error .notText := by
  unfold textOfFile
  cases ht : ofOctets? content with
  | none => rfl
  | some text => exact absurd (ofOctets?_eq_some.mp ht) (h text)

section File

variable {w : World} {path : Path} {fault : Fault} {text : String}

/-- The file is a text, and this is the document that stands in it. -/
def Holds (w : World) (path : Path) (document : Json) : Prop :=
  ∃ text, w.tree.readFile (w.trail path) = .ok (toOctets text) ∧
    Json.parse (linesOf text) = .ok document

/-- What a file is like that loading it breaks off at. -/
inductive Baffles (w : World) (path : Path) : Fault → Prop
  /-- It cannot be found out whether there is one. -/
  | name (h : w.tree.stat (w.trail path) = .error .nameTooLong) : Baffles w path (.file .nameTooLong)
  /-- It is no text. -/
  | octets {content : ByteArray} (hr : w.tree.readFile (w.trail path) = .ok content)
    (h : ∀ text, toOctets text ≠ content) : Baffles w path .notText
  /-- There is an integer in it that is too long. -/
  | integer {text : String} {digits : Nat}
    (hr : w.tree.readFile (w.trail path) = .ok (toOctets text))
    (h : Json.parse (linesOf text) = .error (.integerTooLong digits)) : Baffles w path .illValued

theorem readFile_of_stat_error {refusal : FileFault}
    (h : w.tree.stat (w.trail path) = .error refusal) :
    w.tree.readFile (w.trail path) = .error refusal := by
  unfold FileTree.readFile
  rw [h]
  rfl

theorem Baffles.of_error {refusal : FileFault} (h : Baffles w path fault)
    (hr : w.tree.readFile (w.trail path) = .error refusal) :
    w.tree.stat (w.trail path) = .error .nameTooLong := by
  cases h with
  | name h => exact h
  | octets hr' => cases hr.symm.trans hr'
  | integer hr' => cases hr.symm.trans hr'

theorem Baffles.of_text (h : Baffles w path fault)
    (hr : w.tree.readFile (w.trail path) = .ok (toOctets text)) :
    ∃ digits, Json.parse (linesOf text) = .error (.integerTooLong digits) := by
  cases h with
  | name h => cases hr.symm.trans (readFile_of_stat_error h)
  | octets hr' h => exact absurd (Except.ok.inj (hr.symm.trans hr')) (h text)
  | @integer other digits hr' h =>
    rw [toOctets_inj (Except.ok.inj (hr.symm.trans hr'))]
    exact ⟨digits, h⟩

/-- Looking for the file fails only for its name. -/
theorem present_ends {t : World} : Task.Ends (ofFileSystem (w.tree.present (w.trail path))) t
    (fun there u => u = t ∧ if there then ∃ node, w.tree.stat (w.trail path) = .ok node
      else ∃ refusal, w.tree.stat (w.trail path) = .error refusal ∧ refusal ≠ .nameTooLong)
    fun e _ => ∃ fault, e = .fault fault ∧ Baffles w path fault := by
  unfold FileTree.present
  split
  · rename_i node hstat
    exact .pure ⟨rfl, node, hstat⟩
  · rename_i hstat
    exact .throw ⟨_, rfl, .name hstat⟩
  · rename_i refusal hne hstat
    exact .pure ⟨rfl, refusal, hstat, hne⟩

theorem Baffles.unique {fault' : Fault} (h : Baffles w path fault) (h' : Baffles w path fault') :
    fault = fault' := by
  cases h with
  | name hstat =>
    cases h' with
    | name => rfl
    | octets hr => cases (readFile_of_stat_error hstat).symm.trans hr
    | integer hr => cases (readFile_of_stat_error hstat).symm.trans hr
  | octets hr hnone =>
    cases h' with
    | name hstat => cases (readFile_of_stat_error hstat).symm.trans hr
    | octets => rfl
    | integer hr' => exact absurd (Except.ok.inj (hr'.symm.trans hr)) (hnone _)
  | integer hr =>
    cases h' with
    | name hstat => cases (readFile_of_stat_error hstat).symm.trans hr
    | octets hr' hnone => exact absurd (Except.ok.inj (hr.symm.trans hr')) (hnone _)
    | integer => rfl

/-- What is read of a text is the document in it or a mistake, unless an integer is too long. -/
theorem parse_cases (hr : w.tree.readFile (w.trail path) = .ok (toOctets text)) :
    (∃ document, parseDocument (linesOf text) = .ok document ∧ Holds w path document ∧
        ∀ fault, ¬ Baffles w path fault) ∨
      (∃ mistake, parseDocument (linesOf text) = .error (.inl mistake) ∧
        ∀ fault, ¬ Baffles w path fault) ∨
      (parseDocument (linesOf text) = .error (.inr .illValued) ∧ Baffles w path .illValued) := by
  unfold parseDocument
  cases hp : Json.parse (linesOf text) with
  | ok document =>
    refine .inl ⟨document, rfl, ⟨text, hr, hp⟩, fun fault hb => ?_⟩
    obtain ⟨digits, h⟩ := hb.of_text hr
    cases hp.symm.trans h
  | error mistake =>
    cases mistake with
    | malformed problem unread =>
      refine .inr (.inl ⟨_, rfl, fun fault hb => ?_⟩)
      obtain ⟨digits, h⟩ := hb.of_text hr
      cases hp.symm.trans h
    | integerTooLong digits => exact .inr (.inr ⟨rfl, .integer hr hp⟩)

/-- Loading a file ends as foreseen if nothing about it baffles, and breaks off otherwise. -/
theorem loadFile_settles : Settles (Holds w path) (Baffles w path) w (loadFile path) := by
  unfold loadFile
  refine report_grows.bind ?_
  intro _ t hgrown
  obtain ⟨notes, hlog⟩ := hgrown.log
  refine .get ?_
  rw [hgrown.tree, trail_congr hgrown.home]
  refine Task.Ends.bind (present_ends.imp (fun _ _ h => h) fun _ _ h => .inr h) ?_
  rintro there _ ⟨rfl, hthere⟩
  cases there with
  | false =>
    obtain ⟨refusal, hstat, hne⟩ := hthere
    refine failLoading_ends hlog fun u _ hreported => .inl ⟨_, rfl, hreported, fun fault hb => ?_⟩
    have hlong := hb.of_error (readFile_of_stat_error hstat)
    rw [hstat] at hlong
    cases hlong
    exact hne rfl
  | true =>
    obtain ⟨node, hstat⟩ := hthere
    cases hr : w.tree.readFile (w.trail path) with
    | error refusal =>
      refine failLoading_ends hlog fun u _ hreported => .inl ⟨_, rfl, hreported, fun fault hb => ?_⟩
      cases hstat.symm.trans (hb.of_error hr)
    | ok content =>
      -- it was opened, so what is left to break it off is in it
      by_cases htext : ∃ text, toOctets text = content
      · obtain ⟨text, rfl⟩ := htext
        dsimp only
        rw [textOfFile_octets]
        dsimp only
        rcases parse_cases hr with ⟨_, hp, hends⟩ | ⟨_, hp, hnone⟩ | ⟨hp, hbaffles⟩
        · rw [hp]
          exact .pure hends
        · rw [hp]
          exact failLoading_ends hlog fun u _ hreported => .inl ⟨_, rfl, hreported, hnone⟩
        · rw [hp]
          exact .throw (.inr ⟨_, rfl, hbaffles⟩)
      · dsimp only
        rw [textOfFile_of_ne (not_exists.mp htext)]
        exact .throw (.inr ⟨_, rfl, .octets hr (not_exists.mp htext)⟩)

/-- A file with a name that fits, which is a text without long runs of digits, does not baffle. -/
theorem not_baffles (hnames : FileTree.Fitting (w.trail path))
    (hcontent : ∀ content, w.tree.readFile (w.trail path) = .ok content →
      ∃ text, toOctets text = content ∧ ∀ digits, ¬ Json.LongRun text.toList digits) :
    ¬ Baffles w path fault := by
  intro hb
  cases hb with
  | name h => exact hnames.stat h
  | octets hr h =>
    obtain ⟨text, ht, _⟩ := hcontent _ hr
    exact h text ht
  | @integer text digits hr h =>
    obtain ⟨other, ho, hshort⟩ := hcontent _ hr
    obtain rfl := toOctets_inj ho
    obtain ⟨hlong, run, hrun, hdigits, hlength⟩ := Json.longRun_of_parse h
    rw [linesOf, String.toList_ofList] at hrun
    have hline : '\n' ∉ run := by
      intro hm
      have hdigit := hdigits _ hm
      revert hdigit
      decide
    exact hshort digits ⟨hlong, run, infix_of_unified hline hrun, hdigits, hlength⟩

/-- Loading a file breaks off for three reasons only, and ends in a foreseen way otherwise: with the
document in it, or with an error that has been reported. -/
theorem loadFile_foreseen (w : World) (path : Path) :
    (Foreseen (Holds w path) w ((loadFile path).outcome w) ↔ ∀ fault, ¬ Baffles w path fault) ∧
      (∀ fault, ((loadFile path).outcome w).1 = .error (.fault fault) ↔ Baffles w path fault) ∧
      (FileTree.Fitting (w.trail path) →
        (∀ content, w.tree.readFile (w.trail path) = .ok content →
          ∃ text, toOctets text = content ∧ ∀ digits, ¬ Json.LongRun text.toList digits) →
        Foreseen (Holds w path) w ((loadFile path).outcome w)) := by
  have hsettles : Settles (Holds w path) (Baffles w path) w (loadFile path) := loadFile_settles
  obtain ⟨hforeseen, hfault⟩ := hsettles.foreseen fun _ _ h h' => h.unique h'
  refine ⟨hforeseen, hfault, fun hnames hcontent => ?_⟩
  exact hforeseen.mpr fun fault => not_baffles hnames hcontent

/-- A world with one document in it. -/
def leaflet : World where
  home := []
  tree := ⟨[(["a"], .file (toOctets "{}"))]⟩

theorem leaflet_read : leaflet.tree.readFile (leaflet.trail (Path.ofString "a")) =
    .ok (toOctets "{}") := by
  rfl

theorem leaflet_fitting : FileTree.Fitting (leaflet.trail (Path.ofString "a")) := by
  constructor <;> decide

theorem leaflet_plain : ∀ content,
    leaflet.tree.readFile (leaflet.trail (Path.ofString "a")) = .ok content →
      ∃ text, toOctets text = content ∧ ∀ digits, ¬ Json.LongRun text.toList digits := by
  intro content hr
  cases leaflet_read.symm.trans hr
  refine ⟨"{}", rfl, ?_⟩
  rintro digits ⟨hlong, run, hrun, _, hlength⟩
  have hle := hrun.length_le
  rw [hlength] at hle
  have htwo : "{}".toList.length = 2 := rfl
  unfold Json.longestInteger at hlong
  omega

theorem loadFile_foreseen_of_leaflet :
    FileTree.Fitting (leaflet.trail (Path.ofString "a")) ∧
      leaflet.tree.readFile (leaflet.trail (Path.ofString "a")) = .ok (toOctets "{}") ∧
      Foreseen (Holds leaflet (Path.ofString "a")) leaflet
        ((loadFile (Path.ofString "a")).outcome leaflet) :=
  ⟨leaflet_fitting, leaflet_read,
    (loadFile_foreseen leaflet (Path.ofString "a")).2.2 leaflet_fitting leaflet_plain⟩

/-- A world with a file that is no text. -/
def garbled : World where
  home := []
  tree := ⟨[(["a"], .file ⟨#[0xFF]⟩)]⟩

/-- The file is there, and that it is no text is not reported. -/
theorem garbled_not_foreseen : ¬ Foreseen (Holds garbled (Path.ofString "a")) garbled
    ((loadFile (Path.ofString "a")).outcome garbled) := by
  have hfault : (loadFile (Path.ofString "a")).outcome garbled =
      (.error (.fault .notText), { garbled with
        log := [⟨.debug, "Loading schema from file: a"⟩] }) := by
    cbv
  rw [hfault]
  rintro (⟨_, h, _⟩ | ⟨_, h, _⟩) <;> cases h

end File

/-! ## Addresses -/

namespace Url

variable {cs : List Char} {url : String}

theorem splitScheme_subset (cs : List Char) : (splitScheme cs).2 ⊆ cs := by
  unfold splitScheme
  dsimp only
  split
  · rename_i c _ d rest _ hrest
    split
    · intro x hx
      exact (List.dropWhile_suffix _).subset (hrest ▸ List.mem_cons_of_mem d hx)
    · exact List.Subset.refl _
  · exact List.Subset.refl _

theorem authority_subset (cs : List Char) : authority cs ⊆ cs := by
  unfold authority
  split
  · intro c hc
    exact List.mem_cons_of_mem _ (List.mem_cons_of_mem _ ((List.takeWhile_prefix _).subset hc))
  · exact List.nil_subset _

/-- An address can be taken apart if there are no brackets in it, and no characters that stand for
a delimiter. -/
theorem judge_ne_malformed (hbrackets : '[' ∉ url.toList ∧ ']' ∉ url.toList)
    (hforms : formsOk url.toList = true) : judge url ≠ .malformed := by
  have hsubset : authority
      (splitScheme ((url.toList.dropWhile isLeading).filter (!isIgnored ·))).2 ⊆ url.toList := by
    intro c hc
    have hfilter := splitScheme_subset _ (authority_subset _ hc)
    exact (List.dropWhile_suffix _).subset (List.mem_of_mem_filter hfilter)
  unfold judge
  dsimp only
  generalize authority _ = host at hsubset ⊢
  have hopen : host.contains '[' = false := by
    simpa using fun hm => hbrackets.1 (hsubset hm)
  have hclose : host.contains ']' = false := by
    simpa using fun hm => hbrackets.2 (hsubset hm)
  have hok : bracketsOk host = true := by
    unfold bracketsOk
    rw [hopen, hclose]
  have hform : formsOk host = true := by
    unfold formsOk at hforms ⊢
    rw [List.all_eq_true] at hforms ⊢
    exact fun c hc => hforms c (hsubset hc)
  rw [hok, hform]
  simp only [Bool.not_true, Bool.or_self, Bool.false_eq_true, if_false]
  split <;> nofun

end Url

section Address

variable {w : World} {network : Network} {url text : String} {status timeout : Json} {fault : Fault}

/-- The network answers, with this status and this text. -/
inductive Replies (network : Network) : Json → String → Prop
  | answered {status : Json} {body : ByteArray} (h : network.outcome = .answered status body) :
    Replies network status (network.textOf body)
  | declared {status : Json} {text : String} (h : network.outcome = .declared status text) :
    Replies network status text

/-- The network answers with this document, and does not refuse it. -/
def Answers (network : Network) (document : Json) : Prop :=
  ∃ status text, Replies network status text ∧ isRefusal status = .ok false ∧
    Json.parse text = .ok document

/-- What the network can do that no error is foreseen for. -/
inductive Untold : HttpOutcome → Fault → Prop
  /-- It fails for what an answer says, though there is none. -/
  | answer (reason : String) : Untold (.failed .answer reason) .noMember
  /-- It fails in a way that no request does. -/
  | faulty (fault : Fault) : Untold (.faulty fault) fault
  /-- Its answer has a status that is no number. -/
  | status {status : Json} (body : ByteArray) (h : status.number? = none) :
    Untold (.answered status body) .mismatch
  | declaredStatus {status : Json} (text : String) (h : status.number? = none) :
    Untold (.declared status text) .mismatch

/-- What loading from an address breaks off at. -/
inductive Confounds (network : Network) (url : String) : Fault → Prop
  /-- The address cannot be taken apart. -/
  | address (h : Url.judge url = .malformed) : Confounds network url .illValued
  | network {fault : Fault} (hc : Url.judge url = .complete) (h : Untold network.outcome fault) :
    Confounds network url fault

theorem Untold.unique {outcome : HttpOutcome} {fault' : Fault} (h : Untold outcome fault)
    (h' : Untold outcome fault') : fault = fault' := by
  cases h <;> cases h' <;> rfl

theorem Confounds.unique {fault' : Fault} (h : Confounds network url fault)
    (h' : Confounds network url fault') : fault = fault' := by
  cases h with
  | address hj =>
    cases h' with
    | address => rfl
    | network hc => cases hj.symm.trans hc
  | network hc hu =>
    cases h' with
    | address hj => cases hj.symm.trans hc
    | network _ hu' => exact hu.unique hu'

theorem confounds_complete (hj : Url.judge url = .complete) :
    Confounds network url fault ↔ Untold network.outcome fault := by
  constructor
  · intro h
    cases h with
    | address hj' => cases hj.symm.trans hj'
    | network _ hu => exact hu
  · exact .network hj

theorem not_confounds_incomplete (hj : Url.judge url = .incomplete) :
    ¬ Confounds network url fault := by
  intro h
  cases h with
  | address hj' => cases hj.symm.trans hj'
  | network hc => cases hj.symm.trans hc

theorem before?_int (status : Json) (n : Int) :
    Json.before? status (.int n) = none ↔ status.number? = none := by
  cases status <;> simp [Json.before?, Json.number?]

/-- Whether an answer is a refusal is only said of a status that is a number. -/
theorem number_of_isRefusal {status : Json} {refused : Bool} (h : isRefusal status = .ok refused) :
    status.number? ≠ none := by
  intro hnone
  unfold isRefusal at h
  rw [(before?_int status 400).mpr hnone] at h
  cases h

theorem no_number_of_isRefusal {status : Json} {e : Failure} (h : isRefusal status = .error e) :
    e = .fault .mismatch ∧ status.number? = none := by
  unfold isRefusal at h
  split at h
  · cases h
  · rename_i hmissing
    cases h
    refine ⟨rfl, ?_⟩
    by_contra hnumber
    obtain ⟨low, hlow⟩ := Option.ne_none_iff_exists'.mp (mt (before?_int status 400).mp hnumber)
    obtain ⟨high, hhigh⟩ := Option.ne_none_iff_exists'.mp (mt (before?_int status 600).mp hnumber)
    exact hmissing low high hlow hhigh

/-- The requests that an address is worth. -/
def requestsFor (url : String) (timeout : Json) : List Request :=
  if Url.judge url = .complete then [⟨url, timeout⟩] else []

theorem Replies.untold_iff (h : Replies network status text) :
    Untold network.outcome fault ↔ fault = .mismatch ∧ status.number? = none := by
  constructor
  · intro hu
    cases h with
    | answered ho =>
      rw [ho] at hu
      cases hu with
      | status _ hnone => exact ⟨rfl, hnone⟩
    | declared ho =>
      rw [ho] at hu
      cases hu with
      | declaredStatus _ hnone => exact ⟨rfl, hnone⟩
  · rintro ⟨rfl, hnone⟩
    cases h with
    | answered ho =>
      rw [ho]
      exact .status _ hnone
    | declared ho =>
      rw [ho]
      exact .declaredStatus _ hnone

/-- The text of an answer is the document, or what is wrong with it is reported. -/
theorem readBody_ends {t : World} {notes : Log} (hlog : t.log = w.log ++ notes) :
    Task.Ends (readBody url text) t
      (fun document u => Json.parse text = .ok document ∧ u.requests = t.requests)
      fun e u => (∃ error, e = .load error ∧ Reported w u) ∧ u.requests = t.requests := by
  unfold readBody
  cases hp : Json.parse text with
  | ok document => exact .pure ⟨rfl, rfl⟩
  | error mistake => exact failLoading_ends hlog fun u hu hreported => ⟨⟨_, rfl, hreported⟩, hu⟩

/-- An answer is the document or a reported error, unless its status is no number. -/
theorem Replies.ends {t : World} {notes : Log} (h : Replies network status text)
    (hlog : t.log = w.log ++ notes) :
    Task.Ends (readAnswer url status text) t
      (fun document u => (Answers network document ∧ ∀ fault, ¬ Untold network.outcome fault) ∧
        u.requests = t.requests)
      fun e u => ((∃ error, e = .load error ∧ Reported w u ∧
          ∀ fault, ¬ Untold network.outcome fault) ∨
        ∃ fault, e = .fault fault ∧ Untold network.outcome fault) ∧ u.requests = t.requests := by
  refine Task.Ends.ofExcept_bind ?_ ?_
  · intro refused hrefusal
    have htold : ∀ fault, ¬ Untold network.outcome fault := fun _ hu =>
      number_of_isRefusal hrefusal (h.untold_iff.mp hu).2
    cases refused with
    | true =>
      exact failLoading_ends hlog fun u hu hreported => ⟨.inl ⟨_, rfl, hreported, htold⟩, hu⟩
    | false =>
      refine (readBody_ends hlog).imp ?_ ?_
      · intro document u hread
        exact ⟨⟨⟨status, text, h, hrefusal, hread.1⟩, htold⟩, hread.2⟩
      · intro e u hfailed
        obtain ⟨⟨error, he, hreported⟩, hu⟩ := hfailed
        exact ⟨.inl ⟨error, he, hreported, htold⟩, hu⟩
  · intro e hrefusal
    obtain ⟨rfl, hnone⟩ := no_number_of_isRefusal hrefusal
    exact ⟨.inr ⟨_, rfl, h.untold_iff.mpr ⟨rfl, hnone⟩⟩, rfl⟩

/-- A complete address is asked for once, and then it is the network that decides. -/
theorem loadUrl_complete (hj : Url.judge url = .complete) :
    Task.Ends (loadUrl network url timeout) w
      (fun document t => (Answers network document ∧ ∀ fault, ¬ Untold network.outcome fault) ∧
        t.requests = w.requests ++ [⟨url, timeout⟩])
      fun e t => ((∃ error, e = .load error ∧ Reported w t ∧
          ∀ fault, ¬ Untold network.outcome fault) ∨
        ∃ fault, e = .fault fault ∧ Untold network.outcome fault) ∧
          t.requests = w.requests ++ [⟨url, timeout⟩] := by
  unfold loadUrl
  refine report_grows.bind ?_
  intro _ t hgrown
  obtain ⟨notes, hlog⟩ := hgrown.log
  rw [hj, ← hgrown.requests]
  refine Task.Ends.modify_bind ?_
  -- the request is made before anything is known of the answer, so it counts at either end
  generalize hasked : ({ t with requests := t.requests ++ [⟨url, timeout⟩] } : World) = asked
  have hcount : asked.requests = t.requests ++ [⟨url, timeout⟩] := by rw [← hasked]
  replace hlog : asked.log = w.log ++ notes := by rw [← hasked, hlog]
  rw [← hcount]
  obtain ⟨outcome, textOf⟩ := network
  cases outcome with
  | answered status body => exact Replies.ends (.answered rfl) hlog
  | declared status text => exact Replies.ends (.declared rfl) hlog
  | faulty fault => exact .throw ⟨.inr ⟨_, rfl, .faulty fault⟩, rfl⟩
  | failed failure reason =>
    cases failure with
    | answer => exact .throw ⟨.inr ⟨_, rfl, .answer reason⟩, rfl⟩
    | _ => exact failLoading_ends hlog fun u hu hreported => ⟨.inl ⟨_, rfl, hreported, nofun⟩, hu⟩

/-- Loading from an address ends as foreseen if nothing confounds it, and breaks off otherwise; the
network is asked at most once, and only for an address that is complete. -/
theorem loadUrl_ends : Task.Ends (loadUrl network url timeout) w
    (fun document t => (Answers network document ∧ ∀ fault, ¬ Confounds network url fault) ∧
      t.requests = w.requests ++ requestsFor url timeout)
    fun e t => ((∃ error, e = .load error ∧ Reported w t ∧ ∀ fault, ¬ Confounds network url fault) ∨
      ∃ fault, e = .fault fault ∧ Confounds network url fault) ∧
        t.requests = w.requests ++ requestsFor url timeout := by
  unfold requestsFor
  by_cases hc : Url.judge url = .complete
  · simp only [if_pos hc, confounds_complete hc]
    exact loadUrl_complete hc
  rw [if_neg hc, List.append_nil]
  unfold loadUrl
  refine report_grows.bind ?_
  intro _ t hgrown
  obtain ⟨notes, hlog⟩ := hgrown.log
  cases hj : Url.judge url with
  | malformed => exact .throw ⟨.inr ⟨_, rfl, .address hj⟩, hgrown.requests⟩
  | incomplete =>
    refine failLoading_ends hlog fun u hu hreported => ?_
    exact ⟨.inl ⟨_, rfl, hreported, fun _ => not_confounds_incomplete hj⟩, hu.trans hgrown.requests⟩
  | complete => exact absurd hj hc

theorem loadUrl_settles : Settles (Answers network) (Confounds network url) w
    (loadUrl network url timeout) :=
  loadUrl_ends.imp (fun _ _ h => h.1) fun _ _ h => h.1

/-- Loading from an address breaks off if it cannot be taken apart, or if the network does what no
error is foreseen for; otherwise it ends in a foreseen way. The network is asked once if the
address is complete, and else never. -/
theorem loadUrl_foreseen (network : Network) (url : String) (timeout : Json) (w : World) :
    (Foreseen (Answers network) w ((loadUrl network url timeout).outcome w) ↔
        ∀ fault, ¬ Confounds network url fault) ∧
      (∀ fault, ((loadUrl network url timeout).outcome w).1 = .error (.fault fault) ↔
        Confounds network url fault) ∧
      ((loadUrl network url timeout).outcome w).2.requests =
        w.requests ++ requestsFor url timeout ∧
      ('[' ∉ url.toList → ']' ∉ url.toList →
        Url.formsOk url.toList = true → (∀ fault, ¬ Untold network.outcome fault) →
        Foreseen (Answers network) w ((loadUrl network url timeout).outcome w)) := by
  have hsettles : Settles (Answers network) (Confounds network url) w
    (loadUrl network url timeout) := loadUrl_settles
  obtain ⟨hforeseen, hfault⟩ := hsettles.foreseen fun _ _ h h' => h.unique h'
  refine ⟨hforeseen, hfault, ?_, fun hopen hclose hforms htold => ?_⟩
  · rcases ho : (loadUrl network url timeout).outcome w with ⟨e | found, t⟩
    · exact (loadUrl_ends.2 e t ho).2
    · exact (loadUrl_ends.1 found t ho).2
  · refine hforeseen.mpr fun fault h => ?_
    cases h with
    | address hj => exact Url.judge_ne_malformed ⟨hopen, hclose⟩ hforms hj
    | network _ hu => exact htold _ hu

/-- A network that does not answer in time. -/
def silent : Network := ⟨.failed .timeout "", fun _ => ""⟩

theorem loadUrl_foreseen_of_timeout :
    (∀ fault, ¬ Untold silent.outcome fault) ∧
      Foreseen (Answers silent) leaflet ((loadUrl silent "http://h" .null).outcome leaflet) := by
  have htold : ∀ fault, ¬ Untold silent.outcome fault := nofun
  exact ⟨htold, (loadUrl_foreseen silent "http://h" .null leaflet).2.2.2
    (by decide) (by decide) (by decide) htold⟩

/-- An address with a bracket that is not closed: that it cannot be taken apart is not reported. -/
theorem unclosed_not_foreseen :
    ¬ Foreseen (Answers silent) leaflet ((loadUrl silent "http://[" .null).outcome leaflet) := by
  have hfault : (loadUrl silent "http://[" .null).outcome leaflet =
      (.error (.fault .illValued), { leaflet with
        log := [⟨.debug, "Fetching schema from URL: http://["⟩] }) := by
    cbv
  rw [hfault]
  rintro (⟨_, h, _⟩ | ⟨_, h, _⟩) <;> cases h

end Address

end ApiTypings
