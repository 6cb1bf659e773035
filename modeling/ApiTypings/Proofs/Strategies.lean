import Mathlib
import ApiTypings.Proofs.Places

/-!
# Two ways of putting a file into its directory

A file is written where it stands, or beside it under a longer name and moved there. Up to the last
step the two ways are one. They come apart in it exactly if the path leads to a directory whatever
stands there, which each way finds out in its own step, or if there is room for the name of the file
but none for the longer one.
-/

namespace ApiTypings

namespace FileTree

variable {t : FileTree} {here : Position} {names : List String} {name : String}
  {content : ByteArray}

/-- From a directory `..` leads to a directory. -/
theorem Reaches.back (h : t.Reaches names here)
    (hproper : checkNames (names ++ [".."]) = .ok ()) :
    t.Reaches (names ++ [".."]) here.dropLast := by
  have hstep : t.step here ".." = .ok here.dropLast := by
    unfold FileTree.step
    rw [h.directory]
    simp
  refine ⟨hproper, (walk_concat h.walk "..").trans hstep, ?_⟩
  · obtain hnil | ⟨above, last, hlast⟩ := List.eq_nil_or_concat here
    · rw [hnil]
      rfl
    · rw [List.concat_eq_append] at hlast
      have hself := h.self
      have hdown : last ≠ ".." := by
        rintro rfl
        exact Path.back_notMem_resolve names (walk_resolve h.walk ▸ by simp [hlast])
      rw [hlast] at hself
      obtain ⟨there, hthere, hlaststep⟩ := hself.parent
      rw [hlast, List.dropLast_concat, List.append_cancel_right (step_ok hdown hlaststep)]
      exact hthere.directory

/-- Where names lead to a directory no file can be written. -/
theorem Reaches.writeFile (h : t.Reaches names here) :
    t.writeFile names content = .error .isDirectory := by
  obtain rfl | ⟨start, last, rfl⟩ := List.eq_nil_or_concat names
  · rfl
  rw [List.concat_eq_append] at h ⊢
  by_cases hback : last = ".."
  · subst hback
    obtain ⟨above, habove⟩ := h.home
    unfold FileTree.writeFile
    rw [List.getLast?_concat, habove]
    rfl
  · rw [writeFile_eq hback, h.target_self hback]
    exact fill_of_directory h.directory

end FileTree

/-! ## Ends that cannot be told apart -/

/-- Refusals for which the file system has no kind of their own. -/
def Failure.Unclassed (e : Failure) : Prop :=
  e = .fault (.file .nameTooLong) ∨ e = .fault (.file .busy)

/-- The failures are the same, or of one kind. -/
def Failure.SameKind (e e' : Failure) : Prop := e = e' ∨ (e.Unclassed ∧ e'.Unclassed)

namespace Writer

/-- Both steps return, or both fail in one kind, and they leave the same world. -/
inductive SameEnd : Except Failure Unit × World → Except Failure Unit × World → Prop
  | returned (w : World) : SameEnd (.ok (), w) (.ok (), w)
  | failed {e e' : Failure} (h : e.SameKind e') (w : World) : SameEnd (.error e, w) (.error e', w)

theorem SameEnd.refl (r : Except Failure Unit × World) : SameEnd r r := by
  obtain ⟨e | ⟨⟩, w⟩ := r
  · exact .failed (.inl rfl) w
  · exact .returned w

variable {settings : OutputSettings} {w t : World} {path : Path} {content : String}
  {here : Position} {octets : ByteArray}

/-- The write comes as far as putting the file into its directory. -/
def Prepares (settings : OutputSettings) (w : World) (path : Path) (content : String)
    (t : World) : Prop :=
  (check settings path content >>= fun _ => makeParents path).outcome w = (.ok (), t)

/-- A temporary name for the file would be too long, or the path to it. -/
def Cramped (w : World) (path : Path) : Prop :=
  FileTree.longestName < Text.octets path.name + 14 ∨
    FileTree.longestPath <
      FileTree.pathLength (Path.resolve (w.trail path.parent)) + Text.octets path.name + 15

/-- A path that the file system takes, but to a directory whatever stands there, or to a file that
could have no temporary one beside it. -/
def Divides (w : World) (path : Path) : Prop :=
  FileTree.checkNames (w.trail path) = .ok () ∧
    (path.names = [] ∨ path.names.getLast? = some ".." ∨
      (Text.octets path.name ≤ FileTree.longestName ∧ Cramped w path))

/-! ## The last step -/

theorem name_of_getLast? {last : String} (h : path.names.getLast? = some last) :
    path.name = last := by
  rw [Path.name, List.getLastD_eq_getLast?, h]
  rfl

/-- What cannot be replaced is not, though there may be no room to find that out. -/
theorem busy_unclassed {tree : FileTree} {parents : List String} {name : String}
    (h : tree.Reaches parents here) (hnull : Text.hasChar '\x00' name = false) :
    ∃ fault, (tree.target (here ++ [temporaryName name 0]) >>= fun _ =>
        (.error .busy : Except FileFault FileTree)) = .error fault ∧
      Failure.Unclassed (.fault (.file fault)) := by
  rw [target_temporaryName h, hnull]
  simp only [Bool.false_eq_true, if_false]
  split
  · exact ⟨.nameTooLong, rfl, .inl rfl⟩
  · exact ⟨.busy, rfl, .inr rfl⟩

theorem isDirectory_not_unclassed : ¬ Failure.Unclassed (.fault (.file .isDirectory)) := by
  rintro (h | h) <;> cases h

section LastStep

variable {beside inPlace : OutputSettings} {last : String}

/-- Both ways fail on a path that leads to a directory by what it says, but not in one kind. -/
theorem sameEnd_place_iff_of_busy (hbeside : beside.atomic.isVoid = false)
    (hplace : inPlace.atomic.isVoid = true) (h : w.tree.Reaches (w.trail path.parent) here)
    (hlast : path.names = [] ∨ path.names.getLast? = some "..") :
    SameEnd ((place beside path octets).outcome w) ((place inPlace path octets).outcome w) ↔
      FileTree.checkNames (w.trail path) ≠ .ok () := by
  have hnull : Text.hasChar '\x00' path.name = false := by
    rcases hlast with hnil | hback
    · rw [Path.name, hnil]
      rfl
    · rw [name_of_getLast? hback]
      decide
  obtain ⟨fault, hbusy, hunclassed⟩ := busy_unclassed h hnull
  rw [place_beside_of_busy hbeside h hlast, hbusy, place_in_place hplace]
  constructor
  · intro hsame hproper
    have hdirectory : w.tree.writeFile (w.trail path) octets = .error .isDirectory := by
      rcases hlast with hnil | hback
      · rw [w.trail_of_nil hnil]
        exact h.writeFile
      · rw [w.trail_concat hback] at hproper ⊢
        exact (h.back hproper).writeFile
    rw [hdirectory] at hsame
    cases hsame with
    | failed hkind =>
      rcases hkind with heq | hkind
      · exact isDirectory_not_unclassed (heq ▸ hunclassed)
      · exact isDirectory_not_unclassed hkind.2
  · intro himproper
    rcases hlast with hnil | hback
    · exact absurd (w.trail_of_nil hnil ▸ h.proper) himproper
    · have hlong : FileTree.checkNames (w.trail path) = .error .nameTooLong := by
        rw [w.trail_concat hback, FileTree.checkNames_concat h.proper] at himproper ⊢
        rw [name_of_getLast? hback] at hnull
        rw [hnull] at himproper ⊢
        simpa using himproper
      have hfailed : w.tree.writeFile (w.trail path) octets = .error .nameTooLong := by
        unfold FileTree.writeFile FileTree.home
        rw [hlong, w.trail_concat hback, List.getLast?_concat]
        rfl
      rw [hfailed]
      exact .failed (.inr ⟨hunclassed, .inl rfl⟩) w

/-- Where the path names a file, the ways come apart exactly if only the temporary name is too
long. -/
theorem sameEnd_place_iff_of_name (hbeside : beside.atomic.isVoid = false)
    (hplace : inPlace.atomic.isVoid = true) (h : w.tree.Reaches (w.trail path.parent) here)
    (hlast : path.names.getLast? = some last) (hdown : last ≠ "..") :
    SameEnd ((place beside path octets).outcome w) ((place inPlace path octets).outcome w) ↔
      ¬ (FileTree.checkNames (w.trail path) = .ok () ∧
        Text.octets path.name ≤ FileTree.longestName ∧ Cramped w path) := by
  have hcramped : Cramped w path ↔
      FileTree.longestPath < FileTree.pathLength here + Text.octets path.name + 15 ∨
        FileTree.longestName < Text.octets path.name + 14 := by
    rw [FileTree.walk_resolve h.walk]
    exact Or.comm
  rw [place_beside_of_name hbeside h hlast hdown, place_in_place hplace, hcramped,
    target_temporaryName h, w.trail_concat hlast, FileTree.writeFile_eq hdown, h.target,
    FileTree.checkNames_concat h.proper, name_of_getLast? hlast]
  cases hnull : Text.hasChar '\x00' last with
  | true =>
    simp only [if_true]
    exact iff_of_true (.refl _) (by simp)
  | false =>
    simp only [Bool.false_eq_true, if_false]
    by_cases hroom : FileTree.longestPath < FileTree.pathLength here + Text.octets last + 15 ∨
        FileTree.longestName < Text.octets last + 14
    · by_cases hlong : FileTree.longestPath <
          FileTree.pathLength (w.trail path.parent) + Text.octets last + 1 ∨
            FileTree.longestName < Text.octets last
      · -- there is no room for the file either
        rw [if_pos hroom, if_pos hlong]
        refine iff_of_true (.refl _) ?_
        rintro ⟨hproper, hshort, _⟩
        rcases hlong with hlong | hlong
        · rw [if_pos hlong] at hproper
          cases hproper
        · exact absurd hshort (Nat.not_le.mpr hlong)
      · rw [if_pos hroom, if_neg hlong]
        rw [not_or, Nat.not_lt, Nat.not_lt] at hlong
        refine iff_of_false ?_ (not_not.mpr ⟨if_neg (by omega), hlong.2, hroom⟩)
        change ¬ SameEnd (ended w (.error .nameTooLong))
          (ended w (w.tree.fill (here ++ [last]) octets))
        by_cases hd : w.tree.node? (here ++ [last]) = some .directory
        · rw [FileTree.fill_of_directory hd]
          rintro (_ | ⟨heq | hkind, _⟩)
          · cases heq
          · exact isDirectory_not_unclassed hkind.2
        · rw [FileTree.fill_of_ne hd]
          rintro ⟨⟩
    · rw [if_neg hroom]
      exact iff_of_true (.refl _) fun h => hroom h.2.2

/-- The last step comes to the same in both ways exactly if the path does not divide them. -/
theorem sameEnd_place_iff (hbeside : beside.atomic.isVoid = false)
    (hplace : inPlace.atomic.isVoid = true) (h : w.tree.Reaches (w.trail path.parent) here) :
    SameEnd ((place beside path octets).outcome w) ((place inPlace path octets).outcome w) ↔
      ¬ Divides w path := by
  by_cases hbusy : path.names = [] ∨ path.names.getLast? = some ".."
  · rw [sameEnd_place_iff_of_busy hbeside hplace h hbusy, Divides, ← or_assoc]
    simp [hbusy]
  · rw [not_or, ← List.getLast?_eq_none_iff] at hbusy
    obtain ⟨last, hlast⟩ := Option.ne_none_iff_exists'.mp hbusy.1
    have hdown : last ≠ ".." := by
      rintro rfl
      exact hbusy.2 hlast
    rw [sameEnd_place_iff_of_name hbeside hplace h hlast hdown, Divides]
    simp [← List.getLast?_eq_none_iff, hlast, hdown]

end LastStep

/-! ## The whole write -/

theorem write_eq (settings : OutputSettings) (path : Path) (content : String) :
    write settings path content = (check settings path content >>= fun _ => makeParents path) >>=
      fun _ => place settings path (Text.toOctets content) := by
  rw [bind_assoc]
  rfl

theorem Prepares.reaches (h : Prepares settings w path content t) :
    t.home = w.home ∧ ∃ here, t.tree.Reaches (t.trail path.parent) here := by
  have hends : Task.Ends (check settings path content >>= fun _ => makeParents path) w
      (fun _ t => t.home = w.home ∧ ∃ here, t.tree.Reaches (t.trail path.parent) here)
      fun _ _ => True := by
    refine (check_ends.imp (fun _ _ h => h) fun _ _ _ => trivial).bind ?_
    rintro _ _ ⟨rfl, _⟩
    exact makeParents_reaches
  exact hends.1 () t h

/-- What comes so far ends as its last step does. The checks do not look at how the file is to be
written. -/
theorem Prepares.write (h : Prepares settings w path content t) (atomic : Json) :
    (Writer.write { settings with atomic } path content).outcome w =
      (place { settings with atomic } path (Text.toOctets content)).outcome t := by
  have hprepare : (check { settings with atomic } path content >>= fun _ =>
      makeParents path).outcome w = (.ok (), t) := h
  rw [write_eq, Task.outcome_bind, hprepare]

theorem write_unprepared {e : Failure}
    (h : (check settings path content >>= fun _ => makeParents path).outcome w = (.error e, t))
    (atomic : Json) :
    (write { settings with atomic } path content).outcome w = (.error e, t) := by
  have hprepare : (check { settings with atomic } path content >>= fun _ =>
      makeParents path).outcome w = (.error e, t) := h
  rw [write_eq, Task.outcome_bind, hprepare]

theorem divides_congr (hhome : t.home = w.home) : Divides t path ↔ Divides w path := by
  unfold Divides Cramped
  rw [trail_congr hhome, trail_congr hhome]

/-- Writing beside the place of a file and writing in place end alike, except where a write that
comes so far meets a path that divides the two. -/
theorem strategies_agree_iff (settings : OutputSettings) (w : World) (path : Path)
    (content : String) :
    SameEnd ((write { settings with atomic := .bool true } path content).outcome w)
        ((write { settings with atomic := .bool false } path content).outcome w) ↔
      ∀ t, Prepares settings w path content t → ¬ Divides w path := by
  cases ho : (check settings path content >>= fun _ => makeParents path).outcome w with
  | mk result t =>
    cases result with
    | error e =>
      rw [write_unprepared ho, write_unprepared ho]
      refine iff_of_true (.refl _) fun u hu => ?_
      cases ho.symm.trans hu
    | ok =>
      obtain ⟨hhome, here, hreaches⟩ := Prepares.reaches ho
      have honly : (∀ u, Prepares settings w path content u → ¬ Divides w path) ↔
          ¬ Divides w path := ⟨fun h => h t ho, fun h _ _ => h⟩
      rw [Prepares.write ho, Prepares.write ho, honly, ← divides_congr hhome]
      exact sameEnd_place_iff (by rfl) (by rfl) hreaches

/-- A path to a file does not divide the ways if it leaves fourteen octets to the longest name and to
the longest path. -/
theorem not_divides {last : String} (hlast : path.names.getLast? = some last) (hdown : last ≠ "..")
    (hname : Text.octets last + 14 ≤ FileTree.longestName)
    (hpath : FileTree.pathLength (w.trail path) + 14 ≤ FileTree.longestPath) : ¬ Divides w path := by
  have hfollowed := FileTree.pathLength_resolve_le (w.trail path.parent)
  rw [w.trail_concat hlast, FileTree.pathLength_concat] at hpath
  rintro ⟨_, hnil | hback | ⟨_, hlong | hlong⟩⟩
  · rw [hnil] at hlast
    cases hlast
  · exact hdown (Option.some.inj (hlast.symm.trans hback))
  · rw [name_of_getLast? hlast] at hlong
    omega
  · rw [name_of_getLast? hlast] at hlong
    omega

theorem strategies_agree_iff_of_standing :
    SameEnd ((write { guarding with atomic := .bool true } (Path.ofString "a/c.ts") "1").outcome
        standing)
      ((write { guarding with atomic := .bool false } (Path.ofString "a/c.ts") "1").outcome
        standing) := by
  have hlast : (Path.ofString "a/c.ts").names.getLast? = some "c.ts" := by decide
  have hfits : ¬ Divides standing (Path.ofString "a/c.ts") :=
    not_divides hlast (by decide) (by decide) (by decide)
  exact (strategies_agree_iff guarding standing _ _).mpr fun _ _ => hfits

/-- A name of so many letters. -/
def letters (n : Nat) : String := String.ofList (List.replicate n 'n')

theorem octets_letters (n : Nat) : Text.octets (letters n) = n := by
  rw [Text.octets, letters, String.utf8ByteSize_ofList]
  induction n with
  | zero => rfl
  | succ n ih =>
    rw [List.replicate_succ, String.utf8Len_cons, ih]
    rfl

theorem hasChar_letters (n : Nat) : Text.hasChar '\x00' (letters n) = false := by
  rw [Text.hasChar, letters, String.toList_ofList]
  simp [List.mem_replicate]

/-- A file whose name is as long as a name may be, but for thirteen octets. -/
def lengthy : Path := { start := "", names := [letters 242] }

theorem lengthy_prepares : Prepares {} bare lengthy "" bare := by rfl

/-- There is room for the file where it stands, but none beside it. -/
theorem lengthy_divides : Divides bare lengthy := by
  have hlast : lengthy.names.getLast? = some (letters 242) := rfl
  have hname := name_of_getLast? hlast
  refine ⟨?_, .inr (.inr ⟨?_, .inl ?_⟩)⟩
  · have hparents : bare.trail lengthy.parent = [] := rfl
    rw [bare.trail_concat hlast, hparents, FileTree.checkNames_concat rfl, hasChar_letters,
      octets_letters]
    exact if_neg (by decide)
  · rw [hname, octets_letters]
    decide
  · rw [hname, octets_letters]
    decide

/-- Where nothing is, such a file can be written in place and cannot be written beside it. -/
theorem strategies_differ :
    ¬ SameEnd ((write { atomic := .bool true } lengthy "").outcome bare)
      ((write { atomic := .bool false } lengthy "").outcome bare) := by
  obtain ⟨_, _, hreaches⟩ := lengthy_prepares.reaches
  have hbeside := lengthy_prepares.write (.bool true)
  have hplace := lengthy_prepares.write (.bool false)
  change ¬ SameEnd ((write { ({} : OutputSettings) with atomic := .bool true } lengthy "").outcome bare)
    ((write { ({} : OutputSettings) with atomic := .bool false } lengthy "").outcome bare)
  rw [hbeside, hplace, sameEnd_place_iff (by rfl) (by rfl) hreaches]
  exact not_not.mpr lengthy_divides

end Writer

end ApiTypings
