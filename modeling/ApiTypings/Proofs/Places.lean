import Mathlib
import ApiTypings.Proofs.Keeping

/-!
# Where there is room for a file

A file is put into a directory under its last name. Once the directory is there, whether that can be
done is a matter of the name and of the path, which must not be too long, and of what stands there
already. A temporary file takes a name that is fourteen octets longer, in the directory to which
the path has been followed.
-/

namespace ApiTypings

/-- Following names leads to none but these. -/
theorem Path.resolve_subset (names : List String) : Path.resolve names ⊆ names := by
  induction names using List.reverseRec with
  | nil => exact List.Subset.refl _
  | append_singleton names name ih =>
    rw [Path.resolve_concat]
    split
    · exact fun x hx => List.mem_append_left _ (ih (List.dropLast_subset _ hx))
    · exact List.append_subset.mpr
        ⟨List.subset_append_of_subset_left _ ih, List.subset_append_right _ _⟩

/-- The path of a file goes on from that of its directory. -/
theorem World.trail_concat (w : World) {path : Path} {last : String}
    (h : path.names.getLast? = some last) :
    w.trail path = w.trail path.parent ++ [last] := by
  obtain ⟨start, hs⟩ := List.getLast?_eq_some_iff.mp h
  have hstart : path.parent.isAbsolute = path.isAbsolute := rfl
  have hnames : path.parent.names = start := by
    change path.names.dropLast = start
    rw [hs, List.dropLast_concat]
  unfold World.trail
  rw [hstart, hnames, hs]
  split
  · rfl
  · rw [List.append_assoc]

/-- A path without names is its own directory. -/
theorem World.trail_of_nil (w : World) {path : Path} (h : path.names = []) :
    w.trail path = w.trail path.parent := by
  obtain ⟨start, names⟩ := path
  obtain rfl : names = [] := h
  rfl

namespace FileTree

variable {X : Position → Prop} {t t' : FileTree} {here p : Position} {names : List String}
  {name last : String} {content : ByteArray}

/-! ## The length of a path -/

/-- The octets of a path from the root, with a slash for each name. -/
def pathLength (names : List String) : Nat :=
  names.foldl (fun length name => length + Text.octets name + 1) 0

@[simp] theorem pathLength_concat (names : List String) (name : String) :
    pathLength (names ++ [name]) = pathLength names + Text.octets name + 1 := by
  simp [pathLength, List.foldl_append]

theorem checkNames_eq (names : List String) : checkNames names =
    if names.any (Text.hasChar '\x00') then .error .illegalName
    else if longestPath < pathLength names then .error .nameTooLong else .ok () := rfl

theorem checkNames_eq_ok_iff : checkNames names = .ok () ↔
    names.any (Text.hasChar '\x00') = false ∧ pathLength names ≤ longestPath := by
  rw [checkNames_eq]
  split
  · simp_all
  · split
    · simp_all
    · simp_all

/-- A path does not get longer by being followed. -/
theorem pathLength_resolve_le (names : List String) :
    pathLength (Path.resolve names) ≤ pathLength names := by
  have hdrop : ∀ others : List String, pathLength others.dropLast ≤ pathLength others := by
    intro others
    induction others using List.reverseRec with
    | nil => exact Nat.le_refl _
    | append_singleton others other _ =>
      rw [List.dropLast_concat, pathLength_concat]
      omega
  induction names using List.reverseRec with
  | nil => exact Nat.le_refl _
  | append_singleton names name ih =>
    rw [Path.resolve_concat, pathLength_concat]
    split
    · have hback := hdrop (Path.resolve names)
      omega
    · rw [pathLength_concat]
      omega

/-- The names lead to a directory. -/
structure Reaches (t : FileTree) (names : List String) (here : Position) : Prop where
  proper : checkNames names = .ok ()
  walk : t.walk [] names = .ok here
  directory : t.node? here = some .directory

theorem Reaches.mono (h : t.Reaches names here) (hkept : KeepsBut X t t') :
    t'.Reaches names here :=
  ⟨h.proper, hkept.walk h.walk, hkept.directory h.directory⟩

theorem Lands.mono (h : t.Lands names here last) (hkept : KeepsBut X t t') :
    t'.Lands names here last :=
  ⟨h.final, h.down, h.short, h.proper, hkept.walk h.walk, hkept.directory h.directory⟩

theorem Extends.keepsBut (h : Extends names t t') (X : Position → Prop) : KeepsBut X t t' :=
  (KeepsBut.refl X t).extends h

theorem reaches_of_isDirectory (h : t.isDirectory names = true) : ∃ here, t.Reaches names here := by
  unfold isDirectory at h
  split at h
  · rename_i hstat
    obtain ⟨⟨⟩, hproper, hwalk⟩ := bind_ok hstat
    obtain ⟨here, hhere, hfound⟩ := bind_ok hwalk
    split at hfound
    · rename_i hnode
      cases hfound
      exact ⟨here, hproper, hhere, hnode⟩
    · cases hfound
  · cases h

theorem Reaches.stat (h : t.Reaches names here) : t.stat names = .ok .directory := by
  simp only [FileTree.stat, h.proper, h.walk, h.directory, bind, Except.bind, pure, Except.pure]

theorem reaches_of_makeDirectory (h : t.makeDirectory names = .ok t') :
    ∃ here, t'.Reaches names here := by
  have hmade := (makeDirectory_extends h).keepsBut fun _ => False
  obtain ⟨⟨here, last, hlands, _, hput⟩, _⟩ := makeDirectory_puts h
  have hnode : t'.node? (here ++ [last]) = some .directory := by rw [hput, if_pos rfl]
  have hstat := (hlands.mono hmade).stat hnode
  apply reaches_of_isDirectory
  unfold isDirectory
  rw [hstat]

theorem reaches_of_ensureDirectory (h : t.ensureDirectory names = .ok t') :
    ∃ here, t'.Reaches names here := by
  unfold ensureDirectory at h
  split at h
  · rename_i hmade
    cases h
    exact reaches_of_makeDirectory hmade
  · split at h
    · cases h
      exact reaches_of_isDirectory ‹_›
    · cases h

/-- When directories have been made without a failure, the names lead to one. -/
theorem reaches_of_makeDirectories {count : Nat}
    (h : t.makeDirectories names count = (.ok (), t')) : ∃ here, t'.Reaches names here := by
  cases count with
  | zero =>
    unfold makeDirectories at h
    split at h
    · cases h
      exact reaches_of_ensureDirectory ‹_›
    · cases h
  | succ count =>
    unfold makeDirectories at h
    split at h
    · cases h
      exact reaches_of_makeDirectory ‹_›
    · split at h
      · cases h
      · split at h
        · cases h
          exact reaches_of_ensureDirectory ‹_›
        · cases h
    · split at h
      · cases h
        exact reaches_of_isDirectory ‹_›
      · cases h

/-- One more name is one more step. -/
theorem walk_concat (h : t.walk [] names = .ok here) (name : String) :
    t.walk [] (names ++ [name]) = t.step here name := by
  unfold walk at h ⊢
  rw [List.foldlM_append, h]
  change [name].foldlM t.step here = _
  rw [List.foldlM_cons]
  simp only [List.foldlM_nil, bind_pure]

/-- The place to which names lead is reached by its own names too. -/
theorem walk_self (h : t.walk [] names = .ok p) : t.walk [] p = .ok p := by
  induction names using List.reverseRec generalizing p with
  | nil =>
    cases h
    rfl
  | append_singleton names name ih =>
    have hp := walk_resolve h
    obtain ⟨q, hq, hstep⟩ := walk_append h
    have hself := ih hq
    rw [Path.resolve_concat, ← walk_resolve hq] at hp
    split at hp
    · -- the way back to the directory of `q` is the beginning of the way to `q`
      obtain rfl | ⟨above, last, rfl⟩ := List.eq_nil_or_concat q
      · rw [hp]
        rfl
      · rw [List.concat_eq_append] at hq hself hp
        rw [List.dropLast_concat] at hp
        obtain ⟨r, hr, hlast⟩ := walk_append hself
        have hdown : last ≠ ".." := by
          rintro rfl
          exact Path.back_notMem_resolve names (walk_resolve hq ▸ by simp)
        have hr' := step_ok hdown (by simpa [walk] using hlast)
        rw [hp, List.append_cancel_right hr']
        rwa [List.append_cancel_right hr'] at hr
    · subst hp
      unfold walk at hself hstep ⊢
      rw [List.foldlM_append, hself]
      exact hstep

theorem Reaches.self (h : t.Reaches names here) : t.Reaches here here := by
  refine ⟨?_, walk_self h.walk, h.directory⟩
  obtain ⟨hproper, hshort⟩ := checkNames_eq_ok_iff.mp h.proper
  rw [walk_resolve h.walk, checkNames_eq_ok_iff]
  refine ⟨?_, (pathLength_resolve_le names).trans hshort⟩
  rw [List.any_eq_false] at hproper ⊢
  exact fun name hn => hproper name (Path.resolve_subset names hn)

/-- A directory that names lead to is an entry of one to which the names before the last lead. -/
theorem Reaches.parent (h : t.Reaches (names ++ [name]) here) :
    ∃ above, t.Reaches names above ∧ t.step above name = .ok here := by
  obtain ⟨above, hwalk, hstep⟩ := walk_append h.walk
  replace hstep : t.step above name = .ok here := by simpa [FileTree.walk] using hstep
  refine ⟨above, ⟨?_, hwalk, ?_⟩, hstep⟩
  · obtain ⟨hproper, hlength⟩ := checkNames_eq_ok_iff.mp h.proper
    rw [pathLength_concat] at hlength
    rw [List.any_append, Bool.or_eq_false_iff] at hproper
    exact checkNames_eq_ok_iff.mpr ⟨hproper.1, by omega⟩
  · unfold FileTree.step at hstep
    split at hstep
    · cases hstep
    · cases hstep
    · assumption

/-! ## Names in a directory -/

theorem checkNames_concat (h : checkNames names = .ok ()) (name : String) :
    checkNames (names ++ [name]) =
      if Text.hasChar '\x00' name then .error .illegalName
      else if longestPath < pathLength names + Text.octets name + 1 then .error .nameTooLong
      else .ok () := by
  rw [checkNames_eq, List.any_append, (checkNames_eq_ok_iff.mp h).1, pathLength_concat]
  simp

/-- What a name stands for in a directory, if name and path are not too long. -/
theorem Reaches.target (h : t.Reaches names here) (name : String) :
    t.target (names ++ [name]) =
      if Text.hasChar '\x00' name then .error .illegalName
      else if longestPath < pathLength names + Text.octets name + 1 ∨
        longestName < Text.octets name then .error .nameTooLong
      else .ok (here ++ [name]) := by
  have hname : (names ++ [name]).getLastD "" = name := by simp
  unfold FileTree.target FileTree.home
  rw [hname, checkNames_concat h.proper, List.dropLast_concat, h.walk]
  by_cases hnull : Text.hasChar '\x00' name = true
  · simp [hnull, bind, Except.bind]
  · by_cases hlong : longestPath < pathLength names + Text.octets name + 1
    · simp [hnull, hlong, bind, Except.bind]
    · simp [hnull, hlong, h.directory, bind, Except.bind, pure, Except.pure]

/-- A directory that is reached is in one that is reached too. -/
theorem Reaches.home (h : t.Reaches (names ++ [name]) here) :
    ∃ above, t.home (names ++ [name]) = .ok above := by
  obtain ⟨above, habove, _⟩ := h.parent
  refine ⟨above, ?_⟩
  unfold FileTree.home
  rw [h.proper, List.dropLast_concat, habove.walk]
  simp [bind, Except.bind, habove.directory, pure, Except.pure]

/-- Its name stands for it there. -/
theorem Reaches.target_self (h : t.Reaches (names ++ [name]) here) (hdown : name ≠ "..") :
    t.target (names ++ [name]) = .ok here := by
  obtain ⟨above, habove, hstep⟩ := h.parent
  obtain ⟨hproper, hlength⟩ := checkNames_eq_ok_iff.mp h.proper
  rw [List.any_append, Bool.or_eq_false_iff] at hproper
  rw [pathLength_concat] at hlength
  have hnull : ¬ Text.hasChar '\x00' name = true := by simpa using hproper.2
  have hshort := step_short hdown hstep
  rw [habove.target, if_neg hnull, if_neg (by omega), step_ok hdown hstep]

/-- Puts a file at a position, unless a directory is there. -/
def fill (t : FileTree) (p : Position) (content : ByteArray) : Except FileFault FileTree :=
  match t.node? p with
  | some .directory => .error .isDirectory
  | _ => .ok (t.set p (.file content))

theorem fill_of_directory (h : t.node? p = some .directory) :
    t.fill p content = .error .isDirectory := by
  unfold fill
  rw [h]

theorem fill_of_ne (h : t.node? p ≠ some .directory) :
    t.fill p content = .ok (t.set p (.file content)) := by
  unfold fill
  split
  · exact absurd ‹_› h
  · rfl

theorem writeFile_eq (hdown : name ≠ "..") : t.writeFile (names ++ [name]) content =
    t.target (names ++ [name]) >>= (t.fill · content) := by
  unfold writeFile
  rw [List.getLast?_concat]
  split
  · cases ‹some name = none›
  · exact absurd (Option.some.inj ‹_›) hdown
  · rfl

theorem keepsBut_set (hp : p ≠ []) (hfree : t.node? p = none) (node : Node) :
    KeepsBut X t (t.set p node) := by
  intro q other hq
  have hne : q ≠ p := by
    rintro rfl
    rw [hfree] at hq
    cases hq
  rw [node?_set hp, if_neg hne]
  exact .inl hq

/-- A file that has been written where nothing was is moved to where it could have been written at
once. -/
theorem moveFile_eq (hp : p ≠ []) (hfree : t.node? p = none) (h : t.Reaches names here)
    (hdown : name ≠ "..") : (t.set p (.file content)).moveFile p (names ++ [name]) =
      t.target (names ++ [name]) >>= (t.fill · content) := by
  have hthere := h.mono (X := fun _ => False) (keepsBut_set hp hfree (.file content))
  have htarget : (t.set p (.file content)).target (names ++ [name]) = t.target (names ++ [name]) := by
    rw [hthere.target, h.target]
  unfold moveFile
  rw [List.getLast?_concat]
  split
  · cases ‹some name = none›
  · exact absurd (Option.some.inj ‹_›) hdown
  rw [htarget, erase_set hp hfree]
  congr 1
  funext q
  rw [node?_set hp, if_pos rfl, node?_set hp]
  by_cases hq : q = p
  · rw [if_pos hq, fill_of_ne (by rw [hq, hfree]; simp)]
    rfl
  · rw [if_neg hq]
    by_cases hd : t.node? q = some .directory
    · rw [fill_of_directory hd, hd]
    · rw [fill_of_ne hd]
      split
      · exact absurd ‹t.node? q = some .directory› hd
      · cases ‹some (Node.file content) = some _›
        rfl
      · cases ‹some (Node.file content) = none›

/-- The answer of an operation and the tree that it leaves, which is the old one if it is refused. -/
def leave (t : FileTree) : Except FileFault FileTree → Except FileFault Unit × FileTree
  | .ok t' => (.ok (), t')
  | .error fault => (.error fault, t)

end FileTree

namespace Writer

variable {t : FileTree} {w : World} {here : Position} {parents names : List String}
  {name last : String} {content : ByteArray} {settings : OutputSettings} {path : Path}

/-- When the directories that lead to a file have been made, they are there. -/
theorem makeParents_reaches : Task.Ends (makeParents path) w
    (fun _ t => t.home = w.home ∧ ∃ here, t.tree.Reaches (t.trail path.parent) here)
    fun _ _ => True := by
  unfold makeParents
  refine .get (.set (ofFileSystem_ends.imp ?_ fun _ _ _ => trivial))
  rintro _ _ ⟨rfl, hmade⟩
  exact ⟨rfl, FileTree.reaches_of_makeDirectories (Prod.ext hmade rfl)⟩

theorem octets_temporaryName (name : String) :
    Text.octets (temporaryName name 0) = Text.octets name + 14 := by
  have hrest : Text.octets ("." ++ temporarySuffix 0 ++ ".tmp") = 13 := by decide
  simp only [Text.octets, temporaryName, String.utf8ByteSize_append] at hrest ⊢
  have hdot : ".".utf8ByteSize = 1 := by decide
  omega

theorem hasChar_temporaryName (name : String) :
    Text.hasChar '\x00' (temporaryName name 0) = Text.hasChar '\x00' name := by
  have hrest : '\x00' ∉ ("." ++ temporarySuffix 0 ++ ".tmp").toList := by decide
  simp only [String.toList_append, List.mem_append, not_or] at hrest
  simp [Text.hasChar, temporaryName, hrest]

/-- Whether there is room for a temporary file is a matter of its name and of the path to it. -/
theorem target_temporaryName (h : t.Reaches parents here) (name : String) :
    t.target (here ++ [temporaryName name 0]) =
      if Text.hasChar '\x00' name then .error .illegalName
      else if FileTree.longestPath < FileTree.pathLength here + Text.octets name + 15 ∨
        FileTree.longestName < Text.octets name + 14 then .error .nameTooLong
      else .ok (here ++ [temporaryName name 0]) := by
  rw [h.self.target, hasChar_temporaryName, octets_temporaryName]
  rfl

/-- Writing by way of a temporary file takes room for it, and then the move. -/
theorem writeAtomically_eq {moved : Except FileFault FileTree} (h : t.Reaches parents here)
    (hmove : ∀ p, p ≠ [] → t.node? p = none →
      (t.set p (.file content)).moveFile p names = moved) :
    writeAtomically parents name content names t =
      t.leave (t.target (here ++ [temporaryName name 0]) >>= fun _ => moved) := by
  have hfree := node?_freshName t here name
  have hbeside : writeBeside parents name content t = do
      let _ ← t.target (here ++ [temporaryName name 0])
      return (here ++ [freshName t here name],
        t.set (here ++ [freshName t here name]) (.file content)) := by
    unfold writeBeside
    rw [h.walk]
    rfl
  unfold writeAtomically
  rw [hbeside]
  cases t.target (here ++ [temporaryName name 0]) with
  | error fault => rfl
  | ok place =>
    simp only [bind, Except.bind, pure, Except.pure]
    rw [hmove _ (by simp) hfree, FileTree.erase_set (by simp) hfree]
    cases moved <;> rfl

/-! ## Putting a file into its directory -/

/-- How an operation on the tree ends as a step. -/
def ended (w : World) : Except FileFault FileTree → Except Failure Unit × World
  | .ok tree => (.ok (), { w with tree })
  | .error fault => (.error (.fault (.file fault)), w)

theorem changeTree_outcome (change : FileTree → Except FileFault FileTree) :
    (changeTree change).outcome w = ended w (change w.tree) := by
  unfold changeTree
  rw [Task.outcome_get_bind]
  cases change w.tree <;> rfl

theorem place_in_place (hplain : settings.atomic.isVoid = true) :
    (place settings path content).outcome w =
      ended w (w.tree.writeFile (w.trail path) content) := by
  unfold place
  rw [Task.outcome_get_bind, if_pos hplain]
  exact changeTree_outcome _

theorem place_beside {moved : Except FileFault FileTree} (hatomic : settings.atomic.isVoid = false)
    (h : w.tree.Reaches (w.trail path.parent) here)
    (hmove : ∀ p, p ≠ [] → w.tree.node? p = none → (w.tree.set p (.file content)).moveFile p
      (if path.names.isEmpty then [] else w.trail path) = moved) :
    (place settings path content).outcome w =
      ended w (w.tree.target (here ++ [temporaryName path.name 0]) >>= fun _ => moved) := by
  unfold place
  rw [Task.outcome_get_bind, if_neg (by simp [hatomic])]
  dsimp only
  rw [writeAtomically_eq h hmove]
  cases w.tree.target (here ++ [temporaryName path.name 0]) >>= fun _ => moved <;> rfl

/-- A path without a last name of its own is of no use for either way. -/
theorem place_beside_of_busy (hatomic : settings.atomic.isVoid = false)
    (h : w.tree.Reaches (w.trail path.parent) here)
    (hlast : path.names = [] ∨ path.names.getLast? = some "..") :
    (place settings path content).outcome w =
      ended w (w.tree.target (here ++ [temporaryName path.name 0]) >>= fun _ => .error .busy) := by
  refine place_beside hatomic h fun p _ _ => ?_
  rcases hlast with hnil | hback
  · rw [hnil]
    rfl
  · have hne : path.names.isEmpty = false := by
      cases hp : path.names with
      | nil => simp [hp] at hback
      | cons _ _ => rfl
    rw [hne, w.trail_concat hback]
    unfold FileTree.moveFile
    simp

theorem place_beside_of_name (hatomic : settings.atomic.isVoid = false)
    (h : w.tree.Reaches (w.trail path.parent) here) (hlast : path.names.getLast? = some last)
    (hdown : last ≠ "..") : (place settings path content).outcome w =
      ended w (w.tree.target (here ++ [temporaryName path.name 0]) >>= fun _ =>
        w.tree.writeFile (w.trail path) content) := by
  refine place_beside hatomic h fun p hp hfree => ?_
  have hne : path.names.isEmpty = false := by
    cases hn : path.names with
    | nil => simp [hn] at hlast
    | cons _ _ => rfl
  rw [hne, w.trail_concat hlast, FileTree.writeFile_eq hdown]
  exact FileTree.moveFile_eq hp hfree h hdown

end Writer

end ApiTypings
