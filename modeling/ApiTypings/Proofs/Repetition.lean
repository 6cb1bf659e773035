import Mathlib
import ApiTypings.Proofs.Places

/-!
# Batches that are written again

What a batch has written can be written again. The directories are there and each file has its place,
so nothing is refused, and each file is put over what is there. Where several module paths lead to one
place the tree comes to differ on the way from what it was, but in the end each place has the text
that it had got last. If nothing may be replaced, the first file of the batch is in the way.
-/

namespace ApiTypings

namespace FileTree

section Entries

variable {p : Position} {node : Node} {entries writes : List (Position × Node)}

/-- Puts one after the other what is to be written. -/
def putAll (writes entries : List (Position × Node)) : List (Position × Node) :=
  writes.foldl (fun entries write => put write.1 write.2 entries) entries

/-- What is written to a position last. -/
def lastPut (p : Position) (writes : List (Position × Node)) : Option Node := find p writes.reverse

@[simp] theorem lastPut_concat (p : Position) (writes : List (Position × Node))
    (write : Position × Node) : lastPut p (writes ++ [write]) =
      if write.1 = p then some write.2 else lastPut p writes := by
  unfold lastPut
  rw [List.reverse_concat]
  rfl

theorem lastPut_cons (p : Position) (write : Position × Node) (writes : List (Position × Node)) :
    lastPut p (write :: writes) =
      (lastPut p writes).or (if write.1 = p then some write.2 else none) := by
  induction writes using List.reverseRec with
  | nil => rfl
  | append_singleton writes later ih =>
    rw [← List.cons_append, lastPut_concat, ih, lastPut_concat]
    split <;> rfl

theorem mem_of_lastPut (h : lastPut p writes = some node) : (p, node) ∈ writes :=
  List.mem_reverse.mp (mem_of_find h)

/-- What is written over later need not be written. -/
theorem putAll_put (hlater : (lastPut p writes).isSome) (hp : (find p entries).isSome) :
    putAll writes (put p node entries) = putAll writes entries := by
  induction writes generalizing entries with
  | nil => cases hlater
  | cons write rest ih =>
    unfold putAll at ih ⊢
    rw [List.foldl_cons, List.foldl_cons]
    by_cases hw : write.1 = p
    · rw [hw, put_put]
    · rw [put_comm (Ne.symm hw) hp]
      rw [lastPut_cons, if_neg hw, Option.or_none] at hlater
      refine ih hlater ?_
      rw [find_put, if_neg (Ne.symm hw)]
      exact hp

/-- Entries that have at each position what is written there last stay as they are. -/
theorem putAll_self (h : ∀ p node, lastPut p writes = some node → find p entries = some node) :
    putAll writes entries = entries := by
  induction writes with
  | nil => rfl
  | cons write rest ih =>
    obtain ⟨p, node⟩ := write
    have hrest : ∀ q later, lastPut q rest = some later → find q entries = some later := by
      intro q later hl
      refine h q later ?_
      rw [lastPut_cons, hl]
      rfl
    change putAll rest (put p node entries) = entries
    cases hl : lastPut p rest with
    | none =>
      have hp : find p entries = some node := h p node (by rw [lastPut_cons, hl]; simp)
      rw [put_self hp, ih hrest]
    | some later =>
      rw [putAll_put (by rw [hl]; rfl) (by rw [hrest p later hl]; rfl), ih hrest]

end Entries

/-! ## Directories that need not be made -/

variable {X : Position → Prop} {t t' : FileTree} {here : Position} {names : List String}

theorem Reaches.makeDirectory (h : t.Reaches names here) :
    t.makeDirectory names = .error .alreadyExists := by
  obtain rfl | ⟨start, last, rfl⟩ := List.eq_nil_or_concat names
  · rfl
  rw [List.concat_eq_append] at h ⊢
  obtain ⟨above, habove⟩ := h.home
  unfold FileTree.makeDirectory
  rw [List.getLast?_concat]
  split
  · rfl
  · rw [habove]
    rfl
  · rename_i name hdown hname
    obtain rfl : last = name := Option.some.inj hname
    rw [h.target_self hdown]
    simp [bind, Except.bind, h.directory]

theorem Reaches.isDirectory (h : t.Reaches names here) : t.isDirectory names = true := by
  unfold FileTree.isDirectory
  rw [h.stat]

theorem Reaches.makeDirectories (h : t.Reaches names here) (count : Nat) :
    t.makeDirectories names count = (.ok (), t) := by
  cases count <;>
    simp [FileTree.makeDirectories, FileTree.ensureDirectory, h.makeDirectory, h.isDirectory]

theorem Reaches.target_congr (h : t.Reaches names here) (h' : t'.Reaches names here)
    (name : String) : t'.target (names ++ [name]) = t.target (names ++ [name]) := by
  rw [h.target, h'.target]

end FileTree

namespace Writer

variable {X : Position → Prop} {settings : OutputSettings} {w t u : World} {path root : Path}
  {here : Position} {octets : ByteArray} {content : String} {files : List (String × String)}

/-- The position for a file, if there is room for it, and for a temporary one where that is
needed. -/
def room (settings : OutputSettings) (w : World) (path : Path) : Except FileFault Position := do
  if !settings.atomic.isVoid then
    let _ ← w.tree.target (Path.resolve (w.trail path.parent) ++ [temporaryName path.name 0])
  w.tree.target (w.trail path)

/-- A file is where the path leads, and can be written there. -/
structure Settled (settings : OutputSettings) (t : World) (path : Path) : Prop where
  named : ∃ last, path.names.getLast? = some last ∧ last ≠ ".."
  parents : ∃ here, t.tree.Reaches (t.trail path.parent) here
  room : room settings t path = .ok (Path.resolve (t.trail path))
  file : ∃ content, t.tree.node? (Path.resolve (t.trail path)) = some (.file content)

theorem place_eq {last : String} (h : w.tree.Reaches (w.trail path.parent) here)
    (hlast : path.names.getLast? = some last) (hdown : last ≠ "..") :
    (place settings path octets).outcome w =
      ended w (room settings w path >>= (w.tree.fill · octets)) := by
  have hwrite : w.tree.writeFile (w.trail path) octets =
      w.tree.target (w.trail path) >>= (w.tree.fill · octets) := by
    rw [w.trail_concat hlast]
    exact FileTree.writeFile_eq hdown
  cases hatomic : settings.atomic.isVoid with
  | true =>
    rw [place_in_place hatomic, hwrite]
    simp [room, hatomic]
  | false =>
    rw [place_beside_of_name hatomic h hlast hdown, hwrite, FileTree.walk_resolve h.walk]
    simp [room, hatomic]

/-- Room for a file is a matter of the names. -/
theorem room_congr {last : String} (h : t.tree.Reaches (t.trail path.parent) here)
    (hlast : path.names.getLast? = some last) (hhome : u.home = t.home)
    (hkept : FileTree.KeepsBut X t.tree u.tree) : room settings u path = room settings t path := by
  have hreach := h.mono hkept
  unfold room
  rw [trail_congr hhome, trail_congr hhome, ← FileTree.walk_resolve h.walk, t.trail_concat hlast,
    h.target_congr hreach, h.self.target_congr hreach.self]

theorem Settled.mono (h : Settled settings t path) (hhome : u.home = t.home)
    (hkept : FileTree.KeepsBut X t.tree u.tree) : Settled settings u path := by
  obtain ⟨⟨last, hlast, hdown⟩, ⟨here, hreach⟩, hroom, content, hfile⟩ := h
  refine ⟨⟨last, hlast, hdown⟩, ⟨here, ?_⟩, ?_, ?_⟩
  · rw [trail_congr hhome]
    exact hreach.mono hkept
  · rw [room_congr hreach hlast hhome hkept, hroom, trail_congr hhome]
  · rw [trail_congr hhome]
    rcases hkept _ _ hfile with hsame | ⟨_, _, hother⟩
    · exact ⟨content, hsame⟩
    · exact hother

theorem room_lands (h : Writer.room settings w path = .ok here)
    (hlast : ∃ last, path.names.getLast? = some last ∧ last ≠ "..") :
    ∃ above last, w.tree.Lands (w.trail path) above last ∧ here = above ++ [last] := by
  obtain ⟨last, hlast, hdown⟩ := hlast
  have htarget : w.tree.target (w.trail path) = .ok here := by
    unfold room at h
    split at h
    · obtain ⟨_, _, h⟩ := bind_ok h
      exact h
    · exact h
  have hfinal : (w.trail path).getLast? = some last := by
    rw [w.trail_concat hlast, List.getLast?_concat]
  obtain ⟨above, hlands, hhere⟩ := FileTree.lands_of_target hfinal hdown htarget
  exact ⟨above, last, hlands, hhere⟩

theorem Settled.present (h : Settled settings t path) :
    t.tree.present (t.trail path) = .ok true := by
  obtain ⟨above, last, hlands, hplace⟩ := room_lands h.room h.named
  obtain ⟨content, hfile⟩ := h.file
  rw [hplace] at hfile
  exact FileTree.present_eq_true_iff.mpr ⟨_, hlands.stat hfile⟩

theorem Settled.ne_nil (h : Settled settings t path) : Path.resolve (t.trail path) ≠ [] := by
  obtain ⟨above, last, _, hplace⟩ := room_lands h.room h.named
  rw [hplace]
  simp

/-- A file can be put only where a path gives it a name. -/
theorem named_of_puts {node : Node} {tree : FileTree}
    (h : w.tree.Reaches (w.trail path.parent) here) (hput : w.tree.Puts (w.trail path) node tree) :
    ∃ last, path.names.getLast? = some last ∧ last ≠ ".." := by
  obtain ⟨above, last, hlands, hplace, _⟩ := hput
  have hnames : path.names ≠ [] := by
    intro hnil
    -- such a path leads to the directory itself
    rw [← hlands.resolve_eq, w.trail_of_nil hnil, ← FileTree.walk_resolve h.walk] at hplace
    exact hplace h.directory
  obtain ⟨own, hown⟩ := Option.ne_none_iff_exists'.mp (mt List.getLast?_eq_none_iff.mp hnames)
  have hfinal := hlands.final
  rw [w.trail_concat hown, List.getLast?_concat] at hfinal
  exact ⟨own, hown, Option.some.inj hfinal ▸ hlands.down⟩

/-- Putting a file settles it. -/
theorem place_settles (h : w.tree.Reaches (w.trail path.parent) here) :
    Task.Ends (place settings path octets) w (fun _ t => Settled settings t path)
      fun _ _ => True := by
  refine ⟨fun _ t ho => ?_, fun _ _ _ => trivial⟩
  obtain ⟨hhome, hput⟩ := place_ends.1 () t ho
  have hkept := (FileTree.KeepsBut.refl (fun _ => True) w.tree).puts hput fun _ _ => trivial
  obtain ⟨last, hlast, hdown⟩ := named_of_puts h hput
  rw [place_eq h hlast hdown] at ho
  cases hroom : room settings w path with
  | error fault =>
    rw [hroom] at ho
    cases ho
  | ok p =>
    obtain ⟨above, name, hlands, hp⟩ := room_lands hroom ⟨last, hlast, hdown⟩
    refine ⟨⟨last, hlast, hdown⟩, ⟨here, ?_⟩, ?_, octets, ?_⟩
    · rw [trail_congr hhome]
      exact h.mono hkept
    · rw [room_congr h hlast hhome hkept, hroom, trail_congr hhome, hlands.resolve_eq, hp]
    · rw [trail_congr hhome, hput.node?_eq, if_pos rfl]

/-- The world with a file where a path leads. -/
def putFile (t : World) (path : Path) (octets : ByteArray) : World :=
  { t with tree := t.tree.set (Path.resolve (t.trail path)) (.file octets) }

/-- A file that is settled is put over what is there. -/
theorem Settled.place (h : Settled settings t path) :
    (place settings path octets).outcome t = (.ok (), putFile t path octets) := by
  obtain ⟨content, hfile⟩ := h.file
  obtain ⟨here, hreach⟩ := h.parents
  obtain ⟨last, hlast, hdown⟩ := h.named
  rw [place_eq hreach hlast hdown, h.room]
  simp only [bind, Except.bind]
  rw [FileTree.fill_of_ne (by simp [hfile])]
  rfl

theorem Settled.kept (h : Settled settings t path) (octets : ByteArray) :
    FileTree.KeepsBut (fun _ => True) t.tree (putFile t path octets).tree := by
  intro p node hnode
  obtain ⟨content, hfile⟩ := h.file
  unfold putFile
  rw [FileTree.node?_set h.ne_nil]
  split
  · rename_i hp
    subst hp
    rw [hnode] at hfile
    exact .inr ⟨trivial, ⟨content, Option.some.inj hfile⟩, octets, rfl⟩
  · exact .inl hnode

/-- The text is not malformed, or nobody looks. -/
def Passes (settings : OutputSettings) (content : String) : Prop :=
  settings.validate.isVoid = false → validate content = .ok ()

theorem passes_of_not_refuses (h : ¬ Refuses settings w path content) :
    Passes settings content := by
  intro hlook
  cases hvalid : validate content with
  | ok => rfl
  | error e => exact absurd (.inr ⟨hlook, e, hvalid⟩) h

theorem check_outcome (hmode : settings.mode ≠ .mode .errorIfExists)
    (hpasses : Passes settings content) :
    (check settings path content).outcome w = (.ok (), w) := by
  unfold check checkPlace
  rw [if_neg hmode]
  cases hlook : settings.validate.isVoid with
  | true => rfl
  | false =>
    simp only [hpasses hlook]
    rfl

/-- What one write does to a tree in which other files are settled. -/
structure Settles (settings : OutputSettings) (w : World) (path : Path) (content : String)
    (t : World) : Prop where
  home : t.home = w.home
  passes : Passes settings content
  settled : Settled settings t path
  text : t.tree.node? (Path.resolve (w.trail path)) = some (.file (Text.toOctets content))
  others : ∀ p node, p ≠ Path.resolve (w.trail path) → w.tree.node? p = some node →
    t.tree.node? p = some node
  kept : FileTree.KeepsBut (fun _ => True) w.tree t.tree

theorem write_settles (settings : OutputSettings) (w : World) (path : Path) (content : String) :
    Task.Ends (write settings path content) w (fun _ t => Settles settings w path content t)
      fun _ _ => True := by
  unfold write
  refine (check_ends.imp (fun _ _ h => h) fun _ _ _ => trivial).bind ?_
  rintro _ _ ⟨rfl, hfree⟩
  refine ((makeParents_ends.and makeParents_reaches).imp (fun _ _ h => h)
    fun _ _ _ => trivial).bind ?_
  rintro _ t ⟨⟨hhome, hmade⟩, -, here, hreach⟩
  refine (place_ends.and (place_settles hreach)).imp ?_ fun _ _ _ => trivial
  rintro _ u ⟨⟨hhome', hput⟩, hsettled⟩
  have hkept := ((FileTree.KeepsBut.refl (fun _ => True) _).extends hmade).puts hput
    fun _ _ => trivial
  rw [trail_congr hhome] at hput
  refine ⟨hhome'.trans hhome, passes_of_not_refuses hfree, hsettled, ?_, ?_, hkept⟩
  · rw [hput.node?_eq, if_pos rfl]
  · intro p node hp hnode
    rw [hput.node?_eq, if_neg hp]
    exact hmade.keeps p node hnode

/-- A file that is settled can be written again, unless that is forbidden. -/
theorem Settled.write (h : Settled settings t path) (hmode : settings.mode ≠ .mode .errorIfExists)
    (hpasses : Passes settings content) : (write settings path content).outcome t =
      (.ok (), putFile t path (Text.toOctets content)) := by
  obtain ⟨here, hreach⟩ := h.parents
  have hparents : (makeParents path).outcome t = (.ok (), t) := by
    unfold makeParents
    rw [Task.outcome_get_bind]
    dsimp only
    rw [hreach.makeDirectories]
    rfl
  unfold Writer.write
  rw [Task.outcome_bind, check_outcome hmode hpasses]
  dsimp only
  rw [Task.outcome_bind, hparents]
  exact h.place

/-- If nothing may be replaced, a file that is settled is in the way. -/
theorem Settled.refused (h : Settled settings t path) (content : String) :
    (check { settings with mode := .mode .errorIfExists } path content).outcome t =
      (.error (.output (.alreadyExists path.toString)), t) := by
  unfold check checkPlace
  rw [if_pos rfl, Task.outcome_bind, Task.outcome_get_bind, h.present]
  rfl

/-- Being settled has nothing to do with what is forbidden. -/
theorem Settled.of_mode (h : Settled settings t path) (mode : ModeSetting) :
    Settled { settings with mode } t path :=
  ⟨h.named, h.parents, h.room, h.file⟩

/-! ## All files -/

/-- What a batch writes, and where. -/
def writes (w : World) (root : Path) (files : List (String × String)) : List (Position × Node) :=
  files.map fun file => (Path.resolve (w.trail (root / file.1)), .file (Text.toOctets file.2))

theorem writes_concat (w : World) (root : Path) (files : List (String × String))
    (file : String × String) : writes w root (files ++ [file]) = writes w root files ++
      [(Path.resolve (w.trail (root / file.1)), .file (Text.toOctets file.2))] := by
  simp [writes]

theorem writes_congr (hhome : t.home = w.home) : writes t root files = writes w root files := by
  unfold writes
  simp only [trail_congr hhome]

/-- The files of a batch are settled, and each place has the text that it has got last. -/
structure Laid (settings : OutputSettings) (w : World) (root : Path)
    (files : List (String × String)) (t : World) : Prop where
  home : t.home = w.home
  settled : ∀ file ∈ files, Settled settings t (root / file.1)
  passes : ∀ file ∈ files, Passes settings file.2
  texts : ∀ p node, FileTree.lastPut p (writes w root files) = some node →
    t.tree.node? p = some node

theorem Laid.nil (settings : OutputSettings) (w : World) (root : Path) :
    Laid settings w root [] w :=
  ⟨rfl, nofun, nofun, nofun⟩

/-- Writing one more file settles it, and unsettles none. -/
theorem Laid.concat {past : List (String × String)} {file : String × String}
    (h : Laid settings w root past t)
    (hnew : Settles settings t (root / file.1) file.2 u) :
    Laid settings w root (past ++ [file]) u where
  home := hnew.home.trans h.home
  settled := by
    rw [List.forall_mem_append, List.forall_mem_singleton]
    exact ⟨fun other ho => (h.settled other ho).mono hnew.home hnew.kept, hnew.settled⟩
  passes := by
    rw [List.forall_mem_append, List.forall_mem_singleton]
    exact ⟨h.passes, hnew.passes⟩
  texts := by
    intro p node hlast
    have htext := hnew.text
    have hothers := hnew.others
    rw [trail_congr h.home] at htext hothers
    rw [writes_concat, FileTree.lastPut_concat] at hlast
    dsimp only at hlast
    split at hlast
    · rename_i hp
      cases hlast
      exact hp ▸ htext
    · rename_i hp
      exact hothers p node (Ne.symm hp) (h.texts p node hlast)

theorem Laid.retold (h : Laid settings w root files t) (hhome : u.home = t.home)
    (htree : u.tree = t.tree) : Laid settings w root files u where
  home := hhome.trans h.home
  settled := by
    intro file hf
    refine (h.settled file hf).mono (X := fun _ => True) hhome ?_
    rw [htree]
    exact .refl _ _
  passes := h.passes
  texts := htree ▸ h.texts

/-- A batch that returns has settled its files. -/
theorem writeAll_lays : Task.Ends (writeAll (.settings settings) root files) w
    (fun written t => Laid settings w root (inOrder files) t ∧
      written = (inOrder files).map fun file => root / file.1)
    fun _ _ => True := by
  refine (writeAll_keeps (fun past t => Laid settings w root past t) ?_ ?_
    (.nil settings w root)).imp (fun _ _ h => ⟨h.1, h.2.2⟩) fun _ _ h => h
  · rintro _ past file rest t _ ⟨⟩ hpast
    exact (write_settles settings _ _ _).imp (fun _ u hnew => hpast.concat hnew) fun _ _ h => h
  · exact fun t u hlaid hhome htree => hlaid.retold hhome htree

/-- Settled files can be written one after the other, whatever they are written over. -/
theorem writeEach_settled {items : List (String × String)}
    (hmode : settings.mode ≠ .mode .errorIfExists)
    (hsettled : ∀ file ∈ items, Settled settings t (root / file.1))
    (hpasses : ∀ file ∈ items, Passes settings file.2) :
    Task.Ends
      (items.mapM fun file => do
        write (← Task.ofExcept (OutputSetting.settings settings).get) (root / file.1) file.2
        return root / file.1) t
      (fun written u => u.home = t.home ∧
        u.tree.entries = FileTree.putAll (writes t root items) t.tree.entries ∧
        written = items.map fun file => root / file.1)
      fun _ _ => False := by
  refine (Task.Ends.mapM_results (fun past written u => u.home = t.home ∧
    (∀ file ∈ items, Settled settings u (root / file.1)) ∧
    u.tree.entries = FileTree.putAll (writes t root past) t.tree.entries ∧
    written = past.map fun file => root / file.1) ?_ ⟨rfl, hsettled, rfl, rfl⟩).imp ?_
      fun _ _ h => h
  · rintro past file rest written u hsplit ⟨hhome, hplaced, hentries, rfl⟩
    have hfile : file ∈ items := hsplit ▸ by simp
    have hwrite := (hplaced file hfile).write hmode (hpasses file hfile)
    refine .ofExcept_bind ?_ nofun
    rintro _ ⟨⟩
    refine (Task.Ends.of_outcome hwrite).bind ?_
    rintro _ _ ⟨rfl, rfl⟩
    refine .pure ⟨hhome, fun other ho => ?_, ?_, by simp⟩
    · exact (hplaced other ho).mono rfl ((hplaced file hfile).kept _)
    · change FileTree.put _ _ u.tree.entries = _
      rw [hentries, writes_concat, trail_congr hhome]
      simp [FileTree.putAll]
  · rintro written u ⟨hhome, -, hentries, hwritten⟩
    exact ⟨hhome, hentries, hwritten⟩

/-- Writing once more what has been laid would change nothing. -/
theorem Laid.putAll_eq (h : Laid settings w root files t) :
    FileTree.putAll (writes t root files) t.tree.entries = t.tree.entries := by
  refine FileTree.putAll_self fun p node hlast => ?_
  rw [writes_congr h.home] at hlast
  have hnode := h.texts p node hlast
  obtain ⟨file, hf, hwrite⟩ := List.mem_map.mp (FileTree.mem_of_lastPut hlast)
  have hp : p ≠ [] := by
    rw [← (Prod.mk.inj hwrite).1, ← trail_congr h.home]
    exact (h.settled file hf).ne_nil
  unfold FileTree.node? at hnode
  rwa [if_neg hp] at hnode

/-- What has been laid can be written again, and stays as it is. -/
theorem Laid.again {mode : ModeSetting} (hmode : mode ≠ .mode .errorIfExists)
    (h : Laid settings w root (inOrder files) t) :
    Task.Ends (writeAll (.settings { settings with mode }) root files) t
      (fun written u => u.home = t.home ∧ u.tree = t.tree ∧
        written = (inOrder files).map fun file => root / file.1)
      fun _ _ => False := by
  have hchecked : Task.Ends
      ((inOrder files).forM fun file => do
        check (← Task.ofExcept (OutputSetting.settings { settings with mode }).get)
          (root / file.1) file.2) t
      (fun _ u => u = t) fun _ _ => False := by
    refine .forM (fun _ u => u = t) ?_ rfl
    rintro past file rest _ hsplit rfl
    refine .ofExcept_bind ?_ nofun
    rintro _ ⟨⟩
    have hpasses : Passes { settings with mode } file.2 := h.passes file (hsplit ▸ by simp)
    refine (Task.Ends.of_outcome (check_outcome ?_ hpasses)).imp (fun _ _ h => h.2) fun _ _ h => h
    exact hmode
  refine hchecked.bind ?_
  rintro _ _ rfl
  refine (writeEach_settled hmode (fun file hf => (h.settled file hf).of_mode mode)
    h.passes).bind ?_
  rintro written u ⟨hhome, hentries, rfl⟩
  refine report_ends.bind ?_
  rintro _ v ⟨hhome', htree⟩
  refine .pure ⟨hhome'.trans hhome, htree.trans ?_, rfl⟩
  exact congrArg FileTree.mk (hentries.trans h.putAll_eq)

/-- Where nothing may be replaced the first file that has been laid is in the way. -/
theorem Laid.refused (h : Laid settings w root (inOrder files) t) (hfiles : files ≠ []) :
    ∃ file ∈ files,
      (writeAll (.settings { settings with mode := .mode .errorIfExists }) root files).outcome t =
        (.error (.output (.alreadyExists (root / file.1).toString)), t) := by
  obtain ⟨file, rest, hordered⟩ : ∃ file rest, inOrder files = file :: rest := by
    refine List.exists_cons_of_ne_nil fun hnil => hfiles ?_
    refine List.eq_nil_iff_forall_not_mem.mpr fun file hf => ?_
    rw [← mem_inOrder, hnil] at hf
    cases hf
  have hf : file ∈ inOrder files := hordered ▸ List.mem_cons_self
  refine ⟨file, mem_inOrder.mp hf, ?_⟩
  unfold writeAll
  dsimp only
  rw [Task.outcome_bind, hordered]
  rw [List.forM, Task.outcome_bind, Task.outcome_bind]
  have hget : (Task.ofExcept (OutputSetting.settings
      { settings with mode := .mode .errorIfExists }).get).outcome t =
        (.ok { settings with mode := .mode .errorIfExists }, t) := rfl
  rw [hget]
  dsimp only
  rw [(h.settled file hf).refused]

/-- A batch that has been written can be written again: if files may be replaced it returns and the
tree stays as it is, and if not it is refused, and the tree stays as it is too. -/
theorem writeAll_repeats {written : List Path}
    (h : (writeAll (.settings settings) root files).outcome w = (.ok written, t)) :
    (∃ u, (writeAll (.settings { settings with mode := .mode .force }) root files).outcome t =
        (.ok written, u) ∧ u.home = t.home ∧ u.tree = t.tree) ∧
      (files ≠ [] → ∃ file ∈ files,
        (writeAll (.settings { settings with mode := .mode .errorIfExists }) root files).outcome t =
          (.error (.output (.alreadyExists (root / file.1).toString)), t)) := by
  obtain ⟨hlaid, rfl⟩ := writeAll_lays.1 _ _ h
  refine ⟨?_, hlaid.refused⟩
  have hforce : ModeSetting.mode .force ≠ .mode .errorIfExists := nofun
  obtain ⟨_, u, hagain, hhome, htree, rfl⟩ := (hlaid.again hforce).returns
  exact ⟨u, hagain, hhome, htree⟩

/-- Two module paths that lead to one file. The second goes through a directory that is missing when
the file is looked for, so it is not refused. -/
def windingFiles : List (String × String) := [("b.ts", "1"), ("x/../b.ts", "2")]

/-- The world when they have been written. -/
def wound : World where
  home := []
  tree := ⟨[(["b.ts"], .file (Text.toOctets "2")), (["x"], .directory)]⟩
  log := [⟨.info, "Wrote 2 files to ."⟩]

theorem windingFiles_written :
    (writeAll (.settings guarding) (Path.ofString "") windingFiles).outcome bare =
      (.ok [Path.ofString "b.ts", Path.ofString "x/../b.ts"], wound) := by
  cbv

/-- They can be written again, the one over the other, and none of them where nothing may be
replaced. -/
theorem writeAll_repeats_of_windingFiles :
    (writeAll (.settings guarding) (Path.ofString "") windingFiles).outcome bare =
        (.ok [Path.ofString "b.ts", Path.ofString "x/../b.ts"], wound) ∧
      (∃ u, (writeAll (.settings { guarding with mode := .mode .force }) (Path.ofString "")
          windingFiles).outcome wound =
            (.ok [Path.ofString "b.ts", Path.ofString "x/../b.ts"], u) ∧
          u.home = wound.home ∧ u.tree = wound.tree) ∧
      ∃ file ∈ windingFiles, (writeAll (.settings { guarding with mode := .mode .errorIfExists })
          (Path.ofString "") windingFiles).outcome wound =
            (.error (.output (.alreadyExists (Path.ofString "" / file.1).toString)), wound) := by
  have h := writeAll_repeats windingFiles_written
  exact ⟨windingFiles_written, h.1, h.2 (by decide)⟩

end Writer

end ApiTypings
