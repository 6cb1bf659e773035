import Mathlib
import ApiTypings.Files.Writer
import ApiTypings.Proofs.Effects
import ApiTypings.Proofs.Endings
import ApiTypings.Proofs.Orders

/-!
# Batches that are refused

All files of a batch are checked before the first is written, and each once more before
it is written itself. A refusal by the first of these leaves the tree as it was. One by the
second does not: it comes from what the batch itself has written, where two of its paths lead
to one place or the one leads through the other.
-/

namespace ApiTypings

/-- The failure is an answer of the file system. -/
def FromFileSystem (e : Failure) : Prop := ∃ fault, e = .fault (.file fault)

theorem ofFileSystem_ends {α : Type} {w : World} {answer : Except FileFault α} :
    Task.Ends (ofFileSystem answer) w (fun a t => t = w ∧ answer = .ok a)
      fun e t => t = w ∧ FromFileSystem e := by
  cases answer with
  | ok a => exact .pure ⟨rfl, rfl⟩
  | error fault => exact .throw ⟨rfl, fault, rfl⟩

theorem changeTree_ends {w : World} {change : FileTree → Except FileFault FileTree} :
    Task.Ends (changeTree change) w (fun _ t => t.home = w.home ∧ change w.tree = .ok t.tree)
      fun e t => t = w ∧ FromFileSystem e := by
  refine .get (ofFileSystem_ends.bind ?_)
  rintro tree _ ⟨rfl, ht⟩
  exact .modify ⟨rfl, ht⟩

theorem report_ends {w : World} {level : Level} {text : String} {bad : Failure → World → Prop} :
    Task.Ends (report level text) w (fun _ t => t.home = w.home ∧ t.tree = w.tree) bad :=
  .modify ⟨rfl, rfl⟩

namespace Writer

variable {settings : OutputSettings} {w t : World} {path : Path} {content : String}

/-- What is at the place of a file must not be there, or its text is malformed. -/
def Refuses (settings : OutputSettings) (w : World) (path : Path) (content : String) : Prop :=
  (settings.mode = .mode .errorIfExists ∧ w.tree.present (w.trail path) = .ok true) ∨
    (settings.validate.isVoid = false ∧ ∃ e, validate content = .error e)

theorem refuses_congr (hhome : t.home = w.home) (htree : t.tree = w.tree) :
    Refuses settings t path content ↔ Refuses settings w path content := by
  unfold Refuses
  rw [trail_congr hhome, htree]

/-- Looking whether a file is there changes nothing. -/
theorem checkPlace_ends : Task.Ends (checkPlace settings path) w
    (fun _ t => t = w ∧
      ¬ (settings.mode = .mode .errorIfExists ∧ w.tree.present (w.trail path) = .ok true))
    fun e t => t = w ∧ ∀ o, e = .output o →
      settings.mode = .mode .errorIfExists ∧ w.tree.present (w.trail path) = .ok true := by
  unfold checkPlace
  split
  · rename_i hmode
    refine .get ?_
    cases hp : w.tree.present (w.trail path) with
    | error fault => exact .throw ⟨rfl, nofun⟩
    | ok there =>
      cases there with
      | false => exact .pure ⟨rfl, fun h => by cases h.2⟩
      | true => exact .throw ⟨rfl, fun _ _ => ⟨hmode, rfl⟩⟩
  · rename_i hmode
    exact .pure ⟨rfl, fun h => hmode h.1⟩

/-- Checking changes nothing, and fails if the file is refused. -/
theorem check_ends : Task.Ends (check settings path content) w
    (fun _ t => t = w ∧ ¬ Refuses settings w path content)
    fun e t => t = w ∧ ∀ o, e = .output o → Refuses settings w path content := by
  unfold check
  refine Task.Ends.bind (checkPlace_ends.imp (fun _ _ h => h)
    fun e t h => ⟨h.1, fun o ho => .inl (h.2 o ho)⟩) ?_
  rintro _ _ ⟨rfl, hplace⟩
  split
  · rename_i hvalidate
    split
    · rename_i hvalid
      exact .pure ⟨rfl, not_or.mpr ⟨hplace, fun ⟨_, e, he⟩ => by cases hvalid.symm.trans he⟩⟩
    · rename_i e he
      exact .throw ⟨rfl, fun _ _ => .inr ⟨by simpa using hvalidate, e, he⟩⟩
  · rename_i hvalidate
    exact .pure ⟨rfl, not_or.mpr ⟨hplace, fun h => hvalidate (by simp [h.1])⟩⟩

/-! ## Writing one file -/

theorem trail_parent (w : World) (path : Path) : w.trail path.parent <+: w.trail path := by
  unfold World.trail
  have hstart : path.parent.isAbsolute = path.isAbsolute := rfl
  rw [hstart]
  split
  · exact List.dropLast_prefix _
  · exact (List.prefix_append_right_inj _).mpr (List.dropLast_prefix _)

/-- Making the directories that lead to a file does nothing else. -/
theorem makeParents_ends : Task.Ends (makeParents path) w
    (fun _ t => t.home = w.home ∧ FileTree.Extends (w.trail path.parent) w.tree t.tree)
    fun e t => t.home = w.home ∧ FileTree.Extends (w.trail path.parent) w.tree t.tree ∧
      FromFileSystem e := by
  have hmade := FileTree.makeDirectories_extends (w.trail path.parent)
    (w.trail path.parent).length w.tree
  unfold makeParents
  refine .get (.set (ofFileSystem_ends.imp ?_ ?_))
  · rintro _ _ ⟨rfl, _⟩
    exact ⟨rfl, hmade⟩
  · rintro _ _ ⟨rfl, hfault⟩
    exact ⟨rfl, hmade, hfault⟩

/-- Either way of putting a file into its directory puts it there, or leaves all as it was. -/
theorem place_ends {octets : ByteArray} : Task.Ends (place settings path octets) w
    (fun _ t => t.home = w.home ∧ w.tree.Puts (w.trail path) (.file octets) t.tree)
    fun e t => t = w ∧ FromFileSystem e := by
  unfold place
  refine .get ?_
  dsimp only
  split
  · exact changeTree_ends.imp (fun _ _ h => ⟨h.1, FileTree.writeFile_puts h.2⟩) fun _ _ h => h
  · refine .set ?_
    cases hdone : (writeAtomically (w.trail path.parent) path.name octets
        (if path.names.isEmpty = true then [] else w.trail path) w.tree).1 with
    | ok =>
      refine .pure ⟨rfl, ?_⟩
      have hput := writeAtomically_puts hdone
      by_cases hnames : path.names.isEmpty = true
      · rw [if_pos hnames] at hput
        obtain ⟨_, _, hlands, _⟩ := hput
        cases hlands.final
      · rw [if_neg hnames] at hput ⊢
        exact hput
    | error fault =>
      refine .throw ⟨?_, fault, rfl⟩
      rw [writeAtomically_failed hdone]

/-- Writing makes the directories that lead to the file, and then the file. If it fails, directories
are all it has made; and it is refused only before anything is done. -/
theorem write_ends : Task.Ends (write settings path content) w
    (fun _ t => t.home = w.home ∧ ¬ Refuses settings w path content ∧
      ∃ made, FileTree.Extends (w.trail path.parent) w.tree made ∧
        made.Puts (w.trail path) (.file (Text.toOctets content)) t.tree)
    fun e t => t.home = w.home ∧ FileTree.Extends (w.trail path.parent) w.tree t.tree ∧
      ∀ o, e = .output o → t = w ∧ Refuses settings w path content := by
  have hfault : ∀ {e : Failure} {t : World}, FromFileSystem e →
      ∀ o, e = .output o → t = w ∧ Refuses settings w path content := by
    rintro _ t ⟨fault, rfl⟩ o ⟨⟩
  unfold write
  refine Task.Ends.bind (check_ends.imp (fun _ _ h => h) ?_) ?_
  · rintro e _ ⟨rfl, hrefused⟩
    exact ⟨rfl, .refl _ _, fun o ho => ⟨rfl, hrefused o ho⟩⟩
  rintro _ _ ⟨rfl, hfree⟩
  refine Task.Ends.bind (makeParents_ends.imp (fun _ _ h => h) ?_) ?_
  · rintro e t ⟨hhome, hmade, he⟩
    exact ⟨hhome, hmade, hfault he⟩
  rintro _ t ⟨hhome, hmade⟩
  refine place_ends.imp ?_ ?_
  · rintro _ u ⟨hu, hput⟩
    rw [trail_congr hhome] at hput
    exact ⟨hu.trans hhome, hfree, t.tree, hmade, hput⟩
  · rintro e _ ⟨rfl, he⟩
    exact ⟨hhome, hmade, hfault he⟩

/-! ## Writing all files -/

section Batch

variable {setting : OutputSetting} {root : Path} {files : List (String × String)}

/-- The tree has nothing that was not there, but what lies on the way to files of the batch. -/
def AddsFiles (root : Path) (w : World) (files : List (String × String)) (t : World) : Prop :=
  ∀ p, (t.tree.node? p).isSome →
    (w.tree.node? p).isSome ∨ ∃ file ∈ files, p <+: w.trail (root / file.1)

theorem AddsFiles.nil (root : Path) (w : World) : AddsFiles root w [] w := fun _ hp => .inl hp

theorem AddsFiles.concat {past : List (String × String)} {file : String × String} {t u : World}
    (h : AddsFiles root w past t) (hu : FileTree.Adds (w.trail (root / file.1)) t.tree u.tree) :
    AddsFiles root w (past ++ [file]) u := by
  intro p hp
  rcases hu p hp with hp | hp
  · rcases h p hp with hp | ⟨other, ho, hp⟩
    · exact .inl hp
    · exact .inr ⟨other, List.mem_append_left _ ho, hp⟩
  · exact .inr ⟨file, by simp, hp⟩

/-- What is not there does not come to be there by writing files whose places do not lie at it or
below it. -/
theorem Refuses.before {past : List (String × String)} (h : Refuses settings t path content)
    (hclosed : w.tree.Closed) (hhome : t.home = w.home) (hadds : AddsFiles root w past t)
    (hn : ".." ∉ w.trail path)
    (hpast : ∀ file ∈ past, ¬ w.trail path <+: w.trail (root / file.1)) :
    Refuses settings w path content := by
  rcases h with ⟨hmode, hp⟩ | hinvalid
  · rw [trail_congr hhome, FileTree.present_eq_true_iff] at hp
    obtain ⟨node, hstat⟩ := hp
    obtain ⟨hnode, hcheck, hshort⟩ := FileTree.stat_ok hn hstat
    rcases hadds _ (by rw [hnode]; rfl) with hthere | ⟨file, hf, hstart⟩
    · exact .inl ⟨hmode, FileTree.present_eq_true_iff.mpr (hclosed.stat hn hcheck hshort hthere)⟩
    · exact absurd hstart (hpast file hf)
  · exact .inr hinvalid

/-- Nothing of the batch leads back, and no file has its place at or above that of one which is
written before it. -/
structure Apart (w : World) (root : Path) (files : List (String × String)) : Prop where
  down : ∀ file ∈ files, ".." ∉ w.trail (root / file.1)
  pairwise : (inOrder files).Pairwise fun a b =>
    ¬ w.trail (root / b.1) <+: w.trail (root / a.1)

/-- Files at different plain paths are apart, below any root that does not lead back: the path of a
directory comes before those of the files in it. -/
theorem Apart.of_plain (hroot : ".." ∉ w.trail root) (hplain : ∀ file ∈ files, Path.Plain file.1)
    (hkeys : (files.map Prod.fst).Nodup) : Apart w root files := by
  constructor
  · intro file hf
    rw [(hplain file hf).trail, List.mem_append, not_or]
    exact ⟨hroot, (hplain file hf).not_back⟩
  · have hperm : (inOrder files).Perm files := List.mergeSort_perm _ _
    have hdistinct : (inOrder files).Pairwise fun a b => a.1 ≠ b.1 :=
      List.pairwise_map.mp ((hperm.map Prod.fst).nodup_iff.mpr hkeys)
    have hsorted := pairwise_sortedBy Prod.fst files
    refine List.Pairwise.imp_of_mem ?_ (hsorted.and hdistinct)
    rintro a b ha hb ⟨hle, hne⟩ hstart
    rw [(hplain a (hperm.mem_iff.mp ha)).trail, (hplain b (hperm.mem_iff.mp hb)).trail,
      List.prefix_append_right_inj] at hstart
    have hnlt : ¬ a.1 < b.1 := by
      rw [String.lt_iff_toList_lt]
      exact List.not_lt.mpr (Text.prefix_of_split_prefix hstart).le
    exact hne (le_antisymm hle (not_lt.mp hnlt))

theorem mem_inOrder {file : String × String} : file ∈ inOrder files ↔ file ∈ files :=
  List.mem_mergeSort

theorem get_ne_output {e : Failure} (h : setting.get = .error e) (o : OutputError) :
    e ≠ .output o := by
  rintro rfl
  unfold OutputSetting.get at h
  split at h
  · cases h
  · split at h <;> cases h

/-- Reading the settings changes nothing, and does not refuse the batch. -/
theorem get_ends {bad : Failure → World → Prop} (hbad : ∀ e t, (∀ o, e ≠ .output o) → bad e t) :
    Task.Ends (Task.ofExcept setting.get) w (fun settings t => t = w ∧ setting.get = .ok settings)
      bad :=
  .ofExcept (fun _ ha => ⟨rfl, ha⟩) fun e he => hbad e w (get_ne_output he)

/-- Some file of the batch is refused by the world as it is. -/
def RefusesAny (setting : OutputSetting) (root : Path) (files : List (String × String))
    (w : World) : Prop :=
  ∃ settings, setting.get = .ok settings ∧
    ∃ file ∈ files, Refuses settings w (root / file.1) file.2

/-- A file of the batch is refused when the files before it have been written. -/
structure RefusedBetween (setting : OutputSetting) (root : Path) (files : List (String × String))
    (w t : World) (past : List (String × String)) (file : String × String) : Prop where
  split : ∃ rest, past ++ file :: rest = inOrder files
  home : t.home = w.home
  adds : (∀ file ∈ files, ".." ∉ w.trail (root / file.1)) → AddsFiles root w past t
  refused : ∃ settings, setting.get = .ok settings ∧ Refuses settings t (root / file.1) file.2

/-- Checking the files changes nothing. -/
theorem checkAll_ends : Task.Ends
    ((inOrder files).forM fun file => do
      check (← Task.ofExcept setting.get) (root / file.1) file.2) w
    (fun _ t => t = w ∧ ¬ RefusesAny setting root files w)
    fun e t => ∀ o, e = .output o → t = w ∧ RefusesAny setting root files w := by
  refine (Task.Ends.forM (fun past t => t = w ∧ ¬ RefusesAny setting root past w) ?_
    ⟨rfl, fun ⟨_, _, _, hf, _⟩ => nomatch hf⟩).imp ?_ fun _ _ h => h
  · rintro past file rest _ hsplit ⟨rfl, hpast⟩
    refine (get_ends fun e t h o ho => absurd ho (h o)).bind ?_
    rintro settings _ ⟨rfl, hget⟩
    refine check_ends.imp ?_ ?_
    · rintro _ _ ⟨rfl, hfile⟩
      refine ⟨rfl, ?_⟩
      rintro ⟨settings', hget', other, ho, hother⟩
      rcases List.mem_append.mp ho with ho | ho
      · exact hpast ⟨settings', hget', other, ho, hother⟩
      · cases hget.symm.trans hget'
        rw [List.mem_singleton.mp ho] at hother
        exact hfile hother
    · rintro e _ ⟨rfl, he⟩ o ho
      exact ⟨rfl, settings, hget, file, mem_inOrder.mp (hsplit ▸ by simp), he o ho⟩
  · rintro _ _ ⟨rfl, hnone⟩
    refine ⟨rfl, ?_⟩
    rintro ⟨settings, hget, file, hf, hfile⟩
    exact hnone ⟨settings, hget, file, mem_inOrder.mpr hf, hfile⟩

/-- What every write of a batch keeps is kept by the batch, if it returns; and it returns the paths in
their order. -/
theorem writeAll_keeps (kept : List (String × String) → World → Prop)
    (turn : ∀ settings past file rest t, past ++ file :: rest = inOrder files →
      setting.get = .ok settings → kept past t →
        Task.Ends (write settings (root / file.1) file.2) t (fun _ u => kept (past ++ [file]) u)
          fun _ _ => True)
    (retold : ∀ t u, kept (inOrder files) t → u.home = t.home → u.tree = t.tree →
      kept (inOrder files) u) (hs : kept [] w) :
    Task.Ends (writeAll setting root files) w
      (fun written t => kept (inOrder files) t ∧ ¬ RefusesAny setting root files w ∧
        written = (inOrder files).map fun file => root / file.1)
      fun _ _ => True := by
  refine Task.Ends.bind (checkAll_ends.imp (fun _ _ h => h) fun _ _ _ => trivial) ?_
  rintro _ w ⟨rfl, hnone⟩
  refine Task.Ends.bind (Task.Ends.mapM_results (fun past written t =>
    kept past t ∧ written = past.map fun file => root / file.1) ?_ ⟨hs, rfl⟩) ?_
  · rintro past file rest written t hsplit ⟨hpast, rfl⟩
    refine (get_ends fun _ _ _ => trivial).bind ?_
    rintro settings _ ⟨rfl, hget⟩
    refine (turn settings past file rest _ hsplit hget hpast).bind ?_
    exact fun _ u hu => .pure ⟨hu, by simp⟩
  · rintro written t ⟨hkept, rfl⟩
    refine report_ends.bind ?_
    rintro _ u ⟨hhome, htree⟩
    exact .pure ⟨retold t u hkept hhome htree, hnone, rfl⟩

/-- Writing the files adds what is their own, and is refused between two of them if at all. -/
theorem writeEach_ends : Task.Ends
    ((inOrder files).mapM fun file => do
      write (← Task.ofExcept setting.get) (root / file.1) file.2
      return root / file.1) w
    (fun _ _ => True)
    fun e t => ∀ o, e = .output o →
      ∃ past file, RefusedBetween setting root files w t past file := by
  refine (Task.Ends.mapM (fun past t => t.home = w.home ∧
    ((∀ file ∈ files, ".." ∉ w.trail (root / file.1)) → AddsFiles root w past t)) ?_
      ⟨rfl, fun _ => .nil root w⟩).imp (fun _ _ _ => trivial) fun _ _ h => h
  rintro past file rest t hsplit ⟨hhome, hadds⟩
  refine (get_ends fun e t h o ho => absurd ho (h o)).bind ?_
  rintro settings _ ⟨rfl, hget⟩
  refine Task.Ends.bind (write_ends.imp (fun _ _ h => h) ?_) ?_
  · rintro e u ⟨_, _, h⟩ o ho
    obtain ⟨rfl, hrefused⟩ := h o ho
    exact ⟨past, file, ⟨rest, hsplit⟩, hhome, hadds, settings, hget, hrefused⟩
  · rintro _ u ⟨hu, _, made, hmade, hput⟩
    refine .pure ⟨hu.trans hhome, fun hdown => (hadds hdown).concat ?_⟩
    replace hmade := hmade.mono (trail_parent _ _)
    rw [trail_congr hhome] at hmade hput
    have hfile := hdown file (mem_inOrder.mp (hsplit ▸ by simp))
    exact (hmade.adds hfile).trans (hput.adds hfile)

/-- A batch is refused by the first check of a file, or by the second one between two files. -/
theorem writeAll_ends : Task.Ends (writeAll setting root files) w (fun _ _ => True)
    fun e t => ∀ o, e = .output o →
      (t = w ∧ RefusesAny setting root files w) ∨
        (¬ RefusesAny setting root files w ∧
          ∃ past file, RefusedBetween setting root files w t past file) := by
  refine (checkAll_ends.imp (fun _ _ h => h) fun e t h o ho => .inl (h o ho)).bind ?_
  rintro _ w ⟨rfl, hnone⟩
  refine (writeEach_ends.imp (fun _ _ h => h) fun e t h o ho => .inr ⟨hnone, h o ho⟩).bind ?_
  exact fun _ _ _ => report_ends.bind fun _ _ _ => .pure trivial

/-- A batch that is refused leaves the tree as it was exactly if a file is refused by the tree as it
was. So it does if files may be replaced, and if the files of the batch are apart. -/
theorem writeAll_refused {e : OutputError} {w' : World}
    (h : (writeAll setting root files).outcome w = (.error (.output e), w')) :
    ∃ settings, setting.get = .ok settings ∧
      (w'.tree = w.tree ↔ ∃ file ∈ files, Refuses settings w (root / file.1) file.2) ∧
      (settings.mode ≠ .mode .errorIfExists → w'.tree = w.tree) ∧
      (w.tree.Closed → Apart w root files → w'.tree = w.tree) := by
  rcases writeAll_ends.2 _ _ h e rfl with ⟨rfl, settings, hget, hfile⟩ | ⟨hnone, past, file, hb⟩
  · exact ⟨settings, hget, iff_of_true rfl hfile, fun _ => rfl, fun _ _ => rfl⟩
  · obtain ⟨rest, hsplit⟩ := hb.split
    obtain ⟨settings, hget, hrefused⟩ := hb.refused
    have hfile : file ∈ files := mem_inOrder.mp (hsplit ▸ by simp)
    have hbefore : ¬ Refuses settings w (root / file.1) file.2 :=
      fun hr => hnone ⟨settings, hget, file, hfile, hr⟩
    refine ⟨settings, hget, iff_of_false (fun htree => ?_) (fun hr => hnone ⟨settings, hget, hr⟩),
      ?_, ?_⟩
    · exact hbefore ((refuses_congr hb.home htree).mp hrefused)
    · intro hmode
      rcases hrefused with ⟨hm, _⟩ | hinvalid
      · exact absurd hm hmode
      · exact absurd (.inr hinvalid) hbefore
    · intro hclosed hapart
      have hpairwise := hapart.pairwise
      rw [← hsplit, List.pairwise_append] at hpairwise
      have hpast : ∀ other ∈ past, ¬ w.trail (root / file.1) <+: w.trail (root / other.1) :=
        fun other ho => hpairwise.2.2 other ho file (List.mem_cons_self ..)
      exact absurd (hrefused.before hclosed hb.home (hb.adds hapart.down)
        (hapart.down file hfile) hpast) hbefore

end Batch

/-- Settings under which nothing is replaced, and files are written where they stand. -/
def keeping : OutputSetting := .settings { mode := .mode .errorIfExists, atomic := .bool false }

/-- A world in which one file is there. -/
def standing : World where
  home := []
  tree := ⟨[(["b.ts"], .file ⟨#[]⟩)]⟩

/-- Two files, for the second of which there is one already. -/
def overlapping : List (String × String) := [("a.ts", "1"), ("b.ts", "2")]

theorem standing_closed : standing.tree.Closed := by
  intro p name h
  unfold FileTree.node? at h
  rw [if_neg (by simp)] at h
  have hp : ["b.ts"] = p ++ [name] := by
    by_contra hne
    simp [standing, FileTree.find, hne] at h
  rw [show p = [] from (List.append_eq_singleton_iff.mp hp.symm).elim (·.1) fun h => by simp at h]
  rfl

theorem overlapping_apart : Apart standing (Path.ofString "") overlapping := by
  refine .of_plain (by decide) ?_ (by decide)
  unfold Path.Plain
  decide

theorem overlapping_refused :
    (writeAll keeping (Path.ofString "") overlapping).outcome standing =
      (.error (.output (.alreadyExists "b.ts")), standing) := by
  cbv

theorem writeAll_refused_of_overlapping :
    (writeAll keeping (Path.ofString "") overlapping).outcome standing =
        (.error (.output (.alreadyExists "b.ts")), standing) ∧
      standing.tree.Closed ∧ Apart standing (Path.ofString "") overlapping ∧
      ∃ settings, keeping.get = .ok settings ∧
        (standing.tree = standing.tree ↔
          ∃ file ∈ overlapping, Refuses settings standing (Path.ofString "" / file.1) file.2) ∧
        (settings.mode ≠ .mode .errorIfExists → standing.tree = standing.tree) ∧
        (standing.tree.Closed → Apart standing (Path.ofString "") overlapping →
          standing.tree = standing.tree) :=
  ⟨overlapping_refused, standing_closed, overlapping_apart, writeAll_refused overlapping_refused⟩

/-- A world in which nothing is there. -/
def bare : World where
  home := []
  tree := ⟨[]⟩

/-- Two module paths that lead to one file. -/
def twinFiles : List (String × String) := [("c//d.ts", "1"), ("c/d.ts", "2")]

/-- The second file of the batch is refused since the first has been written there. -/
theorem twinFiles_written : ∃ w', (writeAll keeping (Path.ofString "") twinFiles).outcome bare =
    (.error (.output (.alreadyExists "c/d.ts")), w') ∧ w'.tree ≠ bare.tree := by
  have hrefused : ((writeAll keeping (Path.ofString "") twinFiles).outcome bare).1 =
      .error (.output (.alreadyExists "c/d.ts")) := by cbv
  have hwritten : (((writeAll keeping (Path.ofString "") twinFiles).outcome bare).2.tree.node?
      ["c", "d.ts"]).isSome = true := by cbv
  refine ⟨_, Prod.ext hrefused rfl, fun h => ?_⟩
  rw [h] at hwritten
  cases hwritten

end Writer

end ApiTypings
