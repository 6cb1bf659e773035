import Mathlib
import ApiTypings.Proofs.Keeping

/-!
# Batches that are written

A batch that returns has done what it was asked to and nothing else. Writing a file puts it at its
place and makes the directories that lead there, so what has been written so far is settled
by two facts about one write: the place has the text, and at all other places there is
what there was, but for those directories. Files that lead to different places do
not disturb each other.
-/

namespace ApiTypings

/-- Paths that begin alike lead to the same place only if they are the same path. -/
theorem World.trail_inj {w : World} {p q : Path} (hstart : p.start = q.start)
    (h : w.trail p = w.trail q) : p = q := by
  have habsolute : p.isAbsolute = q.isAbsolute := by rw [Path.isAbsolute, hstart, Path.isAbsolute]
  have hnames : p.names = q.names := by
    unfold World.trail at h
    rw [habsolute] at h
    split at h
    · exact h
    · exact List.append_cancel_left h
  obtain ⟨start, names⟩ := p
  simp only at hstart hnames
  rw [hstart, hnames]

namespace FileTree

variable {t : FileTree} {names : List String}

/-- Names that a file system takes for a path. -/
structure Nameable (names : List String) : Prop where
  proper : checkNames names = .ok ()
  short : ∀ name ∈ names, Text.octets name ≤ longestName

theorem Lands.nameable {here : Position} {last : String} (h : t.Lands names here last)
    (hdown : ".." ∉ names) : Nameable names := by
  have hback : ".." ∉ names.dropLast := fun hm => hdown (List.dropLast_subset _ hm)
  refine ⟨h.proper, ?_⟩
  rw [← h.names_eq, List.forall_mem_append, List.forall_mem_singleton]
  exact ⟨walk_short hback h.walk, h.short⟩

/-- In a closed tree that has something where such names lead, they are found. -/
theorem Nameable.stat {node : Node} (hn : Nameable names) (hdown : ".." ∉ names) (hclosed : t.Closed)
    (hnode : t.node? names = some node) : t.stat names = .ok node := by
  obtain ⟨found, hfound⟩ := hclosed.stat hdown hn.proper hn.short (by rw [hnode]; rfl)
  have hthere := (stat_ok hdown hfound).1
  rw [hnode] at hthere
  cases hthere
  exact hfound

theorem Nameable.readFile {content : ByteArray} (hn : Nameable names) (hdown : ".." ∉ names)
    (hclosed : t.Closed) (hnode : t.node? names = some (.file content)) :
    t.readFile names = .ok content := by
  unfold FileTree.readFile
  rw [hn.stat hdown hclosed hnode]
  rfl

end FileTree

namespace Writer

variable {settings : OutputSettings} {w t u : World} {root : Path} {files : List (String × String)}

/-! ## What has been written -/

/-- The files of the batch lead to different places. -/
def Separate (w : World) (root : Path) (files : List (String × String)) : Prop :=
  files.Pairwise fun a b => w.trail (root / a.1) ≠ w.trail (root / b.1)

/-- Different paths that begin alike lead to different places. -/
theorem Separate.of_paths
    (hstart : ∀ a ∈ files, ∀ b ∈ files, (root / a.1).start = (root / b.1).start)
    (hpaths : files.Pairwise fun a b => root / a.1 ≠ root / b.1) : Separate w root files := by
  refine hpaths.imp_of_mem ?_
  intro a b ha hb hne h
  exact hne (World.trail_inj (hstart a ha b hb) h)

theorem Separate.perm {others : List (String × String)} (h : Separate w root files)
    (hp : files.Perm others) : Separate w root others :=
  (hp.pairwise_iff fun hne => Ne.symm hne).mp h

/-- The place is none of those to which the files lead. -/
def Elsewhere (w : World) (root : Path) (files : List (String × String)) (p : Position) : Prop :=
  ∀ file ∈ files, p ≠ w.trail (root / file.1)

/-- The second world is the first one with the files written, and the directories that lead to
them made. -/
structure Wrote (root : Path) (w : World) (files : List (String × String)) (t : World) : Prop where
  home : t.home = w.home
  closed : w.tree.Closed → t.tree.Closed
  nameable : ∀ file ∈ files, FileTree.Nameable (w.trail (root / file.1))
  texts : ∀ file ∈ files,
    t.tree.node? (w.trail (root / file.1)) = some (.file (Text.toOctets file.2))
  others : ∀ p content, Elsewhere w root files p →
    (t.tree.node? p = some (.file content) ↔ w.tree.node? p = some (.file content))
  directories : ∀ p, w.tree.node? p = some .directory → t.tree.node? p = some .directory
  adds : AddsFiles root w files t

theorem Wrote.nil (root : Path) (w : World) : Wrote root w [] w where
  home := rfl
  closed := id
  nameable := by simp
  texts := by simp
  others := fun _ _ _ => Iff.rfl
  directories := fun _ h => h
  adds := .nil root w

/-- One more file is written by making directories and putting it where it leads, if no file before
it leads there. -/
theorem Wrote.concat {past : List (String × String)} {file : String × String} {made : FileTree}
    (h : Wrote root w past t) (hdown : ".." ∉ w.trail (root / file.1))
    (hfree : Elsewhere w root past (w.trail (root / file.1))) (hhome : u.home = t.home)
    (hmade : FileTree.Extends (w.trail (root / file.1)) t.tree made)
    (hput : made.Puts (w.trail (root / file.1)) (.file (Text.toOctets file.2)) u.tree) :
    Wrote root w (past ++ [file]) u := by
  -- one place is different from the tree in which the directories have been made
  have hplace : ∀ p, u.tree.node? p = if p = w.trail (root / file.1)
      then some (.file (Text.toOctets file.2)) else made.node? p := by
    intro p
    rw [hput.node?_eq, Path.resolve_of_down hdown]
  have hput' := hput
  obtain ⟨here, last, hlands, hdirectory, _⟩ := hput'
  have hhere : here ++ [last] = w.trail (root / file.1) := by
    rw [← hlands.resolve_eq, Path.resolve_of_down hdown]
  rw [hhere] at hdirectory
  constructor
  · rw [hhome, h.home]
  · intro hclosed
    exact hput.closed (hmade.closed (h.closed hclosed))
  · rw [List.forall_mem_append, List.forall_mem_singleton]
    exact ⟨h.nameable, hlands.nameable hdown⟩
  · rw [List.forall_mem_append, List.forall_mem_singleton]
    constructor
    · intro other ho
      rw [hplace, if_neg (Ne.symm (hfree other ho))]
      exact hmade.keeps _ _ (h.texts other ho)
    · rw [hplace, if_pos rfl]
  · intro p content hp
    have hpast : Elsewhere w root past p := fun other ho => hp other (List.mem_append_left _ ho)
    have hne : p ≠ w.trail (root / file.1) := hp file (by simp)
    rw [hplace, if_neg hne, ← h.others p content hpast]
    exact ⟨hmade.files p content, hmade.keeps p _⟩
  · intro p hp
    have hmiddle := hmade.keeps p _ (h.directories p hp)
    have hne : p ≠ w.trail (root / file.1) := by
      rintro rfl
      exact hdirectory hmiddle
    rw [hplace, if_neg hne, hmiddle]
  · exact h.adds.concat ((hmade.adds hdown).trans (hput.adds hdown))

theorem Wrote.congr {others : List (String × String)} (h : Wrote root w files t)
    (hmem : ∀ file, file ∈ others ↔ file ∈ files) : Wrote root w others t where
  home := h.home
  closed := h.closed
  nameable := fun file hf => h.nameable file ((hmem file).mp hf)
  texts := fun file hf => h.texts file ((hmem file).mp hf)
  others := fun p content hp => h.others p content fun file hf => hp file ((hmem file).mpr hf)
  directories := h.directories
  adds := by
    intro p hp
    rcases h.adds p hp with hp | ⟨file, hf, hstart⟩
    · exact .inl hp
    · exact .inr ⟨file, (hmem file).mpr hf, hstart⟩

/-- What has been written can be read off the tree. -/
theorem Wrote.retold (h : Wrote root w files t) (hhome : u.home = t.home) (htree : u.tree = t.tree) :
    Wrote root w files u where
  home := hhome.trans h.home
  closed := htree ▸ h.closed
  nameable := h.nameable
  texts := htree ▸ h.texts
  others := htree ▸ h.others
  directories := htree ▸ h.directories
  adds := by
    intro p hp
    rw [htree] at hp
    exact h.adds p hp

/-- What is a directory afterwards was one before, or lies on the way to a file. -/
theorem Wrote.directory {p : Position} (h : Wrote root w files t)
    (hp : t.tree.node? p = some .directory) : w.tree.node? p = some .directory ∨
      ∃ file ∈ files, p <+: w.trail (root / file.1) ∧ p ≠ w.trail (root / file.1) := by
  have helsewhere : Elsewhere w root files p := by
    rintro file hf rfl
    rw [h.texts file hf] at hp
    cases hp
  rcases h.adds p (by rw [hp]; rfl) with hthere | ⟨file, hf, hstart⟩
  · obtain ⟨node, hnode⟩ := Option.isSome_iff_exists.mp hthere
    cases node with
    | directory => exact .inl hnode
    | file content =>
      rw [(h.others p content helsewhere).mpr hnode] at hp
      cases hp
  · exact .inr ⟨file, hf, hstart, helsewhere file hf⟩

/-! ## Writing all files -/

theorem writeAll_wrote {setting : OutputSetting}
    (hdown : ∀ file ∈ files, ".." ∉ w.trail (root / file.1)) (hseparate : Separate w root files) :
    Task.Ends (writeAll setting root files) w
      (fun written t => Wrote root w files t ∧ ¬ RefusesAny setting root files w ∧
        written = (inOrder files).map fun file => root / file.1)
      fun _ _ => True := by
  have hordered : Separate w root (inOrder files) :=
    hseparate.perm (List.mergeSort_perm files _).symm
  refine (writeAll_keeps (fun past t => Wrote root w past t) ?_ ?_ (.nil root w)).imp ?_ fun _ _ h => h
  · intro settings past file rest t hsplit _ hpast
    have hfile := hdown file (mem_inOrder.mp (hsplit ▸ by simp))
    -- the files before this one lead to other places
    have hfree : Elsewhere w root past (w.trail (root / file.1)) := by
      intro other ho
      rw [Separate, ← hsplit] at hordered
      exact ((List.pairwise_append.mp hordered).2.2 other ho file (by simp)).symm
    refine write_ends.imp ?_ fun _ _ _ => trivial
    rintro _ u ⟨hhome, -, made, hmade, hput⟩
    replace hmade := hmade.mono (trail_parent _ _)
    rw [trail_congr hpast.home] at hmade hput
    exact hpast.concat hfile hfree hhome hmade hput
  · exact fun t u hwrote hhome htree => hwrote.retold hhome htree
  · rintro written t ⟨hwrote, hnone, rfl⟩
    exact ⟨hwrote.congr fun file => mem_inOrder.symm, hnone, rfl⟩

/-- What a batch that returned has done to the world. -/
structure Delivered (settings : OutputSettings) (w : World) (root : Path)
    (files : List (String × String)) (written : List Path) (t : World) : Prop where
  /-- Every file is found where it leads, with its text. -/
  texts : ∀ file ∈ files,
    t.tree.readFile (w.trail (root / file.1)) = .ok (Text.toOctets file.2)
  /-- Elsewhere there are the files that were there, with what was in them, and no other ones. -/
  others : ∀ p content, Elsewhere w root files p →
    (t.tree.node? p = some (.file content) ↔ w.tree.node? p = some (.file content))
  /-- No directory is lost. -/
  directories : ∀ p, w.tree.node? p = some .directory → t.tree.node? p = some .directory
  /-- A directory that is new lies on the way to a file. -/
  made : ∀ p, t.tree.node? p = some .directory → w.tree.node? p = some .directory ∨
    ∃ file ∈ files, p <+: w.trail (root / file.1) ∧ p ≠ w.trail (root / file.1)
  home : t.home = w.home
  /-- The paths are told in the order of the module paths. -/
  told : ∃ ordered : List (String × String), ordered.Perm files ∧
    (ordered.Pairwise fun a b => a.1 < b.1) ∧ written = ordered.map fun file => root / file.1
  /-- Where nothing may be replaced there was nothing. -/
  free : settings.mode = .mode .errorIfExists →
    ∀ file ∈ files, w.tree.node? (w.trail (root / file.1)) = none

/-- Files that lead to different places are put in order by their module paths, strictly. -/
theorem Separate.inOrder_pairwise (h : Separate w root files) :
    (inOrder files).Pairwise fun a b => a.1 < b.1 := by
  have hordered : Separate w root (inOrder files) := h.perm (List.mergeSort_perm files _).symm
  refine ((pairwise_sortedBy Prod.fst files).and hordered).imp ?_
  intro a b hab
  refine lt_of_le_of_ne hab.1 ?_
  intro he
  exact hab.2 (by rw [he])

/-- Where nothing may be replaced, a place that took a file had been free. -/
theorem Wrote.free {file : String × String} (h : Wrote root w files t) (hclosed : w.tree.Closed)
    (hdown : ".." ∉ w.trail (root / file.1)) (hnone : ¬ RefusesAny (.settings settings) root files w)
    (hguard : settings.mode = .mode .errorIfExists) (hf : file ∈ files) :
    w.tree.node? (w.trail (root / file.1)) = none := by
  cases hnode : w.tree.node? (w.trail (root / file.1)) with
  | none => rfl
  | some node =>
    have hstat := (h.nameable file hf).stat hdown hclosed hnode
    have hpresent : w.tree.present (w.trail (root / file.1)) = .ok true :=
      FileTree.present_eq_true_iff.mpr ⟨node, hstat⟩
    exact absurd ⟨settings, rfl, file, hf, .inl ⟨hguard, hpresent⟩⟩ hnone

/-- A batch that returns has written its files and nothing else, if they lead to different places
and no path leads back. -/
theorem writeAll_delivers {written : List Path} (hclosed : w.tree.Closed)
    (hdown : ∀ file ∈ files, ".." ∉ w.trail (root / file.1)) (hseparate : Separate w root files)
    (h : (writeAll (.settings settings) root files).outcome w = (.ok written, t)) :
    Delivered settings w root files written t := by
  obtain ⟨hwrote, hnone, rfl⟩ := (writeAll_wrote hdown hseparate).1 _ _ h
  constructor
  · intro file hf
    exact (hwrote.nameable file hf).readFile (hdown file hf) (hwrote.closed hclosed)
      (hwrote.texts file hf)
  · exact hwrote.others
  · exact hwrote.directories
  · intro p hp
    exact hwrote.directory hp
  · exact hwrote.home
  · exact ⟨inOrder files, List.mergeSort_perm files _, hseparate.inOrder_pairwise, rfl⟩
  · intro hguard file hf
    exact hwrote.free hclosed (hdown file hf) hnone hguard hf

/-- Settings under which files are replaced, and written in place. -/
def replacing : OutputSettings := { mode := .mode .force, atomic := .bool false }

/-- Two files: a directory is missing for the first, and the second is there already. -/
def parcel : List (String × String) := [("a/c.ts", "1"), ("b.ts", "2")]

/-- The world when they have been written. -/
def furnished : World where
  home := []
  tree := ⟨[(["b.ts"], .file (Text.toOctets "2")), (["a"], .directory),
    (["a", "c.ts"], .file (Text.toOctets "1"))]⟩
  log := [⟨.info, "Wrote 2 files to ."⟩]

theorem parcel_written : (writeAll (.settings replacing) (Path.ofString "") parcel).outcome standing =
    (.ok [Path.ofString "a/c.ts", Path.ofString "b.ts"], furnished) := by
  cbv

theorem parcel_down : ∀ file ∈ parcel, ".." ∉ standing.trail (Path.ofString "" / file.1) := by
  decide

theorem parcel_separate : Separate standing (Path.ofString "") parcel := by
  refine .of_paths ?_ ?_ <;> decide

theorem writeAll_delivers_of_parcel :
    standing.tree.Closed ∧ (∀ file ∈ parcel, ".." ∉ standing.trail (Path.ofString "" / file.1)) ∧
      Separate standing (Path.ofString "") parcel ∧
      (writeAll (.settings replacing) (Path.ofString "") parcel).outcome standing =
        (.ok [Path.ofString "a/c.ts", Path.ofString "b.ts"], furnished) ∧
      Delivered replacing standing (Path.ofString "") parcel
        [Path.ofString "a/c.ts", Path.ofString "b.ts"] furnished :=
  ⟨standing_closed, parcel_down, parcel_separate, parcel_written,
    writeAll_delivers standing_closed parcel_down parcel_separate parcel_written⟩

/-- Two files of different paths, `a.ts` below `o` and `/o/a.ts`, that are one where `o` stands at the
root. -/
def foldedParcel : List (String × String) := [("/o/a.ts", "1"), ("a.ts", "2")]

/-- The world when they have been written: the second stands where the first had been put. -/
def folded : World where
  home := []
  tree := ⟨[(["b.ts"], .file ⟨#[]⟩), (["o"], .directory),
    (["o", "a.ts"], .file (Text.toOctets "2"))]⟩
  log := [⟨.info, "Wrote 2 files to o"⟩]

theorem foldedParcel_not_delivered :
    standing.tree.Closed ∧
      (∀ file ∈ foldedParcel, ".." ∉ standing.trail (Path.ofString "o" / file.1)) ∧
      (foldedParcel.Pairwise fun a b => Path.ofString "o" / a.1 ≠ Path.ofString "o" / b.1) ∧
      (writeAll (.settings replacing) (Path.ofString "o") foldedParcel).outcome standing =
        (.ok [Path.ofString "/o/a.ts", Path.ofString "o/a.ts"], folded) ∧
      folded.tree.readFile (standing.trail (Path.ofString "o" / "/o/a.ts")) ≠
        .ok (Text.toOctets "1") := by
  refine ⟨standing_closed, by decide, by decide, by cbv, ?_⟩
  have hread : folded.tree.readFile (standing.trail (Path.ofString "o" / "/o/a.ts")) =
      .ok (Text.toOctets "2") := by cbv
  rw [hread]
  decide

end Writer

end ApiTypings
