import Mathlib
import ApiTypings.Proofs.Keeping

/-!
# A file is written whole or not at all

Writing a file takes several steps: its place and its text are checked, the directories that lead
there are made, and it is put there, at once or by way of a temporary file. Each of them can be
refused. Then no file has changed and none has come or gone, the temporary one included; directories
that were made stay. If none is refused the file is there with its text, and all others are as they
were.
-/

namespace ApiTypings

namespace FileTree

variable {t t' : FileTree} {names : List String}

/-- No directory has gone, and one that has come lies on the way along the names. -/
structure Furthers (names : List String) (t t' : FileTree) : Prop where
  kept : ∀ p, t.node? p = some .directory → t'.node? p = some .directory
  made : ∀ p, t'.node? p = some .directory →
    t.node? p = some .directory ∨ ∃ start, start <+: names ∧ p = Path.resolve start

theorem Extends.files_iff (h : Extends names t t') (p : Position) (content : ByteArray) :
    t'.node? p = some (.file content) ↔ t.node? p = some (.file content) :=
  ⟨h.files p content, h.keeps p _⟩

theorem Extends.furthers (h : Extends names t t') : Furthers names t t' := by
  refine ⟨fun p hp => h.keeps p _ hp, fun p hp => ?_⟩
  rcases h.made p (by rw [hp]; rfl) with hthere | hway
  · obtain ⟨node, hnode⟩ := Option.isSome_iff_exists.mp hthere
    have hsame := h.keeps p node hnode
    rw [hp] at hsame
    rw [hnode, ← hsame]
    exact .inl rfl
  · exact .inr hway

/-- Putting a file where no directory is leaves the directories as they are. -/
theorem Puts.directory_iff {content : ByteArray} (h : t.Puts names (.file content) t')
    (p : Position) : t'.node? p = some .directory ↔ t.node? p = some .directory := by
  obtain ⟨here, last, _, hother, hput⟩ := h
  rw [hput]
  split
  · rename_i hp
    subst hp
    exact iff_of_false (by simp) hother
  · rfl

/-- A file that is put somewhere can be read there. -/
theorem Puts.readFile {content : ByteArray} (h : t.Puts names (.file content) t') :
    t'.readFile names = .ok content := by
  have hdirectory := h.directory_iff
  obtain ⟨here, last, hlands, _, hput⟩ := h
  have hlands' : t'.Lands names here last :=
    hlands.of_directories fun q hq => (hdirectory q).mpr hq
  have hnode : t'.node? (here ++ [last]) = some (.file content) := by rw [hput, if_pos rfl]
  have hstat := hlands'.stat hnode
  unfold FileTree.readFile
  rw [hstat]
  rfl

end FileTree

namespace Writer

variable {settings : OutputSettings} {w t : World} {path : Path} {content : String}

/-- The second world has the file with its text, and all others as they were in the first. -/
structure Written (w : World) (path : Path) (content : String) (t : World) : Prop where
  home : t.home = w.home
  text : t.tree.readFile (w.trail path) = .ok (Text.toOctets content)
  others : ∀ p old, p ≠ Path.resolve (w.trail path) →
    (t.tree.node? p = some (.file old) ↔ w.tree.node? p = some (.file old))
  directories : FileTree.Furthers (w.trail path.parent) w.tree t.tree

/-- The second world has the files of the first and no others. -/
structure Unwritten (w : World) (path : Path) (t : World) : Prop where
  home : t.home = w.home
  files : ∀ p old, t.tree.node? p = some (.file old) ↔ w.tree.node? p = some (.file old)
  directories : FileTree.Furthers (w.trail path.parent) w.tree t.tree

/-- A write that returns has written its file, and one that fails has written none; it has not even
made a directory if it was refused by a check. -/
theorem write_all_or_nothing (settings : OutputSettings) (w : World) (path : Path)
    (content : String) : Task.Ends (write settings path content) w
      (fun _ t => Written w path content t)
      fun e t => Unwritten w path t ∧ ∀ o, e = .output o → t = w := by
  refine write_ends.imp ?_ ?_
  · rintro _ t ⟨hhome, _, made, hmade, hput⟩
    refine ⟨hhome, hput.readFile, fun p old hp => ?_, fun p hp => ?_, fun p hp => ?_⟩
    · rw [hput.node?_eq, if_neg hp, hmade.files_iff]
    · exact (hput.directory_iff p).mpr (hmade.keeps p _ hp)
    · exact hmade.furthers.made p ((hput.directory_iff p).mp hp)
  · rintro e t ⟨hhome, hmade, hrefused⟩
    exact ⟨⟨hhome, hmade.files_iff, hmade.furthers⟩, fun o ho => (hrefused o ho).1⟩

/-- The world with a file more, and the directory that leads to it. -/
def extended : World where
  home := []
  tree := ⟨[(["b.ts"], .file ⟨#[]⟩), (["a"], .directory),
    (["a", "c.ts"], .file (Text.toOctets "1"))]⟩

/-- One write returns, and one fails since a file stands where a directory has to be. -/
theorem write_all_or_nothing_of_standing :
    (write guarding (Path.ofString "a/c.ts") "1").outcome standing = (.ok (), extended) ∧
      Written standing (Path.ofString "a/c.ts") "1" extended ∧
      (write guarding (Path.ofString "b.ts/c.ts") "1").outcome standing =
        (.error (.fault (.file .alreadyExists)), standing) ∧
      Unwritten standing (Path.ofString "b.ts/c.ts") standing := by
  have hwritten : (write guarding (Path.ofString "a/c.ts") "1").outcome standing =
      (.ok (), extended) := by rfl
  have hfailed : (write guarding (Path.ofString "b.ts/c.ts") "1").outcome standing =
      (.error (.fault (.file .alreadyExists)), standing) := by rfl
  exact ⟨hwritten, (write_all_or_nothing _ _ _ _).1 _ _ hwritten, hfailed,
    ((write_all_or_nothing _ _ _ _).2 _ _ hfailed).1⟩

end Writer

end ApiTypings
