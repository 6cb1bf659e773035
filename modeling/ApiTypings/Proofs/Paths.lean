import ApiTypings.Files.World
import ApiTypings.Proofs.Pieces
import ApiTypings.Proofs.Steps

/-!
# Plain paths

A plain path is relative and only leads down, naming every directory on its way
once. Appended to a root it stays below the root, wherever that is, and following
it in a tree of files leads to the position that it spells out, so two plain paths
lead to the same position only if they are the same.
-/

namespace ApiTypings

/-- Where a path leads from depends on the home only. -/
theorem trail_congr {w t : World} (h : t.home = w.home) (path : Path) :
    t.trail path = w.trail path := by
  unfold World.trail
  rw [h]

namespace Path

/-- The names between the slashes of the path are all there, and each of them leads down. -/
def Plain (path : String) : Prop :=
  ∀ name ∈ Text.split '/' path, name ≠ "" ∧ name ≠ "." ∧ name ≠ ".."

/-- The first path goes on from the second, further down only. -/
def Below (path root : Path) : Prop :=
  path.start = root.start ∧ ∃ more, more ≠ [] ∧ ".." ∉ more ∧ path.names = root.names ++ more

theorem append_of_relative {p q : Path} (h : q.start = "") :
    p.append q = { p with names := p.names ++ q.names } := by
  simp [append, isAbsolute, h]

/-- A text is a relative path unless it begins with a slash. -/
theorem start_eq_empty_iff {s : String} : (ofString s).start = "" ↔ s.toList.head? ≠ some '/' := by
  unfold ofString
  cases s.toList with
  | nil => simp
  | cons c cs =>
    by_cases hc : c = '/'
    · subst hc
      simp only [List.head?_cons, ne_eq, not_true_eq_false, iff_false]
      split <;> simp_all
    · simp only [List.head?_cons, ne_eq, Option.some.injEq, hc, not_false_eq_true, iff_true]
      split <;> simp_all

/-- A path that leads somewhere and not back stays below every root unless it begins with a
slash. -/
theorem below_iff {s : String} (hne : (ofString s).names ≠ []) (hback : ".." ∉ (ofString s).names) :
    (∀ root : Path, (root / s).Below root) ↔ s.toList.head? ≠ some '/' := by
  rw [← start_eq_empty_iff]
  constructor
  · intro h
    obtain ⟨hstart, _⟩ := h { start := "", names := [] }
    change (append _ (ofString s)).start = "" at hstart
    by_cases ha : (ofString s).isAbsolute = true
    · simpa [append, ha] using hstart
    · simpa [isAbsolute] using ha
  · intro h root
    change (root.append (ofString s)).Below root
    rw [append_of_relative h]
    exact ⟨rfl, _, hne, hback, rfl⟩

theorem Plain.head_ne {s : String} (h : Plain s) : s.toList.head? ≠ some '/' := by
  intro hs
  obtain ⟨rest, _, hsplit⟩ := Text.split_eq_empty_cons_iff.mpr hs
  exact (h "" (by simp [hsplit])).1 rfl

/-- A plain path is read as the names that it is written with. -/
theorem Plain.ofString {s : String} (h : Plain s) :
    Path.ofString s = { start := "", names := Text.split '/' s } := by
  have hstart := start_eq_empty_iff.mpr h.head_ne
  have hnames : (Path.ofString s).names = Text.split '/' s := by
    unfold Path.ofString
    exact List.filter_eq_self.mpr fun name hn => by simp [h name hn]
  rw [← hstart, ← hnames]

theorem Plain.append {s : String} (h : Plain s) (root : Path) :
    root / s = { root with names := root.names ++ Text.split '/' s } := by
  change root.append (Path.ofString s) = _
  rw [h.ofString, append_of_relative rfl]

theorem Plain.not_back {s : String} (h : Plain s) : ".." ∉ Text.split '/' s :=
  fun hm => (h ".." hm).2.2 rfl

theorem Plain.below {s : String} (h : Plain s) (root : Path) : (root / s).Below root := by
  rw [h.append]
  exact ⟨rfl, Text.split '/' s, Text.split_ne_nil '/' s, h.not_back, rfl⟩

theorem Plain.trail {s : String} (h : Plain s) (w : World) (root : Path) :
    w.trail (root / s) = w.trail root ++ Text.split '/' s := by
  rw [h.append]
  unfold World.trail isAbsolute
  split <;> simp

/-- Plain paths that are written with the same names are the same. -/
theorem eq_of_split_eq {s t : String} (h : Text.split '/' s = Text.split '/' t) : s = t := by
  have hs : Text.join "/" (Text.split '/' s) = s := Text.join_split rfl s
  rw [h, Text.join_split rfl] at hs
  exact hs.symm

end Path

/-! ## Following paths in a tree -/

namespace FileTree

variable {t : FileTree}

theorem step_ok {here p : Position} {name : String} (hn : name ≠ "..")
    (h : t.step here name = .ok p) : p = here ++ [name] := by
  unfold step at h
  split at h
  · cases h
  · cases h
  · rw [if_neg hn] at h
    split at h
    · cases h
    · split at h
      · cases h
        rfl
      · cases h

theorem walk_append {here p : Position} {first second : List String}
    (h : t.walk here (first ++ second) = .ok p) :
    ∃ q, t.walk here first = .ok q ∧ t.walk q second = .ok p := by
  unfold walk at h
  rw [List.foldlM_append] at h
  exact bind_ok h

/-- Names that never lead back are followed to the position that they spell out. -/
theorem walk_ok {here p : Position} {names : List String} (hn : ".." ∉ names)
    (h : t.walk here names = .ok p) : p = here ++ names := by
  induction names generalizing here with
  | nil =>
    cases h
    simp
  | cons name rest ih =>
    obtain ⟨hname, hrest⟩ : ".." ≠ name ∧ ".." ∉ rest := by simpa using hn
    rw [← List.singleton_append] at h
    obtain ⟨q, hq, hp⟩ := walk_append h
    have hstep : t.step here name = .ok q := by
      simpa [walk] using hq
    rw [ih hrest hp, step_ok (Ne.symm hname) hstep, List.append_assoc, List.singleton_append]

/-- The position of names that go on from others, and never lead back, goes on from theirs. -/
theorem target_append {names more : List String} {p : Position} (hne : more ≠ [])
    (hn : ".." ∉ more) (h : t.target (names ++ more) = .ok p) :
    ∃ here, t.walk [] names = .ok here ∧ p = here ++ more := by
  obtain ⟨here, hhome, h⟩ := bind_ok h
  obtain ⟨_, _, hwalk⟩ := bind_ok hhome
  obtain ⟨there, hthere, hnode⟩ := bind_ok hwalk
  have hhere : here = there := by
    split at hnode <;> cases hnode
    rfl
  have hp : p = here ++ [(names ++ more).getLastD ""] := by
    dsimp only at h
    split at h
    · cases h
    · cases h
      rfl
  -- the last name is added, not followed, so it must not be one of the first part
  rw [List.dropLast_append_of_ne_nil hne] at hthere
  obtain ⟨start, hstart, hmore⟩ := walk_append hthere
  refine ⟨start, hstart, ?_⟩
  have hback : ".." ∉ more.dropLast := fun hm => hn (List.dropLast_subset _ hm)
  have hlast : (names ++ more).getLastD "" = more.getLast hne := by
    rw [List.getLastD_eq_getLast?, List.getLast?_append, List.getLast?_eq_some_getLast hne]
    rfl
  rw [hp, hhere, walk_ok hback hmore, hlast, List.append_assoc, List.dropLast_concat_getLast]

end FileTree

/-- Different plain paths below a root lead to different positions. -/
theorem Path.Plain.target_ne {s s' : String} (h : Path.Plain s) (h' : Path.Plain s') (hne : s ≠ s')
    {w : World} {root : Path} {p p' : Position}
    (hp : w.tree.target (w.trail (root / s)) = .ok p)
    (hp' : w.tree.target (w.trail (root / s')) = .ok p') : p ≠ p' := by
  rw [h.trail] at hp
  rw [h'.trail] at hp'
  obtain ⟨here, hw, rfl⟩ := FileTree.target_append (Text.split_ne_nil '/' s) h.not_back hp
  obtain ⟨there, hw', rfl⟩ := FileTree.target_append (Text.split_ne_nil '/' s') h'.not_back hp'
  have hsame : here = there := Except.ok.inj (hw.symm.trans hw')
  intro he
  rw [hsame] at he
  exact hne (Path.eq_of_split_eq (List.append_cancel_left he))

end ApiTypings
