import ApiTypings.Proofs.Paths
import Mathlib.Data.List.Induction

/-!
# What stands in a tree

A tree of files is a table of what stands where. In a closed tree, in which everything stands
in a directory, names that do not lead back are found exactly if something stands where they
say.
-/

namespace ApiTypings.FileTree

variable {t : FileTree} {p q : Position} {names : List String}

theorem find_put (p q : Position) (node : Node) (entries : List (Position × Node)) :
    find q (put p node entries) = if q = p then some node else find q entries := by
  induction entries with
  | nil => simp [put, find, eq_comm]
  | cons entry rest ih =>
    obtain ⟨r, old⟩ := entry
    by_cases hr : r = p
    · subst hr
      by_cases hq : r = q
      · simp [put, find, hq]
      · simp [put, find, hq, Ne.symm hq]
    · by_cases hq : r = q
      · subst hq
        simp [put, find, hr]
      · simp [put, find, hr, hq, ih]

section Entries

variable {node other : Node} {entries : List (Position × Node)}

theorem mem_of_find (h : find p entries = some node) : (p, node) ∈ entries := by
  induction entries with
  | nil => cases h
  | cons entry rest ih =>
    obtain ⟨q, old⟩ := entry
    unfold find at h
    split at h
    · rename_i hq
      cases h
      exact hq ▸ List.mem_cons_self
    · exact List.mem_cons_of_mem _ (ih h)

theorem put_put : put p node (put p other entries) = put p node entries := by
  induction entries with
  | nil => simp [put]
  | cons entry rest ih =>
    obtain ⟨r, old⟩ := entry
    by_cases hr : r = p <;> simp [put, hr, ih]

theorem put_self (h : find p entries = some node) : put p node entries = entries := by
  induction entries with
  | nil => cases h
  | cons entry rest ih =>
    obtain ⟨r, old⟩ := entry
    by_cases hr : r = p
    · simp_all [put, find]
    · simp_all [put, find]

/-- What is put at two positions can be put in either order, if one of them is taken: an entry that is
new goes to the end. -/
theorem put_comm (hne : p ≠ q) (hp : (find p entries).isSome) :
    put q other (put p node entries) = put p node (put q other entries) := by
  induction entries with
  | nil => cases hp
  | cons entry rest ih =>
    obtain ⟨r, old⟩ := entry
    by_cases hrp : r = p
    · subst hrp
      simp [put, hne]
    · have hrest : (find p rest).isSome := by simpa [find, hrp] using hp
      by_cases hrq : r = q
      · simp [put, hrq, Ne.symm hne]
      · simp [put, hrp, hrq, ih hrest]

end Entries

theorem node?_set (hp : p ≠ []) (node : Node) :
    (t.set p node).node? q = if q = p then some node else t.node? q := by
  unfold node? set
  by_cases hq : q = []
  · subst hq
    simp [Ne.symm hp]
  · rw [if_neg hq, if_neg hq, find_put]

theorem filter_put {entries : List (Position × Node)} (h : find p entries = none) (node : Node) :
    (put p node entries).filter (fun entry => entry.1 ≠ p) = entries := by
  induction entries with
  | nil => simp [put]
  | cons entry rest ih =>
    obtain ⟨q, old⟩ := entry
    have hq : q ≠ p := by
      rintro rfl
      simp [find] at h
    have hrest : find p rest = none := by simpa [find, hq] using h
    rw [put, if_neg hq, List.filter_cons_of_pos (by simpa using hq), ih hrest]

/-- What is put where nothing was and taken away again leaves the tree as it was. -/
theorem erase_set (hp : p ≠ []) (hfree : t.node? p = none) (node : Node) :
    (t.set p node).erase p = t := by
  unfold node? at hfree
  rw [if_neg hp] at hfree
  unfold erase set
  rw [filter_put hfree]

/-! ## Where names lead -/

theorem step_short {here p : Position} {name : String} (hn : name ≠ "..")
    (h : t.step here name = .ok p) : Text.octets name ≤ longestName := by
  unfold step at h
  split at h
  · cases h
  · cases h
  · rw [if_neg hn] at h
    split at h
    · cases h
    · rename_i hlong
      exact Nat.le_of_not_lt hlong

/-- Names that are followed are not too long. -/
theorem walk_short {here p : Position} (hn : ".." ∉ names) (h : t.walk here names = .ok p) :
    ∀ name ∈ names, Text.octets name ≤ longestName := by
  induction names generalizing here with
  | nil => simp
  | cons name rest ih =>
    rw [List.mem_cons, not_or] at hn
    rw [← List.singleton_append] at h
    obtain ⟨q, hq, hrest⟩ := walk_append h
    rw [List.forall_mem_cons]
    exact ⟨step_short (Ne.symm hn.1) (by simpa [walk] using hq), ih hn.2 hrest⟩

/-- What stands somewhere stands in a directory. -/
def Closed (t : FileTree) : Prop :=
  ∀ p name, (t.node? (p ++ [name])).isSome → t.node? p = some .directory

/-- In such a tree names lead to what they spell out, if it is there. -/
theorem Closed.walk (h : t.Closed) (hn : ".." ∉ names)
    (hshort : ∀ name ∈ names, Text.octets name ≤ longestName) (hs : (t.node? names).isSome) :
    t.walk [] names = .ok names := by
  induction names using List.reverseRec with
  | nil => rfl
  | append_singleton names name ih =>
    rw [List.mem_append, not_or, List.mem_singleton] at hn
    have hdirectory := h names name hs
    have hwalk := ih hn.1 (fun other ho => hshort other (List.mem_append_left _ ho))
      (by rw [hdirectory]; rfl)
    have hstep : t.step names name = .ok (names ++ [name]) := by
      unfold step
      rw [hdirectory]
      dsimp only
      rw [if_neg (Ne.symm hn.2), if_neg (Nat.not_lt.mpr (hshort name (by simp))), if_pos hs]
    unfold FileTree.walk at hwalk ⊢
    rw [List.foldlM_append, hwalk]
    simp only [List.foldlM_cons, List.foldlM_nil, bind_pure]
    exact hstep

/-- What is found is at the position that the names spell out. -/
theorem stat_ok {node : Node} (hn : ".." ∉ names) (h : t.stat names = .ok node) :
    t.node? names = some node ∧ checkNames names = .ok () ∧
      ∀ name ∈ names, Text.octets name ≤ longestName := by
  obtain ⟨_, hcheck, h⟩ := bind_ok h
  obtain ⟨p, hw, hfound⟩ := bind_ok h
  rw [walk_ok hn hw, List.nil_append] at hfound
  refine ⟨?_, hcheck, walk_short hn hw⟩
  split at hfound
  · rename_i found hf
    cases hfound
    exact hf
  · cases hfound

theorem Closed.stat (h : t.Closed) (hn : ".." ∉ names) (hcheck : checkNames names = .ok ())
    (hshort : ∀ name ∈ names, Text.octets name ≤ longestName) (hs : (t.node? names).isSome) :
    ∃ node, t.stat names = .ok node := by
  obtain ⟨node, hnode⟩ := Option.isSome_iff_exists.mp hs
  refine ⟨node, ?_⟩
  simp only [FileTree.stat, hcheck, h.walk hn hshort hs, hnode, bind, Except.bind, pure,
    Except.pure]

theorem present_eq_true_iff : t.present names = .ok true ↔ ∃ node, t.stat names = .ok node := by
  unfold present
  cases t.stat names with
  | ok node => simp
  | error fault => cases fault <;> simp

end ApiTypings.FileTree
