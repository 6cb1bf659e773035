import ApiTypings.Files.Writer
import ApiTypings.Proofs.Trees
import Mathlib

/-!
# What writing does to a tree

Names may lead back with `..`. As far as they can be followed they lead where they spell
out, every `..` taking back the name before it. Making a directory or writing a file, also by
way of a temporary one, changes what stands at that place and nothing else. Making the
directories that lead somewhere changes nothing that was there.
-/

namespace ApiTypings

theorem Path.resolve_concat (names : List String) (name : String) :
    Path.resolve (names ++ [name]) =
      if name = ".." then (Path.resolve names).dropLast else Path.resolve names ++ [name] := by
  simp [Path.resolve]

/-- What is spelled out leads down only. -/
theorem Path.back_notMem_resolve (names : List String) : ".." ∉ Path.resolve names := by
  induction names using List.reverseRec with
  | nil => simp [Path.resolve]
  | append_singleton names name ih =>
    rw [Path.resolve_concat]
    split
    · exact fun hm => ih (List.dropLast_subset _ hm)
    · rename_i hname
      simpa [ih] using Ne.symm hname

theorem Path.resolve_of_down {names : List String} (h : ".." ∉ names) :
    Path.resolve names = names := by
  induction names using List.reverseRec with
  | nil => rfl
  | append_singleton names name ih =>
    rw [List.mem_append, not_or, List.mem_singleton] at h
    rw [Path.resolve_concat, if_neg (Ne.symm h.2), ih h.1]

namespace FileTree

variable {t t' t'' : FileTree} {p q here : Position} {names more : List String} {last : String}

/-! ## Where names lead -/

/-- Names lead where they spell out, if they lead anywhere. -/
theorem walk_resolve (h : t.walk [] names = .ok p) : p = Path.resolve names := by
  induction names using List.reverseRec generalizing p with
  | nil =>
    cases h
    rfl
  | append_singleton names name ih =>
    obtain ⟨q, hq, hp⟩ := walk_append h
    have hstep : t.step q name = .ok p := by simpa [walk] using hp
    rw [Path.resolve_concat, ← ih hq]
    split
    · rename_i hname
      unfold step at hstep
      rw [if_pos hname] at hstep
      split at hstep <;> cases hstep
      rfl
    · rename_i hname
      exact step_ok hname hstep

/-- The names lead to the entry `last` of a directory, whether it is there or not. -/
structure Lands (t : FileTree) (names : List String) (here : Position) (last : String) : Prop where
  final : names.getLast? = some last
  down : last ≠ ".."
  short : Text.octets last ≤ longestName
  proper : checkNames names = .ok ()
  walk : t.walk [] names.dropLast = .ok here
  directory : t.node? here = some .directory

theorem Lands.names_eq (h : t.Lands names here last) : names.dropLast ++ [last] = names := by
  obtain ⟨start, hs⟩ := List.getLast?_eq_some_iff.mp h.final
  rw [hs, List.dropLast_concat]

theorem Lands.resolve_eq (h : t.Lands names here last) : Path.resolve names = here ++ [last] := by
  rw [← h.names_eq, Path.resolve_concat, if_neg h.down, walk_resolve h.walk]

/-- Names that lead to a directory pass directories only, so they do where these are directories
too. -/
theorem walk_of_directories (h : ∀ q, t'.node? q = some .directory → t.node? q = some .directory)
    (hw : t'.walk [] names = .ok p) (hp : t'.node? p = some .directory) :
    t.walk [] names = .ok p := by
  induction names using List.reverseRec generalizing p with
  | nil => exact hw
  | append_singleton names name ih =>
    obtain ⟨q, hq, hstep⟩ := walk_append hw
    replace hstep : t'.step q name = .ok p := by simpa [walk] using hstep
    have hthere : t'.node? q = some .directory := by
      unfold step at hstep
      split at hstep
      · cases hstep
      · cases hstep
      · assumption
    have hstep' : t.step q name = .ok p := by
      unfold step at hstep ⊢
      rw [hthere] at hstep
      rw [h q hthere]
      dsimp only at hstep ⊢
      split at hstep
      · rw [if_pos ‹_›, hstep]
      · split at hstep
        · cases hstep
        · split at hstep
          · cases hstep
            rw [if_neg ‹_›, if_neg ‹_›, h _ hp]
            rfl
          · cases hstep
    unfold FileTree.walk
    rw [List.foldlM_append]
    change (t.walk [] names >>= fun start => [name].foldlM t.step start) = _
    rw [ih hq hthere, ← hstep']
    simp only [List.foldlM_cons, List.foldlM_nil, bind_pure]
    rfl

theorem Lands.of_directories (h : t'.Lands names here last)
    (hd : ∀ q, t'.node? q = some .directory → t.node? q = some .directory) :
    t.Lands names here last :=
  ⟨h.final, h.down, h.short, h.proper, walk_of_directories hd h.walk h.directory,
    hd here h.directory⟩

/-- What is there is found. -/
theorem Lands.stat {node : Node} (h : t.Lands names here last)
    (hnode : t.node? (here ++ [last]) = some node) : t.stat names = .ok node := by
  have hstep : t.step here last = .ok (here ++ [last]) := by
    unfold step
    rw [h.directory]
    dsimp only
    rw [if_neg h.down, if_neg (Nat.not_lt.mpr h.short), if_pos (by rw [hnode]; rfl)]
  have hwalk : t.walk [] names = .ok (here ++ [last]) := by
    rw [← h.names_eq]
    unfold FileTree.walk
    rw [List.foldlM_append]
    change (t.walk [] names.dropLast >>= fun start => [last].foldlM t.step start) = _
    rw [h.walk, ← hstep]
    simp only [List.foldlM_cons, List.foldlM_nil, bind_pure]
    rfl
  simp only [FileTree.stat, h.proper, hwalk, hnode, bind, Except.bind, pure, Except.pure]

/-- Names that lead down only are found in any closed tree that has what they spell out. -/
theorem Lands.stat_of_down {node : Node} (h : t.Lands names here last) (hdown : ".." ∉ names)
    (hclosed : t'.Closed) (hnode : t'.node? (here ++ [last]) = some node) :
    ∃ node, t'.stat names = .ok node := by
  have hnames : names = here ++ [last] := by rw [← h.resolve_eq, Path.resolve_of_down hdown]
  have hback : ".." ∉ names.dropLast := fun hm => hdown (List.dropLast_subset _ hm)
  have hshort : ∀ name ∈ names, Text.octets name ≤ longestName := by
    rw [← h.names_eq, List.forall_mem_append, List.forall_mem_singleton]
    exact ⟨walk_short hback h.walk, h.short⟩
  refine hclosed.stat hdown h.proper hshort ?_
  rw [hnames, hnode]
  rfl

/-- The place of a file, where it is not refused. -/
theorem lands_of_target (hlast : names.getLast? = some last) (hdown : last ≠ "..")
    (h : t.target names = .ok p) : ∃ here, t.Lands names here last ∧ p = here ++ [last] := by
  obtain ⟨here, hhome, h⟩ := bind_ok h
  obtain ⟨⟨⟩, hproper, hwalk⟩ := bind_ok hhome
  obtain ⟨there, hthere, hnode⟩ := bind_ok hwalk
  have hname : names.getLastD "" = last := by rw [List.getLastD_eq_getLast?, hlast]; rfl
  rw [hname] at h
  dsimp only at h
  split at h
  · cases h
  · rename_i hshort
    cases h
    split at hnode
    · rename_i hdirectory
      cases hnode
      exact ⟨_, ⟨hlast, hdown, Nat.le_of_not_lt hshort, hproper, hthere, hdirectory⟩, rfl⟩
    · cases hnode
    · cases hnode

/-! ## Putting something into a directory -/

/-- The second tree has the node where the names lead, and is the first one elsewhere. -/
def Puts (t : FileTree) (names : List String) (node : Node) (t' : FileTree) : Prop :=
  ∃ here last, t.Lands names here last ∧ t.node? (here ++ [last]) ≠ some .directory ∧
    ∀ q, t'.node? q = if q = here ++ [last] then some node else t.node? q

variable {node : Node}

theorem Puts.node?_eq (h : t.Puts names node t') (q : Position) :
    t'.node? q = if q = Path.resolve names then some node else t.node? q := by
  obtain ⟨here, last, hlands, _, hput⟩ := h
  rw [hlands.resolve_eq, hput]

/-- A tree stays closed if something is put into a directory where no directory was. -/
theorem Puts.closed (h : t.Puts names node t') (hclosed : t.Closed) : t'.Closed := by
  obtain ⟨here, last, hlands, hp, hput⟩ := h
  have hself : ∀ q, q ≠ q ++ [last] := by
    intro q hq
    simpa using congrArg List.length hq
  intro q name hq
  by_cases he : q ++ [name] = here ++ [last]
  · obtain ⟨rfl, _⟩ := List.append_inj' he rfl
    rw [hput, if_neg (hself q), hlands.directory]
  · rw [hput, if_neg he] at hq
    have hdirectory := hclosed q name hq
    have hother : q ≠ here ++ [last] := by
      rintro rfl
      exact hp hdirectory
    rw [hput, if_neg hother, hdirectory]

theorem makeDirectory_puts (h : t.makeDirectory names = .ok t') :
    t.Puts names .directory t' ∧ t.node? (Path.resolve names) = none := by
  unfold makeDirectory at h
  split at h
  · cases h
  · obtain ⟨_, _, h⟩ := bind_ok h
    cases h
  · rename_i last hdown hlast
    obtain ⟨p, hp, hset⟩ := bind_ok h
    obtain ⟨here, hlands, rfl⟩ := lands_of_target hlast hdown hp
    split at hset
    · cases hset
    · rename_i hnone
      cases hset
      refine ⟨⟨here, last, hlands, by simp [hnone], fun q => node?_set (by simp) _⟩, ?_⟩
      rw [hlands.resolve_eq, hnone]

theorem writeFile_puts {content : ByteArray} (h : t.writeFile names content = .ok t') :
    t.Puts names (.file content) t' := by
  unfold writeFile at h
  split at h
  · cases h
  · obtain ⟨_, _, h⟩ := bind_ok h
    cases h
  · rename_i last hdown hlast
    obtain ⟨p, hp, hset⟩ := bind_ok h
    obtain ⟨here, hlands, rfl⟩ := lands_of_target hlast hdown hp
    split at hset
    · cases hset
    · rename_i hp
      cases hset
      exact ⟨here, last, hlands, hp, fun q => node?_set (by simp) _⟩

theorem moveFile_lands {source : Position} (h : t.moveFile source names = .ok t') :
    ∃ here last node, t.Lands names here last ∧ t.node? source = some node ∧
      (∀ octets, node = .file octets → t.node? (here ++ [last]) ≠ some .directory) ∧
      t' = (t.erase source).set (here ++ [last]) node := by
  unfold moveFile at h
  split at h
  · cases h
  · cases h
  · rename_i last hdown hlast
    obtain ⟨p, hp, hset⟩ := bind_ok h
    obtain ⟨here, hlands, rfl⟩ := lands_of_target hlast hdown hp
    split at hset
    · cases hset
    · rename_i node hnode hdirectory
      cases hset
      refine ⟨here, last, node, hlands, hnode, ?_, rfl⟩
      rintro octets rfl hd
      exact hdirectory octets hd rfl
    · cases hset

/-- The second tree has nothing that the first has not, but what lies on the way along the names. -/
def Adds (names : List String) (t t' : FileTree) : Prop :=
  ∀ p, (t'.node? p).isSome → (t.node? p).isSome ∨ p <+: names

theorem Adds.trans (h : Adds names t t') (h' : Adds names t' t'') : Adds names t t'' := by
  intro p hp
  rcases h' p hp with hp | hp
  · exact h p hp
  · exact .inr hp

theorem Puts.adds (h : t.Puts names node t') (hdown : ".." ∉ names) : Adds names t t' := by
  intro p hp
  rw [h.node?_eq, Path.resolve_of_down hdown] at hp
  split at hp
  · rename_i he
    exact .inr (he ▸ List.prefix_rfl)
  · exact .inl hp

/-! ## Making directories -/

/-- There is what there was, in the second tree, and beside it nothing but directories, which the
names lead to on their way. -/
structure Extends (names : List String) (t t' : FileTree) : Prop where
  keeps : ∀ p node, t.node? p = some node → t'.node? p = some node
  files : ∀ p content, t'.node? p = some (.file content) → t.node? p = some (.file content)
  closed : t.Closed → t'.Closed
  made : ∀ p, (t'.node? p).isSome →
    (t.node? p).isSome ∨ ∃ start, start <+: names ∧ p = Path.resolve start

theorem Extends.refl (names : List String) (t : FileTree) : Extends names t t :=
  ⟨fun _ _ h => h, fun _ _ h => h, id, fun _ => .inl⟩

theorem Extends.trans (h : Extends names t t') (h' : Extends names t' t'') :
    Extends names t t'' where
  keeps := fun p node hp => h'.keeps p node (h.keeps p node hp)
  files := fun p content hp => h.files p content (h'.files p content hp)
  closed := fun hc => h'.closed (h.closed hc)
  made := by
    intro p hp
    rcases h'.made p hp with hp | hp
    · exact h.made p hp
    · exact .inr hp

theorem Extends.mono (h : Extends names t t') (hstart : names <+: more) : Extends more t t' := by
  refine ⟨h.keeps, h.files, h.closed, fun p hp => ?_⟩
  rcases h.made p hp with hp | ⟨start, hs, rfl⟩
  · exact .inl hp
  · exact .inr ⟨start, hs.trans hstart, rfl⟩

/-- Names that do not lead back lie on their own way. -/
theorem Extends.adds (h : Extends names t t') (hdown : ".." ∉ names) : Adds names t t' := by
  intro p hp
  rcases h.made p hp with hp | ⟨start, hs, rfl⟩
  · exact .inl hp
  · rw [Path.resolve_of_down fun hm => hdown (hs.subset hm)]
    exact .inr hs

theorem makeDirectory_extends (h : t.makeDirectory names = .ok t') : Extends names t t' := by
  obtain ⟨hput, hnone⟩ := makeDirectory_puts h
  refine ⟨?_, ?_, hput.closed, ?_⟩
  · intro q node hq
    have hne : q ≠ Path.resolve names := by
      rintro rfl
      rw [hnone] at hq
      cases hq
    rw [hput.node?_eq, if_neg hne, hq]
  · intro q content hq
    rw [hput.node?_eq] at hq
    split at hq
    · cases hq
    · exact hq
  · intro q hq
    rw [hput.node?_eq] at hq
    split at hq
    · exact .inr ⟨names, List.prefix_rfl, ‹_›⟩
    · exact .inl hq

theorem ensureDirectory_extends (h : t.ensureDirectory names = .ok t') : Extends names t t' := by
  unfold ensureDirectory at h
  split at h
  · rename_i made hm
    cases h
    exact makeDirectory_extends hm
  · split at h
    · cases h
      exact .refl names t
    · cases h

/-- So it is whether all directories could be made or not. -/
theorem makeDirectories_extends (names : List String) (count : Nat) (t : FileTree) :
    Extends names t (t.makeDirectories names count).2 := by
  induction count generalizing names t with
  | zero =>
    unfold makeDirectories
    split
    · rename_i made hm
      exact ensureDirectory_extends hm
    · exact .refl names t
  | succ count ih =>
    have hparents := (ih names.dropLast t).mono (List.dropLast_prefix names)
    unfold makeDirectories
    split
    · rename_i made hm
      exact makeDirectory_extends hm
    · split
      · rename_i fault made hm
        rw [hm] at hparents
        exact hparents
      · rename_i made hm
        rw [hm] at hparents
        split
        · rename_i last hlast
          exact hparents.trans (ensureDirectory_extends hlast)
        · exact hparents
    · split <;> exact .refl names t

end FileTree

/-! ## Temporary files -/

namespace Writer

variable {t t' : FileTree} {names : List String} {name : String} {content : ByteArray}

theorem temporarySuffix_value (n : Nat) :
    Nat.ofDigitChars 10 (temporarySuffix n).toList 0 = n := by
  have hzeros : ∀ k, Nat.ofDigitChars 10 (List.replicate k '0') 0 = 0 := by
    intro k
    induction k with
    | zero => rfl
    | succ k ih =>
      rw [List.replicate_succ, Nat.ofDigitChars_cons]
      exact ih
  simp [temporarySuffix, Nat.ofDigitChars_append, hzeros]

/-- The number of a temporary file can be read off its name. -/
theorem temporaryName_injective (name : String) : (temporaryName name).Injective := by
  intro m n h
  have hl := congrArg String.toList h
  simp only [temporaryName, String.toList_append, List.append_assoc] at hl
  have hsuffix := List.append_cancel_right
    (List.append_cancel_left (List.append_cancel_left (List.append_cancel_left hl)))
  rw [← temporarySuffix_value m, hsuffix, temporarySuffix_value]

theorem mem_entries_of_node? {p : Position} (hp : p ≠ []) (h : (t.node? p).isSome) :
    p ∈ t.entries.map Prod.fst := by
  unfold FileTree.node? at h
  rw [if_neg hp] at h
  obtain ⟨node, hnode⟩ := Option.isSome_iff_exists.mp h
  exact List.mem_map.mpr ⟨(p, node), FileTree.mem_of_find hnode, rfl⟩

/-- One more name than there are entries cannot all be taken. -/
theorem node?_freshName (t : FileTree) (directory : Position) (name : String) :
    t.node? (directory ++ [freshName t directory name]) = none := by
  have hfree : ∃ n ∈ List.range (t.entries.length + 1),
      (t.node? (directory ++ [temporaryName name n])).isNone = true := by
    by_contra hall
    simp only [not_exists, not_and, Bool.not_eq_true, Option.isNone_eq_false_iff] at hall
    have hsub : (List.range (t.entries.length + 1)).map
        (fun n => directory ++ [temporaryName name n]) ⊆ t.entries.map Prod.fst := by
      intro p hp
      obtain ⟨n, hn, rfl⟩ := List.mem_map.mp hp
      exact mem_entries_of_node? (by simp) (hall n hn)
    have hinj : (fun n => directory ++ [temporaryName name n]).Injective := by
      intro m n h
      exact temporaryName_injective name (by simpa using h)
    have hle := ((List.nodup_range.map hinj).subperm hsub).length_le
    rw [List.length_map, List.length_range, List.length_map] at hle
    omega
  cases hf : (List.range (t.entries.length + 1)).find?
      (fun n => (t.node? (directory ++ [temporaryName name n])).isNone) with
  | none =>
    obtain ⟨n, hn, hnone⟩ := hfree
    exact absurd hnone (List.find?_eq_none.mp hf n hn)
  | some n =>
    unfold freshName
    dsimp only
    rw [hf]
    have hnone := List.find?_some hf
    exact Option.isNone_iff_eq_none.mp hnone

variable {parents : List String} {temporary : Position} {written : FileTree}

/-- A temporary file is the only thing that is new beside the place of a file. -/
theorem writeBeside_ok (h : writeBeside parents name content t = .ok (temporary, written)) :
    ∃ directory, t.walk [] parents = .ok directory ∧
      (∃ p, t.target (directory ++ [temporaryName name 0]) = .ok p) ∧
      temporary = directory ++ [freshName t directory name] ∧
      written = t.set temporary (.file content) := by
  obtain ⟨directory, hwalk, h⟩ := bind_ok h
  obtain ⟨p, hroom, h⟩ := bind_ok h
  cases h
  exact ⟨directory, hwalk, ⟨p, hroom⟩, rfl, rfl⟩

/-- It is put where nothing was, so nothing remains of it when it is taken away. -/
theorem erase_writeBeside (h : writeBeside parents name content t = .ok (temporary, written)) :
    written.erase temporary = t := by
  obtain ⟨directory, _, _, rfl, rfl⟩ := writeBeside_ok h
  exact FileTree.erase_set (by simp) (node?_freshName t directory name) _

theorem node?_writeBeside (h : writeBeside parents name content t = .ok (temporary, written))
    (q : Position) : written.node? q = if q = temporary then some (.file content) else t.node? q := by
  obtain ⟨directory, _, _, rfl, rfl⟩ := writeBeside_ok h
  exact FileTree.node?_set (by simp) _

/-- A file that cannot be written by way of a temporary one leaves the tree as it was. -/
theorem writeAtomically_failed {fault : FileFault}
    (h : (writeAtomically parents name content names t).1 = .error fault) :
    (writeAtomically parents name content names t).2 = t := by
  unfold writeAtomically at h ⊢
  split at h
  · rfl
  · rename_i temporary written hbeside
    split at h
    · cases h
    · exact erase_writeBeside hbeside

/-- A temporary file comes and goes, and the file is all that is left. -/
theorem writeAtomically_ok (h : (writeAtomically parents name content names t).1 = .ok ()) :
    ∃ here last, t.Lands names here last ∧ t.node? (here ++ [last]) ≠ some .directory ∧
      (writeAtomically parents name content names t).2 =
        t.set (here ++ [last]) (.file content) := by
  unfold writeAtomically at h ⊢
  split at h
  · cases h
  rename_i temporary written hbeside
  have hwritten := node?_writeBeside hbeside
  split at h
  · rename_i moved hmove
    obtain ⟨here, last, node, hlands, hnode, hp, rfl⟩ := FileTree.moveFile_lands hmove
    obtain rfl : node = .file content := by
      rw [hwritten, if_pos rfl] at hnode
      exact (Option.some.inj hnode).symm
    refine ⟨here, last, hlands.of_directories fun q hq => ?_, fun hd => hp content rfl ?_, ?_⟩
    · rw [hwritten] at hq
      split at hq
      · cases hq
      · exact hq
    · rw [hwritten, if_neg, hd]
      rintro rfl
      obtain ⟨directory, _, _, htemporary, _⟩ := writeBeside_ok hbeside
      rw [htemporary, node?_freshName] at hd
      cases hd
    · dsimp only
      rw [erase_writeBeside hbeside]
  · cases h

theorem writeAtomically_puts (h : (writeAtomically parents name content names t).1 = .ok ()) :
    t.Puts names (.file content) (writeAtomically parents name content names t).2 := by
  obtain ⟨here, last, hlands, hp, hset⟩ := writeAtomically_ok h
  refine ⟨here, last, hlands, hp, fun q => ?_⟩
  rw [hset, FileTree.node?_set (by simp)]

end Writer

end ApiTypings
