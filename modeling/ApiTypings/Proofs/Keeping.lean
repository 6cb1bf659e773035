import Mathlib
import ApiTypings.Proofs.Batches

/-!
# Files that must not be replaced

Where files must not be replaced, a write first looks whether one is there. It follows the
path for that, and finds nothing if a directory on the way is missing; only then are the
missing directories made. A path that goes through one of them and back again with `..` so
leads to a file that was not seen. Apart from such files every file is kept, by any number
of calls, whatever becomes of each.
-/

namespace ApiTypings

namespace FileTree

variable {X : Position → Prop} {t t' t'' : FileTree} {here p : Position} {names : List String}

/-- What was there is there, but for the content of files at the given positions. -/
def KeepsBut (X : Position → Prop) (t t' : FileTree) : Prop :=
  ∀ p node, t.node? p = some node → t'.node? p = some node ∨
    (X p ∧ (∃ content, node = .file content) ∧ ∃ content, t'.node? p = some (.file content))

theorem KeepsBut.refl (X : Position → Prop) (t : FileTree) : KeepsBut X t t :=
  fun _ _ h => .inl h

theorem KeepsBut.directory (h : KeepsBut X t t') (hp : t.node? p = some .directory) :
    t'.node? p = some .directory := by
  rcases h p _ hp with hp | ⟨_, ⟨_, he⟩, _⟩
  · exact hp
  · cases he

theorem KeepsBut.isSome (h : KeepsBut X t t') (hp : (t.node? p).isSome) : (t'.node? p).isSome := by
  obtain ⟨node, hnode⟩ := Option.isSome_iff_exists.mp hp
  rcases h p node hnode with hp | ⟨_, _, _, hp⟩ <;> rw [hp] <;> rfl

theorem KeepsBut.step {name : String} (h : KeepsBut X t t') (hs : t.step here name = .ok p) :
    t'.step here name = .ok p := by
  unfold FileTree.step at hs ⊢
  split at hs
  · cases hs
  · cases hs
  · rename_i hhere
    rw [h.directory hhere]
    dsimp only
    split at hs
    · rename_i hname
      rw [if_pos hname]
      exact hs
    · rename_i hname
      rw [if_neg hname]
      split at hs
      · cases hs
      · rename_i hshort
        rw [if_neg hshort]
        split at hs
        · rename_i hthere
          rw [if_pos (h.isSome hthere)]
          exact hs
        · cases hs

theorem KeepsBut.walk (h : KeepsBut X t t') (hw : t.walk here names = .ok p) :
    t'.walk here names = .ok p := by
  induction names generalizing here with
  | nil => exact hw
  | cons name rest ih =>
    rw [← List.singleton_append] at hw
    obtain ⟨q, hq, hrest⟩ := walk_append hw
    have hstep : t.step here name = .ok q := by simpa [FileTree.walk] using hq
    unfold FileTree.walk
    rw [List.foldlM_cons, h.step hstep]
    exact ih hrest

/-- What could be found can still be found. -/
theorem KeepsBut.stat {node : Node} (h : KeepsBut X t t') (hs : t.stat names = .ok node) :
    ∃ node, t'.stat names = .ok node := by
  obtain ⟨⟨⟩, hproper, hs⟩ := bind_ok hs
  obtain ⟨p, hw, hfound⟩ := bind_ok hs
  have hthere : (t.node? p).isSome := by
    split at hfound
    · rename_i found hf
      rw [hf]
      rfl
    · cases hfound
  obtain ⟨node', hnode⟩ := Option.isSome_iff_exists.mp (h.isSome hthere)
  refine ⟨node', ?_⟩
  simp only [FileTree.stat, hproper, h.walk hw, hnode, bind, Except.bind, pure, Except.pure]

theorem KeepsBut.extends (h : KeepsBut X t t') (hmade : Extends names t' t'') :
    KeepsBut X t t'' := by
  intro p node hp
  rcases h p node hp with hp | ⟨hx, hfile, content, hp⟩
  · exact .inl (hmade.keeps p node hp)
  · exact .inr ⟨hx, hfile, content, hmade.keeps p _ hp⟩

theorem KeepsBut.puts {content : ByteArray} (h : KeepsBut X t t')
    (hput : t'.Puts names (.file content) t'')
    (hx : ∀ old, t.node? (Path.resolve names) = some (.file old) → X (Path.resolve names)) :
    KeepsBut X t t'' := by
  intro p node hp
  rw [hput.node?_eq]
  by_cases he : p = Path.resolve names
  · subst he
    rw [if_pos rfl]
    obtain ⟨here, last, hlands, hother, _⟩ := hput
    cases node with
    | directory => exact absurd (h.directory hp) (hlands.resolve_eq ▸ hother)
    | file old => exact .inr ⟨hx old hp, ⟨old, rfl⟩, content, rfl⟩
  · rw [if_neg he]
    exact h p node hp

end FileTree

namespace Writer

variable {w t : World} {path : Path} {p : Position} {X : Position → Prop}

/-- The path leads to the position, but back from somewhere on the way, and is not found. -/
structure Overlooks (w : World) (path : Path) (p : Position) : Prop where
  back : ".." ∈ w.trail path
  resolve : Path.resolve (w.trail path) = p
  missed : ∀ node, w.tree.stat (w.trail path) ≠ .ok node

/-- A file that is written over without being refused was not seen. -/
theorem overlooks_of_puts {settings : OutputSettings} {content : String} {made tree : FileTree}
    {octets old : ByteArray} (hclosed : w.tree.Closed)
    (hguard : settings.mode = .mode .errorIfExists) (hfree : ¬ Refuses settings w path content)
    (hput : made.Puts (w.trail path) (.file octets) tree)
    (hold : w.tree.node? (Path.resolve (w.trail path)) = some (.file old)) :
    Overlooks w path (Path.resolve (w.trail path)) := by
  have hmissed : ∀ node, w.tree.stat (w.trail path) ≠ .ok node := fun node hs =>
    hfree (.inl ⟨hguard, FileTree.present_eq_true_iff.mpr ⟨node, hs⟩⟩)
  refine ⟨?_, rfl, hmissed⟩
  by_contra hdown
  obtain ⟨here, last, hlands, _⟩ := hput
  rw [hlands.resolve_eq] at hold
  obtain ⟨node, hs⟩ := hlands.stat_of_down hdown hclosed hold
  exact hmissed node hs

/-- What a world was before, but for files that may have been replaced. -/
structure Kept (X : Position → Prop) (w t : World) : Prop where
  home : t.home = w.home
  closed : t.tree.Closed
  nodes : FileTree.KeepsBut X w.tree t.tree

theorem Kept.refl (X : Position → Prop) (hclosed : w.tree.Closed) : Kept X w w :=
  ⟨rfl, hclosed, .refl X w.tree⟩

/-- What is not seen later was not seen before. -/
theorem Overlooks.before (h : Overlooks t path p) (hkept : Kept X w t) : Overlooks w path p := by
  obtain ⟨hback, hresolve, hmissed⟩ := h
  rw [trail_congr hkept.home] at hback hresolve hmissed
  refine ⟨hback, hresolve, fun node hs => ?_⟩
  obtain ⟨node', hs'⟩ := hkept.nodes.stat hs
  exact hmissed node' hs'

/-! ## Calls -/

section

variable {settings : OutputSettings} {content : String}

theorem write_kept (hguard : settings.mode = .mode .errorIfExists)
    (hx : ∀ p, Overlooks w path p → X p) (hkept : Kept X w t) :
    Task.Ends (write settings path content) t (fun _ u => Kept X w u) fun _ u => Kept X w u := by
  refine write_ends.imp ?_ ?_
  · rintro _ u ⟨hhome, hfree, made, hmade, hput⟩
    refine ⟨hhome.trans hkept.home, hput.closed (hmade.closed hkept.closed), ?_⟩
    refine (hkept.nodes.extends hmade).puts hput fun old hold => ?_
    rcases hkept.nodes _ _ hold with hthere | ⟨hreplaced, _⟩
    · have hseen := overlooks_of_puts hkept.closed hguard hfree hput hthere
      exact hx _ (hseen.before hkept)
    · exact hreplaced
  · rintro _ u ⟨hhome, hmade, _⟩
    exact ⟨hhome.trans hkept.home, hmade.closed hkept.closed, hkept.nodes.extends hmade⟩

theorem writeAll_kept {root : Path} {files : List (String × String)}
    (hguard : settings.mode = .mode .errorIfExists)
    (hx : ∀ file ∈ files, ∀ p, Overlooks w (root / file.1) p → X p) (hkept : Kept X w t) :
    Task.Ends (writeAll (.settings settings) root files) t (fun _ u => Kept X w u)
      fun _ u => Kept X w u := by
  have hget : ∀ u : World, Kept X w u →
      Task.Ends (Task.ofExcept (OutputSetting.settings settings).get) u
        (fun found v => v = u ∧ found = settings) fun _ v => Kept X w v := by
    intro u hu
    exact .pure ⟨rfl, rfl⟩
  unfold writeAll
  refine Task.Ends.bind (Task.Ends.forM (fun _ u => Kept X w u) ?_ hkept) fun _ u hu => ?_
  · rintro past file rest u _ hu
    refine (hget u hu).bind ?_
    rintro _ _ ⟨rfl, rfl⟩
    refine check_ends.imp ?_ ?_
    · rintro _ _ ⟨rfl, _⟩
      exact hu
    · rintro _ _ ⟨rfl, _⟩
      exact hu
  · refine Task.Ends.bind (Task.Ends.mapM (fun _ u => Kept X w u) ?_ hu) fun _ v hv => ?_
    · rintro past file rest u hsplit hu
      have hfile : file ∈ files := mem_inOrder.mp (hsplit ▸ by simp)
      refine (hget u hu).bind ?_
      rintro _ _ ⟨rfl, rfl⟩
      exact (write_kept hguard (hx file hfile) hu).bind fun _ _ hv => .pure hv
    · refine Task.Ends.bind report_ends ?_
      rintro _ u ⟨hhome, htree⟩
      refine .pure ⟨hhome.trans hv.home, ?_, ?_⟩
      · rw [htree]
        exact hv.closed
      · rw [htree]
        exact hv.nodes

end

/-- A call of the writer. -/
inductive Call
  | write (settings : OutputSettings) (path : Path) (content : String)
  | writeAll (settings : OutputSettings) (root : Path) (files : List (String × String))

namespace Call

/-- The settings of the writer that is called. -/
def settings : Call → OutputSettings
  | .write settings _ _ => settings
  | .writeAll settings _ _ => settings

/-- The paths of the files to be written. -/
def paths : Call → List Path
  | .write _ path _ => [path]
  | .writeAll _ root files => files.map fun file => root / file.1

/-- The world after the call, whether it returns or fails. -/
def after (w : World) : Call → World
  | .write settings path content => ((Writer.write settings path content).outcome w).2
  | .writeAll settings root files => ((Writer.writeAll (.settings settings) root files).outcome w).2

theorem after_kept {call : Call} (hguard : call.settings.mode = .mode .errorIfExists)
    (hx : ∀ path ∈ call.paths, ∀ p, Overlooks w path p → X p) (hkept : Kept X w t) :
    Kept X w (call.after t) := by
  have hends : ∀ {α : Type} {task : Action α},
      Task.Ends task t (fun _ u => Kept X w u) (fun _ u => Kept X w u) →
        Kept X w (task.outcome t).2 := by
    intro α task h
    rcases ho : task.outcome t with ⟨e | a, u⟩
    · exact h.2 e u ho
    · exact h.1 a u ho
  cases call with
  | write settings path content =>
    exact hends (write_kept hguard (hx path (List.mem_singleton_self path)) hkept)
  | writeAll settings root files =>
    exact hends (writeAll_kept hguard
      (fun file hf => hx _ (List.mem_map_of_mem hf)) hkept)

end Call

/-- Calls one after the other, each in the world that the one before has left. -/
def run (calls : List Call) (w : World) : World := calls.foldl Call.after w

theorem run_kept {calls : List Call}
    (hguard : ∀ call ∈ calls, call.settings.mode = .mode .errorIfExists)
    (hx : ∀ call ∈ calls, ∀ path ∈ call.paths, ∀ p, Overlooks w path p → X p)
    (hkept : Kept X w t) : Kept X w (run calls t) := by
  induction calls generalizing t with
  | nil => exact hkept
  | cons call rest ih =>
    rw [List.forall_mem_cons] at hguard hx
    exact ih hguard.2 hx.2 (Call.after_kept hguard.1 hx.1 hkept)

/-- Calls that must not replace files leave every file as it was, unless a path of theirs overlooks
it; and a file that is overlooked is replaced by each write to that path which returns. -/
theorem run_keeps {calls : List Call} (hclosed : w.tree.Closed)
    (hguard : ∀ call ∈ calls, call.settings.mode = .mode .errorIfExists) :
    (∀ p content, w.tree.node? p = some (.file content) →
      (run calls w).tree.node? p = some (.file content) ∨
        ∃ call ∈ calls, ∃ path ∈ call.paths, Overlooks w path p) ∧
    ∀ settings path content t, (write settings path content).outcome w = (.ok (), t) →
      ∀ p, Overlooks w path p → t.tree.node? p = some (.file (Text.toOctets content)) := by
  constructor
  · intro p content hp
    have hkept := run_kept (X := fun p => ∃ call ∈ calls, ∃ path ∈ call.paths, Overlooks w path p)
      hguard (fun call hc path hpath p ho => ⟨call, hc, path, hpath, ho⟩) (.refl _ hclosed)
    rcases hkept.nodes p _ hp with hthere | ⟨hseen, _⟩
    · exact .inl hthere
    · exact .inr hseen
  · intro settings path content t h p hseen
    obtain ⟨_, _, made, _, hput⟩ := write_ends.1 () t h
    rw [hput.node?_eq, if_pos hseen.resolve.symm]

/-- Settings under which nothing is replaced. -/
def guarding : OutputSettings := { mode := .mode .errorIfExists, atomic := .bool false }

/-- Calls of which one is refused and one goes through a directory that is not there, to a place
where no file is. -/
def guardedCalls : List Call := [
  .write guarding (Path.ofString "b.ts") "1",
  .writeAll guarding (Path.ofString "d") [("../c.ts", "2")]]

theorem guardedCalls_guarded :
    ∀ call ∈ guardedCalls, call.settings.mode = .mode .errorIfExists := by
  decide

theorem guardedCalls_see : ∀ call ∈ guardedCalls, ∀ path ∈ call.paths,
    ¬ Overlooks standing path ["b.ts"] := by
  have hother : ∀ call ∈ guardedCalls, ∀ path ∈ call.paths,
      Path.resolve (standing.trail path) = ["b.ts"] → ".." ∉ standing.trail path := by
    decide
  exact fun call hc path hp h => hother call hc path hp h.resolve h.back

theorem guardedCalls_written :
    (run guardedCalls standing).tree.node? ["c.ts"] = some (.file (Text.toOctets "2")) := by
  cbv

theorem run_keeps_of_guardedCalls :
    standing.tree.Closed ∧ (∀ call ∈ guardedCalls, call.settings.mode = .mode .errorIfExists) ∧
      standing.tree.node? ["b.ts"] = some (.file ⟨#[]⟩) ∧
      (run guardedCalls standing).tree.node? ["c.ts"] = some (.file (Text.toOctets "2")) ∧
      (run guardedCalls standing).tree.node? ["b.ts"] = some (.file ⟨#[]⟩) := by
  refine ⟨standing_closed, guardedCalls_guarded, rfl, guardedCalls_written, ?_⟩
  rcases (run_keeps standing_closed guardedCalls_guarded).1 ["b.ts"] ⟨#[]⟩ rfl with
    h | ⟨call, hc, path, hp, hseen⟩
  · exact h
  · exact absurd hseen (guardedCalls_see call hc path hp)

/-- A call whose path goes through a directory that is not there, and back. -/
def windingCall : Call := .write guarding (Path.ofString "x/../b.ts") "1"

/-- The file was there, must not be replaced, and is replaced. -/
theorem windingCall_replaces : standing.tree.Closed ∧
    (∀ call ∈ [windingCall], call.settings.mode = .mode .errorIfExists) ∧
    standing.tree.node? ["b.ts"] = some (.file ⟨#[]⟩) ∧
    (run [windingCall] standing).tree.node? ["b.ts"] ≠ some (.file ⟨#[]⟩) := by
  have hwritten : (run [windingCall] standing).tree.node? ["b.ts"] =
      some (.file (Text.toOctets "1")) := by cbv
  refine ⟨standing_closed, by decide, rfl, ?_⟩
  rw [hwritten]
  intro h
  have hsize := congrArg ByteArray.size (Node.file.inj (Option.some.inj h))
  revert hsize
  decide

end Writer

end ApiTypings
