import Mathlib
import ApiTypings.CommandLine.Run
import ApiTypings.Proofs.Generation
import ApiTypings.Proofs.Logging
import ApiTypings.Proofs.Outcomes

/-!
# What a run leaves behind

A run reads its settings, loads the schema, and generates and renders all of its files before it
writes the first of them. All of these steps only look at the files that are there. So a run
that does not get as far as writing leaves the tree as it was, whatever stopped it, and
one that does leaves it as writing the batch would have left it, had that been all.
-/

namespace ApiTypings

/-- Wherever the files are the same the step ends as it does here, and it leaves them as they
are. -/
def Action.OnlyLooks {α : Type} (w : World) (step : Action α) : Prop :=
  Task.Yields w.Same step (step.outcome w).1

section OnlyLooks

variable {α β : Type} {w : World}

/-- It is enough that the step ends in one way. -/
theorem Action.OnlyLooks.of_yields {step : Action α} {r : Except Failure α}
    (h : Task.Yields w.Same step r) : Action.OnlyLooks w step := by
  have hr : (step.outcome w).1 = r := (h w (.refl w)).1
  unfold Action.OnlyLooks
  rw [hr]
  exact h

theorem Action.OnlyLooks.bind {step : Action α} {next : α → Action β}
    (h : Action.OnlyLooks w step) (hnext : ∀ a, Action.OnlyLooks w (next a)) :
    Action.OnlyLooks w (step >>= next) := .of_yields (Task.Yields.bind h hnext)

theorem Action.OnlyLooks.pure (a : α) : Action.OnlyLooks w (pure a) := .of_yields (.pure a)

theorem Action.OnlyLooks.throw (e : Failure) : Action.OnlyLooks w (throw e : Action α) :=
  .of_yields (.throw e)

theorem Action.OnlyLooks.ofExcept (r : Except Failure α) :
    Action.OnlyLooks w (Task.ofExcept r) := .of_yields (.ofExcept r)

/-- What follows a look at the world is the same step wherever the files are the same. -/
theorem Action.OnlyLooks.get {next : World → Action β} (h : Action.OnlyLooks w (next w))
    (hsame : ∀ t, w.Same t → next t = next w) : Action.OnlyLooks w (MonadState.get >>= next) := by
  refine .of_yields (.get (r := ((next w).outcome w).1) fun t ht => ?_)
  rw [hsame t ht]
  exact h

theorem report_onlyLooks (level : Level) (text : String) :
    Action.OnlyLooks w (report level text) :=
  .of_yields (.modify fun _ ht => ⟨ht.home, ht.tree⟩)

theorem ofFileSystem_onlyLooks (answer : Except FileFault α) :
    Action.OnlyLooks w (ofFileSystem answer) := by
  cases answer with
  | ok a => exact .pure a
  | error fault => exact .throw _

theorem failLoading_onlyLooks (record : String) (e : LoadError) :
    Action.OnlyLooks w (failLoading record e : Action α) :=
  (report_onlyLooks _ _).bind fun _ => .throw _

theorem loadFile_onlyLooks (path : Path) : Action.OnlyLooks w (loadFile path) := by
  refine (report_onlyLooks _ _).bind fun _ => .get ?_ ?_
  · refine (ofFileSystem_onlyLooks _).bind fun there => ?_
    split
    · exact failLoading_onlyLooks _ _
    · split
      · exact failLoading_onlyLooks _ _
      · split
        · exact .throw _
        · split
          · exact .pure _
          · exact .throw _
          · exact failLoading_onlyLooks _ _
  · intro t ht
    rw [ht.tree, ht.trail]

theorem readAnswer_onlyLooks (url : String) (status : Json) (text : String) :
    Action.OnlyLooks w (readAnswer url status text) := by
  refine Action.OnlyLooks.bind (.ofExcept _) fun refusal => ?_
  split
  · exact failLoading_onlyLooks _ _
  · unfold readBody
    dsimp only
    split
    · exact .pure _
    · exact failLoading_onlyLooks _ _

/-- A request is noted, but no file is touched by it. -/
theorem loadUrl_onlyLooks (network : Network) (url : String) (timeout : Json) :
    Action.OnlyLooks w (loadUrl network url timeout) := by
  refine (report_onlyLooks _ _).bind fun _ => ?_
  split
  · exact .throw _
  · exact failLoading_onlyLooks _ _
  · refine Action.OnlyLooks.bind (.of_yields (.modify fun _ ht => ⟨ht.home, ht.tree⟩)) fun _ => ?_
    cases network.outcome with
    | answered status body => exact readAnswer_onlyLooks _ _ _
    | declared status text => exact readAnswer_onlyLooks _ _ _
    | faulty fault => exact .throw _
    | failed failure reason =>
      cases failure with
      | answer => exact .throw _
      | _ => exact failLoading_onlyLooks _ _

end OnlyLooks

namespace CommandLine

variable {network : Network} {call : Call} {w : World}

theorem resolvePath_congr {w t : World} (h : w.Same t) (path : String) :
    resolvePath t path = resolvePath w path := by
  unfold resolvePath
  rw [h.trail]

theorem readSettings_onlyLooks (path : Path) : Action.OnlyLooks w (readSettings path) := by
  refine .get ?_ ?_
  · refine (ofFileSystem_onlyLooks _).bind fun content => ?_
    split
    · exact .throw _
    · split
      · exact .ofExcept _
      · exact .throw _
      · exact .throw _
  · intro t ht
    rw [ht.tree, ht.trail]

theorem configure_onlyLooks : Action.OnlyLooks w (configure call) := by
  unfold configure
  split
  · refine .get (readSettings_onlyLooks _) fun t ht => ?_
    rw [resolvePath_congr ht]
  · exact .pure _

theorem loadSchema_onlyLooks (settings : Settings) (version : String) :
    Action.OnlyLooks w (loadSchema network call settings version) := by
  unfold loadSchema
  split
  · refine .get (loadFile_onlyLooks _) fun t ht => ?_
    rw [resolvePath_congr ht]
  · exact Action.OnlyLooks.bind (.ofExcept _) fun url => loadUrl_onlyLooks _ _ _

/-- Generating does not look at the world at all. -/
theorem generating_yields {α : Type} {step : Generating α} (h : Generating.Blind step) :
    Task.Yields w.Same (generating step) (step.outcome {}).1 := by
  refine .get fun t ht => ?_
  have hends := (h { log := t.log } {} rfl).1
  generalize step.outcome { log := t.log } = ended at hends
  obtain ⟨outcome, work⟩ := ended
  obtain rfl : outcome = (step.outcome {}).1 := hends
  exact Task.Yields.bind (.set ⟨ht.home, ht.tree⟩) fun _ => .ofExcept _

/-! ## Everything up to the writing -/

/-- The settings that are read, before the arguments have their say. -/
def Configures (w : World) : Option String → Settings → Prop
  | none, settings => settings = .standard
  | some path, settings => ((readSettings (resolvePath w path)).outcome w).1 = .ok settings

/-- The second settings are the first ones, with the mode that the arguments ask for. -/
def Overrides : Option Bool → Settings → Settings → Prop
  | none, given, settings => settings = given
  | some force, given, settings => ∃ output, given.output = .settings output ∧
      settings = { given with output := .settings { output with
        mode := .mode (if force then .force else .errorIfExists) } }

/-- The directory that is named by the arguments, or else by the settings. -/
def Directs (w : World) (settings : Settings) : Option String → Path → Prop
  | none, directory => ∃ text, settings.outputDir = .string text ∧ directory = .ofString text
  | some path, directory => directory = resolvePath w path

/-- The document is what the file holds that the arguments name, or else what the network
answers. -/
def Supplies (network : Network) (w : World) (settings : Settings) (version : String) :
    Option String → Json → Prop
  | none, document => ∃ url, Template.address settings.schemaUrl version = .ok url ∧
      ((loadUrl network url settings.requestTimeout).outcome w).1 = .ok document
  | some path, document => ((loadFile (resolvePath w path)).outcome w).1 = .ok document

/-- All steps before the writing return, and this is what they return. -/
structure Prepares (network : Network) (call : Call) (w : World) (settings : Settings)
    (root : Path) (files : List (String × String)) : Prop where
  configured : ∃ given, Configures w call.config given ∧ Overrides call.force given settings
  directed : ∃ directory, Directs w settings call.output directory ∧
    root = directory / Version.normalize call.version
  rendered : ∃ document g,
    Supplies network w settings (Version.normalize call.version) call.schema document ∧
      Generator.ofSchema settings document = .ok g ∧ (g.render.outcome {}).1 = .ok files
  writable : "output" ∉ settings.missing

theorem configure_eq_ok {given : Settings} :
    ((configure call).outcome w).1 = .ok given ↔ Configures w call.config given := by
  unfold configure Configures
  cases call.config with
  | some path =>
    dsimp only
    rw [Task.outcome_get_bind]
  | none =>
    change Except.ok Settings.standard = Except.ok given ↔ _
    rw [Except.ok.injEq, eq_comm]

theorem overrideMode_eq_ok {force : Option Bool} {given settings : Settings} :
    overrideMode force given = .ok settings ↔ Overrides force given settings := by
  unfold overrideMode Overrides
  cases force with
  | none => simp [eq_comm]
  | some force =>
    dsimp only
    rcases given.output with output | found
    · constructor
      · rintro ⟨⟩
        exact ⟨output, rfl, rfl⟩
      · rintro ⟨_, ⟨⟩, rfl⟩
        rfl
    · exact iff_of_false nofun nofun

theorem outputRoot_eq_ok {settings : Settings} {version : String} {root : Path} :
    outputRoot w call settings version = .ok root ↔
      ∃ directory, Directs w settings call.output directory ∧ root = directory / version := by
  unfold outputRoot Directs
  cases call.output with
  | some output => simp [eq_comm]
  | none => cases settings.outputDir <;> simp [faulty, eq_comm]

theorem loadSchema_eq_ok {settings : Settings} {version : String} {document : Json} :
    ((loadSchema network call settings version).outcome w).1 = .ok document ↔
      Supplies network w settings version call.schema document := by
  unfold loadSchema Supplies
  cases call.schema with
  | some path =>
    dsimp only
    rw [Task.outcome_get_bind]
  | none =>
    dsimp only
    rw [Task.outcome_bind]
    generalize Template.address settings.schemaUrl version = address
    cases address with
    | error e => exact iff_of_false nofun nofun
    | ok url =>
      constructor
      · exact fun h => ⟨url, rfl, h⟩
      · rintro ⟨_, ⟨⟩, h⟩
        exact h

/-- What the steps before the writing come to, one after the other. -/
def prepared (network : Network) (call : Call) (w : World) :
    Except Failure (Settings × Path × List (String × String)) := do
  let given ← ((configure call).outcome w).1
  let settings ← overrideMode call.force given
  let version := Version.normalize call.version
  let root ← outputRoot w call settings version
  let document ← ((loadSchema network call settings version).outcome w).1
  let g ← Generator.ofSchema settings document
  let files ← (g.render.outcome {}).1
  settings.require "output"
  return (settings, root, files)

theorem prepare_yields (network : Network) (call : Call) (w : World) :
    Task.Yields w.Same (prepare network call) (prepared network call w) := by
  refine .bind configure_onlyLooks fun given => .bind (.ofExcept _) fun settings => .get ?_
  intro t ht
  have hroot : outputRoot t call settings (Version.normalize call.version) =
      outputRoot w call settings (Version.normalize call.version) := by
    unfold outputRoot
    simp only [resolvePath_congr ht]
  rw [hroot]
  refine .bind (.ofExcept _) fun root => .bind (loadSchema_onlyLooks _ _) fun document => ?_
  refine .bind (.ofExcept _) fun g => .bind (generating_yields g.render_blind) fun files => ?_
  exact .bind (.ofExcept _) fun _ => .pure _

theorem prepared_eq_ok {settings : Settings} {root : Path} {files : List (String × String)} :
    prepared network call w = .ok (settings, root, files) ↔
      Prepares network call w settings root files := by
  constructor
  · intro h
    obtain ⟨given, hg, h⟩ := bind_ok h
    obtain ⟨settings, hs, h⟩ := bind_ok h
    obtain ⟨root, hr, h⟩ := bind_ok h
    obtain ⟨document, hd, h⟩ := bind_ok h
    obtain ⟨g, hgenerator, h⟩ := bind_ok h
    obtain ⟨files, hf, h⟩ := bind_ok h
    obtain ⟨_, hw, h⟩ := bind_ok h
    cases h
    exact ⟨⟨given, configure_eq_ok.mp hg, overrideMode_eq_ok.mp hs⟩, outputRoot_eq_ok.mp hr,
      ⟨document, g, loadSchema_eq_ok.mp hd, hgenerator, hf⟩, Settings.require_eq_ok.mp hw⟩
  · rintro ⟨⟨given, hg, hs⟩, hr, ⟨document, g, hd, hgenerator, hf⟩, hw⟩
    unfold prepared
    simp only [configure_eq_ok.mpr hg, overrideMode_eq_ok.mpr hs, outputRoot_eq_ok.mpr hr,
      loadSchema_eq_ok.mpr hd, hgenerator, hf, Settings.require_eq_ok.mpr hw, bind, Except.bind]
    rfl

/-! ## The whole run -/

/-- What the world is like after a run, and whether it succeeded, is told by what it performed. -/
theorem run_of_call {arguments : List String} {outcome : Except Failure (List String)} {t : World}
    (h : readCall (leadsSomewhere w) arguments = .ok call)
    (hp : (perform network call).outcome w = (outcome, t)) :
    (run network arguments w).world = t ∧
      (run network arguments w).exitCode = if outcome.isOk then 0 else 1 := by
  unfold run
  rw [h]
  dsimp only
  rw [hp]
  rcases outcome with (_ | _ | _ | _) | paths <;> exact ⟨rfl, rfl⟩

/-- Nothing happens after a step that fails before the writing. -/
theorem perform_of_stopped {e : Failure} (h : prepared network call w = .error e) :
    ∃ t, (perform network call).outcome w = (.error e, t) ∧ t.tree = w.tree := by
  obtain ⟨hends, hsame⟩ := prepare_yields network call w w (.refl w)
  have hprepare : (prepare network call).outcome w =
      (.error e, ((prepare network call).outcome w).2) := Prod.ext (hends.trans h) rfl
  refine ⟨_, ?_, hsame.tree.symm⟩
  unfold perform
  rw [Task.outcome_bind, hprepare]

/-- Once all is prepared, what happens is what writing does. -/
theorem perform_of_prepared {settings : Settings} {root : Path} {files : List (String × String)}
    (h : prepared network call w = .ok (settings, root, files)) :
    ∃ outcome t, (perform network call).outcome w = (outcome, t) ∧
      (outcome.isOk ↔
        ∃ paths, ((Writer.writeAll settings.output root files).outcome w).1 = .ok paths) ∧
      t.tree = ((Writer.writeAll settings.output root files).outcome w).2.tree := by
  obtain ⟨hends, hsame⟩ := prepare_yields network call w w (.refl w)
  have hprepare : (prepare network call).outcome w =
      (.ok (settings, root, files), ((prepare network call).outcome w).2) :=
    Prod.ext (hends.trans h) rfl
  obtain ⟨hwrite, hleft⟩ := Writer.writeAll_blind settings.output root files w _ hsame
  unfold perform
  rw [Task.outcome_bind, hprepare]
  dsimp only
  rw [Task.outcome_bind]
  generalize (Writer.writeAll settings.output root files).outcome
    ((prepare network call).outcome w).2 = written at hwrite hleft
  obtain ⟨outcome, t⟩ := written
  rw [hwrite, hleft.tree]
  cases outcome with
  | error e => exact ⟨_, _, rfl, iff_of_false nofun nofun, rfl⟩
  | ok paths => exact ⟨_, _, rfl, iff_of_true rfl ⟨paths, rfl⟩, rfl⟩

/-- Arguments that are no call leave the world as it is; only those that ask for help are no
failure. -/
theorem run_of_refusal {arguments : List String} {refusal : Refusal}
    (h : readCall (leadsSomewhere w) arguments = .error refusal) :
    (run network arguments w).world = w ∧
      ((run network arguments w).exitCode = 0 ↔ refusal = .help) := by
  unfold run
  rw [h]
  cases refusal with
  | usage e => exact ⟨rfl, iff_of_false nofun nofun⟩
  | fault fault => exact ⟨rfl, iff_of_false nofun nofun⟩
  | help => exact ⟨rfl, iff_of_true rfl rfl⟩

/-- A run whose arguments are no call leaves the world as it is, and only asking for help is no
failure. One that does not get as far as writing fails and leaves the tree as it was. One that does
leaves the tree that writing the files leaves, and succeeds if that does. -/
theorem run_all_or_nothing (network : Network) (arguments : List String) (w : World) :
    (∀ refusal, readCall (leadsSomewhere w) arguments = .error refusal →
      (run network arguments w).world = w ∧
        ((run network arguments w).exitCode = 0 ↔ refusal = .help)) ∧
    ∀ call, readCall (leadsSomewhere w) arguments = .ok call →
      ((¬ ∃ settings root files, Prepares network call w settings root files) →
        (run network arguments w).exitCode = 1 ∧ (run network arguments w).world.tree = w.tree) ∧
      ∀ settings root files, Prepares network call w settings root files →
        (run network arguments w).world.tree =
            ((Writer.writeAll settings.output root files).outcome w).2.tree ∧
          ((run network arguments w).exitCode = 0 ↔
            ∃ paths, ((Writer.writeAll settings.output root files).outcome w).1 = .ok paths) := by
  refine ⟨fun refusal h => run_of_refusal h, fun call h => ⟨?_, ?_⟩⟩
  · intro hnone
    cases hp : prepared network call w with
    | ok found => exact absurd ⟨_, _, _, prepared_eq_ok.mp hp⟩ hnone
    | error e =>
      obtain ⟨t, hperform, htree⟩ := perform_of_stopped hp
      obtain ⟨hworld, hcode⟩ := run_of_call h hperform
      rw [hworld, hcode]
      exact ⟨rfl, htree⟩
  · intro settings root files hprepares
    obtain ⟨outcome, t, hperform, hok, htree⟩ := perform_of_prepared (prepared_eq_ok.mpr hprepares)
    obtain ⟨hworld, hcode⟩ := run_of_call h hperform
    rw [hworld, hcode, ← hok]
    refine ⟨htree, ?_⟩
    cases outcome.isOk <;> simp

/-- A world with a schema in a file. -/
def shelf : World where
  home := []
  tree := ⟨[(["s"], .file
    (Text.toOctets "\x7b\"definitions\":\x7b\"io.k8s.api.a.B\":\x7b\"type\":\"string\"\x7d\x7d\x7d"))]⟩

/-- Its files are to be written below `o`, and not to replace any. -/
def shelfArguments : List String := ["1", "-s", "s", "-o", "o", "--no-force"]

def shelfCall : Call where
  config := none
  schema := some "s"
  output := some "o"
  force := some false
  verbose := false
  version := "1"

def shelfSettings : Settings :=
  { Settings.standard with output := .settings { mode := .mode .errorIfExists } }

def shelfDocument : Json :=
  .object [("definitions", .object [("io.k8s.api.a.B", .object [("type", .string "string")])])]

def shelfGenerator : Generator where
  settings := shelfSettings
  document := {
    title := .string ""
    version := .string ""
    definitions := [("io.k8s.api.a.B", ⟨.null, .string "string", [], none, []⟩)] }

def offline : Network := ⟨.failed .connection "", fun _ => ""⟩

theorem shelf_read : ((loadFile (resolvePath shelf "s")).outcome shelf).1 = .ok shelfDocument := by
  cbv

theorem shelf_prepares : Prepares offline shelfCall shelf shelfSettings ⟨"/", ["o", "v1"]⟩
    [("a.ts", "export type B = string\n")] where
  configured := ⟨.standard, rfl, {}, rfl, rfl⟩
  directed := ⟨resolvePath shelf "o", rfl, by cbv⟩
  rendered := ⟨shelfDocument, shelfGenerator, shelf_read, by cbv, by cbv⟩
  writable := by decide

theorem run_all_or_nothing_of_shelf :
    readCall (leadsSomewhere shelf) ["1", "--help"] = .error .help ∧
      (run offline ["1", "--help"] shelf).world = shelf ∧
      readCall (leadsSomewhere shelf) shelfArguments = .ok shelfCall ∧
      Prepares offline shelfCall shelf shelfSettings ⟨"/", ["o", "v1"]⟩
        [("a.ts", "export type B = string\n")] ∧
      (run offline shelfArguments shelf).world.tree = ((Writer.writeAll shelfSettings.output
        ⟨"/", ["o", "v1"]⟩ [("a.ts", "export type B = string\n")]).outcome shelf).2.tree := by
  have hhelp := (run_all_or_nothing offline ["1", "--help"] shelf).1 .help rfl
  have hrun := (run_all_or_nothing offline shelfArguments shelf).2 shelfCall rfl
  exact ⟨rfl, hhelp.1, rfl, shelf_prepares, (hrun.2 _ _ _ shelf_prepares).1⟩

end CommandLine

end ApiTypings
