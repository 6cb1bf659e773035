import ApiTypings.Proofs.Lossless

/-!
# Sources do not tell histories

A module is built by importing names and adding declarations, one after the other. What is in it
afterwards is what these steps brought there: each name once for its path, and every declaration.
So the same steps in another order, and with repetitions elsewhere, end in the same source.
-/

namespace ApiTypings

section FailsOnly

variable {ε α β : Type} {e : ε}

/-- If the step fails, then in this way. -/
def FailsOnly (e : ε) (outcome : Except ε α) : Prop := ∀ e', outcome = .error e' → e' = e

theorem FailsOnly.ok (a : α) : FailsOnly e (.ok a) := nofun

theorem FailsOnly.error : FailsOnly e (.error e : Except ε α) := by
  intro e' h
  cases h
  rfl

theorem FailsOnly.bind {x : Except ε α} {next : α → Except ε β} (hx : FailsOnly e x)
    (hnext : ∀ a, FailsOnly e (next a)) : FailsOnly e (x >>= next) := by
  intro e' h
  rcases bind_error h with h | ⟨a, _, h⟩
  · exact hx e' h
  · exact hnext a e' h

theorem FailsOnly.map {x : Except ε α} {f : α → β} (hx : FailsOnly e x) :
    FailsOnly e (f <$> x) := by
  rw [← bind_pure_comp]
  exact hx.bind fun a => .ok (f a)

theorem FailsOnly.mapM {f : α → Except ε β} {items : List α}
    (h : ∀ item ∈ items, FailsOnly e (f item)) : FailsOnly e (items.mapM f) := by
  induction items with
  | nil => exact .ok []
  | cons item rest ih =>
    rw [List.forall_mem_cons] at h
    rw [List.mapM_cons]
    exact h.1.bind fun b => (ih h.2).bind fun others => .ok (b :: others)

/-- The same steps in another order have the same results in another order, or fail as well. -/
theorem mapM_perm {f : α → Except ε β} {items others : List α} (hperm : items.Perm others)
    (h : ∀ item ∈ items, FailsOnly e (f item)) :
    (∃ results results', items.mapM f = .ok results ∧ others.mapM f = .ok results' ∧
        results.Perm results') ∨
      (items.mapM f = .error e ∧ others.mapM f = .error e) := by
  have hfails : ∀ {items : List α}, (∀ item ∈ items, FailsOnly e (f item)) →
      (∃ results, items.mapM f = .ok results) ∨ items.mapM f = .error e := by
    intro items hi
    cases hrun : items.mapM f with
    | ok results => exact .inl ⟨results, rfl⟩
    | error e' => exact .inr (by rw [FailsOnly.mapM hi e' hrun])
  have hreturns : ∀ {items others : List α} {results : List β}, items.Perm others →
      items.mapM f = .ok results → ∃ results', others.mapM f = .ok results' := by
    intro items others results hperm hrun
    refine exists_mapM_ok fun item hi => ?_
    obtain ⟨b, _, hb⟩ := exists_of_forall₂ (mapM_eq_ok_iff.mp hrun) (hperm.mem_iff.mpr hi)
    exact ⟨b, hb⟩
  rcases hfails h with ⟨results, hrun⟩ | hrun
  · obtain ⟨results', hrun'⟩ := hreturns hperm hrun
    exact .inl ⟨results, results', hrun, hrun', Module.results_perm hperm hrun hrun'⟩
  · rcases hfails fun item hi => h item (hperm.mem_iff.mpr hi) with ⟨results', hrun'⟩ | hrun'
    · obtain ⟨results, hok⟩ := hreturns hperm.symm hrun'
      rw [hrun] at hok
      cases hok
    · exact .inr ⟨hrun, hrun'⟩

end FailsOnly

theorem settleDescription_failsOnly (found : Json) :
    FailsOnly (.fault .mismatch) (settleDescription found) := by
  unfold settleDescription
  split
  · exact .ok _
  · split
    · exact .ok _
    · exact .error

theorem settleAlternative_failsOnly (found : Json) :
    FailsOnly (.fault .mismatch) (settleAlternative found) := by
  unfold settleAlternative
  split
  · exact .ok _
  · exact .error

theorem Field.settle_failsOnly (field : Field Json) :
    FailsOnly (.fault .mismatch) field.settle :=
  (settleDescription_failsOnly field.description).bind fun _ => .ok _

theorem Declaration.settle_failsOnly {d : Declaration Json} (h : d.name?.isSome) :
    FailsOnly (.fault .mismatch) d.settle := by
  cases d with
  | interface name description fields =>
    refine (settleDescription_failsOnly description).bind fun _ => ?_
    exact (FailsOnly.mapM fun field _ => field.settle_failsOnly).bind fun _ => .ok _
  | union name description types =>
    refine (settleDescription_failsOnly description).bind fun _ => ?_
    exact (FailsOnly.mapM fun type _ => settleAlternative_failsOnly type).bind fun _ => .ok _
  | field f => exact f.settle_failsOnly.map
  | foreign => cases h

/-- What has a name is written, or else a value in it is no text. -/
theorem Module.named_failsOnly {d : Declaration Json} (h : d.name?.isSome) :
    FailsOnly (.fault .mismatch) (Module.named d) := by
  obtain ⟨name, hname⟩ := Option.isSome_iff_exists.mp h
  unfold Module.named Declaration.render
  rw [hname]
  exact ((Declaration.settle_failsOnly h).bind fun _ => .ok _).bind fun _ => .ok _

namespace Module

/-- Modules with the same content end alike when they are written. -/
theorem render_eq_of_same {m n : Module Json} (hp : m.path = n.path) (hm : m.imports.Tidy)
    (hn : n.imports.Tidy) (h : m.imports.Same n.imports)
    (hperm : m.declarations.Perm n.declarations) (hnames : ∀ d ∈ m.declarations, d.name?.isSome) :
    m.render = n.render := by
  unfold render
  rcases mapM_perm hperm fun d hd => named_failsOnly (hnames d hd) with
    ⟨named, named', hrun, hrun', hsame⟩ | ⟨hrun, hrun'⟩
  · rw [hrun, hrun']
    exact congrArg Except.ok (assemble_congr hp hm hn h hsame)
  · rw [hrun, hrun']
    rfl

/-! ## Steps -/

variable {τ : Type}

/-- What is done to a module while it is built. -/
inductive Step (τ : Type)
  | importing (path name : String)
  | declaring (declaration : Declaration τ)

/-- The declaration that a step adds. -/
def Step.declared? : Step τ → Option (Declaration τ)
  | importing .. => none
  | declaring d => some d

/-- The module after a step. -/
def after (m : Module τ) : Step τ → Module τ
  | .importing path name => m.importing path name
  | .declaring d => m.declare d

/-- The module of a path after these steps, one after the other. -/
def replay (path : String) (steps : List (Step τ)) : Module τ := steps.foldl after { path }

/-- The module has this path as its own, and in it is what the steps brought there. -/
structure Recounts (m : Module τ) (own : String) (steps : List (Step τ)) : Prop where
  path : m.path = own
  imports : Imports.Gains [] m.imports fun path name => path ≠ own ∧ .importing path name ∈ steps
  tidy : m.imports.Tidy
  declarations : m.declarations = steps.filterMap Step.declared?

variable {m n : Module τ} {own : String} {steps others : List (Step τ)}

theorem Recounts.after (h : m.Recounts own steps) (step : Step τ) :
    (m.after step).Recounts own (steps ++ [step]) := by
  cases step with
  | importing path name =>
    refine ⟨?_, ?_, importing_keeps Imports.Tidy.insert h.tidy path name, ?_⟩
    · exact (importing_path m path name).trans h.path
    · refine (h.imports.trans (gains_importing m path name)).congr fun p other => ?_
      rw [h.path, ← and_or_left, List.mem_append, List.mem_singleton, Step.importing.injEq]
    · rw [List.filterMap_append, ← h.declarations]
      exact (importing_declarations m path name).trans (List.append_nil _).symm
  | declaring d =>
    refine ⟨h.path, h.imports.congr fun p other => ?_, h.tidy, ?_⟩
    · simp
    · rw [List.filterMap_append, ← h.declarations]
      rfl

theorem replay_recounts (own : String) (steps : List (Step τ)) :
    (replay own steps).Recounts own steps := by
  -- the next step is taken behind all others
  induction steps using List.reverseRecOn with
  | nil => exact ⟨rfl, (Imports.Gains.refl []).congr (by simp), ⟨List.nodup_nil, nofun⟩, rfl⟩
  | append_singleton steps step ih =>
    unfold replay
    rw [List.foldl_append]
    exact ih.after step

theorem Recounts.mem_declarations (h : m.Recounts own steps) {d : Declaration τ} :
    d ∈ m.declarations ↔ .declaring d ∈ steps := by
  rw [h.declarations, List.mem_filterMap]
  constructor
  · rintro ⟨step, hs, hd⟩
    cases step with
    | importing => cases hd
    | declaring => exact Option.some.inj hd ▸ hs
  · exact fun hs => ⟨_, hs, rfl⟩

/-- Steps in another order bring the same imports and declarations. -/
theorem Recounts.same (h : m.Recounts own steps) (h' : n.Recounts own others)
    (hperm : steps.Perm others) :
    m.imports.Same n.imports ∧ m.declarations.Perm n.declarations := by
  constructor
  · exact h.imports.same (h'.imports.congr fun path name => by rw [hperm.mem_iff])
  · rw [h.declarations, h'.declarations]
    exact hperm.filterMap _

/-- The text of a module depends on what was done and not on the order. -/
theorem replay_renderText_perm (own : String) {steps others : List (Step Json)}
    (hperm : steps.Perm others) (hnames : ∀ d, .declaring d ∈ steps → d.name?.isSome) :
    (replay own steps).renderText = (replay own others).renderText ∧
      ((∀ d, .declaring d ∈ steps → d.Textual) →
        ∃ text, (replay own steps).renderText = .ok text) := by
  have h := replay_recounts own steps
  have h' := replay_recounts own others
  obtain ⟨himports, hdeclarations⟩ := h.same h' hperm
  constructor
  · unfold renderText
    rw [render_eq_of_same (h.path.trans h'.path.symm) h.tidy h'.tidy himports hdeclarations
      fun d hd => hnames d (h.mem_declarations.mp hd)]
  · intro htextual
    exact ⟨_, renderText_of_textual fun d hd => htextual d (h.mem_declarations.mp hd)⟩

/-- Imports of one name twice and of the module's own path, and two declarations of one name. -/
def visits : List (Step Json) := [
  .importing "b.ts" "Plan",
  .declaring (.union "Zone" .null [.string "string"]),
  .importing "a.ts" "Zone",
  .importing "b.ts" "Job",
  .declaring (.union "Zone" (.string "Or a number") [.string "number"]),
  .importing "b.ts" "Plan"]

theorem visits_textual {d : Declaration Json} (h : .declaring d ∈ visits) : d.Textual := by
  simp only [visits, List.mem_cons, List.not_mem_nil, or_false, reduceCtorEq, false_or,
    Step.declaring.injEq] at h
  rcases h with rfl | rfl
  · exact .union (.inl rfl) (by simp)
  · exact .union (.inr ⟨_, rfl⟩) (by simp)

theorem replay_renderText_perm_of_visits :
    visits.Perm visits.reverse ∧ (∀ d, .declaring d ∈ visits → d.Textual) ∧
      ∃ text, (replay "a.ts" visits).renderText = .ok text ∧
        (replay "a.ts" visits.reverse).renderText = .ok text := by
  have hperm : visits.Perm visits.reverse := visits.reverse_perm.symm
  have htextual : ∀ d, .declaring d ∈ visits → d.Textual := fun _ => visits_textual
  obtain ⟨hsame, hreturns⟩ := replay_renderText_perm "a.ts" hperm
    fun d hd => by rw [(htextual d hd).name?]; rfl
  obtain ⟨text, ht⟩ := hreturns htextual
  exact ⟨hperm, htextual, text, ht, hsame ▸ ht⟩

end Module

end ApiTypings
