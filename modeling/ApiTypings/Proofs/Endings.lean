import ApiTypings.Failure
import ApiTypings.Proofs.Steps

/-!
# Both ways a step can end

A step that fails leaves a state too, and what it did stays done. So what a step is said
to do is said for either end: what holds of the result and the state if it returns, and
what holds of the failure and the state if not.
-/

namespace ApiTypings.Task

variable {σ α β : Type} {s : σ} {good : α → σ → Prop} {bad : Failure → σ → Prop}

/-- Begun in `s` the step ends well with what is good, or else with what is bad. -/
def Ends (task : Task σ α) (s : σ) (good : α → σ → Prop) (bad : Failure → σ → Prop) : Prop :=
  (∀ a t, task.outcome s = (.ok a, t) → good a t) ∧
    ∀ e t, task.outcome s = (.error e, t) → bad e t

theorem Ends.pure {a : α} (h : good a s) : Ends (pure a) s good bad := by
  constructor
  · rintro _ _ ⟨⟩
    exact h
  · rintro _ _ ⟨⟩

theorem Ends.throw {e : Failure} (h : bad e s) : Ends (throw e : Task σ α) s good bad := by
  constructor
  · rintro _ _ ⟨⟩
  · rintro _ _ ⟨⟩
    exact h

theorem Ends.ofExcept {r : Except Failure α} (hgood : ∀ a, r = .ok a → good a s)
    (hbad : ∀ e, r = .error e → bad e s) : Ends (Task.ofExcept r) s good bad := by
  cases r with
  | ok a => exact .pure (hgood a rfl)
  | error e => exact .throw (hbad e rfl)

theorem Ends.modify {f : σ → σ} {good : Unit → σ → Prop} (h : good () (f s)) :
    Ends (modify f : Task σ Unit) s good bad := by
  constructor
  · rintro _ _ ⟨⟩
    exact h
  · rintro _ _ ⟨⟩

theorem Ends.bind {task : Task σ α} {next : α → Task σ β} {mid : α → σ → Prop}
    {good : β → σ → Prop} (h : Ends task s mid bad)
    (hnext : ∀ a t, mid a t → Ends (next a) t good bad) : Ends (task >>= next) s good bad := by
  unfold Ends
  rw [outcome_bind]
  rcases ho : task.outcome s with ⟨e | a, t⟩
  · have hbad := h.2 e t ho
    constructor
    · rintro _ _ ⟨⟩
    · rintro _ _ ⟨⟩
      exact hbad
  · exact hnext a t (h.1 a t ho)

/-- What follows a look at the state goes on from there. -/
theorem Ends.get {next : σ → Task σ β} {good : β → σ → Prop} (h : Ends (next s) s good bad) :
    Ends (MonadState.get >>= next) s good bad := by
  unfold Ends
  rw [outcome_bind]
  exact h

/-- What follows a change of the state goes on from the new one. -/
theorem Ends.set {next : Unit → Task σ β} {t : σ} {good : β → σ → Prop}
    (h : Ends (next ()) t good bad) : Ends (MonadStateOf.set t >>= next) s good bad := by
  unfold Ends
  rw [outcome_bind]
  exact h

/-- So it does, if the change depends on what was there. -/
theorem Ends.modify_bind {f : σ → σ} {next : Unit → Task σ β} {good : β → σ → Prop}
    (h : Ends (next ()) (f s) good bad) :
    Ends (MonadState.modifyGet (fun t => ((), f t)) >>= next) s good bad := by
  unfold Ends
  rw [outcome_bind]
  exact h

/-- What follows a result goes on with it, and nothing follows a failure. -/
theorem Ends.ofExcept_bind {r : Except Failure α} {next : α → Task σ β} {good : β → σ → Prop}
    (hgood : ∀ a, r = .ok a → Ends (next a) s good bad) (hbad : ∀ e, r = .error e → bad e s) :
    Ends (Task.ofExcept r >>= next) s good bad := by
  have hresult : Ends (Task.ofExcept r) s (fun a t => t = s ∧ r = .ok a) bad :=
    .ofExcept (fun _ ha => ⟨rfl, ha⟩) hbad
  refine hresult.bind ?_
  rintro a _ ⟨rfl, ha⟩
  exact hgood a ha

theorem Ends.imp {task : Task σ α} {good' : α → σ → Prop} {bad' : Failure → σ → Prop}
    (h : Ends task s good bad) (hgood : ∀ a t, good a t → good' a t)
    (hbad : ∀ e t, bad e t → bad' e t) : Ends task s good' bad' :=
  ⟨fun a t ho => hgood a t (h.1 a t ho), fun e t ho => hbad e t (h.2 e t ho)⟩

/-- What is said of an end in two ways is said of it in one. -/
theorem Ends.and {task : Task σ α} {good' : α → σ → Prop} {bad' : Failure → σ → Prop}
    (h : Ends task s good bad) (h' : Ends task s good' bad') :
    Ends task s (fun a t => good a t ∧ good' a t) fun e t => bad e t ∧ bad' e t :=
  ⟨fun a t ho => ⟨h.1 a t ho, h'.1 a t ho⟩, fun e t ho => ⟨h.2 e t ho, h'.2 e t ho⟩⟩

/-- A step of which the outcome is known ends with it. -/
theorem Ends.of_outcome {task : Task σ α} {a : α} {t : σ} (h : task.outcome s = (.ok a, t)) :
    Ends task s (fun b u => b = a ∧ u = t) bad := by
  unfold Ends
  rw [h]
  constructor
  · rintro _ _ ⟨⟩
    exact ⟨rfl, rfl⟩
  · rintro _ _ ⟨⟩

/-- A step that cannot fail returns. -/
theorem Ends.returns {task : Task σ α} (h : Ends task s good fun _ _ => False) :
    ∃ a t, task.outcome s = (.ok a, t) ∧ good a t := by
  rcases ho : task.outcome s with ⟨e | a, t⟩
  · exact (h.2 e t ho).elim
  · exact ⟨a, t, rfl, h.1 a t ho⟩

/-- What every turn of a loop keeps holds after it, of the items and of what they came to, and a turn
that fails begins where the turns before it have kept it. -/
theorem Ends.mapM_results {body : α → Task σ β} {items : List α} (kept : List α → List β → σ → Prop)
    (turn : ∀ past x rest results t, past ++ x :: rest = items → kept past results t →
      Ends (body x) t (fun b u => kept (past ++ [x]) (results ++ [b]) u) bad)
    (hs : kept [] [] s) :
    Ends (items.mapM body) s (fun results t => kept items results t) bad := by
  have hloop : ∀ rest past results t, past ++ rest = items → kept past results t →
      Ends (rest.mapM body) t (fun more u => kept items (results ++ more) u) bad := by
    intro rest
    induction rest with
    | nil =>
      intro past results t hsplit ht
      rw [← hsplit, List.append_nil]
      exact .pure (by simpa using ht)
    | cons x rest ih =>
      intro past results t hsplit ht
      rw [List.mapM_cons]
      refine (turn past x rest results t hsplit ht).bind fun b u hu => ?_
      have hrest := ih (past ++ [x]) (results ++ [b]) u (by simpa using hsplit) hu
      refine hrest.bind fun more v hv => .pure ?_
      simpa using hv
  simpa using hloop items [] [] s rfl hs

theorem Ends.mapM {body : α → Task σ β} {items : List α} (kept : List α → σ → Prop)
    (turn : ∀ past x rest t, past ++ x :: rest = items → kept past t →
      Ends (body x) t (fun _ u => kept (past ++ [x]) u) bad) (hs : kept [] s) :
    Ends (items.mapM body) s (fun _ t => kept items t) bad :=
  .mapM_results (fun past _ t => kept past t) (fun past x rest _ t => turn past x rest t) hs

theorem forM_eq_mapM (body : α → Task σ Unit) (items : List α) :
    items.forM body = do
      let _ ← items.mapM body
      return () := by
  induction items with
  | nil => rfl
  | cons x rest ih =>
    rw [List.mapM_cons]
    simp only [List.forM, ih, bind_assoc, pure_bind]

/-- A loop that is run for what it does keeps what its turns keep, too. -/
theorem Ends.forM {body : α → Task σ Unit} {items : List α} (kept : List α → σ → Prop)
    (turn : ∀ past x rest t, past ++ x :: rest = items → kept past t →
      Ends (body x) t (fun _ u => kept (past ++ [x]) u) bad) (hs : kept [] s) :
    Ends (items.forM body) s (fun _ t => kept items t) bad := by
  rw [forM_eq_mapM]
  exact (Ends.mapM kept turn hs).bind fun _ _ ht => .pure ht

end ApiTypings.Task
