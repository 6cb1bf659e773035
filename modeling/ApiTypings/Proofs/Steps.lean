import ApiTypings.Failure

/-!
# Steps that return

A step that changes a state may fail at many places. A step that returned did so
at none of them, so a run that succeeded can be taken apart: each of its parts
returned, and each began in the state that the one before had left.
-/

namespace ApiTypings

/-- A sequence that ended well did so in both parts. -/
theorem bind_ok {ε α β : Type} {x : Except ε α} {next : α → Except ε β} {b : β}
    (h : (x >>= next) = .ok b) : ∃ a, x = .ok a ∧ next a = .ok b := by
  cases x with
  | error e => cases h
  | ok a => exact ⟨a, rfl, h⟩

/-- One that did not failed in one of them. -/
theorem bind_error {ε α β : Type} {x : Except ε α} {next : α → Except ε β} {e : ε}
    (h : (x >>= next) = .error e) : x = .error e ∨ ∃ a, x = .ok a ∧ next a = .error e := by
  cases x with
  | error e' =>
    cases h
    exact .inl rfl
  | ok a => exact .inr ⟨a, rfl, h⟩

/-- What is made of a result is there only if the result is. -/
theorem map_ok {ε α β : Type} {x : Except ε α} {f : α → β} {b : β} (h : x.map f = .ok b) :
    ∃ a, x = .ok a ∧ b = f a := by
  cases x with
  | error e => cases h
  | ok a =>
    cases h
    exact ⟨a, rfl, rfl⟩

namespace Task

variable {σ α β : Type}

/-- The step, begun in `s`, returns `a` and leaves `t`. -/
def Returns (task : Task σ α) (s : σ) (a : α) (t : σ) : Prop := task.outcome s = (.ok a, t)

theorem outcome_bind (task : Task σ α) (next : α → Task σ β) (s : σ) :
    (task >>= next).outcome s =
      match task.outcome s with
      | (.ok a, t) => (next a).outcome t
      | (.error e, t) => (.error e, t) := by
  simp only [outcome, bind, ExceptT.bind, ExceptT.mk, ExceptT.run, StateT.run, StateT.bind]
  rcases task s with ⟨_ | _, _⟩ <;> rfl

/-- What follows a look at the state goes on from there. -/
theorem outcome_get_bind (next : σ → Task σ β) (s : σ) :
    (MonadState.get >>= next).outcome s = (next s).outcome s := rfl

theorem Returns.bind {task : Task σ α} {next : α → Task σ β} {s t : σ} {b : β}
    (h : Returns (task >>= next) s b t) :
    ∃ a u, Returns task s a u ∧ Returns (next a) u b t := by
  unfold Returns at h
  rw [outcome_bind] at h
  split at h
  · rename_i a u hu
    exact ⟨a, u, hu, h⟩
  · simp at h

theorem Returns.pure {a b : α} {s t : σ} (h : Returns (pure a : Task σ α) s b t) :
    b = a ∧ t = s := by
  cases h
  exact ⟨rfl, rfl⟩

theorem Returns.throw {e : Failure} {b : α} {s t : σ}
    (h : Returns (throw e : Task σ α) s b t) : False := by
  cases h

theorem Returns.map {task : Task σ α} {f : α → β} {s t : σ} {b : β}
    (h : Returns (f <$> task) s b t) : ∃ a, Returns task s a t ∧ b = f a := by
  rw [← bind_pure_comp] at h
  obtain ⟨a, u, ha, hb⟩ := h.bind
  obtain ⟨rfl, rfl⟩ := hb.pure
  exact ⟨a, ha, rfl⟩

theorem Returns.ofExcept {r : Except Failure α} {a : α} {s t : σ}
    (h : Returns (Task.ofExcept r) s a t) : r = .ok a ∧ t = s := by
  cases r with
  | ok b =>
    obtain ⟨rfl, rfl⟩ := Returns.pure h
    exact ⟨rfl, rfl⟩
  | error e => exact (Returns.throw h).elim

theorem Returns.modify {f : σ → σ} {a : Unit} {s t : σ}
    (h : Returns (modify f : Task σ Unit) s a t) : t = f s := by
  cases h
  rfl

theorem Returns.get {a s t : σ} (h : Returns (get : Task σ σ) s a t) : a = s ∧ t = s := by
  cases h
  exact ⟨rfl, rfl⟩

theorem Returns.set {s t u : σ} {a : Unit} (h : Returns (set u : Task σ Unit) s a t) :
    t = u := by
  cases h
  rfl

theorem Returns.mapM_cons {f : α → Task σ β} {a : α} {rest : List α} {results : List β} {s t : σ}
    (h : Returns ((a :: rest).mapM f) s results t) :
    ∃ b u others, Returns (f a) s b u ∧ Returns (rest.mapM f) u others t ∧
      results = b :: others := by
  rw [List.mapM_cons] at h
  obtain ⟨b, u, hb, tail⟩ := h.bind
  obtain ⟨others, v, ho, ret⟩ := tail.bind
  obtain ⟨rfl, rfl⟩ := ret.pure
  exact ⟨b, u, others, hb, ho, rfl⟩

/-- What holds of the state before a loop and is kept by every turn holds after it. -/
theorem Returns.forM_invariant {body : α → Task σ Unit} {P : List α → σ → Prop}
    (turn : ∀ past x s u t, P past s → Returns (body x) s u t → P (past ++ [x]) t)
    {past items : List α} {s t : σ} {u : Unit} (h : Returns (items.forM body) s u t)
    (hs : P past s) : P (past ++ items) t := by
  induction items generalizing past s with
  | nil =>
    obtain ⟨_, rfl⟩ := Returns.pure h
    simpa using hs
  | cons x rest ih =>
    obtain ⟨_, v, hx, hrest⟩ := Returns.bind h
    have hv := turn past x s _ v hs hx
    simpa using ih hrest hv

end Task

end ApiTypings
