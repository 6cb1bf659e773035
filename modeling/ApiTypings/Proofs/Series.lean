import ApiTypings.Proofs.Steps
import Mathlib.Data.List.Forall2

/-!
# Steps one after the other

A series of steps returns if each of them does, and then with their results in order.
Otherwise it fails as the first of them that fails, whatever comes behind it. So a series
is decided by what decides each step. Two series whose steps correspond end alike if each step does.
-/

namespace ApiTypings

variable {ε α β : Type}

/-- The outcome is a result exactly if things are good, and a failure exactly if they are bad in
its way. -/
structure Decides (outcome : Except ε α) (good : Prop) (bad : ε → Prop) : Prop where
  ok : (∃ a, outcome = .ok a) ↔ good
  error : ∀ e, outcome = .error e ↔ bad e

/-- The first of the items that is not good is bad in this way. -/
def First (good : α → Prop) (bad : α → ε → Prop) (items : List α) (e : ε) : Prop :=
  ∃ before item after, items = before ++ item :: after ∧
    (∀ earlier ∈ before, good earlier) ∧ bad item e

theorem not_first_nil (good : α → Prop) (bad : α → ε → Prop) (e : ε) : ¬ First good bad [] e := by
  rintro ⟨before, item, after, h, _⟩
  simp at h

theorem first_cons {good : α → Prop} {bad : α → ε → Prop} {item : α} {rest : List α} {e : ε} :
    First good bad (item :: rest) e ↔ bad item e ∨ (good item ∧ First good bad rest e) := by
  constructor
  · rintro ⟨before, found, after, h, hgood, hbad⟩
    cases before with
    | nil =>
      obtain ⟨rfl, rfl⟩ := List.cons.inj h
      exact .inl hbad
    | cons first before =>
      obtain ⟨rfl, rfl⟩ := List.cons.inj h
      exact .inr ⟨hgood item (by simp), before, found, after, rfl,
        fun earlier he => hgood earlier (List.mem_cons_of_mem _ he), hbad⟩
  · rintro (h | ⟨hfirst, before, found, after, rfl, hgood, hbad⟩)
    · exact ⟨[], item, rest, rfl, by simp, h⟩
    · refine ⟨item :: before, found, after, rfl, ?_, hbad⟩
      intro earlier he
      rcases List.mem_cons.mp he with rfl | he
      · exact hfirst
      · exact hgood earlier he

/-- The reasons may be given in another form. -/
theorem first_reason {ε' : Type} {good : α → Prop} {bad : α → ε' → Prop} {wrap : ε' → ε}
    {items : List α} {e : ε} :
    First good (fun item e => ∃ reason, bad item reason ∧ e = wrap reason) items e ↔
      ∃ reason, First good bad items reason ∧ e = wrap reason := by
  constructor
  · rintro ⟨before, item, after, h, hgood, reason, hbad, he⟩
    exact ⟨reason, ⟨before, item, after, h, hgood, hbad⟩, he⟩
  · rintro ⟨reason, ⟨before, item, after, h, hgood, hbad⟩, he⟩
    exact ⟨before, item, after, h, hgood, reason, hbad, he⟩

theorem first_append {good : α → Prop} {bad : α → ε → Prop} {items more : List α} {e : ε} :
    First good bad (items ++ more) e ↔
      First good bad items e ∨ ((∀ item ∈ items, good item) ∧ First good bad more e) := by
  induction items with
  | nil => simp [not_first_nil]
  | cons item rest ih =>
    rw [List.cons_append, first_cons, first_cons, ih, List.forall_mem_cons, and_or_left, or_assoc,
      and_assoc]

theorem first_map {f : β → α} {good : α → Prop} {bad : α → ε → Prop} {items : List β} {e : ε} :
    First good bad (items.map f) e ↔
      First (fun item => good (f item)) (fun item => bad (f item)) items e := by
  induction items with
  | nil => exact iff_of_false (not_first_nil _ _ e) (not_first_nil _ _ e)
  | cons item rest ih => rw [List.map_cons, first_cons, first_cons, ih]

theorem first_congr {good : α → Prop} {bad bad' : α → ε → Prop} {items : List α} {e : ε}
    (h : ∀ item ∈ items, bad item e ↔ bad' item e) :
    First good bad items e ↔ First good bad' items e := by
  induction items with
  | nil => exact iff_of_false (not_first_nil _ _ e) (not_first_nil _ _ e)
  | cons item rest ih =>
    rw [List.forall_mem_cons] at h
    rw [first_cons, first_cons, h.1, ih h.2]

namespace Decides

variable {good : Prop} {bad : ε → Prop}

/-- It is enough that each side forces the outcome, if one of them is always the case. -/
theorem of_cases {outcome : Except ε α} (hgood : good → ∃ a, outcome = .ok a)
    (hbad : ∀ e, bad e → outcome = .error e) (either : good ∨ ∃ e, bad e) :
    Decides outcome good bad := by
  constructor
  · refine ⟨?_, hgood⟩
    rintro ⟨a, ha⟩
    rcases either with h | ⟨e, he⟩
    · exact h
    · rw [hbad e he] at ha
      cases ha
  · refine fun e => ⟨fun h => ?_, hbad e⟩
    rcases either with hg | ⟨e', he'⟩
    · obtain ⟨a, ha⟩ := hgood hg
      rw [h] at ha
      cases ha
    · have := hbad e' he'
      rw [h] at this
      cases this
      exact he'

theorem pure (a : α) : Decides (.ok a : Except ε α) True fun _ => False :=
  of_cases (fun _ => ⟨a, rfl⟩) nofun (.inl trivial)

theorem bind {x : Except ε α} {next : α → Except ε β} {good' : Prop} {bad' : ε → Prop}
    (h : Decides x good bad) (hnext : ∀ a, x = .ok a → Decides (next a) good' bad') :
    Decides (x >>= next) (good ∧ good') fun e => bad e ∨ (good ∧ bad' e) := by
  cases x with
  | error e =>
    have hbad := (h.error e).mp rfl
    have hgood : ¬ good := fun hg => by simpa using h.ok.mpr hg
    refine of_cases (fun hg => absurd hg.1 hgood) ?_ (.inr ⟨e, .inl hbad⟩)
    rintro e' (he' | ⟨hg, _⟩)
    · have := (h.error e').mpr he'
      cases this
      rfl
    · exact absurd hg hgood
  | ok a =>
    have hgood := h.ok.mp ⟨a, rfl⟩
    have hn := hnext a rfl
    constructor
    · rw [and_iff_right hgood]
      exact hn.ok
    · intro e
      have hbad : ¬ bad e := fun hb => by simpa using (h.error e).mpr hb
      rw [or_iff_right hbad, and_iff_right hgood]
      exact hn.error e

theorem congr {outcome : Except ε α} {good' : Prop} {bad' : ε → Prop} (h : Decides outcome good bad)
    (hgood : good ↔ good') (hbad : ∀ e, bad e ↔ bad' e) : Decides outcome good' bad' :=
  ⟨h.ok.trans hgood, fun e => (h.error e).trans (hbad e)⟩

/-- A second step that always returns decides nothing. -/
theorem bind_of_ok {x : Except ε α} {next : α → Except ε β} (h : Decides x good bad)
    (hnext : ∀ a, x = .ok a → ∃ b, next a = .ok b) : Decides (x >>= next) good bad := by
  have hsecond : ∀ a, x = .ok a → Decides (next a) True fun _ => False := by
    intro a ha
    obtain ⟨b, hb⟩ := hnext a ha
    rw [hb]
    exact pure b
  exact (h.bind hsecond).congr (and_iff_left trivial)
    fun e => or_iff_left fun hn => hn.2

/-- A first step that always returns decides nothing. -/
theorem of_ok_bind {x : Except ε α} {next : α → Except ε β} (hx : ∃ a, x = .ok a)
    (h : ∀ a, x = .ok a → Decides (next a) good bad) : Decides (x >>= next) good bad := by
  obtain ⟨a, rfl⟩ := hx
  exact h a rfl

/-- Whether a step is decided does not depend on what it returns. -/
theorem map_iff {outcome : Except ε α} {f : α → β} :
    Decides (f <$> outcome) good bad ↔ Decides outcome good bad := by
  have hok : (∃ b, f <$> outcome = .ok b) ↔ ∃ a, outcome = .ok a := by
    cases outcome with
    | error e => exact iff_of_false nofun nofun
    | ok a => exact iff_of_true ⟨f a, rfl⟩ ⟨a, rfl⟩
  have herror : ∀ e, f <$> outcome = .error e ↔ outcome = .error e := by
    intro e
    cases outcome with
    | error e' => exact ⟨fun h => by cases h; rfl, fun h => by cases h; rfl⟩
    | ok a => exact iff_of_false nofun nofun
  exact ⟨fun h => ⟨hok.symm.trans h.ok, fun e => (herror e).symm.trans (h.error e)⟩,
    fun h => ⟨hok.trans h.ok, fun e => (herror e).trans (h.error e)⟩⟩

theorem mapM {f : α → Except ε β} {good : α → Prop} {bad : α → ε → Prop} {items : List α}
    (h : ∀ item ∈ items, Decides (f item) (good item) (bad item)) :
    Decides (items.mapM f) (∀ item ∈ items, good item) (First good bad items) := by
  induction items with
  | nil =>
    exact (pure []).congr (iff_of_true trivial (by simp))
      fun e => iff_of_false id (not_first_nil good bad e)
  | cons item rest ih =>
    have hrest := ih fun item hi => h item (List.mem_cons_of_mem _ hi)
    rw [List.mapM_cons]
    refine ((h item (by simp)).bind fun b _ => ?_).congr (List.forall_mem_cons).symm
      fun e => first_cons.symm
    exact (map_iff (f := fun others => b :: others)).mpr hrest

theorem forM {f : α → Except ε Unit} {good : α → Prop} {bad : α → ε → Prop} {items : List α}
    (h : ∀ item ∈ items, Decides (f item) (good item) (bad item)) :
    Decides (items.forM f) (∀ item ∈ items, good item) (First good bad items) := by
  induction items with
  | nil =>
    exact (pure ()).congr (iff_of_true trivial (by simp))
      fun e => iff_of_false id (not_first_nil good bad e)
  | cons item rest ih =>
    have hrest := ih fun item hi => h item (List.mem_cons_of_mem _ hi)
    exact ((h item (by simp)).bind fun _ _ => hrest).congr (List.forall_mem_cons).symm
      fun e => first_cons.symm

end Decides

theorem mapM_eq_ok_iff {f : α → Except ε β} {items : List α} {results : List β} :
    items.mapM f = .ok results ↔ List.Forall₂ (fun a b => f a = .ok b) items results := by
  induction items generalizing results with
  | nil =>
    change Except.ok [] = Except.ok results ↔ _
    rw [List.forall₂_nil_left_iff, Except.ok.injEq]
    exact eq_comm
  | cons item rest ih =>
    rw [List.mapM_cons, List.forall₂_cons_left_iff]
    constructor
    · intro h
      obtain ⟨b, hb, h⟩ := bind_ok h
      obtain ⟨others, ho, h⟩ := bind_ok h
      cases h
      exact ⟨b, others, hb, ih.mp ho, rfl⟩
    · rintro ⟨b, others, hb, ho, rfl⟩
      rw [hb, ih.mpr ho]
      rfl

/-- A series returns if each of its steps does. -/
theorem mapM_ok {f : α → Except ε β} {g : α → β} {items : List α}
    (h : ∀ item ∈ items, f item = .ok (g item)) : items.mapM f = .ok (items.map g) := by
  refine mapM_eq_ok_iff.mpr (List.forall₂_map_right_iff.mpr ?_)
  exact List.forall₂_same.mpr h

theorem exists_mapM_ok {f : α → Except ε β} {items : List α}
    (h : ∀ item ∈ items, ∃ b, f item = .ok b) : ∃ results, items.mapM f = .ok results := by
  induction items with
  | nil => exact ⟨[], rfl⟩
  | cons item rest ih =>
    rw [List.forall_mem_cons] at h
    obtain ⟨b, hb⟩ := h.1
    obtain ⟨others, ho⟩ := ih h.2
    rw [List.mapM_cons, hb, ho]
    exact ⟨b :: others, rfl⟩

/-- What corresponds to a list item by item has something for each item. -/
theorem exists_of_forall₂ {R : α → β → Prop} {as : List α} {bs : List β}
    (h : List.Forall₂ R as bs) {a : α} (ha : a ∈ as) : ∃ b ∈ bs, R a b := by
  induction h with
  | nil => cases ha
  | @cons _ b _ _ hab _ ih =>
    rcases List.mem_cons.mp ha with rfl | ha
    · exact ⟨b, List.mem_cons_self .., hab⟩
    · obtain ⟨c, hc, hac⟩ := ih ha
      exact ⟨c, List.mem_cons_of_mem _ hc, hac⟩

/-- Items that correspond to the same ones are the same if each of them is. -/
theorem eq_of_forall₂ {R R' : α → β → Prop} (hR : ∀ a b b', R a b → R' a b' → b = b') {as : List α}
    {bs bs' : List β} (h : List.Forall₂ R as bs) (h' : List.Forall₂ R' as bs') : bs = bs' := by
  induction h generalizing bs' with
  | nil =>
    cases h'
    rfl
  | cons hab _ ih =>
    cases h' with
    | cons hab' hrest => rw [hR _ _ _ hab hab', ih hrest]

/-! ## Two series -/

/-- A series on items that correspond is the same one if each step is. -/
theorem mapM_eq_of_forall₂ {m : Type → Type} [Monad m] [LawfulMonad m] {γ : Type} {f : α → m γ}
    {g : β → m γ} {as : List α} {bs : List β} (h : List.Forall₂ (fun a b => f a = g b) as bs) :
    as.mapM f = bs.mapM g := by
  induction h with
  | nil => rfl
  | cons hab _ ih => rw [List.mapM_cons, List.mapM_cons, hab, ih]

/-- Both steps fail, and in the same way, or what they return is related. -/
inductive EndAlike (R : α → β → Prop) : Except ε α → Except ε β → Prop
  | ok {a : α} {b : β} (h : R a b) : EndAlike R (.ok a) (.ok b)
  | error (e : ε) : EndAlike R (.error e) (.error e)

namespace EndAlike

variable {γ δ : Type} {R R' : α → β → Prop} {S : γ → δ → Prop} {x : Except ε α} {y : Except ε β}

theorem refl {R : α → α → Prop} (h : ∀ a, R a a) (x : Except ε α) : EndAlike R x x := by
  cases x with
  | ok a => exact .ok (h a)
  | error e => exact .error e

theorem eq {y : Except ε α} (h : EndAlike (· = ·) x y) : x = y := by
  cases h with
  | ok hab => rw [hab]
  | error e => rfl

theorem imp (h : EndAlike R x y) (hR : ∀ a b, R a b → R' a b) : EndAlike R' x y := by
  cases h with
  | ok hab => exact .ok (hR _ _ hab)
  | error e => exact .error e

theorem bind {f : α → Except ε γ} {g : β → Except ε δ} (h : EndAlike R x y)
    (hnext : ∀ a b, R a b → EndAlike S (f a) (g b)) : EndAlike S (x >>= f) (y >>= g) := by
  cases h with
  | ok hab => exact hnext _ _ hab
  | error e => exact .error e

/-- What follows one and the same step. -/
theorem bind_same {f : α → Except ε γ} {g : α → Except ε δ}
    (hnext : ∀ a, x = .ok a → EndAlike S (f a) (g a)) : EndAlike S (x >>= f) (x >>= g) := by
  cases x with
  | ok a => exact hnext a rfl
  | error e => exact .error e

end EndAlike

end ApiTypings
