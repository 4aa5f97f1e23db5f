import Mathlib.Tactic.Common

set_option autoImplicit false

/-! Transactional blocks: a computation over a state that either commits a new state with a
result or fails and leaves the state as it was. -/

/-- The body of one database transaction over states `σ`, failing with `ε`. -/
abbrev Block (σ ε α : Type) := StateT σ (Except ε) α

namespace Block

variable {σ ε α β : Type}

/-- A statement that rewrites the state and always succeeds. -/
def update (f : σ → σ) : Block σ ε Unit := fun s => .ok ((), f s)

/-- A guarded statement: it reports whether the guard held, and then rewrites the state. -/
def updateIf (p : σ → Bool) (f : σ → σ) : Block σ ε Bool :=
  fun s => if p s then .ok (true, f s) else .ok (false, s)

def fail (e : ε) : Block σ ε α := fun _ => .error e

def read (f : σ → α) : Block σ ε α := fun s => .ok (f s, s)

/-- Throw unless `p` holds. -/
def require (p : Prop) [Decidable p] (e : ε) : Block σ ε Unit :=
  if p then pure () else fail e

/-- Throw where nothing was found. -/
def demand (o : Option α) (e : ε) : Block σ ε α :=
  match o with
  | some a => pure a
  | none => fail e

/-- A computation that does not look at the state, and may throw. -/
def attempt (x : Except ε α) : Block σ ε α :=
  match x with
  | .ok a => pure a
  | .error e => fail e

def onlyIf (p : Prop) [Decidable p] (x : Block σ ε Unit) : Block σ ε Unit :=
  if p then x else pure ()

/-- A call whose exception is swallowed: `.catch(() => undefined)`. -/
def swallow (x : Block σ ε α) : Block σ ε Unit := fun s =>
  match x s with
  | .ok (_, t) => .ok ((), t)
  | .error _ => .ok ((), s)

/-- A block on one part of the state. -/
def within {τ : Type} (part : σ → τ) (put : τ → σ → σ) (x : Block τ ε α) : Block σ ε α := fun s =>
  match x (part s) with
  | .ok (a, t) => .ok (a, put t s)
  | .error e => .error e

/-- Run a block as one atomic step, forgetting its result: a failed block is rolled back. -/
def commit (x : Block σ ε α) (s : σ) : σ :=
  match x s with
  | .ok (_, t) => t
  | .error _ => s

/-- `x` commits from `s` to `t` with result `a`. -/
def Commits (x : Block σ ε α) (s : σ) (a : α) (t : σ) : Prop := x s = .ok (a, t)

instance [DecidableEq σ] [DecidableEq ε] [DecidableEq α] (x : Block σ ε α) (s : σ) (a : α)
    (t : σ) : Decidable (x.Commits s a t) := by
  unfold Commits
  infer_instance

theorem commit_of_commits {x : Block σ ε α} {s t : σ} {a : α} (h : x.Commits s a t) :
    x.commit s = t := by
  unfold Commits at h
  simp [commit, h]

/-- A block either commits or leaves the state alone. -/
theorem commit_cases (x : Block σ ε α) (s : σ) :
    x.commit s = s ∨ ∃ a, x.Commits s a (x.commit s) := by
  cases h : x s with
  | ok p =>
    obtain ⟨a, t⟩ := p
    exact .inr ⟨a, by simp [Commits, commit, h]⟩
  | error e => exact .inl (by simp [commit, h])

/-- The block commits here. -/
protected def Accepts (x : Block σ ε α) (s : σ) : Prop := ∃ a t, x.Commits s a t

theorem commit_of_refused {x : Block σ ε α} {s : σ} (h : ¬ x.Accepts s) : x.commit s = s := by
  rcases x.commit_cases s with hsame | ⟨a, ha⟩
  · exact hsame
  · exact absurd ⟨a, _, ha⟩ h

theorem ok_bind {x : Except ε α} {f : α → Except ε β} {b : β} :
    (x >>= f) = .ok b ↔ ∃ a, x = .ok a ∧ f a = .ok b := by
  cases x with
  | ok a => simp [bind, Except.bind]
  | error e => simp [bind, Except.bind]

theorem commits_bind {x : Block σ ε α} {f : α → Block σ ε β} {s t : σ} {b : β} :
    (x >>= f).Commits s b t ↔ ∃ a m, x.Commits s a m ∧ (f a).Commits m b t := by
  show (x s >>= fun p => f p.1 p.2) = .ok (b, t) ↔ _
  unfold Commits
  cases h : x s with
  | ok p =>
    obtain ⟨a, m⟩ := p
    simp [bind, Except.bind]
  | error e => simp [bind, Except.bind]

theorem commits_map {f : α → β} {x : Block σ ε α} {s t : σ} {b : β} :
    (f <$> x).Commits s b t ↔ ∃ a, f a = b ∧ x.Commits s a t := by
  show (x s >>= fun p => pure (f p.1, p.2)) = .ok (b, t) ↔ _
  unfold Commits
  cases h : x s with
  | ok p =>
    obtain ⟨a, m⟩ := p
    simp [bind, Except.bind, pure, Except.pure]
  | error e => simp [bind, Except.bind]

/-- Rewriting the result does not change the step. -/
@[simp] theorem commit_map (f : α → β) (x : Block σ ε α) (s : σ) :
    (f <$> x).commit s = x.commit s := by
  rcases x.commit_cases s with h | ⟨a, ha⟩
  · show (match (x s >>= fun p => pure (f p.1, p.2) : Except ε (β × σ)) with
      | .ok (_, t) => t
      | .error _ => s) = _
    unfold commit
    cases x s with
    | ok p => rfl
    | error e => rfl
  · exact commit_of_commits (commits_map.mpr ⟨a, rfl, ha⟩)

@[simp] theorem commits_pure {a b : α} {s t : σ} :
    (pure a : Block σ ε α).Commits s b t ↔ a = b ∧ s = t := by
  show Except.ok (a, s) = .ok (b, t) ↔ _
  simp

@[simp] theorem commits_get {s t a : σ} :
    (get : Block σ ε σ).Commits s a t ↔ s = a ∧ s = t := by
  show Except.ok (s, s) = .ok (a, t) ↔ _
  simp

@[simp] theorem commits_update {f : σ → σ} {s t : σ} {u : Unit} :
    (update f : Block σ ε Unit).Commits s u t ↔ f s = t := by
  simp [Commits, update]

@[simp] theorem commits_updateIf {p : σ → Bool} {f : σ → σ} {s t : σ} {b : Bool} :
    (updateIf p f : Block σ ε Bool).Commits s b t ↔
      (p s = true ∧ b = true ∧ f s = t) ∨ (p s = false ∧ b = false ∧ s = t) := by
  unfold Commits updateIf
  cases h : p s <;> simp [eq_comm]

@[simp] theorem commits_fail {e : ε} {s t : σ} {a : α} :
    ¬ (fail e : Block σ ε α).Commits s a t := by
  simp [Commits, fail]

@[simp] theorem commits_read {f : σ → α} {s t : σ} {a : α} :
    (read f : Block σ ε α).Commits s a t ↔ f s = a ∧ s = t := by
  simp [Commits, read]

@[simp] theorem commits_require {p : Prop} [Decidable p] {e : ε} {s t : σ} {u : Unit} :
    (require p e : Block σ ε Unit).Commits s u t ↔ p ∧ s = t := by
  unfold require
  split
  · rename_i h
    simp [h]
  · rename_i h
    simp [h]

@[simp] theorem commits_demand {o : Option α} {e : ε} {s t : σ} {a : α} :
    (demand o e : Block σ ε α).Commits s a t ↔ o = some a ∧ s = t := by
  cases o with
  | none => simp [demand]
  | some b => simp [demand]

@[simp] theorem commits_attempt {x : Except ε α} {s t : σ} {a : α} :
    (attempt x : Block σ ε α).Commits s a t ↔ x = .ok a ∧ s = t := by
  cases x with
  | ok b => simp [attempt]
  | error e => simp [attempt]

theorem commits_onlyIf {p : Prop} [Decidable p] {x : Block σ ε Unit} {s t : σ} {u : Unit} :
    (onlyIf p x).Commits s u t ↔ (p ∧ x.Commits s u t) ∨ (¬ p ∧ s = t) := by
  unfold onlyIf
  split
  · rename_i h
    simp [h]
  · rename_i h
    simp [h]

@[simp] theorem commits_read_bind {f : σ → α} {g : α → Block σ ε β} {s t : σ} {b : β} :
    (read f >>= g).Commits s b t ↔ (g (f s)).Commits s b t := by
  simp [commits_bind]

@[simp] theorem commits_require_bind {p : Prop} [Decidable p] {e : ε} {g : Unit → Block σ ε β}
    {s t : σ} {b : β} :
    (require p e >>= g).Commits s b t ↔ p ∧ (g ()).Commits s b t := by
  rw [commits_bind]
  constructor
  · intro h
    obtain ⟨a, m, hp, hg⟩ := h
    rw [commits_require] at hp
    obtain ⟨hp, rfl⟩ := hp
    exact ⟨hp, hg⟩
  · intro h
    exact ⟨(), s, commits_require.mpr ⟨h.1, rfl⟩, h.2⟩

@[simp] theorem commits_demand_bind {o : Option α} {e : ε} {g : α → Block σ ε β} {s t : σ}
    {b : β} :
    (demand o e >>= g).Commits s b t ↔ ∃ a, o = some a ∧ (g a).Commits s b t := by
  rw [commits_bind]
  constructor
  · intro h
    obtain ⟨a, m, ho, hg⟩ := h
    rw [commits_demand] at ho
    obtain ⟨ho, rfl⟩ := ho
    exact ⟨a, ho, hg⟩
  · intro h
    obtain ⟨a, ho, hg⟩ := h
    exact ⟨a, s, commits_demand.mpr ⟨ho, rfl⟩, hg⟩

@[simp] theorem commits_attempt_bind {x : Except ε α} {g : α → Block σ ε β} {s t : σ} {b : β} :
    (attempt x >>= g).Commits s b t ↔ ∃ a, x = .ok a ∧ (g a).Commits s b t := by
  rw [commits_bind]
  constructor
  · intro h
    obtain ⟨a, m, hx, hg⟩ := h
    rw [commits_attempt] at hx
    obtain ⟨hx, rfl⟩ := hx
    exact ⟨a, hx, hg⟩
  · intro h
    obtain ⟨a, hx, hg⟩ := h
    exact ⟨a, s, commits_attempt.mpr ⟨hx, rfl⟩, hg⟩

@[simp] theorem commits_update_bind {f : σ → σ} {g : Unit → Block σ ε β} {s t : σ} {b : β} :
    (update f >>= g).Commits s b t ↔ (g ()).Commits (f s) b t := by
  rw [commits_bind]
  constructor
  · intro h
    obtain ⟨a, m, hm, hg⟩ := h
    rw [commits_update] at hm
    subst hm
    exact hg
  · intro h
    exact ⟨(), f s, commits_update.mpr rfl, h⟩

theorem commits_within {τ : Type} {part : σ → τ} {put : τ → σ → σ} {x : Block τ ε α} {s t : σ}
    {a : α} : (within part put x).Commits s a t ↔ ∃ p, x.Commits (part s) a p ∧ put p s = t := by
  unfold Commits within
  cases x (part s) with
  | error e => simp
  | ok r =>
    obtain ⟨b, p⟩ := r
    simp only [Except.ok.injEq, Prod.mk.injEq]
    constructor
    · rintro ⟨rfl, rfl⟩
      exact ⟨p, ⟨rfl, rfl⟩, rfl⟩
    · rintro ⟨q, ⟨rfl, rfl⟩, rfl⟩
      exact ⟨rfl, rfl⟩

theorem commits_swallow {x : Block σ ε α} {s t : σ} {u : Unit} :
    x.swallow.Commits s u t ↔ (∃ a, x.Commits s a t) ∨ ((∀ a m, ¬ x.Commits s a m) ∧ s = t) := by
  unfold Commits swallow
  cases h : x s with
  | ok p =>
    obtain ⟨a, m⟩ := p
    simp
  | error e => simp

@[simp] theorem commits_throw {e : ε} {s t : σ} {a : α} :
    ¬ (throw e : Block σ ε α).Commits s a t := by
  intro h
  cases h

/-- What a block answers when it commits. -/
def result (x : Block σ ε α) (s : σ) : Option α :=
  match x s with
  | .ok (a, _) => some a
  | .error _ => none

theorem result_eq_some {x : Block σ ε α} {s : σ} {a : α} :
    x.result s = some a ↔ x.Commits s a (x.commit s) := by
  unfold result Commits commit
  cases x s with
  | ok p =>
    obtain ⟨b, t⟩ := p
    simp
  | error e => simp

/-! ### Properties that a block preserves -/

/-- `x` keeps `I` whenever it commits. -/
def Preserves (I : σ → Prop) (x : Block σ ε α) : Prop := ∀ s a t, I s → x.Commits s a t → I t

section Preserves

variable {I : σ → Prop} {x y : Block σ ε α} {g : α → Block σ ε β}

theorem Preserves.commit (hx : Preserves I x) {s : σ} (hs : I s) : I (x.commit s) := by
  rcases x.commit_cases s with h | ⟨a, h⟩
  · rw [h]
    exact hs
  · exact hx s a _ hs h

theorem preserves_bind (hx : Preserves I x) (hg : ∀ a, Preserves I (g a)) :
    Preserves I (x >>= g) := by
  intro s b t hs h
  obtain ⟨a, m, hxm, hgm⟩ := commits_bind.mp h
  exact hg a m b t (hx s a m hs hxm) hgm

theorem preserves_map (f : α → β) (hx : Preserves I x) : Preserves I (f <$> x) := by
  intro s b t hs h
  obtain ⟨a, -, ha⟩ := commits_map.mp h
  exact hx s a t hs ha

theorem preserves_pure (a : α) : Preserves I (pure a : Block σ ε α) := by
  intro s b t hs h
  rw [← (commits_pure.mp h).2]
  exact hs

theorem preserves_update {f : σ → σ} (hf : ∀ s, I s → I (f s)) :
    Preserves I (update f : Block σ ε Unit) := by
  intro s u t hs h
  rw [← commits_update.mp h]
  exact hf s hs

theorem preserves_read (f : σ → α) : Preserves I (read f : Block σ ε α) := by
  intro s a t hs h
  rw [← (commits_read.mp h).2]
  exact hs

theorem preserves_require (p : Prop) [Decidable p] (e : ε) :
    Preserves I (require p e : Block σ ε Unit) := by
  intro s u t hs h
  rw [← (commits_require.mp h).2]
  exact hs

theorem preserves_demand (o : Option α) (e : ε) :
    Preserves I (demand o e : Block σ ε α) := by
  intro s a t hs h
  rw [← (commits_demand.mp h).2]
  exact hs

theorem preserves_ite {c : Prop} [Decidable c] (hx : Preserves I x) (hy : Preserves I y) :
    Preserves I (if c then x else y) := by
  split
  · exact hx
  · exact hy

theorem preserves_onlyIf {c : Prop} [Decidable c] {x : Block σ ε Unit} (hx : Preserves I x) :
    Preserves I (onlyIf c x) := preserves_ite hx (preserves_pure ())

theorem preserves_swallow (hx : Preserves I x) : Preserves I x.swallow := by
  intro s u t hs h
  rcases commits_swallow.mp h with ⟨a, ha⟩ | ⟨-, rfl⟩
  · exact hx s a t hs ha
  · exact hs

end Preserves

/-! ### What a block leads to -/

/-- Where `x` commits from `P`, its result and its state satisfy `Q`. -/
def Leads (P : σ → Prop) (x : Block σ ε α) (Q : α → σ → Prop) : Prop :=
  ∀ s a t, P s → x.Commits s a t → Q a t

section Leads

variable {P : σ → Prop} {Q : α → σ → Prop} {R : β → σ → Prop} {x y : Block σ ε α}
  {g : α → Block σ ε β}

theorem leads_bind (hx : Leads P x Q) (hg : ∀ a, Leads (Q a) (g a) R) : Leads P (x >>= g) R := by
  intro s b t hs h
  obtain ⟨a, m, hxm, hgm⟩ := commits_bind.mp h
  exact hg a m b t (hx s a m hs hxm) hgm

/-- A statement that keeps `P`, before the one that leads on. -/
theorem leads_keeps_bind (hx : Preserves P x) (hg : ∀ a, Leads P (g a) R) : Leads P (x >>= g) R :=
  leads_bind (Q := fun _ => P) hx hg

theorem leads_pure {a : α} (h : ∀ s, P s → Q a s) : Leads P (pure a : Block σ ε α) Q := by
  intro s b t hs hb
  obtain ⟨rfl, rfl⟩ := commits_pure.mp hb
  exact h s hs

theorem leads_ite {c : Prop} [Decidable c] (hx : Leads P x Q) (hy : Leads P y Q) :
    Leads P (if c then x else y) Q := by
  split
  · exact hx
  · exact hy

end Leads

/-! ### The errors of a block -/

/-- Where `x` fails, it fails with an error in `E`. -/
def FailsIn (E : ε → Prop) (x : Block σ ε α) : Prop := ∀ s e, x s = .error e → E e

section FailsIn

variable {E : ε → Prop} {x y : Block σ ε α} {g : α → Block σ ε β}

theorem failsIn_bind (hx : FailsIn E x) (hg : ∀ a, FailsIn E (g a)) : FailsIn E (x >>= g) := by
  intro s e h
  change (x s >>= fun p => g p.1 p.2) = .error e at h
  cases hs : x s with
  | error d =>
    rw [hs] at h
    cases h
    exact hx s _ hs
  | ok p =>
    rw [hs] at h
    exact hg p.1 p.2 e h

theorem failsIn_pure (a : α) : FailsIn E (pure a : Block σ ε α) := fun _ _ h => nomatch h

theorem failsIn_update (f : σ → σ) : FailsIn E (update f : Block σ ε Unit) :=
  fun _ _ h => nomatch h

theorem failsIn_read (f : σ → α) : FailsIn E (read f : Block σ ε α) := fun _ _ h => nomatch h

theorem failsIn_fail {e : ε} (he : E e) : FailsIn E (fail e : Block σ ε α) := by
  intro s d h
  cases h
  exact he

theorem failsIn_ite {c : Prop} [Decidable c] (hx : FailsIn E x) (hy : FailsIn E y) :
    FailsIn E (if c then x else y) := by
  split
  · exact hx
  · exact hy

theorem failsIn_require (p : Prop) [Decidable p] {e : ε} (he : E e) :
    FailsIn E (require p e : Block σ ε Unit) := failsIn_ite (failsIn_pure ()) (failsIn_fail he)

theorem failsIn_demand (o : Option α) {e : ε} (he : E e) :
    FailsIn E (demand o e : Block σ ε α) := by
  cases o with
  | none => exact failsIn_fail he
  | some a => exact failsIn_pure a

end FailsIn

end Block
