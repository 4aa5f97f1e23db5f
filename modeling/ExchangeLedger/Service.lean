import Mathlib.Tactic.Common

set_option autoImplicit false

/-! Service calls: a computation over a state that answers or throws, and that keeps what it has
written either way. -/

/-- A call over states `σ` that answers with `α` or throws `ε`. -/
def Service (σ ε α : Type) := σ → Except ε α × σ

namespace Service

variable {σ ε α β : Type}

instance : Monad (Service σ ε) where
  pure a s := (.ok a, s)
  bind x g s :=
    match x s with
    | (.ok a, t) => g a t
    | (.error e, t) => (.error e, t)

/-- `x` ends in `t` with this outcome. -/
def Ends (x : Service σ ε α) (s : σ) (r : Except ε α) (t : σ) : Prop := x s = (r, t)

/-- The state that a call leaves behind, however it ends. -/
def after (x : Service σ ε α) (s : σ) : σ := (x s).2

def outcome (x : Service σ ε α) (s : σ) : Except ε α := (x s).1

def update (f : σ → σ) : Service σ ε Unit := fun s => (.ok (), f s)

def read (f : σ → α) : Service σ ε α := fun s => (.ok (f s), s)

/-- A call that may write before it answers. -/
def visit (f : σ → α × σ) : Service σ ε α := fun s => (.ok (f s).1, (f s).2)

def fail (e : ε) : Service σ ε α := fun s => (.error e, s)

/-- Throw unless `p` holds. -/
def require (p : Prop) [Decidable p] (e : ε) : Service σ ε Unit := if p then pure () else fail e

/-- Throw where nothing was found. -/
def demand (o : Option α) (e : ε) : Service σ ε α :=
  match o with
  | some a => pure a
  | none => fail e

def forSome (o : Option α) (x : α → Service σ ε Unit) : Service σ ε Unit :=
  match o with
  | some a => x a
  | none => pure ()

theorem ends_iff {x : Service σ ε α} {s t : σ} {r : Except ε α} :
    x.Ends s r t ↔ x.outcome s = r ∧ x.after s = t := Prod.ext_iff

theorem ends_self (x : Service σ ε α) (s : σ) : x.Ends s (x.outcome s) (x.after s) :=
  ends_iff.mpr ⟨rfl, rfl⟩

theorem outcome_eq_iff {x : Service σ ε α} {s : σ} {r : Except ε α} :
    x.outcome s = r ↔ ∃ t, x.Ends s r t := by
  constructor
  · rintro rfl
    exact ⟨_, x.ends_self s⟩
  · rintro ⟨t, h⟩
    exact (ends_iff.mp h).1

/-! ### How a call ends -/

variable {s t : σ} {r : Except ε β}

@[simp] theorem ends_pure {b : β} :
    (pure b : Service σ ε β).Ends s r t ↔ .ok b = r ∧ s = t := Prod.ext_iff

@[simp] theorem ends_fail {e : ε} :
    (fail e : Service σ ε β).Ends s r t ↔ .error e = r ∧ s = t := Prod.ext_iff

@[simp] theorem ends_read {f : σ → β} :
    (read f : Service σ ε β).Ends s r t ↔ .ok (f s) = r ∧ s = t := Prod.ext_iff

@[simp] theorem ends_visit {f : σ → β × σ} :
    (visit f : Service σ ε β).Ends s r t ↔ .ok (f s).1 = r ∧ (f s).2 = t := Prod.ext_iff

@[simp] theorem ends_update {f : σ → σ} {r : Except ε Unit} :
    (update f : Service σ ε Unit).Ends s r t ↔ .ok () = r ∧ f s = t := Prod.ext_iff

/-- A call that goes on after another: either the first throws, or the second ends so. -/
theorem ends_bind {x : Service σ ε α} {g : α → Service σ ε β} :
    (x >>= g).Ends s r t ↔
      (∃ e, x.Ends s (.error e) t ∧ .error e = r) ∨
        ∃ a m, x.Ends s (.ok a) m ∧ (g a).Ends m r t := by
  show (match x s with
    | (.ok a, t) => g a t
    | (.error e, t) => (.error e, t)) = (r, t) ↔ _
  unfold Ends
  rcases h : x s with ⟨e | a, m⟩
  · simp [and_comm]
  · simp

@[simp] theorem ends_bind_ok {x : Service σ ε α} {g : α → Service σ ε β} {b : β} :
    (x >>= g).Ends s (.ok b) t ↔ ∃ a m, x.Ends s (.ok a) m ∧ (g a).Ends m (.ok b) t := by
  simp [ends_bind]

@[simp] theorem ends_bind_error {x : Service σ ε α} {g : α → Service σ ε β} {e : ε} :
    (x >>= g).Ends s (.error e) t ↔
      x.Ends s (.error e) t ∨ ∃ a m, x.Ends s (.ok a) m ∧ (g a).Ends m (.error e) t := by
  simp [ends_bind]

@[simp] theorem ends_ite {p : Prop} [Decidable p] {x y : Service σ ε β} :
    (if p then x else y).Ends s r t ↔ p ∧ x.Ends s r t ∨ ¬ p ∧ y.Ends s r t := by
  split <;> simp_all

@[simp] theorem ends_require_ok {p : Prop} [Decidable p] {e : ε} {u : Unit} :
    (require p e : Service σ ε Unit).Ends s (.ok u) t ↔ p ∧ s = t := by
  unfold require
  split <;> simp_all

@[simp] theorem ends_require_error {p : Prop} [Decidable p] {e e' : ε} :
    (require p e : Service σ ε Unit).Ends s (.error e') t ↔ ¬ p ∧ e = e' ∧ s = t := by
  unfold require
  split <;> simp_all

@[simp] theorem ends_demand_ok {o : Option α} {e : ε} {a : α} :
    (demand o e : Service σ ε α).Ends s (.ok a) t ↔ o = some a ∧ s = t := by
  cases o <;> simp [demand]

@[simp] theorem ends_demand_error {o : Option α} {e e' : ε} :
    (demand o e : Service σ ε α).Ends s (.error e') t ↔ o = none ∧ e = e' ∧ s = t := by
  cases o <;> simp [demand]

theorem ends_forSome_ok {o : Option α} {x : α → Service σ ε Unit} {u : Unit} :
    (forSome o x).Ends s (.ok u) t ↔
      o = none ∧ s = t ∨ ∃ a, o = some a ∧ (x a).Ends s (.ok ()) t := by
  cases o <;> simp [forSome]

theorem ends_forSome_error {o : Option α} {x : α → Service σ ε Unit} {e : ε} :
    (forSome o x).Ends s (.error e) t ↔ ∃ a, o = some a ∧ (x a).Ends s (.error e) t := by
  cases o <;> simp [forSome]

end Service
