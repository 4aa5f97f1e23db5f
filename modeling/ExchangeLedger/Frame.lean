import ExchangeLedger.Block

set_option autoImplicit false

/-! Frames: the part of the state that a block leaves as it is. -/

namespace Block

variable {σ ε τ α β : Type}

/-- `x` leaves this part of the state alone. -/
def Keeps (part : σ → τ) (x : Block σ ε α) : Prop :=
  ∀ s a t, x.Commits s a t → part t = part s

variable {part : σ → τ} {x y : Block σ ε α} {g : α → Block σ ε β}

theorem Keeps.commit (hx : Keeps part x) (s : σ) : part (x.commit s) = part s := by
  rcases x.commit_cases s with h | ⟨a, h⟩
  · rw [h]
  · exact hx s a _ h

/-- What is read off a kept part is kept. -/
theorem Keeps.of {υ : Type} (hx : Keeps part x) (f : τ → υ) : Keeps (fun s => f (part s)) x := by
  intro s a t h
  simp only [hx s a t h]

theorem keeps_of_preserves (hx : ∀ p, Preserves (fun s => part s = p) x) : Keeps part x :=
  fun s a t h => hx (part s) s a t rfl h

theorem keeps_bind (hx : Keeps part x) (hg : ∀ a, Keeps part (g a)) : Keeps part (x >>= g) := by
  intro s b t h
  obtain ⟨a, m, hxm, hgm⟩ := commits_bind.mp h
  rw [hg a m b t hgm, hx s a m hxm]

theorem keeps_map (f : α → β) (hx : Keeps part x) : Keeps part (f <$> x) := by
  intro s b t h
  obtain ⟨a, -, ha⟩ := commits_map.mp h
  exact hx s a t ha

theorem keeps_pure (a : α) : Keeps part (pure a : Block σ ε α) := by
  intro s b t h
  rw [(commits_pure.mp h).2]

theorem keeps_fail (e : ε) : Keeps part (fail e : Block σ ε α) :=
  fun _ _ _ h => absurd h commits_fail

theorem keeps_update {f : σ → σ} (hf : ∀ s, part (f s) = part s) :
    Keeps part (update f : Block σ ε Unit) := by
  intro s u t h
  rw [← commits_update.mp h, hf]

theorem keeps_read (f : σ → α) : Keeps part (read f : Block σ ε α) := by
  intro s a t h
  rw [(commits_read.mp h).2]

theorem keeps_require (p : Prop) [Decidable p] (e : ε) :
    Keeps part (require p e : Block σ ε Unit) := by
  intro s u t h
  rw [(commits_require.mp h).2]

theorem keeps_demand (o : Option α) (e : ε) : Keeps part (demand o e : Block σ ε α) := by
  intro s a t h
  rw [(commits_demand.mp h).2]

theorem keeps_ite {c : Prop} [Decidable c] (hx : Keeps part x) (hy : Keeps part y) :
    Keeps part (if c then x else y) := by
  split
  · exact hx
  · exact hy

theorem keeps_onlyIf {c : Prop} [Decidable c] {x : Block σ ε Unit} (hx : Keeps part x) :
    Keeps part (onlyIf c x) := keeps_ite hx (keeps_pure ())

theorem keeps_swallow (hx : Keeps part x) : Keeps part x.swallow := by
  intro s u t h
  rcases commits_swallow.mp h with ⟨a, ha⟩ | ⟨-, rfl⟩
  · exact hx s a t ha
  · rfl

/-- What held of a state holds after a step that changes nothing; after one that does something it
is judged by what that is. -/
theorem holds_iff_of_unchanged {P : σ → Prop} {C : Prop} {s t : σ} (hs : P s)
    (h : t = s ∨ (P t ↔ C)) : P t ↔ t = s ∨ C := by
  constructor
  · intro ht
    exact h.imp_right fun hiff => hiff.mp ht
  · intro hC
    rcases hC with hsame | hC
    · rw [hsame]
      exact hs
    · rcases h with hsame | hiff
      · rw [hsame]
        exact hs
      · exact hiff.mpr hC

end Block
