import ExchangeLedger.Block
import ExchangeLedger.Run

set_option autoImplicit false

/-! Rules for what a block posts: the entries that its committed runs amount to, read off its
statements in order. Entries that `keep` rejects may be posted anywhere and are not listed. -/

namespace Block

variable {σ β ε μ α γ : Type}

/-- Whenever `x` commits with a result, the change of the view is a list of entries whose kept
part `Q` allows for that result. -/
def Posts (apply : μ → β → Option β) (silent : β → β → Prop) (view : σ → β) (keep : μ → Bool)
    (x : Block σ ε α) (Q : α → List μ → Prop) : Prop :=
  ∀ s a t, x.Commits s a t →
    ∃ ms, Journal.Posted apply silent ms (view s) (view t) ∧ Q a (ms.filter keep)

/-- `x` posts no entry that is kept. -/
abbrev PostsNothing (apply : μ → β → Option β) (silent : β → β → Prop) (view : σ → β)
    (keep : μ → Bool) (x : Block σ ε α) : Prop :=
  Posts apply silent view keep x (fun _ ms => ms = [])

variable {apply : μ → β → Option β} {silent : β → β → Prop} {view : σ → β} {keep : μ → Bool}
variable {x y : Block σ ε α} {g : α → Block σ ε γ} {Q : γ → List μ → Prop} {P : α → List μ → Prop}

theorem posts_bind (hx : Posts apply silent view keep x P)
    (hg : ∀ a ms, P a ms → Posts apply silent view keep (g a) (fun b ns => Q b (ms ++ ns))) :
    Posts apply silent view keep (x >>= g) Q := by
  intro s b t hc
  obtain ⟨a, m, hxc, hgc⟩ := commits_bind.mp hc
  obtain ⟨ms, hms, hp⟩ := hx s a m hxc
  obtain ⟨ns, hns, hq⟩ := hg a _ hp m b t hgc
  refine ⟨ms ++ ns, hms.trans hns, ?_⟩
  rw [List.filter_append]
  exact hq

theorem posts_mono (hx : Posts apply silent view keep x P) {R : α → List μ → Prop}
    (h : ∀ a ms, P a ms → R a ms) : Posts apply silent view keep x R := by
  intro s a t hc
  obtain ⟨ms, hms, hp⟩ := hx s a t hc
  exact ⟨ms, hms, h a _ hp⟩

theorem posts_pure {a : α} (h : P a []) :
    Posts apply silent view keep (pure a : Block σ ε α) P := by
  intro s b t hc
  obtain ⟨rfl, rfl⟩ := commits_pure.mp hc
  exact ⟨[], .nil _, h⟩

theorem posts_fail {e : ε} : Posts apply silent view keep (fail e : Block σ ε α) P := by
  intro s a t hc
  exact absurd hc commits_fail

theorem posts_ite {c : Prop} [Decidable c] (hx : c → Posts apply silent view keep x P)
    (hy : ¬ c → Posts apply silent view keep y P) :
    Posts apply silent view keep (if c then x else y) P := by
  split
  · rename_i h
    exact hx h
  · rename_i h
    exact hy h

theorem posts_read_bind {f : σ → α} (hg : ∀ s, Posts apply silent view keep (g (f s)) Q) :
    Posts apply silent view keep (read f >>= g) Q := by
  intro s b t hc
  exact hg s s b t (commits_read_bind.mp hc)

theorem posts_demand_bind {o : Option α} {e : ε}
    (hg : ∀ a, o = some a → Posts apply silent view keep (g a) Q) :
    Posts apply silent view keep (demand o e >>= g) Q := by
  intro s b t hc
  obtain ⟨a, ha, hgc⟩ := commits_demand_bind.mp hc
  exact hg a ha s b t hgc

/-- A statement that posts nothing kept does not show. -/
theorem posts_nothing_bind (hx : PostsNothing apply silent view keep x)
    (hg : ∀ a, Posts apply silent view keep (g a) Q) :
    Posts apply silent view keep (x >>= g) Q := by
  refine posts_bind hx (fun a ms hms => ?_)
  subst hms
  exact hg a

/-- A last statement that posts nothing kept. -/
theorem posts_last (hx : PostsNothing apply silent view keep x) (h : ∀ a, P a []) :
    Posts apply silent view keep x P :=
  posts_mono hx (fun a ms hms => by rw [hms]; exact h a)

/-- A result that is only rewritten posts what it posted. -/
theorem posts_map {f : α → γ} (hx : Posts apply silent view keep x P)
    (h : ∀ a ms, P a ms → Q (f a) ms) : Posts apply silent view keep (f <$> x) Q := by
  intro s b t hc
  rw [map_eq_pure_bind] at hc
  obtain ⟨a, m, hxc, hpure⟩ := commits_bind.mp hc
  obtain ⟨rfl, rfl⟩ := commits_pure.mp hpure
  obtain ⟨ms, hms, hp⟩ := hx s a m hxc
  exact ⟨ms, hms, h a _ hp⟩

/-- A statement that posts one kept entry. -/
theorem posts_entry_bind {m : μ} (hm : keep m = true)
    (hx : ∀ s a t, x.Commits s a t → Journal.Posted apply silent [m] (view s) (view t))
    (hg : ∀ a, Posts apply silent view keep (g a) (fun b ns => Q b (m :: ns))) :
    Posts apply silent view keep (x >>= g) Q := by
  refine posts_bind (P := fun _ ms => ms = [m]) (fun s a t hc => ⟨[m], hx s a t hc, ?_⟩) ?_
  · simp [hm]
  · intro a ms hms
    subst hms
    exact hg a

/-! ### Blocks that post nothing -/

theorem nothing_of_entries {entries : α → List μ} (hp : ∀ a, ∀ m ∈ entries a, keep m = false)
    (hx : ∀ s a t, x.Commits s a t → Journal.Posted apply silent (entries a) (view s) (view t)) :
    PostsNothing apply silent view keep x := by
  intro s a t hc
  refine ⟨entries a, hx s a t hc, List.filter_eq_nil_iff.mpr ?_⟩
  intro m hm
  simp [hp a m hm]

theorem nothing_of_view (hx : ∀ s a t, x.Commits s a t → view t = view s) :
    PostsNothing apply silent view keep x := by
  intro s a t hc
  rw [hx s a t hc]
  exact ⟨[], .nil _, rfl⟩

theorem nothing_pure {a : α} : PostsNothing apply silent view keep (pure a : Block σ ε α) :=
  posts_pure rfl

theorem nothing_update {f : σ → σ} (hf : ∀ s, view (f s) = view s) :
    PostsNothing apply silent view keep (update f : Block σ ε Unit) :=
  nothing_of_view (fun s _ _ hc => by rw [← commits_update.mp hc, hf])

theorem nothing_read {f : σ → α} :
    PostsNothing apply silent view keep (read f : Block σ ε α) :=
  nothing_of_view (fun _ _ _ hc => by rw [(commits_read.mp hc).2])

theorem nothing_require {c : Prop} [Decidable c] {e : ε} :
    PostsNothing apply silent view keep (require c e : Block σ ε Unit) :=
  nothing_of_view (fun _ _ _ hc => by rw [(commits_require.mp hc).2])

theorem nothing_demand {o : Option α} {e : ε} :
    PostsNothing apply silent view keep (demand o e : Block σ ε α) :=
  nothing_of_view (fun _ _ _ hc => by rw [(commits_demand.mp hc).2])

theorem nothing_swallow (hx : PostsNothing apply silent view keep x) :
    PostsNothing apply silent view keep x.swallow := by
  intro s u t hc
  rcases commits_swallow.mp hc with ⟨a, hxc⟩ | ⟨-, rfl⟩
  · exact hx s a t hxc
  · exact ⟨[], .nil _, rfl⟩

theorem nothing_ite {c : Prop} [Decidable c] (hx : PostsNothing apply silent view keep x)
    (hy : PostsNothing apply silent view keep y) :
    PostsNothing apply silent view keep (if c then x else y) :=
  posts_ite (fun _ => hx) (fun _ => hy)

theorem nothing_onlyIf {c : Prop} [Decidable c] {x : Block σ ε Unit}
    (hx : PostsNothing apply silent view keep x) :
    PostsNothing apply silent view keep (onlyIf c x) :=
  nothing_ite hx nothing_pure

end Block
