import ExchangeLedger.Run

set_option autoImplicit false

/-! Handlers that run concurrently over a shared state: each is a task that holds what it has
read so far and takes one atomic step at a time. -/

namespace Concurrent

variable {σ τ ι ω ν : Type}

/-- A shared state and the tasks under way. -/
structure System (σ τ : Type) where
  state : σ
  running : List τ

inductive Event (ι ω ν : Type) where
  | start (i : ι)
  /-- The `n`-th task takes its next step, with an outcome of the calls it makes. -/
  | resume (n : Nat) (outcome : ω)
  /-- Something else happens to the state. -/
  | outside (x : ν)

/-- How a task starts in a state, if at all, how it goes on until it ends, and what else happens. -/
structure Handlers (σ τ ι ω ν : Type) where
  start : ι → σ → Option τ
  resume : τ → ω → σ → σ × Option τ
  outside : ν → σ → σ

namespace Handlers

variable (h : Handlers σ τ ι ω ν)

def step : Event ι ω ν → System σ τ → System σ τ
  | .start i, s => ⟨s.state, s.running ++ (h.start i s.state).toList⟩
  | .resume n o, s =>
    match s.running[n]? with
    | some t => ⟨(h.resume t o s.state).1, s.running.eraseIdx n ++ (h.resume t o s.state).2.toList⟩
    | none => s
  | .outside x, s => ⟨h.outside x s.state, s.running⟩

variable {h}

theorem step_resume {s : System σ τ} {n : Nat} {t : τ} (ht : s.running[n]? = some t) (o : ω) :
    h.step (.resume n o) s =
      ⟨(h.resume t o s.state).1,
        s.running.eraseIdx n ++ (h.resume t o s.state).2.toList⟩ := by
  simp [step, ht]

theorem step_resume_none {s : System σ τ} {n : Nat} (ht : s.running[n]? = none) (o : ω) :
    h.step (.resume n o) s = s := by
  simp [step, ht]

theorem perm_running {s : System σ τ} {n : Nat} {t : τ} (ht : s.running[n]? = some t) :
    s.running.Perm (t :: s.running.eraseIdx n) := by
  obtain ⟨hn, rfl⟩ := List.getElem?_eq_some_iff.mp ht
  exact (List.getElem_cons_eraseIdx_perm hn).symm

theorem countP_toList (p : τ → Bool) (next : Option τ) :
    next.toList.countP p = (next.any p).toNat := by
  cases next with
  | none => rfl
  | some t => cases h : p t <;> simp [h]

/-- A step trades the task that takes it for what that task goes on as. -/
theorem countP_resume (p : τ → Bool) {s : System σ τ} {n : Nat} {t : τ}
    (ht : s.running[n]? = some t) (o : ω) :
    (h.step (.resume n o) s).running.countP p + (p t).toNat =
      s.running.countP p + ((h.resume t o s.state).2.any p).toNat := by
  rw [step_resume ht, List.countP_append, (perm_running ht).countP_eq p, List.countP_cons,
    countP_toList]
  cases p t with
  | false => simp
  | true =>
    simp
    omega

/-- A task without the property starts. -/
theorem countP_start {p : τ → Bool} {s : System σ τ} {i : ι}
    (hnew : ∀ t, h.start i s.state = some t → p t = false) :
    (h.step (.start i) s).running.countP p = s.running.countP p := by
  change (s.running ++ (h.start i s.state).toList).countP p = _
  rw [List.countP_append, countP_toList]
  cases ht : h.start i s.state with
  | none => rfl
  | some t => simp [hnew t ht]

/-- Where at most one task has a property, no other than that one has it. -/
theorem others_of_countP {p : τ → Bool} {s : System σ τ} {n : Nat} {t : τ}
    (ht : s.running[n]? = some t) (hp : p t = true) (hone : s.running.countP p ≤ 1) :
    ∀ u ∈ s.running.eraseIdx n, p u = false := by
  have hcount := (perm_running ht).countP_eq p
  rw [List.countP_cons, if_pos hp] at hcount
  have hzero : (s.running.eraseIdx n).countP p = 0 := by omega
  intro u hu
  simpa using List.countP_eq_zero.mp hzero u hu

/-- The task that started last takes its next step. -/
theorem step_resume_last (x : σ) (ts : List τ) (t : τ) (o : ω) :
    h.step (.resume ts.length o) ⟨x, ts ++ [t]⟩ =
      ⟨(h.resume t o x).1, ts ++ (h.resume t o x).2.toList⟩ := by
  simp [step, List.eraseIdx_append_of_length_le]

/-- What holds of every task, and of the new ones, holds after a step. -/
theorem forall_running_start {T : τ → Prop} {s : System σ τ} {i : ι} (hs : ∀ t ∈ s.running, T t)
    (hnew : ∀ t, h.start i s.state = some t → T t) :
    ∀ t ∈ (h.step (.start i) s).running, T t := by
  intro t ht
  rcases List.mem_append.mp ht with ht | ht
  · exact hs t ht
  · exact hnew t (Option.mem_toList.mp ht)

/-- The tasks after a step are others, and what the task of the step goes on as. -/
theorem forall_next {U : τ → Prop} {ts : List τ} {n : Nat} {next : Option τ}
    (hrest : ∀ u ∈ ts, U u) (hnext : ∀ u, next = some u → U u) :
    ∀ u ∈ ts.eraseIdx n ++ next.toList, U u := by
  intro u hu
  rcases List.mem_append.mp hu with hu | hu
  · exact hrest u (List.mem_of_mem_eraseIdx hu)
  · exact hnext u (Option.mem_toList.mp hu)

theorem forall_running_resume {T U : τ → Prop} {s : System σ τ} {n : Nat} {o : ω}
    (hs : ∀ t ∈ s.running, T t) (hstay : ∀ t ∈ s.running, T t → U t)
    (hnext : ∀ t ∈ s.running, T t → ∀ u, (h.resume t o s.state).2 = some u → U u) :
    ∀ t ∈ (h.step (.resume n o) s).running, U t := by
  have hrest (t : τ) (ht : t ∈ s.running) : U t := hstay t ht (hs t ht)
  cases hn : s.running[n]? with
  | none =>
    rw [step_resume_none hn]
    exact hrest
  | some u =>
    rw [step_resume hn]
    have hmem := List.mem_of_getElem? hn
    exact forall_next hrest (hnext u hmem (hs u hmem))

end Handlers

/-- What the tasks under way add up to. -/
def System.load {G : Type} [AddCommMonoid G] (w : τ → G) (s : System σ τ) : G :=
  (s.running.map w).sum

namespace Handlers

variable {h : Handlers σ τ ι ω ν} {G : Type} [AddCommMonoid G]

theorem load_start (w : τ → G) (s : System σ τ) (i : ι) :
    (h.step (.start i) s).load w = s.load w + (h.start i s.state).elim 0 w := by
  change ((s.running ++ (h.start i s.state).toList).map w).sum = _
  rw [List.map_append, List.sum_append, System.load]
  cases h.start i s.state with
  | none => simp
  | some t => simp

/-- A step trades what the task that takes it adds for what it goes on to add. -/
theorem load_resume (w : τ → G) {s : System σ τ} {n : Nat} {t : τ} (ht : s.running[n]? = some t)
    (o : ω) :
    (h.step (.resume n o) s).load w + w t = s.load w + (h.resume t o s.state).2.elim 0 w := by
  have hperm := ((perm_running ht).map w).sum_eq
  rw [step_resume ht, System.load, System.load, List.map_append, List.sum_append, hperm,
    List.map_cons, List.sum_cons]
  cases (h.resume t o s.state).2 with
  | none =>
    simp only [Option.toList_none, List.map_nil, List.sum_nil, add_zero, Option.elim_none]
    rw [add_comm]
  | some u =>
    simp only [Option.toList_some, List.map_cons, List.map_nil, List.sum_singleton,
      Option.elim_some]
    rw [add_right_comm, add_comm (w t)]

end Handlers

end Concurrent
