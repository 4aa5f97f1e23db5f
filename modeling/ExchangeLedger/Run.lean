import Mathlib.Algebra.BigOperators.Group.List.Basic
import Mathlib.Data.List.Induction

set_option autoImplicit false

/-! Runs of labelled steps, and journals of partial postings. -/

namespace Run

variable {σ ι : Type} (step : ι → σ → σ)

/-- The state after the steps `as`, in order. -/
def final : σ → List ι → σ
  | s, [] => s
  | s, a :: as => final (step a s) as

/-- `P` holds in every state of the run, the first and the last included. -/
def Throughout (P : σ → Prop) : σ → List ι → Prop
  | s, [] => P s
  | s, a :: as => P s ∧ Throughout P (step a s) as

/-- `C` holds of every step of the run, in the state where it is taken. -/
def Along (C : σ → ι → Prop) : σ → List ι → Prop
  | _, [] => True
  | s, a :: as => C s a ∧ Along C (step a s) as

variable {step}

theorem Throughout.head {P : σ → Prop} {s : σ} {as : List ι} (h : Throughout step P s as) :
    P s := by
  cases as with
  | nil => exact h
  | cons a as => exact h.1

theorem Throughout.last {P : σ → Prop} {s : σ} {as : List ι} (h : Throughout step P s as) :
    P (final step s as) := by
  induction as generalizing s with
  | nil => exact h
  | cons a as ih => exact ih h.2

theorem Throughout.mono {P Q : σ → Prop} {s : σ} {as : List ι} (hPQ : ∀ s, P s → Q s)
    (h : Throughout step P s as) : Throughout step Q s as := by
  induction as generalizing s with
  | nil => exact hPQ s h
  | cons a as ih => exact ⟨hPQ s h.1, ih h.2⟩

theorem Along.mono {C D : σ → ι → Prop} {s : σ} {as : List ι} (hCD : ∀ s a, C s a → D s a)
    (h : Along step C s as) : Along step D s as := by
  induction as generalizing s with
  | nil => trivial
  | cons a as ih => exact ⟨hCD s a h.1, ih h.2⟩

theorem Along.combine {P : σ → Prop} {C D E : σ → ι → Prop} {s : σ} {as : List ι}
    (hE : ∀ s a, P s → C s a → D s a → E s a) (hP : Throughout step P s as)
    (hC : Along step C s as) (hD : Along step D s as) : Along step E s as := by
  induction as generalizing s with
  | nil => trivial
  | cons a as ih => exact ⟨hE s a hP.head hC.1 hD.1, ih hP.2 hC.2 hD.2⟩

/-- Where a relation of two systems' states is kept by each label's steps, conditions that agree on
related states agree along runs with the same labels. -/
theorem along_simulated {τ : Type} {step' : ι → τ → τ} {R : σ → τ → Prop} {C : σ → ι → Prop}
    {D : τ → ι → Prop} (keeps : ∀ s t a, R s t → R (step a s) (step' a t))
    (agree : ∀ s t a, R s t → (C s a ↔ D t a)) {s : σ} {t : τ} {as : List ι} (hR : R s t) :
    Along step C s as ↔ Along step' D t as := by
  induction as generalizing s t with
  | nil => exact Iff.rfl
  | cons a as ih => exact and_congr (agree s t a hR) (ih (keeps s t a hR))

/-- Under an invariant of every step, conditions that agree where it holds agree along a run. -/
theorem along_congr {I : σ → Prop} {C D : σ → ι → Prop} (keeps : ∀ s a, I s → I (step a s))
    (agree : ∀ s a, I s → (C s a ↔ D s a)) {s : σ} {as : List ι} (hs : I s) :
    Along step C s as ↔ Along step D s as := by
  refine along_simulated (R := fun s t => s = t ∧ I s) ?_ ?_ ⟨rfl, hs⟩
  · rintro s _ a ⟨rfl, hI⟩
    exact ⟨rfl, keeps s a hI⟩
  · rintro s _ a ⟨rfl, hI⟩
    exact agree s a hI

/-- What every step preserves holds throughout. -/
theorem throughout_of_step {P : σ → Prop} (keeps : ∀ s a, P s → P (step a s)) {s : σ} (hs : P s)
    (as : List ι) : Throughout step P s as := by
  induction as generalizing s with
  | nil => exact hs
  | cons a as ih => exact ⟨hs, ih (keeps s a hs)⟩

/-- A condition on steps that preserves `P` keeps `P` throughout the runs that meet it. -/
theorem throughout_of_along {P : σ → Prop} {C : σ → ι → Prop}
    (keeps : ∀ s a, P s → C s a → P (step a s)) {s : σ} {as : List ι} (hs : P s)
    (h : Along step C s as) : Throughout step P s as := by
  induction as generalizing s with
  | nil => exact hs
  | cons a as ih => exact ⟨hs, ih (keeps s a hs h.1) h.2⟩

/-- Where `C` is exactly what a step needs to keep `P`, it is exactly what a run needs. -/
theorem throughout_iff_along {P : σ → Prop} {C : σ → ι → Prop}
    (exact_step : ∀ s a, P s → (P (step a s) ↔ C s a)) {s : σ} {as : List ι} (hs : P s) :
    Throughout step P s as ↔ Along step C s as := by
  induction as generalizing s with
  | nil => exact ⟨fun _ => trivial, fun _ => hs⟩
  | cons a as ih =>
    constructor
    · intro h
      have ha := h.2.head
      exact ⟨(exact_step s a hs).mp ha, (ih ha).mp h.2⟩
    · intro h
      have ha := (exact_step s a hs).mpr h.1
      exact ⟨hs, (ih ha).mpr h.2⟩

/-- The same where the steps keep an invariant that it rests on. -/
theorem throughout_iff_along_under {I P : σ → Prop} {C : σ → ι → Prop}
    (keeps : ∀ s a, I s → I (step a s))
    (exact_step : ∀ s a, I s → P s → (P (step a s) ↔ C s a)) {s : σ} {as : List ι} (hI : I s)
    (hs : P s) : Throughout step P s as ↔ Along step C s as := by
  induction as generalizing s with
  | nil => exact ⟨fun _ => trivial, fun _ => hs⟩
  | cons a as ih =>
    constructor
    · intro h
      have ha := h.2.head
      exact ⟨(exact_step s a hI hs).mp ha, (ih (keeps s a hI) ha).mp h.2⟩
    · intro h
      have ha := (exact_step s a hI hs).mpr h.1
      exact ⟨hs, (ih (keeps s a hI) ha).mpr h.2⟩

/-- Under an invariant that gives `P`, and that the steps meeting `C` keep, a run satisfies `P`
throughout and `S` at each of its steps exactly when each of its steps meets `C`. -/
theorem safe_iff_along {I P : σ → Prop} {S C : σ → ι → Prop} (safe : ∀ s, I s → P s)
    (exact_step : ∀ s a, I s → (P (step a s) ∧ S s a ↔ C s a))
    (keeps : ∀ s a, I s → C s a → I (step a s)) {s : σ} {as : List ι} (hs : I s) :
    Throughout step P s as ∧ Along step S s as ↔ Along step C s as := by
  induction as generalizing s with
  | nil => exact ⟨fun _ => trivial, fun _ => ⟨safe s hs, trivial⟩⟩
  | cons a as ih =>
    constructor
    · intro h
      have hc := (exact_step s a hs).mp ⟨h.1.2.head, h.2.1⟩
      exact ⟨hc, (ih (keeps s a hs hc)).mp ⟨h.1.2, h.2.2⟩⟩
    · intro h
      have htail := (ih (keeps s a hs h.1)).mpr h.2
      exact ⟨⟨safe s hs, htail.1⟩, ((exact_step s a hs).mpr h.1).2, htail.2⟩

/-- Under an invariant that gives `P`, and that the steps meeting `C` keep while they do `S`, a run
whose steps all meet `C` satisfies `P` throughout and `S` at each of its steps. -/
theorem throughout_and_along {I P : σ → Prop} {C S : σ → ι → Prop} (safe : ∀ s, I s → P s)
    (keeps : ∀ s a, I s → C s a → I (step a s) ∧ S s a) {s : σ} {as : List ι} (hs : I s)
    (h : Along step C s as) : Throughout step P s as ∧ Along step S s as := by
  induction as generalizing s with
  | nil => exact ⟨safe s hs, trivial⟩
  | cons a as ih =>
    obtain ⟨hnext, ha⟩ := keeps s a hs h.1
    obtain ⟨hP, hS⟩ := ih hnext h.2
    exact ⟨⟨safe s hs, hP⟩, ha, hS⟩

/-- What no step brings back held all along, where it holds in the end. -/
theorem throughout_of_final {P : σ → Prop} (stays : ∀ s a, P (step a s) → P s) {s : σ} {as : List ι}
    (h : P (final step s as)) : Throughout step P s as := by
  induction as generalizing s with
  | nil => exact h
  | cons a as ih =>
    have hrest := ih h
    exact ⟨stays s a hrest.head, hrest⟩

/-- What the steps of a run add up to, each counted in the state where it is taken. -/
def accrued {G : Type} [AddCommMonoid G] (step : ι → σ → σ) (d : σ → ι → G) : σ → List ι → G
  | _, [] => 0
  | s, a :: as => d s a + accrued step d (step a s) as

/-- A quantity that each step shifts is shifted by the accrued amount along the run. -/
theorem final_shift {G : Type} [AddCommMonoid G] {v : σ → G} {d : σ → ι → G}
    (shift : ∀ s a, v (step a s) = v s + d s a) (s : σ) (as : List ι) :
    v (final step s as) = v s + accrued step d s as := by
  induction as generalizing s with
  | nil => simp [final, accrued]
  | cons a as ih => rw [final, ih, shift, accrued, add_assoc]

theorem final_append (s : σ) (as bs : List ι) :
    final step s (as ++ bs) = final step (final step s as) bs := by
  induction as generalizing s with
  | nil => rfl
  | cons a as ih => exact ih (step a s)

theorem Throughout.concat {P : σ → Prop} {s : σ} {as : List ι} (h : Throughout step P s as) {a : ι}
    (ha : P (step a (final step s as))) : Throughout step P s (as ++ [a]) := by
  induction as generalizing s with
  | nil => exact ⟨h, ha⟩
  | cons b as ih => exact ⟨h.1, ih h.2 ha⟩

/-- What holds in the end and not at the start came with one step, and has held ever since. -/
theorem origin {P : σ → Prop} {s : σ} {as : List ι} (start : ¬ P s)
    (h : P (final step s as)) :
    ∃ bs a cs, as = bs ++ a :: cs ∧ ¬ P (final step s bs) ∧
      Throughout step P (step a (final step s bs)) cs := by
  induction as using List.reverseRecOn with
  | nil => exact absurd h start
  | append_singleton as a ih =>
    rw [final_append] at h
    by_cases hP : P (final step s as)
    · obtain ⟨bs, b, cs, rfl, hbs, hcs⟩ := ih hP
      rw [final_append] at h
      exact ⟨bs, b, cs ++ [a], by simp, hbs, hcs.concat h⟩
    · exact ⟨as, a, [], rfl, hP, h⟩

/-- What an observer holds after a run, who looks at each step in the state where it is taken. -/
def observed {γ : Type} (step : ι → σ → σ) (look : σ → ι → γ → γ) : γ → σ → List ι → γ
  | g, _, [] => g
  | g, s, a :: as => observed step look (look s a g) (step a s) as

theorem observed_keeps {γ : Type} {R : σ → γ → Prop} {look : σ → ι → γ → γ}
    (keeps : ∀ s a g, R s g → R (step a s) (look s a g)) {s : σ} {g : γ} (h : R s g)
    (as : List ι) : R (final step s as) (observed step look g s as) := by
  induction as generalizing s g with
  | nil => exact h
  | cons a as ih => exact ih (keeps s a g h)

/-- Under an invariant of every step, an observer who keeps up with each step keeps up with runs. -/
theorem final_observed {γ : Type} {I : σ → Prop} {v : σ → γ} {look : σ → ι → γ → γ}
    (keeps : ∀ s a, I s → I (step a s)) (shows : ∀ s a, I s → v (step a s) = look s a (v s))
    {s : σ} (hs : I s) (as : List ι) :
    v (final step s as) = observed step look (v s) s as := by
  induction as generalizing s with
  | nil => rfl
  | cons a as ih => rw [final, ih (keeps s a hs), shows s a hs, observed]

end Run

namespace Journal

variable {β μ : Type} (apply : μ → β → Option β) (silent : β → β → Prop)

/-- The entries `ms` lead from one book to another, with silent steps anywhere in between. -/
inductive Posted : List μ → β → β → Prop where
  | nil (b : β) : Posted [] b b
  | entry {m : μ} {ms : List μ} {b c d : β} : apply m b = some c → Posted ms c d →
      Posted (m :: ms) b d
  | quiet {ms : List μ} {b c d : β} : silent b c → Posted ms c d → Posted ms b d

variable {apply silent}

theorem Posted.trans {ms ns : List μ} {b c d : β} (h₁ : Posted apply silent ms b c)
    (h₂ : Posted apply silent ns c d) : Posted apply silent (ms ++ ns) b d := by
  induction h₁ with
  | nil b => exact h₂
  | entry hm _ ih => exact .entry hm (ih h₂)
  | quiet hs _ ih => exact .quiet hs (ih h₂)

theorem Posted.single {m : μ} {b c : β} (h : apply m b = some c) :
    Posted apply silent [m] b c := .entry h (.nil c)

theorem Posted.of_silent {b c : β} (h : silent b c) : Posted apply silent [] b c :=
  .quiet h (.nil c)

/-- Entries and silent steps that each preserve `I` preserve it together. -/
theorem Posted.preserves {I : β → Prop} {ms : List μ} {b c : β}
    (h : Posted apply silent ms b c)
    (keeps : ∀ m ∈ ms, ∀ b c, I b → apply m b = some c → I c)
    (quiet : ∀ b c, I b → silent b c → I c) (hb : I b) : I c := by
  induction h with
  | nil b => exact hb
  | entry hm _ ih =>
    exact ih (fun n hn => keeps n (by simp [hn])) (keeps _ (by simp) _ _ hb hm)
  | quiet hs _ ih => exact ih keeps (quiet _ _ hb hs)

/-- Under an invariant, entries that each shift a quantity by a fixed amount shift it by the
sum together. -/
theorem Posted.shift {G : Type} [AddCommMonoid G] {v : β → G} {d : μ → G} {I : β → Prop}
    {ms : List μ} {b c : β} (h : Posted apply silent ms b c)
    (shift : ∀ m b c, I b → apply m b = some c → I c ∧ v c = v b + d m)
    (quiet : ∀ b c, I b → silent b c → I c ∧ v c = v b) (hb : I b) :
    v c = v b + (ms.map d).sum := by
  induction h with
  | nil b => simp
  | entry hm _ ih =>
    obtain ⟨hc, hv⟩ := shift _ _ _ hb hm
    rw [ih hc, hv, List.map_cons, List.sum_cons, add_assoc]
  | quiet hs _ ih =>
    obtain ⟨hc, hv⟩ := quiet _ _ hb hs
    rw [ih hc, hv]

end Journal
