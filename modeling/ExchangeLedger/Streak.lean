import ExchangeLedger.Run
import ExchangeLedger.TempStore

set_option autoImplicit false

/-! Counters that expire: each hit counts up and keeps the counter for another while, so it holds
the length of the streak, and a limit on it bounds the hits within any while. -/

/-- What happens to a counter. -/
inductive Beat where
  | hit (moment : Nat)
  | clear
  deriving DecidableEq, Repr

namespace Beat

/-- The streak that is alive at `now`, of what has happened, latest first: the hits since the
counter was cleared, each less than `ttl` after the one before. -/
def streak (ttl : Nat) : Nat → List Beat → Nat
  | _, [] => 0
  | _, .clear :: _ => 0
  | now, .hit moment :: beats => if now < moment + ttl then streak ttl moment beats + 1 else 0

/-! ### Limits -/

/-- Hits, latest first, each taken while the streak was below the limit. -/
def Limited (ttl limit : Nat) : List Nat → Prop
  | [] => True
  | now :: moments => streak ttl now (moments.map .hit) < limit ∧ Limited ttl limit moments

variable {ttl limit : Nat}

theorem recent_le_streak (ttl : Nat) {now : Nat} {moments : List Nat}
    (hsorted : (now :: moments).Pairwise (· ≥ ·)) :
    (moments.filter fun m => now < m + ttl).length ≤ streak ttl now (moments.map .hit) := by
  induction moments generalizing now with
  | nil => simp
  | cons m moments ih =>
    rw [List.pairwise_cons] at hsorted
    have hm : m ≤ now := hsorted.1 m (by simp)
    by_cases h : now < m + ttl
    · have hrest : (moments.filter fun k => now < k + ttl).length ≤
          (moments.filter fun k => m < k + ttl).length := by
        refine (List.monotone_filter_right moments fun k hk => ?_).length_le
        simp only [decide_eq_true_eq] at hk ⊢
        omega
      have := ih hsorted.2
      simp [streak, h]
      omega
    · have hnone : (moments.filter fun k => now < k + ttl) = [] := by
        refine List.filter_eq_nil_iff.mpr fun k hk => ?_
        have hkm : k ≤ m := (List.pairwise_cons.mp hsorted.2).1 k hk
        simp only [decide_eq_true_eq]
        omega
      simp [h, hnone]

/-- Within any while of length `ttl` there are no more hits than the limit. -/
theorem Limited.window {moments : List Nat} (h : Limited ttl limit moments)
    (hsorted : moments.Pairwise (· ≥ ·)) (start : Nat) :
    (moments.filter fun m => start ≤ m ∧ m < start + ttl).length ≤ limit := by
  induction moments with
  | nil => simp
  | cons now moments ih =>
    have hrest := ih h.2 (List.pairwise_cons.mp hsorted).2
    by_cases hnow : start ≤ now ∧ now < start + ttl
    · have hrecent := recent_le_streak ttl hsorted
      have hwithin : (moments.filter fun m => start ≤ m ∧ m < start + ttl).length ≤
          (moments.filter fun m => now < m + ttl).length := by
        refine (List.monotone_filter_right moments fun m hm => ?_).length_le
        simp only [decide_eq_true_eq] at hm ⊢
        omega
      have := h.1
      simp only [List.filter_cons, decide_eq_true hnow, if_true, List.length_cons]
      omega
    · simpa only [List.filter_cons, decide_eq_false hnow, Bool.false_eq_true, if_false] using hrest

/-! ### Counters -/

section Counters

variable {κ σ ι : Type}

/-- The counter under `k` holds the streak, now and from now on. -/
def Tracks (ttl : Nat) (S : TempStore κ Nat) (now : Nat) (k : κ) (beats : List Beat) : Prop :=
  ∀ m, now ≤ m → (S.get m k).getD 0 = streak ttl m beats

/-- What a beat makes of the counter under `k`. -/
def Acts (ttl : Nat) (S : TempStore κ Nat) (now : Nat) (k : κ) (S' : TempStore κ Nat) :
    Option Beat → Prop
  | none => S' k = S k
  | some .clear => S' k = none
  | some (.hit moment) => moment = now ∧ S' k = some ((S.get now k).getD 0 + 1, now + ttl)

/-- A step that at most hits, and below the limit. -/
def Metered (ttl limit : Nat) (S : TempStore κ Nat) (now : Nat) (k : κ) (S' : TempStore κ Nat)
    (beat : Option Beat) : Prop :=
  Acts ttl S now k S' beat ∧ ∀ b, beat = some b → b = .hit now ∧ (S.get now k).getD 0 < limit

theorem metered_none {S S' : TempStore κ Nat} {now : Nat} {k : κ} (h : S' k = S k) :
    Metered ttl limit S now k S' none := ⟨h, by simp⟩

theorem Tracks.acts {S S' : TempStore κ Nat} {now later : Nat} {k : κ} {beats : List Beat}
    (h : Tracks ttl S now k beats) (hnow : now ≤ later) {beat : Option Beat}
    (hacts : Acts ttl S now k S' beat) : Tracks ttl S' later k (beat.toList ++ beats) := by
  intro m hm
  cases beat with
  | none =>
    rw [Acts] at hacts
    rw [TempStore.get, hacts]
    exact h m (Nat.le_trans hnow hm)
  | some beat =>
    cases beat with
    | clear =>
      rw [Acts] at hacts
      simp [TempStore.get, hacts, streak]
    | hit moment =>
      obtain ⟨rfl, hset⟩ := hacts
      have hcount := h moment (Nat.le_refl moment)
      have hget : S'.get m k =
          if m < moment + ttl then some ((S.get moment k).getD 0 + 1) else none := by
        rw [TempStore.get, hset]
        rfl
      rw [hget, Option.toList_some, List.singleton_append, streak, ← hcount]
      split <;> rfl

theorem tracks_nil {S : TempStore κ Nat} {k : κ} (start : S k = none) (now : Nat) :
    Tracks ttl S now k [] := by
  intro m _
  simp [TempStore.get, start, streak]

/-- The beats of a run, latest first. -/
def trace (step : ι → σ → σ) (beat : σ → ι → Option Beat) (s : σ) (as : List ι) : List Beat :=
  Run.observed step (fun s a beats => (beat s a).toList ++ beats) [] s as

theorem trace_keeps (step : ι → σ → σ) (beat : σ → ι → Option Beat) {R : σ → List Beat → Prop}
    (keeps : ∀ s a beats, R s beats → R (step a s) ((beat s a).toList ++ beats)) {s : σ}
    (start : R s []) (as : List ι) : R (Run.final step s as) (trace step beat s as) :=
  Run.observed_keeps keeps start as

theorem counter_eq_streak {step : ι → σ → σ} {store : σ → TempStore κ Nat} {clock : σ → Nat}
    {beat : σ → ι → Option Beat} {k : κ} (runs : ∀ s a, clock s ≤ clock (step a s))
    (acts : ∀ s a, Acts ttl (store s) (clock s) k (store (step a s)) (beat s a)) {s : σ}
    (start : store s k = none) (as : List ι) :
    ((store (Run.final step s as)).get (clock (Run.final step s as)) k).getD 0 =
      streak ttl (clock (Run.final step s as)) (trace step beat s as) := by
  have hend := trace_keeps step beat
    (R := fun s beats => Tracks ttl (store s) (clock s) k beats)
    (fun s a beats h => h.acts (runs s a) (acts s a))
    (tracks_nil start (clock s)) as
  exact hend _ (Nat.le_refl _)

def moment? : Beat → Option Nat
  | .hit moment => some moment
  | .clear => none

/-- The moments of a run's hits, latest first. -/
def hits (step : ι → σ → σ) (beat : σ → ι → Option Beat) (s : σ) (as : List ι) : List Nat :=
  (trace step beat s as).filterMap moment?

/-- Hits up to `now` and nothing else, each taken below the limit. -/
def Limited.Beats (ttl limit now : Nat) (beats : List Beat) : Prop :=
  ∃ moments, beats = moments.map .hit ∧ Limited ttl limit moments ∧ moments.Pairwise (· ≥ ·) ∧
    ∀ m ∈ moments, m ≤ now

theorem Limited.Beats.metered {S S' : TempStore κ Nat} {now later : Nat} {k : κ}
    {beats : List Beat} (h : Limited.Beats ttl limit now beats) (htracks : Tracks ttl S now k beats)
    (hnow : now ≤ later) {beat : Option Beat} (hbeat : Metered ttl limit S now k S' beat) :
    Limited.Beats ttl limit later (beat.toList ++ beats) := by
  obtain ⟨moments, rfl, hlimited, hsorted, hpast⟩ := h
  have hlater : ∀ m ∈ moments, m ≤ later := fun m hm => Nat.le_trans (hpast m hm) hnow
  cases beat with
  | none => exact ⟨moments, rfl, hlimited, hsorted, hlater⟩
  | some b =>
    obtain ⟨rfl, hfew⟩ := hbeat.2 b rfl
    rw [htracks now (Nat.le_refl now)] at hfew
    exact ⟨now :: moments, rfl, ⟨hfew, hlimited⟩, hsorted.cons hpast,
      List.forall_mem_cons.mpr ⟨hnow, hlater⟩⟩

/-- Where hits are taken below the limit only, and nothing clears the counter, no while of length
`ttl` has more of a run's hits. -/
theorem hits_window {step : ι → σ → σ} {store : σ → TempStore κ Nat} {clock : σ → Nat}
    {beat : σ → ι → Option Beat} {k : κ} (runs : ∀ s a, clock s ≤ clock (step a s))
    (metered : ∀ s a, Metered ttl limit (store s) (clock s) k (store (step a s)) (beat s a)) {s : σ}
    (start : store s k = none) (as : List ι) (begin : Nat) :
    ((hits step beat s as).filter fun m => begin ≤ m ∧ m < begin + ttl).length ≤ limit := by
  obtain ⟨-, moments, hmoments, hlimited, hsorted, -⟩ := trace_keeps step beat
    (R := fun s beats => Tracks ttl (store s) (clock s) k beats ∧
      Limited.Beats ttl limit (clock s) beats)
    (fun s a beats h => ⟨h.1.acts (runs s a) (metered s a).1,
      h.2.metered h.1 (runs s a) (metered s a)⟩)
    ⟨tracks_nil start (clock s), [], rfl, trivial, .nil, by simp⟩ as
  have hhits : hits step beat s as = moments := by
    rw [hits, hmoments]
    simp [moment?, List.filterMap_map, Function.comp_def]
  rw [hhits]
  exact hlimited.window hsorted begin

end Counters

end Beat
