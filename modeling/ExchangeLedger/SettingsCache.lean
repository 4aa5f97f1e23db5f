import ExchangeLedger.Block
import ExchangeLedger.Run

set_option autoImplicit false

/-! The caches of the settings services. Each keeps the settings row with its rows of amount ranges
under one key, and the settings alone under another. -/

namespace ExchangeLedger

namespace SettingsCache

open Block

variable {σ α β ι κ : Type}

/-- What one of the services reads from the database and writes to it: the settings row, all the
range rows in the order of their lower bounds, and those that belong to a settings row. -/
structure Service (σ α β ι κ : Type) where
  findSettings : σ → Option α
  findRows : σ → List β
  rowsOf : σ → α → List β
  updateSettings : ι → Block σ String Unit
  editRows : κ → Block σ String Unit

/-- `allKey` and `settingsKey`. -/
structure Redis (α β : Type) where
  all : Option (α × List β)
  settings : Option α

def Redis.empty : Redis α β := ⟨none, none⟩

structure State (σ α β : Type) where
  store : σ
  redis : Redis α β

variable (V : Service σ α β ι κ)

/-- The data that a full read of the database gives. -/
def load (S : σ) : Option (α × List β) := (V.findSettings S).map fun a => (a, V.rowsOf S a)

/-- `getWithFallback`: the answer, and what it leaves in the cache. -/
def getSettings (S : σ) (R : Redis α β) : Option (α × List β) × Redis α β :=
  match R.all with
  | some cached => (some cached, R)
  | none =>
    match load V S with
    | some mapped => (some mapped, { R with all := some mapped })
    | none => (none, R)

def refreshCache (S : σ) (R : Redis α β) : Redis α β :=
  match load V S with
  | some mapped => ⟨some mapped, some mapped.1⟩
  | none => R

def refreshSettingsCache (S : σ) (R : Redis α β) : Redis α β :=
  { R with settings := V.findSettings S }

/-- Only the rows are replaced in an entry that is there. -/
def refreshRowsCache (S : σ) (R : Redis α β) : Redis α β :=
  match R.all with
  | some current => { R with all := some (current.1, V.findRows S) }
  | none => refreshCache V S R

/-- A write, and the refresh that follows where it has succeeded. -/
def written (x : Block σ String Unit) (refresh : σ → Redis α β → Redis α β) (s : State σ α β) :
    State σ α β :=
  match x s.store with
  | .ok (_, M) => ⟨M, refresh M s.redis⟩
  | .error _ => s

inductive Request (ι κ : Type) where
  | onModuleInit
  | getSettings
  | updateSettings (i : ι)
  | editRows (k : κ)

def step : Request ι κ → State σ α β → State σ α β
  | .onModuleInit, s => ⟨s.store, refreshCache V s.store s.redis⟩
  | .getSettings, s => ⟨s.store, (getSettings V s.store s.redis).2⟩
  | .updateSettings i, s => written (V.updateSettings i) (refreshSettingsCache V) s
  | .editRows k, s => written (V.editRows k) (refreshRowsCache V) s

/-- What the service is told. -/
def answer (s : State σ α β) : Option (α × List β) := (getSettings V s.store s.redis).1

/-- A write of one of the two tables leaves the other one, and there is one settings row that all
the range rows belong to. -/
structure Lawful (I : σ → Prop) : Prop where
  own : ∀ S a, I S → V.findSettings S = some a → V.rowsOf S a = V.findRows S
  update : ∀ i S u M, I S → (V.updateSettings i).Commits S u M → I M ∧ V.findRows M = V.findRows S
  edit : ∀ k S u M, I S → (V.editRows k).Commits S u M → I M ∧ V.findSettings M = V.findSettings S

variable {V} {I : σ → Prop}

theorem written_cases (x : Block σ String Unit) (refresh : σ → Redis α β → Redis α β)
    (s : State σ α β) : written x refresh s = s ∨
      ∃ u M, x.Commits s.store u M ∧ written x refresh s = ⟨M, refresh M s.redis⟩ := by
  unfold written
  cases h : x s.store with
  | ok p => exact .inr ⟨p.1, p.2, h, rfl⟩
  | error e => exact .inl rfl

/-- The entry under `allKey` has the settings `a`, and the rows of the database. -/
structure Holds (V : Service σ α β ι κ) (I : σ → Prop) (a : α) (s : State σ α β) : Prop where
  store : I s.store
  all : s.redis.all = some (a, V.findRows s.store)

theorem Holds.answer {a : α} {s : State σ α β} (h : Holds V I a s) :
    answer V s = some (a, V.findRows s.store) := by
  simp [SettingsCache.answer, getSettings, h.all]

theorem load_eq (hV : Lawful V I) {S : σ} (hS : I S) :
    load V S = (V.findSettings S).map fun a => (a, V.findRows S) := by
  unfold load
  cases h : V.findSettings S with
  | none => rfl
  | some a => simp [hV.own S a hS h]

theorem step_store (hV : Lawful V I) (r : Request ι κ) {s : State σ α β} (hs : I s.store) :
    I (step V r s).store := by
  cases r with
  | onModuleInit => exact hs
  | getSettings => exact hs
  | updateSettings i =>
    rcases written_cases (V.updateSettings i) (refreshSettingsCache V) s with h | ⟨u, M, hM, h⟩
    · rw [step, h]
      exact hs
    · rw [step, h]
      exact (hV.update i s.store u M hs hM).1
  | editRows k =>
    rcases written_cases (V.editRows k) (refreshRowsCache V) s with h | ⟨u, M, hM, h⟩
    · rw [step, h]
      exact hs
    · rw [step, h]
      exact (hV.edit k s.store u M hs hM).1

theorem holds_onModuleInit (hV : Lawful V I) {s : State σ α β} (hs : I s.store) {a : α}
    (ha : V.findSettings s.store = some a) : Holds V I a (step V .onModuleInit s) := by
  constructor
  · exact hs
  · simp [step, refreshCache, load_eq hV hs, ha]

theorem Holds.step (hV : Lawful V I) {a : α} {s : State σ α β} (h : Holds V I a s)
    {r : Request ι κ} (hr : r ≠ .onModuleInit) : Holds V I a (step V r s) := by
  have hI := step_store hV r h.store
  cases r with
  | onModuleInit => exact absurd rfl hr
  | getSettings => exact ⟨h.store, by simp [SettingsCache.step, SettingsCache.getSettings, h.all]⟩
  | updateSettings i =>
    refine ⟨hI, ?_⟩
    rcases written_cases (V.updateSettings i) (refreshSettingsCache V) s with hw | ⟨u, M, hM, hw⟩
    · rw [SettingsCache.step, hw]
      exact h.all
    · have hrows := (hV.update i s.store u M h.store hM).2
      simp [SettingsCache.step, hw, refreshSettingsCache, h.all, hrows]
  | editRows k =>
    refine ⟨hI, ?_⟩
    rcases written_cases (V.editRows k) (refreshRowsCache V) s with hw | ⟨u, M, hM, hw⟩
    · rw [SettingsCache.step, hw]
      exact h.all
    · simp [SettingsCache.step, hw, refreshRowsCache, h.all]

theorem final_store (hV : Lawful V I) {s : State σ α β} (hs : I s.store)
    (rs : List (Request ι κ)) : I (Run.final (step V) s rs).store :=
  (Run.throughout_of_step (P := fun s : State σ α β => I s.store)
    (fun _ r h => step_store hV r h) hs rs).last

theorem Holds.final (hV : Lawful V I) {a : α} {s : State σ α β} (h : Holds V I a s)
    {rs : List (Request ι κ)} (hrs : .onModuleInit ∉ rs) :
    Holds V I a (Run.final (SettingsCache.step V) s rs) := by
  induction rs generalizing s with
  | nil => exact h
  | cons r rs ih =>
    simp only [List.mem_cons, not_or] at hrs
    exact ih (h.step hV (Ne.symm hrs.1)) hrs.2

theorem holds_since_start (hV : Lawful V I) {s : State σ α β} (hs : I s.store)
    (before : List (Request ι κ)) {after : List (Request ι κ)} (hafter : .onModuleInit ∉ after)
    {a : α} (ha : V.findSettings (Run.final (step V) s before).store = some a) :
    Holds V I a (Run.final (step V) s (before ++ .onModuleInit :: after)) := by
  rw [Run.final_append]
  exact (holds_onModuleInit hV (final_store hV hs before) ha).final hV hafter

theorem Holds.answer_eq_load_iff (hV : Lawful V I) {a : α} {s : State σ α β} (h : Holds V I a s) :
    SettingsCache.answer V s = load V s.store ↔ V.findSettings s.store = some a := by
  rw [h.answer, load_eq hV h.store]
  cases V.findSettings s.store with
  | none => simp
  | some b => simp [eq_comm]

end SettingsCache

end ExchangeLedger
