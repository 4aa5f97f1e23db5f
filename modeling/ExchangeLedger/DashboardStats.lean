import ExchangeLedger.Concurrent
import ExchangeLedger.Conversions

set_option autoImplicit false

/-! The dashboard's totals in Redis, and the jobs that add transactions to them under a lock. -/

namespace ExchangeLedger

open Concurrent

namespace DashboardStats

open ConvertCurrency (DefaultNetworkCache)

/-- A transaction update, as it comes out of the queue: the naira amount, if there is one, is the
text of a `bigint`. -/
structure Update where
  nairaAmountBase : Option Nat
  isToday : Bool
  deriving DecidableEq, Repr

/-- The fields of the hash that an update writes. -/
structure Meta where
  totalValue : Option Text
  dailyValue : Option Text
  totalVolume : Option Nat
  dailyVolume : Option Nat
  deriving DecidableEq, Repr

structure Stats where
  hash : Meta
  lock : Option Nat
  /-- Lock ids are random, and so always new. -/
  newLockId : Nat
  /-- The updates whose jobs have run. -/
  finished : List Update

/-- A job, by the command that is next. -/
inductive Task where
  | acquiring (u : Update)
  | reading (u : Update) (lockId : Nat)
  | writing (u : Update) (lockId : Nat) (hash : Meta)
  | checking (u : Update) (lockId : Nat)
  | deleting (u : Update) (lockId : Nat)
  deriving DecidableEq, Repr

/-- A `bigint` as a text. -/
def decimalText (n : Int) : Text :=
  if n < 0 then '-' :: Nat.toDigits 10 n.natAbs else Nat.toDigits 10 n.natAbs

/-- `BigInt` of a text of digits, which may have a sign. -/
def bigInt : Text → Int
  | '-' :: s => -(Decimal.readNat s : Nat)
  | s => (Decimal.readNat s : Nat)

/-- `BigInt(kobo + amount)`: the amount is a string, and `+` appends it. -/
def plusAmount (kobo : Int) : Option Nat → Int
  | none => kobo
  | some amount => bigInt (decimalText kobo ++ Nat.toDigits 10 amount)

section Jobs

variable (networks : DefaultNetworkCache)

/-- A stored value in kobo; one that is missing or does not parse counts as zero. -/
def koboOf : Option Text → Int
  | none | some [] => 0
  | some value =>
    match ConvertCurrency.toBase networks value .ngn with
    | .ok kobo => kobo
    | .error _ => 0

def nairaText (kobo : Int) : Option Text :=
  (ConvertCurrency.fromBase networks kobo .ngn none).toOption

def updated (hash : Meta) (u : Update) : Meta where
  totalValue := nairaText networks (plusAmount (koboOf networks hash.totalValue) u.nairaAmountBase)
  dailyValue := nairaText networks
    (if u.isToday then plusAmount (koboOf networks hash.dailyValue) u.nairaAmountBase
      else koboOf networks hash.dailyValue)
  totalVolume := some (hash.totalVolume.getD 0 + 1)
  dailyVolume := some (if u.isToday then hash.dailyVolume.getD 0 + 1 else hash.dailyVolume.getD 0)

def Stats.finish (u : Update) (s : Stats) : Stats := { s with finished := u :: s.finished }

/-- `withLock` around the update. A job that does not acquire the lock is done. -/
def resume (s : Stats) : Task → Stats × Option Task
  | .acquiring u =>
    if s.lock = none then
      ({ s with lock := some s.newLockId, newLockId := s.newLockId + 1 },
        some (.reading u s.newLockId))
    else (s.finish u, none)
  | .reading u lockId => (s, some (.writing u lockId (updated networks s.hash u)))
  | .writing u lockId hash => ({ s with hash := hash }, some (.checking u lockId))
  | .checking u lockId =>
    if s.lock = some lockId then (s, some (.deleting u lockId)) else (s.finish u, none)
  | .deleting u _ => ({ s with lock := none }.finish u, none)

/-- The worker's jobs, any number of them at a time. Outside of them the lock expires. -/
def statsWorker : Handlers Stats Task Update Unit Unit where
  start u _ := some (.acquiring u)
  resume t _ s := resume networks s t
  outside _ s := { s with lock := none }

def statsStep (e : Event Update Unit Unit) (s : System Stats Task) : System Stats Task :=
  (statsWorker networks).step e s

def Update.kobo (u : Update) : Int := (u.nairaAmountBase.getD 0 : Nat)

/-- Once no job is left, every update counts once, and by its number. -/
def AllApplied (before : Meta) (s : System Stats Task) : Prop :=
  s.running = [] →
    koboOf networks s.state.hash.totalValue =
        koboOf networks before.totalValue + (s.state.finished.map Update.kobo).sum ∧
      s.state.hash.totalVolume.getD 0 = before.totalVolume.getD 0 + s.state.finished.length

/-- The job holds the lock. -/
def Task.holds : Task → Bool
  | .acquiring _ => false
  | _ => true

/-- The job has written its update. -/
def Task.written : Task → Bool
  | .checking _ _ | .deleting _ _ => true
  | _ => false

def Task.writtenKobo : Task → Int
  | .checking u _ | .deleting u _ => u.kobo
  | _ => 0

/-- A job finds the lock free, and an amount that is appended is appended to a total of zero. -/
def MayResume (s : Stats) : Task → Prop
  | .acquiring _ => s.lock = none
  | .reading u _ => u.nairaAmountBase = none ∨ koboOf networks s.hash.totalValue = 0
  | _ => True

instance (s : Stats) (t : Task) : Decidable (MayResume networks s t) :=
  match t with
  | .acquiring _ => inferInstanceAs (Decidable (_ = _))
  | .reading _ _ => inferInstanceAs (Decidable (_ ∨ _))
  | .writing _ _ _ | .checking _ _ | .deleting _ _ => inferInstanceAs (Decidable True)

/-- And the lock does not expire while a job holds it. -/
def Clear (s : System Stats Task) : Event Update Unit Unit → Prop
  | .start _ => True
  | .resume n _ => ∀ t ∈ s.running[n]?, MayResume networks s.state t
  | .outside _ => ∀ t ∈ s.running, t.holds = false

/-- One job at a time holds the lock; the totals count what is finished and what is written; and
what is about to be written adds one update to them. -/
structure Tallied (before : Meta) (s : System Stats Task) : Prop where
  one : s.running.countP Task.holds ≤ 1
  free : s.state.lock = none → s.running.countP Task.holds = 0
  value : koboOf networks s.state.hash.totalValue =
    koboOf networks before.totalValue + (s.state.finished.map Update.kobo).sum +
      s.load Task.writtenKobo
  volume : s.state.hash.totalVolume.getD 0 =
    before.totalVolume.getD 0 + s.state.finished.length + s.running.countP Task.written
  pending : ∀ u lockId hash, .writing u lockId hash ∈ s.running →
    koboOf networks hash.totalValue = koboOf networks s.state.hash.totalValue + u.kobo ∧
      hash.totalVolume.getD 0 = s.state.hash.totalVolume.getD 0 + 1

variable {networks}

theorem Tallied.allApplied {before : Meta} {s : System Stats Task}
    (h : Tallied networks before s) : AllApplied networks before s := by
  intro hnone
  have hvalue := h.value
  have hvolume := h.volume
  simp only [System.load, hnone, List.map_nil, List.sum_nil, List.countP_nil, add_zero]
    at hvalue hvolume
  exact ⟨hvalue, hvolume⟩

theorem koboOf_nairaText (kobo : Int) : koboOf networks (nairaText networks kobo) = kobo := by
  have htext : nairaText networks kobo = some (ConvertCurrency.fromBaseUnits 2 true kobo) := rfl
  have hback : ConvertCurrency.toBaseUnits 2 (ConvertCurrency.fromBaseUnits 2 true kobo) =
      .ok kobo := ConvertCurrency.toBaseUnits_fromBaseUnits (fun _ => rfl) kobo
  have hne : ConvertCurrency.fromBaseUnits 2 true kobo ≠ [] := by
    intro hnil
    rw [hnil] at hback
    cases hback
  rw [htext]
  unfold koboOf
  split
  · rename_i hnone
    cases hnone
  · rename_i hnil
    exact absurd (Option.some.inj hnil) hne
  · rename_i value hvalue
    cases hvalue
    have hto : ConvertCurrency.toBase networks (ConvertCurrency.fromBaseUnits 2 true kobo) .ngn =
        .ok kobo := hback
    rw [hto]

theorem bigInt_digits {s : Text} (h : ∀ c ∈ s, c.isDigit = true) :
    bigInt s = (Decimal.readNat s : Nat) := by
  cases s with
  | nil => rfl
  | cons c s =>
    have hc := h c (by simp)
    have hne : c ≠ '-' := by
      rintro rfl
      simp at hc
    unfold bigInt
    split
    · rename_i heq
      cases heq
      exact absurd rfl hne
    · rfl

theorem plusAmount_zero (amount : Option Nat) : plusAmount 0 amount = (amount.getD 0 : Nat) := by
  cases amount with
  | none => rfl
  | some n =>
    have hdigits : ∀ c ∈ ['0'] ++ Nat.toDigits 10 n, c.isDigit = true := by
      intro c hc
      rcases List.mem_append.mp hc with hc | hc
      · rw [List.mem_singleton.mp hc]
        rfl
      · exact Decimal.toDigits_isDigit hc
    show bigInt (['0'] ++ Nat.toDigits 10 n) = _
    have hzero : Decimal.readNat ['0'] = 0 := by decide
    rw [bigInt_digits hdigits, Decimal.readNat_append, Decimal.readNat_toDigits, hzero,
      Nat.zero_mul, Nat.zero_add]
    rfl

theorem updated_adds {hash : Meta} {u : Update}
    (h : u.nairaAmountBase = none ∨ koboOf networks hash.totalValue = 0) :
    koboOf networks (updated networks hash u).totalValue =
        koboOf networks hash.totalValue + u.kobo ∧
      (updated networks hash u).totalVolume.getD 0 = hash.totalVolume.getD 0 + 1 := by
  refine ⟨?_, rfl⟩
  show koboOf networks (nairaText networks _) = _
  rw [koboOf_nairaText]
  rcases h with hnone | hzero
  · rw [hnone]
    simp [plusAmount, Update.kobo, hnone]
  · rw [hzero, plusAmount_zero, zero_add]
    rfl

theorem tallied_start {before : Meta} {s : System Stats Task} (h : Tallied networks before s)
    (u : Update) : Tallied networks before (statsStep networks (.start u) s) := by
  have hcount {p : Task → Bool} (hp : p (.acquiring u) = false) :
      (statsStep networks (.start u) s).running.countP p = s.running.countP p := by
    refine Handlers.countP_start fun t ht => ?_
    cases ht
    exact hp
  have hload : (statsStep networks (.start u) s).load Task.writtenKobo =
      s.load Task.writtenKobo + 0 := Handlers.load_start (h := statsWorker networks) _ s u
  constructor
  · rw [hcount rfl]
    exact h.one
  · intro hfree
    rw [hcount rfl]
    exact h.free hfree
  · rw [hload, add_zero]
    exact h.value
  · rw [hcount rfl]
    exact h.volume
  · intro v lockId hash hmem
    rcases List.mem_append.mp hmem with hmem | hmem
    · exact h.pending v lockId hash hmem
    · cases hmem with
      | tail _ hmem => cases hmem

theorem Tallied.no_other_writing {before : Meta} {s : System Stats Task}
    (h : Tallied networks before s) {n : Nat} {t : Task} (ht : s.running[n]? = some t)
    (hholds : t.holds = true) {u : Update} {lockId : Nat} {hash : Meta} :
    .writing u lockId hash ∉ s.running.eraseIdx n := by
  intro hmem
  have hnone := Handlers.others_of_countP (p := Task.holds) ht hholds h.one _ hmem
  cases hnone

theorem holds_pos {s : System Stats Task} {n : Nat} {t : Task} (ht : s.running[n]? = some t)
    (hholds : t.holds = true) : 0 < s.running.countP Task.holds :=
  List.countP_pos_iff.mpr ⟨t, List.mem_of_getElem? ht, hholds⟩

theorem Tallied.of_task {before : Meta} {s : System Stats Task} (h : Tallied networks before s)
    {n : Nat} {o : Unit} {t : Task} (ht : s.running[n]? = some t) {y : Stats}
    {next : Option Task} (hnext : resume networks s.state t = (y, next))
    (hone : s.running.countP Task.holds + (next.any Task.holds).toNat ≤ 1 + t.holds.toNat)
    (hfree : y.lock = none →
      s.running.countP Task.holds + (next.any Task.holds).toNat = t.holds.toNat)
    (hvalue : koboOf networks y.hash.totalValue + t.writtenKobo =
      koboOf networks before.totalValue + (y.finished.map Update.kobo).sum +
        (s.load Task.writtenKobo + next.elim 0 Task.writtenKobo))
    (hvolume : y.hash.totalVolume.getD 0 + t.written.toNat =
      before.totalVolume.getD 0 + y.finished.length +
        (s.running.countP Task.written + (next.any Task.written).toNat))
    (hwrites : y.hash = s.state.hash ∨ t.holds = true)
    (hpending : ∀ u lockId hash, next = some (.writing u lockId hash) →
      koboOf networks hash.totalValue = koboOf networks y.hash.totalValue + u.kobo ∧
        hash.totalVolume.getD 0 = y.hash.totalVolume.getD 0 + 1) :
    Tallied networks before (statsStep networks (.resume n o) s) := by
  have hholds := Handlers.countP_resume (h := statsWorker networks) Task.holds ht o
  have hwritten := Handlers.countP_resume (h := statsWorker networks) Task.written ht o
  have hload := Handlers.load_resume (h := statsWorker networks) Task.writtenKobo ht o
  have hstate := congrArg System.state (Handlers.step_resume (h := statsWorker networks) ht o)
  have hrunning := congrArg System.running
    (Handlers.step_resume (h := statsWorker networks) ht o)
  simp only [statsWorker, hnext] at hholds hwritten hload hstate hrunning
  change Tallied networks before ((statsWorker networks).step (.resume n o) s)
  simp only [statsWorker]
  constructor
  · omega
  · intro hlock
    rw [hstate] at hlock
    have hall := hfree hlock
    omega
  · rw [hstate]
    omega
  · rw [hstate]
    omega
  · intro u lockId hash hmem
    rw [hstate]
    rw [hrunning] at hmem
    rcases List.mem_append.mp hmem with hmem | hmem
    · rcases hwrites with hsame | hlocked
      · rw [hsame]
        exact h.pending u lockId hash (List.mem_of_mem_eraseIdx hmem)
      · exact absurd hmem (h.no_other_writing ht hlocked)
    · exact hpending u lockId hash (Option.mem_toList.mp hmem)

theorem tallied_resume {before : Meta} {s : System Stats Task} (h : Tallied networks before s)
    {n : Nat} {o : Unit} (hclear : Clear networks s (.resume n o)) :
    Tallied networks before (statsStep networks (.resume n o) s) := by
  cases ht : s.running[n]? with
  | none =>
    have hsame : statsStep networks (.resume n o) s = s := Handlers.step_resume_none ht o
    rw [hsame]
    exact h
  | some t =>
    have hmay := hclear t ht
    have hone := h.one
    have hvalue := h.value
    have hvolume := h.volume
    cases t with
    | acquiring u =>
      have hlock : s.state.lock = none := hmay
      have hfree := h.free hlock
      refine h.of_task ht (by rw [resume, if_pos hlock]) ?_ ?_ ?_ ?_ ?_ ?_
      · simp only [Option.any_some, Task.holds, Bool.toNat_true, Bool.toNat_false]
        omega
      · intro hnone
        cases hnone
      · simpa [Task.writtenKobo] using hvalue
      · simpa [Task.written] using hvolume
      · exact .inl rfl
      · intro v lockId' hash' hnext
        cases hnext
    | reading u lockId =>
      have hpos := holds_pos ht rfl
      refine h.of_task ht rfl ?_ ?_ ?_ ?_ (.inr rfl) ?_
      · simpa [Task.holds] using hone
      · intro hnone
        have hfree := h.free hnone
        omega
      · simpa [Task.writtenKobo] using hvalue
      · simpa [Task.written] using hvolume
      · intro v lockId' hash' hnext
        cases hnext
        exact updated_adds hmay
    | writing u lockId hash =>
      have hpos := holds_pos ht rfl
      obtain ⟨hkobo, hcount⟩ := h.pending u lockId hash (List.mem_of_getElem? ht)
      refine h.of_task ht rfl ?_ ?_ ?_ ?_ (.inr rfl) ?_
      · simpa [Task.holds] using hone
      · intro hnone
        have hfree := h.free hnone
        omega
      · simp only [Task.writtenKobo, Option.elim_some]
        omega
      · simp only [Task.written, Option.any_some, Bool.toNat_true, Bool.toNat_false]
        omega
      · intro v lockId' hash' hnext
        cases hnext
    | checking u lockId =>
      have hpos := holds_pos ht rfl
      by_cases hlock : s.state.lock = some lockId
      · refine h.of_task ht (by rw [resume, if_pos hlock]) ?_ ?_ ?_ ?_ (.inr rfl) ?_
        · simpa [Task.holds] using hone
        · intro hnone
          have hfree := h.free hnone
          omega
        · simp only [Task.writtenKobo, Option.elim_some]
          omega
        · simp only [Task.written, Option.any_some, Bool.toNat_true]
          omega
        · intro v lockId' hash' hnext
          cases hnext
      · refine h.of_task ht (by rw [resume, if_neg hlock]) ?_ ?_ ?_ ?_ (.inr rfl) ?_
        · simp only [Option.any_none, Bool.toNat_false]
          omega
        · intro hnone
          have hfree := h.free hnone
          omega
        · simp only [Stats.finish, Task.writtenKobo, List.map_cons, List.sum_cons,
            Option.elim_none]
          omega
        · simp only [Stats.finish, Task.written, List.length_cons, Option.any_none,
            Bool.toNat_true, Bool.toNat_false]
          omega
        · intro v lockId' hash' hnext
          cases hnext
    | deleting u lockId =>
      have hpos := holds_pos ht rfl
      refine h.of_task ht rfl ?_ ?_ ?_ ?_ (.inr rfl) ?_
      · simp only [Option.any_none, Bool.toNat_false]
        omega
      · intro _
        simp only [Task.holds, Option.any_none, Bool.toNat_true, Bool.toNat_false]
        omega
      · simp only [Stats.finish, Task.writtenKobo, List.map_cons, List.sum_cons,
          Option.elim_none]
        omega
      · simp only [Stats.finish, Task.written, List.length_cons, Option.any_none,
          Bool.toNat_true, Bool.toNat_false]
        omega
      · intro v lockId' hash' hnext
        cases hnext

theorem tallied_step {before : Meta} {s : System Stats Task} (h : Tallied networks before s)
    (e : Event Update Unit Unit) (hclear : Clear networks s e) :
    Tallied networks before (statsStep networks e s) := by
  cases e with
  | start u => exact tallied_start h u
  | resume n o => exact tallied_resume h hclear
  | outside x =>
    refine ⟨h.one, fun _ => ?_, h.value, h.volume, h.pending⟩
    exact List.countP_eq_zero.mpr fun t ht => by simp [hclear t ht]

end Jobs

/-- The cached totals, with the lock free and no job under way. -/
def idle (before : Meta) : System Stats Task := ⟨⟨before, none, 0, []⟩, []⟩

/-- However the jobs of a queue of updates overlap: as long as each finds the lock free and appends
its amount to a total of zero, and keeps the lock while it holds it, the totals are right once all
have run. -/
theorem updates_applied (networks : DefaultNetworkCache) (before : Meta)
    (events : List (Event Update Unit Unit))
    (h : Run.Along (statsStep networks) (Clear networks) (idle before) events) :
    Run.Throughout (statsStep networks) (AllApplied networks before) (idle before) events := by
  have hidle : Tallied networks before (idle before) := by
    constructor
    · simp [idle]
    · simp [idle]
    · simp [idle, System.load]
    · simp [idle]
    · intro u lockId hash hmem
      cases hmem
  exact (Run.throughout_of_along (P := Tallied networks before)
    (fun _ e hs hc => tallied_step hs e hc) hidle h).mono fun _ hs => hs.allApplied

/-- A total of zero and no transactions yet. -/
def emptyMeta : Meta where
  totalValue := some "0.00".toList
  dailyValue := some "0.00".toList
  totalVolume := some 0
  dailyVolume := some 0

theorem first_update_applied :
    Run.Throughout (statsStep fun _ => none) (AllApplied (fun _ => none) emptyMeta) (idle emptyMeta)
      [.start ⟨some 2500, true⟩, .resume 0 (), .resume 0 (), .resume 0 (), .resume 0 (),
        .resume 0 ()] := by
  refine updates_applied _ _ _ ⟨trivial, ?_, ?_, ?_, ?_, ?_, trivial⟩
  all_goals
    unfold Clear
    decide +kernel

/-- The second of two updates of 25 naira appends its amount to the total: 2500 and "2500" make
25002500. -/
theorem second_update_appended :
    ¬ Run.Throughout (statsStep fun _ => none) (AllApplied (fun _ => none) emptyMeta)
      (idle emptyMeta)
      [.start ⟨some 2500, true⟩, .resume 0 (), .resume 0 (), .resume 0 (), .resume 0 (),
        .resume 0 (), .start ⟨some 2500, true⟩, .resume 0 (), .resume 0 (), .resume 0 (),
        .resume 0 (), .resume 0 ()] := by
  intro h
  have hvalue := (h.last (by decide +kernel)).1
  exact absurd hvalue (by decide +kernel)

end DashboardStats

end ExchangeLedger
