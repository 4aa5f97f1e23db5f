import ExchangeLedger.Run
import ExchangeLedger.Table
import Mathlib.Data.List.Range

set_option autoImplicit false

/-! The gate of the scheduled jobs: a run of a job is let through where its last completed run was a
period before. The timer of a job ticks once in a period, and the queue runs a tick again whose run
threw. -/

namespace ExchangeLedger

namespace SchedulerCadence

inductive JobName where
  | dailyPercentage
  | dailyLimitReset
  | companyWithdrawalRetry
  | failedCompanyLiquidity
  | billPaymentRetry
  | vaultInterest
  deriving DecidableEq, Repr

/-- What each job adds to the time of its run, in milliseconds. Its timer has the same period. -/
def JobName.period : JobName → Nat
  | .dailyPercentage | .dailyLimitReset | .companyWithdrawalRetry => 24 * 60 * 60 * 1000
  | .failedCompanyLiquidity => 60 * 60 * 1000
  | .billPaymentRetry => 15 * 60 * 1000
  | .vaultInterest => 12 * 60 * 60 * 1000

structure SchedulerJobState where
  lastExecutedAt : Option Nat
  nextExecutionAt : Option Nat
  deriving DecidableEq, Repr

abbrev Store := Table JobName SchedulerJobState

def isDue (jobName : JobName) (now : Nat) (S : Store) : Bool :=
  match (S.lookup jobName).bind (·.nextExecutionAt) with
  | none => true
  | some nextExecutionAt => nextExecutionAt ≤ now

def markExecuted (jobName : JobName) (lastExecutedAt nextExecutionAt : Nat) (S : Store) : Store :=
  S.insert jobName ⟨some lastExecutedAt, some nextExecutionAt⟩

/-- How the work of a run ends: done, with an exception, or at a lock that another run holds. -/
inductive Outcome where
  | completed | throws | locked
  deriving DecidableEq, Repr

/-- A run: when it asks whether it is due, and when its work begins. -/
structure Attempt where
  jobName : JobName
  now : Nat
  started : Nat
  outcome : Outcome
  deriving DecidableEq, Repr

def execute (a : Attempt) (S : Store) : Store :=
  if isDue a.jobName a.now S ∧ a.outcome = .completed then
    markExecuted a.jobName a.started (a.started + a.jobName.period) S
  else S

/-- One run for a tick, by its moments after the slot of the tick, and the runs of other jobs that
come after it. -/
structure TickRun where
  delay : Nat
  /-- The moment that it takes as its own time. -/
  work : Nat
  outcome : Outcome
  others : List Attempt

/-- The ticks of a job's timer, each with its first run and with those that the queue adds after an
exception. A run ends before the job's next slot. -/
structure Ticks where
  jobName : JobName
  /-- The first slot of the timer. -/
  base : Nat
  first : Nat → TickRun
  reruns : Nat → List TickRun
  inPeriod : ∀ k, ∀ r ∈ first k :: reruns k,
    r.delay < jobName.period ∧ r.work < jobName.period
  ofOthers : ∀ k, ∀ r ∈ first k :: reruns k, ∀ a ∈ r.others, a.jobName ≠ jobName

def TickRun.attempt (jobName : JobName) (slot : Nat) (r : TickRun) : Attempt :=
  ⟨jobName, slot + r.delay, slot + r.work, r.outcome⟩

/-- What happens in the runs `rs` of one tick. -/
def attempts (jobName : JobName) (slot : Nat) (rs : List TickRun) : List Attempt :=
  rs.flatMap fun r => r.attempt jobName slot :: r.others

/-- The one of the runs `rs` that is let through and completes its work. -/
def completedIn (jobName : JobName) (slot : Nat) : List TickRun → Store → Option TickRun
  | [], _ => none
  | r :: rs, S =>
    if isDue jobName (slot + r.delay) S ∧ r.outcome = .completed then some r
    else completedIn jobName slot rs (Run.final execute S (attempts jobName slot [r]))

variable (t : Ticks)

def Ticks.slot (k : Nat) : Nat := t.base + k * t.jobName.period

def Ticks.runs (k : Nat) : List TickRun := t.first k :: t.reruns k

/-- What happens before the `k`-th tick. -/
def Ticks.upTo (k : Nat) : List Attempt :=
  (List.range k).flatMap fun i => attempts t.jobName (t.slot i) (t.runs i)

/-- The first run of the `k`-th tick is let through. -/
def Ticks.LetThrough (S : Store) (k : Nat) : Prop :=
  isDue t.jobName (t.slot k + (t.first k).delay) (Run.final execute S (t.upTo k)) = true

def Ticks.completed (S : Store) (k : Nat) : Option TickRun :=
  completedIn t.jobName (t.slot k) (t.runs k) (Run.final execute S (t.upTo k))

/-- The moment from which the job is due. -/
def dueFrom (jobName : JobName) (S : Store) : Nat :=
  ((S.lookup jobName).bind (·.nextExecutionAt)).getD 0

theorem isDue_iff {jobName : JobName} {now : Nat} {S : Store} :
    isDue jobName now S = true ↔ dueFrom jobName S ≤ now := by
  unfold isDue dueFrom
  cases (S.lookup jobName).bind (·.nextExecutionAt) with
  | none => simp
  | some next => simp

theorem dueFrom_execute (jobName : JobName) (a : Attempt) (S : Store) :
    dueFrom jobName (execute a S) =
      if a.jobName = jobName ∧ isDue a.jobName a.now S = true ∧ a.outcome = .completed then
        a.started + a.jobName.period
      else dueFrom jobName S := by
  unfold execute
  by_cases hrun : isDue a.jobName a.now S = true ∧ a.outcome = .completed
  · rw [if_pos hrun]
    by_cases hjob : a.jobName = jobName
    · subst hjob
      simp [hrun, dueFrom, markExecuted]
    · have hne : jobName ≠ a.jobName := fun h => hjob h.symm
      simp [hjob, dueFrom, markExecuted, AList.lookup_insert_ne hne]
  · rw [if_neg hrun, if_neg fun h => hrun h.2]

theorem dueFrom_others {jobName : JobName} {as : List Attempt} (h : ∀ a ∈ as, a.jobName ≠ jobName)
    (S : Store) : dueFrom jobName (Run.final execute S as) = dueFrom jobName S := by
  induction as generalizing S with
  | nil => rfl
  | cons a as ih =>
    simp only [List.mem_cons, forall_eq_or_imp] at h
    rw [Run.final, ih h.2, dueFrom_execute, if_neg fun hall => h.1 hall.1]

theorem attempts_cons (jobName : JobName) (slot : Nat) (r : TickRun) (rs : List TickRun) :
    attempts jobName slot (r :: rs) = attempts jobName slot [r] ++ attempts jobName slot rs := by
  simp [attempts]

theorem dueFrom_run {jobName : JobName} (slot : Nat) {r : TickRun}
    (hothers : ∀ a ∈ r.others, a.jobName ≠ jobName) (S : Store) :
    dueFrom jobName (Run.final execute S (attempts jobName slot [r])) =
      if isDue jobName (slot + r.delay) S ∧ r.outcome = .completed then
        slot + r.work + jobName.period
      else dueFrom jobName S := by
  simp only [attempts, List.flatMap_cons, List.flatMap_nil, List.append_nil, Run.final]
  rw [dueFrom_others hothers, dueFrom_execute]
  simp [TickRun.attempt]

theorem dueFrom_completed {jobName : JobName} {slot : Nat} {rs : List TickRun}
    (hdelay : ∀ r ∈ rs, r.delay < jobName.period)
    (hothers : ∀ r ∈ rs, ∀ a ∈ r.others, a.jobName ≠ jobName) {S : Store}
    (hS : slot + jobName.period ≤ dueFrom jobName S) :
    dueFrom jobName (Run.final execute S (attempts jobName slot rs)) = dueFrom jobName S := by
  induction rs generalizing S with
  | nil => rfl
  | cons r rs ih =>
    simp only [List.mem_cons, forall_eq_or_imp] at hdelay hothers
    have hrefused : ¬ isDue jobName (slot + r.delay) S = true := by
      rw [isDue_iff]
      have := hdelay.1
      omega
    have hsame : dueFrom jobName (Run.final execute S (attempts jobName slot [r])) =
        dueFrom jobName S := by
      rw [dueFrom_run slot hothers.1, if_neg fun h => hrefused h.1]
    rw [attempts_cons, Run.final_append, ih hdelay.2 hothers.2 (by rw [hsame]; exact hS), hsame]

theorem dueFrom_runs {jobName : JobName} {slot : Nat} {rs : List TickRun}
    (hdelay : ∀ r ∈ rs, r.delay < jobName.period)
    (hothers : ∀ r ∈ rs, ∀ a ∈ r.others, a.jobName ≠ jobName) (S : Store) :
    dueFrom jobName (Run.final execute S (attempts jobName slot rs)) =
      match completedIn jobName slot rs S with
      | some r => slot + r.work + jobName.period
      | none => dueFrom jobName S := by
  induction rs generalizing S with
  | nil => rfl
  | cons r rs ih =>
    simp only [List.mem_cons, forall_eq_or_imp] at hdelay hothers
    have hrun := dueFrom_run slot hothers.1 S
    rw [attempts_cons, Run.final_append, completedIn]
    by_cases hcompleted : isDue jobName (slot + r.delay) S = true ∧ r.outcome = .completed
    · rw [if_pos hcompleted] at hrun ⊢
      rw [dueFrom_completed hdelay.2 hothers.2 (by omega), hrun]
    · rw [if_neg hcompleted] at hrun ⊢
      rw [ih hdelay.2 hothers.2, hrun]

theorem completedIn_mem {jobName : JobName} {slot : Nat} {rs : List TickRun} {S : Store}
    {r : TickRun} (h : completedIn jobName slot rs S = some r) : r ∈ rs := by
  induction rs generalizing S with
  | nil => cases h
  | cons r' rs ih =>
    rw [completedIn] at h
    split at h
    · cases h
      exact List.mem_cons_self
    · exact List.mem_cons_of_mem _ (ih h)

variable {t}

theorem Ticks.slot_succ (k : Nat) : t.slot (k + 1) = t.slot k + t.jobName.period := by
  simp only [slot, Nat.succ_mul]
  omega

theorem Ticks.dueFrom_succ (S : Store) (k : Nat) :
    dueFrom t.jobName (Run.final execute S (t.upTo (k + 1))) =
      match t.completed S k with
      | some r => t.slot (k + 1) + r.work
      | none => dueFrom t.jobName (Run.final execute S (t.upTo k)) := by
  have hupTo : t.upTo (k + 1) = t.upTo k ++ attempts t.jobName (t.slot k) (t.runs k) := by
    simp [upTo, List.range_succ]
  have hdelay : ∀ r ∈ t.runs k, r.delay < t.jobName.period := fun r hr => (t.inPeriod k r hr).1
  have hothers : ∀ r ∈ t.runs k, ∀ a ∈ r.others, a.jobName ≠ t.jobName := t.ofOthers k
  rw [hupTo, Run.final_append, dueFrom_runs hdelay hothers, ← completed, slot_succ]
  cases t.completed S k with
  | some r => exact Nat.add_right_comm _ _ _
  | none => rfl

theorem Ticks.dueFrom_le {S : Store} (hS : S.lookup t.jobName = none) (k : Nat) :
    dueFrom t.jobName (Run.final execute S (t.upTo k)) ≤ t.slot (k + 1) := by
  induction k with
  | zero => simp [upTo, Run.final, dueFrom, hS]
  | succ k ih =>
    rw [dueFrom_succ, slot_succ (k + 1)]
    cases hr : t.completed S k with
    | some r => exact Nat.add_le_add_left (t.inPeriod k r (completedIn_mem hr)).2.le _
    | none => exact ih.trans (Nat.le_add_right _ _)

/-- The reset of the daily limits: the first tick's run throws, and its rerun, five seconds later,
completes. -/
def rerunTick : Ticks where
  jobName := .dailyLimitReset
  base := 0
  first k := ⟨20, 20, if k = 0 then .throws else .completed, []⟩
  reruns k := if k = 0 then [⟨5020, 5020, .completed, []⟩] else []
  inPeriod k r hr := by
    simp only [List.mem_cons] at hr
    split at hr
    · rcases hr with rfl | hr
      · exact ⟨by decide, by decide⟩
      · obtain rfl := List.mem_singleton.mp hr
        exact ⟨by decide, by decide⟩
    · rcases hr with rfl | hr
      · exact ⟨by decide, by decide⟩
      · cases hr
  ofOthers k r hr := by
    simp only [List.mem_cons] at hr
    split at hr
    · rcases hr with rfl | hr
      · exact nofun
      · obtain rfl := List.mem_singleton.mp hr
        exact nofun
    · rcases hr with rfl | hr
      · exact nofun
      · cases hr

end SchedulerCadence

end ExchangeLedger
