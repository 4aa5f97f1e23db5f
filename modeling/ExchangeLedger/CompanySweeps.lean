import ExchangeLedger.Concurrent
import ExchangeLedger.WithdrawalDeliveries

set_option autoImplicit false

/-! One sweep of a sub-account: its withdraw webhooks, handled by the workers of the queue and by
runs of the retry scheduler, each taking one step at a time. -/

namespace ExchangeLedger

open Block Concurrent

namespace CompanySweep

open WithdrawalWebhook (Confirmed confirmedAmount)

/-- A row of the table of company withdrawals. -/
structure CompanyWithdrawal where
  currency : Currency
  amountBase : Int
  fee : Option Text
  status : WithdrawalStatus
  deriving DecidableEq, Repr

abbrev WebhookId := Nat

structure Webhook where
  eventType : WithdrawalWebhook.Event
  isProcessed : Bool
  deriving DecidableEq, Repr

structure Sweep where
  ledger : Ledger
  withdrawal : Option CompanyWithdrawal
  webhooks : Table WebhookId Webhook
  /-- What has been added to the company's liquidity for this sweep. -/
  added : List Int

/-- `terminalStatuses`. -/
def isTerminal (status : WithdrawalStatus) : Bool := status = .SUCCESS ∨ status = .FAILED

/-- A call of `process`, by a worker or by the retry scheduler. -/
structure Job where
  webhook : WebhookId
  event : WithdrawalWebhook.Event
  retry : Bool
  deriving DecidableEq, Repr

inductive Task where
  | asking (webhook : WebhookId) (event : WithdrawalWebhook.Event)
  | processing (j : Job)
  | confirming (j : Job) (found : CompanyWithdrawal)
  | settling (j : Job) (found : CompanyWithdrawal) (confirmed : Confirmed) (amountBase : Int)
  | syncing (j : Job)
  | failing (j : Job)
  | marking (webhook : WebhookId)
  deriving DecidableEq, Repr

/-- How the next call of a task ends. -/
inductive Outcome where
  | ok
  /-- A transient fault of the database. -/
  | throws
  | lasting
  /-- The call takes effect, and yet throws a transient fault. -/
  | lost
  | dies
  | confirmed (c : Confirmed)
  deriving DecidableEq, Repr

inductive Start where
  | job (webhook : WebhookId)
  | retry (webhook : WebhookId)
  deriving DecidableEq, Repr

inductive Outside where
  /-- The deposit's handler records the sweep: as failed, where the provider did not take it. -/
  | create (currency : Currency) (amountBase : Int) (taken : Bool)
  | deliver (webhook : WebhookId) (event : WithdrawalWebhook.Event)
  /-- Whatever else moves funds of the company or its users. -/
  | others (L : Ledger)

/-- The block of a company withdrawal. -/
def settleBlock (event : WithdrawalWebhook.Event) (found : CompanyWithdrawal)
    (confirmed : Confirmed) (amountBase : Int) : Block Sweep Failure Unit := do
  onlyIf (event = .successful) (do
    within Sweep.ledger (fun L s => { s with ledger := L }) (addLiquidity found.currency amountBase)
    update (fun s => { s with added := amountBase :: s.added }))
  let row ← read Sweep.withdrawal
  let withdrawal ← demand row (.thrown "Record to update not found")
  update (fun s => { s with withdrawal := some { withdrawal with
    status := if event = .successful then .SUCCESS else .FAILED
    amountBase := amountBase
    fee := confirmed.fee.or withdrawal.fee } })

/-- The update of the catch. -/
def fail (s : Sweep) : Sweep :=
  { s with withdrawal := s.withdrawal.map (fun w => { w with status := .FAILED }) }

/-- `process` has returned: both callers mark the webhook. -/
def Job.returned (j : Job) : Option Task := some (.marking j.webhook)

/-- `process` has thrown: the scheduler marks the webhook all the same. -/
def Job.thrown (j : Job) : Option Task := if j.retry then some (.marking j.webhook) else none

/-- The scheduler goes through the webhooks that are unprocessed, and skips those of no sweep. -/
def start : Start → Sweep → Option Task
  | .job webhook, s =>
    (s.webhooks.lookup webhook).map (fun w => .processing ⟨webhook, w.eventType, false⟩)
  | .retry webhook, s =>
    ((s.webhooks.lookup webhook).filter (fun w => w.isProcessed = false ∧ s.withdrawal.isSome)).map
      (fun w => .asking webhook w.eventType)

def resumeAsking (webhook : WebhookId) (event : WithdrawalWebhook.Event) : Outcome → Option Task
  | .confirmed c => some (if c.done then .processing ⟨webhook, event, true⟩ else .marking webhook)
  | .dies => none
  | _ => some (.marking webhook)

def resumeProcessing (j : Job) (o : Outcome) (s : Sweep) : Option Task :=
  match o with
  | .ok =>
    match s.withdrawal with
    | none => j.returned
    | some found => if isTerminal found.status then j.returned else some (.confirming j found)
  | .dies => none
  | _ => j.thrown

def resumeConfirming (cache : ConvertCurrency.DefaultNetworkCache) (j : Job)
    (found : CompanyWithdrawal) : Outcome → Option Task
  | .confirmed c =>
    if c.done = false then j.returned
    else match confirmedAmount cache c found.currency with
      | .ok amountBase => some (.settling j found c amountBase)
      | .error _ => j.thrown
  | .dies => none
  | _ => j.returned

def resumeSettling (j : Job) (found : CompanyWithdrawal) (confirmed : Confirmed) (amountBase : Int)
    (o : Outcome) (s : Sweep) : Sweep × Option Task :=
  match o with
  | .ok =>
    match settleBlock j.event found confirmed amountBase s with
    | .ok (_, S) => (S, if j.event = .successful then some (.syncing j) else j.returned)
    | .error _ => (s, some (.failing j))
  | .lost => ((settleBlock j.event found confirmed amountBase).commit s, j.thrown)
  | .lasting => (s, some (.failing j))
  | .dies => (s, none)
  | _ => (s, j.thrown)

/-- `syncCompanyLiquidityCache` stands in the same `try` as the block. -/
def resumeSyncing (j : Job) : Outcome → Option Task
  | .ok => j.returned
  | .lasting => some (.failing j)
  | .dies => none
  | _ => j.thrown

def resume (cache : ConvertCurrency.DefaultNetworkCache) (t : Task) (o : Outcome) (s : Sweep) :
    Sweep × Option Task :=
  match t with
  | .asking webhook event => (s, resumeAsking webhook event o)
  | .processing j => (s, resumeProcessing j o s)
  | .confirming j found => (s, resumeConfirming cache j found o)
  | .settling j found confirmed amountBase => resumeSettling j found confirmed amountBase o s
  | .syncing j => (s, resumeSyncing j o)
  | .failing j =>
    (if o = .ok ∨ o = .lost then fail s else s, if o = .dies then none else j.returned)
  | .marking webhook =>
    (if o = .ok ∨ o = .lost then { s with
      webhooks := s.webhooks.modify webhook (fun w => { w with isProcessed := true }) }
    else s, none)

def outside : Outside → Sweep → Sweep
  | .create currency amountBase taken, s =>
    if s.withdrawal.isSome then s
    else { s with
      withdrawal := some {
        currency := currency
        amountBase := amountBase
        fee := none
        status := if taken then .PENDING else .FAILED } }
  | .deliver webhook event, s =>
    if (s.webhooks.lookup webhook).isSome then s
    else { s with webhooks := s.webhooks.insert webhook ⟨event, false⟩ }
  | .others L, s => { s with ledger := L }

def handlers (cache : ConvertCurrency.DefaultNetworkCache) :
    Handlers Sweep Task Start Outcome Outside where
  start := start
  resume := resume cache
  outside := outside

abbrev Sweeps := System Sweep Task

abbrev Step := Event Start Outcome Outside

/-- The sweep has not been recorded yet. -/
def begun (L : Ledger) : Sweeps := ⟨⟨L, none, ∅, []⟩, []⟩

/-- The swept amount is added at most once, and it is when the sweep is a success. -/
structure AddedOnce (s : Sweeps) : Prop where
  once : s.state.added.length ≤ 1
  success : ∀ w, s.state.withdrawal = some w → w.status = .SUCCESS → s.state.added.length = 1

/-- The block of a successful withdrawal runs on a row that is still open, as it was read. -/
def Orderly (s : Sweeps) : Step → Prop
  | .resume n o => o = .ok ∨ o = .lost → ∀ j found confirmed amountBase,
      s.running[n]? = some (.settling j found confirmed amountBase) → j.event = .successful →
        ∀ w, s.state.withdrawal = some w → isTerminal w.status = false
  | .start _ | .outside _ => True

/-! ### One step -/

section Steps

variable {cache : ConvertCurrency.DefaultNetworkCache} {s S : Sweep}

theorem settleBlock_commits {event : WithdrawalWebhook.Event} {found : CompanyWithdrawal}
    {confirmed : Confirmed} {amountBase : Int} {u : Unit} :
    (settleBlock event found confirmed amountBase).Commits s u S ↔
      ∃ w, s.withdrawal = some w ∧
        S = { s with
          ledger := if event = .successful then
            (addLiquidity found.currency amountBase).commit s.ledger else s.ledger
          added := if event = .successful then amountBase :: s.added else s.added
          withdrawal := some { w with
            status := if event = .successful then .SUCCESS else .FAILED
            amountBase := amountBase
            fee := confirmed.fee.or w.fee } } := by
  have hadd (L : Ledger) : (addLiquidity found.currency amountBase).Commits L ()
      ((addLiquidity found.currency amountBase).commit L) := rfl
  cases event with
  | successful =>
    simp only [settleBlock, onlyIf, if_true, commits_bind, commits_within, commits_update,
      commits_read, commits_demand]
    constructor
    · rintro ⟨_, _, ⟨_, _, ⟨M, hM, rfl⟩, rfl⟩, _, _, ⟨rfl, rfl⟩, w, _, ⟨hw, rfl⟩, rfl⟩
      exact ⟨w, hw, by rw [commit_of_commits hM]⟩
    · rintro ⟨w, hw, rfl⟩
      exact ⟨(), _, ⟨(), _, ⟨_, hadd _, rfl⟩, rfl⟩, _, _, ⟨rfl, rfl⟩, w, _, ⟨hw, rfl⟩, rfl⟩
  | rejected =>
    simp [settleBlock, onlyIf, eq_comm]

/-- Nothing is added to an open row, and what is a success has been added. -/
structure Sound (s : Sweep) : Prop where
  once : s.added.length ≤ 1
  closed : s.added ≠ [] → ∃ w, s.withdrawal = some w ∧ isTerminal w.status = true
  success : ∀ w, s.withdrawal = some w → w.status = .SUCCESS → s.added ≠ []

theorem Sound.addedOnce {ts : List Task} (hs : Sound s) : AddedOnce ⟨s, ts⟩ := by
  refine ⟨hs.once, fun w hw hstatus => ?_⟩
  have hpos := List.length_pos_of_ne_nil (hs.success w hw hstatus)
  have hle := hs.once
  simp only
  omega

theorem Sound.settled {event : WithdrawalWebhook.Event} {found : CompanyWithdrawal}
    {confirmed : Confirmed} {amountBase : Int} {u : Unit} (hs : Sound s)
    (hopen : event = .successful → ∀ w, s.withdrawal = some w → isTerminal w.status = false)
    (h : (settleBlock event found confirmed amountBase).Commits s u S) : Sound S := by
  obtain ⟨w, hw, rfl⟩ := settleBlock_commits.mp h
  cases event with
  | successful =>
    have hnone : s.added = [] := by
      by_contra hne
      obtain ⟨v, hv, hterminal⟩ := hs.closed hne
      rw [hopen rfl v hv] at hterminal
      cases hterminal
    simp only [if_true, hnone]
    exact ⟨by simp, fun _ => ⟨_, rfl, rfl⟩, fun _ _ _ => by simp⟩
  | rejected =>
    refine ⟨hs.once, fun _ => ⟨_, rfl, rfl⟩, fun v hv hstatus => ?_⟩
    cases hv
    cases hstatus

theorem Sound.fail (hs : Sound s) : Sound (fail s) := by
  refine ⟨hs.once, fun hne => ?_, fun w hw hstatus => ?_⟩
  · obtain ⟨w, hw, -⟩ := hs.closed hne
    exact ⟨{ w with status := .FAILED }, by simp [CompanySweep.fail, hw], rfl⟩
  · obtain ⟨v, -, rfl⟩ := Option.map_eq_some_iff.mp hw
    cases hstatus

theorem Sound.commit {event : WithdrawalWebhook.Event} {found : CompanyWithdrawal}
    {confirmed : Confirmed} {amountBase : Int} (hs : Sound s)
    (hopen : event = .successful → ∀ w, s.withdrawal = some w → isTerminal w.status = false) :
    Sound ((settleBlock event found confirmed amountBase).commit s) := by
  rcases (settleBlock event found confirmed amountBase).commit_cases s with h | ⟨a, h⟩
  · rw [h]
    exact hs
  · exact hs.settled hopen h

theorem Sound.resume {t : Task} {o : Outcome} (hs : Sound s)
    (hopen : o = .ok ∨ o = .lost → ∀ j found confirmed amountBase,
      t = .settling j found confirmed amountBase → j.event = .successful →
        ∀ w, s.withdrawal = some w → isTerminal w.status = false) :
    Sound (resume cache t o s).1 := by
  cases t with
  | asking webhook event => exact hs
  | processing j => exact hs
  | confirming j found => exact hs
  | settling j found confirmed amountBase =>
    cases o with
    | ok =>
      have hblock := hopen (.inl rfl) j found confirmed amountBase rfl
      simp only [CompanySweep.resume, resumeSettling]
      split
      · rename_i u S h
        exact hs.settled hblock h
      · exact hs
    | lost => exact hs.commit (hopen (.inr rfl) j found confirmed amountBase rfl)
    | throws => exact hs
    | lasting => exact hs
    | dies => exact hs
    | confirmed c => exact hs
  | syncing j => exact hs
  | failing j =>
    simp only [CompanySweep.resume]
    split
    · exact hs.fail
    · exact hs
  | marking webhook =>
    simp only [CompanySweep.resume]
    split
    · exact ⟨hs.once, hs.closed, hs.success⟩
    · exact hs

theorem Sound.outside {x : Outside} (hs : Sound s) : Sound (outside x s) := by
  cases x with
  | create currency amountBase taken =>
    simp only [CompanySweep.outside]
    split
    · exact hs
    · rename_i hnone
      have hrow : s.withdrawal = none := by simpa using hnone
      have hadded : s.added = [] := by
        by_contra hne
        obtain ⟨w, hw, -⟩ := hs.closed hne
        rw [hrow] at hw
        cases hw
      refine ⟨hs.once, fun hne => absurd hadded hne, fun w hw hstatus => ?_⟩
      cases hw
      cases taken with
      | true => cases hstatus
      | false => cases hstatus
  | deliver webhook event =>
    simp only [CompanySweep.outside]
    split
    · exact hs
    · exact ⟨hs.once, hs.closed, hs.success⟩
  | others L => exact ⟨hs.once, hs.closed, hs.success⟩

theorem Sound.step {s : Sweeps} {e : Step} (hs : Sound s.state) (he : Orderly s e) :
    Sound ((handlers cache).step e s).state := by
  cases e with
  | start i => exact hs
  | resume n o =>
    cases ht : s.running[n]? with
    | none =>
      rw [Handlers.step_resume_none ht]
      exact hs
    | some t =>
      rw [Handlers.step_resume ht]
      refine hs.resume fun ho j found confirmed amountBase hsettling => ?_
      subst hsettling
      exact he ho j found confirmed amountBase ht
  | outside x => exact hs.outside

end Steps

/-- In a run of workers and scheduler runs in which the block of a successful withdrawal only ever
runs on a row that is still open, the swept amount is added at most once, and it is whenever the
sweep is a success. -/
theorem swept_amount_added_once (cache : ConvertCurrency.DefaultNetworkCache) (L : Ledger)
    (steps : List Step) (h : Run.Along (handlers cache).step Orderly (begun L) steps) :
    Run.Throughout (handlers cache).step AddedOnce (begun L) steps := by
  have hbegun : Sound (begun L).state := ⟨Nat.zero_le 1, nofun, nofun⟩
  exact (Run.throughout_of_along (P := fun s : Sweeps => Sound s.state)
    (fun s e hs he => hs.step he) hbegun h).mono fun s hs => hs.addedOnce

/-- The sweep of five USDT is recorded, and its webhook delivered. -/
def recorded : List Step :=
  [.outside (.create .usdt 5000000 true), .outside (.deliver 1 .successful)]

/-- The provider has the sweep as done. -/
def doneAtProvider : Outcome := .confirmed { done := true, amount := ['5'], fee := none }

/-- The worker settles the sweep, the cache cannot be reached, and the scheduler comes later. -/
def oneAfterTheOther : List Step := recorded ++
  [.start (.job 1), .resume 0 .ok, .resume 0 doneAtProvider, .resume 0 .ok, .resume 0 .throws,
    .start (.retry 1), .resume 0 doneAtProvider, .resume 0 .ok]

theorem orderly_of_open {s : Sweeps} {n : Nat} {o : Outcome}
    (h : s.state.withdrawal.all (fun w => !isTerminal w.status) = true) :
    Orderly s (.resume n o) := by
  intro _ _ _ _ _ _ _ w hw
  rw [hw] at h
  simpa using h

theorem orderly_of_task {s : Sweeps} {n : Nat} {o : Outcome} (j : Job)
    (h : s.running[n]? = some (.processing j)) : Orderly s (.resume n o) := by
  intro _ _ _ _ _ hsettling
  rw [h] at hsettling
  cases hsettling

theorem orderly_of_outcome {s : Sweeps} {n : Nat} {o : Outcome} (h : ¬ (o = .ok ∨ o = .lost)) :
    Orderly s (.resume n o) := fun ho => absurd ho h

theorem oneAfterTheOther_added_once :
    Run.Throughout (handlers (fun _ => none)).step AddedOnce (begun Ledger.empty)
      oneAfterTheOther := by
  refine swept_amount_added_once (fun _ => none) Ledger.empty oneAfterTheOther
    ⟨trivial, trivial, trivial, ?_, ?_, ?_, ?_, trivial, ?_, ?_, trivial⟩
  · exact orderly_of_open (by decide +kernel)
  · exact orderly_of_open (by decide +kernel)
  · exact orderly_of_open (by decide +kernel)
  · exact orderly_of_outcome (by decide)
  · exact orderly_of_outcome (by decide)
  · exact orderly_of_task ⟨1, .successful, true⟩ (by decide +kernel)

/-- The worker and the scheduler both read the open row before either settles. -/
theorem swept_amount_added_twice :
    ¬ ∀ (cache : ConvertCurrency.DefaultNetworkCache) (L : Ledger) (steps : List Step),
      Run.Throughout (handlers cache).step AddedOnce (begun L) steps := by
  intro h
  have hrun := h (fun _ => none) Ledger.empty (recorded ++
    [.start (.job 1), .start (.retry 1), .resume 0 .ok, .resume 0 doneAtProvider, .resume 1 .ok,
      .resume 0 doneAtProvider, .resume 0 doneAtProvider, .resume 0 .ok, .resume 0 .ok])
  have honce := hrun.last.once
  revert honce
  decide +kernel

end CompanySweep

end ExchangeLedger
