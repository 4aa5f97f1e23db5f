import ExchangeLedger.AutoStack
import ExchangeLedger.Concurrent

set_option autoImplicit false

/-! The charge jobs of one active stack: `AutoStackInterestScheduler.executeCharge` with the
`initiateAutoStack` that it forces, run by any number of workers. -/

namespace ExchangeLedger

namespace StackCharges

open AutoStackService Concurrent

inductive Funding where
  | card | usdtWallet | otherWallet
  deriving DecidableEq, Repr

inductive InitiationStatus where
  | PENDING | PROCESSING | SUBMITTED | COMPLETED | FAILED
  deriving DecidableEq, Repr

/-- The transaction of one execution, by what its metadata say. -/
structure ExecutionTransaction where
  autostackInitiationStatus : InitiationStatus
  autostackInitiatedAt : Nat
  /-- `liquidityReservationStatus` is RESERVED, for this execution's own amount. -/
  reserved : Bool
  deriving DecidableEq, Repr

/-- A wallet debit, a wallet reservation or a card charge that has not been given back. -/
structure Taking where
  /-- The execution time at which the worker found the stack due. -/
  foundDue : Nat
  /-- The execution time in the reference of the execution that it ran. -/
  scheduledFor : Nat
  deriving DecidableEq, Repr

structure Charging where
  now : Nat
  status : AutoStackStatus
  nextExecutionAt : Nat
  /-- The executions by their unique reference, `autostack-charge-<stack>-<nextExecutionAt>`. -/
  executions : Table Nat ExecutionTransaction
  /-- The metadata of the configuration, which executions copy, say RESERVED for their amount. -/
  configReserved : Bool
  taken : List Taking

inductive Phase where
  /-- The transaction that debits the wallet or reserves is next. -/
  | paying
  /-- The provider's calls are next: the swap, or the charge of the card. -/
  | calling
  | recording
  deriving DecidableEq, Repr

/-- A job that found the stack due, by what it does next. -/
inductive Task where
  | accruing (foundDue : Nat)
  | initiating (foundDue : Nat)
  | creating (foundDue scheduledFor now : Nat)
  | locking (foundDue scheduledFor now : Nat)
  | executing (foundDue scheduledFor now : Nat) (reserved : Bool) (phase : Phase)
  deriving DecidableEq, Repr

/-- How a transaction or a provider's call ends. -/
inductive Outcome where
  | ok
  /-- It throws, having done nothing. -/
  | throws
  /-- A provider's call takes effect and yet throws. -/
  | lost
  /-- The worker dies. -/
  | crash
  deriving DecidableEq, Repr

namespace ExecutionTransaction

/-- The check of `processingLock`. -/
def shouldProceed (x : ExecutionTransaction) (now : Nat) : Bool :=
  match x.autostackInitiationStatus with
  | .SUBMITTED | .COMPLETED => false
  | .PROCESSING => ¬ now - x.autostackInitiatedAt < 15 * 60
  | .PENDING | .FAILED => true

end ExecutionTransaction

def Charging.onExecution (s : Charging) (t : Nat)
    (f : ExecutionTransaction → ExecutionTransaction) : Charging :=
  { s with executions := s.executions.modify t f }

def Charging.takes (s : Charging) (t : Nat) : Nat :=
  s.taken.countP (fun x => x.scheduledFor = t)

/-- What an execution holds of the wallet is given back. -/
def Charging.giveBack (s : Charging) (t : Nat) : Charging :=
  { s with taken := s.taken.eraseP (fun x => x.scheduledFor = t) }

/-- A provider that charges no reference a second time, by the references it has charged. -/
def RefusesUsed (charges : List Nat → Nat → Bool) : Prop :=
  ∀ charged reference, reference ∈ charged → charges charged reference = false

section

-- whether Paystack charges a reference, by those it has charged
variable (charges : List Nat → Nat → Bool) (funding : Funding)

/-- The catch of `initiatePendingAutoStack`: only the reservation of a wallet is the user's. -/
def catchFailure (t : Nat) (s : Charging) : Charging :=
  (if funding = .otherWallet ∧ (s.executions.lookup t).any ExecutionTransaction.reserved = true then
      s.giveBack t
    else s).onExecution t
      (fun x => { x with autostackInitiationStatus := .FAILED, reserved := false })

def chargeCard (taking : Taking) (s : Charging) : Option Charging :=
  if charges (s.taken.map Taking.scheduledFor) taking.scheduledFor then
    some { s with taken := taking :: s.taken }
  else none

/-- The provider's call of an execution, if it takes effect. -/
def call (taking : Taking) (s : Charging) : Option Charging :=
  if funding = .card then chargeCard charges taking s else some s

/-- The first transaction of an execution. A card's reserves the company's NGN only. -/
def pay (getNextExecutionAt : Nat → Nat) (taking : Taking) (now : Nat) (reserved : Bool)
    (s : Charging) : Charging × Option Task :=
  match funding with
  | .usdtWallet => ({ s with
      status := .ACTIVE
      nextExecutionAt := getNextExecutionAt now
      executions := s.executions.modify taking.scheduledFor
        (fun _ => ⟨.COMPLETED, now, reserved⟩)
      taken := taking :: s.taken }, none)
  | .otherWallet => ({ s with
      executions := s.executions.modify taking.scheduledFor (fun _ => ⟨.PROCESSING, now, true⟩)
      taken := if reserved then s.taken else taking :: s.taken },
    some (.executing taking.foundDue taking.scheduledFor now reserved .calling))
  | .card =>
    (s.onExecution taking.scheduledFor (fun _ => ⟨.PROCESSING, now, true⟩),
      some (.executing taking.foundDue taking.scheduledFor now reserved .calling))

/-- The last transaction of an execution: a card's writes the metadata as it knew them. -/
def record (t now : Nat) (s : Charging) : Charging :=
  s.onExecution t (fun x => if funding = .card then ⟨.SUBMITTED, now, true⟩
    else { x with autostackInitiationStatus := .SUBMITTED })

/-- A charge job reads the stack. -/
def start : Unit → Charging → Option Task
  | (), s =>
    if s.status = .ACTIVE ∧ isExecutionDue s.nextExecutionAt s.now = true then
      some (.accruing s.nextExecutionAt)
    else none

/-- The job's next step. The accrual leaves the schedule alone; a job that dies, or throws before
it holds the processing lock, ends. An active stack is never PENDING again. -/
def resume (getNextExecutionAt : Nat → Nat) : Task → Outcome → Charging → Charging × Option Task
  | .accruing foundDue, .ok, s => (s, some (.initiating foundDue))
  | .initiating foundDue, .ok, s =>
    if s.status = .ACTIVE then (s, some (.creating foundDue s.nextExecutionAt s.now)) else (s, none)
  | .creating foundDue t now, .ok, s =>
    (if (s.executions.lookup t).isSome then s
      else { s with executions := s.executions.insert t ⟨.PENDING, 0, s.configReserved⟩ },
      some (.locking foundDue t now))
  | .locking foundDue t now, .ok, s =>
    match s.executions.lookup t with
    | some x =>
      if x.shouldProceed now then
        (s.onExecution t (fun x => { x with
          autostackInitiationStatus := .PROCESSING, autostackInitiatedAt := now }),
          some (.executing foundDue t now x.reserved .paying))
      else (s, none)
    | none => (s, none)
  | .executing foundDue t now reserved .paying, .ok, s =>
    pay funding getNextExecutionAt ⟨foundDue, t⟩ now reserved s
  | .executing foundDue t now reserved .calling, .ok, s =>
    match call charges funding ⟨foundDue, t⟩ s with
    | some s => (s, some (.executing foundDue t now reserved .recording))
    | none => (catchFailure funding t s, none)
  | .executing foundDue t _ _ .calling, .lost, s =>
    (catchFailure funding t ((call charges funding ⟨foundDue, t⟩ s).getD s), none)
  | .executing _ t now _ .recording, .ok, s => (record funding t now s, none)
  | .executing _ t _ _ _, .throws, s => (catchFailure funding t s, none)
  | _, _, s => (s, none)

inductive Happening where
  | clock (elapsed : Nat)
  /-- The owner unlocks the stack. -/
  | unlocked
  /-- The webhook of an execution settles it and advances the schedule. -/
  | settled (t nextExecutionAt : Nat)
  /-- The webhook reports the swap of an execution as failed or reversed. -/
  | swapFailed (t : Nat)
  /-- A webhook of a card payment writes back metadata that it read before. -/
  | rewritten (t : Nat) (x : ExecutionTransaction)
  | configured (reserved : Bool)
  deriving DecidableEq, Repr

/-- The swap of this execution was recorded and has not ended. -/
def Charging.submitted (s : Charging) (t : Nat) : Bool :=
  (s.executions.lookup t).any (fun x => x.autostackInitiationStatus = .SUBMITTED)

/-- A swap's webhooks find it once it is recorded; a USDT wallet has no webhook. -/
def outside : Happening → Charging → Charging
  | .clock elapsed, s => { s with now := s.now + elapsed }
  | .unlocked, s => { s with status := .ENDED }
  | .settled t nextExecutionAt, s =>
    if funding = .card ∨ (funding = .otherWallet ∧ s.submitted t = true) then { s with
      status := .ACTIVE
      nextExecutionAt := nextExecutionAt
      executions := s.executions.modify t
        (fun x => { x with autostackInitiationStatus := .COMPLETED, reserved := false }) }
    else s
  | .swapFailed t, s =>
    if funding = .otherWallet ∧ s.submitted t = true then
      (s.giveBack t).onExecution t
        (fun x => { x with autostackInitiationStatus := .FAILED, reserved := false })
    else s
  | .rewritten t x, s => if funding = .card then s.onExecution t (fun _ => x) else s
  | .configured reserved, s => { s with configReserved := reserved }

def handlers (getNextExecutionAt : Nat → Nat) :
    Handlers Charging Task Unit Outcome Happening where
  start := start
  resume := resume charges funding getNextExecutionAt
  outside := outside funding

abbrev Workers := System Charging Task

abbrev Step := Event Unit Outcome Happening

/-- The stack is active, none of its periodic executions has begun and no worker is at it. -/
def begun (now nextExecutionAt : Nat) (configReserved : Bool) : Workers :=
  ⟨⟨now, .ACTIVE, nextExecutionAt, ∅, configReserved, []⟩, []⟩

/-- Each execution time leads to at most one taking, by a worker that found the stack due then. -/
structure TakenOnce (s : Workers) : Prop where
  once : ∀ t, s.state.takes t ≤ 1
  due : ∀ x ∈ s.state.taken, x.foundDue = x.scheduledFor

/-- The worker is past the processing lock of the execution of this time. -/
def Task.executes (t : Nat) : Task → Bool
  | .executing _ scheduledFor _ _ _ => scheduledFor = t
  | _ => false

/-- A worker gets past the processing lock only with the execution of the time at which it found
the stack due and, for a wallet, takes a stale PROCESSING over only from a worker that is gone. -/
def Orderly (s : Workers) : Step → Prop
  | .resume n .ok => ∀ foundDue t now, s.running[n]? = some (.locking foundDue t now) →
      ∀ x, s.state.executions.lookup t = some x → x.shouldProceed now = true →
        foundDue = t ∧ (funding ≠ .card → x.autostackInitiationStatus = .PROCESSING →
          s.running.countP (Task.executes t) = 0)
  | _ => True

end

/-! ### What the executions have taken -/

section Takings

variable {funding : Funding} {s : Charging}

/-- What an execution's row says of what it may have taken. -/
def took (funding : Funding) (row : Option ExecutionTransaction) : Bool :=
  match funding with
  | .card => true
  | .usdtWallet => row.any (fun x => x.autostackInitiationStatus = .COMPLETED)
  | .otherWallet => row.any (fun x => x.reserved ∨ x.autostackInitiationStatus = .SUBMITTED ∨
      x.autostackInitiationStatus = .COMPLETED)

theorem countP_eraseP (t t' : Nat) (l : List Taking) :
    (l.eraseP (fun x => x.scheduledFor = t)).countP (fun x => x.scheduledFor = t') =
      l.countP (fun x => x.scheduledFor = t') - if t = t' then 1 else 0 := by
  induction l with
  | nil => simp
  | cons x l ih =>
    by_cases hx : x.scheduledFor = t
    · by_cases ht : t = t'
      · simp [hx, ht]
      · simp [hx, ht]
    · by_cases ht : t = t'
      · subst ht
        simp [hx, ih]
      · simp only [ht, if_false, Nat.sub_zero] at ih ⊢
        simp [hx, List.countP_cons, ih]

@[simp] theorem takes_giveBack (t t' : Nat) :
    (s.giveBack t).takes t' = s.takes t' - if t = t' then 1 else 0 := countP_eraseP _ _ _

@[simp] theorem takes_onExecution (t t' : Nat) (f : ExecutionTransaction → ExecutionTransaction) :
    (s.onExecution t f).takes t' = s.takes t' := rfl

@[simp] theorem lookup_onExecution (t t' : Nat)
    (f : ExecutionTransaction → ExecutionTransaction) :
    (s.onExecution t f).executions.lookup t' =
      if t' = t then (s.executions.lookup t').map f else s.executions.lookup t' :=
  Table.lookup_modify _ _ _ _

@[simp] theorem executions_giveBack (t : Nat) : (s.giveBack t).executions = s.executions := rfl

end Takings

/-! ### One worker at a time -/

section Exclusive

variable {charges : List Nat → Nat → Bool} {funding : Funding} {next : Nat → Nat} {s : Workers}

/-- What a worker past the lock may rely on. -/
def Task.Holds (funding : Funding) (s : Charging) : Task → Prop
  | .executing foundDue t _ reserved phase => foundDue = t ∧ (funding ≠ .card →
      ∃ x, s.executions.lookup t = some x ∧ x.autostackInitiationStatus = .PROCESSING ∧
        (phase = .paying → x.reserved = reserved))
  | _ => True

structure Exclusive (funding : Funding) (s : Workers) : Prop where
  once : ∀ t, s.state.takes t ≤ (took funding (s.state.executions.lookup t)).toNat
  due : ∀ x ∈ s.state.taken, x.foundDue = x.scheduledFor
  alone : funding ≠ .card → ∀ t, s.running.countP (Task.executes t) ≤ 1
  holds : ∀ u ∈ s.running, u.Holds funding s.state

theorem Exclusive.takenOnce (hs : Exclusive funding s) : TakenOnce s := by
  refine ⟨fun t => ?_, hs.due⟩
  have ht := hs.once t
  have hle := Bool.toNat_le (took funding (s.state.executions.lookup t))
  omega

theorem Task.Holds.congr {S S' : Charging} {u : Task} (hu : u.Holds funding S)
    (hrow : ∀ t, u.executes t = true → S'.executions.lookup t = S.executions.lookup t) :
    u.Holds funding S' := by
  cases u with
  | executing foundDue t now reserved phase =>
    refine ⟨hu.1, fun hf => ?_⟩
    obtain ⟨x, hx, hrest⟩ := hu.2 hf
    exact ⟨x, by rw [hrow t (by simp [Task.executes]), hx], hrest⟩
  | accruing foundDue | initiating foundDue | creating foundDue t now | locking foundDue t now =>
    trivial

theorem Exclusive.resumed {n t : Nat} {o : Outcome} {u : Task} {S : Charging} {v : Option Task}
    (hs : Exclusive funding s) (hn : s.running[n]? = some u)
    (hstep : resume charges funding next u o s.state = (S, v))
    (hother : ∀ t', t' ≠ t → S.executions.lookup t' = s.state.executions.lookup t' ∧
      S.takes t' = s.state.takes t')
    (hsole : funding ≠ .card → ∀ w ∈ s.running.eraseIdx n, w.executes t = false)
    (honce : S.takes t ≤ (took funding (S.executions.lookup t)).toNat)
    (hdue : ∀ x ∈ S.taken, x.foundDue = x.scheduledFor)
    (hnext : ∀ w, v = some w → w.Holds funding S ∧ ∀ t', t' ≠ t → w.executes t' = false) :
    Exclusive funding ((handlers charges funding next).step (.resume n o) s) := by
  have hresume : (handlers charges funding next).resume u o s.state = (S, v) := hstep
  rw [Handlers.step_resume hn, hresume]
  refine ⟨fun t' => ?_, hdue, fun hf t' => ?_, fun w hw => ?_⟩
  · by_cases ht : t' = t
    · subst ht
      exact honce
    · have hold := hs.once t'
      obtain ⟨hlookup, htakes⟩ := hother t' ht
      dsimp only
      rw [hlookup, htakes]
      exact hold
  · have hold := hs.alone hf t'
    have hcount := (Handlers.perm_running hn).countP_eq (Task.executes t')
    rw [List.countP_cons] at hcount
    rw [List.countP_append, Handlers.countP_toList]
    by_cases ht : t' = t
    · subst ht
      have hzero : (s.running.eraseIdx n).countP (Task.executes t') = 0 := by
        rw [List.countP_eq_zero]
        intro w hw
        simp [hsole hf w hw]
      have hle := Bool.toNat_le (v.any (Task.executes t'))
      dsimp only
      omega
    · have hnone : v.any (Task.executes t') = false := by
        cases v with
        | none => rfl
        | some w => exact (hnext w rfl).2 t' ht
      rw [hnone]
      simp only [Bool.toNat_false]
      omega
  · rcases List.mem_append.mp hw with hw | hw
    · have hold := hs.holds w (List.mem_of_mem_eraseIdx hw)
      by_cases hf : funding = .card
      · cases w with
        | executing foundDue t' now reserved phase => exact ⟨hold.1, fun h => absurd hf h⟩
        | accruing foundDue | initiating foundDue | creating foundDue t' now
        | locking foundDue t' now => trivial
      · refine hold.congr fun t' ht' => (hother t' ?_).1
        rintro rfl
        simp [hsole hf w hw] at ht'
    · exact (hnext w (Option.mem_toList.mp hw)).1

theorem Exclusive.idled {n : Nat} {o : Outcome} {u : Task} {v : Option Task}
    (hs : Exclusive funding s) (hn : s.running[n]? = some u)
    (hstep : resume charges funding next u o s.state = (s.state, v))
    (hnext : ∀ w, v = some w → ∀ t, w.executes t = false) :
    Exclusive funding ((handlers charges funding next).step (.resume n o) s) := by
  have hresume : (handlers charges funding next).resume u o s.state = (s.state, v) := hstep
  rw [Handlers.step_resume hn, hresume]
  refine ⟨hs.once, hs.due, fun hf t => ?_, fun w hw => ?_⟩
  · have hold := hs.alone hf t
    have hcount := (Handlers.perm_running hn).countP_eq (Task.executes t)
    rw [List.countP_cons] at hcount
    have hnone : v.any (Task.executes t) = false := by
      cases v with
      | none => rfl
      | some w => exact hnext w rfl t
    rw [List.countP_append, Handlers.countP_toList, hnone]
    simp only [Bool.toNat_false]
    omega
  · rcases List.mem_append.mp hw with hw | hw
    · exact hs.holds w (List.mem_of_mem_eraseIdx hw)
    · have hw' := hnext w (Option.mem_toList.mp hw)
      cases w with
      | executing foundDue t now reserved phase => simp [Task.executes] at hw'
      | accruing foundDue | initiating foundDue | creating foundDue t now
      | locking foundDue t now => trivial

/-! ### The steps of a worker -/

theorem Exclusive.sole {n foundDue t now : Nat} {reserved : Bool} {phase : Phase}
    (hs : Exclusive funding s)
    (hn : s.running[n]? = some (.executing foundDue t now reserved phase)) :
    funding ≠ .card → ∀ w ∈ s.running.eraseIdx n, w.executes t = false := fun hf =>
  Handlers.others_of_countP hn (by simp [Task.executes]) (hs.alone hf t)

theorem catchFailure_other (funding : Funding) (S : Charging) {t t' : Nat} (h : t' ≠ t) :
    (catchFailure funding t S).executions.lookup t' = S.executions.lookup t' ∧
      (catchFailure funding t S).takes t' = S.takes t' := by
  unfold catchFailure
  split
  · simp [h, h.symm]
  · simp [h]

theorem catchFailure_due {S : Charging} {t : Nat}
    (h : ∀ x ∈ S.taken, x.foundDue = x.scheduledFor) :
    ∀ x ∈ (catchFailure funding t S).taken, x.foundDue = x.scheduledFor := by
  unfold catchFailure
  split
  · exact fun x hx => h x (List.mem_of_mem_eraseP hx)
  · exact h

theorem catchFailure_once {S : Charging} {t : Nat}
    (honce : S.takes t ≤ (took funding (S.executions.lookup t)).toNat)
    (hrow : funding ≠ .card → ∃ x, S.executions.lookup t = some x ∧
      x.autostackInitiationStatus = .PROCESSING) :
    (catchFailure funding t S).takes t ≤
      (took funding ((catchFailure funding t S).executions.lookup t)).toNat := by
  cases funding with
  | card => simpa [catchFailure, took] using honce
  | usdtWallet =>
    obtain ⟨x, hx, hstatus⟩ := hrow (by decide)
    simpa [catchFailure, took, hx, hstatus] using honce
  | otherWallet =>
    obtain ⟨x, hx, hstatus⟩ := hrow (by decide)
    cases hreserved : x.reserved with
    | true =>
      simp only [took, hx, Option.any_some, hreserved, true_or, decide_true, Bool.toNat_true]
        at honce
      simp [catchFailure, took, hx, hreserved, honce]
    | false => simpa [catchFailure, took, hx, hstatus, hreserved] using honce

theorem Exclusive.catchFailure {n foundDue t now : Nat} {reserved : Bool} {phase : Phase}
    {o : Outcome} (hs : Exclusive funding s)
    (hn : s.running[n]? = some (.executing foundDue t now reserved phase))
    (hstep : resume charges funding next (.executing foundDue t now reserved phase) o s.state =
      (StackCharges.catchFailure funding t s.state, none)) :
    Exclusive funding ((handlers charges funding next).step (.resume n o) s) := by
  have hholds := hs.holds _ (List.mem_of_getElem? hn)
  refine hs.resumed hn hstep (fun t' ht => catchFailure_other funding s.state ht) (hs.sole hn) ?_
    (catchFailure_due hs.due) (fun w hw => nomatch hw)
  refine catchFailure_once (hs.once t) fun hf => ?_
  obtain ⟨x, hx, hstatus, -⟩ := hholds.2 hf
  exact ⟨x, hx, hstatus⟩

theorem Exclusive.pay {n foundDue t now : Nat} {reserved : Bool} (hs : Exclusive funding s)
    (hn : s.running[n]? = some (.executing foundDue t now reserved .paying)) :
    Exclusive funding ((handlers charges funding next).step (.resume n .ok) s) := by
  obtain ⟨hdue, hrow⟩ := hs.holds _ (List.mem_of_getElem? hn)
  have honce := hs.once t
  have hsole := hs.sole hn
  have htaken : ∀ x ∈ (⟨foundDue, t⟩ : Taking) :: s.state.taken, x.foundDue = x.scheduledFor := by
    intro x hx
    rcases List.mem_cons.mp hx with rfl | hx
    · exact hdue
    · exact hs.due x hx
  cases funding with
  | card =>
    refine hs.resumed hn rfl (fun t' ht => ?_) hsole ?_ hs.due ?_
    · simp [ht]
    · simpa [took] using honce
    · rintro w ⟨⟩
      exact ⟨⟨hdue, fun h => absurd rfl h⟩, fun t' ht => by simpa [Task.executes] using ht.symm⟩
  | usdtWallet =>
    obtain ⟨x, hx, hstatus, -⟩ := hrow (by decide)
    refine hs.resumed hn rfl (fun t' ht => ?_) hsole ?_ htaken (fun w hw => nomatch hw)
    · exact ⟨Table.lookup_modify_ne _ _ ht, by simp [Charging.takes, ht.symm]⟩
    · have hnone : s.state.takes t = 0 := by simpa [took, hx, hstatus] using honce
      simp only [Charging.takes] at hnone
      simp [Charging.takes, hnone, took, hx]
  | otherWallet =>
    obtain ⟨x, hx, hstatus, hcopy⟩ := hrow (by decide)
    have hreserved := hcopy rfl
    refine hs.resumed hn rfl (fun t' ht => ?_) hsole ?_ ?_ ?_
    · refine ⟨Table.lookup_modify_ne _ _ ht, ?_⟩
      cases reserved with
      | true => rfl
      | false => simp [Charging.takes, ht.symm]
    · cases reserved with
      | true =>
        have hle := Bool.toNat_le (took .otherWallet (s.state.executions.lookup t))
        simp only [Charging.takes] at honce
        simp only [Charging.takes, if_true, took, Table.lookup_modify_self, hx, Option.map_some,
          Option.any_some, true_or, decide_true, Bool.toNat_true]
        omega
      | false =>
        have hnone : s.state.takes t = 0 := by simpa [took, hx, hstatus, hreserved] using honce
        simp only [Charging.takes] at hnone
        simp [Charging.takes, hnone, took, hx]
    · cases reserved with
      | true => exact hs.due
      | false => exact htaken
    · rintro w ⟨⟩
      refine ⟨⟨hdue, fun _ => ⟨⟨.PROCESSING, now, true⟩, ?_, rfl, fun h => nomatch h⟩⟩, ?_⟩
      · exact (Table.lookup_modify_self _ _ _).trans (by rw [hx]; rfl)
      · exact fun t' ht => by simpa [Task.executes] using ht.symm

theorem call_takes {S S' : Charging} {foundDue t : Nat} (hcharges : RefusesUsed charges)
    (h : call charges funding ⟨foundDue, t⟩ S = some S') :
    S'.executions = S.executions ∧ (∀ t', t' ≠ t → S'.takes t' = S.takes t') ∧
      (S'.takes t ≤ S.takes t ∨ (funding = .card ∧ S'.takes t ≤ 1)) ∧
      ∀ x ∈ S'.taken, x ∈ S.taken ∨ x = ⟨foundDue, t⟩ := by
  unfold call at h
  split at h
  · rename_i hcard
    unfold chargeCard at h
    split at h
    · rename_i hcharged
      cases h
      have hzero : S.takes t = 0 := by
        rw [Charging.takes, List.countP_eq_zero]
        intro x hx hx'
        have hused : t ∈ S.taken.map Taking.scheduledFor :=
          List.mem_map.mpr ⟨x, hx, by simpa using hx'⟩
        rw [hcharges _ _ hused] at hcharged
        cases hcharged
      refine ⟨rfl, fun t' ht => ?_, .inr ⟨hcard, ?_⟩, fun x hx => ?_⟩
      · simp [Charging.takes, ht.symm]
      · simp only [Charging.takes] at hzero ⊢
        simp only [decide_true, List.countP_cons_of_pos]
        omega
      · exact (List.mem_cons.mp hx).symm
    · cases h
  · cases h
    exact ⟨rfl, fun _ _ => rfl, .inl le_rfl, fun x hx => .inl hx⟩

theorem Exclusive.called {n foundDue t now : Nat} {reserved : Bool} {S : Charging}
    (hs : Exclusive funding s) (hcharges : RefusesUsed charges)
    (hn : s.running[n]? = some (.executing foundDue t now reserved .calling))
    (h : call charges funding ⟨foundDue, t⟩ s.state = some S) :
    S.executions = s.state.executions ∧ (∀ t', t' ≠ t → S.takes t' = s.state.takes t') ∧
      S.takes t ≤ (took funding (S.executions.lookup t)).toNat ∧
      ∀ x ∈ S.taken, x.foundDue = x.scheduledFor := by
  obtain ⟨hexecutions, htakes, honce, htaken⟩ := call_takes hcharges h
  refine ⟨hexecutions, htakes, ?_, fun x hx => ?_⟩
  · rw [hexecutions]
    rcases honce with hle | ⟨rfl, hle⟩
    · exact hle.trans (hs.once t)
    · exact hle
  · rcases htaken x hx with hx | rfl
    · exact hs.due x hx
    · exact (hs.holds _ (List.mem_of_getElem? hn)).1

theorem Exclusive.call {n foundDue t now : Nat} {reserved : Bool} (hs : Exclusive funding s)
    (hcharges : RefusesUsed charges)
    (hn : s.running[n]? = some (.executing foundDue t now reserved .calling)) :
    Exclusive funding ((handlers charges funding next).step (.resume n .ok) s) := by
  cases hcall : StackCharges.call charges funding ⟨foundDue, t⟩ s.state with
  | none => exact hs.catchFailure hn (by simp only [resume, hcall])
  | some S =>
    obtain ⟨hexecutions, htakes, honce, htaken⟩ := hs.called hcharges hn hcall
    have hholds := hs.holds _ (List.mem_of_getElem? hn)
    have hstep : resume charges funding next (.executing foundDue t now reserved .calling) .ok
        s.state = (S, some (.executing foundDue t now reserved .recording)) := by
      simp only [resume, hcall]
    refine hs.resumed hn hstep (fun t' ht => ⟨by rw [hexecutions], htakes t' ht⟩) (hs.sole hn)
      honce htaken ?_
    rintro w ⟨⟩
    refine ⟨⟨hholds.1, fun hf => ?_⟩, fun t' ht => by simpa [Task.executes] using ht.symm⟩
    obtain ⟨x, hx, hstatus, -⟩ := hholds.2 hf
    exact ⟨x, by rw [hexecutions, hx], hstatus, fun h => nomatch h⟩

theorem Exclusive.lost {n foundDue t now : Nat} {reserved : Bool} (hs : Exclusive funding s)
    (hcharges : RefusesUsed charges)
    (hn : s.running[n]? = some (.executing foundDue t now reserved .calling)) :
    Exclusive funding ((handlers charges funding next).step (.resume n .lost) s) := by
  cases hcall : StackCharges.call charges funding ⟨foundDue, t⟩ s.state with
  | none => exact hs.catchFailure hn (by simp only [resume, hcall, Option.getD_none])
  | some S =>
    obtain ⟨hexecutions, htakes, honce, htaken⟩ := hs.called hcharges hn hcall
    have hholds := hs.holds _ (List.mem_of_getElem? hn)
    have hstep : resume charges funding next (.executing foundDue t now reserved .calling) .lost
        s.state = (StackCharges.catchFailure funding t S, none) := by
      simp only [resume, hcall, Option.getD_some]
    refine hs.resumed hn hstep (fun t' ht => ?_) (hs.sole hn) ?_ (catchFailure_due htaken)
      (fun w hw => nomatch hw)
    · obtain ⟨hlookup, hcount⟩ := catchFailure_other funding S ht
      exact ⟨by rw [hlookup, hexecutions], hcount.trans (htakes t' ht)⟩
    · refine catchFailure_once honce fun hf => ?_
      obtain ⟨x, hx, hstatus, -⟩ := hholds.2 hf
      exact ⟨x, by rw [hexecutions, hx], hstatus⟩

theorem Exclusive.record {n foundDue t now : Nat} {reserved : Bool} (hs : Exclusive funding s)
    (hn : s.running[n]? = some (.executing foundDue t now reserved .recording)) :
    Exclusive funding ((handlers charges funding next).step (.resume n .ok) s) := by
  have hholds := hs.holds _ (List.mem_of_getElem? hn)
  have honce := hs.once t
  refine hs.resumed hn rfl (fun t' ht => ?_) (hs.sole hn) ?_ hs.due (fun w hw => nomatch hw)
  · simp [StackCharges.record, ht]
  · cases funding with
    | card => simpa [StackCharges.record, took] using honce
    | usdtWallet =>
      obtain ⟨x, hx, hstatus, -⟩ := hholds.2 (by decide)
      simpa [StackCharges.record, took, hx, hstatus] using honce
    | otherWallet =>
      obtain ⟨x, hx, hstatus, -⟩ := hholds.2 (by decide)
      have hle := Bool.toNat_le (took .otherWallet (s.state.executions.lookup t))
      simp [StackCharges.record, took, hx]
      omega

theorem Exclusive.create {n foundDue t now : Nat} (hs : Exclusive funding s)
    (hn : s.running[n]? = some (.creating foundDue t now)) :
    Exclusive funding ((handlers charges funding next).step (.resume n .ok) s) := by
  cases hx : s.state.executions.lookup t with
  | some x =>
    have hstep : resume charges funding next (.creating foundDue t now) .ok s.state =
        (s.state, some (.locking foundDue t now)) := by simp [resume, hx]
    refine hs.idled hn hstep ?_
    rintro w ⟨⟩
    exact fun _ => rfl
  | none =>
    have hstep : resume charges funding next (.creating foundDue t now) .ok s.state =
        ({ s.state with executions :=
          s.state.executions.insert t ⟨.PENDING, 0, s.state.configReserved⟩ },
          some (.locking foundDue t now)) := by simp [resume, hx]
    refine hs.resumed hn hstep (fun t' ht => ⟨AList.lookup_insert_ne ht, rfl⟩) ?_ ?_ hs.due ?_
    -- no worker is past the lock of an execution that does not exist yet
    · intro hf w hw
      cases w with
      | executing foundDue' t' now' reserved phase =>
        obtain ⟨x, hx', -⟩ := (hs.holds _ (List.mem_of_mem_eraseIdx hw)).2 hf
        have hne : t' ≠ t := by
          rintro rfl
          rw [hx] at hx'
          cases hx'
        simpa [Task.executes] using hne
      | accruing foundDue' | initiating foundDue' | creating foundDue' t' now'
      | locking foundDue' t' now' => rfl
    · have honce := hs.once t
      rw [hx] at honce
      cases funding with
      | card => exact honce
      | usdtWallet | otherWallet =>
        have hzero : s.state.takes t = 0 := by simpa [took] using honce
        simp only [Charging.takes] at hzero ⊢
        omega
    · rintro w ⟨⟩
      exact ⟨trivial, fun _ _ => rfl⟩

theorem Exclusive.lock {n foundDue t now : Nat} (hs : Exclusive funding s)
    (hn : s.running[n]? = some (.locking foundDue t now))
    (he : Orderly funding s (.resume n .ok)) :
    Exclusive funding ((handlers charges funding next).step (.resume n .ok) s) := by
  cases hx : s.state.executions.lookup t with
  | none =>
    have hstep : resume charges funding next (.locking foundDue t now) .ok s.state =
        (s.state, none) := by
      simp only [resume, hx]
    exact hs.idled hn hstep fun w hw => nomatch hw
  | some x =>
    cases hproceed : x.shouldProceed now with
    | false =>
      have hstep : resume charges funding next (.locking foundDue t now) .ok s.state =
          (s.state, none) := by simp [resume, hx, hproceed]
      exact hs.idled hn hstep fun w hw => nomatch hw
    | true =>
      obtain ⟨rfl, hstale⟩ := he foundDue t now hn x hx hproceed
      have hstep : resume charges funding next (.locking foundDue foundDue now) .ok s.state =
          (s.state.onExecution foundDue (fun x => { x with
            autostackInitiationStatus := .PROCESSING, autostackInitiatedAt := now }),
            some (.executing foundDue foundDue now x.reserved .paying)) := by
        simp [resume, hx, hproceed]
      refine hs.resumed (t := foundDue) hn hstep (fun t' ht => by simp [ht]) ?_ ?_ hs.due ?_
      · intro hf w hw
        have hmem := List.mem_of_mem_eraseIdx hw
        by_cases hstatus : x.autostackInitiationStatus = .PROCESSING
        · simpa using List.countP_eq_zero.mp (hstale hf hstatus) w hmem
        · cases w with
          | executing foundDue' t' now' reserved phase =>
            obtain ⟨y, hy, hprocessing, -⟩ := (hs.holds _ hmem).2 hf
            have hne : t' ≠ foundDue := by
              rintro rfl
              rw [hx] at hy
              cases hy
              exact hstatus hprocessing
            simpa [Task.executes] using hne
          | accruing foundDue' | initiating foundDue' | creating foundDue' t' now'
          | locking foundDue' t' now' => rfl
      · have honce := hs.once foundDue
        rw [hx] at honce
        -- an execution that may proceed was neither submitted nor completed
        cases hstatus : x.autostackInitiationStatus with
        | SUBMITTED | COMPLETED =>
          simp [ExecutionTransaction.shouldProceed, hstatus] at hproceed
        | PENDING | PROCESSING | FAILED =>
          cases funding with
          | card => simpa [took] using honce
          | usdtWallet | otherWallet => simpa [took, hstatus, hx] using honce
      · rintro w ⟨⟩
        refine ⟨⟨rfl, fun _ => ⟨{ x with
          autostackInitiationStatus := .PROCESSING, autostackInitiatedAt := now }, ?_, rfl,
            fun _ => rfl⟩⟩, fun t' ht => ?_⟩
        · rw [lookup_onExecution, if_pos rfl, hx]
          rfl
        · simpa [Task.executes] using ht.symm

theorem Exclusive.resume {n : Nat} {o : Outcome} (hs : Exclusive funding s)
    (hcharges : RefusesUsed charges)
    (he : Orderly funding s (.resume n o)) :
    Exclusive funding ((handlers charges funding next).step (.resume n o) s) := by
  cases hn : s.running[n]? with
  | none =>
    rw [Handlers.step_resume_none hn]
    exact hs
  | some u =>
    cases o with
    | ok =>
      cases u with
      | accruing foundDue =>
        refine hs.idled hn rfl ?_
        rintro w ⟨⟩
        exact fun _ => rfl
      | initiating foundDue =>
        by_cases hactive : s.state.status = .ACTIVE
        · have hstep : StackCharges.resume charges funding next (.initiating foundDue) .ok s.state =
              (s.state, some (.creating foundDue s.state.nextExecutionAt s.state.now)) := by
            simp [StackCharges.resume, hactive]
          refine hs.idled hn hstep ?_
          rintro w ⟨⟩
          exact fun _ => rfl
        · have hstep : StackCharges.resume charges funding next (.initiating foundDue) .ok s.state =
              (s.state, none) := by simp [StackCharges.resume, hactive]
          exact hs.idled hn hstep fun w hw => nomatch hw
      | creating foundDue t now => exact hs.create hn
      | locking foundDue t now => exact hs.lock hn he
      | executing foundDue t now reserved phase =>
        cases phase with
        | paying => exact hs.pay hn
        | calling => exact hs.call hcharges hn
        | recording => exact hs.record hn
    | throws =>
      cases u with
      | executing foundDue t now reserved phase =>
        have hstep : StackCharges.resume charges funding next
            (.executing foundDue t now reserved phase) .throws s.state =
              (StackCharges.catchFailure funding t s.state, none) := by
          cases phase <;> rfl
        exact hs.catchFailure hn hstep
      | accruing foundDue | initiating foundDue | creating foundDue t now
      | locking foundDue t now => exact hs.idled hn rfl fun w hw => nomatch hw
    | lost =>
      cases u with
      | executing foundDue t now reserved phase =>
        cases phase with
        | calling => exact hs.lost hcharges hn
        | paying | recording => exact hs.idled hn rfl fun w hw => nomatch hw
      | accruing foundDue | initiating foundDue | creating foundDue t now
      | locking foundDue t now => exact hs.idled hn rfl fun w hw => nomatch hw
    | crash =>
      have hstep : StackCharges.resume charges funding next u .crash s.state = (s.state, none) := by
        cases u with
        | executing foundDue t now reserved phase => cases phase <;> rfl
        | accruing foundDue | initiating foundDue | creating foundDue t now
        | locking foundDue t now => rfl
      exact hs.idled hn hstep fun w hw => nomatch hw

/-! ### What else happens -/

theorem Exclusive.happened {t : Nat} {x : Happening} (hs : Exclusive funding s)
    (hother : ∀ t', t' ≠ t →
      (outside funding x s.state).executions.lookup t' = s.state.executions.lookup t' ∧
        (outside funding x s.state).takes t' = s.state.takes t')
    (hgone : funding ≠ .card → ∀ w ∈ s.running, w.executes t = false)
    (honce : (outside funding x s.state).takes t ≤
      (took funding ((outside funding x s.state).executions.lookup t)).toNat)
    (hdue : ∀ y ∈ (outside funding x s.state).taken, y ∈ s.state.taken) :
    Exclusive funding ((handlers charges funding next).step (.outside x) s) := by
  refine ⟨fun t' => ?_, fun y hy => hs.due y (hdue y hy), hs.alone, fun w hw => ?_⟩
  · by_cases ht : t' = t
    · subst ht
      exact honce
    · have hold := hs.once t'
      obtain ⟨hlookup, htakes⟩ := hother t' ht
      rw [← hlookup, ← htakes] at hold
      exact hold
  · by_cases hf : funding = .card
    · have hold := hs.holds w hw
      cases w with
      | executing foundDue t' now reserved phase => exact ⟨hold.1, fun h => absurd hf h⟩
      | accruing foundDue | initiating foundDue | creating foundDue t' now
      | locking foundDue t' now => trivial
    · refine (hs.holds w hw).congr fun t' ht' => (hother t' ?_).1
      rintro rfl
      simp [hgone hf w hw] at ht'

theorem submitted_row {S : Charging} {t : Nat} (h : S.submitted t = true) :
    ∃ x, S.executions.lookup t = some x := by
  unfold Charging.submitted at h
  cases hx : S.executions.lookup t with
  | none => simp [hx] at h
  | some x => exact ⟨x, rfl⟩

theorem Exclusive.not_executing {t : Nat} (hs : Exclusive funding s) (hf : funding ≠ .card)
    (ht : s.state.submitted t = true) : ∀ w ∈ s.running, w.executes t = false := by
  intro w hw
  cases w with
  | executing foundDue t' now reserved phase =>
    obtain ⟨x, hx, hstatus, -⟩ := (hs.holds _ hw).2 hf
    have hne : t' ≠ t := by
      rintro rfl
      simp [Charging.submitted, hx, hstatus] at ht
    simpa [Task.executes] using hne
  | accruing foundDue | initiating foundDue | creating foundDue t' now
  | locking foundDue t' now => rfl

theorem Exclusive.outside {x : Happening} (hs : Exclusive funding s) :
    Exclusive funding ((handlers charges funding next).step (.outside x) s) := by
  cases x with
  | clock elapsed => exact ⟨hs.once, hs.due, hs.alone, hs.holds⟩
  | unlocked => exact ⟨hs.once, hs.due, hs.alone, hs.holds⟩
  | configured reserved => exact ⟨hs.once, hs.due, hs.alone, hs.holds⟩
  | settled t nextExecutionAt =>
    by_cases hc : funding = .card ∨ (funding = .otherWallet ∧ s.state.submitted t = true)
    · have hsettled : StackCharges.outside funding (.settled t nextExecutionAt) s.state =
          { s.state with
            status := .ACTIVE
            nextExecutionAt := nextExecutionAt
            executions := s.state.executions.modify t
              (fun x => { x with
                autostackInitiationStatus := .COMPLETED, reserved := false }) } := if_pos hc
      refine hs.happened (t := t) ?_ (fun hf => ?_) ?_ ?_
      · intro t' ht
        rw [hsettled]
        exact ⟨Table.lookup_modify_ne _ _ ht, rfl⟩
      · rcases hc with hcard | ⟨-, hsubmitted⟩
        · exact absurd hcard hf
        · exact hs.not_executing hf hsubmitted
      · rw [hsettled]
        have honce := hs.once t
        rcases hc with rfl | ⟨rfl, hsubmitted⟩
        · exact honce
        · obtain ⟨y, hy⟩ := submitted_row hsubmitted
          have hle := Bool.toNat_le (took .otherWallet (s.state.executions.lookup t))
          simp only [Charging.takes] at honce
          simp [Charging.takes, took, hy]
          omega
      · rw [hsettled]
        exact fun y hy => hy
    · have hsame : StackCharges.outside funding (.settled t nextExecutionAt) s.state = s.state :=
        if_neg hc
      simp only [Handlers.step, handlers, hsame]
      exact hs
  | swapFailed t =>
    by_cases hc : funding = .otherWallet ∧ s.state.submitted t = true
    · have hfailed : StackCharges.outside funding (.swapFailed t) s.state =
          (s.state.giveBack t).onExecution t (fun x => { x with
            autostackInitiationStatus := .FAILED, reserved := false }) := if_pos hc
      obtain ⟨rfl, hsubmitted⟩ := hc
      obtain ⟨y, hy⟩ := submitted_row hsubmitted
      refine hs.happened (t := t) ?_ (fun hf => hs.not_executing hf hsubmitted) ?_ ?_
      · intro t' ht
        rw [hfailed]
        simp [ht, ht.symm]
      · have honce := hs.once t
        have hle := Bool.toNat_le (took .otherWallet (s.state.executions.lookup t))
        rw [hfailed]
        simp [took, hy]
        omega
      · rw [hfailed]
        exact fun z hz => List.mem_of_mem_eraseP hz
    · have hsame : StackCharges.outside funding (.swapFailed t) s.state = s.state := if_neg hc
      simp only [Handlers.step, handlers, hsame]
      exact hs
  | rewritten t x =>
    by_cases hc : funding = .card
    · have hrewritten : StackCharges.outside funding (.rewritten t x) s.state =
          s.state.onExecution t (fun _ => x) := if_pos hc
      subst hc
      refine hs.happened (t := t) ?_ (fun hf => absurd rfl hf) ?_ ?_
      · intro t' ht
        rw [hrewritten]
        simp [ht]
      · rw [hrewritten]
        exact hs.once t
      · rw [hrewritten]
        exact fun y hy => hy
    · have hsame : StackCharges.outside funding (.rewritten t x) s.state = s.state := if_neg hc
      simp only [Handlers.step, handlers, hsame]
      exact hs

theorem Exclusive.start (hs : Exclusive funding s) :
    Exclusive funding ((handlers charges funding next).step (.start ()) s) := by
  have hnew : ∀ w, StackCharges.start () s.state = some w → ∀ t, w.executes t = false := by
    intro w hw t
    simp only [StackCharges.start] at hw
    split at hw
    · cases hw
      rfl
    · cases hw
  refine ⟨hs.once, hs.due, fun hf t => ?_, ?_⟩
  · rw [Handlers.countP_start (h := handlers charges funding next) (s := s) (i := ()) fun w hw =>
      hnew w hw t]
    exact hs.alone hf t
  · refine Handlers.forall_running_start hs.holds fun w hw => ?_
    have hw' := hnew w hw
    cases w with
    | executing foundDue t now reserved phase => simp [Task.executes] at hw'
    | accruing foundDue | initiating foundDue | creating foundDue t now
    | locking foundDue t now => trivial

theorem Exclusive.step {e : Step} (hs : Exclusive funding s) (hcharges : RefusesUsed charges)
    (he : Orderly funding s e) :
    Exclusive funding ((handlers charges funding next).step e s) := by
  cases e with
  | start i => exact hs.start
  | resume n o => exact hs.resume hcharges he
  | outside x => exact hs.outside

end Exclusive

/-- In every run of charge jobs in which a worker gets past the lock only with the execution of
the time at which it found the stack due, and takes over a wallet's stale execution only from a
worker that is gone, each execution time leads to at most one taking. -/
theorem charges_taken_once {charges : List Nat → Nat → Bool} (hcharges : RefusesUsed charges)
    (funding : Funding) (getNextExecutionAt : Nat → Nat) (now nextExecutionAt : Nat)
    (configReserved : Bool) {events : List Step}
    (h : Run.Along (handlers charges funding getNextExecutionAt).step (Orderly funding)
      (begun now nextExecutionAt configReserved) events) :
    Run.Throughout (handlers charges funding getNextExecutionAt).step TakenOnce
      (begun now nextExecutionAt configReserved) events := by
  have hbegun : Exclusive funding (begun now nextExecutionAt configReserved) := by
    refine ⟨fun t => ?_, ?_, fun _ t => ?_, ?_⟩
    · simp [begun, Charging.takes]
    · simp [begun]
    · simp [begun]
    · simp [begun]
  exact (Run.throughout_of_along (fun s e hs he => hs.step hcharges he) hbegun h).mono
    fun s hs => hs.takenOnce

/-! ### Runs of daily stacks -/

def nextDay (now : Nat) : Nat := now + 86400

def chargesUnused (charged : List Nat) (reference : Nat) : Bool := reference ∉ charged

theorem chargesUnused_refuses : RefusesUsed chargesUnused := fun charged reference hused => by
  simp [chargesUnused, hused]

/-- A worker goes through its job, with a card to charge. -/
def oneJob : List Step :=
  [.start (), .resume 0 .ok, .resume 0 .ok, .resume 0 .ok, .resume 0 .ok, .resume 0 .ok,
    .resume 0 .ok, .resume 0 .ok]

theorem orderly_resume {funding : Funding} {s : Workers} {n : Nat} {u : Task}
    (hn : s.running[n]? = some u)
    (h : ∀ foundDue t now, u = .locking foundDue t now → foundDue = t ∧
      s.running.countP (Task.executes t) = 0) :
    Orderly funding s (.resume n .ok) := by
  intro foundDue t now hlocking x _ _
  rw [hn] at hlocking
  obtain ⟨heq, hnone⟩ := h foundDue t now (Option.some.inj hlocking)
  exact ⟨heq, fun _ _ => hnone⟩

theorem oneJob_taken_once :
    Run.Throughout (handlers chargesUnused .card nextDay).step TakenOnce (begun 10 10 false)
      oneJob := by
  refine charges_taken_once chargesUnused_refuses .card nextDay 10 10 false
    ⟨trivial, ?_, ?_, ?_, ?_, ?_, ?_, ?_, trivial⟩
  · refine orderly_resume (u := .accruing 10) (by decide +kernel) ?_
    rintro _ _ _ ⟨⟩
  · refine orderly_resume (u := .initiating 10) (by decide +kernel) ?_
    rintro _ _ _ ⟨⟩
  · refine orderly_resume (u := .creating 10 10 10) (by decide +kernel) ?_
    rintro _ _ _ ⟨⟩
  · refine orderly_resume (u := .locking 10 10 10) (by decide +kernel) ?_
    rintro _ _ _ ⟨⟩
    exact ⟨rfl, by decide +kernel⟩
  · refine orderly_resume (u := .executing 10 10 10 false .paying) (by decide +kernel) ?_
    rintro _ _ _ ⟨⟩
  · refine orderly_resume (u := .executing 10 10 10 false .calling) (by decide +kernel) ?_
    rintro _ _ _ ⟨⟩
  · refine orderly_resume (u := .executing 10 10 10 false .recording) (by decide +kernel) ?_
    rintro _ _ _ ⟨⟩

/-- Two jobs find the stack due at once: the second one goes on after the first has advanced the
schedule, and debits the USDT wallet for the next day. -/
def twoJobs : List Step :=
  [.start (), .start (), .resume 0 .ok, .resume 1 .ok, .resume 1 .ok, .resume 1 .ok, .resume 1 .ok,
    .resume 0 .ok, .resume 0 .ok, .resume 0 .ok, .resume 0 .ok, .resume 0 .ok]

theorem twoJobs_debit_ahead :
    ¬ ∀ (funding : Funding) (getNextExecutionAt : Nat → Nat) (now nextExecutionAt : Nat)
      (configReserved : Bool) (events : List Step),
      Run.Throughout (handlers chargesUnused funding getNextExecutionAt).step TakenOnce
        (begun now nextExecutionAt configReserved) events := by
  intro h
  have hdue := (h .usdtWallet nextDay 10 10 false twoJobs).last.due
  revert hdue
  decide +kernel

end StackCharges

end ExchangeLedger
