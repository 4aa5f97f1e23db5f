import ExchangeLedger.Run
import ExchangeLedger.StackUnlocks

set_option autoImplicit false

/-! The interest of one stack over its periods: the accrual of `executeCharge`, and the
settlements, each of which sets both dates anew. -/

namespace ExchangeLedger

open Block

namespace StackInterest

open AutoStackService
open StackUnlocks (RowIs Settlement)

/-- Interest that a charge has accrued. -/
structure Accrual where
  accruedAt : Nat
  interest : Nat
  deriving DecidableEq, Repr

/-- The ledger with the dates of the stack and what has been accrued for it. -/
structure Stacking where
  ledger : Ledger
  nextExecutionAt : Nat
  nextInterestAt : Nat
  accruals : List Accrual

def Stacking.row (s : Stacking) (id : AutoStackId) : Option AutoStack :=
  s.ledger.autoStacks.lookup id

/-- `confirm` sets both dates to the start. -/
def confirmed (L : Ledger) (startDate : Nat) : Stacking := ⟨L, startDate, startDate, []⟩

/-- A charge job, with the time and the daily rate that it reads. -/
structure Charge where
  now : Nat
  dailyRate : Decimal
  deriving DecidableEq, Repr

/-- What comes before the settlement of an execution. -/
inductive Happening where
  | charge (c : Charge)
  /-- Whatever else the application commits. -/
  | others (M : Ledger)

/-- One period: the jobs that charge for an execution, and its settlement. -/
structure Period where
  happenings : List Happening
  settlement : Settlement
  settledAt : Nat

section

variable (cache : ConvertCurrency.DefaultNetworkCache) (id : AutoStackId) (frequency : Frequency)

/-- `executeCharge`, up to the call of `initiateAutoStack`: only an active stack accrues. -/
def executeCharge (c : Charge) (s : Stacking) : Stacking :=
  match s.row id with
  | none => s
  | some stack =>
    if stack.status = .ACTIVE ∧ isExecutionDue s.nextExecutionAt c.now = true then
      match accrueBlock id stack.userId (s.nextInterestAt ≤ c.now) c.dailyRate frequency.days
        s.ledger with
      | .ok (some (interest, _), M) => { s with
          ledger := M
          nextInterestAt := getInterestDate frequency c.now
          accruals := ⟨c.now, interest⟩ :: s.accruals }
      | _ => s
    else s

def happen : Happening → Stacking → Stacking
  | .charge c, s => executeCharge id frequency c s
  | .others M, s => { s with ledger := M }

/-- The settlement takes its amount up into the stack, with both dates counted from the time
that it is reported for. -/
def settle (x : Settlement) (settledAt : Nat) (s : Stacking) : Stacking :=
  match x.block cache s.ledger with
  | .ok (stacked, M) =>
    if stacked = true ∧ x.autoStackId = some id then { s with
      ledger := M
      nextExecutionAt := getNextExecutionAt frequency settledAt
      nextInterestAt := getInterestDate frequency settledAt }
    else { s with ledger := M }
  | .error _ => s

def Period.run (x : Period) (s : Stacking) : Stacking :=
  settle cache id frequency x.settlement x.settledAt
    (Run.final (happen id frequency) s x.happenings)

/-- Nothing else touches the row of the stack. -/
def Apart (s : Stacking) : Happening → Prop
  | .charge _ => True
  | .others M => M.autoStacks.lookup id = s.row id

/-- The settlement of the period commits, and is one of this stack. -/
def Period.Settles (x : Period) (s : Stacking) : Prop :=
  x.settlement.autoStackId = some id ∧
    ∃ M, (x.settlement.block cache).Commits
      (Run.final (happen id frequency) s x.happenings).ledger true M

/-- The first execution of the stack is settled. -/
structure Period.Starts (s : Stacking) (x : Period) : Prop where
  apart : Run.Along (happen id frequency) (Apart id) s x.happenings
  settles : x.Settles cache id frequency s

/-- A period whose execution settles on time: its charges come within a day of the time that it is
due, one of them after it. -/
structure Period.OnTime (s : Stacking) (x : Period) : Prop where
  apart : Run.Along (happen id frequency) (Apart id) s x.happenings
  timely : ∀ c, .charge c ∈ x.happenings → c.now < s.nextExecutionAt + 86400
  charged : ∃ c, .charge c ∈ x.happenings ∧ s.nextExecutionAt ≤ c.now
  settles : x.Settles cache id frequency s

/-- The period accrues once: interest at the rate of one of its charges, on the amount stacked
while it lasted. -/
def AccruesOnce (s : Stacking) (x : Period) : Prop :=
  ∃ c stack after, .charge c ∈ x.happenings ∧ s.row id = some stack ∧
    (x.run cache id frequency s).row id = some after ∧
    (x.run cache id frequency s).accruals =
      ⟨c.now, interest stack.amount c.dailyRate frequency.days⟩ :: s.accruals ∧
    after.accruedInterest =
      stack.accruedInterest + interest stack.amount c.dailyRate frequency.days

end

/-! ### The two dates -/

/-- A time in February, by UTC. -/
def inFebruary (t : Nat) : Bool := monthAt (t / 86400) 0 (t / 86400) % 12 = 1

theorem daysInMonth_february {m : Nat} (h : m % 12 = 1) : daysInMonth m < 30 := by
  simp only [daysInMonth, h, if_true]
  split <;> omega

theorem daysInMonth_other {m : Nat} (h : m % 12 ≠ 1) : 30 ≤ daysInMonth m := by
  simp only [daysInMonth, h, if_false]
  split <;> omega

theorem getInterestDate_february {t : Nat} (h : inFebruary t = true) :
    getNextExecutionAt .MONTHLY t + 86400 ≤ getInterestDate .MONTHLY t := by
  have hdays := daysInMonth_february (of_decide_eq_true h)
  simp only [getNextExecutionAt, getInterestDate, Frequency.days]
  omega

theorem getInterestDate_due {frequency : Frequency} {t : Nat}
    (h : frequency = .MONTHLY → inFebruary t = false) :
    getInterestDate frequency t ≤ getNextExecutionAt frequency t := by
  cases frequency with
  | DAILY => simp [getNextExecutionAt, getInterestDate, Frequency.days]
  | WEEKLY => simp [getNextExecutionAt, getInterestDate, Frequency.days]
  | MONTHLY =>
    have hdays := daysInMonth_other (of_decide_eq_false (h rfl))
    simp only [getNextExecutionAt, getInterestDate, Frequency.days]
    omega

theorem getInterestDate_later (frequency : Frequency) (t : Nat) :
    t + 86400 ≤ getInterestDate frequency t := by
  cases frequency with
  | DAILY => simp [getInterestDate, Frequency.days]
  | WEEKLY => simp [getInterestDate, Frequency.days]
  | MONTHLY => simp [getInterestDate, Frequency.days]

/-! ### What the blocks do to the stack -/

section Blocks

variable {cache : ConvertCurrency.DefaultNetworkCache} {id : AutoStackId} {r : AutoStack}

/-- The stack has become active, with its interest as before. -/
def Grown (id : AutoStackId) (r : AutoStack) (L : Ledger) : Prop :=
  ∃ amount, L.autoStacks.lookup id = some { r with amount := amount, status := .ACTIVE }

theorem grown_keeps {α : Type} {x : LedgerBlock α} (hx : ∀ R, Preserves (RowIs id R) x) :
    Preserves (Grown id r) x := by
  intro L a M hL h
  obtain ⟨amount, hrow⟩ := hL
  exact ⟨amount, hx _ L a M hrow h⟩

theorem grown_onBalances {α : Type} {x : LedgerBlock α} (hx : OnBalances x) :
    Preserves (Grown id r) x := grown_keeps fun _ => StackUnlocks.onBalances_row hx

theorem grown_updateTransaction {t : TransactionId} {f : Transaction → Transaction} :
    Preserves (Grown id r) (updateTransaction t f) := preserves_update fun _ h => h

theorem growAutoStack_grows {a : Option AutoStackId} {amount : Nat} (ha : a = some id) :
    Leads (RowIs id (some r)) (OrderDone.growAutoStack a amount) (fun _ => Grown id r) := by
  subst ha
  intro L u M hL h
  rw [← commits_update.mp h]
  refine ⟨if r.status = .PENDING then amount else r.amount + amount, ?_⟩
  rw [Table.lookup_modify_self, hL]
  rfl

theorem executeUsdtBlock_grows {x : Execution} {metadata : PaymentMetadata} {initial : Bool}
    (hx : x.autoStackId = id) :
    Leads (RowIs id (some r)) (executeUsdtBlock cache x metadata initial)
      (fun _ => Grown id r) := by
  refine leads_keeps_bind (preserves_read _) fun _ => ?_
  refine leads_keeps_bind (preserves_require _ _) fun _ => ?_
  refine leads_keeps_bind (StackUnlocks.onBalances_row (mustUpdateWallet_onBalances _ _ _ _))
    fun _ => ?_
  refine leads_keeps_bind StackUnlocks.holdWallet_row fun _ => ?_
  refine leads_keeps_bind (StackUnlocks.onBalances_row (restateOriginalBalance_onBalances _ _ _))
    fun _ => ?_
  refine leads_keeps_bind StackUnlocks.shiftCompany_row fun _ => ?_
  refine leads_bind (Q := fun _ => Grown id r) (fun L u M hL h => ?_)
    fun _ => grown_updateTransaction
  rw [← commits_update.mp h]
  refine ⟨if initial then x.sourceAmount else r.amount + x.sourceAmount, ?_⟩
  rw [hx, Table.lookup_modify_self, hL]
  rfl

theorem buyBlock_grows {crypto fiat : Currency} {t : TransactionId} {transaction : Transaction}
    {executedCrypto executedFiat : Nat}
    (hid : transaction.paymentMetadata.autoStackId = some id) :
    Leads (RowIs id (some r))
      (OrderDone.buyBlock cache crypto fiat t transaction executedCrypto executedFiat)
      (fun done L => (done && decide (transaction.transactionContext = .AUTOSTACK)) = true →
        Grown id r L) := by
  refine leads_keeps_bind (preserves_read _) fun _ => leads_ite (leads_pure nofun) ?_
  refine leads_keeps_bind StackUnlocks.updateTransaction_row fun _ => ?_
  refine leads_keeps_bind (preserves_update fun _ h => h) fun _ => ?_
  refine leads_keeps_bind ?_ fun _ => ?_
  · refine preserves_ite ?_ (preserves_pure _)
    refine preserves_bind (StackUnlocks.onBalances_row (updateCompany_onBalances _ _ _)) fun _ => ?_
    exact preserves_bind (preserves_require _ _) fun _ => StackUnlocks.updateTransaction_row
  · by_cases hcontext : transaction.transactionContext = .AUTOSTACK
    · rw [if_pos hcontext]
      refine leads_keeps_bind StackUnlocks.holdWallet_row fun _ => ?_
      refine leads_bind (growAutoStack_grows hid) fun _ => ?_
      refine leads_keeps_bind (preserves_update fun _ h => h) fun _ => ?_
      refine leads_keeps_bind (grown_onBalances (updateCompany_onBalances _ _ _)) fun _ => ?_
      exact leads_pure fun _ h _ => h
    · intro L done M _ _ hstacked
      simp [hcontext] at hstacked

theorem stackReceived_grows {e : SwapWebhook.Event} {confirmedTo : Nat}
    (h : e.autoStackId = some id) :
    Leads (RowIs id (some r)) (SwapWebhook.stackReceived e confirmedTo)
      (fun done L => done = .stacked → Grown id r L) := by
  refine leads_keeps_bind (preserves_read _) fun _ => ?_
  refine leads_keeps_bind (preserves_read _) fun _ => leads_ite ?_ (leads_pure nofun)
  refine leads_keeps_bind StackUnlocks.holdWallet_row fun _ => ?_
  refine leads_bind (growAutoStack_grows h) fun _ => ?_
  refine leads_keeps_bind (preserves_update fun _ h => h) fun _ => ?_
  refine leads_keeps_bind (grown_onBalances (updateCompany_onBalances _ _ _)) fun _ => ?_
  refine leads_keeps_bind (grown_onBalances (updateCompany_onBalances _ _ _)) fun _ => ?_
  refine leads_keeps_bind (preserves_require _ _) fun _ => ?_
  refine leads_keeps_bind (grown_keeps fun _ => StackUnlocks.updateLinked_row) fun _ => ?_
  exact leads_pure fun _ h _ => h

theorem completeBlock_grows {e : SwapWebhook.Event} {confirmedFrom confirmedTo : Nat}
    {creditId : TransactionId} {creditReference : Reference} {toNetwork : Option CryptoNetwork}
    (h : e.autoStackId = some id) :
    Leads (RowIs id (some r)) (SwapWebhook.completeBlock cache e confirmedFrom confirmedTo creditId
      creditReference toNetwork) (fun done L => done = .stacked → Grown id r L) := by
  refine leads_keeps_bind (preserves_read _) fun _ => leads_ite (leads_pure nofun) ?_
  refine leads_keeps_bind (StackUnlocks.onBalances_row (mustUpdateWallet_onBalances _ _ _ _))
    fun _ => ?_
  refine leads_keeps_bind (StackUnlocks.onBalances_row (restateOriginalBalance_onBalances _ _ _))
    fun _ => ?_
  refine leads_keeps_bind (StackUnlocks.onBalances_row (subtractInternalBalance_onBalances _ _))
    fun _ => ?_
  refine leads_ite ?_ ?_
  · refine leads_keeps_bind StackUnlocks.updateLinked_row fun _ => ?_
    refine leads_bind (stackReceived_grows h) fun done => ?_
    refine leads_keeps_bind (preserves_update fun _ h => h) fun _ => ?_
    exact leads_pure fun _ h => h
  · refine leads_bind (Q := fun _ _ => True) (fun _ _ _ _ _ => trivial) fun _ => ?_
    refine leads_keeps_bind (fun _ _ _ _ _ => trivial) fun _ => ?_
    refine leads_keeps_bind (fun _ _ _ _ _ => trivial) fun _ => ?_
    refine leads_keeps_bind (fun _ _ _ _ _ => trivial) fun _ => ?_
    refine leads_keeps_bind (fun _ _ _ _ _ => trivial) fun _ => ?_
    refine leads_keeps_bind (fun _ _ _ _ _ => trivial) fun _ => ?_
    refine leads_keeps_bind (fun _ _ _ _ _ => trivial) fun _ => ?_
    exact leads_pure nofun

theorem Settlement.block_grows {x : Settlement} {L M : Ledger} (hx : x.autoStackId = some id)
    (hrow : L.autoStacks.lookup id = some r) (h : (x.block cache).Commits L true M) :
    Grown id r M := by
  cases x with
  | usdt x metadata initial =>
    obtain ⟨u, -, hdone⟩ := commits_map.mp h
    exact executeUsdtBlock_grows (Option.some.inj hx) L u M hrow hdone
  | swap e confirmedFrom confirmedTo creditId creditReference toNetwork =>
    obtain ⟨done, hstacked, hdone⟩ := commits_map.mp h
    exact completeBlock_grows hx L done M hrow hdone (of_decide_eq_true hstacked)
  | buy crypto fiat t transaction executedCrypto executedFiat =>
    obtain ⟨done, hstacked, hdone⟩ := commits_map.mp h
    exact buyBlock_grows hx L done M hrow hdone hstacked

end Blocks

/-- The stack with interest added to what it has accrued. -/
def withInterest (amount : Nat) (stack : AutoStack) : AutoStack :=
  { stack with accruedInterest := stack.accruedInterest + amount }

theorem shiftCompany_accepts (c : Currency) (column : CompanyColumn) (change : Int) (L : Ledger) :
    ∃ b M, (shiftCompany c column change).Commits L b M := by
  unfold Commits shiftCompany updateCompany
  cases L.companyLiquidity.lookup c with
  | none => exact ⟨_, _, rfl⟩
  | some row => exact ⟨_, _, rfl⟩

theorem accrueBlock_due {id : AutoStackId} (userId : UserId) (dailyRate : Decimal) (days : Nat)
    {L : Ledger} {stack : AutoStack} (hrow : L.autoStacks.lookup id = some stack) :
    ∃ b M, (accrueBlock id userId true dailyRate days).Commits L
        (some (interest stack.amount dailyRate days, b)) M ∧
      M.autoStacks.lookup id =
        some (withInterest (interest stack.amount dailyRate days) stack) := by
  simp only [accrueBlock, commits_read_bind, hrow, Option.filter_some, if_true, updateAutoStack,
    commits_update_bind]
  generalize hN : ({ L with autoStacks := L.autoStacks.modify id (fun s => { s with
    accruedInterest := s.accruedInterest + interest stack.amount dailyRate days }) } : Ledger) = N
  have haccrued :
      RowIs id (some (withInterest (interest stack.amount dailyRate days) stack)) N := by
    subst hN
    unfold RowIs
    rw [Table.lookup_modify_self, hrow]
    rfl
  cases hwallet : usdtWallet userId N with
  | none =>
    obtain ⟨b, M, hM⟩ := shiftCompany_accepts .usdt .totalAccruedLockedInterest
      (interest stack.amount dailyRate days) N
    refine ⟨false, M, ?_, StackUnlocks.shiftCompany_row _ _ _ haccrued hM⟩
    simp only [Option.isSome_none, Bool.false_eq_true, if_false]
    exact commits_bind.mpr ⟨b, M, hM, commits_pure.mpr ⟨rfl, rfl⟩⟩
  | some w =>
    have hheld : (holdWallet (userId, .usdt) .totalStackedInterest
        (interest stack.amount dailyRate days) (.thrown "wallet not found")).Commits N ()
          (N.setWallet (userId, .usdt) (w.shift (interest stack.amount dailyRate days)
            .totalStackedInterest)) :=
      mustUpdateWallet_commits.mpr ⟨w, (Option.filter_eq_some_iff.mp hwallet).1, trivial, rfl⟩
    obtain ⟨b, M, hM⟩ := shiftCompany_accepts .usdt .totalAccruedLockedInterest
      (interest stack.amount dailyRate days) (N.setWallet (userId, .usdt)
        (w.shift (interest stack.amount dailyRate days) .totalStackedInterest))
    have hrowHeld := StackUnlocks.holdWallet_row _ _ _ haccrued hheld
    refine ⟨true, M, ?_, StackUnlocks.shiftCompany_row _ _ _ hrowHeld hM⟩
    simp only [Option.isSome_some, if_true]
    exact commits_bind.mpr ⟨(), _, hheld, commits_bind.mpr ⟨b, M, hM, commits_pure.mpr ⟨rfl, rfl⟩⟩⟩

/-! ### Charges -/

section Charges

variable {id : AutoStackId} {frequency : Frequency} {s : Stacking} {stack : AutoStack}

/-- The stack accrues at the time of the charge. -/
def Accrues (s : Stacking) (stack : AutoStack) (c : Charge) : Prop :=
  stack.status = .ACTIVE ∧ s.nextExecutionAt ≤ c.now ∧ s.nextInterestAt ≤ c.now

theorem executeCharge_idle {c : Charge} (hrow : s.row id = some stack) (h : ¬ Accrues s stack c) :
    executeCharge id frequency c s = s := by
  unfold executeCharge
  rw [hrow]
  by_cases hactive : stack.status = .ACTIVE ∧ isExecutionDue s.nextExecutionAt c.now = true
  · have hearly : decide (s.nextInterestAt ≤ c.now) = false :=
      decide_eq_false fun hle => h ⟨hactive.1, of_decide_eq_true hactive.2, hle⟩
    simp only [hactive, if_true, and_self]
    split
    · rename_i x M haccrued
      have hidle := StackUnlocks.accrueBlock_not_due hearly haccrued
      cases hidle.1
    · rfl
  · simp only [hactive, if_false]

theorem executeCharge_accrues (frequency : Frequency) {c : Charge} (hrow : s.row id = some stack)
    (h : Accrues s stack c) :
    ∃ M, M.autoStacks.lookup id =
        some (withInterest (interest stack.amount c.dailyRate frequency.days) stack) ∧
      executeCharge id frequency c s = { s with
        ledger := M
        nextInterestAt := getInterestDate frequency c.now
        accruals := ⟨c.now, interest stack.amount c.dailyRate frequency.days⟩ :: s.accruals } := by
  obtain ⟨hactive, hdue, hinterest⟩ := h
  obtain ⟨b, M, hcommits, hM⟩ := accrueBlock_due stack.userId c.dailyRate frequency.days hrow
  refine ⟨M, hM, ?_⟩
  have hdue' : isExecutionDue s.nextExecutionAt c.now = true := decide_eq_true hdue
  unfold Commits at hcommits
  simp only [executeCharge, hrow, hactive, hdue', and_self, if_true, decide_eq_true hinterest,
    hcommits]

theorem idle_run {hs : List Happening} (hrow : s.row id = some stack)
    (hapart : Run.Along (happen id frequency) (Apart id) s hs)
    (hidle : ∀ c, .charge c ∈ hs → ¬ Accrues s stack c) :
    ∃ M, M.autoStacks.lookup id = some stack ∧
      Run.final (happen id frequency) s hs = { s with ledger := M } := by
  induction hs generalizing s with
  | nil => exact ⟨s.ledger, hrow, rfl⟩
  | cons h hs ih =>
    obtain ⟨happart, hrest⟩ := hapart
    cases h with
    | charge c =>
      have hsame : happen id frequency (.charge c) s = s :=
        executeCharge_idle hrow (hidle c (by simp))
      rw [hsame] at hrest
      obtain ⟨M, hM, hfinal⟩ := ih hrow hrest fun d hd => hidle d (by simp [hd])
      refine ⟨M, hM, ?_⟩
      rw [Run.final, hsame, hfinal]
    | others N =>
      have hrowN : ({ s with ledger := N } : Stacking).row id = some stack := happart.trans hrow
      exact ih hrowN hrest fun d hd => hidle d (by simp [hd])

/-- Where the interest is due with the execution, the first charge after both accrues, and no other
of that day does. -/
theorem accruing_run {hs : List Happening} (hrow : s.row id = some stack)
    (hactive : stack.status = .ACTIVE) (hinterest : s.nextInterestAt ≤ s.nextExecutionAt)
    (hapart : Run.Along (happen id frequency) (Apart id) s hs)
    (htimely : ∀ c, .charge c ∈ hs → c.now < s.nextExecutionAt + 86400)
    (hcharged : ∃ c, .charge c ∈ hs ∧ s.nextExecutionAt ≤ c.now) :
    ∃ c M, .charge c ∈ hs ∧
      M.autoStacks.lookup id =
        some (withInterest (interest stack.amount c.dailyRate frequency.days) stack) ∧
      Run.final (happen id frequency) s hs = { s with
        ledger := M
        nextInterestAt := getInterestDate frequency c.now
        accruals := ⟨c.now, interest stack.amount c.dailyRate frequency.days⟩ :: s.accruals } := by
  induction hs generalizing s with
  | nil =>
    obtain ⟨c, hc, -⟩ := hcharged
    simp at hc
  | cons h hs ih =>
    obtain ⟨happart, hrest⟩ := hapart
    cases h with
    | others N =>
      have hrowN : ({ s with ledger := N } : Stacking).row id = some stack := happart.trans hrow
      obtain ⟨d, hd, hdue⟩ := hcharged
      obtain ⟨c, M, hc, hM, hfinal⟩ := ih hrowN hinterest hrest
        (fun c hc => htimely c (by simp [hc])) ⟨d, by simpa using hd, hdue⟩
      exact ⟨c, M, by simp [hc], hM, hfinal⟩
    | charge c =>
      by_cases hdue : s.nextExecutionAt ≤ c.now
      · obtain ⟨N, hN, hcharge⟩ := executeCharge_accrues frequency hrow
          ⟨hactive, hdue, hinterest.trans hdue⟩
        have hlater := getInterestDate_later frequency c.now
        have hrowN : (executeCharge id frequency c s).row id =
            some (withInterest (interest stack.amount c.dailyRate frequency.days) stack) := by
          rw [hcharge]
          exact hN
        obtain ⟨M, hM, hfinal⟩ := idle_run hrowN hrest fun d hd haccrues => by
          have hlt := htimely d (by simp [hd])
          have hle := haccrues.2.2
          rw [hcharge] at hle
          simp only at hle
          omega
        refine ⟨c, M, by simp, hM, ?_⟩
        calc Run.final (happen id frequency) s (.charge c :: hs)
            = { executeCharge id frequency c s with ledger := M } := hfinal
          _ = _ := by rw [hcharge]
      · have hsame : happen id frequency (.charge c) s = s :=
          executeCharge_idle hrow fun h => hdue h.2.1
        rw [hsame] at hrest
        obtain ⟨d, hd, hdueD⟩ := hcharged
        have hne : Happening.charge d ≠ .charge c := fun heq => by
          cases heq
          exact hdue hdueD
        obtain ⟨e, M, he, hM, hfinal⟩ := ih hrow hinterest hrest
          (fun e he => htimely e (by simp [he])) ⟨d, (List.mem_cons.mp hd).resolve_left hne, hdueD⟩
        refine ⟨e, M, by simp [he], hM, ?_⟩
        rw [Run.final, hsame, hfinal]

end Charges

/-! ### Periods -/

section Periods

variable {cache : ConvertCurrency.DefaultNetworkCache} {id : AutoStackId} {frequency : Frequency}
  {s : Stacking}

/-- The stack is active, and both dates count from the time of its last settlement. -/
structure SettledAt (id : AutoStackId) (frequency : Frequency) (settledAt : Nat) (s : Stacking) :
    Prop where
  active : ∃ stack, s.row id = some stack ∧ stack.status = .ACTIVE
  nextExecutionAt : s.nextExecutionAt = getNextExecutionAt frequency settledAt
  nextInterestAt : s.nextInterestAt = getInterestDate frequency settledAt

theorem Period.Settles.settled {x : Period} {stack : AutoStack}
    (hx : x.Settles cache id frequency s)
    (hrow : (Run.final (happen id frequency) s x.happenings).row id = some stack) :
    SettledAt id frequency x.settledAt (x.run cache id frequency s) ∧
      (x.run cache id frequency s).accruals =
        (Run.final (happen id frequency) s x.happenings).accruals ∧
      ∃ after, (x.run cache id frequency s).row id = some after ∧
        after.accruedInterest = stack.accruedInterest := by
  obtain ⟨hid, M, hcommits⟩ := hx
  obtain ⟨amount, hgrown⟩ := Settlement.block_grows hid hrow hcommits
  have hrun : x.run cache id frequency s =
      { Run.final (happen id frequency) s x.happenings with
        ledger := M
        nextExecutionAt := getNextExecutionAt frequency x.settledAt
        nextInterestAt := getInterestDate frequency x.settledAt } := by
    unfold Commits at hcommits
    simp [Period.run, settle, hcommits, hid]
  rw [hrun]
  exact ⟨⟨⟨_, hgrown, rfl⟩, rfl, rfl⟩, rfl, _, hgrown, rfl⟩

theorem SettledAt.period {t : Nat} {x : Period} (hs : SettledAt id frequency t s)
    (hx : x.OnTime cache id frequency s) :
    SettledAt id frequency x.settledAt (x.run cache id frequency s) ∧
      (AccruesOnce cache id frequency s x ↔ (frequency = .MONTHLY → inFebruary t = false)) := by
  obtain ⟨stack, hrow, hactive⟩ := hs.active
  by_cases hdays : frequency = .MONTHLY → inFebruary t = false
  · have hdue : s.nextInterestAt ≤ s.nextExecutionAt := by
      rw [hs.nextInterestAt, hs.nextExecutionAt]
      exact getInterestDate_due hdays
    obtain ⟨c, M, hc, hM, hfinal⟩ :=
      accruing_run hrow hactive hdue hx.apart hx.timely hx.charged
    have hrowM : (Run.final (happen id frequency) s x.happenings).row id =
        some (withInterest (interest stack.amount c.dailyRate frequency.days) stack) := by
      rw [hfinal]
      exact hM
    obtain ⟨hsettled, haccruals, after, hafter, hinterest⟩ := hx.settles.settled hrowM
    rw [hfinal] at haccruals
    exact ⟨hsettled, iff_of_true ⟨c, stack, after, hc, hrow, hafter, haccruals, hinterest⟩ hdays⟩
  · obtain ⟨rfl, hfebruary⟩ := Classical.not_imp.mp hdays
    have hlate : s.nextExecutionAt + 86400 ≤ s.nextInterestAt := by
      rw [hs.nextInterestAt, hs.nextExecutionAt]
      exact getInterestDate_february (by simpa using hfebruary)
    obtain ⟨M, hM, hfinal⟩ := idle_run hrow hx.apart fun c hc haccrues => by
      have hlt := hx.timely c hc
      have hle := haccrues.2.2
      omega
    have hrowM : (Run.final (happen id .MONTHLY) s x.happenings).row id = some stack := by
      rw [hfinal]
      exact hM
    obtain ⟨hsettled, haccruals, -⟩ := hx.settles.settled hrowM
    rw [hfinal] at haccruals
    refine ⟨hsettled, iff_of_false (fun haccrues => ?_) hdays⟩
    obtain ⟨c, stack', after, -, -, -, honce, -⟩ := haccrues
    rw [haccruals] at honce
    exact (List.cons_ne_self _ _) honce.symm

theorem first_period {L : Ledger} {startDate : Nat} {stack : AutoStack} {x : Period}
    (hrow : L.autoStacks.lookup id = some stack) (hpending : stack.status = .PENDING)
    (hx : x.Starts cache id frequency (confirmed L startDate)) :
    SettledAt id frequency x.settledAt (x.run cache id frequency (confirmed L startDate)) := by
  obtain ⟨M, hM, hfinal⟩ := idle_run (s := confirmed L startDate) hrow hx.apart
    fun c _ haccrues => by
      have hactive := haccrues.1
      rw [hpending] at hactive
      cases hactive
  have hrowM : (Run.final (happen id frequency) (confirmed L startDate) x.happenings).row id =
      some stack := by
    rw [hfinal]
    exact hM
  exact (hx.settles.settled hrowM).1

theorem SettledAt.run {t : Nat} {later : List Period} (hs : SettledAt id frequency t s)
    (hlater : Run.Along (Period.run cache id frequency) (Period.OnTime cache id frequency) s
      later) :
    Run.Along (Period.run cache id frequency) (AccruesOnce cache id frequency) s later ↔
      (frequency = .MONTHLY →
        ∀ u ∈ (t :: later.map Period.settledAt).dropLast, inFebruary u = false) := by
  induction later generalizing s t with
  | nil => simp [Run.Along]
  | cons x later ih =>
    obtain ⟨hx, hrest⟩ := hlater
    obtain ⟨hsettled, haccrues⟩ := hs.period hx
    have htail := ih hsettled hrest
    simp only [Run.Along, haccrues, htail, List.map_cons, List.dropLast_cons_cons,
      List.forall_mem_cons, ← imp_and]

end Periods

/-- For every stack, from its confirmation and over any number of executions that settle on time,
each completed period accrues its interest exactly once if and only if the stack is not monthly or
no completed period began in February: thirty days from there are over only after the month is,
and the settlement then sets the date anew. -/
theorem accrues_once_iff (cache : ConvertCurrency.DefaultNetworkCache) (id : AutoStackId)
    (frequency : Frequency) (L : Ledger) (startDate : Nat) (stack : AutoStack) (first : Period)
    (later : List Period) (hrow : L.autoStacks.lookup id = some stack)
    (hpending : stack.status = .PENDING)
    (hfirst : first.Starts cache id frequency (confirmed L startDate))
    (hlater : Run.Along (Period.run cache id frequency) (Period.OnTime cache id frequency)
      (first.run cache id frequency (confirmed L startDate)) later) :
    Run.Along (Period.run cache id frequency) (AccruesOnce cache id frequency)
        (first.run cache id frequency (confirmed L startDate)) later ↔
      (frequency = .MONTHLY →
        ∀ t ∈ ((first :: later).map Period.settledAt).dropLast, inFebruary t = false) := by
  exact (first_period hrow hpending hfirst).run hlater

/-- A stack that waits for its first execution, and the wallet that pays for it. -/
def waiting : Ledger := { Ledger.empty with
  wallets := (∅ : Table WalletKey Wallet).insert (1, .usdt) { Wallet.empty with
    letterCase := .upper, currencyId := some .usdt, baseBalance := 500000000 }
  autoStacks := (∅ : Table AutoStackId AutoStack).insert 1
    { userId := 1, amount := 100000000, accruedInterest := 0, status := .PENDING } }

/-- A hundred USDT from the wallet, charged and settled a minute later. -/
def execution (chargedAt : Nat) : Period where
  happenings := [.charge ⟨chargedAt, ⟨1, 1⟩⟩]
  settlement := .usdt
    { userId := 1, autoStackId := 1, id := 7, reference := 7, sourceAsset := .usdt
      sourceAmount := 100000000, principalUsdt := 100000000, transactionFee := 0
      cryptoWalletPayment := true } PaymentMetadata.empty false
  settledAt := chargedAt + 60

theorem starts_execution {frequency : Frequency} {chargedAt : Nat}
    (h : ((execution chargedAt).settlement.block (fun _ => none)).result
      (Run.final (happen 1 frequency) (confirmed waiting chargedAt)
        (execution chargedAt).happenings).ledger = some true) :
    (execution chargedAt).Starts (fun _ => none) 1 frequency (confirmed waiting chargedAt) :=
  ⟨⟨trivial, trivial⟩, rfl, _, result_eq_some.mp h⟩

theorem onTime_execution {frequency : Frequency} {s : Stacking} {chargedAt : Nat}
    (htimely : chargedAt < s.nextExecutionAt + 86400) (hdue : s.nextExecutionAt ≤ chargedAt)
    (h : ((execution chargedAt).settlement.block (fun _ => none)).result
      (Run.final (happen 1 frequency) s (execution chargedAt).happenings).ledger = some true) :
    (execution chargedAt).OnTime (fun _ => none) 1 frequency s := by
  refine ⟨⟨trivial, trivial⟩, fun c hc => ?_, ⟨_, List.mem_singleton.mpr rfl, hdue⟩, rfl, _,
    result_eq_some.mp h⟩
  cases List.mem_singleton.mp hc
  exact htimely

/-- From January 15, 2023 to February 15. -/
theorem january_accrues :
    Run.Along (Period.run (fun _ => none) 1 .MONTHLY) (AccruesOnce (fun _ => none) 1 .MONTHLY)
      ((execution 1673740800).run (fun _ => none) 1 .MONTHLY (confirmed waiting 1673740800))
      [execution 1676419260] := by
  refine (accrues_once_iff (fun _ => none) 1 .MONTHLY waiting 1673740800
    ⟨1, 100000000, 0, .PENDING⟩ (execution 1673740800) [execution 1676419260] (by decide +kernel)
    rfl (starts_execution (by decide +kernel)) ⟨onTime_execution (by decide +kernel)
      (by decide +kernel) (by decide +kernel), trivial⟩).mpr (fun _ => ?_)
  decide +kernel

/-- From February 15, 2023 to March 15: the interest would be due on the seventeenth, and the
settlement of the fifteenth puts it off to April. -/
theorem february_loses_interest :
    ¬ ∀ (cache : ConvertCurrency.DefaultNetworkCache) (id : AutoStackId) (frequency : Frequency)
      (L : Ledger) (startDate : Nat) (stack : AutoStack) (first : Period) (later : List Period),
      L.autoStacks.lookup id = some stack → stack.status = .PENDING →
      first.Starts cache id frequency (confirmed L startDate) →
      Run.Along (Period.run cache id frequency) (Period.OnTime cache id frequency)
        (first.run cache id frequency (confirmed L startDate)) later →
      Run.Along (Period.run cache id frequency) (AccruesOnce cache id frequency)
        (first.run cache id frequency (confirmed L startDate)) later := by
  intro h
  obtain ⟨⟨c, stack, after, -, -, -, honce, -⟩, -⟩ := h (fun _ => none) 1 .MONTHLY waiting
    1676419200 ⟨1, 100000000, 0, .PENDING⟩ (execution 1676419200) [execution 1678838460]
    (by decide +kernel) rfl (starts_execution (by decide +kernel))
    ⟨onTime_execution (by decide +kernel) (by decide +kernel) (by decide +kernel), trivial⟩
  have hnone : ((execution 1678838460).run (fun _ => none) 1 .MONTHLY
      ((execution 1676419200).run (fun _ => none) 1 .MONTHLY
        (confirmed waiting 1676419200))).accruals = [] := by decide +kernel
  rw [hnone] at honce
  cases honce

end StackInterest

end ExchangeLedger
