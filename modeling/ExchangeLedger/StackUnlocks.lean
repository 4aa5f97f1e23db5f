import ExchangeLedger.AutoStack
import ExchangeLedger.Concurrent

set_option autoImplicit false

/-! One stack under concurrent calls of `AutoStackService.unlock`, the interest accrual of
`executeCharge`, and the settlements of its executions. -/

namespace ExchangeLedger

open Block

namespace StackUnlocks

open AutoStackService Concurrent

/-- What a committed unlock paid and took off, and the stack as it was when its row was ended. -/
structure Payout where
  paid : Nat
  principal : Nat
  accrued : Nat
  early : Bool
  ended : AutoStack
  deriving DecidableEq, Repr

/-- The ledger with the dates of the stack and the payouts made for it. -/
structure Stacking where
  ledger : Ledger
  now : Nat
  nextExecutionAt : Nat
  nextInterestAt : Nat
  payouts : List Payout

def Stacking.row (s : Stacking) (id : AutoStackId) : Option AutoStack :=
  s.ledger.autoStacks.lookup id

inductive Call where
  /-- The owner's call with the right pin. -/
  | unlock
  /-- A charge job, with the daily rate that it will read. -/
  | charge (dailyRate : Decimal)
  deriving DecidableEq, Repr

/-- A call that has read the stack and has its transaction still to run. -/
inductive Task where
  | unlocking (stack : AutoStack) (early : Bool)
  | accruing (stack : AutoStack) (now : Nat) (dailyRate : Decimal)
  deriving DecidableEq, Repr

/-- The block that settles an execution: at once for the USDT wallet, else the webhook's. -/
inductive Settlement where
  | usdt (x : Execution) (metadata : PaymentMetadata) (initial : Bool)
  | swap (e : SwapWebhook.Event) (confirmedFrom confirmedTo : Nat) (creditId : TransactionId)
    (creditReference : Reference) (toNetwork : Option CryptoNetwork)
  | buy (crypto fiat : Currency) (id : TransactionId) (transaction : Transaction)
    (executedCrypto executedFiat : Nat)

namespace Settlement

/-- The block, and whether a stack took the amount up. -/
def block (cache : ConvertCurrency.DefaultNetworkCache) : Settlement → LedgerBlock Bool
  | .usdt x metadata initial => (fun _ => true) <$> executeUsdtBlock cache x metadata initial
  | .swap e confirmedFrom confirmedTo creditId creditReference toNetwork =>
    (fun done => decide (done = .stacked)) <$>
      SwapWebhook.completeBlock cache e confirmedFrom confirmedTo creditId creditReference toNetwork
  | .buy crypto fiat id transaction executedCrypto executedFiat =>
    (fun done => done && decide (transaction.transactionContext = .AUTOSTACK)) <$>
      OrderDone.buyBlock cache crypto fiat id transaction executedCrypto executedFiat

def autoStackId : Settlement → Option AutoStackId
  | .usdt x _ _ => some x.autoStackId
  | .swap e _ _ _ _ _ => e.autoStackId
  | .buy _ _ _ transaction _ _ => transaction.paymentMetadata.autoStackId

/-- The settlement still has this stack's amount to add. -/
def settles (L : Ledger) (id : AutoStackId) : Settlement → Prop
  | .usdt x _ _ => x.autoStackId = id
  | .swap e _ _ _ _ _ =>
    e.stillOpen L = true ∧ e.isAutoStackSwap = true ∧ e.autoStackId = some id
  | .buy _ _ t transaction _ _ =>
    L.alreadyProcessed t = false ∧ transaction.transactionContext = .AUTOSTACK ∧
      transaction.paymentMetadata.autoStackId = some id

end Settlement

inductive Happening where
  | clock (elapsed : Nat)
  | settle (x : Settlement) (settledAt nextExecutionAt : Nat)

section

variable (cache : ConvertCurrency.DefaultNetworkCache) (id : AutoStackId) (frequency : Frequency)

def active (s : Stacking) : Option AutoStack := (s.row id).filter (fun r => r.status = .ACTIVE)

def start : Call → Stacking → Option Task
  | .unlock, s => (active id s).map (fun stack => .unlocking stack (s.now < s.nextInterestAt))
  | .charge dailyRate, s =>
    if isExecutionDue s.nextExecutionAt s.now then
      (active id s).map (fun stack => .accruing stack s.now dailyRate)
    else none

/-- Each call runs its transaction. An update of a row that is not there throws. -/
def resume : Task → Unit → Stacking → Stacking × Option Task
  | .unlocking stack early, (), s =>
    match s.row id, unlockBlock cache id stack early s.ledger with
    | some ended, .ok (_, M) => ({ s with
        ledger := M
        payouts := ⟨payout stack early, stack.amount, stack.accruedInterest, early, ended⟩ ::
          s.payouts }, none)
    | _, _ => (s, none)
  | .accruing stack now dailyRate, (), s =>
    match accrueBlock id stack.userId (s.nextInterestAt ≤ now) dailyRate frequency.days s.ledger
      with
    | .ok (some _, M) =>
      ({ s with ledger := M, nextInterestAt := getInterestDate frequency now }, none)
    | _ => (s, none)

def outside : Happening → Stacking → Stacking
  | .clock elapsed, s => { s with now := s.now + elapsed }
  | .settle x settledAt nextExecutionAt, s =>
    match x.block cache s.ledger with
    | .ok (stacked, M) =>
      if stacked = true ∧ x.autoStackId = some id then { s with
        ledger := M
        nextExecutionAt := nextExecutionAt
        nextInterestAt := getInterestDate frequency settledAt }
      else { s with ledger := M }
    | .error _ => s

def handlers : Handlers Stacking Task Call Unit Happening where
  start := start id
  resume := resume cache id frequency
  outside := outside cache id frequency

abbrev Unlocks := System Stacking Task

abbrev Step := Event Call Unit Happening

/-- Nothing has been paid out and no call is under way. -/
def begun (L : Ledger) (now nextExecutionAt nextInterestAt : Nat) : Unlocks :=
  ⟨⟨L, now, nextExecutionAt, nextInterestAt, []⟩, []⟩

/-- At most one payout, of the stack as it was when it was ended. -/
structure PaidOnce (s : Unlocks) : Prop where
  once : s.state.payouts.length ≤ 1
  paid : ∀ p ∈ s.state.payouts, p.paid = payout p.ended p.early ∧
    p.principal = p.ended.amount ∧ p.accrued = p.ended.accruedInterest

/-- The step adds nothing to a stack that has ended. -/
def KeepsEnded (s : Unlocks) (e : Step) : Prop :=
  ∀ stack, s.state.row id = some stack → stack.status = .ENDED →
    ∃ after, ((handlers cache id frequency).step e s).state.row id = some after ∧
      after.amount = stack.amount ∧ after.accruedInterest = stack.accruedInterest

/-- The stack has not ended. -/
def Running (s : Unlocks) : Prop := ∀ row, s.state.row id = some row → row.status ≠ .ENDED

/-- What a transaction needs of the stack that it finds. -/
def Finds (s : Unlocks) : Task → Prop
  | .unlocking stack _ => Running id s ∧ ∀ row, s.state.row id = some row →
      row.amount = stack.amount ∧ row.accruedInterest = stack.accruedInterest
  | .accruing _ now _ => s.state.nextInterestAt ≤ now → Running id s

/-- An unlock finds the stack unended and as it read it, and nothing is added to an ended one. -/
def Orderly (s : Unlocks) : Step → Prop
  | .resume n () => ∀ t, s.running[n]? = some t → Finds id s t
  | .outside (.settle x _ _) => x.settles s.state.ledger id → Running id s
  | .outside (.clock _) | .start _ => True

end

/-! ### What the blocks do to the row -/

section Blocks

variable {cache : ConvertCurrency.DefaultNetworkCache} {id : AutoStackId} {R : Option AutoStack}

/-- The row of the stack is `R`. -/
def RowIs (id : AutoStackId) (R : Option AutoStack) (L : Ledger) : Prop :=
  L.autoStacks.lookup id = R

theorem onBalances_row {α : Type} {x : LedgerBlock α} (hx : OnBalances x) :
    Preserves (RowIs id R) x := hx.preserves fun _ => Iff.rfl

theorem holdWallet_row {k : WalletKey} {column : Holding} {change : Int} {e : Failure} :
    Preserves (RowIs id R) (holdWallet k column change e) :=
  onBalances_row (mustUpdateWallet_onBalances _ _ _ _)

theorem shiftCompany_row {c : Currency} {column : CompanyColumn} {change : Int} :
    Preserves (RowIs id R) (shiftCompany c column change) :=
  onBalances_row (updateCompany_onBalances _ _ _)

theorem updateTransaction_row {t : TransactionId} {f : Transaction → Transaction} :
    Preserves (RowIs id R) (updateTransaction t f) := preserves_update fun _ h => h

theorem updateAutoStack_row_ne {a : AutoStackId} {f : AutoStack → AutoStack} (ha : id ≠ a) :
    Preserves (RowIs id R) (updateAutoStack a f) := by
  refine preserves_update fun L h => ?_
  unfold RowIs at h ⊢
  rw [← h]
  exact Table.lookup_modify_ne _ _ ha

theorem executeUsdtBlock_row {x : Execution} {metadata : PaymentMetadata} {initial : Bool}
    (hx : id ≠ x.autoStackId) :
    Preserves (RowIs id R) (executeUsdtBlock cache x metadata initial) := by
  refine preserves_bind (preserves_read _) fun _ => ?_
  refine preserves_bind (preserves_require _ _) fun _ => ?_
  refine preserves_bind (onBalances_row (mustUpdateWallet_onBalances _ _ _ _)) fun _ => ?_
  refine preserves_bind holdWallet_row fun _ => ?_
  refine preserves_bind (onBalances_row (restateOriginalBalance_onBalances _ _ _)) fun _ => ?_
  refine preserves_bind shiftCompany_row fun _ => ?_
  exact preserves_bind (updateAutoStack_row_ne hx) fun _ => updateTransaction_row

theorem growAutoStack_row {a : Option AutoStackId} {amount : Nat} (ha : a ≠ some id) :
    Preserves (RowIs id R) (OrderDone.growAutoStack a amount) := by
  cases a with
  | none => exact preserves_pure ()
  | some b => exact updateAutoStack_row_ne fun h => ha (by rw [h])

theorem buyBlock_row {crypto fiat : Currency} {t : TransactionId} {transaction : Transaction}
    {executedCrypto executedFiat : Nat} (h : transaction.transactionContext = .AUTOSTACK →
      transaction.paymentMetadata.autoStackId ≠ some id) :
    Preserves (RowIs id R)
      (OrderDone.buyBlock cache crypto fiat t transaction executedCrypto executedFiat) := by
  refine preserves_bind (preserves_read _) fun _ => preserves_ite (preserves_pure _) ?_
  refine preserves_bind updateTransaction_row fun _ => ?_
  refine preserves_bind (preserves_update fun _ h => h) fun _ => ?_
  refine preserves_bind ?_ fun _ => ?_
  · refine preserves_ite ?_ (preserves_pure _)
    refine preserves_bind (onBalances_row (updateCompany_onBalances _ _ _)) fun _ => ?_
    exact preserves_bind (preserves_require _ _) fun _ => updateTransaction_row
  · by_cases hcontext : transaction.transactionContext = .AUTOSTACK
    · rw [if_pos hcontext]
      refine preserves_bind holdWallet_row fun _ => ?_
      refine preserves_bind (growAutoStack_row (h hcontext)) fun _ => ?_
      refine preserves_bind (preserves_update fun _ h => h) fun _ => ?_
      exact preserves_bind shiftCompany_row fun _ => preserves_pure _
    · rw [if_neg hcontext]
      refine preserves_bind (onBalances_row (mustUpdateWallet_onBalances _ _ _ _)) fun _ => ?_
      refine preserves_bind (onBalances_row (restateOriginalBalance_onBalances _ _ _)) fun _ => ?_
      exact preserves_bind (preserves_update fun _ h => h) fun _ => preserves_pure _

theorem updateLinked_row {e : SwapWebhook.Event} {f : Transaction → Transaction} :
    Preserves (RowIs id R) (SwapWebhook.updateLinked e f) := by
  unfold SwapWebhook.updateLinked
  split
  · exact updateTransaction_row
  · exact preserves_pure ()

theorem insertTransaction_row {t : TransactionId} {row : Transaction} :
    Preserves (RowIs id R) (insertTransaction t row) := by
  refine preserves_bind (preserves_read _) fun _ => ?_
  refine preserves_bind (preserves_require _ _) fun _ => ?_
  exact preserves_update fun _ h => h

theorem completeBlock_row {e : SwapWebhook.Event} {confirmedFrom confirmedTo : Nat}
    {creditId : TransactionId} {creditReference : Reference} {toNetwork : Option CryptoNetwork}
    (h : e.isAutoStackSwap = true → e.autoStackId ≠ some id) :
    Preserves (RowIs id R) (SwapWebhook.completeBlock cache e confirmedFrom confirmedTo creditId
      creditReference toNetwork) := by
  have huntouched : SwapWebhook.Untouched e (RowIs id R) := {
    balances := fun _ => Iff.rfl
    swaps := fun _ _ hL => hL
    growing := fun hstack _ => growAutoStack_row (h hstack)
    linked := fun _ => updateLinked_row
    credit := fun _ _ => insertTransaction_row }
  exact SwapWebhook.completeBlock_keeps huntouched _ _ _ _ _ _

theorem Settlement.block_row {x : Settlement} {L M : Ledger} {stacked : Bool}
    (hx : ¬ x.settles L id) (h : (x.block cache).Commits L stacked M) :
    M.autoStacks.lookup id = L.autoStacks.lookup id := by
  cases x with
  | usdt x metadata initial =>
    have hne : id ≠ x.autoStackId := fun heq => hx heq.symm
    exact preserves_map _ (executeUsdtBlock_row hne) L _ M rfl h
  | swap e confirmedFrom confirmedTo creditId creditReference toNetwork =>
    by_cases hopen : e.stillOpen L = true
    · refine preserves_map _ (completeBlock_row fun hswap hid => ?_) L _ M rfl h
      exact hx ⟨hopen, hswap, hid⟩
    · obtain ⟨done, -, hdone⟩ := commits_map.mp h
      simp only [SwapWebhook.completeBlock, commits_read_bind, hopen, commits_pure,
        if_true] at hdone
      rw [← hdone.2]
  | buy crypto fiat t transaction executedCrypto executedFiat =>
    by_cases hprocessed : L.alreadyProcessed t = false
    · refine preserves_map _ (buyBlock_row fun hcontext hid => ?_) L _ M rfl h
      exact hx ⟨hprocessed, hcontext, hid⟩
    · obtain ⟨done, -, hdone⟩ := commits_map.mp h
      simp only [Bool.not_eq_false] at hprocessed
      simp only [OrderDone.buyBlock, commits_read_bind, hprocessed, commits_pure,
        if_true] at hdone
      rw [← hdone.2]

theorem unlockBlock_row {stack : AutoStack} {early : Bool} {L M : Ledger} {w : Wallet}
    (h : (unlockBlock cache id stack early).Commits L w M) :
    M.autoStacks.lookup id =
      (L.autoStacks.lookup id).map (fun s => { s with status := .ENDED }) := by
  simp only [unlockBlock, commits_read_bind, commits_demand_bind] at h
  obtain ⟨_, -, h⟩ := h
  simp only [commits_bind, updateAutoStack, commits_update, commits_pure] at h
  obtain ⟨_, A, hcredit, _, B, hstacked, _, C, hinterest, _, D, hrestate, _, _, rfl, _, F,
    hprincipal, _, G, haccrued, _, _, hpaid, -, rfl⟩ := h
  have hkeeps {α : Type} {x : LedgerBlock α} (hx : OnBalances x) (S : Option AutoStack) :
      Preserves (RowIs id S) x := onBalances_row hx
  have hA := hkeeps (mustUpdateWallet_onBalances _ _ _ _) _ _ _ _ rfl hcredit
  have hB := hkeeps (mustUpdateWallet_onBalances _ _ _ _) _ _ _ _ hA hstacked
  have hC := hkeeps (mustUpdateWallet_onBalances _ _ _ _) _ _ _ _ hB hinterest
  have hD : D.autoStacks.lookup id = L.autoStacks.lookup id :=
    hkeeps (restateOriginalBalance_onBalances _ _ _) _ _ _ _ hC hrestate
  have hF := hkeeps (updateCompany_onBalances _ _ _) _ _ _ _ rfl hprincipal
  have hG := hkeeps (updateCompany_onBalances _ _ _) _ _ _ _ hF haccrued
  have hM := hkeeps (updateCompany_onBalances _ _ _) _ _ _ _ hG hpaid
  rw [← hD]
  exact hM.trans (Table.lookup_modify_self _ _ _)

theorem accrueBlock_not_due {userId : UserId} {dailyRate : Decimal} {days : Nat} {L M : Ledger}
    {due : Bool} {r : Option (Nat × Bool)} (hdue : due = false)
    (h : (accrueBlock id userId due dailyRate days).Commits L r M) : r = none ∧ M = L := by
  subst hdue
  simp only [accrueBlock, commits_read_bind] at h
  cases hrow : L.autoStacks.lookup id with
  | none =>
    simp only [hrow, Option.filter_none, commits_pure] at h
    exact ⟨h.1.symm, h.2.symm⟩
  | some row =>
    simp only [hrow, Option.filter_some, Bool.false_eq_true, if_false, commits_pure] at h
    exact ⟨h.1.symm, h.2.symm⟩

end Blocks

/-! ### One step -/

section Steps

variable {cache : ConvertCurrency.DefaultNetworkCache} {id : AutoStackId} {frequency : Frequency}
  {s : Unlocks}

theorem resume_frozen {t : Task} {stack : AutoStack} (ht : Finds id s t)
    (hrow : s.state.row id = some stack) (hended : stack.status = .ENDED) :
    (resume cache id frequency t () s.state).1.row id = some stack := by
  cases t with
  | unlocking copy early => exact absurd hended (ht.1 stack hrow)
  | accruing copy now dailyRate =>
    have hdue : ¬ s.state.nextInterestAt ≤ now := fun h => ht h stack hrow hended
    simp only [resume]
    split
    · rename_i hM
      have hnone := (accrueBlock_not_due (decide_eq_false hdue) hM).1
      cases hnone
    · exact hrow

theorem Orderly.frozen {e : Step} (he : Orderly id s e) {stack : AutoStack}
    (hrow : s.state.row id = some stack) (hended : stack.status = .ENDED) :
    ((handlers cache id frequency).step e s).state.row id = some stack := by
  cases e with
  | start c => exact hrow
  | resume n o =>
    cases hn : s.running[n]? with
    | none =>
      rw [Handlers.step_resume_none hn]
      exact hrow
    | some t =>
      rw [Handlers.step_resume hn]
      exact resume_frozen (he t hn) hrow hended
  | outside x =>
    cases x with
    | clock elapsed => exact hrow
    | settle x settledAt nextExecutionAt =>
      have hx : ¬ x.settles s.state.ledger id := fun h => he h stack hrow hended
      simp only [Handlers.step, handlers, outside]
      split
      · rename_i stacked M hM
        have hkept := Settlement.block_row hx hM
        split
        · exact hkept.trans hrow
        · exact hkept.trans hrow
      · exact hrow

/-- What an orderly step pays out, it pays for a stack that it ends. -/
structure Pays (id : AutoStackId) (s : Unlocks) (after : Stacking) : Prop where
  running : Running id s
  payouts : ∃ p, after.payouts = p :: s.state.payouts ∧ p.paid = payout p.ended p.early ∧
    p.principal = p.ended.amount ∧ p.accrued = p.ended.accruedInterest
  ended : ∃ row, after.row id = some row ∧ row.status = .ENDED

theorem resume_payouts {t : Task} (ht : Finds id s t) :
    (resume cache id frequency t () s.state).1.payouts = s.state.payouts ∨
      Pays id s (resume cache id frequency t () s.state).1 := by
  cases t with
  | unlocking copy early =>
    obtain ⟨hrunning, hsame⟩ := ht
    simp only [resume]
    split
    · rename_i row w M hrow hM
      obtain ⟨hamount, haccrued⟩ := hsame row hrow
      refine .inr ⟨hrunning, ⟨_, rfl, ?_, hamount.symm, haccrued.symm⟩, ?_⟩
      · simp [payout, penalty, hamount, haccrued]
      · refine ⟨{ row with status := .ENDED }, ?_, rfl⟩
        exact (unlockBlock_row hM).trans (congrArg (Option.map _) hrow)
    · exact .inl rfl
  | accruing copy now dailyRate =>
    simp only [resume]
    split
    · exact .inl rfl
    · exact .inl rfl

theorem Orderly.payouts {e : Step} (he : Orderly id s e) :
    ((handlers cache id frequency).step e s).state.payouts = s.state.payouts ∨
      Pays id s ((handlers cache id frequency).step e s).state := by
  cases e with
  | start c => exact .inl rfl
  | resume n o =>
    cases hn : s.running[n]? with
    | none =>
      rw [Handlers.step_resume_none hn]
      exact .inl rfl
    | some t =>
      rw [Handlers.step_resume hn]
      exact resume_payouts (he t hn)
  | outside x =>
    cases x with
    | clock elapsed => exact .inl rfl
    | settle x settledAt nextExecutionAt =>
      simp only [Handlers.step, handlers, outside]
      split
      · split
        · exact .inl rfl
        · exact .inl rfl
      · exact .inl rfl

/-- A stack that was paid out has ended. -/
structure Settled (id : AutoStackId) (s : Unlocks) : Prop where
  sound : PaidOnce s
  ended : s.state.payouts ≠ [] → ∃ row, s.state.row id = some row ∧ row.status = .ENDED

theorem Settled.keepsEnded {e : Step} (he : Orderly id s e) :
    KeepsEnded cache id frequency s e := by
  intro stack hrow hended
  exact ⟨stack, he.frozen hrow hended, rfl, rfl⟩

theorem Settled.step {e : Step} (hs : Settled id s) (he : Orderly id s e) :
    Settled id ((handlers cache id frequency).step e s) := by
  have hcases : ((handlers cache id frequency).step e s).state.payouts = s.state.payouts ∨
      Pays id s ((handlers cache id frequency).step e s).state := he.payouts
  rcases hcases with hsame | hpays
  · refine ⟨⟨?_, ?_⟩, ?_⟩
    · rw [hsame]
      exact hs.sound.once
    · rw [hsame]
      exact hs.sound.paid
    · rw [hsame]
      intro hpaid
      obtain ⟨row, hrow, hended⟩ := hs.ended hpaid
      exact ⟨row, he.frozen hrow hended, hended⟩
  · obtain ⟨p, hp, hpaid⟩ := hpays.payouts
    -- nothing was paid before: the stack had not ended
    have hnil : s.state.payouts = [] := by
      by_contra hne
      obtain ⟨row, hrow, hended⟩ := hs.ended hne
      exact hpays.running row hrow hended
    rw [hnil] at hp
    refine ⟨⟨?_, ?_⟩, fun _ => hpays.ended⟩
    · simp [hp]
    · rw [hp]
      simpa using hpaid

end Steps

/-- In a run of unlocks, accruals and settlements of a stack in which every unlock finds the stack
unended and as it read it, and nothing is added to an ended stack, the stack is paid out at most
once and as it was when it ended, and keeps its amounts from then on. -/
theorem stack_paid_once (cache : ConvertCurrency.DefaultNetworkCache) (id : AutoStackId)
    (frequency : Frequency) (L : Ledger) (now nextExecutionAt nextInterestAt : Nat)
    {events : List Step}
    (h : Run.Along (handlers cache id frequency).step (Orderly id)
      (begun L now nextExecutionAt nextInterestAt) events) :
    Run.Throughout (handlers cache id frequency).step PaidOnce
        (begun L now nextExecutionAt nextInterestAt) events ∧
      Run.Along (handlers cache id frequency).step (KeepsEnded cache id frequency)
        (begun L now nextExecutionAt nextInterestAt) events := by
  have hbegun : Settled id (begun L now nextExecutionAt nextInterestAt) := by
    refine ⟨⟨?_, ?_⟩, ?_⟩
    · simp [begun]
    · simp [begun]
    · simp [begun]
  exact Run.throughout_and_along (fun s hs => hs.sound)
    (fun s e hs he => ⟨hs.step he, Settled.keepsEnded he⟩) hbegun h

/-! ### Runs of one stack -/

/-- A stack of 1000 with 50 of interest, whose owner has a wallet. -/
def stacked : Ledger := { Ledger.empty with
  wallets := (∅ : Table WalletKey Wallet).insert (1, .usdt) { Wallet.empty with
    letterCase := .upper, currencyId := some .usdt, stackedAmount := 1000
    totalStackedInterest := 50 }
  companyLiquidity := (∅ : Table Currency CompanyLiquidity).insert .usdt
    { CompanyLiquidity.empty with totalAmountStacked := 1000, totalAccruedLockedInterest := 50 }
  autoStacks := (∅ : Table AutoStackId AutoStack).insert 1
    { userId := 1, amount := 1000, accruedInterest := 50, status := .ACTIVE } }

/-- One unlock, after the stack's period is over. -/
def unlockedOnce : List Step := [.start .unlock, .resume 0 ()]

theorem unlockedOnce_paid :
    Run.Throughout (handlers (fun _ => none) 1 .DAILY).step PaidOnce (begun stacked 10 10 10)
        unlockedOnce ∧
      Run.Along (handlers (fun _ => none) 1 .DAILY).step (KeepsEnded (fun _ => none) 1 .DAILY)
        (begun stacked 10 10 10) unlockedOnce := by
  refine stack_paid_once (fun _ => none) 1 .DAILY stacked 10 10 10 ⟨trivial, ?_, trivial⟩
  intro t ht
  have hone : stacked.autoStacks.lookup 1 = some ⟨1, 1000, 50, .ACTIVE⟩ := by decide +kernel
  have htask : t = .unlocking ⟨1, 1000, 50, .ACTIVE⟩ false := by
    have hrunning : ((handlers (fun _ => none) 1 .DAILY).step (.start .unlock)
        (begun stacked 10 10 10)).running = [.unlocking ⟨1, 1000, 50, .ACTIVE⟩ false] := by
      decide +kernel
    rw [hrunning] at ht
    simpa [eq_comm] using ht
  subst htask
  constructor
  · intro row hrow
    rw [show Stacking.row _ _ = stacked.autoStacks.lookup 1 from rfl, hone] at hrow
    cases hrow
    decide
  · intro row hrow
    rw [show Stacking.row _ _ = stacked.autoStacks.lookup 1 from rfl, hone] at hrow
    cases hrow
    exact ⟨rfl, rfl⟩

/-- Two unlocks that both read the stack before either commits are both paid. -/
theorem unlockedTwice_paid_twice :
    ¬ ∀ (cache : ConvertCurrency.DefaultNetworkCache) (id : AutoStackId) (frequency : Frequency)
      (L : Ledger) (now nextExecutionAt nextInterestAt : Nat) (events : List Step),
      Run.Throughout (handlers cache id frequency).step PaidOnce
          (begun L now nextExecutionAt nextInterestAt) events ∧
        Run.Along (handlers cache id frequency).step (KeepsEnded cache id frequency)
          (begun L now nextExecutionAt nextInterestAt) events := by
  intro h
  have hrun := h (fun _ => none) 1 .DAILY stacked 10 10 10
    [.start .unlock, .start .unlock, .resume 0 (), .resume 0 ()]
  have honce := hrun.1.last.once
  revert honce
  decide +kernel

end StackUnlocks

end ExchangeLedger
