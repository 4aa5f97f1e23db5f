import ExchangeLedger.Concurrent
import ExchangeLedger.SellAmounts
import ExchangeLedger.AutoStack
import ExchangeLedger.Vault
import ExchangeLedger.Withdrawal

set_option autoImplicit false

/-! Confirm calls that present a quote: what each flow checks before it reserves, how the rows it
creates name the quote, and when the stored quote is deleted. -/

namespace ExchangeLedger

open Block Concurrent

namespace BillsService

structure Confirm where
  userId : UserId
  quoteId : Reference
  crypto : Nat
  fee : Nat
  total : Nat
  netFiat : Nat
  walletDefaultNetwork : Option CryptoNetwork
  deriving DecidableEq, Repr

/-- The transaction gets a random reference. -/
def Confirm.transaction (q : Confirm) (reference : Reference) : Transaction where
  userId := q.userId
  transactionContext := .BILL_PAYMENT
  transactionUniqueId := reference
  currency := .usdt
  letterCase := .upper
  network := none
  cryptoAmountBase := some q.crypto
  fiatAmountBase := q.netFiat
  platformFeeBase := some q.fee
  totalAmountSentBase := some q.total
  executedCryptoAmountBase := none
  executedFiatAmountBase := none
  status := .PENDING
  isProcessed := false
  paymentMetadata := { PaymentMetadata.empty with
    liquidityReservationStatus := some .RESERVED
    liquidityReservationAmount := some q.netFiat }

def Confirm.order (q : Confirm) (reference : Reference) : Order where
  userId := q.userId
  type := .SELL
  fiatAmountBase := q.netFiat
  status := .PENDING
  referenceNo := some reference
  paymentStatus := .PENDING
  paymentReference := none

/-- The block of `confirm` that reserves the funds. -/
def confirmBlock (q : Confirm) (id : TransactionId) (reference : Reference) :
    LedgerBlock Unit := do
  reserveBalance q.userId .usdt q.total (some q.walletDefaultNetwork)
  let reserved ← reserveLiquidity BASE_CURRENCY q.netFiat
  require (reserved = true) (.thrown "Insufficient company NGN liquidity")
  insertTransaction id (q.transaction reference)
  createOrder id (q.order reference)

/-- The catch around the order, before it was accepted. -/
def failBlock (q : Confirm) (id : TransactionId) : LedgerBlock Unit := do
  (releaseBalance q.userId .usdt q.total none).swallow
  (releaseLiquidity BASE_CURRENCY q.netFiat).swallow
  updateTransaction id (fun t => { SellService.setReservationStatus .RELEASED t with
    status := .FAILED })

end BillsService

namespace AutoStackService

/-- How a stack is paid for. -/
inductive Funding where
  | usdtWallet
  | cryptoWallet (asset : Currency) (amount : Nat)
  | card (companyLiquidityAmount ngnAmount : Nat)
  deriving DecidableEq, Repr

/-- A previewed stack. -/
structure Preview where
  userId : UserId
  quoteId : Reference
  funding : Funding
  principalUsdt : Nat
  transactionFee : Nat
  deriving DecidableEq, Repr

/-- The first execution of a stack that was confirmed under a random reference. -/
def Preview.execution (q : Preview) (autoStackId : AutoStackId) (id : TransactionId)
    (reference : Reference) : Execution where
  userId := q.userId
  autoStackId := autoStackId
  id := id
  reference := reference
  sourceAsset := match q.funding with
    | .cryptoWallet asset _ => asset
    | _ => .usdt
  sourceAmount := match q.funding with
    | .cryptoWallet _ amount => amount
    | _ => q.principalUsdt
  principalUsdt := q.principalUsdt
  transactionFee := q.transactionFee
  cryptoWalletPayment := match q.funding with
    | .card _ _ => false
    | _ => true

def Execution.metadata (x : Execution) : PaymentMetadata :=
  { PaymentMetadata.empty with
    autoStackId := some x.autoStackId, cryptoWalletPayment := x.cryptoWalletPayment }

def Execution.transaction (x : Execution) : Transaction where
  userId := x.userId
  transactionContext := .AUTOSTACK
  transactionUniqueId := x.reference
  currency := x.sourceAsset
  letterCase := .upper
  network := none
  cryptoAmountBase := some x.sourceAmount
  fiatAmountBase := 0
  platformFeeBase := none
  totalAmountSentBase := some x.sourceAmount
  executedCryptoAmountBase := none
  executedFiatAmountBase := none
  status := .PENDING
  isProcessed := false
  paymentMetadata := x.metadata

/-- The block of `confirm`: the stack and the transaction of its first execution. -/
def createBlock (x : Execution) : LedgerBlock Unit := do
  let taken ← read (fun L => L.autoStacks.lookup x.autoStackId)
  require (taken = none) (.database false)
  update (fun L => { L with
    autoStacks := L.autoStacks.insert x.autoStackId ⟨x.userId, x.principalUsdt, 0, .PENDING⟩ })
  insertTransaction x.id x.transaction

/-- What `initiatePendingAutoStack` takes or reserves for the first execution. -/
def initiateBlock (cache : ConvertCurrency.DefaultNetworkCache) (funding : Funding)
    (x : Execution) : LedgerBlock Unit :=
  match funding with
  | .usdtWallet => executeUsdtBlock cache x x.metadata true
  | .cryptoWallet _ _ => reserveBlock x x.metadata
  | .card companyLiquidityAmount ngnAmount =>
    reserveCardBlock x x.metadata companyLiquidityAmount ngnAmount

end AutoStackService

namespace QuoteUse

inductive Quote where
  | sell (q : SellService.Confirm)
  | send (q : WithdrawalService.Confirm)
  | swap (q : SwapService.Confirm)
  | vault (q : VaultService.Confirm)
  | autostack (q : AutoStackService.Preview)
  | bill (q : BillsService.Confirm)

/-- The ids that the database and the code hand out for the rows of one confirm call. -/
structure Ids where
  transactionId : TransactionId
  recordId : Nat
  swapRecordId : SwapRecordId
  reference : Reference
  deriving DecidableEq, Repr

structure Quotes where
  ledger : Ledger
  /-- The quote is in the temporary store. -/
  stored : Bool
  /-- `vault_confirm_lock`. -/
  locked : Bool
  /-- The unique column `quoteId` of the vaults. -/
  vaultQuotes : List Reference
  /-- `quoteId` in the metadata of the bill payments. -/
  billQuotes : List Reference
  /-- The stacks that confirm calls have created from the quote. -/
  stackCount : Nat
  /-- The committed debits and reservations that confirm calls have made from the quote. -/
  uses : Nat
  /-- The later reservations of company USDT, and the card charges. -/
  followUps : Nat
  /-- The calls that have found the quote in the store and have not failed before or in their
  block. -/
  holders : Nat

inductive Task where
  | locking
  | reading
  | checking
  | reserving
  /-- A created stack, before its first execution takes or reserves anything. -/
  | initiating (ids : Ids)
  /-- A BTC vault, before the company's USDT is reserved for it. -/
  | quoting (ids : Ids)
  | charging (ids : Ids)
  | calling (ids : Ids) (usdt : Nat)
  | recording (ids : Ids) (usdt : Nat) (answer : Reference) (amount : Nat)
  | compensating (ids : Ids) (usdt : Nat)
  | deleting
  deriving DecidableEq, Repr

inductive Outcome where
  | ok | fails
  | created (ids : Ids)
  | quoted (usdt : Nat)
  | accepted (answer : Reference) (amount : Nat)
  /-- The provider refuses, or the call to it throws. -/
  | refused
  /-- Paystack's balance does not cover the payout. -/
  | short
  deriving DecidableEq, Repr

inductive Reserved where
  | duplicate | queued | reserved
  deriving DecidableEq, Repr

section Flow

variable (cache : ConvertCurrency.DefaultNetworkCache) (rateConfigured : Bool)

/-- The swap records of the quote and its user. -/
def swapSubmitted (q : SwapService.Confirm) (L : Ledger) : Bool :=
  L.swaps.entries.any (fun e => e.2.quoteId = some q.quoteId ∧ e.2.userId = q.userId)

/-- The check for duplicates that a flow makes before its block. -/
def Quote.duplicate : Quote → Ledger → Bool
  | .sell q, L => (L.transactionByUniqueId q.previewId).isSome
  | .swap q, L => swapSubmitted q L
  | _, _ => false

/-- The block that a flow makes its rows in. -/
def Quote.block (ids : Ids) : Quote → LedgerBlock Reserved
  | .sell q => do
    let result ← SellService.confirmBlock q ids.transactionId
    return match result with
      | .duplicate => .duplicate
      | .queued => .queued
      | .reserved => .reserved
  | .send q => do
    let result ← WithdrawalService.confirmBlock q ids.transactionId ids.recordId
    return match result with
      | .duplicate => .duplicate
      | .queued => .queued
      | .reserved => .reserved
  | .swap q => do
    let reserved ← SwapService.confirmBlock q ids.transactionId
    return if reserved then .reserved else .queued
  | .vault q => do
    if q.currency = .btc then
      VaultService.confirmBtcBlock q rateConfigured ids.recordId ids.transactionId ids.swapRecordId
    else VaultService.confirmStableBlock cache q rateConfigured ids.recordId
    return .reserved
  | .autostack q => do
    AutoStackService.createBlock (q.execution ids.recordId ids.transactionId ids.reference)
    return .reserved
  | .bill q => do
    BillsService.confirmBlock q ids.transactionId ids.reference
    return .reserved

/-- The provider's answer is recorded. -/
def Quote.record (ids : Ids) (answer : Reference) (amount : Nat) : Quote → LedgerBlock Unit
  | .sell _ | .bill _ => SellService.recordBlock ids.transactionId (some answer)
  | .send _ => WithdrawalService.recordBlock ids.transactionId ids.recordId answer
  | .swap q => SwapService.recordBlock q ids.transactionId ids.swapRecordId answer amount
  | .vault _ => VaultService.recordSwapBlock ids.transactionId ids.swapRecordId answer amount
  | .autostack q =>
    AutoStackService.submitBlock (q.execution ids.recordId ids.transactionId ids.reference)
      ids.swapRecordId answer

def Quote.compensate (ids : Ids) (usdt : Nat) : Quote → LedgerBlock Unit
  | .sell q => SellService.rejectedBlock q ids.transactionId
  | .send q => WithdrawalService.compensateBlock q ids.transactionId ids.recordId
  | .swap q => SwapService.releaseBlock q ids.transactionId
  | .vault q =>
    VaultService.exchangeFailedBlock q ids.recordId ids.transactionId ids.swapRecordId usdt
  | .autostack q =>
    AutoStackService.failBlock (q.execution ids.recordId ids.transactionId ids.reference)
  | .bill q => BillsService.failBlock q ids.transactionId

/-- Only the vaults have a unique column for the quote itself. -/
def Quote.taken (s : Quotes) : Quote → Bool
  | .vault q => q.quoteId ∈ s.vaultQuotes
  | _ => false

/-- What a committed block leaves. -/
def Quote.book (r : Reserved) (M : Ledger) (s : Quotes) : Quote → Quotes
  | .vault q => { s with
    ledger := M, vaultQuotes := q.quoteId :: s.vaultQuotes, uses := s.uses + 1 }
  | .bill q => { s with ledger := M, billQuotes := q.quoteId :: s.billQuotes, uses := s.uses + 1 }
  | .autostack _ => { s with ledger := M, stackCount := s.stackCount + 1 }
  | _ => { s with ledger := M, uses := if r = .duplicate then s.uses else s.uses + 1 }

/-- How a confirm call goes on after its block. -/
def Quote.afterBlock (ids : Ids) : Reserved → Quote → Option Task
  | .duplicate, .sell _ | .queued, .sell _ | .queued, .swap _ => some .deleting
  | .reserved, .vault q => if q.currency = .btc then some (.quoting ids) else some .deleting
  | .reserved, .autostack _ => some (.initiating ids)
  | .reserved, _ => some (.calling ids 0)
  | _, _ => none

/-- How it goes on after the first execution of a stack took or reserved its part. -/
def afterInitiation (ids : Ids) : AutoStackService.Funding → Option Task
  | .usdtWallet => none
  | .cryptoWallet _ _ => some (.calling ids 0)
  | .card _ _ => some (.charging ids)

/-- The flows whose catch compensates when recording the answer fails. -/
def Quote.recordingFails (ids : Ids) (usdt : Nat) : Quote → Option Task
  | .vault _ | .autostack _ => some (.compensating ids usdt)
  | .bill _ => some .deleting
  | _ => none

/-- Only a swap's catch deletes the quote; an accepted one deletes it, but for autostack. -/
def Quote.afterCompensation : Quote → Option Task
  | .swap _ => some .deleting
  | _ => none

def Quote.afterRecording : Quote → Option Task
  | .autostack _ => none
  | _ => some .deleting

/-- `finally`: a vault's confirm call gives the lock back. -/
def Quote.unlock (s : Quotes) : Quote → Quotes
  | .vault _ => { s with locked := false }
  | _ => s

def Quote.ends (q : Quote) (s : Quotes) : Quotes × Option Task := (q.unlock s, none)

def Quote.goes (q : Quote) (s : Quotes) (next : Option Task) : Quotes × Option Task :=
  (if next.isNone then q.unlock s else s, next)

/-- One step of a confirm call. -/
def resume (q : Quote) (t : Task) (o : Outcome) (s : Quotes) : Quotes × Option Task :=
  match t, o with
  | .locking, .ok => if s.locked then (s, none) else ({ s with locked := true }, some .reading)
  | .reading, .ok => q.goes s (if s.stored then some .checking else none)
  | .checking, .ok => q.goes s (if q.duplicate s.ledger then none else some .reserving)
  | .reserving, .created ids =>
    if q.taken s then q.ends s
    else match q.block cache rateConfigured ids s.ledger with
      | .ok (r, M) => q.goes (q.book r M s) (q.afterBlock ids r)
      | .error _ => q.ends s
  | .initiating ids, .ok =>
    match q with
    | .autostack p =>
      match AutoStackService.initiateBlock cache p.funding
          (p.execution ids.recordId ids.transactionId ids.reference) s.ledger with
      | .ok (_, M) => ({ s with ledger := M, uses := s.uses + 1 }, afterInitiation ids p.funding)
      | .error _ => (s, some (.compensating ids 0))
    | _ => q.ends s
  | .quoting ids, .quoted usdt =>
    match reserveLiquidity .usdt usdt s.ledger with
    | .ok (true, M) => ({ s with ledger := M, followUps := s.followUps + 1 },
        some (.calling ids usdt))
    | _ => (s, some (.compensating ids usdt))
  | .quoting ids, .refused => (s, some (.compensating ids 0))
  | .charging _, .ok => ({ s with followUps := s.followUps + 1 }, none)
  | .charging ids, .refused => (s, some (.compensating ids 0))
  | .calling ids usdt, .accepted answer amount => (s, some (.recording ids usdt answer amount))
  | .calling ids usdt, .refused => (s, some (.compensating ids usdt))
  | .calling ids _, .short =>
    match q with
    | .sell p => ({ s with
        ledger := (SellService.paystackShortBlock p ids.transactionId).commit s.ledger },
        some .deleting)
    | _ => q.ends s
  | .recording ids _ answer amount, .ok =>
    q.goes { s with ledger := (q.record ids answer amount).commit s.ledger } q.afterRecording
  | .recording ids usdt _ _, .refused => q.goes s (q.recordingFails ids usdt)
  | .compensating ids usdt, .ok =>
    q.goes { s with ledger := (q.compensate ids usdt).commit s.ledger } q.afterCompensation
  | .deleting, .ok => q.ends { s with stored := false }
  | _, _ => q.ends s

end Flow

def Task.beforeBlock : Task → Bool
  | .checking | .reserving => true
  | _ => false

/-- A call holds the quote once it has found it, until it ends before its block has committed. -/
def held (t : Task) (next : Option Task) (holders : Nat) : Nat :=
  if t = .reading then holders + (next.any Task.beforeBlock).toNat
  else if t.beforeBlock = true ∧ next = none then holders - 1
  else holders

def resumeHeld (cache : ConvertCurrency.DefaultNetworkCache) (rateConfigured : Bool) (q : Quote)
    (t : Task) (o : Outcome) (s : Quotes) : Quotes × Option Task :=
  let r := resume cache rateConfigured q t o s
  ({ r.1 with holders := held t r.2 s.holders }, r.2)

/-- A vault's confirm call takes the lock before anything else. -/
def start (q : Quote) (_ : Quotes) : Option Task :=
  match q with
  | .vault _ => some .locking
  | _ => some .reading

inductive Expiry where
  | quote | lock
  deriving DecidableEq, Repr

/-- Confirm calls of one quote, while the quote and the lock expire. -/
def confirms (cache : ConvertCurrency.DefaultNetworkCache) (rateConfigured : Bool) (q : Quote) :
    Handlers Quotes Task Unit Outcome Expiry where
  start := fun _ => start q
  resume := resumeHeld cache rateConfigured q
  outside
    | .quote, s => { s with stored := false }
    | .lock, s => { s with locked := false }

/-! ### What marks a used quote -/

/-- A transaction goes by the reference. -/
def Named (reference : Reference) (L : Ledger) : Prop :=
  L.transactions.Any (fun t => t.transactionUniqueId = reference)

/-- A withdrawal goes by the reference. -/
def Sent (reference : Reference) (L : Ledger) : Prop :=
  L.withdrawals.Any (fun w => w.reference = some reference)

def Submitted (q : SwapService.Confirm) (L : Ledger) : Prop :=
  L.swaps.Any (fun s => s.quoteId = some q.quoteId ∧ s.userId = q.userId)

theorem named_iff {reference : Reference} {L : Ledger} :
    (L.transactionByUniqueId reference).isSome = true ↔ Named reference L := by
  rw [Named, ← Table.any_entries, Ledger.transactionByUniqueId, Option.isSome_map,
    List.isSome_find?]

theorem sent_iff {reference : Reference} {L : Ledger} :
    (L.withdrawalByReference reference).isSome = true ↔ Sent reference L := by
  rw [Sent, ← Table.any_entries, Ledger.withdrawalByReference, Option.isSome_map,
    List.isSome_find?]

theorem submitted_iff {q : SwapService.Confirm} {L : Ledger} :
    swapSubmitted q L = true ↔ Submitted q L := by
  rw [Submitted, ← Table.any_entries, swapSubmitted]

theorem onBalances_named {α : Type} {x : LedgerBlock α} (hx : OnBalances x)
    (reference : Reference) : Preserves (Named reference) x := hx.preserves fun _ => Iff.rfl

theorem updateTransaction_named (reference : Reference) (id : TransactionId)
    {f : Transaction → Transaction}
    (hf : ∀ t, (f t).transactionUniqueId = t.transactionUniqueId) :
    Preserves (Named reference) (updateTransaction id f) :=
  preserves_update fun _ hL => hL.modify id fun t ht => (hf t).trans ht

theorem createFailedCompanyLiquidity_named (reference : Reference) (id : TransactionId)
    (c : Currency) (amount : Nat) :
    Preserves (Named reference) (createFailedCompanyLiquidity id c amount) := by
  refine preserves_bind (preserves_read _) fun _ => ?_
  refine preserves_bind (preserves_require _ _) fun _ => ?_
  exact preserves_update fun _ hL => hL

theorem insertTransaction_named {id : TransactionId} {row : Transaction} {L M : Ledger} {u : Unit}
    (h : (insertTransaction id row).Commits L u M) :
    ¬ Named row.transactionUniqueId L ∧ Named row.transactionUniqueId M := by
  obtain ⟨-, hfree, rfl⟩ := insertTransaction_commits.mp h
  rw [← named_iff, hfree]
  exact ⟨by simp, Table.any_insert id rfl⟩

theorem sell_claims {q : SellService.Confirm} {id : TransactionId} {L M : Ledger}
    {r : SellService.ConfirmResult} (h : (SellService.confirmBlock q id).Commits L r M) :
    (r = .duplicate ∧ M = L) ∨ (¬ Named q.previewId L ∧ Named q.previewId M) := by
  simp only [SellService.confirmBlock, commits_requireMinimum_bind, commits_read_bind] at h
  replace h := h.2
  split at h
  · rw [commits_pure] at h
    exact .inl ⟨h.1.symm, h.2.symm⟩
  · rename_i hfree
    rw [named_iff] at hfree
    obtain ⟨_, A, -, h⟩ := commits_bind.mp h
    rw [commits_read_bind] at h
    obtain ⟨_, B, hinsert, h⟩ := commits_bind.mp h
    refine .inr ⟨hfree, ?_⟩
    have hrest : Preserves (Named q.previewId) (do
        createOrder id (q.order
          (decide ((q.netFiat : Int) ≤ getAvailableLiquidity A BASE_CURRENCY)))
        if decide ((q.netFiat : Int) ≤ getAvailableLiquidity A BASE_CURRENCY) then
          let reserved ← reserveLiquidity BASE_CURRENCY q.netFiat
          if reserved then
            updateTransaction id (SellService.setReservationStatus .RESERVED)
            return SellService.ConfirmResult.reserved
          else
            createFailedCompanyLiquidity id BASE_CURRENCY q.netFiat
            return .queued
        else
          createFailedCompanyLiquidity id BASE_CURRENCY q.netFiat
          return .queued) := by
      have hqueue : Preserves (Named q.previewId) (do
          createFailedCompanyLiquidity id BASE_CURRENCY q.netFiat
          return SellService.ConfirmResult.queued) :=
        preserves_bind (createFailedCompanyLiquidity_named _ _ _ _) fun _ => preserves_pure _
      refine preserves_bind (preserves_update fun _ hL => hL) fun _ => ?_
      refine preserves_ite ?_ hqueue
      refine preserves_bind (onBalances_named (reserveLiquidity_onBalances _ _) _) fun _ => ?_
      refine preserves_ite ?_ hqueue
      exact preserves_bind (updateTransaction_named _ _ fun _ => rfl) fun _ => preserves_pure _
    exact hrest B r M (insertTransaction_named hinsert).2 h

theorem send_claims {q : WithdrawalService.Confirm} {id : TransactionId}
    {withdrawalId : WithdrawalId} {L M : Ledger} {r : WithdrawalService.ConfirmResult}
    (h : (WithdrawalService.confirmBlock q id withdrawalId).Commits L r M) :
    (r = .duplicate ∧ M = L) ∨ (¬ Sent q.previewId L ∧ Sent q.previewId M) := by
  simp only [WithdrawalService.confirmBlock, commits_requireMinimum_bind, commits_read_bind] at h
  replace h := h.2
  split at h
  · rw [commits_pure] at h
    exact .inl ⟨h.1.symm, h.2.symm⟩
  · rename_i hfree
    rw [sent_iff] at hfree
    refine .inr ⟨hfree, ?_⟩
    obtain ⟨_, A, -, h⟩ := commits_bind.mp h
    obtain ⟨_, B, -, h⟩ := commits_bind.mp h
    obtain ⟨_, C, -, h⟩ := commits_bind.mp h
    obtain ⟨_, D, hcreate, h⟩ := commits_bind.mp h
    simp only [createWithdrawal, commits_read_bind, commits_require_bind,
      commits_update] at hcreate
    have hD : Sent q.previewId D := by
      rw [← hcreate.2]
      exact Table.any_insert withdrawalId rfl
    split at h
    · rw [← (commits_pure.mp h).2]
      exact hD
    · obtain ⟨_, E, hrecord, h⟩ := commits_bind.mp h
      rw [← (commits_pure.mp h).2]
      have hframe := SellService.createFailedCompanyLiquidity_frame hrecord
      rw [hframe]
      exact hD

theorem swap_claims {q : SwapService.Confirm} {id : TransactionId} {L M : Ledger} {r : Bool}
    (h : (SwapService.confirmBlock q id).Commits L r M) :
    ¬ Named q.quoteId L ∧ Named q.quoteId M := by
  obtain ⟨-, h⟩ := commits_requireMinimum_bind.mp h
  obtain ⟨_, A, hinsert, h⟩ := commits_bind.mp h
  have hA := insertTransaction_named hinsert
  refine ⟨hA.1, ?_⟩
  obtain ⟨_, B, hreserve, h⟩ := commits_bind.mp h
  have hB := onBalances_named (reserveBalance_onBalances _ _ _ _) _ _ _ _ hA.2 hreserve
  obtain ⟨_, C, hliquidity, h⟩ := commits_bind.mp h
  have hC := onBalances_named (reserveLiquidity_onBalances _ _) _ _ _ _ hB hliquidity
  split at h
  · rw [← (commits_pure.mp h).2]
    exact hC
  · obtain ⟨_, D, hrecord, h⟩ := commits_bind.mp h
    rw [← (commits_pure.mp h).2]
    exact createFailedCompanyLiquidity_named _ _ _ _ _ _ _ hC hrecord

/-- The quote is marked as used. -/
def Quote.Claimed (s : Quotes) : Quote → Prop
  | .sell q => Named q.previewId s.ledger
  | .send q => Sent q.previewId s.ledger
  | .swap q => Named q.quoteId s.ledger ∨ Submitted q s.ledger
  | .vault q => q.quoteId ∈ s.vaultQuotes
  | .bill q => q.quoteId ∈ s.billQuotes
  | .autostack _ => 0 < s.stackCount

/-- Nothing of the quote that its block would miss is there: the record of a swap, which outlives
the quote's id, and what the flows of bills and stacks never look for. -/
def Quote.Fresh (s : Quotes) : Quote → Prop
  | .swap q => swapSubmitted q s.ledger = false
  | .bill q => q.quoteId ∉ s.billQuotes
  | .autostack _ => s.stackCount = 0
  | _ => True

def Task.initiates : Task → Bool
  | .initiating _ => true
  | _ => false

def Task.follows : Task → Bool
  | .quoting _ | .charging _ => true
  | _ => false

/-- Used once at most, and marked when it is used. -/
structure Single (q : Quote) (s : System Quotes Task) : Prop where
  once : s.state.uses + s.running.countP Task.initiates ≤ 1
  claimed : 0 < s.state.uses + s.running.countP Task.initiates → q.Claimed s.state
  followed : s.state.followUps + s.running.countP Task.follows ≤ s.state.uses

/-- What a task's step leaves behind: a use comes from one that the task was about to make, or
from a quote that was not marked. -/
structure Resumed (q : Quote) (s : Quotes) (t : Task) (r : Quotes × Option Task) : Prop where
  claimed : q.Claimed s → q.Claimed r.1
  used : r.1.uses + (r.2.any Task.initiates).toNat ≤ s.uses + t.initiates.toNat ∨
    (¬ q.Claimed s ∧ q.Claimed r.1 ∧ r.1.uses + (r.2.any Task.initiates).toNat ≤ s.uses + 1)
  followed : r.1.followUps + (r.2.any Task.follows).toNat + s.uses ≤
    s.followUps + t.follows.toNat + r.1.uses

section Steps

variable {cache : ConvertCurrency.DefaultNetworkCache} {rateConfigured : Bool} {q : Quote}
  {s : Quotes} {t : Task}

theorem unlock_claimed : q.Claimed (q.unlock s) ↔ q.Claimed s := by
  cases q <;> exact Iff.rfl

theorem unlock_uses : (q.unlock s).uses = s.uses := by
  cases q <;> rfl

theorem unlock_followUps : (q.unlock s).followUps = s.followUps := by
  cases q <;> rfl

theorem Resumed.goes {s' : Quotes} {next : Option Task} (h : Resumed q s t (s', next)) :
    Resumed q s t (q.goes s' next) := by
  unfold Quote.goes
  split
  · obtain ⟨hclaimed, hused, hfollowed⟩ := h
    constructor
    · exact fun hs => unlock_claimed.mpr (hclaimed hs)
    · simpa only [unlock_claimed, unlock_uses] using hused
    · simpa only [unlock_uses, unlock_followUps] using hfollowed
  · exact h

theorem Resumed.quiet {M : Ledger} {next : Option Task}
    (hM : q.Claimed s → q.Claimed { s with ledger := M })
    (hinitiates : next.any Task.initiates = false) (hfollows : next.any Task.follows = false) :
    Resumed q s t ({ s with ledger := M }, next) := by
  constructor
  · exact hM
  · left
    simp [hinitiates]
  · simp [hfollows]

theorem Resumed.still {next : Option Task} (hinitiates : next.any Task.initiates = false)
    (hfollows : next.any Task.follows = false) : Resumed q s t (s, next) :=
  .quiet (M := s.ledger) id hinitiates hfollows

theorem Resumed.stores (stored locked : Bool) {next : Option Task}
    (hinitiates : next.any Task.initiates = false) (hfollows : next.any Task.follows = false) :
    Resumed q s t ({ s with stored := stored, locked := locked }, next) := by
  constructor
  · intro hs
    cases q <;> exact hs
  · left
    simp [hinitiates]
  · simp [hfollows]

theorem Resumed.ends : Resumed q s t (q.ends s) := by
  have h : Resumed q s t (s, none) := .still rfl rfl
  exact h.goes

theorem Resumed.claims {s' : Quotes} {next : Option Task} (hfresh : ¬ q.Claimed s)
    (hclaimed : q.Claimed s')
    (huses : s'.uses + (next.any Task.initiates).toNat = s.uses + 1)
    (hfollowUps : s'.followUps = s.followUps)
    (hfollows : (next.any Task.follows).toNat + s.uses ≤ s'.uses) :
    Resumed q s t (s', next) := by
  constructor
  · exact fun _ => hclaimed
  · exact .inr ⟨hfresh, hclaimed, huses.le⟩
  · simp only [hfollowUps]
    omega

theorem record_keeps (ids : Ids) (answer : Reference) (amount : Nat) :
    Preserves (fun L => q.Claimed { s with ledger := L }) (q.record ids answer amount) := by
  cases q with
  | sell q => exact preserves_update fun _ hL => hL
  | send q =>
    refine preserves_bind (preserves_update fun _ hL => hL) fun _ => ?_
    exact preserves_update fun _ hL => hL.modify _ fun _ hw => hw
  | swap q =>
    intro L u M hL h
    obtain ⟨_, A, -, h⟩ := commits_bind.mp h
    simp only [createSwap, commits_read_bind, commits_require_bind, commits_update] at h
    rw [← h.2]
    exact .inr (Table.any_insert ids.swapRecordId ⟨rfl, rfl⟩)
  | vault q => exact fun _ _ _ hL _ => hL
  | autostack q => exact fun _ _ _ hL _ => hL
  | bill q => exact fun _ _ _ hL _ => hL

theorem compensate_keeps (ids : Ids) (usdt : Nat) :
    Preserves (fun L => q.Claimed { s with ledger := L }) (q.compensate ids usdt) := by
  cases q with
  | sell q =>
    refine preserves_bind (onBalances_named (releaseBalance_onBalances _ _ _ _) _) fun _ => ?_
    refine preserves_bind (onBalances_named (releaseLiquidity_onBalances _ _) _) fun _ => ?_
    refine preserves_bind (updateTransaction_named _ _ fun _ => rfl) fun _ => ?_
    exact preserves_update fun _ hL => hL
  | send q =>
    have hbalances {α : Type} {x : LedgerBlock α} (hx : OnBalances x) :
        Preserves (Sent q.previewId) x := hx.preserves fun _ => Iff.rfl
    refine preserves_bind (hbalances (releaseBalance_onBalances _ _ _ _)) fun _ => ?_
    refine preserves_bind (hbalances (releaseLiquidity_onBalances _ _)) fun _ => ?_
    refine preserves_bind (preserves_update fun _ hL => hL) fun _ => ?_
    exact preserves_update fun _ hL => hL.modify _ fun _ hw => hw
  | swap q =>
    have hbalances {α : Type} {x : LedgerBlock α} (hx : OnBalances x) :
        Preserves (fun L => Named q.quoteId L ∨ Submitted q L) x :=
      hx.preserves fun _ => Iff.rfl
    refine preserves_bind (hbalances (releaseBalance_onBalances _ _ _ _)) fun _ => ?_
    refine preserves_bind (hbalances (releaseLiquidity_onBalances _ _)) fun _ => ?_
    exact preserves_update fun _ hL => hL.imp (fun h => h.modify _ fun _ ht => ht) id
  | vault q => exact fun _ _ _ hL _ => hL
  | autostack q => exact fun _ _ _ hL _ => hL
  | bill q => exact fun _ _ _ hL _ => hL

theorem paystackShort_keeps (p : SellService.Confirm) (id : TransactionId) :
    Preserves (Named p.previewId) (SellService.paystackShortBlock p id) := by
  refine preserves_bind (onBalances_named (releaseLiquidity_onBalances _ _) _) fun _ => ?_
  refine preserves_bind (preserves_update fun _ hL => hL) fun _ => ?_
  exact updateTransaction_named _ _ fun _ => rfl

theorem reserveLiquidity_keeps (c : Currency) (amount : Nat) :
    Preserves (fun L => q.Claimed { s with ledger := L }) (reserveLiquidity c amount) := by
  have hrecords : ∀ L : Ledger, q.Claimed { s with ledger := L.records } ↔
      q.Claimed { s with ledger := L } := by
    intro L
    cases q <;> exact Iff.rfl
  exact (reserveLiquidity_onBalances c amount).preserves hrecords

theorem Resumed.reserves {M : Ledger} {r : Reserved} {next : Option Task}
    (hfresh : ¬ q.Claimed s) (hclaimed : q.Claimed { s with ledger := M })
    (hinitiates : next.any Task.initiates = false) (hfollows : next.any Task.follows = false) :
    Resumed q s t ({ s with
      ledger := M, uses := if r = .duplicate then s.uses else s.uses + 1 }, next) := by
  have hmarked : q.Claimed { s with
      ledger := M, uses := if r = .duplicate then s.uses else s.uses + 1 } := by
    cases q <;> exact hclaimed
  constructor
  · exact fun _ => hmarked
  · refine .inr ⟨hfresh, hmarked, ?_⟩
    simp only [hinitiates, Bool.toNat_false, add_zero]
    split <;> omega
  · simp only [hfollows, Bool.toNat_false, add_zero]
    split <;> omega

theorem block_resumed {ids : Ids} {r : Reserved} {M : Ledger} (hfresh : q.Fresh s)
    (htaken : q.taken s = false)
    (h : (q.block cache rateConfigured ids).Commits s.ledger r M) :
    Resumed q s .reserving (q.book r M s, q.afterBlock ids r) := by
  cases q with
  | sell q =>
    obtain ⟨result, A, hblock, h⟩ := commits_bind.mp h
    obtain ⟨rfl, rfl⟩ := commits_pure.mp h
    rcases sell_claims hblock with ⟨rfl, rfl⟩ | hclaims
    · exact .still rfl rfl
    · exact .reserves hclaims.1 hclaims.2 (by cases result <;> rfl) (by cases result <;> rfl)
  | send q =>
    obtain ⟨result, A, hblock, h⟩ := commits_bind.mp h
    obtain ⟨rfl, rfl⟩ := commits_pure.mp h
    rcases send_claims hblock with ⟨rfl, rfl⟩ | hclaims
    · exact .still rfl rfl
    · exact .reserves hclaims.1 hclaims.2 (by cases result <;> rfl) (by cases result <;> rfl)
  | swap q =>
    obtain ⟨result, A, hblock, h⟩ := commits_bind.mp h
    obtain ⟨rfl, rfl⟩ := commits_pure.mp h
    have hclaims := swap_claims hblock
    have hnew : ¬ (Quote.swap q).Claimed s := by
      rintro (hnamed | hsubmitted)
      · exact hclaims.1 hnamed
      · rw [← submitted_iff] at hsubmitted
        exact Bool.false_ne_true (hfresh.symm.trans hsubmitted)
    exact .reserves hnew (.inl hclaims.2) (by cases result <;> rfl) (by cases result <;> rfl)
  | vault q =>
    have hnew : q.quoteId ∉ s.vaultQuotes := of_decide_eq_false htaken
    have hreserved : .reserved = r := by
      simp only [Quote.block] at h
      split at h
      · obtain ⟨_, A, -, h⟩ := commits_bind.mp h
        exact (commits_pure.mp h).1
      · obtain ⟨_, A, -, h⟩ := commits_bind.mp h
        exact (commits_pure.mp h).1
    subst hreserved
    have hnext : ((Quote.vault q).afterBlock ids .reserved).any Task.initiates = false := by
      by_cases hbtc : q.currency = .btc <;> simp [Quote.afterBlock, hbtc, Task.initiates]
    apply Resumed.claims
    · exact hnew
    · exact List.mem_cons_self ..
    · simp [hnext, Quote.book]
    · rfl
    · have hle := Bool.toNat_le (((Quote.vault q).afterBlock ids .reserved).any Task.follows)
      simp only [Quote.book]
      omega
  | autostack q =>
    obtain ⟨_, A, -, h⟩ := commits_bind.mp h
    obtain ⟨rfl, -⟩ := commits_pure.mp h
    have hnone : s.stackCount = 0 := hfresh
    apply Resumed.claims
    · simp [Quote.Claimed, hnone]
    · simp [Quote.Claimed, Quote.book]
    · rfl
    · rfl
    · simp [Quote.book, Quote.afterBlock, Task.follows]
  | bill q =>
    obtain ⟨_, A, -, h⟩ := commits_bind.mp h
    obtain ⟨rfl, -⟩ := commits_pure.mp h
    apply Resumed.claims
    · exact hfresh
    · exact List.mem_cons_self ..
    · rfl
    · rfl
    · simp [Quote.book, Quote.afterBlock, Task.follows]

theorem initiating_resumed (p : AutoStackService.Preview) (ids : Ids) :
    Resumed (.autostack p) s (.initiating ids)
      (resume cache rateConfigured (.autostack p) (.initiating ids) .ok s) := by
  simp only [resume]
  split
  · have hinitiates : (afterInitiation ids p.funding).any Task.initiates = false := by
      cases p.funding <;> rfl
    have hle := Bool.toNat_le ((afterInitiation ids p.funding).any Task.follows)
    constructor
    · exact id
    · left
      simp [hinitiates, Task.initiates]
    · simp only [Task.follows, Bool.toNat_false]
      omega
  · exact .still rfl rfl

theorem quoting_resumed (ids : Ids) (usdt : Nat) :
    Resumed q s (.quoting ids)
      (resume cache rateConfigured q (.quoting ids) (.quoted usdt) s) := by
  simp only [resume]
  split
  · rename_i M hM
    have hclaimed := reserveLiquidity_keeps (q := q) (s := s) .usdt usdt s.ledger true M
    constructor
    · intro hs
      have h := hclaimed hs hM
      cases q <;> exact h
    · left
      simp [Task.initiates]
    · simp [Task.follows]
  · exact .still rfl rfl

theorem resume_resumed (t : Task) (o : Outcome) (s : Quotes)
    (hfresh : t = .reserving → q.Fresh s) :
    Resumed q s t (resume cache rateConfigured q t o s) := by
  unfold resume
  split
  · -- the lock of the vaults
    split
    · exact .still rfl rfl
    · exact .stores s.stored true rfl rfl
  · apply Resumed.goes
    split <;> exact .still rfl rfl
  · apply Resumed.goes
    split <;> exact .still rfl rfl
  · split
    · exact .ends
    · rename_i htaken
      split
      · rename_i r M hblock
        exact (block_resumed (hfresh rfl) (Bool.not_eq_true _ ▸ htaken) hblock).goes
      · exact .ends
  · rename_i ids
    cases q with
    | autostack p => exact @initiating_resumed cache rateConfigured s p ids
    | _ => exact .ends
  · exact @quoting_resumed cache rateConfigured q s _ _
  · exact .still rfl rfl
  · constructor
    · intro hs
      cases q <;> exact hs
    · left
      simp [Task.initiates]
    · simp [Task.follows]
  · exact .still rfl rfl
  · exact .still rfl rfl
  · exact .still rfl rfl
  · split
    · rename_i p
      exact .quiet (paystackShort_keeps p _).commit rfl rfl
    · exact .ends
  · refine (Resumed.quiet (record_keeps _ _ _).commit ?_ ?_).goes
    · cases q <;> rfl
    · cases q <;> rfl
  · apply Resumed.goes
    cases q <;> exact .still rfl rfl
  · refine (Resumed.quiet (compensate_keeps _ _).commit ?_ ?_).goes
    · cases q <;> rfl
    · cases q <;> rfl
  · have h : Resumed q s .deleting ({ s with stored := false }, none) :=
      .stores false s.locked rfl rfl
    exact h.goes
  · exact .ends

theorem Resumed.holding {r : Quotes × Option Task} (h : Resumed q s t r) {holders : Nat} :
    Resumed q s t ({ r.1 with holders := holders }, r.2) := by
  obtain ⟨hclaimed, hused, hfollowed⟩ := h
  have hsame : q.Claimed { r.1 with holders := holders } ↔ q.Claimed r.1 := by
    cases q <;> exact Iff.rfl
  exact ⟨fun hs => hsame.mpr (hclaimed hs), by rwa [hsame], hfollowed⟩

/-! ### Quotes that a second call can take -/

/-- The flows whose blocks look for no trace of an earlier use. -/
def Quote.renews : Quote → Bool
  | .autostack _ | .bill _ => true
  | _ => false

def Quote.marks (s : Quotes) : Quote → Nat
  | .autostack _ => s.stackCount
  | .bill q => s.billQuotes.count q.quoteId
  | _ => 0

/-- A step moves a call from before its block to a mark, or lets go of the quote. -/
def Steady (q : Quote) (s : Quotes) (t : Task) (r : Quotes × Option Task) : Prop :=
  q.marks r.1 + (r.2.any Task.beforeBlock).toNat + s.holders ≤
    q.marks s + t.beforeBlock.toNat + held t r.2 s.holders

theorem unlock_marks : q.marks (q.unlock s) = q.marks s := by
  cases q <;> rfl

theorem Steady.goes {s' : Quotes} {next : Option Task} (h : Steady q s t (s', next)) :
    Steady q s t (q.goes s' next) := by
  unfold Quote.goes
  split
  · simpa only [Steady, unlock_marks] using h
  · exact h

theorem Steady.still {s' : Quotes} {next : Option Task} (hmarks : q.marks s' = q.marks s)
    (hbefore : next.any Task.beforeBlock = false) (hends : t.beforeBlock = true → next = none) :
    Steady q s t (s', next) := by
  simp only [Steady, hmarks, hbefore, Bool.toNat_false, held]
  split
  · omega
  · split
    · rename_i h
      rw [h.1]
      simp only [Bool.toNat_true]
      omega
    · omega

theorem Steady.ends : Steady q s t (q.ends s) := by
  have h : Steady q s t (s, none) := .still rfl rfl fun _ => rfl
  exact h.goes

theorem reading_unstored {o : Outcome} (h : ¬ s.stored = true) :
    (resume cache rateConfigured q .reading o s).2 = none := by
  cases o <;> simp [resume, h, Quote.goes, Quote.ends]

end Steps

abbrev ConfirmEvent := Event Unit Outcome Expiry

abbrev ConfirmSystem := System Quotes Task

/-- The block of a swap runs before another swap of the quote is recorded; a stack's or a bill's
quote is found by a call only after the calls that found it before have all failed. -/
def OrderlyStep (q : Quote) (s : ConfirmSystem) : ConfirmEvent → Prop
  | .resume n _ =>
    match q with
    | .swap q => s.running[n]? = some .reserving → swapSubmitted q s.state.ledger = false
    | .autostack _ | .bill _ =>
      s.running[n]? = some .reading → s.state.stored = true → s.state.holders = 0
    | _ => True
  | _ => True

section Single

variable {cache : ConvertCurrency.DefaultNetworkCache} {rateConfigured : Bool} {q : Quote}
  {s : ConfirmSystem}

theorem Single.resume (hs : Single q s) {n : Nat} {t : Task} (ht : s.running[n]? = some t)
    (o : Outcome) (hfresh : t = .reserving → q.Fresh s.state) :
    Single q ((confirms cache rateConfigured q).step (.resume n o) s) := by
  have hresumed : Resumed q s.state t (resumeHeld cache rateConfigured q t o s.state) :=
    (resume_resumed t o s.state hfresh).holding
  obtain ⟨hkept, hused, hfollows⟩ := hresumed
  have hinitiating := Handlers.countP_resume (h := confirms cache rateConfigured q)
    Task.initiates ht o
  have hfollowing := Handlers.countP_resume (h := confirms cache rateConfigured q)
    Task.follows ht o
  have hstate : ((confirms cache rateConfigured q).step (.resume n o) s).state =
      (resumeHeld cache rateConfigured q t o s.state).1 := by
    rw [Handlers.step_resume ht]
    rfl
  have honce := hs.once
  have hfollowed := hs.followed
  have hnext : ((confirms cache rateConfigured q).resume t o s.state).2 =
      (resumeHeld cache rateConfigured q t o s.state).2 := rfl
  rw [hnext] at hinitiating hfollowing
  constructor
  · rw [hstate]
    rcases hused with hused | ⟨hfree, -, hused⟩
    · omega
    · have hnone := mt hs.claimed hfree
      omega
  · rw [hstate]
    intro hpos
    rcases hused with hused | ⟨-, hnow, -⟩
    · exact hkept (hs.claimed (by omega))
    · exact hnow
  · rw [hstate]
    omega

theorem Single.step (e : ConfirmEvent) (hs : Single q s)
    (he : ∀ n o, e = .resume n o → s.running[n]? = some .reserving → q.Fresh s.state) :
    Single q ((confirms cache rateConfigured q).step e s) := by
  cases e with
  | start _ =>
    obtain ⟨honce, hclaimed, hfollowed⟩ := hs
    have hinitiates : (start q s.state).any Task.initiates = false := by
      cases q <;> rfl
    have hfollows : (start q s.state).any Task.follows = false := by
      cases q <;> rfl
    simp only [Handlers.step, confirms]
    constructor
    · simpa [Handlers.countP_toList, hinitiates] using honce
    · simpa [Handlers.countP_toList, hinitiates] using hclaimed
    · simpa [Handlers.countP_toList, hfollows] using hfollowed
  | resume n o =>
    cases ht : s.running[n]? with
    | none =>
      rw [Handlers.step_resume_none ht]
      exact hs
    | some t =>
      apply hs.resume ht o
      rintro rfl
      exact he n o rfl ht
  | outside x =>
    obtain ⟨honce, hclaimed, hfollowed⟩ := hs
    cases x with
    | quote => exact ⟨honce, fun h => by cases q <;> exact hclaimed h, hfollowed⟩
    | lock => exact ⟨honce, fun h => by cases q <;> exact hclaimed h, hfollowed⟩

theorem steady_resume (hq : q.renews = true) (t : Task) (o : Outcome) (s : Quotes) :
    Steady q s t (QuoteUse.resume cache rateConfigured q t o s) := by
  unfold QuoteUse.resume
  split
  · split
    · exact .still rfl rfl nofun
    · exact .still (by cases q <;> rfl) rfl nofun
  · apply Steady.goes
    split
    · simp only [Steady, held, Task.beforeBlock, if_true, Option.any_some, Bool.toNat_true,
        Bool.toNat_false]
      omega
    · exact .still rfl rfl nofun
  · apply Steady.goes
    split
    · exact .still rfl rfl fun _ => rfl
    · simp [Steady, held, Task.beforeBlock]
  · rename_i ids
    split
    · exact .ends
    · split
      · rename_i r M hblock
        cases q with
        | autostack q =>
          obtain ⟨_, A, -, hend⟩ := commits_bind.mp hblock
          obtain ⟨rfl, -⟩ := commits_pure.mp hend
          simp [Steady, held, Task.beforeBlock, Quote.goes, Quote.book, Quote.afterBlock,
            Quote.marks]
        | bill q =>
          obtain ⟨_, A, -, hend⟩ := commits_bind.mp hblock
          obtain ⟨rfl, -⟩ := commits_pure.mp hend
          simp [Steady, held, Task.beforeBlock, Quote.goes, Quote.book, Quote.afterBlock,
            Quote.marks]
        | _ => cases hq
      · exact .ends
  · cases q with
    | autostack p =>
      dsimp only
      split
      · refine .still rfl ?_ nofun
        cases p.funding <;> rfl
      · exact .still rfl rfl nofun
    | _ => exact .ends
  · split
    · exact .still (by cases q <;> rfl) rfl nofun
    · exact .still rfl rfl nofun
  · exact .still rfl rfl nofun
  · exact .still (by cases q <;> rfl) rfl nofun
  · exact .still rfl rfl nofun
  · exact .still rfl rfl nofun
  · exact .still rfl rfl nofun
  · split
    · exact .still rfl rfl nofun
    · exact .ends
  · apply Steady.goes
    exact .still (by cases q <;> rfl) (by cases q <;> rfl) nofun
  · apply Steady.goes
    exact .still rfl (by cases q <;> rfl) nofun
  · apply Steady.goes
    exact .still (by cases q <;> rfl) (by cases q <;> rfl) nofun
  · have h : Steady q s .deleting ({ s with stored := false }, none) :=
      .still (by cases q <;> rfl) rfl nofun
    exact h.goes
  · exact .ends

/-- At most one call holds the quote: one before its block, or the one whose block has marked it. -/
structure Serial (q : Quote) (s : ConfirmSystem) : Prop where
  held : s.running.countP Task.beforeBlock + q.marks s.state ≤ s.state.holders
  one : s.state.holders ≤ 1

theorem Serial.fresh (hs : Serial q s) (hq : q.renews = true) {n : Nat}
    (hn : s.running[n]? = some .reserving) : q.Fresh s.state := by
  have hpos : 0 < s.running.countP Task.beforeBlock :=
    List.countP_pos_iff.mpr ⟨_, List.mem_of_getElem? hn, rfl⟩
  have hheld := hs.held
  have hone := hs.one
  have hnone : q.marks s.state = 0 := by omega
  cases q with
  | autostack q => exact hnone
  | bill q => exact List.count_eq_zero.mp hnone
  | _ => cases hq

theorem Serial.step (hq : q.renews = true) (hs : Serial q s) (e : ConfirmEvent)
    (he : OrderlyStep q s e) : Serial q ((confirms cache rateConfigured q).step e s) := by
  cases e with
  | start _ =>
    obtain ⟨hheld, hone⟩ := hs
    have hbefore : (start q s.state).any Task.beforeBlock = false := by
      cases q <;> rfl
    constructor
    · simpa [Handlers.step, confirms, Handlers.countP_toList, hbefore] using hheld
    · exact hone
  | outside x =>
    obtain ⟨hheld, hone⟩ := hs
    cases x with
    | quote => exact ⟨by cases q <;> exact hheld, hone⟩
    | lock => exact ⟨by cases q <;> exact hheld, hone⟩
  | resume n o =>
    cases ht : s.running[n]? with
    | none =>
      rw [Handlers.step_resume_none ht]
      exact hs
    | some t =>
      have hsteady : Steady q s.state t (QuoteUse.resume cache rateConfigured q t o s.state) :=
        steady_resume hq t o s.state
      have hcount := Handlers.countP_resume (h := confirms cache rateConfigured q)
        Task.beforeBlock ht o
      have hnext : ((confirms cache rateConfigured q).resume t o s.state).2 =
          (QuoteUse.resume cache rateConfigured q t o s.state).2 := rfl
      rw [hnext] at hcount
      have hheld := hs.held
      have hone := hs.one
      unfold Steady at hsteady
      constructor
      · have hmarks : q.marks ((confirms cache rateConfigured q).step (.resume n o) s).state =
            q.marks (QuoteUse.resume cache rateConfigured q t o s.state).1 := by
          rw [Handlers.step_resume ht]
          cases q <;> rfl
        have hholders : ((confirms cache rateConfigured q).step (.resume n o) s).state.holders =
            QuoteUse.held t (QuoteUse.resume cache rateConfigured q t o s.state).2
              s.state.holders := by
          rw [Handlers.step_resume ht]
          rfl
        rw [hmarks, hholders]
        omega
      · have hholders : ((confirms cache rateConfigured q).step (.resume n o) s).state.holders =
            QuoteUse.held t (QuoteUse.resume cache rateConfigured q t o s.state).2
              s.state.holders := by
          rw [Handlers.step_resume ht]
          rfl
        rw [hholders]
        unfold QuoteUse.held
        split
        · rename_i hreading
          subst hreading
          by_cases hstored : s.state.stored = true
          · have hnobody : s.state.holders = 0 := by
              cases q with
              | autostack q => exact he ht hstored
              | bill q => exact he ht hstored
              | _ => cases hq
            have hle := Bool.toNat_le
              ((QuoteUse.resume cache rateConfigured q .reading o s.state).2.any Task.beforeBlock)
            omega
          · rw [reading_unstored hstored]
            simpa using hone
        · split <;> omega

structure Sound (q : Quote) (s : ConfirmSystem) : Prop where
  single : Single q s
  serial : q.renews = true → Serial q s

theorem Sound.step (hs : Sound q s) (e : ConfirmEvent) (he : OrderlyStep q s e) :
    Sound q ((confirms cache rateConfigured q).step e s) := by
  refine ⟨hs.single.step e ?_, fun hq => (hs.serial hq).step hq e he⟩
  rintro n o rfl hn
  cases q with
  | swap q => exact he hn
  | autostack q => exact (hs.serial rfl).fresh rfl hn
  | bill q => exact (hs.serial rfl).fresh rfl hn
  | _ => trivial

end Single

/-- At most one debit or reservation, and at most one reservation or charge that follows it. -/
structure UsedOnce (s : ConfirmSystem) : Prop where
  uses : s.state.uses ≤ 1
  followUps : s.state.followUps ≤ 1

/-- Before anyone confirms. -/
structure Unused (s : ConfirmSystem) : Prop where
  running : s.running = []
  uses : s.state.uses = 0
  followUps : s.state.followUps = 0
  holders : s.state.holders = 0
  stackCount : s.state.stackCount = 0
  billQuotes : s.state.billQuotes = []

theorem Unused.single {q : Quote} {s : ConfirmSystem} (h : Unused s) : Single q s := by
  constructor <;> simp [h.running, h.uses, h.followUps]

theorem Unused.sound {q : Quote} {s : ConfirmSystem} (h : Unused s) : Sound q s := by
  refine ⟨h.single, fun _ => ?_⟩
  constructor
  · cases q <;> simp [h.running, h.holders, h.stackCount, h.billQuotes, Quote.marks]
  · simp [h.holders]

theorem quote_used_once (cache : ConvertCurrency.DefaultNetworkCache) (rateConfigured : Bool)
    (q : Quote) {s : ConfirmSystem} (hs : Unused s) {events : List ConfirmEvent}
    (horderly : Run.Along (confirms cache rateConfigured q).step (OrderlyStep q) s events) :
    Run.Throughout (confirms cache rateConfigured q).step UsedOnce s events := by
  have hsound : Run.Throughout (confirms cache rateConfigured q).step (Sound q) s events :=
    Run.throughout_of_along (fun _ e hs he => hs.step e he) hs.sound horderly
  apply hsound.mono
  rintro s ⟨hs, -⟩
  have honce := hs.once
  have hfollowed := hs.followed
  constructor <;> omega

/-- User 1's USDT wallet, and what the company holds. -/
def beforeConfirm : Ledger :=
  { Ledger.empty with
    wallets := (∅ : Table WalletKey Wallet).insert (1, .usdt)
      { Wallet.empty with
        letterCase := .upper, baseBalance := 1000000000, defaultNetwork := some .trc20 }
    companyLiquidity := ((∅ : Table Currency CompanyLiquidity).insert .ngn
      { CompanyLiquidity.empty with totalBalance := 5000000 }).insert .usdt
        { CompanyLiquidity.empty with totalBalance := 5000000000 } }

/-- A quote that was stored and not yet confirmed. -/
def unused : ConfirmSystem := ⟨⟨beforeConfirm, true, false, [], [], 0, 0, 0, 0⟩, []⟩

theorem unused_unused : Unused unused := ⟨rfl, rfl, rfl, rfl, rfl, rfl⟩

/-- 100 USDT for bitcoin. -/
def swapQuote : Quote := .swap ⟨1, .usdt, .btc, 9, 100000000, 500000, some .trc20, 6⟩

/-- 100 USDT, and 2 USDT for it. -/
def stackQuote : Quote := .autostack ⟨1, 9, .usdtWallet, 100000000, 2000000⟩

/-- 1500 naira. -/
def billQuote : Quote := .bill ⟨1, 9, 1000000, 5000, 1005000, 150000, some .trc20⟩

/-- Two calls read the quote and find no duplicate. -/
def bothPass : List ConfirmEvent :=
  [.start (), .start (), .resume 0 .ok, .resume 0 .ok, .resume 0 .ok, .resume 0 .ok]

/-- The second of two swaps reserves before the first is recorded, and is refused. -/
theorem swap_quote_used_once :
    Run.Throughout (confirms (fun _ => some .trc20) true swapQuote).step UsedOnce unused
      (bothPass ++ [.resume 0 (.created ⟨1, 1, 1, 0⟩), .resume 0 (.created ⟨2, 2, 2, 0⟩),
        .resume 0 (.accepted 71 5), .resume 0 .ok]) := by
  apply quote_used_once
  · exact unused_unused
  · refine ⟨trivial, trivial, ?_, ?_, ?_, ?_, ?_, ?_, ?_, ?_, trivial⟩
    all_goals
      intro _
      show swapSubmitted _ _ = false
      decide +kernel

/-- The first of two swaps is recorded under the provider's id before the second reserves. -/
def renamedBetween : List ConfirmEvent :=
  bothPass ++ [.resume 0 (.created ⟨1, 1, 1, 0⟩), .resume 1 (.accepted 71 5), .resume 1 .ok,
    .resume 0 (.created ⟨2, 2, 2, 0⟩)]

/-- One call after the other: the quote of a stack is never deleted. -/
def confirmedAgain : List ConfirmEvent :=
  [.start (), .resume 0 .ok, .resume 0 .ok, .resume 0 (.created ⟨1, 1, 1, 31⟩), .resume 0 .ok,
    .start (), .resume 0 .ok, .resume 0 .ok, .resume 0 (.created ⟨2, 2, 2, 32⟩), .resume 0 .ok]

def bothReserve : List ConfirmEvent :=
  bothPass ++ [.resume 0 (.created ⟨1, 1, 1, 31⟩), .resume 0 (.created ⟨2, 2, 2, 32⟩)]

/-- A swap, a stack and a bill payment each take the money of one quote twice. -/
theorem quote_used_twice :
    Unused unused ∧
    ¬ Run.Throughout (confirms (fun _ => some .trc20) true swapQuote).step UsedOnce unused
      renamedBetween ∧
    ¬ Run.Throughout (confirms (fun _ => some .trc20) true stackQuote).step UsedOnce unused
      confirmedAgain ∧
    ¬ Run.Throughout (confirms (fun _ => some .trc20) true billQuote).step UsedOnce unused
      bothReserve ∧
    (Run.final (confirms (fun _ => some .trc20) true swapQuote).step unused
      renamedBetween).state.ledger.reservedBalance (1, .usdt) = 201000000 ∧
    (Run.final (confirms (fun _ => some .trc20) true stackQuote).step unused
      confirmedAgain).state.ledger.baseBalance (1, .usdt) = 796000000 ∧
    (Run.final (confirms (fun _ => some .trc20) true billQuote).step unused
      bothReserve).state.ledger.reservedBalance (1, .usdt) = 2010000 := by
  have hswap : (Run.final (confirms (fun _ => some .trc20) true swapQuote).step unused
      renamedBetween).state.uses = 2 := by decide +kernel
  have hstack : (Run.final (confirms (fun _ => some .trc20) true stackQuote).step unused
      confirmedAgain).state.uses = 2 := by decide +kernel
  have hbill : (Run.final (confirms (fun _ => some .trc20) true billQuote).step unused
      bothReserve).state.uses = 2 := by decide +kernel
  refine ⟨unused_unused, ?_, ?_, ?_, by decide +kernel, by decide +kernel, by decide +kernel⟩
  · intro h
    have honce := h.last.uses
    omega
  · intro h
    have honce := h.last.uses
    omega
  · intro h
    have honce := h.last.uses
    omega

end QuoteUse

end ExchangeLedger
