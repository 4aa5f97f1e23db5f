import ExchangeLedger.Run
import ExchangeLedger.StackCharges

set_option autoImplicit false

/-! The periods of one automatic stack: `initiateAutoStack` and the events of the providers, over
the metadata that every execution copies from the stack's configuration. -/

namespace ExchangeLedger

namespace StackPeriods

open AutoStackService
open StackCharges (Funding InitiationStatus)

inductive PaymentType where
  | CARD | CRYPTO_WALLET
  deriving DecidableEq, Repr

inductive Settlement where
  | wallet_completed | swap_completed | buy_order_completed
  deriving DecidableEq, Repr

/-- `paymentMetadata` of the stack's transactions. -/
structure Metadata where
  paymentType : PaymentType
  paymentCardId : Option Nat
  sourceAsset : Currency
  principalUsdtAmountBase : Nat
  sourceAmountBase : Nat
  autostackInitiationStatus : InitiationStatus
  autostackInitiatedAt : Option Nat
  liquidityReservationStatus : Option LiquidityReservationStatus
  liquidityReservationCurrency : Option Currency
  liquidityReservationAmount : Option Nat
  autostackPaystackWebhookProcessing : Bool
  autostackBuyOrderRequestedAt : Option Nat
  quidaxOrderProcessing : Bool
  quidaxOrderReference : Option Reference
  quidaxOrderId : Option Reference
  autostackBuyOrderSubmittedAt : Option Nat
  autostackWebhookProcessedAt : Option Nat
  autostackSettlement : Option Settlement
  deriving DecidableEq, Repr

namespace Metadata

/-- The branch of `initiatePendingAutoStack` that the metadata choose. -/
def funding (m : Metadata) : Funding :=
  match m.paymentType with
  | .CARD => .card
  | .CRYPTO_WALLET => if m.sourceAsset = .usdt then .usdtWallet else .otherWallet

/-- The check of `processingLock`. -/
def shouldProceed (m : Metadata) (now : Nat) : Bool :=
  match m.autostackInitiationStatus with
  | .SUBMITTED | .COMPLETED => false
  | .PROCESSING => ! m.autostackInitiatedAt.any (fun initiatedAt => now - initiatedAt < 15 * 60)
  | .PENDING | .FAILED => true

def alreadyReserved (m : Metadata) (currency : Currency) (amount : Nat) : Bool :=
  m.liquidityReservationStatus = some .RESERVED ∧
    m.liquidityReservationCurrency = some currency ∧ m.liquidityReservationAmount = some amount

def reserve (m : Metadata) (currency : Currency) (amount : Nat) : Metadata :=
  { m with
    liquidityReservationStatus := some .RESERVED
    liquidityReservationCurrency := some currency
    liquidityReservationAmount := some amount }

/-- The check of `handleAutoStackSuccess`. -/
def alreadyHandled (m : Metadata) (now : Nat) : Bool :=
  (m.autostackPaystackWebhookProcessing &&
    m.autostackBuyOrderRequestedAt.any (fun requestedAt => now - requestedAt < 15 * 60)) ||
  m.quidaxOrderProcessing || m.quidaxOrderReference.isSome || m.quidaxOrderId.isSome ||
  m.autostackBuyOrderSubmittedAt.isSome

/-- The check of the swap handler. -/
def alreadySettled (m : Metadata) : Bool :=
  m.autostackWebhookProcessedAt.isSome || m.autostackSettlement = some .swap_completed ||
    m.liquidityReservationStatus = some .RELEASED

end Metadata

inductive Description where
  | autostack_config | autostack_charge | swapCompleted
  deriving DecidableEq, Repr

/-- `transactionUniqueId`: that of the confirmation, or `autostack-charge-<stack>-` with the time
for which the stack was due. -/
inductive ExecutionReference where
  | confirm
  | charge (nextExecutionAt : Nat)
  deriving DecidableEq, Repr

structure Row where
  description : Description
  status : TransactionStatus
  currency : Currency
  cryptoAmountBase : Nat
  paymentMetadata : Metadata
  deriving DecidableEq, Repr

/-- The stack and its transactions, what the card or the wallet has paid for which of them, the buy
orders and swaps placed for them. -/
structure Plan where
  frequency : Frequency
  status : AutoStackStatus
  amount : Nat
  nextExecutionAt : Nat
  rows : Table ExecutionReference Row
  taken : List ExecutionReference
  orders : List ExecutionReference
  swaps : Table ExecutionReference TransactionStatus

/-- One run of `initiateAutoStack` with the amounts at the rates that it finds. Without a rate it
throws: for a card as if nothing were funded, else before it has written anything. -/
structure Attempt where
  now : Nat
  force : Bool
  /-- The principal in another source asset than USDT. -/
  sourceAmountBase : Nat
  /-- The principal in NGN. -/
  companyLiquidityAmountBase : Nat
  /-- The wallet and the company can fund it. -/
  funded : Bool
  /-- The provider takes the charge or the swap. -/
  accepts : Bool
  deriving DecidableEq, Repr

namespace Plan

def setRow (r : ExecutionReference) (row : Row) (p : Plan) : Plan :=
  { p with rows := p.rows.insert r row }

/-- The transaction whose description is `autostack_config:<stack>`, the latest. -/
def configTx (p : Plan) : Option (ExecutionReference × Row) :=
  (p.rows.entries.find? (fun e => e.2.description = .autostack_config)).map (fun e => (e.1, e.2))

/-- The catch of `initiatePendingAutoStack`. -/
def fail (r : ExecutionReference) (p : Plan) : Plan :=
  match p.rows.lookup r with
  | none => p
  | some failedTx => p.setRow r { failedTx with
      paymentMetadata := { failedTx.paymentMetadata with
        autostackInitiationStatus := .FAILED
        liquidityReservationStatus :=
          if failedTx.paymentMetadata.liquidityReservationStatus = some .RESERVED then
            some .RELEASED
          else failedTx.paymentMetadata.liquidityReservationStatus } }

/-- What an execution adds to the stack. -/
def stack (amount nextExecutionAt : Nat) (p : Plan) : Plan :=
  { p with
    amount := if p.status = .PENDING then amount else p.amount + amount
    status := .ACTIVE
    nextExecutionAt := nextExecutionAt }

/-- A USDT wallet pays at once. -/
def executeUsdt (r : ExecutionReference) (row : Row) (a : Attempt) (p : Plan) : Plan :=
  if a.funded then
    { (p.stack row.paymentMetadata.sourceAmountBase (getNextExecutionAt p.frequency a.now)).setRow r
        { row with
          status := .COMPLETED
          paymentMetadata := { row.paymentMetadata with
            principalUsdtAmountBase := row.paymentMetadata.sourceAmountBase
            autostackInitiationStatus := .COMPLETED
            autostackSettlement := some .wallet_completed } } with
      taken := r :: p.taken }
  else p.fail r

/-- Another wallet's part is reserved and swapped. -/
def executeSwap (r : ExecutionReference) (row : Row) (a : Attempt) (p : Plan) : Plan :=
  let meta' := row.paymentMetadata
  if a.funded || meta'.alreadyReserved meta'.sourceAsset meta'.sourceAmountBase then
    let reserved := { row with
      cryptoAmountBase := meta'.sourceAmountBase
      paymentMetadata := meta'.reserve meta'.sourceAsset meta'.sourceAmountBase }
    if a.accepts then
      { p.setRow r { reserved with paymentMetadata := { reserved.paymentMetadata with
          autostackInitiationStatus := .SUBMITTED } } with
        swaps := p.swaps.insert r .PENDING }
    else (p.setRow r reserved).fail r
  else p.fail r

/-- The NGN of the buy order is reserved and the card charged. -/
def executeCard (r : ExecutionReference) (row : Row) (a : Attempt) (p : Plan) : Plan :=
  let meta' := row.paymentMetadata
  if meta'.paymentCardId = none then p.fail r
  else if a.funded || meta'.alreadyReserved .ngn a.companyLiquidityAmountBase then
    let reserved := { row with
      currency := .usdt
      cryptoAmountBase := meta'.principalUsdtAmountBase
      paymentMetadata := meta'.reserve .ngn a.companyLiquidityAmountBase }
    if a.accepts then
      { p.setRow r { reserved with paymentMetadata := { reserved.paymentMetadata with
          sourceAsset := .usdt, autostackInitiationStatus := .SUBMITTED } } with
        taken := r :: p.taken }
    else (p.setRow r reserved).fail r
  else p.fail r

def initiatePendingAutoStack (r : ExecutionReference) (a : Attempt) (p : Plan) : Plan :=
  match p.rows.lookup r with
  | none => p
  | some fresh =>
    if fresh.paymentMetadata.shouldProceed a.now then
      let row := { fresh with paymentMetadata := { fresh.paymentMetadata with
        autostackInitiationStatus := .PROCESSING, autostackInitiatedAt := some a.now } }
      match row.paymentMetadata.funding with
      | .usdtWallet => (p.setRow r row).executeUsdt r row a
      | .otherWallet => (p.setRow r row).executeSwap r row a
      | .card => (p.setRow r row).executeCard r row a
    else p

/-- The transaction of an execution, with the metadata of the configuration. -/
def executionTx (configTx : Row) (a : Attempt) : Row :=
  let configMeta := configTx.paymentMetadata
  let sourceAmountBase :=
    if configMeta.funding = .otherWallet then a.sourceAmountBase
    else configMeta.principalUsdtAmountBase
  { description := .autostack_charge
    status := .PENDING
    currency := if configMeta.paymentType = .CRYPTO_WALLET then configMeta.sourceAsset else .usdt
    cryptoAmountBase :=
      if configMeta.paymentType = .CRYPTO_WALLET then sourceAmountBase
      else configMeta.principalUsdtAmountBase
    paymentMetadata := { configMeta with
      sourceAmountBase := sourceAmountBase, autostackInitiationStatus := .PENDING } }

def getOrCreateAutoStackExecutionTransaction (configTx : Row) (a : Attempt) (p : Plan) : Plan :=
  if (p.rows.lookup (.charge p.nextExecutionAt)).isSome then p
  else p.setRow (.charge p.nextExecutionAt) (executionTx configTx a)

def initiateAutoStack (a : Attempt) (p : Plan) : Plan :=
  if p.status ∉ [.PENDING, .ACTIVE] then p
  else if !a.force && !isExecutionDue p.nextExecutionAt a.now then p
  else match p.configTx with
    | none => p
    | some (r, configTx) =>
      if p.status = .PENDING then p.initiatePendingAutoStack r a
      else (p.getOrCreateAutoStackExecutionTransaction configTx a).initiatePendingAutoStack
        (.charge p.nextExecutionAt) a

/-- `charge.success`; Quidax takes the buy order under an id, or refuses it. -/
def chargeSuccess (r : ExecutionReference) (now : Nat) (order : Option Reference) (p : Plan) :
    Plan :=
  match p.rows.lookup r with
  | none => p
  | some transaction =>
    let currentMeta := transaction.paymentMetadata
    if transaction.status = .SUCCESS ∨ transaction.status = .FAILED then p
    else if currentMeta.alreadyHandled now then p
    else
      let marked := { currentMeta with
        autostackPaystackWebhookProcessing := true, autostackBuyOrderRequestedAt := some now }
      if transaction.cryptoAmountBase = 0 ∨ marked.liquidityReservationStatus = some .RELEASED then
        p.setRow r { transaction with paymentMetadata := marked }
      else match order with
        | none => p.setRow r { transaction with paymentMetadata := { marked with
            autostackPaystackWebhookProcessing := false } }
        | some providerReference =>
          { p.setRow r { transaction with paymentMetadata := { marked with
              quidaxOrderReference := some providerReference
              quidaxOrderId := some providerReference
              quidaxOrderProcessing := false
              autostackPaystackWebhookProcessing := false
              autostackBuyOrderSubmittedAt := some now } } with
            orders := r :: p.orders }

/-- `order.done` of the execution's buy order, which bought `executed`. -/
def orderDone (r : ExecutionReference) (executed executedAt : Nat) (p : Plan) : Plan :=
  match p.rows.lookup r with
  | none => p
  | some transaction =>
    let m := transaction.paymentMetadata
    if r ∉ p.orders ∨ transaction.status.isFinal then p
    else (p.stack executed (getNextExecutionAt p.frequency executedAt)).setRow r
      { transaction with
        status := .COMPLETED
        paymentMetadata :=
          if m.liquidityReservationAmount.any (0 < ·) ∧
              m.liquidityReservationStatus.getD .RESERVED = .RESERVED then
            { m with
              liquidityReservationStatus := some .CONSUMED
              principalUsdtAmountBase := executed
              autostackInitiationStatus := .COMPLETED
              autostackSettlement := some .buy_order_completed }
          else m }

/-- `swap_transaction.completed` of the execution's swap. -/
def swapCompleted (r : ExecutionReference) (confirmedFrom confirmedTo settledAt : Nat) (p : Plan) :
    Plan :=
  match p.rows.lookup r, p.swaps.lookup r with
  | some linkedTx, some .PENDING =>
    if linkedTx.status.isFinal ∨ linkedTx.paymentMetadata.alreadySettled then p
    else
      { (p.stack confirmedTo (getNextExecutionAt p.frequency settledAt)).setRow r
          { linkedTx with
            status := .COMPLETED
            description := .swapCompleted
            cryptoAmountBase := confirmedFrom
            paymentMetadata := { linkedTx.paymentMetadata with
              liquidityReservationStatus := some .CONSUMED
              principalUsdtAmountBase := confirmedTo
              autostackWebhookProcessedAt := some settledAt
              autostackInitiationStatus := .COMPLETED
              autostackSettlement := some .swap_completed } } with
        swaps := p.swaps.insert r .COMPLETED
        taken := r :: p.taken }
  | _, _ => p

end Plan

/-! ### Periods -/

/-- What the user has confirmed. -/
structure Preview where
  frequency : Frequency
  startDate : Nat
  paymentType : PaymentType
  paymentCardId : Option Nat
  sourceAsset : Currency
  principalUsdt : Nat
  sourceAmount : Nat
  positive : 0 < principalUsdt
  /-- The check of `confirm`. -/
  card : paymentType = .CARD → paymentCardId.isSome = true

namespace Preview

variable (v : Preview)

/-- `paymentMetadata` of the configuration. -/
def paymentMetadata : Metadata where
  paymentType := v.paymentType
  paymentCardId := v.paymentCardId
  sourceAsset := if v.paymentType = .CRYPTO_WALLET then v.sourceAsset else .usdt
  principalUsdtAmountBase := v.principalUsdt
  sourceAmountBase :=
    if v.paymentType = .CRYPTO_WALLET then v.sourceAmount else v.principalUsdt
  autostackInitiationStatus := .PENDING
  autostackInitiatedAt := none
  liquidityReservationStatus := none
  liquidityReservationCurrency := none
  liquidityReservationAmount := none
  autostackPaystackWebhookProcessing := false
  autostackBuyOrderRequestedAt := none
  quidaxOrderProcessing := false
  quidaxOrderReference := none
  quidaxOrderId := none
  autostackBuyOrderSubmittedAt := none
  autostackWebhookProcessedAt := none
  autostackSettlement := none

def funding : Funding := v.paymentMetadata.funding

/-- `confirm` creates the stack and its configuration. -/
def confirm : Plan where
  frequency := v.frequency
  status := .PENDING
  amount := v.principalUsdt
  nextExecutionAt := v.startDate
  rows := (∅ : Table ExecutionReference Row).insert .confirm
    { description := .autostack_config
      status := .PENDING
      currency := if v.paymentType = .CRYPTO_WALLET then v.sourceAsset else .usdt
      cryptoAmountBase :=
        if v.paymentType = .CRYPTO_WALLET then v.sourceAmount else v.principalUsdt
      paymentMetadata := v.paymentMetadata }
  taken := []
  orders := []
  swaps := ∅

end Preview

/-- Everything that an attempt needs is there. -/
def Attempt.goesThrough (a : Attempt) : Funding → Bool
  | .usdtWallet => a.funded
  | .otherWallet | .card => a.funded && a.accepts

/-- A report of a provider on the execution of a period. -/
inductive Delivery where
  | chargeSuccess (now : Nat) (order : Option Reference)
  | orderDone
  | swapCompleted (confirmedFrom : Nat)
  deriving DecidableEq, Repr

/-- The providers report what they have done: the charge and then the order that was placed for it,
or the swap. -/
def Complete (deliveries : List Delivery) : Funding → Prop
  | .card => ∃ now order, [.chargeSuccess now (some order), .orderDone].Sublist deliveries
  | .otherWallet => ∃ confirmedFrom, .swapCompleted confirmedFrom ∈ deliveries
  | .usdtWallet => True

/-- The attempts at one due execution, of which the last goes through, and then every report on
it, in any order and any number of times, of which the order or the swap brought `received`. -/
structure Period (v : Preview) where
  failed : List Attempt
  fails : ∀ a ∈ failed, a.goesThrough v.funding = false
  last : Attempt
  goesThrough : last.goesThrough v.funding = true
  deliveries : List Delivery
  complete : Complete deliveries v.funding
  received : Nat
  settledAt : Nat

namespace Plan

/-- The reference of the next execution. -/
def reference (p : Plan) : ExecutionReference :=
  if p.status = .PENDING then .confirm else .charge p.nextExecutionAt

/-- Paystack reports only what the card was charged. -/
def deliver (r : ExecutionReference) (received settledAt : Nat) (d : Delivery) (p : Plan) : Plan :=
  match d with
  | .chargeSuccess now order =>
    if r ∈ p.taken ∧ (p.rows.lookup r).any (fun row => row.paymentMetadata.funding = .card) then
      p.chargeSuccess r now order
    else p
  | .orderDone => p.orderDone r received settledAt
  | .swapCompleted confirmedFrom => p.swapCompleted r confirmedFrom received settledAt

end Plan

/-- The report is taken for one that was handled before. -/
def Row.mistakes (row : Row) (d : Delivery) : Bool :=
  match row.paymentMetadata.funding, d with
  | .card, .chargeSuccess now _ => row.paymentMetadata.alreadyHandled now
  | .card, .orderDone => row.status.isFinal
  | .otherWallet, .swapCompleted _ => row.status.isFinal || row.paymentMetadata.alreadySettled
  | _, _ => false

namespace Period

variable {v : Preview}

def attempts (x : Period v) : List Attempt := x.failed ++ [x.last]

/-- After the attempts. -/
def attempted (x : Period v) (p : Plan) : Plan :=
  x.attempts.foldl (fun p a => p.initiateAutoStack a) p

def run (x : Period v) (p : Plan) : Plan :=
  x.deliveries.foldl (fun q d => q.deliver p.reference x.received x.settledAt d) (x.attempted p)

/-- The amount of the period: that of the wallet, or what the order or the swap brought. -/
def amount (x : Period v) : Nat :=
  if v.funding = .usdtWallet then v.sourceAmount else x.received

/-- The stack is due at every attempt; the first execution may be forced on its day. -/
def Due (p : Plan) (x : Period v) : Prop :=
  ∀ a ∈ x.attempts, isExecutionDue p.nextExecutionAt a.now = true ∨
    (p.status = .PENDING ∧ a.force = true)

end Period

/-- The execution that is due finds the configuration, none of its reports is taken for an earlier
one, and the funding source pays once for what the stack grows by, once. -/
structure Served {v : Preview} (p : Plan) (x : Period v) : Prop where
  found : p.configTx.isSome = true
  created : ∃ row, (x.attempted p).rows.lookup p.reference = some row ∧
    ∀ d ∈ x.deliveries, row.mistakes d = false
  paid : (x.run p).taken = p.reference :: p.taken
  stacked : (x.run p).amount = (if p.status = .PENDING then 0 else p.amount) + x.amount

/-! ### An attempt -/

section Attempts

variable {v : Preview} {p : Plan} {r : ExecutionReference} {row : Row} {a : Attempt}

@[simp] theorem lookup_setRow (p : Plan) (r j : ExecutionReference) (row : Row) :
    (p.setRow r row).rows.lookup j = if j = r then some row else p.rows.lookup j :=
  Table.lookup_insert _ _ _ _

theorem lookup_setRow_self (p : Plan) (r : ExecutionReference) (row : Row) :
    (p.setRow r row).rows.lookup r = some row := AList.lookup_insert _

@[simp] theorem setRow_setRow (p : Plan) (r : ExecutionReference) (row row' : Row) :
    (p.setRow r row).setRow r row' = p.setRow r row' := by
  simp [Plan.setRow, AList.insert_insert]

theorem stack_setRow (p : Plan) (r : ExecutionReference) (row : Row) (amount next : Nat) :
    (p.setRow r row).stack amount next = (p.stack amount next).setRow r row := rfl

/-- What `fail` writes. -/
def Metadata.failed (m : Metadata) : Metadata :=
  { m with
    autostackInitiationStatus := .FAILED
    liquidityReservationStatus :=
      if m.liquidityReservationStatus = some .RESERVED then some .RELEASED
      else m.liquidityReservationStatus }

theorem fail_setRow (p : Plan) (r : ExecutionReference) (row : Row) :
    (p.setRow r row).fail r =
      p.setRow r { row with paymentMetadata := row.paymentMetadata.failed } := by
  simp [Plan.fail, Metadata.failed]

/-- No provider has reported on what the metadata describe, and nothing is reserved. -/
structure Metadata.Clean (v : Preview) (m : Metadata) : Prop where
  funding : m.funding = v.funding
  card : v.funding = .card → m.paymentCardId.isSome = true
  webhook : m.autostackPaystackWebhookProcessing = false
  processing : m.quidaxOrderProcessing = false
  order : m.quidaxOrderReference = none ∧ m.quidaxOrderId = none
  submitted : m.autostackBuyOrderSubmittedAt = none
  unsettled : m.autostackWebhookProcessedAt = none ∧ m.autostackSettlement ≠ some .swap_completed
  unreserved : m.liquidityReservationStatus ≠ some .RESERVED

/-- An execution that has not gone through. -/
structure Row.Ready (v : Preview) (row : Row) : Prop where
  pending : row.status = .PENDING
  clean : row.paymentMetadata.Clean v
  retry : row.paymentMetadata.autostackInitiationStatus = .PENDING ∨
    row.paymentMetadata.autostackInitiationStatus = .FAILED
  amount : v.funding = .usdtWallet → row.paymentMetadata.sourceAmountBase = v.sourceAmount
  positive : v.funding = .card → 0 < row.paymentMetadata.principalUsdtAmountBase

theorem Metadata.Clean.not_handled {m : Metadata} (h : m.Clean v) (now : Nat) :
    m.alreadyHandled now = false := by
  simp [alreadyHandled, h.webhook, h.processing, h.order.1, h.order.2, h.submitted]

theorem Metadata.Clean.not_reserved {m : Metadata} (h : m.Clean v) (c : Currency) (amount : Nat) :
    m.alreadyReserved c amount = false := by
  simp [alreadyReserved, h.unreserved]

theorem Row.Ready.shouldProceed (h : row.Ready v) (now : Nat) :
    row.paymentMetadata.shouldProceed now = true := by
  rcases h.retry with hpending | hfailed
  · simp [Metadata.shouldProceed, hpending]
  · simp [Metadata.shouldProceed, hfailed]

/-- The row under the processing lock. -/
def Row.locked (row : Row) (now : Nat) : Row :=
  { row with paymentMetadata := { row.paymentMetadata with
    autostackInitiationStatus := .PROCESSING, autostackInitiatedAt := some now } }

theorem initiatePending_of_lookup (hrow : p.rows.lookup r = some row) (a : Attempt) :
    p.initiatePendingAutoStack r a =
      if row.paymentMetadata.shouldProceed a.now then
        match row.paymentMetadata.funding with
        | .usdtWallet => (p.setRow r (row.locked a.now)).executeUsdt r (row.locked a.now) a
        | .otherWallet => (p.setRow r (row.locked a.now)).executeSwap r (row.locked a.now) a
        | .card => (p.setRow r (row.locked a.now)).executeCard r (row.locked a.now) a
      else p := by
  simp only [Plan.initiatePendingAutoStack, hrow]
  rfl

theorem initiatePending_ready (hrow : p.rows.lookup r = some row) (h : row.Ready v) (a : Attempt) :
    p.initiatePendingAutoStack r a =
      match v.funding with
      | .usdtWallet => (p.setRow r (row.locked a.now)).executeUsdt r (row.locked a.now) a
      | .otherWallet => (p.setRow r (row.locked a.now)).executeSwap r (row.locked a.now) a
      | .card => (p.setRow r (row.locked a.now)).executeCard r (row.locked a.now) a := by
  rw [initiatePending_of_lookup hrow, if_pos (h.shouldProceed a.now), h.clean.funding]

theorem Row.Ready.failed (h : row.Ready v) (now : Nat) :
    Row.Ready v { row.locked now with
      paymentMetadata := (row.locked now).paymentMetadata.failed } := by
  have hsame : ((row.locked now).paymentMetadata.failed).liquidityReservationStatus =
      row.paymentMetadata.liquidityReservationStatus := if_neg h.clean.unreserved
  refine ⟨h.pending, ⟨h.clean.funding, h.clean.card, h.clean.webhook, h.clean.processing,
    h.clean.order, h.clean.submitted, h.clean.unsettled, ?_⟩, .inr rfl, h.amount, h.positive⟩
  rw [hsame]
  exact h.clean.unreserved

theorem Row.Ready.refused (h : row.Ready v) (now : Nat) (c d : Currency) (amount crypto : Nat) :
    Row.Ready v { row.locked now with
      currency := c
      cryptoAmountBase := crypto
      paymentMetadata := ((row.locked now).paymentMetadata.reserve d amount).failed } :=
  ⟨h.pending, ⟨h.clean.funding, h.clean.card, h.clean.webhook, h.clean.processing,
    h.clean.order, h.clean.submitted, h.clean.unsettled, by simp [Metadata.reserve,
      Metadata.failed]⟩, .inr rfl, h.amount, h.positive⟩

theorem initiatePending_fails (hrow : p.rows.lookup r = some row) (h : row.Ready v)
    (ha : a.goesThrough v.funding = false) :
    ∃ row', p.initiatePendingAutoStack r a = p.setRow r row' ∧ row'.Ready v ∧
      row'.description = row.description := by
  rw [initiatePending_ready hrow h]
  have hreserved := (h.clean).not_reserved
  cases hfunding : v.funding with
  | usdtWallet =>
    simp only [hfunding, Attempt.goesThrough] at ha
    simp only [Plan.executeUsdt, ha, Bool.false_eq_true, if_false, fail_setRow]
    exact ⟨_, rfl, h.failed a.now, rfl⟩
  | otherWallet =>
    have hnot : (row.locked a.now).paymentMetadata.alreadyReserved
        (row.locked a.now).paymentMetadata.sourceAsset
        (row.locked a.now).paymentMetadata.sourceAmountBase = false := hreserved _ _
    simp only [hfunding, Attempt.goesThrough, Bool.and_eq_false_iff] at ha
    simp only [Plan.executeSwap, hnot, Bool.or_false]
    cases hfunded : a.funded with
    | false =>
      simp only [Bool.false_eq_true, if_false, fail_setRow]
      exact ⟨_, rfl, h.failed a.now, rfl⟩
    | true =>
      have haccepts : a.accepts = false := by simpa [hfunded] using ha
      simp only [haccepts, Bool.false_eq_true, if_true, if_false, setRow_setRow, fail_setRow]
      exact ⟨_, rfl, h.refused a.now _ _ _ _, rfl⟩
  | card =>
    have hcard : ¬ (row.locked a.now).paymentMetadata.paymentCardId = none := by
      have hsome := h.clean.card hfunding
      intro hnone
      change row.paymentMetadata.paymentCardId = none at hnone
      simp [hnone] at hsome
    have hnot : (row.locked a.now).paymentMetadata.alreadyReserved .ngn
        a.companyLiquidityAmountBase = false := hreserved _ _
    simp only [hfunding, Attempt.goesThrough, Bool.and_eq_false_iff] at ha
    simp only [Plan.executeCard, if_neg hcard, hnot, Bool.or_false]
    cases hfunded : a.funded with
    | false =>
      simp only [Bool.false_eq_true, if_false, fail_setRow]
      exact ⟨_, rfl, h.failed a.now, rfl⟩
    | true =>
      have haccepts : a.accepts = false := by simpa [hfunded] using ha
      simp only [haccepts, Bool.false_eq_true, if_true, if_false, setRow_setRow, fail_setRow]
      exact ⟨_, rfl, h.refused a.now _ _ _ _, rfl⟩

theorem initiatePending_usdt (hrow : p.rows.lookup r = some row) (h : row.Ready v)
    (hv : v.funding = .usdtWallet) (ha : a.funded = true) :
    ∃ row', p.initiatePendingAutoStack r a =
        { (p.stack v.sourceAmount (getNextExecutionAt p.frequency a.now)).setRow r row' with
          taken := r :: p.taken } ∧
      row'.description = row.description ∧ row'.paymentMetadata.Clean v ∧
      row'.paymentMetadata.principalUsdtAmountBase = v.sourceAmount := by
  rw [initiatePending_ready hrow h]
  have hamount : (row.locked a.now).paymentMetadata.sourceAmountBase = v.sourceAmount := h.amount hv
  simp only [hv, Plan.executeUsdt, ha, if_true, hamount, stack_setRow, setRow_setRow]
  exact ⟨_, rfl, rfl, ⟨h.clean.funding, h.clean.card, h.clean.webhook, h.clean.processing,
    h.clean.order, h.clean.submitted, ⟨h.clean.unsettled.1, nofun⟩, h.clean.unreserved⟩, rfl⟩

/-- The swap of an execution has been submitted. -/
structure Row.Swapping (row : Row) : Prop where
  pending : row.status = .PENDING
  funding : row.paymentMetadata.funding = .otherWallet
  unsettled : row.paymentMetadata.alreadySettled = false

theorem initiatePending_swap (hrow : p.rows.lookup r = some row) (h : row.Ready v)
    (hv : v.funding = .otherWallet) (ha : a.goesThrough .otherWallet = true) :
    ∃ row', p.initiatePendingAutoStack r a =
      { p.setRow r row' with swaps := p.swaps.insert r .PENDING } ∧ row'.Swapping := by
  rw [initiatePending_ready hrow h]
  simp only [Attempt.goesThrough, Bool.and_eq_true] at ha
  simp only [hv, Plan.executeSwap, ha.1, ha.2, Bool.true_or, if_true, setRow_setRow]
  refine ⟨_, rfl, h.pending, h.clean.funding.trans hv, ?_⟩
  simp [Metadata.alreadySettled, Metadata.reserve, Row.locked, h.clean.unsettled.1,
    h.clean.unsettled.2]

/-- The card has been charged for an execution. -/
structure Row.Charged (row : Row) : Prop where
  pending : row.status = .PENDING
  paymentType : row.paymentMetadata.paymentType = .CARD
  positive : 0 < row.cryptoAmountBase
  reserved : row.paymentMetadata.liquidityReservationStatus = some .RESERVED
  fresh : ∀ now, row.paymentMetadata.alreadyHandled now = false

theorem funding_card {m : Metadata} : m.funding = .card ↔ m.paymentType = .CARD := by
  cases htype : m.paymentType with
  | CARD => simp [Metadata.funding, htype]
  | CRYPTO_WALLET =>
    by_cases hasset : m.sourceAsset = .usdt <;> simp [Metadata.funding, htype, hasset]

theorem initiatePending_card (hrow : p.rows.lookup r = some row) (h : row.Ready v)
    (hv : v.funding = .card) (ha : a.goesThrough .card = true) :
    ∃ row', p.initiatePendingAutoStack r a =
      { p.setRow r row' with taken := r :: p.taken } ∧ row'.Charged := by
  rw [initiatePending_ready hrow h]
  have hcard : ¬ (row.locked a.now).paymentMetadata.paymentCardId = none := by
    have hsome := h.clean.card hv
    intro hnone
    change row.paymentMetadata.paymentCardId = none at hnone
    simp [hnone] at hsome
  simp only [Attempt.goesThrough, Bool.and_eq_true] at ha
  simp only [hv, Plan.executeCard, if_neg hcard, ha.1, ha.2, Bool.true_or, if_true, setRow_setRow]
  have htype := funding_card.mp (h.clean.funding.trans hv)
  exact ⟨_, rfl, h.pending, htype, h.positive hv, rfl, fun now => h.clean.not_handled now⟩

end Attempts

/-! ### The first period -/

section First

variable {v : Preview} {row : Row}

/-- The stack as it was confirmed, with its configuration as it is now. -/
def Preview.confirmed (v : Preview) (row : Row) : Plan :=
  { v.confirm with rows := (∅ : Table ExecutionReference Row).insert .confirm row }

@[simp] theorem confirmed_setRow (row row' : Row) :
    (v.confirmed row).setRow .confirm row' = v.confirmed row' := by
  simp [Preview.confirmed, Plan.setRow]

@[simp] theorem lookup_confirmed (row : Row) :
    (v.confirmed row).rows.lookup .confirm = some row := AList.lookup_insert _

theorem configTx_confirmed (h : row.description = .autostack_config) :
    (v.confirmed row).configTx = some (.confirm, row) := by
  simp [Plan.configTx, Preview.confirmed, h]

/-- The configuration as `confirm` creates it. -/
theorem confirm_ready (v : Preview) : ∃ row, v.confirm = v.confirmed row ∧ row.Ready v ∧
    row.description = .autostack_config := by
  refine ⟨_, rfl, ⟨rfl, ⟨rfl, fun hv => v.card (funding_card.mp hv), rfl, rfl, ⟨rfl, rfl⟩, rfl,
    ⟨rfl, nofun⟩, nofun⟩, .inl rfl, fun hv => ?_, fun _ => v.positive⟩, rfl⟩
  have htype : v.paymentType = .CRYPTO_WALLET := by
    cases htype : v.paymentType with
    | CARD => simp [Preview.funding, Metadata.funding, Preview.paymentMetadata, htype] at hv
    | CRYPTO_WALLET => rfl
  simp [Preview.paymentMetadata, htype]

theorem initiate_confirmed (h : row.description = .autostack_config) {a : Attempt}
    (hdue : isExecutionDue v.startDate a.now = true ∨ a.force = true) :
    (v.confirmed row).initiateAutoStack a =
      (v.confirmed row).initiatePendingAutoStack .confirm a := by
  have hstatus : (v.confirmed row).status = .PENDING := rfl
  have hnext : (v.confirmed row).nextExecutionAt = v.startDate := rfl
  have hgo : (!a.force && !isExecutionDue v.startDate a.now) = false := by
    rcases hdue with hdue | hforce
    · simp [hdue]
    · simp [hforce]
  simp [Plan.initiateAutoStack, hstatus, hnext, hgo, configTx_confirmed h]

theorem first_failed (as : List Attempt) (hrow : row.Ready v)
    (h : row.description = .autostack_config)
    (hdue : ∀ a ∈ as, isExecutionDue v.startDate a.now = true ∨ a.force = true)
    (hfails : ∀ a ∈ as, a.goesThrough v.funding = false) :
    ∃ row', as.foldl (fun p a => p.initiateAutoStack a) (v.confirmed row) = v.confirmed row' ∧
      row'.Ready v ∧ row'.description = .autostack_config := by
  induction as generalizing row with
  | nil => exact ⟨row, rfl, hrow, h⟩
  | cons a as ih =>
    obtain ⟨row', hstep, hready, hsame⟩ := initiatePending_fails (lookup_confirmed row) hrow
      (hfails a (by simp))
    have hdone := ih hready (hsame.trans h) (fun b hb => hdue b (by simp [hb]))
      fun b hb => hfails b (by simp [hb])
    rw [List.foldl_cons, initiate_confirmed h (hdue a (by simp)), hstep, confirmed_setRow]
    exact hdone

theorem first_attempted {x : Period v} (hdue : x.Due v.confirm) :
    ∃ row, x.attempted v.confirm = (v.confirmed row).initiatePendingAutoStack .confirm x.last ∧
      row.Ready v ∧ row.description = .autostack_config := by
  obtain ⟨row, hrow, hready, hconfig⟩ := confirm_ready v
  have hdue' : ∀ a ∈ x.attempts, isExecutionDue v.startDate a.now = true ∨ a.force = true :=
    fun a ha => (hdue a ha).imp_right And.right
  obtain ⟨row', hfailed, hready', hconfig'⟩ := first_failed x.failed hready hconfig
    (fun a ha => hdue' a (by simp [Period.attempts, ha])) x.fails
  refine ⟨row', ?_, hready', hconfig'⟩
  rw [Period.attempted, Period.attempts, List.foldl_append, hrow, hfailed]
  exact initiate_confirmed hconfig' (hdue' _ (by simp [Period.attempts]))

end First

/-! ### The reports of the first period -/

section Reports

variable {v : Preview} {row : Row}

/-- The card was charged for the configuration, and these orders were placed. -/
def Preview.charged (v : Preview) (row : Row) (orders : List ExecutionReference) : Plan :=
  { v.confirmed row with taken := [.confirm], orders := orders }

/-- The order for it is done. -/
def Preview.bought (v : Preview) (row : Row) (amount nextExecutionAt : Nat) : Plan :=
  { v.charged row [.confirm] with
    amount := amount, status := .ACTIVE, nextExecutionAt := nextExecutionAt }

/-- A buy order has been placed for an execution. -/
structure Row.Ordered (row : Row) : Prop where
  pending : row.status = .PENDING
  paymentType : row.paymentMetadata.paymentType = .CARD
  order : row.paymentMetadata.quidaxOrderReference.isSome = true

structure Row.Bought (row : Row) : Prop where
  completed : row.status = .COMPLETED
  paymentType : row.paymentMetadata.paymentType = .CARD
  order : row.paymentMetadata.quidaxOrderReference.isSome = true

theorem handled_of_order {m : Metadata} (h : m.quidaxOrderReference.isSome = true) (now : Nat) :
    m.alreadyHandled now = true := by
  simp [Metadata.alreadyHandled, h]

@[simp] theorem charged_setRow (row row' : Row) (orders : List ExecutionReference) :
    (v.charged row orders).setRow .confirm row' = v.charged row' orders := by
  simp [Preview.charged, Preview.confirmed, Plan.setRow]

@[simp] theorem lookup_charged (row : Row) (orders : List ExecutionReference) :
    (v.charged row orders).rows.lookup .confirm = some row :=
  lookup_confirmed (v := v) row

@[simp] theorem lookup_bought (row : Row) (amount next : Nat) :
    (v.bought row amount next).rows.lookup .confirm = some row :=
  lookup_confirmed (v := v) row

@[simp] theorem swaps_charged (row : Row) (orders : List ExecutionReference) :
    (v.charged row orders).swaps.lookup .confirm = none := rfl

theorem charged_deliver {orders : List ExecutionReference}
    (h : row.paymentMetadata.paymentType = .CARD) (received settledAt : Nat) (d : Delivery) :
    (v.charged row orders).deliver .confirm received settledAt d =
      match d with
      | .chargeSuccess now order => (v.charged row orders).chargeSuccess .confirm now order
      | .orderDone => (v.charged row orders).orderDone .confirm received settledAt
      | .swapCompleted _ => v.charged row orders := by
  cases d with
  | chargeSuccess now order =>
    have htaken : (v.charged row orders).taken = [.confirm] := rfl
    simp [Plan.deliver, htaken, funding_card.mpr h]
  | orderDone => rfl
  | swapCompleted confirmedFrom => simp [Plan.deliver, Plan.swapCompleted]

theorem Row.Charged.chargeSuccess (h : row.Charged) (orders : List ExecutionReference) (now : Nat)
    (order : Option Reference) :
    (order = none ∧ ∃ row', row'.Charged ∧
        (v.charged row orders).chargeSuccess .confirm now order = v.charged row' orders) ∨
      (order.isSome = true ∧ ∃ row', row'.Ordered ∧
        (v.charged row orders).chargeSuccess .confirm now order =
          v.charged row' (.confirm :: orders)) := by
  have hpending : ¬ (row.status = .SUCCESS ∨ row.status = .FAILED) := by simp [h.pending]
  have hgoes : ¬ (row.cryptoAmountBase = 0 ∨
      row.paymentMetadata.liquidityReservationStatus = some .RELEASED) := by
    simp [Nat.pos_iff_ne_zero.mp h.positive, h.reserved]
  have hfresh := h.fresh
  simp only [Metadata.alreadyHandled, Bool.or_eq_false_iff] at hfresh
  simp only [Plan.chargeSuccess, lookup_charged, if_neg hpending, h.fresh, Bool.false_eq_true,
    if_false, if_neg hgoes]
  cases order with
  | none =>
    refine .inl ⟨rfl, _, ?_, charged_setRow _ _ _⟩
    refine ⟨h.pending, h.paymentType, h.positive, h.reserved, fun now => ?_⟩
    obtain ⟨⟨⟨⟨-, hprocessing⟩, hreference⟩, hid⟩, hsubmitted⟩ := hfresh now
    simp [Metadata.alreadyHandled, hprocessing, hreference, hid, hsubmitted]
  | some reference =>
    refine .inr ⟨rfl, { row with paymentMetadata := { row.paymentMetadata with
      autostackPaystackWebhookProcessing := false
      autostackBuyOrderRequestedAt := some now
      quidaxOrderProcessing := false
      quidaxOrderReference := some reference
      quidaxOrderId := some reference
      autostackBuyOrderSubmittedAt := some now } }, ⟨h.pending, h.paymentType, rfl⟩, ?_⟩
    simp [Preview.charged, Preview.confirmed, Plan.setRow]

theorem Row.Charged.deliver (h : row.Charged) (received settledAt : Nat) (d : Delivery) :
    (∃ row', row'.Charged ∧
        (v.charged row []).deliver .confirm received settledAt d = v.charged row' []) ∨
      ∃ row', row'.Ordered ∧
        (v.charged row []).deliver .confirm received settledAt d = v.charged row' [.confirm] := by
  rw [charged_deliver h.paymentType]
  cases d with
  | chargeSuccess now order =>
    rcases h.chargeSuccess [] now order with ⟨-, hcharged⟩ | ⟨-, hordered⟩
    · exact .inl hcharged
    · exact .inr hordered
  | orderDone =>
    have horders : (v.charged row []).orders = [] := rfl
    exact .inl ⟨row, h, by simp [Plan.orderDone, horders]⟩
  | swapCompleted confirmedFrom => exact .inl ⟨row, h, rfl⟩

theorem Row.Ordered.orderDone (h : row.Ordered) (received settledAt : Nat) :
    ∃ row', row'.Bought ∧ (v.charged row [.confirm]).orderDone .confirm received settledAt =
      v.bought row' received (getNextExecutionAt v.frequency settledAt) := by
  have horders : (v.charged row [.confirm]).orders = [.confirm] := rfl
  have hopen : ¬ (.confirm ∉ [ExecutionReference.confirm] ∨ row.status.isFinal = true) := by
    simp [h.pending, TransactionStatus.isFinal]
  have hstack (row' : Row) : ((v.charged row [.confirm]).stack received
      (getNextExecutionAt v.frequency settledAt)).setRow .confirm row' =
      v.bought row' received (getNextExecutionAt v.frequency settledAt) := by
    simp [Preview.bought, Preview.charged, Preview.confirmed, Plan.setRow, Plan.stack,
      Preview.confirm]
  have hfrequency : (v.charged row [.confirm]).frequency = v.frequency := rfl
  simp only [Plan.orderDone, lookup_charged, horders, if_neg hopen, hfrequency, hstack]
  refine ⟨_, ⟨rfl, ?_, ?_⟩, rfl⟩
  · dsimp only
    split <;> exact h.paymentType
  · dsimp only
    split <;> exact h.order

theorem Row.Ordered.deliver (h : row.Ordered) (received settledAt : Nat) (d : Delivery) :
    (v.charged row [.confirm]).deliver .confirm received settledAt d = v.charged row [.confirm] ∨
      ∃ row', row'.Bought ∧ (v.charged row [.confirm]).deliver .confirm received settledAt d =
        v.bought row' received (getNextExecutionAt v.frequency settledAt) := by
  rw [charged_deliver h.paymentType]
  cases d with
  | chargeSuccess now order =>
    left
    simp [Plan.chargeSuccess, handled_of_order h.order]
  | orderDone => exact .inr (h.orderDone received settledAt)
  | swapCompleted confirmedFrom => exact .inl rfl

theorem Row.Bought.deliver (h : row.Bought) (amount next received settledAt : Nat) (d : Delivery) :
    (v.bought row amount next).deliver .confirm received settledAt d =
      v.bought row amount next := by
  have hswaps : (v.bought row amount next).swaps.lookup .confirm = none := rfl
  cases d with
  | chargeSuccess now order =>
    simp [Plan.deliver, Plan.chargeSuccess, handled_of_order h.order]
  | orderDone => simp [Plan.deliver, Plan.orderDone, h.completed, TransactionStatus.isFinal]
  | swapCompleted confirmedFrom => simp [Plan.deliver, Plan.swapCompleted, hswaps]

variable (received settledAt : Nat)

theorem Row.Bought.reports (h : row.Bought) (amount next : Nat) (ds : List Delivery) :
    ds.foldl (fun q d => q.deliver .confirm received settledAt d) (v.bought row amount next) =
      v.bought row amount next := by
  induction ds with
  | nil => rfl
  | cons d ds ih => rw [List.foldl_cons, h.deliver, ih]

theorem Row.Ordered.reports (h : row.Ordered) {ds : List Delivery} (hdone : .orderDone ∈ ds) :
    ∃ row', row'.Bought ∧
      ds.foldl (fun q d => q.deliver .confirm received settledAt d) (v.charged row [.confirm]) =
        v.bought row' received (getNextExecutionAt v.frequency settledAt) := by
  induction ds with
  | nil => cases hdone
  | cons d ds ih =>
    rw [List.foldl_cons]
    rcases List.mem_cons.mp hdone with rfl | hlater
    · obtain ⟨row', hbought, hstep⟩ := h.orderDone (v := v) received settledAt
      refine ⟨row', hbought, ?_⟩
      rw [Plan.deliver, hstep, hbought.reports received settledAt]
    · rcases h.deliver received settledAt d with hsame | ⟨row', hbought, hstep⟩
      · rw [hsame]
        exact ih hlater
      · exact ⟨row', hbought, by rw [hstep, hbought.reports received settledAt]⟩

theorem Row.Charged.reports (h : row.Charged) {ds : List Delivery} {now : Nat} {order : Reference}
    (hds : [.chargeSuccess now (some order), .orderDone].Sublist ds) :
    ∃ row', row'.Bought ∧
      ds.foldl (fun q d => q.deliver .confirm received settledAt d) (v.charged row []) =
        v.bought row' received (getNextExecutionAt v.frequency settledAt) := by
  induction ds generalizing row with
  | nil => cases hds
  | cons d ds ih =>
    rw [List.foldl_cons]
    cases hds with
    | cons _ hlater =>
      rcases h.deliver received settledAt d with ⟨row', hcharged, hstep⟩ | ⟨row', hordered, hstep⟩
      · rw [hstep]
        exact ih hcharged hlater
      · rw [hstep]
        exact hordered.reports received settledAt (hlater.subset (by simp))
    | cons_cons _ hlater =>
      rw [charged_deliver h.paymentType]
      rcases h.chargeSuccess (v := v) [] now (some order)
          with ⟨hnone, -⟩ | ⟨-, row', hordered, hstep⟩
      · cases hnone
      · simp only [hstep]
        exact hordered.reports received settledAt (hlater.subset (by simp))

/-- The swap for the configuration has been submitted. -/
def Preview.swapping (v : Preview) (row : Row) : Plan :=
  { v.confirmed row with
    swaps := (∅ : Table ExecutionReference TransactionStatus).insert .confirm .PENDING }

/-- It is completed. -/
def Preview.swapped (v : Preview) (row : Row) (amount nextExecutionAt : Nat) : Plan :=
  { v.confirmed row with
    swaps := (∅ : Table ExecutionReference TransactionStatus).insert .confirm .COMPLETED
    taken := [.confirm]
    amount := amount
    status := .ACTIVE
    nextExecutionAt := nextExecutionAt }

structure Row.Swapped (row : Row) : Prop where
  description : row.description = .swapCompleted
  funding : row.paymentMetadata.funding = .otherWallet

theorem Row.Swapping.swapCompleted (h : row.Swapping) (confirmedFrom received settledAt : Nat) :
    ∃ row', row'.Swapped ∧
      (v.swapping row).swapCompleted .confirm confirmedFrom received settledAt =
        v.swapped row' received (getNextExecutionAt v.frequency settledAt) := by
  have hrow : (v.swapping row).rows.lookup .confirm = some row := lookup_confirmed (v := v) row
  have hswap : (v.swapping row).swaps.lookup .confirm = some .PENDING := AList.lookup_insert _
  have hopen : ¬ (row.status.isFinal = true ∨ row.paymentMetadata.alreadySettled = true) := by
    simp [h.pending, h.unsettled, TransactionStatus.isFinal]
  have hfrequency : (v.swapping row).frequency = v.frequency := rfl
  simp only [Plan.swapCompleted, hrow, hswap, if_neg hopen, hfrequency]
  refine ⟨{ row with
    status := .COMPLETED
    description := .swapCompleted
    cryptoAmountBase := confirmedFrom
    paymentMetadata := { row.paymentMetadata with
      liquidityReservationStatus := some .CONSUMED
      principalUsdtAmountBase := received
      autostackWebhookProcessedAt := some settledAt
      autostackInitiationStatus := .COMPLETED
      autostackSettlement := some .swap_completed } }, ⟨rfl, h.funding⟩, ?_⟩
  simp [Preview.swapped, Preview.swapping, Preview.confirmed, Plan.setRow, Plan.stack,
    Preview.confirm]

theorem Row.Swapping.deliver (h : row.Swapping) (received settledAt : Nat) (d : Delivery) :
    (v.swapping row).deliver .confirm received settledAt d = v.swapping row ∨
      ∃ row', row'.Swapped ∧ (v.swapping row).deliver .confirm received settledAt d =
        v.swapped row' received (getNextExecutionAt v.frequency settledAt) := by
  have htaken : (v.swapping row).taken = [] := rfl
  have horders : (v.swapping row).orders = [] := rfl
  have hrow : (v.swapping row).rows.lookup .confirm = some row := lookup_confirmed (v := v) row
  cases d with
  | chargeSuccess now order => exact .inl (by simp [Plan.deliver, htaken])
  | orderDone => exact .inl (by simp [Plan.deliver, Plan.orderDone, hrow, horders])
  | swapCompleted confirmedFrom => exact .inr (h.swapCompleted confirmedFrom received settledAt)

theorem Row.Swapped.deliver (h : row.Swapped) (amount next received settledAt : Nat)
    (d : Delivery) :
    (v.swapped row amount next).deliver .confirm received settledAt d =
      v.swapped row amount next := by
  have horders : (v.swapped row amount next).orders = [] := rfl
  have hrow : (v.swapped row amount next).rows.lookup .confirm = some row :=
    lookup_confirmed (v := v) row
  have hswap : (v.swapped row amount next).swaps.lookup .confirm = some .COMPLETED :=
    AList.lookup_insert _
  cases d with
  | chargeSuccess now order => simp [Plan.deliver, hrow, h.funding]
  | orderDone => simp [Plan.deliver, Plan.orderDone, hrow, horders]
  | swapCompleted confirmedFrom => simp [Plan.deliver, Plan.swapCompleted, hrow, hswap]

theorem Row.Swapped.reports (h : row.Swapped) (amount next : Nat) (ds : List Delivery) :
    ds.foldl (fun q d => q.deliver .confirm received settledAt d) (v.swapped row amount next) =
      v.swapped row amount next := by
  induction ds with
  | nil => rfl
  | cons d ds ih => rw [List.foldl_cons, h.deliver, ih]

theorem Row.Swapping.reports (h : row.Swapping) {ds : List Delivery} {confirmedFrom : Nat}
    (hds : .swapCompleted confirmedFrom ∈ ds) :
    ∃ row', row'.Swapped ∧
      ds.foldl (fun q d => q.deliver .confirm received settledAt d) (v.swapping row) =
        v.swapped row' received (getNextExecutionAt v.frequency settledAt) := by
  induction ds with
  | nil => cases hds
  | cons d ds ih =>
    rw [List.foldl_cons]
    rcases List.mem_cons.mp hds with rfl | hlater
    · obtain ⟨row', hswapped, hstep⟩ := h.swapCompleted (v := v) confirmedFrom received settledAt
      refine ⟨row', hswapped, ?_⟩
      rw [Plan.deliver, hstep, hswapped.reports received settledAt]
    · rcases h.deliver received settledAt d with hsame | ⟨row', hswapped, hstep⟩
      · rw [hsame]
        exact ih hlater
      · exact ⟨row', hswapped, by rw [hstep, hswapped.reports received settledAt]⟩

theorem usdt_reports {p : Plan} {r : ExecutionReference} (hrow : p.rows.lookup r = some row)
    (hfunding : row.paymentMetadata.funding = .usdtWallet) (horders : p.orders = [])
    (hswaps : p.swaps = ∅) (ds : List Delivery) :
    ds.foldl (fun q d => q.deliver r received settledAt d) p = p := by
  induction ds with
  | nil => rfl
  | cons d ds ih =>
    have hsame : p.deliver r received settledAt d = p := by
      cases d with
      | chargeSuccess now order => simp [Plan.deliver, hrow, hfunding]
      | orderDone => simp [Plan.deliver, Plan.orderDone, hrow, horders]
      | swapCompleted confirmedFrom => simp [Plan.deliver, Plan.swapCompleted, hrow, hswaps]
    rw [List.foldl_cons, hsame, ih]

end Reports

/-! ### The later periods -/

/-- After a first period from a card: each row carries the order of the first. -/
structure Keyed (p : Plan) : Prop where
  active : p.status = .ACTIVE
  keyed : ∀ r row, p.rows.lookup r = some row → row.paymentMetadata.paymentType = .CARD ∧
    row.paymentMetadata.quidaxOrderReference.isSome = true

/-- After one from another wallet than USDT: no row is the configuration. -/
structure Unconfigured (p : Plan) : Prop where
  active : p.status = .ACTIVE
  description : ∀ r row, p.rows.lookup r = some row → row.description ≠ .autostack_config

/-- After one from a USDT wallet: the configuration stays, and the executions have their times
behind them. -/
structure Stacking (v : Preview) (p : Plan) : Prop where
  active : p.status = .ACTIVE
  config : ∃ row, p.rows.lookup .confirm = some row ∧ row.description = .autostack_config ∧
    row.paymentMetadata.Clean v ∧ row.paymentMetadata.principalUsdtAmountBase = v.sourceAmount
  executions : ∀ t row, p.rows.lookup (.charge t) = some row →
    row.description ≠ .autostack_config ∧ t < p.nextExecutionAt
  unordered : p.orders = []
  unswapped : p.swaps = ∅

def After (v : Preview) (p : Plan) : Prop :=
  match v.funding with
  | .card => Keyed p
  | .otherWallet => Unconfigured p
  | .usdtWallet => Stacking v p

theorem lookup_confirmed_eq {v : Preview} {row row' : Row} {r : ExecutionReference}
    (h : (v.confirmed row).rows.lookup r = some row') : r = .confirm ∧ row' = row := by
  by_cases hr : r = .confirm
  · subst hr
    rw [lookup_confirmed] at h
    exact ⟨rfl, (Option.some.inj h).symm⟩
  · have hnone : (v.confirmed row).rows.lookup r = none :=
      (Table.lookup_insert _ _ _ _).trans (if_neg hr)
    rw [hnone] at h
    cases h

section Periods

variable {v : Preview}

theorem first_found (v : Preview) : v.confirm.configTx.isSome = true := by
  obtain ⟨row, hrow, -, hconfig⟩ := confirm_ready v
  rw [hrow, configTx_confirmed hconfig]
  rfl

theorem Row.Charged.unmistaken {row : Row} (h : row.Charged) (d : Delivery) :
    row.mistakes d = false := by
  unfold Row.mistakes
  rw [funding_card.mpr h.paymentType]
  cases d with
  | chargeSuccess now order => exact h.fresh now
  | orderDone => simp [h.pending, TransactionStatus.isFinal]
  | swapCompleted confirmedFrom => rfl

theorem Row.Swapping.unmistaken {row : Row} (h : row.Swapping) (d : Delivery) :
    row.mistakes d = false := by
  unfold Row.mistakes
  rw [h.funding]
  cases d with
  | swapCompleted confirmedFrom => simp [h.pending, h.unsettled, TransactionStatus.isFinal]
  | _ => rfl

theorem first_card {x : Period v} (hv : v.funding = .card) (hdue : x.Due v.confirm) :
    Served v.confirm x ∧ Keyed (x.run v.confirm) := by
  obtain ⟨row, hattempted, hready, -⟩ := first_attempted hdue
  obtain ⟨row₁, hstep, hcharged⟩ := initiatePending_card (lookup_confirmed row) hready hv
    (hv ▸ x.goesThrough)
  have hq : x.attempted v.confirm = v.charged row₁ [] := by
    rw [hattempted, hstep, confirmed_setRow]
    rfl
  obtain ⟨now, order, hds⟩ : ∃ now order,
      [.chargeSuccess now (some order), .orderDone].Sublist x.deliveries := by
    have hcomplete := x.complete
    rwa [hv] at hcomplete
  obtain ⟨row₂, hbought, hreports⟩ := hcharged.reports (v := v) x.received x.settledAt hds
  have hrun : x.run v.confirm =
      v.bought row₂ x.received (getNextExecutionAt v.frequency x.settledAt) := by
    rw [← hreports, ← hq]
    rfl
  refine ⟨⟨first_found v, ⟨row₁, ?_, fun d _ => hcharged.unmistaken d⟩, ?_, ?_⟩, ?_, ?_⟩
  · rw [hq]
    exact lookup_charged row₁ []
  · rw [hrun]
    rfl
  · rw [hrun]
    have hamount : x.amount = x.received := by simp [Period.amount, hv]
    rw [hamount]
    exact (Nat.zero_add _).symm
  · rw [hrun]
    rfl
  · rw [hrun]
    intro r row' hrow
    have hrow₂ : (v.confirmed row₂).rows.lookup r = some row' := hrow
    obtain ⟨-, rfl⟩ := lookup_confirmed_eq hrow₂
    exact ⟨hbought.paymentType, hbought.order⟩

theorem first_swap {x : Period v} (hv : v.funding = .otherWallet) (hdue : x.Due v.confirm) :
    Served v.confirm x ∧ Unconfigured (x.run v.confirm) := by
  obtain ⟨row, hattempted, hready, -⟩ := first_attempted hdue
  obtain ⟨row₁, hstep, hswapping⟩ := initiatePending_swap (lookup_confirmed row) hready hv
    (hv ▸ x.goesThrough)
  have hq : x.attempted v.confirm = v.swapping row₁ := by
    rw [hattempted, hstep, confirmed_setRow]
    rfl
  obtain ⟨confirmedFrom, hds⟩ : ∃ confirmedFrom, .swapCompleted confirmedFrom ∈ x.deliveries := by
    have hcomplete := x.complete
    rwa [hv] at hcomplete
  obtain ⟨row₂, hswapped, hreports⟩ := hswapping.reports (v := v) x.received x.settledAt hds
  have hrun : x.run v.confirm =
      v.swapped row₂ x.received (getNextExecutionAt v.frequency x.settledAt) := by
    rw [← hreports, ← hq]
    rfl
  refine ⟨⟨first_found v, ⟨row₁, ?_, fun d _ => hswapping.unmistaken d⟩, ?_, ?_⟩, ?_, ?_⟩
  · rw [hq]
    exact lookup_confirmed (v := v) row₁
  · rw [hrun]
    rfl
  · rw [hrun]
    have hamount : x.amount = x.received := by simp [Period.amount, hv]
    rw [hamount]
    exact (Nat.zero_add _).symm
  · rw [hrun]
    rfl
  · rw [hrun]
    intro r row' hrow
    have hrow₂ : (v.confirmed row₂).rows.lookup r = some row' := hrow
    obtain ⟨-, rfl⟩ := lookup_confirmed_eq hrow₂
    rw [hswapped.description]
    nofun

theorem unmistaken_usdt {row : Row} (h : row.paymentMetadata.funding = .usdtWallet)
    (d : Delivery) : row.mistakes d = false := by
  unfold Row.mistakes
  rw [h]

theorem first_usdt {x : Period v} (hv : v.funding = .usdtWallet) (hdue : x.Due v.confirm) :
    Served v.confirm x ∧ Stacking v (x.run v.confirm) := by
  obtain ⟨row, hattempted, hready, hconfig⟩ := first_attempted hdue
  have hfunded : x.last.funded = true := by
    have hgoes := x.goesThrough
    rwa [hv] at hgoes
  obtain ⟨row₁, hstep, hsame, hclean, hprincipal⟩ :=
    initiatePending_usdt (lookup_confirmed row) hready hv hfunded
  have hlookup : (x.attempted v.confirm).rows.lookup .confirm = some row₁ := by
    rw [hattempted, hstep]
    exact lookup_setRow_self _ _ _
  have hrun : x.run v.confirm = x.attempted v.confirm := by
    refine usdt_reports _ _ (r := .confirm) hlookup (hclean.funding.trans hv) ?_ ?_ x.deliveries
    · rw [hattempted, hstep]
      rfl
    · rw [hattempted, hstep]
      rfl
  refine ⟨⟨first_found v, ⟨row₁, hlookup, fun d _ =>
    unmistaken_usdt (hclean.funding.trans hv) d⟩, ?_, ?_⟩, ?_⟩
  · rw [hrun, hattempted, hstep]
    rfl
  · rw [hrun, hattempted, hstep]
    have hamount : x.amount = v.sourceAmount := by simp [Period.amount, hv]
    rw [hamount]
    exact (Nat.zero_add _).symm
  · rw [hrun]
    refine ⟨?_, ⟨row₁, hlookup, hsame.trans hconfig, hclean, hprincipal⟩, fun t row' hrow => ?_, ?_,
      ?_⟩
    · rw [hattempted, hstep]
      rfl
    · rw [hattempted, hstep] at hrow
      have hnone := (lookup_setRow _ _ _ _).symm.trans hrow
      rw [if_neg nofun] at hnone
      have hconfirmed : (v.confirmed row).rows.lookup (.charge t) = some row' := hnone
      exact nomatch (lookup_confirmed_eq hconfirmed).1
    · rw [hattempted, hstep]
      rfl
    · rw [hattempted, hstep]
      rfl

end Periods

/-! ### The later periods of a card -/

section Later

variable {v : Preview} {p q : Plan}

theorem configTx_lookup {r : ExecutionReference} {row : Row} (h : p.configTx = some (r, row)) :
    p.rows.lookup r = some row ∧ row.description = .autostack_config := by
  obtain ⟨e, he, heq⟩ := Option.map_eq_some_iff.mp h
  cases heq
  have hconfig := List.find?_some he
  exact ⟨AList.mem_lookup_iff.mpr (List.mem_of_find?_eq_some he), of_decide_eq_true hconfig⟩

theorem Keyed.insert (h : Keyed p) {r : ExecutionReference} {row : Row} (hq : q.status = .ACTIVE)
    (hrows : q.rows = p.rows.insert r row) (htype : row.paymentMetadata.paymentType = .CARD)
    (horder : row.paymentMetadata.quidaxOrderReference.isSome = true) : Keyed q := by
  refine ⟨hq, fun j row' hrow => ?_⟩
  rw [hrows, Table.lookup_insert] at hrow
  split at hrow
  · cases hrow
    exact ⟨htype, horder⟩
  · exact h.keyed j row' hrow

theorem Keyed.fail (h : Keyed p) (r : ExecutionReference) : Keyed (p.fail r) := by
  unfold Plan.fail
  split
  · exact h
  · rename_i row hrow
    exact h.insert h.active rfl (h.keyed r row hrow).1 (h.keyed r row hrow).2

theorem Keyed.pending (h : Keyed p) (r : ExecutionReference) (a : Attempt) :
    Keyed (p.initiatePendingAutoStack r a) := by
  cases hrow : p.rows.lookup r with
  | none => simpa [Plan.initiatePendingAutoStack, hrow] using h
  | some row =>
    obtain ⟨htype, horder⟩ := h.keyed r row hrow
    have hset (now : Nat) : Keyed (p.setRow r (row.locked now)) :=
      h.insert h.active rfl htype horder
    rw [initiatePending_of_lookup hrow, funding_card.mpr htype]
    split
    · unfold Plan.executeCard
      dsimp only
      split
      · exact (hset a.now).fail r
      · split
        · split
          · exact (hset a.now).insert h.active rfl htype horder
          · refine Keyed.fail ?_ r
            exact (hset a.now).insert h.active rfl htype horder
        · exact (hset a.now).fail r
    · exact h

theorem Keyed.initiate (h : Keyed p) (a : Attempt) : Keyed (p.initiateAutoStack a) := by
  unfold Plan.initiateAutoStack
  split
  · exact h
  · split
    · exact h
    · split
      · exact h
      · rename_i r config hconfig
        obtain ⟨htype, horder⟩ := h.keyed r config (configTx_lookup hconfig).1
        split
        · exact h.pending r a
        · refine Keyed.pending ?_ _ a
          unfold Plan.getOrCreateAutoStackExecutionTransaction
          split
          · exact h
          · exact h.insert h.active rfl htype horder

theorem Keyed.chargeSuccess (h : Keyed p) (r : ExecutionReference) (now : Nat)
    (order : Option Reference) : p.chargeSuccess r now order = p := by
  unfold Plan.chargeSuccess
  split
  · rfl
  · rename_i row hrow
    simp only [handled_of_order (h.keyed r row hrow).2, if_true, ite_self]

theorem Keyed.orderDone (h : Keyed p) (r : ExecutionReference) (received settledAt : Nat) :
    Keyed (p.orderDone r received settledAt) := by
  unfold Plan.orderDone
  split
  · exact h
  · rename_i row hrow
    obtain ⟨htype, horder⟩ := h.keyed r row hrow
    dsimp only
    split
    · exact h
    · refine h.insert rfl rfl ?_ ?_
      · dsimp only
        split <;> exact htype
      · dsimp only
        split <;> exact horder

theorem Keyed.swapCompleted (h : Keyed p) (r : ExecutionReference)
    (confirmedFrom received settledAt : Nat) :
    Keyed (p.swapCompleted r confirmedFrom received settledAt) := by
  unfold Plan.swapCompleted
  split
  · rename_i row hrow _
    obtain ⟨htype, horder⟩ := h.keyed r row hrow
    split
    · exact h
    · exact h.insert rfl rfl htype horder
  · exact h

theorem Keyed.deliver (h : Keyed p) (r : ExecutionReference) (received settledAt : Nat)
    (d : Delivery) : Keyed (p.deliver r received settledAt d) := by
  cases d with
  | chargeSuccess now order =>
    simp only [Plan.deliver, h.chargeSuccess, ite_self]
    exact h
  | orderDone => exact h.orderDone r received settledAt
  | swapCompleted confirmedFrom => exact h.swapCompleted r confirmedFrom received settledAt

theorem run_preserves {P : Plan → Prop} {x : Period v} (hp : P p)
    (hinitiate : ∀ q a, a ∈ x.attempts → P q → P (q.initiateAutoStack a))
    (hdeliver : ∀ q r d, P q → P (q.deliver r x.received x.settledAt d)) :
    P (x.attempted p) ∧ P (x.run p) := by
  have hattempted : P (x.attempted p) := by
    unfold Period.attempted
    generalize x.attempts = as at hinitiate
    induction as generalizing p with
    | nil => exact hp
    | cons a as ih =>
      exact ih (hinitiate p a (by simp) hp) fun q b hb => hinitiate q b (by simp [hb])
  refine ⟨hattempted, ?_⟩
  unfold Period.run
  generalize x.attempted p = q at hattempted
  induction x.deliveries generalizing q with
  | nil => exact hattempted
  | cons d ds ih => exact ih _ (hdeliver q _ d hattempted)

theorem Keyed.period (h : Keyed p) (x : Period v) : Keyed (x.attempted p) ∧ Keyed (x.run p) :=
  run_preserves h (fun _ a _ hq => hq.initiate a) fun _ r d hq => hq.deliver r _ _ d

theorem Keyed.not_served (h : Keyed p) {x : Period v} (hv : v.funding = .card) : ¬ Served p x := by
  intro hserved
  obtain ⟨row, hrow, hunmistaken⟩ := hserved.created
  obtain ⟨htype, horder⟩ := (h.period x).1.keyed _ row hrow
  have hcomplete := x.complete
  rw [hv] at hcomplete
  obtain ⟨now, order, hds⟩ := hcomplete
  have hcharge := hunmistaken (.chargeSuccess now (some order)) (hds.subset (by simp))
  simp only [Row.mistakes, funding_card.mpr htype, handled_of_order horder] at hcharge
  cases hcharge

/-! ### The later periods of another wallet -/

theorem Unconfigured.configTx (h : Unconfigured p) : p.configTx = none := by
  cases hconfig : p.configTx with
  | none => rfl
  | some e =>
    obtain ⟨r, row⟩ := e
    obtain ⟨hrow, hdescription⟩ := configTx_lookup hconfig
    exact absurd hdescription (h.description _ _ hrow)

theorem Unconfigured.initiate (h : Unconfigured p) (a : Attempt) : p.initiateAutoStack a = p := by
  simp [Plan.initiateAutoStack, h.configTx]

theorem Unconfigured.insert (h : Unconfigured p) {r : ExecutionReference} {row : Row}
    (hq : q.status = .ACTIVE) (hrows : q.rows = p.rows.insert r row)
    (hrow : row.description ≠ .autostack_config) : Unconfigured q := by
  refine ⟨hq, fun j row' hj => ?_⟩
  rw [hrows, Table.lookup_insert] at hj
  split at hj
  · cases hj
    exact hrow
  · exact h.description j row' hj

theorem Unconfigured.chargeSuccess (h : Unconfigured p) (r : ExecutionReference) (now : Nat)
    (order : Option Reference) : Unconfigured (p.chargeSuccess r now order) := by
  unfold Plan.chargeSuccess
  split
  · exact h
  · rename_i row hrow
    have hdescription := h.description r row hrow
    dsimp only
    split
    · exact h
    · split
      · exact h
      · split
        · exact h.insert h.active rfl hdescription
        · split
          · exact h.insert h.active rfl hdescription
          · exact h.insert h.active rfl hdescription

theorem Unconfigured.deliver (h : Unconfigured p) (r : ExecutionReference)
    (received settledAt : Nat) (d : Delivery) :
    Unconfigured (p.deliver r received settledAt d) := by
  cases d with
  | chargeSuccess now order =>
    simp only [Plan.deliver]
    split
    · exact h.chargeSuccess r now order
    · exact h
  | orderDone =>
    simp only [Plan.deliver, Plan.orderDone]
    split
    · exact h
    · rename_i row hrow
      split
      · exact h
      · exact h.insert rfl rfl (h.description r row hrow)
  | swapCompleted confirmedFrom =>
    simp only [Plan.deliver, Plan.swapCompleted]
    split
    · split
      · exact h
      · exact h.insert rfl rfl (by simp)
    · exact h

theorem Unconfigured.period (h : Unconfigured p) (x : Period v) : Unconfigured (x.run p) :=
  (run_preserves h (fun _ a _ hq => by rwa [hq.initiate a])
    fun _ r d hq => hq.deliver r _ _ d).2

/-! ### The later periods of a USDT wallet -/

theorem configTx_of {row : Row} (hrow : p.rows.lookup .confirm = some row)
    (h : row.description = .autostack_config)
    (hothers : ∀ t row', p.rows.lookup (.charge t) = some row' →
      row'.description ≠ .autostack_config) : p.configTx = some (.confirm, row) := by
  cases hconfig : p.configTx with
  | none =>
    have hnone := List.find?_eq_none.mp (Option.map_eq_none_iff.mp hconfig)
      ⟨.confirm, row⟩ (AList.mem_lookup_iff.mp hrow)
    simp [h] at hnone
  | some e =>
    obtain ⟨r, row'⟩ := e
    obtain ⟨hlookup, hdescription⟩ := configTx_lookup hconfig
    cases r with
    | confirm =>
      rw [hrow] at hlookup
      cases hlookup
      rfl
    | charge t => exact absurd hdescription (hothers t row' hlookup)

/-- The execution that is due has been created at most, and has not gone through. -/
def Tried (v : Preview) (p q : Plan) : Prop :=
  q = p ∨ ∃ row, q = p.setRow (.charge p.nextExecutionAt) row ∧ row.Ready v ∧
    row.description = .autostack_charge

theorem executionTx_ready {config : Row} (hv : v.funding = .usdtWallet)
    (hclean : config.paymentMetadata.Clean v)
    (hprincipal : config.paymentMetadata.principalUsdtAmountBase = v.sourceAmount) (a : Attempt) :
    (Plan.executionTx config a).Ready v := by
  refine ⟨rfl, ⟨hclean.funding, hclean.card, hclean.webhook, hclean.processing, hclean.order,
    hclean.submitted, hclean.unsettled, hclean.unreserved⟩, .inl rfl, fun _ => ?_, fun hcard => ?_⟩
  · have hfunding := hclean.funding.trans hv
    simp [Plan.executionTx, hfunding, hprincipal]
  · rw [hv] at hcard
    cases hcard

theorem Stacking.opened (h : Stacking v p) (hv : v.funding = .usdtWallet) (hq : Tried v p q)
    {a : Attempt} (hdue : isExecutionDue p.nextExecutionAt a.now = true) :
    ∃ row, q.initiateAutoStack a = (p.setRow (.charge p.nextExecutionAt)
        row).initiatePendingAutoStack (.charge p.nextExecutionAt) a ∧
      row.Ready v ∧ row.description = .autostack_charge := by
  obtain ⟨config, hconfig, hdescription, hclean, hprincipal⟩ := h.config
  have hfirst : p.rows.lookup (.charge p.nextExecutionAt) = none := by
    cases hrow : p.rows.lookup (.charge p.nextExecutionAt) with
    | none => rfl
    | some row => exact absurd (h.executions _ row hrow).2 (lt_irrefl _)
  rcases hq with rfl | ⟨row, rfl, hready, hcharge⟩
  · have hfound := configTx_of hconfig hdescription fun t row ht => (h.executions t row ht).1
    refine ⟨Plan.executionTx config a, ?_, executionTx_ready hv hclean hprincipal a, rfl⟩
    simp [Plan.initiateAutoStack, h.active, hdue, hfound,
      Plan.getOrCreateAutoStackExecutionTransaction, hfirst]
  · refine ⟨row, ?_, hready, hcharge⟩
    have hactive : (p.setRow (.charge p.nextExecutionAt) row).status = .ACTIVE := h.active
    have hnext : (p.setRow (.charge p.nextExecutionAt) row).nextExecutionAt =
        p.nextExecutionAt := rfl
    have hfound : (p.setRow (.charge p.nextExecutionAt) row).configTx =
        some (.confirm, config) := by
      refine configTx_of (by simp [hconfig]) hdescription fun t row' ht => ?_
      rw [lookup_setRow] at ht
      split at ht
      · cases ht
        simp [hcharge]
      · exact (h.executions t row' ht).1
    simp [Plan.initiateAutoStack, hactive, hnext, hdue, hfound,
      Plan.getOrCreateAutoStackExecutionTransaction]

theorem Stacking.tried (h : Stacking v p) (hv : v.funding = .usdtWallet) (as : List Attempt)
    (hdue : ∀ a ∈ as, isExecutionDue p.nextExecutionAt a.now = true)
    (hfails : ∀ a ∈ as, a.goesThrough v.funding = false) (hq : Tried v p q) :
    Tried v p (as.foldl (fun p a => p.initiateAutoStack a) q) := by
  induction as generalizing q with
  | nil => exact hq
  | cons a as ih =>
    obtain ⟨row, hstep, hready, hcharge⟩ := h.opened hv hq (hdue a (by simp))
    obtain ⟨row', hfailed, hready', hsame⟩ := initiatePending_fails
      (lookup_setRow_self p (.charge p.nextExecutionAt) row) hready (hfails a (by simp))
    refine ih (fun b hb => hdue b (by simp [hb])) (fun b hb => hfails b (by simp [hb])) (.inr ?_)
    exact ⟨row', (hstep.trans hfailed).trans (setRow_setRow _ _ _ _), hready', hsame.trans hcharge⟩

theorem Stacking.period (h : Stacking v p) (hv : v.funding = .usdtWallet) {x : Period v}
    (hdue : x.Due p) : Served p x ∧ Stacking v (x.run p) := by
  have hdue' : ∀ a ∈ x.attempts, isExecutionDue p.nextExecutionAt a.now = true := by
    intro a ha
    refine (hdue a ha).resolve_right fun hpending => ?_
    have hactive := h.active
    rw [hpending.1] at hactive
    cases hactive
  have hreference : p.reference = .charge p.nextExecutionAt := by
    simp [Plan.reference, h.active]
  obtain ⟨config, hconfig, hdescription, hclean, hprincipal⟩ := h.config
  have htried := h.tried hv x.failed (fun a ha => hdue' a (by simp [Period.attempts, ha])) x.fails
    (.inl rfl)
  have hlast := hdue' x.last (by simp [Period.attempts])
  obtain ⟨row, hopened, hready, hcharge⟩ := h.opened hv htried hlast
  have hfunded : x.last.funded = true := by
    have hgoes := x.goesThrough
    rwa [hv] at hgoes
  obtain ⟨row₁, hstep, hsame, hclean₁, -⟩ := initiatePending_usdt
    (lookup_setRow_self p (.charge p.nextExecutionAt) row) hready hv hfunded
  have hattempted : x.attempted p = { (p.stack v.sourceAmount
      (getNextExecutionAt p.frequency x.last.now)).setRow (.charge p.nextExecutionAt) row₁ with
        taken := .charge p.nextExecutionAt :: p.taken } := by
    rw [Period.attempted, Period.attempts, List.foldl_append]
    refine (hopened.trans hstep).trans ?_
    rw [stack_setRow, setRow_setRow]
    rfl
  have hlookup : (x.attempted p).rows.lookup p.reference = some row₁ := by
    rw [hattempted, hreference]
    exact lookup_setRow_self _ _ _
  have hfunding := hclean₁.funding.trans hv
  have hrun : x.run p = x.attempted p := by
    refine usdt_reports _ _ hlookup hfunding ?_ ?_ x.deliveries
    · rw [hattempted]
      exact h.unordered
    · rw [hattempted]
      exact h.unswapped
  refine ⟨⟨?_, ⟨row₁, hlookup, fun d _ => unmistaken_usdt hfunding d⟩, ?_, ?_⟩, ?_⟩
  · rw [configTx_of hconfig hdescription fun t row ht => (h.executions t row ht).1]
    rfl
  · rw [hrun, hattempted, hreference]
  · have hamount : x.amount = v.sourceAmount := by simp [Period.amount, hv]
    rw [hrun, hattempted, hamount]
    simp [Plan.setRow, Plan.stack, h.active]
  · have hnow : p.nextExecutionAt ≤ x.last.now := of_decide_eq_true hlast
    have hlater := getNextExecutionAt_later p.frequency x.last.now
    rw [hrun, hattempted]
    refine ⟨rfl, ⟨config, ?_, hdescription, hclean, hprincipal⟩, fun t row' ht => ?_, h.unordered,
      h.unswapped⟩
    · exact (lookup_setRow _ _ _ _).trans hconfig
    · have ht' := (lookup_setRow _ _ _ _).symm.trans ht
      split at ht'
      · rename_i heq
        cases heq
        cases ht'
        refine ⟨by rw [hsame, hcharge]; nofun, ?_⟩
        exact lt_of_le_of_lt hnow hlater
      · obtain ⟨hother, hbefore⟩ := h.executions t row' ht'
        exact ⟨hother, lt_trans (lt_of_lt_of_le hbefore hnow) hlater⟩

theorem first_period {x : Period v} (hdue : x.Due v.confirm) :
    Served v.confirm x ∧ After v (x.run v.confirm) := by
  unfold After
  cases hv : v.funding with
  | card => exact first_card hv hdue
  | otherWallet => exact first_swap hv hdue
  | usdtWallet => exact first_usdt hv hdue

theorem After.active (h : After v p) : p.status = .ACTIVE := by
  unfold After at h
  cases hv : v.funding with
  | card =>
    rw [hv] at h
    exact h.active
  | otherWallet =>
    rw [hv] at h
    exact h.active
  | usdtWallet =>
    rw [hv] at h
    exact h.active

theorem After.period (h : After v p) {x : Period v} (hdue : x.Due p) :
    After v (x.run p) ∧ (Served p x ↔ v.funding = .usdtWallet) := by
  unfold After at h ⊢
  cases hv : v.funding with
  | card =>
    rw [hv] at h
    exact ⟨(h.period x).2, iff_of_false (h.not_served hv) nofun⟩
  | otherWallet =>
    rw [hv] at h
    refine ⟨h.period x, iff_of_false (fun hserved => ?_) nofun⟩
    have hfound := hserved.found
    rw [h.configTx] at hfound
    cases hfound
  | usdtWallet =>
    rw [hv] at h
    obtain ⟨hserved, hstacking⟩ := h.period hv hdue
    exact ⟨hstacking, iff_of_true hserved rfl⟩

theorem After.periods (h : After v p) {earlier : List (Period v)} {x : Period v}
    (hdue : Run.Along Period.run Period.Due p (earlier ++ [x])) :
    After v (Run.final Period.run p earlier) ∧ x.Due (Run.final Period.run p earlier) := by
  induction earlier generalizing p with
  | nil => exact ⟨h, hdue.1⟩
  | cons y earlier ih => exact ih (h.period hdue.1).1 hdue.2

end Later

/-- From the confirmation of every stack, after any number of periods, of which the first makes it
active, the next execution that is due is served if and only if it is the first or a USDT wallet
pays for it: a later charge of a card is taken for one that was handled before, so that no order is
placed for it, and a stack that another wallet pays for has lost its configuration. -/
theorem served_iff (v : Preview) (earlier : List (Period v)) (x : Period v)
    (h : Run.Along Period.run Period.Due v.confirm (earlier ++ [x])) :
    ((Run.final Period.run v.confirm earlier).status = .ACTIVE ↔ earlier ≠ []) ∧
      (Served (Run.final Period.run v.confirm earlier) x ↔
        earlier = [] ∨ v.funding = .usdtWallet) := by
  cases earlier with
  | nil =>
    have hpending : v.confirm.status ≠ .ACTIVE := nofun
    exact ⟨iff_of_false hpending (by simp), iff_of_true (first_period h.1).1 (.inl rfl)⟩
  | cons y earlier =>
    obtain ⟨hafter, hdue⟩ := (first_period h.1).2.periods h.2
    refine ⟨iff_of_true hafter.active (by simp), (hafter.period hdue).2.trans ?_⟩
    simp

/-- Ten USDT a day. -/
def daily (paymentType : PaymentType) (sourceAsset : Currency) : Preview where
  frequency := .DAILY
  startDate := 1000
  paymentType := paymentType
  paymentCardId := some 4
  sourceAsset := sourceAsset
  principalUsdt := 10000000
  sourceAmount := 10000000
  positive := by decide
  card := fun _ => rfl

def attemptAt (now : Nat) (funded : Bool) : Attempt where
  now := now
  force := false
  sourceAmountBase := 10000000
  companyLiquidityAmountBase := 1500000
  funded := funded
  accepts := true

/-- The USDT wallet is short at the first attempt of the day. -/
def fromWallet (now : Nat) : Period (daily .CRYPTO_WALLET .usdt) where
  failed := [attemptAt now false]
  fails := fun a ha => by
    cases List.mem_singleton.mp ha
    rfl
  last := attemptAt (now + 3600) true
  goesThrough := rfl
  deliveries := []
  complete := trivial
  received := 0
  settledAt := now

theorem fromWallet_served :
    Served (Run.final Period.run (daily .CRYPTO_WALLET .usdt).confirm [fromWallet 1000])
      (fromWallet 100000) := by
  refine (served_iff (daily .CRYPTO_WALLET .usdt) [fromWallet 1000] (fromWallet 100000) ?_).2.mpr
    (.inr rfl)
  refine ⟨?_, ?_, trivial⟩
  · unfold Period.Due
    decide +kernel
  · unfold Period.Due
    decide +kernel

/-- The card is charged, and Quidax takes the order and reports it as done. -/
def fromCard (now : Nat) : Period (daily .CARD .usdt) where
  failed := []
  fails := nofun
  last := attemptAt now true
  goesThrough := rfl
  deliveries := [.chargeSuccess (now + 60) (some 7), .orderDone]
  complete := ⟨now + 60, 7, .refl _⟩
  received := 10000000
  settledAt := now + 120

/-- The swap from the bitcoin wallet is completed. -/
def fromBitcoin (now : Nat) : Period (daily .CRYPTO_WALLET .btc) where
  failed := []
  fails := nofun
  last := attemptAt now true
  goesThrough := rfl
  deliveries := [.swapCompleted 10000000]
  complete := ⟨10000000, .head _⟩
  received := 10000000
  settledAt := now + 120

/-- The second period of either stack is not served: the card pays twice for what is stacked once,
and the bitcoin wallet is never asked again. -/
theorem second_period_not_served :
    (Run.Along Period.run Period.Due (daily .CARD .usdt).confirm [fromCard 1000, fromCard 100000] ∧
      ¬ Served (Run.final Period.run (daily .CARD .usdt).confirm [fromCard 1000])
        (fromCard 100000)) ∧
    (Run.Along Period.run Period.Due (daily .CRYPTO_WALLET .btc).confirm
        [fromBitcoin 1000, fromBitcoin 100000] ∧
      ¬ Served (Run.final Period.run (daily .CRYPTO_WALLET .btc).confirm [fromBitcoin 1000])
        (fromBitcoin 100000)) := by
  refine ⟨⟨⟨?_, ?_, trivial⟩, fun h => ?_⟩, ⟨?_, ?_, trivial⟩, fun h => ?_⟩
  · unfold Period.Due
    decide +kernel
  · unfold Period.Due
    decide +kernel
  · have hstacked := h.stacked
    revert hstacked
    decide +kernel
  · unfold Period.Due
    decide +kernel
  · unfold Period.Due
    decide +kernel
  · have hfound := h.found
    revert hfound
    decide +kernel

end StackPeriods

end ExchangeLedger
