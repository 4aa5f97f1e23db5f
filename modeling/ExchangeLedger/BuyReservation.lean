import ExchangeLedger.Concurrent
import ExchangeLedger.Credit
import ExchangeLedger.OrderDone
import ExchangeLedger.OrderSettlement

set_option autoImplicit false

/-! What becomes of the company's NGN that a buy confirmation reserved: the outcomes of the charge,
deliveries of `charge.success`, order placements, and `order.done` events. -/

namespace ExchangeLedger

open Block Concurrent

namespace BuyService

inductive Closing where
  | consumed (amount : Nat)
  | released (amount : Nat)
  deriving DecidableEq, Repr

def Closing.amount : Closing → Nat
  | .consumed amount | .released amount => amount

/-- The ledger, whether the purchase's metadata shows an order under way, and how its reservation
was closed, the latest first. -/
structure Purchase where
  ledger : Ledger
  underWay : Bool
  closings : List Closing

/-- The row as it was read. -/
structure Copy where
  transaction : Transaction
  underWay : Bool
  deriving DecidableEq, Repr

/-- An `order.done` event of the purchase's market. -/
structure BuyOrderEvent where
  event : OrderDone.Event
  side : event.side = .BUY
  quoteUnit : event.quoteUnit = BASE_CURRENCY
  deriving DecidableEq

inductive Task where
  /-- `confirmBuy` with the row that it created, before Paystack answers. -/
  | charging (created : Copy)
  | storingCharge (created : Copy)
  | releasingCharge
  /-- A refused charge, between its release and its FAILED status. -/
  | failingCharge
  | verifying
  | marking
  | placing (current : Copy)
  | clearing (current : Copy)
  | recording (current : Copy) (providerReference : Reference)
  /-- `handleFailure`, before and after it reads the row. -/
  | failing
  | failingFrom (metadata : Copy)
  /-- `markPaystackWebhookProcessed`, before and after it reads the row. -/
  | stamping
  | stampingFrom (fresh : Copy)
  | routing (e : BuyOrderEvent)
  | failingOrder (e : BuyOrderEvent) (read : Copy)
  | settling (e : BuyOrderEvent) (read : Copy) (amounts : OrderDone.ExecutedAmounts)
  /-- The `catch` of a settlement. -/
  | settlingFailed (e : BuyOrderEvent) (read : Copy)
  deriving DecidableEq

inductive Outcome where
  | ok | fails
  /-- Paystack refuses the charge, or Quidax the order. -/
  | refused
  /-- The charge is verified, as successful or not. -/
  | verified (success : Bool)
  | accepted (providerReference : Reference)
  /-- The settlement fails with an error of the database that is not transient. -/
  | throws
  deriving DecidableEq, Repr

inductive Delivery where
  | chargeSuccess
  | orderDone (e : BuyOrderEvent)

def Purchase.read (id : TransactionId) (p : Purchase) : Option Copy :=
  (p.ledger.transactions.lookup id).map (⟨·, p.underWay⟩)

/-- A statement that writes the whole metadata from a copy of it. -/
def Purchase.writeMetadata (id : TransactionId) (c : Copy) (p : Purchase) : Purchase :=
  { p with
    ledger := (updateTransaction id
      (fun t => t.withMetadata c.transaction.paymentMetadata)).commit p.ledger
    underWay := c.underWay }

/-- `handleFailure` releases only what the metadata calls reserved. -/
def reserves (t : Transaction) : Bool :=
  t.paymentMetadata.liquidityReservationStatus = some .RESERVED ∧ 0 < t.reservedLiquidityAmount

/-- `handleFailure` with the row that it read. -/
def handleFailureBlock (id : TransactionId) (transaction : Transaction) : LedgerBlock Unit := do
  onlyIf (reserves transaction = true)
    (releaseLiquidity BASE_CURRENCY transaction.reservedLiquidityAmount)
  updateTransaction id (fun t =>
    { t.withMetadata { transaction.paymentMetadata with
        liquidityReservationStatus := some .RELEASED } with
      status := .FAILED, isProcessed := true })

/-- What `handleSuccess` stores of an accepted order. -/
def recordOrderBlock (id : TransactionId) (transaction : Transaction)
    (providerReference : Reference) : LedgerBlock Unit := do
  let order ← read (fun L => L.orders.lookup id)
  createOrder id
    { (order.getD
        { userId := transaction.userId, type := .BUY, fiatAmountBase := transaction.fiatAmountBase
          status := .PENDING, referenceNo := none, paymentStatus := .PENDING
          paymentReference := none }) with
      status := .PENDING, type := .BUY, referenceNo := some providerReference
      paymentStatus := .PAID, paymentReference := some transaction.transactionUniqueId }
  updateTransaction id (fun t => t.withMetadata transaction.paymentMetadata)

/-- The amount that a block closes which goes by what the row read as. -/
def Copy.closes (c : Copy) (closing : Nat → Closing) : List Closing :=
  if c.transaction.holdsReservation then [closing c.transaction.reservedLiquidityAmount] else []

/-- A failed order changes the row's metadata only when it releases. -/
def Purchase.failOrder (c : Copy) (M : Ledger) (p : Purchase) : Purchase where
  ledger := M
  underWay := if c.transaction.holdsReservation then c.underWay else p.underWay
  closings := c.closes .released ++ p.closings

def Purchase.settle (c : Copy) (M : Ledger) (p : Purchase) : Purchase where
  ledger := M
  underWay := if c.transaction.holdsReservation then c.underWay else p.underWay
  closings := c.closes .consumed ++ p.closings

/-- Where `order.done` goes when it finds the purchase's order. -/
def route (cache : ConvertCurrency.DefaultNetworkCache) (id : TransactionId) (e : BuyOrderEvent)
    (p : Purchase) : Option Task :=
  match OrderDone.process cache p.ledger e.event with
  | .ok (.failOrder j) => if j = id then (p.read id).map (.failingOrder e) else none
  | .ok (.settle j amounts) =>
    if j = id then (p.read id).map (fun c => .settling e c amounts) else none
  | _ => none

/-- The rest of `confirmBuy` after its reservation. -/
def resumeCharge (q : Confirm) (id : TransactionId) (t : Task) (o : Outcome) (p : Purchase) :
    Purchase × Option Task :=
  match t, o with
  | .charging created, .ok => (p, some (.storingCharge created))
  | .charging _, .refused => (p, some .releasingCharge)
  | .storingCharge created, .ok => (p.writeMetadata id created, none)
  | .releasingCharge, .ok =>
    match releaseLiquidity BASE_CURRENCY q.companyLiquidityAmount p.ledger with
    | .ok (_, M) =>
      ({ p with ledger := M, closings := .released q.companyLiquidityAmount :: p.closings },
        some .failingCharge)
    | .error _ => (p, none)
  | .failingCharge, .ok =>
    ({ p with
        ledger := (updateTransaction id (fun t => { t with status := .FAILED })).commit p.ledger },
      none)
  | _, _ => (p, none)

/-- One step of `handleWebhook` after its check of the status. -/
def resumeWebhook (id : TransactionId) (t : Task) (o : Outcome) (p : Purchase) :
    Purchase × Option Task :=
  match t, o with
  | .verifying, .verified success => (p, some (if success then .marking else .failing))
  | .marking, .ok =>
    match p.read id with
    | none => (p, none)
    | some current =>
      if current.transaction.paymentMetadata.liquidityReservationStatus = some .RELEASED ∨
          current.underWay then (p, some .stamping)
      else ({ p with underWay := true }, some (.placing current))
  | .placing current, .accepted providerReference =>
      (p, some (.recording current providerReference))
  | .placing current, .refused => (p, some (.clearing current))
  | .clearing current, .ok => (p.writeMetadata id current, none)
  | .recording current providerReference, .ok =>
    ({ p with
        ledger := (recordOrderBlock id current.transaction providerReference).commit p.ledger
        underWay := true }, some .stamping)
  | .failing, .ok => (p, (p.read id).map .failingFrom)
  | .failingFrom metadata, .ok =>
    match handleFailureBlock id metadata.transaction p.ledger with
    | .ok (_, M) =>
      ({ ledger := M, underWay := metadata.underWay
         closings :=
           (if reserves metadata.transaction
            then [.released metadata.transaction.reservedLiquidityAmount] else []) ++ p.closings },
        some .stamping)
    | .error _ => (p, none)
  | .stamping, .ok => (p, (p.read id).map .stampingFrom)
  | .stampingFrom fresh, .ok => (p.writeMetadata id fresh, none)
  | _, _ => (p, none)

/-- One step of the `order.done` handler. -/
def resumeOrderDone (cache : ConvertCurrency.DefaultNetworkCache) (id : TransactionId) (t : Task)
    (o : Outcome) (p : Purchase) : Purchase × Option Task :=
  match t, o with
  | .routing e, .ok => (p, route cache id e p)
  | .failingOrder e c, .ok =>
    match OrderDone.failOrderBlock true e.event.baseUnit e.event.quoteUnit id c.transaction
        p.ledger with
    | .ok (true, M) => (p.failOrder c M, none)
    | _ => (p, none)
  | .settling e c amounts, .ok =>
    match OrderDone.buyBlock cache e.event.baseUnit e.event.quoteUnit id c.transaction
        amounts.cryptoAmountBase.toNat amounts.fiatAmountBase.toNat p.ledger with
    | .ok (true, M) => (p.settle c M, none)
    | .ok (false, _) => (p, none)
    | .error _ => (p, some (.settlingFailed e c))
  | .settling e c _, .throws => (p, some (.settlingFailed e c))
  | .settlingFailed e c, .ok =>
    match OrderDone.buyFailureBlock e.event.quoteUnit id c.transaction p.ledger with
    | .ok (_, M) => ({ ledger := M, underWay := c.underWay
                       closings := c.closes .released ++ p.closings }, none)
    | .error _ => (p, none)
  | _, _ => (p, none)

def resume (cache : ConvertCurrency.DefaultNetworkCache) (q : Confirm) (id : TransactionId)
    (t : Task) (o : Outcome) (p : Purchase) : Purchase × Option Task :=
  match t with
  | .charging _ | .storingCharge _ | .releasingCharge | .failingCharge => resumeCharge q id t o p
  | .routing _ | .failingOrder _ _ | .settling _ _ _ | .settlingFailed _ _ =>
    resumeOrderDone cache id t o p
  | _ => resumeWebhook id t o p

def start (id : TransactionId) (d : Delivery) (p : Purchase) : Option Task :=
  match d with
  | .chargeSuccess =>
    if (p.ledger.transactions.lookup id).any
        (fun t => t.status ≠ .SUCCESS ∧ t.status ≠ .FAILED) then some .verifying else none
  | .orderDone e => some (.routing e)

def purchases (cache : ConvertCurrency.DefaultNetworkCache) (q : Confirm) (id : TransactionId) :
    Handlers Purchase Task Delivery Outcome Empty where
  start := start id
  resume := resume cache q id
  outside := fun x => x.elim

/-- The purchase as its confirmation reserves for it: the charge is about to be made. -/
def reserved (q : Confirm) (L : Ledger) : System Purchase Task :=
  ⟨⟨L, false, []⟩, [.charging ⟨(q.transaction true).row, false⟩]⟩

/-! ### The row and the reservation -/

/-- A copy that fits a row of the given status: the reservation is open until the row ends, and
afterwards a copy shows it open, or as the end left it. -/
structure Fits (amount : Nat) (status : TransactionStatus) (t : Transaction) : Prop where
  context : t.transactionContext = .BUY
  amount : t.paymentMetadata.liquidityReservationAmount = some amount
  reservation : t.paymentMetadata.liquidityReservationStatus = some .RESERVED ∨
    (t.paymentMetadata.liquidityReservationStatus = some .CONSUMED ∧ status = .COMPLETED) ∨
    (t.paymentMetadata.liquidityReservationStatus = some .RELEASED ∧ status = .FAILED)

/-- The row has `status`, and `reserved` is what the company holds reserved in NGN. -/
structure Standing (amount : Nat) (id : TransactionId) (status : TransactionStatus)
    (reserved : Int) (L : Ledger) : Prop where
  row : ∃ t, L.transactions.lookup id = some t ∧ t.status = status ∧ Fits amount status t
  reserved : L.reservedLiquidity BASE_CURRENCY = reserved

section Standing

variable {amount : Nat} {id : TransactionId} {status : TransactionStatus} {reserved : Int}
  {L M : Ledger}

theorem Fits.ends {t : Transaction} (h : Fits amount .PENDING t) (next : TransactionStatus) :
    Fits amount next t := by
  obtain ⟨hcontext, hamount, hreserved | ⟨-, hstatus⟩ | ⟨-, hstatus⟩⟩ := h
  · exact ⟨hcontext, hamount, .inl hreserved⟩
  · cases hstatus
  · cases hstatus

theorem Fits.open {t : Transaction} (h : Fits amount .PENDING t) :
    t.paymentMetadata.liquidityReservationStatus = some .RESERVED := by
  rcases h.reservation with hreserved | ⟨-, hstatus⟩ | ⟨-, hstatus⟩
  · exact hreserved
  · cases hstatus
  · cases hstatus

theorem Fits.reservedAmount {t : Transaction} (h : Fits amount status t) :
    t.reservedLiquidityAmount = amount := by
  simp [Transaction.reservedLiquidityAmount, h.amount]

theorem Fits.holds {t : Transaction} (h : Fits amount .PENDING t) (hpos : 0 < amount) :
    t.holdsReservation = true := by
  simp [Transaction.holdsReservation, Transaction.liquidityReservationStatus, h.open,
    h.reservedAmount, hpos]

theorem Standing.of_frame (h : Standing amount id status reserved L)
    (htransactions : M.transactions = L.transactions)
    (hreserved : M.reservedLiquidity BASE_CURRENCY = L.reservedLiquidity BASE_CURRENCY) :
    Standing amount id status reserved M := by
  obtain ⟨t, ht, hstatus, hfits⟩ := h.row
  exact ⟨⟨t, by rw [htransactions, ht], hstatus, hfits⟩, hreserved.trans h.reserved⟩

theorem updateTransaction_standing {f : Transaction → Transaction} {next : TransactionStatus}
    (h : Standing amount id status reserved L)
    (hf : ∀ t, t.status = status → Fits amount status t → (f t).status = next ∧
      Fits amount next (f t)) {u : Unit} (hM : (updateTransaction id f).Commits L u M) :
    Standing amount id next reserved M := by
  rw [← commits_update.mp hM]
  obtain ⟨t, ht, hstatus, hfits⟩ := h.row
  exact ⟨⟨f t, by simp [ht], hf t hstatus hfits⟩, h.reserved⟩

theorem releaseLiquidity_standing (h : Standing amount id status reserved L) {u : Unit}
    {released : Nat} (hM : (releaseLiquidity BASE_CURRENCY released).Commits L u M) :
    Standing amount id status (reserved - released) M := by
  obtain ⟨t, ht, hstatus, hfits⟩ := h.row
  have hframe := (releaseLiquidity_frame hM).1
  refine ⟨⟨t, ?_, hstatus, hfits⟩, ?_⟩
  · rw [hframe]
    exact ht
  · rw [releaseLiquidity_reserved hM, h.reserved]
    simp

theorem wallet_standing {k : WalletKey} {p : Wallet → Prop} [DecidablePred p]
    {f : Wallet → Wallet} {e : Failure} :
    Preserves (Standing amount id status reserved) (mustUpdateWallet k p f e) := by
  intro L u M h hM
  obtain ⟨w, -, -, rfl⟩ := mustUpdateWallet_commits.mp hM
  exact h.of_frame rfl rfl

theorem restate_standing (cache : ConvertCurrency.DefaultNetworkCache) (k : WalletKey)
    (network : Option CryptoNetwork) :
    Preserves (Standing amount id status reserved) (restateOriginalBalance cache k network) := by
  intro L u M h hM
  rcases restateOriginalBalance_commits.mp hM with ⟨-, rfl⟩ | ⟨w, text, -, -, rfl⟩
  · exact h
  · exact h.of_frame rfl rfl

theorem addInternalBalance_standing (c : Currency) (credit : Int) :
    Preserves (Standing amount id status reserved) (addInternalBalance c credit) := by
  apply preserves_update
  intro L h
  refine h.of_frame (M := L.setCompany c _) rfl ?_
  rw [Ledger.reservedLiquidity_setCompany]
  split
  · rename_i hc
    rw [hc]
    cases hr : L.companyLiquidity.lookup c with
    | none => simp [Ledger.reservedLiquidity, hr, CompanyLiquidity.empty]
    | some r => simp [Ledger.reservedLiquidity, hr]
  · rfl

theorem consumeReservedLiquidity_standing (h : Standing amount id status reserved L)
    {consumed : Nat} (hM : (consumeReservedLiquidity BASE_CURRENCY consumed).Commits L true M) :
    Standing amount id status (reserved - consumed) M := by
  obtain ⟨t, ht, hstatus, hfits⟩ := h.row
  rcases consumeReservedLiquidity_commits.mp hM with ⟨r, hr, -, -, rfl⟩ | ⟨-, hfalse, -⟩
  · refine ⟨⟨t, ht, hstatus, hfits⟩, ?_⟩
    rw [Ledger.reservedLiquidity_setCompany, ← h.reserved, Ledger.reservedLiquidity_of_lookup hr]
    simp
  · cases hfalse

theorem Standing.open_of_unprocessed (h : Standing amount id status reserved L)
    (hopen : L.alreadyProcessed id = false) : status.isFinal = false := by
  obtain ⟨t, ht, hstatus, -⟩ := h.row
  simpa [Ledger.alreadyProcessed, ht, hstatus] using hopen

theorem handleFailureBlock_standing (h : Standing amount id .PENDING reserved L)
    {t : Transaction} (ht : Fits amount .PENDING t) (hpos : 0 < amount) {u : Unit}
    (hM : (handleFailureBlock id t).Commits L u M) :
    reserves t = true ∧ Standing amount id .FAILED (reserved - amount) M := by
  have hreserves : reserves t = true := by
    simp [reserves, ht.open, ht.reservedAmount, hpos]
  simp only [handleFailureBlock, hreserves, commits_bind, commits_onlyIf, not_true_eq_false,
    false_and, or_false, true_and, ht.reservedAmount] at hM
  obtain ⟨_, A, hrelease, hwrite⟩ := hM
  refine ⟨hreserves, updateTransaction_standing (releaseLiquidity_standing h hrelease) ?_ hwrite⟩
  intro r hr hfits
  exact ⟨rfl, hfits.context, ht.amount, .inr (.inr ⟨rfl, rfl⟩)⟩

theorem handleFailureBlock_again (h : Standing amount id .FAILED reserved L) {t : Transaction}
    (ht : Fits amount .FAILED t)
    (hreleased : t.paymentMetadata.liquidityReservationStatus = some .RELEASED) {u : Unit}
    (hM : (handleFailureBlock id t).Commits L u M) :
    reserves t = false ∧ Standing amount id .FAILED reserved M := by
  have hreserves : reserves t = false := by
    simp [reserves, hreleased]
  simp only [handleFailureBlock, hreserves, commits_bind, commits_onlyIf, Bool.false_eq_true,
    false_and, false_or, not_false_eq_true, true_and] at hM
  obtain ⟨_, _, rfl, hwrite⟩ := hM
  refine ⟨hreserves, updateTransaction_standing h ?_ hwrite⟩
  intro r hr hfits
  exact ⟨rfl, hfits.context, ht.amount, .inr (.inr ⟨rfl, rfl⟩)⟩

theorem failOrderBlock_standing (h : Standing amount id status reserved L) {crypto : Currency}
    {t : Transaction} (ht : Fits amount status t) (hpos : 0 < amount)
    (hstatus : status.isFinal = false → status = .PENDING)
    (hM : (OrderDone.failOrderBlock true crypto BASE_CURRENCY id t).Commits L true M) :
    status = .PENDING ∧ Standing amount id .FAILED (reserved - amount) M := by
  rw [OrderDone.failOrderBlock, commits_read_bind] at hM
  split at hM
  · simp at hM
  · rename_i hopen
    have hpending := hstatus (h.open_of_unprocessed (by simpa using hopen))
    subst hpending
    simp only [commits_bind, ht.holds hpos, ↓reduceIte, ht.reservedAmount, commits_onlyIf,
      Bool.true_eq_false, false_and, false_or, not_false_eq_true, true_and, commits_pure] at hM
    obtain ⟨_, A, hfail, _, B, horder, _, _, rfl, _, C, hrelease, _, _, hwrite, -, rfl⟩ := hM
    have hA : Standing amount id .FAILED reserved A := by
      refine updateTransaction_standing h ?_ hfail
      intro r hr hfits
      have hends := hfits.ends .FAILED
      exact ⟨rfl, hends.context, hends.amount, hends.reservation⟩
    have hB : Standing amount id .FAILED reserved B := by
      rw [← commits_update.mp horder]
      exact hA.of_frame rfl rfl
    refine ⟨rfl, updateTransaction_standing (releaseLiquidity_standing hB hrelease) ?_ hwrite⟩
    intro r hr hfits
    exact ⟨hr, hfits.context, ht.amount, .inr (.inr ⟨rfl, rfl⟩)⟩

theorem consumeForBuy_standing (h : Standing amount id .COMPLETED reserved L) {t : Transaction}
    (ht : Fits amount .PENDING t) (hpos : 0 < amount) {u : Unit}
    (hM : (OrderDone.consumeForBuy BASE_CURRENCY id t).Commits L u M) :
    Standing amount id .COMPLETED (reserved - amount) M := by
  simp only [OrderDone.consumeForBuy, ht.holds hpos, ↓reduceIte, commits_bind, ht.reservedAmount,
    commits_require] at hM
  obtain ⟨b, A, hconsume, _, _, ⟨rfl, rfl⟩, hwrite⟩ := hM
  refine updateTransaction_standing (consumeReservedLiquidity_standing h hconsume) ?_ hwrite
  intro r hr hfits
  exact ⟨hr, hfits.context, ht.amount, .inr (.inl ⟨rfl, rfl⟩)⟩

theorem buyBlock_standing (h : Standing amount id status reserved L)
    {cache : ConvertCurrency.DefaultNetworkCache} {crypto : Currency} {t : Transaction}
    (ht : Fits amount status t) (hpos : 0 < amount)
    (hstatus : status.isFinal = false → status = .PENDING) {executedCrypto executedFiat : Nat}
    (hM : (OrderDone.buyBlock cache crypto BASE_CURRENCY id t executedCrypto
      executedFiat).Commits L true M) :
    status = .PENDING ∧ Standing amount id .COMPLETED (reserved - amount) M := by
  rw [OrderDone.buyBlock, commits_read_bind] at hM
  split at hM
  · simp at hM
  · rename_i hopen
    have hpending := hstatus (h.open_of_unprocessed (by simpa using hopen))
    subst hpending
    have hcontext : ¬ t.transactionContext = .AUTOSTACK := by simp [ht.context]
    simp only [commits_bind, hcontext, ↓reduceIte, commits_pure] at hM
    obtain ⟨_, A, hsettle, _, B, horder, _, C, hconsume, _, D, hcredit, _, E, hrestate, _, F,
      hinternal, -, rfl⟩ := hM
    have hA : Standing amount id .COMPLETED reserved A := by
      refine updateTransaction_standing h ?_ hsettle
      intro r hr hfits
      have hends := hfits.ends .COMPLETED
      exact ⟨rfl, hends.context, hends.amount, hends.reservation⟩
    have hB : Standing amount id .COMPLETED reserved B := by
      rw [← commits_update.mp horder]
      exact hA.of_frame rfl rfl
    have hC := consumeForBuy_standing hB ht hpos hconsume
    have hD := wallet_standing _ _ _ hC hcredit
    have hE := restate_standing _ _ _ _ _ _ hD hrestate
    exact ⟨rfl, addInternalBalance_standing _ _ _ _ _ hE hinternal⟩

theorem buyFailureBlock_standing (h : Standing amount id .PENDING reserved L) {t : Transaction}
    (ht : Fits amount .PENDING t) (hpos : 0 < amount) {u : Unit}
    (hM : (OrderDone.buyFailureBlock BASE_CURRENCY id t).Commits L u M) :
    Standing amount id .FAILED (reserved - amount) M := by
  simp only [OrderDone.buyFailureBlock, commits_bind, ht.holds hpos, commits_onlyIf,
    not_true_eq_false, false_and, or_false, true_and, ht.reservedAmount] at hM
  obtain ⟨_, A, horder, _, B, hfail, hrelease⟩ := hM
  have hA : Standing amount id .PENDING reserved A := by
    rw [← commits_update.mp horder]
    exact h.of_frame rfl rfl
  have hB : Standing amount id .FAILED reserved B := by
    refine updateTransaction_standing hA ?_ hfail
    intro r hr hfits
    have hends := ht.ends .FAILED
    exact ⟨rfl, hfits.context, hends.amount, hends.reservation⟩
  exact releaseLiquidity_standing hB hrelease

theorem writeMetadata_standing {p : Purchase} (h : Standing amount id status reserved p.ledger)
    {c : Copy} (hc : Fits amount status c.transaction) :
    Standing amount id status reserved (p.writeMetadata id c).ledger := by
  have hM : (updateTransaction id (fun t => t.withMetadata c.transaction.paymentMetadata)).Commits
      p.ledger () (p.writeMetadata id c).ledger := commits_update.mpr rfl
  refine updateTransaction_standing h ?_ hM
  intro r hr hfits
  exact ⟨hr, hfits.context, hc.amount, hc.reservation⟩

theorem recordOrderBlock_standing (h : Standing amount id status reserved L) {t : Transaction}
    (ht : Fits amount status t) (providerReference : Reference) :
    Standing amount id status reserved ((recordOrderBlock id t providerReference).commit L) := by
  rcases (recordOrderBlock id t providerReference).commit_cases L with hsame | ⟨u, hcommits⟩
  · rw [hsame]
    exact h
  · generalize (recordOrderBlock id t providerReference).commit L = M at hcommits
    simp only [recordOrderBlock, createOrder, commits_read_bind, commits_update_bind] at hcommits
    refine updateTransaction_standing (h.of_frame ?_ ?_) ?_ hcommits
    · rfl
    · rfl
    · intro r hr hfits
      exact ⟨hr, hfits.context, ht.amount, ht.reservation⟩

end Standing

/-! ### Runs -/

def Task.copy : Task → Option Copy
  | .charging c | .storingCharge c | .placing c | .clearing c | .recording c _ | .failingFrom c
  | .stampingFrom c | .failingOrder _ c | .settling _ c _ | .settlingFailed _ c => some c
  | .releasingCharge | .failingCharge | .verifying | .marking | .failing | .stamping
  | .routing _ => none

def Task.waits : Task → Bool
  | .failingCharge => true
  | _ => false

/-- The reservation is open: the row has not ended, and no refused charge has released it. -/
def Open (id : TransactionId) (s : System Purchase Task) : Prop :=
  s.state.ledger.alreadyProcessed id = false ∧ s.running.countP Task.waits = 0

/-- The steps after which the reservation is closed once: what closes it without the check of the
status finds it open, and the release for a refused charge is followed by the FAILED status. -/
def Task.Orderly (cache : ConvertCurrency.DefaultNetworkCache) (q : Confirm) (id : TransactionId)
    (s : System Purchase Task) : Task → Outcome → Prop
  | .releasingCharge, .ok =>
    ((releaseLiquidity BASE_CURRENCY q.companyLiquidityAmount).result s.state.ledger).isSome →
      Open id s
  | .failingCharge, o => o = .ok
  | .failingFrom c, .ok =>
    c.transaction.paymentMetadata.liquidityReservationStatus = some .RELEASED ∨
      (((handleFailureBlock id c.transaction).result s.state.ledger).isSome → Open id s)
  | .failingOrder e c, .ok =>
    (OrderDone.failOrderBlock true e.event.baseUnit e.event.quoteUnit id c.transaction).result
      s.state.ledger = some true → s.running.countP Task.waits = 0
  | .settling e c amounts, .ok =>
    (OrderDone.buyBlock cache e.event.baseUnit e.event.quoteUnit id c.transaction
      amounts.cryptoAmountBase.toNat amounts.fiatAmountBase.toNat).result s.state.ledger =
        some true → s.running.countP Task.waits = 0
  | .settlingFailed e c, .ok =>
    ((OrderDone.buyFailureBlock e.event.quoteUnit id c.transaction).result s.state.ledger).isSome →
      Open id s
  | _, _ => True

/-- How the reservation of a row was closed while `waiting` refused charges are about to fail
it. -/
def closed (amount waiting : Nat) : TransactionStatus → List Closing
  | .COMPLETED => [.consumed amount]
  | .FAILED => [.released amount]
  | _ => List.replicate waiting (.released amount)

/-- The row stands at `status`, its closings are those of the status, and they are what the
company's reserved NGN has lost. -/
structure Kept (amount : Nat) (id : TransactionId) (initial : Int) (waiting : Nat)
    (status : TransactionStatus) (p : Purchase) : Prop where
  standing : Standing amount id status (initial - (p.closings.map Closing.amount).sum) p.ledger
  known : status = .PENDING ∨ status = .COMPLETED ∨ status = .FAILED
  waits : waiting ≤ if status = .PENDING then 1 else 0
  closings : p.closings = closed amount waiting status

/-- What the step of a task leaves behind, where `rest` other tasks are about to fail the row. -/
def Goes (amount : Nat) (id : TransactionId) (initial : Int) (rest : Nat)
    (status : TransactionStatus) (r : Purchase × Option Task) : Prop :=
  ∃ next, (status = .PENDING ∨ next = status) ∧
    Kept amount id initial (rest + (r.2.any Task.waits).toNat) next r.1 ∧
    ∀ u, r.2 = some u → ∀ c, u.copy = some c → Fits amount next c.transaction

section Resume

variable {amount : Nat} {id : TransactionId} {initial : Int} {rest : Nat}
  {status : TransactionStatus} {p : Purchase}

theorem Kept.pending (h : Kept amount id initial rest status p)
    (hopen : p.ledger.alreadyProcessed id = false) : status = .PENDING := by
  have hfinal := h.standing.open_of_unprocessed hopen
  rcases h.known with rfl | rfl | rfl
  · rfl
  · simp [TransactionStatus.isFinal] at hfinal
  · simp [TransactionStatus.isFinal] at hfinal

theorem Kept.pending_of_open (h : Kept amount id initial rest status p)
    (hfinal : status.isFinal = false) : status = .PENDING := by
  rcases h.known with rfl | rfl | rfl
  · rfl
  · simp [TransactionStatus.isFinal] at hfinal
  · simp [TransactionStatus.isFinal] at hfinal

theorem Kept.goesOn (h : Kept amount id initial rest status p) {next : Option Task}
    (hwaits : next.any Task.waits = false)
    (hcopy : ∀ u, next = some u → ∀ c, u.copy = some c → Fits amount status c.transaction) :
    Goes amount id initial rest status (p, next) := by
  refine ⟨status, .inr rfl, ?_, hcopy⟩
  rw [hwaits]
  exact h

theorem Kept.ends (h : Kept amount id initial rest status p) :
    Goes amount id initial rest status (p, none) := h.goesOn rfl (by simp)

theorem Kept.rewrites (h : Kept amount id initial rest status p) {M : Ledger} {underWay : Bool}
    (hM : Standing amount id status (initial - (p.closings.map Closing.amount).sum) M)
    {next : Option Task} (hwaits : next.any Task.waits = false)
    (hcopy : ∀ u, next = some u → ∀ c, u.copy = some c → Fits amount status c.transaction) :
    Goes amount id initial rest status (⟨M, underWay, p.closings⟩, next) := by
  refine ⟨status, .inr rfl, ⟨hM, h.known, ?_, ?_⟩, hcopy⟩
  · rw [hwaits]
    exact h.waits
  · rw [hwaits]
    exact h.closings

theorem Kept.closes (h : Kept amount id initial 0 .PENDING p) {M : Ledger} {underWay : Bool}
    {closing : Closing} {next : TransactionStatus} (hnext : next = .COMPLETED ∨ next = .FAILED)
    (hclosing : closed amount 0 next = [closing]) (hamount : closing.amount = amount)
    (hM : Standing amount id next
      (initial - (p.closings.map Closing.amount).sum - amount) M) {task : Option Task}
    (hwaits : task.any Task.waits = false)
    (hcopy : ∀ u, task = some u → ∀ c, u.copy = some c → Fits amount next c.transaction) :
    Goes amount id initial 0 .PENDING (⟨M, underWay, closing :: p.closings⟩, task) := by
  have hnone : p.closings = [] := h.closings
  refine ⟨next, .inl rfl, ⟨?_, .inr hnext, ?_, ?_⟩, hcopy⟩
  · simpa [hnone, hamount] using hM
  · simp [hwaits]
  · rw [hwaits, hnone]
    exact hclosing.symm

theorem Purchase.read_fits (h : Kept amount id initial rest status p) {c : Copy}
    (hc : p.read id = some c) : Fits amount status c.transaction := by
  obtain ⟨t, ht, -, hfits⟩ := h.standing.row
  simp only [Purchase.read, ht, Option.map_some, Option.some.injEq] at hc
  rw [← hc]
  exact hfits

theorem commits_of_ok {α : Type} {x : LedgerBlock α} {L M : Ledger} {a : α}
    (h : x L = .ok (a, M)) : x.Commits L a M ∧ x.result L = some a := by
  exact ⟨h, by simp [Block.result, h]⟩

section Steps

variable {cache : ConvertCurrency.DefaultNetworkCache} {q : Confirm} {id : TransactionId}
  {initial : Int} {rest : Nat} {status : TransactionStatus} {s : System Purchase Task}

theorem Open.pending (h : Kept q.companyLiquidityAmount id initial rest status s.state)
    (hcount : s.running.countP Task.waits = rest) (hopen : Open id s) :
    status = .PENDING ∧ rest = 0 := ⟨h.pending hopen.1, hcount.symm.trans hopen.2⟩

theorem resumeCharge_keeps {t : Task} {o : Outcome}
    (h : Kept q.companyLiquidityAmount id initial (rest + t.waits.toNat) status s.state)
    (hcount : s.running.countP Task.waits = rest + t.waits.toNat)
    (hcopy : ∀ c, t.copy = some c → Fits q.companyLiquidityAmount status c.transaction)
    (ho : t.Orderly cache q id s o) :
    Goes q.companyLiquidityAmount id initial rest status (resumeCharge q id t o s.state) := by
  cases t with
  | charging created =>
    cases o with
    | ok =>
      refine h.goesOn rfl ?_
      intro u hu c hc
      cases hu
      cases hc
      exact hcopy created rfl
    | refused => exact h.goesOn rfl (by simp [Task.copy])
    | _ => exact h.ends
  | storingCharge created =>
    cases o with
    | ok => exact h.rewrites (writeMetadata_standing h.standing (hcopy created rfl)) rfl (by simp)
    | _ => exact h.ends
  | releasingCharge =>
    cases o with
    | ok =>
      simp only [resumeCharge]
      cases hblock :
          releaseLiquidity BASE_CURRENCY q.companyLiquidityAmount s.state.ledger with
      | error e => exact h.ends
      | ok r =>
        obtain ⟨u, M⟩ := r
        obtain ⟨hcommits, hresult⟩ := commits_of_ok hblock
        obtain ⟨rfl, hrest⟩ := Open.pending h hcount (ho (by simp [hresult]))
        simp only [Task.waits, Bool.toNat_false, Nat.add_zero] at hrest
        subst hrest
        have hnone : s.state.closings = [] := h.closings
        refine ⟨.PENDING, .inl rfl, ⟨?_, .inl rfl, ?_, ?_⟩, by simp [Task.copy]⟩
        · have hreleased := releaseLiquidity_standing h.standing hcommits
          simpa [hnone, Closing.amount] using hreleased
        · simp [Task.waits]
        · simp [Task.waits, closed, hnone]
    | _ => exact h.ends
  | failingCharge =>
    cases ho
    have hwaits := h.waits
    simp only [Task.waits, Bool.toNat_true] at hwaits
    split at hwaits
    · rename_i hpending
      subst hpending
      have hrest : rest = 0 := by omega
      subst hrest
      have hreleased : s.state.closings = [.released q.companyLiquidityAmount] := h.closings
      refine ⟨.FAILED, .inl rfl, ⟨?_, .inr (.inr rfl), ?_, ?_⟩, by simp [resumeCharge]⟩
      · have hM : (updateTransaction id (fun t => { t with status := .FAILED })).Commits
            s.state.ledger () ((updateTransaction id
              (fun t => { t with status := .FAILED })).commit s.state.ledger) :=
          commits_update.mpr rfl
        refine updateTransaction_standing h.standing ?_ hM
        intro r hr hfits
        have hends := hfits.ends .FAILED
        exact ⟨rfl, hends.context, hends.amount, hends.reservation⟩
      · simp [resumeCharge]
      · exact hreleased
    · omega
  | _ => exact h.ends

theorem copyFits {c : Copy} {next : Option Task}
    (hc : Fits q.companyLiquidityAmount status c.transaction)
    (hnext : ∀ u, next = some u → u.copy = none ∨ u.copy = some c) :
    ∀ u, next = some u → ∀ d, u.copy = some d →
      Fits q.companyLiquidityAmount status d.transaction := by
  intro u hu d hd
  rcases hnext u hu with h | h
  · rw [h] at hd
    cases hd
  · rw [h] at hd
    cases hd
    exact hc

theorem resumeWebhook_keeps {t : Task} {o : Outcome} (hpos : 0 < q.companyLiquidityAmount)
    (h : Kept q.companyLiquidityAmount id initial rest status s.state)
    (hcount : s.running.countP Task.waits = rest)
    (hcopy : ∀ c, t.copy = some c → Fits q.companyLiquidityAmount status c.transaction)
    (ho : t.Orderly cache q id s o) :
    Goes q.companyLiquidityAmount id initial rest status (resumeWebhook id t o s.state) := by
  have hread {f : Copy → Task} (hf : ∀ c, (f c).copy = some c ∧ (f c).waits = false) :
      Goes q.companyLiquidityAmount id initial rest status
        (s.state, (s.state.read id).map f) := by
    cases hr : s.state.read id with
    | none => exact h.ends
    | some c =>
      refine h.goesOn (hf c).2 (copyFits (Purchase.read_fits h hr) ?_)
      intro u hu
      cases hu
      exact .inr (hf c).1
  cases t with
  | verifying =>
    cases o with
    | verified success =>
      cases success with
      | true => exact h.goesOn rfl (by simp [Task.copy])
      | false => exact h.goesOn rfl (by simp [Task.copy])
    | _ => exact h.ends
  | marking =>
    cases o with
    | ok =>
      simp only [resumeWebhook]
      cases hr : s.state.read id with
      | none => exact h.ends
      | some c =>
        simp only
        split
        · exact h.goesOn rfl (by simp [Task.copy])
        · refine h.rewrites h.standing rfl (copyFits (Purchase.read_fits h hr) ?_)
          intro u hu
          cases hu
          exact .inr rfl
    | _ => exact h.ends
  | placing c =>
    cases o with
    | accepted providerReference =>
      refine h.goesOn rfl (copyFits (hcopy c rfl) ?_)
      intro u hu
      cases hu
      exact .inr rfl
    | refused =>
      refine h.goesOn rfl (copyFits (hcopy c rfl) ?_)
      intro u hu
      cases hu
      exact .inr rfl
    | _ => exact h.ends
  | clearing c =>
    cases o with
    | ok => exact h.rewrites (writeMetadata_standing h.standing (hcopy c rfl)) rfl (by simp)
    | _ => exact h.ends
  | recording c providerReference =>
    cases o with
    | ok =>
      exact h.rewrites (recordOrderBlock_standing h.standing (hcopy c rfl) providerReference) rfl
        (by simp [Task.copy])
    | _ => exact h.ends
  | failing =>
    cases o with
    | ok => exact hread fun c => ⟨rfl, rfl⟩
    | _ => exact h.ends
  | stamping =>
    cases o with
    | ok => exact hread fun c => ⟨rfl, rfl⟩
    | _ => exact h.ends
  | stampingFrom c =>
    cases o with
    | ok => exact h.rewrites (writeMetadata_standing h.standing (hcopy c rfl)) rfl (by simp)
    | _ => exact h.ends
  | failingFrom c =>
    cases o with
    | ok =>
      have hfits := hcopy c rfl
      simp only [resumeWebhook]
      cases hblock : handleFailureBlock id c.transaction s.state.ledger with
      | error e => exact h.ends
      | ok r =>
        obtain ⟨u, M⟩ := r
        obtain ⟨hcommits, hresult⟩ := commits_of_ok hblock
        rcases ho with hreleased | hopen
        · have hfailed : status = .FAILED := by
            rcases hfits.reservation with hr | ⟨hr, -⟩ | ⟨-, hr⟩
            · simp [hreleased] at hr
            · simp [hreleased] at hr
            · exact hr
          subst hfailed
          obtain ⟨hnot, hM⟩ := handleFailureBlock_again h.standing hfits hreleased hcommits
          simp only [hnot]
          exact h.rewrites hM rfl (by simp [Task.copy])
        · obtain ⟨rfl, rfl⟩ := Open.pending h hcount (hopen (by simp [hresult]))
          obtain ⟨hreserves, hM⟩ := handleFailureBlock_standing h.standing hfits hpos hcommits
          simp only [hreserves, hfits.reservedAmount]
          exact h.closes (.inr rfl) rfl rfl hM rfl (by simp [Task.copy])
    | _ => exact h.ends
  | _ => exact h.ends

theorem closes_pending {c : Copy} (hpos : 0 < q.companyLiquidityAmount)
    (hc : Fits q.companyLiquidityAmount .PENDING c.transaction) (closing : Nat → Closing) :
    c.closes closing = [closing q.companyLiquidityAmount] := by
  simp [Copy.closes, hc.holds hpos, hc.reservedAmount]

theorem route_copy {e : BuyOrderEvent} {p : Purchase} {u : Task} (h : route cache id e p = some u) :
    u.waits = false ∧ ∃ c, p.read id = some c ∧ u.copy = some c := by
  unfold route at h
  split at h
  · split at h
    · obtain ⟨c, hc, rfl⟩ := Option.map_eq_some_iff.mp h
      exact ⟨rfl, c, hc, rfl⟩
    · cases h
  · split at h
    · obtain ⟨c, hc, rfl⟩ := Option.map_eq_some_iff.mp h
      exact ⟨rfl, c, hc, rfl⟩
    · cases h
  · cases h

theorem resumeOrderDone_keeps {t : Task} {o : Outcome} (hpos : 0 < q.companyLiquidityAmount)
    (h : Kept q.companyLiquidityAmount id initial rest status s.state)
    (hcount : s.running.countP Task.waits = rest)
    (hcopy : ∀ c, t.copy = some c → Fits q.companyLiquidityAmount status c.transaction)
    (ho : t.Orderly cache q id s o) :
    Goes q.companyLiquidityAmount id initial rest status
      (resumeOrderDone cache id t o s.state) := by
  cases t with
  | routing e =>
    cases o with
    | ok =>
      simp only [resumeOrderDone]
      cases hr : route cache id e s.state with
      | none => exact h.ends
      | some u =>
        obtain ⟨hwaits, c, hread, hu⟩ := route_copy hr
        refine h.goesOn hwaits (copyFits (Purchase.read_fits h hread) ?_)
        intro v hv
        cases hv
        exact .inr hu
    | _ => exact h.ends
  | failingOrder e c =>
    cases o with
    | ok =>
      have hfits := hcopy c rfl
      simp only [resumeOrderDone]
      cases hblock : OrderDone.failOrderBlock true e.event.baseUnit e.event.quoteUnit id
          c.transaction s.state.ledger with
      | error _ => exact h.ends
      | ok r =>
        obtain ⟨done, M⟩ := r
        cases done with
        | false => exact h.ends
        | true =>
          obtain ⟨hcommits, hresult⟩ := commits_of_ok hblock
          have hrest : rest = 0 := hcount.symm.trans (ho hresult)
          subst hrest
          rw [e.quoteUnit] at hcommits
          obtain ⟨rfl, hM⟩ := failOrderBlock_standing h.standing hfits hpos h.pending_of_open
            hcommits
          have hcloses := closes_pending hpos hfits .released
          simp only [Purchase.failOrder, hcloses]
          exact h.closes (.inr rfl) rfl rfl hM rfl (by simp)
    | _ => exact h.ends
  | settling e c amounts =>
    have hfits := hcopy c rfl
    have hthrows : Goes q.companyLiquidityAmount id initial rest status
        (s.state, some (.settlingFailed e c)) := by
      refine h.goesOn rfl (copyFits hfits ?_)
      intro u hu
      cases hu
      exact .inr rfl
    cases o with
    | ok =>
      simp only [resumeOrderDone]
      cases hblock : OrderDone.buyBlock cache e.event.baseUnit e.event.quoteUnit id c.transaction
          amounts.cryptoAmountBase.toNat amounts.fiatAmountBase.toNat s.state.ledger with
      | error _ => exact hthrows
      | ok r =>
        obtain ⟨done, M⟩ := r
        cases done with
        | false => exact h.ends
        | true =>
          obtain ⟨hcommits, hresult⟩ := commits_of_ok hblock
          have hrest : rest = 0 := hcount.symm.trans (ho hresult)
          subst hrest
          rw [e.quoteUnit] at hcommits
          obtain ⟨rfl, hM⟩ := buyBlock_standing h.standing hfits hpos h.pending_of_open hcommits
          have hcloses := closes_pending hpos hfits .consumed
          simp only [Purchase.settle, hcloses]
          exact h.closes (.inl rfl) rfl rfl hM rfl (by simp)
    | throws => exact hthrows
    | _ => exact h.ends
  | settlingFailed e c =>
    cases o with
    | ok =>
      have hfits := hcopy c rfl
      simp only [resumeOrderDone]
      cases hblock :
          OrderDone.buyFailureBlock e.event.quoteUnit id c.transaction s.state.ledger with
      | error _ => exact h.ends
      | ok r =>
        obtain ⟨u, M⟩ := r
        obtain ⟨hcommits, hresult⟩ := commits_of_ok hblock
        obtain ⟨rfl, rfl⟩ := Open.pending h hcount (ho (by simp [hresult]))
        rw [e.quoteUnit] at hcommits
        have hM := buyFailureBlock_standing h.standing hfits hpos hcommits
        have hcloses := closes_pending hpos hfits .released
        simp only [hcloses]
        exact h.closes (.inr rfl) rfl rfl hM rfl (by simp)
    | _ => exact h.ends
  | _ => exact h.ends

end Steps

end Resume

/-- The task that takes a step takes an orderly one. -/
def OrderlyStep (cache : ConvertCurrency.DefaultNetworkCache) (q : Confirm) (id : TransactionId)
    (s : System Purchase Task) : Event Delivery Outcome Empty → Prop
  | .resume n o => ∀ t, s.running[n]? = some t → t.Orderly cache q id s o
  | .start _ | .outside _ => True

/-- Where the row stands, with copies that fit it. -/
def Sound (amount : Nat) (id : TransactionId) (initial : Int) (s : System Purchase Task) : Prop :=
  ∃ status, Kept amount id initial (s.running.countP Task.waits) status s.state ∧
    ∀ t ∈ s.running, ∀ c, t.copy = some c → Fits amount status c.transaction

theorem Fits.next {amount : Nat} {status next : TransactionStatus} {t : Transaction}
    (h : Fits amount status t) (hnext : status = .PENDING ∨ next = status) :
    Fits amount next t := by
  rcases hnext with rfl | rfl
  · exact h.ends next
  · exact h

theorem waits_toList (next : Option Task) :
    next.toList.countP Task.waits = (next.any Task.waits).toNat := by
  cases next with
  | none => rfl
  | some t => cases h : t.waits <;> simp [h]

section Sound

variable {cache : ConvertCurrency.DefaultNetworkCache} {q : Confirm} {id : TransactionId}
  {initial : Int} {s : System Purchase Task}

theorem resume_keeps {t : Task} {o : Outcome} {rest : Nat} {status : TransactionStatus}
    (hpos : 0 < q.companyLiquidityAmount)
    (h : Kept q.companyLiquidityAmount id initial (rest + t.waits.toNat) status s.state)
    (hcount : s.running.countP Task.waits = rest + t.waits.toNat)
    (hcopy : ∀ c, t.copy = some c → Fits q.companyLiquidityAmount status c.transaction)
    (ho : t.Orderly cache q id s o) :
    Goes q.companyLiquidityAmount id initial rest status (resume cache q id t o s.state) := by
  cases t with
  | charging _ | storingCharge _ | releasingCharge | failingCharge =>
    exact resumeCharge_keeps h hcount hcopy ho
  | routing _ | failingOrder _ _ | settling _ _ _ | settlingFailed _ _ =>
    exact resumeOrderDone_keeps hpos h hcount hcopy ho
  | _ => exact resumeWebhook_keeps hpos h hcount hcopy ho

theorem start_waits {d : Delivery} {p : Purchase} {t : Task} (h : start id d p = some t) :
    t.waits = false ∧ t.copy = none := by
  unfold start at h
  split at h
  · split at h
    · cases h
      exact ⟨rfl, rfl⟩
    · cases h
  · cases h
    exact ⟨rfl, rfl⟩

theorem Sound.step (hpos : 0 < q.companyLiquidityAmount)
    (hs : Sound q.companyLiquidityAmount id initial s) (e : Event Delivery Outcome Empty)
    (he : OrderlyStep cache q id s e) :
    Sound q.companyLiquidityAmount id initial ((purchases cache q id).step e s) := by
  obtain ⟨status, hkept, hcopies⟩ := hs
  cases e with
  | outside x => exact x.elim
  | start d =>
    refine ⟨status, ?_, Handlers.forall_running_start hcopies ?_⟩
    · have hnone : (start id d s.state).toList.countP Task.waits = 0 := by
        rw [waits_toList]
        cases ht : start id d s.state with
        | none => rfl
        | some t => simp [(start_waits ht).1]
      show Kept _ id initial ((s.running ++ (start id d s.state).toList).countP Task.waits) _ _
      rw [List.countP_append, hnone]
      exact hkept
    · intro t ht c hc
      rw [(start_waits ht).2] at hc
      cases hc
  | resume n o =>
    cases ht : s.running[n]? with
    | none =>
      rw [Handlers.step_resume_none ht]
      exact ⟨status, hkept, hcopies⟩
    | some t =>
      have hmem := List.mem_of_getElem? ht
      have hcount : s.running.countP Task.waits =
          (s.running.eraseIdx n).countP Task.waits + t.waits.toNat := by
        rw [(Handlers.perm_running ht).countP_eq Task.waits, List.countP_cons]
        cases t.waits <;> simp
      rw [hcount] at hkept
      obtain ⟨next, hnext, hafter, hnew⟩ :=
        resume_keeps hpos hkept hcount (hcopies t hmem) (he t ht)
      refine ⟨next, ?_, ?_⟩
      · rw [Handlers.step_resume ht, List.countP_append]
        show Kept _ id initial (_ + (resume cache q id t o s.state).2.toList.countP Task.waits) _ _
        rw [waits_toList]
        exact hafter
      · rw [Handlers.step_resume ht]
        intro u hu c hc
        rcases List.mem_append.mp hu with hu | hu
        · exact (hcopies u (List.mem_of_mem_eraseIdx hu) c hc).next hnext
        · exact hnew u (Option.mem_toList.mp hu) c hc

end Sound

/-- The reservation is consumed once if the purchase is completed, released once if it failed,
never both, and what was closed is what the company's reserved NGN has lost since `L`. -/
structure ClosedOnce (q : Confirm) (id : TransactionId) (L : Ledger)
    (s : System Purchase Task) : Prop where
  completed : ∀ t, s.state.ledger.transactions.lookup id = some t → t.status = .COMPLETED →
    s.state.closings = [.consumed q.companyLiquidityAmount]
  failed : ∀ t, s.state.ledger.transactions.lookup id = some t → t.status = .FAILED →
    s.state.closings = [.released q.companyLiquidityAmount]
  once : s.state.closings.length ≤ 1
  reserved : s.state.ledger.reservedLiquidity BASE_CURRENCY =
    L.reservedLiquidity BASE_CURRENCY - (s.state.closings.map Closing.amount).sum

theorem Sound.closedOnce {q : Confirm} {id : TransactionId} {L : Ledger}
    {s : System Purchase Task}
    (hs : Sound q.companyLiquidityAmount id (L.reservedLiquidity BASE_CURRENCY) s) :
    ClosedOnce q id L s := by
  obtain ⟨status, hkept, -⟩ := hs
  obtain ⟨t, ht, hstatus, -⟩ := hkept.standing.row
  have hclosings := hkept.closings
  constructor
  · intro r hr hcompleted
    rw [ht] at hr
    cases hr
    rw [hclosings, ← hstatus, hcompleted]
    rfl
  · intro r hr hfailed
    rw [ht] at hr
    cases hr
    rw [hclosings, ← hstatus, hfailed]
    rfl
  · rcases hkept.known with rfl | rfl | rfl
    · have hwaits := hkept.waits
      rw [hclosings]
      simpa [closed] using hwaits
    · simp [hclosings, closed]
    · simp [hclosings, closed]
  · exact hkept.standing.reserved

theorem confirmBlock_sound {q : Confirm} {id : TransactionId} {L₀ L : Ledger}
    (h : (confirmBlock q id).Commits L₀ .reserved L) :
    Sound q.companyLiquidityAmount id (L.reservedLiquidity BASE_CURRENCY) (reserved q L) := by
  have hfits : Fits q.companyLiquidityAmount .PENDING (q.transaction true).row :=
    ⟨rfl, rfl, .inl rfl⟩
  rw [confirmBlock, commits_requireMinimum_bind, commits_read_bind] at h
  replace h := h.2
  split at h
  · simp at h
  · obtain ⟨hasLiquidity, A, -, hrest⟩ := commits_bind.mp h
    obtain ⟨_, B, hcreate, hend⟩ := commits_bind.mp hrest
    cases hasLiquidity with
    | false =>
      rw [if_neg Bool.false_ne_true] at hend
      obtain ⟨_, C, -, hqueued⟩ := commits_bind.mp hend
      simp at hqueued
    | true =>
      obtain ⟨-, rfl⟩ := commits_pure.mp hend
      obtain ⟨-, -, rfl⟩ := insertTransaction_commits.mp hcreate
      refine ⟨.PENDING, ⟨⟨⟨(q.transaction true).row, ?_, rfl, hfits⟩, ?_⟩, .inl rfl, ?_, rfl⟩, ?_⟩
      · exact AList.lookup_insert _
      · simp [reserved]
      · simp [reserved, Task.waits]
      · intro t ht c hc
        simp only [reserved, List.mem_singleton] at ht
        subst ht
        cases hc
        exact hfits

/-- Along orderly charges, deliveries, placements and orders, the liquidity that a confirmation
reserved is consumed exactly once if the purchase completes and released exactly once if it
fails. -/
theorem reservation_closed_once (cache : ConvertCurrency.DefaultNetworkCache) {q : Confirm}
    {id : TransactionId} {L₀ L : Ledger} (hpos : 0 < q.companyLiquidityAmount)
    (hconfirm : (confirmBlock q id).Commits L₀ .reserved L)
    {events : List (Event Delivery Outcome Empty)}
    (horderly : Run.Along (purchases cache q id).step (OrderlyStep cache q id) (reserved q L)
      events) :
    Run.Throughout (purchases cache q id).step (ClosedOnce q id L) (reserved q L) events := by
  have hsound := Run.throughout_of_along
    (fun s e (hs : Sound q.companyLiquidityAmount id (L.reservedLiquidity BASE_CURRENCY) s)
      (he : OrderlyStep cache q id s e) => hs.step hpos e he) (confirmBlock_sound hconfirm) horderly
  exact hsound.mono fun s hs => hs.closedOnce

/-- User 1's BTC wallet, while the company holds 1000 kobo reserved for others. -/
def beforeBuy : Ledger :=
  { Ledger.empty with
    wallets := (∅ : Table WalletKey Wallet).insert (1, .btc)
      { Wallet.empty with defaultNetwork := some .btc }
    companyLiquidity := (∅ : Table Currency CompanyLiquidity).insert .ngn
      { CompanyLiquidity.empty with totalBalance := 9000, reservedBalance := 1000 } }

def buyOfBtc : Confirm := ⟨1, .btc, 40, 100000000, 520, 20, 500, some .btc, 6⟩

/-- The ledger after `buyOfBtc` reserved 500 kobo. -/
def afterReservation : Ledger := (confirmBlock buyOfBtc 1).commit beforeBuy

theorem buyOfBtc_reserves :
    (confirmBlock buyOfBtc 1).Commits beforeBuy .reserved afterReservation :=
  result_eq_some.mp (by decide +kernel)

def filled : BuyOrderEvent := ⟨⟨71, .BUY, .btc, .ngn, .done, some ['1'], some ['5']⟩, rfl, rfl⟩

/-- The charge goes through, and a delivery finds the verification failed. -/
theorem failed_charge_released_once :
    Run.Throughout (purchases (fun _ => none) buyOfBtc 1).step
      (ClosedOnce buyOfBtc 1 afterReservation) (reserved buyOfBtc afterReservation)
      [.resume 0 .ok, .resume 0 .ok, .start .chargeSuccess, .resume 0 (.verified false),
        .resume 0 .ok, .resume 0 .ok] := by
  refine reservation_closed_once _ (by decide) buyOfBtc_reserves ?_
  refine ⟨?_, ?_, trivial, ?_, ?_, ?_, trivial⟩
  all_goals
    intro t ht
    cases ht
  case refine_5.refl => exact .inr fun _ => ⟨by decide +kernel, by decide +kernel⟩
  all_goals trivial

/-- Two deliveries read the row before either releases. -/
def failedTwice : List (Event Delivery Outcome Empty) :=
  [.resume 0 .ok, .resume 0 .ok, .start .chargeSuccess, .start .chargeSuccess,
    .resume 0 (.verified false), .resume 0 (.verified false), .resume 0 .ok, .resume 0 .ok,
    .resume 0 .ok, .resume 0 .ok]

/-- A delivery whose verification fails reads the row before the order of another settles. -/
def settledAndFailed : List (Event Delivery Outcome Empty) :=
  [.resume 0 .ok, .resume 0 .ok, .start .chargeSuccess, .resume 0 (.verified true),
    .resume 0 .ok, .resume 0 (.accepted 71), .resume 0 .ok, .resume 0 .fails,
    .start .chargeSuccess, .resume 0 (.verified false), .resume 0 .ok,
    .start (.orderDone filled), .resume 1 .ok, .resume 1 .ok, .resume 0 .ok]

/-- The reservation of one purchase is released twice in one run, and both consumed and released
in another, at the cost of what the company reserved for others. -/
theorem reservation_closed_twice :
    (∃ L, (confirmBlock buyOfBtc 1).Commits beforeBuy .reserved L ∧
      ¬ Run.Throughout (purchases (fun _ => none) buyOfBtc 1).step (ClosedOnce buyOfBtc 1 L)
        (reserved buyOfBtc L) failedTwice ∧
      ¬ Run.Throughout (purchases (fun _ => none) buyOfBtc 1).step (ClosedOnce buyOfBtc 1 L)
        (reserved buyOfBtc L) settledAndFailed) ∧
    (Run.final (purchases (fun _ => none) buyOfBtc 1).step (reserved buyOfBtc afterReservation)
      failedTwice).state.closings = [.released 500, .released 500] ∧
    (Run.final (purchases (fun _ => none) buyOfBtc 1).step (reserved buyOfBtc afterReservation)
      settledAndFailed).state.closings = [.released 500, .consumed 500] ∧
    (Run.final (purchases (fun _ => none) buyOfBtc 1).step (reserved buyOfBtc afterReservation)
      settledAndFailed).state.ledger.reservedLiquidity .ngn = 500 := by
  have hfailed : (Run.final (purchases (fun _ => none) buyOfBtc 1).step
      (reserved buyOfBtc afterReservation) failedTwice).state.closings =
        [.released 500, .released 500] := by decide +kernel
  have hsettled : (Run.final (purchases (fun _ => none) buyOfBtc 1).step
      (reserved buyOfBtc afterReservation) settledAndFailed).state.closings =
        [.released 500, .consumed 500] := by decide +kernel
  refine ⟨⟨afterReservation, buyOfBtc_reserves, ?_, ?_⟩, hfailed, hsettled, by decide +kernel⟩
  · intro h
    have honce := h.last.once
    rw [hfailed] at honce
    simp at honce
  · intro h
    have honce := h.last.once
    rw [hsettled] at honce
    simp at honce

end BuyService

end ExchangeLedger
