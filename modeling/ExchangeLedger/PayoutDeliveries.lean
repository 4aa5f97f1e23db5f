import ExchangeLedger.PayoutStatus
import ExchangeLedger.Concurrent

set_option autoImplicit false

/-! Deliveries of transfer webhooks for the payout of one sell, handled concurrently: a handler
reads the order and the transaction first and runs its block on what it read later. -/

namespace ExchangeLedger

open Block Concurrent

namespace PayoutStatus

/-- `transfer.success`, `transfer.failed` and `transfer.reversed`. -/
inductive Notice where
  | success | failed | reversed
  deriving DecidableEq, Repr

/-- A handler that got past its checks, with the transaction as it read it. -/
structure Handler where
  notice : Notice
  id : TransactionId
  transaction : Transaction

/-- The reads and checks of a handler. A reference without an order is a loan's or unknown. -/
def receive (notice : Notice) (reference : Reference) (L : Ledger) : Option Handler :=
  if notice = .success then do
    let id ← L.sellByPaymentReference reference
    let transaction ← L.transactions.lookup id
    if transaction.paymentMetadata.payoutStatus = some .success ∨
        transaction.totalSentBase = 0 then none
    else some ⟨notice, id, transaction⟩
  else do
    let id ← L.orderByPaymentReference reference
    let transaction ← L.transactions.lookup id
    if transaction.paymentMetadata.payoutStatus = some .failed then none
    else some ⟨notice, id, transaction⟩

def Handler.block (cache : ConvertCurrency.DefaultNetworkCache) (h : Handler) : LedgerBlock Unit :=
  if h.notice = .success then transferSuccessBlock cache h.id h.transaction
  else transferFailureBlock h.id h.transaction

/-- Deliveries for one payout reference start by reading; a handler then runs its block, or dies
before it does. -/
def deliveries (cache : ConvertCurrency.DefaultNetworkCache) (reference : Reference) :
    Handlers Ledger Handler Notice Bool Empty where
  start := fun notice L => receive notice reference L
  resume := fun h runs L => (if runs then (h.block cache).commit L else L, none)
  outside := fun x => nomatch x

def isCompleted (id : TransactionId) (L : Ledger) : Prop :=
  ∃ t, L.transactions.lookup id = some t ∧ t.status = .COMPLETED

def isMarkedReserved (id : TransactionId) (L : Ledger) : Prop :=
  ∃ t, L.transactions.lookup id = some t ∧
    t.paymentMetadata.liquidityReservationStatus = some .RESERVED

/-- Since `L₀` the wallet was debited, and the company's reservation released, once at most. -/
structure SettledOnce (transaction : Transaction) (L₀ L : Ledger) : Prop where
  base : L₀.baseBalance transaction.walletKey - L.baseBalance transaction.walletKey ≤
    transaction.totalSentBase
  reserved : L₀.reservedBalance transaction.walletKey - L.reservedBalance transaction.walletKey ≤
    transaction.totalSentBase
  company : L₀.reservedLiquidity BASE_CURRENCY - L.reservedLiquidity BASE_CURRENCY ≤
    transaction.fiatAmountBase

/-- A completed transaction stays completed, and its reservation released. -/
def KeepsCompleted (cache : ConvertCurrency.DefaultNetworkCache) (reference : Reference)
    (id : TransactionId) (s : System Ledger Handler) (e : Event Notice Bool Empty) : Prop :=
  isCompleted id s.state → isCompleted id ((deliveries cache reference).step e s).state ∧
    ¬ isMarkedReserved id ((deliveries cache reference).step e s).state

/-- No handler runs its block on a completed transaction, unless it is that of a success which
cannot be paid for any more. -/
def Timely (cache : ConvertCurrency.DefaultNetworkCache) (id : TransactionId)
    (s : System Ledger Handler) : Event Notice Bool Empty → Prop
  | .resume n true => isCompleted id s.state → ∀ h, s.running[n]? = some h →
      h.notice = .success ∧ ¬ TransferReady cache h.id h.transaction s.state
  | _ => True

/-- Where the transaction stands: still open and nothing taken, or completed and all taken. -/
inductive Stage (transaction t : Transaction) (L₀ L : Ledger) : Prop where
  | unpaid : t.status ≠ .COMPLETED →
      L.baseBalance transaction.walletKey = L₀.baseBalance transaction.walletKey →
      L.reservedBalance transaction.walletKey = L₀.reservedBalance transaction.walletKey →
      L.reservedLiquidity BASE_CURRENCY = L₀.reservedLiquidity BASE_CURRENCY →
      Stage transaction t L₀ L
  | paid : t.status = .COMPLETED →
      t.paymentMetadata.liquidityReservationStatus = some .RELEASED →
      L.baseBalance transaction.walletKey =
        L₀.baseBalance transaction.walletKey - transaction.totalSentBase →
      L.reservedBalance transaction.walletKey =
        L₀.reservedBalance transaction.walletKey - transaction.totalSentBase →
      L.reservedLiquidity BASE_CURRENCY =
        L₀.reservedLiquidity BASE_CURRENCY - transaction.fiatAmountBase →
      Stage transaction t L₀ L

/-- A handler that works on the transaction, for an amount that is not zero. -/
structure Handler.Sound (id : TransactionId) (transaction : Transaction) (h : Handler) : Prop where
  id : h.id = id
  columns : h.transaction.soldColumns = transaction.soldColumns
  amount : h.notice = .success → transaction.totalSentBase ≠ 0

/-- The references lead to the transaction, whose amounts are as they were. -/
structure Tracks (reference : Reference) (id : TransactionId) (transaction : Transaction)
    (L₀ L : Ledger) : Prop where
  sell : L.sellByPaymentReference reference = some id
  order : L.orderByPaymentReference reference = some id
  row : ∃ t, L.transactions.lookup id = some t ∧
    t.soldColumns = transaction.soldColumns ∧ Stage transaction t L₀ L

structure Invariant (reference : Reference) (id : TransactionId) (transaction : Transaction)
    (L₀ : Ledger) (s : System Ledger Handler) : Prop where
  ledger : Tracks reference id transaction L₀ s.state
  handlers : ∀ h ∈ s.running, h.Sound id transaction

theorem Stage.settledOnce {transaction t : Transaction} {L₀ L : Ledger}
    (h : Stage transaction t L₀ L) : SettledOnce transaction L₀ L := by
  cases h with
  | unpaid _ hbase hreserved hcompany =>
    exact ⟨by omega, by omega, by omega⟩
  | paid _ _ hbase hreserved hcompany => exact ⟨by omega, by omega, by omega⟩

theorem isCompleted_iff {id : TransactionId} {L : Ledger} {t : Transaction}
    (ht : L.transactions.lookup id = some t) : isCompleted id L ↔ t.status = .COMPLETED := by
  simp [isCompleted, ht]

theorem isMarkedReserved_iff {id : TransactionId} {L : Ledger} {t : Transaction}
    (ht : L.transactions.lookup id = some t) : isMarkedReserved id L ↔
      t.paymentMetadata.liquidityReservationStatus = some .RESERVED := by
  simp [isMarkedReserved, ht]

theorem Stage.released {transaction t : Transaction} {L₀ L : Ledger}
    (h : Stage transaction t L₀ L) (hstatus : t.status = .COMPLETED) :
    t.paymentMetadata.liquidityReservationStatus = some .RELEASED := by
  cases h with
  | unpaid hopen _ _ _ => exact absurd hstatus hopen
  | paid _ hreleased _ _ _ => exact hreleased

theorem receive_sound {notice : Notice} {reference : Reference} {id : TransactionId}
    {transaction : Transaction} {L₀ L : Ledger} {h : Handler}
    (hL : Tracks reference id transaction L₀ L) (hh : receive notice reference L = some h) :
    h.Sound id transaction := by
  obtain ⟨hsell, horder, t, ht, hcolumns, -⟩ := hL
  have htotal : t.totalSentBase = transaction.totalSentBase :=
    congrArg SoldColumns.totalSentBase hcolumns
  unfold receive at hh
  split at hh
  · simp only [hsell, ht, Option.bind_eq_bind, Option.bind_some] at hh
    split at hh
    · cases hh
    · rename_i hguard
      cases hh
      exact ⟨rfl, hcolumns, fun _ => by rw [← htotal]; exact fun h0 => hguard (.inr h0)⟩
  · rename_i hnotice
    simp only [horder, ht, Option.bind_eq_bind, Option.bind_some] at hh
    split at hh
    · cases hh
    · cases hh
      exact ⟨rfl, hcolumns, fun h => absurd h hnotice⟩

theorem sellByPaymentReference_modify {L M : Ledger} {reference : Reference} {id : TransactionId}
    {f : Order → Order} (hM : M.orders = L.orders.modify id f)
    (hf : ∀ o, (f o).paymentReference = o.paymentReference ∧ (f o).type = o.type)
    (h : L.sellByPaymentReference reference = some id) :
    M.sellByPaymentReference reference = some id := by
  unfold Ledger.sellByPaymentReference
  rw [hM]
  refine Table.find?_modify h fun o ho => ?_
  rw [(hf o).1, (hf o).2]
  exact ho

theorem orderByPaymentReference_modify {L M : Ledger} {reference : Reference} {id : TransactionId}
    {f : Order → Order} (hM : M.orders = L.orders.modify id f)
    (hf : ∀ o, (f o).paymentReference = o.paymentReference)
    (h : L.orderByPaymentReference reference = some id) :
    M.orderByPaymentReference reference = some id := by
  unfold Ledger.orderByPaymentReference
  rw [hM]
  refine Table.find?_modify h fun o ho => ?_
  rw [hf o]
  exact ho

section Steps

variable {cache : ConvertCurrency.DefaultNetworkCache} {reference : Reference}
  {id : TransactionId} {transaction t : Transaction} {L₀ L M : Ledger}

/-- What a committed payout takes, seen from the transaction as it was when it all began. -/
structure Taken (transaction : Transaction) (L M : Ledger) : Prop where
  base : M.baseBalance transaction.walletKey =
    L.baseBalance transaction.walletKey - transaction.totalSentBase
  reserved : M.reservedBalance transaction.walletKey =
    L.reservedBalance transaction.walletKey - transaction.totalSentBase
  company : M.reservedLiquidity BASE_CURRENCY =
    L.reservedLiquidity BASE_CURRENCY - transaction.fiatAmountBase

theorem TransferDone.taken {snapshot : Transaction} (h : TransferDone id snapshot L M)
    (hcolumns : snapshot.soldColumns = transaction.soldColumns) : Taken transaction L M := by
  have hkey : snapshot.walletKey = transaction.walletKey :=
    congrArg SoldColumns.walletKey hcolumns
  have htotal : snapshot.totalSentBase = transaction.totalSentBase :=
    congrArg SoldColumns.totalSentBase hcolumns
  have hfiat : snapshot.fiatAmountBase = transaction.fiatAmountBase :=
    congrArg SoldColumns.fiatAmountBase hcolumns
  obtain ⟨w, text, hw, hwallets⟩ := h.wallets
  have hcompany := h.reserved BASE_CURRENCY
  rw [hkey] at hw hwallets
  rw [if_pos rfl, hfiat] at hcompany
  refine ⟨?_, ?_, hcompany⟩
  · simp [Ledger.baseBalance, hwallets, hw, soldWallet, htotal]
  · simp [Ledger.reservedBalance, hwallets, hw, soldWallet, htotal]

theorem success_cases (cache : ConvertCurrency.DefaultNetworkCache) {h : Handler}
    (hnotice : h.notice = .success) (L : Ledger) :
    (¬ TransferReady cache h.id h.transaction L ∧ (h.block cache).commit L = L) ∨
      (TransferReady cache h.id h.transaction L ∧
        TransferDone h.id h.transaction L ((h.block cache).commit L)) := by
  have hblock : h.block cache = transferSuccessBlock cache h.id h.transaction := by
    rw [Handler.block, if_pos hnotice]
  rw [hblock]
  by_cases hready : TransferReady cache h.id h.transaction L
  · obtain ⟨M, hM⟩ := hready.commits
    rw [commit_of_commits hM]
    exact .inr ⟨hready, (transferSuccessBlock_commits hM).2⟩
  · rcases (transferSuccessBlock cache h.id h.transaction).commit_cases L with hsame | ⟨u, hM⟩
    · exact .inl ⟨hready, hsame⟩
    · exact absurd (transferSuccessBlock_commits hM).1 hready

/-- The transaction row after a failed payout. -/
def reopened (transaction t : Transaction) : Transaction :=
  { t with
    status := .PENDING
    isProcessed := false
    paymentMetadata := { transaction.paymentMetadata with
      payoutStatus := some .failed_retry_required
      liquidityReservationStatus := some .RESERVED } }

theorem failure_commit {h : Handler} (hnotice : h.notice ≠ .success) (L : Ledger) :
    (h.block cache).commit L = { L with
      orders := L.orders.modify h.id (fun o => { o with
        status := .PROCESSING, paymentStatus := .FAILED })
      transactions := L.transactions.modify h.id (reopened h.transaction) } := by
  rw [Handler.block, if_neg hnotice]
  rfl

theorem Tracks.run (hL : Tracks reference id transaction L₀ L) {h : Handler}
    (hh : h.Sound id transaction) (htimely : isCompleted id L →
      h.notice = .success ∧ ¬ TransferReady cache h.id h.transaction L) :
    Tracks reference id transaction L₀ ((h.block cache).commit L) := by
  obtain ⟨t, ht, hcolumns, hstage⟩ := hL.row
  by_cases hnotice : h.notice = .success
  · rcases success_cases cache hnotice L with ⟨-, hsame⟩ | ⟨hready, hdone⟩
    · rw [hsame]
      exact hL
    · -- it pays, so the transaction was still open
      have hopen : t.status ≠ .COMPLETED := fun hstatus =>
        (htimely ((isCompleted_iff ht).mpr hstatus)).2 hready
      have htaken := hdone.taken hh.columns
      have hrow := hdone.transactions
      have horders := hdone.orders
      rw [hh.id] at hrow horders
      refine ⟨sellByPaymentReference_modify horders (fun o => ⟨rfl, rfl⟩) hL.sell,
        orderByPaymentReference_modify horders (fun o => rfl) hL.order,
        completed h.transaction t, ?_, hcolumns, ?_⟩
      · rw [hrow]
        simp [ht]
      · cases hstage with
        | unpaid _ hbase hreserved hcompany =>
          refine .paid rfl rfl ?_ ?_ ?_
          · rw [htaken.base, hbase]
          · rw [htaken.reserved, hreserved]
          · rw [htaken.company, hcompany]
        | paid hstatus _ _ _ _ => exact absurd hstatus hopen
  · have hopen : t.status ≠ .COMPLETED := fun hstatus =>
      hnotice (htimely ((isCompleted_iff ht).mpr hstatus)).1
    rw [failure_commit hnotice, hh.id]
    refine ⟨sellByPaymentReference_modify rfl (fun o => ⟨rfl, rfl⟩) hL.sell,
      orderByPaymentReference_modify rfl (fun o => rfl) hL.order,
      reopened h.transaction t, by simp [ht], hcolumns, ?_⟩
    cases hstage with
    | unpaid _ hbase hreserved hcompany =>
      exact .unpaid (by simp [reopened]) hbase hreserved hcompany
    | paid hstatus _ _ _ _ => exact absurd hstatus hopen

theorem Tracks.released (hL : Tracks reference id transaction L₀ L) :
    isCompleted id L → isCompleted id L ∧ ¬ isMarkedReserved id L := by
  intro hcompleted
  obtain ⟨t, ht, -, hstage⟩ := hL.row
  refine ⟨hcompleted, fun hmarked => ?_⟩
  have hreleased := hstage.released ((isCompleted_iff ht).mp hcompleted)
  rw [(isMarkedReserved_iff ht).mp hmarked] at hreleased
  cases hreleased

theorem Tracks.run_iff (hL : Tracks reference id transaction L₀ L) {h : Handler}
    (hh : h.Sound id transaction) (cache : ConvertCurrency.DefaultNetworkCache) :
    (SettledOnce transaction L₀ ((h.block cache).commit L) ∧
      (isCompleted id L → isCompleted id ((h.block cache).commit L) ∧
        ¬ isMarkedReserved id ((h.block cache).commit L))) ↔
      (isCompleted id L → h.notice = .success ∧ ¬ TransferReady cache h.id h.transaction L) := by
  obtain ⟨t, ht, hcolumns, hstage⟩ := hL.row
  constructor
  · rintro ⟨honce, hkeeps⟩ hcompleted
    by_cases hnotice : h.notice = .success
    · refine ⟨hnotice, fun hready => ?_⟩
      -- the transaction was paid before, this block pays it again
      rcases success_cases cache hnotice L with ⟨hnot, -⟩ | ⟨-, hdone⟩
      · exact hnot hready
      · have hbase := (hdone.taken hh.columns).base
        have hamount := hh.amount hnotice
        have hle := honce.base
        cases hstage with
        | unpaid hopen _ _ _ => exact hopen ((isCompleted_iff ht).mp hcompleted)
        | paid _ _ hpaid _ _ => omega
    · obtain ⟨v, hv, hstatus⟩ := (hkeeps hcompleted).1
      rw [failure_commit hnotice, hh.id] at hv
      simp only [Table.lookup_modify_self, ht, Option.map_some, Option.some.injEq] at hv
      subst hv
      cases hstatus
  · intro htimely
    obtain ⟨-, -, v, -, -, hafter⟩ := hL.run hh htimely
    refine ⟨hafter.settledOnce, fun hcompleted => ?_⟩
    obtain ⟨hnotice, hnot⟩ := htimely hcompleted
    rcases success_cases cache hnotice L with ⟨-, hsame⟩ | ⟨hready, -⟩
    · rw [hsame]
      exact hL.released hcompleted
    · exact absurd hready hnot

end Steps

section Runs

variable {cache : ConvertCurrency.DefaultNetworkCache} {reference : Reference}
  {id : TransactionId} {transaction : Transaction} {L₀ : Ledger} {s : System Ledger Handler}

theorem Invariant.step_iff (hs : Invariant reference id transaction L₀ s)
    (e : Event Notice Bool Empty) :
    SettledOnce transaction L₀ ((deliveries cache reference).step e s).state ∧
      KeepsCompleted cache reference id s e ↔ Timely cache id s e := by
  have hidle : SettledOnce transaction L₀ s.state ∧ (isCompleted id s.state →
      isCompleted id s.state ∧ ¬ isMarkedReserved id s.state) := by
    obtain ⟨t, -, -, hstage⟩ := hs.ledger.row
    exact ⟨hstage.settledOnce, hs.ledger.released⟩
  unfold KeepsCompleted
  cases e with
  | outside x => exact nomatch x
  | start notice => exact iff_of_true hidle trivial
  | resume n runs =>
    cases hn : s.running[n]? with
    | none =>
      rw [Handlers.step_resume_none hn]
      refine iff_of_true hidle ?_
      cases runs with
      | false => trivial
      | true => exact fun _ h hh => by rw [hn] at hh; cases hh
    | some h =>
      rw [Handlers.step_resume hn]
      cases runs with
      | false => exact iff_of_true hidle trivial
      | true =>
        have hrun := hs.ledger.run_iff (hs.handlers h (List.mem_of_getElem? hn)) cache
        simpa [Timely, deliveries, hn] using hrun

theorem Invariant.step (hs : Invariant reference id transaction L₀ s) {e : Event Notice Bool Empty}
    (he : Timely cache id s e) :
    Invariant reference id transaction L₀ ((deliveries cache reference).step e s) := by
  cases e with
  | outside x => exact nomatch x
  | start notice =>
    exact ⟨hs.ledger, Handlers.forall_running_start hs.handlers fun h hh =>
      receive_sound hs.ledger hh⟩
  | resume n runs =>
    refine ⟨?_, Handlers.forall_running_resume hs.handlers (fun h _ hh => hh) ?_⟩
    · cases hn : s.running[n]? with
      | none =>
        rw [Handlers.step_resume_none hn]
        exact hs.ledger
      | some h =>
        rw [Handlers.step_resume hn]
        cases runs with
        | false => exact hs.ledger
        | true =>
          have hsound := hs.handlers h (List.mem_of_getElem? hn)
          exact hs.ledger.run hsound fun hcompleted => he hcompleted h hn
    · intro h _ _ u hu
      cases hu

/-- For every interleaving of deliveries for the payout of an open sell: the wallet and the
company's reservation are taken from once at most, and a completed transaction stays completed and
released, exactly when every block runs in time. -/
theorem deliveries_settle_once_iff (cache : ConvertCurrency.DefaultNetworkCache)
    (hsell : L₀.sellByPaymentReference reference = some id)
    (horder : L₀.orderByPaymentReference reference = some id)
    (hrow : L₀.transactions.lookup id = some transaction)
    (hopen : transaction.status ≠ .COMPLETED) (events : List (Event Notice Bool Empty)) :
    Run.Throughout (deliveries cache reference).step
        (fun s => SettledOnce transaction L₀ s.state) ⟨L₀, []⟩ events ∧
      Run.Along (deliveries cache reference).step (KeepsCompleted cache reference id)
        ⟨L₀, []⟩ events ↔
      Run.Along (deliveries cache reference).step (Timely cache id) ⟨L₀, []⟩ events := by
  refine Run.safe_iff_along (I := Invariant reference id transaction L₀) ?_ ?_ ?_ ?_
  · intro s hs
    obtain ⟨t, -, -, hstage⟩ := hs.ledger.row
    exact hstage.settledOnce
  · exact fun s e hs => hs.step_iff e
  · exact fun s e hs he => hs.step he
  · exact ⟨⟨hsell, horder, transaction, hrow, rfl, .unpaid hopen rfl rfl rfl⟩, by simp⟩

end Runs

/-- A sell of user 1 whose payout was initiated under reference 13; the same amounts are reserved
for a second sell. -/
def payoutPending : Transaction where
  userId := 1
  transactionContext := .SELL
  transactionUniqueId := 7
  currency := .btc
  letterCase := .upper
  network := some .btc
  cryptoAmountBase := some 100000
  fiatAmountBase := 123450
  platformFeeBase := some 0
  totalAmountSentBase := none
  executedCryptoAmountBase := some 100000
  executedFiatAmountBase := some 123450
  status := .PENDING
  isProcessed := false
  paymentMetadata := { PaymentMetadata.empty with
    payoutStatus := some .initiated, liquidityReservationStatus := some .RESERVED }

def twoSells : Ledger :=
  { Ledger.empty with
    wallets := (∅ : Table WalletKey Wallet).insert (1, .btc)
      { Wallet.empty with
        letterCase := .upper, baseBalance := 200000, reservedBalance := 200000
        defaultNetwork := some .btc }
    companyLiquidity := ((∅ : Table Currency CompanyLiquidity).insert .btc
      { CompanyLiquidity.empty with totalBalance := 500000, internalBalance := 200000 }).insert .ngn
      { CompanyLiquidity.empty with totalBalance := 900000, reservedBalance := 246900 }
    transactions := (∅ : Table TransactionId Transaction).insert 1 payoutPending
    orders := (∅ : Table TransactionId Order).insert 1
      { userId := 1, type := .SELL, fiatAmountBase := 123450, status := .PROCESSING
        referenceNo := some 7, paymentStatus := .PENDING, paymentReference := some 13 } }

/-- A success that follows a failure pays once. -/
theorem success_after_failure_settles_once :
    Run.Throughout (deliveries (fun _ => none) 13).step
        (fun s => SettledOnce payoutPending twoSells s.state) ⟨twoSells, []⟩
        [.start .failed, .resume 0 true, .start .success, .resume 0 true] ∧
      Run.Along (deliveries (fun _ => none) 13).step (KeepsCompleted (fun _ => none) 13 1)
        ⟨twoSells, []⟩ [.start .failed, .resume 0 true, .start .success, .resume 0 true] := by
  refine (deliveries_settle_once_iff (fun _ => none) (by decide) (by decide) rfl (by decide) _).mpr
    ⟨trivial, fun hcompleted => ?_, trivial, fun hcompleted => ?_, trivial⟩
  · have hstatus := (isCompleted_iff (t := payoutPending) (by rfl)).mp hcompleted
    cases hstatus
  · have hstatus := (isCompleted_iff (t := reopened payoutPending payoutPending) (by rfl)).mp
      hcompleted
    cases hstatus

/-- Two successes that are read before either block runs take the amount twice. -/
theorem repeated_success_pays_twice :
    ¬ ∀ (cache : ConvertCurrency.DefaultNetworkCache) (reference : Reference) (id : TransactionId)
      (transaction : Transaction) (L₀ : Ledger) (events : List (Event Notice Bool Empty)),
      L₀.sellByPaymentReference reference = some id →
      L₀.orderByPaymentReference reference = some id →
      L₀.transactions.lookup id = some transaction → transaction.status ≠ .COMPLETED →
      Run.Throughout (deliveries cache reference).step
          (fun s => SettledOnce transaction L₀ s.state) ⟨L₀, []⟩ events ∧
        Run.Along (deliveries cache reference).step (KeepsCompleted cache reference id)
          ⟨L₀, []⟩ events := by
  intro h
  have hlast := (h (fun _ => none) 13 1 payoutPending twoSells
    [.start .success, .start .success, .resume 0 true, .resume 0 true] (by decide) (by decide) rfl
    (by decide)).1.last
  have hbase : (Run.final (deliveries (fun _ => none) 13).step ⟨twoSells, []⟩
      [.start .success, .start .success, .resume 0 true, .resume 0 true]).state.baseBalance
        (1, .btc) = 0 := by decide +kernel
  have hle := hlast.base
  rw [show payoutPending.walletKey = (1, .btc) from rfl, hbase] at hle
  exact absurd hle (by decide)

end PayoutStatus

end ExchangeLedger
