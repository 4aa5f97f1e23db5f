import ExchangeLedger.Withdrawal
import ExchangeLedger.Run

set_option autoImplicit false

/-! Deliveries of the withdrawal webhook and their retries, one after the other: what the provider
answers to the lookup, and what the database does. -/

namespace ExchangeLedger

open Block

namespace WithdrawalWebhook

/-- The provider's record of a withdrawal. -/
structure Confirmed where
  done : Bool
  amount : Text
  fee : Option Text
  deriving DecidableEq, Repr

/-- One delivery: the lookup's answer, if it is a success with data, a fault of the database in
the ledger block, and whether the update made by the catch goes through. -/
structure Delivery where
  confirmation : Option Confirmed
  fault : Option Failure
  recorded : Bool
  deriving DecidableEq, Repr

/-- `amountBase`; the conversion of the fee can throw too. -/
def confirmedAmount (cache : ConvertCurrency.DefaultNetworkCache) (confirmed : Confirmed)
    (currency : Currency) : Except String Int := do
  let amountBase ← ConvertCurrency.toBase cache confirmed.amount currency
  let _ ← confirmed.fee.mapM (fun fee => ConvertCurrency.toBase cache fee currency)
  return amountBase

/-- The withdrawal under a reference, with its transaction. -/
def findWithdrawal (L : Ledger) (reference : Reference) :
    Option (WithdrawalId × Withdrawal × TransactionId × Transaction) := do
  let withdrawalId ← L.withdrawalByReference reference
  let withdrawal ← L.withdrawals.lookup withdrawalId
  let id ← withdrawal.transactionId
  let transaction ← L.transactions.lookup id
  return (withdrawalId, withdrawal, id, transaction)

/-- The ledger block with its catch: a transient fault is thrown on to the queue, any other error
marks the withdrawal as failed. -/
def settleOrFail (block : LedgerBlock Unit) (withdrawalId : WithdrawalId) (recorded : Bool)
    (L : Ledger) : Ledger :=
  match block L with
  | .ok (_, M) => M
  | .error (.database true) => L
  | .error _ => if recorded then (failedBlock withdrawalId).commit L else L

/-- `handleConfirmedWithdrawal` for a user's withdrawal. -/
def handleConfirmedWithdrawal (cache : ConvertCurrency.DefaultNetworkCache) (event : Event)
    (reference : Reference) (d : Delivery) (L : Ledger) : Ledger :=
  match findWithdrawal L reference with
  | none => L
  | some (withdrawalId, withdrawal, id, transaction) =>
    if withdrawal.status = .SUCCESS ∨ withdrawal.status = .FAILED then L
    else if transaction.totalAmountSentBase = none then L
    else match d.confirmation with
      | none => L
      | some confirmed =>
        if confirmed.done = false then L
        else match confirmedAmount cache confirmed withdrawal.currency with
          | .error _ => L
          | .ok amountBase =>
            settleOrFail
              (match d.fault with
              | some e => fail e
              | none => settleBlock cache event id transaction withdrawalId withdrawal amountBase)
              withdrawalId d.recorded L

/-! ### The block -/

/-- What closing both reservations needs: of a success, what it debits and books; of a rejection,
what it releases. -/
def CanClose (cache : ConvertCurrency.DefaultNetworkCache) (event : Event) (k : WalletKey)
    (total fee : Nat) (L : Ledger) : Prop :=
  if event = .successful then
    (∃ w text, L.wallets.lookup k = some w ∧
      ((total : Int) ≤ w.baseBalance ∧ (total : Int) ≤ w.reservedBalance) ∧
      restatedText cache (w.baseBalance - total) k.2 none = .ok text) ∧
    ∃ r, L.companyLiquidity.lookup k.2 = some r ∧ (total : Int) - fee ≤ r.internalBalance ∧
      ((total : Int) - fee ≤ r.reservedBalance ∧ (total : Int) - fee ≤ r.totalBalance) ∧
      (fee = 0 ∨ (fee : Int) ≤ r.reservedBalance - (total - fee))
  else
    (∃ w, L.wallets.lookup k = some w ∧ (total : Int) ≤ w.reservedBalance) ∧
      (total = 0 ∨ ∃ r, L.companyLiquidity.lookup k.2 = some r ∧ (total : Int) ≤ r.reservedBalance)

/-- Both reservations closed: since `L` the total left them, and on success the balance. -/
structure Closed (event : Event) (k : WalletKey) (total : Nat) (L M : Ledger) : Prop where
  base : M.baseBalance k = L.baseBalance k - if event = .successful then (total : Int) else 0
  reserved : M.reservedBalance k = L.reservedBalance k - total
  company : M.reservedLiquidity k.2 = L.reservedLiquidity k.2 - total

theorem closeReservations_closed {cache : ConvertCurrency.DefaultNetworkCache} {event : Event}
    {transaction : Transaction} {withdrawal : Withdrawal} {L M : Ledger} {u : Unit}
    (h : (closeReservations cache event transaction withdrawal).Commits L u M) :
    CanClose cache event (walletOf transaction withdrawal) transaction.sentBase
        (transaction.platformFeeBase.getD 0) L ∧
      Closed event (walletOf transaction withdrawal) transaction.sentBase L M := by
  cases event with
  | successful =>
    obtain ⟨v, text, r, hv, hle, htext, hr, hint, hpart, hfee, rfl⟩ :=
      closeReservations_successful.mp h
    refine ⟨?_, ?_, ?_, ?_⟩
    · rw [CanClose, if_pos rfl]
      exact ⟨⟨v, text, hv, hle, htext⟩, r, hr, hint, hpart, hfee⟩
    · simp [Ledger.baseBalance_of_lookup hv]
    · simp [Ledger.reservedBalance_of_lookup hv]
    · have hcurrency : (walletOf transaction withdrawal).2 = withdrawal.currency := rfl
      simp only [hcurrency, Ledger.reservedLiquidity_setCompany, if_true,
        Ledger.reservedLiquidity_of_lookup hr, amountSentToProvider]
      omega
  | rejected =>
    obtain ⟨v, A, hv, hle, rfl, hrelease⟩ := closeReservations_rejected.mp h
    have hcurrency : (walletOf transaction withdrawal).2 = withdrawal.currency := rfl
    have hreserved := releaseLiquidity_reserved hrelease withdrawal.currency
    have hframe := (releaseLiquidity_frame hrelease).1
    have hneeds := releaseLiquidity_commits.mp hrelease
    generalize M.companyLiquidity = company at hframe
    refine ⟨?_, ?_, ?_, ?_⟩
    · rw [CanClose, if_neg (by decide)]
      refine ⟨⟨v, hv, hle⟩, ?_⟩
      rcases hneeds with ⟨h0, -⟩ | ⟨-, r, hr, hr', -⟩
      · exact .inl h0
      · exact .inr ⟨r, hr, hr'⟩
    · rw [hframe]
      simp [Ledger.baseBalance, hv]
    · rw [hframe]
      simp [Ledger.reservedBalance, hv]
    · rw [hcurrency, hreserved]
      simp

theorem CanClose.commits {cache : ConvertCurrency.DefaultNetworkCache} {event : Event}
    {transaction : Transaction} {withdrawal : Withdrawal} {L : Ledger}
    (h : CanClose cache event (walletOf transaction withdrawal) transaction.sentBase
      (transaction.platformFeeBase.getD 0) L) :
    ∃ M, (closeReservations cache event transaction withdrawal).Commits L () M := by
  cases event with
  | successful =>
    rw [CanClose, if_pos rfl] at h
    obtain ⟨⟨v, text, hv, hle, htext⟩, r, hr, hint, hpart, hfee⟩ := h
    exact ⟨_, closeReservations_successful.mpr
      ⟨v, text, r, hv, hle, htext, hr, hint, hpart, hfee, rfl⟩⟩
  | rejected =>
    rw [CanClose, if_neg (by decide)] at h
    obtain ⟨⟨v, hv, hle⟩, hcompany⟩ := h
    by_cases h0 : transaction.sentBase = 0
    · exact ⟨_, closeReservations_rejected.mpr
        ⟨v, _, hv, hle, rfl, releaseLiquidity_commits.mpr (.inl ⟨h0, rfl⟩)⟩⟩
    · obtain ⟨r, hr, hle'⟩ := hcompany.resolve_left h0
      exact ⟨_, closeReservations_rejected.mpr
        ⟨v, _, hv, hle, rfl, releaseLiquidity_commits.mpr (.inr ⟨h0, r, hr, hle', rfl⟩)⟩⟩

/-- What a settlement writes beside the balances. -/
structure Settled (event : Event) (id : TransactionId) (withdrawalId : WithdrawalId)
    (withdrawal : Withdrawal) (amountBase : Int) (L M : Ledger) : Prop where
  withdrawals : M.withdrawals = L.withdrawals.modify withdrawalId (fun w => { w with
    status := if event = .successful then .SUCCESS else .FAILED
    currency := withdrawal.currency
    network := withdrawal.network })
  transactions : M.transactions = L.transactions.modify id (fun t => { t with
    status := if event = .successful then .COMPLETED else .FAILED
    isProcessed := true
    executedCryptoAmountBase := some amountBase })

theorem closeReservations_onBalances (cache : ConvertCurrency.DefaultNetworkCache) (event : Event)
    (transaction : Transaction) (withdrawal : Withdrawal) :
    OnBalances (closeReservations cache event transaction withdrawal) := by
  intro R
  refine preserves_ite ?_ ?_
  · refine preserves_bind (mustUpdateWallet_onBalances _ _ _ _ R) fun _ => ?_
    refine preserves_bind (restateOriginalBalance_onBalances _ _ _ R) fun _ => ?_
    refine preserves_bind (subtractInternalBalance_onBalances _ _ R) fun _ => ?_
    refine preserves_bind (updateCompany_onBalances _ _ _ R) fun _ => ?_
    refine preserves_bind (preserves_require _ _) fun _ => ?_
    exact releaseLiquidity_onBalances _ _ R
  · refine preserves_bind (releaseBalance_onBalances _ _ _ _ R) fun _ => ?_
    exact releaseLiquidity_onBalances _ _ R

theorem settleBlock_commits {cache : ConvertCurrency.DefaultNetworkCache} {event : Event}
    {id : TransactionId} {transaction : Transaction} {withdrawalId : WithdrawalId}
    {withdrawal : Withdrawal} {amountBase : Int} {L M : Ledger} {u : Unit}
    (h : (settleBlock cache event id transaction withdrawalId withdrawal amountBase).Commits
      L u M) :
    CanClose cache event (walletOf transaction withdrawal) transaction.sentBase
        (transaction.platformFeeBase.getD 0) L ∧
      Closed event (walletOf transaction withdrawal) transaction.sentBase L M ∧
      Settled event id withdrawalId withdrawal amountBase L M := by
  simp only [settleBlock, commits_read_bind, commits_require_bind, updateWithdrawal,
    commits_update_bind] at h
  simp only [commits_bind, updateTransaction, commits_update] at h
  obtain ⟨-, _, A, hclose, rfl⟩ := h
  obtain ⟨hcan, hclosed⟩ := closeReservations_closed hclose
  have hrecords := closeReservations_onBalances _ _ _ _ _ _ _ _ rfl hclose
  have hwithdrawals := congrArg Ledger.withdrawals hrecords
  have htransactions := congrArg Ledger.transactions hrecords
  refine ⟨hcan, ⟨hclosed.base, hclosed.reserved, hclosed.company⟩, hwithdrawals, ?_⟩
  show A.transactions.modify id _ = _
  rw [show A.transactions = L.transactions from htransactions]

theorem CanClose.settles {cache : ConvertCurrency.DefaultNetworkCache} {event : Event}
    {transaction : Transaction} {withdrawal : Withdrawal} {L : Ledger}
    (h : CanClose cache event (walletOf transaction withdrawal) transaction.sentBase
      (transaction.platformFeeBase.getD 0) L) (id : TransactionId) (withdrawalId : WithdrawalId)
    (amountBase : Int) :
    ∃ M, (settleBlock cache event id transaction withdrawalId withdrawal amountBase).Commits
      L () M := by
  have hwallet : (L.wallets.lookup (walletOf transaction withdrawal)).isSome = true := by
    unfold CanClose at h
    split at h
    · obtain ⟨⟨w, text, hw, -⟩, -⟩ := h
      simp [hw]
    · obtain ⟨⟨w, hw, -⟩, -⟩ := h
      simp [hw]
  have hsame : CanClose cache event (walletOf transaction withdrawal) transaction.sentBase
      (transaction.platformFeeBase.getD 0) { L with
        withdrawals := L.withdrawals.modify withdrawalId (fun w => { w with
          status := if event = .successful then .SUCCESS else .FAILED
          currency := withdrawal.currency
          network := withdrawal.network }) } := h
  obtain ⟨A, hclose⟩ := hsame.commits
  simp only [settleBlock, commits_read_bind, commits_require_bind, updateWithdrawal,
    commits_update_bind]
  simp only [commits_bind, updateTransaction, commits_update]
  exact ⟨_, hwallet, (), A, hclose, rfl⟩

/-! ### Deliveries -/

/-- The provider answers that the withdrawal is done, with amounts that convert. -/
def Delivery.Confirms (cache : ConvertCurrency.DefaultNetworkCache) (currency : Currency)
    (d : Delivery) : Prop :=
  ∃ confirmed amountBase, d.confirmation = some confirmed ∧ confirmed.done = true ∧
    confirmedAmount cache confirmed currency = .ok amountBase

/-- Nothing fails where the reservations can be closed. -/
def Delivery.Settles (cache : ConvertCurrency.DefaultNetworkCache) (event : Event) (k : WalletKey)
    (total fee : Nat) (L : Ledger) (d : Delivery) : Prop :=
  d.Confirms cache k.2 ∧ d.fault = none ∧ CanClose cache event k total fee L

/-- The ledger block fails for good, and the catch writes the terminal status. -/
def Delivery.Strands (cache : ConvertCurrency.DefaultNetworkCache) (event : Event) (k : WalletKey)
    (total fee : Nat) (L : Ledger) (d : Delivery) : Prop :=
  d.Confirms cache k.2 ∧ d.recorded = true ∧ d.fault ≠ some (.database true) ∧
    (d.fault = none → ¬ CanClose cache event k total fee L)

/-- The withdrawal under `reference` is still open, with these amounts to close. -/
structure Pending (reference : Reference) (withdrawalId : WithdrawalId) (id : TransactionId)
    (k : WalletKey) (total fee : Nat) (L : Ledger) : Prop where
  found : ∃ withdrawal transaction,
    findWithdrawal L reference = some (withdrawalId, withdrawal, id, transaction) ∧
    withdrawal.currency = k.2 ∧ transaction.userId = k.1 ∧
    (withdrawal.status ≠ .SUCCESS ∧ withdrawal.status ≠ .FAILED) ∧
    transaction.totalAmountSentBase = some total ∧ transaction.platformFeeBase = some fee

/-- The withdrawal under `reference` has a terminal status. -/
def Terminal (reference : Reference) (L : Ledger) : Prop :=
  ∃ withdrawalId withdrawal id transaction,
    findWithdrawal L reference = some (withdrawalId, withdrawal, id, transaction) ∧
    (withdrawal.status = .SUCCESS ∨ withdrawal.status = .FAILED)

theorem findWithdrawal_eq_some {L : Ledger} {reference : Reference} {withdrawalId : WithdrawalId}
    {withdrawal : Withdrawal} {id : TransactionId} {transaction : Transaction} :
    findWithdrawal L reference = some (withdrawalId, withdrawal, id, transaction) ↔
      L.withdrawalByReference reference = some withdrawalId ∧
        L.withdrawals.lookup withdrawalId = some withdrawal ∧
        withdrawal.transactionId = some id ∧ L.transactions.lookup id = some transaction := by
  unfold findWithdrawal
  constructor
  · intro h
    obtain ⟨wid, hwid, h⟩ := Option.bind_eq_some_iff.mp h
    obtain ⟨w, hw, h⟩ := Option.bind_eq_some_iff.mp h
    obtain ⟨j, hj, h⟩ := Option.bind_eq_some_iff.mp h
    obtain ⟨t, ht, h⟩ := Option.bind_eq_some_iff.mp h
    cases h
    exact ⟨hwid, hw, hj, ht⟩
  · rintro ⟨hwid, hw, hj, ht⟩
    simp [hwid, hw, hj, ht]

theorem findWithdrawal_modify {L M : Ledger} {reference : Reference}
    {withdrawalId : WithdrawalId} {withdrawal : Withdrawal} {id : TransactionId}
    {transaction t : Transaction} {f : Withdrawal → Withdrawal}
    (h : findWithdrawal L reference = some (withdrawalId, withdrawal, id, transaction))
    (hM : M.withdrawals = L.withdrawals.modify withdrawalId f)
    (hf : ∀ w, (f w).reference = w.reference ∧ (f w).transactionId = w.transactionId)
    (ht : M.transactions.lookup id = some t) :
    findWithdrawal M reference = some (withdrawalId, f withdrawal, id, t) := by
  obtain ⟨hreference, hrow, hid, -⟩ := findWithdrawal_eq_some.mp h
  refine findWithdrawal_eq_some.mpr ⟨?_, ?_, ?_, ht⟩
  · unfold Ledger.withdrawalByReference
    rw [hM]
    refine Table.find?_modify hreference fun w hw => ?_
    rw [(hf w).1]
    exact hw
  · rw [hM]
    simp [hrow]
  · rw [(hf withdrawal).2]
    exact hid

section Runs

variable {cache : ConvertCurrency.DefaultNetworkCache} {event : Event} {reference : Reference}
  {withdrawalId : WithdrawalId} {id : TransactionId} {k : WalletKey} {total fee : Nat}
  {L : Ledger}

theorem Terminal.ignored (h : Terminal reference L) (d : Delivery) :
    handleConfirmedWithdrawal cache event reference d L = L := by
  obtain ⟨withdrawalId, withdrawal, id, transaction, hfound, hstatus⟩ := h
  simp [handleConfirmedWithdrawal, hfound, hstatus]

theorem Terminal.final (h : Terminal reference L) (ds : List Delivery) :
    Run.final (handleConfirmedWithdrawal cache event reference) L ds = L := by
  induction ds with
  | nil => rfl
  | cons d ds ih => rw [Run.final, h.ignored, ih]

theorem closeReservations_throws (event : Event) (transaction : Transaction)
    (withdrawal : Withdrawal) :
    FailsIn Failure.isThrown (closeReservations cache event transaction withdrawal) := by
  refine failsIn_ite ?_ ?_
  · refine failsIn_bind (mustUpdateWallet_throws _ _ _ _) fun _ => ?_
    refine failsIn_bind (restateOriginalBalance_throws _ _ _) fun _ => ?_
    refine failsIn_bind (subtractInternalBalance_throws _ _) fun _ => ?_
    refine failsIn_bind (updateCompany_throws _ _ _) fun _ => ?_
    refine failsIn_bind (failsIn_require _ ⟨_, rfl⟩) fun _ => ?_
    exact releaseLiquidity_throws _ _
  · refine failsIn_bind (releaseBalance_throws _ _ _ _) fun _ => ?_
    exact releaseLiquidity_throws _ _

theorem settleBlock_throws (id : TransactionId) (transaction : Transaction)
    (withdrawalId : WithdrawalId) (withdrawal : Withdrawal) (amountBase : Int) :
    FailsIn Failure.isThrown
      (settleBlock cache event id transaction withdrawalId withdrawal amountBase) := by
  refine failsIn_bind (failsIn_read _) fun _ => ?_
  refine failsIn_bind (failsIn_require _ ⟨_, rfl⟩) fun _ => ?_
  refine failsIn_bind (failsIn_update _) fun _ => ?_
  refine failsIn_bind (closeReservations_throws _ _ _) fun _ => ?_
  exact failsIn_update _

theorem settleOrFail_commits {x : LedgerBlock Unit} {withdrawalId : WithdrawalId}
    {recorded : Bool} {M : Ledger} (h : x.Commits L () M) :
    settleOrFail x withdrawalId recorded L = M := by
  have hx : x L = .ok ((), M) := h
  simp [settleOrFail, hx]

theorem settleOrFail_error {x : LedgerBlock Unit} {withdrawalId : WithdrawalId}
    {recorded : Bool} {e : Failure} (h : x L = .error e) :
    settleOrFail x withdrawalId recorded L =
      if e ≠ .database true ∧ recorded = true then (failedBlock withdrawalId).commit L else L := by
  unfold settleOrFail
  rw [h]
  cases e with
  | thrown message => cases recorded <;> simp
  | database transient => cases transient <;> cases recorded <;> simp

theorem failedBlock_terminal {withdrawalId : WithdrawalId} {withdrawal : Withdrawal}
    {id : TransactionId} {transaction : Transaction}
    (h : findWithdrawal L reference = some (withdrawalId, withdrawal, id, transaction)) :
    ((failedBlock withdrawalId).commit L).toBooks = L.toBooks ∧
      Terminal reference ((failedBlock withdrawalId).commit L) := by
  obtain ⟨-, -, -, htransaction⟩ := findWithdrawal_eq_some.mp h
  have hfound := findWithdrawal_modify (M := (failedBlock withdrawalId).commit L) h rfl
    (fun w => ⟨rfl, rfl⟩) htransaction
  exact ⟨rfl, _, _, _, _, hfound, .inr rfl⟩

theorem Pending.delivery_cases (h : Pending reference withdrawalId id k total fee L)
    (d : Delivery) :
    (d.Settles cache event k total fee L ∧
        Closed event k total L (handleConfirmedWithdrawal cache event reference d L) ∧
        Terminal reference (handleConfirmedWithdrawal cache event reference d L)) ∨
      (d.Strands cache event k total fee L ∧
        (handleConfirmedWithdrawal cache event reference d L).toBooks = L.toBooks ∧
        Terminal reference (handleConfirmedWithdrawal cache event reference d L)) ∨
      (¬ d.Settles cache event k total fee L ∧ ¬ d.Strands cache event k total fee L ∧
        handleConfirmedWithdrawal cache event reference d L = L) := by
  obtain ⟨withdrawal, transaction, hfound, hcurrency, huser, hopen, htotal,
    hfee⟩ := h.found
  obtain ⟨-, -, -, htransaction⟩ := findWithdrawal_eq_some.mp hfound
  have hkey : walletOf transaction withdrawal = k := by
    rw [walletOf, huser, hcurrency]
  have hsent : transaction.sentBase = total := by
    rw [Transaction.sentBase, htotal, Option.getD_some]
  have hfeeBase : transaction.platformFeeBase.getD 0 = fee := by
    rw [hfee, Option.getD_some]
  by_cases hconfirms : d.Confirms cache k.2
  · obtain ⟨confirmed, amountBase, hconfirmation, hdone, hamount⟩ := hconfirms
    have hhandle : handleConfirmedWithdrawal cache event reference d L = settleOrFail
        (match d.fault with
        | some e => fail e
        | none => settleBlock cache event id transaction withdrawalId withdrawal amountBase)
        withdrawalId d.recorded L := by
      simp [handleConfirmedWithdrawal, hfound, hopen, htotal, hconfirmation, hdone, hcurrency,
        hamount]
    rw [hhandle]
    -- an error is final when it lasts and the catch records it
    have herror {x : LedgerBlock Unit} {e : Failure} (hx : x L = .error e)
        (hno : ¬ d.Settles cache event k total fee L)
        (hlast : (e ≠ .database true ∧ d.recorded = true) ↔
          d.Strands cache event k total fee L) :
        (d.Settles cache event k total fee L ∧
            Closed event k total L (settleOrFail x withdrawalId d.recorded L) ∧
            Terminal reference (settleOrFail x withdrawalId d.recorded L)) ∨
          (d.Strands cache event k total fee L ∧
            (settleOrFail x withdrawalId d.recorded L).toBooks = L.toBooks ∧
            Terminal reference (settleOrFail x withdrawalId d.recorded L)) ∨
          (¬ d.Settles cache event k total fee L ∧ ¬ d.Strands cache event k total fee L ∧
            settleOrFail x withdrawalId d.recorded L = L) := by
      rw [settleOrFail_error hx]
      by_cases hfinal : e ≠ .database true ∧ d.recorded = true
      · rw [if_pos hfinal]
        exact .inr (.inl ⟨hlast.mp hfinal, failedBlock_terminal hfound⟩)
      · rw [if_neg hfinal]
        exact .inr (.inr ⟨hno, fun hs => hfinal (hlast.mpr hs), rfl⟩)
    have hconfirms : d.Confirms cache k.2 := ⟨confirmed, amountBase, hconfirmation, hdone, hamount⟩
    cases hfault : d.fault with
    | some e =>
      have hno : ¬ d.Settles cache event k total fee L := by
        intro hs
        have hnone := hs.2.1
        rw [hfault] at hnone
        cases hnone
      refine herror rfl hno ⟨fun hfinal => ?_, ?_⟩
      · exact ⟨hconfirms, hfinal.2, by rw [hfault]; simpa using hfinal.1,
          fun hnone => by rw [hfault] at hnone; cases hnone⟩
      · rintro ⟨-, hrecorded, hlasting, -⟩
        rw [hfault] at hlasting
        exact ⟨by simpa using hlasting, hrecorded⟩
    | none =>
      by_cases hcan : CanClose cache event k total fee L
      · have hready := hcan
        rw [← hkey, ← hsent, ← hfeeBase] at hready
        obtain ⟨M, hM⟩ := hready.settles id withdrawalId amountBase
        obtain ⟨-, hclosed, hsettled⟩ := settleBlock_commits hM
        rw [hkey, hsent] at hclosed
        have hM' : settleOrFail (settleBlock cache event id transaction withdrawalId withdrawal
            amountBase) withdrawalId d.recorded L = M := settleOrFail_commits hM
        have hfoundM := findWithdrawal_modify hfound hsettled.withdrawals (fun w => ⟨rfl, rfl⟩)
          (t := _) (by rw [hsettled.transactions, Table.lookup_modify_self, htransaction]; rfl)
        refine .inl ⟨⟨hconfirms, hfault, hcan⟩, ?_, ?_⟩
        · rw [hM']
          exact hclosed
        · rw [hM']
          refine ⟨_, _, _, _, hfoundM, ?_⟩
          cases event <;> simp
      · cases hx : settleBlock cache event id transaction withdrawalId withdrawal amountBase L with
        | ok p =>
          obtain ⟨u, M⟩ := p
          have hclose := (settleBlock_commits hx).1
          rw [hkey, hsent, hfeeBase] at hclose
          exact absurd hclose hcan
        | error e =>
          obtain ⟨message, rfl⟩ := settleBlock_throws _ _ _ _ _ _ _ hx
          refine herror hx (fun hs => hcan hs.2.2) ⟨fun hfinal => ?_, fun hs => ⟨by simp, hs.2.1⟩⟩
          exact ⟨hconfirms, hfinal.2, by rw [hfault]; simp, fun _ => hcan⟩
  · refine .inr (.inr ⟨fun hs => hconfirms hs.1, fun hs => hconfirms hs.1, ?_⟩)
    cases hconfirmation : d.confirmation with
    | none => simp [handleConfirmedWithdrawal, hfound, hopen, htotal, hconfirmation]
    | some confirmed =>
      cases hdone : confirmed.done with
      | false => simp [handleConfirmedWithdrawal, hfound, hopen, htotal, hconfirmation, hdone]
      | true =>
        cases hamount : confirmedAmount cache confirmed withdrawal.currency with
        | error message =>
          simp [handleConfirmedWithdrawal, hfound, hopen, htotal, hconfirmation, hdone, hamount]
        | ok amountBase =>
          rw [hcurrency] at hamount
          exact absurd ⟨confirmed, amountBase, hconfirmation, hdone, hamount⟩ hconfirms

theorem Delivery.Strands.not_settles {d : Delivery} (h : d.Strands cache event k total fee L) :
    ¬ d.Settles cache event k total fee L := fun hs => h.2.2.2 hs.2.1 hs.2.2

theorem closed_of_same_books {M : Ledger} (h : M.toBooks = L.toBooks) :
    Closed event k total L M ↔ total = 0 := by
  obtain ⟨hbase, hreserved, hcompany⟩ := Ledger.balances_of_books h k k.2
  constructor
  · intro hclosed
    have hr := hclosed.reserved
    omega
  · rintro rfl
    refine ⟨?_, by simp [hreserved], by simp [hcompany]⟩
    cases event <;> simp [hbase]

/-- The reservations end closed exactly when some delivery can settle and none before it strands
them (or when nothing was reserved). -/
theorem Pending.closed_iff (h : Pending reference withdrawalId id k total fee L)
    (ds : List Delivery) :
    Closed event k total L (Run.final (handleConfirmedWithdrawal cache event reference) L ds) ↔
      total = 0 ∨ ∃ earlier d later, ds = earlier ++ d :: later ∧
        (∀ c ∈ earlier, ¬ c.Strands cache event k total fee L) ∧
        d.Settles cache event k total fee L := by
  induction ds with
  | nil =>
    rw [Run.final, closed_of_same_books rfl]
    simp
  | cons d ds ih =>
    rw [Run.final]
    rcases h.delivery_cases d with ⟨hsettles, hclosed, hterminal⟩ |
      ⟨hstrands, hbooks, hterminal⟩ | ⟨hno, hnot, hsame⟩
    · rw [hterminal.final]
      exact iff_of_true hclosed (.inr ⟨[], d, ds, rfl, by simp, hsettles⟩)
    · rw [hterminal.final, closed_of_same_books hbooks]
      refine ⟨.inl, fun hor => hor.resolve_right ?_⟩
      rintro ⟨earlier, c, later, hds, hearlier, hsettles⟩
      cases earlier with
      | nil =>
        cases hds
        exact hstrands.not_settles hsettles
      | cons b earlier =>
        cases hds
        exact hearlier d (by simp) hstrands
    · rw [hsame, ih]
      refine or_congr_right ⟨?_, ?_⟩
      · rintro ⟨earlier, c, later, rfl, hearlier, hsettles⟩
        refine ⟨d :: earlier, c, later, rfl, fun b hb => ?_, hsettles⟩
        rcases List.mem_cons.mp hb with rfl | hb
        · exact hnot
        · exact hearlier b hb
      · rintro ⟨earlier, c, later, hds, hearlier, hsettles⟩
        cases earlier with
        | nil =>
          cases hds
          exact absurd hsettles hno
        | cons b earlier =>
          cases hds
          exact ⟨earlier, c, later, rfl, fun b hb => hearlier b (by simp [hb]), hsettles⟩

end Runs

end WithdrawalWebhook

namespace WithdrawalService

open WithdrawalWebhook

def Confirm.key (q : Confirm) : WalletKey := (q.userId, q.currency)

theorem createWithdrawal_commits {withdrawalId : WithdrawalId} {row : Withdrawal} {L M : Ledger}
    {u : Unit} :
    (createWithdrawal withdrawalId row).Commits L u M ↔
      L.withdrawals.lookup withdrawalId = none ∧
        { L with withdrawals := L.withdrawals.insert withdrawalId row } = M := by
  simp [createWithdrawal]

theorem confirmBlock_pending {q : Confirm} {id : TransactionId} {withdrawalId : WithdrawalId}
    {L M : Ledger} (h : (confirmBlock q id withdrawalId).Commits L .reserved M) :
    Pending q.previewId withdrawalId id q.key q.total q.platformFee M := by
  simp only [confirmBlock, commits_requireMinimum_bind, commits_read_bind] at h
  replace h := h.2
  split at h
  · simp at h
  · simp only [commits_bind, insertTransaction_commits, createWithdrawal_commits] at h
    obtain ⟨_, A, -, _, _, ⟨-, -, rfl⟩, reserved, B, hreserve, _, _, ⟨-, rfl⟩, h⟩ := h
    have htransactions := congrArg Ledger.transactions
      (reserveLiquidity_onBalances _ _ _ _ _ _ rfl hreserve)
    change B.transactions = A.transactions.insert id q.transaction at htransactions
    split at h
    · rw [← (commits_pure.mp h).2]
      refine ⟨q.withdrawal id reserved, q.transaction,
        findWithdrawal_eq_some.mpr ⟨?_, AList.lookup_insert _, rfl, ?_⟩, rfl, rfl, ?_, rfl, rfl⟩
      · simp [Ledger.withdrawalByReference, AList.entries_insert, Confirm.withdrawal]
      · show B.transactions.lookup id = _
        rw [htransactions, AList.lookup_insert]
      · unfold Confirm.withdrawal
        dsimp only
        split
        · decide
        · decide
    · obtain ⟨_, C, -, hqueued⟩ := commits_bind.mp h
      simp at hqueued

/-- What follows a confirmation: the provider takes the withdrawal, or has not answered yet. -/
def afterProvider (id : TransactionId) (withdrawalId : WithdrawalId) (L : Ledger) :
    Option Reference → Ledger
  | some providerWithdrawalId => (recordBlock id withdrawalId providerWithdrawalId).commit L
  | none => L

theorem afterProvider_pending {reference : Reference} {withdrawalId : WithdrawalId}
    {id : TransactionId} {k : WalletKey} {total fee : Nat} {L : Ledger}
    (h : Pending reference withdrawalId id k total fee L) (provider : Option Reference) :
    Pending reference withdrawalId id k total fee (afterProvider id withdrawalId L provider) := by
  cases provider with
  | none => exact h
  | some providerWithdrawalId =>
    obtain ⟨withdrawal, transaction, hfound, hcurrency, huser, hopen, htotal, hfee⟩ := h.found
    obtain ⟨-, -, -, htransaction⟩ := findWithdrawal_eq_some.mp hfound
    have hrow : (afterProvider id withdrawalId L (some providerWithdrawalId)).transactions.lookup
        id = some { transaction with transactionUniqueId := providerWithdrawalId } := by
      show (L.transactions.modify id _).lookup id = _
      rw [Table.lookup_modify_self, htransaction]
      rfl
    exact ⟨_, _, findWithdrawal_modify hfound rfl (fun w => ⟨rfl, rfl⟩) hrow, hcurrency, huser,
      hopen, htotal, hfee⟩

/-- For every withdrawal that `confirmSend` reserves, and every sequence of deliveries of its
outcome with every fault: both reservations end closed, once, exactly when some delivery is
confirmed by the provider as done, runs without a fault and finds the reservations, and no earlier
one fails for good and is recorded as failed (or when the total was zero). -/
theorem withdrawal_closed_iff (cache : ConvertCurrency.DefaultNetworkCache)
    (event : WithdrawalWebhook.Event) {q : Confirm} {id : TransactionId}
    {withdrawalId : WithdrawalId} {L₀ L₁ : Ledger}
    (hconfirm : (confirmBlock q id withdrawalId).Commits L₀ .reserved L₁)
    (provider : Option Reference) (ds : List Delivery) :
    let L := afterProvider id withdrawalId L₁ provider
    Closed event q.key q.total L
        (Run.final (handleConfirmedWithdrawal cache event q.previewId) L ds) ↔
      q.total = 0 ∨ ∃ earlier d later, ds = earlier ++ d :: later ∧
        (∀ c ∈ earlier, ¬ c.Strands cache event q.key q.total q.platformFee L) ∧
        d.Settles cache event q.key q.total q.platformFee L :=
  (afterProvider_pending (confirmBlock_pending hconfirm) provider).closed_iff ds

/-- User 1's BTC wallet, and a company whose internal balance is `internal`. -/
def beforeSend (internal : Int) : Ledger :=
  { Ledger.empty with
    wallets := (∅ : Table WalletKey Wallet).insert (1, .btc)
      { Wallet.empty with baseBalance := 1000, defaultNetwork := some .btc }
    companyLiquidity := (∅ : Table Currency CompanyLiquidity).insert .btc
      { CompanyLiquidity.empty with totalBalance := 5000, internalBalance := internal } }

def send : Confirm := ⟨1, .btc, 12, 980, 10, 10, some .btc, some .btc, 6⟩

def sent (internal : Int) : Ledger := (confirmBlock send 2 1).commit (beforeSend internal)

/-- A delivery that the provider confirms as done. -/
def confirmedDone : Delivery where
  confirmation := some ⟨true, ['0', '.', '0', '0', '0', '0', '0', '9', '9'], none⟩
  fault := none
  recorded := true

/-- A transient fault is retried, and the retry closes the reservations. -/
theorem retry_closes_reservations :
    Closed .successful send.key send.total (afterProvider 2 1 (sent 1000) (some 31))
      (Run.final (handleConfirmedWithdrawal (fun _ => none) .successful send.previewId)
        (afterProvider 2 1 (sent 1000) (some 31))
        [{ confirmedDone with fault := some (.database true) }, confirmedDone]) := by
  have hconfirm : (confirmBlock send 2 1).result (beforeSend 1000) = some .reserved := by
    decide +kernel
  have hcloses : (closeReservations (fun _ => none) .successful send.transaction
      (send.withdrawal 2 true)).result (afterProvider 2 1 (sent 1000) (some 31)) = some () := by
    decide +kernel
  have hamount : confirmedAmount (fun _ => none)
      ⟨true, ['0', '.', '0', '0', '0', '0', '0', '9', '9'], none⟩ .btc = .ok 990 := by
    decide +kernel
  refine (withdrawal_closed_iff (fun _ => none) .successful (result_eq_some.mp hconfirm) (some 31)
    _).mpr (.inr ⟨[{ confirmedDone with fault := some (.database true) }], confirmedDone, [], rfl,
      ?_, ⟨_, 990, rfl, rfl, hamount⟩, rfl, (closeReservations_closed
        (result_eq_some.mp hcloses)).1⟩)
  intro c hc hstrands
  rw [List.mem_singleton] at hc
  subst hc
  exact hstrands.2.2.1 rfl

/-- The internal balance is short, so the block throws; the withdrawal becomes FAILED with the
funds still reserved, and later deliveries are skipped. -/
theorem failed_withdrawal_keeps_reserved :
    ¬ ∀ (cache : ConvertCurrency.DefaultNetworkCache) (event : WithdrawalWebhook.Event)
      (q : Confirm) (id : TransactionId) (withdrawalId : WithdrawalId) (L₀ L₁ : Ledger)
      (provider : Option Reference) (ds : List Delivery),
      (confirmBlock q id withdrawalId).Commits L₀ .reserved L₁ →
      (((Run.final (handleConfirmedWithdrawal cache event q.previewId)
        (afterProvider id withdrawalId L₁ provider) ds).withdrawals.lookup withdrawalId).any
          (fun w => w.status = .SUCCESS ∨ w.status = .FAILED)) = true →
      Closed event q.key q.total (afterProvider id withdrawalId L₁ provider)
        (Run.final (handleConfirmedWithdrawal cache event q.previewId)
          (afterProvider id withdrawalId L₁ provider) ds) := by
  intro h
  have hconfirm : (confirmBlock send 2 1).result (beforeSend 0) = some .reserved := by
    decide +kernel
  have hstatus : (((Run.final (handleConfirmedWithdrawal (fun _ => none) .successful
      send.previewId) (afterProvider 2 1 (sent 0) (some 31))
        [confirmedDone, confirmedDone]).withdrawals.lookup 1).any
          (fun w => w.status = .SUCCESS ∨ w.status = .FAILED)) = true := by
    decide +kernel
  have hreserved : (Run.final (handleConfirmedWithdrawal (fun _ => none) .successful
      send.previewId) (afterProvider 2 1 (sent 0) (some 31))
        [confirmedDone, confirmedDone]).reservedBalance send.key = 1000 := by
    decide +kernel
  have hbefore : (afterProvider 2 1 (sent 0) (some 31)).reservedBalance send.key = 1000 := by
    decide +kernel
  have hclosed := (h (fun _ => none) .successful send 2 1 _ _ (some 31)
    [confirmedDone, confirmedDone] (result_eq_some.mp hconfirm) hstatus).reserved
  have htotal : (send.total : Int) = 1000 := by decide
  change _ = (afterProvider 2 1 (sent 0) (some 31)).reservedBalance send.key - _ at hclosed
  rw [hbefore, htotal] at hclosed
  exact absurd (hreserved.symm.trans hclosed) (by decide)

end WithdrawalService

end ExchangeLedger
