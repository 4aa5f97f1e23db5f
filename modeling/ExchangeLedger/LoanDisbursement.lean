import ExchangeLedger.PayoutTransfers

set_option autoImplicit false

/-! The webhooks that move an urgent-liquidity loan: the provider's `order.done` for the sale of
its collateral, and Paystack's reports on its payout transfer. -/

namespace ExchangeLedger

open Block

/-- `urgentLiquidityLoan.findFirst({ where: { paystackTransferId } })`. -/
def Ledger.loanByTransferId (L : Ledger) (reference : Reference) : Option LoanId :=
  (L.loans.entries.find? (fun e => e.2.paystackTransferId = some reference)).map Sigma.fst

namespace UrgentLiquidity

inductive Webhook where
  /-- `transfer` is the reference that Paystack's calls end with, if they succeed. -/
  | orderDone (e : OrderDone.Event) (transfer : Option Reference)
  | transferSuccess (reference : Reference)
  /-- `transfer.failed` and `transfer.reversed`. -/
  | transferFailure (reference : Reference)
  deriving DecidableEq, Repr

/-- What a webhook does to the loans; events of the users' own orders leave them alone. -/
def webhookStep (cache : ConvertCurrency.DefaultNetworkCache) : Webhook → Ledger → Ledger
  | .orderDone e transfer, L =>
    match OrderDone.process cache L e with
    | .ok (.payLoan id) => (payoutBlock cache id e transfer).commit L
    | .ok (.failLoan id) => (saleFailedBlock id).commit L
    | _ => L
  | .transferSuccess reference, L =>
    match L.sellByPaymentReference reference, L.loanByTransferId reference with
    | none, some id => (PayoutStatus.loanTransferSuccessBlock id).commit L
    | _, _ => L
  | .transferFailure reference, L =>
    match L.orderByPaymentReference reference, L.loanByTransferId reference with
    | none, some id => (PayoutStatus.loanTransferFailureBlock id).commit L
    | _, _ => L

/-- A loan as its request leaves it. -/
def Requested (loan : UrgentLiquidityLoan) : Prop :=
  loan.paystackTransferId = none ∧ (loan.status = .PENDING ∨ loan.status = .FAILED)

/-- The webhook reports the payout transfer of a loan as successful. -/
def ReportsPayout (L : Ledger) (w : Webhook) (id : LoanId) : Prop :=
  ∃ loan reference, L.loans.lookup id = some loan ∧ loan.paystackTransferId = some reference ∧
    w = .transferSuccess reference

/-- Every loan that the webhook reports as paid out is DISBURSED by it. -/
def Disburses (cache : ConvertCurrency.DefaultNetworkCache) (L : Ledger) (w : Webhook) : Prop :=
  ∀ id, ReportsPayout L w id →
    PayoutStatus.loanStatus (webhookStep cache w L) id = some .DISBURSED

/-! ### No loan is disbursed -/

/-- No loan has a status that leads to DISBURSED. -/
def Undisbursed (L : Ledger) : Prop :=
  ∀ id loan, L.loans.lookup id = some loan →
    loan.status ≠ .QUIDAX_COMPLETED ∧ loan.status ≠ .DISBURSED

theorem undisbursed_modify {L : Ledger} (hL : Undisbursed L) (id : LoanId)
    {f : UrgentLiquidityLoan → UrgentLiquidityLoan}
    (hf : ∀ l, (f l).status ≠ .QUIDAX_COMPLETED ∧ (f l).status ≠ .DISBURSED) :
    Undisbursed { L with loans := L.loans.modify id f } := by
  intro j loan hj
  rw [Table.lookup_modify] at hj
  split at hj
  · obtain ⟨l, -, rfl⟩ := Option.map_eq_some_iff.mp hj
    exact hf l
  · exact hL j loan hj

theorem payoutBlock_loans {cache : ConvertCurrency.DefaultNetworkCache} {id : LoanId}
    {e : OrderDone.Event} {transfer : Option Reference} {L M : Ledger}
    {paid : Option (UrgentLiquidityLoan × OrderDone.ExecutedAmounts)}
    (h : (payoutBlock cache id e transfer).Commits L paid M) :
    (paid = none ∧ M = L) ∨ ∃ loan reference, L.loans.lookup id = some loan ∧
      M.loans = (L.loans.modify id (fun l => { l with status := .QUIDAX_COMPLETED })).modify id
        (fun l => { l with
          status := .PAYSTACK_COMPLETED, paystackTransferId := some reference }) := by
  simp only [payoutBlock, commits_read_bind, commits_demand_bind] at h
  obtain ⟨fresh, hloan, h⟩ := h
  cases hx : OrderDone.loanExecution cache fresh e with
  | error message => simp [hx] at h
  | ok found =>
    cases found with
    | none =>
      simp only [hx, commits_pure] at h
      exact .inl ⟨h.1.symm, h.2.symm⟩
    | some amounts =>
      simp only [hx, commits_bind, commits_read, commits_demand, PayoutStatus.updateLoan,
        commits_update, commits_pure] at h
      obtain ⟨_, A, hsubtract, _, B, hadd, _, _, ⟨rfl, rfl⟩, _, C, hdebit, _, D, hhold, _, E,
        hrestate, _, _, rfl, reference, _, ⟨-, rfl⟩, _, _, rfl, rfl, rfl⟩ := h
      -- up to the loan's own updates only balances change
      have hkeeps {α : Type} {x : LedgerBlock α} (hx : OnBalances x) :
          Preserves (fun N => N.loans = L.loans) x := hx.preserves fun _ => Iff.rfl
      have hA := hkeeps (subtractInternalBalance_onBalances _ _) _ _ _ rfl hsubtract
      have hB : B.loans = L.loans := by
        rw [← commits_update.mp hadd]
        exact hA
      have hC := hkeeps (mustUpdateWallet_onBalances _ _ _ _) _ _ _ hB hdebit
      have hD := hkeeps (mustUpdateWallet_onBalances _ _ _ _) _ _ _ hC hhold
      have hE := hkeeps (restateOriginalBalance_onBalances _ _ _) _ _ _ hD hrestate
      refine .inr ⟨fresh, reference, hloan, ?_⟩
      rw [← hE]

theorem Undisbursed.payout {cache : ConvertCurrency.DefaultNetworkCache} {id : LoanId}
    {e : OrderDone.Event} {transfer : Option Reference} :
    Preserves Undisbursed (payoutBlock cache id e transfer) := by
  intro L paid M hL h
  rcases payoutBlock_loans h with ⟨-, rfl⟩ | ⟨_, reference, -, hloans⟩
  · exact hL
  · intro j loan hj
    rw [hloans] at hj
    by_cases hid : j = id
    · subst hid
      simp only [Table.lookup_modify_self, Option.map_map, Option.map_eq_some_iff] at hj
      obtain ⟨l, -, rfl⟩ := hj
      simp
    · rw [Table.lookup_modify_ne _ _ hid, Table.lookup_modify_ne _ _ hid] at hj
      exact hL j loan hj

theorem payoutBlock_status {cache : ConvertCurrency.DefaultNetworkCache} {id : LoanId}
    {e : OrderDone.Event} {transfer : Option Reference} {L M : Ledger}
    {paid : UrgentLiquidityLoan × OrderDone.ExecutedAmounts}
    (h : (payoutBlock cache id e transfer).Commits L (some paid) M) :
    PayoutStatus.loanStatus M id = some .PAYSTACK_COMPLETED := by
  rcases payoutBlock_loans h with ⟨hnone, -⟩ | ⟨loan, reference, hloan, hloans⟩
  · cases hnone
  · simp [PayoutStatus.loanStatus, hloans, hloan]

theorem loanTransferSuccessBlock_commit {L : Ledger} {id : LoanId}
    (h : PayoutStatus.loanStatus L id ≠ some .QUIDAX_COMPLETED) :
    (PayoutStatus.loanTransferSuccessBlock id).commit L = L := by
  refine commit_of_commits (a := ()) ?_
  simp [PayoutStatus.loanTransferSuccessBlock, onlyIf, h]

theorem Undisbursed.status {L : Ledger} (hL : Undisbursed L) (id : LoanId) :
    PayoutStatus.loanStatus L id ≠ some .QUIDAX_COMPLETED ∧
      PayoutStatus.loanStatus L id ≠ some .DISBURSED := by
  constructor
  · intro h
    obtain ⟨loan, hloan, hstatus⟩ := Option.map_eq_some_iff.mp h
    exact (hL id loan hloan).1 hstatus
  · intro h
    obtain ⟨loan, hloan, hstatus⟩ := Option.map_eq_some_iff.mp h
    exact (hL id loan hloan).2 hstatus

theorem Undisbursed.step {L : Ledger} (hL : Undisbursed L)
    (cache : ConvertCurrency.DefaultNetworkCache) (w : Webhook) :
    Undisbursed (webhookStep cache w L) := by
  cases w with
  | orderDone e transfer =>
    simp only [webhookStep]
    split
    · exact Undisbursed.payout.commit hL
    · refine Preserves.commit ?_ hL
      refine preserves_bind (preserves_read _) fun _ => preserves_onlyIf ?_
      exact preserves_update fun M hM => undisbursed_modify hM _ fun l => by simp
    · exact hL
  | transferSuccess reference =>
    simp only [webhookStep]
    split
    · rw [loanTransferSuccessBlock_commit (hL.status _).1]
      exact hL
    · exact hL
  | transferFailure reference =>
    simp only [webhookStep]
    split
    · refine Preserves.commit ?_ hL
      refine preserves_bind (preserves_read _) fun _ => preserves_onlyIf ?_
      exact preserves_update fun M hM => undisbursed_modify hM _ fun l => by simp
    · exact hL

theorem undisbursed_of_requested {L : Ledger}
    (hL : ∀ id loan, L.loans.lookup id = some loan → Requested loan) : Undisbursed L := by
  intro id loan hid
  obtain ⟨-, hstatus | hstatus⟩ := hL id loan hid
  · simp [hstatus]
  · simp [hstatus]

theorem Undisbursed.disburses_iff {L : Ledger} (hL : Undisbursed L)
    (cache : ConvertCurrency.DefaultNetworkCache) (w : Webhook) :
    Disburses cache L w ↔ ∀ id, ¬ ReportsPayout L w id := by
  constructor
  · intro h id hid
    exact ((hL.step cache w).status id).2 (h id hid)
  · intro h id hid
    exact absurd hid (h id)

/-- No payout leaves its loan in a status from which a report of its success disburses it, and no
loan is DISBURSED. -/
structure NeverDisbursed (cache : ConvertCurrency.DefaultNetworkCache) (L : Ledger) : Prop where
  status : ∀ id, PayoutStatus.loanStatus L id ≠ some .DISBURSED
  payout : ∀ id e transfer paid M, (payoutBlock cache id e transfer).Commits L (some paid) M →
    (PayoutStatus.loanTransferSuccessBlock id).commit M = M

/-- In every run of webhooks on loans as they were requested no loan is ever DISBURSED, so that
every report disburses what it reports exactly in the runs that report no payout. -/
theorem loans_disbursed_iff (cache : ConvertCurrency.DefaultNetworkCache) {L : Ledger}
    (hL : ∀ id loan, L.loans.lookup id = some loan → Requested loan) (events : List Webhook) :
    Run.Throughout (webhookStep cache) (NeverDisbursed cache) L events ∧
    (Run.Along (webhookStep cache) (Disburses cache) L events ↔
      Run.Along (webhookStep cache) (fun M w => ∀ id, ¬ ReportsPayout M w id) L events) := by
  have hstart := undisbursed_of_requested hL
  have hkeeps (M : Ledger) (w : Webhook) (hM : Undisbursed M) :
      Undisbursed (webhookStep cache w M) := hM.step cache w
  constructor
  · refine (Run.throughout_of_step hkeeps hstart events).mono fun M hM => ?_
    constructor
    · exact fun id => (hM.status id).2
    · intro id e transfer paid N h
      exact loanTransferSuccessBlock_commit (by simp [payoutBlock_status h])
  · exact Run.along_congr hkeeps (fun M w hM => hM.disburses_iff cache w) hstart

/-- The loan's collateral is sold, its payout is accepted and then reported as paid. -/
def paidOut : List Webhook :=
  [.orderDone { OrderDone.executedAt ['1', '2', '3', '0'] with reference := 8 } (some 14),
    .transferSuccess 14]

theorem paidOut_never_disbursed :
    Run.Throughout (webhookStep (fun _ => none)) (NeverDisbursed (fun _ => none)) payablePair
        paidOut ∧
      (Run.Along (webhookStep (fun _ => none)) (Disburses (fun _ => none)) payablePair paidOut ↔
        Run.Along (webhookStep (fun _ => none)) (fun M w => ∀ id, ¬ ReportsPayout M w id)
          payablePair paidOut) := by
  refine loans_disbursed_iff (fun _ => none) ?_ paidOut
  intro id loan h
  have hrow : payablePair.loans = (∅ : Table LoanId UrgentLiquidityLoan).insert 1
      { userId := 1, collateralAsset := .btc, loanAmount := 100, quidaxSwapId := some 8
        paystackTransferId := none, status := .PENDING } := rfl
  rw [hrow, Table.lookup_insert] at h
  split at h
  · cases h
    exact ⟨rfl, .inl rfl⟩
  · cases h

/-- The loan stays PAYSTACK_COMPLETED. -/
theorem paidOut_not_disbursed :
    ¬ Run.Along (webhookStep (fun _ => none)) (Disburses (fun _ => none)) payablePair paidOut := by
  intro h
  have hnamed : ((webhookStep (fun _ => none)
      (.orderDone { OrderDone.executedAt ['1', '2', '3', '0'] with reference := 8 } (some 14))
      payablePair).loans.lookup 1).bind UrgentLiquidityLoan.paystackTransferId = some 14 := by
    decide +kernel
  obtain ⟨loan, hloan, hreference⟩ := Option.bind_eq_some_iff.mp hnamed
  have hdisbursed := h.2.1 1 ⟨loan, 14, hloan, hreference, rfl⟩
  have hstatus : PayoutStatus.loanStatus (Run.final (webhookStep (fun _ => none)) payablePair
      paidOut) 1 = some .PAYSTACK_COMPLETED := by decide +kernel
  change PayoutStatus.loanStatus (Run.final (webhookStep (fun _ => none)) payablePair paidOut) 1 =
    some .DISBURSED at hdisbursed
  rw [hstatus] at hdisbursed
  cases hdisbursed

end UrgentLiquidity

end ExchangeLedger
