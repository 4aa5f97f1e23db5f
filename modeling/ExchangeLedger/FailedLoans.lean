import ExchangeLedger.LoanDisbursement
import Mathlib.Algebra.Group.Pi.Basic
import Mathlib.Algebra.Group.Prod

set_option autoImplicit false

/-! What an urgent-liquidity loan that fails has left of the balances: the events of one loan, in
between whatever else happens to the ledger. -/

namespace ExchangeLedger

open Block

namespace FailedLoans

open UrgentLiquidity

/-- The balances that a payout moves: the wallet's own, its collateral, and the internal balance of
every currency. -/
abbrev LoanBalances := Int × Int × (Currency → Int)

def balances (k : WalletKey) (L : Ledger) : LoanBalances :=
  (L.baseBalance k, (L.wallets.lookup k).elim 0 Wallet.loanCollateralAmount, L.internalBalance)

inductive LoanEvent (id : LoanId) where
  | webhook (w : Webhook)
  /-- The sell order of the confirmation is placed. -/
  | placed (quidaxSwapId : Reference)
  /-- Placing it throws, or recording it does. -/
  | placementFailed
  /-- Anything else, to other loans as well. -/
  | elsewhere (f : Ledger → Ledger) (h : ∀ L, (f L).loans.lookup id = L.loans.lookup id)

/-- The end of `confirm`. -/
def confirmBlock (id : LoanId) (quidaxSwapId : Option Reference) : LedgerBlock Unit :=
  PayoutStatus.updateLoan id fun l => match quidaxSwapId with
    | some reference => { l with quidaxSwapId := some reference }
    | none => { l with status := .FAILED }

section Run

variable (cache : ConvertCurrency.DefaultNetworkCache) {id : LoanId}

def loanStep : LoanEvent id → Ledger → Ledger
  | .webhook w, L => webhookStep cache w L
  | .placed reference, L => (confirmBlock id (some reference)).commit L
  | .placementFailed, L => (confirmBlock id none).commit L
  | .elsewhere f _, L => f L

/-- The webhook is dealt with as one of this loan. -/
def Concerns (id : LoanId) (L : Ledger) : Webhook → Prop
  | .orderDone e _ =>
    OrderDone.process cache L e = .ok (.payLoan id) ∨
      OrderDone.process cache L e = .ok (.failLoan id)
  | .transferSuccess reference | .transferFailure reference =>
    L.loanByTransferId reference = some id

instance (L : Ledger) (w : Webhook) : Decidable (Concerns cache id L w) :=
  match w with
  | .orderDone _ _ => inferInstanceAs (Decidable (_ ∨ _))
  | .transferSuccess _ | .transferFailure _ => inferInstanceAs (Decidable (_ = _))

/-- The event is one of this loan. -/
def Own (L : Ledger) : LoanEvent id → Prop
  | .webhook w => Concerns cache id L w
  | .placed _ | .placementFailed => True
  | .elsewhere _ _ => False

instance (L : Ledger) (a : LoanEvent id) : Decidable (Own cache L a) :=
  match a with
  | .webhook w => inferInstanceAs (Decidable (Concerns cache id L w))
  | .placed _ | .placementFailed => inferInstanceAs (Decidable True)
  | .elsewhere _ _ => inferInstanceAs (Decidable False)

/-- What an event of the loan itself changes in the balances of the wallet `k` and the company. -/
def ownEffect (k : WalletKey) (L : Ledger) (a : LoanEvent id) : LoanBalances :=
  if Own cache L a then balances k (loanStep cache a L) - balances k L else 0

/-- The event is a payout step that goes through. -/
def PaysOut (L : Ledger) : LoanEvent id → Prop
  | .webhook (.orderDone e transfer) =>
    OrderDone.process cache L e = .ok (.payLoan id) ∧
      ∃ paid M, (payoutBlock cache id e transfer).Commits L (some paid) M
  | _ => False

variable {cache}

theorem payoutBlock_commits_none {j : LoanId} {e : OrderDone.Event} {transfer : Option Reference}
    {L M : Ledger} (h : (payoutBlock cache j e transfer).Commits L none M) : M = L := by
  simp only [payoutBlock, commits_read_bind, commits_demand_bind] at h
  obtain ⟨fresh, -, h⟩ := h
  cases hx : OrderDone.loanExecution cache fresh e with
  | error message => simp [hx] at h
  | ok found =>
    cases found with
    | none =>
      simp only [hx, commits_pure] at h
      exact h.2.symm
    | some amounts =>
      simp only [hx, commits_bind, commits_read, commits_demand, PayoutStatus.updateLoan,
        commits_update, commits_pure] at h
      obtain ⟨_, _, -, _, _, -, _, _, ⟨rfl, rfl⟩, _, _, -, _, _, -, _, _, -, _, _, rfl, _, _,
        ⟨-, rfl⟩, _, _, rfl, hnone, -⟩ := h
      cases hnone

theorem payoutBlock_commit_cases (cache : ConvertCurrency.DefaultNetworkCache) (j : LoanId)
    (e : OrderDone.Event) (transfer : Option Reference) (L : Ledger) :
    (payoutBlock cache j e transfer).commit L = L ∨
      ∃ paid, (payoutBlock cache j e transfer).Commits L (some paid)
        ((payoutBlock cache j e transfer).commit L) := by
  rcases (payoutBlock cache j e transfer).commit_cases L with hsame | ⟨paid, h⟩
  · exact .inl hsame
  · cases paid with
    | none => exact .inl (payoutBlock_commits_none h)
    | some paid => exact .inr ⟨paid, h⟩

/-- The block moves the loan on from PENDING to a later status, or does nothing. -/
def SetsStatus (j : LoanId) (x : LedgerBlock Unit) : Prop :=
  ∀ L, x.commit L = L ∨ ∃ status, status ≠ .PENDING ∧ x.commit L =
    { L with loans := L.loans.modify j (fun l => { l with status := status }) }

theorem onlyIf_sets {α : Type} (j : LoanId) {status : UrgentLiquidityLoanStatus}
    (hstatus : status ≠ .PENDING) (f : Ledger → α) (p : α → Prop) [DecidablePred p] :
    SetsStatus j (read f >>= fun fresh => onlyIf (p fresh)
      (PayoutStatus.updateLoan j fun l => { l with status := status })) := by
  intro L
  rcases Block.commit_cases _ L with hsame | ⟨u, h⟩
  · exact .inl hsame
  · rw [commits_read_bind, commits_onlyIf, PayoutStatus.updateLoan, commits_update] at h
    rcases h with ⟨-, h⟩ | ⟨-, h⟩
    · exact .inr ⟨status, hstatus, h.symm⟩
    · exact .inl h.symm

theorem saleFailedBlock_sets (j : LoanId) : SetsStatus j (saleFailedBlock j) :=
  onlyIf_sets j (by decide) _ _

theorem loanTransferSuccessBlock_sets (j : LoanId) :
    SetsStatus j (PayoutStatus.loanTransferSuccessBlock j) := onlyIf_sets j (by decide) _ _

theorem loanTransferFailureBlock_sets (j : LoanId) :
    SetsStatus j (PayoutStatus.loanTransferFailureBlock j) := onlyIf_sets j (by decide) _ _

/-! ### The loan's own row -/

/-- The loan belongs to the same wallet, and keeps a transfer once it has one. -/
def Row (id : LoanId) (loan : UrgentLiquidityLoan) (M : Ledger) : Prop :=
  ∃ l, M.loans.lookup id = some l ∧ loanWallet l = loanWallet loan ∧
    (loan.paystackTransferId.isSome = true → l.paystackTransferId.isSome = true)

theorem Row.modify {loan : UrgentLiquidityLoan} {M : Ledger} (h : Row id loan M) (j : LoanId)
    {f : UrgentLiquidityLoan → UrgentLiquidityLoan}
    (hf : ∀ l, loanWallet (f l) = loanWallet l ∧
      (l.paystackTransferId.isSome = true → (f l).paystackTransferId.isSome = true)) :
    Row id loan { M with loans := M.loans.modify j f } := by
  obtain ⟨l, hl, hwallet, hnamed⟩ := h
  by_cases hj : id = j
  · subst hj
    exact ⟨f l, by simp [hl], (hf l).1.trans hwallet, fun hloan => (hf l).2 (hnamed hloan)⟩
  · exact ⟨l, by simp [Table.lookup_modify_ne _ _ hj, hl], hwallet, hnamed⟩

theorem Row.sets {loan : UrgentLiquidityLoan} {M : Ledger} (h : Row id loan M) {j : LoanId}
    {x : LedgerBlock Unit} (hx : SetsStatus j x) : Row id loan (x.commit M) := by
  rcases hx M with hsame | ⟨status, -, hset⟩
  · rw [hsame]
    exact h
  · rw [hset]
    exact h.modify j fun l => ⟨rfl, fun hl => hl⟩

theorem Row.payout {loan : UrgentLiquidityLoan} {j : LoanId} {e : OrderDone.Event}
    {transfer : Option Reference} :
    Preserves (Row id loan) (payoutBlock cache j e transfer) := by
  intro L paid M hL h
  rcases payoutBlock_loans h with ⟨-, rfl⟩ | ⟨_, reference, -, hloans⟩
  · exact hL
  · have hboth := (hL.modify j (f := fun l => { l with status := .QUIDAX_COMPLETED })
      fun l => ⟨rfl, fun hl => hl⟩).modify j (f := fun l => { l with
        status := .PAYSTACK_COMPLETED, paystackTransferId := some reference })
        fun l => ⟨rfl, fun _ => rfl⟩
    obtain ⟨l, hl, hrest⟩ := hboth
    exact ⟨l, by rw [hloans]; exact hl, hrest⟩

theorem Row.step {loan : UrgentLiquidityLoan} {L : Ledger} (h : Row id loan L)
    (a : LoanEvent id) : Row id loan (loanStep cache a L) := by
  cases a with
  | webhook w =>
    cases w with
    | orderDone e transfer =>
      simp only [loanStep, webhookStep]
      split
      · exact Row.payout.commit h
      · exact h.sets (saleFailedBlock_sets _)
      · exact h
    | transferSuccess reference =>
      simp only [loanStep, webhookStep]
      split
      · exact h.sets (loanTransferSuccessBlock_sets _)
      · exact h
    | transferFailure reference =>
      simp only [loanStep, webhookStep]
      split
      · exact h.sets (loanTransferFailureBlock_sets _)
      · exact h
  | placed reference => exact h.modify id fun l => ⟨rfl, fun hl => hl⟩
  | placementFailed => exact h.modify id fun l => ⟨rfl, fun hl => hl⟩
  | elsewhere f hf =>
    obtain ⟨l, hl, hrest⟩ := h
    exact ⟨l, (hf L).trans hl, hrest⟩

/-! ### The balances -/

theorem SetsStatus.balances {j : LoanId} {x : LedgerBlock Unit} (hx : SetsStatus j x)
    (k : WalletKey) (L : Ledger) : balances k (x.commit L) = balances k L := by
  rcases hx L with hsame | ⟨status, -, hset⟩
  · rw [hsame]
  · rw [hset]
    rfl

theorem ownEffect_eq_zero {k : WalletKey} {L : Ledger} {a : LoanEvent id}
    (h : ¬ PaysOut cache L a) : ownEffect cache k L a = 0 := by
  unfold ownEffect
  split
  · rename_i hown
    suffices hsame : balances k (loanStep cache a L) = balances k L by
      rw [hsame]
      exact sub_self (balances k L)
    cases a with
    | webhook w =>
      cases w with
      | orderDone e transfer =>
        simp only [loanStep, webhookStep]
        rcases hown with hpay | hfail
        · rw [hpay]
          rcases payoutBlock_commit_cases cache id e transfer L with hsame | ⟨paid, hpaid⟩
          · exact congrArg (balances k) hsame
          · exact absurd ⟨hpay, paid, _, hpaid⟩ h
        · rw [hfail]
          exact (saleFailedBlock_sets id).balances k L
      | transferSuccess reference =>
        simp only [loanStep, webhookStep]
        split
        · exact (loanTransferSuccessBlock_sets _).balances k L
        · rfl
      | transferFailure reference =>
        simp only [loanStep, webhookStep]
        split
        · exact (loanTransferFailureBlock_sets _).balances k L
        · rfl
    | placed reference => rfl
    | placementFailed => rfl
    | elsewhere f hf => exact hown.elim
  · rfl

theorem loanExecution_open {loan : UrgentLiquidityLoan} {e : OrderDone.Event}
    {amounts : OrderDone.ExecutedAmounts}
    (h : OrderDone.loanExecution cache loan e = .ok (some amounts)) :
    loan.paystackTransferId = none ∧ 0 < amounts.cryptoAmountBase ∧
      0 < amounts.fiatAmountBase := by
  unfold OrderDone.loanExecution at h
  split at h
  · cases h
  · split at h
    · cases h
    · split at h
      · cases h
      · rename_i hname
        cases hx : OrderDone.executedAmounts cache loan.collateralAsset e with
        | error message =>
          rw [hx] at h
          cases h
        | ok found =>
          rw [hx] at h
          simp only [bind, Except.bind] at h
          split at h
          · cases h
          · rename_i hpos
            cases h
            rw [not_or, not_le, not_le] at hpos
            exact ⟨by simpa using hname, hpos⟩

theorem not_paysOut_of_named {L : Ledger} {loan : UrgentLiquidityLoan}
    (hloan : L.loans.lookup id = some loan) (hname : loan.paystackTransferId.isSome = true)
    (a : LoanEvent id) : ¬ PaysOut cache L a := by
  intro h
  cases a with
  | webhook w =>
    cases w with
    | orderDone e transfer =>
      obtain ⟨-, ⟨fresh, amounts⟩, M, hM⟩ := h
      obtain ⟨wallet, text, hpayable, -⟩ := payoutBlock_commits hM
      have hsame := hpayable.loan_found
      rw [hloan] at hsame
      cases hsame
      obtain ⟨hnone, -⟩ := loanExecution_open hpayable.executed
      rw [hnone] at hname
      cases hname
    | transferSuccess reference => exact h
    | transferFailure reference => exact h
  | placed reference => exact h
  | placementFailed => exact h
  | elsewhere f hf => exact h

theorem PaysOut.effect {L : Ledger} {loan : UrgentLiquidityLoan}
    (hloan : L.loans.lookup id = some loan) {a : LoanEvent id} (h : PaysOut cache L a) :
    (ownEffect cache (loanWallet loan) L a).1 < 0 ∧
      ∃ l, (loanStep cache a L).loans.lookup id = some l ∧
        l.paystackTransferId.isSome = true := by
  cases a with
  | webhook w =>
    cases w with
    | orderDone e transfer =>
      obtain ⟨hpay, ⟨fresh, amounts⟩, M, hM⟩ := h
      obtain ⟨wallet, text, hpayable, hwallets⟩ := payoutBlock_commits hM
      have hsame := hpayable.loan_found
      rw [hloan] at hsame
      cases hsame
      have hstep : loanStep cache (.webhook (.orderDone e transfer) : LoanEvent id) L = M := by
        simp only [loanStep, webhookStep, hpay]
        exact commit_of_commits hM
      constructor
      · have hown : Own cache L (.webhook (.orderDone e transfer) : LoanEvent id) :=
          .inl hpay
        obtain ⟨-, hpos, -⟩ := loanExecution_open hpayable.executed
        rw [ownEffect, if_pos hown, hstep]
        simp only [balances, Prod.fst_sub, Ledger.baseBalance, hwallets, AList.lookup_insert,
          hpayable.wallet_found, Option.elim_some, paidWallet]
        omega
      · rw [hstep]
        rcases payoutBlock_loans hM with ⟨hnone, -⟩ | ⟨_, reference, -, hloans⟩
        · cases hnone
        · exact ⟨{ loan with
            status := .PAYSTACK_COMPLETED, paystackTransferId := some reference },
            by simp [hloans, hloan], rfl⟩
    | transferSuccess reference => exact absurd h (fun h => h)
    | transferFailure reference => exact absurd h (fun h => h)
  | placed reference => exact absurd h (fun h => h)
  | placementFailed => exact absurd h (fun h => h)
  | elsewhere f hf => exact absurd h (fun h => h)

theorem accrued_of_named {k : WalletKey} {loan : UrgentLiquidityLoan} {L : Ledger}
    (h : Row id loan L) (hname : loan.paystackTransferId.isSome = true)
    (events : List (LoanEvent id)) :
    Run.accrued (loanStep cache) (ownEffect cache k) L events = 0 := by
  induction events generalizing L with
  | nil => rfl
  | cons a as ih =>
    have hrow := h
    obtain ⟨l, hl, -, hkept⟩ := hrow
    rw [Run.accrued, ih (h.step a), ownEffect_eq_zero (not_paysOut_of_named hl (hkept hname) a),
      add_zero]

/-- The events of the loan leave the balances as they were exactly where none of them is a payout
that goes through. -/
theorem accrued_eq_zero_iff {loan : UrgentLiquidityLoan} {L : Ledger} (h : Row id loan L)
    (events : List (LoanEvent id)) :
    Run.accrued (loanStep cache) (ownEffect cache (loanWallet loan)) L events = 0 ↔
      Run.Along (loanStep cache) (fun M a => ¬ PaysOut cache M a) L events := by
  induction events generalizing L with
  | nil => exact ⟨fun _ => trivial, fun _ => rfl⟩
  | cons a as ih =>
    rw [Run.accrued]
    by_cases hpays : PaysOut cache L a
    · have hrow := h
      obtain ⟨l, hl, hwallet, -⟩ := hrow
      obtain ⟨hbase, paid, hpaid, hname⟩ := hpays.effect hl
      have hrest : Run.accrued (loanStep cache) (ownEffect cache (loanWallet loan))
          (loanStep cache a L) as = 0 :=
        accrued_of_named ⟨paid, hpaid, rfl, fun hn => hn⟩ hname as
      rw [hrest, add_zero, ← hwallet]
      constructor
      · intro hzero
        rw [hzero] at hbase
        exact absurd hbase (lt_irrefl 0)
      · exact fun hall => absurd hpays hall.1
    · rw [ownEffect_eq_zero hpays, zero_add, ih (h.step a)]
      exact ⟨fun hall => ⟨hpays, hall⟩, fun hall => hall.2⟩

end Run

/-- A loan that ends FAILED has left the balances as they were exactly where no payout of it went
through: nothing gives a payout back. -/
theorem failed_loan_restored_iff (cache : ConvertCurrency.DefaultNetworkCache) (id : LoanId)
    (L : Ledger) (loan : UrgentLiquidityLoan) (hloan : L.loans.lookup id = some loan)
    (events : List (LoanEvent id)) :
    (PayoutStatus.loanStatus (Run.final (loanStep cache) L events) id = some .FAILED →
      Run.accrued (loanStep cache) (ownEffect cache (loanWallet loan)) L events = 0) ↔
    (PayoutStatus.loanStatus (Run.final (loanStep cache) L events) id = some .FAILED →
      Run.Along (loanStep cache) (fun M a => ¬ PaysOut cache M a) L events) := by
  rw [accrued_eq_zero_iff ⟨loan, hloan, rfl, fun hn => hn⟩]

/-- The sale of the collateral fails. -/
def saleFailed : List (LoanEvent 1) :=
  [.webhook (.orderDone { OrderDone.executedAt ['1', '2', '3', '0'] with
    reference := 8, status := .cancelled } none)]

theorem saleFailed_restored :
    (PayoutStatus.loanStatus (Run.final (loanStep fun _ => none) payablePair saleFailed) 1 =
        some .FAILED →
      Run.accrued (loanStep fun _ => none) (ownEffect (fun _ => none) (1, .btc)) payablePair
        saleFailed = 0) ↔
    (PayoutStatus.loanStatus (Run.final (loanStep fun _ => none) payablePair saleFailed) 1 =
        some .FAILED →
      Run.Along (loanStep fun _ => none) (fun M a => ¬ PaysOut (fun _ => none) M a) payablePair
        saleFailed) :=
  failed_loan_restored_iff (fun _ => none) 1 payablePair
    { userId := 1, collateralAsset := .btc, loanAmount := 100, quidaxSwapId := some 8
      paystackTransferId := none, status := .PENDING } rfl saleFailed

/-- The collateral is sold and the payout accepted, and then the transfer fails. -/
def transferFailed : List (LoanEvent 1) :=
  [.webhook (.orderDone { OrderDone.executedAt ['1', '2', '3', '0'] with reference := 8 }
      (some 14)),
    .webhook (.transferFailure 14)]

theorem transferFailed_not_restored :
    ¬ (PayoutStatus.loanStatus (Run.final (loanStep fun _ => none) payablePair transferFailed) 1 =
        some .FAILED →
      Run.accrued (loanStep fun _ => none) (ownEffect (fun _ => none) (1, .btc)) payablePair
        transferFailed = 0) := by
  intro h
  have hzero := h (by decide +kernel)
  have hbase : (Run.accrued (loanStep fun _ => none) (ownEffect (fun _ => none) (1, .btc))
      payablePair transferFailed).1 = -100000 := by decide +kernel
  rw [hzero] at hbase
  exact absurd hbase (by decide)

end FailedLoans

end ExchangeLedger
