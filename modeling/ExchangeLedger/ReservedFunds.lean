import ExchangeLedger.Operation

set_option autoImplicit false

/-! Reserved funds over whole runs: every operation but the loan payout leaves the reserved part
of every wallet within its balance. -/

namespace ExchangeLedger

open Block

theorem neutrally_commits {α : Type} {x : LedgerBlock α} {L M : Ledger} {ms : List Movement}
    (h : (neutrally x).Commits L ms M) : ms = [] := by
  obtain ⟨a, hms, -⟩ := commits_map.mp h
  exact hms.symm

theorem report_commits_no_debit {α : Type} {x : LedgerBlock α} {report : α → List Movement}
    (hreport : ∀ a j n, Movement.debit j n ∉ report a) {L M : Ledger} {ms : List Movement}
    (h : (report <$> x).Commits L ms M) (k : WalletKey) (amount : Nat) :
    Movement.debit k amount ∉ ms := by
  obtain ⟨a, rfl, -⟩ := commits_map.mp h
  exact hreport a k amount

namespace Operation

def isLoanPayout : Operation → Bool
  | .loanPayout _ _ _ _ => true
  | _ => false

theorem block_no_debit {op : Operation} (hop : op.isLoanPayout = false) {L M : Ledger}
    {ms : List Movement} (h : op.block.Commits L ms M) (k : WalletKey) (amount : Nat) :
    Movement.debit k amount ∉ ms := by
  cases op with
  | loanPayout => cases hop
  | settleBuy =>
    refine report_commits_no_debit (fun done j n => ?_) h k amount
    unfold OrderDone.buyMovements
    split
    · split <;> simp
    · simp
  | transferSuccess =>
    exact report_commits_no_debit (fun _ j n => by simp [PayoutStatus.payoutMovements]) h k amount
  | deposit =>
    refine report_commits_no_debit (fun done j n => ?_) h k amount
    split <;> simp [DepositSuccessful.depositMovements]
  | settleWithdrawal =>
    refine report_commits_no_debit (fun _ j n => ?_) h k amount
    unfold WithdrawalWebhook.settleMovements
    split <;> simp
  | completeSwap =>
    refine report_commits_no_debit (fun done j n => ?_) h k amount
    cases done <;> simp [SwapWebhook.completeMovements]
  | confirmStableVault =>
    exact report_commits_no_debit (fun _ j n => by simp [VaultService.confirmMovements]) h k amount
  | unlockVault =>
    exact report_commits_no_debit (fun _ j n => by simp [VaultService.unlockMovements]) h k amount
  | matureVault =>
    refine report_commits_no_debit (fun r j n => ?_) h k amount
    cases r <;> simp [VaultInterestScheduler.matureMovements]
  | completeVaultSwap =>
    refine report_commits_no_debit (fun done j n => ?_) h k amount
    cases done <;> simp [SwapWebhook.vaultMovements]
  | executeUsdtStack =>
    refine report_commits_no_debit (fun _ j n => ?_) h k amount
    simp [AutoStackService.executeUsdtMovements]
  | unlockStack =>
    exact report_commits_no_debit (fun _ j n => by simp [AutoStackService.unlockMovements]) h
      k amount
  | accrueStack =>
    refine report_commits_no_debit (fun r j n => ?_) h k amount
    unfold AutoStackService.accrueMovements
    split <;> simp
  | _ =>
    rw [neutrally_commits h]
    simp

theorem step_covered_of_no_debit {op : Operation} {L : Ledger}
    (hop : ∀ k amount, Movement.debit k amount ∉ op.moved L) (hL : L.toBooks.Covered) :
    (op.step L).toBooks.Covered := by
  obtain ⟨ms, hms, hfilter⟩ := op.step_moves L
  refine hms.covered (fun k amount hmem => hop k amount ?_) hL
  rw [← hfilter]
  exact List.mem_filter.mpr ⟨hmem, rfl⟩

theorem moved_no_debit {op : Operation} (hop : op.isLoanPayout = false) (L : Ledger)
    (k : WalletKey) (amount : Nat) : Movement.debit k amount ∉ op.moved L := by
  unfold moved
  cases h : op.block L with
  | error e => simp
  | ok r =>
    obtain ⟨ms, M⟩ := r
    exact block_no_debit hop (M := M) h k amount

/-- A loan payout takes no more than the unreserved part of the wallet it is paid from. -/
def SparesReserved (L : Ledger) : Operation → Prop
  | .loanPayout cache id e transfer => ∀ loan amounts wallet,
      UrgentLiquidity.Payable cache id e transfer L loan amounts wallet →
      (amounts.cryptoAmountBase.toNat : Int) ≤ wallet.baseBalance - wallet.reservedBalance
  | _ => True

end Operation

namespace UrgentLiquidity

theorem paidWallet_covered {amounts : OrderDone.ExecutedAmounts} {wallet : Wallet} {text : Text}
    (hw : wallet.Covered) : (paidWallet amounts wallet text).Covered ↔
      (amounts.cryptoAmountBase.toNat : Int) ≤ wallet.baseBalance - wallet.reservedBalance := by
  simp only [paidWallet, Wallet.Covered] at hw ⊢
  constructor
  · intro h
    have hle := h.2
    omega
  · intro h
    have hpos := hw.1
    constructor <;> omega

theorem payout_covered_iff (cache : ConvertCurrency.DefaultNetworkCache) (id : LoanId)
    (e : OrderDone.Event) (transfer : Option Reference) {L : Ledger} (hL : L.toBooks.Covered) :
    ((Operation.loanPayout cache id e transfer).step L).toBooks.Covered ↔
      (Operation.loanPayout cache id e transfer).SparesReserved L := by
  have hstep : (Operation.loanPayout cache id e transfer).step L =
      (payoutBlock cache id e transfer).commit L := commit_map _ _ L
  constructor
  · intro hc loan amounts wallet hpay
    obtain ⟨M, hM⟩ := hpay.commits
    rw [hstep, commit_of_commits hM] at hc
    obtain ⟨v, text, hpay', hwallets⟩ := payoutBlock_commits hM
    have hv : v = wallet := by
      have hfound := hpay'.wallet_found
      rw [hpay.wallet_found] at hfound
      exact (Option.some.inj hfound).symm
    subst hv
    have hrow := hc (loanWallet loan) (paidWallet amounts v text) (by rw [hwallets]; simp)
    exact (paidWallet_covered (hL _ _ hpay.wallet_found)).mp hrow
  · intro hspare
    rw [hstep]
    rcases (payoutBlock cache id e transfer).commit_cases L with h | ⟨paid, h⟩
    · rw [h]
      exact hL
    · cases paid with
      | none =>
        obtain ⟨ms, hms, hnil⟩ := payoutBlock_moves cache id e transfer L none _ h
        refine Moves.covered (fun k amount hmem => ?_) hms hL
        have hkept : Movement.debit k amount ∈ ms.filter Movement.essential :=
          List.mem_filter.mpr ⟨hmem, rfl⟩
        rw [hnil] at hkept
        cases hkept
      | some p =>
        obtain ⟨loan, amounts⟩ := p
        obtain ⟨wallet, text, hpay, hwallets⟩ := payoutBlock_commits h
        have hfree := hspare loan amounts wallet hpay
        have hrow : (paidWallet amounts wallet text).Covered :=
          (paidWallet_covered (hL _ _ hpay.wallet_found)).mpr hfree
        intro k w hk
        rw [hwallets, Table.lookup_insert] at hk
        split at hk
        · cases hk
          exact hrow
        · exact hL k w hk

end UrgentLiquidity

theorem Operation.step_covered_iff {op : Operation} {L : Ledger} (hL : L.toBooks.Covered) :
    (op.step L).toBooks.Covered ↔ op.SparesReserved L := by
  cases hop : op.isLoanPayout with
  | true =>
    cases op with
    | loanPayout cache id e transfer =>
      exact UrgentLiquidity.payout_covered_iff cache id e transfer hL
    | _ => cases hop
  | false =>
    have hstep := step_covered_of_no_debit (moved_no_debit hop L) hL
    cases op with
    | loanPayout => cases hop
    | _ => exact ⟨fun _ => trivial, fun _ => hstep⟩

/-- Reserved funds stay within the balance of every wallet throughout a run exactly when each loan
payout of the run spares what is reserved at that moment. -/
theorem reserved_covered_iff {L : Ledger} (hL : L.toBooks.Covered) (ops : List Operation) :
    Run.Throughout Operation.step (fun M => M.toBooks.Covered) L ops ↔
      Run.Along Operation.step Operation.SparesReserved L ops :=
  Run.throughout_iff_along (P := fun M : Ledger => M.toBooks.Covered)
    (fun _ _ hM => Operation.step_covered_iff hM) hL

/-- User 1's empty BTC wallet, the company's rows and a loan whose collateral is being sold. -/
def beforeLoan : Ledger :=
  { Ledger.empty with
    wallets := (∅ : Table WalletKey Wallet).insert (1, .btc)
      { Wallet.empty with defaultNetwork := some .btc }
    companyLiquidity := ((∅ : Table Currency CompanyLiquidity).insert .btc
      CompanyLiquidity.empty).insert .ngn { CompanyLiquidity.empty with totalBalance := 1000000 }
    loans := (∅ : Table LoanId UrgentLiquidityLoan).insert 1
      { userId := 1, collateralAsset := .btc, loanAmount := 100000, quidaxSwapId := some 7
        paystackTransferId := none, status := .PENDING } }

/-- The user receives a deposit, reserves `sold` of it for a sell, and the loan is paid out. -/
def depositSellAndLoan (sold : Nat) : List Operation :=
  [.deposit (fun _ => none) ⟨1, .btc, 11, some .btc, 150000⟩ 1,
    .confirmSell ⟨1, .btc, 12, sold, 0, 50000, some .btc, some .btc, 6⟩ 2,
    .loanPayout (fun _ => none) 1 (OrderDone.executedAt ['1', '2', '3', '0']) (some 13)]

theorem beforeLoan_covered : beforeLoan.toBooks.Covered := by
  intro k w hk
  rw [beforeLoan, Table.lookup_insert] at hk
  split at hk
  · cases hk
    simp [Wallet.Covered, Wallet.empty]
  · cases hk

/-- A sell that leaves a thousandth of a bitcoin unreserved is compatible with the payout. -/
theorem small_sell_keeps_covered :
    Run.Throughout Operation.step (fun M => M.toBooks.Covered) beforeLoan
      (depositSellAndLoan 50000) := by
  refine (reserved_covered_iff beforeLoan_covered _).mpr ⟨trivial, trivial, ?_, trivial⟩
  intro loan amounts wallet hpay
  have hloan : loan.collateralAsset = .btc ∧ loan.userId = 1 ∧ loan.status = .PENDING ∧
      loan.paystackTransferId = none := by
    have hfound := hpay.loan_found
    cases hfound
    decide
  have hamounts : amounts.cryptoAmountBase = 100000 := by
    have hexec := hpay.executed
    rw [OrderDone.loanExecution_of_open hloan.2.2, hloan.1] at hexec
    have heval : OrderDone.executedAmounts (fun _ => none) .btc
        (OrderDone.executedAt ['1', '2', '3', '0']) = .ok ⟨100000, 123⟩ := by decide +kernel
    rw [heval] at hexec
    cases hexec
    rfl
  have hrow : ((Run.final Operation.step beforeLoan
      ((depositSellAndLoan 50000).take 2)).wallets.lookup (1, .btc)).map
        (fun w => (w.baseBalance, w.reservedBalance)) = some (150000, 50000) := by
    decide +kernel
  have hwallet := hpay.wallet_found
  rw [UrgentLiquidity.loanWallet, hloan.1, hloan.2.1] at hwallet
  obtain ⟨w, hw, hbalances⟩ := Option.map_eq_some_iff.mp hrow
  have heq : w = wallet := Option.some.inj (hw.symm.trans hwallet)
  subst heq
  simp only [Prod.mk.injEq] at hbalances
  rw [hamounts]
  omega

/-- The sold thousandth of a bitcoin is a hundred thousand units, the wallet has fifty thousand
unreserved. -/
theorem loan_payout_takes_reserved :
    ¬ ∀ (L : Ledger) (ops : List Operation), L.toBooks.Covered →
      Run.Throughout Operation.step (fun M => M.toBooks.Covered) L ops := by
  intro h
  have hlast := (h beforeLoan (depositSellAndLoan 100000) beforeLoan_covered).last
  have hrow : ((Run.final Operation.step beforeLoan (depositSellAndLoan 100000)).wallets.lookup
      (1, .btc)).map (fun w => (w.baseBalance, w.reservedBalance)) = some (50000, 100000) := by
    decide +kernel
  obtain ⟨w, hw, hbalances⟩ := Option.map_eq_some_iff.mp hrow
  have hcovered := hlast (1, .btc) w hw
  simp only [Prod.mk.injEq] at hbalances
  have hle := hcovered.2
  omega

end ExchangeLedger
