import ExchangeLedger.PayoutStatus

set_option autoImplicit false

/-! The payout of an urgent-liquidity loan once its collateral is sold. -/

namespace ExchangeLedger

open Block

namespace UrgentLiquidity

/-- The part of the sold amount that stays collateral: `mul(20).div(30).floor()`. -/
def remainingCollateralBase (executedCrypto : Nat) : Int :=
  ((Decimal.mul ⟨executedCrypto, 0⟩ ⟨20, 0⟩).divNat 30).floor

def loanWallet (loan : UrgentLiquidityLoan) : WalletKey := (loan.userId, loan.collateralAsset)

/-- Everything `processUrgentLiquidityPayout` does is one database transaction, the calls to
Paystack included: `transfer` is the reference they end with, if they succeed. -/
def payoutBlock (cache : ConvertCurrency.DefaultNetworkCache) (id : LoanId)
    (e : OrderDone.Event) (transfer : Option Reference) :
    LedgerBlock (Option (UrgentLiquidityLoan × OrderDone.ExecutedAmounts)) := do
  let found ← read (fun L => L.loans.lookup id)
  let fresh ← demand found (.thrown "Cannot read properties of null")
  match OrderDone.loanExecution cache fresh e with
  | .error message => fail (.thrown message)
  | .ok none => return none
  | .ok (some amounts) =>
    subtractInternalBalance fresh.collateralAsset amounts.cryptoAmountBase
    addInternalBalance e.quoteUnit amounts.fiatAmountBase
    let wallet ← read (fun L => L.wallets.lookup (loanWallet fresh))
    let network := wallet.bind Wallet.defaultNetwork
    debitWallet (loanWallet fresh) amounts.cryptoAmountBase.toNat
      (.thrown "Insufficient balance for urgent liquidity loan")
    holdWallet (loanWallet fresh) .loanCollateralAmount
      (remainingCollateralBase amounts.cryptoAmountBase.toNat) (.thrown "wallet not found")
    restateOriginalBalance cache (loanWallet fresh) network
    PayoutStatus.updateLoan id (fun l => { l with status := .QUIDAX_COMPLETED })
    let reference ← demand transfer (.thrown "Failed initiating transfer for urgent liquidity loan")
    PayoutStatus.updateLoan id (fun l => { l with
      status := .PAYSTACK_COMPLETED, paystackTransferId := some reference })
    return some (fresh, amounts)

/-- The provider reports the sale of the collateral as failed. -/
def saleFailedBlock (id : LoanId) : LedgerBlock Unit := do
  let fresh ← read (fun L => PayoutStatus.loanStatus L id)
  onlyIf (fresh ∉ [some .DISBURSED, some .FAILED, some .REPAID, some .DEADLINE_EXCEEDED,
      some .QUIDAX_COMPLETED, some .PAYSTACK_COMPLETED])
    (PayoutStatus.updateLoan id (fun l => { l with status := .FAILED }))

def payoutMovements (e : OrderDone.Event) (loan : UrgentLiquidityLoan)
    (amounts : OrderDone.ExecutedAmounts) : List Movement :=
  [.company loan.collateralAsset .internalBalance (-amounts.cryptoAmountBase),
    .company e.quoteUnit .internalBalance amounts.fiatAmountBase,
    .debit (loanWallet loan) amounts.cryptoAmountBase.toNat]

theorem payoutBlock_moves (cache : ConvertCurrency.DefaultNetworkCache) (id : LoanId)
    (e : OrderDone.Event) (transfer : Option Reference) :
    PostsMovements (payoutBlock cache id e transfer)
      (fun paid ms => ms = paid.elim [] (fun p => payoutMovements e p.1 p.2)) := by
  refine posts_read_bind fun L => ?_
  refine posts_demand_bind fun fresh _ => ?_
  split
  · exact posts_fail
  · exact posts_pure rfl
  · refine posts_entry_bind rfl (fun _ _ _ => subtractInternalBalance_moves) fun _ => ?_
    refine posts_entry_bind rfl (fun _ _ _ => addInternalBalance_moves) fun _ => ?_
    refine posts_read_bind fun M => ?_
    refine posts_entry_bind rfl (fun _ _ _ => debitWallet_moves) fun _ => ?_
    refine posts_nothing_bind (neutral_of_moves (by simp)
      fun _ _ _ => holdWallet_moves) fun _ => ?_
    refine posts_nothing_bind (restateOriginalBalance_neutral _ _ _) fun _ => ?_
    refine posts_nothing_bind (nothing_update fun _ => rfl) fun _ => ?_
    refine posts_nothing_bind nothing_demand fun _ => ?_
    refine posts_nothing_bind (nothing_update fun _ => rfl) fun _ => ?_
    exact posts_pure rfl

/-- What a payout needs to go through: the loan and its converted amounts, enough internal
balance, a wallet whose balance (reserved or not) covers the sold amount and can be written out,
and a transfer that Paystack accepts. -/
structure Payable (cache : ConvertCurrency.DefaultNetworkCache) (id : LoanId)
    (e : OrderDone.Event) (transfer : Option Reference) (L : Ledger) (loan : UrgentLiquidityLoan)
    (amounts : OrderDone.ExecutedAmounts) (wallet : Wallet) : Prop where
  loan_found : L.loans.lookup id = some loan
  executed : OrderDone.loanExecution cache loan e = .ok (some amounts)
  internal : ∃ r, L.companyLiquidity.lookup loan.collateralAsset = some r ∧
    amounts.cryptoAmountBase ≤ r.internalBalance
  wallet_found : L.wallets.lookup (loanWallet loan) = some wallet
  balance : (amounts.cryptoAmountBase.toNat : Int) ≤ wallet.baseBalance
  restated : ∃ text, restatedText cache
    (wallet.baseBalance - amounts.cryptoAmountBase.toNat) loan.collateralAsset
    wallet.defaultNetwork = .ok text
  transferred : transfer.isSome = true

/-- The wallet after a payout: only its balance, collateral and text change. -/
def paidWallet (amounts : OrderDone.ExecutedAmounts) (wallet : Wallet) (text : Text) : Wallet :=
  { wallet with
    baseBalance := wallet.baseBalance - amounts.cryptoAmountBase.toNat
    loanCollateralAmount := wallet.loanCollateralAmount +
      remainingCollateralBase amounts.cryptoAmountBase.toNat
    originalBalance := text }

theorem addInternalBalance_wallets {c : Currency} {amount : Int} {L M : Ledger} {u : Unit}
    (h : (addInternalBalance c amount).Commits L u M) : M.wallets = L.wallets := by
  simp only [addInternalBalance, commits_update] at h
  rw [← h]
  rfl

theorem payoutBlock_commits {cache : ConvertCurrency.DefaultNetworkCache} {id : LoanId}
    {e : OrderDone.Event} {transfer : Option Reference} {L M : Ledger}
    {loan : UrgentLiquidityLoan} {amounts : OrderDone.ExecutedAmounts}
    (h : (payoutBlock cache id e transfer).Commits L (some (loan, amounts)) M) :
    ∃ wallet text, Payable cache id e transfer L loan amounts wallet ∧
      M.wallets = L.wallets.insert (loanWallet loan) (paidWallet amounts wallet text) := by
  simp only [payoutBlock, commits_read_bind, commits_demand_bind] at h
  obtain ⟨fresh, hloan, h⟩ := h
  cases hx : OrderDone.loanExecution cache fresh e with
  | error message => simp [hx] at h
  | ok found =>
    cases found with
    | none => simp [hx] at h
    | some found =>
      simp only [hx, commits_bind, subtractInternalBalance_commits, commits_read, debitWallet,
        holdWallet, mustUpdateWallet_commits, restateOriginalBalance_commits, commits_demand,
        PayoutStatus.updateLoan, commits_update, commits_pure] at h
      obtain ⟨_, _, ⟨r, hr, hle, rfl⟩, _, A, hA, _, _, ⟨rfl, rfl⟩, _, _, ⟨w, hw, hb, rfl⟩, _, _,
        ⟨w₁, hw₁, -, rfl⟩, _, _, hrestate, _, _, rfl, reference, _, ⟨ht, rfl⟩, _, _, rfl, heq,
        rfl⟩ := h
      have hwallets := addInternalBalance_wallets hA
      cases heq
      simp only [Ledger.setWallet_wallets, AList.lookup_insert, Option.some.injEq] at hw₁
      subst hw₁
      simp only [hwallets, Ledger.setCompany_wallets] at hw
      rcases hrestate with ⟨hnone, -⟩ | ⟨w₂, text, hw₂, htext, rfl⟩
      · simp at hnone
      · simp only [Ledger.setWallet_wallets, AList.lookup_insert, Option.some.injEq] at hw₂
        subst hw₂
        refine ⟨w, text, ⟨hloan, hx, ⟨r, hr, hle⟩, hw, hb, ⟨text, ?_⟩, by simp [ht]⟩, ?_⟩
        · have hwk : L.wallets.lookup (loan.userId, loan.collateralAsset) = some w := hw
          simpa [hwallets, hwk, Wallet.shift, loanWallet] using htext
        · simp [hwallets, AList.insert_insert, paidWallet, Wallet.shift]

theorem Payable.commits {cache : ConvertCurrency.DefaultNetworkCache} {id : LoanId}
    {e : OrderDone.Event} {transfer : Option Reference} {L : Ledger} {loan : UrgentLiquidityLoan}
    {amounts : OrderDone.ExecutedAmounts} {wallet : Wallet}
    (h : Payable cache id e transfer L loan amounts wallet) :
    ∃ M, (payoutBlock cache id e transfer).Commits L (some (loan, amounts)) M := by
  obtain ⟨r, hr, hle⟩ := h.internal
  obtain ⟨text, htext⟩ := h.restated
  obtain ⟨reference, rfl⟩ := Option.isSome_iff_exists.mp h.transferred
  have hadd : ∃ A, (addInternalBalance e.quoteUnit amounts.fiatAmountBase).Commits
      (L.setCompany loan.collateralAsset
        { r with internalBalance := r.internalBalance - amounts.cryptoAmountBase }) () A :=
    ⟨_, commits_update.mpr rfl⟩
  obtain ⟨A, hA⟩ := hadd
  have hwallets := addInternalBalance_wallets hA
  have hw : A.wallets.lookup (loanWallet loan) = some wallet := by
    rw [hwallets]
    exact h.wallet_found
  simp only [payoutBlock, commits_read_bind, commits_demand_bind, h.loan_found,
    Option.some.injEq, exists_eq_left', h.executed]
  simp only [commits_bind, subtractInternalBalance_commits, commits_read, debitWallet,
    holdWallet, mustUpdateWallet_commits, restateOriginalBalance_commits, commits_demand,
    PayoutStatus.updateLoan, commits_update, commits_pure]
  refine ⟨_, (), _, ⟨r, hr, hle, rfl⟩, (), A, hA, _, _, ⟨rfl, rfl⟩, (), _,
    ⟨wallet, hw, h.balance, rfl⟩, (), _, ⟨_, AList.lookup_insert _, trivial, rfl⟩, (), _,
    .inr ⟨_, text, AList.lookup_insert _, ?_, rfl⟩, (), _, rfl, reference, _, ⟨rfl, rfl⟩, (), _,
    rfl, trivial, rfl⟩
  have hwk : A.wallets.lookup (loan.userId, loan.collateralAsset) = some wallet := hw
  simpa [hwk, Wallet.shift, loanWallet] using htext

theorem saleFailedBlock_neutral (id : LoanId) : PostsNeutral (saleFailedBlock id) := by
  refine posts_read_bind fun L => ?_
  exact nothing_onlyIf (nothing_update fun _ => rfl)

end UrgentLiquidity

end ExchangeLedger
