import ExchangeLedger.ConfirmOutcomes
import ExchangeLedger.DefaultNetworks
import ExchangeLedger.Withdrawal

set_option autoImplicit false

/-! The networks of a send as the texts that are stored and compared: the user's, upper-cased for
the preview, and the wallet's default. -/

namespace ExchangeLedger

open Block WithdrawalService

namespace SendNetworks

/-- The ledger, with the network columns of wallets and transactions as texts. -/
structure Stored where
  ledger : Ledger
  defaultNetworks : Table WalletKey Text
  networks : Table TransactionId Text

abbrev StoredBlock (α : Type) := Block Stored Failure α

def onLedger {α : Type} (x : LedgerBlock α) : StoredBlock α :=
  within Stored.ledger (fun L s => { s with ledger := L }) x

/-- The check of `reserveBalance` and `releaseBalance` on the wallet's network, and the update. -/
def pinned (k : WalletKey) (walletDefaultNetwork : Option Text) (networkChanged : String)
    (x : LedgerBlock Unit) : StoredBlock Unit := do
  let wallet ← read (fun s => s.ledger.wallets.lookup k)
  require (wallet.isSome = true) (.thrown (k.2.code ++ " wallet not found"))
  let defaultNetwork ← read (fun s => s.defaultNetworks.lookup k)
  require (defaultNetwork = walletDefaultNetwork) (.thrown networkChanged)
  onLedger x

def reserveBalance (userId : UserId) (currency : Currency) (amount : Nat)
    (walletDefaultNetwork : Option Text) : StoredBlock Unit :=
  pinned (userId, currency) walletDefaultNetwork
    (currency.code ++ " wallet network changed. Please request a new quote.")
    (ExchangeLedger.reserveBalance userId currency amount none)

def releaseBalance (userId : UserId) (currency : Currency) (amount : Nat)
    (walletDefaultNetwork : Option Text) : StoredBlock Unit :=
  pinned (userId, currency) walletDefaultNetwork
    (currency.code ++ " wallet network changed. Please retry this operation.")
    (ExchangeLedger.releaseBalance userId currency amount none)

/-- A preview of a send: its amounts, the network it is for and the wallet's network. -/
structure Preview where
  amounts : Confirm
  network : Text
  walletDefaultNetwork : Option Text
  deriving DecidableEq, Repr

def Preview.key (q : Preview) : WalletKey := (q.amounts.userId, q.amounts.currency)

/-- The networks of `previewSend`: the user's text is upper-cased, and looked up in lower case;
`address` is whether the wallet has an address on it. -/
def previewSend (amounts : Confirm) (network : Text) (address : Bool) (s : Stored) :
    Except String Preview :=
  if address = false then .error "Network is not supported for currency"
  else if s.ledger.wallets.lookup (amounts.userId, amounts.currency) = none then
    .error "Wallet not found"
  else
    match (CURRENCY_PRECISION amounts.currency).find?
        (fun p => p.1.id = (network.map Char.toUpper).map Char.toLower) with
    | none => .error "Network is not supported for currency"
    | some (found, _) => .ok {
        amounts := { amounts with network := some found }
        network := network.map Char.toUpper
        walletDefaultNetwork := s.defaultNetworks.lookup (amounts.userId, amounts.currency) }

/-- `confirmSend` up to the end of its block. -/
def confirmSend (q : Preview) (id : TransactionId) (withdrawalId : WithdrawalId) :
    StoredBlock ConfirmResult := do
  require (q.amounts.currency = .usdt →
      minUsdtBase q.amounts.usdtDecimals ≤ q.amounts.requestedAmount)
    (.thrown "Minimum transaction amount is 2 USDT")
  let existingWithdrawal ← read (fun s => s.ledger.withdrawalByReference q.amounts.previewId)
  if existingWithdrawal.isSome then return .duplicate
  else
    reserveBalance q.amounts.userId q.amounts.currency q.amounts.total q.walletDefaultNetwork
    onLedger (insertTransaction id q.amounts.transaction)
    update (fun s => { s with networks := s.networks.insert id q.network })
    let companyLiquidityReserved ←
      onLedger (reserveLiquidity q.amounts.currency q.amounts.total)
    onLedger (createWithdrawal withdrawalId (q.amounts.withdrawal id companyLiquidityReserved))
    if companyLiquidityReserved then return .reserved
    else
      onLedger (createFailedCompanyLiquidity id q.amounts.currency q.amounts.total)
      return .queued

/-- Whether `cancelWithdrawal` releases the company's part. -/
def releasesLiquidity (withdrawal : Withdrawal) : Prop :=
  withdrawal.providerWithdrawalId.isSome ∨ withdrawal.status = .PROCESSING

instance (withdrawal : Withdrawal) : Decidable (releasesLiquidity withdrawal) := by
  unfold releasesLiquidity
  infer_instance

/-- The block of `cancelWithdrawal`, with the rows as they were read before. -/
def cancelWithdrawal (id : TransactionId) (transaction : Transaction) (network : Option Text)
    (withdrawalId : WithdrawalId) (withdrawal : Withdrawal) : StoredBlock Unit := do
  releaseBalance transaction.userId transaction.currency transaction.sentBase network
  onLedger (onlyIf (releasesLiquidity withdrawal)
    (releaseLiquidity transaction.currency transaction.sentBase))
  onLedger (updateWithdrawal withdrawalId (fun w => { w with status := .FAILED }))
  onLedger (updateTransaction id (fun t => { t with status := .FAILED, isProcessed := false }))

theorem onLedger_commits {α : Type} {x : LedgerBlock α} {s t : Stored} {a : α} :
    (onLedger x).Commits s a t ↔ ∃ L, x.Commits s.ledger a L ∧ { s with ledger := L } = t :=
  commits_within

theorem pinned_commits {k : WalletKey} {network : Option Text} {message : String}
    {x : LedgerBlock Unit} {s t : Stored} {u : Unit} :
    (pinned k network message x).Commits s u t ↔
      (s.ledger.wallets.lookup k).isSome = true ∧ s.defaultNetworks.lookup k = network ∧
        ∃ L, x.Commits s.ledger u L ∧ { s with ledger := L } = t := by
  simp only [pinned, commits_read_bind, commits_require_bind, onLedger_commits]

/-- The withdrawal of the preview is open in `K`: its rows are as the confirmation from `s` to `t`
made them, up to their progress, and the columns hold what is reserved for it; `retried` is what a
retry has reserved with the company since. -/
structure Cancellable (q : Preview) (id : TransactionId) (s t : Stored) (retried : Nat)
    (transaction : Transaction) (withdrawal : Withdrawal) (K : Stored) : Prop where
  userId : transaction.userId = q.amounts.userId
  currency : transaction.currency = q.amounts.currency
  amount : transaction.sentBase = q.amounts.total
  network : K.networks.lookup id = some q.network
  liquidity : t.ledger.reservedLiquidity q.amounts.currency -
    s.ledger.reservedLiquidity q.amounts.currency + retried =
      if releasesLiquidity withdrawal then (q.amounts.total : Int) else 0
  held : Held q.key none q.amounts.total q.amounts.currency
    (if releasesLiquidity withdrawal then q.amounts.total else 0) K.ledger

/-- The cancellation goes through, and takes out of both columns what was reserved. -/
def CancelRestores (q : Preview) (id : TransactionId) (withdrawalId : WithdrawalId) (s t : Stored)
    (retried : Nat) (transaction : Transaction) (withdrawal : Withdrawal) (K : Stored) : Prop :=
  ∃ N, (cancelWithdrawal id transaction (K.networks.lookup id) withdrawalId withdrawal).Commits
      K () N ∧
    N.ledger.reservedBalance q.key = K.ledger.reservedBalance q.key -
      (t.ledger.reservedBalance q.key - s.ledger.reservedBalance q.key) ∧
    N.ledger.reservedLiquidity q.amounts.currency =
      K.ledger.reservedLiquidity q.amounts.currency -
        (t.ledger.reservedLiquidity q.amounts.currency -
          s.ledger.reservedLiquidity q.amounts.currency) - retried

theorem preserves_onLedger {α : Type} {I : Ledger → Prop} {x : LedgerBlock α}
    (hx : Preserves I x) : Preserves (fun s : Stored => I s.ledger) (onLedger x) := by
  intro s a t hs h
  obtain ⟨L, hL, rfl⟩ := onLedger_commits.mp h
  exact hx _ _ _ hs hL

/-- What follows the reservation in `confirmSend` leaves the wallets alone. -/
theorem records_keep_wallets (q : Preview) (id : TransactionId) (withdrawalId : WithdrawalId)
    (W : Table WalletKey Wallet) :
    Preserves (fun s : Stored => s.ledger.wallets = W) (do
      onLedger (insertTransaction id q.amounts.transaction)
      update (fun s => { s with networks := s.networks.insert id q.network })
      let companyLiquidityReserved ←
        onLedger (reserveLiquidity q.amounts.currency q.amounts.total)
      onLedger (createWithdrawal withdrawalId (q.amounts.withdrawal id companyLiquidityReserved))
      if companyLiquidityReserved then return ConfirmResult.reserved
      else
        onLedger (createFailedCompanyLiquidity id q.amounts.currency q.amounts.total)
        return .queued) := by
  refine preserves_bind (preserves_onLedger (I := fun L => L.wallets = W) ?_) fun _ => ?_
  · refine preserves_bind (preserves_read _) fun _ => ?_
    exact preserves_bind (preserves_require _ _) fun _ => preserves_update fun _ h => h
  refine preserves_bind (preserves_update fun _ h => h) fun _ => ?_
  refine preserves_bind (preserves_onLedger (I := fun L => L.wallets = W) ?_) fun reserved => ?_
  · intro L b M hL h
    rw [SellService.reserveLiquidity_frame h]
    exact hL
  refine preserves_bind (preserves_onLedger (I := fun L => L.wallets = W) ?_) fun _ => ?_
  · refine preserves_bind (preserves_read _) fun _ => ?_
    exact preserves_bind (preserves_require _ _) fun _ => preserves_update fun _ h => h
  refine preserves_ite (preserves_pure _) ?_
  refine preserves_bind (preserves_onLedger (I := fun L => L.wallets = W) ?_) fun _ =>
    preserves_pure _
  intro L u M hL h
  rw [SellService.createFailedCompanyLiquidity_frame h]
  exact hL

theorem confirmSend_reserves {q : Preview} {id : TransactionId} {withdrawalId : WithdrawalId}
    {s t : Stored} {r : ConfirmResult} (h : (confirmSend q id withdrawalId).Commits s r t)
    (hr : r ≠ .duplicate) :
    t.ledger.reservedBalance q.key = s.ledger.reservedBalance q.key + q.amounts.total := by
  simp only [confirmSend, commits_require_bind, commits_read_bind] at h
  replace h := h.2
  split at h
  · obtain ⟨hduplicate, -⟩ := commits_pure.mp h
    exact absurd hduplicate.symm hr
  · obtain ⟨_, A, hreserve, h⟩ := commits_bind.mp h
    obtain ⟨-, -, L, hL, rfl⟩ := pinned_commits.mp hreserve
    obtain ⟨w, hw, -, -, rfl⟩ := reserveBalance_commits.mp hL
    have hkey : s.ledger.wallets.lookup q.key = some w := hw
    have hwallets := records_keep_wallets q id withdrawalId _ _ _ _ rfl h
    unfold Ledger.reservedBalance
    rw [hwallets, hkey]
    simp [Preview.key]

theorem confirmSend_cancellable {q : Preview} {id : TransactionId} {withdrawalId : WithdrawalId}
    {s t : Stored} {r : ConfirmResult} (h : (confirmSend q id withdrawalId).Commits s r t)
    (hr : r ≠ .duplicate)
    (hunsigned : Unsigned q.key q.amounts.currency q.amounts.total s.ledger) :
    Cancellable q id s t 0 q.amounts.transaction
      (q.amounts.withdrawal id (decide (r = .reserved))) t := by
  simp only [confirmSend, commits_require_bind, commits_read_bind] at h
  replace h := h.2
  split at h
  · obtain ⟨hduplicate, -⟩ := commits_pure.mp h
    exact absurd hduplicate.symm hr
  · obtain ⟨_, A, hreserve, h⟩ := commits_bind.mp h
    obtain ⟨-, -, L, hL, rfl⟩ := pinned_commits.mp hreserve
    obtain ⟨w, hw, -, -, rfl⟩ := reserveBalance_commits.mp hL
    obtain ⟨_, B, htransaction, h⟩ := commits_bind.mp h
    obtain ⟨L, hL, rfl⟩ := onLedger_commits.mp htransaction
    obtain ⟨-, -, rfl⟩ := insertTransaction_commits.mp hL
    rw [commits_update_bind] at h
    obtain ⟨reserved, C, hliquidity, h⟩ := commits_bind.mp h
    obtain ⟨L, hL, rfl⟩ := onLedger_commits.mp hliquidity
    obtain ⟨_, D, hwithdrawal, h⟩ := commits_bind.mp h
    obtain ⟨M, hM, rfl⟩ := onLedger_commits.mp hwithdrawal
    simp only [createWithdrawal, commits_read_bind, commits_require_bind, commits_update] at hM
    obtain ⟨-, rfl⟩ := hM
    have hkey : s.ledger.wallets.lookup q.key = some w := hw
    have hheld : (q.amounts.total : Int) ≤ w.reservedBalance + q.amounts.total := by
      have hbefore := hunsigned.1
      rw [Ledger.reservedBalance_of_lookup hkey] at hbefore
      omega
    rcases updateCompany_commits.mp hL with ⟨company, hcompany, -, rfl, rfl⟩ | ⟨-, rfl, rfl⟩
    · obtain ⟨rfl, rfl⟩ := commits_pure.mp h
      have hrow : s.ledger.companyLiquidity.lookup q.amounts.currency = some company := hcompany
      have hreleases : releasesLiquidity (q.amounts.withdrawal id true) := .inr rfl
      have hpart : (q.amounts.total : Int) ≤ company.reservedBalance + q.amounts.total ∨
          q.amounts.total = 0 := by
        rcases hunsigned.2 with h0 | hbefore
        · exact .inr h0
        · rw [Ledger.reservedLiquidity_of_lookup hrow] at hbefore
          omega
      constructor
      · rfl
      · rfl
      · rfl
      · exact AList.lookup_insert _
      · rw [decide_eq_true rfl, if_pos hreleases, Ledger.reservedLiquidity_of_lookup hrow]
        simp [Ledger.reservedLiquidity, Ledger.setCompany]
      · rw [decide_eq_true rfl, if_pos hreleases]
        refine ⟨⟨_, AList.lookup_insert _, .inl rfl, hheld⟩, ?_⟩
        rcases hpart with hpart | h0
        · exact .inr ⟨_, AList.lookup_insert _, hpart⟩
        · exact .inl h0
    · obtain ⟨_, E, hrecord, h⟩ := commits_bind.mp h
      obtain ⟨N, hN, rfl⟩ := onLedger_commits.mp hrecord
      have hframe := SellService.createFailedCompanyLiquidity_frame hN
      obtain ⟨rfl, rfl⟩ := commits_pure.mp h
      have hreleases : ¬ releasesLiquidity (q.amounts.withdrawal id false) := by
        rintro (hprovider | hstatus)
        · cases hprovider
        · cases hstatus
      constructor
      · rfl
      · rfl
      · rfl
      · exact AList.lookup_insert _
      · rw [decide_eq_false (by decide), if_neg hreleases]
        show N.reservedLiquidity _ - _ + _ = _
        rw [hframe]
        simp [Ledger.reservedLiquidity, Ledger.setWallet]
      · rw [decide_eq_false (by decide), if_neg hreleases]
        show Held _ _ _ _ _ N
        rw [hframe]
        exact ⟨⟨_, AList.lookup_insert _, .inl rfl, hheld⟩, .inl rfl⟩

theorem onlyIf_releaseLiquidity_commits {p : Prop} [Decidable p] {c : Currency} {amount : Nat}
    {L M : Ledger} {u : Unit} :
    (onlyIf p (releaseLiquidity c amount)).Commits L u M ↔
      (releaseLiquidity c (if p then amount else 0)).Commits L u M := by
  unfold onlyIf
  split
  · rfl
  · rw [releaseLiquidity_commits, commits_pure]
    simp

theorem cancelWithdrawal_commits {id : TransactionId} {transaction : Transaction}
    {network : Option Text} {withdrawalId : WithdrawalId} {withdrawal : Withdrawal}
    {K N : Stored} {u : Unit} {k : WalletKey}
    (hk : (transaction.userId, transaction.currency) = k) :
    (cancelWithdrawal id transaction network withdrawalId withdrawal).Commits K u N ↔
      K.defaultNetworks.lookup k = network ∧
        ∃ A B, (ExchangeLedger.releaseBalance k.1 k.2 transaction.sentBase none).Commits
            K.ledger () A ∧
          (releaseLiquidity k.2
            (if releasesLiquidity withdrawal then transaction.sentBase else 0)).Commits A () B ∧
          { K with ledger := { B with
            withdrawals := B.withdrawals.modify withdrawalId (fun w => { w with status := .FAILED })
            transactions := B.transactions.modify id
              (fun t => { t with status := .FAILED, isProcessed := false }) } } = N := by
  subst hk
  simp only [cancelWithdrawal, releaseBalance, commits_bind, pinned_commits, onLedger_commits,
    onlyIf_releaseLiquidity_commits, updateWithdrawal, updateTransaction, commits_update]
  constructor
  · rintro ⟨_, _, ⟨-, hnetwork, A, hA, rfl⟩, _, _, ⟨B, hB, rfl⟩, _, _, ⟨_, rfl, rfl⟩, _, rfl, rfl⟩
    exact ⟨hnetwork, A, B, hA, hB, rfl⟩
  · rintro ⟨hnetwork, A, B, hA, hB, rfl⟩
    obtain ⟨w, hw, -⟩ := releaseBalance_commits.mp hA
    exact ⟨(), _, ⟨by rw [hw]; rfl, hnetwork, A, hA, rfl⟩, (), _, ⟨B, hB, rfl⟩, (), _,
      ⟨_, rfl, rfl⟩, _, rfl, rfl⟩

/-- For every send that was previewed for a network and confirmed: as long as it can be cancelled,
its cancellation goes through and takes out of both columns what the confirmation reserved, exactly
where the wallet's network is stored as the upper-cased text of the network that the user chose. -/
theorem cancel_restores_iff (amounts : Confirm) (network : Text) (address : Bool) (q : Preview)
    (id : TransactionId) (withdrawalId : WithdrawalId) (r s t : Stored) (result : ConfirmResult)
    (retried : Nat) (transaction : Transaction) (withdrawal : Withdrawal) (K : Stored)
    (hpreview : previewSend amounts network address r = .ok q)
    (hconfirm : (confirmSend q id withdrawalId).Commits s result t) (hresult : result ≠ .duplicate)
    (h : Cancellable q id s t retried transaction withdrawal K) :
    CancelRestores q id withdrawalId s t retried transaction withdrawal K ↔
      K.defaultNetworks.lookup (amounts.userId, amounts.currency) =
        some (network.map Char.toUpper) := by
  have hchosen : q.network = network.map Char.toUpper ∧
      q.key = (amounts.userId, amounts.currency) := by
    unfold previewSend at hpreview
    split at hpreview
    · cases hpreview
    · split at hpreview
      · cases hpreview
      · split at hpreview
        · cases hpreview
        · cases hpreview
          exact ⟨rfl, rfl⟩
  have hreserved := confirmSend_reserves hconfirm hresult
  rw [← hchosen.1, ← hchosen.2]
  have hkey : (transaction.userId, transaction.currency) = q.key := by
    rw [h.userId, h.currency]
    rfl
  unfold CancelRestores
  simp only [cancelWithdrawal_commits hkey, h.amount, h.network]
  constructor
  · rintro ⟨N, ⟨hnetwork, -⟩, -⟩
    exact hnetwork
  · intro hnetwork
    obtain ⟨A, hA, hcompany⟩ := releaseBalance_of_held h.held
    obtain ⟨B, hB⟩ := releaseLiquidity_of_held h.held hcompany
    obtain ⟨-, hwalletColumn, hcompanyColumn⟩ :=
      released_of_commits (k := q.key) hA (show A.toBooks = A.toBooks from rfl) hB
    refine ⟨_, ⟨hnetwork, A, B, hA, hB, rfl⟩, ?_, ?_⟩
    · show B.reservedBalance q.key = _
      rw [hwalletColumn, hreserved]
      omega
    · show B.reservedLiquidity q.amounts.currency = _
      have hliquidity := h.liquidity
      rw [hcompanyColumn]
      by_cases hreleases : releasesLiquidity withdrawal
      · rw [if_pos hreleases] at hliquidity ⊢
        omega
      · rw [if_neg hreleases] at hliquidity ⊢
        omega

/-- User 1's USDT wallet and the company's USDT, with the wallet's network. -/
def storedSend (defaultNetwork : Text) : Stored where
  ledger := { Ledger.empty with
    wallets := (∅ : Table WalletKey Wallet).insert (1, .usdt)
      { Wallet.empty with currencyId := some .usdt, baseBalance := 100000000 }
    companyLiquidity := (∅ : Table Currency CompanyLiquidity).insert .usdt
      { CompanyLiquidity.empty with totalBalance := 500000000 } }
  defaultNetworks := (∅ : Table WalletKey Text).insert (1, .usdt) defaultNetwork
  networks := ∅

/-- 50 USDT, of which the network takes 1 more and the platform 0.5 %. -/
def sendAmounts : Confirm := ⟨1, .usdt, 12, 50000000, 1000000, 250000, none, none, 6⟩

/-- A send on the network `bep20`. -/
def previewed (defaultNetwork : Text) : Preview :=
  ⟨{ sendAmounts with network := some .bep20 }, ['B', 'E', 'P', '2', '0'], some defaultNetwork⟩

def afterSend (defaultNetwork : Text) : Stored :=
  (confirmSend (previewed defaultNetwork) 2 3).commit (storedSend defaultNetwork)

def sentRow (defaultNetwork : Text) : Withdrawal :=
  (previewed defaultNetwork).amounts.withdrawal 2 true

/-- Where the wallet's network is stored in upper case. -/
theorem upper_case_send_cancelled :
    CancelRestores (previewed ['B', 'E', 'P', '2', '0']) 2 3 (storedSend ['B', 'E', 'P', '2', '0'])
      (afterSend ['B', 'E', 'P', '2', '0']) 0
      (previewed ['B', 'E', 'P', '2', '0']).amounts.transaction
      (sentRow ['B', 'E', 'P', '2', '0']) (afterSend ['B', 'E', 'P', '2', '0']) := by
  have hpreview : previewSend sendAmounts (CryptoNetwork.id .bep20) true
      (storedSend ['B', 'E', 'P', '2', '0']) = .ok (previewed ['B', 'E', 'P', '2', '0']) := by
    decide +kernel
  have hconfirm : (confirmSend (previewed ['B', 'E', 'P', '2', '0']) 2 3).result
      (storedSend ['B', 'E', 'P', '2', '0']) = some .reserved := by decide +kernel
  have hunsigned : Unsigned (1, .usdt) .usdt 51250000
      (storedSend ['B', 'E', 'P', '2', '0']).ledger :=
    ⟨by decide +kernel, .inr (by decide +kernel)⟩
  have hcommits := result_eq_some.mp hconfirm
  have hopen := confirmSend_cancellable hcommits (by decide) hunsigned
  exact (cancel_restores_iff _ _ _ _ _ _ _ _ _ _ _ _ _ _ hpreview hcommits (by decide)
    hopen).mpr (by decide +kernel)

/-- A wallet's network in lower case, as the provider names it: the same network, chosen for the
send, is not found again by the cancellation. -/
theorem lower_case_send_stuck :
    ¬ ∀ (amounts : Confirm) (network : Text) (address : Bool) (q : Preview) (id : TransactionId)
      (withdrawalId : WithdrawalId) (r s t : Stored) (result : ConfirmResult) (retried : Nat)
      (transaction : Transaction) (withdrawal : Withdrawal) (K : Stored),
      previewSend amounts network address r = .ok q →
      (confirmSend q id withdrawalId).Commits s result t → result ≠ .duplicate →
      Cancellable q id s t retried transaction withdrawal K →
      CancelRestores q id withdrawalId s t retried transaction withdrawal K := by
  intro h
  have hpreview : previewSend sendAmounts (CryptoNetwork.id .bep20) true
      (storedSend (CryptoNetwork.id .bep20)) = .ok (previewed (CryptoNetwork.id .bep20)) := by
    decide +kernel
  have hconfirm : (confirmSend (previewed (CryptoNetwork.id .bep20)) 2 3).result
      (storedSend (CryptoNetwork.id .bep20)) = some .reserved := by decide +kernel
  have hunsigned : Unsigned (1, .usdt) .usdt 51250000
      (storedSend (CryptoNetwork.id .bep20)).ledger :=
    ⟨by decide +kernel, .inr (by decide +kernel)⟩
  have hcommits := result_eq_some.mp hconfirm
  have hopen := confirmSend_cancellable hcommits (by decide) hunsigned
  obtain ⟨N, hN, -, -⟩ := h _ _ _ _ _ _ _ _ _ _ _ _ _ _ hpreview hcommits (by decide) hopen
  obtain ⟨hnetwork, -⟩ := (cancelWithdrawal_commits rfl).mp hN
  exact absurd hnetwork (by decide +kernel)

end SendNetworks

end ExchangeLedger
