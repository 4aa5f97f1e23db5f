import ExchangeLedger.ConfirmOutcomes
import ExchangeLedger.QuoteUse

set_option autoImplicit false

/-! What the cancellation of a pending autostack gives back of what its execution reserved, beside
what the catch of the execution gives back. -/

namespace ExchangeLedger

open Block

namespace AutoStackService

/-- The wallet that pays for an execution. -/
def Execution.key (x : Execution) : WalletKey := (x.userId, x.sourceAsset)

/-- The execution's reservation is open: both columns hold it, and the transaction's metadata, as
they are read, record it. -/
structure Execution.Open (x : Execution) (metadata : PaymentMetadata) (K : Ledger) : Prop where
  held : Held x.key none x.totalSource x.sourceAsset x.sourceAmount K
  row : ∃ t, K.transactions.lookup x.id = some t ∧ t.paymentMetadata = metadata
  reserved : alreadyReserved metadata x.sourceAmount = true

namespace Execution

variable (x : Execution)

/-- The fee is rounded up, so only a fee of nothing takes nothing. -/
theorem sourceFee_eq_zero_iff :
    x.sourceFee = 0 ↔ x.principalUsdt = 0 ∨ x.sourceAmount = 0 ∨ x.transactionFee = 0 := by
  unfold sourceFee
  split
  · rename_i hprincipal
    rw [Nat.div_eq_zero_iff_lt hprincipal, ← Nat.mul_eq_zero]
    omega
  · rename_i hprincipal
    simp only [true_iff]
    exact .inl (by omega)

end Execution

theorem reserveBlock_reserves {x : Execution} {metadata : PaymentMetadata} {L M : Ledger} {u : Unit}
    (hfresh : alreadyReserved metadata x.sourceAmount = false)
    (h : (reserveBlock x metadata).Commits L u M) :
    Reserves x.key none x.totalSource x.sourceAsset x.sourceAmount L M ∧
      M.transactions = L.transactions.modify x.id (fun t => { t with
        cryptoAmountBase := some x.sourceAmount
        platformFeeBase := some x.sourceFee
        totalAmountSentBase := some x.totalSource
        fiatAmountBase := x.principalUsdt
        paymentMetadata := reserved metadata x.sourceAmount }) := by
  simp only [reserveBlock, hfresh, onlyIf, if_true, reserveCompany, commits_bind, commits_require,
    reserveBalance_commits, updateTransaction, commits_update] at h
  obtain ⟨_, A, ⟨_, B, ⟨w, hw, hagrees, -, rfl⟩, reservedLiquidity, C, hliquidity, htrue, rfl⟩,
    rfl⟩ := h
  subst htrue
  rcases updateCompany_commits.mp hliquidity with ⟨r, hr, -, -, rfl⟩ | ⟨-, hfalse, -⟩
  · have hkey : L.wallets.lookup x.key = some w := hw
    have hcompany : L.companyLiquidity.lookup x.sourceAsset = some r := hr
    constructor
    · constructor
      · rw [Ledger.reservedBalance_of_lookup hkey]
        simp [Ledger.reservedBalance, Ledger.setWallet, Ledger.setCompany, Execution.key]
      · exact ⟨_, AList.lookup_insert _, hagrees⟩
      · rw [Ledger.reservedLiquidity_of_lookup hcompany]
        simp [Ledger.reservedLiquidity, Ledger.setCompany]
      · exact fun _ => ⟨_, AList.lookup_insert _⟩
    · rfl
  · cases hfalse

theorem reserveBlock_open {x : Execution} {metadata : PaymentMetadata} {L M : Ledger} {u : Unit}
    (hfresh : alreadyReserved metadata x.sourceAmount = false)
    (h : (reserveBlock x metadata).Commits L u M)
    (hunsigned : Unsigned x.key x.sourceAsset x.sourceAmount L)
    (hrow : (L.transactions.lookup x.id).isSome = true) :
    x.Open (reserved metadata x.sourceAmount) M := by
  obtain ⟨hreserves, htransactions⟩ := reserveBlock_reserves hfresh h
  obtain ⟨t, ht⟩ := Option.isSome_iff_exists.mp hrow
  constructor
  · exact hreserves.held_iff.mpr hunsigned
  · rw [htransactions, Table.lookup_modify_self, ht]
    exact ⟨_, rfl, rfl⟩
  · simp [alreadyReserved, reserved]

/-- Of what is held, the company's part and as much of the wallet's part as is asked for can be
released. -/
theorem releases_of_held {k : WalletKey} {total amount liquidity : Nat} {c : Currency} {K : Ledger}
    (h : Held k none total c liquidity K) (hle : amount ≤ total) :
    ∃ A B, (releaseLiquidity c liquidity).Commits K () A ∧
      (releaseBalance k.1 k.2 amount none).Commits A () B ∧
      A.transactions = K.transactions ∧
      B.reservedBalance k = K.reservedBalance k - amount ∧
      B.reservedLiquidity c = K.reservedLiquidity c - liquidity := by
  obtain ⟨A, hA⟩ := releaseLiquidity_of_held h rfl
  obtain ⟨⟨w, hw, hagrees, hheld⟩, -⟩ := h
  have hframe := (releaseLiquidity_frame hA).1
  have hwallets : A.wallets = K.wallets := by rw [hframe]
  have hrow : A.wallets.lookup k = some w := by rw [hwallets, hw]
  refine ⟨A, _, hA, releaseBalance_commits.mpr ⟨w, hrow, hagrees, by omega, rfl⟩, ?_, ?_, ?_⟩
  · rw [hframe]
  · rw [Ledger.reservedBalance_setWallet, if_pos rfl, Ledger.reservedBalance_of_lookup hw]
  · show A.reservedLiquidity c = _
    rw [releaseLiquidity_reserved hA, if_pos rfl]

section Pending

variable {x : Execution} {metadata : PaymentMetadata} {L M K : Ledger}

/-- `cancelPending` releases the company's part, and of the wallet's part the amount alone. -/
theorem Execution.Open.cancelled (h : x.Open metadata K) (hwallet : x.cryptoWalletPayment = true) :
    ((cancelBlock x metadata).commit K).reservedBalance x.key =
        K.reservedBalance x.key - x.sourceAmount ∧
      ((cancelBlock x metadata).commit K).reservedLiquidity x.sourceAsset =
        K.reservedLiquidity x.sourceAsset - x.sourceAmount := by
  obtain ⟨hstatus, hamount⟩ := of_decide_eq_true h.reserved
  have hle : x.sourceAmount ≤ x.totalSource := Nat.le_add_right _ _
  obtain ⟨A, B, hliquidity, hbalance, -, hreserved, hcompany⟩ := releases_of_held h.held hle
  have hcommits : ∃ N, (cancelBlock x metadata).Commits K () N ∧ N.toBooks = B.toBooks := by
    simp only [cancelBlock, hstatus, hamount, hwallet, reservationCurrency, onlyIf, if_true,
      Option.getD_some, and_self, commits_bind, updateTransaction, updateAutoStack, commits_update]
    exact ⟨_, ⟨(), A, hliquidity, (), B, hbalance, (), _, rfl, rfl⟩, rfl⟩
  obtain ⟨N, hN, hbooks⟩ := hcommits
  rw [commit_of_commits hN, ← hreserved, ← hcompany]
  exact (Ledger.balances_of_books hbooks x.key x.sourceAsset).2

theorem Execution.Open.failed (h : x.Open metadata K) (hwallet : x.cryptoWalletPayment = true) :
    ((failBlock x).commit K).reservedBalance x.key = K.reservedBalance x.key - x.totalSource ∧
      ((failBlock x).commit K).reservedLiquidity x.sourceAsset =
        K.reservedLiquidity x.sourceAsset - x.sourceAmount := by
  obtain ⟨hstatus, hamount⟩ := of_decide_eq_true h.reserved
  obtain ⟨t, ht, hmetadata⟩ := h.row
  obtain ⟨A, B, hliquidity, hbalance, -, hreserved, hcompany⟩ :=
    releases_of_held h.held (Nat.le_refl x.totalSource)
  have hcommits : ∃ N, (failBlock x).Commits K () N ∧ N.toBooks = B.toBooks := by
    simp only [failBlock, commits_read_bind]
    simp only [ht, Option.map_some, Option.getD_some, hmetadata, hstatus, hamount, hwallet,
      reservationCurrency, onlyIf, if_true, and_self, commits_bind, updateTransaction,
      commits_update]
    exact ⟨_, ⟨(), A, commits_swallow.mpr (.inl ⟨(), hliquidity⟩), (), B,
      commits_swallow.mpr (.inl ⟨(), hbalance⟩), rfl⟩, rfl⟩
  obtain ⟨N, hN, hbooks⟩ := hcommits
  rw [commit_of_commits hN, ← hreserved, ← hcompany]
  exact (Ledger.balances_of_books hbooks x.key x.sourceAsset).2

theorem failBlock_undoes (hwallet : x.cryptoWalletPayment = true) {reservedIn : PaymentMetadata}
    (hfresh : alreadyReserved reservedIn x.sourceAmount = false)
    (hreserve : (reserveBlock x reservedIn).Commits L () M) (h : x.Open metadata K) :
    Undone x.key x.sourceAsset L M K ((failBlock x).commit K) := by
  obtain ⟨hreserves, -⟩ := reserveBlock_reserves hfresh hreserve
  obtain ⟨hreserved, hcompany⟩ := h.failed hwallet
  constructor
  · rw [hreserved, hreserves.wallet]
    omega
  · rw [hcompany, hreserves.company]
    omega

end Pending

/-- The cancellation of a pending stack that is paid from another wallet than USDT undoes what its
execution reserved exactly when there was no fee to reserve. -/
theorem cancelPending_undoes_iff (x : Execution) (metadata metadata' : PaymentMetadata)
    (L M K : Ledger) (hwallet : x.cryptoWalletPayment = true)
    (hfresh : alreadyReserved metadata x.sourceAmount = false)
    (hreserve : (reserveBlock x metadata).Commits L () M) (h : x.Open metadata' K) :
    Undone x.key x.sourceAsset L M K ((cancelBlock x metadata').commit K) ↔
      x.principalUsdt = 0 ∨ x.sourceAmount = 0 ∨ x.transactionFee = 0 := by
  obtain ⟨hreserves, -⟩ := reserveBlock_reserves hfresh hreserve
  obtain ⟨hreserved, hcompany⟩ := h.cancelled hwallet
  rw [← x.sourceFee_eq_zero_iff]
  constructor
  · intro hundone
    have hdelta := hundone.wallet
    rw [hreserved, hreserves.wallet, Execution.totalSource] at hdelta
    omega
  · intro hfee
    constructor
    · rw [hreserved, hreserves.wallet, Execution.totalSource, hfee]
      omega
    · rw [hcompany, hreserves.company]
      omega

/-- User 1 has 0.01 BTC, and the company too. -/
def stackOwner : Ledger :=
  { Ledger.empty with
    wallets := (∅ : Table WalletKey Wallet).insert (1, .btc)
      { Wallet.empty with
        currencyId := some .btc, baseBalance := 1000000, defaultNetwork := some .btc }
    companyLiquidity := (∅ : Table Currency CompanyLiquidity).insert .btc
      { CompanyLiquidity.empty with totalBalance := 1000000 } }

/-- An execution that swaps 0.001 BTC into 60 USDT, with a fee in whole USDT. -/
def stackOfBtc (transactionFee : Nat) : Execution :=
  ⟨1, 4, 2, 12, .btc, 100000, 60 * 10 ^ 18, transactionFee * 10 ^ 18, true⟩

def createdStack (transactionFee : Nat) : Ledger :=
  (createBlock (stackOfBtc transactionFee)).commit stackOwner

def reservedStack (transactionFee : Nat) : Ledger :=
  (reserveBlock (stackOfBtc transactionFee) (stackOfBtc transactionFee).metadata).commit
    (createdStack transactionFee)

/-- The metadata that the reservation leaves. -/
def stackMetadata (transactionFee : Nat) : PaymentMetadata :=
  reserved (stackOfBtc transactionFee).metadata 100000

theorem free_stack_undone :
    Undone (stackOfBtc 0).key .btc (createdStack 0) (reservedStack 0) (reservedStack 0)
      ((cancelBlock (stackOfBtc 0) (stackMetadata 0)).commit (reservedStack 0)) := by
  have hreserve : (reserveBlock (stackOfBtc 0) (stackOfBtc 0).metadata).result (createdStack 0) =
      some () := by decide +kernel
  have hfresh : alreadyReserved (stackOfBtc 0).metadata 100000 = false := by decide
  have hunsigned : Unsigned (stackOfBtc 0).key .btc 100000 (createdStack 0) :=
    ⟨by decide +kernel, .inr (by decide +kernel)⟩
  have hopen : (stackOfBtc 0).Open (stackMetadata 0) (reservedStack 0) :=
    reserveBlock_open hfresh (result_eq_some.mp hreserve) hunsigned (by decide +kernel)
  exact (cancelPending_undoes_iff _ _ _ _ _ _ rfl hfresh (result_eq_some.mp hreserve) hopen).mpr
    (by decide)

/-- With a fee of one USDT, 101667 units are reserved and 100000 of them released. -/
theorem cancelled_stack_keeps_fee :
    ¬ ∀ (x : Execution) (metadata metadata' : PaymentMetadata) (L M K : Ledger),
      x.cryptoWalletPayment = true → alreadyReserved metadata x.sourceAmount = false →
      (reserveBlock x metadata).Commits L () M → x.Open metadata' K →
      Undone x.key x.sourceAsset L M K ((cancelBlock x metadata').commit K) := by
  intro h
  have hreserve : (reserveBlock (stackOfBtc 1) (stackOfBtc 1).metadata).result
      (createdStack 1) = some () := by decide +kernel
  have hfresh : alreadyReserved (stackOfBtc 1).metadata 100000 = false := by decide
  have hunsigned : Unsigned (stackOfBtc 1).key .btc 100000 (createdStack 1) :=
    ⟨by decide +kernel, .inr (by decide +kernel)⟩
  have hopen : (stackOfBtc 1).Open (stackMetadata 1) (reservedStack 1) :=
    reserveBlock_open hfresh (result_eq_some.mp hreserve) hunsigned (by decide +kernel)
  have hundone := h _ _ _ _ _ _ rfl hfresh (result_eq_some.mp hreserve) hopen
  obtain ⟨hwallet, -⟩ := Undone.restored.mp hundone
  have hcancelled : ((cancelBlock (stackOfBtc 1) (stackMetadata 1)).commit
      (reservedStack 1)).reservedBalance (1, .btc) = 1667 := by decide +kernel
  have hbefore : (createdStack 1).reservedBalance (1, .btc) = 0 := by decide +kernel
  exact absurd (hcancelled.symm.trans (hwallet.trans hbefore)) (by decide)

end AutoStackService

end ExchangeLedger
