import ExchangeLedger.FailedLiquidity
import ExchangeLedger.SellAmounts
import ExchangeLedger.Vault

set_option autoImplicit false

/-! Confirmations of sells, swaps and BTC vaults after their funds are reserved: every answer of
the provider, with every fault of the database transaction that follows it. -/

namespace ExchangeLedger

open Block

/-- A database transaction that is carried out, or not at all. -/
def storeIf (stored : Bool) (x : LedgerBlock Unit) (L : Ledger) : Ledger :=
  if stored then x.commit L else L

/-- What a compensation needs: the wallet and the company hold what was reserved. -/
def Held (k : WalletKey) (network : PinnedNetwork) (amount : Nat) (c : Currency)
    (liquidity : Nat) (L : Ledger) : Prop :=
  (∃ w, L.wallets.lookup k = some w ∧ network.agrees w ∧ (amount : Int) ≤ w.reservedBalance) ∧
    (liquidity = 0 ∨ ∃ r, L.companyLiquidity.lookup c = some r ∧
      (liquidity : Int) ≤ r.reservedBalance)

/-- Since `L` these amounts were reserved. -/
structure Reserves (k : WalletKey) (network : PinnedNetwork) (amount : Nat) (c : Currency)
    (liquidity : Nat) (L M : Ledger) : Prop where
  wallet : M.reservedBalance k = L.reservedBalance k + amount
  walletRow : ∃ w, M.wallets.lookup k = some w ∧ network.agrees w
  company : M.reservedLiquidity c = L.reservedLiquidity c + liquidity
  companyRow : liquidity ≠ 0 → ∃ r, M.companyLiquidity.lookup c = some r

/-- The reserved columns that a compensation lowers were not negative; they never are. -/
def Unsigned (k : WalletKey) (c : Currency) (liquidity : Nat) (L : Ledger) : Prop :=
  0 ≤ L.reservedBalance k ∧ (liquidity = 0 ∨ 0 ≤ L.reservedLiquidity c)

/-- Both reservations are gone again, and the transaction is FAILED. -/
structure Released (k : WalletKey) (c : Currency) (id : TransactionId) (L M : Ledger) : Prop where
  wallet : M.reservedBalance k = L.reservedBalance k
  company : M.reservedLiquidity c = L.reservedLiquidity c
  transaction : ∃ t, M.transactions.lookup id = some t ∧ t.status = .FAILED

/-- What was reserved from `L` to `M` is released from `K` to `N`; with `M` for `K`, both columns
are in `N` what they were in `L`. -/
structure Undone (k : WalletKey) (c : Currency) (L M K N : Ledger) : Prop where
  wallet : N.reservedBalance k =
    K.reservedBalance k - (M.reservedBalance k - L.reservedBalance k)
  company : N.reservedLiquidity c =
    K.reservedLiquidity c - (M.reservedLiquidity c - L.reservedLiquidity c)

theorem Undone.restored {k : WalletKey} {c : Currency} {L M N : Ledger} :
    Undone k c L M M N ↔ N.reservedBalance k = L.reservedBalance k ∧
      N.reservedLiquidity c = L.reservedLiquidity c := by
  constructor
  · intro h
    have hwallet := h.wallet
    have hcompany := h.company
    omega
  · rintro ⟨hwallet, hcompany⟩
    constructor <;> omega

theorem Reserves.held_iff {k : WalletKey} {network : PinnedNetwork} {amount : Nat} {c : Currency}
    {liquidity : Nat} {L M : Ledger} (h : Reserves k network amount c liquidity L M) :
    Held k network amount c liquidity M ↔ Unsigned k c liquidity L := by
  obtain ⟨w, hw, hagrees⟩ := h.walletRow
  have hwallet := h.wallet
  have hcompany := h.company
  rw [Ledger.reservedBalance_of_lookup hw] at hwallet
  unfold Held Unsigned
  by_cases h0 : liquidity = 0
  · simp only [h0, hw, true_or, and_true, Option.some.injEq, exists_eq_left', hagrees, true_and]
    omega
  · obtain ⟨r, hr⟩ := h.companyRow h0
    rw [Ledger.reservedLiquidity_of_lookup hr] at hcompany
    simp only [h0, hw, hr, false_or, Option.some.injEq, exists_eq_left', hagrees, true_and]
    omega

theorem releaseBalance_of_held {k : WalletKey} {network : PinnedNetwork} {amount : Nat}
    {c : Currency} {liquidity : Nat} {L : Ledger} (h : Held k network amount c liquidity L) :
    ∃ M, (releaseBalance k.1 k.2 amount network).Commits L () M ∧
      M.companyLiquidity = L.companyLiquidity := by
  obtain ⟨⟨w, hw, hagrees, hle⟩, -⟩ := h
  exact ⟨_, releaseBalance_commits.mpr ⟨w, hw, hagrees, hle, rfl⟩, rfl⟩

theorem releaseLiquidity_of_held {k : WalletKey} {network : PinnedNetwork} {amount : Nat}
    {c : Currency} {liquidity : Nat} {L A : Ledger} (h : Held k network amount c liquidity L)
    (hA : A.companyLiquidity = L.companyLiquidity) :
    ∃ M, (releaseLiquidity c liquidity).Commits A () M := by
  by_cases h0 : liquidity = 0
  · exact ⟨A, releaseLiquidity_commits.mpr (.inl ⟨h0, rfl⟩)⟩
  · obtain ⟨r, hr, hle⟩ := h.2.resolve_left h0
    rw [← hA] at hr
    exact ⟨_, releaseLiquidity_commits.mpr (.inr ⟨h0, r, hr, hle, rfl⟩)⟩

theorem released_of_commits {k : WalletKey} {network : PinnedNetwork} {amount : Nat}
    {c : Currency} {liquidity : Nat} {L A B M : Ledger} {u v : Unit}
    (hbalance : (releaseBalance k.1 k.2 amount network).Commits L u A)
    (hB : B.toBooks = A.toBooks)
    (hliquidity : (releaseLiquidity c liquidity).Commits B v M) :
    Held k network amount c liquidity L ∧
      M.reservedBalance k = L.reservedBalance k - amount ∧
      M.reservedLiquidity c = L.reservedLiquidity c - liquidity := by
  obtain ⟨w, hw, hagrees, hle, rfl⟩ := releaseBalance_commits.mp hbalance
  have hwallets : B.wallets = L.wallets.insert k
      { w with reservedBalance := w.reservedBalance - amount } := congrArg Books.wallets hB
  have hcompany : B.companyLiquidity = L.companyLiquidity := (congrArg Books.companyLiquidity hB :)
  have hreserved := releaseLiquidity_reserved hliquidity c
  have hframe := (releaseLiquidity_frame hliquidity).1
  refine ⟨⟨⟨w, hw, hagrees, hle⟩, ?_⟩, ?_, ?_⟩
  · rcases releaseLiquidity_commits.mp hliquidity with ⟨h0, -⟩ | ⟨-, r, hr, hle, -⟩
    · exact .inl h0
    · rw [hcompany] at hr
      exact .inr ⟨r, hr, hle⟩
  · rw [hframe]
    show (B.wallets.lookup k).elim 0 Wallet.reservedBalance = _
    rw [hwallets]
    have hw' : L.wallets.lookup k = some w := hw
    simp [Ledger.reservedBalance, hw']
  · rw [hreserved, if_pos rfl]
    unfold Ledger.reservedLiquidity
    rw [hcompany]

/-- `x` gives both reservations back and fails the transaction, where they are held. -/
structure Compensates (x : LedgerBlock Unit) (k : WalletKey) (network : PinnedNetwork)
    (amount : Nat) (c : Currency) (liquidity : Nat) (id : TransactionId) : Prop where
  commits : ∀ M u N, x.Commits M u N → Held k network amount c liquidity M ∧
    N.reservedBalance k = M.reservedBalance k - amount ∧
    N.reservedLiquidity c = M.reservedLiquidity c - liquidity ∧
    ∃ f, (∀ t, (f t).status = TransactionStatus.FAILED) ∧
      N.transactions = M.transactions.modify id f
  of_held : ∀ M, Held k network amount c liquidity M → ∃ N, x.Commits M () N

/-- The transaction's row is there and not failed. -/
def Open (id : TransactionId) (M : Ledger) : Prop :=
  ∃ t, M.transactions.lookup id = some t ∧ t.status ≠ .FAILED

theorem Open.not_released {id : TransactionId} {M : Ledger} (h : Open id M) {k : WalletKey}
    {c : Currency} {L : Ledger} : ¬ Released k c id L M := by
  intro hreleased
  obtain ⟨t, ht, hopen⟩ := h
  obtain ⟨u, hu, hfailed⟩ := hreleased.transaction
  rw [ht] at hu
  cases hu
  exact hopen hfailed

theorem Compensates.released_iff {x : LedgerBlock Unit} {k : WalletKey} {network : PinnedNetwork}
    {amount : Nat} {c : Currency} {liquidity : Nat} {id : TransactionId}
    (hx : Compensates x k network amount c liquidity id) {L M : Ledger}
    (h : Reserves k network amount c liquidity L M) (hopen : Open id M) :
    Released k c id L (x.commit M) ↔ Unsigned k c liquidity L := by
  rw [← h.held_iff]
  constructor
  · intro hreleased
    rcases x.commit_cases M with hsame | ⟨u, hN⟩
    · rw [hsame] at hreleased
      exact absurd hreleased hopen.not_released
    · exact (hx.commits _ _ _ hN).1
  · intro hheld
    obtain ⟨N, hN⟩ := hx.of_held M hheld
    obtain ⟨-, hwallet, hcompany, f, hf, htransactions⟩ := hx.commits _ _ _ hN
    obtain ⟨t, ht, -⟩ := hopen
    rw [commit_of_commits hN]
    constructor
    · rw [hwallet, h.wallet]
      omega
    · rw [hcompany, h.company]
      omega
    · exact ⟨f t, by rw [htransactions, Table.lookup_modify_self, ht]; rfl, hf t⟩

theorem Compensates.not_released {x : LedgerBlock Unit} {k : WalletKey} {network : PinnedNetwork}
    {amount : Nat} {c : Currency} {liquidity : Nat} {id : TransactionId}
    (hx : Compensates x k network amount c liquidity id) (hliquidity : liquidity ≠ 0)
    {L M : Ledger} (h : M.reservedLiquidity c = L.reservedLiquidity c) (hopen : Open id M) :
    ¬ Released k c id L (x.commit M) := by
  intro hreleased
  rcases x.commit_cases M with hsame | ⟨u, hN⟩
  · rw [hsame] at hreleased
    exact hopen.not_released hreleased
  · obtain ⟨-, -, hcompany, -⟩ := hx.commits _ _ _ hN
    have hequal := hreleased.company
    omega

theorem Compensates.open_or_failed {x : LedgerBlock Unit} {k : WalletKey}
    {network : PinnedNetwork} {amount : Nat} {c : Currency} {liquidity : Nat} {id : TransactionId}
    (hx : Compensates x k network amount c liquidity id) {M : Ledger} (hopen : Open id M) :
    x.commit M = M ∨
      ∃ t, (x.commit M).transactions.lookup id = some t ∧ t.status = .FAILED := by
  rcases x.commit_cases M with hsame | ⟨u, hN⟩
  · exact .inl hsame
  · obtain ⟨-, -, -, f, hf, htransactions⟩ := hx.commits _ _ _ hN
    obtain ⟨t, ht, -⟩ := hopen
    exact .inr ⟨f t, by rw [htransactions, Table.lookup_modify_self, ht]; rfl, hf t⟩

namespace SellService

/-- The availability check on the cached Paystack balance, which can throw. -/
inductive PaystackCheck where
  | throws | short | enough
  deriving DecidableEq, Repr

/-- The answer to the order: an exception or a timeout, a status other than success, a success
without data, or a success with `reference || id`. -/
inductive OrderAnswer where
  | throws | refused | malformed
  | success (providerReference : Option Reference)
  deriving DecidableEq, Repr

structure Outcome where
  paystack : PaystackCheck
  order : OrderAnswer
  /-- Whether the database transaction that follows goes through. -/
  stored : Bool
  deriving DecidableEq, Repr

/-- `confirmSell` from its reservation to its end. Nothing around the order catches. -/
def afterReserve (q : Confirm) (id : TransactionId) (o : Outcome) (L : Ledger) : Ledger :=
  match o.paystack, o.order with
  | .throws, _ => L
  | .short, _ => storeIf o.stored (paystackShortBlock q id) L
  | .enough, .throws | .enough, .malformed => L
  | .enough, .refused => storeIf o.stored (rejectedBlock q id) L
  | .enough, .success providerReference => storeIf o.stored (recordBlock id providerReference) L

/-- The order's row names the provider's order. -/
def Recorded (id : TransactionId) (o : Outcome) (M : Ledger) : Prop :=
  ∃ providerReference order, o.paystack = .enough ∧ o.order = .success (some providerReference) ∧
    M.orders.lookup id = some order ∧ order.referenceNo = some providerReference

/-- The sell waits for liquidity, with a record that the retries and the expiry work on. -/
structure Queued (id : TransactionId) (L M : Ledger) : Prop where
  record : (M.failedCompanyLiquidity.lookup id).isSome = true
  company : M.reservedLiquidity BASE_CURRENCY = L.reservedLiquidity BASE_CURRENCY
  transaction : ∃ t, M.transactions.lookup id = some t ∧
    FailedCompanyLiquidity.isRetryable t = true ∧
    t.paymentMetadata.liquidityReservationStatus = some .INSUFFICIENT

/-- Something can still close what was reserved since `L`, or has. -/
def Settleable (q : Confirm) (id : TransactionId) (o : Outcome) (L M : Ledger) : Prop :=
  Recorded id o M ∨ Released q.key BASE_CURRENCY id L M ∨ Queued id L M

/-- The outcomes after which that holds. -/
def Outcome.Handled (q : Confirm) (L : Ledger) (o : Outcome) : Prop :=
  match o.paystack, o.order with
  | .throws, _ => False
  | .short, _ => o.stored = true ∧ (q.netFiat = 0 ∨ 0 ≤ L.reservedLiquidity BASE_CURRENCY)
  | .enough, .throws | .enough, .malformed | .enough, .success none => False
  | .enough, .refused => o.stored = true ∧ Unsigned q.key BASE_CURRENCY q.netFiat L
  | .enough, .success (some providerReference) =>
    o.stored = true ∨ providerReference = q.previewId

/-- What the reservation leaves: the reserved funds and both rows. -/
structure Confirmed (q : Confirm) (id : TransactionId) (L M : Ledger) : Prop where
  reserves : Reserves q.key none q.total BASE_CURRENCY q.netFiat L M
  transaction : ∃ t, M.transactions.lookup id = some t ∧ FailedCompanyLiquidity.isRetryable t ∧
    t.paymentMetadata.liquidityReservationStatus = some .RESERVED
  order : ∃ order, M.orders.lookup id = some order ∧ order.referenceNo = some q.previewId

theorem confirmBlock_confirmed {q : Confirm} {id : TransactionId} {L M : Ledger}
    (h : (confirmBlock q id).Commits L .reserved M) : Confirmed q id L M := by
  simp only [confirmBlock, commits_requireMinimum_bind, commits_read_bind] at h
  replace h := h.2
  split at h
  · simp at h
  · obtain ⟨_, A, hreserve, h⟩ := commits_bind.mp h
    obtain ⟨w, hw, -, -, rfl⟩ := reserveBalance_commits.mp hreserve
    rw [commits_read_bind] at h
    generalize decide ((q.netFiat : Int) ≤ getAvailableLiquidity _ BASE_CURRENCY) = liquid at h
    obtain ⟨_, B, htransaction, h⟩ := commits_bind.mp h
    obtain ⟨-, -, rfl⟩ := insertTransaction_commits.mp htransaction
    simp only [createOrder, commits_update_bind] at h
    split at h
    · obtain ⟨reserved, C, hliquidity, h⟩ := commits_bind.mp h
      cases reserved with
      | false =>
        obtain ⟨_, D, -, h⟩ := commits_bind.mp h
        simp at h
      | true =>
        rcases updateCompany_commits.mp hliquidity with ⟨r, hr, -, -, rfl⟩ | ⟨-, hfalse, -⟩
        · simp only [updateTransaction, if_true, commits_update_bind, commits_pure] at h
          rw [← h.2]
          have hkey : L.wallets.lookup q.key = some w := hw
          have hcompany : L.companyLiquidity.lookup BASE_CURRENCY = some r := hr
          constructor
          · constructor
            · rw [Ledger.reservedBalance_of_lookup hkey]
              simp [Ledger.reservedBalance, Ledger.setWallet, Ledger.setCompany, Confirm.key]
            · exact ⟨_, AList.lookup_insert _, .inl rfl⟩
            · rw [Ledger.reservedLiquidity_of_lookup hcompany]
              simp [Ledger.reservedLiquidity, Ledger.setCompany]
            · exact fun _ => ⟨_, AList.lookup_insert _⟩
          · exact ⟨setReservationStatus .RESERVED (q.transaction liquid).row,
              by simp [Ledger.setCompany], rfl, rfl⟩
          · exact ⟨q.order liquid, AList.lookup_insert _, rfl⟩
        · cases hfalse
    · obtain ⟨_, D, -, h⟩ := commits_bind.mp h
      simp at h

section Outcomes

variable {q : Confirm} {id : TransactionId} {L M N : Ledger}

theorem rejectedBlock_compensates (q : Confirm) (id : TransactionId) :
    Compensates (rejectedBlock q id) q.key none q.total BASE_CURRENCY q.netFiat id := by
  constructor
  · intro M u N h
    simp only [rejectedBlock, commits_bind, updateTransaction, updateOrder, commits_update] at h
    obtain ⟨_, A, hbalance, _, B, hliquidity, _, _, rfl, rfl⟩ := h
    obtain ⟨hheld, hwallet, hcompany⟩ :=
      released_of_commits (k := q.key) hbalance (show A.toBooks = A.toBooks from rfl) hliquidity
    have hA := congrArg Ledger.transactions
      (releaseBalance_onBalances _ _ _ _ _ _ _ _ rfl hbalance)
    have hB := congrArg Ledger.transactions
      (releaseLiquidity_onBalances _ _ _ _ _ _ rfl hliquidity)
    refine ⟨hheld, hwallet, hcompany, fun t => { setReservationStatus .RELEASED t with
      status := .FAILED, isProcessed := true }, fun _ => rfl, ?_⟩
    show B.transactions.modify id _ = _
    rw [show B.transactions = A.transactions from hB,
      show A.transactions = M.transactions from hA]
  · intro M h
    obtain ⟨A, hbalance, hA⟩ := releaseBalance_of_held h
    obtain ⟨B, hliquidity⟩ := releaseLiquidity_of_held h hA
    simp only [rejectedBlock, commits_bind, updateTransaction, updateOrder, commits_update]
    exact ⟨_, (), A, hbalance, (), B, hliquidity, (), _, rfl, rfl⟩

theorem Confirmed.open (h : Confirmed q id L M) : Open id M := by
  obtain ⟨t, ht, hretryable, -⟩ := h.transaction
  refine ⟨t, ht, fun hfailed => ?_⟩
  simp [FailedCompanyLiquidity.isRetryable, hfailed] at hretryable

theorem Confirmed.not_queued (h : Confirmed q id L M) : ¬ Queued id L M := by
  intro hqueued
  obtain ⟨t, ht, -, hreserved⟩ := h.transaction
  obtain ⟨u, hu, -, hinsufficient⟩ := hqueued.transaction
  rw [ht] at hu
  cases hu
  rw [hreserved] at hinsufficient
  cases hinsufficient

theorem Confirmed.settleable_iff (h : Confirmed q id L M) (o : Outcome) :
    Settleable q id o L M ↔
      o.paystack = .enough ∧ o.order = .success (some q.previewId) := by
  obtain ⟨order, horder, hreference⟩ := h.order
  unfold Settleable
  constructor
  · intro hsettleable
    rcases hsettleable with ⟨r, row, hpaystack, hsuccess, hrow, hr⟩ | hreleased | hqueued
    · rw [horder] at hrow
      cases hrow
      rw [hreference] at hr
      cases hr
      exact ⟨hpaystack, hsuccess⟩
    · exact absurd hreleased h.open.not_released
    · exact absurd hqueued h.not_queued
  · intro hboth
    exact .inl ⟨_, order, hboth.1, hboth.2, horder, hreference⟩

theorem Confirmed.refused_iff (h : Confirmed q id L M) {o : Outcome} (ho : o.order = .refused) :
    Settleable q id o L ((rejectedBlock q id).commit M) ↔
      Unsigned q.key BASE_CURRENCY q.netFiat L := by
  have hx := rejectedBlock_compensates q id
  rw [← hx.released_iff h.reserves h.open]
  constructor
  · intro hsettleable
    rcases hsettleable with ⟨r, row, -, hsuccess, -⟩ | hreleased | hqueued
    · rw [ho] at hsuccess
      cases hsuccess
    · exact hreleased
    · rcases hx.open_or_failed h.open with hsame | ⟨t, ht, hfailed⟩
      · rw [hsame] at hqueued
        exact absurd hqueued h.not_queued
      · obtain ⟨u, hu, hretryable, -⟩ := hqueued.transaction
        rw [ht] at hu
        cases hu
        simp [FailedCompanyLiquidity.isRetryable, hfailed] at hretryable
  · exact fun hreleased => .inr (.inl hreleased)

theorem Confirmed.short_iff (h : Confirmed q id L M) {o : Outcome} (ho : o.paystack = .short) :
    Settleable q id o L ((paystackShortBlock q id).commit M) ↔
      (q.netFiat = 0 ∨ 0 ≤ L.reservedLiquidity BASE_CURRENCY) := by
  have hcompany := h.reserves.company
  rcases (paystackShortBlock q id).commit_cases M with hsame | ⟨u, hN⟩
  · rw [hsame, h.settleable_iff, ho]
    refine iff_of_false (fun hboth => by cases hboth.1) fun hunsigned => ?_
    -- the release would have gone through
    have hrelease : ∃ A, (releaseLiquidity BASE_CURRENCY q.netFiat).Commits M () A := by
      by_cases h0 : q.netFiat = 0
      · exact ⟨M, releaseLiquidity_commits.mpr (.inl ⟨h0, rfl⟩)⟩
      · obtain ⟨r, hr⟩ := h.reserves.companyRow h0
        rw [Ledger.reservedLiquidity_of_lookup hr] at hcompany
        have hpos := hunsigned.resolve_left h0
        exact ⟨_, releaseLiquidity_commits.mpr (.inr ⟨h0, r, hr, by omega, rfl⟩)⟩
    obtain ⟨A, hA⟩ := hrelease
    have hcommits : (paystackShortBlock q id).Commits M ()
        { A with
          failedCompanyLiquidity :=
            A.failedCompanyLiquidity.insert id ⟨BASE_CURRENCY, q.netFiat⟩
          transactions := A.transactions.modify id (setReservationStatus .INSUFFICIENT) } := by
      simp only [paystackShortBlock, commits_bind, upsertFailedCompanyLiquidity,
        updateTransaction, commits_update]
      exact ⟨(), A, hA, (), _, rfl, rfl⟩
    have htransactions := congrArg Ledger.transactions
      (releaseLiquidity_onBalances _ _ _ _ _ _ rfl hA)
    obtain ⟨t, ht, -, hreserved⟩ := h.transaction
    have hlookup : A.transactions.lookup id = some t := by
      rw [show A.transactions = M.transactions from htransactions, ht]
    have hrow := congrArg (fun L => L.transactions.lookup id)
      ((commit_of_commits hcommits).symm.trans hsame)
    simp only [Table.lookup_modify_self, hlookup, ht, Option.map_some, Option.some.injEq] at hrow
    rw [← hrow] at hreserved
    cases hreserved
  · generalize (paystackShortBlock q id).commit M = N at hN
    simp only [paystackShortBlock, commits_bind, upsertFailedCompanyLiquidity,
      updateTransaction, commits_update] at hN
    obtain ⟨_, A, hA, _, _, rfl, rfl⟩ := hN
    have htransactions := congrArg Ledger.transactions
      (releaseLiquidity_onBalances _ _ _ _ _ _ rfl hA)
    have hreserved := releaseLiquidity_reserved hA BASE_CURRENCY
    rw [if_pos rfl] at hreserved
    obtain ⟨t, ht, hretryable, -⟩ := h.transaction
    refine iff_of_true (.inr (.inr ⟨?_, ?_, ?_⟩)) ?_
    · simp
    · show A.reservedLiquidity BASE_CURRENCY = _
      omega
    · refine ⟨setReservationStatus .INSUFFICIENT t, ?_, hretryable, rfl⟩
      rw [Table.lookup_modify_self, show A.transactions = M.transactions from htransactions, ht]
      rfl
    · rcases releaseLiquidity_commits.mp hA with ⟨h0, -⟩ | ⟨-, r, hr, hle, -⟩
      · exact .inl h0
      · rw [Ledger.reservedLiquidity_of_lookup hr] at hcompany
        exact .inr (by omega)

theorem recordBlock_commit (providerReference : Option Reference) :
    (recordBlock id providerReference).commit M = { M with
      orders := M.orders.modify id (fun o => { o with
        referenceNo := providerReference.or o.referenceNo }) } := rfl

theorem Confirmed.recordNothing (h : Confirmed q id L M) :
    Confirmed q id L ((recordBlock id none).commit M) := by
  obtain ⟨order, horder, hreference⟩ := h.order
  rw [recordBlock_commit]
  exact ⟨⟨h.reserves.wallet, h.reserves.walletRow, h.reserves.company, h.reserves.companyRow⟩,
    h.transaction, ⟨order, by simp [horder], hreference⟩⟩

theorem Confirmed.recorded (h : Confirmed q id L M) {o : Outcome} {providerReference : Reference}
    (hpaystack : o.paystack = .enough) (horder : o.order = .success (some providerReference)) :
    Settleable q id o L ((recordBlock id (some providerReference)).commit M) := by
  obtain ⟨order, hrow, -⟩ := h.order
  rw [recordBlock_commit]
  exact .inl ⟨providerReference, { order with referenceNo := some providerReference }, hpaystack,
    horder, by simp [hrow], rfl⟩

theorem Confirmed.afterReserve_iff (h : Confirmed q id L M) (o : Outcome) :
    Settleable q id o L (afterReserve q id o M) ↔ o.Handled q L := by
  have hkept := h.settleable_iff o
  obtain ⟨paystack, order, stored⟩ := o
  cases paystack with
  | throws =>
    rw [show afterReserve q id _ M = M from rfl, hkept]
    simp [Outcome.Handled]
  | short =>
    cases stored with
    | true => simpa [afterReserve, storeIf, Outcome.Handled] using h.short_iff rfl
    | false =>
      rw [show afterReserve q id _ M = M from rfl, hkept]
      simp [Outcome.Handled]
  | enough =>
    cases order with
    | throws | malformed =>
      rw [show afterReserve q id _ M = M from rfl, hkept]
      simp [Outcome.Handled]
    | refused =>
      cases stored with
      | true => simpa [afterReserve, storeIf, Outcome.Handled] using h.refused_iff rfl
      | false =>
        rw [show afterReserve q id _ M = M from rfl, hkept]
        simp [Outcome.Handled]
    | success providerReference =>
      cases providerReference with
      | none =>
        have hsame : Settleable q id ⟨.enough, .success none, stored⟩ L
            (afterReserve q id ⟨.enough, .success none, stored⟩ M) ↔ False := by
          cases stored with
          | true =>
            show Settleable q id _ L ((recordBlock id none).commit M) ↔ False
            rw [h.recordNothing.settleable_iff]
            simp
          | false =>
            rw [show afterReserve q id _ M = M from rfl, hkept]
            simp
        simpa [Outcome.Handled] using hsame
      | some providerReference =>
        cases stored with
        | true =>
          have hrecorded := h.recorded (o := ⟨.enough, .success (some providerReference), true⟩)
            rfl rfl
          exact iff_of_true hrecorded (.inl rfl)
        | false =>
          rw [show afterReserve q id _ M = M from rfl, hkept]
          simp [Outcome.Handled]

end Outcomes

end SellService

namespace SwapService

def Confirm.key (q : Confirm) : WalletKey := (q.userId, q.fromCurrency)

/-- The answer to the swap's confirmation: an exception or a timeout, a payload that lacks one of
the fields that are checked, or a swap. -/
inductive ConfirmAnswer where
  | throws | malformed
  | success (swapId : Reference) (received : Nat)
  deriving DecidableEq, Repr

structure Outcome where
  answer : ConfirmAnswer
  /-- Whether the database transaction that follows goes through. -/
  stored : Bool
  deriving DecidableEq, Repr

/-- `confirmSwap` from its reservation to its end. Nothing is released where the records of a
confirmed swap cannot be stored. -/
def afterReserve (q : Confirm) (id : TransactionId) (swapRecordId : SwapRecordId) (o : Outcome)
    (L : Ledger) : Ledger :=
  match o.answer with
  | .throws | .malformed => storeIf o.stored (releaseBlock q id) L
  | .success swapId received => storeIf o.stored (recordBlock q id swapRecordId swapId received) L

/-- The swap's row names the provider's swap. -/
def Recorded (swapRecordId : SwapRecordId) (o : Outcome) (M : Ledger) : Prop :=
  ∃ swapId received swap, o.answer = .success swapId received ∧
    M.swaps.lookup swapRecordId = some swap ∧ swap.swapId = some swapId

def Settleable (q : Confirm) (id : TransactionId) (swapRecordId : SwapRecordId) (o : Outcome)
    (L M : Ledger) : Prop :=
  Recorded swapRecordId o M ∨ Released q.key q.fromCurrency id L M

/-- The outcomes after which that holds. -/
def Outcome.Handled (q : Confirm) (L : Ledger) (o : Outcome) : Prop :=
  o.stored = true ∧ match o.answer with
    | .throws | .malformed => Unsigned q.key q.fromCurrency q.exactFrom L
    | .success _ _ => True

structure Confirmed (q : Confirm) (id : TransactionId) (L M : Ledger) : Prop where
  reserves : Reserves q.key (some q.walletDefaultNetwork) q.reserved q.fromCurrency q.exactFrom L M
  transaction : Open id M
  swaps : M.swaps = L.swaps

theorem confirmBlock_confirmed {q : Confirm} {id : TransactionId} {L M : Ledger}
    (h : (confirmBlock q id).Commits L true M) : Confirmed q id L M := by
  obtain ⟨-, h⟩ := commits_requireMinimum_bind.mp h
  simp only [createTransaction, commits_bind, insertTransaction_commits,
    reserveBalance_commits] at h
  obtain ⟨_, _, ⟨-, -, rfl⟩, _, _, ⟨w, hw, hagrees, -, rfl⟩, reserved, C, hliquidity, h⟩ := h
  cases reserved with
  | false =>
    obtain ⟨_, D, -, h⟩ := commits_bind.mp h
    simp at h
  | true =>
    rw [← (commits_pure.mp h).2]
    rcases updateCompany_commits.mp hliquidity with ⟨r, hr, -, -, rfl⟩ | ⟨-, hfalse, -⟩
    · have hkey : L.wallets.lookup q.key = some w := hw
      have hcompany : L.companyLiquidity.lookup q.fromCurrency = some r := hr
      constructor
      · constructor
        · rw [Ledger.reservedBalance_of_lookup hkey]
          simp [Ledger.reservedBalance, Ledger.setWallet, Ledger.setCompany, Confirm.key]
        · exact ⟨_, AList.lookup_insert _, hagrees⟩
        · rw [Ledger.reservedLiquidity_of_lookup hcompany]
          simp [Ledger.reservedLiquidity, Ledger.setCompany]
        · exact fun _ => ⟨_, AList.lookup_insert _⟩
      · exact ⟨q.transaction.row, AList.lookup_insert _, fun hstatus => by cases hstatus⟩
      · rfl
    · cases hfalse

theorem releaseBlock_compensates (q : Confirm) (id : TransactionId) :
    Compensates (releaseBlock q id) q.key (some q.walletDefaultNetwork) q.reserved q.fromCurrency
      q.exactFrom id := by
  constructor
  · intro M u N h
    simp only [releaseBlock, commits_bind, updateTransaction, commits_update] at h
    obtain ⟨_, A, hbalance, _, B, hliquidity, rfl⟩ := h
    obtain ⟨hheld, hwallet, hcompany⟩ :=
      released_of_commits (k := q.key) hbalance (show A.toBooks = A.toBooks from rfl) hliquidity
    have hA := congrArg Ledger.transactions
      (releaseBalance_onBalances _ _ _ _ _ _ _ _ rfl hbalance)
    have hB := congrArg Ledger.transactions
      (releaseLiquidity_onBalances _ _ _ _ _ _ rfl hliquidity)
    refine ⟨hheld, hwallet, hcompany, fun t => { t with
      status := .FAILED, isProcessed := true }, fun _ => rfl, ?_⟩
    show B.transactions.modify id _ = _
    rw [show B.transactions = A.transactions from hB,
      show A.transactions = M.transactions from hA]
  · intro M h
    obtain ⟨A, hbalance, hA⟩ := releaseBalance_of_held h
    obtain ⟨B, hliquidity⟩ := releaseLiquidity_of_held h hA
    simp only [releaseBlock, commits_bind, updateTransaction, commits_update]
    exact ⟨_, (), A, hbalance, (), B, hliquidity, rfl⟩

section Outcomes

variable {q : Confirm} {id : TransactionId} {swapRecordId : SwapRecordId} {L M : Ledger}

theorem Confirmed.not_settleable (h : Confirmed q id L M)
    (hnew : L.swaps.lookup swapRecordId = none) (o : Outcome) :
    ¬ Settleable q id swapRecordId o L M := by
  intro hsettleable
  rcases hsettleable with ⟨swapId, received, swap, -, hswap, -⟩ | hreleased
  · rw [h.swaps, hnew] at hswap
    cases hswap
  · exact h.transaction.not_released hreleased

theorem Confirmed.refused_iff (h : Confirmed q id L M) {o : Outcome}
    (ho : ∀ swapId received, o.answer ≠ .success swapId received) :
    Settleable q id swapRecordId o L ((releaseBlock q id).commit M) ↔
      Unsigned q.key q.fromCurrency q.exactFrom L := by
  rw [← (releaseBlock_compensates q id).released_iff h.reserves h.transaction]
  constructor
  · intro hsettleable
    rcases hsettleable with ⟨swapId, received, swap, hsuccess, -⟩ | hreleased
    · exact absurd hsuccess (ho swapId received)
    · exact hreleased
  · exact fun hreleased => .inr hreleased

theorem Confirmed.recorded (h : Confirmed q id L M) (hnew : L.swaps.lookup swapRecordId = none)
    {o : Outcome} {swapId : Reference} {received : Nat} (ho : o.answer = .success swapId received) :
    Settleable q id swapRecordId o L
      ((recordBlock q id swapRecordId swapId received).commit M) := by
  have hcommits : (recordBlock q id swapRecordId swapId received).Commits M ()
      { M with
        transactions := M.transactions.modify id (fun t => { t with
          transactionUniqueId := swapId, executedCryptoAmountBase := some q.exactFrom })
        swaps := M.swaps.insert swapRecordId (q.swap swapId received) } := by
    simp [recordBlock, updateTransaction, createSwap, h.swaps, hnew]
  rw [commit_of_commits hcommits]
  exact .inl ⟨swapId, received, q.swap swapId received, ho, AList.lookup_insert _, rfl⟩

theorem Confirmed.afterReserve_iff (h : Confirmed q id L M)
    (hnew : L.swaps.lookup swapRecordId = none) (o : Outcome) :
    Settleable q id swapRecordId o L (afterReserve q id swapRecordId o M) ↔ o.Handled q L := by
  have hnot := h.not_settleable hnew o
  obtain ⟨answer, stored⟩ := o
  cases stored with
  | false =>
    have hsame : afterReserve q id swapRecordId ⟨answer, false⟩ M = M := by
      cases answer <;> rfl
    rw [hsame]
    exact iff_of_false hnot (fun hhandled => by cases hhandled.1)
  | true =>
    cases answer with
    | throws =>
      simpa [afterReserve, storeIf, Outcome.Handled] using
        h.refused_iff (o := ⟨.throws, true⟩) (by simp)
    | malformed =>
      simpa [afterReserve, storeIf, Outcome.Handled] using
        h.refused_iff (o := ⟨.malformed, true⟩) (by simp)
    | success swapId received =>
      exact iff_of_true (h.recorded hnew rfl) ⟨rfl, trivial⟩

end Outcomes

end SwapService

namespace VaultService

/-- The key of the BTC wallet that pays for the vault. -/
def Confirm.btcKey (q : Confirm) : WalletKey := (q.userId, .btc)

/-- What the calls of the BTC swap answer, and which database transactions go through. -/
structure Outcome where
  /-- The quoted USDT amount, where the quotation answers with an id and a readable amount. -/
  quoted : Option Nat
  /-- The reservation of that amount reaches the database. -/
  reserves : Bool
  /-- The confirmed swap, where the confirmation answers with success and an id. -/
  confirmed : Option (Reference × Nat)
  stored : Bool
  /-- The block of the catch reaches the database. -/
  released : Bool
  deriving DecidableEq, Repr

/-- `reservedCompanyLiquidity`, where the reservation does not throw. -/
def reservedUsdt (reserves : Bool) (usdt : Nat) (L : Ledger) : Option Bool :=
  if reserves then (reserveLiquidity .usdt usdt).result L else none

def exchangeFailed (q : Confirm) (vaultId : VaultId) (id : TransactionId)
    (swapRecordId : SwapRecordId) (o : Outcome) (reservedExpectedUsdt : Nat) (L : Ledger) :
    Ledger :=
  storeIf o.released (exchangeFailedBlock q vaultId id swapRecordId reservedExpectedUsdt) L

/-- The confirmation of the swap, with the quoted amount reserved. -/
def afterUsdtReserve (q : Confirm) (vaultId : VaultId) (id : TransactionId)
    (swapRecordId : SwapRecordId) (o : Outcome) (usdt : Nat) (L : Ledger) : Ledger :=
  match o.confirmed with
  | some (swapId, toAmount) =>
    if o.stored then (recordSwapBlock id swapRecordId swapId toAmount).commit L
    else exchangeFailed q vaultId id swapRecordId o usdt L
  | none => exchangeFailed q vaultId id swapRecordId o usdt L

/-- The BTC swap of `confirmVault`. The expected amount is set before it is reserved, so the catch
releases it in any case. -/
def afterReserve (q : Confirm) (vaultId : VaultId) (id : TransactionId)
    (swapRecordId : SwapRecordId) (o : Outcome) (L : Ledger) : Ledger :=
  match o.quoted with
  | none => exchangeFailed q vaultId id swapRecordId o 0 L
  | some usdt =>
    if reservedUsdt o.reserves usdt L = some true then
      afterUsdtReserve q vaultId id swapRecordId o usdt ((reserveLiquidity .usdt usdt).commit L)
    else exchangeFailed q vaultId id swapRecordId o usdt L

/-- The swap's row names the provider's swap. -/
def Recorded (swapRecordId : SwapRecordId) (o : Outcome) (M : Ledger) : Prop :=
  ∃ swapId toAmount swap, o.confirmed = some (swapId, toAmount) ∧
    M.swaps.lookup swapRecordId = some swap ∧ swap.swapId = some swapId

def Settleable (q : Confirm) (id : TransactionId) (swapRecordId : SwapRecordId) (o : Outcome)
    (L M : Ledger) : Prop :=
  Recorded swapRecordId o M ∨ Released q.btcKey .usdt id L M

/-- The company can set `usdt` aside. -/
def Reservable (usdt : Nat) (L : Ledger) : Prop :=
  ∃ r, L.companyLiquidity.lookup .usdt = some r ∧ (usdt : Int) ≤ r.totalBalance - r.reservedBalance

/-- The outcomes after which that holds. -/
def Outcome.Handled (q : Confirm) (L : Ledger) (o : Outcome) : Prop :=
  match o.quoted with
  | none => o.released = true ∧ 0 ≤ L.reservedBalance q.btcKey
  | some usdt =>
    (o.reserves = true ∧ Reservable usdt L ∧
      ((o.stored = true ∧ o.confirmed.isSome = true) ∨
        (o.released = true ∧ Unsigned q.btcKey .usdt usdt L))) ∨
    (¬ (o.reserves = true ∧ Reservable usdt L) ∧
      usdt = 0 ∧ o.released = true ∧ 0 ≤ L.reservedBalance q.btcKey)

structure Confirmed (q : Confirm) (id : TransactionId) (swapRecordId : SwapRecordId)
    (L M : Ledger) : Prop where
  reserves : Reserves q.btcKey none q.totalCharge .usdt 0 L M
  company : M.companyLiquidity = L.companyLiquidity
  transaction : Open id M
  swap : ∃ swap, M.swaps.lookup swapRecordId = some swap ∧ swap.swapId = none

theorem confirmBtcBlock_confirmed {q : Confirm} {rateConfigured : Bool} {vaultId : VaultId}
    {id : TransactionId} {swapRecordId : SwapRecordId} {L M : Ledger} {u : Unit}
    (h : (confirmBtcBlock q rateConfigured vaultId id swapRecordId).Commits L u M) :
    Confirmed q id swapRecordId L M := by
  simp only [confirmBtcBlock, commits_read_bind, commits_demand_bind, commits_require_bind] at h
  obtain ⟨wallet, -, -, h⟩ := h
  simp only [commits_bind, reserveBalance_commits, commits_require, createVault, createSwap,
    insertTransaction_commits, commits_read, commits_update] at h
  obtain ⟨_, _, ⟨w, hw, -, -, rfl⟩, _, _, ⟨-, rfl⟩, _, _, ⟨_, _, ⟨-, rfl⟩, _, _, ⟨-, rfl⟩, rfl⟩,
    _, _, ⟨-, -, rfl⟩, _, _, ⟨-, rfl⟩, _, _, ⟨-, rfl⟩, rfl⟩ := h
  have hkey : L.wallets.lookup q.btcKey = some w := hw
  constructor
  · constructor
    · rw [Ledger.reservedBalance_of_lookup hkey]
      simp [Ledger.reservedBalance, Ledger.setWallet, Confirm.btcKey]
    · exact ⟨_, AList.lookup_insert _, .inl rfl⟩
    · simp [Ledger.reservedLiquidity, Ledger.setWallet]
    · exact fun h0 => absurd rfl h0
  · rfl
  · exact ⟨q.transaction wallet.defaultNetwork, AList.lookup_insert _,
      fun hstatus => by cases hstatus⟩
  · exact ⟨q.swap vaultId, AList.lookup_insert _, rfl⟩

theorem exchangeFailedBlock_commits {q : Confirm} {vaultId : VaultId} {id : TransactionId}
    {swapRecordId : SwapRecordId} {usdt : Nat} {M N : Ledger} {u : Unit}
    (h : (exchangeFailedBlock q vaultId id swapRecordId usdt).Commits M u N) :
    ∃ A B, (releaseBalance q.userId .btc q.totalCharge none).Commits M () A ∧
      B.toBooks = A.toBooks ∧ (releaseLiquidity .usdt usdt).Commits B () N ∧
      N.transactions = M.transactions.modify id (fun t => { t with status := .FAILED }) ∧
      N.swaps = M.swaps.modify swapRecordId (fun s => { s with status := .FAILED }) := by
  simp only [exchangeFailedBlock, commits_bind, updateTransaction, updateSwap, updateVault,
    commits_update] at h
  obtain ⟨_, A, hbalance, _, _, rfl, _, _, rfl, _, _, rfl, hliquidity⟩ := h
  have hA : A.records = M.records := releaseBalance_onBalances _ _ _ _ _ _ _ _ rfl hbalance
  have hN := releaseLiquidity_onBalances _ _ _ _ _ _ rfl hliquidity
  have htransactions : A.transactions = M.transactions := (congrArg Ledger.transactions hA :)
  have hswaps : A.swaps = M.swaps := (congrArg Ledger.swaps hA :)
  refine ⟨A, _, hbalance, ?_, hliquidity, ?_, ?_⟩
  · rfl
  · rw [← htransactions]
    exact (congrArg Ledger.transactions hN :)
  · rw [← hswaps]
    exact (congrArg Ledger.swaps hN :)

theorem exchangeFailedBlock_compensates (q : Confirm) (vaultId : VaultId) (id : TransactionId)
    (swapRecordId : SwapRecordId) (usdt : Nat) :
    Compensates (exchangeFailedBlock q vaultId id swapRecordId usdt) q.btcKey none q.totalCharge
      .usdt usdt id := by
  constructor
  · intro M u N h
    obtain ⟨A, B, hbalance, hB, hliquidity, htransactions, -⟩ := exchangeFailedBlock_commits h
    obtain ⟨hheld, hwallet, hcompany⟩ := released_of_commits (k := q.btcKey) hbalance hB hliquidity
    exact ⟨hheld, hwallet, hcompany, _, fun _ => rfl, htransactions⟩
  · intro M h
    obtain ⟨A, hbalance, hA⟩ := releaseBalance_of_held h
    simp only [exchangeFailedBlock, commits_bind, updateTransaction, updateSwap, updateVault,
      commits_update]
    have hliquidity := releaseLiquidity_of_held h (A := { A with
      transactions := A.transactions.modify id (fun t => { t with status := .FAILED })
      swaps := A.swaps.modify swapRecordId (fun s => { s with status := .FAILED })
      vaults := A.vaults.modify vaultId (fun v => { v with status := .TERMINATED }) }) hA
    obtain ⟨N, hN⟩ := hliquidity
    exact ⟨N, (), A, hbalance, (), _, rfl, (), _, rfl, (), _, rfl, hN⟩

section Outcomes

variable {q : Confirm} {vaultId : VaultId} {id : TransactionId} {swapRecordId : SwapRecordId}
  {L M : Ledger} {o : Outcome}

theorem not_recorded (h : ∃ swap, M.swaps.lookup swapRecordId = some swap ∧ swap.swapId = none) :
    ¬ Recorded swapRecordId o M := by
  intro hrecorded
  obtain ⟨swap, hswap, hnone⟩ := h
  obtain ⟨swapId, toAmount, row, -, hrow, hsome⟩ := hrecorded
  rw [hswap] at hrow
  cases hrow
  rw [hnone] at hsome
  cases hsome

theorem exchangeFailed_not_recorded
    (h : ∃ swap, M.swaps.lookup swapRecordId = some swap ∧ swap.swapId = none) (usdt : Nat) :
    ¬ Recorded swapRecordId o
      (exchangeFailed q vaultId id swapRecordId o usdt M) := by
  apply not_recorded
  unfold exchangeFailed storeIf
  split
  · rcases (exchangeFailedBlock q vaultId id swapRecordId usdt).commit_cases M with hsame | ⟨u, hN⟩
    · rw [hsame]
      exact h
    · obtain ⟨-, -, -, -, -, -, hswaps⟩ := exchangeFailedBlock_commits hN
      obtain ⟨swap, hswap, hnone⟩ := h
      exact ⟨{ swap with status := .FAILED }, by rw [hswaps, Table.lookup_modify_self, hswap]; rfl,
        hnone⟩
  · exact h

theorem exchangeFailed_iff {usdt : Nat} (hreserves : Reserves q.btcKey none q.totalCharge .usdt
      usdt L M) (hopen : Open id M)
    (hswap : ∃ swap, M.swaps.lookup swapRecordId = some swap ∧ swap.swapId = none) :
    Settleable q id swapRecordId o L
        (exchangeFailed q vaultId id swapRecordId o usdt M) ↔
      o.released = true ∧ Unsigned q.btcKey .usdt usdt L := by
  unfold Settleable
  rw [or_iff_right (exchangeFailed_not_recorded hswap usdt)]
  unfold exchangeFailed
  cases hreleased : o.released with
  | false => simpa [storeIf] using hopen.not_released
  | true =>
    simpa [storeIf] using
      (exchangeFailedBlock_compensates q vaultId id swapRecordId usdt).released_iff hreserves hopen

theorem exchangeFailed_unreserved {usdt : Nat} (husdt : usdt ≠ 0)
    (h : Confirmed q id swapRecordId L M) :
    ¬ Settleable q id swapRecordId o L
      (exchangeFailed q vaultId id swapRecordId o usdt M) := by
  unfold Settleable
  rw [or_iff_right (exchangeFailed_not_recorded h.swap usdt)]
  have hcompany : M.reservedLiquidity .usdt = L.reservedLiquidity .usdt := by
    unfold Ledger.reservedLiquidity
    rw [h.company]
  unfold exchangeFailed
  cases o.released with
  | false => simpa [storeIf] using h.transaction.not_released
  | true =>
    simpa [storeIf] using
      (exchangeFailedBlock_compensates q vaultId id swapRecordId usdt).not_released husdt hcompany
        h.transaction

theorem reservedUsdt_iff (h : Confirmed q id swapRecordId L M) (reserves : Bool) (usdt : Nat) :
    reservedUsdt reserves usdt M = some true ↔ reserves = true ∧ Reservable usdt L := by
  unfold reservedUsdt Reservable
  rw [← h.company]
  cases reserves with
  | false => simp
  | true =>
    rw [if_pos rfl, result_eq_some, reserveLiquidity, updateCompany_commits]
    constructor
    · intro hcommits
      rcases hcommits with ⟨r, hr, hle, -, -⟩ | ⟨-, hfalse, -⟩
      · exact ⟨rfl, r, hr, hle⟩
      · cases hfalse
    · intro hreservable
      obtain ⟨-, r, hr, hle⟩ := hreservable
      have hcommits : (reserveLiquidity .usdt usdt).Commits M true
          (M.setCompany .usdt { r with reservedBalance := r.reservedBalance + usdt }) :=
        updateCompany_commits.mpr (.inl ⟨r, hr, hle, rfl, rfl⟩)
      exact .inl ⟨r, hr, hle, rfl, (commit_of_commits hcommits).symm⟩

theorem Confirmed.reserveUsdt (h : Confirmed q id swapRecordId L M) {usdt : Nat}
    (husdt : Reservable usdt L) :
    let N := (reserveLiquidity .usdt usdt).commit M
    Reserves q.btcKey none q.totalCharge .usdt usdt L N ∧ Open id N ∧ N.swaps = M.swaps := by
  obtain ⟨r, hr, hle⟩ := husdt
  have hrow := hr
  rw [← h.company] at hrow
  have hN : (reserveLiquidity .usdt usdt).commit M =
      M.setCompany .usdt { r with reservedBalance := r.reservedBalance + usdt } :=
    commit_of_commits (updateCompany_commits.mpr (.inl ⟨r, hrow, hle, rfl, rfl⟩))
  intro N
  rw [show N = _ from hN]
  refine ⟨⟨h.reserves.wallet, h.reserves.walletRow, ?_, fun _ => ⟨_, AList.lookup_insert _⟩⟩,
    h.transaction, rfl⟩
  rw [Ledger.reservedLiquidity_of_lookup hr]
  simp

theorem Confirmed.recorded {swapId : Reference} {toAmount : Nat}
    (hconfirmed : o.confirmed = some (swapId, toAmount))
    (h : ∃ swap, M.swaps.lookup swapRecordId = some swap ∧ swap.swapId = none) :
    Settleable q id swapRecordId o L
      ((recordSwapBlock id swapRecordId swapId toAmount).commit M) := by
  obtain ⟨swap, hswap, -⟩ := h
  have hcommits : (recordSwapBlock id swapRecordId swapId toAmount).commit M = { M with
      transactions := M.transactions.modify id (fun t => { t with transactionUniqueId := swapId })
      swaps := M.swaps.modify swapRecordId (fun s => { s with
        swapId := some swapId, toAmountOriginal := some toAmount }) } := rfl
  rw [hcommits]
  exact .inl ⟨swapId, toAmount, { swap with
    swapId := some swapId, toAmountOriginal := some toAmount }, hconfirmed, by simp [hswap], rfl⟩

theorem Confirmed.afterUsdtReserve_iff (h : Confirmed q id swapRecordId L M) {usdt : Nat}
    (husdt : Reservable usdt L) :
    Settleable q id swapRecordId o L (afterUsdtReserve q vaultId id swapRecordId o usdt
        ((reserveLiquidity .usdt usdt).commit M)) ↔
      (o.stored = true ∧ o.confirmed.isSome = true) ∨
        (o.released = true ∧ Unsigned q.btcKey .usdt usdt L) := by
  obtain ⟨hN, hopen, hswaps⟩ := h.reserveUsdt husdt
  have hswap := h.swap
  rw [← hswaps] at hswap
  have hfailed : Settleable q id swapRecordId o L (exchangeFailed q vaultId id swapRecordId o usdt
      ((reserveLiquidity .usdt usdt).commit M)) ↔ _ := exchangeFailed_iff hN hopen hswap
  unfold afterUsdtReserve
  cases hconfirmed : o.confirmed with
  | none => simpa using hfailed
  | some confirmed =>
    obtain ⟨swapId, toAmount⟩ := confirmed
    cases hstored : o.stored with
    | false => simpa using hfailed
    | true => simpa using Confirmed.recorded hconfirmed hswap

theorem Confirmed.afterReserve_iff (h : Confirmed q id swapRecordId L M) (o : Outcome) :
    Settleable q id swapRecordId o L (afterReserve q vaultId id swapRecordId o M) ↔
      o.Handled q L := by
  have hunsigned : Unsigned q.btcKey .usdt 0 L ↔ 0 ≤ L.reservedBalance q.btcKey := by
    simp [Unsigned]
  unfold afterReserve Outcome.Handled
  cases o.quoted with
  | none => exact (exchangeFailed_iff h.reserves h.transaction h.swap).trans (by rw [hunsigned])
  | some usdt =>
    show Settleable q id swapRecordId o L (if reservedUsdt o.reserves usdt M = some true then _
      else _) ↔ _
    by_cases hreserved : o.reserves = true ∧ Reservable usdt L
    · rw [if_pos ((reservedUsdt_iff h o.reserves usdt).mpr hreserved)]
      simp only [hreserved, true_and, not_true_eq_false, false_and, or_false]
      exact h.afterUsdtReserve_iff hreserved.2
    · rw [if_neg fun hsome => hreserved ((reservedUsdt_iff h o.reserves usdt).mp hsome)]
      by_cases h0 : usdt = 0
      · subst h0
        rw [exchangeFailed_iff h.reserves h.transaction h.swap, hunsigned]
        simp only [hreserved, not_false_eq_true, true_and]
        constructor
        · exact .inr
        · intro hhandled
          rcases hhandled with ⟨hr, hreservable, -⟩ | hhandled
          · exact absurd ⟨hr, hreservable⟩ hreserved
          · exact hhandled
      · refine iff_of_false (exchangeFailed_unreserved h0 h) fun hhandled => ?_
        rcases hhandled with ⟨hr, hreservable, -⟩ | ⟨-, hzero, -⟩
        · exact hreserved ⟨hr, hreservable⟩
        · exact h0 hzero

end Outcomes

end VaultService

/-- For every confirmation that reserved funds and every outcome of what follows: the provider's
order or swap is recorded, both reservations are released with the transaction FAILED, or a sell
is queued for liquidity, exactly after the outcomes that are handled. -/
theorem confirm_settleable_iff (id : TransactionId) (L₀ L₁ : Ledger) :
    (∀ (q : SellService.Confirm) (o : SellService.Outcome),
      (SellService.confirmBlock q id).Commits L₀ .reserved L₁ →
      (SellService.Settleable q id o L₀ (SellService.afterReserve q id o L₁) ↔
        o.Handled q L₀)) ∧
    (∀ (q : SwapService.Confirm) (swapRecordId : SwapRecordId) (o : SwapService.Outcome),
      (SwapService.confirmBlock q id).Commits L₀ true L₁ →
      L₀.swaps.lookup swapRecordId = none →
      (SwapService.Settleable q id swapRecordId o L₀
        (SwapService.afterReserve q id swapRecordId o L₁) ↔ o.Handled q L₀)) ∧
    (∀ (q : VaultService.Confirm) (rateConfigured : Bool) (vaultId : VaultId)
      (swapRecordId : SwapRecordId) (o : VaultService.Outcome),
      (VaultService.confirmBtcBlock q rateConfigured vaultId id swapRecordId).Commits L₀ () L₁ →
      (VaultService.Settleable q id swapRecordId o L₀
        (VaultService.afterReserve q vaultId id swapRecordId o L₁) ↔ o.Handled q L₀)) :=
  ⟨fun _ o h => (SellService.confirmBlock_confirmed h).afterReserve_iff o,
    fun _ _ o h hnew => (SwapService.confirmBlock_confirmed h).afterReserve_iff hnew o,
    fun _ _ _ _ o h => (VaultService.confirmBtcBlock_confirmed h).afterReserve_iff o⟩

/-- User 1's BTC wallet, and a company that has BTC and USDT. -/
def beforeExchange : Ledger :=
  { Ledger.empty with
    wallets := (∅ : Table WalletKey Wallet).insert (1, .btc)
      { Wallet.empty with
        currencyId := some .btc, baseBalance := 1000, defaultNetwork := some .btc }
    companyLiquidity := ((∅ : Table Currency CompanyLiquidity).insert .btc
      { CompanyLiquidity.empty with totalBalance := 5000 }).insert .usdt
      { CompanyLiquidity.empty with totalBalance := 5000 } }

def swapOfBtc : SwapService.Confirm := ⟨1, .btc, .usdt, 12, 900, 50, some .btc, 6⟩

def vaultOfBtc : VaultService.Confirm := ⟨1, .btc, 12, 800, 100, ⟨5, 0⟩, 10, 1, 809⟩

/-- A refused order, a swap that cannot be confirmed and a vault's exchange that fails after the
quotation are all released. -/
theorem refusals_are_released :
    SellService.Settleable (SellService.sellWithFee 100) 2 ⟨.enough, .refused, true⟩
        SellService.beforeSell (SellService.afterReserve (SellService.sellWithFee 100) 2
          ⟨.enough, .refused, true⟩ (SellService.confirmed 100)) ∧
      SwapService.Settleable swapOfBtc 2 1 ⟨.throws, true⟩ beforeExchange
        (SwapService.afterReserve swapOfBtc 2 1 ⟨.throws, true⟩
          ((SwapService.confirmBlock swapOfBtc 2).commit beforeExchange)) ∧
      VaultService.Settleable vaultOfBtc 2 1 ⟨some 700, true, none, true, true⟩ beforeExchange
        (VaultService.afterReserve vaultOfBtc 3 2 1 ⟨some 700, true, none, true, true⟩
          ((VaultService.confirmBtcBlock vaultOfBtc true 3 2 1).commit beforeExchange)) := by
  have hsell : (SellService.confirmBlock (SellService.sellWithFee 100) 2).result
      SellService.beforeSell = some .reserved := by decide +kernel
  have hswap : (SwapService.confirmBlock swapOfBtc 2).result beforeExchange = some true := by
    decide +kernel
  have hvault : (VaultService.confirmBtcBlock vaultOfBtc true 3 2 1).result beforeExchange =
      some () := by decide +kernel
  have hsold : Unsigned (SellService.sellWithFee 100).key BASE_CURRENCY 50000
      SellService.beforeSell := ⟨by decide +kernel, .inr (by decide +kernel)⟩
  have hswapped : Unsigned swapOfBtc.key .btc 900 beforeExchange :=
    ⟨by decide +kernel, .inr (by decide +kernel)⟩
  have hlocked : Unsigned vaultOfBtc.btcKey .usdt 700 beforeExchange :=
    ⟨by decide +kernel, .inr (by decide +kernel)⟩
  have hreservable : VaultService.Reservable 700 beforeExchange :=
    ⟨{ CompanyLiquidity.empty with totalBalance := 5000 }, rfl, by decide⟩
  exact ⟨((confirm_settleable_iff _ _ _).1 _ _ (result_eq_some.mp hsell)).mpr ⟨rfl, hsold⟩,
    ((confirm_settleable_iff _ _ _).2.1 _ _ _ (result_eq_some.mp hswap) rfl).mpr ⟨rfl, hswapped⟩,
    ((confirm_settleable_iff _ _ _).2.2 _ _ _ _ _ (result_eq_some.mp hvault)).mpr
      (.inl ⟨rfl, hreservable, .inr ⟨rfl, hlocked⟩⟩)⟩

/-- An order whose request times out leaves the funds reserved, with nothing to close them. -/
theorem timeout_leaves_sell_reserved :
    ¬ ∀ (q : SellService.Confirm) (id : TransactionId) (L₀ L₁ : Ledger) (o : SellService.Outcome),
      (SellService.confirmBlock q id).Commits L₀ .reserved L₁ →
      SellService.Settleable q id o L₀ (SellService.afterReserve q id o L₁) := by
  intro h
  have hsell : (SellService.confirmBlock (SellService.sellWithFee 100) 2).result
      SellService.beforeSell = some .reserved := by decide +kernel
  have hsettleable := h _ _ _ _ ⟨.enough, .throws, true⟩ (result_eq_some.mp hsell)
  have hreserved : (SellService.confirmed 100).reservedBalance (1, .btc) = 1000 := by
    decide +kernel
  have hbefore : SellService.beforeSell.reservedBalance (1, .btc) = 0 := by decide +kernel
  have hrecords : (SellService.confirmed 100).failedCompanyLiquidity.lookup 2 = none := by
    decide +kernel
  rcases hsettleable with ⟨_, _, -, hsuccess, -⟩ | hreleased | hqueued
  · cases hsuccess
  · have hwallet := hreleased.wallet
    exact absurd (hreserved.symm.trans (hwallet.trans hbefore)) (by decide)
  · have hrecord := hqueued.record
    change ((SellService.confirmed 100).failedCompanyLiquidity.lookup 2).isSome = true at hrecord
    rw [hrecords] at hrecord
    cases hrecord

end ExchangeLedger
