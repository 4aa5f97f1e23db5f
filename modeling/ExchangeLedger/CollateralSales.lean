import ExchangeLedger.FailedLoans

set_option autoImplicit false

/-! The sale of an urgent-liquidity loan's collateral, from its quote to the payout: nothing is
reserved for it while the user's other funds move. -/

namespace ExchangeLedger

open Block

namespace CollateralSales

open UrgentLiquidity

structure Quote where
  userId : UserId
  asset : Currency
  walletBalanceBase : Int
  walletBalanceOriginal : Text
  loanAmount : Decimal
  loanAmountBase : Nat
  maxLoan : Text
  collateralAmountOriginal : Text
  collateralAmountBase : Nat
  tickerRate : Text
  deriving DecidableEq, Repr

inductive QuoteAnswer where
  | insufficient (balance balanceValueNgn maxLoan : Text) (message : String)
  | quoted (q : Quote)
  deriving DecidableEq, Repr

/-- `symbol === 'NGN' ? '1' : await this.tickerService.getPrice(pair)`. -/
def tickerRate (asset : Currency) (price : Option Text) : Option Text :=
  if asset = .ngn then some ['1'] else price.filter (· ≠ [])

/-- The whole balance counts, what is reserved of it included. -/
def quote (cache : ConvertCurrency.DefaultNetworkCache) (L : Ledger) (userId : UserId)
    (asset : Currency) (loanAmount : Decimal) (price : Option Text) :
    Except String QuoteAnswer := do
  if ¬ Decimal.lte ⟨1, 0⟩ loanAmount then
    throw "loanAmount must not be less than 1"
  let conversionRate ← match tickerRate asset price with
    | some rate => OrderDone.newDecimal rate
    | none => throw ("Unable to fetch " ++ asset.code ++ "/NGN conversion rate")
  if conversionRate.mant ≤ 0 then throw ("Invalid conversion rate for " ++ asset.code)
  let wallet ← match L.walletByCurrencyId userId asset with
    | some wallet => pure wallet
    | none => throw ("Wallet not found for " ++ asset.code)
  let walletBalanceOriginal ← ConvertCurrency.fromBase cache wallet.baseBalance asset none
  let balance ← OrderDone.newDecimal walletBalanceOriginal
  let walletValueNgn := Decimal.mul balance conversionRate
  let maxLoanNgn := Decimal.mul walletValueNgn ⟨5, -1⟩
  let maxLoan := maxLoanNgn.toFixed 2
  if loanAmount.lte maxLoanNgn then
    let collateralAmountOriginal := (Decimal.div loanAmount conversionRate).toText
    let loanAmountBase ← ConvertCurrency.toBase cache loanAmount.toText .ngn
    let collateralAmountBase ← ConvertCurrency.toBase cache collateralAmountOriginal asset
    return .quoted
      { userId := userId
        asset := asset
        walletBalanceBase := wallet.baseBalance
        walletBalanceOriginal := walletBalanceOriginal
        loanAmount := loanAmount
        loanAmountBase := loanAmountBase.toNat
        maxLoan := maxLoan
        collateralAmountOriginal := collateralAmountOriginal
        collateralAmountBase := collateralAmountBase.toNat
        tickerRate := conversionRate.toText }
  else
    return .insufficient walletBalanceOriginal (walletValueNgn.toFixed 2) maxLoan
      ("Max loan allowed is " ++ String.ofList maxLoan ++ " NGN (50% of " ++ asset.code ++
        " value)")

/-- The ledger, the quotes in the temporary store, and the column of that name of the loans. -/
structure Desk where
  ledger : Ledger
  quotes : Table Reference Quote
  collateralAmountAsset : Table LoanId Nat

structure ConfirmRequest where
  quoteId : Reference
  userId : UserId
  pinValid : Bool
  /-- The settings are there. -/
  configured : Bool
  /-- The bank account of the quote is there, and of this user. -/
  bankAccount : Bool
  deriving DecidableEq, Repr

def loanRow (q : Quote) : UrgentLiquidityLoan where
  userId := q.userId
  collateralAsset := q.asset
  loanAmount := q.loanAmountBase
  quidaxSwapId := none
  paystackTransferId := none
  status := .PENDING

/-- `confirm` as far as the new row; its `quoteId` is unique among the loans, so that no other call
gets past it with the same quote. -/
def createLoan (id : LoanId) (r : ConfirmRequest) : Block Desk String Quote := do
  require (r.pinValid = true) "Invalid PIN"
  let stored ← read (fun s : Desk => s.quotes.lookup r.quoteId)
  let q ← demand stored "Quote not found or expired"
  require (q.userId = r.userId) "Quote does not belong to authenticated user"
  require (r.configured = true)
    "Urgent liquidity settings not configured. Please contact support."
  require (r.bankAccount = true) "Bank account not found"
  let existing ← read (fun s : Desk => s.ledger.loans.lookup id)
  require (existing = none) "Unique constraint failed"
  update (fun s =>
    { ledger := { s.ledger with loans := s.ledger.loans.insert id (loanRow q) }
      quotes := s.quotes.erase r.quoteId
      collateralAmountAsset := s.collateralAmountAsset.insert id q.collateralAmountBase })
  return q

inductive Event where
  | quote (quoteId : Reference) (userId : UserId) (asset : Currency) (loanAmount : Decimal)
      (price : Option Text)
  | expire (quoteId : Reference)
  | confirm (id : LoanId) (r : ConfirmRequest)
  /-- The sell order of the confirmed loan is placed. -/
  | placed (id : LoanId) (quidaxSwapId : Reference)
  | placementFailed (id : LoanId)
  | webhook (w : Webhook)
  /-- Whatever else happens to the balances, the user's other spending for one. -/
  | elsewhere (f : Ledger → Ledger) (h : ∀ L, (f L).loans = L.loans)

section Sales

variable (cache : ConvertCurrency.DefaultNetworkCache)

def step : Event → Desk → Desk
  | .quote quoteId userId asset loanAmount price, s =>
    match quote cache s.ledger userId asset loanAmount price with
    | .ok (.quoted q) => { s with quotes := s.quotes.insert quoteId q }
    | _ => s
  | .expire quoteId, s => { s with quotes := s.quotes.erase quoteId }
  | .confirm id r, s => (createLoan id r).commit s
  | .placed id reference, s =>
    { s with ledger := (FailedLoans.confirmBlock id (some reference)).commit s.ledger }
  | .placementFailed id, s =>
    { s with ledger := (FailedLoans.confirmBlock id none).commit s.ledger }
  | .webhook w, s => { s with ledger := webhookStep cache w s.ledger }
  | .elsewhere f _, s => { s with ledger := f s.ledger }

/-- The loan's collateral is in this wallet and still to be sold. -/
def openSale (L : Ledger) (k : WalletKey) (id : LoanId) : Bool :=
  (L.loans.lookup id).any fun loan => loan.status = .PENDING ∧ loanWallet loan = k

def saleVolume (L : Ledger) (k : WalletKey) (id : LoanId) (amount : Nat) : Int :=
  if openSale L k id then (amount : Int) else 0

/-- What the open sales of a wallet's loans amount to. -/
def openVolume (k : WalletKey) (s : Desk) : Int :=
  Table.total (saleVolume s.ledger k) s.collateralAmountAsset

def unreserved (k : WalletKey) (L : Ledger) : Int := L.baseBalance k - L.reservedBalance k

/-- The sell order of a loan is filled: the loan, and what the event reports for it. -/
structure Fill where
  id : LoanId
  loan : UrgentLiquidityLoan
  amounts : OrderDone.ExecutedAmounts
  deriving DecidableEq, Repr

def fill (L : Ledger) : Webhook → Option Fill
  | .orderDone e _ =>
    match OrderDone.process cache L e with
    | .ok (.payLoan id) =>
      match L.loans.lookup id with
      | some loan =>
        match OrderDone.loanExecution cache loan e with
        | .ok (some amounts) => some ⟨id, loan, amounts⟩
        | _ => none
      | none => none
    | _ => none
  | _ => none

/-- What the payout answers, where the webhook starts one that goes through. -/
def payout (L : Ledger) : Webhook → Option (UrgentLiquidityLoan × OrderDone.ExecutedAmounts)
  | .orderDone e transfer =>
    match OrderDone.process cache L e with
    | .ok (.payLoan id) => ((payoutBlock cache id e transfer).result L).join
    | _ => none
  | _ => none

/-- A filled order finds its volume in the wallet, and none of it reserved. -/
def Available (s : Desk) : Event → Prop
  | .webhook w => ∀ f ∈ fill cache s.ledger w,
      f.amounts.cryptoAmountBase ≤ unreserved (loanWallet f.loan) s.ledger
  | _ => True

/-- The user's crypto in a wallet, whether free or collateral of a loan. -/
def userCrypto (k : WalletKey) (L : Ledger) : Int :=
  L.baseBalance k + (L.wallets.lookup k).elim 0 Wallet.loanCollateralAmount

/-- A payout takes from the user exactly what was sold. -/
def Conserves (s : Desk) : Event → Prop
  | .webhook w => ∀ p ∈ payout cache s.ledger w,
      userCrypto (loanWallet p.1) (webhookStep cache w s.ledger) =
        userCrypto (loanWallet p.1) s.ledger - p.2.cryptoAmountBase
  | _ => True

/-- A loan is confirmed only where its collateral and that of the other open sales is unreserved,
what happens elsewhere leaves them that, and no order is filled beyond its volume. -/
def Secure (s : Desk) : Event → Prop
  | .confirm id r => ∀ q ∈ (createLoan id r).result s,
      openVolume (q.userId, q.asset) s + q.collateralAmountBase ≤
        unreserved (q.userId, q.asset) s.ledger
  | .webhook w => ∀ f ∈ fill cache s.ledger w, ∀ amount ∈ s.collateralAmountAsset.lookup f.id,
      f.amounts.cryptoAmountBase ≤ amount
  | .elsewhere f _ => ∀ k, 0 < openVolume k s → openVolume k s ≤ unreserved k (f s.ledger)
  | _ => True

/-- No payout goes through for more than one base unit: two thirds of that, rounded down, are
nothing. -/
def SingleUnit (s : Desk) : Event → Prop
  | .webhook (.orderDone e transfer) => ∀ id loan amounts wallet,
      OrderDone.process cache s.ledger e = .ok (.payLoan id) →
      Payable cache id e transfer s.ledger loan amounts wallet → amounts.cryptoAmountBase ≤ 1
  | _ => True

variable {cache}

/-! ### What a payout leaves as collateral -/

theorem remainingCollateralBase_pos {x : Nat} (hx : 2 ≤ x) : 0 < remainingCollateralBase x := by
  have hsold : (2 : Rat) ≤ (x : Rat) := by exact_mod_cast hx
  have hvalue : (⟨x, 0⟩ : Decimal).value * (⟨20, 0⟩ : Decimal).value = 20 * (x : Rat) := by
    simp [Decimal.value, mul_comm]
  obtain ⟨hmant, hmul⟩ := Decimal.mul_value_ge (x := ⟨x, 0⟩) (y := ⟨20, 0⟩) (by simp) (by simp)
  rw [hvalue] at hmul
  have hpos : 0 < (Decimal.mul ⟨x, 0⟩ ⟨20, 0⟩).mant := by
    refine hmant.lt_of_ne fun hzero => ?_
    rw [Decimal.value, ← hzero] at hmul
    norm_num at hmul
    linarith
  have hdiv := Decimal.divNat_value_ge hpos (n := 30) (by decide) (by decide)
  refine Decimal.floor_pos ?_
  norm_num at hdiv
  linarith

theorem remainingCollateralBase_eq_zero_iff (x : Nat) : remainingCollateralBase x = 0 ↔ x ≤ 1 := by
  constructor
  · intro h
    by_contra hx
    have hpos := remainingCollateralBase_pos (not_le.mp hx)
    omega
  · intro hx
    rcases Nat.le_one_iff_eq_zero_or_eq_one.mp hx with rfl | rfl
    · decide +kernel
    · decide +kernel

/-! ### The open sales -/

theorem unreserved_congr {L M : Ledger} (h : M.wallets = L.wallets) (k : WalletKey) :
    unreserved k M = unreserved k L := by
  simp only [unreserved, Ledger.baseBalance, Ledger.reservedBalance, h]

/-- Every loan that is pending now was pending before, with its collateral in the same wallet. -/
def Closes (L M : Ledger) : Prop :=
  ∀ id loan, M.loans.lookup id = some loan → loan.status = .PENDING →
    ∃ before, L.loans.lookup id = some before ∧ before.status = .PENDING ∧
      loanWallet before = loanWallet loan

theorem closes_of_loans {L M : Ledger} (h : M.loans = L.loans) : Closes L M := by
  intro id loan hloan hstatus
  rw [h] at hloan
  exact ⟨loan, hloan, hstatus, rfl⟩

theorem Closes.trans {L M N : Ledger} (h₁ : Closes L M) (h₂ : Closes M N) : Closes L N := by
  intro id loan hloan hstatus
  obtain ⟨m, hm, hmstatus, hmwallet⟩ := h₂ id loan hloan hstatus
  obtain ⟨l, hl, hlstatus, hlwallet⟩ := h₁ id m hm hmstatus
  exact ⟨l, hl, hlstatus, hlwallet.trans hmwallet⟩

theorem closes_modify {L M : Ledger} {j : LoanId} {f : UrgentLiquidityLoan → UrgentLiquidityLoan}
    (hloans : M.loans = L.loans.modify j f)
    (hf : ∀ l, (f l).status = .PENDING → l.status = .PENDING ∧ loanWallet (f l) = loanWallet l) :
    Closes L M := by
  intro id loan hloan hstatus
  rw [hloans, Table.lookup_modify] at hloan
  split at hloan
  · obtain ⟨l, hl, rfl⟩ := Option.map_eq_some_iff.mp hloan
    obtain ⟨hpending, hwallet⟩ := hf l hstatus
    exact ⟨l, hl, hpending, hwallet.symm⟩
  · exact ⟨loan, hloan, hstatus, rfl⟩

theorem openSale_iff {L : Ledger} {k : WalletKey} {id : LoanId} : openSale L k id = true ↔
    ∃ loan, L.loans.lookup id = some loan ∧ loan.status = .PENDING ∧ loanWallet loan = k := by
  simp [openSale, Option.any_eq_true]

theorem Closes.was_open {L M : Ledger} (h : Closes L M) {k : WalletKey} {id : LoanId}
    (hopen : openSale M k id = true) : openSale L k id = true := by
  obtain ⟨loan, hloan, hstatus, hwallet⟩ := openSale_iff.mp hopen
  obtain ⟨before, hbefore, hpending, hsame⟩ := h id loan hloan hstatus
  exact openSale_iff.mpr ⟨before, hbefore, hpending, hsame.trans hwallet⟩

theorem Closes.saleVolume_le {L M : Ledger} (h : Closes L M) (k : WalletKey) (id : LoanId)
    (amount : Nat) : saleVolume M k id amount ≤ saleVolume L k id amount := by
  unfold saleVolume
  by_cases hopen : openSale M k id = true
  · rw [if_pos hopen, if_pos (h.was_open hopen)]
  · rw [if_neg hopen]
    split <;> omega

theorem Closes.openVolume_le {s : Desk} {M : Ledger} (h : Closes s.ledger M) (k : WalletKey) :
    openVolume k { s with ledger := M } ≤ openVolume k s :=
  Table.total_le_total (h.saleVolume_le k) s.collateralAmountAsset

theorem Closes.openVolume_add_le {s : Desk} {M : Ledger} (h : Closes s.ledger M) {id : LoanId}
    {loan : UrgentLiquidityLoan} {amount : Nat} (hloan : s.ledger.loans.lookup id = some loan)
    (hpending : loan.status = .PENDING)
    (hamount : s.collateralAmountAsset.lookup id = some amount)
    (hclosed : openSale M (loanWallet loan) id = false) :
    openVolume (loanWallet loan) { s with ledger := M } + amount ≤
      openVolume (loanWallet loan) s := by
  have hle := Table.total_add_le (k := id)
    (fun j n _ => h.saleVolume_le (loanWallet loan) j n) s.collateralAmountAsset
  have hopen : openSale s.ledger (loanWallet loan) id = true :=
    openSale_iff.mpr ⟨loan, hloan, hpending, rfl⟩
  simp only [hamount, Option.elim, saleVolume, hopen, hclosed, Bool.false_eq_true, if_true,
    if_false, add_zero] at hle
  exact hle

theorem le_openVolume {s : Desk} {id : LoanId} {loan : UrgentLiquidityLoan} {amount : Nat}
    (hloan : s.ledger.loans.lookup id = some loan) (hpending : loan.status = .PENDING)
    (hamount : s.collateralAmountAsset.lookup id = some amount) :
    (amount : Int) ≤ openVolume (loanWallet loan) s := by
  have hnone (j : LoanId) (n : Nat) (_ : j ≠ id) :
      (0 : Int) ≤ saleVolume s.ledger (loanWallet loan) j n := by
    unfold saleVolume
    split <;> omega
  have hle := Table.total_add_le (g := fun _ _ => 0) hnone s.collateralAmountAsset
  have hopen : openSale s.ledger (loanWallet loan) id = true :=
    openSale_iff.mpr ⟨loan, hloan, hpending, rfl⟩
  simp only [hamount, Option.elim, saleVolume, hopen, if_true, add_zero] at hle
  rw [Table.total_zero, zero_add] at hle
  exact hle

/-- Every pending loan has its collateral recorded, and a wallet with open sales has what they
amount to unreserved. -/
structure Secured (s : Desk) : Prop where
  recorded : ∀ id loan, s.ledger.loans.lookup id = some loan → loan.status = .PENDING →
    ∃ amount, s.collateralAmountAsset.lookup id = some amount
  covered : ∀ k, 0 < openVolume k s → openVolume k s ≤ unreserved k s.ledger

theorem Secured.recorded_of_closes {s : Desk} (hs : Secured s) {M : Ledger}
    (h : Closes s.ledger M) (id : LoanId) (loan : UrgentLiquidityLoan)
    (hloan : M.loans.lookup id = some loan) (hstatus : loan.status = .PENDING) :
    ∃ amount, s.collateralAmountAsset.lookup id = some amount := by
  obtain ⟨before, hbefore, hpending, -⟩ := h id loan hloan hstatus
  exact hs.recorded id before hbefore hpending

theorem Secured.closes {s : Desk} (hs : Secured s) {M : Ledger} (hloans : Closes s.ledger M)
    (hwallets : M.wallets = s.ledger.wallets) : Secured { s with ledger := M } := by
  refine ⟨hs.recorded_of_closes hloans, fun k hpos => ?_⟩
  have hle := hloans.openVolume_le k
  have hcovered := hs.covered k (by omega)
  rw [unreserved_congr hwallets]
  omega

/-! ### The steps -/

theorem createLoan_commits {id : LoanId} {r : ConfirmRequest} {s t : Desk} {q : Quote}
    (h : (createLoan id r).Commits s q t) : s.ledger.loans.lookup id = none ∧ t =
      { ledger := { s.ledger with loans := s.ledger.loans.insert id (loanRow q) }
        quotes := s.quotes.erase r.quoteId
        collateralAmountAsset := s.collateralAmountAsset.insert id q.collateralAmountBase } := by
  simp only [createLoan, commits_require_bind, commits_read_bind, commits_demand_bind,
    commits_update_bind, commits_pure] at h
  obtain ⟨-, stored, -, -, -, -, hfresh, rfl, rfl⟩ := h
  exact ⟨hfresh, rfl⟩

theorem openVolume_created {s t : Desk} {id : LoanId} {q : Quote}
    (hfresh : s.ledger.loans.lookup id = none)
    (hloans : t.ledger.loans = s.ledger.loans.insert id (loanRow q))
    (hcolumn : t.collateralAmountAsset = s.collateralAmountAsset.insert id q.collateralAmountBase)
    (k : WalletKey) : openVolume k t ≤ openVolume k s +
      if k = (q.userId, q.asset) then (q.collateralAmountBase : Int) else 0 := by
  have hothers (j : LoanId) (n : Nat) (hj : j ≠ id) :
      saleVolume t.ledger k j n ≤ saleVolume s.ledger k j n := by
    simp [saleVolume, openSale, hloans, AList.lookup_insert_ne hj]
  have hle := Table.total_add_le hothers s.collateralAmountAsset
  -- a row that the column may hold for the fresh key stands for no sale
  have hnone : (s.collateralAmountAsset.lookup id).elim 0 (saleVolume s.ledger k id) = 0 := by
    cases s.collateralAmountAsset.lookup id with
    | none => rfl
    | some amount => simp [saleVolume, openSale, hfresh]
  have hsale : saleVolume t.ledger k id q.collateralAmountBase ≤
      if k = (q.userId, q.asset) then (q.collateralAmountBase : Int) else 0 := by
    by_cases hk : k = (q.userId, q.asset)
    · rw [if_pos hk, saleVolume]
      split <;> omega
    · have hclosed : openSale t.ledger k id = false := by
        simp [openSale, hloans, loanRow, loanWallet, Ne.symm hk]
      simp [saleVolume, hclosed, hk]
  unfold openVolume
  rw [hcolumn, Table.total_insert]
  omega

theorem Secured.confirm {s : Desk} (hs : Secured s) {id : LoanId} {r : ConfirmRequest}
    (h : Secure cache s (.confirm id r)) : Secured ((createLoan id r).commit s) := by
  rcases (createLoan id r).commit_cases s with hsame | ⟨q, hq⟩
  · rw [hsame]
    exact hs
  · have hroom := h q (Option.mem_def.mpr (result_eq_some.mpr hq))
    obtain ⟨hfresh, ht⟩ := createLoan_commits hq
    have hvolume := openVolume_created (t := (createLoan id r).commit s) hfresh (by rw [ht])
      (by rw [ht])
    rw [ht] at hvolume ⊢
    constructor
    · intro j loan hj hstatus
      by_cases hjd : j = id
      · subst hjd
        exact ⟨q.collateralAmountBase, AList.lookup_insert _⟩
      · have hold : s.ledger.loans.lookup j = some loan := by
          rw [← hj]
          exact (AList.lookup_insert_ne hjd).symm
        obtain ⟨amount, hamount⟩ := hs.recorded j loan hold hstatus
        exact ⟨amount, by rw [AList.lookup_insert_ne hjd, hamount]⟩
    · intro k hpos
      have hle := hvolume k
      show openVolume k _ ≤ unreserved k s.ledger
      by_cases hk : k = (q.userId, q.asset)
      · subst hk
        rw [if_pos rfl] at hle
        exact hle.trans hroom
      · rw [if_neg hk, add_zero] at hle
        exact hle.trans (hs.covered k (hpos.trans_le hle))

theorem closes_setsStatus {j : LoanId} {x : LedgerBlock Unit} (hx : FailedLoans.SetsStatus j x)
    (L : Ledger) : Closes L (x.commit L) ∧ (x.commit L).wallets = L.wallets := by
  rcases hx L with hsame | ⟨status, hstatus, hset⟩
  · rw [hsame]
    exact ⟨closes_of_loans rfl, rfl⟩
  · rw [hset]
    exact ⟨closes_modify rfl fun l hl => absurd hl hstatus, rfl⟩

theorem loanExecution_pending {loan : UrgentLiquidityLoan} {e : OrderDone.Event}
    {amounts : OrderDone.ExecutedAmounts}
    (h : OrderDone.loanExecution cache loan e = .ok (some amounts)) : loan.status = .PENDING := by
  unfold OrderDone.loanExecution at h
  split at h
  · cases h
  · rename_i hfinal
    split at h
    · cases h
    · rename_i hsettled
      cases hstatus : loan.status with
      | PENDING => rfl
      | _ => simp [hstatus] at hfinal hsettled

theorem fill_eq_some {L : Ledger} {w : Webhook} {f : Fill} (h : fill cache L w = some f) :
    ∃ e transfer, w = .orderDone e transfer ∧ OrderDone.process cache L e = .ok (.payLoan f.id) ∧
      L.loans.lookup f.id = some f.loan ∧
      OrderDone.loanExecution cache f.loan e = .ok (some f.amounts) := by
  cases w with
  | orderDone e transfer =>
    simp only [fill] at h
    split at h
    · rename_i id hpay
      split at h
      · rename_i loan hloan
        split at h
        · rename_i amounts hexecuted
          cases h
          exact ⟨e, transfer, rfl, hpay, hloan, hexecuted⟩
        · cases h
      · cases h
    · cases h
  | transferSuccess reference => cases h
  | transferFailure reference => cases h

theorem fill_of_payable {id : LoanId} {e : OrderDone.Event} {transfer : Option Reference}
    {L : Ledger} {loan : UrgentLiquidityLoan} {amounts : OrderDone.ExecutedAmounts}
    {wallet : Wallet} (hpay : OrderDone.process cache L e = .ok (.payLoan id))
    (h : Payable cache id e transfer L loan amounts wallet) :
    fill cache L (.orderDone e transfer) = some ⟨id, loan, amounts⟩ := by
  simp [fill, hpay, h.loan_found, h.executed]

theorem Secured.available {s : Desk} (hs : Secured s) {w : Webhook}
    (h : Secure cache s (.webhook w)) : Available cache s (.webhook w) := by
  intro f hf
  obtain ⟨e, transfer, -, -, hloan, hexecuted⟩ := fill_eq_some (Option.mem_def.mp hf)
  have hpending := loanExecution_pending hexecuted
  obtain ⟨amount, hamount⟩ := hs.recorded f.id f.loan hloan hpending
  have hwithin := h f hf amount (Option.mem_def.mpr hamount)
  obtain ⟨-, hpos, -⟩ := FailedLoans.loanExecution_open hexecuted
  have hle := le_openVolume hloan hpending hamount
  have hcovered := hs.covered (loanWallet f.loan) (by omega)
  omega

theorem payoutBlock_closes {id : LoanId} {e : OrderDone.Event} {transfer : Option Reference}
    {L M : Ledger} {paid : UrgentLiquidityLoan × OrderDone.ExecutedAmounts}
    (h : (payoutBlock cache id e transfer).Commits L (some paid) M) :
    Closes L M ∧ ∀ k, openSale M k id = false := by
  rcases payoutBlock_loans h with ⟨hnone, -⟩ | ⟨loan, reference, hloan, hloans⟩
  · cases hnone
  · constructor
    · refine Closes.trans (M := { L with
        loans := L.loans.modify id fun l => { l with status := .QUIDAX_COMPLETED } })
        (closes_modify rfl fun l hl => ?_) (closes_modify hloans fun l hl => ?_)
      · cases hl
      · cases hl
    · intro k
      simp [openSale, hloans, hloan]

theorem unreserved_payout {id : LoanId} {e : OrderDone.Event} {transfer : Option Reference}
    {L M : Ledger} {loan : UrgentLiquidityLoan} {amounts : OrderDone.ExecutedAmounts}
    (h : (payoutBlock cache id e transfer).Commits L (some (loan, amounts)) M) (k : WalletKey) :
    unreserved k M = unreserved k L -
      if k = loanWallet loan then amounts.cryptoAmountBase else 0 := by
  obtain ⟨wallet, text, hpayable, hwallets⟩ := payoutBlock_commits h
  obtain ⟨-, hpos, -⟩ := FailedLoans.loanExecution_open hpayable.executed
  by_cases hk : k = loanWallet loan
  · subst hk
    simp only [unreserved, Ledger.baseBalance, Ledger.reservedBalance, hwallets,
      AList.lookup_insert, hpayable.wallet_found, Option.elim, paidWallet, if_true]
    omega
  · simp only [unreserved, Ledger.baseBalance, Ledger.reservedBalance, hwallets,
      AList.lookup_insert_ne hk, if_neg hk, sub_zero]

theorem Secured.payout {s : Desk} (hs : Secured s) {id : LoanId} {e : OrderDone.Event}
    {transfer : Option Reference} (hpay : OrderDone.process cache s.ledger e = .ok (.payLoan id))
    (h : Secure cache s (.webhook (.orderDone e transfer))) :
    Secured { s with ledger := (payoutBlock cache id e transfer).commit s.ledger } := by
  rcases FailedLoans.payoutBlock_commit_cases cache id e transfer s.ledger with
    hsame | ⟨⟨loan, amounts⟩, hpaid⟩
  · rw [hsame]
    exact hs
  · obtain ⟨wallet, text, hpayable, -⟩ := payoutBlock_commits hpaid
    have hpending := loanExecution_pending hpayable.executed
    obtain ⟨amount, hamount⟩ := hs.recorded id loan hpayable.loan_found hpending
    have hfill := Option.mem_def.mpr (fill_of_payable hpay hpayable)
    have hwithin := h _ hfill amount (Option.mem_def.mpr hamount)
    obtain ⟨hcloses, hclosed⟩ := payoutBlock_closes hpaid
    refine ⟨hs.recorded_of_closes hcloses, fun k hpos => ?_⟩
    show _ ≤ unreserved k ((payoutBlock cache id e transfer).commit s.ledger)
    rw [unreserved_payout hpaid]
    by_cases hk : k = loanWallet loan
    · subst hk
      have hle := hcloses.openVolume_add_le hpayable.loan_found hpending hamount (hclosed _)
      have hcovered := hs.covered (loanWallet loan) (by omega)
      rw [if_pos rfl]
      simp only at hwithin
      omega
    · have hle := hcloses.openVolume_le k
      have hcovered := hs.covered k (by omega)
      rw [if_neg hk]
      omega

theorem Secured.webhook {s : Desk} (hs : Secured s) {w : Webhook}
    (h : Secure cache s (.webhook w)) : Secured (step cache (.webhook w) s) := by
  have hsets {j : LoanId} {x : LedgerBlock Unit} (hx : FailedLoans.SetsStatus j x) :
      Secured { s with ledger := x.commit s.ledger } :=
    hs.closes (closes_setsStatus hx s.ledger).1 (closes_setsStatus hx s.ledger).2
  cases w with
  | orderDone e transfer =>
    simp only [step, webhookStep]
    split
    · rename_i id hpay
      exact hs.payout hpay h
    · exact hsets (FailedLoans.saleFailedBlock_sets _)
    · exact hs
  | transferSuccess reference =>
    simp only [step, webhookStep]
    split
    · exact hsets (FailedLoans.loanTransferSuccessBlock_sets _)
    · exact hs
  | transferFailure reference =>
    simp only [step, webhookStep]
    split
    · exact hsets (FailedLoans.loanTransferFailureBlock_sets _)
    · exact hs

theorem Secured.step {s : Desk} (hs : Secured s) {e : Event} (h : Secure cache s e) :
    Secured (step cache e s) ∧ Available cache s e := by
  cases e with
  | quote quoteId userId asset loanAmount price =>
    simp only [CollateralSales.step]
    split
    · exact ⟨⟨hs.recorded, hs.covered⟩, trivial⟩
    · exact ⟨hs, trivial⟩
  | expire quoteId => exact ⟨⟨hs.recorded, hs.covered⟩, trivial⟩
  | confirm id r => exact ⟨hs.confirm h, trivial⟩
  | placed id reference =>
    exact ⟨hs.closes (closes_modify rfl fun l hl => ⟨hl, rfl⟩) rfl, trivial⟩
  | placementFailed id =>
    exact ⟨hs.closes (closes_modify rfl fun l hl => by cases hl) rfl, trivial⟩
  | webhook w => exact ⟨hs.webhook h, hs.available h⟩
  | elsewhere f hf =>
    have hcloses := closes_of_loans (hf s.ledger)
    refine ⟨⟨hs.recorded_of_closes hcloses, fun k hpos => ?_⟩, trivial⟩
    have hle := hcloses.openVolume_le k
    exact hle.trans (h k (hpos.trans_le hle))

theorem secured_of_settled {s : Desk}
    (h : ∀ id loan, s.ledger.loans.lookup id = some loan → loan.status ≠ .PENDING) : Secured s := by
  refine ⟨fun id loan hloan hstatus => absurd hstatus (h id loan hloan), fun k hpos => ?_⟩
  have hclosed (id : LoanId) (amount : Nat) : saleVolume s.ledger k id amount ≤ 0 := by
    unfold saleVolume
    split
    · rename_i hopen
      obtain ⟨loan, hloan, hstatus, -⟩ := openSale_iff.mp hopen
      exact absurd hstatus (h id loan hloan)
    · exact le_rfl
  have hle := Table.total_le_total (f := fun _ _ => 0) hclosed s.collateralAmountAsset
  rw [Table.total_zero] at hle
  exact absurd hpos (not_lt.mpr hle)

/-! ### Conservation -/

theorem payout_eq_some {L : Ledger} {e : OrderDone.Event} {transfer : Option Reference}
    {p : UrgentLiquidityLoan × OrderDone.ExecutedAmounts} :
    payout cache L (.orderDone e transfer) = some p ↔
      ∃ id, OrderDone.process cache L e = .ok (.payLoan id) ∧
        (payoutBlock cache id e transfer).Commits L (some p)
          (webhookStep cache (.orderDone e transfer) L) := by
  unfold payout
  split
  · rename_i event handed heq
    cases heq
    split
    · rename_i id hpay
      simp only [Option.join_eq_some_iff, result_eq_some, webhookStep, hpay, Except.ok.injEq,
        OrderDone.Route.payLoan.injEq, exists_eq_left']
    · rename_i hother
      simp only [reduceCtorEq, false_iff, not_exists, not_and]
      exact fun id hpay => absurd hpay (hother id)
  · rename_i hother
    exact absurd rfl (hother e transfer)

theorem userCrypto_payout {id : LoanId} {e : OrderDone.Event} {transfer : Option Reference}
    {L M : Ledger} {loan : UrgentLiquidityLoan} {amounts : OrderDone.ExecutedAmounts}
    (h : (payoutBlock cache id e transfer).Commits L (some (loan, amounts)) M) :
    0 < amounts.cryptoAmountBase ∧ userCrypto (loanWallet loan) M =
      userCrypto (loanWallet loan) L - amounts.cryptoAmountBase +
        remainingCollateralBase amounts.cryptoAmountBase.toNat := by
  obtain ⟨wallet, text, hpayable, hwallets⟩ := payoutBlock_commits h
  obtain ⟨-, hpos, -⟩ := FailedLoans.loanExecution_open hpayable.executed
  refine ⟨hpos, ?_⟩
  simp only [userCrypto, Ledger.baseBalance, hwallets, AList.lookup_insert, hpayable.wallet_found,
    Option.elim, paidWallet]
  omega

theorem conserves_iff (s : Desk) (e : Event) : Conserves cache s e ↔ SingleUnit cache s e := by
  cases e with
  | webhook w =>
    cases w with
    | orderDone e transfer =>
      constructor
      · intro h id loan amounts wallet hpay hpayable
        obtain ⟨M, hM⟩ := hpayable.commits
        have hstep : webhookStep cache (.orderDone e transfer) s.ledger = M := by
          simp only [webhookStep, hpay]
          exact commit_of_commits hM
        have hconserved := h (loan, amounts)
          (Option.mem_def.mpr (payout_eq_some.mpr ⟨id, hpay, hstep ▸ hM⟩))
        obtain ⟨hpos, hafter⟩ := userCrypto_payout hM
        simp only [hstep, hafter] at hconserved
        have hnone : remainingCollateralBase amounts.cryptoAmountBase.toNat = 0 := by omega
        exact Int.toNat_le.mp ((remainingCollateralBase_eq_zero_iff _).mp hnone)
      · rintro h ⟨loan, amounts⟩ hp
        obtain ⟨id, hpay, hcommits⟩ := payout_eq_some.mp (Option.mem_def.mp hp)
        obtain ⟨wallet, text, hpayable, -⟩ := payoutBlock_commits hcommits
        have hone := h id loan amounts wallet hpay hpayable
        obtain ⟨hpos, hafter⟩ := userCrypto_payout hcommits
        have hnone := (remainingCollateralBase_eq_zero_iff _).mpr (Int.toNat_le.mpr hone)
        rw [hafter, hnone, add_zero]
    | transferSuccess reference => exact ⟨fun _ => trivial, fun _ p hp => by cases hp⟩
    | transferFailure reference => exact ⟨fun _ => trivial, fun _ p hp => by cases hp⟩
  | _ => exact Iff.rfl

end Sales

/-- From a state without pending loans: in every run whose steps are secure, each filled order finds
its volume unreserved; and the payouts of a run conserve the user's crypto exactly where none is
for more than one base unit. -/
theorem sales_served (cache : ConvertCurrency.DefaultNetworkCache) (s : Desk)
    (hs : ∀ id loan, s.ledger.loans.lookup id = some loan → loan.status ≠ .PENDING)
    (events : List Event) :
    (Run.Along (step cache) (Secure cache) s events →
      Run.Along (step cache) (Available cache) s events) ∧
    (Run.Along (step cache) (Conserves cache) s events ↔
      Run.Along (step cache) (SingleUnit cache) s events) := by
  constructor
  · intro h
    exact (Run.throughout_and_along (fun _ hs => hs) (fun _ _ hs he => hs.step he)
      (secured_of_settled hs) h).2
  · exact Run.along_congr (I := fun _ => True) (fun _ _ _ => trivial)
      (fun t e _ => conserves_iff t e) trivial

/-- A user with 0.002 BTC, and no loan so far. -/
def borrower : Desk where
  ledger := { Ledger.empty with
    wallets := (∅ : Table WalletKey Wallet).insert (1, .btc)
      { Wallet.empty with
        currencyId := some .btc, baseBalance := 200000, defaultNetwork := some .btc }
    companyLiquidity := (∅ : Table Currency CompanyLiquidity).insert .btc
      { CompanyLiquidity.empty with totalBalance := 500000, internalBalance := 200000 } }
  quotes := ∅
  collateralAmountAsset := ∅

def confirmed (id : LoanId) (quoteId : Reference) : Event :=
  .confirm id
    { quoteId := quoteId, userId := 1, pinValid := true, configured := true, bankAccount := true }

/-- A loan of one naira at a price that makes its collateral one satoshi. -/
def smallestSale : List Event :=
  [.quote 5 1 .btc ⟨1, 0⟩ (some ['1', '0', '0', '0', '0', '0', '0', '0', '0']),
    confirmed 1 5, .placed 1 8,
    .webhook (.orderDone { OrderDone.executedAt ['1', '0', '0', '0', '0', '0', '0', '0', '0'] with
      reference := 8, executedVolume := some ['0', '.', '0', '0', '0', '0', '0', '0', '0', '1'] }
      (some 14))]

theorem smallestSale_served :
    Run.Along (step fun _ => none) (Available fun _ => none) borrower smallestSale ∧
      Run.Along (step fun _ => none) (Conserves fun _ => none) borrower smallestSale := by
  have hserved := sales_served (fun _ => none) borrower
    (fun id loan h => by simp [borrower, Ledger.empty] at h) smallestSale
  constructor
  · refine hserved.1 ⟨trivial, ?_, trivial, ?_, trivial⟩
    · unfold confirmed Secure
      decide +kernel
    · unfold Secure
      decide +kernel
  · refine hserved.2.mpr ⟨trivial, trivial, trivial, ?_, trivial⟩
    intro id loan amounts wallet hpay hpayable
    have hone : ∀ f ∈ fill (fun _ => none) (Run.final (step fun _ => none) borrower
        (smallestSale.take 3)).ledger (.orderDone
          { OrderDone.executedAt ['1', '0', '0', '0', '0', '0', '0', '0', '0'] with
            reference := 8
            executedVolume := some ['0', '.', '0', '0', '0', '0', '0', '0', '0', '1'] }
          (some 14)), f.amounts.cryptoAmountBase ≤ 1 := by decide +kernel
    exact hone _ (Option.mem_def.mpr (fill_of_payable hpay hpayable))

theorem reserveBalance_loans (userId : UserId) (currency : Currency) (amount : Nat)
    (network : PinnedNetwork) (L : Ledger) :
    ((reserveBalance userId currency amount network).commit L).loans = L.loans := by
  have hkeeps : Preserves (fun M => M.loans = L.loans)
      (reserveBalance userId currency amount network) :=
    (reserveBalance_onBalances userId currency amount network).preserves fun _ => Iff.rfl
  exact hkeeps.commit rfl

/-- The other half of the balance and more is reserved before the sell order is filled. -/
def oversold : List Event :=
  [.quote 5 1 .btc ⟨123, -2⟩ (some ['1', '2', '3', '0']), confirmed 1 5, .placed 1 8,
    .elsewhere (reserveBalance 1 .btc 150000 none).commit (reserveBalance_loans 1 .btc 150000 none),
    .webhook (.orderDone { OrderDone.executedAt ['1', '2', '3', '0'] with reference := 8 }
      (some 14))]

theorem oversold_not_served :
    ¬ Run.Along (step fun _ => none) (Available fun _ => none) borrower oversold ∧
      ¬ Run.Along (step fun _ => none) (Conserves fun _ => none) borrower oversold := by
  constructor
  · rintro ⟨-, -, -, -, h, -⟩
    revert h
    unfold Available
    decide +kernel
  · rintro ⟨-, -, -, -, h, -⟩
    revert h
    unfold Conserves
    decide +kernel

end CollateralSales

end ExchangeLedger
