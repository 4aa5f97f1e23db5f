import ExchangeLedger.Money

set_option autoImplicit false

/-! The `order.done` webhook up to the step that settles the order: which row an event is for,
and what the executed volume and price of the event amount to in base units. -/

namespace ExchangeLedger

def TransactionStatus.isFinal (s : TransactionStatus) : Bool := s = .COMPLETED ∨ s = .FAILED

namespace Ledger

/-- `order.findFirst({ where: { referenceNo } })`. -/
def orderByReference (L : Ledger) (reference : Reference) : Option (TransactionId × Order) :=
  (L.orders.entries.find? (fun e => e.2.referenceNo = some reference)).map (fun e => (e.1, e.2))

/-- `urgentLiquidityLoan.findFirst({ where: { quidaxSwapId } })`. -/
def loanByQuidaxSwapId (L : Ledger) (reference : Reference) :
    Option (LoanId × UrgentLiquidityLoan) :=
  (L.loans.entries.find? (fun e => e.2.quidaxSwapId = some reference)).map (fun e => (e.1, e.2))

def walletDefaultNetwork (L : Ledger) (userId : UserId) (currency : Currency) :
    Option CryptoNetwork :=
  (L.wallets.lookup (userId, currency)).bind Wallet.defaultNetwork

end Ledger

namespace OrderDone

inductive EventStatus where
  | done | cancelled | rejected | failed
  deriving DecidableEq, Repr

structure Event where
  reference : Reference
  side : OrderType
  baseUnit : Currency
  quoteUnit : Currency
  status : EventStatus
  executedVolume : Option Text
  avgPrice : Option Text
  deriving DecidableEq, Repr

/-- `amount || '0'`. -/
def amountOrZero : Option Text → Text
  | some (c :: s) => c :: s
  | _ => ['0']

namespace Event

def isFailure (e : Event) : Bool := e.status ∈ [.cancelled, .rejected, .failed]

def executedVolumeStr (e : Event) : Text := amountOrZero e.executedVolume

def avgPriceStr (e : Event) : Text := amountOrZero e.avgPrice

end Event

structure ExecutedAmounts where
  cryptoAmountBase : Int
  fiatAmountBase : Int
  deriving DecidableEq, Repr

/-- `new Decimal(s)`. -/
def newDecimal (s : Text) : Except String Decimal :=
  match Decimal.parse s with
  | some x => .ok x
  | none => .error "[DecimalError] Invalid argument"

def executedAmounts (cache : ConvertCurrency.DefaultNetworkCache) (crypto : Currency) (e : Event) :
    Except String ExecutedAmounts := do
  let executedCryptoAmountBase ← ConvertCurrency.toBase cache e.executedVolumeStr crypto
  let volume ← newDecimal e.executedVolumeStr
  let price ← newDecimal e.avgPriceStr
  let executedFiatAmountBase ←
    ConvertCurrency.toBase cache (Decimal.mul volume price).toText e.quoteUnit
  return ⟨executedCryptoAmountBase, executedFiatAmountBase⟩

/-- Where the handler goes with an event. -/
inductive Route where
  | ignore
  | failOrder (transactionId : TransactionId)
  | failLoan (loanId : LoanId)
  | payLoan (loanId : LoanId)
  | settle (transactionId : TransactionId) (amounts : ExecutedAmounts)
  deriving DecidableEq, Repr

def process (cache : ConvertCurrency.DefaultNetworkCache) (L : Ledger) (e : Event) :
    Except String Route :=
  match L.orderByReference e.reference with
  | none =>
    match L.loanByQuidaxSwapId e.reference with
    | none => .ok .ignore
    | some (loanId, _) => .ok (if e.isFailure then .failLoan loanId else .payLoan loanId)
  | some (transactionId, _) =>
    match L.transactions.lookup transactionId with
    | none => .ok .ignore
    | some transaction =>
      if e.isFailure then .ok (.failOrder transactionId)
      else if transaction.status.isFinal then .ok .ignore
      else match L.walletDefaultNetwork transaction.userId e.baseUnit with
        | none => .error "wallet default network not found"
        | some _ => (executedAmounts cache e.baseUnit e).map (.settle transactionId)

/-- The guards and the conversion of `processUrgentLiquidityPayout`; `none` where it returns. -/
def loanExecution (cache : ConvertCurrency.DefaultNetworkCache) (fresh : UrgentLiquidityLoan)
    (e : Event) : Except String (Option ExecutedAmounts) :=
  if fresh.status ∈ [.DISBURSED, .FAILED, .REPAID, .DEADLINE_EXCEEDED] then .ok none
  else if fresh.status ∈ [.QUIDAX_COMPLETED, .PAYSTACK_COMPLETED] then .ok none
  else if fresh.paystackTransferId.isSome then .ok none
  else do
    let amounts ← executedAmounts cache fresh.collateralAsset e
    if amounts.cryptoAmountBase ≤ 0 ∨ amounts.fiatAmountBase ≤ 0 then
      throw "Invalid urgent liquidity Quidax sell execution"
    return some amounts

/-! ### When the conversion succeeds -/

/-- An unsigned plain decimal with at most `k` fraction digits. -/
def PlainWithin (k : Nat) (s : Text) : Prop :=
  ∃ w f, Decimal.splitPoint s = some (w, f) ∧ f.length ≤ k

def Plain (s : Text) : Prop := ∃ k, PlainWithin k s

/-- The executed value, volume times price to twenty significant digits. -/
def Event.product (e : Event) : Rat :=
  match Decimal.parse e.executedVolumeStr, Decimal.parse e.avgPriceStr with
  | some volume, some price => (Decimal.mul volume price).value
  | _, _ => 0

theorem newDecimal_plain {s : Text} (h : Plain s) :
    ∃ x, Decimal.parse s = some x ∧ newDecimal s = .ok x ∧ 0 ≤ x.mant := by
  obtain ⟨k, w, f, hp, -⟩ := h
  have hparse := Decimal.parse_plain hp
  exact ⟨_, hparse, by simp only [newDecimal, hparse], by simp⟩

theorem mul_mant_nonneg {x y : Decimal} (hx : 0 ≤ x.mant) (hy : 0 ≤ y.mant) :
    0 ≤ (Decimal.mul x y).mant := by
  have h := Int.mul_nonneg hx hy
  unfold Decimal.mul Decimal.roundSig
  dsimp only
  split
  · exact h
  · exact Int.mul_nonneg (Int.sign_nonneg_iff.mpr h) (Int.natCast_nonneg _)

theorem getDecimals_ngn (cache : ConvertCurrency.DefaultNetworkCache) :
    ConvertCurrency.getDecimals cache .ngn = .ok 2 := rfl

theorem executedAmounts_plain {cache : ConvertCurrency.DefaultNetworkCache} {crypto : Currency}
    {e : Event} {d : Nat} (hd : ConvertCurrency.getDecimals cache crypto = .ok d)
    (hv : PlainWithin d e.executedVolumeStr) (hp : Plain e.avgPriceStr)
    (hq : e.quoteUnit = .ngn) :
    ∃ (n : Nat) (x : Decimal), 0 ≤ x.mant ∧ x.normalMant < 10 ^ Decimal.precision ∧
      x.value = e.product ∧ (n = 0 → x.mant = 0) ∧
      executedAmounts cache crypto e =
        (ConvertCurrency.toBaseUnits 2 x.toText).map (fun v => ⟨n, v⟩) := by
  obtain ⟨volume, hvp, hvd, hv0⟩ := newDecimal_plain ⟨d, hv⟩
  obtain ⟨price, hpp, hpd, hp0⟩ := newDecimal_plain hp
  obtain ⟨w, f, hs, hf⟩ := hv
  have hbase := ConvertCurrency.toBaseUnits_plain hs hf
  have hvol := Decimal.parse_plain hs
  refine ⟨Decimal.readNat (w ++ f) * 10 ^ (d - f.length), Decimal.mul volume price,
    mul_mant_nonneg hv0 hp0, Decimal.roundSig_normalMant_lt (by decide) _, ?_, ?_, ?_⟩
  · simp only [Event.product, hvp, hpp]
  · intro hn
    have hz : Decimal.readNat (w ++ f) = 0 := by
      rcases Nat.mul_eq_zero.mp hn with h | h
      · exact h
      · exact absurd h (by positivity)
    rw [hvp] at hvol
    cases hvol
    simp [Decimal.mul, Decimal.roundSig, hz, Decimal.precision]
  · simp only [executedAmounts, ConvertCurrency.toBase, hd, hq, getDecimals_ngn, hvd, hpd, hbase,
      bind, Except.bind]
    cases ConvertCurrency.toBaseUnits 2 (Decimal.mul volume price).toText <;> rfl

/-- The conversion of a plain event succeeds exactly when the executed value is a whole number
of kobo, or so small that its scientific notation is rounded to zero. -/
theorem executedAmounts_isOk_iff {cache : ConvertCurrency.DefaultNetworkCache} {crypto : Currency}
    {e : Event} {d : Nat} (hd : ConvertCurrency.getDecimals cache crypto = .ok d)
    (hv : PlainWithin d e.executedVolumeStr) (hp : Plain e.avgPriceStr)
    (hq : e.quoteUnit = .ngn) :
    (∃ amounts, executedAmounts cache crypto e = .ok amounts) ↔
      (∃ kobo : Nat, e.product = kobo / (10 : Rat) ^ 2) ∨ e.product < 5 / 10 ^ 13 := by
  obtain ⟨n, x, hx, hlt, hval, -, hamounts⟩ := executedAmounts_plain hd hv hp hq
  rw [← hval, ← ConvertCurrency.toBaseUnits_two_toText_iff hx hlt, hamounts]
  cases ConvertCurrency.toBaseUnits 2 x.toText with
  | ok v => simp [Except.map]
  | error m => simp [Except.map]

theorem loanExecution_of_open {cache : ConvertCurrency.DefaultNetworkCache}
    {loan : UrgentLiquidityLoan} {e : Event}
    (hopen : loan.status = .PENDING ∧ loan.paystackTransferId = none) :
    loanExecution cache loan e =
      (executedAmounts cache loan.collateralAsset e).bind (fun amounts =>
        if amounts.cryptoAmountBase ≤ 0 ∨ amounts.fiatAmountBase ≤ 0 then
          .error "Invalid urgent liquidity Quidax sell execution"
        else .ok (some amounts)) := by
  unfold loanExecution
  rw [if_neg (by simp [hopen.1]), if_neg (by simp [hopen.1]), if_neg (by simp [hopen.2])]
  cases executedAmounts cache loan.collateralAsset e with
  | error m => rfl
  | ok amounts =>
    by_cases h : amounts.cryptoAmountBase ≤ 0 ∨ amounts.fiatAmountBase ≤ 0
    · simp only [bind, Except.bind, h, if_true]
      rfl
    · simp only [bind, Except.bind, h, if_false]
      rfl

theorem loanExecution_isSome_iff {cache : ConvertCurrency.DefaultNetworkCache}
    {loan : UrgentLiquidityLoan} {e : Event} {d : Nat}
    (hopen : loan.status = .PENDING ∧ loan.paystackTransferId = none)
    (hd : ConvertCurrency.getDecimals cache loan.collateralAsset = .ok d)
    (hv : PlainWithin d e.executedVolumeStr) (hp : Plain e.avgPriceStr)
    (hq : e.quoteUnit = .ngn) :
    (∃ amounts, loanExecution cache loan e = .ok (some amounts)) ↔
      ∃ kobo : Nat, 0 < kobo ∧ e.product = kobo / (10 : Rat) ^ 2 := by
  obtain ⟨n, x, hx, hlt, hval, hzero, hamounts⟩ := executedAmounts_plain hd hv hp hq
  have hiff := ConvertCurrency.toBaseUnits_two_toText_iff hx hlt
  rw [loanExecution_of_open hopen, hamounts, ← hval]
  rcases hx.eq_or_lt with h0 | hpos
  · have ht : x.toText = ['0'] := by simp [Decimal.toText, ← h0]
    have hv0 : x.value = 0 := by simp [Decimal.value, ← h0]
    rw [ht, ConvertCurrency.toBaseUnits_zero, hv0]
    constructor
    · rintro ⟨amounts, h⟩
      simp [Except.map, Except.bind] at h
    · rintro ⟨kobo, hk, h⟩
      rw [eq_comm, div_eq_zero_iff] at h
      norm_num at h
      omega
  · have hn : 0 < n := Nat.pos_of_ne_zero (fun h => by have := hzero h; omega)
    cases hr : ConvertCurrency.toBaseUnits 2 x.toText with
    | error m =>
      rw [hr] at hiff
      constructor
      · rintro ⟨amounts, h⟩
        cases h
      · rintro ⟨kobo, -, hk⟩
        obtain ⟨v, hv⟩ := hiff.mpr (.inl ⟨kobo, hk⟩)
        cases hv
    | ok v =>
      have hvpos := ConvertCurrency.toBaseUnits_toText_pos hpos hr
      have hbranch : (∃ amounts, (Except.map (fun v => (⟨n, v⟩ : ExecutedAmounts))
          (Except.ok v : Except String Int)).bind (fun amounts =>
            if amounts.cryptoAmountBase ≤ 0 ∨ amounts.fiatAmountBase ≤ 0 then
              .error "Invalid urgent liquidity Quidax sell execution"
            else .ok (some amounts)) = .ok (some amounts)) ↔ 0 < v := by
        simp only [Except.map, Except.bind]
        split
        · simp only [reduceCtorEq, exists_false, false_iff]
          omega
        · simp only [Except.ok.injEq, Option.some.injEq, exists_eq', true_iff]
          omega
      rw [hbranch, hvpos]
      constructor
      · intro hge
        rcases hiff.mp ⟨v, hr⟩ with ⟨kobo, hk⟩ | hlt'
        · refine ⟨kobo, Nat.pos_of_ne_zero ?_, hk⟩
          rintro rfl
          rw [hk] at hge
          norm_num at hge
        · norm_num at hge hlt'
          linarith
      · rintro ⟨kobo, hk, h⟩
        have hk1 : (1 : Rat) ≤ kobo := by exact_mod_cast hk
        rw [h]
        norm_num
        linarith

/-- Which events of an open order, or of a loan that waits for its payout, reach settlement. -/
theorem process_reaches_settlement_iff {cache : ConvertCurrency.DefaultNetworkCache} {L : Ledger}
    {e : Event} (hstatus : e.isFailure = false) (hquote : e.quoteUnit = .ngn)
    (hprice : Plain e.avgPriceStr) :
    (∀ t o tx d, L.orderByReference e.reference = some (t, o) →
      L.transactions.lookup t = some tx → tx.status.isFinal = false →
      ConvertCurrency.getDecimals cache e.baseUnit = .ok d → PlainWithin d e.executedVolumeStr →
      ((∃ amounts, process cache L e = .ok (.settle t amounts)) ↔
        (L.walletDefaultNetwork tx.userId e.baseUnit).isSome ∧
          ((∃ kobo : Nat, e.product = kobo / (10 : Rat) ^ 2) ∨ e.product < 5 / 10 ^ 13))) ∧
    (∀ l loan d, L.orderByReference e.reference = none →
      L.loanByQuidaxSwapId e.reference = some (l, loan) →
      loan.status = .PENDING ∧ loan.paystackTransferId = none →
      ConvertCurrency.getDecimals cache loan.collateralAsset = .ok d →
      PlainWithin d e.executedVolumeStr →
      process cache L e = .ok (.payLoan l) ∧
        ((∃ amounts, loanExecution cache loan e = .ok (some amounts)) ↔
          ∃ kobo : Nat, 0 < kobo ∧ e.product = kobo / (10 : Rat) ^ 2)) := by
  constructor
  · intro t o tx d horder htx hopen hd hv
    rw [← executedAmounts_isOk_iff hd hv hprice hquote]
    unfold process
    simp only [horder, htx, hstatus, hopen, Bool.false_eq_true, if_false]
    cases L.walletDefaultNetwork tx.userId e.baseUnit with
    | none => simp
    | some network =>
      cases executedAmounts cache e.baseUnit e with
      | ok amounts => simp [Except.map]
      | error m => simp [Except.map]
  · intro l loan d horder hloan hopen hd hv
    refine ⟨?_, loanExecution_isSome_iff hopen hd hv hprice hquote⟩
    unfold process
    simp only [horder, hloan, hstatus, Bool.false_eq_true, if_false]

/-- A pending sell order of user 1, with the BTC wallet it sells from. -/
def pendingSell : Ledger :=
  { Ledger.empty with
    wallets := (∅ : Table WalletKey Wallet).insert (1, .btc)
      { Wallet.empty with
        baseBalance := 200000, reservedBalance := 100000, defaultNetwork := some .btc }
    transactions := (∅ : Table TransactionId Transaction).insert 1
      { userId := 1, transactionContext := .SELL, transactionUniqueId := 7, currency := .btc
        letterCase := .upper, network := some .btc, cryptoAmountBase := some 100000
        fiatAmountBase := 123450, platformFeeBase := some 0, totalAmountSentBase := none
        executedCryptoAmountBase := none, executedFiatAmountBase := none, status := .PENDING
        isProcessed := false
        paymentMetadata := PaymentMetadata.empty }
    orders := (∅ : Table TransactionId Order).insert 1
      { userId := 1, type := .SELL, fiatAmountBase := 123450, status := .PENDING
        referenceNo := some 7, paymentStatus := .PENDING, paymentReference := none } }

def executedAt (avgPrice : Text) : Event where
  reference := 7
  side := .SELL
  baseUnit := .btc
  quoteUnit := .ngn
  status := .done
  executedVolume := some ['0', '.', '0', '0', '1']
  avgPrice := some avgPrice

theorem executedAt_plainWithin (price : Text) :
    PlainWithin 8 (executedAt price).executedVolumeStr :=
  ⟨['0'], ['0', '0', '1'], rfl, by decide⟩

theorem plain_price : Plain ['1', '2', '3', '4', '.', '5'] :=
  ⟨1, ['1', '2', '3', '4'], ['5'], by decide, by decide⟩

theorem plain_round_price : Plain ['1', '2', '3', '0'] :=
  ⟨0, ['1', '2', '3', '0'], [], by decide, by decide⟩

theorem process_settles_round_price :
    ∃ amounts, process (fun _ => none) pendingSell (executedAt ['1', '2', '3', '0']) =
      .ok (.settle 1 amounts) := by
  have h := (@process_reaches_settlement_iff (fun _ => none) pendingSell
    (executedAt ['1', '2', '3', '0']) rfl rfl plain_round_price).1 1 _ _ 8 rfl rfl rfl rfl
    (executedAt_plainWithin _)
  refine h.mpr ⟨rfl, .inl ⟨123, ?_⟩⟩
  have hp : (executedAt ['1', '2', '3', '0']).product = (Decimal.mk 1230 (-3)).value := by
    decide +kernel
  rw [hp]
  norm_num [Decimal.value]

/-- A thousandth of a bitcoin at 1234.5 naira is 1.2345 naira, which `toBase` rejects. -/
theorem process_throws_on_fraction_of_kobo :
    ¬ ∀ (cache : ConvertCurrency.DefaultNetworkCache) (L : Ledger) (e : Event)
      (t : TransactionId) (o : Order) (tx : Transaction) (d : Nat),
      e.isFailure = false → e.quoteUnit = .ngn → Plain e.avgPriceStr →
      L.orderByReference e.reference = some (t, o) → L.transactions.lookup t = some tx →
      tx.status.isFinal = false → (L.walletDefaultNetwork tx.userId e.baseUnit).isSome →
      ConvertCurrency.getDecimals cache e.baseUnit = .ok d → PlainWithin d e.executedVolumeStr →
      ∃ amounts, process cache L e = .ok (.settle t amounts) := by
  intro h
  obtain ⟨amounts, hok⟩ := h (fun _ => none) pendingSell (executedAt ['1', '2', '3', '4', '.', '5'])
    1 _ _ 8 rfl rfl plain_price rfl rfl rfl rfl rfl (executedAt_plainWithin _)
  have herr : process (fun _ => none) pendingSell (executedAt ['1', '2', '3', '4', '.', '5']) =
      .error "supports at most the currency's decimal places" := by decide +kernel
  rw [herr] at hok
  cases hok

end OrderDone

end ExchangeLedger
