import ExchangeLedger.Money
import ExchangeLedger.Movement
import ExchangeLedger.Posting

set_option autoImplicit false

/-! The statements of the ledger code that touch balances, each with what it moves. -/

namespace ExchangeLedger

open Block

def Currency.code : Currency → String
  | .btc => "BTC"
  | .usdt => "USDT"
  | .usdc => "USDC"
  | .eth => "ETH"
  | .bnb => "BNB"
  | .doge => "DOGE"
  | .xrp => "XRP"
  | .sol => "SOL"
  | .link => "LINK"
  | .trx => "TRX"
  | .ngn => "NGN"
  | .usd => "USD"

def Ledger.setWallet (L : Ledger) (k : WalletKey) (w : Wallet) : Ledger :=
  { L with wallets := L.wallets.insert k w }

def Ledger.setCompany (L : Ledger) (currency : Currency) (r : CompanyLiquidity) : Ledger :=
  { L with companyLiquidity := L.companyLiquidity.insert currency r }

@[simp] theorem Ledger.setWallet_wallets (L : Ledger) (k : WalletKey) (w : Wallet) :
    (L.setWallet k w).wallets = L.wallets.insert k w := rfl

@[simp] theorem Ledger.setWallet_companyLiquidity (L : Ledger) (k : WalletKey) (w : Wallet) :
    (L.setWallet k w).companyLiquidity = L.companyLiquidity := rfl

@[simp] theorem Ledger.setCompany_wallets (L : Ledger) (c : Currency) (r : CompanyLiquidity) :
    (L.setCompany c r).wallets = L.wallets := rfl

@[simp] theorem Ledger.setCompany_companyLiquidity (L : Ledger) (c : Currency)
    (r : CompanyLiquidity) :
    (L.setCompany c r).companyLiquidity = L.companyLiquidity.insert c r := rfl

/-- `UPDATE "wallets" SET f WHERE p`; true when a row was updated. -/
def updateWallet (k : WalletKey) (p : Wallet → Prop) [DecidablePred p] (f : Wallet → Wallet) :
    LedgerBlock Bool := fun L =>
  match L.wallets.lookup k with
  | some w => if p w then .ok (true, L.setWallet k (f w)) else .ok (false, L)
  | none => .ok (false, L)

/-- `UPDATE "company_liquidity" SET f WHERE p`; true when a row was updated. -/
def updateCompany (currency : Currency) (p : CompanyLiquidity → Prop) [DecidablePred p]
    (f : CompanyLiquidity → CompanyLiquidity) : LedgerBlock Bool := fun L =>
  match L.companyLiquidity.lookup currency with
  | some r => if p r then .ok (true, L.setCompany currency (f r)) else .ok (false, L)
  | none => .ok (false, L)

theorem updateWallet_commits {k : WalletKey} {p : Wallet → Prop} [DecidablePred p]
    {f : Wallet → Wallet} {L M : Ledger} {b : Bool} :
    (updateWallet k p f).Commits L b M ↔
      (∃ w, L.wallets.lookup k = some w ∧ p w ∧ b = true ∧ L.setWallet k (f w) = M) ∨
      ((∀ w, L.wallets.lookup k = some w → ¬ p w) ∧ b = false ∧ L = M) := by
  unfold Commits updateWallet
  cases h : L.wallets.lookup k with
  | none => simp [eq_comm]
  | some w =>
    by_cases hp : p w
    · simp [hp, eq_comm]
    · simp [hp, eq_comm]

theorem updateCompany_commits {c : Currency} {p : CompanyLiquidity → Prop} [DecidablePred p]
    {f : CompanyLiquidity → CompanyLiquidity} {L M : Ledger} {b : Bool} :
    (updateCompany c p f).Commits L b M ↔
      (∃ r, L.companyLiquidity.lookup c = some r ∧ p r ∧ b = true ∧
        L.setCompany c (f r) = M) ∨
      ((∀ r, L.companyLiquidity.lookup c = some r → ¬ p r) ∧ b = false ∧ L = M) := by
  unfold Commits updateCompany
  cases h : L.companyLiquidity.lookup c with
  | none => simp [eq_comm]
  | some r =>
    by_cases hp : p r
    · simp [hp, eq_comm]
    · simp [hp, eq_comm]

/-- An update that throws when it finds no row to update. -/
def mustUpdateWallet (k : WalletKey) (p : Wallet → Prop) [DecidablePred p] (f : Wallet → Wallet)
    (e : Failure) : LedgerBlock Unit := do
  let updated ← updateWallet k p f
  require (updated = true) e

theorem mustUpdateWallet_commits {k : WalletKey} {p : Wallet → Prop} [DecidablePred p]
    {f : Wallet → Wallet} {e : Failure} {L M : Ledger} {u : Unit} :
    (mustUpdateWallet k p f e).Commits L u M ↔
      ∃ w, L.wallets.lookup k = some w ∧ p w ∧ L.setWallet k (f w) = M := by
  simp only [mustUpdateWallet, commits_bind, commits_require, updateWallet_commits]
  constructor
  · rintro ⟨b, _, ⟨w, hw, hp, -, rfl⟩ | ⟨-, rfl, -⟩, hb, rfl⟩
    · exact ⟨w, hw, hp, rfl⟩
    · cases hb
  · rintro ⟨w, hw, hp, rfl⟩
    exact ⟨true, _, .inl ⟨w, hw, hp, rfl, rfl⟩, rfl, rfl⟩

/-! ### `TransactionService` -/

/-- A network that the caller pins: absent for `undefined`. -/
abbrev PinnedNetwork := Option (Option CryptoNetwork)

def PinnedNetwork.agrees (network : PinnedNetwork) (wallet : Wallet) : Prop :=
  network = none ∨ network = some wallet.defaultNetwork

instance (network : PinnedNetwork) (wallet : Wallet) : Decidable (network.agrees wallet) := by
  unfold PinnedNetwork.agrees
  infer_instance

/-- The common body of `reserveBalance` and `releaseBalance`. -/
def changeReserved (userId : UserId) (currency : Currency) (walletDefaultNetwork : PinnedNetwork)
    (p : Wallet → Prop) [DecidablePred p] (f : Wallet → Wallet) (networkChanged refused : String) :
    LedgerBlock Unit := do
  let found ← read (fun L => L.wallets.lookup (userId, currency))
  let wallet ← demand found (.thrown (currency.code ++ " wallet not found"))
  require (walletDefaultNetwork.agrees wallet) (.thrown networkChanged)
  mustUpdateWallet (userId, currency) p f (.thrown refused)

def reserveBalance (userId : UserId) (currency : Currency) (amount : Nat)
    (walletDefaultNetwork : PinnedNetwork) : LedgerBlock Unit :=
  changeReserved userId currency walletDefaultNetwork
    (fun w => (amount : Int) ≤ w.baseBalance - w.reservedBalance)
    (fun w => { w with reservedBalance := w.reservedBalance + amount })
    (currency.code ++ " wallet network changed. Please request a new quote.")
    ("Insufficient " ++ currency.code ++ " balance")

def releaseBalance (userId : UserId) (currency : Currency) (amount : Nat)
    (walletDefaultNetwork : PinnedNetwork) : LedgerBlock Unit :=
  changeReserved userId currency walletDefaultNetwork
    (fun w => (amount : Int) ≤ w.reservedBalance)
    (fun w => { w with reservedBalance := w.reservedBalance - amount })
    (currency.code ++ " wallet network changed. Please retry this operation.")
    "Reserved balance inconsistency"

theorem changeReserved_commits {userId : UserId} {currency : Currency} {network : PinnedNetwork}
    {p : Wallet → Prop} [DecidablePred p] {f : Wallet → Wallet} {m₁ m₂ : String} {L M : Ledger}
    {u : Unit} :
    (changeReserved userId currency network p f m₁ m₂).Commits L u M ↔
      ∃ w, L.wallets.lookup (userId, currency) = some w ∧ network.agrees w ∧ p w ∧
        L.setWallet (userId, currency) (f w) = M := by
  simp only [changeReserved, commits_read_bind, commits_demand_bind, commits_require_bind,
    mustUpdateWallet_commits]
  constructor
  · rintro ⟨w, hw, hn, v, hv, hp, rfl⟩
    rw [hw] at hv
    cases hv
    exact ⟨w, hw, hn, hp, rfl⟩
  · rintro ⟨w, hw, hn, hp, rfl⟩
    exact ⟨w, hw, hn, w, hw, hp, rfl⟩

theorem reserveBalance_commits {userId : UserId} {currency : Currency} {amount : Nat}
    {network : PinnedNetwork} {L M : Ledger} {u : Unit} :
    (reserveBalance userId currency amount network).Commits L u M ↔
      ∃ w, L.wallets.lookup (userId, currency) = some w ∧ network.agrees w ∧
        (amount : Int) ≤ w.baseBalance - w.reservedBalance ∧
        L.setWallet (userId, currency) { w with reservedBalance := w.reservedBalance + amount } =
          M := changeReserved_commits

theorem releaseBalance_commits {userId : UserId} {currency : Currency} {amount : Nat}
    {network : PinnedNetwork} {L M : Ledger} {u : Unit} :
    (releaseBalance userId currency amount network).Commits L u M ↔
      ∃ w, L.wallets.lookup (userId, currency) = some w ∧ network.agrees w ∧
        (amount : Int) ≤ w.reservedBalance ∧
        L.setWallet (userId, currency) { w with reservedBalance := w.reservedBalance - amount } =
          M := changeReserved_commits

/-! ### `CompanyLiquidityService` -/

def CompanyLiquidity.available (r : CompanyLiquidity) : Int :=
  r.totalBalance - r.reservedBalance - r.totalLockedPrincipal - r.totalAccruedLockedInterest

def getAvailableLiquidity (L : Ledger) (currency : Currency) : Int :=
  (L.companyLiquidity.lookup currency).elim 0 CompanyLiquidity.available

def isInternalBalanceExceeding (L : Ledger) (currency : Currency) : Bool :=
  (L.companyLiquidity.lookup currency).any (fun r => r.totalBalance < r.internalBalance)

def reserveLiquidity (currency : Currency) (amount : Nat) : LedgerBlock Bool :=
  updateCompany currency (fun r => (amount : Int) ≤ r.totalBalance - r.reservedBalance)
    (fun r => { r with reservedBalance := r.reservedBalance + amount })

def releaseLiquidity (currency : Currency) (amount : Nat) : LedgerBlock Unit :=
  if amount = 0 then pure ()
  else do
    let result ← updateCompany currency (fun r => (amount : Int) ≤ r.reservedBalance)
      (fun r => { r with reservedBalance := r.reservedBalance - amount })
    require (result = true) (.thrown "Reserved company liquidity inconsistency")

def consumeReservedLiquidity (currency : Currency) (amount : Int) : LedgerBlock Bool :=
  updateCompany currency
    (fun r => amount ≤ r.reservedBalance ∧ amount ≤ r.totalBalance)
    (fun r => { r with
      reservedBalance := r.reservedBalance - amount, totalBalance := r.totalBalance - amount })

def reduceLiquidity (currency : Currency) (amount : Nat) : LedgerBlock Bool :=
  updateCompany currency (fun r => (amount : Int) ≤ r.totalBalance - r.reservedBalance)
    (fun r => { r with totalBalance := r.totalBalance - amount })

def addLiquidity (currency : Currency) (amount : Int) : LedgerBlock Unit :=
  update (fun L => L.setCompany currency
    (match L.companyLiquidity.lookup currency with
    | some r => { r with totalBalance := r.totalBalance + amount }
    | none => { CompanyLiquidity.empty with totalBalance := amount }))

def addInternalBalance (currency : Currency) (amount : Int) : LedgerBlock Unit :=
  update (fun L => L.setCompany currency
    (match L.companyLiquidity.lookup currency with
    | some r => { r with internalBalance := r.internalBalance + amount }
    | none => { CompanyLiquidity.empty with internalBalance := amount }))

/-- `updateInternalBalance(currency, amount, 'subtract')`. -/
def subtractInternalBalance (currency : Currency) (amount : Int) : LedgerBlock Unit := do
  let result ← updateCompany currency (fun r => amount ≤ r.internalBalance)
    (fun r => { r with internalBalance := r.internalBalance - amount })
  require (result = true)
    (.thrown ("Company " ++ currency.code ++ " internal balance inconsistency"))

/-- An update of one column that does nothing when the row is missing. -/
def shiftCompany (currency : Currency) (column : CompanyColumn) (change : Int) :
    LedgerBlock Bool :=
  updateCompany currency (fun _ => True) (fun r => r.shift change column)

def CompanyLiquidity.column (r : CompanyLiquidity) : CompanyColumn → Int
  | .totalBalance => r.totalBalance
  | .reservedBalance => r.reservedBalance
  | .internalBalance => r.internalBalance
  | .totalLockedPrincipal => r.totalLockedPrincipal
  | .totalAccruedLockedInterest => r.totalAccruedLockedInterest
  | .totalLockedInterestPaid => r.totalLockedInterestPaid
  | .totalAmountStacked => r.totalAmountStacked

/-- The change of a column that drops by `amount`, but not below zero: `GREATEST(.. - .., 0)`. -/
def dropTo (held : Int) (amount : Nat) : Int := max (held - amount) 0 - held

def lowerCompany (currency : Currency) (column : CompanyColumn) (amount : Nat) :
    LedgerBlock Bool :=
  updateCompany currency (fun _ => True)
    (fun r => r.shift (dropTo (r.column column) amount) column)

/-- `MIN_TRANSACTION_USDT` in base units. -/
def minUsdtBase (usdtDecimals : Nat) : Nat := 2 * 10 ^ usdtDecimals

/-- What a confirmation checks of an amount of USDT before its database transaction. -/
def requireMinimum (usdtDecimals : Nat) (currency : Currency) (amount : Nat) (message : String) :
    LedgerBlock Unit :=
  require (currency = .usdt → minUsdtBase usdtDecimals ≤ amount) (.thrown message)

@[simp] theorem commits_requireMinimum_bind {usdtDecimals : Nat} {currency : Currency}
    {amount : Nat} {message : String} {α : Type} {g : Unit → LedgerBlock α} {L M : Ledger} {a : α} :
    (requireMinimum usdtDecimals currency amount message >>= g).Commits L a M ↔
      (currency = .usdt → minUsdtBase usdtDecimals ≤ amount) ∧ (g ()).Commits L a M :=
  commits_require_bind

/-! ### Wallet statements shared by the handlers -/

/-- Take reserved funds out of a wallet. -/
def debitReserved (k : WalletKey) (amount : Nat) (e : Failure) : LedgerBlock Unit :=
  mustUpdateWallet k
    (fun w => (amount : Int) ≤ w.baseBalance ∧ (amount : Int) ≤ w.reservedBalance)
    (fun w => { w with
      baseBalance := w.baseBalance - amount, reservedBalance := w.reservedBalance - amount }) e

/-- Take funds out of the unreserved part of a wallet. -/
def spendWallet (k : WalletKey) (amount : Nat) (e : Failure) : LedgerBlock Unit :=
  mustUpdateWallet k (fun w => (amount : Int) ≤ w.baseBalance - w.reservedBalance)
    (fun w => { w with baseBalance := w.baseBalance - amount }) e

/-- Take funds out of a wallet whether reserved or not. -/
def debitWallet (k : WalletKey) (amount : Nat) (e : Failure) : LedgerBlock Unit :=
  mustUpdateWallet k (fun w => (amount : Int) ≤ w.baseBalance)
    (fun w => { w with baseBalance := w.baseBalance - amount }) e

def creditWallet (k : WalletKey) (amount : Nat) (e : Failure) : LedgerBlock Unit :=
  mustUpdateWallet k (fun _ => True) (fun w => { w with baseBalance := w.baseBalance + amount }) e

def holdWallet (k : WalletKey) (column : Holding) (change : Int) (e : Failure) :
    LedgerBlock Unit :=
  mustUpdateWallet k (fun _ => True) (fun w => w.shift change column) e

/-- `BigInt(String(value))` of a decimal column: from 22 digits on, its text is exponential. -/
def bigIntOfText (value : Int) : Except String Int :=
  if value.natAbs < 10 ^ 21 then .ok value
  else .error ("Cannot convert " ++ String.ofList (Decimal.toText ⟨value, 0⟩) ++ " to a BigInt")

/-- The text of a balance that an update has returned. -/
def restatedText (cache : ConvertCurrency.DefaultNetworkCache) (baseBalance : Int) (c : Currency)
    (network : Option CryptoNetwork) : Except String Text := do
  let newBaseBalance ← bigIntOfText baseBalance
  ConvertCurrency.fromBase cache newBaseBalance c network

def restateWith (text : Int → Except String Text) (k : WalletKey) : LedgerBlock Unit := fun L =>
  match L.wallets.lookup k with
  | none => .ok ((), L)
  | some w =>
    match text w.baseBalance with
    | .ok text => .ok ((), L.setWallet k { w with originalBalance := text })
    | .error message => .error (.thrown message)

/-- Rewrite the text of the balance after an update has changed and returned it. -/
def restateOriginalBalance (cache : ConvertCurrency.DefaultNetworkCache) (k : WalletKey)
    (network : Option CryptoNetwork) : LedgerBlock Unit :=
  restateWith (fun base => restatedText cache base k.2 network) k

/-- The same with a balance that the code itself has worked out. -/
def writeOriginalBalance (cache : ConvertCurrency.DefaultNetworkCache) (k : WalletKey)
    (network : Option CryptoNetwork) : LedgerBlock Unit :=
  restateWith (fun base => ConvertCurrency.fromBase cache base k.2 network) k

theorem releaseLiquidity_commits {c : Currency} {amount : Nat} {L M : Ledger} {u : Unit} :
    (releaseLiquidity c amount).Commits L u M ↔ (amount = 0 ∧ L = M) ∨
      (amount ≠ 0 ∧ ∃ r, L.companyLiquidity.lookup c = some r ∧
        (amount : Int) ≤ r.reservedBalance ∧
        L.setCompany c { r with reservedBalance := r.reservedBalance - amount } = M) := by
  unfold releaseLiquidity
  split
  · rename_i h0
    simp [h0]
  · rename_i h0
    simp only [commits_bind, commits_require, updateCompany_commits, h0, false_and, ne_eq,
      not_false_eq_true, true_and, false_or]
    constructor
    · rintro ⟨b, _, ⟨r, hr, hp, -, rfl⟩ | ⟨-, rfl, -⟩, hb, rfl⟩
      · exact ⟨r, hr, hp, rfl⟩
      · cases hb
    · rintro ⟨r, hr, hp, rfl⟩
      exact ⟨true, _, .inl ⟨r, hr, hp, rfl, rfl⟩, rfl, rfl⟩

/-- The reserved column of a currency's row, zero without a row. -/
def Ledger.reservedLiquidity (L : Ledger) (c : Currency) : Int :=
  (L.companyLiquidity.lookup c).elim 0 CompanyLiquidity.reservedBalance

def Ledger.baseBalance (L : Ledger) (k : WalletKey) : Int :=
  (L.wallets.lookup k).elim 0 Wallet.baseBalance

def Ledger.reservedBalance (L : Ledger) (k : WalletKey) : Int :=
  (L.wallets.lookup k).elim 0 Wallet.reservedBalance

@[simp] theorem Ledger.baseBalance_setWallet (L : Ledger) (k j : WalletKey) (w : Wallet) :
    (L.setWallet k w).baseBalance j = if j = k then w.baseBalance else L.baseBalance j := by
  by_cases h : j = k <;> simp [Ledger.baseBalance, Table.lookup_insert, h]

@[simp] theorem Ledger.reservedBalance_setWallet (L : Ledger) (k j : WalletKey) (w : Wallet) :
    (L.setWallet k w).reservedBalance j =
      if j = k then w.reservedBalance else L.reservedBalance j := by
  by_cases h : j = k <;> simp [Ledger.reservedBalance, Table.lookup_insert, h]

@[simp] theorem Ledger.reservedLiquidity_setWallet (L : Ledger) (k : WalletKey) (w : Wallet)
    (c : Currency) : (L.setWallet k w).reservedLiquidity c = L.reservedLiquidity c := rfl

@[simp] theorem Ledger.baseBalance_setCompany (L : Ledger) (c : Currency) (r : CompanyLiquidity)
    (k : WalletKey) : (L.setCompany c r).baseBalance k = L.baseBalance k := rfl

@[simp] theorem Ledger.reservedBalance_setCompany (L : Ledger) (c : Currency)
    (r : CompanyLiquidity) (k : WalletKey) :
    (L.setCompany c r).reservedBalance k = L.reservedBalance k := rfl

@[simp] theorem Ledger.reservedLiquidity_setCompany (L : Ledger) (c d : Currency)
    (r : CompanyLiquidity) : (L.setCompany c r).reservedLiquidity d =
      if d = c then r.reservedBalance else L.reservedLiquidity d := by
  by_cases h : d = c <;> simp [Ledger.reservedLiquidity, Table.lookup_insert, h]

theorem Ledger.baseBalance_of_lookup {L : Ledger} {k : WalletKey} {w : Wallet}
    (h : L.wallets.lookup k = some w) : L.baseBalance k = w.baseBalance := by
  simp [Ledger.baseBalance, h]

theorem Ledger.reservedBalance_of_lookup {L : Ledger} {k : WalletKey} {w : Wallet}
    (h : L.wallets.lookup k = some w) : L.reservedBalance k = w.reservedBalance := by
  simp [Ledger.reservedBalance, h]

theorem Ledger.reservedLiquidity_of_lookup {L : Ledger} {c : Currency} {r : CompanyLiquidity}
    (h : L.companyLiquidity.lookup c = some r) : L.reservedLiquidity c = r.reservedBalance := by
  simp [Ledger.reservedLiquidity, h]

theorem Ledger.baseBalance_setWallet_of_eq {L : Ledger} {k : WalletKey} {w v : Wallet}
    (hw : L.wallets.lookup k = some w) (hv : v.baseBalance = w.baseBalance) (j : WalletKey) :
    (L.setWallet k v).baseBalance j = L.baseBalance j := by
  rw [Ledger.baseBalance_setWallet]
  split
  · rename_i hj
    rw [hj, Ledger.baseBalance_of_lookup hw, hv]
  · rfl

theorem Ledger.balances_of_books {L M : Ledger} (h : M.toBooks = L.toBooks) (k : WalletKey)
    (c : Currency) : M.baseBalance k = L.baseBalance k ∧
      M.reservedBalance k = L.reservedBalance k ∧
      M.reservedLiquidity c = L.reservedLiquidity c := by
  simp only [Ledger.baseBalance, Ledger.reservedBalance, Ledger.reservedLiquidity, h, and_self]

theorem releaseLiquidity_reserved {c : Currency} {amount : Nat} {L M : Ledger} {u : Unit}
    (h : (releaseLiquidity c amount).Commits L u M) (d : Currency) :
    M.reservedLiquidity d = L.reservedLiquidity d - if d = c then (amount : Int) else 0 := by
  rcases releaseLiquidity_commits.mp h with ⟨h0, rfl⟩ | ⟨-, r, hr, -, rfl⟩
  · simp [h0]
  · simp only [Ledger.reservedLiquidity, Ledger.setCompany_companyLiquidity, Table.lookup_insert]
    by_cases hd : d = c
    · subst hd
      simp [hr]
    · simp [hd]

theorem releaseLiquidity_frame {c : Currency} {amount : Nat} {L M : Ledger} {u : Unit}
    (h : (releaseLiquidity c amount).Commits L u M) :
    M = { L with companyLiquidity := M.companyLiquidity } ∧
      ∀ d, (M.companyLiquidity.lookup d).map (fun r => (r.totalBalance, r.internalBalance)) =
        (L.companyLiquidity.lookup d).map (fun r => (r.totalBalance, r.internalBalance)) := by
  rcases releaseLiquidity_commits.mp h with ⟨-, rfl⟩ | ⟨-, r, hr, -, rfl⟩
  · exact ⟨rfl, fun d => rfl⟩
  · refine ⟨rfl, fun d => ?_⟩
    simp only [Ledger.setCompany_companyLiquidity, Table.lookup_insert]
    by_cases hd : d = c
    · subst hd
      simp [hr]
    · simp [hd]

theorem consumeReservedLiquidity_commits {c : Currency} {amount : Int} {L M : Ledger} {b : Bool} :
    (consumeReservedLiquidity c amount).Commits L b M ↔
      (∃ r, L.companyLiquidity.lookup c = some r ∧
        (amount ≤ r.reservedBalance ∧ amount ≤ r.totalBalance) ∧ b = true ∧
        L.setCompany c { r with
          reservedBalance := r.reservedBalance - amount
          totalBalance := r.totalBalance - amount } = M) ∨
      ((∀ r, L.companyLiquidity.lookup c = some r →
        ¬ (amount ≤ r.reservedBalance ∧ amount ≤ r.totalBalance)) ∧ b = false ∧ L = M) :=
  updateCompany_commits

theorem subtractInternalBalance_commits {c : Currency} {amount : Int} {L M : Ledger} {u : Unit} :
    (subtractInternalBalance c amount).Commits L u M ↔
      ∃ r, L.companyLiquidity.lookup c = some r ∧ amount ≤ r.internalBalance ∧
        L.setCompany c { r with internalBalance := r.internalBalance - amount } = M := by
  simp only [subtractInternalBalance, commits_bind, commits_require, updateCompany_commits]
  constructor
  · rintro ⟨b, _, ⟨r, hr, hp, -, rfl⟩ | ⟨-, rfl, -⟩, hb, rfl⟩
    · exact ⟨r, hr, hp, rfl⟩
    · cases hb
  · rintro ⟨r, hr, hp, rfl⟩
    exact ⟨true, _, .inl ⟨r, hr, hp, rfl, rfl⟩, rfl, rfl⟩

theorem restateWith_commits {text : Int → Except String Text} {k : WalletKey} {L M : Ledger}
    {u : Unit} :
    (restateWith text k).Commits L u M ↔
      (L.wallets.lookup k = none ∧ L = M) ∨
      ∃ w t, L.wallets.lookup k = some w ∧ text w.baseBalance = .ok t ∧
        L.setWallet k { w with originalBalance := t } = M := by
  unfold Commits restateWith
  cases hw : L.wallets.lookup k with
  | none => simp
  | some w =>
    cases ht : text w.baseBalance with
    | error m => simp [ht]
    | ok text => simp [ht]

theorem restateOriginalBalance_commits {cache : ConvertCurrency.DefaultNetworkCache}
    {k : WalletKey} {network : Option CryptoNetwork} {L M : Ledger} {u : Unit} :
    (restateOriginalBalance cache k network).Commits L u M ↔
      (L.wallets.lookup k = none ∧ L = M) ∨
      ∃ w text, L.wallets.lookup k = some w ∧
        restatedText cache w.baseBalance k.2 network = .ok text ∧
        L.setWallet k { w with originalBalance := text } = M :=
  restateWith_commits

/-! ### What the statements move -/

/-- What a ledger block moves of holdings and internal balances. -/
abbrev PostsMovements {α : Type} (x : LedgerBlock α) (Q : α → List Movement → Prop) : Prop :=
  Block.Posts Movement.apply Books.Restated Ledger.toBooks Movement.essential x Q

/-- A block that moves neither holdings nor internal balances. -/
abbrev PostsNeutral {α : Type} (x : LedgerBlock α) : Prop :=
  Block.PostsNothing Movement.apply Books.Restated Ledger.toBooks Movement.essential x

theorem moves_of_walletIf (m : Movement) {k : WalletKey} {p : Wallet → Bool} {f : Wallet → Wallet}
    (hm : m.apply = Books.walletIf k p f) {L : Ledger} {w : Wallet}
    (hw : L.wallets.lookup k = some w) (hp : p w = true) :
    Moves [m] L.toBooks (L.setWallet k (f w)).toBooks := by
  apply Journal.Posted.single
  rw [hm]
  exact Books.walletIf_eq_some.mpr ⟨w, hw, hp, rfl⟩

theorem moves_company {L : Ledger} {c : Currency} {r : CompanyLiquidity}
    (hr : L.companyLiquidity.lookup c = some r) (change : Int) (column : CompanyColumn) :
    Moves [.company c column change] L.toBooks
      (L.setCompany c (r.shift change column)).toBooks := by
  apply Journal.Posted.single
  simp only [Movement.apply, Option.map_eq_some_iff]
  exact ⟨r, hr, rfl⟩

theorem reserveBalance_moves {userId : UserId} {currency : Currency} {amount : Nat}
    {network : PinnedNetwork} {L M : Ledger} {u : Unit}
    (h : (reserveBalance userId currency amount network).Commits L u M) :
    Moves [.reserve (userId, currency) amount] L.toBooks M.toBooks := by
  obtain ⟨w, hw, -, hp, rfl⟩ := reserveBalance_commits.mp h
  exact moves_of_walletIf (.reserve (userId, currency) amount) rfl hw (by simpa using hp)

theorem releaseBalance_moves {userId : UserId} {currency : Currency} {amount : Nat}
    {network : PinnedNetwork} {L M : Ledger} {u : Unit}
    (h : (releaseBalance userId currency amount network).Commits L u M) :
    Moves [.release (userId, currency) amount] L.toBooks M.toBooks := by
  obtain ⟨w, hw, -, hp, rfl⟩ := releaseBalance_commits.mp h
  exact moves_of_walletIf (.release (userId, currency) amount) rfl hw (by simpa using hp)

theorem debitReserved_moves {k : WalletKey} {amount : Nat} {e : Failure} {L M : Ledger} {u : Unit}
    (h : (debitReserved k amount e).Commits L u M) :
    Moves [.settle k amount] L.toBooks M.toBooks := by
  obtain ⟨w, hw, hp, rfl⟩ := mustUpdateWallet_commits.mp h
  exact moves_of_walletIf (.settle k amount) rfl hw (by simpa using hp)

theorem spendWallet_moves {k : WalletKey} {amount : Nat} {e : Failure} {L M : Ledger} {u : Unit}
    (h : (spendWallet k amount e).Commits L u M) :
    Moves [.spend k amount] L.toBooks M.toBooks := by
  obtain ⟨w, hw, hp, rfl⟩ := mustUpdateWallet_commits.mp h
  exact moves_of_walletIf (.spend k amount) rfl hw (by simpa using hp)

theorem debitWallet_moves {k : WalletKey} {amount : Nat} {e : Failure} {L M : Ledger} {u : Unit}
    (h : (debitWallet k amount e).Commits L u M) :
    Moves [.debit k amount] L.toBooks M.toBooks := by
  obtain ⟨w, hw, hp, rfl⟩ := mustUpdateWallet_commits.mp h
  exact moves_of_walletIf (.debit k amount) rfl hw (by simpa using hp)

theorem creditWallet_moves {k : WalletKey} {amount : Nat} {e : Failure} {L M : Ledger} {u : Unit}
    (h : (creditWallet k amount e).Commits L u M) :
    Moves [.credit k amount] L.toBooks M.toBooks := by
  obtain ⟨w, hw, -, rfl⟩ := mustUpdateWallet_commits.mp h
  exact moves_of_walletIf (.credit k amount) rfl hw rfl

theorem holdWallet_moves {k : WalletKey} {column : Holding} {change : Int} {e : Failure}
    {L M : Ledger} {u : Unit} (h : (holdWallet k column change e).Commits L u M) :
    Moves [.hold k column change] L.toBooks M.toBooks := by
  obtain ⟨w, hw, -, rfl⟩ := mustUpdateWallet_commits.mp h
  exact moves_of_walletIf (.hold k column change) rfl hw rfl

theorem restateWith_moves {text : Int → Except String Text} {k : WalletKey} {L M : Ledger}
    {u : Unit}
    (h : (restateWith text k).Commits L u M) : Moves [] L.toBooks M.toBooks := by
  rcases restateWith_commits.mp h with ⟨-, rfl⟩ | ⟨w, text, hw, -, rfl⟩
  · exact .nil _
  · exact .of_silent (.text text hw)

theorem restateOriginalBalance_moves {cache : ConvertCurrency.DefaultNetworkCache} {k : WalletKey}
    {network : Option CryptoNetwork} {L M : Ledger} {u : Unit}
    (h : (restateOriginalBalance cache k network).Commits L u M) :
    Moves [] L.toBooks M.toBooks :=
  restateWith_moves h

theorem updateCompany_moves {c : Currency} {p : CompanyLiquidity → Prop} [DecidablePred p]
    {f : CompanyLiquidity → CompanyLiquidity} {ms : List Movement} {L M : Ledger} {b : Bool}
    (hm : ∀ r, L.companyLiquidity.lookup c = some r →
      Moves ms L.toBooks (L.setCompany c (f r)).toBooks)
    (h : (updateCompany c p f).Commits L b M) :
    Moves (if b then ms else []) L.toBooks M.toBooks := by
  rcases updateCompany_commits.mp h with ⟨r, hr, -, rfl, rfl⟩ | ⟨-, rfl, rfl⟩
  · exact hm r hr
  · exact .nil _

theorem reserveLiquidity_moves {c : Currency} {amount : Nat} {L M : Ledger} {b : Bool}
    (h : (reserveLiquidity c amount).Commits L b M) :
    Moves (if b then [.company c .reservedBalance amount] else []) L.toBooks M.toBooks :=
  updateCompany_moves (fun _ hr => moves_company hr amount .reservedBalance) h

theorem releaseLiquidity_moves {c : Currency} {amount : Nat} {L M : Ledger} {u : Unit}
    (h : (releaseLiquidity c amount).Commits L u M) :
    Moves (if amount = 0 then [] else [.company c .reservedBalance (-amount)])
      L.toBooks M.toBooks := by
  rcases releaseLiquidity_commits.mp h with ⟨h0, rfl⟩ | ⟨h0, r, hr, -, rfl⟩
  · rw [if_pos h0]
    exact .nil _
  · rw [if_neg h0]
    exact moves_company hr (-amount) .reservedBalance

theorem consumeReservedLiquidity_moves {c : Currency} {amount : Int} {L M : Ledger} {b : Bool}
    (h : (consumeReservedLiquidity c amount).Commits L b M) :
    Moves (if b then [.company c .reservedBalance (-amount), .company c .totalBalance (-amount)]
      else []) L.toBooks M.toBooks := by
  refine updateCompany_moves (fun r hr => ?_) h
  have h1 := moves_company hr (-amount) .reservedBalance
  have hr2 : (L.setCompany c (r.shift (-amount) .reservedBalance)).companyLiquidity.lookup c =
      some (r.shift (-amount) .reservedBalance) := by simp
  have h2 := moves_company hr2 (-amount) .totalBalance
  have hins : (L.setCompany c (r.shift (-amount) .reservedBalance)).setCompany c
      ((r.shift (-amount) .reservedBalance).shift (-amount) .totalBalance) =
        L.setCompany c { r with
          reservedBalance := r.reservedBalance - amount
          totalBalance := r.totalBalance - amount } := by
    simp [Ledger.setCompany, AList.insert_insert, CompanyLiquidity.shift, sub_eq_add_neg]
  rw [hins] at h2
  exact h1.trans h2

theorem shiftCompany_moves {c : Currency} {column : CompanyColumn} {change : Int} {L M : Ledger}
    {b : Bool} (h : (shiftCompany c column change).Commits L b M) :
    Moves (if b then [.company c column change] else []) L.toBooks M.toBooks :=
  updateCompany_moves (fun _ hr => moves_company hr change column) h

theorem lowerCompany_moves {c : Currency} {column : CompanyColumn} {amount : Nat} {L M : Ledger}
    {b : Bool} (h : (lowerCompany c column amount).Commits L b M) :
    ∃ change, Moves (if b then [.company c column change] else []) L.toBooks M.toBooks := by
  rcases updateCompany_commits.mp h with ⟨r, hr, -, rfl, rfl⟩ | ⟨-, rfl, rfl⟩
  · exact ⟨_, moves_company hr _ column⟩
  · exact ⟨0, .nil _⟩

theorem subtractInternalBalance_moves {c : Currency} {amount : Int} {L M : Ledger} {u : Unit}
    (h : (subtractInternalBalance c amount).Commits L u M) :
    Moves [.company c .internalBalance (-amount)] L.toBooks M.toBooks := by
  obtain ⟨r, hr, -, rfl⟩ := subtractInternalBalance_commits.mp h
  exact moves_company hr (-amount) .internalBalance

theorem moves_upsert {L : Ledger} {c : Currency} (column : CompanyColumn) (amount : Int) :
    Moves [.company c column amount] L.toBooks
      (L.setCompany c (((L.companyLiquidity.lookup c).getD CompanyLiquidity.empty).shift
        amount column)).toBooks := by
  cases hr : L.companyLiquidity.lookup c with
  | some r => exact moves_company hr amount column
  | none =>
    have hopen : Moves [] L.toBooks (L.setCompany c CompanyLiquidity.empty).toBooks :=
      .of_silent (.row hr)
    have hrow : (L.setCompany c CompanyLiquidity.empty).companyLiquidity.lookup c =
        some CompanyLiquidity.empty := by simp
    have hadd := moves_company hrow amount column
    have hins : (L.setCompany c CompanyLiquidity.empty).setCompany c
        (CompanyLiquidity.empty.shift amount column) =
          L.setCompany c (CompanyLiquidity.empty.shift amount column) := by
      simp [Ledger.setCompany, AList.insert_insert]
    rw [hins] at hadd
    exact hopen.trans hadd

theorem addLiquidity_moves {c : Currency} {amount : Int} {L M : Ledger} {u : Unit}
    (h : (addLiquidity c amount).Commits L u M) :
    Moves [.company c .totalBalance amount] L.toBooks M.toBooks := by
  have hup := moves_upsert (L := L) (c := c) .totalBalance amount
  simp only [addLiquidity, commits_update] at h
  subst h
  cases hr : L.companyLiquidity.lookup c with
  | some r => simpa [hr, CompanyLiquidity.shift] using hup
  | none => simpa [hr, CompanyLiquidity.shift, CompanyLiquidity.empty] using hup

theorem addInternalBalance_moves {c : Currency} {amount : Int} {L M : Ledger} {u : Unit}
    (h : (addInternalBalance c amount).Commits L u M) :
    Moves [.company c .internalBalance amount] L.toBooks M.toBooks := by
  have hup := moves_upsert (L := L) (c := c) .internalBalance amount
  simp only [addInternalBalance, commits_update] at h
  subst h
  cases hr : L.companyLiquidity.lookup c with
  | some r => simpa [hr, CompanyLiquidity.shift] using hup
  | none => simpa [hr, CompanyLiquidity.shift, CompanyLiquidity.empty] using hup

/-! ### Neutral statements -/

theorem neutral_of_moves {α : Type} {x : LedgerBlock α} {ms : List Movement}
    (hms : ∀ m ∈ ms, m.neutral = true)
    (hx : ∀ L a M, x.Commits L a M → Moves ms L.toBooks M.toBooks) : PostsNeutral x :=
  Block.nothing_of_entries (fun _ m hm => by simp [Movement.essential, hms m hm]) hx

theorem neutral_of_guarded {x : LedgerBlock Bool} {ms : List Movement}
    (hms : ∀ m ∈ ms, m.neutral = true)
    (hx : ∀ L b M, x.Commits L b M → Moves (if b then ms else []) L.toBooks M.toBooks) :
    PostsNeutral x :=
  Block.nothing_of_entries (fun b m hm => by
    cases b
    · cases hm
    · simp [Movement.essential, hms m hm]) hx

theorem lowerCompany_neutral {column : CompanyColumn} (hcolumn : column ≠ .internalBalance)
    (c : Currency) (amount : Nat) : PostsNeutral (lowerCompany c column amount) := by
  intro L b M h
  obtain ⟨change, hm⟩ := lowerCompany_moves h
  refine ⟨_, hm, ?_⟩
  cases b
  · rfl
  · simp [Movement.essential, hcolumn]

theorem reserveBalance_neutral (userId : UserId) (currency : Currency) (amount : Nat)
    (network : PinnedNetwork) : PostsNeutral (reserveBalance userId currency amount network) :=
  neutral_of_moves (by simp) (fun _ _ _ => reserveBalance_moves)

theorem releaseBalance_neutral (userId : UserId) (currency : Currency) (amount : Nat)
    (network : PinnedNetwork) : PostsNeutral (releaseBalance userId currency amount network) :=
  neutral_of_moves (by simp) (fun _ _ _ => releaseBalance_moves)

theorem restateWith_neutral (text : Int → Except String Text) (k : WalletKey) :
    PostsNeutral (restateWith text k) :=
  neutral_of_moves (by simp) (fun _ _ _ => restateWith_moves)

theorem restateOriginalBalance_neutral (cache : ConvertCurrency.DefaultNetworkCache)
    (k : WalletKey) (network : Option CryptoNetwork) :
    PostsNeutral (restateOriginalBalance cache k network) :=
  restateWith_neutral _ k

theorem writeOriginalBalance_neutral (cache : ConvertCurrency.DefaultNetworkCache)
    (k : WalletKey) (network : Option CryptoNetwork) :
    PostsNeutral (writeOriginalBalance cache k network) :=
  restateWith_neutral _ k

theorem reserveLiquidity_neutral (c : Currency) (amount : Nat) :
    PostsNeutral (reserveLiquidity c amount) :=
  neutral_of_guarded (by simp) (fun _ _ _ => reserveLiquidity_moves)

theorem releaseLiquidity_neutral (c : Currency) (amount : Nat) :
    PostsNeutral (releaseLiquidity c amount) :=
  neutral_of_moves (by split <;> simp)
    (fun _ _ _ => releaseLiquidity_moves)

theorem consumeReservedLiquidity_neutral (c : Currency) (amount : Int) :
    PostsNeutral (consumeReservedLiquidity c amount) :=
  neutral_of_guarded (by simp)
    (fun _ _ _ => consumeReservedLiquidity_moves)

theorem addLiquidity_neutral (c : Currency) (amount : Int) : PostsNeutral (addLiquidity c amount) :=
  neutral_of_moves (by simp) (fun _ _ _ => addLiquidity_moves)

theorem shiftCompany_neutral {column : CompanyColumn} (hcolumn : column ≠ .internalBalance)
    (c : Currency) (change : Int) : PostsNeutral (shiftCompany c column change) :=
  neutral_of_guarded (by simpa using hcolumn)
    (fun _ _ _ => shiftCompany_moves)

theorem reserveLiquidity_short {c : Currency} {amount : Nat} {L M : Ledger}
    (h : (reserveLiquidity c amount).Commits L false M) : L = M := by
  rcases updateCompany_commits.mp h with ⟨r, -, -, htrue, -⟩ | ⟨-, -, hsame⟩
  · cases htrue
  · exact hsame

/-! ### Statements on balances leave the other tables alone -/

/-- A ledger without its balances. -/
def Ledger.records (L : Ledger) : Ledger := { L with toBooks := ⟨∅, ∅⟩ }

/-- `x` touches balances only. -/
def OnBalances {α : Type} (x : LedgerBlock α) : Prop :=
  ∀ R, Preserves (fun L => L.records = R) x

theorem OnBalances.preserves {α : Type} {x : LedgerBlock α} (hx : OnBalances x)
    {I : Ledger → Prop} (hI : ∀ L, I L.records ↔ I L) : Preserves I x := by
  intro L a M hL h
  have hrecords := hx L.records L a M rfl h
  rw [← hI, hrecords, hI]
  exact hL

theorem updateWallet_onBalances (k : WalletKey) (p : Wallet → Prop) [DecidablePred p]
    (f : Wallet → Wallet) : OnBalances (updateWallet k p f) := by
  intro R L b M hL h
  rcases updateWallet_commits.mp h with ⟨w, -, -, -, rfl⟩ | ⟨-, -, rfl⟩
  · exact hL
  · exact hL

theorem updateCompany_onBalances (c : Currency) (p : CompanyLiquidity → Prop) [DecidablePred p]
    (f : CompanyLiquidity → CompanyLiquidity) : OnBalances (updateCompany c p f) := by
  intro R L b M hL h
  rcases updateCompany_commits.mp h with ⟨r, -, -, -, rfl⟩ | ⟨-, -, rfl⟩
  · exact hL
  · exact hL

theorem mustUpdateWallet_onBalances (k : WalletKey) (p : Wallet → Prop) [DecidablePred p]
    (f : Wallet → Wallet) (e : Failure) : OnBalances (mustUpdateWallet k p f e) := fun R =>
  preserves_bind (updateWallet_onBalances k p f R) fun _ => preserves_require _ _

theorem changeReserved_onBalances (userId : UserId) (currency : Currency)
    (network : PinnedNetwork) (p : Wallet → Prop) [DecidablePred p] (f : Wallet → Wallet)
    (m₁ m₂ : String) : OnBalances (changeReserved userId currency network p f m₁ m₂) := by
  intro R
  refine preserves_bind (preserves_read _) fun _ => ?_
  refine preserves_bind (preserves_demand _ _) fun _ => ?_
  refine preserves_bind (preserves_require _ _) fun _ => ?_
  exact mustUpdateWallet_onBalances _ _ _ _ R

theorem reserveBalance_onBalances (userId : UserId) (currency : Currency) (amount : Nat)
    (network : PinnedNetwork) : OnBalances (reserveBalance userId currency amount network) :=
  changeReserved_onBalances _ _ _ _ _ _ _

theorem releaseBalance_onBalances (userId : UserId) (currency : Currency) (amount : Nat)
    (network : PinnedNetwork) : OnBalances (releaseBalance userId currency amount network) :=
  changeReserved_onBalances _ _ _ _ _ _ _

theorem reserveLiquidity_onBalances (c : Currency) (amount : Nat) :
    OnBalances (reserveLiquidity c amount) := updateCompany_onBalances _ _ _

theorem releaseLiquidity_onBalances (c : Currency) (amount : Nat) :
    OnBalances (releaseLiquidity c amount) := fun R =>
  preserves_ite (preserves_pure ())
    (preserves_bind (updateCompany_onBalances _ _ _ R) fun _ => preserves_require _ _)

theorem addLiquidity_onBalances (c : Currency) (amount : Int) :
    OnBalances (addLiquidity c amount) := fun _ => preserves_update fun _ hL => hL

theorem addInternalBalance_onBalances (c : Currency) (amount : Int) :
    OnBalances (addInternalBalance c amount) := fun _ => preserves_update fun _ hL => hL

theorem subtractInternalBalance_onBalances (c : Currency) (amount : Int) :
    OnBalances (subtractInternalBalance c amount) := fun R =>
  preserves_bind (updateCompany_onBalances _ _ _ R) fun _ => preserves_require _ _

theorem restateWith_onBalances (text : Int → Except String Text) (k : WalletKey) :
    OnBalances (restateWith text k) := by
  intro R L u M hL h
  rcases restateWith_commits.mp h with ⟨-, rfl⟩ | ⟨w, text, -, -, rfl⟩
  · exact hL
  · exact hL

theorem restateOriginalBalance_onBalances (cache : ConvertCurrency.DefaultNetworkCache)
    (k : WalletKey) (network : Option CryptoNetwork) :
    OnBalances (restateOriginalBalance cache k network) :=
  restateWith_onBalances _ k

theorem writeOriginalBalance_onBalances (cache : ConvertCurrency.DefaultNetworkCache)
    (k : WalletKey) (network : Option CryptoNetwork) :
    OnBalances (writeOriginalBalance cache k network) :=
  restateWith_onBalances _ k

/-! ### Statements on balances fail by throwing -/

/-- An exception of the code's own, not a fault of the database. -/
def Failure.isThrown (e : Failure) : Prop := ∃ message, e = .thrown message

theorem updateWallet_throws (k : WalletKey) (p : Wallet → Prop) [DecidablePred p]
    (f : Wallet → Wallet) : FailsIn Failure.isThrown (updateWallet k p f) := by
  intro L e h
  unfold updateWallet at h
  split at h
  · split at h <;> cases h
  · cases h

theorem updateCompany_throws (c : Currency) (p : CompanyLiquidity → Prop) [DecidablePred p]
    (f : CompanyLiquidity → CompanyLiquidity) :
    FailsIn Failure.isThrown (updateCompany c p f) := by
  intro L e h
  unfold updateCompany at h
  split at h
  · split at h <;> cases h
  · cases h

theorem mustUpdateWallet_throws (k : WalletKey) (p : Wallet → Prop) [DecidablePred p]
    (f : Wallet → Wallet) (m : String) :
    FailsIn Failure.isThrown (mustUpdateWallet k p f (.thrown m)) :=
  failsIn_bind (updateWallet_throws k p f) fun _ => failsIn_require _ ⟨m, rfl⟩

theorem releaseBalance_throws (userId : UserId) (currency : Currency) (amount : Nat)
    (network : PinnedNetwork) :
    FailsIn Failure.isThrown (releaseBalance userId currency amount network) := by
  refine failsIn_bind (failsIn_read _) fun _ => ?_
  refine failsIn_bind (failsIn_demand _ ⟨_, rfl⟩) fun _ => ?_
  refine failsIn_bind (failsIn_require _ ⟨_, rfl⟩) fun _ => ?_
  exact mustUpdateWallet_throws _ _ _ _

theorem releaseLiquidity_throws (c : Currency) (amount : Nat) :
    FailsIn Failure.isThrown (releaseLiquidity c amount) :=
  failsIn_ite (failsIn_pure ())
    (failsIn_bind (updateCompany_throws _ _ _) fun _ => failsIn_require _ ⟨_, rfl⟩)

theorem subtractInternalBalance_throws (c : Currency) (amount : Int) :
    FailsIn Failure.isThrown (subtractInternalBalance c amount) :=
  failsIn_bind (updateCompany_throws _ _ _) fun _ => failsIn_require _ ⟨_, rfl⟩

theorem restateOriginalBalance_throws (cache : ConvertCurrency.DefaultNetworkCache)
    (k : WalletKey) (network : Option CryptoNetwork) :
    FailsIn Failure.isThrown (restateOriginalBalance cache k network) := by
  intro L e h
  unfold restateOriginalBalance restateWith at h
  split at h
  · cases h
  · split at h
    · cases h
    · cases h
      exact ⟨_, rfl⟩

end ExchangeLedger
