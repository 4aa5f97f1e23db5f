import ExchangeLedger.Operation

set_option autoImplicit false

/-! The company's row of one currency: the operations of `CompanyLiquidityService` on it, and the
synchronisation that overwrites its total balance with the one fetched from the provider. -/

namespace ExchangeLedger

open Block

namespace CompanyLiquidityService

/-- The upsert of `syncCompanyLiquidity`. -/
def syncBlock (currency : Currency) (balance : Int) : LedgerBlock Unit :=
  update (fun L => L.setCompany currency
    (match L.companyLiquidity.lookup currency with
    | some r => { r with totalBalance := balance }
    | none => { CompanyLiquidity.empty with totalBalance := balance }))

/-- The ledger, and the amounts of the reservations that are still open. -/
structure Reservations where
  ledger : Ledger
  outstanding : List Nat

inductive LiquidityOp where
  | reserve (amount : Nat)
  /-- The `n`-th open reservation is released, or consumed. -/
  | release (n : Nat)
  | consume (n : Nat)
  | reduce (amount : Nat)
  | add (amount : Int)
  /-- A synchronisation writes a balance that it fetched before. -/
  | sync (balance : Int)
  deriving DecidableEq, Repr

def liquidityStep (c : Currency) : LiquidityOp → Reservations → Reservations
  | .reserve amount, s =>
    match reserveLiquidity c amount s.ledger with
    | .ok (true, M) => ⟨M, amount :: s.outstanding⟩
    | _ => s
  | .release n, s =>
    match s.outstanding[n]? with
    | some amount =>
      match releaseLiquidity c amount s.ledger with
      | .ok (_, M) => ⟨M, s.outstanding.eraseIdx n⟩
      | .error _ => s
    | none => s
  | .consume n, s =>
    match s.outstanding[n]? with
    | some amount =>
      match consumeReservedLiquidity c amount s.ledger with
      | .ok (true, M) => ⟨M, s.outstanding.eraseIdx n⟩
      | _ => s
    | none => s
  | .reduce amount, s => { s with ledger := (reduceLiquidity c amount).commit s.ledger }
  | .add amount, s => { s with ledger := (addLiquidity c amount).commit s.ledger }
  | .sync balance, s => { s with ledger := (syncBlock c balance).commit s.ledger }

def totalLiquidity (c : Currency) (L : Ledger) : Int :=
  (L.companyLiquidity.lookup c).elim 0 CompanyLiquidity.totalBalance

/-- The reserved balance is the sum of the open reservations, lies within the total balance, and
each of them can be released and consumed. -/
structure Honoured (c : Currency) (s : Reservations) : Prop where
  reserved : s.ledger.reservedLiquidity c = s.outstanding.sum
  nonneg : 0 ≤ s.ledger.reservedLiquidity c
  covered : s.ledger.reservedLiquidity c ≤ totalLiquidity c s.ledger
  releases : ∀ amount ∈ s.outstanding, ∃ M, (releaseLiquidity c amount).Commits s.ledger () M
  consumes : ∀ amount ∈ s.outstanding, ∃ M,
    (consumeReservedLiquidity c amount).Commits s.ledger true M

/-- What is written over the total balance, or added to it, leaves it at what is reserved. -/
def Keeps (c : Currency) (s : Reservations) : LiquidityOp → Prop
  | .add amount => s.ledger.reservedLiquidity c ≤ totalLiquidity c s.ledger + amount
  | .sync balance => s.ledger.reservedLiquidity c ≤ balance
  | _ => True

/-! ### The row of the currency -/

theorem sum_eraseIdx {l : List Nat} {n amount : Nat} (h : l[n]? = some amount) :
    (l.eraseIdx n).sum + amount = l.sum := by
  induction l generalizing n with
  | nil => simp at h
  | cons x l ih =>
    cases n with
    | zero =>
      simp only [List.getElem?_cons_zero, Option.some.injEq] at h
      simp [h]
      omega
    | succ n =>
      have hl := ih (by simpa using h)
      simp only [List.eraseIdx_cons_succ, List.sum_cons]
      omega

theorem mem_le_sum {l : List Nat} {amount : Nat} (h : amount ∈ l) : amount ≤ l.sum := by
  obtain ⟨n, hn⟩ := List.getElem?_of_mem h
  have hsum := sum_eraseIdx hn
  omega

/-- The row as the open reservations need it. -/
structure Row (c : Currency) (s : Reservations) : Prop where
  found : s.outstanding = [] ∨ (s.ledger.companyLiquidity.lookup c).isSome
  reserved : s.ledger.reservedLiquidity c = s.outstanding.sum
  covered : (s.outstanding.sum : Int) ≤ totalLiquidity c s.ledger

section Row

variable {c : Currency} {s : Reservations} {L : Ledger} {r : CompanyLiquidity}
  {outstanding : List Nat}

theorem Honoured.row (h : Honoured c s) : Row c s := by
  refine ⟨?_, h.reserved, ?_⟩
  · cases ho : s.outstanding with
    | nil => exact .inl rfl
    | cons amount rest =>
      obtain ⟨M, hM⟩ := h.consumes amount (by simp [ho])
      rcases consumeReservedLiquidity_commits.mp hM with ⟨r, hr, -⟩ | ⟨-, hfalse, -⟩
      · exact .inr (by simp [hr])
      · cases hfalse
  · rw [← h.reserved]
    exact h.covered

theorem row_iff (hr : L.companyLiquidity.lookup c = some r) :
    Row c ⟨L, outstanding⟩ ↔
      r.reservedBalance = outstanding.sum ∧ (outstanding.sum : Int) ≤ r.totalBalance := by
  constructor
  · intro h
    have hreserved := h.reserved
    have hcovered := h.covered
    simp only [Ledger.reservedLiquidity, totalLiquidity, hr, Option.elim_some] at hreserved hcovered
    exact ⟨hreserved, hcovered⟩
  · intro h
    refine ⟨.inr (by simp [hr]), ?_, ?_⟩
    · simpa [Ledger.reservedLiquidity, hr] using h.1
    · simpa [totalLiquidity, hr] using h.2

theorem row_setCompany :
    Row c ⟨L.setCompany c r, outstanding⟩ ↔
      r.reservedBalance = outstanding.sum ∧ (outstanding.sum : Int) ≤ r.totalBalance :=
  row_iff (by simp)

theorem row_none (hr : L.companyLiquidity.lookup c = none) :
    Row c ⟨L, outstanding⟩ ↔ outstanding = [] := by
  constructor
  · intro h
    simpa [hr] using h.found
  · rintro rfl
    refine ⟨.inl rfl, ?_, ?_⟩
    · simp [Ledger.reservedLiquidity, hr]
    · simp [totalLiquidity, hr]

theorem Row.honoured (h : Row c s) : Honoured c s := by
  have hmember : ∀ amount ∈ s.outstanding, ∃ r, s.ledger.companyLiquidity.lookup c = some r ∧
      (amount : Int) ≤ r.reservedBalance ∧ (amount : Int) ≤ r.totalBalance := by
    intro amount hmem
    cases hr : s.ledger.companyLiquidity.lookup c with
    | none =>
      rw [(row_none hr).mp h] at hmem
      cases hmem
    | some r =>
      obtain ⟨hreserved, htotal⟩ := (row_iff hr).mp h
      have hle := mem_le_sum hmem
      exact ⟨r, rfl, by omega, by omega⟩
  constructor
  · exact h.reserved
  · rw [h.reserved]
    omega
  · rw [h.reserved]
    exact h.covered
  · intro amount hmem
    obtain ⟨r, hr, hreserved, -⟩ := hmember amount hmem
    by_cases h0 : amount = 0
    · exact ⟨_, releaseLiquidity_commits.mpr (.inl ⟨h0, rfl⟩)⟩
    · exact ⟨_, releaseLiquidity_commits.mpr (.inr ⟨h0, r, hr, hreserved, rfl⟩)⟩
  · intro amount hmem
    obtain ⟨r, hr, hreserved, htotal⟩ := hmember amount hmem
    exact ⟨_, consumeReservedLiquidity_commits.mpr (.inl ⟨r, hr, ⟨hreserved, htotal⟩, rfl, rfl⟩)⟩

/-! ### One operation -/

theorem row_reserve (h : Row c s) (amount : Nat) :
    Row c (liquidityStep c (.reserve amount) s) := by
  simp only [liquidityStep]
  split
  · rename_i M hM
    rcases updateCompany_commits.mp hM with ⟨r, hr, hle, -, rfl⟩ | ⟨-, hfalse, -⟩
    · obtain ⟨hreserved, -⟩ := (row_iff hr).mp h
      rw [row_setCompany]
      simp only [List.sum_cons]
      omega
    · cases hfalse
  · exact h

theorem row_release (h : Row c s) (n : Nat) : Row c (liquidityStep c (.release n) s) := by
  simp only [liquidityStep]
  split
  · rename_i amount hn
    have hsum := sum_eraseIdx hn
    split
    · rename_i M hM
      rcases releaseLiquidity_commits.mp hM with ⟨h0, rfl⟩ | ⟨h0, r, hr, hle, rfl⟩
      · cases hr : s.ledger.companyLiquidity.lookup c with
        | none =>
          rw [row_none hr, (row_none hr).mp h]
          rfl
        | some r =>
          obtain ⟨hreserved, htotal⟩ := (row_iff hr).mp h
          rw [row_iff hr]
          omega
      · obtain ⟨hreserved, htotal⟩ := (row_iff hr).mp h
        rw [row_setCompany]
        dsimp only
        omega
    · exact h
  · exact h

theorem row_consume (h : Row c s) (n : Nat) : Row c (liquidityStep c (.consume n) s) := by
  simp only [liquidityStep]
  split
  · rename_i amount hn
    have hsum := sum_eraseIdx hn
    split
    · rename_i M hM
      rcases consumeReservedLiquidity_commits.mp hM with ⟨r, hr, hle, -, rfl⟩ | ⟨-, hfalse, -⟩
      · obtain ⟨hreserved, htotal⟩ := (row_iff hr).mp h
        rw [row_setCompany]
        dsimp only
        omega
      · cases hfalse
    · exact h
  · exact h

theorem row_reduce (h : Row c s) (amount : Nat) :
    Row c (liquidityStep c (.reduce amount) s) := by
  simp only [liquidityStep]
  rcases (reduceLiquidity c amount).commit_cases s.ledger with hsame | ⟨b, hM⟩
  · rw [hsame]
    exact h
  · generalize (reduceLiquidity c amount).commit s.ledger = M at hM
    rcases updateCompany_commits.mp hM with ⟨r, hr, hle, -, rfl⟩ | ⟨-, -, rfl⟩
    · obtain ⟨hreserved, htotal⟩ := (row_iff hr).mp h
      rw [row_setCompany]
      dsimp only
      omega
    · exact h

theorem row_add_iff (h : Row c s) (amount : Int) :
    Row c (liquidityStep c (.add amount) s) ↔ Keeps c s (.add amount) := by
  simp only [liquidityStep, Keeps]
  cases hr : s.ledger.companyLiquidity.lookup c with
  | none =>
    have hnil := (row_none hr).mp h
    simp [row_setCompany, Block.commit, Block.update, addLiquidity, hr, hnil, totalLiquidity,
      Ledger.reservedLiquidity, CompanyLiquidity.empty]
  | some r =>
    obtain ⟨hreserved, htotal⟩ := (row_iff hr).mp h
    simp [row_setCompany, Block.commit, Block.update, addLiquidity, hr, hreserved, totalLiquidity,
      Ledger.reservedLiquidity]

theorem row_sync_iff (h : Row c s) (balance : Int) :
    Row c (liquidityStep c (.sync balance) s) ↔ Keeps c s (.sync balance) := by
  simp only [liquidityStep, Keeps]
  cases hr : s.ledger.companyLiquidity.lookup c with
  | none =>
    have hnil := (row_none hr).mp h
    simp [row_setCompany, Block.commit, Block.update, syncBlock, hr, hnil, Ledger.reservedLiquidity,
      CompanyLiquidity.empty]
  | some r =>
    obtain ⟨hreserved, htotal⟩ := (row_iff hr).mp h
    simp [row_setCompany, Block.commit, Block.update, syncBlock, hr, hreserved,
      Ledger.reservedLiquidity]

theorem row_step_iff (h : Row c s) (op : LiquidityOp) :
    Row c (liquidityStep c op s) ↔ Keeps c s op := by
  cases op with
  | reserve amount => exact iff_of_true (row_reserve h amount) trivial
  | release n => exact iff_of_true (row_release h n) trivial
  | consume n => exact iff_of_true (row_consume h n) trivial
  | reduce amount => exact iff_of_true (row_reduce h amount) trivial
  | add amount => exact row_add_iff h amount
  | sync balance => exact row_sync_iff h balance

end Row

theorem honoured_iff_row {c : Currency} {s : Reservations} : Honoured c s ↔ Row c s :=
  ⟨Honoured.row, Row.honoured⟩

/-- From any row that honours its reservations, a run of operations and synchronisations honours
them throughout exactly when no synchronisation (and nothing added) takes the total balance below
what is reserved at that moment. -/
theorem reservations_honoured_iff (c : Currency) {s : Reservations} (hs : Honoured c s)
    (ops : List LiquidityOp) :
    Run.Throughout (liquidityStep c) (Honoured c) s ops ↔
      Run.Along (liquidityStep c) (Keeps c) s ops := by
  refine Run.throughout_iff_along (fun t op ht => ?_) hs
  rw [honoured_iff_row]
  exact row_step_iff ht.row op

/-- The company holds 1000 units of USDT, none of it reserved. -/
def freeUsdt : Reservations where
  ledger := { Ledger.empty with
    companyLiquidity := (∅ : Table Currency CompanyLiquidity).insert .usdt
      { CompanyLiquidity.empty with totalBalance := 1000 } }
  outstanding := []

theorem freeUsdt_honoured : Honoured .usdt freeUsdt :=
  Row.honoured (row_setCompany.mpr (by simp [CompanyLiquidity.empty]))

/-- The fetched balance shows at least what is reserved. -/
theorem freeUsdt_honoured_iff :
    Run.Throughout (liquidityStep .usdt) (Honoured .usdt) freeUsdt
        [.reserve 600, .sync 900, .consume 0] ↔
      Run.Along (liquidityStep .usdt) (Keeps .usdt) freeUsdt
        [.reserve 600, .sync 900, .consume 0] :=
  reservations_honoured_iff .usdt freeUsdt_honoured _

/-- A balance that was fetched before the funds arrived is written after they were reserved. -/
theorem stale_sync_not_honoured :
    ¬ Run.Throughout (liquidityStep .usdt) (Honoured .usdt) freeUsdt
      [.add 500, .reserve 1200, .sync 1000, .consume 0] := by
  intro h
  have hcovered := h.2.2.2.head.covered
  revert hcovered
  decide +kernel

/-! ### What may be reserved, and what is available -/

theorem reserves_iff {L : Ledger} {currency : Currency} {r : CompanyLiquidity}
    (hr : L.companyLiquidity.lookup currency = some r) (amount : Nat) :
    (∃ M, (reserveLiquidity currency amount).Commits L true M) ↔
      (amount : Int) ≤ r.totalBalance - r.reservedBalance := by
  constructor
  · rintro ⟨M, hM⟩
    rcases updateCompany_commits.mp hM with ⟨q, hq, hle, -, -⟩ | ⟨-, hfalse, -⟩
    · rw [hr] at hq
      cases hq
      exact hle
    · cases hfalse
  · intro hle
    exact ⟨_, updateCompany_commits.mpr (.inl ⟨r, hr, hle, rfl, rfl⟩)⟩

theorem not_reserves {L : Ledger} {currency : Currency}
    (hr : L.companyLiquidity.lookup currency = none) (amount : Nat) (M : Ledger) :
    ¬ (reserveLiquidity currency amount).Commits L true M := by
  intro hM
  rcases updateCompany_commits.mp hM with ⟨q, hq, -⟩ | ⟨-, hfalse, -⟩
  · rw [hr] at hq
    cases hq
  · cases hfalse

theorem unreserved_within_available_iff (r : CompanyLiquidity) :
    (∀ amount : Nat, (amount : Int) ≤ r.totalBalance - r.reservedBalance →
        (amount : Int) ≤ r.available) ↔
      r.totalLockedPrincipal + r.totalAccruedLockedInterest ≤ 0 ∨
        r.totalBalance < r.reservedBalance := by
  unfold CompanyLiquidity.available
  constructor
  · intro h
    by_cases hfree : r.totalBalance < r.reservedBalance
    · exact .inr hfree
    · have hall := h (r.totalBalance - r.reservedBalance).toNat (by omega)
      omega
  · intro h amount hle
    omega

/-- A reservation of an amount takes no more than is available exactly when the amount is not
between what is available and what is unreserved; for all amounts of a row, exactly when nothing
is locked in it for users, or more is reserved than there is. -/
theorem reserve_within_available_iff (L : Ledger) (currency : Currency) :
    (∀ amount : Nat, (∀ M, (reserveLiquidity currency amount).Commits L true M →
        (amount : Int) ≤ getAvailableLiquidity L currency) ↔
      ∀ r, L.companyLiquidity.lookup currency = some r →
        ¬ (r.available < amount ∧ (amount : Int) ≤ r.totalBalance - r.reservedBalance)) ∧
    ((∀ (amount : Nat) M, (reserveLiquidity currency amount).Commits L true M →
        (amount : Int) ≤ getAvailableLiquidity L currency) ↔
      ∀ r, L.companyLiquidity.lookup currency = some r →
        r.totalLockedPrincipal + r.totalAccruedLockedInterest ≤ 0 ∨
          r.totalBalance < r.reservedBalance) := by
  cases hr : L.companyLiquidity.lookup currency with
  | none => simp [not_reserves hr]
  | some r =>
    have havailable : getAvailableLiquidity L currency = r.available := by
      simp [getAvailableLiquidity, hr]
    have hwithin (amount : Nat) : (∀ M, (reserveLiquidity currency amount).Commits L true M →
        (amount : Int) ≤ getAvailableLiquidity L currency) ↔
          ((amount : Int) ≤ r.totalBalance - r.reservedBalance →
            (amount : Int) ≤ r.available) := by
      rw [← reserves_iff hr, havailable, forall_exists_index]
    simp only [hwithin, Option.some.injEq, forall_eq']
    refine ⟨fun amount => ?_, unreserved_within_available_iff r⟩
    omega

/-- User 1 holds 1000 units of USDT, and the company as much. -/
def usdtOwner : Ledger :=
  { Ledger.empty with
    wallets := (∅ : Table WalletKey Wallet).insert (1, .usdt)
      { Wallet.empty with
        currencyId := some .usdt, baseBalance := 1000, defaultNetwork := some .erc20 }
    companyLiquidity := (∅ : Table Currency CompanyLiquidity).insert .usdt
      { CompanyLiquidity.empty with totalBalance := 1000, internalBalance := 1000 } }

/-- The user locks 800 of them in a vault. -/
def lockVault : Operation :=
  .confirmStableVault (fun _ => none)
    { userId := 1, currency := .usdt, quoteId := 5, principal := 800, bufferAmount := 0
      interestRatePerAnum := ⟨10, 0⟩, expectedInterest := 20, transactionFee := 0
      amountToReceive := 820 } true 1

/-- What the vault locked can be reserved for another operation. -/
theorem locked_principal_reserved :
    ¬ ∀ (L : Ledger) (ops : List Operation) (currency : Currency) (amount : Nat) (M : Ledger),
      (reserveLiquidity currency amount).Commits (Run.final Operation.step L ops) true M →
        (amount : Int) ≤ getAvailableLiquidity (Run.final Operation.step L ops) currency := by
  intro h
  have hreserve : ∃ M, (reserveLiquidity .usdt 1000).Commits
      (Run.final Operation.step usdtOwner [lockVault]) true M :=
    ⟨_, result_eq_some.mp (by decide +kernel)⟩
  obtain ⟨M, hM⟩ := hreserve
  have hwithin := h usdtOwner [lockVault] .usdt 1000 M hM
  revert hwithin
  decide +kernel

end CompanyLiquidityService

end ExchangeLedger
