import ExchangeLedger.ConfirmOutcomes

set_option autoImplicit false

/-! What the catch of a BTC vault's exchange gives back, for every step at which the exchange can
fail. -/

namespace ExchangeLedger

open Block

namespace VaultService

/-- The confirmation goes wrong after its first block: the swap is not recorded. -/
def Outcome.Fails (o : Outcome) (L : Ledger) : Prop :=
  ¬ ∃ usdt, o.quoted = some usdt ∧ reservedUsdt o.reserves usdt L = some true ∧
    o.confirmed.isSome = true ∧ o.stored = true

/-- Every balance and every reservation is what it was in `L`, and the vault is TERMINATED. -/
structure Restored (vaultId : VaultId) (L M : Ledger) : Prop where
  base : ∀ k, M.baseBalance k = L.baseBalance k
  reserved : ∀ k, M.reservedBalance k = L.reservedBalance k
  company : ∀ c, M.reservedLiquidity c = L.reservedLiquidity c
  vault : ∃ v, M.vaults.lookup vaultId = some v ∧ v.status = .TERMINATED

/-- The catch reaches the database, and the quoted USDT was reserved, unless it was nothing; the
reserved columns were not negative, as they never are. -/
def Outcome.Restorable (q : Confirm) (L : Ledger) (o : Outcome) : Prop :=
  o.released = true ∧ 0 ≤ L.reservedBalance q.btcKey ∧
    ∀ usdt, o.quoted = some usdt → usdt ≠ 0 →
      o.reserves = true ∧ Reservable usdt L ∧ 0 ≤ L.reservedLiquidity .usdt

/-- Since `L` the charge was reserved in the BTC wallet and `usdt` with the company, and the vault
was created. -/
structure ExchangePending (q : Confirm) (vaultId : VaultId) (usdt : Nat) (L M : Ledger) : Prop where
  reserves : Reserves q.btcKey none q.totalCharge .usdt usdt L M
  base : ∀ k, M.baseBalance k = L.baseBalance k
  others : ∀ k, k ≠ q.btcKey → M.reservedBalance k = L.reservedBalance k
  company : ∀ c, c ≠ .usdt → M.reservedLiquidity c = L.reservedLiquidity c
  vault : ∃ v, M.vaults.lookup vaultId = some v ∧ v.status ≠ .TERMINATED

theorem confirmBtcBlock_pending {q : Confirm} {rateConfigured : Bool} {vaultId : VaultId}
    {id : TransactionId} {swapRecordId : SwapRecordId} {L M : Ledger} {u : Unit}
    (h : (confirmBtcBlock q rateConfigured vaultId id swapRecordId).Commits L u M) :
    ExchangePending q vaultId 0 L M := by
  have hconfirmed := confirmBtcBlock_confirmed h
  simp only [confirmBtcBlock, commits_read_bind, commits_demand_bind, commits_require_bind] at h
  obtain ⟨wallet, -, -, h⟩ := h
  simp only [commits_bind, reserveBalance_commits, commits_require, createVault, createSwap,
    insertTransaction_commits, commits_read, commits_update] at h
  obtain ⟨_, _, ⟨w, hw, -, -, rfl⟩, _, _, ⟨-, rfl⟩, _, _, ⟨_, _, ⟨-, rfl⟩, _, _, ⟨-, rfl⟩, rfl⟩,
    _, _, ⟨-, -, rfl⟩, _, _, ⟨-, rfl⟩, _, _, ⟨-, rfl⟩, rfl⟩ := h
  have hkey : L.wallets.lookup q.btcKey = some w := hw
  constructor
  · exact hconfirmed.reserves
  · exact Ledger.baseBalance_setWallet_of_eq hkey rfl
  · intro k hk
    show (L.setWallet q.btcKey _).reservedBalance k = _
    rw [Ledger.reservedBalance_setWallet, if_neg hk]
  · intro c _
    rfl
  · refine ⟨q.vault, AList.lookup_insert _, ?_⟩
    simp only [Confirm.vault]
    split <;> simp

theorem exchangeFailedBlock_effect {q : Confirm} {vaultId : VaultId} {id : TransactionId}
    {swapRecordId : SwapRecordId} {usdt : Nat} {M N : Ledger} {u : Unit}
    (h : (exchangeFailedBlock q vaultId id swapRecordId usdt).Commits M u N) :
    (∀ k, N.baseBalance k = M.baseBalance k) ∧
      (∀ k, k ≠ q.btcKey → N.reservedBalance k = M.reservedBalance k) ∧
      (∀ c, c ≠ .usdt → N.reservedLiquidity c = M.reservedLiquidity c) ∧
      N.vaults = M.vaults.modify vaultId (fun v => { v with status := .TERMINATED }) := by
  simp only [exchangeFailedBlock, commits_bind, updateTransaction, updateSwap, updateVault,
    commits_update, releaseBalance_commits] at h
  obtain ⟨_, _, ⟨w, hw, -, -, rfl⟩, _, _, rfl, _, _, rfl, _, _, rfl, hliquidity⟩ := h
  have hkey : M.wallets.lookup q.btcKey = some w := hw
  have hframe := (releaseLiquidity_frame hliquidity).1
  refine ⟨fun k => ?_, fun k hk => ?_, fun c hc => ?_, ?_⟩
  · rw [hframe]
    show (M.setWallet q.btcKey _).baseBalance k = _
    apply Ledger.baseBalance_setWallet_of_eq hkey
    rfl
  · rw [hframe]
    show (M.setWallet q.btcKey _).reservedBalance k = _
    rw [Ledger.reservedBalance_setWallet, if_neg hk]
  · rw [releaseLiquidity_reserved hliquidity, if_neg hc, sub_zero]
    rfl
  · rw [hframe]
    rfl

section Exchange

variable {q : Confirm} {vaultId : VaultId} {id : TransactionId} {swapRecordId : SwapRecordId}
  {L M : Ledger} {o : Outcome} {held : Nat}

theorem ExchangePending.not_restored (h : ExchangePending q vaultId held L M) :
    ¬ Restored vaultId L M := by
  intro hrestored
  obtain ⟨v, hv, hopen⟩ := h.vault
  obtain ⟨v', hv', hterminated⟩ := hrestored.vault
  rw [hv] at hv'
  cases hv'
  exact hopen hterminated

/-- The catch restores everything exactly when it can be carried out and releases of the company's
USDT what is held for it. -/
theorem ExchangePending.exchangeFailed_iff (h : ExchangePending q vaultId held L M) (usdt : Nat) :
    Restored vaultId L (exchangeFailed q vaultId id swapRecordId o usdt M) ↔
      o.released = true ∧ usdt = held ∧ Unsigned q.btcKey .usdt held L := by
  have hcompensates := exchangeFailedBlock_compensates q vaultId id swapRecordId usdt
  unfold exchangeFailed
  cases o.released with
  | false => simpa [storeIf] using h.not_restored
  | true =>
    simp only [storeIf, if_true, true_and]
    constructor
    · intro hrestored
      rcases (exchangeFailedBlock q vaultId id swapRecordId usdt).commit_cases M with
        hsame | ⟨u, hN⟩
      · rw [hsame] at hrestored
        exact absurd hrestored h.not_restored
      · obtain ⟨hheld, -, hcompany, -⟩ := hcompensates.commits _ _ _ hN
        have hequal : usdt = held := by
          have hreserved := h.reserves.company
          have hbefore := hrestored.company .usdt
          omega
        subst hequal
        exact ⟨rfl, h.reserves.held_iff.mp hheld⟩
    · rintro ⟨rfl, hunsigned⟩
      obtain ⟨N, hN⟩ := hcompensates.of_held M (h.reserves.held_iff.mpr hunsigned)
      obtain ⟨-, hwallet, hcompany, -⟩ := hcompensates.commits _ _ _ hN
      obtain ⟨hbase, hothers, hcompanies, hvaults⟩ := exchangeFailedBlock_effect hN
      rw [commit_of_commits hN]
      constructor
      · intro k
        rw [hbase, h.base]
      · intro k
        by_cases hk : k = q.btcKey
        · rw [hk, hwallet, h.reserves.wallet]
          omega
        · rw [hothers k hk, h.others k hk]
      · intro c
        by_cases hc : c = .usdt
        · rw [hc, hcompany, h.reserves.company]
          omega
        · rw [hcompanies c hc, h.company c hc]
      · obtain ⟨v, hv, -⟩ := h.vault
        exact ⟨{ v with status := .TERMINATED }, by rw [hvaults, Table.lookup_modify_self, hv]; rfl,
          rfl⟩

theorem ExchangePending.reserveUsdt (h : ExchangePending q vaultId 0 L M)
    (hcompany : M.companyLiquidity = L.companyLiquidity) {usdt : Nat} (husdt : Reservable usdt L) :
    ExchangePending q vaultId usdt L ((reserveLiquidity .usdt usdt).commit M) := by
  obtain ⟨r, hr, hle⟩ := husdt
  have hrow := hr
  rw [← hcompany] at hrow
  have hN : (reserveLiquidity .usdt usdt).commit M =
      M.setCompany .usdt { r with reservedBalance := r.reservedBalance + usdt } :=
    commit_of_commits (updateCompany_commits.mpr (.inl ⟨r, hrow, hle, rfl, rfl⟩))
  rw [hN]
  constructor
  · refine ⟨h.reserves.wallet, h.reserves.walletRow, ?_, fun _ => ⟨_, AList.lookup_insert _⟩⟩
    rw [Ledger.reservedLiquidity_of_lookup hr]
    simp
  · exact h.base
  · exact h.others
  · intro c hc
    rw [← h.company c hc]
    simp [hc]
  · exact h.vault

theorem ExchangePending.afterUsdtReserve_iff {usdt : Nat} (h : ExchangePending q vaultId usdt L M)
    (hfails : ¬ (o.confirmed.isSome = true ∧ o.stored = true)) :
    Restored vaultId L (afterUsdtReserve q vaultId id swapRecordId o usdt M) ↔
      o.released = true ∧ Unsigned q.btcKey .usdt usdt L := by
  have hfailed : Restored vaultId L (exchangeFailed q vaultId id swapRecordId o usdt M) ↔
      o.released = true ∧ usdt = usdt ∧ Unsigned q.btcKey .usdt usdt L :=
    h.exchangeFailed_iff usdt
  rw [eq_self, true_and] at hfailed
  unfold afterUsdtReserve
  cases hconfirmed : o.confirmed with
  | none => exact hfailed
  | some confirmed =>
    have hstored : ¬ o.stored = true := fun hstored => hfails ⟨by rw [hconfirmed]; rfl, hstored⟩
    simpa [hstored] using hfailed

end Exchange

/-- A BTC vault's confirmation that fails after its first block leaves every balance and every
reservation as it was, and the vault TERMINATED, exactly where its catch reaches the database and
the amount that it releases for the company was reserved before. -/
theorem failed_exchange_restored_iff (q : Confirm) (rateConfigured : Bool) (vaultId : VaultId)
    (id : TransactionId) (swapRecordId : SwapRecordId) (L₀ L₁ : Ledger) (o : Outcome)
    (h : (confirmBtcBlock q rateConfigured vaultId id swapRecordId).Commits L₀ () L₁)
    (hfails : o.Fails L₁) :
    Restored vaultId L₀ (afterReserve q vaultId id swapRecordId o L₁) ↔ o.Restorable q L₀ := by
  have hpending := confirmBtcBlock_pending h
  have hconfirmed := confirmBtcBlock_confirmed h
  unfold afterReserve Outcome.Restorable
  cases hquoted : o.quoted with
  | none =>
    refine (hpending.exchangeFailed_iff 0).trans ?_
    simp [Unsigned]
  | some usdt =>
    show Restored vaultId L₀ (if reservedUsdt o.reserves usdt L₁ = some true then _ else _) ↔ _
    have hreserved := reservedUsdt_iff hconfirmed o.reserves usdt
    split
    · rename_i hsome
      obtain ⟨hreserves, hreservable⟩ := hreserved.mp hsome
      have hstops : ¬ (o.confirmed.isSome = true ∧ o.stored = true) :=
        fun hdone => hfails ⟨usdt, hquoted, hsome, hdone⟩
      rw [(hpending.reserveUsdt hconfirmed.company hreservable).afterUsdtReserve_iff hstops]
      simp only [Unsigned, Option.some.injEq, forall_eq', hreserves, hreservable, true_and]
      rw [or_iff_not_imp_left]
    · rename_i hrefused
      refine (hpending.exchangeFailed_iff usdt).trans ?_
      rw [hreserved] at hrefused
      simp only [Unsigned, true_or, and_true, Option.some.injEq, forall_eq']
      constructor
      · rintro ⟨hreleased, rfl, hunsigned⟩
        exact ⟨hreleased, hunsigned, fun h0 => absurd rfl h0⟩
      · rintro ⟨hreleased, hunsigned, hquoted⟩
        refine ⟨hreleased, ?_, hunsigned⟩
        by_contra h0
        obtain ⟨hreserves, hreservable, -⟩ := hquoted h0
        exact hrefused ⟨hreserves, hreservable⟩

/-- A swap that is not confirmed after 700 USDT were reserved for it. -/
theorem unconfirmed_exchange_restored :
    Restored 3 beforeExchange (afterReserve vaultOfBtc 3 2 1 ⟨some 700, true, none, true, true⟩
      ((confirmBtcBlock vaultOfBtc true 3 2 1).commit beforeExchange)) := by
  have hvault : (confirmBtcBlock vaultOfBtc true 3 2 1).result beforeExchange = some () := by
    decide +kernel
  have hunsigned : 0 ≤ beforeExchange.reservedBalance vaultOfBtc.btcKey := by decide +kernel
  have hcompany : 0 ≤ beforeExchange.reservedLiquidity .usdt := by decide +kernel
  have hreservable : Reservable 700 beforeExchange :=
    ⟨{ CompanyLiquidity.empty with totalBalance := 5000 }, rfl, by decide⟩
  have hfails : (⟨some 700, true, none, true, true⟩ : Outcome).Fails
      ((confirmBtcBlock vaultOfBtc true 3 2 1).commit beforeExchange) := by
    rintro ⟨_, -, -, hconfirmed, -⟩
    cases hconfirmed
  apply (failed_exchange_restored_iff _ _ _ _ _ _ _ _ (result_eq_some.mp hvault) hfails).mpr
  refine ⟨rfl, hunsigned, fun usdt husdt _ => ?_⟩
  cases husdt
  exact ⟨rfl, hreservable, hcompany⟩

/-- A company that has 5000 USDT, of which 3000 are reserved for others. -/
def partlyReserved : Ledger :=
  { beforeExchange with
    companyLiquidity := beforeExchange.companyLiquidity.insert .usdt
      { CompanyLiquidity.empty with totalBalance := 5000, reservedBalance := 3000 } }

/-- 2500 USDT are refused, and the catch takes them out of what is reserved for others. -/
theorem refused_reservation_released :
    ¬ ∀ (q : Confirm) (rateConfigured : Bool) (vaultId : VaultId) (id : TransactionId)
      (swapRecordId : SwapRecordId) (L₀ L₁ : Ledger) (o : Outcome),
      (confirmBtcBlock q rateConfigured vaultId id swapRecordId).Commits L₀ () L₁ → o.Fails L₁ →
      Restored vaultId L₀ (afterReserve q vaultId id swapRecordId o L₁) := by
  intro h
  have hvault : (confirmBtcBlock vaultOfBtc true 3 2 1).result partlyReserved = some () := by
    decide +kernel
  have hrefused : reservedUsdt true 2500
      ((confirmBtcBlock vaultOfBtc true 3 2 1).commit partlyReserved) ≠ some true := by
    decide +kernel
  have hfails : (⟨some 2500, true, none, true, true⟩ : Outcome).Fails
      ((confirmBtcBlock vaultOfBtc true 3 2 1).commit partlyReserved) := by
    rintro ⟨usdt, husdt, hreserved, -⟩
    cases husdt
    exact hrefused hreserved
  have hrestored := h _ _ _ _ _ _ _ _ (result_eq_some.mp hvault) hfails
  have hreleased : (afterReserve vaultOfBtc 3 2 1 ⟨some 2500, true, none, true, true⟩
      ((confirmBtcBlock vaultOfBtc true 3 2 1).commit partlyReserved)).reservedLiquidity .usdt =
      500 := by
    decide +kernel
  have hbefore : partlyReserved.reservedLiquidity .usdt = 3000 := by decide +kernel
  have hcompany := hrestored.company .usdt
  rw [hreleased, hbefore] at hcompany
  exact absurd hcompany (by decide)

end VaultService

end ExchangeLedger
