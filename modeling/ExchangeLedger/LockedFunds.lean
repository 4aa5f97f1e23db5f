import ExchangeLedger.MaturityDispatch
import ExchangeLedger.ProductFrames
import ExchangeLedger.VaultCompensation

set_option autoImplicit false

/-! The locked columns of the wallets over whole runs, against the ACTIVE vaults they stand for. -/

namespace ExchangeLedger

open Block

/-! ### What a run moves of one column -/

def Wallet.held (w : Wallet) : Holding → Int
  | .lockedAmount => w.lockedAmount
  | .loanCollateralAmount => w.loanCollateralAmount
  | .stackedAmount => w.stackedAmount
  | .totalStackedInterest => w.totalStackedInterest
  | .totalLockedInterest => w.totalLockedInterest

def Books.held (b : Books) (column : Holding) (k : WalletKey) : Int :=
  (b.wallets.lookup k).elim 0 (fun w => w.held column)

/-- How far one movement shifts a column of a wallet. -/
def Movement.heldShift (column : Holding) (k : WalletKey) : Movement → Int
  | .hold j c change => if j = k ∧ c = column then change else 0
  | _ => 0

def heldShifts (column : Holding) (k : WalletKey) (ms : List Movement) : Int :=
  (ms.map (Movement.heldShift column k)).sum

section

variable {column : Holding} {k : WalletKey}

@[simp] theorem heldShifts_nil : heldShifts column k [] = 0 := rfl

@[simp] theorem heldShifts_cons (m : Movement) (ms : List Movement) :
    heldShifts column k (m :: ms) = m.heldShift column k + heldShifts column k ms := by
  simp [heldShifts]

theorem Wallet.held_shift (w : Wallet) (change : Int) (c : Holding) :
    (w.shift change c).held column = w.held column + if c = column then change else 0 := by
  cases c <;> cases column <;> simp [Wallet.shift, Wallet.held]

theorem Books.held_insert (b : Books) (j : WalletKey) (w : Wallet) :
    Books.held { b with wallets := b.wallets.insert j w } column k =
      if k = j then w.held column else b.held column k := by
  by_cases h : k = j <;> simp [Books.held, Table.lookup_insert, h]

theorem Books.held_walletIf (column : Holding) {j : WalletKey} {p : Wallet → Bool}
    {f : Wallet → Wallet} {b c : Books} (change : Int)
    (hf : ∀ w, (f w).held column = w.held column + change)
    (h : Books.walletIf j p f b = some c) :
    c.held column k = b.held column k + if j = k then change else 0 := by
  obtain ⟨w, hw, -, rfl⟩ := Books.walletIf_eq_some.mp h
  rw [Books.held_insert]
  by_cases hk : k = j
  · subst hk
    simp [Books.held, hw, hf]
  · simp [hk, Ne.symm hk]

theorem Movement.apply_held {m : Movement} {b c : Books} (h : m.apply b = some c) :
    c.held column k = b.held column k + m.heldShift column k := by
  cases m with
  | reserve j a | release j a | settle j a | spend j a | debit j a | credit j a =>
    have hheld := Books.held_walletIf column (k := k) 0
      (fun w => by cases column <;> simp [Wallet.held]) h
    simpa [Movement.heldShift] using hheld
  | hold j c' change =>
    have hheld := Books.held_walletIf column (k := k) _
      (fun w => w.held_shift change c') h
    rw [hheld, Movement.heldShift]
    by_cases hj : j = k <;> simp [hj]
  | company currency c' change =>
    simp only [Movement.apply, Option.map_eq_some_iff] at h
    obtain ⟨r, -, rfl⟩ := h
    simp [Books.held, Movement.heldShift]

theorem Moves.held {ms : List Movement} {b c : Books} (h : Moves ms b c) :
    c.held column k = b.held column k + heldShifts column k ms := by
  refine Journal.Posted.shift (v := fun d => d.held column k) (I := fun _ => True) h ?_ ?_ trivial
  · intro m d e _ he
    exact ⟨trivial, Movement.apply_held he⟩
  · intro d e _ he
    refine ⟨trivial, ?_⟩
    cases he with
    | @text j w s hk =>
      rw [Books.held_insert]
      by_cases hkj : k = j
      · subst hkj
        simp only [Books.held, hk, Option.elim_some, if_true]
        cases column <;> rfl
      · rw [if_neg hkj]
    | row hc => rfl

theorem heldShifts_essential (hcolumn : column ≠ .loanCollateralAmount) (ms : List Movement) :
    heldShifts column k (ms.filter Movement.essential) = heldShifts column k ms := by
  induction ms with
  | nil => rfl
  | cons m ms ih =>
    cases h : m.neutral with
    | true =>
      have hm : m.heldShift column k = 0 := by
        cases m with
        | hold j c change =>
          have hc : c = .loanCollateralAmount := by simpa using h
          simp [Movement.heldShift, hc, Ne.symm hcolumn]
        | _ => rfl
      simp [Movement.essential, h, ih, hm]
    | false => simp [Movement.essential, h, ih]

theorem Operation.step_held (hcolumn : column ≠ .loanCollateralAmount) (op : Operation)
    (L : Ledger) :
    (op.step L).toBooks.held column k =
      L.toBooks.held column k + heldShifts column k (op.moved L) := by
  obtain ⟨ms, hms, hfilter⟩ := op.step_moves L
  rw [hms.held, ← hfilter, heldShifts_essential hcolumn]

end

namespace Operation

/-- The step of an operation whose block reports what it moved: it is refused, or its block commits
and that is what it moved. -/
theorem step_cases {α : Type} {op : Operation} {x : LedgerBlock α} {report : α → List Movement}
    (h : op.block = report <$> x) (L : Ledger) :
    (op.step L = L ∧ op.moved L = []) ∨
      ∃ a, x.Commits L a (op.step L) ∧ op.moved L = report a := by
  unfold step moved
  cases hL : op.block L with
  | error e => exact .inl ⟨by simp [commit, hL], rfl⟩
  | ok r =>
    obtain ⟨ms, M⟩ := r
    have hcommits : (report <$> x).Commits L ms M := h ▸ hL
    obtain ⟨a, rfl, ha⟩ := commits_map.mp hcommits
    exact .inr ⟨a, by simpa [commit, hL] using ha, rfl⟩

theorem moved_of_report {α : Type} {op : Operation} {x : LedgerBlock α}
    {report : α → List Movement} {P : List Movement → Prop} (h : op.block = report <$> x)
    (hnil : P []) (hreport : ∀ a, P (report a)) (L : Ledger) : P (op.moved L) := by
  rcases step_cases h L with ⟨-, hm⟩ | ⟨a, -, hm⟩
  · rw [hm]
    exact hnil
  · rw [hm]
    exact hreport a

theorem moved_of_neutral {α : Type} {op : Operation} {x : LedgerBlock α}
    (h : op.block = neutrally x) (L : Ledger) : op.moved L = [] :=
  moved_of_report (P := fun ms => ms = []) h rfl (fun _ => rfl) L

end Operation

/-! ### The vaults behind the locked columns -/

/-- What a vault locks: its principal and the interest it promises. -/
inductive Lock where
  | principal | interest
  deriving DecidableEq, Repr

namespace Lock

def column : Lock → Holding
  | .principal => .lockedAmount
  | .interest => .totalLockedInterest

def amount : Lock → Vault → Nat
  | .principal => Vault.amountLocked
  | .interest => Vault.totalGain

end Lock

/-- What a vault locks in a wallet: only an ACTIVE vault does, in the wallet of its currency. -/
def Vault.locks (l : Lock) (k : WalletKey) (v : Vault) : Int :=
  if v.status = .ACTIVE ∧ v.walletKey = k then l.amount v else 0

def Ledger.lockedInVaults (L : Ledger) (l : Lock) (k : WalletKey) : Int :=
  L.vaults.total (fun _ v => v.locks l k)

/-- What the vault under this id locks, nothing without one. -/
def Ledger.lockedBy (L : Ledger) (vaultId : VaultId) (l : Lock) (k : WalletKey) : Int :=
  (L.vaults.lookup vaultId).elim 0 (Vault.locks l k)

/-- The locked columns of every wallet are what its ACTIVE vaults lock. -/
def Ledger.LocksMatch (L : Ledger) : Prop :=
  ∀ l k, L.toBooks.held l.column k = L.lockedInVaults l k

/-- No ACTIVE vault with anything locked is under this id. -/
def Ledger.Unlocked (L : Ledger) (vaultId : VaultId) : Prop :=
  ∀ v, L.vaults.lookup vaultId = some v → v.status = .ACTIVE → ∀ l : Lock, l.amount v = 0

section

variable {L M : Ledger} {l : Lock} {k : WalletKey} {vaultId : VaultId} {v : Vault}

theorem Vault.locks_nonneg (l : Lock) (k : WalletKey) (v : Vault) : 0 ≤ v.locks l k := by
  unfold locks
  split <;> omega

theorem Vault.locks_of_not_active (h : v.status ≠ .ACTIVE) : v.locks l k = 0 := by
  simp [locks, h]

theorem Vault.locks_self (h : v.status = .ACTIVE) : v.locks l v.walletKey = l.amount v := by
  simp [locks, h]

theorem Ledger.unlocked_iff : L.Unlocked vaultId ↔ ∀ l k, L.lockedBy vaultId l k = 0 := by
  unfold Unlocked lockedBy
  cases hv : L.vaults.lookup vaultId with
  | none => simp
  | some v =>
    simp only [Option.some.injEq, forall_eq', Option.elim_some]
    constructor
    · intro h l k
      by_cases hactive : v.status = .ACTIVE
      · simp [Vault.locks, h hactive l]
      · exact Vault.locks_of_not_active hactive
    · intro h hactive l
      have hself := h l v.walletKey
      rw [Vault.locks_self hactive] at hself
      omega

theorem Ledger.lockedBy_le (L : Ledger) (vaultId : VaultId) (l : Lock) (k : WalletKey) :
    L.lockedBy vaultId l k ≤ L.lockedInVaults l k := by
  have hle := Table.total_add_le (f := fun _ v => Vault.locks l k v) (g := fun _ _ => 0)
    (k := vaultId) (fun _ v _ => v.locks_nonneg l k) L.vaults
  unfold lockedBy lockedInVaults
  cases hv : L.vaults.lookup vaultId with
  | none => simpa [hv] using hle
  | some v => simpa [hv] using hle

theorem Ledger.lockedInVaults_modify {f : Vault → Vault}
    (hvaults : M.vaults = L.vaults.modify vaultId f) (hv : L.vaults.lookup vaultId = some v) :
    M.lockedInVaults l k = L.lockedInVaults l k + ((f v).locks l k - v.locks l k) := by
  simp [lockedInVaults, hvaults, Table.total_modify, hv]

theorem Ledger.lockedInVaults_insert (hvaults : M.vaults = L.vaults.insert vaultId v)
    (hfree : L.vaults.lookup vaultId = none) :
    M.lockedInVaults l k = L.lockedInVaults l k + v.locks l k := by
  simp [lockedInVaults, hvaults, Table.total_insert, hfree]

theorem Ledger.lockedInVaults_close {status : VaultStatus} (hstatus : status ≠ .ACTIVE)
    (hvaults : M.vaults = L.vaults.modify vaultId (fun v => { v with status := status })) :
    M.lockedInVaults l k = L.lockedInVaults l k - L.lockedBy vaultId l k := by
  cases hv : L.vaults.lookup vaultId with
  | none => simp [lockedInVaults, lockedBy, hvaults, Table.modify, hv]
  | some v =>
    rw [lockedInVaults_modify hvaults hv, Vault.locks_of_not_active hstatus]
    simp only [lockedBy, hv, Option.elim_some]
    omega

/-- A vault that is closed while the wallets stay as they are leaves no locked funds behind
exactly when it had none. -/
theorem Ledger.locksMatch_close_iff (hL : L.LocksMatch)
    (hheld : ∀ (l : Lock) k, M.toBooks.held l.column k = L.toBooks.held l.column k)
    {status : VaultStatus} (hstatus : status ≠ .ACTIVE)
    (hvaults : M.vaults = L.vaults.modify vaultId (fun v => { v with status := status })) :
    M.LocksMatch ↔ L.Unlocked vaultId := by
  rw [unlocked_iff]
  refine forall_congr' fun l => forall_congr' fun k => ?_
  rw [hheld, hL, lockedInVaults_close hstatus hvaults]
  omega

end

/-! ### What the blocks of the vaults do to them -/

namespace VaultService

theorem createVault_commits {vaultId : VaultId} {v : Vault} {L M : Ledger} {u : Unit} :
    (createVault vaultId v).Commits L u M ↔
      L.vaults.lookup vaultId = none ∧ { L with vaults := L.vaults.insert vaultId v } = M := by
  simp [createVault]

theorem confirmBtcBlock_vaults {q : Confirm} {rateConfigured : Bool} {vaultId : VaultId}
    {id : TransactionId} {swapRecordId : SwapRecordId} {L M : Ledger} {u : Unit}
    (h : (confirmBtcBlock q rateConfigured vaultId id swapRecordId).Commits L u M) :
    L.vaults.lookup vaultId = none ∧ M.vaults = L.vaults.insert vaultId q.vault := by
  simp only [confirmBtcBlock, commits_read_bind, commits_demand_bind, commits_require_bind] at h
  obtain ⟨wallet, -, -, h⟩ := h
  simp only [commits_bind, commits_require, createVault_commits] at h
  obtain ⟨_, A, hreserve, _, _, ⟨-, rfl⟩, _, _, ⟨hfree, rfl⟩, _, B, hinsert, hswap⟩ := h
  have hA := (reserveBalance_onBalances _ _ _ _).products.vaults _ _ _ hreserve
  have hB := (insertTransaction_products _ _).vaults _ _ _ hinsert
  have hM := (createSwap_products _ _).vaults _ _ _ hswap
  rw [hA] at hfree
  exact ⟨hfree, by rw [hM, hB, hA]⟩

theorem confirmStableBlock_vaults {cache : ConvertCurrency.DefaultNetworkCache} {q : Confirm}
    {rateConfigured : Bool} {vaultId : VaultId} {L M : Ledger} {u : Unit}
    (h : (confirmStableBlock cache q rateConfigured vaultId).Commits L u M) :
    L.vaults.lookup vaultId = none ∧ M.vaults = L.vaults.insert vaultId q.vault := by
  simp only [confirmStableBlock, commits_read_bind, commits_require_bind] at h
  obtain ⟨-, h⟩ := h
  simp only [commits_bind, commits_require, createVault_commits, commits_pure] at h
  obtain ⟨_, A, hspend, _, B, hhold, _, C, hrestate, _, _, ⟨-, rfl⟩, _, _, ⟨hfree, rfl⟩, _, D,
    hinterest, _, E, hprincipal, _, F, haccrued, -, rfl⟩ := h
  have hA := (mustUpdateWallet_onBalances _ _ _ _).products.vaults _ _ _ hspend
  have hB := (mustUpdateWallet_onBalances _ _ _ _).products.vaults _ _ _ hhold
  have hC := (writeOriginalBalance_onBalances _ _ _).products.vaults _ _ _ hrestate
  have hD := (mustUpdateWallet_onBalances _ _ _ _).products.vaults _ _ _ hinterest
  have hE := (updateCompany_onBalances _ _ _).products.vaults _ _ _ hprincipal
  have hF := (updateCompany_onBalances _ _ _).products.vaults _ _ _ haccrued
  rw [hC, hB, hA] at hfree
  exact ⟨hfree, by rw [hF, hE, hD, hC, hB, hA]⟩

theorem cancelBlock_vaults {vaultId : VaultId} {vault : Vault} {swap : Option SwapTransaction}
    {L M : Ledger} {u : Unit} (h : (cancelBlock vaultId vault swap).Commits L u M) :
    M.vaults = L.vaults.modify vaultId (fun v => { v with status := .TERMINATED }) := by
  simp only [cancelBlock, updateVault, commits_update_bind] at h
  have hrelease : KeepsVaults (onlyIf (vault.currencyId = .btc) (do
      releaseBalance vault.userId .btc (vault.amountLocked + vault.bufferAmount) none
      releaseLiquidity .usdt ((swap.bind SwapTransaction.toAmountOriginal).getD 0))) :=
    keeps_onlyIf (keeps_bind (releaseBalance_onBalances _ _ _ _).products.vaults fun _ =>
      (releaseLiquidity_onBalances _ _).products.vaults)
  exact hrelease _ _ _ h

theorem unlockBlock_vaults {cache : ConvertCurrency.DefaultNetworkCache} {userId : UserId}
    {vaultId : VaultId} {early : Bool} {L M : Ledger} {r : Vault × Wallet}
    (h : (unlockBlock cache userId vaultId early).Commits L r M) :
    L.vaults.lookup vaultId = some r.1 ∧ r.1.status = .ACTIVE ∧
      L.wallets.lookup r.1.walletKey = some r.2 ∧ M.vaults = L.vaults.modify vaultId
        (fun v => { v with status := if early then .TERMINATED else .MATURED }) := by
  simp only [unlockBlock, commits_read_bind, commits_demand_bind] at h
  obtain ⟨v, hv, w, hw, h⟩ := h
  obtain ⟨hvault, hopen⟩ := Option.filter_eq_some_iff.mp hv
  have hwallet : L.wallets.lookup v.walletKey = some w := (Option.filter_eq_some_iff.mp hw).1
  simp only [commits_bind, updateVault, commits_update, commits_pure] at h
  obtain ⟨_, A, hcredit, _, B, hlocked, _, C, hinterest, _, D, hrestate, _, _, rfl, _, E, htotals,
    rfl, rfl⟩ := h
  have hA := (mustUpdateWallet_onBalances _ _ _ _).products.vaults _ _ _ hcredit
  have hB := (mustUpdateWallet_onBalances _ _ _ _).products.vaults _ _ _ hlocked
  have hC := (mustUpdateWallet_onBalances _ _ _ _).products.vaults _ _ _ hinterest
  have hD := (writeOriginalBalance_onBalances _ _ _).products.vaults _ _ _ hrestate
  have hE := (releaseLockedTotals_products _ _ _).vaults _ _ _ htotals
  simp only [decide_eq_true_eq] at hopen
  exact ⟨hvault, hopen.2, hwallet, by rw [hE, hD, hC, hB, hA]⟩

end VaultService

theorem VaultInterestScheduler.matureBlock_found {cache : ConvertCurrency.DefaultNetworkCache}
    {vaultId : VaultId} {due : Bool} {L M : Ledger} {v : Vault} {w : Wallet}
    (h : (matureBlock cache vaultId due).Commits L (some (v, w)) M) :
    L.vaults.lookup vaultId = some v ∧ v.status = .ACTIVE ∧
      L.wallets.lookup v.walletKey = some w := by
  simp only [matureBlock, commits_read_bind] at h
  split at h
  · simp at h
  · rename_i v₁ hv₁
    simp only [commits_read_bind] at h
    split at h
    · simp at h
    · rename_i w₁ hw₁
      obtain ⟨hvault, hopen⟩ := Option.filter_eq_some_iff.mp hv₁
      have hwallet : L.wallets.lookup v₁.walletKey = some w₁ :=
        (Option.filter_eq_some_iff.mp hw₁).1
      simp only [commits_bind, commits_pure, Option.some.injEq, Prod.mk.injEq] at h
      obtain ⟨_, _, -, _, _, -, _, _, -, _, _, -, _, _, -, _, _, -, ⟨rfl, rfl⟩, -⟩ := h
      simp only [decide_eq_true_eq] at hopen
      exact ⟨hvault, hopen.1, hwallet⟩

namespace SwapWebhook

theorem vaultFailureBlock_vaults {swapRecordId : SwapRecordId} {swap : SwapTransaction}
    {vaultId : VaultId} {swapId : Reference} {isReversal : Bool} {L M : Ledger} {u : Unit}
    (h : (vaultFailureBlock swapRecordId swap vaultId swapId isReversal).Commits L u M) :
    L = M ∨ M.vaults = L.vaults.modify vaultId (fun v => { v with status := .TERMINATED }) := by
  simp only [vaultFailureBlock, commits_read_bind] at h
  split at h
  · exact .inl (commits_pure.mp h).2
  · rw [commits_read_bind] at h
    simp only [commits_bind, updateVault, updateSwap, commits_update] at h
    obtain ⟨_, A, hrefund, _, B, hrelease, _, _, rfl, rfl⟩ := h
    have hA := (refundVault_products _ _ _).vaults _ _ _ hrefund
    have hB := (releaseExpectedUsdt_products _).vaults _ _ _ hrelease
    exact .inr (by rw [hB, hA])

/-- The vault that a completed swap activates. -/
def activatedVault (expected gain feeUnits : Nat) (v : Vault) : Vault :=
  { v with
    status := .ACTIVE
    currencyId := .usdt
    amountLocked := expected
    totalGain := gain
    transactionFee := Vault.fee feeUnits (expected + gain)
    amountToReceive := expected + gain - Vault.fee feeUnits (expected + gain) }

theorem vaultCompleteBlock_vaults {cache : ConvertCurrency.DefaultNetworkCache}
    {swapRecordId : SwapRecordId} {swap : SwapTransaction} {vaultId : VaultId}
    {swapId : Reference} {received durationDays feeUnits : Nat} {L M : Ledger}
    {done : VaultCompletion}
    (h : (vaultCompleteBlock cache swapRecordId swap vaultId swapId received durationDays
      feeUnits).Commits L done M) :
    (done = .skipped ∧ L = M) ∨ ∃ v, L.vaults.lookup vaultId = some v ∧
      ((done = .terminated ∧ received < expectedUsdt swap v ∧
          M.vaults = L.vaults.modify vaultId (fun v => { v with status := .TERMINATED })) ∨
        ∃ charged, done = .activated charged (expectedUsdt swap v)
            (Vault.gain (expectedUsdt swap v) v.interestRatePerAnum durationDays) ∧
          expectedUsdt swap v ≤ received ∧
          M.vaults = L.vaults.modify vaultId (activatedVault (expectedUsdt swap v)
            (Vault.gain (expectedUsdt swap v) v.interestRatePerAnum durationDays) feeUnits)) := by
  simp only [vaultCompleteBlock, commits_read_bind] at h
  split at h
  · obtain ⟨rfl, rfl⟩ := commits_pure.mp h
    exact .inl ⟨rfl, rfl⟩
  · simp only [commits_demand_bind] at h
    obtain ⟨v, hv, h⟩ := h
    refine .inr ⟨v, hv, ?_⟩
    split at h
    · rename_i hshort
      simp only [commits_bind, terminateShort, updateVault, updateSwap, commits_update,
        commits_pure] at h
      obtain ⟨_, _, ⟨_, _, rfl, _, A, hrelease, _, B, hrefund, rfl⟩, rfl, rfl⟩ := h
      have hA := (releaseExpectedUsdt_products _).vaults _ _ _ hrelease
      have hB := (refundVault_products _ _ _).vaults _ _ _ hrefund
      exact .inl ⟨rfl, hshort, by rw [hB, hA]⟩
    · rename_i hcovered
      simp only [commits_read_bind, commits_require_bind] at h
      obtain ⟨-, h⟩ := h
      simp only [commits_bind, updateVault, updateSwap, commits_update, commits_pure] at h
      obtain ⟨_, A, hdebit, _, B, htext, _, C, hinternal, _, D, hcredit, _, E, hlocked, _, F,
        hinterest, _, G, htext', _, H, hadd, _, I, hrelease, _, J, hprincipal, _, K, haccrued, _, _,
        rfl, _, N, htransaction, _, _, rfl, rfl, rfl⟩ := h
      have hA := (mustUpdateWallet_onBalances _ _ _ _).products.vaults _ _ _ hdebit
      have hB := (restateOriginalBalance_onBalances _ _ _).products.vaults _ _ _ htext
      have hC := (subtractInternalBalance_onBalances _ _).products.vaults _ _ _ hinternal
      have hD := (mustUpdateWallet_onBalances _ _ _ _).products.vaults _ _ _ hcredit
      have hE := (mustUpdateWallet_onBalances _ _ _ _).products.vaults _ _ _ hlocked
      have hF := (mustUpdateWallet_onBalances _ _ _ _).products.vaults _ _ _ hinterest
      have hG := (restateOriginalBalance_onBalances _ _ _).products.vaults _ _ _ htext'
      have hH := (addInternalBalance_onBalances _ _).products.vaults _ _ _ hadd
      have hI := (releaseExpectedUsdt_products _).vaults _ _ _ hrelease
      have hJ := (updateCompany_onBalances _ _ _).products.vaults _ _ _ hprincipal
      have hK := (updateCompany_onBalances _ _ _).products.vaults _ _ _ haccrued
      have hN := (completeLinked_products _).vaults _ _ _ htransaction
      refine .inr ⟨_, rfl, Nat.le_of_not_lt hcovered, ?_⟩
      rw [hN, hK, hJ, hI, hH, hG, hF, hE, hD, hC, hB, hA]
      rfl

end SwapWebhook

/-! ### One operation -/

/-- A vault without principal and without interest. -/
def VaultService.Confirm.Empty (q : VaultService.Confirm) : Prop :=
  q.principal = 0 ∧ q.expectedInterest = 0

/-- What a completed swap locks is locked in the wallet of the vault's owner. -/
def SwapWebhook.OwnerLocked (swap : SwapTransaction) (v : Vault) (received durationDays : Nat) :
    Prop :=
  expectedUsdt swap v ≤ received → v.userId = swap.userId ∨ (expectedUsdt swap v = 0 ∧
    Vault.gain (expectedUsdt swap v) v.interestRatePerAnum durationDays = 0)

/-- An operation that closes no ACTIVE vault past its wallet, locks for the vault's owner only, and
opens a vault at once exactly where nothing has to be swapped first. -/
def Operation.SparesLocks (L : Ledger) : Operation → Prop
  | .confirmBtcVault q _ _ _ _ => q.currency = .btc ∨ q.Empty
  | .confirmStableVault _ q _ _ => q.currency ≠ .btc ∨ q.Empty
  | .vaultExchangeFailed _ vaultId _ _ _ => L.Unlocked vaultId
  | .cancelVault vaultId _ _ => L.Unlocked vaultId
  | .failVaultSwap _ _ vaultId _ _ => L.Unlocked vaultId
  | .completeVaultSwap _ _ swap vaultId _ received durationDays _ => L.Unlocked vaultId ∧
      ∀ v, L.vaults.lookup vaultId = some v → SwapWebhook.OwnerLocked swap v received durationDays
  | _ => True

namespace Operation

variable {op : Operation} {L : Ledger} {α : Type} {x : LedgerBlock α}

/-- Movements that shift no locked column. -/
def ShiftsNoLock (ms : List Movement) : Prop := ∀ (l : Lock) k, heldShifts l.column k ms = 0

theorem step_held_of_neutral (h : op.block = neutrally x) {column : Holding} {k : WalletKey}
    (hcolumn : column ≠ .loanCollateralAmount) :
    (op.step L).toBooks.held column k = L.toBooks.held column k := by
  simp [step_held hcolumn, moved_of_neutral h]

theorem column_ne_collateral (l : Lock) : l.column ≠ .loanCollateralAmount := by
  cases l <;> decide

theorem locksMatch_of_frame (hvaults : KeepsVaults op.block)
    (hmoved : ShiftsNoLock (op.moved L)) (hL : L.LocksMatch) : (op.step L).LocksMatch := by
  intro l k
  have hkept : (op.step L).vaults = L.vaults := hvaults.commit L
  rw [step_held (column_ne_collateral l), hmoved l k, hL, Ledger.lockedInVaults,
    Ledger.lockedInVaults, hkept]
  omega

theorem locksMatch_of_neutral (h : op.block = neutrally x) (hx : KeepsVaults x)
    (hL : L.LocksMatch) : (op.step L).LocksMatch := by
  refine locksMatch_of_frame (h ▸ keeps_map _ hx) ?_ hL
  simp [ShiftsNoLock, moved_of_neutral h]

theorem locksMatch_of_report {report : α → List Movement} (h : op.block = report <$> x)
    (hx : KeepsVaults x) (hreport : ∀ a, ShiftsNoLock (report a)) (hL : L.LocksMatch) :
    (op.step L).LocksMatch :=
  locksMatch_of_frame (h ▸ keeps_map _ hx)
    (moved_of_report h (P := ShiftsNoLock) (fun _ _ => rfl) hreport L) hL

theorem locksMatch_close_iff {vaultId : VaultId} {status : VaultStatus}
    (h : op.block = neutrally x) (hstatus : status ≠ .ACTIVE)
    (hx : ∀ a M, x.Commits L a M →
      L = M ∨ M.vaults = L.vaults.modify vaultId (fun v => { v with status := status }))
    (hL : L.LocksMatch) :
    (op.step L).LocksMatch ↔ op.step L = L ∨ L.Unlocked vaultId := by
  refine holds_iff_of_unchanged (P := Ledger.LocksMatch) hL ?_
  rcases step_cases h L with ⟨hsame, -⟩ | ⟨a, ha, -⟩
  · exact .inl hsame
  · rcases hx a _ ha with hsame | hvaults
    · exact .inl hsame.symm
    · exact .inr (Ledger.locksMatch_close_iff hL
        (fun l k => step_held_of_neutral h (column_ne_collateral l)) hstatus hvaults)

theorem locksMatch_confirmBtc_iff {q : VaultService.Confirm} {rateConfigured : Bool}
    {vaultId : VaultId} {id : TransactionId} {swapRecordId : SwapRecordId}
    (hop : op = .confirmBtcVault q rateConfigured vaultId id swapRecordId) (hL : L.LocksMatch) :
    (op.step L).LocksMatch ↔ op.step L = L ∨ (q.currency = .btc ∨ q.Empty) := by
  have hblock : op.block =
      neutrally (VaultService.confirmBtcBlock q rateConfigured vaultId id swapRecordId) := by
    rw [hop]
    rfl
  refine holds_iff_of_unchanged (P := Ledger.LocksMatch) hL ?_
  rcases step_cases hblock L with ⟨hsame, -⟩ | ⟨a, ha, -⟩
  · exact .inl hsame
  · obtain ⟨hfree, hvaults⟩ := VaultService.confirmBtcBlock_vaults ha
    right
    have hlocks : (∀ l k, q.vault.locks l k = 0) ↔ q.currency = .btc ∨ q.Empty := by
      by_cases hbtc : q.currency = .btc
      · simp [Vault.locks, VaultService.Confirm.vault, hbtc]
      · simp only [hbtc, false_or]
        constructor
        · intro h
          have hp := h .principal q.vault.walletKey
          have hi := h .interest q.vault.walletKey
          simp [Vault.locks, VaultService.Confirm.vault, hbtc, Lock.amount] at hp hi
          exact ⟨hp, hi⟩
        · intro h l k
          cases l <;> simp [Vault.locks, VaultService.Confirm.vault, Lock.amount, h.1, h.2]
    rw [← hlocks]
    refine forall_congr' fun l => forall_congr' fun k => ?_
    rw [step_held_of_neutral hblock (column_ne_collateral l), hL,
      Ledger.lockedInVaults_insert hvaults hfree]
    omega

theorem heldShifts_confirm (q : VaultService.Confirm) (l : Lock) (k : WalletKey) :
    heldShifts l.column k (VaultService.confirmMovements q) =
      if q.key = k then (l.amount q.vault : Int) else 0 := by
  cases l <;> simp [VaultService.confirmMovements, Movement.heldShift, Lock.column, Lock.amount,
    VaultService.Confirm.vault]

theorem locksMatch_confirmStable_iff {cache : ConvertCurrency.DefaultNetworkCache}
    {q : VaultService.Confirm} {rateConfigured : Bool} {vaultId : VaultId}
    (hop : op = .confirmStableVault cache q rateConfigured vaultId) (hL : L.LocksMatch) :
    (op.step L).LocksMatch ↔ op.step L = L ∨ (q.currency ≠ .btc ∨ q.Empty) := by
  have hblock : op.block = (fun _ => VaultService.confirmMovements q) <$>
      VaultService.confirmStableBlock cache q rateConfigured vaultId := by
    rw [hop]
    rfl
  refine holds_iff_of_unchanged (P := Ledger.LocksMatch) hL ?_
  rcases step_cases hblock L with ⟨hsame, -⟩ | ⟨a, ha, hmoved⟩
  · exact .inl hsame
  · obtain ⟨hfree, hvaults⟩ := VaultService.confirmStableBlock_vaults ha
    right
    have hlocks : (∀ l k, (if q.key = k then (l.amount q.vault : Int) else 0) =
        q.vault.locks l k) ↔ q.currency ≠ .btc ∨ q.Empty := by
      by_cases hbtc : q.currency = .btc
      · simp only [hbtc, ne_eq, not_true_eq_false, false_or]
        constructor
        · intro h
          have hp := h .principal q.key
          have hi := h .interest q.key
          simp [Vault.locks, VaultService.Confirm.vault, hbtc, Lock.amount] at hp hi
          exact ⟨hp, hi⟩
        · intro h l k
          cases l <;> simp [Vault.locks, VaultService.Confirm.vault, Lock.amount, h.1, h.2]
      · simp [Vault.locks, VaultService.Confirm.vault, hbtc, VaultService.Confirm.key,
          Vault.walletKey]
    rw [← hlocks]
    refine forall_congr' fun l => forall_congr' fun k => ?_
    rw [step_held (column_ne_collateral l), hmoved, heldShifts_confirm, hL,
      Ledger.lockedInVaults_insert hvaults hfree]
    omega

/-! ### Payouts -/

/-- The wallet covers what one of its ACTIVE vaults locks, so no clamp of a payout engages. -/
theorem held_covers {vaultId : VaultId} {v : Vault} {w : Wallet} (hL : L.LocksMatch)
    (hv : L.vaults.lookup vaultId = some v) (hactive : v.status = .ACTIVE)
    (hw : L.wallets.lookup v.walletKey = some w) (l : Lock) :
    (l.amount v : Int) ≤ w.held l.column := by
  have hle := L.lockedBy_le vaultId l v.walletKey
  rw [← hL] at hle
  simpa [Ledger.lockedBy, hv, Vault.locks_self hactive, Books.held, hw] using hle

theorem dropTo_of_le {held : Int} {amount : Nat} (h : (amount : Int) ≤ held) :
    dropTo held amount = -amount := by
  unfold dropTo
  omega

/-- A payout takes exactly what the vault locked out of its wallet. -/
def Releases (v : Vault) (ms : List Movement) : Prop :=
  ∀ (l : Lock) k, heldShifts l.column k ms = if v.walletKey = k then -(l.amount v : Int) else 0

theorem unlock_releases {early : Bool} {v : Vault} {w : Wallet}
    (hcovers : ∀ l : Lock, (l.amount v : Int) ≤ w.held l.column) :
    Releases v (VaultService.unlockMovements early v w) := by
  have hprincipal : (v.amountLocked : Int) ≤ w.lockedAmount := hcovers .principal
  intro l k
  cases l <;> simp [VaultService.unlockMovements, Movement.heldShift, Lock.column, Lock.amount,
    dropTo_of_le hprincipal]

theorem mature_releases {v : Vault} {w : Wallet}
    (hcovers : ∀ l : Lock, (l.amount v : Int) ≤ w.held l.column) :
    Releases v (VaultInterestScheduler.matureMovements v w) := by
  have hprincipal : (v.amountLocked : Int) ≤ w.lockedAmount := hcovers .principal
  have hinterest : (v.totalGain : Int) ≤ w.totalLockedInterest := hcovers .interest
  intro l k
  cases l <;> simp [VaultInterestScheduler.matureMovements, Movement.heldShift, Lock.column,
    Lock.amount, dropTo_of_le hprincipal, dropTo_of_le hinterest]

theorem locksMatch_payout {vaultId : VaultId} {v : Vault} {status : VaultStatus}
    (hL : L.LocksMatch) (hv : L.vaults.lookup vaultId = some v) (hactive : v.status = .ACTIVE)
    (hstatus : status ≠ .ACTIVE) (hvaults : (op.step L).vaults =
      L.vaults.modify vaultId (fun v => { v with status := status }))
    (hmoved : Releases v (op.moved L)) : (op.step L).LocksMatch := by
  intro l k
  rw [step_held (column_ne_collateral l), hmoved, hL, Ledger.lockedInVaults_close hstatus hvaults]
  simp only [Ledger.lockedBy, hv, Option.elim_some, Vault.locks, hactive, true_and]
  split <;> omega

theorem locksMatch_unlock {cache : ConvertCurrency.DefaultNetworkCache} {userId : UserId}
    {vaultId : VaultId} {early : Bool} (hop : op = .unlockVault cache userId vaultId early)
    (hL : L.LocksMatch) : (op.step L).LocksMatch := by
  have hblock : op.block = (fun r => VaultService.unlockMovements early r.1 r.2) <$>
      VaultService.unlockBlock cache userId vaultId early := by
    rw [hop]
    rfl
  rcases step_cases hblock L with ⟨hsame, -⟩ | ⟨r, hr, hmoved⟩
  · rw [hsame]
    exact hL
  · obtain ⟨hv, hactive, hw, hvaults⟩ := VaultService.unlockBlock_vaults hr
    refine locksMatch_payout hL hv hactive ?_ hvaults ?_
    · split <;> decide
    · rw [hmoved]
      exact unlock_releases (held_covers hL hv hactive hw)

theorem locksMatch_mature {cache : ConvertCurrency.DefaultNetworkCache} {vaultId : VaultId}
    {due : Bool} (hop : op = .matureVault cache vaultId due) (hL : L.LocksMatch) :
    (op.step L).LocksMatch := by
  have hblock : op.block = (fun r => r.elim [] (fun p =>
      VaultInterestScheduler.matureMovements p.1 p.2)) <$>
        VaultInterestScheduler.matureBlock cache vaultId due := by
    rw [hop]
    rfl
  rcases step_cases hblock L with ⟨hsame, -⟩ | ⟨r, hr, hmoved⟩
  · rw [hsame]
    exact hL
  · rcases VaultInterestScheduler.matureBlock_vaults hr with ⟨-, hsame⟩ | ⟨hsome, hvaults⟩
    · rw [hsame]
      exact hL
    · obtain ⟨⟨v, w⟩, rfl⟩ := Option.isSome_iff_exists.mp hsome
      obtain ⟨hv, hactive, hw⟩ := VaultInterestScheduler.matureBlock_found hr
      refine locksMatch_payout hL hv hactive (by decide) hvaults ?_
      rw [hmoved]
      exact mature_releases (held_covers hL hv hactive hw)

/-! ### Activation by a completed swap -/

/-- An activation locks in one wallet what the activated vault locks, exactly when the vault had
nothing locked before and the wallet is its owner's, or there is nothing to lock. -/
theorem activation_matches_iff {userId : UserId} {v : Vault} {expected gain : Nat}
    (feeUnits : Nat) :
    (∀ (l : Lock) k, (if (userId, Currency.usdt) = k then
        (l.amount (SwapWebhook.activatedVault expected gain feeUnits v) : Int) else 0) =
          (SwapWebhook.activatedVault expected gain feeUnits v).locks l k - v.locks l k) ↔
      (∀ l k, v.locks l k = 0) ∧ (v.userId = userId ∨ (expected = 0 ∧ gain = 0)) := by
  have hactivated (l : Lock) (k : WalletKey) :
      (SwapWebhook.activatedVault expected gain feeUnits v).locks l k =
        if (v.userId, Currency.usdt) = k then
          (l.amount (SwapWebhook.activatedVault expected gain feeUnits v) : Int) else 0 := by
    simp [Vault.locks, SwapWebhook.activatedVault, Vault.walletKey]
  constructor
  · intro h
    by_cases howner : v.userId = userId
    · refine ⟨fun l k => ?_, .inl howner⟩
      have hlk := h l k
      rw [hactivated, howner] at hlk
      omega
    · have hzero (l : Lock) :
          l.amount (SwapWebhook.activatedVault expected gain feeUnits v) = 0 := by
        have hlk := h l (userId, .usdt)
        have hpos := v.locks_nonneg l (userId, .usdt)
        rw [hactivated] at hlk
        simp only [if_true, Prod.mk.injEq, howner, and_true, if_false] at hlk
        omega
      refine ⟨fun l k => ?_, .inr ⟨hzero .principal, hzero .interest⟩⟩
      have hlk := h l k
      rw [hactivated, hzero] at hlk
      simp only [Nat.cast_zero, ite_self] at hlk
      omega
  · intro h l k
    rw [hactivated, h.1 l k]
    rcases h.2 with howner | hzero
    · rw [howner]
      omega
    · cases l <;> simp [Lock.amount, SwapWebhook.activatedVault, hzero.1, hzero.2]

theorem heldShifts_activated (userId : UserId) (v : Vault)
    (received charged expected gain feeUnits : Nat) (l : Lock) (k : WalletKey) :
    heldShifts l.column k
        (SwapWebhook.vaultMovements userId received (.activated charged expected gain)) =
      if (userId, Currency.usdt) = k then
        (l.amount (SwapWebhook.activatedVault expected gain feeUnits v) : Int) else 0 := by
  cases l <;> simp [SwapWebhook.vaultMovements, Movement.heldShift, Lock.column, Lock.amount,
    SwapWebhook.activatedVault]

theorem locksMatch_completeVaultSwap_iff {cache : ConvertCurrency.DefaultNetworkCache}
    {swapRecordId : SwapRecordId} {swap : SwapTransaction} {vaultId : VaultId}
    {swapId : Reference} {received durationDays feeUnits : Nat}
    (hop : op = .completeVaultSwap cache swapRecordId swap vaultId swapId received durationDays
      feeUnits) (hL : L.LocksMatch) :
    (op.step L).LocksMatch ↔ op.step L = L ∨ (L.Unlocked vaultId ∧ ∀ v,
      L.vaults.lookup vaultId = some v →
        SwapWebhook.OwnerLocked swap v received durationDays) := by
  have hblock : op.block = SwapWebhook.vaultMovements swap.userId received <$>
      SwapWebhook.vaultCompleteBlock cache swapRecordId swap vaultId swapId received durationDays
        feeUnits := by
    rw [hop]
    rfl
  refine holds_iff_of_unchanged (P := Ledger.LocksMatch) hL ?_
  rcases step_cases hblock L with ⟨hsame, -⟩ | ⟨done, hdone, hmoved⟩
  · exact .inl hsame
  · rcases SwapWebhook.vaultCompleteBlock_vaults hdone with
      ⟨-, hsame⟩ | ⟨v, hv, ⟨rfl, hshort, hvaults⟩ | ⟨charged, rfl, hcovered, hvaults⟩⟩
    · exact .inl hsame.symm
    · right
      have howner : ∀ v, L.vaults.lookup vaultId = some v →
          SwapWebhook.OwnerLocked swap v received durationDays := by
        intro v' hv' hle
        rw [hv] at hv'
        cases hv'
        omega
      rw [Ledger.locksMatch_close_iff hL
        (fun l k => by rw [step_held (column_ne_collateral l), hmoved]; exact Int.add_zero _)
        (by decide) hvaults]
      exact ⟨fun h => ⟨h, howner⟩, fun h => h.1⟩
    · right
      have hcond : (L.Unlocked vaultId ∧ ∀ v, L.vaults.lookup vaultId = some v →
          SwapWebhook.OwnerLocked swap v received durationDays) ↔
          (∀ l k, v.locks l k = 0) ∧ (v.userId = swap.userId ∨
            (SwapWebhook.expectedUsdt swap v = 0 ∧ Vault.gain (SwapWebhook.expectedUsdt swap v)
              v.interestRatePerAnum durationDays = 0)) := by
        rw [Ledger.unlocked_iff]
        simp [Ledger.lockedBy, hv, SwapWebhook.OwnerLocked, hcovered]
      rw [hcond, ← activation_matches_iff feeUnits]
      refine forall_congr' fun l => forall_congr' fun k => ?_
      rw [step_held (column_ne_collateral l), hmoved, heldShifts_activated _ v _ _ _ _ feeUnits, hL,
        Ledger.lockedInVaults_modify hvaults hv]
      omega

end Operation

/-- One operation keeps the locked columns and the vaults in step exactly when it changes nothing
or spares the locks. -/
theorem Operation.step_locksMatch_iff {op : Operation} {L : Ledger} (hL : L.LocksMatch) :
    (op.step L).LocksMatch ↔ op.step L = L ∨ op.SparesLocks L := by
  have hkeeps (h : (op.step L).LocksMatch) :
      (op.step L).LocksMatch ↔ op.step L = L ∨ True := by simp [h]
  cases op with
  | confirmBtcVault => exact locksMatch_confirmBtc_iff rfl hL
  | confirmStableVault => exact locksMatch_confirmStable_iff rfl hL
  | vaultExchangeFailed =>
    exact locksMatch_close_iff rfl (by decide)
      (fun _ _ h => .inr (VaultService.exchangeFailedBlock_effect h).2.2.2) hL
  | cancelVault =>
    exact locksMatch_close_iff rfl (by decide)
      (fun _ _ h => .inr (VaultService.cancelBlock_vaults h)) hL
  | failVaultSwap =>
    exact locksMatch_close_iff rfl (by decide)
      (fun _ _ h => SwapWebhook.vaultFailureBlock_vaults h) hL
  | completeVaultSwap => exact locksMatch_completeVaultSwap_iff rfl hL
  | unlockVault => exact hkeeps (locksMatch_unlock rfl hL)
  | matureVault => exact hkeeps (locksMatch_mature rfl hL)
  | confirmBuy =>
    refine hkeeps (locksMatch_of_neutral rfl ?_ hL)
    exact (BuyService.confirmBlock_products _ _).vaults
  | failBuy =>
    refine hkeeps (locksMatch_of_neutral rfl ?_ hL)
    exact (OrderDone.buyFailureBlock_products _ _ _).vaults
  | confirmSell =>
    refine hkeeps (locksMatch_of_neutral rfl ?_ hL)
    exact (SellService.confirmBlock_products _ _).vaults
  | queueSell =>
    refine hkeeps (locksMatch_of_neutral rfl ?_ hL)
    exact (SellService.paystackShortBlock_products _ _).vaults
  | rejectSell =>
    refine hkeeps (locksMatch_of_neutral rfl ?_ hL)
    exact (SellService.rejectedBlock_products _ _).vaults
  | recordSell => exact hkeeps (locksMatch_of_neutral rfl (keeps_update fun _ => rfl) hL)
  | failOrder =>
    refine hkeeps (locksMatch_of_neutral rfl ?_ hL)
    exact (OrderDone.failOrderBlock_products _ _ _ _ _).vaults
  | missingBankDetails =>
    refine hkeeps (locksMatch_of_neutral rfl ?_ hL)
    exact (OrderDone.missingBankDetailsBlock_products _ _ _ _).vaults
  | addProceeds =>
    refine hkeeps (locksMatch_of_neutral rfl ?_ hL)
    exact (OrderDone.proceedsBlock_products _ _ _).vaults
  | payoutInitiated =>
    refine hkeeps (locksMatch_of_neutral rfl ?_ hL)
    exact (OrderDone.payoutInitiatedBlock_products _ _ _ _).vaults
  | payoutFailed =>
    refine hkeeps (locksMatch_of_neutral rfl ?_ hL)
    exact (OrderDone.payoutFailedBlock_products _ _).vaults
  | transferFailure =>
    refine hkeeps (locksMatch_of_neutral rfl ?_ hL)
    exact (PayoutStatus.transferFailureBlock_products _ _).vaults
  | loanSaleFailed =>
    refine hkeeps (locksMatch_of_neutral rfl ?_ hL)
    exact (UrgentLiquidity.saleFailedBlock_products _).vaults
  | loanTransferSuccess =>
    refine hkeeps (locksMatch_of_neutral rfl ?_ hL)
    exact (PayoutStatus.loanTransferSuccessBlock_products _).vaults
  | loanTransferFailure =>
    refine hkeeps (locksMatch_of_neutral rfl ?_ hL)
    exact (PayoutStatus.loanTransferFailureBlock_products _).vaults
  | confirmSend =>
    refine hkeeps (locksMatch_of_neutral rfl ?_ hL)
    exact (WithdrawalService.confirmBlock_products _ _ _).vaults
  | recordSend =>
    refine hkeeps (locksMatch_of_neutral rfl ?_ hL)
    exact (WithdrawalService.recordBlock_products _ _ _).vaults
  | compensateSend =>
    refine hkeeps (locksMatch_of_neutral rfl ?_ hL)
    exact (WithdrawalService.compensateBlock_products _ _ _).vaults
  | cancelWithdrawal =>
    refine hkeeps (locksMatch_of_neutral rfl ?_ hL)
    exact (WithdrawalService.cancelBlock_products _ _ _ _).vaults
  | failWithdrawal => exact hkeeps (locksMatch_of_neutral rfl (keeps_update fun _ => rfl) hL)
  | expire =>
    refine hkeeps (locksMatch_of_neutral rfl ?_ hL)
    exact (FailedCompanyLiquidity.expireBlock_products _ _).vaults
  | deleteRecord =>
    refine hkeeps (locksMatch_of_neutral rfl ?_ hL)
    exact (FailedCompanyLiquidity.deleteRecord_products _).vaults
  | reserveCompany =>
    refine hkeeps (locksMatch_of_neutral rfl ?_ hL)
    exact (reserveLiquidity_onBalances _ _).products.vaults
  | releaseCompany =>
    refine hkeeps (locksMatch_of_neutral rfl ?_ hL)
    exact (releaseLiquidity_onBalances _ _).products.vaults
  | resumeSell =>
    refine hkeeps (locksMatch_of_neutral rfl ?_ hL)
    exact (FailedCompanyLiquidity.resumeSellBlock_products _ _).vaults
  | resumeSwap => exact hkeeps (locksMatch_of_neutral rfl (keeps_update fun _ => rfl) hL)
  | resumeWithdrawal =>
    refine hkeeps (locksMatch_of_neutral rfl ?_ hL)
    exact (FailedCompanyLiquidity.resumeWithdrawalBlock_products _ _ _).vaults
  | resumeBuy => exact hkeeps (locksMatch_of_neutral rfl (keeps_update fun _ => rfl) hL)
  | confirmSwap =>
    refine hkeeps (locksMatch_of_neutral rfl ?_ hL)
    exact (SwapService.confirmBlock_products _ _).vaults
  | releaseSwap =>
    refine hkeeps (locksMatch_of_neutral rfl ?_ hL)
    exact (SwapService.releaseBlock_products _ _).vaults
  | recordSwap =>
    refine hkeeps (locksMatch_of_neutral rfl ?_ hL)
    exact (SwapService.recordBlock_products _ _ _ _ _).vaults
  | failSwap =>
    refine hkeeps (locksMatch_of_neutral rfl ?_ hL)
    exact (SwapWebhook.failureBlock_products _ _).vaults
  | recordVaultSwap =>
    refine hkeeps (locksMatch_of_neutral rfl ?_ hL)
    exact (VaultService.recordSwapBlock_products _ _ _ _).vaults
  | reserveStack =>
    refine hkeeps (locksMatch_of_neutral rfl ?_ hL)
    exact (AutoStackService.reserveBlock_products _ _).vaults
  | reserveCardStack =>
    refine hkeeps (locksMatch_of_neutral rfl ?_ hL)
    exact (AutoStackService.reserveCardBlock_products _ _ _ _).vaults
  | submitStack => exact hkeeps (locksMatch_of_neutral rfl ((createSwap_products _ _).vaults) hL)
  | failStack =>
    refine hkeeps (locksMatch_of_neutral rfl ?_ hL)
    exact (AutoStackService.failBlock_products _).vaults
  | cancelStack =>
    exact hkeeps (locksMatch_of_neutral rfl (AutoStackService.cancelBlock_vaults _ _) hL)
  | settleBuy =>
    refine hkeeps (locksMatch_of_report rfl (OrderDone.buyBlock_vaults _ _ _ _ _ _ _)
      (fun done l k => ?_) hL)
    cases done with
    | false => rfl
    | true =>
      simp only [OrderDone.buyMovements, if_true]
      split <;> cases l <;> simp [Movement.heldShift, Lock.column]
  | transferSuccess =>
    refine hkeeps (locksMatch_of_report rfl
      (PayoutStatus.transferSuccessBlock_products _ _ _).vaults (fun _ l k => ?_) hL)
    simp [PayoutStatus.payoutMovements, Movement.heldShift]
  | deposit =>
    refine hkeeps (locksMatch_of_report rfl
      (DepositSuccessful.depositBlock_products _ _ _).vaults (fun done l k => ?_) hL)
    cases done <;> simp [DepositSuccessful.depositMovements, Movement.heldShift]
  | loanPayout =>
    refine hkeeps (locksMatch_of_report rfl
      (UrgentLiquidity.payoutBlock_products _ _ _ _).vaults (fun paid l k => ?_) hL)
    cases paid <;> simp [UrgentLiquidity.payoutMovements, Movement.heldShift]
  | settleWithdrawal cache event =>
    refine hkeeps (locksMatch_of_report rfl
      (WithdrawalWebhook.settleBlock_products _ _ _ _ _ _ _).vaults (fun _ l k => ?_) hL)
    cases event <;> simp [WithdrawalWebhook.settleMovements, Movement.heldShift]
  | completeSwap =>
    refine hkeeps (locksMatch_of_report rfl (SwapWebhook.completeBlock_vaults _ _ _ _ _ _ _)
      (fun done l k => ?_) hL)
    cases done <;> cases l <;>
      simp [SwapWebhook.completeMovements, Movement.heldShift, Lock.column]
  | executeUsdtStack =>
    refine hkeeps (locksMatch_of_report rfl (AutoStackService.executeUsdtBlock_vaults _ _ _ _)
      (fun _ l k => ?_) hL)
    cases l <;> simp [AutoStackService.executeUsdtMovements, Movement.heldShift, Lock.column]
  | unlockStack =>
    refine hkeeps (locksMatch_of_report rfl (AutoStackService.unlockBlock_vaults _ _ _ _)
      (fun _ l k => ?_) hL)
    cases l <;> simp [AutoStackService.unlockMovements, Movement.heldShift, Lock.column]
  | accrueStack =>
    refine hkeeps (locksMatch_of_report rfl (AutoStackService.accrueBlock_vaults _ _ _ _ _)
      (fun r l k => ?_) hL)
    unfold AutoStackService.accrueMovements
    split <;> cases l <;> simp [Movement.heldShift, Lock.column]

/-- The locked columns of every wallet stay the sums over its ACTIVE vaults throughout a run exactly
when each operation of the run that changes anything spares the locks. -/
theorem locked_funds_match_iff {L : Ledger} (hL : L.LocksMatch) (ops : List Operation) :
    Run.Throughout Operation.step Ledger.LocksMatch L ops ↔
      Run.Along Operation.step (fun M op => op.step M = M ∨ op.SparesLocks M) L ops :=
  Run.throughout_iff_along (fun _ _ hM => Operation.step_locksMatch_iff hM) hL

/-- User 1's wallets, with 200 units of other reservations, and the company's rows. -/
def beforeBtcVault : Ledger :=
  { Ledger.empty with
    wallets := ((∅ : Table WalletKey Wallet).insert (1, .btc) { Wallet.empty with
      currencyId := some .btc, baseBalance := 1000, reservedBalance := 200 }).insert (1, .usdt)
        { Wallet.empty with currencyId := some .usdt }
    companyLiquidity := ((∅ : Table Currency CompanyLiquidity).insert .btc
      { CompanyLiquidity.empty with internalBalance := 1000 }).insert .usdt
        { CompanyLiquidity.empty with totalBalance := 500, reservedBalance := 120 } }

def btcVaultQuote : VaultService.Confirm where
  userId := 1
  currency := .btc
  quoteId := 5
  principal := 100
  bufferAmount := 10
  interestRatePerAnum := ⟨10, 0⟩
  expectedInterest := 0
  transactionFee := 0
  amountToReceive := 100

def recordedVaultSwap : SwapTransaction :=
  { btcVaultQuote.swap 1 with swapId := some 7, toAmountOriginal := some 60 }

/-- The vault is confirmed, its swap recorded and completed. -/
def activateBtcVault : List Operation :=
  [.confirmBtcVault btcVaultQuote true 1 1 1, .recordVaultSwap 1 1 7 60,
    .completeVaultSwap (fun _ => none) 1 recordedVaultSwap 1 7 60 365 0]

theorem beforeBtcVault_locksMatch : beforeBtcVault.LocksMatch := by
  intro l k
  have hheld : beforeBtcVault.toBooks.held l.column k = 0 := by
    simp only [Books.held, beforeBtcVault, Table.lookup_insert]
    cases l <;> split <;> (try split) <;> rfl
  rw [hheld]
  rfl

/-- A cancellation that found the vault PENDING, before its swap was completed, leaves 60 units of
USDT locked in the wallet without a vault. -/
theorem late_cancel_leaves_funds_locked :
    Run.Throughout Operation.step Ledger.LocksMatch beforeBtcVault activateBtcVault ∧
      ¬ Run.Throughout Operation.step Ledger.LocksMatch beforeBtcVault (activateBtcVault ++
        [.cancelVault 1 btcVaultQuote.vault (some recordedVaultSwap)]) := by
  constructor
  · have hpending : ((Run.final Operation.step beforeBtcVault
        (activateBtcVault.take 2)).vaults.lookup 1).map (fun v => (v.userId, v.status)) =
          some (1, .PENDING) := by decide +kernel
    obtain ⟨v, hv, hrow⟩ := Option.map_eq_some_iff.mp hpending
    simp only [Prod.mk.injEq] at hrow
    refine (locked_funds_match_iff beforeBtcVault_locksMatch _).mpr
      ⟨.inr (.inl rfl), .inr trivial, .inr ⟨?_, ?_⟩, trivial⟩
    · intro v' hv' hactive
      have heq : v' = v := Option.some.inj (hv'.symm.trans hv)
      rw [heq, hrow.2] at hactive
      cases hactive
    · intro v' hv' _
      have heq : v' = v := Option.some.inj (hv'.symm.trans hv)
      rw [heq]
      exact .inl hrow.1
  · intro h
    have hlast := h.last .principal (1, .usdt)
    revert hlast
    decide +kernel

end ExchangeLedger
