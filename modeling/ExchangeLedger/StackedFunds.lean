import ExchangeLedger.LockedFunds

set_option autoImplicit false

/-! The stacked column of the wallets over whole runs, against the ACTIVE stacks it stands for. -/

namespace ExchangeLedger

open Block

/-- What a stack holds in a wallet: only an ACTIVE stack does, in its owner's USDT wallet. -/
def AutoStack.holds (k : WalletKey) (s : AutoStack) : Int :=
  if s.status = .ACTIVE ∧ (s.userId, Currency.usdt) = k then s.amount else 0

namespace Ledger

def stackedInStacks (L : Ledger) (k : WalletKey) : Int :=
  L.autoStacks.total (fun _ s => s.holds k)

def stackedBy (L : Ledger) (id : AutoStackId) (k : WalletKey) : Int :=
  (L.autoStacks.lookup id).elim 0 (AutoStack.holds k)

/-- The stacked column of every wallet is what its owner's ACTIVE stacks hold. -/
def StacksMatch (L : Ledger) : Prop :=
  ∀ k, L.toBooks.held .stackedAmount k = L.stackedInStacks k

end Ledger

section

variable {L M : Ledger} {k : WalletKey} {id : AutoStackId} {s : AutoStack}

theorem AutoStack.holds_nonneg (k : WalletKey) (s : AutoStack) : 0 ≤ s.holds k := by
  unfold holds
  split <;> omega

theorem Ledger.stackedBy_nonneg (L : Ledger) (id : AutoStackId) (k : WalletKey) :
    0 ≤ L.stackedBy id k := by
  unfold stackedBy
  cases L.autoStacks.lookup id with
  | none => simp
  | some s => exact s.holds_nonneg k

theorem Ledger.stackedBy_le (L : Ledger) (id : AutoStackId) (k : WalletKey) :
    L.stackedBy id k ≤ L.stackedInStacks k := by
  have hle := Table.total_add_le (f := fun _ s => AutoStack.holds k s) (g := fun _ _ => 0)
    (k := id) (fun _ s _ => s.holds_nonneg k) L.autoStacks
  unfold stackedBy stackedInStacks
  cases hs : L.autoStacks.lookup id with
  | none => simpa [hs] using hle
  | some s => simpa [hs] using hle

/-- What a rewritten row adds to what the stacks hold. -/
def stackChange (row : Option AutoStack) (f : AutoStack → AutoStack) (k : WalletKey) : Int :=
  row.elim 0 (fun s => (f s).holds k - s.holds k)

theorem Ledger.stackedInStacks_modify {f : AutoStack → AutoStack}
    (h : M.autoStacks = L.autoStacks.modify id f) :
    M.stackedInStacks k = L.stackedInStacks k + stackChange (L.autoStacks.lookup id) f k := by
  rw [stackedInStacks, h, Table.total_modify]
  rfl

end

/-! ### A stack that takes up an amount -/

namespace AutoStack

def isPending (s : AutoStack) : Bool := s.status = .PENDING

/-- The row after an execution: its first amount replaces what was there. -/
def grown (initial : AutoStack → Bool) (n : Nat) (s : AutoStack) : AutoStack :=
  { s with amount := if initial s then n else s.amount + n, status := .ACTIVE }

end AutoStack

/-- The row takes up what the wallet `j` does: it is taken for the first execution of the stack
exactly when the stack is not ACTIVE, and the wallet is its owner's. -/
def Takes (row : Option AutoStack) (initial : AutoStack → Bool) (n : Nat) (j : WalletKey) : Prop :=
  (∀ s, row = some s → s.amount = 0 ∨ (s.status = .ACTIVE ↔ initial s = false)) ∧
    (n = 0 ∨ ∃ s, row = some s ∧ (s.userId, Currency.usdt) = j)

theorem single_eq_iff {a b : Int} {i j : WalletKey} :
    (∀ k, (if j = k then a else 0) = if i = k then b else 0) ↔ a = b ∧ (a = 0 ∨ i = j) := by
  by_cases hij : i = j
  · subst hij
    simp only [or_true, and_true]
    constructor
    · intro h
      simpa using h i
    · intro h k
      rw [h]
  · simp only [hij, or_false]
    constructor
    · intro h
      have hi := h i
      have hj := h j
      simp only [if_true, hij, Ne.symm hij, if_false] at hi hj
      omega
    · intro h k
      simp [← h.1, h.2]

theorem AutoStack.holds_grown (initial : AutoStack → Bool) (n : Nat) (s : AutoStack)
    (k : WalletKey) : (s.grown initial n).holds k - s.holds k =
      if (s.userId, Currency.usdt) = k then
        (if initial s then (n : Int) else s.amount + n) -
          (if s.status = .ACTIVE then (s.amount : Int) else 0)
      else 0 := by
  by_cases hk : (s.userId, Currency.usdt) = k <;> simp [grown, holds, hk]

theorem takes_iff {row : Option AutoStack} {initial : AutoStack → Bool} {n : Nat} {j : WalletKey} :
    (∀ k, (if j = k then (n : Int) else 0) = stackChange row (AutoStack.grown initial n) k) ↔
      Takes row initial n j := by
  cases row with
  | none => simp [stackChange, Takes]
  | some s =>
    simp only [stackChange, Option.elim_some, AutoStack.holds_grown, single_eq_iff, Takes,
      Option.some.injEq, forall_eq', exists_eq_left']
    have hamounts : (n : Int) = (if initial s then (n : Int) else s.amount + n) -
        (if s.status = .ACTIVE then (s.amount : Int) else 0) ↔
          s.amount = 0 ∨ (s.status = .ACTIVE ↔ initial s = false) := by
      cases initial s <;> by_cases hactive : s.status = .ACTIVE <;> simp [hactive]
      omega
    rw [hamounts, Nat.cast_eq_zero]

/-! ### What the blocks of the stacks do to them -/

theorem OrderDone.growAutoStack_commits {autoStackId : Option AutoStackId} {n : Nat}
    {L M : Ledger} {u : Unit} (h : (growAutoStack autoStackId n).Commits L u M) (k : WalletKey) :
    M.stackedInStacks k = L.stackedInStacks k +
      stackChange (autoStackId.bind L.autoStacks.lookup) (AutoStack.grown AutoStack.isPending n)
        k := by
  cases autoStackId with
  | none =>
    obtain ⟨-, rfl⟩ := commits_pure.mp h
    simp [stackChange]
  | some a =>
    have hgrown : AutoStack.grown AutoStack.isPending n = fun s => { s with
        amount := if s.status = .PENDING then n else s.amount + n, status := .ACTIVE } := by
      funext s
      simp [AutoStack.grown, AutoStack.isPending]
    have hM : M.autoStacks = L.autoStacks.modify a (AutoStack.grown AutoStack.isPending n) := by
      rw [← commits_update.mp h, hgrown]
    exact Ledger.stackedInStacks_modify hM

theorem KeepsStacks.stackedInStacks {α : Type} {x : LedgerBlock α} (hx : KeepsStacks x)
    {L M : Ledger} {a : α} (h : x.Commits L a M) (k : WalletKey) :
    M.stackedInStacks k = L.stackedInStacks k := by
  unfold Ledger.stackedInStacks
  rw [hx L a M h]

namespace OrderDone

theorem buyBlock_stacks {cache : ConvertCurrency.DefaultNetworkCache} {crypto fiat : Currency}
    {id : TransactionId} {transaction : Transaction} {executedCrypto executedFiat : Nat}
    {L M : Ledger} {done : Bool}
    (h : (buyBlock cache crypto fiat id transaction executedCrypto executedFiat).Commits L done M) :
    (done = false ∧ L = M) ∨ (done = true ∧ ∀ k, M.stackedInStacks k = L.stackedInStacks k +
      if transaction.transactionContext = .AUTOSTACK then
        stackChange (transaction.paymentMetadata.autoStackId.bind L.autoStacks.lookup)
          (AutoStack.grown AutoStack.isPending executedCrypto) k
      else 0) := by
  simp only [buyBlock, commits_read_bind] at h
  split at h
  · obtain ⟨rfl, rfl⟩ := commits_pure.mp h
    exact .inl ⟨rfl, rfl⟩
  · right
    simp only [updateTransaction, updateOrder, commits_update_bind] at h
    obtain ⟨_, A, hconsume, h⟩ := commits_bind.mp h
    have hA := (consumeForBuy_products _ _ _).autoStacks _ _ _ hconsume
    split at h
    · rename_i hstack
      simp only [commits_bind, commits_pure] at h
      obtain ⟨_, B, hhold, _, C, hgrow, _, D, hadd, _, E, hshift, rfl, rfl⟩ := h
      refine ⟨rfl, fun k => ?_⟩
      rw [if_pos hstack]
      have hB := (mustUpdateWallet_onBalances _ _ _ _).products.autoStacks _ _ _ hhold
      rw [(updateCompany_onBalances _ _ _).products.autoStacks.stackedInStacks hshift,
        (addInternalBalance_onBalances _ _).products.autoStacks.stackedInStacks hadd,
        growAutoStack_commits hgrow, hB, hA]
      simp only [Ledger.stackedInStacks, hB, hA]
    · rename_i hstack
      simp only [commits_bind, commits_pure] at h
      obtain ⟨_, B, hcredit, _, C, hrestate, _, D, hadd, rfl, rfl⟩ := h
      refine ⟨rfl, fun k => ?_⟩
      rw [if_neg hstack,
        (addInternalBalance_onBalances _ _).products.autoStacks.stackedInStacks hadd,
        (restateOriginalBalance_onBalances _ _ _).products.autoStacks.stackedInStacks hrestate,
        (mustUpdateWallet_onBalances _ _ _ _).products.autoStacks.stackedInStacks hcredit]
      simp only [Ledger.stackedInStacks, hA]
      omega

end OrderDone

namespace AutoStackService

theorem executeUsdtBlock_stacks {cache : ConvertCurrency.DefaultNetworkCache} {x : Execution}
    {metadata : PaymentMetadata} {initial : Bool} {L M : Ledger} {u : Unit}
    (h : (executeUsdtBlock cache x metadata initial).Commits L u M) :
    M.autoStacks = L.autoStacks.modify x.autoStackId
      (AutoStack.grown (fun _ => initial) x.sourceAmount) := by
  simp only [executeUsdtBlock, commits_read_bind, commits_require_bind] at h
  obtain ⟨-, h⟩ := h
  simp only [commits_bind, updateAutoStack, updateTransaction, commits_update] at h
  obtain ⟨_, A, hspend, _, B, hhold, _, C, hrestate, _, D, hshift, _, _, rfl, rfl⟩ := h
  have hA := (mustUpdateWallet_onBalances _ _ _ _).products.autoStacks _ _ _ hspend
  have hB := (mustUpdateWallet_onBalances _ _ _ _).products.autoStacks _ _ _ hhold
  have hC := (restateOriginalBalance_onBalances _ _ _).products.autoStacks _ _ _ hrestate
  have hD := (updateCompany_onBalances _ _ _).products.autoStacks _ _ _ hshift
  rw [hD, hC, hB, hA]
  rfl

theorem cancelBlock_stacks {x : Execution} {metadata : PaymentMetadata} {L M : Ledger} {u : Unit}
    (h : (cancelBlock x metadata).Commits L u M) :
    M.autoStacks = L.autoStacks.modify x.autoStackId (fun s => { s with status := .ENDED }) := by
  simp only [cancelBlock, commits_bind, updateAutoStack, updateTransaction, commits_update] at h
  obtain ⟨_, A, hcompany, _, B, hwallet, _, _, rfl, rfl⟩ := h
  have hA := (keeps_onlyIf (releaseLiquidity_onBalances _ _).products.autoStacks) _ _ _ hcompany
  have hB := (keeps_onlyIf (releaseBalance_onBalances _ _ _ _).products.autoStacks) _ _ _ hwallet
  rw [hB, hA]

theorem unlockBlock_stacks {cache : ConvertCurrency.DefaultNetworkCache} {id : AutoStackId}
    {stack : AutoStack} {early : Bool} {L M : Ledger} {w : Wallet}
    (h : (unlockBlock cache id stack early).Commits L w M) :
    L.wallets.lookup (stack.userId, .usdt) = some w ∧
      M.autoStacks = L.autoStacks.modify id (fun s => { s with status := .ENDED }) := by
  simp only [unlockBlock, commits_read_bind, commits_demand_bind] at h
  obtain ⟨v, hv, h⟩ := h
  simp only [commits_bind, updateAutoStack, commits_update, commits_pure] at h
  obtain ⟨_, A, hcredit, _, B, hstacked, _, C, hinterest, _, D, hrestate, _, _, rfl, _, E, hamount,
    _, F, haccrued, _, G, hpaid, rfl, rfl⟩ := h
  have hA := (mustUpdateWallet_onBalances _ _ _ _).products.autoStacks _ _ _ hcredit
  have hB := (mustUpdateWallet_onBalances _ _ _ _).products.autoStacks _ _ _ hstacked
  have hC := (mustUpdateWallet_onBalances _ _ _ _).products.autoStacks _ _ _ hinterest
  have hD := (restateOriginalBalance_onBalances _ _ _).products.autoStacks _ _ _ hrestate
  have hE := (updateCompany_onBalances _ _ _).products.autoStacks _ _ _ hamount
  have hF := (updateCompany_onBalances _ _ _).products.autoStacks _ _ _ haccrued
  have hG := (updateCompany_onBalances _ _ _).products.autoStacks _ _ _ hpaid
  exact ⟨(Option.filter_eq_some_iff.mp hv).1, by rw [hG, hF, hE, hD, hC, hB, hA]⟩

theorem accrueBlock_stacks {id : AutoStackId} {userId : UserId} {due : Bool} {dailyRate : Decimal}
    {days : Nat} {L M : Ledger} {r : Option (Nat × Bool)}
    (h : (accrueBlock id userId due dailyRate days).Commits L r M) (k : WalletKey) :
    M.stackedInStacks k = L.stackedInStacks k := by
  simp only [accrueBlock, commits_read_bind] at h
  split at h
  · obtain ⟨-, rfl⟩ := commits_pure.mp h
    rfl
  · rename_i fresh hfresh
    obtain ⟨_, A, hupdate, h⟩ := commits_bind.mp h
    have hrest : KeepsStacks (do
        let wallet ← read (usdtWallet userId)
        if wallet.isSome then
          holdWallet (userId, .usdt) .totalStackedInterest (interest fresh.amount dailyRate days)
            (.thrown "wallet not found")
          let _ ← shiftCompany .usdt .totalAccruedLockedInterest
            (interest fresh.amount dailyRate days)
          return some (interest fresh.amount dailyRate days, true)
        else
          let _ ← shiftCompany .usdt .totalAccruedLockedInterest
            (interest fresh.amount dailyRate days)
          return some (interest fresh.amount dailyRate days, false)) := by
      refine keeps_bind (keeps_read _) fun _ => keeps_ite ?_ ?_
      · refine keeps_bind (mustUpdateWallet_onBalances _ _ _ _).products.autoStacks fun _ => ?_
        exact keeps_bind (updateCompany_onBalances _ _ _).products.autoStacks fun _ =>
          keeps_pure _
      · exact keeps_bind (updateCompany_onBalances _ _ _).products.autoStacks fun _ =>
          keeps_pure _
    rw [hrest.stackedInStacks h]
    have hA : A.autoStacks = L.autoStacks.modify id (fun s => { s with
        accruedInterest := s.accruedInterest + interest fresh.amount dailyRate days }) := by
      rw [← commits_update.mp hupdate]
    rw [Ledger.stackedInStacks_modify hA]
    unfold stackChange
    cases L.autoStacks.lookup id <;> simp [AutoStack.holds]

end AutoStackService

theorem usdtWallet_isSome (userId : UserId) (L : Ledger) : (usdtWallet userId L).isSome = true ↔
    L.toBooks.spelling (userId, .usdt) = some .upper := by
  unfold usdtWallet Books.spelling
  cases L.wallets.lookup (userId, .usdt) with
  | none => simp
  | some w => by_cases h : w.letterCase = .upper <;> simp [Option.filter, h]

namespace SwapWebhook

/-- The stack of an autostack swap and its owner's USDT wallet are found. -/
def Event.FindsStack (e : Event) (L : Ledger) : Prop :=
  (e.autoStackId.bind L.autoStacks.lookup).isSome = true ∧
    L.toBooks.spelling (e.swap.userId, .usdt) = some .upper

/-- What a completed swap does to the stacks, by its outcome. -/
inductive CompletedStacks (e : Event) (confirmedTo : Nat) (L M : Ledger) : Completion → Prop where
  | skipped : L = M → CompletedStacks e confirmedTo L M .skipped
  | swapped : e.isAutoStackSwap = false → (∀ k, M.stackedInStacks k = L.stackedInStacks k) →
      CompletedStacks e confirmedTo L M .swapped
  | unstacked : e.isAutoStackSwap = true → ¬ e.FindsStack L →
      (∀ k, M.stackedInStacks k = L.stackedInStacks k) →
      CompletedStacks e confirmedTo L M .unstacked
  | stacked : e.isAutoStackSwap = true → e.FindsStack L →
      (∀ k, M.stackedInStacks k = L.stackedInStacks k +
        stackChange (e.autoStackId.bind L.autoStacks.lookup)
          (AutoStack.grown AutoStack.isPending confirmedTo) k) →
      CompletedStacks e confirmedTo L M .stacked

theorem updateLinked_books (e : Event) (f : Transaction → Transaction) :
    Keeps Ledger.toBooks (updateLinked e f) := by
  unfold updateLinked
  split
  · exact keeps_update fun _ => rfl
  · exact keeps_pure ()

theorem stackReceived_stacks {e : Event} {confirmedTo : Nat} {L M : Ledger} {done : Completion}
    (h : (stackReceived e confirmedTo).Commits L done M) :
    (done = .unstacked ∧ ¬ e.FindsStack L ∧ L = M) ∨
      (done = .stacked ∧ e.FindsStack L ∧ ∀ k, M.stackedInStacks k = L.stackedInStacks k +
        stackChange (e.autoStackId.bind L.autoStacks.lookup)
          (AutoStack.grown AutoStack.isPending confirmedTo) k) := by
  simp only [stackReceived, commits_read_bind, usdtWallet_isSome] at h
  split at h
  · rename_i hfinds
    simp only [commits_bind, commits_require, commits_pure] at h
    obtain ⟨_, A, hhold, _, B, hgrow, _, C, hadd, _, D, hshift, _, E, hconsume, _, _, ⟨-, rfl⟩, _,
        F,
      hlinked, rfl, rfl⟩ := h
    have hA := (mustUpdateWallet_onBalances _ _ _ _).products.autoStacks _ _ _ hhold
    refine .inr ⟨rfl, hfinds, fun k => ?_⟩
    rw [(updateLinked_products _ _).autoStacks.stackedInStacks hlinked,
      (updateCompany_onBalances _ _ _).products.autoStacks.stackedInStacks hconsume,
      (updateCompany_onBalances _ _ _).products.autoStacks.stackedInStacks hshift,
      (addInternalBalance_onBalances _ _).products.autoStacks.stackedInStacks hadd,
      OrderDone.growAutoStack_commits hgrow, hA]
    simp only [Ledger.stackedInStacks, hA]
  · rename_i hfinds
    obtain ⟨rfl, rfl⟩ := commits_pure.mp h
    exact .inl ⟨rfl, hfinds, rfl⟩

theorem completeBlock_stacks {cache : ConvertCurrency.DefaultNetworkCache} {e : Event}
    {confirmedFrom confirmedTo : Nat} {creditId : TransactionId} {creditReference : Reference}
    {toNetwork : Option CryptoNetwork} {L M : Ledger} {done : Completion}
    (h : (completeBlock cache e confirmedFrom confirmedTo creditId creditReference
      toNetwork).Commits L done M) : CompletedStacks e confirmedTo L M done := by
  simp only [completeBlock, commits_read_bind] at h
  split at h
  · obtain ⟨rfl, rfl⟩ := commits_pure.mp h
    exact .skipped rfl
  · obtain ⟨_, A, hdebit, h⟩ := commits_bind.mp h
    obtain ⟨_, B, hrestate, h⟩ := commits_bind.mp h
    obtain ⟨_, C, hinternal, h⟩ := commits_bind.mp h
    have hA := (mustUpdateWallet_onBalances _ _ _ _).products.autoStacks _ _ _ hdebit
    have hB := (restateOriginalBalance_onBalances _ _ _).products.autoStacks _ _ _ hrestate
    have hC := (subtractInternalBalance_onBalances _ _).products.autoStacks _ _ _ hinternal
    have hkept : C.autoStacks = L.autoStacks := by rw [hC, hB, hA]
    have hspelling : C.toBooks.spelling = L.toBooks.spelling := by
      have hmoves := ((debitReserved_moves hdebit).trans
        (restateOriginalBalance_moves hrestate)).trans (subtractInternalBalance_moves hinternal)
      exact (Moves.gap hmoves .btc).1
    split at h
    · rename_i hstack
      simp only [commits_bind, updateSwap, commits_update, commits_pure] at h
      obtain ⟨_, D, hlinked, done', E, hreceived, _, _, rfl, rfl, rfl⟩ := h
      have hD : D.autoStacks = L.autoStacks := by
        rw [(updateLinked_products _ _).autoStacks _ _ _ hlinked, hkept]
      have hbooks : D.toBooks = C.toBooks := updateLinked_books _ _ _ _ _ hlinked
      have hfinds : e.FindsStack D ↔ e.FindsStack L := by
        unfold Event.FindsStack
        rw [hD, hbooks, hspelling]
      have hsame (k : WalletKey) : D.stackedInStacks k = L.stackedInStacks k := by
        simp only [Ledger.stackedInStacks, hD]
      rcases stackReceived_stacks hreceived with ⟨rfl, hnone, rfl⟩ | ⟨rfl, hfound, hgrown⟩
      · exact .unstacked hstack (fun hf => hnone (hfinds.mpr hf)) hsame
      · refine .stacked hstack (hfinds.mp hfound) fun k => ?_
        rw [← hsame, ← hD]
        exact hgrown k
    · rename_i hregular
      simp only [commits_bind, updateSwap, commits_update, commits_pure] at h
      obtain ⟨_, D, hcredit, _, E, htext, _, F, hadd, _, G, hlinked, _, _, rfl, _, H, hrecord, _, I,
        hrelease, rfl, rfl⟩ := h
      refine .swapped (by simpa using hregular) fun k => ?_
      have hG : G.autoStacks = L.autoStacks := by
        rw [(updateLinked_products _ _).autoStacks _ _ _ hlinked,
          (addInternalBalance_onBalances _ _).products.autoStacks _ _ _ hadd,
          (restateOriginalBalance_onBalances _ _ _).products.autoStacks _ _ _ htext,
          (mustUpdateWallet_onBalances _ _ _ _).products.autoStacks _ _ _ hcredit, hkept]
      rw [(releaseLiquidity_onBalances _ _).products.autoStacks.stackedInStacks hrelease,
        (recordCredit_products _ _).autoStacks.stackedInStacks hrecord]
      simp only [Ledger.stackedInStacks, hG]

end SwapWebhook

/-! ### One operation -/

/-- What an unlock takes out of the stacked column of the wallet is what the stack holds there, and
it holds nothing elsewhere. -/
def Ledger.UnlocksHeld (L : Ledger) (id : AutoStackId) (stack : AutoStack) : Prop :=
  min (stack.amount : Int) (L.toBooks.held .stackedAmount (stack.userId, .usdt)) =
      L.stackedBy id (stack.userId, .usdt) ∧
    ∀ k, k ≠ (stack.userId, .usdt) → L.stackedBy id k = 0

/-- An operation under which the stacks take up what the wallets do: an execution finds the stack
as it was when it was read, a stack is ended empty or with what is taken out for it. -/
def Operation.SparesStacks (L : Ledger) : Operation → Prop
  | .settleBuy _ crypto _ _ transaction executedCrypto _ =>
    transaction.transactionContext = .AUTOSTACK →
      Takes (transaction.paymentMetadata.autoStackId.bind L.autoStacks.lookup) AutoStack.isPending
        executedCrypto (transaction.userId, crypto)
  | .completeSwap _ e _ confirmedTo _ _ _ => e.isAutoStackSwap = true → e.FindsStack L →
      Takes (e.autoStackId.bind L.autoStacks.lookup) AutoStack.isPending confirmedTo
        (e.swap.userId, .usdt)
  | .executeUsdtStack _ x _ initial =>
    Takes (L.autoStacks.lookup x.autoStackId) (fun _ => initial) x.sourceAmount (x.userId, .usdt)
  | .cancelStack x _ => ∀ k, L.stackedBy x.autoStackId k = 0
  | .unlockStack _ id stack _ => L.UnlocksHeld id stack
  | _ => True

namespace Operation

variable {op : Operation} {L : Ledger} {α : Type} {x : LedgerBlock α}

/-- A step whose stacks change by `change` while its movements shift the wallet `j` by `n`. -/
theorem stacksMatch_iff_shift {change : WalletKey → Int} {n : Int} {j : WalletKey}
    (hL : L.StacksMatch)
    (hstacks : ∀ k, (op.step L).stackedInStacks k = L.stackedInStacks k + change k)
    (hmoved : ∀ k, heldShifts .stackedAmount k (op.moved L) = if j = k then n else 0) :
    (op.step L).StacksMatch ↔ ∀ k, (if j = k then n else 0) = change k := by
  refine forall_congr' fun k => ?_
  rw [step_held (by decide), hmoved, hL, hstacks]
  omega

theorem stacksMatch_of_frame (hstacks : ∀ k, (op.step L).stackedInStacks k = L.stackedInStacks k)
    (hmoved : ∀ k, heldShifts .stackedAmount k (op.moved L) = 0) (hL : L.StacksMatch) :
    (op.step L).StacksMatch := by
  intro k
  rw [step_held (by decide), hmoved, hL, hstacks]
  omega

theorem stacksMatch_of_neutral (h : op.block = neutrally x) (hx : KeepsStacks x)
    (hL : L.StacksMatch) : (op.step L).StacksMatch := by
  have hkept : (op.step L).autoStacks = L.autoStacks :=
    (h ▸ keeps_map _ hx : KeepsStacks op.block).commit L
  refine stacksMatch_of_frame (fun k => ?_) (fun k => ?_) hL
  · simp only [Ledger.stackedInStacks, hkept]
  · simp [moved_of_neutral h]

theorem stacksMatch_of_report {report : α → List Movement} (h : op.block = report <$> x)
    (hx : KeepsStacks x) (hreport : ∀ a k, heldShifts .stackedAmount k (report a) = 0)
    (hL : L.StacksMatch) : (op.step L).StacksMatch := by
  have hkept : (op.step L).autoStacks = L.autoStacks :=
    (h ▸ keeps_map _ hx : KeepsStacks op.block).commit L
  refine stacksMatch_of_frame (fun k => ?_) ?_ hL
  · simp only [Ledger.stackedInStacks, hkept]
  · exact moved_of_report h (P := fun ms => ∀ k, heldShifts .stackedAmount k ms = 0)
      (fun _ => rfl) hreport L

theorem stacksMatch_settleBuy_iff {cache : ConvertCurrency.DefaultNetworkCache}
    {crypto fiat : Currency} {id : TransactionId} {transaction : Transaction}
    {executedCrypto executedFiat : Nat}
    (hop : op = .settleBuy cache crypto fiat id transaction executedCrypto executedFiat)
    (hL : L.StacksMatch) : (op.step L).StacksMatch ↔ op.step L = L ∨
      (transaction.transactionContext = .AUTOSTACK →
        Takes (transaction.paymentMetadata.autoStackId.bind L.autoStacks.lookup)
          AutoStack.isPending executedCrypto (transaction.userId, crypto)) := by
  have hblock : op.block = (fun done => if done then OrderDone.buyMovements
      (transaction.userId, crypto) transaction.transactionContext executedCrypto else []) <$>
        OrderDone.buyBlock cache crypto fiat id transaction executedCrypto executedFiat := by
    rw [hop]
    rfl
  refine holds_iff_of_unchanged (P := Ledger.StacksMatch) hL ?_
  rcases step_cases hblock L with ⟨hsame, -⟩ | ⟨done, hdone, hmoved⟩
  · exact .inl hsame
  · rcases OrderDone.buyBlock_stacks hdone with ⟨-, hsame⟩ | ⟨rfl, hstacks⟩
    · exact .inl hsame.symm
    · right
      by_cases hstack : transaction.transactionContext = .AUTOSTACK
      · simp only [hstack, if_true, forall_const] at hstacks ⊢
        rw [← takes_iff]
        refine stacksMatch_iff_shift hL hstacks fun k => ?_
        rw [hmoved]
        simp [OrderDone.buyMovements, hstack, Movement.heldShift]
      · simp only [hstack, if_false, false_implies, iff_true, Int.add_zero] at hstacks ⊢
        refine stacksMatch_of_frame hstacks (fun k => ?_) hL
        rw [hmoved]
        simp [OrderDone.buyMovements, hstack, Movement.heldShift]

theorem stacksMatch_completeSwap_iff {cache : ConvertCurrency.DefaultNetworkCache}
    {e : SwapWebhook.Event} {confirmedFrom confirmedTo : Nat} {creditId : TransactionId}
    {creditReference : Reference} {toNetwork : Option CryptoNetwork}
    (hop : op = .completeSwap cache e confirmedFrom confirmedTo creditId creditReference toNetwork)
    (hL : L.StacksMatch) : (op.step L).StacksMatch ↔ op.step L = L ∨
      (e.isAutoStackSwap = true → e.FindsStack L →
        Takes (e.autoStackId.bind L.autoStacks.lookup) AutoStack.isPending confirmedTo
          (e.swap.userId, .usdt)) := by
  have hblock : op.block = SwapWebhook.completeMovements e confirmedFrom confirmedTo <$>
      SwapWebhook.completeBlock cache e confirmedFrom confirmedTo creditId creditReference
        toNetwork := by
    rw [hop]
    rfl
  refine holds_iff_of_unchanged (P := Ledger.StacksMatch) hL ?_
  rcases step_cases hblock L with ⟨hsame, -⟩ | ⟨done, hdone, hmoved⟩
  · exact .inl hsame
  · cases SwapWebhook.completeBlock_stacks hdone with
    | skipped hsame => exact .inl hsame.symm
    | swapped hregular hstacks =>
      refine .inr (iff_of_true (stacksMatch_of_frame hstacks (fun k => ?_) hL) ?_)
      · rw [hmoved]
        simp [SwapWebhook.completeMovements, Movement.heldShift]
      · simp [hregular]
    | unstacked hstack hnone hstacks =>
      refine .inr (iff_of_true (stacksMatch_of_frame hstacks (fun k => ?_) hL) ?_)
      · rw [hmoved]
        simp [SwapWebhook.completeMovements, Movement.heldShift]
      · exact fun _ hfinds => absurd hfinds hnone
    | stacked hstack hfinds hstacks =>
      right
      simp only [hstack, hfinds, forall_const]
      rw [← takes_iff]
      refine stacksMatch_iff_shift hL hstacks fun k => ?_
      rw [hmoved]
      simp [SwapWebhook.completeMovements, Movement.heldShift]

theorem stacksMatch_executeUsdt_iff {cache : ConvertCurrency.DefaultNetworkCache}
    {x : AutoStackService.Execution} {metadata : PaymentMetadata} {initial : Bool}
    (hop : op = .executeUsdtStack cache x metadata initial) (hL : L.StacksMatch) :
    (op.step L).StacksMatch ↔ op.step L = L ∨ Takes (L.autoStacks.lookup x.autoStackId)
      (fun _ => initial) x.sourceAmount (x.userId, .usdt) := by
  have hblock : op.block = (fun _ => AutoStackService.executeUsdtMovements x) <$>
      AutoStackService.executeUsdtBlock cache x metadata initial := by
    rw [hop]
    rfl
  refine holds_iff_of_unchanged (P := Ledger.StacksMatch) hL ?_
  rcases step_cases hblock L with ⟨hsame, -⟩ | ⟨u, hu, hmoved⟩
  · exact .inl hsame
  · right
    rw [← takes_iff]
    refine stacksMatch_iff_shift hL (fun k => Ledger.stackedInStacks_modify
      (AutoStackService.executeUsdtBlock_stacks hu)) fun k => ?_
    rw [hmoved]
    simp [AutoStackService.executeUsdtMovements, Movement.heldShift]

theorem stackChange_end (id : AutoStackId) (k : WalletKey) :
    stackChange (L.autoStacks.lookup id) (fun s => { s with status := .ENDED }) k =
      -L.stackedBy id k := by
  unfold stackChange Ledger.stackedBy
  cases L.autoStacks.lookup id <;> simp [AutoStack.holds]

theorem stacksMatch_cancel_iff {x : AutoStackService.Execution} {metadata : PaymentMetadata}
    (hop : op = .cancelStack x metadata) (hL : L.StacksMatch) :
    (op.step L).StacksMatch ↔ op.step L = L ∨ ∀ k, L.stackedBy x.autoStackId k = 0 := by
  have hblock : op.block = neutrally (AutoStackService.cancelBlock x metadata) := by
    rw [hop]
    rfl
  refine holds_iff_of_unchanged (P := Ledger.StacksMatch) hL ?_
  rcases step_cases hblock L with ⟨hsame, -⟩ | ⟨u, hu, hmoved⟩
  · exact .inl hsame
  · right
    refine forall_congr' fun k => ?_
    rw [step_held (by decide), hmoved, hL,
      Ledger.stackedInStacks_modify (AutoStackService.cancelBlock_stacks hu), stackChange_end,
      heldShifts_nil]
    omega

theorem stacksMatch_unlock_iff {cache : ConvertCurrency.DefaultNetworkCache} {id : AutoStackId}
    {stack : AutoStack} {early : Bool} (hop : op = .unlockStack cache id stack early)
    (hL : L.StacksMatch) :
    (op.step L).StacksMatch ↔ op.step L = L ∨ L.UnlocksHeld id stack := by
  have hblock : op.block = AutoStackService.unlockMovements stack early <$>
      AutoStackService.unlockBlock cache id stack early := by
    rw [hop]
    rfl
  refine holds_iff_of_unchanged (P := Ledger.StacksMatch) hL ?_
  rcases step_cases hblock L with ⟨hsame, -⟩ | ⟨w, hw, hmoved⟩
  · exact .inl hsame
  · right
    obtain ⟨hwallet, hstacks⟩ := AutoStackService.unlockBlock_stacks hw
    have hheld : L.toBooks.held .stackedAmount (stack.userId, .usdt) = w.stackedAmount := by
      simp [Books.held, hwallet, Wallet.held]
    have hpos : 0 ≤ w.stackedAmount := by
      rw [← hheld, hL]
      exact le_trans (L.stackedBy_nonneg id _) (L.stackedBy_le id _)
    rw [stacksMatch_iff_shift (j := (stack.userId, .usdt))
      (n := dropTo w.stackedAmount stack.amount) hL
      (fun k => Ledger.stackedInStacks_modify hstacks)
      (fun k => by rw [hmoved]; simp [AutoStackService.unlockMovements, Movement.heldShift])]
    simp only [stackChange_end, Ledger.UnlocksHeld, hheld, dropTo]
    constructor
    · intro h
      refine ⟨?_, fun k hk => ?_⟩
      · have hown := h (stack.userId, .usdt)
        simp only [if_true] at hown
        omega
      · have hother := h k
        rw [if_neg (Ne.symm hk)] at hother
        omega
    · intro h k
      by_cases hk : (stack.userId, Currency.usdt) = k
      · subst hk
        rw [if_pos rfl]
        omega
      · rw [if_neg hk, h.2 k (Ne.symm hk)]
        omega

end Operation

/-- One operation keeps the stacked column and the stacks in step exactly when it changes nothing or
spares the stacks. -/
theorem Operation.step_stacksMatch_iff {op : Operation} {L : Ledger} (hL : L.StacksMatch) :
    (op.step L).StacksMatch ↔ op.step L = L ∨ op.SparesStacks L := by
  have hkeeps (h : (op.step L).StacksMatch) :
      (op.step L).StacksMatch ↔ op.step L = L ∨ True := by simp [h]
  cases op with
  | settleBuy => exact stacksMatch_settleBuy_iff rfl hL
  | completeSwap => exact stacksMatch_completeSwap_iff rfl hL
  | executeUsdtStack => exact stacksMatch_executeUsdt_iff rfl hL
  | cancelStack => exact stacksMatch_cancel_iff rfl hL
  | unlockStack => exact stacksMatch_unlock_iff rfl hL
  | accrueStack id userId due dailyRate days =>
    have hblock : (Operation.accrueStack id userId due dailyRate days).block =
        AutoStackService.accrueMovements userId <$>
          AutoStackService.accrueBlock id userId due dailyRate days := rfl
    refine hkeeps ?_
    rcases step_cases hblock L with
      ⟨hsame, -⟩ | ⟨r, hr, hmoved⟩
    · rw [hsame]
      exact hL
    · refine stacksMatch_of_frame (AutoStackService.accrueBlock_stacks hr) (fun k => ?_) hL
      rw [hmoved]
      unfold AutoStackService.accrueMovements
      split <;> simp [Movement.heldShift]
  | confirmBuy =>
    exact hkeeps (stacksMatch_of_neutral rfl ((BuyService.confirmBlock_products _ _).autoStacks) hL)
  | failBuy =>
    refine hkeeps (stacksMatch_of_neutral rfl ?_ hL)
    exact (OrderDone.buyFailureBlock_products _ _ _).autoStacks
  | confirmSell =>
    refine hkeeps (stacksMatch_of_neutral rfl ?_ hL)
    exact (SellService.confirmBlock_products _ _).autoStacks
  | queueSell =>
    refine hkeeps (stacksMatch_of_neutral rfl ?_ hL)
    exact (SellService.paystackShortBlock_products _ _).autoStacks
  | rejectSell =>
    refine hkeeps (stacksMatch_of_neutral rfl ?_ hL)
    exact (SellService.rejectedBlock_products _ _).autoStacks
  | recordSell => exact hkeeps (stacksMatch_of_neutral rfl (keeps_update fun _ => rfl) hL)
  | failOrder =>
    refine hkeeps (stacksMatch_of_neutral rfl ?_ hL)
    exact (OrderDone.failOrderBlock_products _ _ _ _ _).autoStacks
  | missingBankDetails =>
    refine hkeeps (stacksMatch_of_neutral rfl ?_ hL)
    exact (OrderDone.missingBankDetailsBlock_products _ _ _ _).autoStacks
  | addProceeds =>
    refine hkeeps (stacksMatch_of_neutral rfl ?_ hL)
    exact (OrderDone.proceedsBlock_products _ _ _).autoStacks
  | payoutInitiated =>
    refine hkeeps (stacksMatch_of_neutral rfl ?_ hL)
    exact (OrderDone.payoutInitiatedBlock_products _ _ _ _).autoStacks
  | payoutFailed =>
    refine hkeeps (stacksMatch_of_neutral rfl ?_ hL)
    exact (OrderDone.payoutFailedBlock_products _ _).autoStacks
  | transferFailure =>
    refine hkeeps (stacksMatch_of_neutral rfl ?_ hL)
    exact (PayoutStatus.transferFailureBlock_products _ _).autoStacks
  | loanSaleFailed =>
    refine hkeeps (stacksMatch_of_neutral rfl ?_ hL)
    exact (UrgentLiquidity.saleFailedBlock_products _).autoStacks
  | loanTransferSuccess =>
    refine hkeeps (stacksMatch_of_neutral rfl ?_ hL)
    exact (PayoutStatus.loanTransferSuccessBlock_products _).autoStacks
  | loanTransferFailure =>
    refine hkeeps (stacksMatch_of_neutral rfl ?_ hL)
    exact (PayoutStatus.loanTransferFailureBlock_products _).autoStacks
  | confirmSend =>
    refine hkeeps (stacksMatch_of_neutral rfl ?_ hL)
    exact (WithdrawalService.confirmBlock_products _ _ _).autoStacks
  | recordSend =>
    refine hkeeps (stacksMatch_of_neutral rfl ?_ hL)
    exact (WithdrawalService.recordBlock_products _ _ _).autoStacks
  | compensateSend =>
    refine hkeeps (stacksMatch_of_neutral rfl ?_ hL)
    exact (WithdrawalService.compensateBlock_products _ _ _).autoStacks
  | cancelWithdrawal =>
    refine hkeeps (stacksMatch_of_neutral rfl ?_ hL)
    exact (WithdrawalService.cancelBlock_products _ _ _ _).autoStacks
  | failWithdrawal => exact hkeeps (stacksMatch_of_neutral rfl (keeps_update fun _ => rfl) hL)
  | expire =>
    refine hkeeps (stacksMatch_of_neutral rfl ?_ hL)
    exact (FailedCompanyLiquidity.expireBlock_products _ _).autoStacks
  | deleteRecord =>
    refine hkeeps (stacksMatch_of_neutral rfl ?_ hL)
    exact (FailedCompanyLiquidity.deleteRecord_products _).autoStacks
  | reserveCompany =>
    refine hkeeps (stacksMatch_of_neutral rfl ?_ hL)
    exact (reserveLiquidity_onBalances _ _).products.autoStacks
  | releaseCompany =>
    refine hkeeps (stacksMatch_of_neutral rfl ?_ hL)
    exact (releaseLiquidity_onBalances _ _).products.autoStacks
  | resumeSell =>
    refine hkeeps (stacksMatch_of_neutral rfl ?_ hL)
    exact (FailedCompanyLiquidity.resumeSellBlock_products _ _).autoStacks
  | resumeSwap => exact hkeeps (stacksMatch_of_neutral rfl (keeps_update fun _ => rfl) hL)
  | resumeWithdrawal =>
    refine hkeeps (stacksMatch_of_neutral rfl ?_ hL)
    exact (FailedCompanyLiquidity.resumeWithdrawalBlock_products _ _ _).autoStacks
  | resumeBuy => exact hkeeps (stacksMatch_of_neutral rfl (keeps_update fun _ => rfl) hL)
  | confirmSwap =>
    refine hkeeps (stacksMatch_of_neutral rfl ?_ hL)
    exact (SwapService.confirmBlock_products _ _).autoStacks
  | releaseSwap =>
    refine hkeeps (stacksMatch_of_neutral rfl ?_ hL)
    exact (SwapService.releaseBlock_products _ _).autoStacks
  | recordSwap =>
    refine hkeeps (stacksMatch_of_neutral rfl ?_ hL)
    exact (SwapService.recordBlock_products _ _ _ _ _).autoStacks
  | failSwap =>
    refine hkeeps (stacksMatch_of_neutral rfl ?_ hL)
    exact (SwapWebhook.failureBlock_products _ _).autoStacks
  | recordVaultSwap =>
    refine hkeeps (stacksMatch_of_neutral rfl ?_ hL)
    exact (VaultService.recordSwapBlock_products _ _ _ _).autoStacks
  | reserveStack =>
    refine hkeeps (stacksMatch_of_neutral rfl ?_ hL)
    exact (AutoStackService.reserveBlock_products _ _).autoStacks
  | reserveCardStack =>
    refine hkeeps (stacksMatch_of_neutral rfl ?_ hL)
    exact (AutoStackService.reserveCardBlock_products _ _ _ _).autoStacks
  | submitStack =>
    exact hkeeps (stacksMatch_of_neutral rfl ((createSwap_products _ _).autoStacks) hL)
  | failStack =>
    refine hkeeps (stacksMatch_of_neutral rfl ?_ hL)
    exact (AutoStackService.failBlock_products _).autoStacks
  | confirmBtcVault =>
    exact hkeeps (stacksMatch_of_neutral rfl (VaultService.confirmBtcBlock_stacks _ _ _ _ _) hL)
  | vaultExchangeFailed =>
    exact hkeeps (stacksMatch_of_neutral rfl (VaultService.exchangeFailedBlock_stacks _ _ _ _ _) hL)
  | cancelVault =>
    exact hkeeps (stacksMatch_of_neutral rfl (VaultService.cancelBlock_stacks _ _ _) hL)
  | failVaultSwap =>
    exact hkeeps (stacksMatch_of_neutral rfl (SwapWebhook.vaultFailureBlock_stacks _ _ _ _ _) hL)
  | transferSuccess =>
    refine hkeeps (stacksMatch_of_report rfl
      (PayoutStatus.transferSuccessBlock_products _ _ _).autoStacks (fun _ k => ?_) hL)
    simp [PayoutStatus.payoutMovements, Movement.heldShift]
  | deposit =>
    refine hkeeps (stacksMatch_of_report rfl
      (DepositSuccessful.depositBlock_products _ _ _).autoStacks (fun done k => ?_) hL)
    cases done <;> simp [DepositSuccessful.depositMovements, Movement.heldShift]
  | loanPayout =>
    refine hkeeps (stacksMatch_of_report rfl
      (UrgentLiquidity.payoutBlock_products _ _ _ _).autoStacks (fun paid k => ?_) hL)
    cases paid <;> simp [UrgentLiquidity.payoutMovements, Movement.heldShift]
  | settleWithdrawal cache event =>
    refine hkeeps (stacksMatch_of_report rfl
      (WithdrawalWebhook.settleBlock_products _ _ _ _ _ _ _).autoStacks (fun _ k => ?_) hL)
    cases event <;> simp [WithdrawalWebhook.settleMovements, Movement.heldShift]
  | confirmStableVault =>
    refine hkeeps (stacksMatch_of_report rfl (VaultService.confirmStableBlock_stacks _ _ _ _)
      (fun _ k => ?_) hL)
    simp [VaultService.confirmMovements, Movement.heldShift]
  | unlockVault =>
    refine hkeeps (stacksMatch_of_report rfl (VaultService.unlockBlock_stacks _ _ _ _)
      (fun _ k => ?_) hL)
    simp [VaultService.unlockMovements, Movement.heldShift]
  | matureVault =>
    refine hkeeps (stacksMatch_of_report rfl (VaultInterestScheduler.matureBlock_stacks _ _ _)
      (fun r k => ?_) hL)
    cases r <;> simp [VaultInterestScheduler.matureMovements, Movement.heldShift]
  | completeVaultSwap =>
    refine hkeeps (stacksMatch_of_report rfl
      (SwapWebhook.vaultCompleteBlock_stacks _ _ _ _ _ _ _ _) (fun done k => ?_) hL)
    cases done <;> simp [SwapWebhook.vaultMovements, Movement.heldShift]

/-- The stacked column of every wallet stays the sum over its owner's ACTIVE stacks throughout a run
exactly when each operation of the run that changes anything spares the stacks. -/
theorem stacked_funds_match_iff {L : Ledger} (hL : L.StacksMatch) (ops : List Operation) :
    Run.Throughout Operation.step Ledger.StacksMatch L ops ↔
      Run.Along Operation.step (fun M op => op.step M = M ∨ op.SparesStacks M) L ops :=
  Run.throughout_iff_along (fun _ _ hM => Operation.step_stacksMatch_iff hM) hL

/-- User 1's USDT wallet, the company's row and a stack that was just confirmed. -/
def beforeStack : Ledger :=
  { Ledger.empty with
    wallets := (∅ : Table WalletKey Wallet).insert (1, .usdt)
      { Wallet.empty with currencyId := some .usdt, baseBalance := 1000 }
    companyLiquidity := (∅ : Table Currency CompanyLiquidity).insert .usdt CompanyLiquidity.empty
    autoStacks := (∅ : Table AutoStackId AutoStack).insert 1
      { userId := 1, amount := 0, accruedInterest := 0, status := .PENDING } }

/-- One period of the stack: a hundred units of USDT. -/
def stackPeriod (id : TransactionId) : AutoStackService.Execution where
  userId := 1
  autoStackId := 1
  id := id
  reference := id
  sourceAsset := .usdt
  sourceAmount := 100
  principalUsdt := 100
  transactionFee := 0
  cryptoWalletPayment := true

/-- The first execution and the next one. -/
def stackTwice : List Operation :=
  [.executeUsdtStack (fun _ => none) (stackPeriod 1) PaymentMetadata.empty true,
    .executeUsdtStack (fun _ => none) (stackPeriod 2) PaymentMetadata.empty false]

theorem beforeStack_stacksMatch : beforeStack.StacksMatch := by
  intro k
  have hheld : beforeStack.toBooks.held .stackedAmount k = 0 := by
    simp only [Books.held, beforeStack, Table.lookup_insert]
    split <;> rfl
  rw [hheld, Ledger.stackedInStacks, beforeStack, Table.total_insert]
  simp [AutoStack.holds]

/-- An unlock that read the stack before its second execution leaves a hundred units stacked in the
wallet without a stack. -/
theorem stale_unlock_leaves_funds_stacked :
    Run.Throughout Operation.step Ledger.StacksMatch beforeStack stackTwice ∧
      ¬ Run.Throughout Operation.step Ledger.StacksMatch beforeStack (stackTwice ++
        [.unlockStack (fun _ => none) 1
          { userId := 1, amount := 100, accruedInterest := 0, status := .ACTIVE } true]) := by
  constructor
  · have hrow : (Run.final Operation.step beforeStack
        (stackTwice.take 1)).autoStacks.lookup 1 = some
          { userId := 1, amount := 100, accruedInterest := 0, status := .ACTIVE } := by
      decide +kernel
    refine (stacked_funds_match_iff beforeStack_stacksMatch _).mpr
      ⟨.inr ⟨?_, .inr ?_⟩, .inr ⟨?_, .inr ⟨_, hrow, rfl⟩⟩, trivial⟩
    · intro s hs
      cases hs
      exact .inl rfl
    · exact ⟨_, rfl, rfl⟩
    · intro s hs
      have heq := Option.some.inj (hs.symm.trans hrow)
      exact .inr (by simp [heq])
  · intro h
    have hlast := h.last (1, .usdt)
    revert hlast
    decide +kernel

end ExchangeLedger
