import ExchangeLedger.Run
import ExchangeLedger.Schema

set_option autoImplicit false

/-! What a ledger operation can do to the balances: movements of wallet and company columns. -/

namespace ExchangeLedger

inductive Holding where
  | lockedAmount | loanCollateralAmount | stackedAmount | totalStackedInterest
  | totalLockedInterest
  deriving DecidableEq, Repr

inductive CompanyColumn where
  | totalBalance | reservedBalance | internalBalance | totalLockedPrincipal
  | totalAccruedLockedInterest | totalLockedInterestPaid | totalAmountStacked
  deriving DecidableEq, Repr

def Wallet.shift (w : Wallet) (change : Int) : Holding → Wallet
  | .lockedAmount => { w with lockedAmount := w.lockedAmount + change }
  | .loanCollateralAmount => { w with loanCollateralAmount := w.loanCollateralAmount + change }
  | .stackedAmount => { w with stackedAmount := w.stackedAmount + change }
  | .totalStackedInterest => { w with totalStackedInterest := w.totalStackedInterest + change }
  | .totalLockedInterest => { w with totalLockedInterest := w.totalLockedInterest + change }

def CompanyLiquidity.shift (r : CompanyLiquidity) (change : Int) :
    CompanyColumn → CompanyLiquidity
  | .totalBalance => { r with totalBalance := r.totalBalance + change }
  | .reservedBalance => { r with reservedBalance := r.reservedBalance + change }
  | .internalBalance => { r with internalBalance := r.internalBalance + change }
  | .totalLockedPrincipal => { r with totalLockedPrincipal := r.totalLockedPrincipal + change }
  | .totalAccruedLockedInterest =>
    { r with totalAccruedLockedInterest := r.totalAccruedLockedInterest + change }
  | .totalLockedInterestPaid =>
    { r with totalLockedInterestPaid := r.totalLockedInterestPaid + change }
  | .totalAmountStacked => { r with totalAmountStacked := r.totalAmountStacked + change }

inductive Movement where
  | reserve (k : WalletKey) (amount : Nat)
  | release (k : WalletKey) (amount : Nat)
  /-- Reserved funds leave the wallet. -/
  | settle (k : WalletKey) (amount : Nat)
  /-- Funds leave the wallet out of its unreserved part. -/
  | spend (k : WalletKey) (amount : Nat)
  /-- Funds leave the wallet whether reserved or not. -/
  | debit (k : WalletKey) (amount : Nat)
  | credit (k : WalletKey) (amount : Nat)
  | hold (k : WalletKey) (column : Holding) (change : Int)
  | company (currency : Currency) (column : CompanyColumn) (change : Int)
  deriving DecidableEq, Repr

/-- A movement that leaves both the wallets' holdings and the internal balances alone. -/
def Movement.neutral : Movement → Bool
  | .reserve _ _ | .release _ _ => true
  | .hold _ column _ => column = .loanCollateralAmount
  | .company _ column _ => column ≠ .internalBalance
  | _ => false

@[simp] theorem Movement.neutral_reserve (k : WalletKey) (amount : Nat) :
    (Movement.reserve k amount).neutral = true := rfl

@[simp] theorem Movement.neutral_release (k : WalletKey) (amount : Nat) :
    (Movement.release k amount).neutral = true := rfl

@[simp] theorem Movement.neutral_hold (k : WalletKey) (column : Holding) (change : Int) :
    (Movement.hold k column change).neutral = decide (column = .loanCollateralAmount) := rfl

@[simp] theorem Movement.neutral_company (c : Currency) (column : CompanyColumn) (change : Int) :
    (Movement.company c column change).neutral = decide (column ≠ .internalBalance) := rfl

def Movement.essential (m : Movement) : Bool := !m.neutral

namespace Books

def walletIf (k : WalletKey) (p : Wallet → Bool) (f : Wallet → Wallet) (b : Books) :
    Option Books :=
  match b.wallets.lookup k with
  | some w => if p w then some { b with wallets := b.wallets.insert k (f w) } else none
  | none => none

/-- The silent steps: a rewritten text of a balance, a new company row without any balance. -/
inductive Restated : Books → Books → Prop where
  | text {b : Books} {k : WalletKey} {w : Wallet} (s : Text) : b.wallets.lookup k = some w →
      Restated b { b with wallets := b.wallets.insert k { w with originalBalance := s } }
  | row {b : Books} {currency : Currency} : b.companyLiquidity.lookup currency = none →
      Restated b { b with
        companyLiquidity := b.companyLiquidity.insert currency CompanyLiquidity.empty }

end Books

namespace Movement

def apply : Movement → Books → Option Books
  | .reserve k a => Books.walletIf k (fun w => (a : Int) ≤ w.baseBalance - w.reservedBalance)
      (fun w => { w with reservedBalance := w.reservedBalance + a })
  | .release k a => Books.walletIf k (fun w => (a : Int) ≤ w.reservedBalance)
      (fun w => { w with reservedBalance := w.reservedBalance - a })
  | .settle k a =>
      Books.walletIf k (fun w => (a : Int) ≤ w.baseBalance ∧ (a : Int) ≤ w.reservedBalance)
        (fun w => { w with
          baseBalance := w.baseBalance - a, reservedBalance := w.reservedBalance - a })
  | .spend k a => Books.walletIf k (fun w => (a : Int) ≤ w.baseBalance - w.reservedBalance)
      (fun w => { w with baseBalance := w.baseBalance - a })
  | .debit k a => Books.walletIf k (fun w => (a : Int) ≤ w.baseBalance)
      (fun w => { w with baseBalance := w.baseBalance - a })
  | .credit k a => Books.walletIf k (fun _ => true)
      (fun w => { w with baseBalance := w.baseBalance + a })
  | .hold k column change => Books.walletIf k (fun _ => true) (fun w => w.shift change column)
  | .company c column change => fun b =>
      (b.companyLiquidity.lookup c).map (fun r =>
        { b with companyLiquidity := b.companyLiquidity.insert c (r.shift change column) })

end Movement

/-- The movements `ms` lead from one ledger's balances to another's. -/
abbrev Moves (ms : List Movement) (b c : Books) : Prop :=
  Journal.Posted Movement.apply Books.Restated ms b c

/-! ### Reserved funds stay within the balance -/

def Wallet.Covered (w : Wallet) : Prop := 0 ≤ w.reservedBalance ∧ w.reservedBalance ≤ w.baseBalance

def Books.Covered (b : Books) : Prop := ∀ k w, b.wallets.lookup k = some w → w.Covered

namespace Books

theorem walletIf_eq_some {k : WalletKey} {p : Wallet → Bool} {f : Wallet → Wallet} {b c : Books} :
    walletIf k p f b = some c ↔ ∃ w, b.wallets.lookup k = some w ∧ p w = true ∧
      { b with wallets := b.wallets.insert k (f w) } = c := by
  unfold walletIf
  cases h : b.wallets.lookup k with
  | none => simp
  | some w => cases hp : p w <;> simp [hp]

theorem covered_insert {b : Books} (hb : b.Covered) {k : WalletKey} {w : Wallet}
    (hw : w.Covered) : Covered { b with wallets := b.wallets.insert k w } := by
  intro j v hv
  rw [Table.lookup_insert] at hv
  split at hv
  · cases hv
    exact hw
  · exact hb j v hv

theorem covered_walletIf {k : WalletKey} {p : Wallet → Bool} {f : Wallet → Wallet} {b c : Books}
    (keeps : ∀ w, w.Covered → p w = true → (f w).Covered) (hb : b.Covered)
    (h : walletIf k p f b = some c) : c.Covered := by
  obtain ⟨w, hk, hp, rfl⟩ := walletIf_eq_some.mp h
  exact covered_insert hb (keeps w (hb k w hk) hp)

theorem covered_restated {b c : Books} (hb : b.Covered) (h : Restated b c) : c.Covered := by
  cases h with
  | text s hk =>
    have hw := hb _ _ hk
    exact covered_insert hb hw
  | row hc => exact hb

end Books

@[simp] theorem Wallet.shift_covered (w : Wallet) (change : Int) (column : Holding) :
    (w.shift change column).Covered ↔ w.Covered := by
  cases column <;> rfl

/-- Every movement but a plain debit keeps reserved funds within the balance. -/
theorem Movement.apply_covered {m : Movement} (hm : ∀ k a, m ≠ .debit k a) {b c : Books}
    (hb : b.Covered) (h : m.apply b = some c) : c.Covered := by
  cases m with
  | debit k a => exact absurd rfl (hm k a)
  | company currency column change =>
    simp only [Movement.apply, Option.map_eq_some_iff] at h
    obtain ⟨r, -, rfl⟩ := h
    exact hb
  | reserve k a | release k a | settle k a | spend k a | credit k a =>
    refine Books.covered_walletIf (fun w hw hp => ?_) hb h
    simp [Wallet.Covered] at hw hp ⊢
    omega
  | hold k column change =>
    exact Books.covered_walletIf (fun w hw _ => by simpa using hw) hb h

theorem Moves.covered {ms : List Movement} (hm : ∀ k a, .debit k a ∉ ms) {b c : Books}
    (h : Moves ms b c) (hb : b.Covered) : c.Covered :=
  h.preserves (fun _ hmem _ _ hb => Movement.apply_covered (fun k a he => hm k a (he ▸ hmem)) hb)
    (fun _ _ => Books.covered_restated) hb

/-! ### The company's internal balance against the wallets it stands for -/

namespace Wallet

/-- The columns that the internal balance scheduler adds up. -/
def holdings (w : Wallet) : Int :=
  w.baseBalance + w.lockedAmount + w.stackedAmount + w.totalStackedInterest + w.totalLockedInterest

/-- A row counts for a currency when its currency column holds the lower-case name. -/
def counted (currency : Currency) (k : WalletKey) (w : Wallet) : Int :=
  if k.2 = currency ∧ w.letterCase = .lower then w.holdings else 0

end Wallet

namespace Books

def aggregate (b : Books) (currency : Currency) : Int :=
  Table.total (Wallet.counted currency) b.wallets

def internalBalance (b : Books) (currency : Currency) : Int :=
  (b.companyLiquidity.lookup currency).elim 0 CompanyLiquidity.internalBalance

/-- By how much the internal balance exceeds what the scheduler would compute. -/
def gap (b : Books) (currency : Currency) : Int := b.internalBalance currency - b.aggregate currency

/-- The spelling of each wallet's currency column. -/
def spelling (b : Books) (k : WalletKey) : Option LetterCase :=
  (b.wallets.lookup k).map Wallet.letterCase

end Books

/-- What a change of a wallet's holdings means for the gap. -/
def walletGap (spelling : WalletKey → Option LetterCase) (currency : Currency) (k : WalletKey)
    (change : Int) : Int :=
  if k.2 = currency ∧ spelling k = some .lower then -change else 0

/-- How far one movement shifts the gap. -/
def Movement.gapShift (spelling : WalletKey → Option LetterCase) (currency : Currency) :
    Movement → Int
  | .reserve _ _ | .release _ _ => 0
  | .settle k a | .spend k a | .debit k a => walletGap spelling currency k (-a)
  | .credit k a => walletGap spelling currency k a
  | .hold _ .loanCollateralAmount _ => 0
  | .hold k _ change => walletGap spelling currency k change
  | .company c .internalBalance change => if c = currency then change else 0
  | .company _ _ _ => 0

theorem Movement.gapShift_neutral {m : Movement} (h : m.neutral = true)
    (spelling : WalletKey → Option LetterCase) (currency : Currency) :
    m.gapShift spelling currency = 0 := by
  cases m with
  | reserve k a | release k a => rfl
  | settle k a | spend k a | debit k a | credit k a => cases h
  | hold k column change => cases column <;> first | rfl | cases h
  | company c column change => cases column <;> first | rfl | cases h

/-- Only the essential movements shift the gap. -/
theorem sum_gapShift_essential (ms : List Movement) (spelling : WalletKey → Option LetterCase)
    (currency : Currency) :
    ((ms.filter Movement.essential).map (Movement.gapShift spelling currency)).sum =
      (ms.map (Movement.gapShift spelling currency)).sum := by
  induction ms with
  | nil => rfl
  | cons m ms ih =>
    cases h : m.neutral with
    | true =>
      have hm : (m :: ms).filter Movement.essential = ms.filter Movement.essential := by
        simp [Movement.essential, h]
      rw [hm, ih, List.map_cons, List.sum_cons, m.gapShift_neutral h, zero_add]
    | false =>
      have hm : (m :: ms).filter Movement.essential = m :: ms.filter Movement.essential := by
        simp [Movement.essential, h]
      rw [hm, List.map_cons, List.map_cons, List.sum_cons, List.sum_cons, ih]

namespace Books

theorem spelling_insert {b : Books} {k : WalletKey} {w v : Wallet}
    (hk : b.wallets.lookup k = some w) (hv : v.letterCase = w.letterCase) :
    spelling { b with wallets := b.wallets.insert k v } = b.spelling := by
  funext j
  simp only [spelling, Table.lookup_insert]
  by_cases h : j = k
  · subst h
    simp [hk, hv]
  · simp [h]

theorem gap_insert {b : Books} {k : WalletKey} {w v : Wallet}
    (hk : b.wallets.lookup k = some w) (hv : v.letterCase = w.letterCase) (currency : Currency) :
    gap { b with wallets := b.wallets.insert k v } currency =
      b.gap currency + walletGap b.spelling currency k (v.holdings - w.holdings) := by
  have ht := Table.total_insert (Wallet.counted currency) b.wallets k v
  have hs : b.spelling k = some w.letterCase := by simp [spelling, hk]
  rw [hk] at ht
  simp only [gap, aggregate, internalBalance, ht, walletGap, hs, Wallet.counted, hv,
    Option.some.injEq, Option.elim_some]
  by_cases h : k.2 = currency ∧ w.letterCase = .lower
  · simp only [h, and_self, if_true]
    ring
  · simp only [h, if_false]
    ring

theorem gap_walletIf {k : WalletKey} {p : Wallet → Bool} {f : Wallet → Wallet} {b c : Books}
    {currency : Currency} {change : Int} (hf : ∀ w, (f w).letterCase = w.letterCase)
    (hd : ∀ w, (f w).holdings - w.holdings = change) (h : walletIf k p f b = some c) :
    c.spelling = b.spelling ∧
      c.gap currency = b.gap currency + walletGap b.spelling currency k change := by
  obtain ⟨w, hk, -, rfl⟩ := walletIf_eq_some.mp h
  rw [gap_insert hk (hf w), hd]
  exact ⟨spelling_insert hk (hf w), rfl⟩

theorem gap_restated {b c : Books} (h : Restated b c) (currency : Currency) :
    c.spelling = b.spelling ∧ c.gap currency = b.gap currency := by
  cases h with
  | @text k w s hk =>
    have hg := gap_insert hk (v := { w with originalBalance := s }) rfl currency
    refine ⟨spelling_insert hk rfl, ?_⟩
    rw [hg]
    simp [walletGap, Wallet.holdings]
  | row hc =>
    rename_i c'
    refine ⟨rfl, ?_⟩
    simp only [gap, internalBalance, aggregate, Table.lookup_insert]
    by_cases h : currency = c'
    · subst h
      simp [hc, CompanyLiquidity.empty]
    · simp [h]

end Books

@[simp] theorem walletGap_zero (spelling : WalletKey → Option LetterCase) (currency : Currency)
    (k : WalletKey) : walletGap spelling currency k 0 = 0 := by
  simp [walletGap]

theorem Wallet.shift_letterCase (w : Wallet) (change : Int) (column : Holding) :
    (w.shift change column).letterCase = w.letterCase := by
  cases column <;> rfl

theorem Wallet.shift_holdings (w : Wallet) (change : Int) (column : Holding) :
    (w.shift change column).holdings - w.holdings =
      if column = .loanCollateralAmount then 0 else change := by
  cases column <;> simp [Wallet.shift, Wallet.holdings]

theorem Movement.apply_gap {m : Movement} {b c : Books} (currency : Currency)
    (h : m.apply b = some c) :
    c.spelling = b.spelling ∧ c.gap currency = b.gap currency + m.gapShift b.spelling currency := by
  cases m with
  | reserve k a | release k a =>
    have hgap : c.spelling = b.spelling ∧
        c.gap currency = b.gap currency + walletGap b.spelling currency k 0 :=
      Books.gap_walletIf (fun w => by rfl) (fun w => by simp [Wallet.holdings]) h
    simpa [Movement.gapShift] using hgap
  | settle k a | spend k a | debit k a =>
    exact Books.gap_walletIf (fun w => by rfl) (fun w => by simp only [Wallet.holdings]; ring) h
  | credit k a =>
    exact Books.gap_walletIf (fun w => by rfl) (fun w => by simp only [Wallet.holdings]; ring) h
  | hold k column change =>
    have hgap : c.spelling = b.spelling ∧ c.gap currency = b.gap currency +
        walletGap b.spelling currency k (if column = .loanCollateralAmount then 0 else change) :=
      Books.gap_walletIf (fun w => w.shift_letterCase change column)
        (fun w => w.shift_holdings change column) h
    cases column <;> simpa [Movement.gapShift] using hgap
  | company c' column change =>
    simp only [Movement.apply, Option.map_eq_some_iff] at h
    obtain ⟨r, hr, rfl⟩ := h
    refine ⟨rfl, ?_⟩
    simp only [Books.gap, Books.internalBalance, Books.aggregate, Table.lookup_insert]
    by_cases hc : currency = c'
    · subst hc
      cases column <;> simp [hr, CompanyLiquidity.shift, Movement.gapShift]
      ring
    · have hc' : ¬ c' = currency := fun h => hc h.symm
      cases column <;> simp [hc, hc', Movement.gapShift]

/-- The gap moves by the sum of what the movements shift it. -/
theorem Moves.gap {ms : List Movement} {b c : Books} (h : Moves ms b c) (currency : Currency) :
    c.spelling = b.spelling ∧
      c.gap currency = b.gap currency + (ms.map (Movement.gapShift b.spelling currency)).sum := by
  refine ⟨?_, ?_⟩
  · refine h.preserves (I := fun d => d.spelling = b.spelling) ?_ ?_ rfl
    · intro m _ d e hd he
      rw [(Movement.apply_gap currency he).1, hd]
    · intro d e hd he
      rw [(Books.gap_restated he currency).1, hd]
  · refine h.shift (v := fun d => d.gap currency) (I := fun d => d.spelling = b.spelling) ?_ ?_ rfl
    · intro m d e hd he
      have := Movement.apply_gap currency he
      rw [hd] at this
      exact this
    · intro d e hd he
      have := Books.gap_restated he currency
      rw [hd] at this
      exact this

end ExchangeLedger
