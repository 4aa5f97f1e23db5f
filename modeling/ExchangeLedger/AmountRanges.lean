import ExchangeLedger.BufferTiers

set_option autoImplicit false

/-! The amount ranges of the admin settings: the repayment ranges of urgent liquidity and the
transaction fees of auto-stacking, with the services that create, update and delete them. -/

namespace ExchangeLedger

open Block

namespace AmountRanges

abbrev SettingsId := Nat
abbrev RangeId := Nat
abbrev FeeId := Nat

/-- What the two tables share. -/
structure AmountRange where
  fromAmount : Int
  toAmount : Int
  currency : Text
  deriving DecidableEq, Repr

def AmountRange.WellFormed (range : AmountRange) : Prop := range.fromAmount < range.toAmount

instance (range : AmountRange) : Decidable range.WellFormed := by
  unfold AmountRange.WellFormed
  infer_instance

/-- The test of a lookup. -/
def AmountRange.Contains (range : AmountRange) (amount : Rat) : Prop :=
  range.fromAmount ≤ amount ∧ amount ≤ range.toAmount

instance (range : AmountRange) (amount : Rat) : Decidable (range.Contains amount) := by
  unfold AmountRange.Contains
  infer_instance

/-- The test of bounds against a stored range, the same in both services. -/
def overlaps (fromAmount toAmount : Rat) (existing : AmountRange) : Prop :=
  (existing.fromAmount ≤ fromAmount ∧ fromAmount ≤ existing.toAmount) ∨
    (existing.fromAmount ≤ toAmount ∧ toAmount ≤ existing.toAmount) ∨
    (fromAmount < existing.fromAmount ∧ existing.toAmount < toAmount)

instance (fromAmount toAmount : Rat) (existing : AmountRange) :
    Decidable (overlaps fromAmount toAmount existing) := by
  unfold overlaps
  infer_instance

theorem overlaps_cast {fromAmount toAmount : Int} {existing : AmountRange}
    (hne : fromAmount < toAmount) (hexisting : existing.WellFormed) :
    overlaps fromAmount toAmount existing ↔
      fromAmount ≤ existing.toAmount ∧ existing.fromAmount ≤ toAmount := by
  unfold AmountRange.WellFormed at hexisting
  simp only [overlaps, Int.cast_le, Int.cast_lt]
  omega

/-! ### Sound tables -/

section Sound

variable {κ ρ : Type} [DecidableEq κ] (range : ρ → AmountRange) (searched : Text → Prop)

/-- The ranges of each currency are well formed and disjoint, and a lookup among the currencies
that are searched together finds one range at most. -/
structure Sound (T : Table κ ρ) : Prop where
  wellFormed : ∀ i r, T.lookup i = some r → (range r).WellFormed
  disjoint : ∀ i j a b, i ≠ j → T.lookup i = some a → T.lookup j = some b →
    (range a).currency = (range b).currency →
    ∀ amount, ¬ ((range a).Contains amount ∧ (range b).Contains amount)
  once : ∀ amount i j a b, T.lookup i = some a → T.lookup j = some b →
    searched (range a).currency → searched (range b).currency →
    (range a).Contains amount → (range b).Contains amount → i = j

/-- Two ranges may not share an amount. -/
def Together (a b : AmountRange) : Prop :=
  a.currency = b.currency ∨ (searched a.currency ∧ searched b.currency)

/-- Two ranges that may not share an amount do not overlap. -/
def Apart (a b : AmountRange) : Prop :=
  Together searched a b → ¬ overlaps a.fromAmount a.toAmount b

variable {range searched}

theorem Together.symm {a b : AmountRange} (h : Together searched a b) : Together searched b a := by
  rcases h with h | ⟨ha, hb⟩
  · exact .inl h.symm
  · exact .inr ⟨hb, ha⟩

theorem Apart.symm {a b : AmountRange} (ha : a.WellFormed) (hb : b.WellFormed)
    (h : Apart searched a b) : Apart searched b a := by
  intro htogether hoverlap
  refine h htogether.symm ?_
  rw [overlaps_cast ha hb]
  rw [overlaps_cast hb ha] at hoverlap
  exact ⟨hoverlap.2, hoverlap.1⟩

theorem overlaps_iff_contains {a b : AmountRange} (ha : a.WellFormed) (hb : b.WellFormed) :
    overlaps a.fromAmount a.toAmount b ↔ ∃ amount, a.Contains amount ∧ b.Contains amount := by
  rw [overlaps_cast ha hb]
  constructor
  · intro h
    unfold AmountRange.WellFormed at ha hb
    -- the larger of the lower bounds
    refine ⟨((max a.fromAmount b.fromAmount : Int) : Rat), ?_⟩
    simp only [AmountRange.Contains, Int.cast_le]
    omega
  · rintro ⟨amount, ⟨ha1, ha2⟩, hb1, hb2⟩
    have h1 : (a.fromAmount : Rat) ≤ b.toAmount := ha1.trans hb2
    have h2 : (b.fromAmount : Rat) ≤ a.toAmount := hb1.trans ha2
    exact ⟨by exact_mod_cast h1, by exact_mod_cast h2⟩

theorem sound_iff {T : Table κ ρ} :
    Sound range searched T ↔ (∀ i r, T.lookup i = some r → (range r).WellFormed) ∧
      T.PairwiseRows fun a b => Apart searched (range a) (range b) := by
  constructor
  · intro h
    refine ⟨h.wellFormed, ?_⟩
    intro i j a b hij hi hj htogether hoverlap
    obtain ⟨amount, ha, hb⟩ := (overlaps_iff_contains (h.wellFormed i a hi)
      (h.wellFormed j b hj)).mp hoverlap
    rcases htogether with hcurrency | ⟨hsa, hsb⟩
    · exact h.disjoint i j a b hij hi hj hcurrency amount ⟨ha, hb⟩
    · exact hij (h.once amount i j a b hi hj hsa hsb ha hb)
  · rintro ⟨hwf, hapart⟩
    have hshare {i j : κ} {a b : ρ} {amount : Rat} (hij : i ≠ j) (hi : T.lookup i = some a)
        (hj : T.lookup j = some b) (htogether : Together searched (range a) (range b))
        (ha : (range a).Contains amount) (hb : (range b).Contains amount) : False :=
      hapart i j a b hij hi hj htogether
        ((overlaps_iff_contains (hwf i a hi) (hwf j b hj)).mpr ⟨amount, ha, hb⟩)
    constructor
    · exact hwf
    · intro i j a b hij hi hj hcurrency amount h
      exact hshare hij hi hj (.inl hcurrency) h.1 h.2
    · intro amount i j a b hi hj hsa hsb ha hb
      by_contra hij
      exact hshare hij hi hj (.inr ⟨hsa, hsb⟩) ha hb

theorem sound_empty : Sound range searched (∅ : Table κ ρ) := by
  constructor
  · intro i r hi
    cases hi
  · intro i j a b _ hi
    cases hi
  · intro amount i j a b hi
    cases hi

theorem Sound.erase {T : Table κ ρ} (hT : Sound range searched T) (k : κ) :
    Sound range searched (T.erase k) := by
  rw [sound_iff] at hT ⊢
  refine ⟨fun i r hi => ?_, hT.2.erase k⟩
  by_cases hik : i = k
  · subst hik
    simp at hi
  · rw [AList.lookup_erase_ne hik] at hi
    exact hT.1 i r hi

/-- A row that is written keeps a table sound where it passes the two tests of the services
against every range that it may not share an amount with. -/
theorem Sound.insert_iff {T : Table κ ρ} (hT : Sound range searched T) (k : κ) (r : ρ) :
    Sound range searched (T.insert k r) ↔ (range r).WellFormed ∧
      ∀ j b, j ≠ k → T.lookup j = some b → Apart searched (range r) (range b) := by
  rw [sound_iff] at hT ⊢
  have hsymm (hr : (range r).WellFormed) (j : κ) (b : ρ) (hj : T.lookup j = some b)
      (h : Apart searched (range r) (range b)) : Apart searched (range b) (range r) :=
    h.symm hr (hT.1 j b hj)
  constructor
  · rintro ⟨hwf, hapart⟩
    have hr := hwf k r (AList.lookup_insert T)
    exact ⟨hr, (hT.2.insert_iff k (hsymm hr)).mp hapart⟩
  · rintro ⟨hr, hothers⟩
    refine ⟨fun i a hi => ?_, (hT.2.insert_iff k (hsymm hr)).mpr hothers⟩
    rw [Table.lookup_insert] at hi
    split at hi
    · cases hi
      exact hr
    · exact hT.1 i a hi

end Sound

/-! ### What the tests of a request see -/

/-- The bounds and the currency that a request is tested with. -/
structure Tested where
  fromAmount : Rat
  toAmount : Rat
  currency : Text
  deriving DecidableEq, Repr

/-- The column changed a bound. -/
def Rounded (tested : Tested) (stored : AmountRange) : Prop :=
  (stored.fromAmount : Rat) ≠ tested.fromAmount ∨ (stored.toAmount : Rat) ≠ tested.toAmount

section Untested

variable {κ ρ : Type} [DecidableEq κ] (range : ρ → AmountRange) (searched : Text → Prop)

/-- What the tests of a request leave open about the range that it writes: its order where they
did not see both bounds, and the ranges of a currency that they did not look at. Where a bound is
rounded they leave all of it open. -/
structure LeavesSound (T : Table κ ρ) (k : κ) (ordered : Prop) (tested : Tested)
    (stored : AmountRange) : Prop where
  order : ¬ ordered ∨ Rounded tested stored → stored.fromAmount < stored.toAmount
  others : ∀ j b, j ≠ k → T.lookup j = some b →
    (range b).currency ≠ tested.currency ∨ Rounded tested stored →
    Together searched stored (range b) → ¬ overlaps stored.fromAmount stored.toAmount (range b)

variable {range searched}

theorem Sound.insert_tested_iff {T : Table κ ρ} (hT : Sound range searched T) (k : κ) (r : ρ)
    (ordered : Prop) (tested : Tested) (horder : ordered → tested.fromAmount < tested.toAmount)
    (hclear : ∀ j b, j ≠ k → T.lookup j = some b → (range b).currency = tested.currency →
      ¬ overlaps tested.fromAmount tested.toAmount (range b)) :
    Sound range searched (T.insert k r) ↔
      LeavesSound range searched T k ordered tested (range r) := by
  rw [hT.insert_iff]
  constructor
  · rintro ⟨hwf, hothers⟩
    exact ⟨fun _ => hwf, fun j b hjk hj _ => hothers j b hjk hj⟩
  · intro h
    by_cases hrounded : Rounded tested (range r)
    · exact ⟨h.order (.inr hrounded), fun j b hjk hj => h.others j b hjk hj (.inr hrounded)⟩
    · have hbounds := hrounded
      rw [Rounded, not_or, not_not, not_not] at hbounds
      obtain ⟨hfrom, hto⟩ := hbounds
      constructor
      · by_cases hordered : ordered
        · have hlt := horder hordered
          rw [← hfrom, ← hto] at hlt
          exact_mod_cast hlt
        · exact h.order (.inl hordered)
      · intro j b hjk hj htogether
        by_cases hcurrency : (range b).currency = tested.currency
        · rw [hfrom, hto]
          exact hclear j b hjk hj hcurrency
        · exact h.others j b hjk hj (.inl hcurrency) htogether

end Untested

/-! ### The services -/

structure RepaymentRange where
  settingsId : SettingsId
  fromAmount : Int
  toAmount : Int
  repaymentDurationDays : Int
  currency : Text
  deriving DecidableEq, Repr

structure AutoStackingTransactionFee where
  fromAmount : Int
  toAmount : Int
  currency : Text
  feeAmount : Int
  feeCurrency : Text
  deriving DecidableEq, Repr

def RepaymentRange.range (r : RepaymentRange) : AmountRange :=
  ⟨r.fromAmount, r.toAmount, r.currency⟩

def AutoStackingTransactionFee.range (fee : AutoStackingTransactionFee) : AmountRange :=
  ⟨fee.fromAmount, fee.toAmount, fee.currency⟩

/-- `settings` is the one settings row, which the seed writes. -/
structure RangeStore where
  settings : Option SettingsId
  repaymentRanges : Table RangeId RepaymentRange
  transactionFees : Table FeeId AutoStackingTransactionFee

/-- A currency that is `null` is dealt with as an empty one. -/
structure CreateRepaymentRangeDto where
  fromAmount : Rat
  toAmount : Rat
  repaymentDurationDays : Int
  currency : Option Text
  deriving DecidableEq, Repr

structure UpdateRepaymentRangeDto where
  fromAmount : Option Rat
  toAmount : Option Rat
  repaymentDurationDays : Option Int
  currency : Option Text
  deriving DecidableEq, Repr

structure CreateAutoStackingTransactionFeeDto where
  fromAmount : Rat
  toAmount : Rat
  currency : Option Text
  feeAmount : Rat
  feeCurrency : Option Text
  deriving DecidableEq, Repr

structure UpdateAutoStackingTransactionFeeDto where
  fromAmount : Option Rat
  toAmount : Option Rat
  currency : Option Text
  feeAmount : Option Rat
  feeCurrency : Option Text
  deriving DecidableEq, Repr

/-- A number as a `Decimal(78, 0)` column holds it: rounded, and a half away from zero. -/
def columnAmount (amount : Rat) : Int :=
  if 0 ≤ amount then (amount + 1 / 2).floor else (amount - 1 / 2).ceil

/-- `currency || fallback`. -/
def currencyOr (fallback : Text) : Option Text → Text
  | none | some [] => fallback
  | some currency => currency

def ngn : Text := ['N', 'G', 'N']

def usdt : Text := ['U', 'S', 'D', 'T']

/-- The bounds and the currency of an update, resolved with the stored ones. -/
def resolved (upper : Text → Text) (existing : AmountRange) (fromAmount toAmount : Option Rat)
    (currency : Option Text) : Tested where
  fromAmount := fromAmount.getD existing.fromAmount
  toAmount := toAmount.getD existing.toAmount
  currency := currencyOr existing.currency (currency.map upper)

/-- Both bounds of an update are given, so that it is tested that they are in order. -/
def BothGiven (fromAmount toAmount : Option Rat) : Prop :=
  fromAmount.isSome = true ∧ toAmount.isSome = true

instance (fromAmount toAmount : Option Rat) : Decidable (BothGiven fromAmount toAmount) := by
  unfold BothGiven
  infer_instance

/-- A bound as an update leaves it. -/
def writtenAmount (stored : Int) : Option Rat → Int
  | some amount => columnAmount amount
  | none => stored

def checkRangeOverlap (S : RangeStore) (settingsId : SettingsId) (tested : Tested)
    (excludeId : Option RangeId) : Block RangeStore String Unit :=
  require (∀ e ∈ S.repaymentRanges.entries, e.2.settingsId = settingsId →
      e.2.currency = tested.currency → excludeId ≠ some e.1 →
      ¬ overlaps tested.fromAmount tested.toAmount e.2.range)
    "Repayment range overlaps with existing range"

/-- The unique key of the table, in which the row under `k` may stand. -/
def rangeKeyFree (S : RangeStore) (k : RangeId) (r : RepaymentRange) : Prop :=
  ∀ e ∈ S.repaymentRanges.entries, e.1 ≠ k →
    ¬ (e.2.settingsId = r.settingsId ∧ e.2.range = r.range)

instance (S : RangeStore) (k : RangeId) (r : RepaymentRange) : Decidable (rangeKeyFree S k r) := by
  unfold rangeKeyFree
  infer_instance

section Services

variable (upper : Text → Text)

/-- The currency is compared as it is given, and stored in upper case. -/
def createdRange (settingsId : SettingsId) (dto : CreateRepaymentRangeDto) : RepaymentRange where
  settingsId := settingsId
  fromAmount := columnAmount dto.fromAmount
  toAmount := columnAmount dto.toAmount
  repaymentDurationDays := dto.repaymentDurationDays
  currency := upper (currencyOr ngn dto.currency)

def createRepaymentRange (rangeId : RangeId) (dto : CreateRepaymentRangeDto) :
    Block RangeStore String Unit := do
  let S ← read id
  let settingsId ← demand S.settings
    "Urgent liquidity settings not found. Please run the seed to initialize."
  require (dto.fromAmount < dto.toAmount) "from amount must be less than to amount"
  checkRangeOverlap S settingsId
    ⟨dto.fromAmount, dto.toAmount, currencyOr ngn dto.currency⟩ none
  require (S.repaymentRanges.lookup rangeId = none) "P2002"
  require (rangeKeyFree S rangeId (createdRange upper settingsId dto))
    "Repayment range already exists for currency with this amount range"
  update fun S => { S with
    repaymentRanges := S.repaymentRanges.insert rangeId (createdRange upper settingsId dto) }

def updatedRange (existing : RepaymentRange) (dto : UpdateRepaymentRangeDto) :
    RepaymentRange where
  settingsId := existing.settingsId
  fromAmount := writtenAmount existing.fromAmount dto.fromAmount
  toAmount := writtenAmount existing.toAmount dto.toAmount
  repaymentDurationDays := dto.repaymentDurationDays.getD existing.repaymentDurationDays
  currency := match dto.currency with
    | some currency => upper (currencyOr existing.currency (some (upper currency)))
    | none => existing.currency

def updateRepaymentRange (rangeId : RangeId) (dto : UpdateRepaymentRangeDto) :
    Block RangeStore String Unit := do
  let S ← read id
  let existing ← demand (S.repaymentRanges.lookup rangeId) "Repayment range not found"
  let tested := resolved upper existing.range dto.fromAmount dto.toAmount dto.currency
  require (BothGiven dto.fromAmount dto.toAmount → tested.fromAmount < tested.toAmount)
    "from amount must be less than to amount"
  checkRangeOverlap S existing.settingsId tested (some rangeId)
  require (rangeKeyFree S rangeId (updatedRange upper existing dto)) "P2002"
  update fun S => { S with
    repaymentRanges := S.repaymentRanges.insert rangeId (updatedRange upper existing dto) }

def deleteRepaymentRange (rangeId : RangeId) : Block RangeStore String Unit := do
  let S ← read id
  let _ ← demand (S.repaymentRanges.lookup rangeId) "Repayment range not found"
  update fun S => { S with repaymentRanges := S.repaymentRanges.erase rangeId }

def checkFeeOverlap (S : RangeStore) (tested : Tested) (excludeId : Option FeeId) :
    Block RangeStore String Unit :=
  require (∀ e ∈ S.transactionFees.entries, e.2.currency = tested.currency →
      excludeId ≠ some e.1 → ¬ overlaps tested.fromAmount tested.toAmount e.2.range)
    "Transaction fee range overlaps with existing range"

def feeKeyFree (S : RangeStore) (k : FeeId) (fee : AutoStackingTransactionFee) : Prop :=
  ∀ e ∈ S.transactionFees.entries, e.1 ≠ k → e.2.range ≠ fee.range

instance (S : RangeStore) (k : FeeId) (fee : AutoStackingTransactionFee) :
    Decidable (feeKeyFree S k fee) := by
  unfold feeKeyFree
  infer_instance

def createdFee (dto : CreateAutoStackingTransactionFeeDto) : AutoStackingTransactionFee where
  fromAmount := columnAmount dto.fromAmount
  toAmount := columnAmount dto.toAmount
  currency := upper (currencyOr ngn dto.currency)
  feeAmount := columnAmount dto.feeAmount
  feeCurrency := upper (currencyOr ngn dto.feeCurrency)

def createTransactionFee (feeId : FeeId) (dto : CreateAutoStackingTransactionFeeDto) :
    Block RangeStore String Unit := do
  let S ← read id
  require (dto.fromAmount < dto.toAmount) "fromAmount must be less than toAmount"
  checkFeeOverlap S ⟨dto.fromAmount, dto.toAmount, upper (currencyOr ngn dto.currency)⟩ none
  require (S.transactionFees.lookup feeId = none) "P2002"
  require (feeKeyFree S feeId (createdFee upper dto))
    "Transaction fee already exists for currency with this amount range"
  update fun S => { S with
    transactionFees := S.transactionFees.insert feeId (createdFee upper dto) }

def updatedFee (existing : AutoStackingTransactionFee)
    (dto : UpdateAutoStackingTransactionFeeDto) : AutoStackingTransactionFee where
  fromAmount := writtenAmount existing.fromAmount dto.fromAmount
  toAmount := writtenAmount existing.toAmount dto.toAmount
  currency := currencyOr existing.currency (dto.currency.map upper)
  feeAmount := writtenAmount existing.feeAmount dto.feeAmount
  feeCurrency := (dto.feeCurrency.map upper).getD existing.feeCurrency

def updateTransactionFee (feeId : FeeId) (dto : UpdateAutoStackingTransactionFeeDto) :
    Block RangeStore String Unit := do
  let S ← read id
  let existing ← demand (S.transactionFees.lookup feeId) "Transaction fee not found"
  let tested := resolved upper existing.range dto.fromAmount dto.toAmount dto.currency
  require (BothGiven dto.fromAmount dto.toAmount → tested.fromAmount < tested.toAmount)
    "fromAmount must be less than toAmount"
  checkFeeOverlap S tested (some feeId)
  require (feeKeyFree S feeId (updatedFee upper existing dto)) "P2002"
  update fun S => { S with
    transactionFees := S.transactionFees.insert feeId (updatedFee upper existing dto) }

def deleteTransactionFee (feeId : FeeId) : Block RangeStore String Unit := do
  let S ← read id
  let _ ← demand (S.transactionFees.lookup feeId) "Transaction fee not found"
  update fun S => { S with transactionFees := S.transactionFees.erase feeId }

/-! ### Sequences of requests -/

inductive RangeRequest where
  | createRange (rangeId : RangeId) (dto : CreateRepaymentRangeDto)
  | updateRange (rangeId : RangeId) (dto : UpdateRepaymentRangeDto)
  | deleteRange (rangeId : RangeId)
  | createFee (feeId : FeeId) (dto : CreateAutoStackingTransactionFeeDto)
  | updateFee (feeId : FeeId) (dto : UpdateAutoStackingTransactionFeeDto)
  | deleteFee (feeId : FeeId)

def RangeRequest.block : RangeRequest → Block RangeStore String Unit
  | .createRange rangeId dto => createRepaymentRange upper rangeId dto
  | .updateRange rangeId dto => updateRepaymentRange upper rangeId dto
  | .deleteRange rangeId => deleteRepaymentRange rangeId
  | .createFee feeId dto => createTransactionFee upper feeId dto
  | .updateFee feeId dto => updateTransactionFee upper feeId dto
  | .deleteFee feeId => deleteTransactionFee feeId

def rangeStep (r : RangeRequest) (S : RangeStore) : RangeStore := (r.block upper).commit S

/-- `findRepaymentRange` goes through the ranges of every currency, and the fee of a stack is looked
up in USDT. -/
structure StoreSound (S : RangeStore) : Prop where
  owned : ∀ i r, S.repaymentRanges.lookup i = some r → S.settings = some r.settingsId
  ranges : Sound RepaymentRange.range (fun _ => True) S.repaymentRanges
  fees : Sound AutoStackingTransactionFee.range (· = usdt) S.transactionFees

/-- A request whose tests leave the table sound. A repayment range is compared under the currency
as it is given, and stored in upper case; an update with one bound is not tested for the order. -/
def Clear (S : RangeStore) : RangeRequest → Prop
  | .createRange rangeId dto =>
    (createRepaymentRange upper rangeId dto).Accepts S →
      ∀ settingsId, S.settings = some settingsId →
        LeavesSound RepaymentRange.range (fun _ => True) S.repaymentRanges rangeId True
          ⟨dto.fromAmount, dto.toAmount, currencyOr ngn dto.currency⟩
          (createdRange upper settingsId dto).range
  | .updateRange rangeId dto =>
    (updateRepaymentRange upper rangeId dto).Accepts S →
      ∀ existing, S.repaymentRanges.lookup rangeId = some existing →
        LeavesSound RepaymentRange.range (fun _ => True) S.repaymentRanges rangeId
          (BothGiven dto.fromAmount dto.toAmount)
          (resolved upper existing.range dto.fromAmount dto.toAmount dto.currency)
          (updatedRange upper existing dto).range
  | .createFee feeId dto =>
    (createTransactionFee upper feeId dto).Accepts S →
      LeavesSound AutoStackingTransactionFee.range (· = usdt) S.transactionFees feeId True
        ⟨dto.fromAmount, dto.toAmount, upper (currencyOr ngn dto.currency)⟩
        (createdFee upper dto).range
  | .updateFee feeId dto =>
    (updateTransactionFee upper feeId dto).Accepts S →
      ∀ existing, S.transactionFees.lookup feeId = some existing →
        LeavesSound AutoStackingTransactionFee.range (· = usdt) S.transactionFees feeId
          (BothGiven dto.fromAmount dto.toAmount)
          (resolved upper existing.range dto.fromAmount dto.toAmount dto.currency)
          (updatedFee upper existing dto).range
  | .deleteRange _ | .deleteFee _ => True

variable {upper}

theorem StoreSound.with_range_iff {S : RangeStore} (hS : StoreSound S) (k : RangeId)
    {r : RepaymentRange} (hr : S.settings = some r.settingsId) :
    StoreSound { S with repaymentRanges := S.repaymentRanges.insert k r } ↔
      Sound RepaymentRange.range (fun _ => True) (S.repaymentRanges.insert k r) := by
  constructor
  · exact fun h => h.ranges
  · intro h
    refine ⟨fun i a hi => ?_, h, hS.fees⟩
    rw [Table.lookup_insert] at hi
    split at hi
    · cases hi
      exact hr
    · exact hS.owned i a hi

theorem StoreSound.with_fee_iff {S : RangeStore} (hS : StoreSound S) (k : FeeId)
    (fee : AutoStackingTransactionFee) :
    StoreSound { S with transactionFees := S.transactionFees.insert k fee } ↔
      Sound AutoStackingTransactionFee.range (· = usdt) (S.transactionFees.insert k fee) :=
  ⟨fun h => h.fees, fun h => ⟨hS.owned, hS.ranges, h⟩⟩

theorem refused_iff {x : Block RangeStore String Unit} {S : RangeStore} (hS : StoreSound S)
    (h : ¬ x.Accepts S) (C : Prop) : StoreSound (x.commit S) ↔ (x.Accepts S → C) := by
  rw [commit_of_refused h]
  exact ⟨fun _ hacc => absurd hacc h, fun _ => hS⟩

theorem createRange_sound_iff {S : RangeStore} (hS : StoreSound S) (rangeId : RangeId)
    (dto : CreateRepaymentRangeDto) :
    StoreSound (rangeStep upper (.createRange rangeId dto) S) ↔
      Clear upper S (.createRange rangeId dto) := by
  by_cases hacc : (createRepaymentRange upper rangeId dto).Accepts S
  · obtain ⟨u, M, hM⟩ := id hacc
    have hstep : rangeStep upper (.createRange rangeId dto) S = M := commit_of_commits hM
    simp only [createRepaymentRange, checkRangeOverlap, commits_read_bind, commits_demand_bind,
      commits_require_bind, commits_update, id_eq] at hM
    obtain ⟨settingsId, hsettings, hlt, hclear, hfresh, -, rfl⟩ := hM
    rw [hstep, hS.with_range_iff rangeId hsettings,
      hS.ranges.insert_tested_iff rangeId _ True
        ⟨dto.fromAmount, dto.toAmount, currencyOr ngn dto.currency⟩ (fun _ => hlt) ?_]
    · constructor
      · intro h _ other hother
        rw [hsettings] at hother
        cases hother
        exact h
      · exact fun h => h hacc settingsId hsettings
    · intro j b _ hj hcurrency
      have howned := hS.owned j b hj
      rw [hsettings] at howned
      cases howned
      exact hclear ⟨j, b⟩ (AList.mem_lookup_iff.mp hj) rfl hcurrency (by simp)
  · exact refused_iff hS hacc _

theorem updateRange_sound_iff {S : RangeStore} (hS : StoreSound S) (rangeId : RangeId)
    (dto : UpdateRepaymentRangeDto) :
    StoreSound (rangeStep upper (.updateRange rangeId dto) S) ↔
      Clear upper S (.updateRange rangeId dto) := by
  by_cases hacc : (updateRepaymentRange upper rangeId dto).Accepts S
  · obtain ⟨u, M, hM⟩ := id hacc
    have hstep : rangeStep upper (.updateRange rangeId dto) S = M := commit_of_commits hM
    simp only [updateRepaymentRange, checkRangeOverlap, commits_read_bind, commits_demand_bind,
      commits_require_bind, commits_update, id_eq] at hM
    obtain ⟨existing, hexisting, horder, hclear, -, rfl⟩ := hM
    have howned := hS.owned rangeId existing hexisting
    rw [hstep, hS.with_range_iff rangeId (r := updatedRange upper existing dto) howned,
      hS.ranges.insert_tested_iff rangeId _ _ _ horder ?_]
    · constructor
      · intro h _ other hother
        rw [hexisting] at hother
        cases hother
        exact h
      · exact fun h => h hacc existing hexisting
    · intro j b hj hb hcurrency
      have hsame := hS.owned j b hb
      rw [howned] at hsame
      exact hclear ⟨j, b⟩ (AList.mem_lookup_iff.mp hb) (Option.some.inj hsame).symm hcurrency
        (by simpa using Ne.symm hj)
  · exact refused_iff hS hacc _

theorem createFee_sound_iff {S : RangeStore} (hS : StoreSound S) (feeId : FeeId)
    (dto : CreateAutoStackingTransactionFeeDto) :
    StoreSound (rangeStep upper (.createFee feeId dto) S) ↔
      Clear upper S (.createFee feeId dto) := by
  by_cases hacc : (createTransactionFee upper feeId dto).Accepts S
  · obtain ⟨u, M, hM⟩ := id hacc
    have hstep : rangeStep upper (.createFee feeId dto) S = M := commit_of_commits hM
    simp only [createTransactionFee, checkFeeOverlap, commits_read_bind, commits_require_bind,
      commits_update, id_eq] at hM
    obtain ⟨hlt, hclear, -, -, rfl⟩ := hM
    rw [hstep, hS.with_fee_iff, hS.fees.insert_tested_iff feeId _ True
        ⟨dto.fromAmount, dto.toAmount, upper (currencyOr ngn dto.currency)⟩ (fun _ => hlt) ?_]
    · exact ⟨fun h _ => h, fun h => h hacc⟩
    · intro j b _ hj hcurrency
      exact hclear ⟨j, b⟩ (AList.mem_lookup_iff.mp hj) hcurrency (by simp)
  · exact refused_iff hS hacc _

theorem updateFee_sound_iff {S : RangeStore} (hS : StoreSound S) (feeId : FeeId)
    (dto : UpdateAutoStackingTransactionFeeDto) :
    StoreSound (rangeStep upper (.updateFee feeId dto) S) ↔
      Clear upper S (.updateFee feeId dto) := by
  by_cases hacc : (updateTransactionFee upper feeId dto).Accepts S
  · obtain ⟨u, M, hM⟩ := id hacc
    have hstep : rangeStep upper (.updateFee feeId dto) S = M := commit_of_commits hM
    simp only [updateTransactionFee, checkFeeOverlap, commits_read_bind, commits_demand_bind,
      commits_require_bind, commits_update, id_eq] at hM
    obtain ⟨existing, hexisting, horder, hclear, -, rfl⟩ := hM
    rw [hstep, hS.with_fee_iff, hS.fees.insert_tested_iff feeId _ _ _ horder ?_]
    · constructor
      · intro h _ other hother
        rw [hexisting] at hother
        cases hother
        exact h
      · exact fun h => h hacc existing hexisting
    · intro j b hj hb hcurrency
      exact hclear ⟨j, b⟩ (AList.mem_lookup_iff.mp hb) hcurrency (by simpa using Ne.symm hj)
  · exact refused_iff hS hacc _

theorem deleteRange_sound {S : RangeStore} (hS : StoreSound S) (rangeId : RangeId) :
    StoreSound (rangeStep upper (.deleteRange rangeId) S) := by
  refine Preserves.commit ?_ hS
  intro T u M hT h
  simp only [RangeRequest.block, deleteRepaymentRange, commits_read_bind, commits_demand_bind,
    commits_update] at h
  obtain ⟨-, -, rfl⟩ := h
  refine ⟨fun i r hi => ?_, hT.ranges.erase rangeId, hT.fees⟩
  by_cases hik : i = rangeId
  · subst hik
    simp at hi
  · rw [AList.lookup_erase_ne hik] at hi
    exact hT.owned i r hi

theorem deleteFee_sound {S : RangeStore} (hS : StoreSound S) (feeId : FeeId) :
    StoreSound (rangeStep upper (.deleteFee feeId) S) := by
  refine Preserves.commit ?_ hS
  intro T u M hT h
  simp only [RangeRequest.block, deleteTransactionFee, commits_read_bind, commits_demand_bind,
    commits_update] at h
  obtain ⟨-, -, rfl⟩ := h
  exact ⟨hT.owned, hT.ranges, hT.fees.erase feeId⟩

theorem rangeStep_sound_iff {S : RangeStore} (hS : StoreSound S) (r : RangeRequest) :
    StoreSound (rangeStep upper r S) ↔ Clear upper S r := by
  cases r with
  | createRange rangeId dto => exact createRange_sound_iff hS rangeId dto
  | updateRange rangeId dto => exact updateRange_sound_iff hS rangeId dto
  | deleteRange rangeId => exact ⟨fun _ => trivial, fun _ => deleteRange_sound hS rangeId⟩
  | createFee feeId dto => exact createFee_sound_iff hS feeId dto
  | updateFee feeId dto => exact updateFee_sound_iff hS feeId dto
  | deleteFee feeId => exact ⟨fun _ => trivial, fun _ => deleteFee_sound hS feeId⟩

end Services

/-- Both tables stay sound throughout exactly the sequences of requests whose tests leave them
so. -/
theorem ranges_sound_iff (upper : Text → Text) (S : RangeStore) (hS : StoreSound S)
    (requests : List RangeRequest) :
    Run.Throughout (rangeStep upper) StoreSound S requests ↔
      Run.Along (rangeStep upper) (Clear upper) S requests :=
  Run.throughout_iff_along (fun _ r h => rangeStep_sound_iff h r) hS

/-- The seeded settings, without ranges. -/
def seededStore : RangeStore := ⟨some 1, ∅, ∅⟩

theorem seededStore_sound : StoreSound seededStore := by
  constructor
  · intro i r hi
    cases hi
  · exact sound_empty
  · exact sound_empty

/-- Thirty days for loans between two amounts. -/
def rangeDto (fromAmount toAmount : Rat) (currency : Text) : CreateRepaymentRangeDto :=
  ⟨fromAmount, toAmount, 30, some currency⟩

theorem two_ranges_iff :
    Run.Throughout (rangeStep (·.map Char.toUpper)) StoreSound seededStore
        [.createRange 1 (rangeDto 100 200 ngn), .createRange 2 (rangeDto 300 400 ngn)] ↔
      Run.Along (rangeStep (·.map Char.toUpper)) (Clear (·.map Char.toUpper)) seededStore
        [.createRange 1 (rangeDto 100 200 ngn), .createRange 2 (rangeDto 300 400 ngn)] :=
  ranges_sound_iff _ seededStore seededStore_sound _

/-- A range in lower case is accepted over a stored one. -/
theorem lower_case_overlaps :
    ¬ Run.Throughout (rangeStep (·.map Char.toUpper)) StoreSound seededStore
      [.createRange 1 (rangeDto 100 200 ngn),
        .createRange 2 (rangeDto 150 250 ['n', 'g', 'n'])] := by
  intro h
  have hfirst : (Run.final (rangeStep (·.map Char.toUpper)) seededStore
      [.createRange 1 (rangeDto 100 200 ngn),
        .createRange 2 (rangeDto 150 250 ['n', 'g', 'n'])]).repaymentRanges.lookup 1 =
      some ⟨1, 100, 200, 30, ngn⟩ := by decide +kernel
  have hsecond : (Run.final (rangeStep (·.map Char.toUpper)) seededStore
      [.createRange 1 (rangeDto 100 200 ngn),
        .createRange 2 (rangeDto 150 250 ['n', 'g', 'n'])]).repaymentRanges.lookup 2 =
      some ⟨1, 150, 250, 30, ngn⟩ := by decide +kernel
  have hshare := h.last.ranges.disjoint 1 2 _ _ (by decide) hfirst hsecond rfl 160
  exact hshare ⟨by decide +kernel, by decide +kernel⟩

end AmountRanges

end ExchangeLedger
