import ExchangeLedger.AmountRanges
import ExchangeLedger.LiquidityQuotes
import ExchangeLedger.SettingsCache
import Mathlib.Data.List.Sort

set_option autoImplicit false

/-! The settings of urgent liquidity: how the admin service changes them, and the terms that
`confirm` takes from their cache. -/

namespace ExchangeLedger

open Block

namespace LoanSettings

open AmountRanges CryptoBuffer
open CollateralSales (Quote)
open LiquidityQuotes (LoanAmounts confirmAmounts)

/-- The percents are in hundredths. -/
structure UrgentLiquiditySettings where
  id : SettingsId
  maxLoanRequest : Int
  loanFeePercent : Int
  settlementPercent : Int
  collateralPercent : Int
  liquidationDeadlineDays : Int
  liquidationFeePercent : Int
  deriving DecidableEq, Repr

structure UpdateUrgentLiquiditySettingsDto where
  maxLoanRequest : Option Rat
  loanFeePercent : Option Decimal
  settlementPercent : Option Decimal
  collateralPercent : Option Decimal
  liquidationDeadlineDays : Option Int
  liquidationFeePercent : Option Decimal

structure Store where
  settings : Option UrgentLiquiditySettings
  repaymentRanges : Table RangeId RepaymentRange

def updatedMaxLoanRequest (stored : Int) : Option Rat → Except String Int
  | some amount =>
    if amount < 0 then .error "maxLoanRequest must be non-negative" else .ok (columnAmount amount)
  | none => .ok stored

def updatedDeadline (stored : Int) : Option Int → Except String Int
  | some days => if days < 1 then .error "liquidationDeadlineDays must be at least 1" else .ok days
  | none => .ok stored

def updatedSettings (settings : UrgentLiquiditySettings) (dto : UpdateUrgentLiquiditySettingsDto) :
    Except String UrgentLiquiditySettings := do
  let maxLoanRequest ← updatedMaxLoanRequest settings.maxLoanRequest dto.maxLoanRequest
  let loanFeePercent ←
    optionalPercent "loanFeePercent" 100 settings.loanFeePercent dto.loanFeePercent
  let settlementPercent ←
    optionalPercent "settlementPercent" 100 settings.settlementPercent dto.settlementPercent
  let collateralPercent ←
    optionalPercent "collateralPercent" 100 settings.collateralPercent dto.collateralPercent
  let liquidationDeadlineDays ←
    updatedDeadline settings.liquidationDeadlineDays dto.liquidationDeadlineDays
  let liquidationFeePercent ←
    optionalPercent "liquidationFeePercent" 100 settings.liquidationFeePercent
      dto.liquidationFeePercent
  return {
    id := settings.id
    maxLoanRequest := maxLoanRequest
    loanFeePercent := loanFeePercent
    settlementPercent := settlementPercent
    collateralPercent := collateralPercent
    liquidationDeadlineDays := liquidationDeadlineDays
    liquidationFeePercent := liquidationFeePercent }

def notInitialized : String :=
  "Urgent liquidity settings not found. Please run the seed to initialize."

def updateSettings (dto : UpdateUrgentLiquiditySettingsDto) : Block Store String Unit := do
  let S ← read id
  let settings ← demand S.settings notInitialized
  let updated ← attempt (updatedSettings settings dto)
  update fun S => { S with settings := some updated }

/-! ### The ranges -/

section Ranges

variable (upper : Text → Text)

/-- The currency of a range in a bulk request is compared in upper case. -/
def bulkTested (dto : CreateRepaymentRangeDto) : Tested :=
  ⟨dto.fromAmount, dto.toAmount, upper (currencyOr ngn dto.currency)⟩

/-- A range of a bulk request that goes into `validationErrors`. -/
def Invalid (S : RangeStore) (settingsId : SettingsId) (dto : CreateRepaymentRangeDto) : Prop :=
  dto.toAmount ≤ dto.fromAmount ∨
    ∃ e ∈ S.repaymentRanges.entries, e.2.settingsId = settingsId ∧
      e.2.currency = (bulkTested upper dto).currency ∧
      overlaps dto.fromAmount dto.toAmount e.2.range

instance (S : RangeStore) (settingsId : SettingsId) (dto : CreateRepaymentRangeDto) :
    Decidable (Invalid upper S settingsId dto) := by
  unfold Invalid
  infer_instance

/-- The test of two ranges of a bulk request, the earlier one first. -/
def NewOverlap (a b : Tested) : Prop :=
  a.currency = b.currency ∧
    ((b.fromAmount ≤ a.fromAmount ∧ a.fromAmount ≤ b.toAmount) ∨
      (b.fromAmount ≤ a.toAmount ∧ a.toAmount ≤ b.toAmount) ∨
      (a.fromAmount < b.fromAmount ∧ b.toAmount < a.toAmount))

instance (a b : Tested) : Decidable (NewOverlap a b) := by
  unfold NewOverlap
  infer_instance

def createRow (rangeId : RangeId) (r : RepaymentRange) : Block RangeStore String Unit := do
  let S ← read id
  require (S.repaymentRanges.lookup rangeId = none) "P2002"
  require (rangeKeyFree S rangeId r)
    "One or more repayment ranges already exist. Please check for duplicates."
  update fun S => { S with repaymentRanges := S.repaymentRanges.insert rangeId r }

def createRows : List (RangeId × RepaymentRange) → Block RangeStore String Unit
  | [] => pure ()
  | row :: rows => do
    createRow row.1 row.2
    createRows rows

def bulkCreateRepaymentRanges (ranges : List (RangeId × CreateRepaymentRangeDto)) :
    Block RangeStore String Unit := do
  require (ranges ≠ []) "No ranges provided"
  let S ← read id
  let settingsId ← demand S.settings notInitialized
  let invalid := ranges.countP fun range => Invalid upper S settingsId range.2
  require (invalid = 0)
    (toString invalid ++
      " range(s) failed validation. Please review the errors and try again.")
  require (ranges.Pairwise fun a b => ¬ NewOverlap (bulkTested upper a.2) (bulkTested upper b.2))
    "New repayment ranges have overlapping amounts"
  createRows (ranges.map fun range => (range.1, createdRange upper settingsId range.2))

inductive RangeEdit where
  | create (rangeId : RangeId) (dto : CreateRepaymentRangeDto)
  | update (rangeId : RangeId) (dto : UpdateRepaymentRangeDto)
  | delete (rangeId : RangeId)
  | bulkCreate (ranges : List (RangeId × CreateRepaymentRangeDto))

def RangeEdit.block : RangeEdit → Block RangeStore String Unit
  | .create rangeId dto => createRepaymentRange upper rangeId dto
  | .update rangeId dto => updateRepaymentRange upper rangeId dto
  | .delete rangeId => deleteRepaymentRange rangeId
  | .bulkCreate ranges => bulkCreateRepaymentRanges upper ranges

/-- The tables that the range requests see. -/
def Store.rangeStore (S : Store) : RangeStore :=
  ⟨S.settings.map (·.id), S.repaymentRanges, ∅⟩

def editRanges (e : RangeEdit) : Block Store String Unit :=
  within Store.rangeStore (fun T S => { S with repaymentRanges := T.repaymentRanges })
    (e.block upper)

end Ranges

/-! ### The cache -/

structure CachedRepaymentRange where
  id : RangeId
  fromAmount : Int
  toAmount : Int
  repaymentDurationDays : Int
  currency : Text
  deriving DecidableEq, Repr

abbrev RangeRow := Sigma fun _ : RangeId => RepaymentRange

def cachedRange (row : RangeRow) : CachedRepaymentRange :=
  ⟨row.1, row.2.fromAmount, row.2.toAmount, row.2.repaymentDurationDays, row.2.currency⟩

/-- `findMany({ orderBy: { fromAmount: 'asc' } })`. -/
def findMany (rows : List RangeRow) : List CachedRepaymentRange :=
  (rows.map cachedRange).mergeSort fun a b => a.fromAmount ≤ b.fromAmount

/-- `UrgentLiquiditySettingsCacheService`, with the writes of the settings service. -/
def urgentLiquidity (upper : Text → Text) :
    SettingsCache.Service Store UrgentLiquiditySettings CachedRepaymentRange
      UpdateUrgentLiquiditySettingsDto RangeEdit where
  findSettings := Store.settings
  findRows S := findMany S.repaymentRanges.entries
  rowsOf S settings := findMany (S.repaymentRanges.entries.filter (·.2.settingsId = settings.id))
  updateSettings := updateSettings
  editRows := editRanges upper

abbrev State := SettingsCache.State Store UrgentLiquiditySettings CachedRepaymentRange

abbrev Request := SettingsCache.Request UpdateUrgentLiquiditySettingsDto RangeEdit

def findRepaymentRange (ranges : List CachedRepaymentRange) (amount : Rat) :
    Option CachedRepaymentRange :=
  ranges.find? fun range => (range.fromAmount : Rat) ≤ amount ∧ amount ≤ range.toAmount

/-- What the new row of a loan has from the settings. -/
structure LoanTerms where
  amounts : LoanAmounts
  interestRate : Int
  repaymentDurationDays : Int
  settlementPercent : Int
  collateralPercent : Int
  deriving DecidableEq, Repr

/-- The part of `confirm` that reads the settings. -/
def confirmTerms (networks : ConvertCurrency.DefaultNetworkCache)
    (answer : Option (UrgentLiquiditySettings × List CachedRepaymentRange)) (q : Quote) :
    Except String LoanTerms :=
  match answer with
  | none => .error "Urgent liquidity settings not configured. Please contact support."
  | some (settings, ranges) => do
    let amounts ← confirmAmounts networks q ⟨settings.loanFeePercent, -2⟩
    return {
      amounts := amounts
      interestRate := settings.loanFeePercent
      repaymentDurationDays := match findRepaymentRange ranges q.loanAmount.value with
        | some range => range.repaymentDurationDays
        | none => 30
      settlementPercent := settings.settlementPercent
      collateralPercent := settings.collateralPercent }

/-! ### The writes keep the rows with the settings -/

/-- The ranges belong to the one settings row. -/
def Owned (S : Store) : Prop :=
  ∀ i r, S.repaymentRanges.lookup i = some r → S.settings.map (·.id) = some r.settingsId

/-- The same of the tables that the range requests see, with the settings row left as it is. -/
structure RangesOwned (settingsId : Option SettingsId) (S : RangeStore) : Prop where
  settings : S.settings = settingsId
  owned : ∀ i r, S.repaymentRanges.lookup i = some r → settingsId = some r.settingsId

theorem RangesOwned.insert {settingsId : Option SettingsId} {S : RangeStore}
    (h : RangesOwned settingsId S) (k : RangeId) {r : RepaymentRange}
    (hr : settingsId = some r.settingsId) :
    RangesOwned settingsId { S with repaymentRanges := S.repaymentRanges.insert k r } := by
  constructor
  · exact h.settings
  · intro i a hi
    rw [Table.lookup_insert] at hi
    split at hi
    · cases hi
      exact hr
    · exact h.owned i a hi

theorem createRow_owned {settingsId : Option SettingsId} (k : RangeId) {r : RepaymentRange}
    (hr : settingsId = some r.settingsId) :
    Preserves (RangesOwned settingsId) (createRow k r) := by
  intro S u M hS h
  simp only [createRow, commits_read_bind, commits_require_bind, commits_update] at h
  obtain ⟨-, -, rfl⟩ := h
  exact hS.insert k hr

theorem createRows_owned {settingsId : Option SettingsId} (rows : List (RangeId × RepaymentRange))
    (hrows : ∀ row ∈ rows, settingsId = some row.2.settingsId) :
    Preserves (RangesOwned settingsId) (createRows rows) := by
  induction rows with
  | nil => exact preserves_pure ()
  | cons row rows ih =>
    simp only [List.mem_cons, forall_eq_or_imp] at hrows
    exact preserves_bind (createRow_owned row.1 hrows.1) fun _ => ih hrows.2

theorem edit_owned (upper : Text → Text) (settingsId : Option SettingsId) (e : RangeEdit) :
    Preserves (RangesOwned settingsId) (e.block upper) := by
  intro S u M hS h
  cases e with
  | create k dto =>
    simp only [RangeEdit.block, createRepaymentRange, checkRangeOverlap, commits_read_bind,
      commits_demand_bind, commits_require_bind, commits_update, id_eq] at h
    obtain ⟨own, hown, -, -, -, -, rfl⟩ := h
    exact hS.insert k (r := createdRange upper own dto) (hS.settings.symm.trans hown)
  | update k dto =>
    simp only [RangeEdit.block, updateRepaymentRange, checkRangeOverlap, commits_read_bind,
      commits_demand_bind, commits_require_bind, commits_update, id_eq] at h
    obtain ⟨existing, hexisting, -, -, -, rfl⟩ := h
    exact hS.insert k (r := updatedRange upper existing dto) (hS.owned k existing hexisting)
  | delete k =>
    simp only [RangeEdit.block, deleteRepaymentRange, commits_read_bind, commits_demand_bind,
      commits_update] at h
    obtain ⟨-, -, rfl⟩ := h
    exact ⟨hS.settings, fun i r hi => hS.owned i r (Table.lookup_of_erase hi)⟩
  | bulkCreate ranges =>
    simp only [RangeEdit.block, bulkCreateRepaymentRanges, commits_read_bind, commits_demand_bind,
      commits_require_bind, id_eq] at h
    obtain ⟨-, own, hown, -, -, h⟩ := h
    refine createRows_owned _ ?_ S u M hS h
    simp only [List.mem_map, forall_exists_index, and_imp]
    rintro row range - rfl
    exact hS.settings.symm.trans hown

theorem updatedSettings_id {settings updated : UrgentLiquiditySettings}
    {dto : UpdateUrgentLiquiditySettingsDto} (h : updatedSettings settings dto = .ok updated) :
    updated.id = settings.id := by
  unfold updatedSettings at h
  simp only [ok_bind, pure, Except.pure, Except.ok.injEq] at h
  obtain ⟨_, -, _, -, _, -, _, -, _, -, _, -, rfl⟩ := h
  rfl

theorem lawful (upper : Text → Text) : SettingsCache.Lawful (urgentLiquidity upper) Owned := by
  constructor
  · intro S settings hS hsettings
    have hall (row : RangeRow) (hrow : row ∈ S.repaymentRanges.entries) :
        decide (row.2.settingsId = settings.id) = true := by
      have hown := hS row.1 row.2 (AList.mem_lookup_iff.mpr hrow)
      rw [show S.settings = some settings from hsettings] at hown
      simpa using (Option.some.inj hown).symm
    show findMany (S.repaymentRanges.entries.filter _) = findMany S.repaymentRanges.entries
    rw [List.filter_eq_self.mpr hall]
  · intro dto S u M hS h
    simp only [urgentLiquidity, updateSettings, commits_read_bind, commits_demand_bind,
      commits_attempt_bind, commits_update, id_eq] at h
    obtain ⟨settings, hsettings, updated, hupdated, rfl⟩ := h
    refine ⟨fun i r hi => ?_, rfl⟩
    have hown := hS i r hi
    rw [hsettings] at hown
    simpa [updatedSettings_id hupdated] using hown
  · intro e S u M hS h
    simp only [urgentLiquidity, editRanges, commits_within] at h
    obtain ⟨T, hT, rfl⟩ := h
    have howned : RangesOwned (S.settings.map (·.id)) S.rangeStore := ⟨rfl, hS⟩
    exact ⟨(edit_owned upper _ e S.rangeStore u T howned hT).owned, rfl⟩

/-! ### The terms of a loan -/

theorem mem_findMany {range : CachedRepaymentRange} {T : Table RangeId RepaymentRange} :
    range ∈ findMany T.entries ↔ ∃ i r, T.lookup i = some r ∧ cachedRange ⟨i, r⟩ = range := by
  simp only [findMany, List.mem_mergeSort, List.mem_map]
  constructor
  · rintro ⟨row, hrow, rfl⟩
    exact ⟨row.1, row.2, AList.mem_lookup_iff.mpr hrow, rfl⟩
  · rintro ⟨i, r, hi, rfl⟩
    exact ⟨⟨i, r⟩, AList.mem_lookup_iff.mp hi, rfl⟩

theorem findRepaymentRange_of_contains {T : Table RangeId RepaymentRange} {i : RangeId}
    {r : RepaymentRange} (hi : T.lookup i = some r) {amount : Rat} (h : r.range.Contains amount)
    (hone : ∀ j b, T.lookup j = some b → b.range.Contains amount → j = i) :
    findRepaymentRange (findMany T.entries) amount = some (cachedRange ⟨i, r⟩) := by
  unfold findRepaymentRange
  cases hfind : (findMany T.entries).find? fun range =>
      decide ((range.fromAmount : Rat) ≤ amount ∧ amount ≤ range.toAmount) with
  | none =>
    have hnone := List.find?_eq_none.mp hfind _ (mem_findMany.mpr ⟨i, r, hi, rfl⟩)
    exact absurd (decide_eq_true h) hnone
  | some range =>
    obtain ⟨j, b, hj, rfl⟩ := mem_findMany.mp (List.mem_of_find?_eq_some hfind)
    have hin := List.find?_some hfind
    have hb : b.range.Contains amount := of_decide_eq_true hin
    obtain rfl := hone j b hj hb
    rw [hi] at hj
    cases hj
    rfl

theorem findRepaymentRange_eq_none {T : Table RangeId RepaymentRange} {amount : Rat} :
    findRepaymentRange (findMany T.entries) amount = none ↔
      ∀ i r, T.lookup i = some r → ¬ r.range.Contains amount := by
  simp only [findRepaymentRange, List.find?_eq_none, mem_findMany]
  constructor
  · intro h i r hi hr
    exact h _ ⟨i, r, hi, rfl⟩ (decide_eq_true hr)
  · rintro h _ ⟨i, r, hi, rfl⟩ hr
    exact h i r hi (of_decide_eq_true hr)

/-- After a start, a loan is confirmed at the percents that the settings had then, however they
have been updated since, and repaid in the time that the ranges of the database say. The answers of
the cache are those of the database exactly while the settings are what they were. -/
theorem loan_terms_since_start (networks : ConvertCurrency.DefaultNetworkCache)
    (upper : Text → Text) (s : State) (hs : Owned s.store) (before after : List Request)
    (hafter : .onModuleInit ∉ after) (settings : UrgentLiquiditySettings)
    (hsettings :
      (Run.final (SettingsCache.step (urgentLiquidity upper)) s before).store.settings =
        some settings) :
    let t := Run.final (SettingsCache.step (urgentLiquidity upper)) s
      (before ++ .onModuleInit :: after)
    (∀ q terms, confirmTerms networks (SettingsCache.answer (urgentLiquidity upper) t) q =
        .ok terms →
      confirmAmounts networks q ⟨settings.loanFeePercent, -2⟩ = .ok terms.amounts ∧
        terms.interestRate = settings.loanFeePercent ∧
        terms.settlementPercent = settings.settlementPercent ∧
        terms.collateralPercent = settings.collateralPercent ∧
        (∀ i r, t.store.repaymentRanges.lookup i = some r →
          r.range.Contains q.loanAmount.value →
          (∀ j b, t.store.repaymentRanges.lookup j = some b →
            b.range.Contains q.loanAmount.value → j = i) →
          terms.repaymentDurationDays = r.repaymentDurationDays) ∧
        ((∀ i r, t.store.repaymentRanges.lookup i = some r →
            ¬ r.range.Contains q.loanAmount.value) → terms.repaymentDurationDays = 30)) ∧
      (SettingsCache.answer (urgentLiquidity upper) t =
          SettingsCache.load (urgentLiquidity upper) t.store ↔
        t.store.settings = some settings) := by
  intro t
  have hold := SettingsCache.holds_since_start (lawful upper) hs before hafter hsettings
  constructor
  · intro q terms h
    have hrows : (urgentLiquidity upper).findRows t.store =
        findMany t.store.repaymentRanges.entries := rfl
    rw [hold.answer, hrows] at h
    simp only [confirmTerms, ok_bind, pure, Except.pure, Except.ok.injEq] at h
    obtain ⟨amounts, hamounts, rfl⟩ := h
    refine ⟨hamounts, rfl, rfl, rfl, ?_, ?_⟩
    · intro i r hi hr hone
      simp only [findRepaymentRange_of_contains hi hr hone]
      rfl
    · intro hnone
      simp only [findRepaymentRange_eq_none.mpr hnone]
  · exact hold.answer_eq_load_iff (lawful upper)

/-- The defaults of the schema. -/
def seeded : UrgentLiquiditySettings := ⟨1, 100000, 500, 1000, 1500, 7, 500⟩

/-- A loan fee of eight percent. -/
def raisedFee : UpdateUrgentLiquiditySettingsDto := ⟨none, some ⟨8, 0⟩, none, none, none, none⟩

/-- A fee that is raised after the start is in the database and not in the answers. -/
theorem raised_fee_is_unserved :
    SettingsCache.answer (urgentLiquidity (·.map Char.toUpper))
        (Run.final (SettingsCache.step (urgentLiquidity (·.map Char.toUpper)))
          ⟨⟨some seeded, ∅⟩, .empty⟩ ([] ++ .onModuleInit :: [.updateSettings raisedFee])) ≠
      SettingsCache.load (urgentLiquidity (·.map Char.toUpper))
        (Run.final (SettingsCache.step (urgentLiquidity (·.map Char.toUpper)))
          ⟨⟨some seeded, ∅⟩, .empty⟩
          ([] ++ .onModuleInit :: [.updateSettings raisedFee])).store := by
  intro h
  have hsettings := (loan_terms_since_start (fun _ => none) (·.map Char.toUpper)
    ⟨⟨some seeded, ∅⟩, .empty⟩ (by intro i r hi; cases hi) [] [.updateSettings raisedFee]
    (by simp) seeded rfl).2.mp h
  have hraised : (Run.final (SettingsCache.step (urgentLiquidity (·.map Char.toUpper)))
      ⟨⟨some seeded, ∅⟩, .empty⟩
      ([] ++ .onModuleInit :: [.updateSettings raisedFee])).store.settings.map (·.loanFeePercent) =
      some 800 := by decide +kernel
  rw [hsettings] at hraised
  exact absurd hraised (by decide)

end LoanSettings

end ExchangeLedger
