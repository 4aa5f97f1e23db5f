import ExchangeLedger.DefaultNetworks

set_option autoImplicit false

/-! The buffer-rate tiers of the cryptocurrencies: the admin service that creates, patches and
deletes them, and the tier that a quote finds. -/

namespace ExchangeLedger

open Block

abbrev CryptoId := Nat
abbrev BufferTierId := Nat

/-- The percent columns are `Decimal(5, 2)`, held here in hundredths. -/
structure CryptoCurrency where
  name : Text
  symbol : Text
  logoUrl : Option Text
  description : Option Text
  defaultBufferPercent : Int
  maxBufferPercent : Int
  deriving DecidableEq, Repr

structure BufferTier where
  cryptoId : Option CryptoId
  orderType : Option OrderType
  minAmount : Int
  maxAmount : Int
  bufferPercent : Int
  deriving DecidableEq, Repr

structure BufferStore where
  cryptos : Table CryptoId CryptoCurrency
  tiers : Table BufferTierId BufferTier

structure CreateBufferTierDto where
  orderType : Option OrderType
  minAmount : Text
  maxAmount : Text
  bufferPercent : Option Decimal
  deriving DecidableEq, Repr

/-- A bound that is `null` or empty is resolved as one that is not given. -/
structure PatchBufferTierDto where
  id : BufferTierId
  minAmount : Option Text
  maxAmount : Option Text
  bufferPercent : Option Decimal
  deriving DecidableEq, Repr

structure PatchCryptoDto where
  name : Option Text
  symbol : Option Text
  logoUrl : Option Text
  description : Option Text
  defaultBufferPercent : Option Decimal
  maxBufferPercent : Option Decimal
  tiers : List PatchBufferTierDto
  deriving DecidableEq, Repr

def Currency.all : List Currency :=
  [.btc, .usdt, .usdc, .eth, .bnb, .doge, .xrp, .sol, .link, .trx, .ngn, .usd]

def Currency.ofSymbol (symbol : Text) : Option Currency := Currency.all.find? (·.symbol = symbol)

namespace CryptoBuffer

open ConvertCurrency (DefaultNetworkCache toLowerCase)

/-- `new Decimal(percent).toDecimalPlaces(2, Decimal.ROUND_UP)` in hundredths: away from zero. -/
def hundredthsUp (percent : Decimal) : Int :=
  if 0 ≤ percent.exp + 2 then percent.mant * 10 ^ (percent.exp + 2).toNat
  else percent.mant.sign *
    ((percent.mant.natAbs + (10 ^ (-(percent.exp + 2)).toNat - 1)) /
      10 ^ (-(percent.exp + 2)).toNat : Nat)

/-- A percent of a request, checked to lie between 0 and `max`. -/
def percentOf (field : String) (max : Nat) (percent : Decimal) : Except String Int :=
  if percent.value < 0 ∨ (max : Rat) < percent.value then
    .error (field ++ " must be between 0 and " ++ toString max)
  else .ok (hundredthsUp percent)

def optionalPercent (field : String) (max : Nat) (stored : Int) : Option Decimal → Except String Int
  | some percent => percentOf field max percent
  | none => .ok stored

def assertValidRange (context : String) : Option Int → Option Int → Except String Unit
  | some min, some max =>
    if max < min then .error ("maxAmount cannot be lower than minAmount (" ++ context ++ ")")
    else .ok ()
  | _, _ => .ok ()

/-- `ConvertCurrency.toBase(amount, crypto.symbol)`. -/
def toBase (networks : DefaultNetworkCache) (amount symbol : Text) : Except String Int :=
  match Currency.ofSymbol (toLowerCase symbol) with
  | some currency => ConvertCurrency.toBase networks amount currency
  | none => .error "Unsupported currency"

/-- The test of a new tier against a stored one. A minimum of zero is falsy. -/
def overlapsExisting (minAmount maxAmount : Int) (tier : BufferTier) : Prop :=
  minAmount ≠ 0 ∧ minAmount ≤ tier.maxAmount ∧ (maxAmount = 0 ∨ tier.minAmount ≤ maxAmount)

instance (minAmount maxAmount : Int) (tier : BufferTier) :
    Decidable (overlapsExisting minAmount maxAmount tier) := by
  unfold overlapsExisting
  infer_instance

/-- The row of a new tier. -/
def createdTier (networks : DefaultNetworkCache) (cryptoId : CryptoId) (symbol : Text)
    (dto : CreateBufferTierDto) : Except String BufferTier := do
  let bufferPercent ← dto.bufferPercent.elim
    (.error "bufferPercent must be between 0 and 100") (percentOf "bufferPercent" 100)
  let minAmount ← toBase networks dto.minAmount symbol
  let maxAmount ← toBase networks dto.maxAmount symbol
  assertValidRange "create buffer tier" (some minAmount) (some maxAmount)
  return { cryptoId := some cryptoId, orderType := dto.orderType, minAmount, maxAmount
           bufferPercent }

def createBufferTier (networks : DefaultNetworkCache) (cryptoId : CryptoId) (tierId : BufferTierId)
    (dto : CreateBufferTierDto) : Block BufferStore String Unit := do
  let S ← read id
  let crypto ← demand (S.cryptos.lookup cryptoId) "Cryptocurrency not found"
  let tier ← attempt (createdTier networks cryptoId crypto.symbol dto)
  require (∀ existing ∈ S.tiers.entries, existing.2.cryptoId = some cryptoId →
      existing.2.orderType = dto.orderType →
      ¬ overlapsExisting tier.minAmount tier.maxAmount existing.2)
    "This buffer tier overlaps with an existing tier"
  require (S.tiers.lookup tierId = none) "P2002"
  update fun S => { S with tiers := S.tiers.insert tierId tier }

/-- A bound of a tier patch, and what the range check sees of it: a stored bound is an object, and
a converted one a `bigint`, falsy when zero. -/
def resolvedBound (networks : DefaultNetworkCache) (symbol : Text) (existing : Int) :
    Option Text → Except String (Int × Option Int)
  | none | some [] => .ok (existing, some existing)
  | some amount => do
    let bound ← toBase networks amount symbol
    return (bound, if bound = 0 then none else some bound)

/-- A tier as a patch leaves it. -/
def patchedTier (networks : DefaultNetworkCache) (symbol : Text) (patch : PatchBufferTierDto)
    (existingTier : BufferTier) : Except String BufferTier := do
  let resolvedMin ← resolvedBound networks symbol existingTier.minAmount patch.minAmount
  let resolvedMax ← resolvedBound networks symbol existingTier.maxAmount patch.maxAmount
  assertValidRange ("patch tier " ++ toString patch.id) resolvedMin.2 resolvedMax.2
  let bufferPercent ←
    optionalPercent "bufferPercent" 100 existingTier.bufferPercent patch.bufferPercent
  return { existingTier with
    minAmount := resolvedMin.1, maxAmount := resolvedMax.1, bufferPercent }

def patchTiers (networks : DefaultNetworkCache) (cryptoId : CryptoId) (symbol : Text) :
    List PatchBufferTierDto → Block BufferStore String Unit
  | [] => pure ()
  | patch :: patches => do
    let S ← read id
    let existingTier ← demand (S.tiers.lookup patch.id)
      "Buffer tier not found for this cryptocurrency"
    require (existingTier.cryptoId = some cryptoId)
      "Buffer tier not found for this cryptocurrency"
    let tier ← attempt (patchedTier networks symbol patch existingTier)
    update fun S => { S with tiers := S.tiers.insert patch.id tier }
    patchTiers networks cryptoId symbol patches

/-- The symbol that a patch gives a cryptocurrency, which no other may have. -/
def patchedSymbol (S : BufferStore) (existing : Text) : Option Text → Except String Text
  | some symbol =>
    if symbol ≠ existing ∧ ∃ row ∈ S.cryptos.entries, row.2.symbol = symbol then
      .error "Symbol already in use"
    else .ok symbol
  | none => .ok existing

/-- The row of a cryptocurrency as a patch leaves it. -/
def patchedCrypto (S : BufferStore) (dto : PatchCryptoDto) (crypto : CryptoCurrency) :
    Except String CryptoCurrency := do
  let symbol ← patchedSymbol S crypto.symbol dto.symbol
  let defaultBufferPercent ←
    optionalPercent "defaultBufferPercent" 50 crypto.defaultBufferPercent dto.defaultBufferPercent
  let maxBufferPercent ←
    optionalPercent "maxBufferPercent" 100 crypto.maxBufferPercent dto.maxBufferPercent
  return {
    name := dto.name.getD crypto.name
    symbol
    logoUrl := dto.logoUrl.or crypto.logoUrl
    description := dto.description.or crypto.description
    defaultBufferPercent
    maxBufferPercent }

/-- The transaction of `patchCrypto`. The tiers are converted under the old symbol. -/
def patchCrypto (networks : DefaultNetworkCache) (cryptoId : CryptoId) (dto : PatchCryptoDto) :
    Block BufferStore String Unit := do
  let S ← read id
  let crypto ← demand (S.cryptos.lookup cryptoId) "Cryptocurrency not found"
  let updated ← attempt (patchedCrypto S dto crypto)
  update fun S => { S with cryptos := S.cryptos.insert cryptoId updated }
  patchTiers networks cryptoId crypto.symbol dto.tiers

def deleteBufferTier (cryptoId : CryptoId) (tierId : BufferTierId) :
    Block BufferStore String Unit := do
  let S ← read id
  let _ ← demand (S.cryptos.lookup cryptoId) "Cryptocurrency not found"
  let tier ← demand (S.tiers.lookup tierId) "Buffer tier not found for this cryptocurrency"
  require (tier.cryptoId = some cryptoId) "Buffer tier not found for this cryptocurrency"
  update fun S => { S with tiers := S.tiers.erase tierId }

/-! ### The tier of a quote -/

/-- A quote's test of a tier. -/
def Matches (orderType : OrderType) (amountMinor : Int) (tier : BufferTier) : Prop :=
  (tier.orderType = none ∨ tier.orderType = some orderType) ∧
    tier.minAmount ≤ amountMinor ∧ amountMinor ≤ tier.maxAmount

instance (orderType : OrderType) (amountMinor : Int) (tier : BufferTier) :
    Decidable (Matches orderType amountMinor tier) := by
  unfold Matches
  infer_instance

/-- The percent of a quote, for a cryptocurrency and its tiers in the order they are read. -/
def getEffectiveBufferPercent (crypto : CryptoCurrency) (tiers : List BufferTier)
    (orderType : OrderType) (amountMinor : Int) : Except String Rat :=
  let bufferPercent := match tiers.find? (Matches orderType amountMinor) with
    | some tier => tier.bufferPercent
    | none => if 0 < crypto.defaultBufferPercent then crypto.defaultBufferPercent else 0
  if bufferPercent = 0 ∧ tiers = [] ∧ ¬ 0 < crypto.defaultBufferPercent then
    .error "No buffer configuration"
  else if 0 < crypto.maxBufferPercent ∧ crypto.maxBufferPercent < bufferPercent then
    .ok (crypto.maxBufferPercent / 100 / 100)
  else .ok (bufferPercent / 100 / 100)

/-- The tiers of a cryptocurrency. -/
def tiersOf (S : BufferStore) (cryptoId : CryptoId) : List BufferTier :=
  (S.tiers.entries.filter (·.2.cryptoId = some cryptoId)).map Sigma.snd

/-- No amount and order type has two tiers, and the order of the rows does not show in a quote. -/
structure Unambiguous (S : BufferStore) : Prop where
  once : ∀ cryptoId orderType amount i j a b,
    S.tiers.lookup i = some a → S.tiers.lookup j = some b →
    a.cryptoId = some cryptoId → b.cryptoId = some cryptoId →
    Matches orderType amount a → Matches orderType amount b → i = j
  percent : ∀ cryptoId crypto orderType amount tiers, tiers.Perm (tiersOf S cryptoId) →
    getEffectiveBufferPercent crypto tiers orderType amount =
      getEffectiveBufferPercent crypto (tiersOf S cryptoId) orderType amount

/-- Two tiers of one cryptocurrency apply to a common order type and share an amount. -/
def Meets (a b : BufferTier) : Prop :=
  (a.cryptoId ≠ none ∧ a.cryptoId = b.cryptoId) ∧
    (a.orderType = none ∨ b.orderType = none ∨ a.orderType = b.orderType) ∧
    (a.minAmount ≤ a.maxAmount ∧ a.minAmount ≤ b.maxAmount) ∧
    (b.minAmount ≤ a.maxAmount ∧ b.minAmount ≤ b.maxAmount)

theorem Meets.symm {a b : BufferTier} (h : Meets a b) : Meets b a := by
  obtain ⟨⟨hne, heq⟩, htype, ha, hb⟩ := h
  refine ⟨⟨heq ▸ hne, heq.symm⟩, ?_, hb.symm, ha.symm⟩
  rcases htype with h | h | h
  · exact .inr (.inl h)
  · exact .inl h
  · exact .inr (.inr h.symm)

theorem meets_of_matches {cryptoId : CryptoId} {orderType : OrderType} {amount : Int}
    {a b : BufferTier} (ha : a.cryptoId = some cryptoId) (hb : b.cryptoId = some cryptoId)
    (hma : Matches orderType amount a) (hmb : Matches orderType amount b) : Meets a b := by
  obtain ⟨hta, hma⟩ := hma
  obtain ⟨htb, hmb⟩ := hmb
  refine ⟨⟨by simp [ha], by rw [ha, hb]⟩, ?_, by omega, by omega⟩
  rcases hta with hta | hta
  · exact .inl hta
  · rcases htb with htb | htb
    · exact .inr (.inl htb)
    · exact .inr (.inr (hta.trans htb.symm))

theorem Meets.exists_matches {a b : BufferTier} (h : Meets a b) :
    ∃ cryptoId orderType amount, a.cryptoId = some cryptoId ∧ b.cryptoId = some cryptoId ∧
      Matches orderType amount a ∧ Matches orderType amount b := by
  obtain ⟨⟨hne, heq⟩, htype, ha, hb⟩ := h
  obtain ⟨cryptoId, hid⟩ := Option.ne_none_iff_exists'.mp hne
  -- the larger of the two minima lies in both
  have hboth (orderType : OrderType) (hta : a.orderType = none ∨ a.orderType = some orderType)
      (htb : b.orderType = none ∨ b.orderType = some orderType) :
      Matches orderType (max a.minAmount b.minAmount) a ∧
        Matches orderType (max a.minAmount b.minAmount) b :=
    ⟨⟨hta, by omega⟩, ⟨htb, by omega⟩⟩
  obtain ⟨orderType, hta, htb⟩ : ∃ orderType,
      (a.orderType = none ∨ a.orderType = some orderType) ∧
        (b.orderType = none ∨ b.orderType = some orderType) := by
    cases hoa : a.orderType with
    | none =>
      cases hob : b.orderType with
      | none => exact ⟨.BUY, .inl rfl, .inl rfl⟩
      | some o => exact ⟨o, .inl rfl, .inr rfl⟩
    | some o =>
      refine ⟨o, .inr rfl, ?_⟩
      rcases htype with h | h | h
      · rw [hoa] at h
        cases h
      · exact .inl h
      · exact .inr (h.symm.trans hoa)
  exact ⟨cryptoId, orderType, _, hid, heq ▸ hid, hboth orderType hta htb⟩

/-- Where at most one element of a list has a property, its order does not matter to `find?`. -/
theorem find?_eq_of_perm {α : Type} {p : α → Bool} {l l' : List α} (h : l.Perm l')
    (hp : l'.Pairwise fun a b => ¬ (p a = true ∧ p b = true)) : l.find? p = l'.find? p := by
  cases hl : l.find? p with
  | none =>
    symm
    rw [List.find?_eq_none] at hl ⊢
    exact fun a ha => hl a (h.mem_iff.mpr ha)
  | some a =>
    have hpa := List.find?_some hl
    have ha := h.mem_iff.mp (List.mem_of_find?_eq_some hl)
    cases hl' : l'.find? p with
    | none => exact absurd hpa (List.find?_eq_none.mp hl' a ha)
    | some b =>
      have hpb := List.find?_some hl'
      have hb := List.mem_of_find?_eq_some hl'
      by_contra hne
      have hsymm : Std.Symm fun a b : α => ¬ (p a = true ∧ p b = true) :=
        ⟨fun a b hab hba => hab hba.symm⟩
      exact hp.forall ha hb (by rintro rfl; exact hne rfl) ⟨hpa, hpb⟩

theorem mem_tiersOf {S : BufferStore} {cryptoId : CryptoId} {a : BufferTier} :
    a ∈ tiersOf S cryptoId ↔ a.cryptoId = some cryptoId ∧ ∃ i, S.tiers.lookup i = some a := by
  simp only [tiersOf, List.mem_map, List.mem_filter, decide_eq_true_eq]
  constructor
  · rintro ⟨⟨i, a⟩, ⟨he, hid⟩, rfl⟩
    exact ⟨hid, i, AList.mem_lookup_iff.mpr he⟩
  · rintro ⟨hid, i, hi⟩
    exact ⟨⟨i, a⟩, ⟨AList.mem_lookup_iff.mp hi, hid⟩, rfl⟩

theorem tiersOf_pairwise {S : BufferStore} (hS : S.tiers.PairwiseRows fun a b => ¬ Meets a b)
    (cryptoId : CryptoId) : (tiersOf S cryptoId).Pairwise fun a b => ¬ Meets a b := by
  have hkeys := List.nodupKeys_iff_pairwise.mp S.tiers.nodupKeys
  rw [tiersOf, List.pairwise_map]
  refine List.Pairwise.filter _ (hkeys.imp_of_mem ?_)
  intro e f he hf hne
  exact hS e.1 f.1 e.2 f.2 hne (AList.mem_lookup_iff.mpr he) (AList.mem_lookup_iff.mpr hf)

theorem unambiguous_iff {S : BufferStore} :
    Unambiguous S ↔ S.tiers.PairwiseRows fun a b => ¬ Meets a b := by
  constructor
  · intro h i j a b hij hi hj hmeet
    obtain ⟨cryptoId, orderType, amount, ha, hb, hma, hmb⟩ := hmeet.exists_matches
    exact hij (h.once cryptoId orderType amount i j a b hi hj ha hb hma hmb)
  · intro h
    constructor
    · intro cryptoId orderType amount i j a b hi hj ha hb hma hmb
      by_contra hij
      exact h i j a b hij hi hj (meets_of_matches ha hb hma hmb)
    · intro cryptoId crypto orderType amount tiers hperm
      have hone : (tiersOf S cryptoId).Pairwise fun a b =>
          ¬ (decide (Matches orderType amount a) = true ∧
            decide (Matches orderType amount b) = true) := by
        refine (tiersOf_pairwise h cryptoId).imp_of_mem ?_
        intro a b ha hb hmeet hmatch
        simp only [decide_eq_true_eq] at hmatch
        exact hmeet (meets_of_matches (mem_tiersOf.mp ha).1 (mem_tiersOf.mp hb).1
          hmatch.1 hmatch.2)
      have hnil : tiers = [] ↔ tiersOf S cryptoId = [] := by
        rw [← List.length_eq_zero_iff, ← List.length_eq_zero_iff, hperm.length_eq]
      simp only [getEffectiveBufferPercent, find?_eq_of_perm hperm hone, hnil]

/-! ### Sequences of requests -/

/-- The requests of the admin. A bulk patch is its patches, one after the other. -/
inductive TierRequest where
  | create (networks : DefaultNetworkCache) (cryptoId : CryptoId) (tierId : BufferTierId)
      (dto : CreateBufferTierDto)
  | patch (networks : DefaultNetworkCache) (cryptoId : CryptoId) (dto : PatchCryptoDto)
  | delete (cryptoId : CryptoId) (tierId : BufferTierId)

def TierRequest.block : TierRequest → Block BufferStore String Unit
  | .create networks cryptoId tierId dto => createBufferTier networks cryptoId tierId dto
  | .patch networks cryptoId dto => patchCrypto networks cryptoId dto
  | .delete cryptoId tierId => deleteBufferTier cryptoId tierId

def tierStep (r : TierRequest) (S : BufferStore) : BufferStore := r.block.commit S

/-- The request is not refused. -/
def Accepts (x : Block BufferStore String Unit) (S : BufferStore) : Prop :=
  ∃ M, x.Commits S () M

theorem commit_of_not_accepts {x : Block BufferStore String Unit} {S : BufferStore}
    (h : ¬ Accepts x S) : x.commit S = S := by
  rcases x.commit_cases S with hsame | ⟨a, ha⟩
  · exact hsame
  · exact absurd ⟨_, ha⟩ h

/-- A tier after the patches of a request that are for it. -/
def tierAfter (networks : DefaultNetworkCache) (symbol : Text)
    (patches : List PatchBufferTierDto) (i : BufferTierId) (tier : BufferTier) :
    Except String BufferTier :=
  (patches.filter (·.id = i)).foldlM (fun t p => patchedTier networks symbol p t) tier

theorem createBufferTier_commits {networks : DefaultNetworkCache} {cryptoId : CryptoId}
    {tierId : BufferTierId} {dto : CreateBufferTierDto} {S M : BufferStore} :
    (createBufferTier networks cryptoId tierId dto).Commits S () M ↔
      ∃ crypto tier, S.cryptos.lookup cryptoId = some crypto ∧
        createdTier networks cryptoId crypto.symbol dto = .ok tier ∧
        (∀ existing ∈ S.tiers.entries, existing.2.cryptoId = some cryptoId →
          existing.2.orderType = dto.orderType →
          ¬ overlapsExisting tier.minAmount tier.maxAmount existing.2) ∧
        S.tiers.lookup tierId = none ∧
        { S with tiers := S.tiers.insert tierId tier } = M := by
  simp only [createBufferTier, commits_read_bind, commits_demand_bind, commits_attempt_bind,
    commits_require_bind, commits_update, id_eq, exists_and_left]

theorem createdTier_fields {networks : DefaultNetworkCache} {cryptoId : CryptoId} {symbol : Text}
    {dto : CreateBufferTierDto} {tier : BufferTier}
    (h : createdTier networks cryptoId symbol dto = .ok tier) :
    tier.cryptoId = some cryptoId ∧ tier.orderType = dto.orderType := by
  simp only [createdTier, ok_bind] at h
  obtain ⟨percent, -, minAmount, -, maxAmount, -, -, -, h⟩ := h
  cases h
  exact ⟨rfl, rfl⟩

theorem patchTiers_commits {networks : DefaultNetworkCache} {cryptoId : CryptoId} {symbol : Text}
    {patches : List PatchBufferTierDto} {S M : BufferStore}
    (h : (patchTiers networks cryptoId symbol patches).Commits S () M) :
    M.cryptos = S.cryptos ∧ ∀ i, (S.tiers.lookup i = none → M.tiers.lookup i = none) ∧
      ∀ t, S.tiers.lookup i = some t →
        ∃ u, tierAfter networks symbol patches i t = .ok u ∧ M.tiers.lookup i = some u := by
  induction patches generalizing S with
  | nil =>
    rw [patchTiers, commits_pure] at h
    obtain ⟨-, rfl⟩ := h
    exact ⟨rfl, fun i => ⟨id, fun t ht => ⟨t, rfl, ht⟩⟩⟩
  | cons patch patches ih =>
    simp only [patchTiers, commits_read_bind, commits_demand_bind, commits_require_bind,
      commits_attempt_bind, commits_update_bind, id_eq] at h
    obtain ⟨existing, hexisting, -, tier, htier, h⟩ := h
    obtain ⟨hcryptos, hrows⟩ := ih h
    refine ⟨hcryptos, fun i => ?_⟩
    obtain ⟨hnone, hsome⟩ := hrows i
    rw [Table.lookup_insert] at hnone hsome
    by_cases hi : i = patch.id
    · subst hi
      refine ⟨fun hmissing => ?_, fun t ht => ?_⟩
      · rw [hmissing] at hexisting
        cases hexisting
      · rw [hexisting] at ht
        cases ht
        obtain ⟨u, hu, hM⟩ := hsome tier (if_pos rfl)
        refine ⟨u, ?_, hM⟩
        rw [tierAfter, List.filter_cons_of_pos (by simp), List.foldlM_cons, htier]
        exact hu
    · rw [if_neg hi] at hnone hsome
      refine ⟨hnone, fun t ht => ?_⟩
      obtain ⟨u, hu, hM⟩ := hsome t ht
      refine ⟨u, ?_, hM⟩
      rw [tierAfter, List.filter_cons_of_neg (by simpa using Ne.symm hi)]
      exact hu

theorem patchCrypto_commits {networks : DefaultNetworkCache} {cryptoId : CryptoId}
    {dto : PatchCryptoDto} {S M : BufferStore}
    (h : (patchCrypto networks cryptoId dto).Commits S () M) :
    ∃ crypto updated, S.cryptos.lookup cryptoId = some crypto ∧
      patchedCrypto S dto crypto = .ok updated ∧
      M.cryptos = S.cryptos.insert cryptoId updated ∧
      ∀ i, (S.tiers.lookup i = none → M.tiers.lookup i = none) ∧
        ∀ t, S.tiers.lookup i = some t →
          ∃ u, tierAfter networks crypto.symbol dto.tiers i t = .ok u ∧
            M.tiers.lookup i = some u := by
  simp only [patchCrypto, commits_read_bind, commits_demand_bind, commits_attempt_bind,
    commits_update_bind, id_eq] at h
  obtain ⟨crypto, hcrypto, updated, hupdated, h⟩ := h
  obtain ⟨hcryptos, hrows⟩ := patchTiers_commits h
  exact ⟨crypto, updated, hcrypto, hupdated, hcryptos, hrows⟩

/-- A request that brings no two tiers together. A new tier has to be clear of those that the
service does not test it against: those of another order type, and all of them if it starts at
zero. Patches are not tested at all. -/
def Clear (S : BufferStore) : TierRequest → Prop
  | .create networks cryptoId tierId dto =>
    Accepts (createBufferTier networks cryptoId tierId dto) S →
      ∀ crypto tier, S.cryptos.lookup cryptoId = some crypto →
        createdTier networks cryptoId crypto.symbol dto = .ok tier →
        ∀ j stored, S.tiers.lookup j = some stored →
          stored.orderType ≠ tier.orderType ∨ tier.minAmount = 0 → ¬ Meets tier stored
  | .patch networks cryptoId dto =>
    Accepts (patchCrypto networks cryptoId dto) S →
      ∀ crypto, S.cryptos.lookup cryptoId = some crypto →
        ∀ i j t u t' u', i ≠ j → i ∈ dto.tiers.map PatchBufferTierDto.id →
          S.tiers.lookup i = some t → S.tiers.lookup j = some u →
          tierAfter networks crypto.symbol dto.tiers i t = .ok t' →
          tierAfter networks crypto.symbol dto.tiers j u = .ok u' → ¬ Meets t' u'
  | .delete _ _ => True

/-- No row meets another. -/
def Apart (S : BufferStore) : Prop := S.tiers.PairwiseRows fun a b => ¬ Meets a b

theorem create_apart_iff {networks : DefaultNetworkCache} {cryptoId : CryptoId}
    {tierId : BufferTierId} {dto : CreateBufferTierDto} {S : BufferStore} (hS : Apart S) :
    Apart (tierStep (.create networks cryptoId tierId dto) S) ↔
      Clear S (.create networks cryptoId tierId dto) := by
  by_cases hacc : Accepts (createBufferTier networks cryptoId tierId dto) S
  · obtain ⟨M, hM⟩ := hacc
    have hstep : tierStep (.create networks cryptoId tierId dto) S = M := commit_of_commits hM
    obtain ⟨crypto, tier, hcrypto, htier, htest, hfresh, rfl⟩ := createBufferTier_commits.mp hM
    obtain ⟨hid, htype⟩ := createdTier_fields htier
    rw [hstep, Apart]
    dsimp only
    rw [hS.insert_iff _ fun _ _ _ hab hba => hab hba.symm]
    constructor
    · intro h _ crypto' tier' hcrypto' htier' j stored hj _
      rw [hcrypto] at hcrypto'
      cases hcrypto'
      rw [htier] at htier'
      cases htier'
      exact h j stored (by rintro rfl; rw [hfresh] at hj; cases hj) hj
    · intro h j stored _ hj hmeet
      refine h ⟨_, hM⟩ crypto tier hcrypto htier j stored hj ?_ hmeet
      by_contra hmissed
      rw [not_or, not_not] at hmissed
      obtain ⟨⟨-, hsame⟩, -, ha, hb⟩ := hmeet
      exact htest ⟨j, stored⟩ (AList.mem_lookup_iff.mp hj) (by rw [← hsame, hid])
        (hmissed.1.trans htype) ⟨hmissed.2, ha.2, .inr hb.1⟩
  · have hstep : tierStep (.create networks cryptoId tierId dto) S = S :=
      commit_of_not_accepts hacc
    rw [hstep]
    exact ⟨fun _ h => absurd h hacc, fun _ => hS⟩

theorem tierAfter_unpatched {networks : DefaultNetworkCache} {symbol : Text}
    {patches : List PatchBufferTierDto} {i : BufferTierId}
    (hi : i ∉ patches.map PatchBufferTierDto.id) (t : BufferTier) :
    tierAfter networks symbol patches i t = .ok t := by
  have hnil : patches.filter (·.id = i) = [] := by
    rw [List.filter_eq_nil_iff]
    intro p hp hpi
    exact hi (List.mem_map.mpr ⟨p, hp, by simpa using hpi⟩)
  rw [tierAfter, hnil]
  rfl

theorem patch_apart_iff {networks : DefaultNetworkCache} {cryptoId : CryptoId}
    {dto : PatchCryptoDto} {S : BufferStore} (hS : Apart S) :
    Apart (tierStep (.patch networks cryptoId dto) S) ↔
      Clear S (.patch networks cryptoId dto) := by
  by_cases hacc : Accepts (patchCrypto networks cryptoId dto) S
  · obtain ⟨M, hM⟩ := hacc
    have hstep : tierStep (.patch networks cryptoId dto) S = M := commit_of_commits hM
    obtain ⟨crypto, updated, hcrypto, -, -, hrows⟩ := patchCrypto_commits hM
    have hrow (i : BufferTierId) {a : BufferTier} (ha : M.tiers.lookup i = some a) :
        ∃ t, S.tiers.lookup i = some t ∧
          tierAfter networks crypto.symbol dto.tiers i t = .ok a := by
      cases ht : S.tiers.lookup i with
      | none =>
        rw [(hrows i).1 ht] at ha
        cases ha
      | some t =>
        obtain ⟨u, hu, hMu⟩ := (hrows i).2 t ht
        rw [hMu] at ha
        cases ha
        exact ⟨t, rfl, hu⟩
    rw [hstep]
    constructor
    · intro h _ crypto' hcrypto' i j t u t' u' hij _ ht hu ht' hu'
      rw [hcrypto] at hcrypto'
      cases hcrypto'
      obtain ⟨a, ha, hMa⟩ := (hrows i).2 t ht
      obtain ⟨b, hb, hMb⟩ := (hrows j).2 u hu
      rw [ht'] at ha
      rw [hu'] at hb
      cases ha
      cases hb
      exact h i j t' u' hij hMa hMb
    · intro h i j a b hij ha hb hmeet
      obtain ⟨t, ht, hta⟩ := hrow i ha
      obtain ⟨u, hu, hub⟩ := hrow j hb
      by_cases hi : i ∈ dto.tiers.map PatchBufferTierDto.id
      · exact h ⟨M, hM⟩ crypto hcrypto i j t u a b hij hi ht hu hta hub hmeet
      · by_cases hj : j ∈ dto.tiers.map PatchBufferTierDto.id
        · exact h ⟨M, hM⟩ crypto hcrypto j i u t b a (Ne.symm hij) hj hu ht hub hta hmeet.symm
        · rw [tierAfter_unpatched hi] at hta
          rw [tierAfter_unpatched hj] at hub
          cases hta
          cases hub
          exact hS i j _ _ hij ht hu hmeet
  · have hstep : tierStep (.patch networks cryptoId dto) S = S := commit_of_not_accepts hacc
    rw [hstep]
    exact ⟨fun _ h => absurd h hacc, fun _ => hS⟩

theorem delete_apart {cryptoId : CryptoId} {tierId : BufferTierId} {S : BufferStore}
    (hS : Apart S) : Apart (tierStep (.delete cryptoId tierId) S) := by
  refine Preserves.commit ?_ hS
  intro T u M hT h
  simp only [TierRequest.block, deleteBufferTier, commits_read_bind, commits_demand_bind,
    commits_require_bind, commits_update] at h
  obtain ⟨-, -, -, -, -, rfl⟩ := h
  exact hT.erase tierId

theorem step_unambiguous_iff {S : BufferStore} (hS : Unambiguous S) (r : TierRequest) :
    Unambiguous (tierStep r S) ↔ Clear S r := by
  rw [unambiguous_iff] at hS ⊢
  cases r with
  | create networks cryptoId tierId dto => exact create_apart_iff hS
  | patch networks cryptoId dto => exact patch_apart_iff hS
  | delete cryptoId tierId => exact ⟨fun _ => trivial, fun _ => delete_apart hS⟩

/-- The tiers stay unambiguous throughout exactly the sequences of requests that bring no two of
them together. -/
theorem tiers_unambiguous_iff (S : BufferStore) (hS : Unambiguous S)
    (requests : List TierRequest) :
    Run.Throughout tierStep Unambiguous S requests ↔ Run.Along tierStep Clear S requests :=
  Run.throughout_iff_along (fun _ r h => step_unambiguous_iff h r) hS

/-- Bitcoin alone, without tiers. -/
def bitcoinStore : BufferStore where
  cryptos := (∅ : Table CryptoId CryptoCurrency).insert 1
    { name := ['B', 'i', 't', 'c', 'o', 'i', 'n'], symbol := ['B', 'T', 'C'], logoUrl := none
      description := none, defaultBufferPercent := 0, maxBufferPercent := 0 }
  tiers := ∅

theorem bitcoinStore_unambiguous : Unambiguous bitcoinStore := by
  rw [unambiguous_iff]
  intro i j a b _ hi
  cases hi

/-- A tier for any order type, from `min` to `max`, at one percent. -/
def tierDto (min max : Text) : CreateBufferTierDto where
  orderType := none
  minAmount := min
  maxAmount := max
  bufferPercent := some ⟨1, 0⟩

theorem two_tiers_iff :
    Run.Throughout tierStep Unambiguous bitcoinStore
        [.create (fun _ => none) 1 1 (tierDto ['1'] ['2']),
          .create (fun _ => none) 1 2 (tierDto ['3'] ['4'])] ↔
      Run.Along tierStep Clear bitcoinStore
        [.create (fun _ => none) 1 1 (tierDto ['1'] ['2']),
          .create (fun _ => none) 1 2 (tierDto ['3'] ['4'])] :=
  tiers_unambiguous_iff bitcoinStore bitcoinStore_unambiguous _

/-- A tier from zero is accepted over a stored one. -/
theorem zero_tier_overlaps :
    ¬ Run.Throughout tierStep Unambiguous bitcoinStore
      [.create (fun _ => none) 1 1 (tierDto ['1'] ['2']),
        .create (fun _ => none) 1 2 (tierDto ['0'] ['3'])] := by
  intro h
  have hfirst : (Run.final tierStep bitcoinStore
      [.create (fun _ => none) 1 1 (tierDto ['1'] ['2']),
        .create (fun _ => none) 1 2 (tierDto ['0'] ['3'])]).tiers.lookup 1 =
      some ⟨some 1, none, 100000000, 200000000, 100⟩ := by decide +kernel
  have hsecond : (Run.final tierStep bitcoinStore
      [.create (fun _ => none) 1 1 (tierDto ['1'] ['2']),
        .create (fun _ => none) 1 2 (tierDto ['0'] ['3'])]).tiers.lookup 2 =
      some ⟨some 1, none, 0, 300000000, 100⟩ := by decide +kernel
  have hsame := h.last.once 1 .BUY 150000000 1 2 _ _ hfirst hsecond rfl rfl
    (by decide) (by decide)
  cases hsame

end CryptoBuffer

end ExchangeLedger
