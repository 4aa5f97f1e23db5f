import ExchangeLedger.Conversions
import ExchangeLedger.Run
import Mathlib.Logic.Function.Basic

set_option autoImplicit false

/-! The process-wide cache of default networks under its updates, and what a stored amount denotes
before and after them. -/

namespace ExchangeLedger

def CryptoNetwork.id : CryptoNetwork → Text
  | .btc => ['b', 't', 'c']
  | .bep20 => ['b', 'e', 'p', '2', '0']
  | .erc20 => ['e', 'r', 'c', '2', '0']
  | .trc20 => ['t', 'r', 'c', '2', '0']
  | .polygon => ['p', 'o', 'l', 'y', 'g', 'o', 'n']
  | .solana => ['s', 'o', 'l', 'a', 'n', 'a']
  | .celo => ['c', 'e', 'l', 'o']
  | .optimism => ['o', 'p', 't', 'i', 'm', 'i', 's', 'm']
  | .ton => ['t', 'o', 'n']
  | .base => ['b', 'a', 's', 'e']
  | .doge => ['d', 'o', 'g', 'e']
  | .ripple => ['r', 'i', 'p', 'p', 'l', 'e']

def CryptoNetwork.all : List CryptoNetwork :=
  [.btc, .bep20, .erc20, .trc20, .polygon, .solana, .celo, .optimism, .ton, .base, .doge, .ripple]

def CryptoNetwork.ofId (id : Text) : Option CryptoNetwork := CryptoNetwork.all.find? (·.id = id)

theorem CryptoNetwork.ofId_id (network : CryptoNetwork) : ofId network.id = some network := by
  cases network <;> decide

def Currency.symbol : Currency → Text
  | .btc => ['b', 't', 'c']
  | .usdt => ['u', 's', 'd', 't']
  | .usdc => ['u', 's', 'd', 'c']
  | .eth => ['e', 't', 'h']
  | .bnb => ['b', 'n', 'b']
  | .doge => ['d', 'o', 'g', 'e']
  | .xrp => ['x', 'r', 'p']
  | .sol => ['s', 'o', 'l']
  | .link => ['l', 'i', 'n', 'k']
  | .trx => ['t', 'r', 'x']
  | .ngn => ['n', 'g', 'n']
  | .usd => ['u', 's', 'd']

namespace ConvertCurrency

/-- As far as a lower case in ASCII goes: the Kelvin sign is the one other character that has
one. -/
def toLowerCase (s : Text) : Text := s.map fun c => if c.toNat = 8490 then 'k' else c.toLower

/-- The network that a call of `setCachedDefaultNetwork` stores, if it stores any: none for a
missing name, nor for a network that the currency does not list. -/
def acceptedNetwork (currency : Currency) : Option Text → Option CryptoNetwork
  | none => none
  | some network =>
    if network = [] then none
    else if CURRENCY_PRECISION currency ≠ [] ∧
        ∀ item ∈ CURRENCY_PRECISION currency, item.1.id ≠ toLowerCase network then none
    -- nothing reads the entry of a fiat, whatever name it holds
    else CryptoNetwork.ofId (toLowerCase network)

def setCachedDefaultNetwork (cache : DefaultNetworkCache) (currency : Currency)
    (network : Option Text) : DefaultNetworkCache :=
  match acceptedNetwork currency network with
  | none => cache
  | some network => Function.update cache currency (some network)

inductive NetworkUpdate where
  | set (currency : Currency) (network : Option Text)
  /-- The scheduler's refresh: each wallet of the company with its `default_network`. -/
  | companyWallets (wallets : List (Currency × Option Text))
  /-- `getDefaultNetwork` with what its resolver answers. -/
  | resolved (currency : Currency) (network : Option Text)
  deriving DecidableEq, Repr

/-- The calls of `setCachedDefaultNetwork` that an update makes. -/
def NetworkUpdate.calls : NetworkUpdate → List (Currency × Option Text)
  | .set currency network => [(currency, network)]
  | .companyWallets wallets => wallets.map fun w => (w.1, some (w.2.getD w.1.symbol))
  | .resolved currency network =>
    if (FIAT_DECIMALS currency).isSome then [] else [(currency, network)]

def setCachedDefaultNetworks (cache : DefaultNetworkCache) (calls : List (Currency × Option Text)) :
    DefaultNetworkCache :=
  calls.foldl (fun cache call => setCachedDefaultNetwork cache call.1 call.2) cache

def applyUpdate (u : NetworkUpdate) (cache : DefaultNetworkCache) : DefaultNetworkCache :=
  setCachedDefaultNetworks cache u.calls

/-- The cache of a process after its updates. -/
def cacheAfter (us : List NetworkUpdate) : DefaultNetworkCache :=
  Run.final applyUpdate (fun _ => none) us

/-! ### The network in force -/

def acceptedCall (currency : Currency) (call : Currency × Option Text) : Option CryptoNetwork :=
  if call.1 = currency then acceptedNetwork currency call.2 else none

/-- The network that the last accepted call for a currency names. -/
def lastAccepted (currency : Currency) (calls : List (Currency × Option Text)) :
    Option CryptoNetwork :=
  calls.reverse.findSome? (acceptedCall currency)

/-- The default network that a history of updates leaves. -/
def networkAfter (currency : Currency) (us : List NetworkUpdate) : Option CryptoNetwork :=
  (lastAccepted currency (us.flatMap NetworkUpdate.calls)).or
    ((CURRENCY_PRECISION currency).head?.map Prod.fst)

theorem setCachedDefaultNetwork_apply (cache : DefaultNetworkCache) (call : Currency × Option Text)
    (currency : Currency) :
    setCachedDefaultNetwork cache call.1 call.2 currency =
      (acceptedCall currency call).or (cache currency) := by
  unfold setCachedDefaultNetwork acceptedCall
  by_cases h : call.1 = currency
  · subst h
    rw [if_pos rfl]
    cases acceptedNetwork call.1 call.2 <;> simp
  · rw [if_neg h]
    cases acceptedNetwork call.1 call.2 with
    | none => rfl
    | some network => simp [Function.update_of_ne (Ne.symm h)]

theorem setCachedDefaultNetworks_apply (cache : DefaultNetworkCache)
    (calls : List (Currency × Option Text)) (currency : Currency) :
    setCachedDefaultNetworks cache calls currency =
      (lastAccepted currency calls).or (cache currency) := by
  induction calls using List.reverseRecOn with
  | nil => rfl
  | append_singleton calls call ih =>
    simp only [setCachedDefaultNetworks, lastAccepted] at ih ⊢
    rw [List.foldl_append, List.reverse_append]
    simp only [List.foldl_cons, List.foldl_nil, setCachedDefaultNetwork_apply, ih,
      List.reverse_singleton, List.singleton_append, List.findSome?_cons]
    cases acceptedCall currency call <;> rfl

theorem cacheAfter_eq (us : List NetworkUpdate) :
    cacheAfter us = setCachedDefaultNetworks (fun _ => none) (us.flatMap NetworkUpdate.calls) := by
  have h (cache : DefaultNetworkCache) : Run.final applyUpdate cache us =
      setCachedDefaultNetworks cache (us.flatMap NetworkUpdate.calls) := by
    induction us generalizing cache with
    | nil => rfl
    | cons u us ih =>
      rw [Run.final, ih, List.flatMap_cons]
      simp only [applyUpdate, setCachedDefaultNetworks, List.foldl_append]
  exact h _

theorem getCachedDefaultNetwork_cacheAfter (us : List NetworkUpdate) (currency : Currency) :
    getCachedDefaultNetwork (cacheAfter us) currency = networkAfter currency us := by
  rw [getCachedDefaultNetwork, networkAfter, cacheAfter_eq, setCachedDefaultNetworks_apply,
    Option.or_none]

theorem acceptedNetwork_listed {currency : Currency} {network : Option Text} {n : CryptoNetwork}
    (h : acceptedNetwork currency network = some n) (hlist : CURRENCY_PRECISION currency ≠ []) :
    ∃ d, (n, d) ∈ CURRENCY_PRECISION currency := by
  cases network with
  | none => cases h
  | some name =>
    simp only [acceptedNetwork] at h
    split at h
    · cases h
    · split at h
      · cases h
      · rename_i hguard
        obtain ⟨item, hitem, hid⟩ : ∃ item ∈ CURRENCY_PRECISION currency,
            item.1.id = toLowerCase name := by
          by_contra hnone
          exact hguard ⟨hlist, fun item hitem heq => hnone ⟨item, hitem, heq⟩⟩
        rw [← hid, CryptoNetwork.ofId_id] at h
        cases h
        exact ⟨item.2, hitem⟩

theorem networkAfter_listed {currency : Currency} (us : List NetworkUpdate)
    (hlist : CURRENCY_PRECISION currency ≠ []) :
    ∃ p ∈ CURRENCY_PRECISION currency, networkAfter currency us = some p.1 := by
  unfold networkAfter
  cases h : lastAccepted currency (us.flatMap NetworkUpdate.calls) with
  | some n =>
    obtain ⟨call, -, hcall⟩ := List.exists_of_findSome?_eq_some h
    unfold acceptedCall at hcall
    split at hcall
    · obtain ⟨d, hd⟩ := acceptedNetwork_listed hcall hlist
      exact ⟨(n, d), hd, rfl⟩
    · cases hcall
  | none =>
    obtain ⟨p, ps, hp⟩ := List.exists_cons_of_ne_nil hlist
    exact ⟨p, by simp [hp], by simp [hp]⟩

theorem decimals_networkAfter (currency : Currency) (us : List NetworkUpdate) :
    ∃ d, getCurrencyDecimals currency (networkAfter currency us) = .ok d := by
  by_cases hlist : CURRENCY_PRECISION currency = []
  · cases currency <;> first | exact ⟨_, rfl⟩ | exact absurd hlist (by decide)
  · obtain ⟨p, hp, hnetwork⟩ := networkAfter_listed us hlist
    rw [hnetwork]
    exact ⟨p.2, getCurrencyDecimals_network p hp⟩

theorem getDecimals_cacheAfter (us : List NetworkUpdate) (currency : Currency) :
    getDecimals (cacheAfter us) currency =
      getCurrencyDecimals currency (networkAfter currency us) := by
  rw [getDecimals, getCachedDefaultNetwork_cacheAfter]

/-! ### What a stored amount denotes -/

/-- The base amount `v`, written from `amount` after the updates `earlier`, denotes the same
decimal after the updates `later` as when it was written. -/
def KeepsAmount (earlier later : List NetworkUpdate) (currency : Currency) (amount : Text)
    (v : Int) : Prop :=
  ∃ t u q, fromBase (cacheAfter earlier) v currency none = .ok t ∧
    fromBase (cacheAfter (earlier ++ later)) v currency none = .ok u ∧
    numberOf t = some q ∧ numberOf u = some q ∧
    (IsPlain amount → numberOf (trim amount) = some q)

theorem fiat_decimals_le {currency : Currency} {network : Option CryptoNetwork} {d : Nat}
    (h : getCurrencyDecimals currency network = .ok d) :
    (FIAT_DECIMALS currency).isSome = true → d ≤ 2 := by
  intro hfiat
  cases currency <;> first | (cases h; decide) | exact absurd hfiat (by decide)

/-- What `fromBase` prints after a history of updates. -/
theorem fromBase_cacheAfter {us : List NetworkUpdate} {currency : Currency} {d : Nat}
    (hd : getCurrencyDecimals currency (networkAfter currency us) = .ok d) (v : Int) :
    ∃ t, fromBase (cacheAfter us) v currency none = .ok t ∧
      numberOf t = some (v / (10 : Rat) ^ d) := by
  have hdecimals : decimalsFor (cacheAfter us) currency none = .ok d := by
    rw [← hd, ← getDecimals_cacheAfter]
    rfl
  have hprinted := fromBaseAt_of_decimals hdecimals v
  rw [← Option.map_none (f := DecimalsOrNetwork.network), fromBaseAt_network] at hprinted
  exact ⟨_, hprinted, numberOf_fromBaseUnits (fiat_decimals_le hd) v⟩

/-- A stored amount keeps its decimal exactly when it is zero or the default network has as many
decimals as it had when the amount was written. -/
theorem keepsAmount_iff (earlier later : List NetworkUpdate) (currency : Currency) (amount : Text)
    (v : Int) (hv : toBase (cacheAfter earlier) amount currency = .ok v) :
    KeepsAmount earlier later currency amount v ↔
      v = 0 ∨ getCurrencyDecimals currency (networkAfter currency (earlier ++ later)) =
        getCurrencyDecimals currency (networkAfter currency earlier) := by
  obtain ⟨d, hd⟩ := decimals_networkAfter currency earlier
  obtain ⟨e, he⟩ := decimals_networkAfter currency (earlier ++ later)
  obtain ⟨t, ht, hthen⟩ := fromBase_cacheAfter hd v
  obtain ⟨u, hu, hnow⟩ := fromBase_cacheAfter he v
  have htext (hplain : IsPlain amount) : numberOf (trim amount) = some (v / (10 : Rat) ^ d) := by
    rw [toBase, getDecimals_cacheAfter, hd] at hv
    exact numberOf_of_toBaseUnits hplain hv
  have hsame : (v : Rat) / 10 ^ e = v / 10 ^ d ↔ v = 0 ∨ e = d := by
    have hinj : (10 : Rat) ^ d = 10 ^ e ↔ d = e :=
      pow_right_inj₀ (by norm_num) (by norm_num)
    rw [div_eq_div_iff (by positivity) (by positivity), mul_eq_mul_left_iff, hinj, Int.cast_eq_zero]
    omega
  have hdecimals : getCurrencyDecimals currency (networkAfter currency (earlier ++ later)) =
      getCurrencyDecimals currency (networkAfter currency earlier) ↔ e = d := by
    rw [hd, he, Except.ok.injEq]
  rw [hdecimals, ← hsame]
  constructor
  · rintro ⟨t', u', q, ht', hu', hq, hq', -⟩
    rw [ht] at ht'
    rw [hu] at hu'
    cases ht'
    cases hu'
    rw [hthen] at hq
    rw [hnow] at hq'
    cases hq
    exact Option.some.inj hq'
  · intro h
    exact ⟨t, u, _, ht, hu, hthen, h ▸ hnow, htext⟩

theorem keepsAmount_iff_btc :
    KeepsAmount [] [.resolved .btc none] .btc ['1'] 100000000 ↔ (100000000 : Int) = 0 ∨
      getCurrencyDecimals .btc (networkAfter .btc [.resolved .btc none]) =
        getCurrencyDecimals .btc (networkAfter .btc []) :=
  keepsAmount_iff [] [.resolved .btc none] .btc ['1'] 100000000 (by decide +kernel)

/-- One USDT is written while ERC20 is the default network and read once BEP20 is. -/
theorem usdt_not_kept :
    toBase (cacheAfter [.set .usdt (some ['e', 'r', 'c', '2', '0'])]) ['1'] .usdt = .ok 1000000 ∧
    ¬ KeepsAmount [.set .usdt (some ['e', 'r', 'c', '2', '0'])]
      [.companyWallets [(.usdt, some ['b', 'e', 'p', '2', '0'])]] .usdt ['1'] 1000000 := by
  have hthen : fromBase (cacheAfter [.set .usdt (some ['e', 'r', 'c', '2', '0'])]) 1000000 .usdt
      none = .ok ['1'] := by decide +kernel
  have hnow : fromBase (cacheAfter ([.set .usdt (some ['e', 'r', 'c', '2', '0'])] ++
      [.companyWallets [(.usdt, some ['b', 'e', 'p', '2', '0'])]])) 1000000 .usdt none =
      .ok ['0', '.', '0', '0', '0', '0', '0', '0', '0', '0', '0', '0', '0', '1'] := by
    decide +kernel
  refine ⟨by decide +kernel, ?_⟩
  rintro ⟨t, u, q, ht, hu, hq, hq', -⟩
  rw [hthen] at ht
  rw [hnow] at hu
  cases ht
  cases hu
  have h : (Decimal.parse ['1']).map Decimal.value =
      (Decimal.parse ['0', '.', '0', '0', '0', '0', '0', '0', '0', '0', '0', '0', '0', '1']).map
        Decimal.value := by
    change numberOf _ = numberOf _
    rw [hq, hq']
  revert h
  decide +kernel

end ConvertCurrency

end ExchangeLedger
