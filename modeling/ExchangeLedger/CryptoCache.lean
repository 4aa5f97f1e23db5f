import ExchangeLedger.BufferTiers

set_option autoImplicit false

/-! The cached cryptocurrencies: how the admin service refreshes them, and when they agree with the
database. -/

namespace ExchangeLedger

open Block

namespace CryptoCache

open CryptoBuffer ConvertCurrency

abbrev TierRow := Sigma fun _ : BufferTierId => BufferTier

/-- A cryptocurrency with its tiers, as it is read from the database and cached. -/
structure CachedCryptoCurrency where
  id : CryptoId
  crypto : CryptoCurrency
  buffer_tiers : List TierRow

/-- The keys `cryptoCurrency:…`: under a symbol, under an id, and `cryptoCurrency:all`. -/
structure Redis where
  bySymbol : Text → Option CachedCryptoCurrency
  byId : CryptoId → Option CachedCryptoCurrency
  all : Option (List CachedCryptoCurrency)

def Redis.empty : Redis := ⟨fun _ => none, fun _ => none, none⟩

def tierRows (S : BufferStore) (id : CryptoId) : List TierRow :=
  S.tiers.entries.filter (·.2.cryptoId = some id)

/-- `include: { buffer_tiers: true }`. -/
def withTiers (S : BufferStore) (id : CryptoId) (crypto : CryptoCurrency) :
    CachedCryptoCurrency := ⟨id, crypto, tierRows S id⟩

/-- `findUnique({ where: { symbol } })`. -/
def findSymbol (S : BufferStore) (symbol : Text) : Option CachedCryptoCurrency :=
  (S.cryptos.entries.find? (·.2.symbol = symbol)).map fun e => withTiers S e.1 e.2

def Redis.setSymbol (R : Redis) (symbol : Text) (e : CachedCryptoCurrency) : Redis :=
  { R with bySymbol := Function.update R.bySymbol symbol (some e) }

def refreshAllCryptoCurrenciesCache (S : BufferStore) (R : Redis) : Redis :=
  let cryptos := S.cryptos.entries.map fun e => withTiers S e.1 e.2
  { cryptos.foldl (fun R e => R.setSymbol e.crypto.symbol e) R with all := some cryptos }

/-- The entry is refreshed under its id, and then all of them under their symbols. -/
def refreshCryptoCache (S : BufferStore) (id : CryptoId) (R : Redis) : Redis :=
  refreshAllCryptoCurrenciesCache S
    { R with byId := Function.update R.byId id ((S.cryptos.lookup id).map (withTiers S id)) }

section

variable (toUpperCase : Text → Text)

/-- What `getBySymbol` answers, and what it leaves in the cache. -/
def getBySymbol (S : BufferStore) (R : Redis) (symbol : Text) :
    Option CachedCryptoCurrency × Redis :=
  match R.bySymbol (toUpperCase symbol) with
  | some cached => (some cached, R)
  | none =>
    match findSymbol S (toUpperCase symbol) with
    | some found => (some found, R.setSymbol (toUpperCase symbol) found)
    | none => (none, R)

end

structure State where
  store : BufferStore
  redis : Redis

/-- A request whose refresh reads the rows it has written. -/
def refreshed (x : Block BufferStore String Unit) (id : CryptoId) (s : State) : State :=
  match x s.store with
  | .ok (_, M) => ⟨M, refreshCryptoCache M id s.redis⟩
  | .error _ => s

/-- A patch. Its refresh reads through another connection, before the transaction has committed. -/
def patched (networks : DefaultNetworkCache) (id : CryptoId) (dto : PatchCryptoDto) (s : State) :
    State :=
  match patchCrypto networks id dto s.store with
  | .ok (_, M) => ⟨M, refreshCryptoCache s.store id s.redis⟩
  | .error _ => s

inductive Request where
  | create (networks : DefaultNetworkCache) (id : CryptoId) (tierId : BufferTierId)
      (dto : CreateBufferTierDto)
  | patch (networks : DefaultNetworkCache) (id : CryptoId) (dto : PatchCryptoDto)
  | bulkPatch (networks : DefaultNetworkCache) (updates : List (CryptoId × PatchCryptoDto))
  | delete (id : CryptoId) (tierId : BufferTierId)
  | get (symbol : Text)

/-- A bulk patch refreshes everything once its patches have committed. -/
def step (toUpperCase : Text → Text) : Request → State → State
  | .create networks id tierId dto, s => refreshed (createBufferTier networks id tierId dto) id s
  | .patch networks id dto, s => patched networks id dto s
  | .bulkPatch networks updates, s =>
    if updates = [] then s
    else
      let t := Run.final (fun item => patched networks item.1 item.2) s updates
      ⟨t.store, refreshAllCryptoCurrenciesCache t.store t.redis⟩
  | .delete id tierId, s => refreshed (deleteBufferTier id tierId) id s
  | .get symbol, s => ⟨s.store, (getBySymbol toUpperCase s.store s.redis symbol).2⟩

/-- The cache answers every symbol with the default percent and the tiers of the database, and holds
no entry under a symbol that is gone. -/
structure Coherent (toUpperCase : Text → Text) (s : State) : Prop where
  symbol : ∀ id crypto, s.store.cryptos.lookup id = some crypto →
    ∃ e, (getBySymbol toUpperCase s.store s.redis crypto.symbol).1 = some e ∧
      e.crypto.defaultBufferPercent = crypto.defaultBufferPercent ∧
      e.buffer_tiers.Perm (tierRows s.store id)
  gone : ∀ symbol e, s.redis.bySymbol symbol = some e →
    ∃ id crypto, s.store.cryptos.lookup id = some crypto ∧ crypto.symbol = symbol

/-! ### What a refresh writes -/

/-- An entry that says of its cryptocurrency what the database says. -/
def Valid (S : BufferStore) (symbol : Text) (e : CachedCryptoCurrency) : Prop :=
  ∃ crypto, S.cryptos.lookup e.id = some crypto ∧ crypto.symbol = symbol ∧
    e.crypto.defaultBufferPercent = crypto.defaultBufferPercent ∧
    e.buffer_tiers.Perm (tierRows S e.id)

theorem valid_withTiers {S : BufferStore} {id : CryptoId} {crypto : CryptoCurrency}
    (h : S.cryptos.lookup id = some crypto) : Valid S crypto.symbol (withTiers S id crypto) :=
  ⟨crypto, h, rfl, rfl, List.Perm.refl _⟩

theorem findSymbol_valid {S : BufferStore} {symbol : Text} {e : CachedCryptoCurrency}
    (h : findSymbol S symbol = some e) : Valid S symbol e := by
  obtain ⟨row, hrow, rfl⟩ := Option.map_eq_some_iff.mp h
  have hsymbol : row.2.symbol = symbol := by simpa using List.find?_some hrow
  rw [← hsymbol]
  exact valid_withTiers (AList.mem_lookup_iff.mpr (List.mem_of_find?_eq_some hrow))

theorem foldl_setSymbol_of_ne {symbol : Text} (es : List CachedCryptoCurrency) (R : Redis)
    (h : ∀ e ∈ es, e.crypto.symbol ≠ symbol) :
    (es.foldl (fun R e => R.setSymbol e.crypto.symbol e) R).bySymbol symbol =
      R.bySymbol symbol := by
  induction es generalizing R with
  | nil => rfl
  | cons e es ih =>
    rw [List.foldl_cons, ih _ fun e he => h e (by simp [he])]
    exact Function.update_of_ne (h e (by simp)).symm _ _

theorem foldl_setSymbol_of_mem {symbol : Text} {es : List CachedCryptoCurrency} (R : Redis)
    (h : ∃ e ∈ es, e.crypto.symbol = symbol) :
    ∃ e ∈ es, e.crypto.symbol = symbol ∧
      (es.foldl (fun R e => R.setSymbol e.crypto.symbol e) R).bySymbol symbol = some e := by
  induction es generalizing R with
  | nil => simp at h
  | cons a es ih =>
    by_cases hlater : ∃ e ∈ es, e.crypto.symbol = symbol
    · obtain ⟨e, he, hsymbol, hset⟩ := ih (R.setSymbol a.crypto.symbol a) hlater
      exact ⟨e, by simp [he], hsymbol, hset⟩
    · obtain ⟨e, he, hsymbol⟩ := h
      rcases List.mem_cons.mp he with rfl | he
      · refine ⟨e, by simp, hsymbol, ?_⟩
        rw [List.foldl_cons, foldl_setSymbol_of_ne _ _ fun b hb hbs => hlater ⟨b, hb, hbs⟩,
          ← hsymbol]
        exact Function.update_self _ _ _
      · exact absurd ⟨e, he, hsymbol⟩ hlater

/-- After a full refresh every symbol of the database has a valid entry, and the others have what
they had. -/
theorem refreshAll_bySymbol (S : BufferStore) (R : Redis) (symbol : Text) :
    (∃ e, (refreshAllCryptoCurrenciesCache S R).bySymbol symbol = some e ∧ Valid S symbol e) ∨
      (∀ id crypto, S.cryptos.lookup id = some crypto → crypto.symbol ≠ symbol) ∧
        (refreshAllCryptoCurrenciesCache S R).bySymbol symbol = R.bySymbol symbol := by
  by_cases h : ∃ e ∈ S.cryptos.entries.map fun e => withTiers S e.1 e.2, e.crypto.symbol = symbol
  · left
    obtain ⟨e, he, rfl, hset⟩ := foldl_setSymbol_of_mem R h
    obtain ⟨row, hrow, rfl⟩ := List.mem_map.mp he
    exact ⟨_, hset, valid_withTiers (AList.mem_lookup_iff.mpr hrow)⟩
  · right
    constructor
    · intro id crypto hlookup hsymbol
      exact h ⟨_, List.mem_map.mpr ⟨⟨id, crypto⟩, AList.mem_lookup_iff.mp hlookup, rfl⟩, hsymbol⟩
    · exact foldl_setSymbol_of_ne _ R fun e he hsymbol => h ⟨e, he, hsymbol⟩

/-! ### The invariant -/

/-- Symbols are unique, and stored in upper case. -/
structure Named (toUpperCase : Text → Text) (S : BufferStore) : Prop where
  upper : ∀ id crypto, S.cryptos.lookup id = some crypto →
    toUpperCase crypto.symbol = crypto.symbol
  unique : ∀ i j a b, S.cryptos.lookup i = some a → S.cryptos.lookup j = some b →
    a.symbol = b.symbol → i = j

/-- No entry stands under a symbol that is gone. -/
def Rooted (s : State) : Prop :=
  ∀ symbol e, s.redis.bySymbol symbol = some e →
    ∃ id crypto, s.store.cryptos.lookup id = some crypto ∧ crypto.symbol = symbol

/-- Every entry is valid. -/
structure Synced (toUpperCase : Text → Text) (s : State) : Prop where
  named : Named toUpperCase s.store
  valid : ∀ symbol e, s.redis.bySymbol symbol = some e → Valid s.store symbol e

variable {toUpperCase : Text → Text}

theorem Synced.rooted {s : State} (hs : Synced toUpperCase s) : Rooted s := by
  intro symbol e he
  obtain ⟨crypto, hcrypto, hsymbol, -, -⟩ := hs.valid symbol e he
  exact ⟨e.id, crypto, hcrypto, hsymbol⟩

theorem getBySymbol_valid {s : State} (hs : Synced toUpperCase s) {symbol : Text}
    {e : CachedCryptoCurrency}
    (h : (getBySymbol toUpperCase s.store s.redis symbol).1 = some e) :
    Valid s.store (toUpperCase symbol) e := by
  unfold getBySymbol at h
  split at h
  · rename_i cached hcached
    cases h
    exact hs.valid _ _ hcached
  · split at h
    · rename_i found hfound
      cases h
      exact findSymbol_valid hfound
    · cases h

theorem getBySymbol_isSome {s : State} {id : CryptoId} {crypto : CryptoCurrency} {symbol : Text}
    (hcrypto : s.store.cryptos.lookup id = some crypto)
    (hsymbol : crypto.symbol = toUpperCase symbol) :
    ∃ e, (getBySymbol toUpperCase s.store s.redis symbol).1 = some e := by
  unfold getBySymbol
  split
  · exact ⟨_, rfl⟩
  · split
    · exact ⟨_, rfl⟩
    · rename_i hnone
      simp only [findSymbol, Option.map_eq_none_iff, List.find?_eq_none, decide_eq_true_eq] at hnone
      exact absurd hsymbol (hnone ⟨id, crypto⟩ (AList.mem_lookup_iff.mp hcrypto))

theorem Synced.coherent {s : State} (hs : Synced toUpperCase s) : Coherent toUpperCase s := by
  constructor
  · intro id crypto hcrypto
    have hupper := hs.named.upper id crypto hcrypto
    obtain ⟨e, he⟩ := getBySymbol_isSome (s := s) hcrypto hupper.symm
    obtain ⟨found, hfound, hsymbol, hpercent, htiers⟩ := getBySymbol_valid hs he
    have hid := hs.named.unique _ _ _ _ hfound hcrypto (hsymbol.trans hupper)
    rw [hid] at hfound htiers
    rw [hcrypto] at hfound
    cases hfound
    exact ⟨e, he, hpercent, htiers⟩
  · exact hs.rooted

theorem synced_refreshAll {S : BufferStore} {R : Redis} (hS : Named toUpperCase S)
    (hR : Rooted ⟨S, R⟩) : Synced toUpperCase ⟨S, refreshAllCryptoCurrenciesCache S R⟩ := by
  refine ⟨hS, fun symbol e he => ?_⟩
  rcases refreshAll_bySymbol S R symbol with ⟨f, hf, hvalid⟩ | ⟨hnone, hsame⟩
  · dsimp only at he
    rw [hf] at he
    cases he
    exact hvalid
  · dsimp only at he
    rw [hsame] at he
    obtain ⟨id, crypto, hcrypto, hsymbol⟩ := hR symbol e he
    exact absurd hsymbol (hnone id crypto hcrypto)

theorem synced_refreshCrypto {S : BufferStore} {R : Redis} (hS : Named toUpperCase S)
    (hR : Rooted ⟨S, R⟩) (id : CryptoId) : Synced toUpperCase ⟨S, refreshCryptoCache S id R⟩ :=
  synced_refreshAll hS hR

theorem Synced.refreshed {s : State} (hs : Synced toUpperCase s)
    {x : Block BufferStore String Unit} (id : CryptoId)
    (hx : ∀ M, x.Commits s.store () M → M.cryptos = s.store.cryptos) :
    Synced toUpperCase (refreshed x id s) := by
  unfold CryptoCache.refreshed
  split
  · rename_i M hM
    have hcryptos := hx M hM
    refine synced_refreshCrypto ⟨?_, ?_⟩ ?_ id
    · rw [hcryptos]
      exact hs.named.upper
    · rw [hcryptos]
      exact hs.named.unique
    · intro symbol e he
      rw [hcryptos]
      exact hs.rooted symbol e he
  · exact hs

/-! ### Patches -/

/-- An accepted patch leaves the symbol as it is. -/
def KeepsSymbol (networks : DefaultNetworkCache) (S : BufferStore) (id : CryptoId)
    (dto : PatchCryptoDto) : Prop :=
  Accepts (patchCrypto networks id dto) S → ∀ crypto updated,
    S.cryptos.lookup id = some crypto → patchedCrypto S dto crypto = .ok updated →
    updated.symbol = crypto.symbol

/-- An accepted patch gives the symbol, the default percent and the tiers the values they have. -/
def KeepsCached (networks : DefaultNetworkCache) (S : BufferStore) (id : CryptoId)
    (dto : PatchCryptoDto) : Prop :=
  Accepts (patchCrypto networks id dto) S → ∀ crypto updated,
    S.cryptos.lookup id = some crypto → patchedCrypto S dto crypto = .ok updated →
    updated.symbol = crypto.symbol ∧
      updated.defaultBufferPercent = crypto.defaultBufferPercent ∧
      ∀ i t, S.tiers.lookup i = some t →
        tierAfter networks crypto.symbol dto.tiers i t = .ok t

section Patch

variable {S M : BufferStore} {id : CryptoId} {crypto updated : CryptoCurrency}
  (hcrypto : S.cryptos.lookup id = some crypto) (hM : M.cryptos = S.cryptos.insert id updated)
  (hsymbol : updated.symbol = crypto.symbol)

include hcrypto hM hsymbol

theorem lookup_patched {j : CryptoId} {a : CryptoCurrency} (ha : M.cryptos.lookup j = some a) :
    ∃ b, S.cryptos.lookup j = some b ∧ b.symbol = a.symbol := by
  rw [hM, Table.lookup_insert] at ha
  split at ha
  · rename_i hj
    cases ha
    exact ⟨crypto, by rw [hj, hcrypto], hsymbol.symm⟩
  · exact ⟨a, ha, rfl⟩

theorem lookup_of_patched {j : CryptoId} {a : CryptoCurrency} (ha : S.cryptos.lookup j = some a) :
    ∃ b, M.cryptos.lookup j = some b ∧ b.symbol = a.symbol := by
  by_cases hj : j = id
  · rw [hj, hcrypto] at ha
    cases ha
    exact ⟨updated, by rw [hM, hj, AList.lookup_insert], hsymbol⟩
  · exact ⟨a, by rw [hM, AList.lookup_insert_ne hj, ha], rfl⟩

theorem Named.patched (hS : Named toUpperCase S) : Named toUpperCase M := by
  constructor
  · intro j a ha
    obtain ⟨b, hb, hba⟩ := lookup_patched hcrypto hM hsymbol ha
    rw [← hba, hS.upper j b hb]
  · intro i j a b ha hb hab
    obtain ⟨a', ha', haa⟩ := lookup_patched hcrypto hM hsymbol ha
    obtain ⟨b', hb', hbb⟩ := lookup_patched hcrypto hM hsymbol hb
    exact hS.unique i j a' b' ha' hb' (haa.trans (hab.trans hbb.symm))

theorem Rooted.patched {R : Redis} (hR : Rooted ⟨S, R⟩) : Rooted ⟨M, R⟩ := by
  intro symbol e he
  obtain ⟨j, a, ha, has⟩ := hR symbol e he
  obtain ⟨b, hb, hba⟩ := lookup_of_patched hcrypto hM hsymbol ha
  exact ⟨j, b, hb, hba.trans has⟩

theorem Valid.patched (hpercent : updated.defaultBufferPercent = crypto.defaultBufferPercent)
    (htiers : ∀ i, M.tiers.lookup i = S.tiers.lookup i) {symbol : Text}
    {e : CachedCryptoCurrency} (he : Valid S symbol e) : Valid M symbol e := by
  obtain ⟨a, ha, has, hap, hat⟩ := he
  have hentries : S.tiers.entries.Perm M.tiers.entries :=
    List.lookup_ext S.tiers.nodupKeys M.tiers.nodupKeys fun i t => by
      have h := htiers i
      unfold AList.lookup at h
      rw [h]
  have hperm := hat.trans (hentries.filter _)
  by_cases hj : e.id = id
  · rw [hj, hcrypto] at ha
    cases ha
    refine ⟨updated, by rw [hM, hj, AList.lookup_insert], hsymbol.trans has, ?_, hperm⟩
    rw [hap, hpercent]
  · exact ⟨a, by rw [hM, AList.lookup_insert_ne hj, ha], has, hap, hperm⟩

end Patch

theorem patched_cases (networks : DefaultNetworkCache) (id : CryptoId) (dto : PatchCryptoDto)
    (s : State) :
    patched networks id dto s = s ∨ ∃ M, (patchCrypto networks id dto).Commits s.store () M ∧
      patched networks id dto s = ⟨M, refreshCryptoCache s.store id s.redis⟩ := by
  unfold patched
  split
  · rename_i M hM
    exact .inr ⟨M, hM, rfl⟩
  · exact .inl rfl

theorem rooted_patched {s : State} {networks : DefaultNetworkCache} {id : CryptoId}
    {dto : PatchCryptoDto} (hs : Named toUpperCase s.store ∧ Rooted s)
    (hkeeps : KeepsSymbol networks s.store id dto) :
    Named toUpperCase (patched networks id dto s).store ∧ Rooted (patched networks id dto s) := by
  rcases patched_cases networks id dto s with h | ⟨M, hM, h⟩
  · rw [h]
    exact hs
  · obtain ⟨crypto, updated, hcrypto, hupdated, hcryptos, -⟩ := patchCrypto_commits hM
    have hsymbol := hkeeps ⟨M, hM⟩ crypto updated hcrypto hupdated
    rw [h]
    exact ⟨hs.1.patched hcrypto hcryptos hsymbol,
      (synced_refreshCrypto hs.1 hs.2 id).rooted.patched hcrypto hcryptos hsymbol⟩

theorem Synced.patched {s : State} (hs : Synced toUpperCase s) {networks : DefaultNetworkCache}
    {id : CryptoId} {dto : PatchCryptoDto} (hkeeps : KeepsCached networks s.store id dto) :
    Synced toUpperCase (CryptoCache.patched networks id dto s) := by
  rcases patched_cases networks id dto s with h | ⟨M, hM, h⟩
  · rw [h]
    exact hs
  · obtain ⟨crypto, updated, hcrypto, hupdated, hcryptos, hrows⟩ := patchCrypto_commits hM
    obtain ⟨hsymbol, hpercent, hsame⟩ := hkeeps ⟨M, hM⟩ crypto updated hcrypto hupdated
    have htiers (i : BufferTierId) : M.tiers.lookup i = s.store.tiers.lookup i := by
      cases ht : s.store.tiers.lookup i with
      | none => exact (hrows i).1 ht
      | some t =>
        obtain ⟨u, hu, hMu⟩ := (hrows i).2 t ht
        rw [hsame i t ht] at hu
        cases hu
        exact hMu
    have hrefreshed := synced_refreshCrypto hs.named hs.rooted id
    rw [h]
    exact ⟨hs.named.patched hcrypto hcryptos hsymbol, fun symbol e he =>
      (hrefreshed.valid symbol e he).patched hcrypto hcryptos hsymbol hpercent htiers⟩

/-! ### Sequences of requests -/

/-- A request that leaves the cache in agreement: a patch must change nothing of what is cached, and
the patches of a bulk no symbol. -/
def Settled (s : State) : Request → Prop
  | .patch networks id dto => KeepsCached networks s.store id dto
  | .bulkPatch networks updates =>
    Run.Along (fun item => patched networks item.1 item.2)
      (fun t item => KeepsSymbol networks t.store item.1 item.2) s updates
  | .create _ _ _ _ | .delete _ _ | .get _ => True

theorem Synced.bulkPatch {s : State} (hs : Synced toUpperCase s) {networks : DefaultNetworkCache}
    {updates : List (CryptoId × PatchCryptoDto)} (h : Settled s (.bulkPatch networks updates)) :
    Synced toUpperCase (step toUpperCase (.bulkPatch networks updates) s) := by
  simp only [step]
  split
  · exact hs
  · have hlast := (Run.throughout_of_along
      (P := fun t : State => Named toUpperCase t.store ∧ Rooted t)
      (fun t item ht hkeeps => rooted_patched ht hkeeps) ⟨hs.named, hs.rooted⟩ h).last
    exact synced_refreshAll hlast.1 hlast.2

theorem Synced.get {s : State} (hs : Synced toUpperCase s) (symbol : Text) :
    Synced toUpperCase (step toUpperCase (.get symbol) s) := by
  refine ⟨hs.named, fun key e he => ?_⟩
  simp only [step, getBySymbol] at he ⊢
  split at he
  · exact hs.valid key e he
  · split at he
    · rename_i found hfound
      simp only [Redis.setSymbol, Function.update_apply] at he
      split at he
      · rename_i hkey
        cases he
        rw [hkey]
        exact findSymbol_valid hfound
      · exact hs.valid key e he
    · exact hs.valid key e he

theorem Synced.step {s : State} (hs : Synced toUpperCase s) (r : Request) (h : Settled s r) :
    Synced toUpperCase (CryptoCache.step toUpperCase r s) := by
  cases r with
  | create networks id tierId dto =>
    refine hs.refreshed id fun M hM => ?_
    obtain ⟨-, -, -, -, -, -, rfl⟩ := createBufferTier_commits.mp hM
    rfl
  | patch networks id dto => exact hs.patched h
  | bulkPatch networks updates => exact hs.bulkPatch h
  | delete id tierId =>
    refine hs.refreshed id fun M hM => ?_
    simp only [deleteBufferTier, commits_read_bind, commits_demand_bind, commits_require_bind,
      commits_update] at hM
    obtain ⟨-, -, -, -, -, rfl⟩ := hM
    rfl
  | get symbol => exact hs.get symbol

/-- From a cache as it is filled on start, the cache agrees with the database after every request of
a run whose requests are all settled. -/
theorem cache_coherent (S : BufferStore) (hS : Named toUpperCase S) (requests : List Request)
    (h : Run.Along (step toUpperCase) Settled
      ⟨S, refreshAllCryptoCurrenciesCache S Redis.empty⟩ requests) :
    Run.Throughout (step toUpperCase) (Coherent toUpperCase)
      ⟨S, refreshAllCryptoCurrenciesCache S Redis.empty⟩ requests := by
  have hstart : Synced toUpperCase ⟨S, refreshAllCryptoCurrenciesCache S Redis.empty⟩ :=
    synced_refreshAll hS fun symbol e he => by cases he
  exact (Run.throughout_of_along (fun s r hs hr => hs.step r hr) hstart h).mono
    fun s hs => hs.coherent

def upperCase (s : Text) : Text := s.map Char.toUpper

/-- A patch of the name, the symbol and the default percent. -/
def patchDto (name symbol : Option Text) (percent : Option Decimal) : PatchCryptoDto where
  name := name
  symbol := symbol
  logoUrl := none
  description := none
  defaultBufferPercent := percent
  maxBufferPercent := none
  tiers := []

theorem bitcoinStore_named : Named upperCase bitcoinStore := by
  have hrow (id : CryptoId) (crypto : CryptoCurrency)
      (h : bitcoinStore.cryptos.lookup id = some crypto) :
      id = 1 ∧ crypto.symbol = ['B', 'T', 'C'] := by
    simp only [bitcoinStore, Table.lookup_insert] at h
    split at h
    · rename_i hid
      cases h
      exact ⟨hid, rfl⟩
    · cases h
  constructor
  · intro id crypto h
    rw [(hrow id crypto h).2]
    decide
  · intro i j a b ha hb _
    rw [(hrow i a ha).1, (hrow j b hb).1]

theorem rename_coherent :
    Run.Throughout (step upperCase) (Coherent upperCase)
      ⟨bitcoinStore, refreshAllCryptoCurrenciesCache bitcoinStore Redis.empty⟩
      [.create (fun _ => none) 1 1 (tierDto ['1'] ['2']),
        .patch (fun _ => none) 1 (patchDto (some ['X']) none none), .get ['b', 't', 'c']] := by
  refine cache_coherent bitcoinStore bitcoinStore_named _ ⟨trivial, ?_, trivial, trivial⟩
  intro _ crypto updated _ hupdated
  cases hupdated
  exact ⟨rfl, rfl, fun i t _ => rfl⟩

/-- The default percent is patched to five; the cache still answers with zero. -/
theorem percent_not_refreshed :
    ¬ Run.Throughout (step upperCase) (Coherent upperCase)
      ⟨bitcoinStore, refreshAllCryptoCurrenciesCache bitcoinStore Redis.empty⟩
      [.patch (fun _ => none) 1 (patchDto none none (some ⟨5, 0⟩))] := by
  intro h
  have hlookup : (Run.final (step upperCase)
      ⟨bitcoinStore, refreshAllCryptoCurrenciesCache bitcoinStore Redis.empty⟩
      [.patch (fun _ => none) 1 (patchDto none none (some ⟨5, 0⟩))]).store.cryptos.lookup 1 =
      some ⟨['B', 'i', 't', 'c', 'o', 'i', 'n'], ['B', 'T', 'C'], none, none, 500, 0⟩ := by
    decide +kernel
  have hcached : ((Run.final (step upperCase)
      ⟨bitcoinStore, refreshAllCryptoCurrenciesCache bitcoinStore Redis.empty⟩
      [.patch (fun _ => none) 1 (patchDto none none (some ⟨5, 0⟩))]).redis.bySymbol
        ['B', 'T', 'C']).map (·.crypto.defaultBufferPercent) = some 0 := by
    decide +kernel
  obtain ⟨e, he, hpercent, -⟩ := h.last.symbol 1 _ hlookup
  obtain ⟨cached, hentry, hzero⟩ := Option.map_eq_some_iff.mp hcached
  have hupper : upperCase ['B', 'T', 'C'] = ['B', 'T', 'C'] := by decide
  simp only [getBySymbol, hupper, hentry, Option.some.injEq] at he
  rw [← he, hzero] at hpercent
  cases hpercent

end CryptoCache

end ExchangeLedger
