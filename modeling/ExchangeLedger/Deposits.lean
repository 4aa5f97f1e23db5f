import ExchangeLedger.Binary64
import ExchangeLedger.Concurrent
import ExchangeLedger.Credit

set_option autoImplicit false

/-! Deliveries of confirmed deposits: handlers that run concurrently, with retries of the queue and
failures at every point. -/

namespace ExchangeLedger

open Block Concurrent

namespace DepositSuccessful

/-- The webhook's payload. -/
structure Payload where
  providerDepositId : Reference
  quidaxUserId : Option Reference
  network : Option CryptoNetwork
  deriving DecidableEq, Repr

/-- `confirmedDeposit`, as the provider answers for the payload's id. -/
structure ConfirmedDeposit where
  accepted : Bool
  currency : Currency
  amount : Text
  deriving DecidableEq, Repr

/-- The ledger, and the deposits that were credited, the latest first. -/
structure Deposits where
  ledger : Ledger
  credits : List Deposit

inductive Handler where
  | fetching (p : Payload)
  | guarding (p : Payload) (c : ConfirmedDeposit)
  | findingUser (p : Payload) (c : ConfirmedDeposit)
  | findingWallet (p : Payload) (c : ConfirmedDeposit) (userId : UserId)
  /-- Inside the database transaction, before the row is looked up. -/
  | looking (d : Deposit)
  | crediting (d : Deposit)

/-- How the next call of a handler ends. After a failure the queue delivers again. -/
inductive Outcome where
  | ok | fails
  | fetched (c : Option ConfirmedDeposit)
  | user (userId : Option UserId)
  | created (id : TransactionId)
  deriving DecidableEq, Repr

/-- `existingTx`. -/
def alreadyProcessed (providerDepositId : Reference) (L : Ledger) : Bool :=
  L.transactions.entries.any (fun e => e.2.transactionUniqueId = providerDepositId ∧
    e.2.transactionContext = .DEPOSIT ∧ e.2.status = .COMPLETED)

/-- What the database transaction does when it finds no row of the deposit. The amount of the
wallet's update is a `Prisma.Decimal` in a raw statement: `bound` is the value that the driver binds
for it. -/
def creditBlock (bound : Nat → Nat) (cache : ConvertCurrency.DefaultNetworkCache) (d : Deposit)
    (id : TransactionId) : LedgerBlock Unit := do
  insertTransaction id d.transaction
  creditWallet (d.userId, d.currency) (bound d.amount) (.thrown "wallet not found")
  restateOriginalBalance cache (d.userId, d.currency) none
  addInternalBalance d.currency d.amount

def start (p : Payload) (_ : Deposits) : Option Handler :=
  if p.quidaxUserId.isSome then some (.fetching p) else none

/-- The wallet is there and the amount converts; the provider reports no negative amounts. -/
def findWallet (cache : ConvertCurrency.DefaultNetworkCache) (p : Payload) (c : ConfirmedDeposit)
    (userId : UserId) (L : Ledger) : Option Handler :=
  if (L.wallets.lookup (userId, c.currency)).isNone then none
  else match ConvertCurrency.toBase cache c.amount c.currency with
    | .ok (.ofNat amountBase) =>
      some (.looking ⟨userId, c.currency, p.providerDepositId, p.network, amountBase⟩)
    | _ => none

/-- One step of `process`. The look-up inside the database transaction sees what is committed
then; the writes go through together or not at all. -/
def resume (bound : Nat → Nat) (cache : ConvertCurrency.DefaultNetworkCache) (h : Handler)
    (o : Outcome) (s : Deposits) : Deposits × Option Handler :=
  match h, o with
  | .fetching p, .fetched (some c) => (s, if c.accepted then some (.guarding p c) else none)
  | .guarding p c, .ok =>
    (s, if alreadyProcessed p.providerDepositId s.ledger then none else some (.findingUser p c))
  | .findingUser p c, .user (some userId) => (s, some (.findingWallet p c userId))
  | .findingWallet p c userId, .ok => (s, findWallet cache p c userId s.ledger)
  | .looking d, .ok =>
    (s, if (s.ledger.transactionByUniqueId d.providerDepositId).isSome then none
      else some (.crediting d))
  | .crediting d, .created id =>
    match creditBlock bound cache d id s.ledger with
    | .ok (_, M) => (⟨M, d :: s.credits⟩, none)
    | .error _ => (s, none)
  | _, _ => (s, none)

/-- Deliveries and the queue's retries start handlers. -/
def deliveries (bound : Nat → Nat) (cache : ConvertCurrency.DefaultNetworkCache) :
    Handlers Deposits Handler Payload Outcome Empty where
  start := start
  resume := resume bound cache
  outside := fun x => x.elim

/-! ### The credit -/

def Deposit.key (d : Deposit) : WalletKey := (d.userId, d.currency)

/-- What the deposits put into a wallet. -/
def creditedTo (k : WalletKey) : List Deposit → Int
  | [] => 0
  | d :: ds => (if d.key = k then (d.amount : Int) else 0) + creditedTo k ds

/-- What the deposits put into a currency. -/
def creditedIn (c : Currency) : List Deposit → Int
  | [] => 0
  | d :: ds => (if d.currency = c then (d.amount : Int) else 0) + creditedIn c ds

theorem transactionByUniqueId_eq_none {L : Ledger} {r : Reference}
    (h : L.transactionByUniqueId r = none) {id : TransactionId} {t : Transaction}
    (ht : L.transactions.lookup id = some t) : t.transactionUniqueId ≠ r := by
  intro hr
  unfold Ledger.transactionByUniqueId at h
  rw [Option.map_eq_none_iff, List.find?_eq_none] at h
  have hmem := h ⟨id, t⟩ (AList.mem_lookup_iff.mp ht)
  simp [hr] at hmem

theorem addInternalBalance_internal {c : Currency} {amount : Int} {L M : Ledger} {u : Unit}
    (h : (addInternalBalance c amount).Commits L u M) (d : Currency) :
    M.internalBalance d = L.internalBalance d + if c = d then amount else 0 := by
  rw [← commits_update.mp h]
  unfold Books.internalBalance
  simp only [Ledger.setCompany_companyLiquidity, Table.lookup_insert]
  by_cases hd : d = c
  · subst hd
    cases hr : L.companyLiquidity.lookup d with
    | none => simp
    | some r => simp
  · have hc : ¬ c = d := fun h => hd h.symm
    simp [hd, hc]

/-- A credit stores the deposit's row under a new id and adds the amount to the internal balance of
its currency, and what the driver makes of it to its wallet. -/
structure Credited (bound : Nat → Nat) (d : Deposit) (id : TransactionId) (L M : Ledger) :
    Prop where
  newId : L.transactions.lookup id = none
  newDeposit : L.transactionByUniqueId d.providerDepositId = none
  transactions : M.transactions = L.transactions.insert id d.transaction
  base : ∀ k, M.baseBalance k = L.baseBalance k + if d.key = k then (bound d.amount : Int) else 0
  internal : ∀ c, M.internalBalance c =
    L.internalBalance c + if d.currency = c then (d.amount : Int) else 0

theorem creditBlock_commits {bound : Nat → Nat} {cache : ConvertCurrency.DefaultNetworkCache}
    {d : Deposit} {id : TransactionId} {L M : Ledger} {u : Unit}
    (h : (creditBlock bound cache d id).Commits L u M) : Credited bound d id L M := by
  simp only [creditBlock, commits_bind, insertTransaction_commits, creditWallet,
    mustUpdateWallet_commits, restateOriginalBalance_commits] at h
  obtain ⟨_, _, ⟨hid, hunique, rfl⟩, _, _, ⟨w, hw, -, rfl⟩, _, A, hrestate, hinternal⟩ := h
  have hbooks := addInternalBalance_internal hinternal
  have hM := commits_update.mp hinternal
  rcases hrestate with ⟨hnone, -⟩ | ⟨v, text, hv, -, rfl⟩
  · simp at hnone
  · simp only [Ledger.setWallet_wallets, AList.lookup_insert, Option.some.injEq] at hv
    subst hv
    have hwallet : L.wallets.lookup d.key = some w := hw
    constructor
    · exact hid
    · exact hunique
    · rw [← hM]
      rfl
    · intro k
      rw [← hM]
      by_cases hk : d.key = k
      · subst hk
        rw [if_pos rfl, Ledger.baseBalance_of_lookup hwallet]
        simp [Ledger.baseBalance, Ledger.setWallet, Ledger.setCompany, Deposit.key]
      · have hne : ¬ k = (d.userId, d.currency) := fun h => hk h.symm
        simp [Ledger.baseBalance, Ledger.setWallet, Ledger.setCompany, hk, hne]
    · exact hbooks

/-! ### Runs -/

/-- Since `L₀` no deposit was credited twice, the rows of the credited ones are the new
transactions, and every wallet and every internal balance has risen by the credited amounts. -/
structure CreditedOnce (L₀ : Ledger) (s : Deposits) : Prop where
  kept : ∀ id t, L₀.transactions.lookup id = some t → s.ledger.transactions.lookup id = some t
  once : (s.credits.map Deposit.providerDepositId).Nodup
  stored : ∀ d ∈ s.credits, ∃ id, L₀.transactions.lookup id = none ∧
    s.ledger.transactions.lookup id = some d.transaction
  recorded : ∀ id t, s.ledger.transactions.lookup id = some t →
    L₀.transactions.lookup id = some t ∨ ∃ d ∈ s.credits, t = d.transaction
  base : ∀ k, s.ledger.baseBalance k = L₀.baseBalance k + creditedTo k s.credits
  internal : ∀ c, s.ledger.internalBalance c = L₀.internalBalance c + creditedIn c s.credits

theorem CreditedOnce.start (L₀ : Ledger) : CreditedOnce L₀ ⟨L₀, []⟩ := by
  constructor
  · exact fun _ _ h => h
  · simp
  · simp
  · exact fun _ _ h => .inl h
  · simp [creditedTo]
  · simp [creditedIn]

theorem CreditedOnce.credit {bound : Nat → Nat} {L₀ M : Ledger} {s : Deposits}
    (hs : CreditedOnce L₀ s) {d : Deposit} {id : TransactionId} (h : Credited bound d id s.ledger M)
    (hexact : bound d.amount = d.amount) : CreditedOnce L₀ ⟨M, d :: s.credits⟩ := by
  have hold (j : TransactionId) (t : Transaction)
      (hj : s.ledger.transactions.lookup j = some t) : M.transactions.lookup j = some t := by
    have hne : j ≠ id := by
      intro hj'
      rw [hj', h.newId] at hj
      cases hj
    rw [h.transactions, AList.lookup_insert_ne hne, hj]
  constructor
  · exact fun j t hj => hold j t (hs.kept j t hj)
  · simp only [List.map_cons, List.nodup_cons]
    constructor
    · intro hmem
      obtain ⟨e, he, hid⟩ := List.mem_map.mp hmem
      obtain ⟨j, -, hj⟩ := hs.stored e he
      exact transactionByUniqueId_eq_none h.newDeposit hj hid
    · exact hs.once
  · intro e he
    rcases List.mem_cons.mp he with rfl | he
    · refine ⟨id, ?_, by rw [h.transactions, AList.lookup_insert]⟩
      cases hL : L₀.transactions.lookup id with
      | none => rfl
      | some t =>
        have hkept := hs.kept id t hL
        rw [h.newId] at hkept
        cases hkept
    · obtain ⟨j, hnew, hj⟩ := hs.stored e he
      exact ⟨j, hnew, hold j _ hj⟩
  · intro j t hj
    rw [h.transactions, Table.lookup_insert] at hj
    split at hj
    · cases hj
      exact .inr ⟨d, by simp, rfl⟩
    · rcases hs.recorded j t hj with hj | ⟨e, he, ht⟩
      · exact .inl hj
      · exact .inr ⟨e, by simp [he], ht⟩
  · intro k
    rw [h.base, hs.base, creditedTo, hexact]
    ring
  · intro c
    rw [h.internal, hs.internal, creditedIn]
    ring

theorem CreditedOnce.exact {bound : Nat → Nat} {L₀ M : Ledger} {s : Deposits} {d : Deposit}
    {id : TransactionId} (hs : CreditedOnce L₀ s) (h : Credited bound d id s.ledger M)
    (hM : CreditedOnce L₀ ⟨M, d :: s.credits⟩) : bound d.amount = d.amount := by
  have hafter := hM.base d.key
  simp only [creditedTo, if_true] at hafter
  rw [h.base d.key, if_pos rfl, hs.base d.key] at hafter
  omega

/-- The step credits no deposit that the driver does not pass on exactly. -/
def BoundExactly (bound : Nat → Nat) (cache : ConvertCurrency.DefaultNetworkCache)
    (s : System Deposits Handler) : Event Payload Outcome Empty → Prop
  | .resume n (.created id) => ∀ d, s.running[n]? = some (.crediting d) →
      ((creditBlock bound cache d id).result s.state.ledger).isSome = true →
      bound d.amount = d.amount
  | _ => True

theorem resume_cases (bound : Nat → Nat) (cache : ConvertCurrency.DefaultNetworkCache) (h : Handler)
    (o : Outcome) (s : Deposits) :
    ((resume bound cache h o s).1 = s ∧ ∀ d id, h = .crediting d → o = .created id →
        (creditBlock bound cache d id).result s.ledger = none) ∨
      ∃ d id M, h = .crediting d ∧ o = .created id ∧
        (creditBlock bound cache d id).Commits s.ledger () M ∧
        (resume bound cache h o s).1 = ⟨M, d :: s.credits⟩ := by
  unfold resume
  split
  · exact .inl ⟨rfl, nofun⟩
  · exact .inl ⟨rfl, nofun⟩
  · exact .inl ⟨rfl, nofun⟩
  · exact .inl ⟨rfl, nofun⟩
  · exact .inl ⟨rfl, nofun⟩
  · rename_i d id
    cases hblock : creditBlock bound cache d id s.ledger with
    | error e =>
      refine .inl ⟨rfl, ?_⟩
      rintro _ _ ⟨⟩ ⟨⟩
      simp [result, hblock]
    | ok p => exact .inr ⟨d, id, p.2, rfl, rfl, hblock, rfl⟩
  · rename_i hother
    refine .inl ⟨rfl, ?_⟩
    rintro d id rfl rfl
    exact (hother d id rfl rfl).elim

theorem CreditedOnce.step {bound : Nat → Nat} {cache : ConvertCurrency.DefaultNetworkCache}
    {L₀ : Ledger} {s : System Deposits Handler} (hs : CreditedOnce L₀ s.state)
    (e : Event Payload Outcome Empty) :
    CreditedOnce L₀ ((deliveries bound cache).step e s).state ↔ BoundExactly bound cache s e := by
  cases e with
  | start p => exact iff_of_true hs trivial
  | outside x => exact x.elim
  | resume n o =>
    cases hn : s.running[n]? with
    | none =>
      rw [Handlers.step_resume_none hn]
      refine iff_of_true hs ?_
      cases o <;> simp [BoundExactly, hn]
    | some h =>
      rw [Handlers.step_resume hn]
      show CreditedOnce L₀ (resume bound cache h o s.state).1 ↔ _
      rcases resume_cases bound cache h o s.state with
        ⟨hsame, hfails⟩ | ⟨d, id, M, rfl, rfl, hcommits, hnext⟩
      · rw [hsame]
        refine iff_of_true hs ?_
        cases o with
        | created id =>
          intro d hd hcommitted
          rw [hn, Option.some.injEq] at hd
          rw [hfails d id hd rfl] at hcommitted
          cases hcommitted
        | _ => trivial
      · rw [hnext]
        have hcredited := creditBlock_commits hcommits
        constructor
        · intro hM d' hd' _
          rw [hn] at hd'
          cases hd'
          exact hs.exact hcredited hM
        · intro hexact
          refine hs.credit hcredited (hexact d hn ?_)
          rw [result_eq_some.mpr (by rwa [commit_of_commits hcommits])]
          rfl

/-- In a run of deliveries, retries and failures, from any ledger, each deposit is credited at most
once, and what is recorded is exactly what was credited, exactly where the driver passes the amount
of every credited deposit on as it is. -/
theorem deposits_credited_once_iff (bound : Nat → Nat) (cache : ConvertCurrency.DefaultNetworkCache)
    (L₀ : Ledger) (events : List (Event Payload Outcome Empty)) :
    Run.Throughout (deliveries bound cache).step (fun s => CreditedOnce L₀ s.state) ⟨⟨L₀, []⟩, []⟩
        events ↔
      Run.Along (deliveries bound cache).step (BoundExactly bound cache) ⟨⟨L₀, []⟩, []⟩ events := by
  exact Run.throughout_iff_along
    (P := fun s : System Deposits Handler => CreditedOnce L₀ s.state) (fun _ e hs => hs.step e)
    (CreditedOnce.start L₀)

/-- A `Prisma.Decimal` as a double, which is how a raw statement binds it. -/
def asDouble (amount : Nat) : Nat := ⌊Binary64.round amount⌋.toNat

theorem asDouble_of_lt {amount : Nat} (h : amount < 2 ^ 53) : asDouble amount = amount := by
  have hround : Binary64.round (amount : Int) = (amount : Int) :=
    Binary64.round_intCast (by rw [abs_of_nonneg (by omega)]; exact_mod_cast h)
  rw [asDouble, ← Int.cast_natCast, hround]
  simp

theorem asDouble_over : asDouble (10 ^ 18 + 1) = 10 ^ 18 := by
  have hunit : Binary64.unit ((10 ^ 18 + 1 : Nat) : Rat) = 128 := by
    rw [Binary64.unit_eq (e := 59) (by norm_num) (by norm_num) (by norm_num)]
    norm_num
  have hfloor : ⌊((10 ^ 18 + 1 : Nat) : Rat) / 128⌋ = 7812500000000000 := by
    rw [Int.floor_eq_iff]
    norm_num
  have hround : Binary64.roundEven (((10 ^ 18 + 1 : Nat) : Rat) / 128) = 7812500000000000 := by
    unfold Binary64.roundEven
    rw [hfloor, if_pos (Or.inl (by norm_num))]
  rw [asDouble, Binary64.round, hunit, hround]
  norm_num
  rfl

/-- User 1's empty USDT wallet. -/
def beforeDeposit : Ledger :=
  { Ledger.empty with
    wallets := (∅ : Table WalletKey Wallet).insert (1, .usdt)
      { Wallet.empty with defaultNetwork := some .bep20 } }

def usdtCache : ConvertCurrency.DefaultNetworkCache := fun _ => some .bep20

/-- Deliveries of one deposit of `amount` USDT take turns, up to the credit. -/
def deliver (amount : Text) (n : Nat) : List (Event Payload Outcome Empty) :=
  List.replicate n (.start ⟨31, some 8, some .bep20⟩) ++
    [.fetched (some ⟨true, .usdt, amount⟩), .ok, .user (some 1), .ok, .ok].flatMap
      fun o => List.replicate n (.resume 0 o)

def lastDigit : Deposit := ⟨1, .usdt, 31, some .bep20, 10 ^ 18 + 1⟩

/-- One and 10⁻¹⁸ USDT on bep20: the wallet gets one. -/
theorem last_digit_lost :
    ¬ ∀ L₀ events, Run.Throughout (deliveries asDouble usdtCache).step
      (fun s => CreditedOnce L₀ s.state) ⟨⟨L₀, []⟩, []⟩ events := by
  intro hall
  have hrun := (hall beforeDeposit (deliver "1.000000000000000001".toList 1 ++
    [.resume 0 (.created 1)])).last
  have hchecks : Run.final (deliveries asDouble usdtCache).step ⟨⟨beforeDeposit, []⟩, []⟩
      (deliver "1.000000000000000001".toList 1) =
        ⟨⟨beforeDeposit, []⟩, [.crediting lastDigit]⟩ := by
    rfl
  have hblock : creditBlock asDouble usdtCache lastDigit 1 =
      creditBlock (fun _ => 10 ^ 18) usdtCache lastDigit 1 := by
    have hbound : asDouble lastDigit.amount = 10 ^ 18 := asDouble_over
    unfold creditBlock
    rw [hbound]
  have hcommits : (creditBlock asDouble usdtCache lastDigit 1).result beforeDeposit = some () := by
    rw [hblock]
    decide +kernel
  have hcredit := result_eq_some.mp hcommits
  have hnext : (resume asDouble usdtCache (.crediting lastDigit) (.created 1)
      ⟨beforeDeposit, []⟩).1 =
        ⟨(creditBlock asDouble usdtCache lastDigit 1).commit beforeDeposit, [lastDigit]⟩ := by
    unfold Commits at hcredit
    simp only [resume, hcredit]
  rw [Run.final_append, hchecks, Run.final, Run.final, Handlers.step_resume rfl] at hrun
  have hafter : CreditedOnce beforeDeposit
      (resume asDouble usdtCache (.crediting lastDigit) (.created 1) ⟨beforeDeposit, []⟩).1 := hrun
  rw [hnext] at hafter
  have hexact := (CreditedOnce.start beforeDeposit).exact (creditBlock_commits hcredit) hafter
  have hbound : asDouble lastDigit.amount = 10 ^ 18 := asDouble_over
  rw [hbound] at hexact
  exact absurd hexact (by decide)

/-- Two deliveries of one deposit, both past every check before either writes, credit it once. -/
example : (Run.final (deliveries (fun amount => amount) usdtCache).step ⟨⟨beforeDeposit, []⟩, []⟩
    (deliver ['2', '.', '5'] 2 ++
      [.resume 0 (.created 1), .resume 0 (.created 2)])).state.ledger.baseBalance (1, .usdt) =
        25 * 10 ^ 17 := by
  decide +kernel

end DepositSuccessful

end ExchangeLedger
