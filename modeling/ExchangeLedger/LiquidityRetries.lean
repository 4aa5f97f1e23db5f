import ExchangeLedger.Concurrent
import ExchangeLedger.FailedLiquidity

set_option autoImplicit false

/-! Runs of `FailedCompanyLiquidityService` over the record of one queued transaction: manual
activations, automatic retries and the expiry of stale records. -/

namespace ExchangeLedger

open Block Concurrent

namespace FailedCompanyLiquidity

/-- What the retry of a transaction asks of a provider: an order, a swap, a withdrawal or a
charge. -/
inductive Target where
  | sell
  | swap (swapRecordId : SwapRecordId)
  | withdrawal (withdrawalId : WithdrawalId)
  /-- With the row that `resumeBuy` read. -/
  | buy (transaction : Transaction)
  deriving DecidableEq, Repr

/-- `swapTransaction.findFirst({ where: { quoteId: transactionUniqueId, userId } })`, the latest. -/
def findSwap (L : Ledger) (t : Transaction) : Option SwapRecordId :=
  (L.swaps.entries.find?
    (fun e => e.2.quoteId = some t.transactionUniqueId ∧ e.2.userId = t.userId)).map Sigma.fst

def findWithdrawal (L : Ledger) (id : TransactionId) : Option WithdrawalId :=
  (L.withdrawals.entries.find? (fun e => e.2.transactionId = some id)).map Sigma.fst

/-- The rows that a retry needs before it calls the provider. -/
def target (L : Ledger) (id : TransactionId) (context : TransactionContext) : Option Target := do
  let transaction ← L.transactions.lookup id
  match context with
  | .SELL => (L.orders.lookup id).map (fun _ => .sell)
  | .SWAP => (findSwap L transaction).map .swap
  | .WITHDRAWAL => (findWithdrawal L id).map .withdrawal
  | .BUY => if 0 < transaction.fiatAmountBase then some (.buy transaction) else none
  | _ => none

/-- What the retry writes once the provider has answered. -/
def Target.block (id : TransactionId) (reference : Reference) : Target → LedgerBlock Unit
  | .sell => resumeSellBlock id reference
  | .swap swapRecordId => resumeSwapBlock swapRecordId reference
  | .withdrawal withdrawalId => resumeWithdrawalBlock id withdrawalId reference
  | .buy transaction => resumeBuyBlock id transaction

/-- The ledger, how often a provider has taken up the transaction for a retry, and how many of the
reservations that retries made are open. -/
structure Queue where
  ledger : Ledger
  placed : Nat
  reservations : Nat

inductive Task where
  /-- A caller of `processFailedRecord` that has read the record, before it looks at what is
  available. -/
  | checking (failed : FailedCompanyLiquidityTransaction)
  | processing
  | dropping
  | reserving (failed : FailedCompanyLiquidityTransaction) (txRecord : Transaction)
  | resuming (failed : FailedCompanyLiquidityTransaction) (txRecord : Transaction)
  | marking (failed : FailedCompanyLiquidityTransaction) (target : Target) (reference : Reference)
  | releasing (failed : FailedCompanyLiquidityTransaction)
  | deleting
  | expiring (transaction : Transaction)
  deriving DecidableEq, Repr

inductive Outcome where
  | ok | fails
  | accepted (reference : Reference)
  /-- The provider takes up the transaction, but its answer does not arrive. -/
  | acceptedUnseen
  | refused
  /-- The worker goes down. -/
  | dies
  deriving DecidableEq, Repr

inductive Call where
  | activateAndProcess | autoProcessEligible | expireStaleFailedRecords
  deriving DecidableEq, Repr

/-- Whatever else happens to the ledger: no transaction is queued a second time. -/
structure Other (id : TransactionId) where
  change : Ledger → Ledger
  gone : ∀ L, L.failedCompanyLiquidity.lookup id = none →
    (change L).failedCompanyLiquidity.lookup id = none

def Queue.commit {α : Type} (x : LedgerBlock α) (q : Queue) : Queue :=
  { q with ledger := x.commit q.ledger }

def start (id : TransactionId) (c : Call) (q : Queue) : Option Task :=
  match c, q.ledger.failedCompanyLiquidity.lookup id, q.ledger.transactions.lookup id with
  | .activateAndProcess, some failed, some _ => some (.checking failed)
  | .autoProcessEligible, some failed, _ => some (.checking failed)
  | .expireStaleFailedRecords, some _, some transaction => some (.expiring transaction)
  | _, _, _ => none

/-- `processFailedRecord` up to its reservation. -/
def process (id : TransactionId) (q : Queue) : Option Task :=
  match q.ledger.failedCompanyLiquidity.lookup id, q.ledger.transactions.lookup id with
  | some failed, some txRecord =>
    some (if isRetryable txRecord then .reserving failed txRecord else .dropping)
  | _, _ => none

/-- The call of the provider: without the rows that it needs, or without an answer, it counts as
refused. -/
def call (id : TransactionId) (failed : FailedCompanyLiquidityTransaction) (txRecord : Transaction)
    (o : Outcome) (q : Queue) : Queue × Option Task :=
  match target q.ledger id txRecord.transactionContext, o with
  | some found, .accepted reference =>
    ({ q with placed := q.placed + 1 }, some (.marking failed found reference))
  | some _, .acceptedUnseen => ({ q with placed := q.placed + 1 }, some (.releasing failed))
  | _, .dies => (q, none)
  | _, _ => (q, some (.releasing failed))

/-- One step of a run. -/
def resume (id : TransactionId) (t : Task) (o : Outcome) (q : Queue) : Queue × Option Task :=
  match t, o with
  | .checking failed, .ok =>
    (q, if getAvailableLiquidity q.ledger failed.currency < failed.amountBase then none
      else some .processing)
  | .processing, .ok => (q, process id q)
  | .dropping, .ok => (q.commit (deleteRecord id), none)
  | .reserving failed txRecord, .ok =>
    match reserveLiquidity failed.currency failed.amountBase q.ledger with
    | .ok (true, M) =>
      ({ q with ledger := M, reservations := q.reservations + 1 },
        some (.resuming failed txRecord))
    | _ => (q, none)
  | .resuming failed txRecord, _ => call id failed txRecord o q
  | .marking _ found reference, .ok => (q.commit (found.block id reference), some .deleting)
  | .marking failed _ _, .fails => (q, some (.releasing failed))
  | .releasing failed, .ok =>
    match releaseLiquidity failed.currency failed.amountBase q.ledger with
    | .ok (_, M) => ({ q with ledger := M, reservations := q.reservations - 1 }, none)
    | .error _ => (q, none)
  | .deleting, .ok => (q.commit (deleteRecord id), none)
  | .expiring transaction, .ok =>
    (if isRetryable transaction then q.commit (expireBlock id transaction)
      else q.commit (deleteRecord id), none)
  | _, _ => (q, none)

def retries (id : TransactionId) : Handlers Queue Task Call Outcome (Other id) where
  start := start id
  resume := resume id
  outside := fun x q => { q with ledger := x.change q.ledger }

/-- What a step of a task can do to the queue, and how the task goes on. -/
inductive Resumes (id : TransactionId) (q : Queue) : Task → Queue → Option Task → Prop where
  | ended (t : Task) : Resumes id q t q none
  | checked (failed : FailedCompanyLiquidityTransaction) :
      Resumes id q (.checking failed) q (some .processing)
  | found {failed : FailedCompanyLiquidityTransaction} {txRecord : Transaction}
      (hrecord : q.ledger.failedCompanyLiquidity.lookup id = some failed)
      (hrow : q.ledger.transactions.lookup id = some txRecord) :
      Resumes id q .processing q (some (.reserving failed txRecord))
  | unretryable : Resumes id q .processing q (some .dropping)
  | deleted (t : Task) : Resumes id q t (q.commit (deleteRecord id)) none
  | expired (transaction : Transaction) :
      Resumes id q (.expiring transaction) (q.commit (expireBlock id transaction)) none
  | reserved {failed : FailedCompanyLiquidityTransaction} (txRecord : Transaction) {M : Ledger}
      (hM : (reserveLiquidity failed.currency failed.amountBase).Commits q.ledger true M) :
      Resumes id q (.reserving failed txRecord)
        { q with ledger := M, reservations := q.reservations + 1 }
        (some (.resuming failed txRecord))
  | accepted (failed : FailedCompanyLiquidityTransaction) {txRecord : Transaction}
      {found : Target} (hfound : target q.ledger id txRecord.transactionContext = some found)
      (reference : Reference) :
      Resumes id q (.resuming failed txRecord) { q with placed := q.placed + 1 }
        (some (.marking failed found reference))
  | acceptedUnseen (failed : FailedCompanyLiquidityTransaction) {txRecord : Transaction}
      {found : Target} (hfound : target q.ledger id txRecord.transactionContext = some found) :
      Resumes id q (.resuming failed txRecord) { q with placed := q.placed + 1 }
        (some (.releasing failed))
  | refused (failed : FailedCompanyLiquidityTransaction) (txRecord : Transaction) :
      Resumes id q (.resuming failed txRecord) q (some (.releasing failed))
  | marked (failed : FailedCompanyLiquidityTransaction) (found : Target) (reference : Reference) :
      Resumes id q (.marking failed found reference) (q.commit (found.block id reference))
        (some .deleting)
  | unmarked (failed : FailedCompanyLiquidityTransaction) (found : Target)
      (reference : Reference) :
      Resumes id q (.marking failed found reference) q (some (.releasing failed))
  | released {failed : FailedCompanyLiquidityTransaction} {u : Unit} {M : Ledger}
      (hM : (releaseLiquidity failed.currency failed.amountBase).Commits q.ledger u M) :
      Resumes id q (.releasing failed)
        { q with ledger := M, reservations := q.reservations - 1 } none

theorem process_resumes (id : TransactionId) (q : Queue) :
    Resumes id q .processing q (process id q) := by
  unfold process
  split
  · rename_i failed txRecord hrecord hrow
    split
    · exact .found hrecord hrow
    · exact .unretryable
  · exact .ended _

theorem call_resumes (id : TransactionId) (failed : FailedCompanyLiquidityTransaction)
    (txRecord : Transaction) (o : Outcome) (q : Queue) :
    Resumes id q (.resuming failed txRecord) (call id failed txRecord o q).1
      (call id failed txRecord o q).2 := by
  unfold call
  split
  · rename_i found reference hfound
    exact .accepted failed hfound reference
  · rename_i found hfound
    exact .acceptedUnseen failed hfound
  · exact .ended _
  · exact .refused failed txRecord

theorem resume_resumes (id : TransactionId) (t : Task) (o : Outcome) (q : Queue) :
    Resumes id q t (resume id t o q).1 (resume id t o q).2 := by
  cases t with
  | resuming failed txRecord => exact call_resumes id failed txRecord o q
  | checking failed =>
    cases o with
    | ok =>
      simp only [resume]
      split
      · exact .ended _
      · exact .checked failed
    | _ => exact .ended _
  | processing =>
    cases o with
    | ok => exact process_resumes id q
    | _ => exact .ended _
  | reserving failed txRecord =>
    cases o with
    | ok =>
      simp only [resume]
      split
      · rename_i M hM
        exact .reserved txRecord hM
      · exact .ended _
    | _ => exact .ended _
  | marking failed found reference =>
    cases o with
    | ok => exact .marked failed found reference
    | fails => exact .unmarked failed found reference
    | _ => exact .ended _
  | releasing failed =>
    cases o with
    | ok =>
      simp only [resume]
      split
      · rename_i u M hM
        exact .released hM
      · exact .ended _
    | _ => exact .ended _
  | expiring transaction =>
    cases o with
    | ok =>
      simp only [resume]
      split
      · exact .expired transaction
      · exact .deleted _
    | _ => exact .ended _
  | dropping | deleting =>
    cases o with
    | ok => exact .deleted _
    | _ => exact .ended _

/-- At most one provider takes up the transaction, and at most one reservation is open for it. -/
structure AtMostOnce (q : Queue) : Prop where
  placed : q.placed ≤ 1
  reservations : q.reservations ≤ 1

/-- A run that has found the record and is about to reserve. -/
def Task.reserves : Task → Bool
  | .reserving _ _ => true
  | _ => false

/-- A run that holds a reservation, before the provider has taken up the transaction. -/
def Task.unplaced : Task → Bool
  | .resuming _ _ | .releasing _ => true
  | _ => false

/-- A run whose call was answered. -/
def Task.answered : Task → Bool
  | .marking _ _ _ | .deleting => true
  | _ => false

def Task.active (t : Task) : Bool := t.reserves || t.unplaced || t.answered

/-- What a step has to find: no other run past its read of the record when it reads a retryable
one, an answer to every call that was taken up, and a database that takes every later write. -/
def Calm (id : TransactionId) (s : System Queue Task) : Task → Outcome → Prop
  | .processing, .ok =>
    (∃ failed txRecord, process id s.state = some (.reserving failed txRecord)) →
      s.running.countP Task.active = 0
  | .resuming _ _, o => o ≠ .acceptedUnseen ∧ o ≠ .dies
  | .marking _ _ _, o => o = .ok
  | .releasing failed, o => o = .ok ∧
    ∃ M, (releaseLiquidity failed.currency failed.amountBase).Commits s.state.ledger () M
  | .deleting, o => o = .ok
  | _, _ => True

def Orderly (id : TransactionId) (s : System Queue Task) : Event Call Outcome (Other id) → Prop
  | .resume n o => ∀ t, s.running[n]? = some t → Calm id s t o
  | _ => True

theorem countP_active (ts : List Task) :
    ts.countP Task.active =
      ts.countP Task.reserves + ts.countP Task.unplaced + ts.countP Task.answered := by
  induction ts with
  | nil => rfl
  | cons t ts ih =>
    simp only [List.countP_cons, ih]
    cases t <;> simp [Task.active, Task.reserves, Task.unplaced, Task.answered] <;> omega

/-- At most one run is past its read of the record. While none is, the record is gone as soon as
the transaction was taken up, or a reservation is open. -/
structure Serial (id : TransactionId) (s : System Queue Task) : Prop where
  single : s.running.countP Task.reserves + s.running.countP Task.unplaced +
    s.running.countP Task.answered ≤ 1
  placed : s.state.placed + s.running.countP Task.reserves + s.running.countP Task.unplaced ≤ 1
  reserved : s.state.reservations + s.running.countP Task.reserves ≤ 1
  taken : s.state.ledger.failedCompanyLiquidity.lookup id = none ∨
    s.state.placed ≤ s.running.countP Task.answered
  held : s.state.ledger.failedCompanyLiquidity.lookup id = none ∨
    s.state.reservations ≤ s.running.countP Task.unplaced + s.running.countP Task.answered

theorem Serial.atMostOnce {id : TransactionId} {s : System Queue Task} (h : Serial id s) :
    AtMostOnce s.state := by
  have hplaced := h.placed
  have hreserved := h.reserved
  exact ⟨by omega, by omega⟩

/-! ### The record -/

section Record

variable {id : TransactionId} {L M : Ledger}

theorem deleteRecord_gone (id : TransactionId) (L : Ledger) :
    ((deleteRecord id).commit L).failedCompanyLiquidity.lookup id = none := by
  rcases (deleteRecord id).commit_cases L with hsame | ⟨_, hM⟩
  · rw [hsame]
    cases hrecord : L.failedCompanyLiquidity.lookup id with
    | none => rfl
    | some failed =>
      have hcommits : (deleteRecord id).Commits L ()
          { L with failedCompanyLiquidity := L.failedCompanyLiquidity.erase id } := by
        simp [deleteRecord, hrecord]
      rw [commit_of_commits hcommits] at hsame
      rw [← hsame] at hrecord
      simp at hrecord
  · generalize (deleteRecord id).commit L = M at hM
    simp only [deleteRecord, commits_read_bind, commits_require_bind, commits_update] at hM
    rw [← hM.2]
    simp

/-- A block that leaves a missing record missing. -/
def KeepsGone {α : Type} (id : TransactionId) (x : LedgerBlock α) : Prop :=
  Preserves (fun L => L.failedCompanyLiquidity.lookup id = none) x

theorem OnBalances.keepsGone {α : Type} {x : LedgerBlock α} (hx : OnBalances x) :
    KeepsGone id x := hx.preserves fun _ => Iff.rfl

theorem keepsGone_update {f : Ledger → Ledger}
    (hf : ∀ L, (f L).failedCompanyLiquidity = L.failedCompanyLiquidity) :
    KeepsGone id (update f) := by
  refine preserves_update fun L hL => ?_
  rw [hf]
  exact hL

theorem deleteRecord_keepsGone : KeepsGone id (deleteRecord id) := by
  intro L u M hL hM
  have hgone := deleteRecord_gone id L
  rwa [commit_of_commits hM] at hgone

theorem expireBlock_keepsGone (transaction : Transaction) :
    KeepsGone id (expireBlock id transaction) := by
  refine preserves_bind ?_ fun _ => preserves_bind (keepsGone_update fun _ => rfl) fun _ =>
    deleteRecord_keepsGone
  unfold releaseReserved
  split
  · exact OnBalances.keepsGone (releaseBalance_onBalances _ _ _ _)
  · exact preserves_pure ()

end Record

/-! ### The steps -/

section Steps

variable {id : TransactionId} {s : System Queue Task}

theorem start_active {c : Call} {q : Queue} {t : Task} (h : start id c q = some t) :
    t.reserves = false ∧ t.unplaced = false ∧ t.answered = false := by
  unfold start at h
  split at h
  all_goals cases h <;> exact ⟨rfl, rfl, rfl⟩

theorem Serial.start (h : Serial id s) (c : Call) :
    Serial id ((retries id).step (.start c) s) := by
  have hr := Handlers.countP_start (h := retries id) (s := s) (i := c)
    fun t ht => (start_active ht).1
  have hu := Handlers.countP_start (h := retries id) (s := s) (i := c)
    fun t ht => (start_active ht).2.1
  have ha := Handlers.countP_start (h := retries id) (s := s) (i := c)
    fun t ht => (start_active ht).2.2
  have hstate : ((retries id).step (.start c) s).state = s.state := rfl
  constructor
  · rw [hr, hu, ha]
    exact h.single
  · rw [hstate, hr, hu]
    exact h.placed
  · rw [hstate, hr]
    exact h.reserved
  · rw [hstate, ha]
    exact h.taken
  · rw [hstate, hu, ha]
    exact h.held

theorem Serial.outside (h : Serial id s) (x : Other id) :
    Serial id ((retries id).step (.outside x) s) :=
  ⟨h.single, h.placed, h.reserved, h.taken.imp_left (x.gone _), h.held.imp_left (x.gone _)⟩

theorem counts {n : Nat} {t : Task} (ht : s.running[n]? = some t) (o : Outcome) {q : Queue}
    {next : Option Task} (hstep : resume id t o s.state = (q, next)) (f : Task → Bool) :
    ((retries id).step (.resume n o) s).running.countP f + (f t).toNat =
      s.running.countP f + (next.any f).toNat := by
  have hcount := Handlers.countP_resume (h := retries id) f ht o
  change _ = _ + ((resume id t o s.state).2.any f).toNat at hcount
  rw [hcount, hstep]

theorem state_resume {n : Nat} {t : Task} (ht : s.running[n]? = some t) (o : Outcome) {q : Queue}
    {next : Option Task} (hstep : resume id t o s.state = (q, next)) :
    ((retries id).step (.resume n o) s).state = q := by
  rw [Handlers.step_resume ht]
  change (resume id t o s.state).1 = q
  rw [hstep]

theorem Serial.idle (h : Serial id s) {n : Nat} {t : Task} {o : Outcome}
    (ht : s.running[n]? = some t) {q : Queue} {next : Option Task}
    (hstep : resume id t o s.state = (q, next)) (hactive : t.active = false)
    (hnext : next.any Task.active = false)
    (hsame : q.placed = s.state.placed ∧ q.reservations = s.state.reservations)
    (hgone : s.state.ledger.failedCompanyLiquidity.lookup id = none →
      q.ledger.failedCompanyLiquidity.lookup id = none) :
    Serial id ((retries id).step (.resume n o) s) := by
  have hr := counts ht o hstep Task.reserves
  have hu := counts ht o hstep Task.unplaced
  have ha := counts ht o hstep Task.answered
  have hstate := state_resume ht o hstep
  simp only [Task.active, Bool.or_eq_false_iff] at hactive
  have hnone : next.any Task.reserves = false ∧ next.any Task.unplaced = false ∧
      next.any Task.answered = false := by
    cases next with
    | none => exact ⟨rfl, rfl, rfl⟩
    | some u => simpa [Task.active, and_assoc] using hnext
  simp only [hactive.1.1, hactive.1.2, hactive.2, hnone.1, hnone.2.1, hnone.2.2,
    Bool.toNat_false, Nat.add_zero] at hr hu ha
  constructor
  · rw [hr, hu, ha]
    exact h.single
  · rw [hstate, hsame.1, hr, hu]
    exact h.placed
  · rw [hstate, hsame.2, hr]
    exact h.reserved
  · rw [hstate, hsame.1, ha]
    exact h.taken.imp_left hgone
  · rw [hstate, hsame.2, hu, ha]
    exact h.held.imp_left hgone

theorem Serial.active (h : Serial id s) {n : Nat} {t : Task} {o : Outcome}
    (ht : s.running[n]? = some t) {q : Queue} {next : Option Task}
    (hstep : resume id t o s.state = (q, next)) (hactive : t.active = true)
    (hplaced : q.placed + (next.any Task.reserves).toNat + (next.any Task.unplaced).toNat ≤ 1)
    (hreserved : q.reservations + (next.any Task.reserves).toNat ≤ 1)
    (hsingle : (next.any Task.reserves).toNat + (next.any Task.unplaced).toNat +
      (next.any Task.answered).toNat ≤ 1)
    (htaken : q.ledger.failedCompanyLiquidity.lookup id = none ∨
      q.placed ≤ (next.any Task.answered).toNat)
    (hheld : q.ledger.failedCompanyLiquidity.lookup id = none ∨
      q.reservations ≤ (next.any Task.unplaced).toNat + (next.any Task.answered).toNat) :
    Serial id ((retries id).step (.resume n o) s) := by
  have hr := counts ht o hstep Task.reserves
  have hu := counts ht o hstep Task.unplaced
  have ha := counts ht o hstep Task.answered
  have hstate := state_resume ht o hstep
  have hbefore := h.single
  have hone : 1 ≤ t.reserves.toNat + t.unplaced.toNat + t.answered.toNat := by
    simp only [Task.active, Bool.or_eq_true] at hactive
    rcases hactive with (hreserves | hunplaced) | hanswered
    · simp [hreserves]
      omega
    · simp [hunplaced]
      omega
    · simp [hanswered]
  have hmem := List.mem_of_getElem? ht
  have hle (f : Task → Bool) : (f t).toNat ≤ s.running.countP f := by
    cases hf : f t with
    | false => simp
    | true => simpa using List.countP_pos_iff.mpr ⟨t, hmem, hf⟩
  have hle₁ := hle Task.reserves
  have hle₂ := hle Task.unplaced
  have hle₃ := hle Task.answered
  constructor
  · omega
  · rw [hstate]
    omega
  · rw [hstate]
    omega
  · rw [hstate]
    exact htaken.imp_right fun hq => by omega
  · rw [hstate]
    exact hheld.imp_right fun hq => by omega

theorem Serial.unplaced (h : Serial id s) {t : Task} (ht : t ∈ s.running)
    (hunplaced : t.unplaced = true) : s.state.placed = 0 := by
  have hpos := List.countP_pos_iff.mpr ⟨t, ht, hunplaced⟩
  have hplaced := h.placed
  omega

theorem Serial.reserves (h : Serial id s) {t : Task} (ht : t ∈ s.running)
    (hreserves : t.reserves = true) : s.state.placed = 0 ∧ s.state.reservations = 0 := by
  have hpos := List.countP_pos_iff.mpr ⟨t, ht, hreserves⟩
  have hplaced := h.placed
  have hreserved := h.reserved
  omega

theorem process_cases (id : TransactionId) (q : Queue) :
    (∃ failed txRecord, q.ledger.failedCompanyLiquidity.lookup id ≠ none ∧
        process id q = some (.reserving failed txRecord)) ∨
      process id q = some .dropping ∨ process id q = none := by
  unfold process
  split
  · rename_i failed txRecord hfailed _
    split
    · exact .inl ⟨failed, txRecord, by simp [hfailed], rfl⟩
    · exact .inr (.inl rfl)
  · exact .inr (.inr rfl)

theorem call_cases (failed : FailedCompanyLiquidityTransaction) (txRecord : Transaction)
    {o : Outcome} (q : Queue) (hseen : o ≠ .acceptedUnseen) (hlives : o ≠ .dies) :
    (∃ found reference, target q.ledger id txRecord.transactionContext = some found ∧
      resume id (.resuming failed txRecord) o q =
        ({ q with placed := q.placed + 1 }, some (.marking failed found reference))) ∨
      resume id (.resuming failed txRecord) o q = (q, some (.releasing failed)) := by
  simp only [resume, call]
  split
  · rename_i found reference hfound
    exact .inl ⟨found, reference, hfound, rfl⟩
  · exact absurd rfl hseen
  · exact absurd rfl hlives
  · exact .inr rfl

theorem Serial.process (h : Serial id s) {n : Nat} (ht : s.running[n]? = some .processing)
    (hc : Calm id s .processing .ok) : Serial id ((retries id).step (.resume n .ok) s) := by
  have hstep : resume id .processing .ok s.state =
      (s.state, FailedCompanyLiquidity.process id s.state) := rfl
  rcases process_cases id s.state with ⟨failed, txRecord, hrecord, hprocess⟩ | hprocess | hprocess
  · have hfree := hc ⟨failed, txRecord, hprocess⟩
    rw [countP_active] at hfree
    rw [hprocess] at hstep
    have hr := counts ht .ok hstep Task.reserves
    have hu := counts ht .ok hstep Task.unplaced
    have ha := counts ht .ok hstep Task.answered
    have hstate := state_resume ht .ok hstep
    have htaken := h.taken.resolve_left hrecord
    have hheld := h.held.resolve_left hrecord
    simp only [Task.reserves, Task.unplaced, Task.answered, Option.any_some, Bool.toNat_false,
      Bool.toNat_true] at hr hu ha
    constructor
    · omega
    · rw [hstate]
      omega
    · rw [hstate]
      omega
    · rw [hstate]
      right
      omega
    · rw [hstate]
      right
      omega
  · exact h.idle ht hstep rfl (by rw [hprocess]; rfl) ⟨rfl, rfl⟩ fun hgone => hgone
  · exact h.idle ht hstep rfl (by rw [hprocess]; rfl) ⟨rfl, rfl⟩ fun hgone => hgone

theorem Serial.resume (h : Serial id s) {n : Nat} {t : Task} {o : Outcome}
    (ht : s.running[n]? = some t) (hc : Calm id s t o) :
    Serial id ((retries id).step (.resume n o) s) := by
  have hmem := List.mem_of_getElem? ht
  have hsingle := h.single
  have hplaced := h.placed
  have hreserved := h.reserved
  cases t with
  | checking failed =>
    cases o with
    | ok =>
      refine h.idle ht rfl rfl ?_ ⟨rfl, rfl⟩ fun hgone => hgone
      split <;> rfl
    | _ => exact h.idle ht rfl rfl rfl ⟨rfl, rfl⟩ fun hgone => hgone
  | processing =>
    cases o with
    | ok => exact h.process ht hc
    | _ => exact h.idle ht rfl rfl rfl ⟨rfl, rfl⟩ fun hgone => hgone
  | dropping =>
    cases o with
    | ok => exact h.idle ht rfl rfl rfl ⟨rfl, rfl⟩ fun _ => deleteRecord_gone id _
    | _ => exact h.idle ht rfl rfl rfl ⟨rfl, rfl⟩ fun hgone => hgone
  | expiring transaction =>
    cases o with
    | ok =>
      refine h.idle ht rfl rfl rfl ?_ fun hgone => ?_
      · split <;> exact ⟨rfl, rfl⟩
      · split
        · exact (expireBlock_keepsGone transaction).commit hgone
        · exact deleteRecord_gone id _
    | _ => exact h.idle ht rfl rfl rfl ⟨rfl, rfl⟩ fun hgone => hgone
  | reserving failed txRecord =>
    obtain ⟨hp, hr⟩ := h.reserves hmem rfl
    cases o with
    | ok =>
      have hcases : (∃ M,
          FailedCompanyLiquidity.resume id (.reserving failed txRecord) .ok s.state =
            ({ s.state with ledger := M, reservations := s.state.reservations + 1 },
              some (.resuming failed txRecord))) ∨
          FailedCompanyLiquidity.resume id (.reserving failed txRecord) .ok s.state =
            (s.state, none) := by
        simp only [FailedCompanyLiquidity.resume]
        split
        · exact .inl ⟨_, rfl⟩
        · exact .inr rfl
      rcases hcases with ⟨M, hstep⟩ | hstep
      · refine h.active ht hstep rfl ?_ ?_ ?_ (.inr ?_) (.inr ?_) <;>
          simp [Task.reserves, Task.unplaced, Task.answered, hp, hr]
      · refine h.active ht hstep rfl ?_ ?_ ?_ (.inr ?_) (.inr ?_) <;> simp [hp, hr]
    | _ => refine h.active ht rfl rfl ?_ ?_ ?_ (.inr ?_) (.inr ?_) <;> simp [hp, hr]
  | resuming failed txRecord =>
    have hp := h.unplaced hmem rfl
    rcases call_cases failed txRecord s.state hc.1 hc.2 with
        ⟨found, reference, -, hstep⟩ | hstep
    · refine h.active ht hstep rfl ?_ ?_ ?_ (.inr ?_) (.inr ?_) <;>
        simp [Task.reserves, Task.unplaced, Task.answered, hp] <;> omega
    · refine h.active ht hstep rfl ?_ ?_ ?_ (.inr ?_) (.inr ?_) <;>
        simp [Task.reserves, Task.unplaced, Task.answered, hp] <;> omega
  | marking failed found reference =>
    cases hc
    refine h.active ht rfl rfl ?_ ?_ ?_ (.inr ?_) (.inr ?_) <;>
      simp [Queue.commit, Task.reserves, Task.unplaced, Task.answered] <;> omega
  | releasing failed =>
    have hp := h.unplaced hmem rfl
    obtain ⟨rfl, M, hM⟩ := hc
    have hstep : FailedCompanyLiquidity.resume id (.releasing failed) .ok s.state =
        ({ s.state with ledger := M, reservations := s.state.reservations - 1 }, none) := by
      have hM' : releaseLiquidity failed.currency failed.amountBase s.state.ledger =
        .ok ((), M) := hM
      simp [FailedCompanyLiquidity.resume, hM']
    refine h.active ht hstep rfl ?_ ?_ ?_ (.inr ?_) (.inr ?_) <;> simp [hp] <;> omega
  | deleting =>
    cases hc
    have hgone := deleteRecord_gone id s.state.ledger
    refine h.active ht rfl rfl ?_ ?_ ?_ (.inl hgone) (.inl hgone) <;>
      simp [Queue.commit] <;> omega

theorem Serial.step (h : Serial id s) (a : Event Call Outcome (Other id)) (ha : Orderly id s a) :
    Serial id ((retries id).step a s) := by
  cases a with
  | start c => exact h.start c
  | outside x => exact h.outside x
  | resume n o =>
    cases ht : s.running[n]? with
    | none =>
      rw [Handlers.step_resume_none ht]
      exact h
    | some t => exact h.resume ht (ha t ht)

end Steps

/-- From every ledger, in every run of activations, automatic retries and expiries of one queued
transaction, in which a retryable record is read only while no other run is past that read, and
every accepted call is answered, marked and its record deleted, at most one provider takes up the
transaction and at most one of the reservations is open. -/
theorem retried_at_most_once (id : TransactionId) (L : Ledger)
    {events : List (Event Call Outcome (Other id))}
    (h : Run.Along (retries id).step (Orderly id) ⟨⟨L, 0, 0⟩, []⟩ events) :
    Run.Throughout (retries id).step (fun s => AtMostOnce s.state) ⟨⟨L, 0, 0⟩, []⟩ events := by
  have hstart : Serial id ⟨⟨L, 0, 0⟩, []⟩ := by
    refine ⟨?_, ?_, ?_, .inr ?_, .inr ?_⟩ <;> simp
  exact (Run.throughout_of_along (fun _ a hs ha => hs.step a ha) hstart h).mono
    fun _ hs => hs.atMostOnce

theorem orderly_resume {id : TransactionId} {s : System Queue Task} {n : Nat} {t : Task}
    {o : Outcome} (ht : s.running[n]? = some t) (hc : Calm id s t o) :
    Orderly id s (.resume n o) := by
  intro u hu
  rw [ht] at hu
  cases hu
  exact hc

def queuedRecord : FailedCompanyLiquidityTransaction := ⟨.ngn, 123000⟩

/-- A sell of 0.001 BTC that waits for 1230 naira of liquidity, which have come in. -/
def queuedSell : Ledger :=
  { OrderDone.pendingSell with
    companyLiquidity := (∅ : Table Currency CompanyLiquidity).insert .ngn
      { CompanyLiquidity.empty with totalBalance := 500000 }
    failedCompanyLiquidity := (∅ : Table TransactionId FailedCompanyLiquidityTransaction).insert 1
      queuedRecord }

def queuedRow : Transaction where
  userId := 1
  transactionContext := .SELL
  transactionUniqueId := 7
  currency := .btc
  letterCase := .upper
  network := some .btc
  cryptoAmountBase := some 100000
  fiatAmountBase := 123450
  platformFeeBase := some 0
  totalAmountSentBase := none
  executedCryptoAmountBase := none
  executedFiatAmountBase := none
  status := .PENDING
  isProcessed := false
  paymentMetadata := PaymentMetadata.empty

/-- The exchange refuses the first retry and takes up the second. -/
def retriedTwice : List (Event Call Outcome (Other 1)) :=
  [.start .autoProcessEligible, .resume 0 .ok, .resume 0 .ok, .resume 0 .ok, .resume 0 .refused,
    .resume 0 .ok, .start .activateAndProcess, .resume 0 .ok, .resume 0 .ok, .resume 0 .ok,
    .resume 0 (.accepted 31), .resume 0 .ok, .resume 0 .ok]

theorem retriedTwice_at_most_once :
    Run.Throughout (retries 1).step (fun s => AtMostOnce s.state) ⟨⟨queuedSell, 0, 0⟩, []⟩
      retriedTwice := by
  refine retried_at_most_once 1 queuedSell ?_
  refine ⟨trivial, ?_, ?_, ?_, ?_, ?_, trivial, ?_, ?_, ?_, ?_, ?_, ?_, trivial⟩
  · exact orderly_resume (t := .checking queuedRecord) (by decide +kernel) trivial
  · exact orderly_resume (t := .processing) (by decide +kernel) fun _ => by decide +kernel
  · exact orderly_resume (t := .reserving queuedRecord queuedRow) (by decide +kernel) trivial
  · exact orderly_resume (t := .resuming queuedRecord queuedRow) (by decide +kernel)
      ⟨by decide, by decide⟩
  · exact orderly_resume (t := .releasing queuedRecord) (by decide +kernel)
      ⟨rfl, _, result_eq_some.mp (by decide +kernel)⟩
  · exact orderly_resume (t := .checking queuedRecord) (by decide +kernel) trivial
  · exact orderly_resume (t := .processing) (by decide +kernel) fun _ => by decide +kernel
  · exact orderly_resume (t := .reserving queuedRecord queuedRow) (by decide +kernel) trivial
  · exact orderly_resume (t := .resuming queuedRecord queuedRow) (by decide +kernel)
      ⟨by decide, by decide⟩
  · exact orderly_resume (t := .marking queuedRecord .sell 31) (by decide +kernel) rfl
  · exact orderly_resume (t := .deleting) (by decide +kernel) rfl

/-- A manual activation and an automatic retry read the record before either of them is done. -/
def retriedTogether : List (Event Call Outcome (Other 1)) :=
  [.start .autoProcessEligible, .start .activateAndProcess, .resume 0 .ok, .resume 0 .ok,
    .resume 0 .ok, .resume 0 .ok, .resume 0 .ok, .resume 0 .ok, .resume 0 (.accepted 31),
    .resume 0 (.accepted 32)]

theorem retriedTogether_placed_twice :
    ¬ Run.Throughout (retries 1).step (fun s => AtMostOnce s.state) ⟨⟨queuedSell, 0, 0⟩, []⟩
      retriedTogether := by
  intro h
  have hplaced := h.last.placed
  revert hplaced
  decide +kernel

end FailedCompanyLiquidity

end ExchangeLedger
