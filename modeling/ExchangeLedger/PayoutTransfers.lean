import ExchangeLedger.Operation
import ExchangeLedger.Concurrent

set_option autoImplicit false

/-! The Paystack transfers that `order.done` initiates: payouts of sells, by handlers that run
concurrently, and disbursements of loans, inside one locked database transaction each. -/

namespace ExchangeLedger

open Block Concurrent

namespace OrderDone

/-- The ledger, and the transactions that Paystack accepted a payout for. -/
structure Payouts where
  ledger : Ledger
  transfers : List TransactionId

inductive PayoutPhase where
  | missingBankDetails | begun | funded | transferred (payoutReference : Reference) | failed
  deriving DecidableEq, Repr

/-- A handler past its checks. `metadata` is `sellPaymentMetadata`, which its catch writes back. -/
structure PayoutHandler where
  id : TransactionId
  transaction : Transaction
  crypto : Currency
  fiat : Currency
  amounts : ExecutedAmounts
  metadata : PaymentMetadata
  phase : PayoutPhase

/-- How the next call of a handler ends; an accepted transfer may be answered or not. -/
inductive CallOutcome where
  | ok | throws | dies
  | accepted (payoutReference : Reference) (answered : Bool)
  deriving DecidableEq, Repr

def startPayout (cache : ConvertCurrency.DefaultNetworkCache) (e : Event) (s : Payouts) :
    Option PayoutHandler :=
  match process cache s.ledger e with
  | .ok (.settle id amounts) =>
    if e.side = .BUY then none
    else (s.ledger.transactions.lookup id).map (fun transaction =>
      { id := id, transaction := transaction, crypto := e.baseUnit, fiat := e.quoteUnit
        amounts := amounts, metadata := transaction.paymentMetadata
        phase := if transaction.paymentMetadata.payoutBankDetails then .begun
          else .missingBankDetails })
  | _ => none

def PayoutHandler.goTo (h : PayoutHandler) (phase : PayoutPhase) : PayoutHandler :=
  { h with phase := phase }

/-- `freshMeta` still has the bank details. -/
def freshBankDetails (L : Ledger) (id : TransactionId) : Bool :=
  (L.transactions.lookup id).any (fun t => t.paymentMetadata.payoutBankDetails)

def resumePayout (h : PayoutHandler) (outcome : CallOutcome) (s : Payouts) :
    Payouts × Option PayoutHandler :=
  match outcome, h.phase with
  | .dies, _ => (s, none)
  | .ok, .missingBankDetails =>
    ({ s with ledger :=
        (missingBankDetailsBlock h.crypto h.fiat h.id h.transaction).commit s.ledger }, none)
  | .ok, .begun =>
    if freshBankDetails s.ledger h.id then
      match (proceedsBlock h.fiat h.id h.amounts).result s.ledger with
      | some metadata =>
        ({ s with ledger := (proceedsBlock h.fiat h.id h.amounts).commit s.ledger },
          some { h with metadata := metadata, phase := .funded })
      | none => (s, some (h.goTo .failed))
    else (s, some (h.goTo .failed))
  | .accepted reference answered, .funded =>
    ({ s with transfers := h.id :: s.transfers },
      some (h.goTo (if answered then .transferred reference else .failed)))
  | .ok, .transferred reference =>
    ({ s with ledger :=
        (payoutInitiatedBlock h.id h.amounts h.metadata reference).commit s.ledger }, none)
  | .ok, .failed =>
    ({ s with ledger := (payoutFailedBlock h.id h.metadata).commit s.ledger }, none)
  -- what throws in the try goes to the catch; elsewhere it ends the handler
  | _, .begun | _, .funded | _, .transferred _ => (s, some (h.goTo .failed))
  | _, .missingBankDetails | _, .failed => (s, none)

/-- Deliveries and queue retries start handlers; other operations go on meanwhile. -/
def payouts (cache : ConvertCurrency.DefaultNetworkCache) :
    Handlers Payouts PayoutHandler Event CallOutcome Operation where
  start := startPayout cache
  resume := resumePayout
  outside := fun op s => { s with ledger := op.step s.ledger }

/-- A handler that passes the checks is the only one of its transaction, and comes before any
accepted transfer. -/
def Exclusive (cache : ConvertCurrency.DefaultNetworkCache) (s : System Payouts PayoutHandler) :
    Concurrent.Event Event CallOutcome Operation → Prop
  | .start e => ∀ h, startPayout cache e s.state = some h →
      h.id ∉ s.running.map PayoutHandler.id ∧ h.id ∉ s.state.transfers
  | _ => True

/-- The handler may still initiate a transfer. -/
def PayoutHandler.unsent (h : PayoutHandler) : Bool :=
  h.phase = .missingBankDetails ∨ h.phase = .begun ∨ h.phase = .funded

structure TransfersOnce (s : System Payouts PayoutHandler) : Prop where
  transfers : s.state.transfers.Nodup
  handlers : (s.running.map PayoutHandler.id).Nodup
  unsent : ∀ h ∈ s.running, h.unsent = true → h.id ∉ s.state.transfers

theorem resumePayout_cases (h : PayoutHandler) (o : CallOutcome) (s : Payouts) :
    ((resumePayout h o s).1.transfers = s.transfers ∧
        ∀ u, (resumePayout h o s).2 = some u →
          u.id = h.id ∧ (u.unsent = true → h.unsent = true)) ∨
      ((resumePayout h o s).1.transfers = h.id :: s.transfers ∧ h.unsent = true ∧
        ∀ u, (resumePayout h o s).2 = some u → u.id = h.id ∧ u.unsent = false) := by
  have hsame (t : Payouts) (u : PayoutHandler) (hid : u.id = h.id)
      (hphase : u.unsent = true → h.unsent = true) :
      ∀ v, (t, some u).2 = some v → v.id = h.id ∧ (v.unsent = true → h.unsent = true) := by
    intro v hv
    cases hv
    exact ⟨hid, hphase⟩
  have hfailed : (h.goTo .failed).unsent = true → h.unsent = true := by
    intro hu
    simp [PayoutHandler.goTo, PayoutHandler.unsent] at hu
  unfold resumePayout
  split
  · exact .inl ⟨rfl, fun u hu => by cases hu⟩
  · exact .inl ⟨rfl, fun u hu => by cases hu⟩
  · rename_i hphase
    split
    · split
      · refine .inl ⟨rfl, hsame _ _ rfl fun _ => ?_⟩
        simp [PayoutHandler.unsent, hphase]
      · exact .inl ⟨rfl, hsame _ _ rfl hfailed⟩
    · exact .inl ⟨rfl, hsame _ _ rfl hfailed⟩
  · rename_i reference answered hphase
    refine .inr ⟨rfl, by simp [PayoutHandler.unsent, hphase], fun u hu => ?_⟩
    cases hu
    cases answered <;> exact ⟨rfl, rfl⟩
  · exact .inl ⟨rfl, fun u hu => by cases hu⟩
  · exact .inl ⟨rfl, fun u hu => by cases hu⟩
  all_goals first
    | exact .inl ⟨rfl, hsame _ _ rfl hfailed⟩
    | exact .inl ⟨rfl, fun u hu => by cases hu⟩

theorem TransfersOnce.start {cache : ConvertCurrency.DefaultNetworkCache}
    {s : System Payouts PayoutHandler} (hs : TransfersOnce s) {e : Event}
    (he : Exclusive cache s (.start e)) : TransfersOnce ((payouts cache).step (.start e) s) := by
  refine ⟨hs.transfers, ?_, Handlers.forall_running_start hs.unsent fun h hh _ => (he h hh).2⟩
  show ((s.running ++ (startPayout cache e s.state).toList).map PayoutHandler.id).Nodup
  cases hstart : startPayout cache e s.state with
  | none => simpa using hs.handlers
  | some h =>
    have hnew := (he h hstart).1
    simp only [Option.toList_some, List.map_append, List.map_cons, List.map_nil]
    rw [List.nodup_append]
    exact ⟨hs.handlers, by simp, fun a ha b hb => by
      rw [List.mem_singleton] at hb
      subst hb
      exact fun hab => hnew (hab ▸ ha)⟩

theorem TransfersOnce.resume {cache : ConvertCurrency.DefaultNetworkCache}
    {s : System Payouts PayoutHandler} (hs : TransfersOnce s) (n : Nat) (o : CallOutcome) :
    TransfersOnce ((payouts cache).step (.resume n o) s) := by
  cases hn : s.running[n]? with
  | none =>
    rw [Handlers.step_resume_none hn]
    exact hs
  | some h =>
    have hperm := Handlers.perm_running hn
    have hmem : h ∈ s.running := List.mem_of_getElem? hn
    -- the others belong to other transactions
    have hids := (hperm.map PayoutHandler.id).nodup_iff.mp hs.handlers
    rw [List.map_cons, List.nodup_cons] at hids
    have hothers : ∀ u ∈ s.running.eraseIdx n, u ∈ s.running ∧ u.id ≠ h.id := by
      intro u hu
      refine ⟨List.mem_of_mem_eraseIdx hu, fun hid => hids.1 ?_⟩
      rw [← hid]
      exact List.mem_map_of_mem hu
    rw [Handlers.step_resume hn]
    show TransfersOnce ⟨(resumePayout h o s.state).1,
      s.running.eraseIdx n ++ (resumePayout h o s.state).2.toList⟩
    have hcases := resumePayout_cases h o s.state
    have hid : ∀ u, (resumePayout h o s.state).2 = some u → u.id = h.id := by
      rcases hcases with ⟨-, hnext⟩ | ⟨-, -, hnext⟩
      · exact fun u hu => (hnext u hu).1
      · exact fun u hu => (hnext u hu).1
    have hnodup : ((s.running.eraseIdx n ++ (resumePayout h o s.state).2.toList).map
        PayoutHandler.id).Nodup := by
      cases hr : (resumePayout h o s.state).2 with
      | none => simpa using hids.2
      | some u =>
        simp only [Option.toList_some, List.map_append, List.map_cons, List.map_nil, hid u hr]
        have hcons : (PayoutHandler.id h :: (s.running.eraseIdx n).map PayoutHandler.id).Nodup :=
          List.nodup_cons.mpr hids
        exact (List.perm_append_singleton _ _).nodup_iff.mpr hcons
    rcases hcases with ⟨htransfers, hnext⟩ | ⟨htransfers, hunsent, hnext⟩
    · refine ⟨by rw [htransfers]; exact hs.transfers, hnodup, ?_⟩
      intro u hu huns
      rw [htransfers]
      rcases List.mem_append.mp hu with hu | hu
      · exact hs.unsent u (hothers u hu).1 huns
      · obtain ⟨hui, hback⟩ := hnext u (Option.mem_toList.mp hu)
        rw [hui]
        exact hs.unsent h hmem (hback huns)
    · refine ⟨?_, hnodup, ?_⟩
      · rw [htransfers, List.nodup_cons]
        exact ⟨hs.unsent h hmem hunsent, hs.transfers⟩
      · intro u hu huns
        rw [htransfers]
        rcases List.mem_append.mp hu with hu | hu
        · obtain ⟨hin, hne⟩ := hothers u hu
          have hold := hs.unsent u hin huns
          simp [hne, hold]
        · rw [(hnext u (Option.mem_toList.mp hu)).2] at huns
          cases huns

theorem payouts_once (cache : ConvertCurrency.DefaultNetworkCache) (L : Ledger)
    {events : List (Concurrent.Event Event CallOutcome Operation)}
    (h : Run.Along (payouts cache).step (Exclusive cache) ⟨⟨L, []⟩, []⟩ events) :
    Run.Throughout (payouts cache).step TransfersOnce ⟨⟨L, []⟩, []⟩ events := by
  refine Run.throughout_of_along ?_ ⟨by simp, by simp, by simp⟩ h
  intro s e hs he
  cases e with
  | start e => exact hs.start he
  | resume n o => exact hs.resume n o
  | outside op => exact ⟨hs.transfers, hs.handlers, hs.unsent⟩

end OrderDone

namespace UrgentLiquidity

/-- The ledger, and the loans that Paystack accepted a disbursement for. -/
structure Disbursements where
  ledger : Ledger
  transfers : List LoanId

/-- How Paystack takes the transfer of an attempt, and whether the database transaction around it
then completes. -/
inductive TransferOutcome where
  | refused
  | accepted (reference : Reference) (completes : Bool)
  deriving DecidableEq, Repr

/-- What happens to loans: attempts at their payout, which hold the row's lock, and the other
webhooks. -/
inductive LoanEvent where
  | attempt (id : LoanId) (e : OrderDone.Event) (outcome : TransferOutcome)
  | saleFailed (id : LoanId)
  | transferSuccess (id : LoanId)
  | transferFailure (id : LoanId)
  deriving DecidableEq, Repr

/-- The attempt gets as far as the transfer, having found everything else in order. -/
def reachesTransfer (cache : ConvertCurrency.DefaultNetworkCache) (id : LoanId)
    (e : OrderDone.Event) (reference : Reference) (L : Ledger) : Bool :=
  ((payoutBlock cache id e (some reference)).result L).any Option.isSome

def loanStep (cache : ConvertCurrency.DefaultNetworkCache) :
    LoanEvent → Disbursements → Disbursements
  | .attempt id e .refused, s => { s with ledger := (payoutBlock cache id e none).commit s.ledger }
  | .attempt id e (.accepted reference completes), s =>
    if reachesTransfer cache id e reference s.ledger then
      { ledger :=
          if completes then (payoutBlock cache id e (some reference)).commit s.ledger
          else s.ledger
        transfers := id :: s.transfers }
    else s
  | .saleFailed id, s => { s with ledger := (saleFailedBlock id).commit s.ledger }
  | .transferSuccess id, s =>
    { s with ledger := (PayoutStatus.loanTransferSuccessBlock id).commit s.ledger }
  | .transferFailure id, s =>
    { s with ledger := (PayoutStatus.loanTransferFailureBlock id).commit s.ledger }

/-- No attempt is rolled back after its transfer was accepted. -/
def Completes (cache : ConvertCurrency.DefaultNetworkCache) (s : Disbursements) :
    LoanEvent → Prop
  | .attempt id e (.accepted reference completes) =>
    reachesTransfer cache id e reference s.ledger = true → completes = true
  | _ => True

/-- The loan's row names the transfer. -/
def Disbursed (id : LoanId) (L : Ledger) : Prop :=
  ∃ loan, L.loans.lookup id = some loan ∧ loan.paystackTransferId.isSome = true

structure DisbursedOnce (s : Disbursements) : Prop where
  transfers : s.transfers.Nodup
  named : ∀ id ∈ s.transfers, Disbursed id s.ledger

theorem onBalances_disbursed {α : Type} {x : LedgerBlock α} (hx : OnBalances x) (id : LoanId) :
    Preserves (Disbursed id) x := hx.preserves fun _ => Iff.rfl

theorem updateLoan_disbursed (id j : LoanId) {f : UrgentLiquidityLoan → UrgentLiquidityLoan}
    (hf : ∀ l, l.paystackTransferId.isSome = true → (f l).paystackTransferId.isSome = true) :
    Preserves (Disbursed id) (PayoutStatus.updateLoan j f) := by
  refine preserves_update fun L hL => ?_
  obtain ⟨loan, hloan, hid⟩ := hL
  by_cases hj : id = j
  · subst hj
    exact ⟨f loan, by simp [hloan], hf loan hid⟩
  · exact ⟨loan, by simp [Table.lookup_modify_ne _ _ hj, hloan], hid⟩

theorem payoutBlock_disbursed (cache : ConvertCurrency.DefaultNetworkCache) (id j : LoanId)
    (e : OrderDone.Event) (transfer : Option Reference) :
    Preserves (Disbursed id) (payoutBlock cache j e transfer) := by
  refine preserves_bind (preserves_read _) fun _ => ?_
  refine preserves_bind (preserves_demand _ _) fun fresh => ?_
  split
  · exact fun _ _ _ _ h => absurd h commits_fail
  · exact preserves_pure _
  · refine preserves_bind (onBalances_disbursed (subtractInternalBalance_onBalances _ _) id)
      fun _ => ?_
    refine preserves_bind (preserves_update fun _ hL => hL) fun _ => ?_
    refine preserves_bind (preserves_read _) fun _ => ?_
    refine preserves_bind (onBalances_disbursed (mustUpdateWallet_onBalances _ _ _ _) id)
      fun _ => ?_
    refine preserves_bind (onBalances_disbursed (mustUpdateWallet_onBalances _ _ _ _) id)
      fun _ => ?_
    refine preserves_bind (onBalances_disbursed (restateOriginalBalance_onBalances _ _ _) id)
      fun _ => ?_
    refine preserves_bind (updateLoan_disbursed id j fun _ hl => hl) fun _ => ?_
    refine preserves_bind (preserves_demand _ _) fun _ => ?_
    exact preserves_bind (updateLoan_disbursed id j fun _ _ => rfl) fun _ => preserves_pure _

theorem payoutBlock_names {cache : ConvertCurrency.DefaultNetworkCache} {id : LoanId}
    {e : OrderDone.Event} {transfer : Option Reference} {L M : Ledger}
    {paid : UrgentLiquidityLoan × OrderDone.ExecutedAmounts}
    (h : (payoutBlock cache id e transfer).Commits L (some paid) M) : Disbursed id M := by
  simp only [payoutBlock, commits_read_bind, commits_demand_bind] at h
  obtain ⟨fresh, hloan, h⟩ := h
  cases hx : OrderDone.loanExecution cache fresh e with
  | error message => simp [hx] at h
  | ok found =>
    cases found with
    | none => simp [hx] at h
    | some amounts =>
      simp only [hx, commits_bind, commits_read, commits_demand, PayoutStatus.updateLoan,
        commits_update, commits_pure] at h
      obtain ⟨_, A, hsubtract, _, B, hadd, _, _, ⟨rfl, rfl⟩, _, C, hdebit, _, D, hhold, _, E,
        hrestate, _, _, rfl, reference, _, ⟨-, rfl⟩, _, _, rfl, -, rfl⟩ := h
      -- up to the loan's own updates only balances change
      have hkeeps {α : Type} {x : LedgerBlock α} (hx : OnBalances x) :
          Preserves (fun L => L.loans.lookup id = some fresh) x := hx.preserves fun _ => Iff.rfl
      have hA := hkeeps (subtractInternalBalance_onBalances _ _) _ _ _ hloan hsubtract
      have hB : B.loans.lookup id = some fresh := by
        rw [← commits_update.mp hadd]
        exact hA
      have hC := hkeeps (mustUpdateWallet_onBalances _ _ _ _) _ _ _ hB hdebit
      have hD := hkeeps (mustUpdateWallet_onBalances _ _ _ _) _ _ _ hC hhold
      have hE := hkeeps (restateOriginalBalance_onBalances _ _ _) _ _ _ hD hrestate
      exact ⟨{ fresh with status := .PAYSTACK_COMPLETED, paystackTransferId := some reference },
        by simp [hE], rfl⟩

theorem Disbursed.not_reachesTransfer {cache : ConvertCurrency.DefaultNetworkCache} {id : LoanId}
    {L : Ledger} (h : Disbursed id L) (e : OrderDone.Event) (reference : Reference) :
    reachesTransfer cache id e reference L = false := by
  obtain ⟨loan, hloan, hnamed⟩ := h
  have hclosed : OrderDone.loanExecution cache loan e = .ok none := by
    unfold OrderDone.loanExecution
    simp [hnamed]
  cases hr : reachesTransfer cache id e reference L with
  | false => rfl
  | true =>
    obtain ⟨paid, hpaid, hsome⟩ := (Option.any_eq_true _ _).mp hr
    obtain ⟨p, rfl⟩ := Option.isSome_iff_exists.mp hsome
    have hcommits := result_eq_some.mp hpaid
    simp only [payoutBlock, commits_read_bind, commits_demand_bind] at hcommits
    obtain ⟨fresh, hfresh, hcommits⟩ := hcommits
    rw [hloan] at hfresh
    cases hfresh
    simp [hclosed] at hcommits

theorem saleFailedBlock_disbursed (id j : LoanId) :
    Preserves (Disbursed id) (saleFailedBlock j) :=
  preserves_bind (preserves_read _) fun _ =>
    preserves_onlyIf (updateLoan_disbursed id j fun _ hl => hl)

theorem loanTransferSuccessBlock_disbursed (id j : LoanId) :
    Preserves (Disbursed id) (PayoutStatus.loanTransferSuccessBlock j) :=
  preserves_bind (preserves_read _) fun _ =>
    preserves_onlyIf (updateLoan_disbursed id j fun _ hl => hl)

theorem loanTransferFailureBlock_disbursed (id j : LoanId) :
    Preserves (Disbursed id) (PayoutStatus.loanTransferFailureBlock j) :=
  preserves_bind (preserves_read _) fun _ =>
    preserves_onlyIf (updateLoan_disbursed id j fun _ hl => hl)

theorem DisbursedOnce.step {cache : ConvertCurrency.DefaultNetworkCache} {s : Disbursements}
    (hs : DisbursedOnce s) {a : LoanEvent} (ha : Completes cache s a) :
    DisbursedOnce (loanStep cache a s) := by
  cases a with
  | saleFailed j =>
    exact ⟨hs.transfers, fun id hid => (saleFailedBlock_disbursed id j).commit (hs.named id hid)⟩
  | transferSuccess j =>
    exact ⟨hs.transfers, fun id hid =>
      (loanTransferSuccessBlock_disbursed id j).commit (hs.named id hid)⟩
  | transferFailure j =>
    exact ⟨hs.transfers, fun id hid =>
      (loanTransferFailureBlock_disbursed id j).commit (hs.named id hid)⟩
  | attempt j e outcome =>
    have hkept (transfer : Option Reference) (id : LoanId) (hid : id ∈ s.transfers) :
        Disbursed id ((payoutBlock cache j e transfer).commit s.ledger) :=
      (payoutBlock_disbursed cache id j e transfer).commit (hs.named id hid)
    cases outcome with
    | refused => exact ⟨hs.transfers, hkept none⟩
    | accepted reference completes =>
      cases hreach : reachesTransfer cache j e reference s.ledger with
      | false => simpa [loanStep, hreach] using hs
      | true =>
        have hcompletes : completes = true := ha hreach
        obtain ⟨paid, hpaid, hsome⟩ := (Option.any_eq_true _ _).mp hreach
        obtain ⟨p, rfl⟩ := Option.isSome_iff_exists.mp hsome
        have hnew : j ∉ s.transfers := by
          intro hj
          rw [(hs.named j hj).not_reachesTransfer] at hreach
          cases hreach
        subst hcompletes
        simp only [loanStep, hreach, if_true]
        refine ⟨List.nodup_cons.mpr ⟨hnew, hs.transfers⟩, fun id hid => ?_⟩
        rcases List.mem_cons.mp hid with rfl | hid
        · exact payoutBlock_names (result_eq_some.mp hpaid)
        · exact hkept _ id hid

theorem disbursements_once (cache : ConvertCurrency.DefaultNetworkCache) (L : Ledger)
    {events : List LoanEvent} (h : Run.Along (loanStep cache) (Completes cache) ⟨L, []⟩ events) :
    Run.Throughout (loanStep cache) DisbursedOnce ⟨L, []⟩ events :=
  Run.throughout_of_along (fun _ _ hs ha => hs.step ha) ⟨by simp, by simp⟩ h

end UrgentLiquidity

/-- In every run from any ledger: at most one payout transfer per sell, as long as no handler
passes its checks beside another one of its transaction or after a transfer for it, and at most
one disbursement per loan, as long as no attempt is rolled back after its transfer. -/
theorem transfers_once (cache : ConvertCurrency.DefaultNetworkCache) (L : Ledger) :
    (∀ events, Run.Along (OrderDone.payouts cache).step (OrderDone.Exclusive cache)
        ⟨⟨L, []⟩, []⟩ events →
      Run.Throughout (OrderDone.payouts cache).step (fun s => s.state.transfers.Nodup)
        ⟨⟨L, []⟩, []⟩ events) ∧
    (∀ events, Run.Along (UrgentLiquidity.loanStep cache) (UrgentLiquidity.Completes cache)
        ⟨L, []⟩ events →
      Run.Throughout (UrgentLiquidity.loanStep cache) (fun s => s.transfers.Nodup)
        ⟨L, []⟩ events) :=
  ⟨fun _ h => (OrderDone.payouts_once cache L h).mono fun _ hs => hs.transfers,
    fun _ h => (UrgentLiquidity.disbursements_once cache L h).mono fun _ hs => hs.transfers⟩

/-- The pending sell with bank details, and a loan of the same user. -/
def payablePair : Ledger :=
  { OrderDone.pendingSell with
    transactions := OrderDone.pendingSell.transactions.modify 1 (fun t => t.withMetadata
      { t.paymentMetadata with payoutBankDetails := true })
    companyLiquidity := (∅ : Table Currency CompanyLiquidity).insert .btc
      { CompanyLiquidity.empty with totalBalance := 500000, internalBalance := 200000 }
    loans := (∅ : Table LoanId UrgentLiquidityLoan).insert 1
      { userId := 1, collateralAsset := .btc, loanAmount := 100, quidaxSwapId := some 8
        paystackTransferId := none, status := .PENDING } }

/-- One delivery that is carried out to its end. -/
def deliveredOnce (reference : Reference) :
    List (Concurrent.Event OrderDone.Event OrderDone.CallOutcome Operation) :=
  [.start (OrderDone.executedAt ['1', '2', '3', '0']), .resume 0 .ok,
    .resume 0 (.accepted reference true), .resume 0 .ok]

theorem single_deliveries_transfer_once :
    Run.Throughout (OrderDone.payouts (fun _ => none)).step (fun s => s.state.transfers.Nodup)
        ⟨⟨payablePair, []⟩, []⟩ (deliveredOnce 13) ∧
      Run.Throughout (UrgentLiquidity.loanStep (fun _ => none)) (fun s => s.transfers.Nodup)
        ⟨payablePair, []⟩ [.attempt 1 (OrderDone.executedAt ['1', '2', '3', '0']) .refused,
          .attempt 1 (OrderDone.executedAt ['1', '2', '3', '0']) (.accepted 14 true)] := by
  refine ⟨(transfers_once (fun _ => none) payablePair).1 _ ⟨fun h _ => ?_, trivial, trivial,
    trivial, trivial⟩, (transfers_once (fun _ => none) payablePair).2 _
    ⟨trivial, fun _ => rfl, trivial⟩⟩
  exact ⟨by simp, by simp⟩

/-- An `order.done` that is delivered again while the first payout is under way is paid out again;
a disbursement that is rolled back after the transfer is sent again. -/
theorem redelivery_transfers_twice :
    ¬ ∀ (cache : ConvertCurrency.DefaultNetworkCache) (L : Ledger),
      (∀ events, Run.Throughout (OrderDone.payouts cache).step
          (fun s => s.state.transfers.Nodup) ⟨⟨L, []⟩, []⟩ events) ∧
      (∀ events, Run.Throughout (UrgentLiquidity.loanStep cache) (fun s => s.transfers.Nodup)
          ⟨L, []⟩ events) := by
  intro h
  have hlast := ((h (fun _ => none) payablePair).1 (deliveredOnce 13 ++ deliveredOnce 14)).last
  have htwice : (Run.final (OrderDone.payouts (fun _ => none)).step ⟨⟨payablePair, []⟩, []⟩
      (deliveredOnce 13 ++ deliveredOnce 14)).state.transfers = [1, 1] := by decide +kernel
  rw [htwice] at hlast
  exact absurd hlast (by decide)

end ExchangeLedger
