import ExchangeLedger.Concurrent
import ExchangeLedger.Schema

set_option autoImplicit false

/-! Placing the Quidax buy order of a paid transaction: deliveries of `charge.success`, the retries
of the queue, and the call that initiated the charge and stores its reference. -/

namespace ExchangeLedger

open Concurrent

namespace PaymentStatusHandler

/-- The keys of `paymentMetadata` that decide whether an order is placed. -/
structure OrderMetadata where
  liquidityReservationStatus : Option LiquidityReservationStatus
  paystackReference : Option Reference
  quidaxOrderProcessing : Option Bool
  quidaxOrderReference : Option Reference
  quidaxOrderId : Option Reference
  autostackPaystackWebhookProcessing : Option Bool
  autostackBuyOrderRequestedAt : Option Nat
  autostackBuyOrderSubmittedAt : Option Nat
  paystackWebhookProcessedAt : Option Nat
  deriving DecidableEq, Repr

def OrderMetadata.empty : OrderMetadata := ⟨none, none, none, none, none, none, none, none, none⟩

/-- `{ ...a, ...b }`. -/
def OrderMetadata.spread (a b : OrderMetadata) : OrderMetadata where
  liquidityReservationStatus := b.liquidityReservationStatus.or a.liquidityReservationStatus
  paystackReference := b.paystackReference.or a.paystackReference
  quidaxOrderProcessing := b.quidaxOrderProcessing.or a.quidaxOrderProcessing
  quidaxOrderReference := b.quidaxOrderReference.or a.quidaxOrderReference
  quidaxOrderId := b.quidaxOrderId.or a.quidaxOrderId
  autostackPaystackWebhookProcessing :=
    b.autostackPaystackWebhookProcessing.or a.autostackPaystackWebhookProcessing
  autostackBuyOrderRequestedAt := b.autostackBuyOrderRequestedAt.or a.autostackBuyOrderRequestedAt
  autostackBuyOrderSubmittedAt := b.autostackBuyOrderSubmittedAt.or a.autostackBuyOrderSubmittedAt
  paystackWebhookProcessedAt := b.paystackWebhookProcessedAt.or a.paystackWebhookProcessedAt

/-- The transaction, the buy orders that Quidax accepted for it, the latest first, and the clock in
milliseconds. -/
structure Payment where
  transactionContext : TransactionContext
  status : TransactionStatus
  cryptoAmountOriginal : Option Text
  metadata : OrderMetadata
  orders : List Reference
  now : Nat
  deriving DecidableEq, Repr

inductive Task where
  /-- The call that charges, with its copy of the metadata, before Paystack answers. -/
  | charging (copy : OrderMetadata)
  | storingCharge (copy : OrderMetadata) (paystackReference : Reference)
  /-- The `catch` of `initiatePendingAutoStack`, before and after it reads the row. -/
  | failingCharge
  | releasing (failedMeta : OrderMetadata)
  | verifying (transaction : OrderMetadata)
  | markingAutostack (transaction : OrderMetadata)
  | marking
  | placing (current : OrderMetadata)
  | clearing (current : OrderMetadata)
  | recording (current : OrderMetadata) (providerReference id : Reference)
  /-- `markPaystackWebhookProcessed`, before and after it reads the row. -/
  | stamping
  | stampingFrom (fresh : OrderMetadata)
  deriving DecidableEq, Repr

inductive Outcome where
  | ok | fails | verified | refused
  | charged (paystackReference : Reference)
  | accepted (reference : Option Reference) (id : Reference)
  /-- Quidax accepts the order, but its answer does not arrive. -/
  | acceptedUnseen (id : Reference)
  deriving DecidableEq, Repr

/-- What blocks a placement: `quidaxOrderReference || quidaxOrderId || quidaxOrderProcessing`. -/
def OrderMetadata.underWay (m : OrderMetadata) : Bool :=
  m.quidaxOrderReference.isSome || m.quidaxOrderId.isSome || m.quidaxOrderProcessing = some true

def OrderMetadata.released (m : OrderMetadata) : Bool :=
  m.liquidityReservationStatus = some .RELEASED

def hasFreshAutostackProcessing (m : OrderMetadata) (now : Nat) : Bool :=
  m.autostackPaystackWebhookProcessing = some true &&
    m.autostackBuyOrderRequestedAt.any (fun requestedAt => now - requestedAt < 15 * 60 * 1000)

def alreadyHandled (m : OrderMetadata) (now : Nat) : Bool :=
  hasFreshAutostackProcessing m now || m.underWay || m.autostackBuyOrderSubmittedAt.isSome

/-- The volume of the order is a positive number. -/
def Payment.validVolume (p : Payment) : Bool :=
  (Decimal.parse (p.cryptoAmountOriginal.getD ['0'])).any (fun volume => 0 < volume.mant)

/-- `handleSuccess` after the AutoStack check. -/
def Payment.toMarking (p : Payment) : Option Task := if p.validVolume then some .marking else none

/-- What the call that charged writes over the metadata. -/
def chargeStored (context : TransactionContext) (copy : OrderMetadata)
    (paystackReference : Reference) : OrderMetadata :=
  if context = .AUTOSTACK then { copy with liquidityReservationStatus := some .RESERVED }
  else { copy with paystackReference := some paystackReference }

def Payment.chargeFails (p : Payment) : Option Task :=
  if p.transactionContext = .AUTOSTACK then some .failingCharge else none

/-- One step of the call that charges, of its `catch`, or of `handleWebhook`. A failure ends it. -/
def resume (t : Task) (o : Outcome) (p : Payment) : Payment × Option Task :=
  match t, o with
  | .charging copy, .charged reference => (p, some (.storingCharge copy reference))
  | .charging _, _ => (p, p.chargeFails)
  | .storingCharge copy reference, .ok =>
    ({ p with metadata := chargeStored p.transactionContext copy reference }, none)
  | .storingCharge _ _, _ => (p, p.chargeFails)
  | .failingCharge, .ok => (p, some (.releasing p.metadata))
  | .releasing failedMeta, .ok =>
    ({ p with
        metadata :=
          { failedMeta with
            liquidityReservationStatus :=
              if failedMeta.liquidityReservationStatus = some .RESERVED then some .RELEASED
              else failedMeta.liquidityReservationStatus } }, none)
  | .verifying transaction, .verified =>
    (p, if p.transactionContext = .AUTOSTACK then some (.markingAutostack transaction)
      else p.toMarking)
  | .markingAutostack transaction, .ok =>
    if alreadyHandled p.metadata p.now then (p, some .stamping)
    else
      ({ p with
          metadata :=
            { p.metadata.spread transaction with
              autostackPaystackWebhookProcessing := some true
              autostackBuyOrderRequestedAt := some p.now } }, p.toMarking)
  | .marking, .ok =>
    if p.metadata.released || p.metadata.underWay then (p, some .stamping)
    else
      ({ p with metadata := { p.metadata with quidaxOrderProcessing := some true } },
        some (.placing p.metadata))
  | .placing current, .accepted reference id =>
    ({ p with orders := id :: p.orders }, some (.recording current (reference.getD id) id))
  | .placing _, .acceptedUnseen id => ({ p with orders := id :: p.orders }, none)
  | .placing current, .refused => (p, some (.clearing current))
  | .clearing current, .ok =>
    ({ p with metadata := { current with autostackPaystackWebhookProcessing := some false } }, none)
  | .recording current providerReference id, .ok =>
    ({ p with
        metadata :=
          { current with
            quidaxOrderReference := some providerReference
            quidaxOrderId := some id
            quidaxOrderProcessing := some false
            autostackPaystackWebhookProcessing := some false
            autostackBuyOrderSubmittedAt := some p.now } }, some .stamping)
  | .stamping, .ok => (p, some (.stampingFrom p.metadata))
  | .stampingFrom fresh, .ok =>
    ({ p with metadata := { fresh with paystackWebhookProcessedAt := some p.now } }, none)
  | _, _ => (p, none)

/-- `handleWebhook` reads the transaction and goes on unless it has ended. -/
def start (p : Payment) : Option Task :=
  if p.status = .SUCCESS ∨ p.status = .FAILED then none else some (.verifying p.metadata)

/-- Deliveries and retries of the queue, while time passes. -/
def chargeSuccess : Handlers Payment Task Unit Outcome Nat where
  start := fun _ => start
  resume := resume
  outside := fun wait p => { p with now := p.now + wait }

abbrev ChargeEvent := Event Unit Outcome Nat

abbrev ChargeSystem := System Payment Task

/-! ### The marker -/

/-- The task set the marker and has no answer to its order. -/
def Task.awaiting : Task → Bool
  | .placing _ | .clearing _ => true
  | _ => false

def Task.delivers : Task → Bool
  | .charging _ | .storingCharge .. | .failingCharge | .releasing _ => false
  | _ => true

/-- Metadata that the code wrote: the reservation is released only after an order, and what the
submission stores comes together. -/
structure OrderMetadata.Genuine (orders : List Reference) (m : OrderMetadata) : Prop where
  released : m.released = true → orders ≠ []
  submitted : m.autostackBuyOrderSubmittedAt.isSome = true → m.underWay = true

/-- What the copies that a task holds are worth. -/
def Task.Sound (orders : List Reference) : Task → Prop
  | .charging m | .storingCharge m _ | .placing m | .clearing m =>
    m.underWay = false ∧ m.Genuine orders
  | .recording m _ _ => orders ≠ [] ∧ m.Genuine orders
  | .releasing m | .verifying m | .markingAutostack m | .stampingFrom m => m.Genuine orders
  | .failingCharge | .marking | .stamping => True

/-- The steps after which neither the marker nor what was stored is lost, and no marker stays
behind. -/
def Task.Orderly (p : Payment) : Task → Outcome → Prop
  | .storingCharge _ _, .ok => p.metadata.underWay = false
  | .releasing failedMeta, .ok => p.orders ≠ [] ∧ failedMeta.underWay = true
  | .markingAutostack transaction, .ok =>
    alreadyHandled p.metadata p.now = true ∨ transaction.underWay = false
  | .placing _, o => o = .refused ∨ (∃ reference id, o = .accepted reference id) ∨
    ∃ id, o = .acceptedUnseen id
  | .clearing _, o => o = .ok
  | .stampingFrom fresh, .ok => fresh.underWay = p.metadata.underWay
  | _, _ => True

/-- The transaction is open, and its volume can be ordered. -/
structure Payment.Payable (p : Payment) : Prop where
  status : p.status ≠ .SUCCESS ∧ p.status ≠ .FAILED
  volume : p.validVolume = true

/-- The marker and the references stand for one order that is asked for or placed. -/
structure Guarded (s : ChargeSystem) : Prop where
  payable : s.state.Payable
  genuine : s.state.metadata.Genuine s.state.orders
  sound : ∀ t ∈ s.running, t.Sound s.state.orders
  counted : s.running.countP Task.awaiting + s.state.orders.length = s.state.metadata.underWay.toNat

theorem OrderMetadata.Genuine.mono {orders : List Reference} {m : OrderMetadata}
    (h : m.Genuine orders) (id : Reference) : m.Genuine (id :: orders) :=
  ⟨fun _ => by simp, h.submitted⟩

theorem Task.Sound.mono {orders : List Reference} {t : Task} (h : t.Sound orders)
    (id : Reference) : t.Sound (id :: orders) := by
  cases t <;> simp_all [Task.Sound, OrderMetadata.Genuine.mono]

theorem underWay_spread (a b : OrderMetadata) (ha : a.underWay = false) (hb : b.underWay = false) :
    (a.spread b).underWay = false := by
  obtain ⟨_, _, processing, _, _, _, _, _, _⟩ := b
  simp only [OrderMetadata.underWay, OrderMetadata.spread, Bool.or_eq_false_iff] at ha hb ⊢
  cases processing <;> simp_all

theorem OrderMetadata.Genuine.spread {orders : List Reference} {a b : OrderMetadata}
    (ha : a.Genuine orders) (hb : b.Genuine orders) (hau : a.underWay = false)
    (hbu : b.underWay = false) : (a.spread b).Genuine orders := by
  have hsa : a.autostackBuyOrderSubmittedAt = none := by
    have h := ha.submitted
    cases hs : a.autostackBuyOrderSubmittedAt <;> simp_all
  have hsb : b.autostackBuyOrderSubmittedAt = none := by
    have h := hb.submitted
    cases hs : b.autostackBuyOrderSubmittedAt <;> simp_all
  constructor
  · intro h
    have hra := ha.released
    have hrb := hb.released
    simp only [OrderMetadata.released, OrderMetadata.spread, decide_eq_true_eq] at h hra hrb
    cases hl : b.liquidityReservationStatus <;> simp_all
  · intro h
    simp [OrderMetadata.spread, hsa, hsb] at h

/-- What a task's step leaves behind. -/
structure Resumed (p : Payment) (t : Task) (r : Payment × Option Task) : Prop where
  payable : r.1.Payable
  genuine : r.1.metadata.Genuine r.1.orders
  orders : r.1.orders = p.orders ∨ ∃ id, r.1.orders = id :: p.orders
  sound : ∀ u, r.2 = some u → u.Sound r.1.orders
  counted : ∀ rest : Nat,
    rest + t.awaiting.toNat + p.orders.length = p.metadata.underWay.toNat →
      rest + (r.2.any Task.awaiting).toNat + r.1.orders.length = r.1.metadata.underWay.toNat

theorem Resumed.goesOn {p : Payment} {t : Task} {next : Option Task} (hp : p.Payable)
    (hg : p.metadata.Genuine p.orders) (hnext : ∀ u, next = some u → u.Sound p.orders)
    (hawaits : next.any Task.awaiting = t.awaiting) : Resumed p t (p, next) := by
  constructor
  · exact hp
  · exact hg
  · exact .inl rfl
  · exact hnext
  · intro rest hrest
    rw [hawaits]
    exact hrest

/-- A step that rewrites the metadata and ends the task, or lets it go on to one that holds
nothing. -/
theorem Resumed.writes {p : Payment} {t : Task} {next : Option Task} {m : OrderMetadata}
    (hp : p.Payable) (hg : m.Genuine p.orders) (hnext : ∀ u, next = some u → u.Sound p.orders)
    (hawaits : next.any Task.awaiting = t.awaiting) (hunderWay : m.underWay = p.metadata.underWay) :
    Resumed p t ({ p with metadata := m }, next) := by
  constructor
  · exact ⟨hp.status, hp.volume⟩
  · exact hg
  · exact .inl rfl
  · exact hnext
  · intro rest hrest
    simpa [hawaits, hunderWay] using hrest

theorem toMarking_eq {p : Payment} (hp : p.Payable) : p.toMarking = some .marking := by
  simp [Payment.toMarking, hp.volume]

theorem chargeFails_sound {p : Payment} (u : Task) (h : p.chargeFails = some u) :
    u.Sound p.orders ∧ u.awaiting = false := by
  unfold Payment.chargeFails at h
  split at h
  · cases h
    exact ⟨trivial, rfl⟩
  · cases h

theorem chargeFails_awaiting (p : Payment) : p.chargeFails.any Task.awaiting = false := by
  unfold Payment.chargeFails
  split
  · rfl
  · rfl

section Resume

variable {p : Payment}

theorem resume_storingCharge (hp : p.Payable) {copy : OrderMetadata} (reference : Reference)
    (hcopy : copy.underWay = false ∧ copy.Genuine p.orders) (hfree : p.metadata.underWay = false) :
    Resumed p (.storingCharge copy reference) (resume (.storingCharge copy reference) .ok p) := by
  have hsame : (chargeStored p.transactionContext copy reference).underWay = copy.underWay := by
    unfold chargeStored
    split
    · rfl
    · rfl
  refine .writes hp ?_ (by simp) rfl (by rw [hsame, hcopy.1, hfree])
  constructor
  · unfold chargeStored
    split
    · simp [OrderMetadata.released]
    · exact hcopy.2.released
  · rw [hsame]
    unfold chargeStored
    split
    · exact hcopy.2.submitted
    · exact hcopy.2.submitted

theorem resume_releasing (hp : p.Payable) {failedMeta : OrderMetadata}
    (hcopy : failedMeta.Genuine p.orders) (horders : p.orders ≠ [])
    (hunderWay : failedMeta.underWay = p.metadata.underWay) :
    Resumed p (.releasing failedMeta) (resume (.releasing failedMeta) .ok p) :=
  .writes hp ⟨fun _ => horders, hcopy.submitted⟩ (by simp) rfl hunderWay

theorem resume_markingAutostack (hp : p.Payable) (hg : p.metadata.Genuine p.orders)
    {transaction : OrderMetadata} (hcopy : transaction.Genuine p.orders)
    (horderly : (Task.markingAutostack transaction).Orderly p .ok) :
    Resumed p (.markingAutostack transaction) (resume (.markingAutostack transaction) .ok p) := by
  simp only [resume]
  split
  · exact .goesOn hp hg (by simp [Task.Sound]) rfl
  · rename_i hfresh
    have htransaction : transaction.underWay = false := by
      rcases horderly with h | h
      · exact absurd h hfresh
      · exact h
    have hfree : p.metadata.underWay = false := by
      simp only [alreadyHandled, Bool.or_eq_true, not_or] at hfresh
      simpa using hfresh.1.2
    have hspread := underWay_spread p.metadata transaction hfree htransaction
    have hgenuine := hg.spread hcopy hfree htransaction
    rw [toMarking_eq hp]
    refine .writes hp ⟨hgenuine.released, hgenuine.submitted⟩ (by simp [Task.Sound]) rfl ?_
    rw [hfree]
    exact hspread

theorem resume_marking (hp : p.Payable) (hg : p.metadata.Genuine p.orders) :
    Resumed p .marking (resume .marking .ok p) := by
  simp only [resume]
  split
  · exact .goesOn hp hg (by simp [Task.Sound]) rfl
  · rename_i hfree
    simp only [Bool.or_eq_true, not_or, Bool.not_eq_true] at hfree
    constructor
    · exact ⟨hp.status, hp.volume⟩
    · exact ⟨hg.released, fun _ => by simp [OrderMetadata.underWay]⟩
    · exact .inl rfl
    · intro u hu
      cases hu
      exact ⟨hfree.2, hg⟩
    · intro rest hrest
      have hset : ({ p.metadata with
          quidaxOrderProcessing := some true } : OrderMetadata).underWay = true := by
        simp [OrderMetadata.underWay]
      simp only [hfree.2, hset, Task.awaiting, Option.any_some, Bool.toNat_false,
        Bool.toNat_true] at hrest ⊢
      omega

theorem resume_placing (hp : p.Payable) (hg : p.metadata.Genuine p.orders)
    {current : OrderMetadata} (hcurrent : current.underWay = false ∧ current.Genuine p.orders)
    {o : Outcome} (ho : (Task.placing current).Orderly p o) :
    Resumed p (.placing current) (resume (.placing current) o p) := by
  rcases ho with rfl | ⟨reference, id, rfl⟩ | ⟨id, rfl⟩
  · refine .goesOn hp hg ?_ rfl
    intro u hu
    cases hu
    exact hcurrent
  · constructor
    · exact ⟨hp.status, hp.volume⟩
    · exact hg.mono id
    · exact .inr ⟨id, rfl⟩
    · intro u hu
      cases hu
      exact ⟨by simp [resume], hcurrent.2.mono id⟩
    · intro rest hrest
      simp [resume, Task.awaiting] at hrest ⊢
      omega
  · constructor
    · exact ⟨hp.status, hp.volume⟩
    · exact hg.mono id
    · exact .inr ⟨id, rfl⟩
    · simp [resume]
    · intro rest hrest
      simp [resume, Task.awaiting] at hrest ⊢
      omega

theorem resume_clearing (hp : p.Payable) {current : OrderMetadata}
    (hcurrent : current.underWay = false ∧ current.Genuine p.orders) :
    Resumed p (.clearing current) (resume (.clearing current) .ok p) := by
  constructor
  · exact ⟨hp.status, hp.volume⟩
  · exact ⟨hcurrent.2.released, hcurrent.2.submitted⟩
  · exact .inl rfl
  · simp [resume]
  · intro rest hrest
    have hcleared : ({ current with
        autostackPaystackWebhookProcessing := some false } : OrderMetadata).underWay = false :=
      hcurrent.1
    have hle := Bool.toNat_le p.metadata.underWay
    simp only [resume, hcleared, Task.awaiting, Option.any_none, Bool.toNat_true,
      Bool.toNat_false] at hrest ⊢
    omega

theorem resume_recording (hp : p.Payable) {current : OrderMetadata} (hgenuine : p.orders ≠ [])
    (providerReference id : Reference) (hunderWay : p.metadata.underWay = true) :
    Resumed p (.recording current providerReference id)
      (resume (.recording current providerReference id) .ok p) := by
  refine .writes hp ⟨fun _ => hgenuine, fun _ => ?_⟩ (by simp [Task.Sound]) rfl ?_
  · simp [OrderMetadata.underWay]
  · rw [hunderWay]
    simp [OrderMetadata.underWay]

theorem resume_keeps (hp : p.Payable) (hg : p.metadata.Genuine p.orders) {t : Task}
    (ht : t.Sound p.orders) {o : Outcome} (ho : t.Orderly p o)
    (hplaced : p.orders ≠ [] → p.metadata.underWay = true) : Resumed p t (resume t o p) := by
  have hends {t : Task} (hawaits : t.awaiting = false) : Resumed p t (p, none) :=
    .goesOn hp hg (by simp) (by simp [hawaits])
  have hfails {t : Task} (hawaits : t.awaiting = false) : Resumed p t (p, p.chargeFails) :=
    .goesOn hp hg (fun u hu => (chargeFails_sound u hu).1) (by simp [chargeFails_awaiting, hawaits])
  cases t with
  | charging copy =>
    cases o with
    | charged reference =>
      refine .goesOn hp hg ?_ rfl
      intro u hu
      cases hu
      exact ht
    | _ => exact hfails rfl
  | storingCharge copy reference =>
    cases o with
    | ok => exact resume_storingCharge hp reference ht ho
    | _ => exact hfails rfl
  | failingCharge =>
    cases o with
    | ok =>
      refine .goesOn hp hg ?_ rfl
      intro u hu
      cases hu
      exact hg
    | _ => exact hends rfl
  | releasing failedMeta =>
    cases o with
    | ok => exact resume_releasing hp ht ho.1 (by rw [ho.2, hplaced ho.1])
    | _ => exact hends rfl
  | verifying transaction =>
    cases o with
    | verified =>
      simp only [resume, toMarking_eq hp]
      split
      · refine .goesOn hp hg ?_ rfl
        intro u hu
        cases hu
        exact ht
      · exact .goesOn hp hg (by simp [Task.Sound]) rfl
    | _ => exact hends rfl
  | markingAutostack transaction =>
    cases o with
    | ok => exact resume_markingAutostack hp hg ht ho
    | _ => exact hends rfl
  | marking =>
    cases o with
    | ok => exact resume_marking hp hg
    | _ => exact hends rfl
  | placing current => exact resume_placing hp hg ht ho
  | clearing current =>
    cases ho
    exact resume_clearing hp ht
  | recording current providerReference id =>
    cases o with
    | ok => exact resume_recording hp ht.1 providerReference id (hplaced ht.1)
    | _ => exact hends rfl
  | stamping =>
    cases o with
    | ok =>
      refine .goesOn hp hg ?_ rfl
      intro u hu
      cases hu
      exact hg
    | _ => exact hends rfl
  | stampingFrom fresh =>
    cases o with
    | ok => exact .writes hp ⟨ht.released, ht.submitted⟩ (by simp) rfl ho
    | _ => exact hends rfl

end Resume

theorem awaiting_toList (next : Option Task) :
    next.toList.countP Task.awaiting = (next.any Task.awaiting).toNat := by
  cases next with
  | none => rfl
  | some t => cases h : t.awaiting <;> simp [h]

/-- The task that takes a step takes an orderly one. -/
def OrderlyStep (s : ChargeSystem) : ChargeEvent → Prop
  | .resume n o => ∀ t, s.running[n]? = some t → t.Orderly s.state o
  | .start _ | .outside _ => True

theorem Guarded.placed {s : ChargeSystem} (hs : Guarded s) (h : s.state.orders ≠ []) :
    s.state.metadata.underWay = true := by
  have hcounted := hs.counted
  have hpos := List.length_pos_iff.mpr h
  cases hu : s.state.metadata.underWay
  · rw [hu, Bool.toNat_false] at hcounted
    omega
  · rfl

theorem Guarded.step {s : ChargeSystem} (hs : Guarded s) (e : ChargeEvent)
    (he : OrderlyStep s e) : Guarded (chargeSuccess.step e s) := by
  cases e with
  | start d =>
    have hnew (t : Task) (ht : start s.state = some t) : t = .verifying s.state.metadata := by
      unfold start at ht
      split at ht
      · cases ht
      · exact (Option.some.inj ht).symm
    constructor
    · exact hs.payable
    · exact hs.genuine
    · refine Handlers.forall_running_start hs.sound ?_
      intro t ht
      rw [hnew t ht]
      exact hs.genuine
    · have hcount : (start s.state).toList.countP Task.awaiting = 0 := by
        cases ht : start s.state with
        | none => rfl
        | some t =>
          rw [hnew t ht]
          rfl
      show (s.running ++ (start s.state).toList).countP _ + _ = _
      rw [List.countP_append, hcount]
      exact hs.counted
  | outside wait =>
    exact ⟨⟨hs.payable.status, hs.payable.volume⟩, hs.genuine, hs.sound, hs.counted⟩
  | resume n o =>
    cases ht : s.running[n]? with
    | none =>
      rw [Handlers.step_resume_none ht]
      exact hs
    | some t =>
      have hmem := List.mem_of_getElem? ht
      have hkeeps := resume_keeps hs.payable hs.genuine (hs.sound t hmem) (he t ht) hs.placed
      have hstay (u : Task) (hu : u.Sound s.state.orders) :
          u.Sound (resume t o s.state).1.orders := by
        rcases hkeeps.orders with h | ⟨id, h⟩
        · rw [h]
          exact hu
        · rw [h]
          exact hu.mono id
      have hperm := (Handlers.perm_running ht).countP_eq Task.awaiting
      rw [Handlers.step_resume ht]
      constructor
      · exact hkeeps.payable
      · exact hkeeps.genuine
      · intro u hu
        rcases List.mem_append.mp hu with hu | hu
        · exact hstay u (hs.sound u (List.mem_of_mem_eraseIdx hu))
        · exact hkeeps.sound u (Option.mem_toList.mp hu)
      · have hrest := hkeeps.counted ((s.running.eraseIdx n).countP Task.awaiting)
        have hsome := awaiting_toList (some t)
        rw [List.countP_cons] at hperm
        simp only [Option.toList, List.countP_cons, List.countP_nil, Option.any_some] at hsome
        rw [List.countP_append]
        show _ + (resume t o s.state).2.toList.countP Task.awaiting + _ = _
        rw [awaiting_toList]
        apply hrest
        rw [← hs.counted]
        omega

/-! ### Retries -/

/-- One more delivery, which runs alone and whose order Quidax accepts. -/
def retry (s : ChargeSystem) (wait : Nat) (id : Reference) : List ChargeEvent :=
  [.outside wait, .start (), .resume s.running.length .verified] ++
    (if s.state.transactionContext = .AUTOSTACK then [.resume s.running.length .ok] else []) ++
    [.resume s.running.length .ok, .resume s.running.length (.accepted none id)]

/-- A retry is able to place the order. -/
def Retryable (s : ChargeSystem) : Prop :=
  ∃ wait, ∀ id, (Run.final chargeSuccess.step s (retry s wait id)).state.orders = [id]

/-- At most one order is placed, and while none is, a retry is able to place it as soon as no
delivery is under way. -/
structure PlacedOnce (s : ChargeSystem) : Prop where
  once : s.state.orders.length ≤ 1
  retryable : s.state.orders = [] → (∀ t ∈ s.running, t.delivers = false) → Retryable s

theorem awaiting_delivers {t : Task} (h : t.delivers = false) : t.awaiting = false := by
  cases t <;> simp_all [Task.delivers, Task.awaiting]

theorem hasFreshAutostackProcessing_expires {m : OrderMetadata} {now : Nat}
    (h : m.autostackBuyOrderRequestedAt.getD 0 + 15 * 60 * 1000 ≤ now) :
    hasFreshAutostackProcessing m now = false := by
  unfold hasFreshAutostackProcessing
  cases hr : m.autostackBuyOrderRequestedAt with
  | none => simp
  | some requestedAt =>
    rw [hr] at h
    have hlate : ¬ now - requestedAt < 15 * 60 * 1000 := by
      simp only [Option.getD_some] at h
      omega
    simp [hlate]

theorem step_last {p q : Payment} {t u : Task} {o : Outcome} (ts : List Task)
    (h : resume t o p = (q, some u)) :
    chargeSuccess.step (.resume ts.length o) ⟨p, ts ++ [t]⟩ = ⟨q, ts ++ [u]⟩ := by
  rw [Handlers.step_resume_last]
  show (⟨(resume t o p).1, ts ++ (resume t o p).2.toList⟩ : ChargeSystem) = _
  rw [h]
  rfl

theorem marking_places {p : Payment} (ts : List Task) (id : Reference)
    (hreleased : p.metadata.released = false) (hfree : p.metadata.underWay = false) :
    (Run.final chargeSuccess.step ⟨p, ts ++ [.marking]⟩
      [.resume ts.length .ok, .resume ts.length (.accepted none id)]).state.orders =
        id :: p.orders := by
  have hmark : resume .marking .ok p =
      ({ p with metadata := { p.metadata with quidaxOrderProcessing := some true } },
        some (.placing p.metadata)) := by
    simp [resume, hreleased, hfree]
  simp only [Run.final]
  rw [step_last ts hmark, Handlers.step_resume_last]
  rfl

theorem Guarded.retryable {s : ChargeSystem} (hs : Guarded s) (horders : s.state.orders = [])
    (hidle : ∀ t ∈ s.running, t.delivers = false) : Retryable s := by
  obtain ⟨p, ts⟩ := s
  have hnone : ts.countP Task.awaiting = 0 := by
    rw [List.countP_eq_zero]
    intro t ht
    simp [awaiting_delivers (hidle t ht)]
  have hfree : p.metadata.underWay = false := by
    have hcounted := hs.counted
    simp only at horders hcounted
    rw [hnone, horders] at hcounted
    cases h : p.metadata.underWay <;> simp_all
  have hreleased : p.metadata.released = false := by
    cases h : p.metadata.released
    · rfl
    · exact absurd horders (hs.genuine.released h)
  have hsubmitted : p.metadata.autostackBuyOrderSubmittedAt.isSome = false := by
    cases h : p.metadata.autostackBuyOrderSubmittedAt.isSome
    · rfl
    · have hunderWay := hs.genuine.submitted h
      simp only at hunderWay
      rw [hfree] at hunderWay
      cases hunderWay
  obtain ⟨wait, hlong⟩ : ∃ wait,
      p.metadata.autostackBuyOrderRequestedAt.getD 0 + 15 * 60 * 1000 ≤ wait := ⟨_, le_rfl⟩
  refine ⟨wait, fun id => ?_⟩
  let q : Payment := { p with now := p.now + wait }
  have hq : q.Payable := ⟨hs.payable.status, hs.payable.volume⟩
  have hstart : start q = some (.verifying p.metadata) := by
    simp [start, q, hs.payable.status]
  have hdeliver : chargeSuccess.step (.start ()) ⟨q, ts⟩ = ⟨q, ts ++ [.verifying p.metadata]⟩ := by
    show (⟨q, ts ++ (start q).toList⟩ : ChargeSystem) = _
    rw [hstart]
    rfl
  have hwait : chargeSuccess.step (.outside wait) ⟨p, ts⟩ = ⟨q, ts⟩ := rfl
  have hmarking : q.toMarking = some .marking := toMarking_eq hq
  by_cases hcontext : p.transactionContext = .AUTOSTACK
  · have hhandled : alreadyHandled q.metadata q.now = false := by
      simp only [alreadyHandled, Bool.or_eq_false_iff]
      exact ⟨⟨hasFreshAutostackProcessing_expires (le_add_left hlong), hfree⟩, hsubmitted⟩
    have hverified : resume (.verifying p.metadata) .verified q =
        (q, some (.markingAutostack p.metadata)) := by
      simp [resume, q, hcontext]
    let marked : OrderMetadata :=
      { p.metadata.spread p.metadata with
        autostackPaystackWebhookProcessing := some true
        autostackBuyOrderRequestedAt := some q.now }
    have hmarked : resume (.markingAutostack p.metadata) .ok q =
        ({ q with metadata := marked }, some .marking) := by
      simp only [resume, hhandled, hmarking]
      rfl
    have hplaces := marking_places ts id (p := { q with metadata := marked })
      (by simpa [marked, OrderMetadata.released, OrderMetadata.spread] using hreleased)
      (underWay_spread p.metadata p.metadata hfree hfree)
    simp only [retry, hcontext, ↓reduceIte, List.cons_append, List.nil_append, Run.final, hwait,
      hdeliver]
    rw [step_last ts hverified, step_last ts hmarked, ← horders]
    exact hplaces
  · have hverified : resume (.verifying p.metadata) .verified q = (q, some .marking) := by
      simp [resume, hmarking, q, hcontext]
    have hplaces := marking_places ts id (p := q) hreleased hfree
    simp only [retry, hcontext, ↓reduceIte, List.append_nil, List.cons_append, List.nil_append,
      Run.final, hwait, hdeliver]
    rw [step_last ts hverified, ← horders]
    exact hplaces

theorem Guarded.placedOnce {s : ChargeSystem} (hs : Guarded s) : PlacedOnce s := by
  constructor
  · have hcounted := hs.counted
    have hle := Bool.toNat_le s.state.metadata.underWay
    omega
  · exact hs.retryable

/-- The initiating call is about to charge: its copy is the transaction's metadata, which holds
nothing of an order yet. -/
structure Chargeable (p : Payment) : Prop where
  payable : p.Payable
  noOrder : p.orders = []
  noMarker : p.metadata.underWay = false
  notReleased : p.metadata.released = false
  notSubmitted : p.metadata.autostackBuyOrderSubmittedAt = none

theorem Chargeable.guarded {p : Payment} (hp : Chargeable p) :
    Guarded ⟨p, [.charging p.metadata]⟩ := by
  have hgenuine : p.metadata.Genuine p.orders := by
    constructor
    · simp [hp.notReleased]
    · simp [hp.notSubmitted]
  constructor
  · exact hp.payable
  · exact hgenuine
  · intro t ht
    rw [List.mem_singleton.mp ht]
    exact ⟨hp.noMarker, hgenuine⟩
  · simp [Task.awaiting, hp.noOrder, hp.noMarker]

/-- Along orderly deliveries, retries and failures, at most one order is placed, and while none
is, a retry can place it. -/
theorem order_placed_once {p : Payment} (hp : Chargeable p) {events : List ChargeEvent}
    (horderly : Run.Along chargeSuccess.step OrderlyStep ⟨p, [.charging p.metadata]⟩ events) :
    Run.Throughout chargeSuccess.step PlacedOnce ⟨p, [.charging p.metadata]⟩ events := by
  have hguarded := Run.throughout_of_along
    (fun s e (hs : Guarded s) (he : OrderlyStep s e) => hs.step e he) hp.guarded horderly
  exact hguarded.mono fun s hs => hs.placedOnce

/-- User 1 buys a tenth of a coin. -/
def paidBuy : Payment where
  transactionContext := .BUY
  status := .PENDING
  cryptoAmountOriginal := some ['0', '.', '1']
  metadata := { OrderMetadata.empty with liquidityReservationStatus := some .RESERVED }
  orders := []
  now := 0

/-- `confirmBuy` is about to charge for it. -/
def chargingBuy : ChargeSystem := ⟨paidBuy, [.charging paidBuy.metadata]⟩

theorem paidBuy_chargeable : Chargeable paidBuy := by
  constructor
  · constructor
    · decide
    · decide +kernel
  · rfl
  · rfl
  · rfl
  · rfl

/-- The first order is refused, and the retry of the queue places it. -/
theorem refused_order_placed_once :
    Run.Throughout chargeSuccess.step PlacedOnce chargingBuy
      [.resume 0 (.charged 9), .resume 0 .ok, .start (), .resume 0 .verified, .resume 0 .ok,
        .resume 0 .refused, .resume 0 .ok, .start (), .resume 0 .verified, .resume 0 .ok,
        .resume 0 (.accepted none 71), .resume 0 .ok] := by
  refine order_placed_once paidBuy_chargeable ?_
  refine ⟨?_, ?_, ?_, ?_, ?_, ?_, ?_, ?_, ?_, ?_, ?_, ?_, trivial⟩
  case refine_3 | refine_8 => trivial
  all_goals
    intro t ht
    cases ht
  case refine_2.refl | refine_7.refl => rfl
  case refine_6.refl => exact .inl rfl
  case refine_11.refl => exact .inr (.inl ⟨none, 71, rfl⟩)
  all_goals trivial

/-! ### A placement that throws -/

/-- The task neither holds the marker nor a copy without it. -/
def Task.Passes : Task → Prop
  | .verifying _ | .markingAutostack _ | .marking | .stamping => True
  | .stampingFrom fresh => fresh.underWay = true
  | _ => False

/-- The marker is set, and no task is left that could place the order or clear the marker. -/
structure Stuck (s : ChargeSystem) : Prop where
  marked : s.state.metadata.underWay = true
  passes : ∀ t ∈ s.running, t.Passes
  noOrder : s.state.orders = []

theorem resume_passes {p : Payment} {t : Task} (ht : t.Passes) (hp : p.metadata.underWay = true)
    (o : Outcome) :
    (resume t o p).1.metadata.underWay = true ∧ (resume t o p).1.orders = p.orders ∧
      ∀ u, (resume t o p).2 = some u → u.Passes := by
  have hends : p.metadata.underWay = true ∧ p.orders = p.orders ∧
      ∀ u, (none : Option Task) = some u → u.Passes := ⟨hp, rfl, by simp⟩
  have hstamps : p.metadata.underWay = true ∧ p.orders = p.orders ∧
      ∀ u, some Task.stamping = some u → u.Passes := ⟨hp, rfl, by simp [Task.Passes]⟩
  cases t with
  | charging _ | storingCharge _ _ | failingCharge | releasing _ | placing _ | clearing _
  | recording _ _ _ => exact ht.elim
  | verifying transaction =>
    cases o with
    | verified =>
      refine ⟨hp, rfl, ?_⟩
      intro u hu
      simp only [resume, Payment.toMarking] at hu
      split at hu
      · cases hu
        trivial
      · split at hu
        · cases hu
          trivial
        · cases hu
    | _ => exact hends
  | markingAutostack transaction =>
    cases o with
    | ok =>
      have hhandled : alreadyHandled p.metadata p.now = true := by simp [alreadyHandled, hp]
      simpa only [resume, hhandled, ↓reduceIte] using hstamps
    | _ => exact hends
  | marking =>
    cases o with
    | ok => simpa [resume, hp] using hstamps
    | _ => exact hends
  | stamping =>
    cases o with
    | ok =>
      refine ⟨hp, rfl, ?_⟩
      intro u hu
      cases hu
      exact hp
    | _ => exact hends
  | stampingFrom fresh =>
    cases o with
    | ok => exact ⟨ht, rfl, by simp [resume]⟩
    | _ => exact hends

theorem Stuck.step {s : ChargeSystem} (hs : Stuck s) (e : ChargeEvent) :
    Stuck (chargeSuccess.step e s) := by
  cases e with
  | outside wait => exact ⟨hs.marked, hs.passes, hs.noOrder⟩
  | start d =>
    refine ⟨hs.marked, Handlers.forall_running_start hs.passes ?_, hs.noOrder⟩
    intro t ht
    change start s.state = some t at ht
    unfold start at ht
    split at ht
    · cases ht
    · cases ht
      trivial
  | resume n o =>
    cases ht : s.running[n]? with
    | none =>
      rw [Handlers.step_resume_none ht]
      exact hs
    | some t =>
      have hstep := resume_passes (hs.passes t (List.mem_of_getElem? ht)) hs.marked o
      rw [Handlers.step_resume ht]
      refine ⟨hstep.1, ?_, hstep.2.1.trans hs.noOrder⟩
      intro u hu
      rcases List.mem_append.mp hu with hu | hu
      · exact hs.passes u (List.mem_of_mem_eraseIdx hu)
      · exact hstep.2.2 u (Option.mem_toList.mp hu)

theorem Stuck.forever {s : ChargeSystem} (hs : Stuck s) (events : List ChargeEvent) :
    (Run.final chargeSuccess.step s events).state.orders = [] :=
  (Run.throughout_of_step (fun s e (hs : Stuck s) => hs.step e) hs events).last.noOrder

theorem Stuck.not_placedOnce {s : ChargeSystem} (hs : Stuck s)
    (hidle : ∀ t ∈ s.running, t.delivers = false) : ¬ PlacedOnce s := by
  intro h
  obtain ⟨wait, hplaced⟩ := h.retryable hs.noOrder hidle
  have hone := hplaced 0
  rw [hs.forever] at hone
  cases hone

/-- The charge's reference is stored over the reference of the order that was placed meanwhile. -/
def overwritten : List ChargeEvent :=
  [.start (), .resume 1 .verified, .resume 1 .ok, .resume 1 (.accepted none 71), .resume 1 .ok,
    .resume 0 (.charged 9), .resume 1 .ok, .start (), .resume 1 .verified, .resume 1 .ok,
    .resume 1 (.accepted none 72)]

/-- The placement throws. -/
def thrown : List ChargeEvent :=
  [.resume 0 (.charged 9), .resume 0 .ok, .start (), .resume 0 .verified, .resume 0 .ok,
    .resume 0 .fails]

/-- The purchase is ordered twice in one run; in another its order is never placed, whatever
follows. -/
theorem order_placed_twice_or_never :
    ¬ Run.Throughout chargeSuccess.step PlacedOnce chargingBuy overwritten ∧
      ¬ Run.Throughout chargeSuccess.step PlacedOnce chargingBuy thrown ∧
      (Run.final chargeSuccess.step chargingBuy overwritten).state.orders = [72, 71] ∧
      ∀ later, (Run.final chargeSuccess.step (Run.final chargeSuccess.step chargingBuy thrown)
        later).state.orders = [] := by
  have htwice : (Run.final chargeSuccess.step chargingBuy overwritten).state.orders = [72, 71] := by
    decide +kernel
  have hidle : (Run.final chargeSuccess.step chargingBuy thrown).running = [] := by decide +kernel
  have hstuck : Stuck (Run.final chargeSuccess.step chargingBuy thrown) := by
    constructor
    · decide +kernel
    · simp [hidle]
    · decide +kernel
  constructor
  · intro h
    have honce := h.last.once
    rw [htwice] at honce
    simp at honce
  constructor
  · intro h
    exact hstuck.not_placedOnce (by simp [hidle]) h.last
  exact ⟨htwice, hstuck.forever⟩

end PaymentStatusHandler

end ExchangeLedger
