import ExchangeLedger.Concurrent
import ExchangeLedger.Schema

set_option autoImplicit false

/-! The intake of webhooks: the three controllers, the idempotency key that they record before they
enqueue, and the queues. -/

namespace ExchangeLedger

open Concurrent

namespace WebhookIntake

inductive QueueName where
  | SWAP | ORDERS | SEND | QUIDAX_WALLET | RECEIVE | PAYSTACK | XPRESSPAY
  deriving DecidableEq, Repr

/-- A correctly signed delivery, by the fields that its controller reads. A field that is falsy is
missing. -/
inductive Delivery where
  | quidax (event : Text) (dataId : Option Text)
  | paystack (event dataId : Text)
  | xpresspay (transactionId transactionReference id status : Option Text) (isSuccessful : Bool)
  deriving DecidableEq, Repr

/-- What a delivery is enqueued as. -/
structure Ticket where
  queue : QueueName
  eventId : Text
  jobId : Text
  deriving DecidableEq, Repr

def resolveQuidaxQueue (event : Text) : Option QueueName :=
  if "swap_transaction.".toList <+: event then some .SWAP
  else if event = "order.done".toList then some .ORDERS
  else if "withdraw.".toList <+: event then some .SEND
  else if event = "wallet.address.generated".toList then some .QUIDAX_WALLET
  else if "deposit.".toList <+: event then some .RECEIVE
  else none

/-- The name of the job, which the queue takes with `-` for every `:`. -/
def sanitizeJobId (jobId : Text) : Text := jobId.map fun c => if c = ':' then '-' else c

/-- A delivery without an event id, or of no queue, is answered at once. -/
def ticketOf : Delivery → Option Ticket
  | .quidax event dataId => do
    let id ← dataId
    let queue ← resolveQuidaxQueue event
    let eventId := event ++ "_".toList ++ id
    return ⟨queue, eventId, sanitizeJobId ("webhook-".toList ++ eventId)⟩
  | .paystack event dataId =>
    let eventId := event ++ "_".toList ++ dataId
    some ⟨.PAYSTACK, eventId, sanitizeJobId ("paystack-webhook-".toList ++ eventId)⟩
  | .xpresspay transactionId transactionReference id status isSuccessful => do
    let providerReference ← (transactionId.or transactionReference).or id
    let providerStatus := status.getD "unknown".toList
    let providerOutcome := if isSuccessful then "success".toList else "not_success".toList
    let eventId := "xpresspay_".toList ++ providerReference ++ "_".toList ++ providerStatus ++
      "_".toList ++ providerOutcome
    return ⟨.XPRESSPAY, eventId, sanitizeJobId ("xpresspay-webhook-".toList ++ eventId)⟩

structure Intake where
  /-- The unique column of the table of webhooks. -/
  idempotencyKeys : List Text
  /-- The jobs that the queues still hold, by name. -/
  held : List (QueueName × Text)
  /-- The events for which a job was added, the latest first. -/
  enqueued : List (QueueName × Text)
  /-- The events of the deliveries that were answered 200. -/
  answered : List (QueueName × Text)

/-- A delivery, by the call that is next. -/
inductive Task where
  | lookingUp (t : Ticket)
  | creating (t : Ticket)
  | adding (t : Ticket)
  deriving DecidableEq, Repr

/-- How a call ends. -/
inductive Outcome where
  | ok
  /-- It throws, having done nothing. -/
  | throws
  /-- It takes effect and yet throws. -/
  | lost
  /-- The process dies. -/
  | crash
  deriving DecidableEq, Repr

/-- The queue drops a job, done or failed. -/
structure Removal where
  queue : QueueName
  jobId : Text

def Ticket.event (t : Ticket) : QueueName × Text := (t.queue, t.eventId)

def Ticket.job (t : Ticket) : QueueName × Text := (t.queue, t.jobId)

def Intake.answer (t : Ticket) (s : Intake) : Intake :=
  { s with answered := t.event :: s.answered }

def Intake.record (t : Ticket) (s : Intake) : Intake :=
  { s with idempotencyKeys := t.eventId :: s.idempotencyKeys }

/-- `queue.add`: a job under a name that the queue holds is not added again. -/
def Intake.add (t : Ticket) (s : Intake) : Intake :=
  if t.job ∈ s.held then s
  else { s with held := t.job :: s.held, enqueued := t.event :: s.enqueued }

/-- Whatever error the insert of the key throws, `ensureUnique` answers that the event is not
new. -/
def resume : Task → Outcome → Intake → Intake × Option Task
  | .lookingUp t, .ok, s =>
    if t.eventId ∈ s.idempotencyKeys then (s.answer t, none) else (s, some (.creating t))
  | .lookingUp _, _, s => (s, none)
  | .creating t, .ok, s =>
    if t.eventId ∈ s.idempotencyKeys then (s.answer t, none) else (s.record t, some (.adding t))
  | .creating t, .throws, s => (s.answer t, none)
  | .creating t, .lost, s =>
    if t.eventId ∈ s.idempotencyKeys then (s.answer t, none) else ((s.record t).answer t, none)
  | .creating _, .crash, s => (s, none)
  | .adding t, .ok, s => ((s.add t).answer t, none)
  | .adding t, .lost, s => (s.add t, none)
  | .adding _, _, s => (s, none)

def webhooks : Handlers Intake Task Delivery Outcome Removal where
  start d _ := (ticketOf d).map .lookingUp
  resume := resume
  outside x s := { s with held := s.held.erase (x.queue, x.jobId) }

def intakeStep (e : Event Delivery Outcome Removal) (s : System Intake Task) :
    System Intake Task := webhooks.step e s

/-- A delivery answered 200 has its job, from this or an earlier delivery. -/
def Delivered (s : System Intake Task) : Prop := ∀ e ∈ s.state.answered, e ∈ s.state.enqueued

/-- No event key is enqueued twice. -/
def NoneTwice (s : System Intake Task) : Prop :=
  ∀ key, s.state.enqueued.countP (·.2 = key) ≤ 1

def Task.adds (key : Text) : Task → Bool
  | .adding t => t.eventId = key
  | _ => false

/-- A key is recorded once, by the one delivery that adds its job or has added it. -/
def Keyed (s : System Intake Task) : Prop :=
  ∀ key, s.state.enqueued.countP (·.2 = key) + s.running.countP (Task.adds key) ≤
      s.state.idempotencyKeys.count key ∧
    s.state.idempotencyKeys.count key ≤ 1

theorem Keyed.noneTwice {s : System Intake Task} (h : Keyed s) : NoneTwice s := by
  intro key
  have hkey := h key
  omega

/-- Where a delivery is answered without a job of its own, its event has one: where its key is
recorded already, or the insert of the key fails for whatever reason. And the name of its own job is
not taken by another's. -/
def MayResume (s : Intake) : Outcome → Task → Prop
  | .ok, .lookingUp t | .ok, .creating t =>
    t.eventId ∈ s.idempotencyKeys → t.event ∈ s.enqueued
  | .throws, .creating t | .lost, .creating t => t.event ∈ s.enqueued
  | .ok, .adding t => t.job ∈ s.held → t.event ∈ s.enqueued
  | _, _ => True

def Clear (s : System Intake Task) : Event Delivery Outcome Removal → Prop
  | .resume n o => ∀ t ∈ s.running[n]?, MayResume s.state o t
  | _ => True

theorem answer_delivered_iff {t : Ticket} {s : Intake} (h : ∀ e ∈ s.answered, e ∈ s.enqueued) :
    (∀ e ∈ (s.answer t).answered, e ∈ (s.answer t).enqueued) ↔ t.event ∈ s.enqueued := by
  simp only [Intake.answer, List.forall_mem_cons]
  exact ⟨fun hboth => hboth.1, fun ht => ⟨ht, h⟩⟩

theorem add_enqueued {t : Ticket} {s : Intake} {e : QueueName × Text} (h : e ∈ s.enqueued) :
    e ∈ (s.add t).enqueued := by
  unfold Intake.add
  split
  · exact h
  · exact List.mem_cons_of_mem _ h

theorem mem_add_iff {t : Ticket} {s : Intake} :
    t.event ∈ (s.add t).enqueued ↔ (t.job ∈ s.held → t.event ∈ s.enqueued) := by
  unfold Intake.add
  split
  · rename_i hheld
    exact ⟨fun h _ => h, fun h => h hheld⟩
  · rename_i hheld
    exact ⟨fun _ h => absurd h hheld, fun _ => List.mem_cons_self⟩

@[simp] theorem add_answered (t : Ticket) (s : Intake) : (s.add t).answered = s.answered := by
  unfold Intake.add
  split
  · rfl
  · rfl

theorem resume_delivered_iff {t : Task} {o : Outcome} {s : Intake}
    (h : ∀ e ∈ s.answered, e ∈ s.enqueued) :
    (∀ e ∈ (resume t o s).1.answered, e ∈ (resume t o s).1.enqueued) ↔ MayResume s o t := by
  cases t with
  | lookingUp t =>
    cases o with
    | ok =>
      simp only [resume, MayResume]
      split
      · rename_i hkey
        rw [answer_delivered_iff h]
        exact ⟨fun ht _ => ht, fun ht => ht hkey⟩
      · rename_i hkey
        exact ⟨fun _ hk => absurd hk hkey, fun _ => h⟩
    | throws | lost | crash => exact ⟨fun _ => trivial, fun _ => h⟩
  | creating t =>
    cases o with
    | ok =>
      simp only [resume, MayResume]
      split
      · rename_i hkey
        rw [answer_delivered_iff h]
        exact ⟨fun ht _ => ht, fun ht => ht hkey⟩
      · rename_i hkey
        exact ⟨fun _ hk => absurd hk hkey, fun _ => h⟩
    | throws => exact answer_delivered_iff h
    | lost =>
      simp only [resume, MayResume]
      split
      · exact answer_delivered_iff h
      · exact answer_delivered_iff (s := s.record t) h
    | crash => exact ⟨fun _ => trivial, fun _ => h⟩
  | adding t =>
    have hadd : ∀ e ∈ (s.add t).answered, e ∈ (s.add t).enqueued := by
      intro e he
      rw [add_answered] at he
      exact add_enqueued (h e he)
    cases o with
    | ok =>
      simp only [resume, MayResume]
      rw [answer_delivered_iff hadd, mem_add_iff]
    | lost => exact ⟨fun _ => trivial, fun _ => hadd⟩
    | throws | crash => exact ⟨fun _ => trivial, fun _ => h⟩

theorem step_delivered_iff {s : System Intake Task} (h : Delivered s)
    (e : Event Delivery Outcome Removal) : Delivered (intakeStep e s) ↔ Clear s e := by
  cases e with
  | start d => exact ⟨fun _ => trivial, fun _ => h⟩
  | outside x => exact ⟨fun _ => trivial, fun _ => h⟩
  | resume n o =>
    unfold Clear intakeStep Delivered
    cases ht : s.running[n]? with
    | none =>
      rw [Handlers.step_resume_none ht]
      refine ⟨fun _ t htask => ?_, fun _ => h⟩
      rw [ht] at htask
      cases htask
    | some t =>
      rw [Handlers.step_resume ht]
      have hiff := resume_delivered_iff (t := t) (o := o) h
      constructor
      · intro hnext u hu
        rw [ht] at hu
        cases hu
        exact hiff.mp hnext
      · exact fun hmay => hiff.mpr (hmay t ht)

/-! ### The keys -/

theorem add_countP_le (key : Text) (t : Ticket) (s : Intake) :
    (s.add t).enqueued.countP (·.2 = key) ≤
      s.enqueued.countP (·.2 = key) + (Task.adds key (.adding t)).toNat := by
  unfold Intake.add
  split
  · omega
  · rw [List.countP_cons]
    have hsame : Task.adds key (.adding t) = decide (t.event.2 = key) := rfl
    rw [hsame]
    split
    · rename_i hkey
      simp [hkey]
    · omega

@[simp] theorem add_idempotencyKeys (t : Ticket) (s : Intake) :
    (s.add t).idempotencyKeys = s.idempotencyKeys := by
  unfold Intake.add
  split
  · rfl
  · rfl

theorem record_count {t : Ticket} {s : Intake} {key : Text} (hnew : t.eventId ∉ s.idempotencyKeys)
    (hone : s.idempotencyKeys.count key ≤ 1) :
    (s.record t).idempotencyKeys.count key =
        s.idempotencyKeys.count key + (Task.adds key (.adding t)).toNat ∧
      (s.record t).idempotencyKeys.count key ≤ 1 := by
  have hcount : (s.record t).idempotencyKeys.count key =
      s.idempotencyKeys.count key + if t.eventId = key then 1 else 0 := by
    simp [Intake.record, List.count_cons]
  by_cases hkey : t.eventId = key
  · subst hkey
    rw [if_pos rfl, List.count_eq_zero_of_not_mem hnew] at hcount
    rw [hcount, List.count_eq_zero_of_not_mem hnew]
    simp [Task.adds]
  · rw [if_neg hkey] at hcount
    rw [hcount]
    simpa [Task.adds, hkey] using hone

theorem resume_keyed {t : Task} {o : Outcome} {s : Intake} {key : Text} (others : Nat)
    (hle : s.enqueued.countP (·.2 = key) + (others + (t.adds key).toNat) ≤
      s.idempotencyKeys.count key)
    (hone : s.idempotencyKeys.count key ≤ 1) :
    (resume t o s).1.enqueued.countP (·.2 = key) +
          (others + ((resume t o s).2.any (Task.adds key)).toNat) ≤
        (resume t o s).1.idempotencyKeys.count key ∧
      (resume t o s).1.idempotencyKeys.count key ≤ 1 := by
  cases t with
  | lookingUp t =>
    simp only [Task.adds, Bool.toNat_false, add_zero] at hle
    cases o with
    | ok =>
      simp only [resume]
      split
      · exact ⟨hle, hone⟩
      · exact ⟨hle, hone⟩
    | throws | lost | crash => exact ⟨hle, hone⟩
  | creating t =>
    simp only [Task.adds, Bool.toNat_false, add_zero] at hle
    cases o with
    | ok =>
      simp only [resume]
      split
      · exact ⟨hle, hone⟩
      · rename_i hnew
        obtain ⟨hcount, hcount1⟩ := record_count hnew hone
        refine ⟨?_, hcount1⟩
        rw [hcount]
        change s.enqueued.countP (·.2 = key) + (others + (Task.adds key (.adding t)).toNat) ≤ _
        omega
    | throws | crash => exact ⟨hle, hone⟩
    | lost =>
      simp only [resume]
      split
      · exact ⟨hle, hone⟩
      · rename_i hnew
        obtain ⟨hcount, hcount1⟩ := record_count hnew hone
        refine ⟨?_, hcount1⟩
        change s.enqueued.countP (·.2 = key) + (others + 0) ≤
          (s.record t).idempotencyKeys.count key
        rw [hcount]
        omega
  | adding t =>
    have hadd := add_countP_le key t s
    cases o with
    | ok | lost =>
      simp only [resume, Intake.answer, add_idempotencyKeys]
      exact ⟨by simp only [Option.any_none, Bool.toNat_false]; omega, hone⟩
    | throws | crash =>
      simp only [resume]
      exact ⟨by simp only [Option.any_none, Bool.toNat_false]; omega, hone⟩

theorem keyed_step {s : System Intake Task} (h : Keyed s) (e : Event Delivery Outcome Removal) :
    Keyed (intakeStep e s) := by
  cases e with
  | start d =>
    intro key
    have hnew : ∀ t, webhooks.start d s.state = some t → Task.adds key t = false := by
      intro t ht
      obtain ⟨ticket, -, rfl⟩ := Option.map_eq_some_iff.mp ht
      rfl
    rw [intakeStep, Handlers.countP_start hnew]
    exact h key
  | outside x => exact h
  | resume n o =>
    intro key
    cases ht : s.running[n]? with
    | none =>
      rw [intakeStep, Handlers.step_resume_none ht]
      exact h key
    | some t =>
      obtain ⟨hle, hone⟩ := h key
      have hcount := (Handlers.perm_running ht).countP_eq (Task.adds key)
      rw [List.countP_cons] at hcount
      have hkeyed := resume_keyed (t := t) (o := o)
        ((s.running.eraseIdx n).countP (Task.adds key)) (hle.trans' ?_) hone
      · rw [intakeStep, Handlers.step_resume ht]
        dsimp only
        rw [List.countP_append, Handlers.countP_toList]
        exact hkeyed
      · rw [hcount]
        cases t.adds key <;> simp

/-- Nothing is recorded, and no delivery is under way. -/
def quiet : System Intake Task := ⟨⟨[], [], [], []⟩, []⟩

/-- Every delivery that is answered 200 has its job, and no key is enqueued twice, throughout
exactly the runs in which no delivery is answered on the strength of a key without a job. -/
theorem delivered_iff (events : List (Event Delivery Outcome Removal)) :
    Run.Throughout intakeStep (fun s => Delivered s ∧ NoneTwice s) quiet events ↔
      Run.Along intakeStep Clear quiet events := by
  refine Run.throughout_iff_along_under (I := Keyed) (fun s e h => keyed_step h e) ?_ ?_ ?_
  · intro s e hkeyed h
    rw [← step_delivered_iff h.1 e]
    exact ⟨fun hnext => hnext.1, fun hnext => ⟨hnext, (keyed_step hkeyed e).noneTwice⟩⟩
  · intro key
    simp [quiet]
  · constructor
    · intro e he
      cases he
    · intro key
      simp [quiet]

/-- The queue refuses the job, the provider is answered 500 and delivers again: the key is there. -/
theorem redelivery_dropped :
    ¬ Run.Throughout intakeStep (fun s => Delivered s ∧ NoneTwice s) quiet
      [.start (.quidax "order.done".toList (some ['7'])), .resume 0 .ok, .resume 0 .ok,
        .resume 0 .throws, .start (.quidax "order.done".toList (some ['7'])),
        .resume 0 .ok] := by
  intro h
  have hjob := h.last.1 (.ORDERS, "order.done_7".toList) (by decide +kernel)
  exact absurd hjob (by decide +kernel)

end WebhookIntake

end ExchangeLedger
