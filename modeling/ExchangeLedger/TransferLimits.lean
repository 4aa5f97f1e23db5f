import ExchangeLedger.BufferTiers
import ExchangeLedger.Concurrent
import Mathlib.Algebra.Order.BigOperators.Group.List
import Mathlib.Data.List.Infix
import Mathlib.Tactic.Linarith

set_option autoImplicit false

/-! The daily transfer limit: the interceptor that compares a request with the limit of its user's
tier before the handler runs, and counts it once the handler has answered. -/

namespace ExchangeLedger

open Concurrent

namespace TransferLimits

abbrev UserId := Nat

/-- A number. The finite ones are held by the decimals that they are written as. -/
inductive JsNumber where
  | finite (value : Rat)
  | infinity
  | negInfinity
  | nan
  deriving DecidableEq, Repr

/-- A field of a body, by its `typeof`. -/
inductive Field where
  | number (value : JsNumber)
  | string (text : Text)
  | other
  deriving DecidableEq, Repr

structure Request where
  method : Text
  url : Text
  userId : UserId
  fiatAmount : Field
  amount : Field
  deriving DecidableEq, Repr

inductive AccountTier where
  | TIER_1 | TIER_2 | TIER_3
  deriving DecidableEq, Repr

structure TierLimits where
  dailyTransferLimit : Rat
  isUnlimited : Bool
  deriving DecidableEq, Repr

/-- One day: the rows of `user_daily_transactions`, in hundredths, and the requests that were let
through and succeeded. -/
structure Day where
  totals : Table UserId Int
  succeeded : List (UserId × JsNumber)

/-- A limited request, by what is next for it. -/
inductive Task where
  | validating (userId : UserId) (amount : JsNumber)
  | handling (userId : UserId) (amount : JsNumber)
  | recording (userId : UserId) (amount : JsNumber)
  deriving DecidableEq, Repr

def Task.amount : Task → JsNumber
  | .validating _ amount | .handling _ amount | .recording _ amount => amount

/-- How a call ends. -/
inductive Outcome where
  | ok
  | throws
  deriving DecidableEq, Repr

def EXCLUDED_ROUTES : List Text :=
  ["/buy".toList, "/swap".toList, "/receive".toList, "/sell".toList]

section Interceptor

/- The language's reading of numbers and its addition, which rounds, the limits of the tiers as the
environment gives them, and the tiers of the users. -/
variable (parseFloat : Text → JsNumber) (plus : Rat → Rat → Rat)
  (tierLimits : AccountTier → TierLimits) (tier : UserId → Option AccountTier)

def extractAmount (r : Request) : Option JsNumber :=
  match r.fiatAmount, r.amount with
  | .number value, _ => some value
  | .string text, _ => some (parseFloat text)
  | .other, .number value => some value
  | .other, .string text => some (parseFloat text)
  | .other, .other => none

/-- The amount of a request that the limit is for. -/
def limitedAmount (r : Request) : Option JsNumber :=
  if r.method ≠ "POST".toList ∨ ∃ route ∈ EXCLUDED_ROUTES, route <:+: r.url then none
  else
    match extractAmount parseFloat r with
    | some (.finite value) => if 0 < value then some (.finite value) else none
    | some .infinity => some .infinity
    | _ => none

def getLimitForTier (userId : UserId) : TierLimits := tierLimits ((tier userId).getD .TIER_1)

def currentTotal (s : Day) (userId : UserId) : Rat := (s.totals.lookup userId).elim 0 (· / 100)

def validateLimit (s : Day) (userId : UserId) (amount : JsNumber) : Bool :=
  (getLimitForTier tierLimits tier userId).isUnlimited ||
    match amount with
    | .finite value =>
      plus (currentTotal s userId) value ≤
        (getLimitForTier tierLimits tier userId).dailyTransferLimit
    | .negInfinity => true
    | .infinity | .nan => false

/-- A number in a `Decimal(20, 2)` column, in hundredths: rounded, and a half away from zero. -/
def hundredths (value : Rat) : Int :=
  if 0 ≤ value then (value * 100 + 1 / 2).floor else (value * 100 - 1 / 2).ceil

/-- The upsert. It refuses a number that is not finite. -/
def updateDailyTotal (userId : UserId) (amount : JsNumber) (s : Day) : Day :=
  match amount with
  | .finite value =>
    { s with totals := s.totals.insert userId (hundredths (currentTotal s userId + value)) }
  | _ => s

/-- The requests of one day. The total is counted after the answer, and nothing waits for it or sees
it fail. -/
def limitInterceptor : Handlers Day Task Request Outcome Empty where
  start r _ := (limitedAmount parseFloat r).map (.validating r.userId)
  resume t o s :=
    match t, o with
    | .validating userId amount, .ok =>
      (s, if validateLimit plus tierLimits tier s userId amount then some (.handling userId amount)
        else none)
    | .handling userId amount, .ok =>
      ({ s with succeeded := (userId, amount) :: s.succeeded }, some (.recording userId amount))
    | .recording userId amount, .ok => (updateDailyTotal userId amount s, none)
    | _, .throws => (s, none)
  outside x _ := x.elim

/-! ### The sum of a day -/

def JsNumber.value : JsNumber → Rat
  | .finite value => value
  | _ => 0

/-- What the requests of a user that succeeded add up to. -/
def succeededSum (s : Day) (userId : UserId) : Rat :=
  ((s.succeeded.filter (·.1 = userId)).map (·.2.value)).sum

/-- A user whose requests succeeded stays within the limit of the tier. -/
def WithinLimits (s : System Day Task) : Prop :=
  ∀ userId, (getLimitForTier tierLimits tier userId).isUnlimited = false →
    0 < succeededSum s.state userId →
    succeededSum s.state userId ≤ (getLimitForTier tierLimits tier userId).dailyTransferLimit

/-- What a task adds that was let through, and has not been answered. -/
def Task.handled (userId : UserId) : Task → Rat
  | .handling u amount => if u = userId then amount.value else 0
  | _ => 0

/-- What a task adds that succeeded, and has not been counted. -/
def Task.uncounted (userId : UserId) : Task → Rat
  | .recording u amount => if u = userId then amount.value else 0
  | _ => 0

/-- Where a request is let through, the limit has room for it beside all that were let through
before it, counted or not; and one that succeeded is counted, and not rounded down. -/
def MayResume (s : System Day Task) (o : Outcome) : Task → Prop
  | .validating userId amount =>
    (getLimitForTier tierLimits tier userId).isUnlimited = false →
    validateLimit plus tierLimits tier s.state userId amount = true →
      currentTotal s.state userId + s.load (Task.handled userId) +
          s.load (Task.uncounted userId) + amount.value ≤
        (getLimitForTier tierLimits tier userId).dailyTransferLimit
  | .handling _ _ => True
  | .recording userId amount =>
    (getLimitForTier tierLimits tier userId).isUnlimited = false →
      o = .ok ∧ currentTotal s.state userId + amount.value ≤
        currentTotal (updateDailyTotal userId amount s.state) userId

instance (s : System Day Task) (o : Outcome) (t : Task) :
    Decidable (MayResume plus tierLimits tier s o t) :=
  match t with
  | .validating _ _ => inferInstanceAs (Decidable (_ → _ → _ ≤ _))
  | .handling _ _ => inferInstanceAs (Decidable True)
  | .recording _ _ => inferInstanceAs (Decidable (_ → _ ∧ _ ≤ _))

def Clear (s : System Day Task) : Event Request Outcome Empty → Prop
  | .resume n o => ∀ t ∈ s.running[n]?, MayResume plus tierLimits tier s o t
  | _ => True

def limitStep (e : Event Request Outcome Empty) (s : System Day Task) : System Day Task :=
  (limitInterceptor parseFloat plus tierLimits tier).step e s

/-- What has succeeded is counted or about to be, and what may still succeed has its room. -/
structure Covered (s : System Day Task) : Prop where
  amounts : ∀ t ∈ s.running, 0 ≤ t.amount.value
  counted : ∀ userId, (getLimitForTier tierLimits tier userId).isUnlimited = false →
    succeededSum s.state userId ≤
      currentTotal s.state userId + s.load (Task.uncounted userId)
  room : ∀ userId, (getLimitForTier tierLimits tier userId).isUnlimited = false →
    0 < succeededSum s.state userId + s.load (Task.handled userId) →
    succeededSum s.state userId + s.load (Task.handled userId) ≤
      (getLimitForTier tierLimits tier userId).dailyTransferLimit

variable {parseFloat plus tierLimits tier}

theorem limitedAmount_nonneg {r : Request} {amount : JsNumber}
    (h : limitedAmount parseFloat r = some amount) : 0 ≤ amount.value := by
  unfold limitedAmount at h
  split at h
  · cases h
  · split at h
    · split at h
      · rename_i hpos
        cases h
        exact hpos.le
      · cases h
    · cases h
      exact le_rfl
    · cases h

theorem Task.handled_nonneg {t : Task} (h : 0 ≤ t.amount.value) (userId : UserId) :
    0 ≤ t.handled userId := by
  cases t with
  | validating u amount => exact le_rfl
  | handling u amount =>
    show 0 ≤ if u = userId then amount.value else 0
    split
    · exact h
    · exact le_rfl
  | recording u amount => exact le_rfl

theorem handled_load_nonneg {s : System Day Task} (h : ∀ t ∈ s.running, 0 ≤ t.amount.value)
    (userId : UserId) : 0 ≤ s.load (Task.handled userId) := by
  refine List.sum_nonneg fun x hx => ?_
  obtain ⟨t, ht, rfl⟩ := List.mem_map.mp hx
  exact Task.handled_nonneg (h t ht) userId

theorem Covered.withinLimits {s : System Day Task} (h : Covered tierLimits tier s) :
    WithinLimits tierLimits tier s := by
  intro userId hlimited hpos
  have hhandled := handled_load_nonneg h.amounts userId
  have hroom := h.room userId hlimited (by linarith)
  linarith

theorem succeededSum_cons (s : Day) (u : UserId) (amount : JsNumber) (userId : UserId) :
    succeededSum { s with succeeded := (u, amount) :: s.succeeded } userId =
      succeededSum s userId + if u = userId then amount.value else 0 := by
  unfold succeededSum
  by_cases hu : u = userId
  · rw [List.filter_cons_of_pos (by simpa using hu), List.map_cons, List.sum_cons, if_pos hu,
      add_comm]
  · rw [List.filter_cons_of_neg (by simpa using hu), if_neg hu, add_zero]

theorem succeededSum_update (u : UserId) (amount : JsNumber) (s : Day) (userId : UserId) :
    succeededSum (updateDailyTotal u amount s) userId = succeededSum s userId := by
  cases amount <;> rfl

theorem currentTotal_update_ne {u userId : UserId} (h : userId ≠ u) (amount : JsNumber)
    (s : Day) :
    currentTotal (updateDailyTotal u amount s) userId = currentTotal s userId := by
  cases amount with
  | finite value => simp [currentTotal, updateDailyTotal, AList.lookup_insert_ne h]
  | _ => rfl

theorem resume_amounts {s : System Day Task} {n : Nat} {o : Outcome}
    (h : ∀ t ∈ s.running, 0 ≤ t.amount.value) :
    ∀ t ∈ (limitStep parseFloat plus tierLimits tier (.resume n o) s).running,
      0 ≤ t.amount.value := by
  refine Handlers.forall_running_resume h (fun t _ ht => ht) ?_
  intro t _ ht u hu
  cases t <;> cases o <;> simp only [limitInterceptor] at hu
  · split at hu
    · cases hu
      exact ht
    · cases hu
  · cases hu
  · cases hu
    exact ht
  · cases hu
  · cases hu
  · cases hu

theorem covered_start {s : System Day Task} (h : Covered tierLimits tier s) (r : Request) :
    Covered tierLimits tier (limitStep parseFloat plus tierLimits tier (.start r) s) := by
  have hhandled (userId : UserId) := Handlers.load_start
    (h := limitInterceptor parseFloat plus tierLimits tier) (Task.handled userId) s r
  have huncounted (userId : UserId) := Handlers.load_start
    (h := limitInterceptor parseFloat plus tierLimits tier) (Task.uncounted userId) s r
  have hzero (userId : UserId) :
      ((limitInterceptor parseFloat plus tierLimits tier).start r s.state).elim 0
          (Task.handled userId) = 0 ∧
        ((limitInterceptor parseFloat plus tierLimits tier).start r s.state).elim 0
          (Task.uncounted userId) = 0 := by
    simp only [limitInterceptor]
    cases limitedAmount parseFloat r with
    | none => exact ⟨rfl, rfl⟩
    | some amount => exact ⟨rfl, rfl⟩
  constructor
  · refine Handlers.forall_running_start h.amounts ?_
    intro t ht
    obtain ⟨amount, hamount, rfl⟩ := Option.map_eq_some_iff.mp ht
    exact limitedAmount_nonneg hamount
  · intro userId hlimited
    have hcounted := h.counted userId hlimited
    rw [limitStep, huncounted, (hzero userId).2, add_zero]
    exact hcounted
  · intro userId hlimited
    have hroom := h.room userId hlimited
    rw [limitStep, hhandled, (hzero userId).1, add_zero]
    exact hroom

theorem covered_of_task {s : System Day Task} (h : Covered tierLimits tier s) {n : Nat}
    {o : Outcome} {t : Task} (ht : s.running[n]? = some t) {y : Day} {next : Option Task}
    (hnext : (limitInterceptor parseFloat plus tierLimits tier).resume t o s.state = (y, next))
    (hkeeps : ∀ userId, (getLimitForTier tierLimits tier userId).isUnlimited = false →
      succeededSum y userId + t.uncounted userId ≤ currentTotal y userId +
          (s.load (Task.uncounted userId) + next.elim 0 (Task.uncounted userId)) ∧
        ∀ left, left + t.handled userId =
            s.load (Task.handled userId) + next.elim 0 (Task.handled userId) →
          0 < succeededSum y userId + left → succeededSum y userId + left ≤
            (getLimitForTier tierLimits tier userId).dailyTransferLimit) :
    Covered tierLimits tier (limitStep parseFloat plus tierLimits tier (.resume n o) s) := by
  have hstate := congrArg System.state (Handlers.step_resume
    (h := limitInterceptor parseFloat plus tierLimits tier) ht o)
  simp only [hnext] at hstate
  refine ⟨resume_amounts h.amounts, fun userId hlimited => ?_, fun userId hlimited => ?_⟩
  · have huncounted := Handlers.load_resume
      (h := limitInterceptor parseFloat plus tierLimits tier) (Task.uncounted userId) ht o
    rw [hnext] at huncounted
    have hcounted := (hkeeps userId hlimited).1
    rw [limitStep, hstate]
    linarith
  · have hhandled := Handlers.load_resume
      (h := limitInterceptor parseFloat plus tierLimits tier) (Task.handled userId) ht o
    rw [hnext] at hhandled
    rw [limitStep, hstate]
    exact (hkeeps userId hlimited).2 _ hhandled

theorem covered_resume {s : System Day Task} (h : Covered tierLimits tier s) {n : Nat}
    {o : Outcome} (hclear : Clear plus tierLimits tier s (.resume n o)) :
    Covered tierLimits tier (limitStep parseFloat plus tierLimits tier (.resume n o) s) := by
  cases ht : s.running[n]? with
  | none =>
    have hsame : limitStep parseFloat plus tierLimits tier (.resume n o) s = s :=
      Handlers.step_resume_none ht o
    rw [hsame]
    exact h
  | some t =>
    have hamount := h.amounts t (List.mem_of_getElem? ht)
    replace hclear := hclear t ht
    refine covered_of_task h ht rfl fun userId hlimited => ?_
    have hcounted := h.counted userId hlimited
    have hroom := h.room userId hlimited
    have hhandled := Task.handled_nonneg hamount userId
    cases t with
    | validating u amount =>
      cases o with
      | throws =>
        simp only [Task.uncounted, Task.handled, Option.elim_none, add_zero]
        exact ⟨hcounted, fun left hleft => hleft ▸ hroom⟩
      | ok =>
        simp only [Task.uncounted, Task.handled, add_zero]
        split
        · rename_i hpass
          simp only [Option.elim_some, Task.uncounted, Task.handled, add_zero]
          refine ⟨hcounted, fun left hleft hpos => ?_⟩
          by_cases hu : u = userId
          · subst hu
            rw [if_pos rfl] at hleft
            have hfits := hclear hlimited hpass
            linarith
          · rw [if_neg hu, add_zero] at hleft
            rw [hleft] at hpos ⊢
            exact hroom hpos
        · simp only [Option.elim_none, add_zero]
          exact ⟨hcounted, fun left hleft => hleft ▸ hroom⟩
    | handling u amount =>
      cases o with
      | throws =>
        simp only [Task.uncounted, Option.elim_none, add_zero]
        refine ⟨hcounted, fun left hleft hpos => ?_⟩
        have hall := hroom (by linarith)
        linarith
      | ok =>
        simp only [Task.uncounted, Task.handled, Option.elim_some, add_zero,
          succeededSum_cons]
        refine ⟨?_, fun left hleft hpos => ?_⟩
        · change succeededSum s.state userId + _ ≤ currentTotal s.state userId + _
          linarith
        · have hall := hroom (by linarith)
          linarith
    | recording u amount =>
      by_cases hu : u = userId
      · subst hu
        obtain ⟨rfl, hrounded⟩ := hclear hlimited
        simp only [Task.uncounted, Task.handled, Option.elim_none, add_zero,
          succeededSum_update, if_true]
        exact ⟨by linarith, fun left hleft => hleft ▸ hroom⟩
      · cases o with
        | throws =>
          simp only [Task.uncounted, Task.handled, Option.elim_none, add_zero,
            if_neg hu]
          exact ⟨hcounted, fun left hleft => hleft ▸ hroom⟩
        | ok =>
          simp only [Task.uncounted, Task.handled, Option.elim_none, add_zero,
            succeededSum_update, currentTotal_update_ne (Ne.symm hu), if_neg hu]
          exact ⟨hcounted, fun left hleft => hleft ▸ hroom⟩

theorem covered_step {s : System Day Task} (h : Covered tierLimits tier s)
    (e : Event Request Outcome Empty) (hclear : Clear plus tierLimits tier s e) :
    Covered tierLimits tier (limitStep parseFloat plus tierLimits tier e s) := by
  cases e with
  | start r => exact covered_start h r
  | resume n o => exact covered_resume h hclear
  | outside x => exact x.elim

end Interceptor

/-- The morning: nothing is counted, and no request is under way. -/
def morning : System Day Task := ⟨⟨∅, []⟩, []⟩

theorem morning_covered (tierLimits : AccountTier → TierLimits)
    (tier : UserId → Option AccountTier) : Covered tierLimits tier morning := by
  constructor
  · intro t ht
    cases ht
  · intro userId _
    simp [morning, succeededSum, currentTotal, System.load]
  · intro userId _ hpos
    simp [morning, succeededSum, System.load] at hpos

/-- On a day on which nothing is let through beyond the room that is left, and everything that
succeeds is counted, no user exceeds the limit. -/
theorem daily_limit_kept (parseFloat : Text → JsNumber) (plus : Rat → Rat → Rat)
    (tierLimits : AccountTier → TierLimits) (tier : UserId → Option AccountTier)
    (events : List (Event Request Outcome Empty))
    (h : Run.Along (limitStep parseFloat plus tierLimits tier) (Clear plus tierLimits tier) morning
      events) :
    Run.Throughout (limitStep parseFloat plus tierLimits tier) (WithinLimits tierLimits tier)
      morning events :=
  (Run.throughout_of_along (P := Covered tierLimits tier) (fun _ e hs hc => covered_step hs e hc)
    (morning_covered tierLimits tier) h).mono fun _ hs => hs.withinLimits

/-- The tiers without an environment. -/
def defaultLimits : AccountTier → TierLimits
  | .TIER_1 => ⟨100000, false⟩
  | .TIER_2 => ⟨500000, false⟩
  | .TIER_3 => ⟨25000000, false⟩

/-- The language's reading of a plain numeral. -/
def readNumeral (text : Text) : JsNumber := (Decimal.parse text).elim .nan (.finite ·.value)

def previewSend (amount : String) : Request where
  method := "POST".toList
  url := "/withdrawal/preview".toList
  userId := 1
  fiatAmount := .other
  amount := .string amount.toList

/-- A request of 60000 is answered and counted, and then one of 40000. -/
theorem two_withdrawals_kept :
    Run.Throughout (limitStep readNumeral (· + ·) defaultLimits fun _ => none)
      (WithinLimits defaultLimits fun _ => none) morning
      [.start (previewSend "60000"), .resume 0 .ok, .resume 0 .ok, .resume 0 .ok,
        .start (previewSend "40000"), .resume 0 .ok, .resume 0 .ok, .resume 0 .ok] := by
  refine daily_limit_kept _ _ _ _ _ ⟨trivial, ?_, ?_, ?_, trivial, ?_, ?_, ?_, trivial⟩
  all_goals
    unfold Clear
    decide +kernel

/-- Two requests of 60000 are both compared with a total of zero. -/
theorem two_withdrawals_exceed :
    ¬ Run.Throughout (limitStep readNumeral (· + ·) defaultLimits fun _ => none)
      (WithinLimits defaultLimits fun _ => none) morning
      [.start (previewSend "60000"), .start (previewSend "60000"), .resume 0 .ok, .resume 0 .ok,
        .resume 0 .ok, .resume 0 .ok] := by
  intro h
  have hsum : succeededSum (Run.final (limitStep readNumeral (· + ·) defaultLimits
      fun _ => none) morning [.start (previewSend "60000"), .start (previewSend "60000"),
        .resume 0 .ok, .resume 0 .ok, .resume 0 .ok, .resume 0 .ok]).state 1 = 120000 := by
    decide +kernel
  have hwithin := h.last 1 rfl (by rw [hsum]; decide +kernel)
  rw [hsum] at hwithin
  exact absurd hwithin (by decide +kernel)

end TransferLimits

end ExchangeLedger
