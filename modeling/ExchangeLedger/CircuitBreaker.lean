import ExchangeLedger.Run
import ExchangeLedger.Schema

set_option autoImplicit false

/-! HTTP calls through per-provider circuit breakers. -/

namespace ExchangeLedger.HttpService

inductive Method where
  | GET | POST | PUT | DELETE
  deriving DecidableEq, Repr

/-- The keys of an `AxiosRequestConfig` that end up in the request. -/
structure AxiosRequestConfig where
  url : Option Text
  method : Option Method
  data : Option Text
  params : Option Text
  deriving DecidableEq, Repr

/-- The arguments of one `request`. -/
structure Call where
  method : Method
  url : Text
  data : Option Text
  headers : List (Text × Text)
  config : AxiosRequestConfig
  circuitBreakerName : Option Text
  deriving DecidableEq, Repr

/-- What axios is asked to send. -/
structure AxiosRequest where
  url : Text
  method : Method
  data : Option Text
  params : Option Text
  headers : Text → Option Text

structure AxiosError where
  status : Option Nat
  message : Text
  deriving DecidableEq, Repr

structure HttpServiceException where
  message : Text
  status : Option Nat
  deriving DecidableEq, Repr

abbrev Result := Except HttpServiceException Text

/-- The providers' answers, each of which may depend on everything sent before. -/
abbrev Network := List AxiosRequest → AxiosRequest → Except AxiosError Text

/-- A pending call: run after what was sent before, it sends requests and ends with a result. -/
abbrev Action := List AxiosRequest → List AxiosRequest × Result

def contentType : Text := "Content-Type".toList

/-- `{ 'Content-Type': 'application/json', ...headers }`. -/
def requestHeaders (headers : List (Text × Text)) (name : Text) : Option Text :=
  match headers.reverse.find? (fun h => h.1 = name) with
  | some h => some h.2
  | none => if name = contentType then some "application/json".toList else none

def Call.axiosRequest (c : Call) : AxiosRequest where
  url := c.config.url.getD c.url
  method := c.config.method.getD c.method
  data := c.config.data.or c.data
  params := c.config.params
  headers := requestHeaders c.headers

def executeRequest (network : Network) (c : Call) : Action := fun sent =>
  match network sent c.axiosRequest with
  | .ok data => (sent ++ [c.axiosRequest], .ok data)
  | .error e =>
    (sent ++ [c.axiosRequest], .error ⟨"Request failed: ".toList ++ e.message, e.status⟩)

/-- The circuit breaker of the opossum package: built from an action, fired without arguments. -/
structure Opossum where
  CircuitBreaker : Type
  new : Action → CircuitBreaker
  opened : CircuitBreaker → Bool
  fire : CircuitBreaker → List AxiosRequest → CircuitBreaker × List AxiosRequest × Result

/-- A breaker keeps the action it was constructed with, and while it is not open `fire()` runs
that action and hands on its result. -/
structure Opossum.FiresAction (lib : Opossum) (action : lib.CircuitBreaker → Action) : Prop where
  new_action : ∀ a, action (lib.new a) = a
  new_closed : ∀ a, lib.opened (lib.new a) = false
  fire_action : ∀ b sent, action (lib.fire b sent).1 = action b
  fire_runs : ∀ b sent, lib.opened b = false → (lib.fire b sent).2 = action b sent

structure State (lib : Opossum) where
  breakers : Text → Option lib.CircuitBreaker
  sent : List AxiosRequest

namespace State

variable {lib : Opossum}

def initial : State lib := ⟨fun _ => none, []⟩

def setBreaker (s : State lib) (name : Text) (b : lib.CircuitBreaker) : State lib :=
  { s with breakers := fun n => if n = name then some b else s.breakers n }

end State

section

variable {lib : Opossum} (network : Network)

def getBreaker (s : State lib) (providerName : Text) (action : Action) :
    lib.CircuitBreaker × State lib :=
  match s.breakers providerName with
  | some existing => (existing, s)
  | none => (lib.new action, s.setBreaker providerName (lib.new action))

/-- The breaker a call goes through; the empty name counts as none. -/
def Call.breaker (c : Call) : Option Text :=
  match c.circuitBreakerName with
  | some (a :: n) => some (a :: n)
  | _ => none

def request (s : State lib) (c : Call) : State lib × Result :=
  match c.breaker with
  | some name =>
    let (breaker, s') := getBreaker s name (executeRequest network c)
    let (fired, sent, result) := lib.fire breaker s'.sent
    ({ s'.setBreaker name fired with sent := sent }, result)
  | none =>
    let (sent, result) := executeRequest network c s.sent
    ({ s with sent := sent }, result)

def step (c : Call) (s : State lib) : State lib := (request network s c).1

/-- The call sends its own request once and ends with the response to it. -/
def SendsOwn (s : State lib) (c : Call) : Prop :=
  ((request network s c).1.sent, (request network s c).2) = executeRequest network c s.sent

/-- The circuit the call goes through is not open. -/
def NotOpen (s : State lib) (c : Call) : Prop :=
  ∀ name b, c.breaker = some name → s.breakers name = some b → lib.opened b = false

/-- The call that gave a breaker its action: the first one made under its name. -/
def firstCall (calls : List Call) (name : Text) : Option Call :=
  calls.find? (fun c => c.breaker = some name)

/-- Every call through a breaker asks for what the first call through that breaker asked for. -/
def RepeatsFirst (calls : List Call) : Prop :=
  ∀ done c rest, calls = done ++ c :: rest → ∀ name first, c.breaker = some name →
    firstCall done name = some first → c.axiosRequest = first.axiosRequest

/-- The breakers hold the actions of the first calls among `done`. -/
def Holds (action : lib.CircuitBreaker → Action) (done : List Call) (s : State lib) : Prop :=
  ∀ name, (s.breakers name).map action = (firstCall done name).map (executeRequest network)

end

section

variable {lib : Opossum} {network : Network} {action : lib.CircuitBreaker → Action}

theorem executeRequest_sent (c : Call) (sent : List AxiosRequest) :
    (executeRequest network c sent).1 = sent ++ [c.axiosRequest] := by
  unfold executeRequest
  split <;> rfl

theorem executeRequest_congr {c d : Call} (h : c.axiosRequest = d.axiosRequest) :
    executeRequest network c = executeRequest network d := by
  funext sent
  simp only [executeRequest, h]

theorem firstCall_snoc (done : List Call) (c : Call) (name : Text) :
    firstCall (done ++ [c]) name =
      (firstCall done name).or (if c.breaker = some name then some c else none) := by
  simp [firstCall, List.find?_append, List.find?_cons]
  split <;> simp_all

theorem getBreaker_action (hlib : lib.FiresAction action) {done : List Call} {s : State lib}
    (hs : Holds network action done s) {c : Call} {name : Text} (hn : c.breaker = some name)
    (hclosed : NotOpen s c) :
    action (getBreaker s name (executeRequest network c)).1 =
        executeRequest network ((firstCall done name).getD c) ∧
      lib.opened (getBreaker s name (executeRequest network c)).1 = false ∧
      (getBreaker s name (executeRequest network c)).2.sent = s.sent ∧
      ∀ n, n ≠ name → (getBreaker s name (executeRequest network c)).2.breakers n =
        s.breakers n := by
  have hname := hs name
  unfold getBreaker
  cases hb : s.breakers name with
  | some existing =>
    rw [hb] at hname
    cases hf : firstCall done name with
    | none => simp [hf] at hname
    | some first =>
      rw [hf] at hname
      refine ⟨?_, hclosed name existing hn hb, rfl, fun n _ => rfl⟩
      simpa using hname
  | none =>
    rw [hb] at hname
    cases hf : firstCall done name with
    | some first => simp [hf] at hname
    | none =>
      refine ⟨?_, hlib.new_closed _, rfl, fun n hn' => ?_⟩
      · simp [hlib.new_action]
      · simp [State.setBreaker, hn']

theorem request_breaker (hlib : lib.FiresAction action) {done : List Call} {s : State lib}
    (hs : Holds network action done s) {c : Call} {name : Text} (hn : c.breaker = some name)
    (hclosed : NotOpen s c) :
    ((request network s c).1.sent, (request network s c).2) =
        executeRequest network ((firstCall done name).getD c) s.sent ∧
      Holds network action (done ++ [c]) (request network s c).1 := by
  obtain ⟨haction, hopened, hsent, hother⟩ := getBreaker_action hlib hs hn hclosed
  have hruns := hlib.fire_runs _ (getBreaker s name (executeRequest network c)).2.sent hopened
  rw [haction, hsent] at hruns
  simp only [request, hn]
  refine ⟨?_, fun n => ?_⟩
  · rw [← hruns, hsent]
  · rw [firstCall_snoc, hn]
    by_cases hname : n = name
    · subst hname
      have hkeep : action (lib.fire (getBreaker s n (executeRequest network c)).1
          (getBreaker s n (executeRequest network c)).2.sent).1 =
          executeRequest network ((firstCall done n).getD c) := by
        rw [hlib.fire_action, haction]
      simp only [State.setBreaker, if_true, Option.map_some, hkeep]
      cases firstCall done n <;> rfl
    · have hne : ¬ (some name = some n) := by
        simpa using fun h => hname h.symm
      simp only [State.setBreaker, hname, if_false, hother n hname, hs n, hne, Option.or_none]

theorem request_direct {done : List Call} {s : State lib} (hs : Holds network action done s)
    {c : Call} (hn : c.breaker = none) :
    SendsOwn network s c ∧ Holds network action (done ++ [c]) (request network s c).1 := by
  simp only [SendsOwn, request, hn]
  refine ⟨trivial, fun n => ?_⟩
  rw [firstCall_snoc, hn]
  simp [hs n]

theorem request_holds (hlib : lib.FiresAction action) {done : List Call} {s : State lib}
    (hs : Holds network action done s) {c : Call} (hclosed : NotOpen s c) :
    Holds network action (done ++ [c]) (step network c s) := by
  cases hn : c.breaker with
  | none => exact (request_direct hs hn).2
  | some name => exact (request_breaker hlib hs hn hclosed).2

theorem sendsOwn_iff (hlib : lib.FiresAction action) {done : List Call} {s : State lib}
    (hs : Holds network action done s) {c : Call} (hclosed : NotOpen s c) :
    SendsOwn network s c ↔ ∀ name first, c.breaker = some name →
      firstCall done name = some first → c.axiosRequest = first.axiosRequest := by
  cases hn : c.breaker with
  | none => simp [(request_direct hs hn).1]
  | some name =>
    have hrun := (request_breaker hlib hs hn hclosed).1
    rw [SendsOwn, hrun]
    constructor
    · intro heq name' first hname hfirst
      cases hname
      rw [hfirst] at heq
      have hsent := congrArg Prod.fst heq
      simp only [Option.getD_some, executeRequest_sent, List.append_cancel_left_eq,
        List.cons.injEq, and_true] at hsent
      exact hsent.symm
    · intro h
      cases hf : firstCall done name with
      | none => rfl
      | some first =>
        have heq := h name first rfl hf
        rw [Option.getD_some, executeRequest_congr heq]

theorem along_sendsOwn_iff (hlib : lib.FiresAction action) {calls done : List Call}
    {s : State lib} (hs : Holds network action done s)
    (hclosed : Run.Along (step network) NotOpen s calls) :
    Run.Along (step network) (SendsOwn network) s calls ↔
      ∀ pre c rest, calls = pre ++ c :: rest → ∀ name first, c.breaker = some name →
        firstCall (done ++ pre) name = some first → c.axiosRequest = first.axiosRequest := by
  induction calls generalizing done s with
  | nil => simp [Run.Along]
  | cons a calls ih =>
    have hstep := request_holds hlib hs hclosed.1
    have hown := sendsOwn_iff hlib hs hclosed.1
    rw [Run.Along, hown, ih hstep hclosed.2]
    constructor
    · rintro ⟨ha, hrest⟩ pre c rest heq
      cases pre with
      | nil =>
        cases heq
        simpa using ha
      | cons b pre =>
        cases heq
        have h := hrest pre c rest rfl
        simpa [List.append_assoc] using h
    · intro h
      refine ⟨by simpa using h [] a calls rfl, fun pre c rest heq => ?_⟩
      have h' := h (a :: pre) c rest (by rw [heq]; rfl)
      simpa [List.append_assoc] using h'

/-- While no circuit is open, the breaker path agrees with the direct path on every call of a
sequence exactly when every call repeats the first one made under its breaker's name. -/
theorem requests_agree_iff (hlib : lib.FiresAction action) (network : Network)
    (calls : List Call)
    (hclosed : Run.Along (step network) NotOpen (State.initial : State lib) calls) :
    Run.Along (step network) (SendsOwn network) (State.initial : State lib) calls ↔
      RepeatsFirst calls := by
  have hs : Holds network action [] (State.initial : State lib) := fun name => rfl
  rw [along_sendsOwn_iff hlib hs hclosed]
  rfl

end

/-! ### Quidax -/

/-- A breaker that never opens. -/
def alwaysClosed : Opossum where
  CircuitBreaker := Action
  new a := a
  opened _ := false
  fire a sent := (a, a sent)

theorem alwaysClosed_firesAction : alwaysClosed.FiresAction id where
  new_action _ := rfl
  new_closed _ := rfl
  fire_action _ _ := rfl
  fire_runs _ _ _ := rfl

theorem alwaysClosed_notOpen (s : State alwaysClosed) (c : Call) : NotOpen s c :=
  fun _ _ _ _ => rfl

theorem along_notOpen (network : Network) (s : State alwaysClosed) (calls : List Call) :
    Run.Along (step network) NotOpen s calls := by
  induction calls generalizing s with
  | nil => trivial
  | cons c calls ih => exact ⟨alwaysClosed_notOpen s c, ih _⟩

/-- The call that `BaseQuidaxService.request` makes. -/
def quidaxCall (apiUrl secretKey : Text) (method : Method) (url : Text) (data params : Option Text)
    (headers : List (Text × Text)) (skipCircuitBreaker : Bool) : Call where
  method := method
  url := apiUrl ++ url
  data := data
  headers := [(contentType, "application/json".toList),
    ("Authorization".toList, "Bearer ".toList ++ secretKey)] ++ headers
  config := ⟨none, none, none, params⟩
  circuitBreakerName := if skipCircuitBreaker then none else some "Quidax".toList

/-- Two withdrawals through Quidax, of different users. -/
def twoWithdrawals : List Call :=
  [quidaxCall "https://q".toList ['k'] .POST "/users/1/withdraws".toList (some ['1']) none [] false,
    quidaxCall "https://q".toList ['k'] .POST "/users/2/withdraws".toList
      (some ['2']) none [] false]

def accepting : Network := fun _ r => .ok r.url

theorem single_request_agrees :
    Run.Along (step accepting) (SendsOwn accepting) (State.initial : State alwaysClosed)
      (twoWithdrawals.take 1) := by
  refine (requests_agree_iff alwaysClosed_firesAction accepting _ (along_notOpen _ _ _)).mpr ?_
  intro done c rest heq name first _ hf
  cases done with
  | nil => cases hf
  | cons a done =>
    have hlen := congrArg List.length heq
    simp [twoWithdrawals] at hlen

/-- The second withdrawal through the breaker sends the first one again. -/
theorem second_request_repeats_first :
    ¬ ∀ (lib : Opossum) (action : lib.CircuitBreaker → Action) (network : Network)
      (calls : List Call), lib.FiresAction action →
      Run.Along (step network) NotOpen (State.initial : State lib) calls →
      Run.Along (step network) (SendsOwn network) (State.initial : State lib) calls := by
  intro h
  have hown := (h alwaysClosed id accepting twoWithdrawals alwaysClosed_firesAction
    (along_notOpen _ _ _)).2.1
  have hsent := congrArg Prod.fst hown
  have hurl := congrArg (fun l => l.map AxiosRequest.url) hsent
  exact absurd hurl (by decide)

end ExchangeLedger.HttpService
