import ExchangeLedger.Concurrent
import ExchangeLedger.Money
import ExchangeLedger.TempStore
import Mathlib.Data.List.Infix

set_option autoImplicit false

/-! The bank accounts that users are paid out to. A bank resolves the name of an account, a
signed token carries it for five minutes, and the token adds the account to a user of that name. -/

namespace ExchangeLedger

open Concurrent ConvertCurrency

namespace BankAccounts

/-- The signed payload, from which the token's text is worked out. `iat` is in seconds. -/
structure TempToken where
  accountNumber : Text
  bankCode : Text
  accountName : Text
  iat : Nat
  deriving DecidableEq, Repr

structure User where
  firstName : Option Text
  lastName : Option Text
  deriving DecidableEq, Repr

structure UserBankAccount where
  userId : UserId
  bankName : Text
  bankAccountName : Text
  bankAccountNumber : Text
  bankCode : Text
  deriving DecidableEq, Repr

abbrev BankAccountId := Nat

structure Store where
  now : Nat
  users : Table UserId User
  userBankAccounts : Table BankAccountId UserBankAccount
  /-- The keys `bank_verify:…`. -/
  bankVerify : TempStore TempToken Unit

structure PaystackBank where
  code : Text
  name : Text
  deriving DecidableEq, Repr

inductive Request where
  | verifyBankAccount (accountNumber bankCode : Text)
  | createBankAccount (userId : UserId) (tempToken : TempToken)
  | deleteBankAccount (userId : UserId) (bankAccountId : BankAccountId)
  deriving DecidableEq, Repr

/-- A request under way, by the call that is next. -/
inductive Task where
  | resolving (accountNumber bankCode : Text)
  | storing (token : TempToken)
  | checkingToken (userId : UserId) (user : User) (token : TempToken)
  | namingBank (userId : UserId) (user : User) (token : TempToken)
  | lookingUp (userId : UserId) (token : TempToken) (bankName : Text)
  | creating (userId : UserId) (token : TempToken) (bankName : Text)
  /-- The key is deleted, and the request throws where there is a message. -/
  | deletingKey (token : TempToken) (message : Option String)
  | deleting (bankAccountId : BankAccountId)
  deriving DecidableEq, Repr

inductive Outcome where
  /-- Paystack's answer: the name on the account, where it could be resolved. -/
  | resolved (accountName : Option Text)
  /-- The list of banks, from the cache or from Paystack. -/
  | banks (list : List PaystackBank)
  /-- The id of the row that is created. -/
  | created (id : BankAccountId)
  | done
  | throws (message : String)
  deriving DecidableEq, Repr

/-- A key lives for five minutes, a token for fifteen. -/
def KEY_TTL : Nat := 5 * 60 * 1000

def TOKEN_TTL : Nat := 15 * 60

section Requests

variable (toLowerCase : Text → Text)

def normalName (name : Option Text) : Text := toLowerCase (trim (name.getD []))

/-- The name on the account is the user's full name, or has both names in it. -/
def NameMatches (accountName : Text) (user : User) : Prop :=
  let normalizedAccountName := toLowerCase (trim accountName)
  let first := normalName toLowerCase user.firstName
  let last := normalName toLowerCase user.lastName
  normalizedAccountName = trim (first ++ ' ' :: last) ∨
    (first <:+: normalizedAccountName ∧ last <:+: normalizedAccountName)

instance (accountName : Text) (user : User) :
    Decidable (NameMatches toLowerCase accountName user) := by
  unfold NameMatches
  infer_instance

def start : Request → Store → Except String Task
  | .verifyBankAccount accountNumber bankCode, _ => .ok (.resolving accountNumber bankCode)
  | .createBankAccount userId token, S =>
    match S.users.lookup userId with
    | some user => .ok (.checkingToken userId user token)
    | none => .error "User not found"
  | .deleteBankAccount userId bankAccountId, S =>
    match S.users.lookup userId with
    | some _ => .ok (.deleting bankAccountId)
    | none => .error "User not found"

/-- The check of a token: its key is there, and its signature has not expired. -/
def checkToken (userId : UserId) (user : User) (token : TempToken) (S : Store) :
    Except String Task :=
  if S.bankVerify.get S.now token = none then .error "Verification token expired or invalid"
  else if S.now / 1000 < token.iat + TOKEN_TTL then .ok (.namingBank userId user token)
  else .ok (.deletingKey token (some "Invalid or expired bank verification token"))

def checkName (userId : UserId) (user : User) (token : TempToken) (list : List PaystackBank) :
    Except String Task :=
  match list.find? (·.code = token.bankCode) with
  | none => .error "Invalid bank code"
  | some bank =>
    if NameMatches toLowerCase token.accountName user then .ok (.lookingUp userId token bank.name)
    else .ok (.deletingKey token (some ("Bank account name verification failed. Please ensure " ++
      "the bank account belongs to you.")))

def newAccount (userId : UserId) (token : TempToken) (bankName : Text) : UserBankAccount :=
  ⟨userId, bankName, token.accountName, token.accountNumber, token.bankCode⟩

/-- A request goes on until its next call. An answer to another call is not for it. -/
def resume : Task → Outcome → Store → Except String (Store × Option Task)
  | .resolving accountNumber bankCode, .resolved accountName, S =>
    match accountName with
    | some (c :: name) =>
      return (S, some (.storing ⟨accountNumber, bankCode, c :: name, S.now / 1000⟩))
    | _ => .error "Unable to verify bank account"
  | .storing token, .done, S =>
    return ({ S with bankVerify := S.bankVerify.set S.now KEY_TTL token () }, none)
  | .checkingToken userId user token, .done, S => do
    let next ← checkToken userId user token S
    return (S, some next)
  | .namingBank userId user token, .banks list, S => do
    let next ← checkName toLowerCase userId user token list
    return (S, some next)
  | .lookingUp userId token bankName, .done, S =>
    if ∃ e ∈ S.userBankAccounts.entries, e.2.userId = userId ∧
        e.2.bankAccountNumber = token.accountNumber then
      return (S, some (.deletingKey token (some "This bank account is already added")))
    else return (S, some (.creating userId token bankName))
  | .creating userId token bankName, .created id, S =>
    if S.userBankAccounts.lookup id = none then
      return ({ S with
        userBankAccounts := S.userBankAccounts.insert id (newAccount userId token bankName) },
        some (.deletingKey token none))
    else .error "P2002"
  | .deletingKey token _, .done, S =>
    return ({ S with bankVerify := S.bankVerify.del token }, none)
  | .deleting id, .done, S =>
    if S.userBankAccounts.lookup id = none then .error "P2025"
    else return ({ S with userBankAccounts := S.userBankAccounts.erase id }, none)
  | _, .throws message, _ => .error message
  | t, _, S => return (S, some t)

/-- Time passes, or a user signs up. -/
inductive Outside where
  | pass (ms : Nat)
  | signUp (userId : UserId) (firstName lastName : Text)
  deriving DecidableEq, Repr

def outside : Outside → Store → Store
  | .pass ms, S => { S with now := S.now + ms }
  | .signUp userId firstName lastName, S =>
    if S.users.lookup userId = none then
      { S with users := S.users.insert userId ⟨some firstName, some lastName⟩ }
    else S

def accounts : Handlers Store Task Request Outcome Outside where
  start i S := (start i S).toOption
  resume t o S :=
    match resume toLowerCase t o S with
    | .ok r => r
    | .error _ => (S, none)
  outside := outside

end Requests

abbrev System := Concurrent.System Store Task

abbrev Event := Concurrent.Event Request Outcome Outside

def accountStep (toLowerCase : Text → Text) (e : Event) (s : System) : System :=
  (accounts toLowerCase).step e s

/-- What has happened, as the provider and the users would tell it. -/
inductive Fact where
  /-- Paystack resolved the name of the token's account, and the token was signed. -/
  | resolved (token : TempToken) (time : Nat)
  /-- The key of the token was stored. -/
  | stored (token : TempToken) (time : Nat)
  /-- The user presented the token, and it was good. -/
  | presented (userId : UserId) (token : TempToken) (time : Nat)
  deriving DecidableEq, Repr

def toldBy (S : Store) : Task → Outcome → List Fact
  | .resolving accountNumber bankCode, .resolved (some accountName) =>
    [.resolved ⟨accountNumber, bankCode, accountName, S.now / 1000⟩ S.now]
  | .storing token, .done => [.stored token S.now]
  | .checkingToken userId user token, .done =>
    if checkToken userId user token S = .ok (.namingBank userId user token) then
      [.presented userId token S.now]
    else []
  | _, _ => []

/-- What a step adds to it. -/
def told (s : System) : Event → List Fact
  | .resume n o =>
    match s.running[n]? with
    | some t => toldBy s.state t o
    | none => []
  | _ => []

def history (toLowerCase : Text → Text) (s : System) (es : List Event) : List Fact :=
  Run.observed (accountStep toLowerCase) (fun s e facts => told s e ++ facts) [] s es

/-! ### What stands behind an account -/

variable {toLowerCase : Text → Text}

/-- The user has the name on the token's account, and presented the token while its key was
there. -/
structure Entitled (toLowerCase : Text → Text) (users : Table UserId User) (facts : List Fact)
    (userId : UserId) (token : TempToken) : Prop where
  named : ∃ user, users.lookup userId = some user ∧
    NameMatches toLowerCase token.accountName user
  presented : ∃ time, .presented userId token time ∈ facts

theorem Entitled.later {users users' : Table UserId User} {facts facts' : List Fact}
    {userId : UserId} {token : TempToken} (h : Entitled toLowerCase users facts userId token)
    (husers : ∀ i user, users.lookup i = some user → users'.lookup i = some user)
    (hfacts : facts ⊆ facts') : Entitled toLowerCase users' facts' userId token := by
  obtain ⟨⟨user, huser, hname⟩, time, htime⟩ := h
  exact ⟨⟨user, husers userId user huser, hname⟩, time, hfacts htime⟩

/-- What a request under way has found out. -/
def Task.Sound (toLowerCase : Text → Text) (S : Store) (facts : List Fact) : Task → Prop
  | .storing token => ∃ time, .resolved token time ∈ facts
  | .checkingToken userId user _ => S.users.lookup userId = some user
  | .namingBank userId user token =>
    S.users.lookup userId = some user ∧ ∃ time, .presented userId token time ∈ facts
  | .lookingUp userId token _ | .creating userId token _ =>
    Entitled toLowerCase S.users facts userId token
  | _ => True

/-- What a fact rests on. -/
def Fact.Founded (now : Nat) (facts : List Fact) : Fact → Prop
  | .resolved token time => token.iat = time / 1000 ∧ time ≤ now
  | .stored token time => ∃ first, .resolved token first ∈ facts ∧ first ≤ time
  | .presented _ token time => time / 1000 < token.iat + TOKEN_TTL ∧
    ∃ since, .stored token since ∈ facts ∧ since ≤ time ∧ time < since + KEY_TTL

/-- The facts fit together, and the keys and the rows come from them. -/
structure FactsSound (toLowerCase : Text → Text) (start : Table BankAccountId UserBankAccount)
    (S : Store) (facts : List Fact) : Prop where
  founded : ∀ f ∈ facts, f.Founded S.now facts
  keys : ∀ token v expiry, S.bankVerify token = some (v, expiry) →
    ∃ since, .stored token since ∈ facts ∧ since ≤ S.now ∧ expiry = since + KEY_TTL
  rows : ∀ id a, S.userBankAccounts.lookup id = some a → start.lookup id = some a ∨
    ∃ token, Entitled toLowerCase S.users facts a.userId token ∧
      a = newAccount a.userId token a.bankName

theorem Fact.Founded.later {now now' : Nat} {facts facts' : List Fact} {f : Fact}
    (hf : f.Founded now facts) (hnow : now ≤ now') (hfacts : facts ⊆ facts') :
    f.Founded now' facts' := by
  cases f with
  | resolved token time => exact ⟨hf.1, hf.2.trans hnow⟩
  | stored token time =>
    obtain ⟨first, hfirst, hle⟩ := hf
    exact ⟨first, hfacts hfirst, hle⟩
  | presented userId token time =>
    obtain ⟨hsigned, since, hsince, hle, hlt⟩ := hf
    exact ⟨hsigned, since, hfacts hsince, hle, hlt⟩

/-- What no step takes away. -/
structure Later (S T : Store) (facts facts' : List Fact) : Prop where
  users : ∀ i user, S.users.lookup i = some user → T.users.lookup i = some user
  facts : facts ⊆ facts'

theorem Task.Sound.later {S T : Store} {facts facts' : List Fact} {t : Task}
    (ht : t.Sound toLowerCase S facts) (h : Later S T facts facts') :
    t.Sound toLowerCase T facts' := by
  cases t with
  | storing token =>
    obtain ⟨time, htime⟩ := ht
    exact ⟨time, h.facts htime⟩
  | checkingToken userId user token => exact h.users userId user ht
  | namingBank userId user token =>
    obtain ⟨huser, time, htime⟩ := ht
    exact ⟨h.users userId user huser, time, h.facts htime⟩
  | lookingUp userId token bankName => exact Entitled.later ht h.users h.facts
  | creating userId token bankName => exact Entitled.later ht h.users h.facts
  | _ => trivial

variable {before : Table BankAccountId UserBankAccount} {S T : Store} {facts facts' : List Fact}

theorem FactsSound.add (hS : FactsSound toLowerCase before S facts) {f : Fact}
    (hf : f.Founded S.now facts) : FactsSound toLowerCase before S (f :: facts) := by
  have hsub : facts ⊆ f :: facts := List.subset_cons_self f facts
  constructor
  · intro g hg
    rcases List.mem_cons.mp hg with rfl | hg
    · exact hf.later le_rfl hsub
    · exact (hS.founded g hg).later le_rfl hsub
  · intro token v expiry h
    obtain ⟨since, hsince, hrest⟩ := hS.keys token v expiry h
    exact ⟨since, hsub hsince, hrest⟩
  · intro id a ha
    rcases hS.rows id a ha with ha | ⟨token, hentitled, heq⟩
    · exact .inl ha
    · exact .inr ⟨token, hentitled.later (fun _ _ h => h) hsub, heq⟩

/-! ### What a step does -/

theorem checkToken_naming {userId : UserId} {user : User} {token : TempToken}
    (h : checkToken userId user token S = .ok (.namingBank userId user token)) :
    (∃ v expiry, S.bankVerify token = some (v, expiry) ∧ S.now < expiry) ∧
      S.now / 1000 < token.iat + TOKEN_TTL := by
  unfold checkToken at h
  split at h
  · cases h
  · rename_i hkey
    split at h
    · rename_i hsigned
      obtain ⟨v, hv⟩ := Option.ne_none_iff_exists'.mp hkey
      obtain ⟨expiry, hexpiry⟩ := TempStore.get_eq_some.mp hv
      exact ⟨⟨v, expiry, hexpiry⟩, hsigned⟩
    · cases h

theorem toldBy_sound (hS : FactsSound toLowerCase before S facts) {t : Task}
    (ht : t.Sound toLowerCase S facts) (o : Outcome) :
    FactsSound toLowerCase before S (toldBy S t o ++ facts) := by
  unfold toldBy
  split
  · exact hS.add ⟨rfl, le_rfl⟩
  · obtain ⟨time, htime⟩ := ht
    have hle := (hS.founded _ htime).2
    exact hS.add ⟨time, htime, hle⟩
  · split
    · rename_i hcheck
      obtain ⟨⟨v, expiry, hkey, hlt⟩, hsigned⟩ := checkToken_naming hcheck
      obtain ⟨since, hsince, hle, rfl⟩ := hS.keys _ v expiry hkey
      exact hS.add ⟨hsigned, since, hsince, hle, hlt⟩
    · exact hS
  · exact hS

theorem FactsSound.write (hS : FactsSound toLowerCase before S facts) (hnow : S.now = T.now)
    (husers : S.users = T.users)
    (hkeys : ∀ token v expiry, T.bankVerify token = some (v, expiry) →
      S.bankVerify token = some (v, expiry) ∨
        .stored token T.now ∈ facts ∧ expiry = T.now + KEY_TTL)
    (hrows : ∀ id a, T.userBankAccounts.lookup id = some a →
      S.userBankAccounts.lookup id = some a ∨
        ∃ token, Entitled toLowerCase T.users facts a.userId token ∧
          a = newAccount a.userId token a.bankName) :
    FactsSound toLowerCase before T facts := by
  constructor
  · exact fun f hf => (hS.founded f hf).later hnow.le (List.Subset.refl facts)
  · intro token v expiry h
    rcases hkeys token v expiry h with h | ⟨hstored, rfl⟩
    · rw [← hnow]
      exact hS.keys token v expiry h
    · exact ⟨T.now, hstored, le_rfl, rfl⟩
  · intro id a ha
    rcases hrows id a ha with ha | ha
    · rw [← husers]
      exact hS.rows id a ha
    · exact .inr ha

theorem resume_sound {t : Task} {o : Outcome} {next : Option Task}
    (h : resume toLowerCase t o S = .ok (T, next)) (hsub : toldBy S t o ⊆ facts)
    (hS : FactsSound toLowerCase before S facts) (ht : t.Sound toLowerCase S facts) :
    FactsSound toLowerCase before T facts ∧ S.users = T.users ∧
      ∀ u, next = some u → u.Sound toLowerCase T facts := by
  unfold resume at h
  split at h
  case h_1 _ accountNumber bankCode accountName =>
    split at h
    · rename_i c name
      cases h
      refine ⟨hS, rfl, ?_⟩
      rintro u ⟨⟩
      exact ⟨S.now, hsub (by simp [toldBy])⟩
    · cases h
  case h_2 _ token =>
    cases h
    refine ⟨hS.write rfl rfl ?_ fun id a ha => .inl ha, rfl, by simp⟩
    intro other v expiry hkey
    simp only [TempStore.set_apply] at hkey
    split at hkey
    · rename_i hother
      cases hkey
      subst hother
      exact .inr ⟨hsub (by simp [toldBy]), rfl⟩
    · exact .inl hkey
  case h_3 _ userId user token =>
    simp only [Block.ok_bind] at h
    obtain ⟨u, hu, h⟩ := h
    cases h
    refine ⟨hS, rfl, ?_⟩
    rintro _ ⟨⟩
    have hcheck := hu
    unfold checkToken at hu
    split at hu
    · cases hu
    · split at hu
      · cases hu
        exact ⟨ht, S.now, hsub (by simp [toldBy, hcheck])⟩
      · cases hu
        trivial
  case h_4 _ userId user token list =>
    simp only [Block.ok_bind] at h
    obtain ⟨u, hu, h⟩ := h
    cases h
    refine ⟨hS, rfl, ?_⟩
    rintro _ ⟨⟩
    unfold checkName at hu
    split at hu
    · cases hu
    · split at hu
      · rename_i hname
        cases hu
        exact ⟨⟨user, ht.1, hname⟩, ht.2⟩
      · cases hu
        trivial
  case h_5 _ userId token bankName =>
    split at h
    · cases h
      exact ⟨hS, rfl, by rintro u ⟨⟩; trivial⟩
    · cases h
      exact ⟨hS, rfl, by rintro u ⟨⟩; exact ht⟩
  case h_6 _ userId token bankName id =>
    split at h
    · cases h
      refine ⟨hS.write rfl rfl (fun _ _ _ hkey => .inl hkey) ?_, rfl, by rintro u ⟨⟩; trivial⟩
      intro i a ha
      simp only [Table.lookup_insert] at ha
      split at ha
      · cases ha
        exact .inr ⟨token, ht, rfl⟩
      · exact .inl ha
    · cases h
  case h_7 _ token message =>
    cases h
    refine ⟨hS.write rfl rfl ?_ fun id a ha => .inl ha, rfl, by simp⟩
    intro other v expiry hkey
    simp only [TempStore.del_apply] at hkey
    split at hkey
    · cases hkey
    · exact .inl hkey
  case h_8 _ id =>
    split at h
    · cases h
    · cases h
      refine ⟨hS.write rfl rfl (fun _ _ _ hkey => .inl hkey) ?_, rfl, by simp⟩
      exact fun i a ha => .inl (Table.lookup_of_erase ha)
  case h_9 => cases h
  case h_10 =>
    cases h
    exact ⟨hS, rfl, by rintro u ⟨⟩; exact ht⟩

theorem start_sound {r : Request} {t : Task} (h : start r S = .ok t) :
    t.Sound toLowerCase S facts := by
  cases r with
  | verifyBankAccount accountNumber bankCode =>
    cases h
    trivial
  | createBankAccount userId token =>
    simp only [start] at h
    split at h
    · rename_i user huser
      cases h
      exact huser
    · cases h
  | deleteBankAccount userId id =>
    simp only [start] at h
    split at h <;> cases h
    trivial

theorem outside_sound (hS : FactsSound toLowerCase before S facts) (x : Outside) :
    FactsSound toLowerCase before (outside x S) facts ∧ Later S (outside x S) facts facts := by
  cases x with
  | pass ms =>
    refine ⟨⟨?_, ?_, hS.rows⟩, fun _ _ h => h, List.Subset.refl facts⟩
    · exact fun f hf => (hS.founded f hf).later (Nat.le_add_right _ _) (List.Subset.refl facts)
    · intro token v expiry h
      obtain ⟨since, hsince, hle, heq⟩ := hS.keys token v expiry h
      exact ⟨since, hsince, hle.trans (Nat.le_add_right _ _), heq⟩
  | signUp userId firstName lastName =>
    simp only [outside]
    split
    · rename_i hnone
      have hkeep (i : UserId) (user : User) (h : S.users.lookup i = some user) :
          (S.users.insert userId ⟨some firstName, some lastName⟩).lookup i = some user :=
        Table.lookup_insert_fresh hnone h
      refine ⟨⟨hS.founded, hS.keys, ?_⟩, hkeep, List.Subset.refl facts⟩
      intro id a ha
      rcases hS.rows id a ha with ha | ⟨token, hentitled, heq⟩
      · exact .inl ha
      · exact .inr ⟨token, hentitled.later hkeep (List.Subset.refl facts), heq⟩
    · exact ⟨hS, fun _ _ h => h, List.Subset.refl facts⟩

/-- The facts told so far, and the requests under way. -/
structure SystemSound (toLowerCase : Text → Text) (before : Table BankAccountId UserBankAccount)
    (s : System) (facts : List Fact) : Prop where
  store : FactsSound toLowerCase before s.state facts
  tasks : ∀ t ∈ s.running, t.Sound toLowerCase s.state facts

theorem resume_state (toLowerCase : Text → Text) (t : Task) (o : Outcome) (S : Store) :
    (accounts toLowerCase).resume t o S = (S, none) ∨
      ∃ T next, (accounts toLowerCase).resume t o S = (T, next) ∧
        resume toLowerCase t o S = .ok (T, next) := by
  simp only [accounts]
  cases resume toLowerCase t o S with
  | ok r => exact .inr ⟨r.1, r.2, rfl, rfl⟩
  | error message => exact .inl rfl

theorem resume_keeps {t : Task} {o : Outcome} (hsub : toldBy S t o ⊆ facts)
    (hS : FactsSound toLowerCase before S facts) (ht : t.Sound toLowerCase S facts) :
    FactsSound toLowerCase before ((accounts toLowerCase).resume t o S).1 facts ∧
      Later S ((accounts toLowerCase).resume t o S).1 facts facts ∧
      ∀ u, ((accounts toLowerCase).resume t o S).2 = some u →
        u.Sound toLowerCase ((accounts toLowerCase).resume t o S).1 facts := by
  rcases resume_state toLowerCase t o S with h | ⟨T, next, h, hok⟩
  · rw [h]
    exact ⟨hS, ⟨fun _ _ h => h, List.Subset.refl facts⟩, by simp⟩
  · obtain ⟨hT, husers, hnext⟩ := resume_sound hok hsub hS ht
    rw [h]
    exact ⟨hT, ⟨fun i user huser => husers ▸ huser, List.Subset.refl facts⟩, hnext⟩

theorem start_eq_some {r : Request} {t : Task} :
    (accounts toLowerCase).start r S = some t ↔ start r S = .ok t := by
  simp only [accounts]
  cases start r S <;> simp [Except.toOption]

theorem step_sound {s : System} (e : Event) (hs : SystemSound toLowerCase before s facts) :
    SystemSound toLowerCase before (accountStep toLowerCase e s) (told s e ++ facts) := by
  cases e with
  | start r =>
    refine ⟨hs.store, Handlers.forall_running_start hs.tasks ?_⟩
    intro t ht
    exact start_sound (start_eq_some.mp ht)
  | resume n o =>
    cases hn : s.running[n]? with
    | none =>
      rw [accountStep, Handlers.step_resume_none hn]
      simpa [told, hn] using hs
    | some t =>
      have ht := hs.tasks t (List.mem_of_getElem? hn)
      have htold : told s (.resume n o) = toldBy s.state t o := by simp [told, hn]
      have hsame : Later s.state s.state facts (toldBy s.state t o ++ facts) :=
        ⟨fun _ _ h => h, List.subset_append_right (toldBy s.state t o) facts⟩
      obtain ⟨hstore, hlater, hnext⟩ := resume_keeps
        (List.subset_append_left (toldBy s.state t o) facts) (toldBy_sound hs.store ht o)
        (ht.later hsame)
      rw [accountStep, Handlers.step_resume hn, htold]
      exact ⟨hstore, Handlers.forall_next
        (fun u hu => ((hs.tasks u hu).later hsame).later hlater) hnext⟩
  | outside x =>
    have hx := outside_sound hs.store x
    exact ⟨hx.1, fun t ht => (hs.tasks t ht).later hx.2⟩

/-- However the requests interleave, an account that a run has added is of a user whose names are on
it. Paystack had resolved it, and the user presented its token within fifteen minutes of that, and
within five minutes of the moment its key was stored. -/
theorem bank_account_entitled (toLowerCase : Text → Text) (s : System)
    (hkeys : s.state.bankVerify = TempStore.empty) (hrunning : s.running = []) (es : List Event)
    (id : BankAccountId) (a : UserBankAccount)
    (h : (Run.final (accountStep toLowerCase) s es).state.userBankAccounts.lookup id = some a) :
    s.state.userBankAccounts.lookup id = some a ∨
      ∃ token user first since time, a = newAccount a.userId token a.bankName ∧
        (Run.final (accountStep toLowerCase) s es).state.users.lookup a.userId = some user ∧
        NameMatches toLowerCase token.accountName user ∧
        .resolved token first ∈ history toLowerCase s es ∧
        .stored token since ∈ history toLowerCase s es ∧
        .presented a.userId token time ∈ history toLowerCase s es ∧
        first ≤ since ∧ since ≤ time ∧ time < since + KEY_TTL ∧
        time < first + TOKEN_TTL * 1000 := by
  have hstart : SystemSound toLowerCase s.state.userBankAccounts s [] := by
    constructor
    · refine ⟨by simp, ?_, fun i b hb => .inl hb⟩
      intro token v expiry hkey
      rw [hkeys] at hkey
      cases hkey
    · simp [hrunning]
  have hfinal : SystemSound toLowerCase s.state.userBankAccounts
      (Run.final (accountStep toLowerCase) s es) (history toLowerCase s es) :=
    Run.observed_keeps (R := SystemSound toLowerCase s.state.userBankAccounts)
      (fun s e _ hs => step_sound e hs) hstart es
  rcases hfinal.store.rows id a h with ha | ⟨token, ⟨⟨user, huser, hname⟩, time, htime⟩, heq⟩
  · exact .inl ha
  · obtain ⟨hsigned, since, hsince, hle, hlt⟩ := hfinal.store.founded _ htime
    obtain ⟨first, hfirst, hfirst_le⟩ := hfinal.store.founded _ hsince
    have hiat := (hfinal.store.founded _ hfirst).1
    refine .inr ⟨token, user, first, since, time, heq, huser, hname, hfirst, hsince, htime,
      hfirst_le, hle, hlt, ?_⟩
    rw [hiat] at hsigned
    unfold TOKEN_TTL at hsigned ⊢
    omega

/-- No account yet, a second after the epoch. -/
def noAccounts : System := ⟨⟨1000, ∅, ∅, .empty⟩, []⟩

def adaToken : TempToken := ⟨"0123456789".toList, "044".toList, "OBI ADA NKEM".toList, 1⟩

/-- A user resolves an account, and adds it a minute later. -/
def adaAdds : List Event :=
  [.outside (.signUp 1 "Ada".toList "Obi".toList),
    .start (.verifyBankAccount "0123456789".toList "044".toList),
    .resume 0 (.resolved (some "OBI ADA NKEM".toList)), .resume 0 .done, .outside (.pass 60000),
    .start (.createBankAccount 1 adaToken), .resume 0 .done,
    .resume 0 (.banks [⟨"044".toList, "Access Bank".toList⟩]), .resume 0 .done,
    .resume 0 (.created 7), .resume 0 .done]

theorem ada_owns_the_account : ∃ token user,
    newAccount 1 adaToken "Access Bank".toList = newAccount 1 token "Access Bank".toList ∧
      NameMatches (·.map Char.toLower) token.accountName user := by
  rcases bank_account_entitled (·.map Char.toLower) noAccounts rfl rfl adaAdds 7
      (newAccount 1 adaToken "Access Bank".toList) (by decide +kernel) with h | h
  · cases h
  · obtain ⟨token, user, -, -, -, htoken, -, hname, -⟩ := h
    exact ⟨token, user, htoken, hname⟩

end BankAccounts

end ExchangeLedger
