import ExchangeLedger.AccountHistory

set_option autoImplicit false

/-! Who can change a PIN, and who can sign in: what must have come before in a run. -/

namespace ExchangeLedger

open Service ConvertCurrency

namespace UserAccounts

/-! ### Changing the PIN -/

/-- What entitles a request to change the PIN of an account, by what has happened before. -/
inductive Entitled (env : Env) (now : Nat) (as : List Event) (userId : UserId) (user : User) :
    Request → Prop where
  | first {pin : Text} {salt : Nat} (unset : user.pin = none) :
      Entitled env now as userId user (.setUserPin userId pin salt)
  | knew {bs : List Event} {currentPin newPin : Text} {code : Code} {salt : Nat}
      (mailed : Mailed env now as bs (.initiatePinChange userId currentPin code) .pin_change
        user.email code) :
      Entitled env now as userId user (.confirmPinChange userId code.text newPin salt)
  | recovered {bs : List Event} {token : Nat} {newPin email : Text} {salt : Nat}
      (own : env.normalize email = user.email)
      (verified : Verified env now as bs .pin_reset user.email token) :
      Entitled env now as userId user (.resetPin token newPin email salt)

/-- A PIN changes in three ways only: there is none yet; or its owner gave the right one within ten
minutes before and knows the code that was mailed then; or a code that was mailed to the address
has been verified within five minutes before. No code and no token serves twice. -/
theorem pin_change_entitled (env : Env) (now : Nat) (as : List Event) (r : Request)
    (userId : UserId) (user new : User)
    (before : (reached env now as).users.lookup userId = some user)
    (after : (reached env now (as ++ [.request r])).users.lookup userId = some new)
    (changed : new.pin ≠ user.pin) : Entitled env now as userId user r := by
  rw [reached_concat] at after
  rcases (effect_step env (reached env now as) r).rewrites before after with rfl | h
  · exact absurd rfl changed
  · cases h with
    | setUserPin active unset => exact .first unset
    | resetPin own held =>
      obtain ⟨expiry, hkey, timely⟩ := TempStore.get_eq_some.mp held
      have hout : (reached env now as).HandsOut .pin_reset user.email _ expiry := hkey
      obtain ⟨bs, verified⟩ := verified_of_handsOut hout timely
      exact .recovered own verified
    | confirmPinChange active held =>
      obtain ⟨bs, sender, code, rfl, mailed⟩ := mailed_of_holds held
      rw [(tidy_reached now as).users userId user before] at mailed
      have ⟨cs, expiry, history, sends, timely, kept⟩ := mailed
      cases sends with
      | pinChange found address set right =>
        obtain rfl := same_account history found address before
        exact .knew mailed
    | _ => exact absurd rfl changed

section Example

def verifiedReset : List Event :=
  signedUp ++ [.request (.forgotPin mail secondCode), .pass 60000,
    .request (.verifyOtp mail secondCode.text 2), .pass 30000]

theorem forgotten_pin_reset :
    Entitled lowercase 0 verifiedReset 7 ada (.resetPin 2 "9630".toList mail 1) :=
  pin_change_entitled lowercase 0 verifiedReset (.resetPin 2 "9630".toList mail 1) 7 ada
    { ada with pin := some "9630".toList } (by decide) (by decide) (by decide)

end Example

/-! ### Signing in -/

/-- What lets a request sign in to an account, by what has happened before. -/
inductive SignedIn (env : Env) (now : Nat) (as : List Event) (userId : UserId) :
    Request → Prop where
  | withPin {email pin stored : Text} {code : Code} {user : User}
      (found : findInsensitive env (reached env now as) email = some ⟨userId, user⟩)
      (set : user.pin = some stored) (right : env.compareHash pin stored = true)
      (single : user.isTwoFactorEnabled = false) :
      SignedIn env now as userId (.validateUser email pin code)
  | withCode {bs : List Event} {email address pin stored : Text} {code : Code} {user was : User}
      (found : findInsensitive env (reached env now as) email = some ⟨userId, user⟩)
      (mailed : Mailed env now as bs (.validateUser address pin code) .login_2fa user.email code)
      (account : (reached env now bs).users.lookup userId = some was)
      (set : was.pin = some stored) (right : env.compareHash pin stored = true) :
      SignedIn env now as userId (.verifyLoginTwoFactor email code.text)
  | signUp {bs : List Event} {email dateOfBirth : Text} {registrationId : Nat}
      (verified : Verified env now as bs .signup email registrationId)
      (unused : (reached env now as).findUserByEmail email = none)
      (fresh : (reached env now as).users.lookup userId = none) :
      SignedIn env now as userId (.completeClientSignUp registrationId dateOfBirth userId)

/-- Nobody is signed in to an account without its PIN, and with two factors not without the code
that was mailed for the right PIN within five minutes before; but for the sign-up that makes the
account, with an address whose code has been verified. -/
theorem signed_in_entitled (env : Env) (now : Nat) (as : List Event) (r : Request) (userId : UserId)
    (h : (call env r).outcome (reached env now as) = .ok (.tokens userId)) :
    SignedIn env now as userId r := by
  have heffect := effect_step env (reached env now as) r
  rw [h] at heffect
  generalize step env (.request r) (reached env now as) = t at heffect
  cases heffect with
  | completeClientSignUp email registered unused fresh =>
    obtain ⟨expiry, hkey, timely⟩ := TempStore.get_eq_some.mp registered
    have hout : (reached env now as).HandsOut .signup email _ expiry := hkey
    obtain ⟨bs, verified⟩ := verified_of_handsOut hout timely
    exact .signUp verified unused fresh
  | login row stored found set live right single => exact .withPin found set right single
  | verifyLoginTwoFactor row found two held =>
    obtain ⟨bs, address, pin, code, was, stored, rfl, mailed, account, live, set, right⟩ :=
      login_code_mailed (found_insensitive found) held
    exact .withCode found mailed account set right

section Example

def enrolled : List Event :=
  signedUp ++ [.request (.initiateTwoFactor 7 "1407".toList firstCode),
    .request (.verifyTwoFactor 7 firstCode.text), .pass 3600000]

theorem two_factor_login :
    SignedIn lowercase 0
      (enrolled ++ [.request (.validateUser mail "1407".toList secondCode), .pass 299999]) 7
      (.verifyLoginTwoFactor mail secondCode.text) :=
  signed_in_entitled lowercase 0 _ (.verifyLoginTwoFactor mail secondCode.text) 7 (by decide)

end Example

/-! ### Signing up -/

/-- Every account was signed up with an address whose code had been verified within the day. -/
theorem address_verified (env : Env) (now : Nat) (as : List Event) (userId : UserId) (user : User)
    (found : (reached env now as).users.lookup userId = some user) :
    ∃ bs cs ds registrationId dateOfBirth,
      as = bs ++ .request (.completeClientSignUp registrationId dateOfBirth userId) :: cs ∧
        Verified env now bs ds .signup user.email registrationId := by
  obtain ⟨bs, a, cs, history, hnew, kept⟩ :=
    Run.origin (P := fun s : State => s.Owns userId user.email)
      (by simp [State.Owns, State.initial]) ⟨user, found, rfl⟩
  rw [← reached] at hnew kept
  obtain ⟨new, hnewrow, hemail⟩ := kept.head
  cases a with
  | request r =>
    rcases (effect_step env (reached env now bs) r).known hnewrow with
      ⟨old, hold, hsame⟩ | ⟨registrationId, dateOfBirth, rfl, registered, unused⟩
    · exact absurd ⟨old, hold, hsame.symm.trans hemail⟩ hnew
    · rw [hemail] at registered
      obtain ⟨expiry, hkey, timely⟩ := TempStore.get_eq_some.mp registered
      have hout : (reached env now bs).HandsOut .signup user.email registrationId expiry := hkey
      obtain ⟨ds, verified⟩ := verified_of_handsOut hout timely
      exact ⟨bs, cs, ds, registrationId, dateOfBirth, history, verified⟩
  | pass ms => exact absurd ⟨new, hnewrow, hemail⟩ hnew

theorem ada_address_verified : ∃ bs cs ds registrationId dateOfBirth,
    signedUp = bs ++ .request (.completeClientSignUp registrationId dateOfBirth 7) :: cs ∧
      Verified lowercase 0 bs ds .signup ada.email registrationId :=
  address_verified lowercase 0 signedUp 7 ada (by decide)

end UserAccounts

end ExchangeLedger
