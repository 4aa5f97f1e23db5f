import ExchangeLedger.UserAccounts

set_option autoImplicit false

/-! What each request can do to the accounts, their codes and their counters. -/

namespace ExchangeLedger

open Service ConvertCurrency

namespace UserAccounts

variable {env : Env} {s t : State}

/-- The text is the code that the mailbox holds for the purpose. -/
def State.Holds (env : Env) (s : State) (otp email : Text) (purpose : OtpPurpose) : Prop :=
  ∃ code, s.otps.get s.now (purpose, env.mailbox email) = some code ∧ code.text = otp

section Parts

variable {otp email : Text} {purpose : OtpPurpose}

@[simp] theorem checkOtp_true :
    (checkOtp env otp email purpose).Ends s (.ok true) t ↔
      s.Holds env otp email purpose ∧ s.consume env email purpose = t := by
  simp [checkOtp, State.Holds, ← and_assoc, exists_and_right]

theorem checkOtp_false (h : (checkOtp env otp email purpose).Ends s (.ok false) t) : s = t := by
  simp [checkOtp] at h
  grind

theorem checkOtp_error {e : String}
    (h : (checkOtp env otp email purpose).Ends s (.error e) t) : s = t := by
  simp [checkOtp] at h
  exact h.2.2

/-- The account that a signed-in request is made for. -/
def State.Active (s : State) (userId : UserId) (user : User) : Prop :=
  s.users.lookup userId = some user ∧ user.status ≠ .FLAGGED

theorem active_of_found {userId : UserId} {user : User} (h : ∃ user, s.Active userId user)
    (found : s.users.lookup userId = some user) : s.Active userId user := by
  obtain ⟨other, hother, hstatus⟩ := h
  rw [found, Option.some.injEq] at hother
  rw [hother]
  exact ⟨found.trans (congrArg some hother), hstatus⟩

@[simp] theorem authGuard_ok {userId : UserId} {u : Unit} :
    (authGuard userId).Ends s (.ok u) t ↔ (∃ user, s.Active userId user) ∧ s = t := by
  simp [authGuard, State.Active]
  grind

theorem authGuard_error {userId : UserId} {e : String}
    (h : (authGuard userId).Ends s (.error e) t) : s = t := by
  simp [authGuard] at h
  grind

@[simp] theorem getUserById_ok {userId : UserId} {user : User} :
    (getUserById userId).Ends s (.ok user) t ↔ s.users.lookup userId = some user ∧ s = t := by
  simp [getUserById]

theorem getUserById_error {userId : UserId} {e : String}
    (h : (getUserById userId).Ends s (.error e) t) : s = t := by
  simp [getUserById] at h
  exact h.2.2

@[simp] theorem issueOtp_ok {ttl : Nat} {code : Code} {u : Unit} :
    (issueOtp env email ttl code purpose).Ends s (.ok u) t ↔
      s.issue env email ttl code purpose = t := by
  simp [issueOtp]

@[simp] theorem issueOtp_error {ttl : Nat} {code : Code} {e : String} :
    ¬ (issueOtp env email ttl code purpose).Ends s (.error e) t := by
  simp [issueOtp]

end Parts

/-- The state after another failed login. -/
def State.failLogin (s : State) (row : Sigma fun _ : UserId => User) : State :=
  let attempts := (s.loginAttempts.get s.now row.1).getD 0 + 1
  let counted := { s with
    loginAttempts := s.loginAttempts.set s.now (seconds LOGIN_ATTEMPT_TTL_SECONDS) row.1 attempts }
  if LOGIN_ATTEMPT_LIMIT ≤ attempts then
    counted.put row.1 { row.2 with status := .FLAGGED, flaggedReason := some flaggedForLogins }
  else counted

/-- The state after another wrong current PIN. -/
def State.failPinChange (s : State) (userId : UserId) (user : User) : State :=
  let attempts := (s.pinChangeAttempts.get s.now userId).getD 0 + 1
  let counted := { s with pinChangeAttempts :=
    s.pinChangeAttempts.set s.now (seconds ATTEMPT_TTL_SECONDS) userId attempts }
  if MAX_ATTEMPTS ≤ attempts then counted.put userId { user with status := .FLAGGED } else counted

theorem failLogin_cases (s : State) (row : Sigma fun _ : UserId => User) : ∃ attempts,
    s.failLogin row = { s with loginAttempts := attempts } ∨
      LOGIN_ATTEMPT_LIMIT ≤ (s.loginAttempts.get s.now row.1).getD 0 + 1 ∧
        s.failLogin row = ({ s with loginAttempts := attempts } : State).put row.1
          { row.2 with status := .FLAGGED, flaggedReason := some flaggedForLogins } := by
  unfold State.failLogin
  dsimp only
  split
  · rename_i many
    exact ⟨_, .inr ⟨many, rfl⟩⟩
  · exact ⟨_, .inl rfl⟩

theorem failPinChange_cases (s : State) (userId : UserId) (user : User) : ∃ attempts,
    s.failPinChange userId user = { s with pinChangeAttempts := attempts } ∨
      MAX_ATTEMPTS ≤ (s.pinChangeAttempts.get s.now userId).getD 0 + 1 ∧
        s.failPinChange userId user = ({ s with pinChangeAttempts := attempts } : State).put userId
          { user with status := .FLAGGED } := by
  unfold State.failPinChange
  dsimp only
  split
  · rename_i many
    exact ⟨_, .inr ⟨many, rfl⟩⟩
  · exact ⟨_, .inl rfl⟩

def State.clearLogin (s : State) (userId : UserId) : State :=
  { s with loginAttempts := s.loginAttempts.del userId }

/-- The state after a code for signing up has been sent again. -/
def State.resend (env : Env) (s : State) (normalizedEmail : Text) (code : Code) : State :=
  let issued := s.issue env normalizedEmail 600 code .signup
  { issued with
    resendAttempts := s.resendAttempts.set s.now (seconds 3600) normalizedEmail
      ((s.resendAttempts.get s.now normalizedEmail).getD 0 + 1)
    lastResend := s.lastResend.set s.now (seconds RESEND_COOLDOWN_SECONDS) normalizedEmail s.now }

/-- What a request can do: how it is answered, and the state it leaves. -/
inductive Effect (env : Env) (s : State) : Request → Except String Reply → State → Prop where
  | refused (r : Request) (e : String) : Effect env s r (.error e) s
  | cooling {r : Request} {email : Text} {code : Code} (secondsLeft : Nat)
      (request : (∃ userId, r = .resendOtp userId email code) ∨
        r = .resendOnboardingOtp (.ok ()) email code) :
      Effect env s r (.ok (.wait secondsLeft)) s
  | unknown {email : Text} {code : Code} :
      Effect env s (.forgotPin email code)
        (.ok (.message "If an account exists, a reset OTP will be sent")) s
  | initiateClientSignUp {email : Text} {code : Code} :
      Effect env s (.initiateClientSignUp email code) (.ok (.message "Verification code sent"))
        (s.issue env email 600 code .signup)
  | resent {r : Request} {email : Text} {code : Code}
      (request : (∃ userId, r = .resendOtp userId email code) ∨
        r = .resendOnboardingOtp (.ok ()) email code)
      (few : (s.resendAttempts.get s.now (env.normalize email)).getD 0 < RESEND_MAX_PER_HOUR)
      (cooled : ∀ lastTime, s.lastResend.get s.now (env.normalize email) = some lastTime →
        RESEND_COOLDOWN_SECONDS ≤ (s.now - lastTime) / 1000) :
      Effect env s r (.ok (.message "A new verification code has been sent to your email."))
        (s.resend env (env.normalize email) code)
  | resetCode {email otp : Text} {uuid : Nat}
      (held : s.Holds env otp (env.normalize email) .pin_reset) :
      Effect env s (.verifyOtp email otp uuid) (.ok (.pinResetToken uuid))
        { s.consume env (env.normalize email) .pin_reset with
          pinResetTokens := s.pinResetTokens.set s.now (seconds PIN_RESET_TOKEN_TTL_SECONDS)
            (env.normalize (env.normalize email)) uuid }
  | signupCode {email otp : Text} {uuid : Nat}
      (held : s.Holds env otp (env.normalize email) .signup) :
      Effect env s (.verifyOtp email otp uuid) (.ok (.registration uuid))
        { s.consume env (env.normalize email) .signup with
          registrations := s.registrations.set s.now (seconds REGISTRATION_TTL) uuid
            (env.normalize email) }
  | completeClientSignUp {registrationId : Nat} {dateOfBirth : Text} {userId : UserId}
      (email : Text)
      (registered : s.registrations.get s.now registrationId = some email)
      (unused : s.findUserByEmail email = none) (fresh : s.users.lookup userId = none) :
      Effect env s (.completeClientSignUp registrationId dateOfBirth userId) (.ok (.tokens userId))
        { s.put userId ⟨email, none, .PENDING, none, false, true⟩ with
          registrations := s.registrations.del registrationId }
  | setUserPin {userId : UserId} {pin : Text} {salt : Nat} (user : User)
      (active : s.Active userId user) (unset : user.pin = none) :
      Effect env s (.setUserPin userId pin salt)
        (.ok (.message "PIN set successfully. Your account is now active!"))
        (s.put userId { user with pin := some (env.hash (trim pin) salt), status := .ACTIVE })
  | forgotPin {email : Text} {code : Code} (row : Sigma fun _ : UserId => User)
      (found : s.findUserByEmail (env.normalize email) = some row)
      (few : (s.forgotPinAttempts.get s.now (env.normalize email)).getD 0 < RESEND_MAX_PER_HOUR) :
      Effect env s (.forgotPin email code) (.ok (.message "Pin reset OTP sent"))
        { s.issue env row.2.email 600 code .pin_reset with
          forgotPinAttempts := s.forgotPinAttempts.set s.now (seconds 3600) (env.normalize email)
            ((s.forgotPinAttempts.get s.now (env.normalize email)).getD 0 + 1) }
  | resetPin {token : Nat} {newPin email : Text} {salt : Nat} (row : Sigma fun _ : UserId => User)
      (found : s.findUserByEmail (env.normalize email) = some row)
      (held : s.pinResetTokens.get s.now (env.normalize (env.normalize email)) = some token) :
      Effect env s (.resetPin token newPin email salt) (.ok (.message "PIN reset successfully"))
        { s.put row.1 { row.2 with pin := some (env.hash newPin salt) } with
          pinResetTokens := s.pinResetTokens.del (env.normalize (env.normalize email)) }
  | wrongCurrentPin {userId : UserId} {currentPin : Text} {code : Code} (user : User)
      (pin : Text) (e : String) (active : s.Active userId user) (live : user.status ≠ .DELETED)
      (set : user.pin = some pin) (wrong : env.compareHash currentPin pin = false) :
      Effect env s (.initiatePinChange userId currentPin code) (.error e)
        (s.failPinChange userId user)
  | initiatePinChange {userId : UserId} {currentPin : Text} {code : Code} (user : User) (pin : Text)
      (active : s.Active userId user) (live : user.status ≠ .DELETED) (set : user.pin = some pin)
      (right : env.compareHash currentPin pin = true) :
      Effect env s (.initiatePinChange userId currentPin code)
        (.ok (.message "OTP sent to your email"))
        { s.issue env user.email 600 code .pin_change with
          pinChangeAttempts := s.pinChangeAttempts.del userId }
  | confirmPinChange {userId : UserId} {otp newPin : Text} {salt : Nat} (user : User)
      (active : s.Active userId user) (held : s.Holds env otp user.email .pin_change) :
      Effect env s (.confirmPinChange userId otp newPin salt)
        (.ok (.message "PIN changed successfully"))
        { (s.consume env user.email .pin_change).put userId
            { user with pin := some (env.hash newPin salt) } with
          pinChangeAttempts := s.pinChangeAttempts.del userId }
  | wrongLogin {email pin : Text} {code : Code} (row : Sigma fun _ : UserId => User) (stored : Text)
      (found : findInsensitive env s email = some row) (set : row.2.pin = some stored)
      (live : row.2.status ≠ .DELETED) (wrong : env.compareHash pin stored = false) :
      Effect env s (.validateUser email pin code) (.error "Invalid credentials") (s.failLogin row)
  | login {email pin : Text} {code : Code} (row : Sigma fun _ : UserId => User) (stored : Text)
      (found : findInsensitive env s email = some row) (set : row.2.pin = some stored)
      (live : row.2.status ≠ .DELETED) (right : env.compareHash pin stored = true)
      (single : row.2.isTwoFactorEnabled = false) :
      Effect env s (.validateUser email pin code) (.ok (.tokens row.1)) (s.clearLogin row.1)
  | firstFactor {email pin : Text} {code : Code} (row : Sigma fun _ : UserId => User)
      (stored : Text) (found : findInsensitive env s email = some row)
      (set : row.2.pin = some stored) (live : row.2.status ≠ .DELETED)
      (right : env.compareHash pin stored = true) (two : row.2.isTwoFactorEnabled = true) :
      Effect env s (.validateUser email pin code) (.ok .requiresTwoFactor)
        ((s.clearLogin row.1).issue env row.2.email 300 code .login_2fa)
  | verifyLoginTwoFactor {email otp : Text} (row : Sigma fun _ : UserId => User)
      (found : findInsensitive env s email = some row) (two : row.2.isTwoFactorEnabled = true)
      (held : s.Holds env otp row.2.email .login_2fa) :
      Effect env s (.verifyLoginTwoFactor email otp) (.ok (.tokens row.1))
        (s.consume env row.2.email .login_2fa)
  | initiateTwoFactor {userId : UserId} {currentPin : Text} {code : Code} (user : User) (pin : Text)
      (active : s.Active userId user) (set : user.pin = some pin)
      (right : env.compareHash currentPin pin = true) :
      Effect env s (.initiateTwoFactor userId currentPin code)
        (.ok (.message "Verification code sent to your email. Use it to enable 2FA."))
        (s.issue env user.email 600 code .enable_2fa)
  | verifyTwoFactor {userId : UserId} {otp : Text} (user : User) (active : s.Active userId user)
      (held : s.Holds env otp user.email .enable_2fa) :
      Effect env s (.verifyTwoFactor userId otp)
        (.ok (.message "Two-Factor Authentication enabled successfully"))
        ((s.consume env user.email .enable_2fa).put userId { user with isTwoFactorEnabled := true })
  | disableTwoFactor {userId : UserId} {currentPin : Text} (user : User) (pin : Text)
      (active : s.Active userId user) (set : user.pin = some pin)
      (right : env.compareHash currentPin pin = true) :
      Effect env s (.disableTwoFactor userId currentPin)
        (.ok (.message "Two-Factor Authentication disabled successfully"))
        (s.put userId { user with isTwoFactorEnabled := false })
  | userRequestToDeleteAccount {userId : UserId} (user : User) (active : s.Active userId user) :
      Effect env s (.userRequestToDeleteAccount userId)
        (.ok (.message "Deletion request processed. Your account is now deactivated."))
        (s.put userId { user with status := .DELETED })
  | flagUser {userId : UserId} {reason : Text} (user : User)
      (found : s.users.lookup userId = some user) (live : user.status ≠ .DELETED) :
      Effect env s (.flagUser userId reason) (.ok (.message "User has been flagged"))
        (s.put userId { user with status := .FLAGGED, flaggedReason := some (trim reason) })
  | unflagUser {userId : UserId} (user : User) (found : s.users.lookup userId = some user)
      (flagged : user.status = .FLAGGED) :
      Effect env s (.unflagUser userId) (.ok (.message "User has been unflagged"))
        (s.put userId { user with status := .ACTIVE, flaggedReason := none })

section Requests

variable {out : Except String Reply}

theorem initiateClientSignUp_effect {email : Text} {code : Code}
    (h : (initiateClientSignUp env email code).Ends s out t) :
    Effect env s (.initiateClientSignUp email code) out t := by
  cases out with
  | error e =>
    simp [initiateClientSignUp] at h
    rw [← h.2.2]
    exact .refused _ e
  | ok reply =>
    simp [initiateClientSignUp] at h
    obtain ⟨-, rfl, rfl⟩ := h
    exact .initiateClientSignUp

theorem resendSignupOtp_effect {r : Request} {email : Text} {code : Code}
    (request : (∃ userId, r = .resendOtp userId email code) ∨
      r = .resendOnboardingOtp (.ok ()) email code)
    (h : (resendSignupOtp env email code).Ends s out t) : Effect env s r out t := by
  cases out with
  | error e =>
    simp [resendSignupOtp] at h
    have hsame : s = t := by grind
    rw [← hsame]
    exact .refused r e
  | ok reply =>
    simp [resendSignupOtp] at h
    obtain ⟨-, few, ⟨-, rfl, rfl⟩ | ⟨hleft, rfl, rfl⟩⟩ := h
    · exact .cooling _ request
    · refine .resent request few fun lastTime hlast => ?_
      rw [hlast] at hleft
      simp only [Option.map_some, Option.getD_some] at hleft
      omega

theorem resendOtp_effect {userId : UserId} {email : Text} {code : Code}
    (h : (resendOtp env userId email code).Ends s out t) :
    Effect env s (.resendOtp userId email code) out t := by
  rcases ends_bind.mp h with ⟨e, he, rfl⟩ | ⟨u, m, hm, h⟩
  · rw [← authGuard_error he]
    exact .refused _ e
  · obtain ⟨-, rfl⟩ := authGuard_ok.mp hm
    exact resendSignupOtp_effect (.inl ⟨userId, rfl⟩) h

theorem resendOnboardingOtp_effect {captcha : Except String Unit} {email : Text} {code : Code}
    (h : (resendOnboardingOtp env captcha email code).Ends s out t) :
    Effect env s (.resendOnboardingOtp captcha email code) out t := by
  cases captcha with
  | ok u => exact resendSignupOtp_effect (.inr rfl) h
  | error e =>
    obtain ⟨rfl, rfl⟩ := ends_fail.mp h
    exact .refused _ e

theorem verifyOtp_effect {email otp : Text} {uuid : Nat}
    (h : (verifyOtp env email otp uuid).Ends s out t) :
    Effect env s (.verifyOtp email otp uuid) out t := by
  cases out with
  | error e =>
    simp [verifyOtp] at h
    have hsame : s = t := by grind [checkOtp_error, checkOtp_false]
    rw [← hsame]
    exact .refused _ e
  | ok reply =>
    simp [verifyOtp] at h
    rcases h with ⟨-, held, rfl, rfl⟩ | ⟨-, held, rfl, rfl⟩
    · exact .signupCode held
    · exact .resetCode held

theorem completeClientSignUp_effect {registrationId : Nat} {dateOfBirth : Text} {userId : UserId}
    (h : (completeClientSignUp env registrationId dateOfBirth userId).Ends s out t) :
    Effect env s (.completeClientSignUp registrationId dateOfBirth userId) out t := by
  cases out with
  | error e =>
    simp [completeClientSignUp] at h
    have hsame : s = t := by grind
    rw [← hsame]
    exact .refused _ e
  | ok reply =>
    simp [completeClientSignUp] at h
    obtain ⟨email, registered, -, -, unused, fresh, rfl, rfl⟩ := h
    exact .completeClientSignUp email registered unused fresh

theorem setUserPin_effect {userId : UserId} {pin : Text} {salt : Nat}
    (h : (setUserPin env userId pin salt).Ends s out t) :
    Effect env s (.setUserPin userId pin salt) out t := by
  cases out with
  | error e =>
    simp [setUserPin] at h
    have hsame : s = t := by grind [authGuard_error, getUserById_error]
    rw [← hsame]
    exact .refused _ e
  | ok reply =>
    simp [setUserPin] at h
    obtain ⟨active, user, found, unset, rfl, rfl⟩ := h
    exact .setUserPin user (active_of_found active found) unset

theorem forgotPin_effect {email : Text} {code : Code}
    (h : (forgotPin env email code).Ends s out t) :
    Effect env s (.forgotPin email code) out t := by
  cases hrow : s.findUserByEmail (env.normalize email) with
  | none =>
    cases out with
    | error e =>
      simp [forgotPin, hrow] at h
      rw [← h.2.2]
      exact .refused _ e
    | ok reply =>
      simp [forgotPin, hrow] at h
      obtain ⟨-, rfl, rfl⟩ := h
      exact .unknown
  | some row =>
    cases out with
    | error e =>
      simp [forgotPin, hrow] at h
      rw [← h.2.2]
      exact .refused _ e
    | ok reply =>
      simp [forgotPin, hrow] at h
      obtain ⟨few, rfl, rfl⟩ := h
      exact .forgotPin row hrow few

theorem resetPin_effect {token : Nat} {newPin email : Text} {salt : Nat}
    (h : (resetPin env token newPin email salt).Ends s out t) :
    Effect env s (.resetPin token newPin email salt) out t := by
  cases out with
  | error e =>
    simp [resetPin] at h
    have hsame : s = t := by grind
    rw [← hsame]
    exact .refused _ e
  | ok reply =>
    simp [resetPin] at h
    obtain ⟨userId, user, found, held, rfl, rfl⟩ := h
    exact .resetPin ⟨userId, user⟩ found held

theorem initiatePinChange_effect {userId : UserId} {currentPin : Text} {code : Code}
    (h : (initiatePinChange env userId currentPin code).Ends s out t) :
    Effect env s (.initiatePinChange userId currentPin code) out t := by
  cases out with
  | error e =>
    simp [initiatePinChange] at h
    rcases h with h | ⟨active, h | ⟨user, found, ⟨-, -, rfl⟩ | ⟨pin, set, ⟨-, -, rfl⟩ |
      ⟨live, ⟨-, -, rfl⟩ | ⟨-, wrong, h⟩⟩⟩⟩⟩
    · rw [← authGuard_error h]
      exact .refused _ e
    · rw [← getUserById_error h]
      exact .refused _ e
    · exact .refused _ e
    · exact .refused _ e
    · exact .refused _ e
    · have heffect : Effect env s (.initiatePinChange userId currentPin code) (.error e)
          (s.failPinChange userId user) :=
        .wrongCurrentPin user pin e (active_of_found active found) live set wrong
      rcases h with ⟨hmany, -, rfl⟩ | ⟨hfew, -, rfl⟩
      · simpa only [State.failPinChange, if_pos hmany] using heffect
      · simpa only [State.failPinChange, if_neg (Nat.not_le.mpr hfew)] using heffect
  | ok reply =>
    simp [initiatePinChange] at h
    obtain ⟨active, user, found, pin, set, live, -, right, rfl, rfl⟩ := h
    exact .initiatePinChange user pin (active_of_found active found) live set right

theorem confirmPinChange_effect {userId : UserId} {otp newPin : Text} {salt : Nat}
    (h : (confirmPinChange env userId otp newPin salt).Ends s out t) :
    Effect env s (.confirmPinChange userId otp newPin salt) out t := by
  cases out with
  | error e =>
    simp [confirmPinChange] at h
    have hsame : s = t := by
      grind [authGuard_error, getUserById_error, checkOtp_error, checkOtp_false]
    rw [← hsame]
    exact .refused _ e
  | ok reply =>
    simp [confirmPinChange] at h
    obtain ⟨active, user, found, held, rfl, rfl⟩ := h
    exact .confirmPinChange user (active_of_found active found) held

theorem validateUser_effect {email pin : Text} {code : Code}
    (h : (validateUser env email pin code).Ends s out t) :
    Effect env s (.validateUser email pin code) out t := by
  cases out with
  | error e =>
    simp [validateUser] at h
    rcases h with ⟨-, -, rfl⟩ | ⟨userId, user, found, ⟨-, -, rfl⟩ | ⟨stored, set, ⟨-, -, rfl⟩ |
      ⟨live, wrong, h⟩⟩⟩
    · exact .refused _ e
    · exact .refused _ e
    · exact .refused _ e
    · have heffect : Effect env s (.validateUser email pin code) (.error "Invalid credentials")
          (s.failLogin ⟨userId, user⟩) := .wrongLogin ⟨userId, user⟩ stored found set live wrong
      rcases h with ⟨hmany, rfl, rfl⟩ | ⟨hfew, rfl, rfl⟩
      · simpa only [State.failLogin, if_pos hmany] using heffect
      · simpa only [State.failLogin, if_neg (Nat.not_le.mpr hfew)] using heffect
  | ok reply =>
    simp [validateUser] at h
    obtain ⟨userId, user, found, stored, set, live, right, ⟨two, rfl, rfl⟩ | ⟨single, rfl, rfl⟩⟩ :=
        h
    · exact .firstFactor ⟨userId, user⟩ stored found set live right two
    · exact .login ⟨userId, user⟩ stored found set live right single

theorem verifyLoginTwoFactor_effect {email otp : Text}
    (h : (verifyLoginTwoFactor env email otp).Ends s out t) :
    Effect env s (.verifyLoginTwoFactor email otp) out t := by
  cases out with
  | error e =>
    simp [verifyLoginTwoFactor] at h
    have hsame : s = t := by grind [checkOtp_error, checkOtp_false]
    rw [← hsame]
    exact .refused _ e
  | ok reply =>
    simp [verifyLoginTwoFactor] at h
    obtain ⟨userId, user, found, two, ⟨held, rfl⟩, rfl⟩ := h
    exact .verifyLoginTwoFactor ⟨userId, user⟩ found two held

theorem initiateTwoFactor_effect {userId : UserId} {currentPin : Text} {code : Code}
    (h : (initiateTwoFactor env userId currentPin code).Ends s out t) :
    Effect env s (.initiateTwoFactor userId currentPin code) out t := by
  cases out with
  | error e =>
    simp [initiateTwoFactor] at h
    have hsame : s = t := by grind [authGuard_error, getUserById_error]
    rw [← hsame]
    exact .refused _ e
  | ok reply =>
    simp [initiateTwoFactor] at h
    obtain ⟨active, user, found, -, pin, set, right, rfl, rfl⟩ := h
    exact .initiateTwoFactor user pin (active_of_found active found) set right

theorem verifyTwoFactor_effect {userId : UserId} {otp : Text}
    (h : (verifyTwoFactor env userId otp).Ends s out t) :
    Effect env s (.verifyTwoFactor userId otp) out t := by
  cases out with
  | error e =>
    simp [verifyTwoFactor] at h
    have hsame : s = t := by
      grind [authGuard_error, getUserById_error, checkOtp_error, checkOtp_false]
    rw [← hsame]
    exact .refused _ e
  | ok reply =>
    simp [verifyTwoFactor] at h
    obtain ⟨active, user, found, -, held, rfl, rfl⟩ := h
    exact .verifyTwoFactor user (active_of_found active found) held

theorem disableTwoFactor_effect {userId : UserId} {currentPin : Text}
    (h : (disableTwoFactor env userId currentPin).Ends s out t) :
    Effect env s (.disableTwoFactor userId currentPin) out t := by
  cases out with
  | error e =>
    simp [disableTwoFactor] at h
    have hsame : s = t := by grind [authGuard_error, getUserById_error]
    rw [← hsame]
    exact .refused _ e
  | ok reply =>
    simp [disableTwoFactor] at h
    obtain ⟨active, user, found, -, pin, set, right, rfl, rfl⟩ := h
    exact .disableTwoFactor user pin (active_of_found active found) set right

theorem userRequestToDeleteAccount_effect {userId : UserId}
    (h : (userRequestToDeleteAccount userId).Ends s out t) :
    Effect env s (.userRequestToDeleteAccount userId) out t := by
  cases out with
  | error e =>
    simp [userRequestToDeleteAccount] at h
    have hsame : s = t := by grind [authGuard_error, getUserById_error]
    rw [← hsame]
    exact .refused _ e
  | ok reply =>
    simp [userRequestToDeleteAccount] at h
    obtain ⟨active, user, found, rfl, rfl⟩ := h
    exact .userRequestToDeleteAccount user (active_of_found active found)

theorem flagUser_effect {userId : UserId} {reason : Text}
    (h : (flagUser userId reason).Ends s out t) :
    Effect env s (.flagUser userId reason) out t := by
  cases out with
  | error e =>
    simp [flagUser] at h
    have hsame : s = t := by grind [getUserById_error]
    rw [← hsame]
    exact .refused _ e
  | ok reply =>
    simp [flagUser] at h
    obtain ⟨user, found, live, -, rfl, rfl⟩ := h
    exact .flagUser user found live

theorem unflagUser_effect {userId : UserId} (h : (unflagUser userId).Ends s out t) :
    Effect env s (.unflagUser userId) out t := by
  cases out with
  | error e =>
    simp [unflagUser] at h
    have hsame : s = t := by grind [getUserById_error]
    rw [← hsame]
    exact .refused _ e
  | ok reply =>
    simp [unflagUser] at h
    obtain ⟨user, found, flagged, rfl, rfl⟩ := h
    exact .unflagUser user found flagged

theorem call_effect {r : Request} (h : (call env r).Ends s out t) : Effect env s r out t := by
  cases r with
  | initiateClientSignUp email code => exact initiateClientSignUp_effect h
  | resendOnboardingOtp captcha email code => exact resendOnboardingOtp_effect h
  | resendOtp userId email code => exact resendOtp_effect h
  | verifyOtp email otp uuid => exact verifyOtp_effect h
  | completeClientSignUp registrationId userId => exact completeClientSignUp_effect h
  | setUserPin userId pin salt => exact setUserPin_effect h
  | forgotPin email code => exact forgotPin_effect h
  | resetPin token newPin email salt => exact resetPin_effect h
  | initiatePinChange userId currentPin code => exact initiatePinChange_effect h
  | confirmPinChange userId otp newPin salt => exact confirmPinChange_effect h
  | validateUser email pin code => exact validateUser_effect h
  | verifyLoginTwoFactor email otp => exact verifyLoginTwoFactor_effect h
  | initiateTwoFactor userId currentPin code => exact initiateTwoFactor_effect h
  | verifyTwoFactor userId otp => exact verifyTwoFactor_effect h
  | disableTwoFactor userId currentPin => exact disableTwoFactor_effect h
  | userRequestToDeleteAccount userId => exact userRequestToDeleteAccount_effect h
  | flagUser userId reason => exact flagUser_effect h
  | unflagUser userId => exact unflagUser_effect h

end Requests

end UserAccounts

end ExchangeLedger
