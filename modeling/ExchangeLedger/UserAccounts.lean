import ExchangeLedger.Money
import ExchangeLedger.Service
import ExchangeLedger.Table
import ExchangeLedger.TempStore

set_option autoImplicit false

/-! The accounts of users: their PIN and status, the codes that are mailed to them, and the counters
of what they get wrong. -/

namespace ExchangeLedger

open Service ConvertCurrency

namespace UserAccounts

abbrev UserId := Nat

inductive Status where
  | ACTIVE | FLAGGED | PENDING | DELETED
  deriving DecidableEq, Repr

inductive OtpPurpose where
  | signup | pin_reset | pin_change | enable_2fa | login_2fa | generic
  deriving DecidableEq, Repr

/-- The PIN is stored hashed. -/
structure User where
  email : Text
  pin : Option Text
  status : Status
  flaggedReason : Option Text
  isTwoFactorEnabled : Bool
  isEmailVerified : Bool
  deriving DecidableEq, Repr

/-- What `generateOtp` can draw. -/
structure Code where
  value : Nat
  range : 100000 ≤ value ∧ value < 1000000
  deriving DecidableEq, Repr

/-- As the user reads it. -/
def Code.text (code : Code) : Text := Nat.toDigits 10 code.value

/-- The language's lower case and reading of dates, and bcrypt, which draws a salt for each hash. -/
structure Env where
  toLowerCase : Text → Text
  toLowerCase_idem : ∀ text, toLowerCase (toLowerCase text) = toLowerCase text
  trim_toLowerCase : ∀ text, trim (toLowerCase text) = toLowerCase (trim text)
  isDate : Text → Bool
  hash : Text → Nat → Text
  compareHash : Text → Text → Bool

/-- Times are in milliseconds. -/
structure State where
  now : Nat
  users : Table UserId User
  otps : TempStore (OtpPurpose × Text) Code
  registrations : TempStore Nat Text
  pinResetTokens : TempStore Text Nat
  pinChangeAttempts : TempStore UserId Nat
  loginAttempts : TempStore UserId Nat
  resendAttempts : TempStore Text Nat
  lastResend : TempStore Text Nat
  forgotPinAttempts : TempStore Text Nat

/-- What a call answers with. -/
inductive Reply where
  | message (text : String)
  | wait (seconds : Nat)
  | registration (id : Nat)
  | pinResetToken (token : Nat)
  | tokens (userId : UserId)
  | requiresTwoFactor
  deriving DecidableEq, Repr

abbrev Call := Service State String Reply

def seconds (n : Nat) : Nat := n * 1000

def REGISTRATION_TTL : Nat := 24 * 60 * 60
def PIN_RESET_TOKEN_TTL_SECONDS : Nat := 5 * 60
def MAX_ATTEMPTS : Nat := 4
def ATTEMPT_TTL_SECONDS : Nat := 30 * 60
def LOGIN_ATTEMPT_LIMIT : Nat := 5
def LOGIN_ATTEMPT_TTL_SECONDS : Nat := 5 * 60
def RESEND_COOLDOWN_SECONDS : Nat := 60
def RESEND_MAX_PER_HOUR : Nat := 5

/-- Nobody has signed up yet. -/
def State.initial (now : Nat) : State :=
  ⟨now, ∅, .empty, .empty, .empty, .empty, .empty, .empty, .empty, .empty⟩

def State.put (s : State) (userId : UserId) (user : User) : State :=
  { s with users := s.users.insert userId user }

section

variable (env : Env)

/-- `email.trim().toLowerCase()`. -/
def Env.normalize (email : Text) : Text := env.toLowerCase (trim email)

/-- The part of an OTP's key that stands for the mailbox. -/
def Env.mailbox (email : Text) : Text := trim (env.toLowerCase email)

/-- `findUnique({ where: { email } })`. -/
def State.findUserByEmail (s : State) (email : Text) : Option (Sigma fun _ : UserId => User) :=
  s.users.entries.find? (·.2.email = email)

/-- `findFirst` with `mode: 'insensitive'`, of the trimmed address. -/
def findInsensitive (s : State) (email : Text) : Option (Sigma fun _ : UserId => User) :=
  s.users.entries.find? fun e => env.toLowerCase e.2.email = env.toLowerCase (trim email)

/-! ### One-time codes -/

def State.issue (s : State) (email : Text) (expirationTime : Nat) (code : Code)
    (purpose : OtpPurpose) : State :=
  { s with otps := s.otps.set s.now (seconds expirationTime) (purpose, env.mailbox email) code }

def State.consume (s : State) (email : Text) (purpose : OtpPurpose) : State :=
  { s with otps := s.otps.del (purpose, env.mailbox email) }

/-- A code that was there is replaced. -/
def issueOtp (email : Text) (expirationTime : Nat) (code : Code) (purpose : OtpPurpose) :
    Service State String Unit :=
  update fun s => s.issue env email expirationTime code purpose

/-- Whether the code is the stored one, which is deleted then. -/
def checkOtp (otp email : Text) (purpose : OtpPurpose) : Service State String Bool := do
  let storedOtp ← demand (← read fun s => s.otps.get s.now (purpose, env.mailbox email))
    "OTP not found"
  if storedOtp.text ≠ otp then return false
  update fun s => s.consume env email purpose
  return true

/-- `AuthGuard`, of a request with the access token of `userId`. -/
def authGuard (userId : UserId) : Service State String Unit := do
  let dbUser ← demand (← read fun s => s.users.lookup userId) "Kindly login"
  require (dbUser.status ≠ .FLAGGED) "Something went wrong. Contact support."

def getUserById (userId : UserId) : Service State String User := do
  demand (← read fun s => s.users.lookup userId) "User not found"

/-! ### Signing up -/

def initiateClientSignUp (email : Text) (code : Code) : Call := do
  require ((← read fun s => s.findUserByEmail email) = none)
    "Account already exists for this email."
  issueOtp env email 600 code .signup
  return .message "Verification code sent"

/-- What `resendOnboardingOtp` and `resendOtp` have in common. -/
def resendSignupOtp (email : Text) (code : Code) : Call := do
  let normalizedEmail := env.normalize email
  let verified ← read fun s => (s.findUserByEmail normalizedEmail).any (·.2.isEmailVerified)
  require (verified = false) "This email is already verified. Please log in."
  let attempts := (← read fun s => s.resendAttempts.get s.now normalizedEmail).getD 0
  require (attempts < RESEND_MAX_PER_HOUR)
    "Too many resend requests. Please try again in 1 hour or contact support."
  let lastResend ← read fun s => s.lastResend.get s.now normalizedEmail
  let now ← read fun s => s.now
  let secondsLeft := (lastResend.map fun lastTime =>
    RESEND_COOLDOWN_SECONDS - (now - lastTime) / 1000).getD 0
  if 0 < secondsLeft then return .wait secondsLeft
  issueOtp env normalizedEmail 600 code .signup
  update fun s => { s with
    resendAttempts := s.resendAttempts.set s.now (seconds 3600) normalizedEmail (attempts + 1)
    lastResend := s.lastResend.set s.now (seconds RESEND_COOLDOWN_SECONDS) normalizedEmail s.now }
  return .message "A new verification code has been sent to your email."

/-- The captcha is checked first. -/
def resendOnboardingOtp (captcha : Except String Unit) (email : Text) (code : Code) : Call :=
  match captcha with
  | .ok () => resendSignupOtp env email code
  | .error e => fail e

def resendOtp (userId : UserId) (email : Text) (code : Code) : Call := do
  authGuard userId
  resendSignupOtp env email code

/-- A code for a PIN's reset goes before a code for signing up. -/
def verifyOtp (email otp : Text) (uuid : Nat) : Call := do
  let normalizedEmail := env.normalize email
  let pinResetOtp ← read fun s => s.otps.get s.now (.pin_reset, normalizedEmail)
  if pinResetOtp ≠ none then
    let isPinResetValid ← checkOtp env otp normalizedEmail .pin_reset
    require (isPinResetValid = true) "Invalid or expired OTP"
    update fun s => { s with
      pinResetTokens := s.pinResetTokens.set s.now (seconds PIN_RESET_TOKEN_TTL_SECONDS)
        (env.normalize normalizedEmail) uuid }
    return .pinResetToken uuid
  let isValid ← checkOtp env otp normalizedEmail .signup
  require (isValid = true) "Invalid or expired OTP"
  update fun s => { s with
    registrations := s.registrations.set s.now (seconds REGISTRATION_TTL) uuid normalizedEmail }
  return .registration uuid

/-- `/^\d{4}-\d{2}-\d{2}$/`. -/
def isDayFormat (text : Text) : Bool :=
  text.length = 10 && text.zipIdx.all fun e => if e.2 = 4 ∨ e.2 = 7 then e.1 = '-' else e.1.isDigit

def startOfDay (date : Text) : Text := date ++ "T00:00:00.000Z".toList

def completeClientSignUp (registrationId : Nat) (dateOfBirth : Text) (userId : UserId) : Call := do
  let email ← demand (← read fun s => s.registrations.get s.now registrationId)
    "Registration session expired or invalid. Please restart signup."
  require (isDayFormat (trim dateOfBirth) = true) "Date of birth must be YYYY-MM-DD"
  require (env.isDate (startOfDay (trim dateOfBirth)) = true) "Invalid date"
  require ((← read fun s => s.findUserByEmail email) = none) "Account already exists"
  require ((← read fun s => s.users.lookup userId) = none) "Unique constraint failed"
  update fun s => { s.put userId {
    email := email
    pin := none
    status := .PENDING
    flaggedReason := none
    isTwoFactorEnabled := false
    isEmailVerified := true } with registrations := s.registrations.del registrationId }
  return .tokens userId

/-! ### The PIN -/

def setUserPin (userId : UserId) (pin : Text) (salt : Nat) : Call := do
  authGuard userId
  let user ← getUserById userId
  require (user.pin = none) "PIN already set"
  update fun s => s.put userId { user with
    pin := some (env.hash (trim pin) salt), status := .ACTIVE }
  return .message "PIN set successfully. Your account is now active!"

def forgotPin (email : Text) (code : Code) : Call := do
  let normalizedEmail := env.normalize email
  let attempts := (← read fun s => s.forgotPinAttempts.get s.now normalizedEmail).getD 0
  require (attempts < RESEND_MAX_PER_HOUR)
    "Too many requests. Please try again in 1 hour or contact support."
  match ← read fun s => s.findUserByEmail normalizedEmail with
  | none => return .message "If an account exists, a reset OTP will be sent"
  | some user =>
    issueOtp env user.2.email 600 code .pin_reset
    update fun s => { s with forgotPinAttempts :=
      s.forgotPinAttempts.set s.now (seconds 3600) normalizedEmail (attempts + 1) }
    return .message "Pin reset OTP sent"

def resetPin (pinResetToken : Nat) (newPin email : Text) (salt : Nat) : Call := do
  let normalizedEmail := env.normalize email
  let user ← demand (← read fun s => s.findUserByEmail normalizedEmail) "User not found"
  let storedToken ← read fun s => s.pinResetTokens.get s.now (env.normalize normalizedEmail)
  require (storedToken = some pinResetToken) "Invalid or expired PIN reset token"
  update fun s => { s.put user.1 { user.2 with pin := some (env.hash newPin salt) } with
    pinResetTokens := s.pinResetTokens.del (env.normalize normalizedEmail) }
  return .message "PIN reset successfully"

def initiatePinChange (userId : UserId) (currentPin : Text) (code : Code) : Call := do
  authGuard userId
  let user ← getUserById userId
  let pin ← demand user.pin "No PIN set"
  require (user.status ≠ .DELETED) "This account has been deleted"
  require (user.status ≠ .FLAGGED) "This account is flagged. Contact support."
  if env.compareHash currentPin pin = false then
    let attempts := (← read fun s => s.pinChangeAttempts.get s.now userId).getD 0 + 1
    update fun s => { s with pinChangeAttempts :=
      s.pinChangeAttempts.set s.now (seconds ATTEMPT_TTL_SECONDS) userId attempts }
    if MAX_ATTEMPTS ≤ attempts then
      update fun s => s.put userId { user with status := .FLAGGED }
      fail "Too many attempts. Account locked for 30 minutes."
    else fail (toString (MAX_ATTEMPTS - attempts) ++ " attempts remaining")
  else
    issueOtp env user.email 600 code .pin_change
    update fun s => { s with pinChangeAttempts := s.pinChangeAttempts.del userId }
    return .message "OTP sent to your email"

def confirmPinChange (userId : UserId) (otp newPin : Text) (salt : Nat) : Call := do
  authGuard userId
  let user ← getUserById userId
  let isValid ← checkOtp env otp user.email .pin_change
  require (isValid = true) "Invalid OTP"
  update fun s => { s.put userId { user with pin := some (env.hash newPin salt) } with
    pinChangeAttempts := s.pinChangeAttempts.del userId }
  return .message "PIN changed successfully"

/-! ### Logging in -/

def flaggedForLogins : Text := "Account locked due to multiple failed login attempts".toList

/-- Signing in with the PIN: `validateUser`. -/
def validateUser (email pin : Text) (code : Code) : Call := do
  let row ← demand (← read fun s => findInsensitive env s email) "Incorrect credentials"
  let stored ← demand row.2.pin "Set PIN first"
  require (row.2.status ≠ .DELETED) "This account does not exist."
  if env.compareHash pin stored = false then
    let attempts := (← read fun s => s.loginAttempts.get s.now row.1).getD 0 + 1
    update fun s => { s with
      loginAttempts := s.loginAttempts.set s.now (seconds LOGIN_ATTEMPT_TTL_SECONDS)
        row.1 attempts }
    if LOGIN_ATTEMPT_LIMIT ≤ attempts then
      update fun s => s.put row.1
        { row.2 with status := .FLAGGED, flaggedReason := some flaggedForLogins }
    fail "Invalid credentials"
  else
    update fun s => { s with loginAttempts := s.loginAttempts.del row.1 }
    if row.2.isTwoFactorEnabled = true then
      issueOtp env row.2.email 300 code .login_2fa
      return .requiresTwoFactor
    else return .tokens row.1

def verifyLoginTwoFactor (email otp : Text) : Call := do
  let row ← demand (← read fun s => findInsensitive env s email) "User not found"
  require (row.2.isTwoFactorEnabled = true) "2FA is not enabled for this user"
  let isValid ← checkOtp env otp row.2.email .login_2fa
  require (isValid = true) "Invalid or expired OTP"
  return .tokens row.1

def initiateTwoFactor (userId : UserId) (currentPin : Text) (code : Code) : Call := do
  authGuard userId
  let user ← getUserById userId
  require (user.isTwoFactorEnabled = false) "2FA is already enabled"
  let pin ← demand user.pin "Set PIN first before enabling 2FA"
  require (env.compareHash currentPin pin = true) "Invalid PIN"
  issueOtp env user.email 600 code .enable_2fa
  return .message "Verification code sent to your email. Use it to enable 2FA."

def verifyTwoFactor (userId : UserId) (otp : Text) : Call := do
  authGuard userId
  let user ← getUserById userId
  require (user.isTwoFactorEnabled = false) "2FA is already enabled"
  let isValid ← checkOtp env otp user.email .enable_2fa
  require (isValid = true) "Invalid or expired OTP"
  update fun s => s.put userId { user with isTwoFactorEnabled := true }
  return .message "Two-Factor Authentication enabled successfully"

/-- Comparing with no PIN throws. -/
def disableTwoFactor (userId : UserId) (currentPin : Text) : Call := do
  authGuard userId
  let user ← getUserById userId
  require (user.isTwoFactorEnabled = true) "2FA is not enabled"
  let pin ← demand user.pin "data and hash arguments required"
  require (env.compareHash currentPin pin = true) "Invalid PIN"
  update fun s => s.put userId { user with isTwoFactorEnabled := false }
  return .message "Two-Factor Authentication disabled successfully"

/-! ### The status -/

def userRequestToDeleteAccount (userId : UserId) : Call := do
  authGuard userId
  let user ← getUserById userId
  update fun s => s.put userId { user with status := .DELETED }
  return .message "Deletion request processed. Your account is now deactivated."

/-- By an admin. -/
def flagUser (userId : UserId) (reason : Text) : Call := do
  let user ← getUserById userId
  require (user.status ≠ .DELETED) "Cannot flag a deleted user"
  require (user.status ≠ .FLAGGED) "User is already flagged"
  update fun s => s.put userId { user with status := .FLAGGED, flaggedReason := some (trim reason) }
  return .message "User has been flagged"

/-- By an admin. -/
def unflagUser (userId : UserId) : Call := do
  let user ← getUserById userId
  require (user.status = .FLAGGED) "User is not flagged"
  update fun s => s.put userId { user with status := .ACTIVE, flaggedReason := none }
  return .message "User has been unflagged"

/-! ### Runs -/

inductive Request where
  | initiateClientSignUp (email : Text) (code : Code)
  | resendOnboardingOtp (captcha : Except String Unit) (email : Text) (code : Code)
  | resendOtp (userId : UserId) (email : Text) (code : Code)
  | verifyOtp (email otp : Text) (uuid : Nat)
  | completeClientSignUp (registrationId : Nat) (dateOfBirth : Text) (userId : UserId)
  | setUserPin (userId : UserId) (pin : Text) (salt : Nat)
  | forgotPin (email : Text) (code : Code)
  | resetPin (pinResetToken : Nat) (newPin email : Text) (salt : Nat)
  | initiatePinChange (userId : UserId) (currentPin : Text) (code : Code)
  | confirmPinChange (userId : UserId) (otp newPin : Text) (salt : Nat)
  | validateUser (email pin : Text) (code : Code)
  | verifyLoginTwoFactor (email otp : Text)
  | initiateTwoFactor (userId : UserId) (currentPin : Text) (code : Code)
  | verifyTwoFactor (userId : UserId) (otp : Text)
  | disableTwoFactor (userId : UserId) (currentPin : Text)
  | userRequestToDeleteAccount (userId : UserId)
  | flagUser (userId : UserId) (reason : Text)
  | unflagUser (userId : UserId)

def call : Request → Call
  | .initiateClientSignUp email code => initiateClientSignUp env email code
  | .resendOnboardingOtp captcha email code => resendOnboardingOtp env captcha email code
  | .resendOtp userId email code => resendOtp env userId email code
  | .verifyOtp email otp uuid => verifyOtp env email otp uuid
  | .completeClientSignUp registrationId dateOfBirth userId =>
    completeClientSignUp env registrationId dateOfBirth userId
  | .setUserPin userId pin salt => setUserPin env userId pin salt
  | .forgotPin email code => forgotPin env email code
  | .resetPin pinResetToken newPin email salt => resetPin env pinResetToken newPin email salt
  | .initiatePinChange userId currentPin code => initiatePinChange env userId currentPin code
  | .confirmPinChange userId otp newPin salt => confirmPinChange env userId otp newPin salt
  | .validateUser email pin code => validateUser env email pin code
  | .verifyLoginTwoFactor email otp => verifyLoginTwoFactor env email otp
  | .initiateTwoFactor userId currentPin code => initiateTwoFactor env userId currentPin code
  | .verifyTwoFactor userId otp => verifyTwoFactor env userId otp
  | .disableTwoFactor userId currentPin => disableTwoFactor env userId currentPin
  | .userRequestToDeleteAccount userId => userRequestToDeleteAccount userId
  | .flagUser userId reason => flagUser userId reason
  | .unflagUser userId => unflagUser userId

/-- A request, or time that passes. -/
inductive Event where
  | request (r : Request)
  | pass (ms : Nat)

/-- A request is handled to its end before the next one begins. -/
def step : Event → State → State
  | .request r, s => (call env r).after s
  | .pass ms, s => { s with now := s.now + ms }

end

end UserAccounts

end ExchangeLedger
