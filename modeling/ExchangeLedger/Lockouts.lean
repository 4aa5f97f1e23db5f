import ExchangeLedger.AccountHistory
import ExchangeLedger.Streak

set_option autoImplicit false

/-! Failed logins and wrong PINs lock an account, and codes are mailed so many times an hour: the
counters hold the streaks of a run. -/

namespace ExchangeLedger

open Service Beat

namespace UserAccounts

variable {env : Env} {s t : State} {r : Request} {out : Except String Reply}

/-! ### Logins -/

/-- A wrong PIN is a hit, the right one clears. -/
def loginBeat (env : Env) (id : UserId) (s : State) : Event → Option Beat
  | .request (.validateUser email pin _) =>
    (findInsensitive env s email).bind fun row =>
      row.2.pin.bind fun stored =>
        if row.1 = id ∧ row.2.status ≠ .DELETED then
          some (if env.compareHash pin stored = true then .clear else .hit s.now)
        else none
  | _ => none

theorem failLogin_attempts (s : State) (row : Sigma fun _ : UserId => User) :
    (s.failLogin row).loginAttempts = s.loginAttempts.set s.now (seconds LOGIN_ATTEMPT_TTL_SECONDS)
      row.1 ((s.loginAttempts.get s.now row.1).getD 0 + 1) := by
  unfold State.failLogin
  dsimp only
  split <;> rfl

theorem failLogin_ends {email pin stored : Text} (code : Code) {row : Sigma fun _ : UserId => User}
    (found : findInsensitive env s email = some row) (set : row.2.pin = some stored)
    (live : row.2.status ≠ .DELETED) (wrong : env.compareHash pin stored = false) :
    (validateUser env email pin code).Ends s (.error "Invalid credentials") (s.failLogin row) := by
  by_cases many : LOGIN_ATTEMPT_LIMIT ≤ (s.loginAttempts.get s.now row.1).getD 0 + 1
  · simp [validateUser, State.failLogin, -Sigma.exists, found, set, live, wrong, many]
  · simp [validateUser, State.failLogin, -Sigma.exists, found, set, live, wrong, many,
      Nat.lt_of_not_le many]

theorem Effect.logins (h : Effect env s r out t) :
    t.loginAttempts = s.loginAttempts ∨ ∃ email pin code, r = .validateUser email pin code := by
  cases h with
  | wrongCurrentPin user pin e active live set wrong =>
    obtain ⟨attempts, h | ⟨-, h⟩⟩ := failPinChange_cases s _ user <;> rw [h] <;> exact .inl rfl
  | wrongLogin row stored found set live wrong => exact .inr ⟨_, _, _, rfl⟩
  | login row stored found set live right single => exact .inr ⟨_, _, _, rfl⟩
  | firstFactor row stored found set live right two => exact .inr ⟨_, _, _, rfl⟩
  | _ => exact .inl rfl

theorem validateUser_acts (id : UserId) (s : State) (email pin : Text) (code : Code) :
    Acts (seconds LOGIN_ATTEMPT_TTL_SECONDS) s.loginAttempts s.now id
      ((validateUser env email pin code).after s).loginAttempts
      (loginBeat env id s (.request (.validateUser email pin code))) := by
  have hafter {o : Except String Reply} {t : State}
      (h : (validateUser env email pin code).Ends s o t) :
      (validateUser env email pin code).after s = t := (ends_iff.mp h).2
  cases hrow : findInsensitive env s email with
  | none =>
    simp only [loginBeat, hrow, Option.bind_none]
    rw [hafter (o := .error "Incorrect credentials") (t := s)
      (by simp [validateUser, -Sigma.exists, hrow])]
    rfl
  | some row =>
    cases hpin : row.2.pin with
    | none =>
      simp only [loginBeat, hrow, hpin, Option.bind_some, Option.bind_none]
      rw [hafter (o := .error "Set PIN first") (t := s)
        (by simp [validateUser, -Sigma.exists, hrow, hpin])]
      rfl
    | some stored =>
      simp only [loginBeat, hrow, hpin, Option.bind_some]
      by_cases live : row.2.status = .DELETED
      · rw [hafter (o := .error "This account does not exist.") (t := s)
          (by simp [validateUser, -Sigma.exists, hrow, hpin, live]), if_neg (by simp [live])]
        rfl
      · cases hright : env.compareHash pin stored with
        | false =>
          rw [hafter (failLogin_ends code hrow hpin live hright), failLogin_attempts]
          by_cases hid : row.1 = id
          · subst hid
            simp [live, Acts, TempStore.set_apply]
          · simp [hid, Acts, TempStore.set_apply, Ne.symm hid]
        | true =>
          have hclear : ((validateUser env email pin code).after s).loginAttempts =
              s.loginAttempts.del row.1 := by
            cases htwo : row.2.isTwoFactorEnabled with
            | false =>
              rw [hafter (o := .ok (.tokens row.1)) (t := s.clearLogin row.1)
                (by simp [validateUser, -Sigma.exists, hrow, hpin, live, hright, htwo,
                  State.clearLogin])]
              rfl
            | true =>
              rw [hafter (o := .ok .requiresTwoFactor)
                (t := (s.clearLogin row.1).issue env row.2.email 300 code .login_2fa)
                (by simp [validateUser, -Sigma.exists, hrow, hpin, live, hright, htwo,
                  State.clearLogin])]
              rfl
          rw [hclear]
          by_cases hid : row.1 = id
          · subst hid
            simp [live, Acts, TempStore.del_apply]
          · simp [hid, Acts, TempStore.del_apply, Ne.symm hid]

theorem login_acts (id : UserId) (s : State) (a : Event) :
    Acts (seconds LOGIN_ATTEMPT_TTL_SECONDS) s.loginAttempts s.now id
      (step env a s).loginAttempts (loginBeat env id s a) := by
  cases a with
  | request r =>
    rcases (effect_step env s r).logins with hsame | ⟨email, pin, code, rfl⟩
    · cases r with
      | validateUser email pin code => exact validateUser_acts id s email pin code
      | _ => exact congrFun hsame id
    · exact validateUser_acts id s email pin code
  | pass ms => rfl

/-- The wrong PINs in a row that still count against an account. -/
def failedLogins (env : Env) (now : Nat) (as : List Event) (id : UserId) : Nat :=
  streak (seconds LOGIN_ATTEMPT_TTL_SECONDS) (reached env now as).now
    (trace (step env) (loginBeat env id) (.initial now) as)

theorem loginAttempts_eq (now : Nat) (as : List Event) (id : UserId) :
    ((reached env now as).loginAttempts.get (reached env now as).now id).getD 0 =
      failedLogins env now as id :=
  counter_eq_streak (now_step env) (login_acts id) rfl as

/-- A wrong PIN flags the account exactly when it makes five in a row, each within five minutes of
the one before, and changes nothing else of any account. -/
theorem login_lockout (env : Env) (now : Nat) (as : List Event) (email pin stored : Text)
    (code : Code) (id : UserId) (user : User)
    (found : findInsensitive env (reached env now as) email = some ⟨id, user⟩)
    (set : user.pin = some stored) (live : user.status ≠ .DELETED)
    (wrong : env.compareHash pin stored = false) (j : UserId) :
    (reached env now (as ++ [.request (.validateUser email pin code)])).users.lookup j =
      if j = id ∧ LOGIN_ATTEMPT_LIMIT ≤ failedLogins env now as id + 1 then
        some { user with status := .FLAGGED, flaggedReason := some flaggedForLogins }
      else (reached env now as).users.lookup j := by
  rw [reached_concat]
  have hends := failLogin_ends code found set live wrong
  rw [show step env (.request (.validateUser email pin code)) (reached env now as) =
    (reached env now as).failLogin ⟨id, user⟩ from (ends_iff.mp hends).2]
  unfold State.failLogin
  dsimp only
  rw [loginAttempts_eq]
  split
  · rename_i many
    simp [State.put, Table.lookup_insert, many]
  · rename_i few
    simp [few]

section Example

def wrongPins : List Event :=
  [.request (.validateUser mail "1408".toList firstCode), .pass 299999,
    .request (.validateUser mail "1409".toList firstCode), .pass 299999,
    .request (.validateUser mail "1410".toList firstCode), .pass 299999,
    .request (.validateUser mail "1411".toList firstCode), .pass 299999]

theorem fifth_wrong_pin :
    (reached lowercase 0 (signedUp ++ wrongPins ++
      [.request (.validateUser mail "1412".toList firstCode)])).users.lookup 7 =
      some { ada with status := .FLAGGED, flaggedReason := some flaggedForLogins } :=
  (login_lockout lowercase 0 (signedUp ++ wrongPins) mail "1412".toList "1407".toList firstCode 7
    ada
    (by decide) (by decide) (by decide) (by decide) 7).trans (by decide)

end Example

/-! ### PIN changes -/

/-- A wrong current PIN is a hit; the right one clears, and so does a confirmed change. -/
def pinChangeBeat (env : Env) (id : UserId) (s : State) : Event → Option Beat
  | .request (.initiatePinChange userId currentPin _) =>
    (s.users.lookup id).bind fun user =>
      user.pin.bind fun pin =>
        if userId = id ∧ user.status ≠ .FLAGGED ∧ user.status ≠ .DELETED then
          some (if env.compareHash currentPin pin = true then .clear else .hit s.now)
        else none
  | .request (.confirmPinChange userId otp newPin salt) =>
    if userId = id ∧ (confirmPinChange env userId otp newPin salt).outcome s =
        .ok (.message "PIN changed successfully") then some .clear else none
  | _ => none

theorem failPinChange_attempts (s : State) (userId : UserId) (user : User) :
    (s.failPinChange userId user).pinChangeAttempts =
      s.pinChangeAttempts.set s.now (seconds ATTEMPT_TTL_SECONDS) userId
        ((s.pinChangeAttempts.get s.now userId).getD 0 + 1) := by
  unfold State.failPinChange
  dsimp only
  split <;> rfl

theorem Effect.pinChanges (h : Effect env s r out t) (id : UserId) :
    t.pinChangeAttempts id = s.pinChangeAttempts id ∨
      (∃ currentPin code, r = .initiatePinChange id currentPin code) ∨
      ∃ otp newPin salt, r = .confirmPinChange id otp newPin salt := by
  cases h with
  | @wrongCurrentPin userId currentPin code user pin e active live set wrong =>
    rw [failPinChange_attempts, TempStore.set_apply]
    split
    · rename_i hid
      subst hid
      exact .inr (.inl ⟨currentPin, code, rfl⟩)
    · exact .inl rfl
  | @initiatePinChange userId currentPin code user pin active live set right =>
    by_cases hid : id = userId
    · subst hid
      exact .inr (.inl ⟨currentPin, code, rfl⟩)
    · exact .inl (by simp [TempStore.del_apply, hid])
  | @confirmPinChange userId otp newPin salt user active held =>
    by_cases hid : id = userId
    · subst hid
      exact .inr (.inr ⟨otp, newPin, salt, rfl⟩)
    · exact .inl (by simp [TempStore.del_apply, hid])
  | wrongLogin row stored found set live wrong =>
    obtain ⟨attempts, h | ⟨-, h⟩⟩ := failLogin_cases s row <;> rw [h] <;> exact .inl rfl
  | _ => exact .inl rfl

theorem failPinChange_ends {userId : UserId} {user : User} {currentPin pin : Text} (code : Code)
    (found : s.users.lookup userId = some user) (set : user.pin = some pin)
    (active : user.status ≠ .FLAGGED) (live : user.status ≠ .DELETED)
    (wrong : env.compareHash currentPin pin = false) :
    ∃ e, (initiatePinChange env userId currentPin code).Ends s (.error e)
      (s.failPinChange userId user) := by
  have hguard : s.Active userId user := ⟨found, active⟩
  by_cases many : MAX_ATTEMPTS ≤ (s.pinChangeAttempts.get s.now userId).getD 0 + 1
  · refine ⟨"Too many attempts. Account locked for 30 minutes.", ?_⟩
    simp [initiatePinChange, State.failPinChange, found, set, live, wrong, many]
    exact .inr ⟨⟨user, hguard⟩, .inr active⟩
  · refine ⟨toString (MAX_ATTEMPTS - ((s.pinChangeAttempts.get s.now userId).getD 0 + 1)) ++
      " attempts remaining", ?_⟩
    simp [initiatePinChange, State.failPinChange, found, set, live, wrong, many]
    exact .inr ⟨⟨user, hguard⟩, .inr (.inr ⟨active, Nat.lt_of_not_le many⟩)⟩

theorem initiatePinChange_acts (id : UserId) (s : State) (currentPin : Text) (code : Code) :
    Acts (seconds ATTEMPT_TTL_SECONDS) s.pinChangeAttempts s.now id
      ((initiatePinChange env id currentPin code).after s).pinChangeAttempts
      (pinChangeBeat env id s (.request (.initiatePinChange id currentPin code))) := by
  have hafter {o : Except String Reply} {t : State}
      (h : (initiatePinChange env id currentPin code).Ends s o t) :
      (initiatePinChange env id currentPin code).after s = t := (ends_iff.mp h).2
  cases hrow : s.users.lookup id with
  | none =>
    simp only [pinChangeBeat, hrow, Option.bind_none]
    rw [hafter (o := .error "Kindly login") (t := s)
      (by simp [initiatePinChange, authGuard, hrow])]
    rfl
  | some user =>
    by_cases active : user.status = .FLAGGED
    · have hnone : pinChangeBeat env id s (.request (.initiatePinChange id currentPin code)) =
        none := by
        simp [pinChangeBeat, hrow, active]
      rw [hnone, hafter (o := .error "Something went wrong. Contact support.") (t := s)
        (by simp [initiatePinChange, authGuard, hrow, active])]
      rfl
    have hguard : s.Active id user := ⟨hrow, active⟩
    cases hpin : user.pin with
    | none =>
      simp only [pinChangeBeat, hrow, hpin, Option.bind_some, Option.bind_none]
      have hends : (initiatePinChange env id currentPin code).Ends s (.error "No PIN set") s := by
        simp [initiatePinChange, hrow, hpin]
        exact .inr ⟨user, hguard⟩
      rw [hafter hends]
      rfl
    | some pin =>
      by_cases live : user.status = .DELETED
      · have hnone : pinChangeBeat env id s (.request (.initiatePinChange id currentPin code)) =
            none := by
          simp [pinChangeBeat, hrow, live]
        have hends : (initiatePinChange env id currentPin code).Ends s
            (.error "This account has been deleted") s := by
          simp [initiatePinChange, hrow, hpin, live]
          exact .inr ⟨user, hguard⟩
        rw [hnone, hafter hends]
        rfl
      · cases hright : env.compareHash currentPin pin with
        | false =>
          obtain ⟨e, hends⟩ := failPinChange_ends code hrow hpin active live hright
          rw [hafter hends, failPinChange_attempts]
          simp [pinChangeBeat, hrow, hpin, active, live, hright, Acts, TempStore.set_apply]
        | true =>
          have hends : (initiatePinChange env id currentPin code).Ends s
              (.ok (.message "OTP sent to your email"))
              { s.issue env user.email 600 code .pin_change with
                pinChangeAttempts := s.pinChangeAttempts.del id } := by
            simp [initiatePinChange, hrow, hpin, active, live, hright]
            exact ⟨⟨user, hguard⟩, rfl⟩
          rw [hafter hends]
          simp [pinChangeBeat, hrow, hpin, active, live, hright, Acts, TempStore.del_apply]

theorem confirmPinChange_acts (id : UserId) (s : State) (otp newPin : Text) (salt : Nat) :
    Acts (seconds ATTEMPT_TTL_SECONDS) s.pinChangeAttempts s.now id
      ((confirmPinChange env id otp newPin salt).after s).pinChangeAttempts
      (pinChangeBeat env id s (.request (.confirmPinChange id otp newPin salt))) := by
  have heffect : Effect env s (.confirmPinChange id otp newPin salt)
      ((confirmPinChange env id otp newPin salt).outcome s)
      ((confirmPinChange env id otp newPin salt).after s) := effect_step env s _
  simp only [pinChangeBeat, true_and]
  generalize (confirmPinChange env id otp newPin salt).outcome s = out at heffect
  generalize (confirmPinChange env id otp newPin salt).after s = t at heffect
  cases heffect with
  | refused _ e => simp [Acts]
  | confirmPinChange user active held => simp [Acts, TempStore.del_apply]
  | resent request few cooled => simp at request
  | cooling secondsLeft request => simp at request

theorem pinChange_acts (id : UserId) (s : State) (a : Event) :
    Acts (seconds ATTEMPT_TTL_SECONDS) s.pinChangeAttempts s.now id
      (step env a s).pinChangeAttempts (pinChangeBeat env id s a) := by
  cases a with
  | request r =>
    have hsame := (effect_step env s r).pinChanges id
    cases r with
    | initiatePinChange userId currentPin code =>
      by_cases hid : userId = id
      · subst hid
        exact initiatePinChange_acts userId s currentPin code
      · have hnone : pinChangeBeat env id s (.request (.initiatePinChange userId currentPin code)) =
            none := by
          simp [pinChangeBeat, hid]
        rw [hnone]
        simpa [Acts, hid] using hsame
    | confirmPinChange userId otp newPin salt =>
      by_cases hid : userId = id
      · subst hid
        exact confirmPinChange_acts userId s otp newPin salt
      · have hnone : pinChangeBeat env id s (.request (.confirmPinChange userId otp newPin salt)) =
            none := by
          simp [pinChangeBeat, hid]
        rw [hnone]
        simpa [Acts, hid] using hsame
    | _ => simpa [Acts, pinChangeBeat] using hsame
  | pass ms => rfl

/-- The wrong current PINs in a row that still count against an account. -/
def failedPinChanges (env : Env) (now : Nat) (as : List Event) (id : UserId) : Nat :=
  streak (seconds ATTEMPT_TTL_SECONDS) (reached env now as).now
    (trace (step env) (pinChangeBeat env id) (.initial now) as)

theorem pinChangeAttempts_eq (now : Nat) (as : List Event) (id : UserId) :
    ((reached env now as).pinChangeAttempts.get (reached env now as).now id).getD 0 =
      failedPinChanges env now as id :=
  counter_eq_streak (now_step env) (pinChange_acts id) rfl as

/-- A wrong current PIN flags the account exactly when it makes four in a row, each within half an
hour of the one before, and changes nothing else of any account. -/
theorem pin_change_lockout (env : Env) (now : Nat) (as : List Event) (id : UserId) (user : User)
    (currentPin pin : Text) (code : Code)
    (found : (reached env now as).users.lookup id = some user) (set : user.pin = some pin)
    (active : user.status ≠ .FLAGGED) (live : user.status ≠ .DELETED)
    (wrong : env.compareHash currentPin pin = false) (j : UserId) :
    (reached env now (as ++ [.request (.initiatePinChange id currentPin code)])).users.lookup j =
      if j = id ∧ MAX_ATTEMPTS ≤ failedPinChanges env now as id + 1 then
        some { user with status := .FLAGGED }
      else (reached env now as).users.lookup j := by
  rw [reached_concat]
  obtain ⟨e, hends⟩ := failPinChange_ends code found set active live wrong
  rw [show step env (.request (.initiatePinChange id currentPin code)) (reached env now as) =
    (reached env now as).failPinChange id user from (ends_iff.mp hends).2]
  unfold State.failPinChange
  dsimp only
  rw [pinChangeAttempts_eq]
  split
  · rename_i many
    simp [State.put, Table.lookup_insert, many]
  · rename_i few
    simp [few]

section Example

/-- The third comes too late to count with the first two. -/
def wrongCurrentPins : List Event :=
  [.request (.initiatePinChange 7 "1408".toList firstCode),
    .request (.initiatePinChange 7 "1409".toList firstCode), .pass 1800000,
    .request (.initiatePinChange 7 "1410".toList firstCode)]

theorem late_wrong_pins :
    (reached lowercase 0 (signedUp ++ wrongCurrentPins ++
      [.request (.initiatePinChange 7 "1411".toList firstCode)])).users.lookup 7 = some ada :=
  (pin_change_lockout lowercase 0 (signedUp ++ wrongCurrentPins) 7 ada "1411".toList "1407".toList
    firstCode (by decide) (by decide) (by decide) (by decide) (by decide) 7).trans (by decide)

end Example

/-! ### Codes -/

/-- A code for signing up that was sent again to the address. -/
def resendBeat (env : Env) (address : Text) (s : State) : Event → Option Beat
  | .request (.resendOtp userId email code) =>
    if env.normalize email = address ∧ (resendOtp env userId email code).outcome s =
        .ok (.message "A new verification code has been sent to your email.") then
      some (.hit s.now)
    else none
  | .request (.resendOnboardingOtp captcha email code) =>
    if env.normalize email = address ∧ (resendOnboardingOtp env captcha email code).outcome s =
        .ok (.message "A new verification code has been sent to your email.") then
      some (.hit s.now)
    else none
  | _ => none

/-- A code for resetting the PIN that was sent to the address. -/
def forgotPinBeat (env : Env) (address : Text) (s : State) : Event → Option Beat
  | .request (.forgotPin email code) =>
    if env.normalize email = address ∧ (forgotPin env email code).outcome s =
        .ok (.message "Pin reset OTP sent") then
      some (.hit s.now)
    else none
  | _ => none

/-- What an event does to the resends of an address: nothing, or it sends one. -/
inductive Resends (env : Env) (address : Text) (s : State) (a : Event) (t : State) : Prop where
  | kept (quiet : resendBeat env address s a = none)
      (attempts : t.resendAttempts address = s.resendAttempts address)
      (last : t.lastResend address = s.lastResend address)
  | sent (hit : resendBeat env address s a = some (.hit s.now))
      (few : (s.resendAttempts.get s.now address).getD 0 < RESEND_MAX_PER_HOUR)
      (cooled : ∀ lastTime, s.lastResend.get s.now address = some lastTime →
        RESEND_COOLDOWN_SECONDS ≤ (s.now - lastTime) / 1000)
      (attempts : t.resendAttempts address =
        some ((s.resendAttempts.get s.now address).getD 0 + 1, s.now + seconds 3600))
      (last : t.lastResend address = some (s.now, s.now + seconds RESEND_COOLDOWN_SECONDS))

theorem resends_step (env : Env) (address : Text) (s : State) (a : Event) :
    Resends env address s a (step env a s) := by
  cases a with
  | pass ms => exact .kept rfl rfl rfl
  | request r =>
    have heffect := effect_step env s r
    generalize step env (.request r) s = t at heffect ⊢
    generalize hout : (call env r).outcome s = out at heffect
    cases heffect with
    | refused _ e => exact .kept (by cases r <;> simp_all [resendBeat, call]) rfl rfl
    | cooling secondsLeft request =>
      refine .kept ?_ rfl rfl
      rcases request with ⟨userId, rfl⟩ | rfl <;> simp_all [resendBeat, call]
    | @resent _ email code request few cooled =>
      have hbeat : resendBeat env address s (.request r) =
          if env.normalize email = address then some (.hit s.now) else none := by
        rcases request with ⟨userId, rfl⟩ | rfl <;> simp only [call] at hout <;>
          simp [resendBeat, hout]
      by_cases haddress : env.normalize email = address
      · subst haddress
        exact .sent (by rw [hbeat, if_pos rfl]) few cooled
          (by simp [State.resend, TempStore.set_apply])
          (by simp [State.resend, TempStore.set_apply])
      · exact .kept (by rw [hbeat, if_neg haddress])
          (by simp [State.resend, TempStore.set_apply, Ne.symm haddress])
          (by simp [State.resend, TempStore.set_apply, Ne.symm haddress])
    | wrongCurrentPin user pin e active live set wrong =>
      obtain ⟨attempts, h | ⟨-, h⟩⟩ := failPinChange_cases s _ user <;> rw [h] <;>
        exact .kept rfl rfl rfl
    | wrongLogin row stored found set live wrong =>
      obtain ⟨attempts, h | ⟨-, h⟩⟩ := failLogin_cases s row <;> rw [h] <;> exact .kept rfl rfl rfl
    | _ => exact .kept rfl rfl rfl

theorem resends_metered (address : Text) (s : State) (a : Event) :
    Metered (seconds 3600) RESEND_MAX_PER_HOUR s.resendAttempts s.now address
      (step env a s).resendAttempts (resendBeat env address s a) := by
  cases resends_step env address s a with
  | kept quiet attempts last =>
    rw [quiet]
    exact metered_none attempts
  | sent hit few cooled attempts last =>
    rw [hit]
    exact ⟨⟨rfl, attempts⟩, by simpa using few⟩

theorem forgotPin_metered (address : Text) (s : State) (a : Event) :
    Metered (seconds 3600) RESEND_MAX_PER_HOUR s.forgotPinAttempts s.now address
      (step env a s).forgotPinAttempts (forgotPinBeat env address s a) := by
  cases a with
  | pass ms => exact metered_none rfl
  | request r =>
    have heffect := effect_step env s r
    generalize step env (.request r) s = t at heffect ⊢
    generalize hout : (call env r).outcome s = out at heffect
    have hkeep (hstore : t.forgotPinAttempts = s.forgotPinAttempts)
        (hnone : forgotPinBeat env address s (.request r) = none) :
        Metered (seconds 3600) RESEND_MAX_PER_HOUR s.forgotPinAttempts s.now address
          t.forgotPinAttempts (forgotPinBeat env address s (.request r)) := by
      rw [hnone]
      exact metered_none (congrFun hstore address)
    cases heffect with
    | refused _ e => exact hkeep rfl (by cases r <;> simp_all [forgotPinBeat, call])
    | unknown => exact hkeep rfl (by simp_all [forgotPinBeat, call])
    | @forgotPin email code row found few =>
      have hbeat : forgotPinBeat env address s (.request (.forgotPin email code)) =
          if env.normalize email = address then some (.hit s.now) else none := by
        simp only [call] at hout
        simp [forgotPinBeat, hout]
      rw [hbeat]
      split
      · rename_i haddress
        subst haddress
        exact ⟨⟨rfl, by simp [TempStore.set_apply]⟩, by simpa using few⟩
      · rename_i haddress
        exact metered_none (by simp [TempStore.set_apply, Ne.symm haddress])
    | wrongCurrentPin user pin e active live set wrong =>
      obtain ⟨attempts, h | ⟨-, h⟩⟩ := failPinChange_cases s _ user <;>
        exact hkeep (congrArg State.forgotPinAttempts h :) rfl
    | wrongLogin row stored found set live wrong =>
      obtain ⟨attempts, h | ⟨-, h⟩⟩ := failLogin_cases s row <;>
        exact hkeep (congrArg State.forgotPinAttempts h :) rfl
    | cooling secondsLeft request =>
      exact hkeep rfl (by rcases request with ⟨userId, rfl⟩ | rfl <;> rfl)
    | resent request few cooled =>
      exact hkeep rfl (by rcases request with ⟨userId, rfl⟩ | rfl <;> rfl)
    | _ => exact hkeep rfl rfl

/-- Resends, latest first, with the cooldown between them. -/
def Cooled (address : Text) (s : State) (moments : List Nat) : Prop :=
  moments.Pairwise (fun later earlier => earlier + seconds RESEND_COOLDOWN_SECONDS ≤ later) ∧
    (∀ m ∈ moments, m ≤ s.now) ∧
    s.lastResend address =
      moments.head?.map fun m => (m, m + seconds RESEND_COOLDOWN_SECONDS)

theorem cooled_step {address : Text} {s : State} (a : Event) {moments : List Nat}
    (h : Cooled address s moments) : Cooled address (step env a s)
      (((resendBeat env address s a).toList.filterMap moment?) ++ moments) := by
  obtain ⟨hspaced, hpast, hlast⟩ := h
  have hnow := now_step env s a
  cases resends_step env address s a with
  | kept quiet attempts last =>
    rw [quiet]
    exact ⟨hspaced, fun m hm => (hpast m hm).trans hnow, last.trans hlast⟩
  | sent hit few cooled attempts last =>
    rw [hit]
    refine ⟨hspaced.cons ?_, ?_, last⟩
    · cases moments with
      | nil => simp
      | cons previous moments =>
        have hgap : previous + seconds RESEND_COOLDOWN_SECONDS ≤ s.now := by
          by_contra hsoon
          have := cooled previous (TempStore.get_eq_some.mpr ⟨_, hlast, by omega⟩)
          unfold seconds RESEND_COOLDOWN_SECONDS at hsoon
          unfold RESEND_COOLDOWN_SECONDS at this
          omega
        intro m hm
        rcases List.mem_cons.mp hm with rfl | hm
        · exact hgap
        · have := (List.pairwise_cons.mp hspaced).1 m hm
          omega
    · intro m hm
      rcases List.mem_cons.mp hm with rfl | hm
      · exact hnow
      · exact (hpast m hm).trans hnow

/-- The moments at which codes for signing up were sent again to the address, latest first. -/
def resends (env : Env) (now : Nat) (as : List Event) (address : Text) : List Nat :=
  hits (step env) (resendBeat env address) (.initial now) as

/-- The moments at which codes for resetting the PIN were sent to the address, latest first. -/
def pinResets (env : Env) (now : Nat) (as : List Event) (address : Text) : List Nat :=
  hits (step env) (forgotPinBeat env address) (.initial now) as

/-- No hour has more than five resends to an address, nor more than five codes for its PIN, and a
minute passes between two resends. -/
theorem codes_limited (env : Env) (now : Nat) (as : List Event) (address : Text) :
    (∀ begin, ((resends env now as address).filter
        fun m => begin ≤ m ∧ m < begin + seconds 3600).length ≤ RESEND_MAX_PER_HOUR) ∧
      (∀ begin, ((pinResets env now as address).filter
        fun m => begin ≤ m ∧ m < begin + seconds 3600).length ≤ RESEND_MAX_PER_HOUR) ∧
      (resends env now as address).Pairwise
        fun later earlier => earlier + seconds RESEND_COOLDOWN_SECONDS ≤ later := by
  refine ⟨hits_window (now_step env) (resends_metered address) rfl as,
    hits_window (now_step env) (forgotPin_metered address) rfl as, ?_⟩
  have hend := trace_keeps (step env) (resendBeat env address)
    (R := fun s beats => Cooled address s (beats.filterMap moment?))
    (fun s a beats h => by
      rw [List.filterMap_append]
      exact cooled_step a h) (s := .initial now) ⟨.nil, by simp, rfl⟩ as
  exact hend.1

end UserAccounts

end ExchangeLedger
