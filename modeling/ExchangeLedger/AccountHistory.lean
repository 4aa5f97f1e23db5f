import ExchangeLedger.AccountEffects
import ExchangeLedger.Run

set_option autoImplicit false

/-! Where what an account holds has come from in a run: its row, the codes that were mailed to it,
and what they were traded for. -/

namespace ExchangeLedger

open Service ConvertCurrency

namespace UserAccounts

variable {env : Env} {s t : State} {r : Request} {out : Except String Reply}

theorem effect_step (env : Env) (s : State) (r : Request) :
    Effect env s r ((call env r).outcome s) (step env (.request r) s) :=
  call_effect ((call env r).ends_self s)

theorem Effect.now (h : Effect env s r out t) : t.now = s.now := by
  cases h with
  | wrongCurrentPin user pin e active live set wrong =>
    obtain ⟨attempts, h | ⟨-, h⟩⟩ := failPinChange_cases s _ user <;>
      exact (congrArg State.now h :)
  | wrongLogin row stored found set live wrong =>
    obtain ⟨attempts, h | ⟨-, h⟩⟩ := failLogin_cases s row <;>
      exact (congrArg State.now h :)
  | _ => rfl

theorem now_step (env : Env) (s : State) (a : Event) : s.now ≤ (step env a s).now := by
  cases a with
  | request r => exact Nat.le_of_eq (effect_step env s r).now.symm
  | pass ms => exact Nat.le_add_right s.now ms

/-! ### The accounts' addresses -/

theorem normalize_idem (email : Text) : env.normalize (env.normalize email) =
    env.normalize email := by
  unfold Env.normalize
  rw [env.trim_toLowerCase, env.toLowerCase_idem, trim_trim]

theorem mailbox_eq (email : Text) : env.mailbox email = env.normalize email :=
    env.trim_toLowerCase _

theorem found_by_email {email : Text} {row : Sigma fun _ : UserId => User}
    (h : s.findUserByEmail email = some row) :
    s.users.lookup row.1 = some row.2 ∧ row.2.email = email := by
  obtain ⟨hrow, hemail⟩ := Table.lookup_of_find? h
  exact ⟨hrow, by simpa using hemail⟩

theorem found_insensitive {email : Text} {row : Sigma fun _ : UserId => User}
    (h : findInsensitive env s email = some row) : s.users.lookup row.1 = some row.2 :=
  (Table.lookup_of_find? h).1

theorem not_found_by_email {email : Text} {id : UserId} {user : User}
    (h : s.findUserByEmail email = none) (found : s.users.lookup id = some user) :
    user.email ≠ email := by
  simpa using Table.lookup_of_find?_none h found

/-- How a request rewrites the row of an account. -/
inductive Rewrites (env : Env) (s : State) (id : UserId) (user : User) : Request → User → Prop where
  | setUserPin {pin : Text} {salt : Nat} (active : user.status ≠ .FLAGGED)
      (unset : user.pin = none) :
      Rewrites env s id user (.setUserPin id pin salt)
        { user with pin := some (env.hash (trim pin) salt), status := .ACTIVE }
  | resetPin {token : Nat} {newPin email : Text} {salt : Nat}
      (own : env.normalize email = user.email)
      (held : s.pinResetTokens.get s.now user.email = some token) :
      Rewrites env s id user (.resetPin token newPin email salt)
        { user with pin := some (env.hash newPin salt) }
  | confirmPinChange {otp newPin : Text} {salt : Nat} (active : user.status ≠ .FLAGGED)
      (held : s.Holds env otp user.email .pin_change) :
      Rewrites env s id user (.confirmPinChange id otp newPin salt)
        { user with pin := some (env.hash newPin salt) }
  | wrongCurrentPin {currentPin : Text} {code : Code} (live : user.status ≠ .DELETED)
      (many : MAX_ATTEMPTS ≤ (s.pinChangeAttempts.get s.now id).getD 0 + 1) :
      Rewrites env s id user (.initiatePinChange id currentPin code)
        { user with status := .FLAGGED }
  | wrongLogin {email pin : Text} {code : Code} (live : user.status ≠ .DELETED)
      (many : LOGIN_ATTEMPT_LIMIT ≤ (s.loginAttempts.get s.now id).getD 0 + 1) :
      Rewrites env s id user (.validateUser email pin code)
        { user with status := .FLAGGED, flaggedReason := some flaggedForLogins }
  | verifyTwoFactor {otp : Text} (active : user.status ≠ .FLAGGED)
      (held : s.Holds env otp user.email .enable_2fa) :
      Rewrites env s id user (.verifyTwoFactor id otp) { user with isTwoFactorEnabled := true }
  | disableTwoFactor {currentPin pin : Text} (active : user.status ≠ .FLAGGED)
      (set : user.pin = some pin) (right : env.compareHash currentPin pin = true) :
      Rewrites env s id user (.disableTwoFactor id currentPin)
        { user with isTwoFactorEnabled := false }
  | userRequestToDeleteAccount (active : user.status ≠ .FLAGGED) :
      Rewrites env s id user (.userRequestToDeleteAccount id) { user with status := .DELETED }
  | flagUser {reason : Text} (live : user.status ≠ .DELETED) :
      Rewrites env s id user (.flagUser id reason)
        { user with status := .FLAGGED, flaggedReason := some (trim reason) }
  | unflagUser (flagged : user.status = .FLAGGED) :
      Rewrites env s id user (.unflagUser id) { user with status := .ACTIVE, flaggedReason := none }

/-- What a request can do to the row of an account. -/
inductive RowChange (env : Env) (s : State) (id : UserId) : Request → Option User → Prop where
  | same {r : Request} : RowChange env s id r (s.users.lookup id)
  | rewrite {r : Request} {user new : User} (found : s.users.lookup id = some user)
      (h : Rewrites env s id user r new) : RowChange env s id r (some new)
  | signUp {email dateOfBirth : Text} {registrationId : Nat} (fresh : s.users.lookup id = none)
      (registered : s.registrations.get s.now registrationId = some email)
      (unused : s.findUserByEmail email = none) :
      RowChange env s id (.completeClientSignUp registrationId dateOfBirth id)
        (some ⟨email, none, .PENDING, none, false, true⟩)

theorem RowChange.put {id : UserId} {user new : User} (found : s.users.lookup id = some user)
    (ht : t.users = s.users.insert id new) (h : Rewrites env s id user r new) (j : UserId) :
    RowChange env s j r (t.users.lookup j) := by
  rw [ht, Table.lookup_insert]
  split
  · rename_i hid
    subst hid
    exact .rewrite found h
  · exact .same

theorem Effect.row (h : Effect env s r out t) (j : UserId) :
    RowChange env s j r (t.users.lookup j) := by
  cases h with
  | completeClientSignUp email registered unused fresh =>
    show RowChange env s j _ ((s.users.insert _ _).lookup j)
    rw [Table.lookup_insert]
    split
    · rename_i h
      subst h
      exact .signUp fresh registered unused
    · exact .same
  | setUserPin user active unset => exact .put active.1 (by rfl) (.setUserPin active.2 unset) j
  | @resetPin token newPin email salt row found held =>
    obtain ⟨hrow, hemail⟩ := found_by_email found
    rw [normalize_idem, ← hemail] at held
    exact .put hrow (by rfl) (.resetPin hemail.symm held) j
  | wrongCurrentPin user pin e active live set wrong =>
    obtain ⟨attempts, h | ⟨many, h⟩⟩ := failPinChange_cases s _ user
    · rw [h]
      exact .same
    · rw [h]
      exact .put active.1 (by rfl) (.wrongCurrentPin live many) j
  | confirmPinChange user active held =>
    exact .put active.1 (by rfl) (.confirmPinChange active.2 held) j
  | wrongLogin row stored found set live wrong =>
    obtain ⟨attempts, h | ⟨many, h⟩⟩ := failLogin_cases s row
    · rw [h]
      exact .same
    · rw [h]
      exact .put (found_insensitive found) (by rfl) (.wrongLogin live many) j
  | verifyTwoFactor user active held =>
    exact .put active.1 (by rfl) (.verifyTwoFactor active.2 held) j
  | disableTwoFactor user pin active set right =>
    exact .put active.1 (by rfl) (.disableTwoFactor active.2 set right) j
  | userRequestToDeleteAccount user active =>
    exact .put active.1 (by rfl) (.userRequestToDeleteAccount active.2) j
  | flagUser user found live => exact .put found (by rfl) (.flagUser live) j
  | unflagUser user found flagged => exact .put found (by rfl) (.unflagUser flagged) j
  | _ => exact .same

theorem Effect.rewrites (h : Effect env s r out t) {id : UserId} {user new : User}
    (before : s.users.lookup id = some user) (after : t.users.lookup id = some new) :
    new = user ∨ Rewrites env s id user r new := by
  have hrow := h.row id
  rw [after] at hrow
  generalize hnew : some new = row at hrow
  cases hrow with
  | same => exact .inl (Option.some.inj (hnew.trans before))
  | rewrite found h =>
    cases found.symm.trans before
    cases hnew
    exact .inr h
  | signUp fresh registered unused => simp [fresh] at before

/-- What a code is traded for: a token to reset the PIN, or a registration. -/
def State.HandsOut (s : State) (purpose : OtpPurpose) (address : Text) (id expiry : Nat) : Prop :=
  match purpose with
  | .pin_reset => s.pinResetTokens address = some (id, expiry)
  | .signup => s.registrations id = some (address, expiry)
  | _ => False

def handOutTtl : OtpPurpose → Nat
  | .pin_reset => PIN_RESET_TOKEN_TTL_SECONDS
  | _ => REGISTRATION_TTL

/-- The request trades a code for `id`. -/
def Trades (env : Env) (s : State) (r : Request) (purpose : OtpPurpose) (address : Text)
    (id expiry : Nat) : Prop :=
  ∃ email otp, r = .verifyOtp email otp id ∧ env.normalize email = address ∧
    s.Holds env otp email purpose ∧ s.now + seconds (handOutTtl purpose) = expiry

theorem holds_normalize {otp email : Text} {purpose : OtpPurpose} :
    s.Holds env otp (env.normalize email) purpose ↔ s.Holds env otp email purpose := by
  unfold State.Holds
  rw [mailbox_eq, mailbox_eq, normalize_idem]

section HandingOut

variable {purpose : OtpPurpose} {address : Text} {id expiry : Nat}

theorem handsOut_keep (ht : t.HandsOut purpose address id expiry)
    (htokens : t.pinResetTokens = s.pinResetTokens) (hregs : t.registrations = s.registrations) :
    s.HandsOut purpose address id expiry := by
  unfold State.HandsOut at ht ⊢
  rwa [htokens, hregs] at ht

theorem Effect.handsOut (h : Effect env s r out t) (ht : t.HandsOut purpose address id expiry) :
    s.HandsOut purpose address id expiry ∨ Trades env s r purpose address id expiry := by
  cases h with
  | @resetCode email otp uuid held =>
    cases purpose with
    | pin_reset =>
      replace ht : s.pinResetTokens.set s.now _ (env.normalize (env.normalize email)) uuid address =
        some (id, expiry) := ht
      rw [TempStore.set_apply, normalize_idem] at ht
      split at ht
      · rename_i haddress
        simp only [Option.some.injEq, Prod.mk.injEq] at ht
        exact .inr ⟨email, otp, by rw [ht.1], haddress.symm, holds_normalize.mp held, ht.2⟩
      · exact .inl ht
    | _ => exact .inl ht
  | @signupCode email otp uuid held =>
    cases purpose with
    | signup =>
      replace ht : s.registrations.set s.now _ uuid (env.normalize email) id =
        some (address, expiry) := ht
      rw [TempStore.set_apply] at ht
      split at ht
      · rename_i hid
        simp only [Option.some.injEq, Prod.mk.injEq] at ht
        exact .inr ⟨email, otp, by rw [hid], ht.1, holds_normalize.mp held, ht.2⟩
      · exact .inl ht
    | _ => exact .inl ht
  | @completeClientSignUp registrationId _ _ email registered unused fresh =>
    cases purpose with
    | signup =>
      replace ht : s.registrations.del registrationId id = some (address, expiry) := ht
      rw [TempStore.del_apply] at ht
      split at ht
      · cases ht
      · exact .inl ht
    | _ => exact .inl ht
  | @resetPin _ _ email _ row found held =>
    cases purpose with
    | pin_reset =>
      replace ht : s.pinResetTokens.del (env.normalize (env.normalize email)) address =
        some (id, expiry) := ht
      rw [TempStore.del_apply] at ht
      split at ht
      · cases ht
      · exact .inl ht
    | _ => exact .inl ht
  | wrongCurrentPin user pin e active live set wrong =>
    obtain ⟨attempts, h | ⟨-, h⟩⟩ := failPinChange_cases s _ user <;> rw [h] at ht <;>
      exact .inl (handsOut_keep ht rfl rfl)
  | wrongLogin row stored found set live wrong =>
    obtain ⟨attempts, h | ⟨-, h⟩⟩ := failLogin_cases s row <;> rw [h] at ht <;>
      exact .inl (handsOut_keep ht rfl rfl)
  | _ => exact .inl (handsOut_keep ht rfl rfl)

end HandingOut

/-- Addresses are stored normalized, and no two accounts have the same. -/
structure Tidy (env : Env) (s : State) : Prop where
  users : ∀ id user, s.users.lookup id = some user → env.normalize user.email = user.email
  unique : ∀ i j a b, s.users.lookup i = some a → s.users.lookup j = some b → a.email = b.email →
    i = j
  registrations : ∀ id email expiry, s.registrations id = some (email, expiry) →
    env.normalize email = email

theorem Tidy.registered (hs : Tidy env s) {id : Nat} {email : Text}
    (h : s.registrations.get s.now id = some email) : env.normalize email = email := by
  obtain ⟨expiry, hrow, -⟩ := TempStore.get_eq_some.mp h
  exact hs.registrations id email expiry hrow

theorem Effect.known (h : Effect env s r out t) {id : UserId} {new : User}
    (hid : t.users.lookup id = some new) :
    (∃ user, s.users.lookup id = some user ∧ new.email = user.email) ∨
      ∃ registrationId dateOfBirth, r = .completeClientSignUp registrationId dateOfBirth id ∧
        s.registrations.get s.now registrationId = some new.email ∧
        s.findUserByEmail new.email = none := by
  have hrow := h.row id
  rw [hid] at hrow
  generalize hnew : some new = row at hrow
  cases hrow with
  | same => exact .inl ⟨new, hnew.symm, rfl⟩
  | rewrite found h =>
    cases hnew
    exact .inl ⟨_, found, by cases h <;> rfl⟩
  | signUp fresh registered unused =>
    cases hnew
    exact .inr ⟨_, _, rfl, registered, unused⟩

theorem Effect.tidy (h : Effect env s r out t) (hs : Tidy env s) : Tidy env t where
  users id user hid := by
    rcases h.known hid with ⟨old, hold, hsame⟩ | ⟨_, _, -, registered, -⟩
    · rw [hsame]
      exact hs.users id old hold
    · exact hs.registered registered
  unique i j a b hi hj hab := by
    rcases h.known hi with ⟨c, hc, hca⟩ | ⟨_, _, hr, -, unused⟩ <;>
      rcases h.known hj with ⟨d, hd, hdb⟩ | ⟨_, _, hr', -, unused'⟩
    · exact hs.unique i j c d hc hd (by rw [← hca, hab, hdb])
    · exact absurd (hca.symm.trans hab) (not_found_by_email unused' hc)
    · exact absurd (hdb.symm.trans hab.symm) (not_found_by_email unused hd)
    · cases hr.symm.trans hr'
      rfl
  registrations id email expiry hid := by
    have hout : t.HandsOut .signup email id expiry := hid
    rcases h.handsOut hout with hold | ⟨given, -, -, rfl, -⟩
    · exact hs.registrations id email expiry hold
    · exact normalize_idem given

theorem tidy_step (s : State) (a : Event) (hs : Tidy env s) : Tidy env (step env a s) := by
  cases a with
  | request r => exact (effect_step env s r).tidy hs
  | pass ms => exact ⟨hs.users, hs.unique, hs.registrations⟩

/-- The state after these events, from when nobody had signed up. -/
def reached (env : Env) (now : Nat) (as : List Event) : State :=
  Run.final (step env) (.initial now) as

theorem tidy_reached (now : Nat) (as : List Event) : Tidy env (reached env now as) :=
  (Run.throughout_of_step tidy_step ⟨by simp [State.initial], by simp [State.initial],
    by simp [State.initial, TempStore.empty]⟩ as).last

/-- The account has this address. -/
def State.Owns (s : State) (id : UserId) (email : Text) : Prop :=
  ∃ user, s.users.lookup id = some user ∧ user.email = email

theorem owns_step (env : Env) {id : UserId} {email : Text} (s : State) (a : Event)
    (h : s.Owns id email) :
    (step env a s).Owns id email := by
  obtain ⟨user, hid, hemail⟩ := h
  cases a with
  | request r =>
    have hrow := (effect_step env s r).row id
    generalize hnew : (step env (.request r) s).users.lookup id = row at hrow
    cases hrow with
    | same => exact ⟨user, hnew.trans hid, hemail⟩
    | rewrite found h =>
      cases found.symm.trans hid
      exact ⟨_, hnew, by cases h <;> exact hemail⟩
    | signUp fresh registered unused => simp [fresh] at hid
  | pass ms => exact ⟨user, hid, hemail⟩

theorem owns_later {now : Nat} {id : UserId} {email : Text} {as : List Event}
    (h : (reached env now as).Owns id email) (bs : List Event) :
    (reached env now (as ++ bs)).Owns id email := by
  unfold reached
  rw [Run.final_append]
  exact (Run.throughout_of_step (owns_step env) h bs).last

theorem Tidy.owner (hs : Tidy env s) {i j : UserId} {email : Text} (hi : s.Owns i email)
    (hj : s.Owns j email) : i = j := by
  obtain ⟨a, ha, hae⟩ := hi
  obtain ⟨b, hb, hbe⟩ := hj
  exact hs.unique i j a b ha hb (hae.trans hbe.symm)

/-! ### The codes -/

/-- The request mails a code: what it is for, whose mailbox it goes to, and when it expires. -/
inductive Sends (env : Env) (s : State) : Request → OtpPurpose → Text → Code → Nat → Prop where
  | signUp {r : Request} {email mailbox : Text} {code : Code}
      (request : r = .initiateClientSignUp email code ∨
        (∃ userId, r = .resendOtp userId email code) ∨ r = .resendOnboardingOtp (.ok ()) email code)
      (address : env.normalize email = mailbox) :
      Sends env s r .signup mailbox code (s.now + seconds 600)
  | forgotPin {email mailbox : Text} {code : Code} (address : env.normalize email = mailbox) :
      Sends env s (.forgotPin email code) .pin_reset mailbox code (s.now + seconds 600)
  | pinChange {userId : UserId} {currentPin pin mailbox : Text} {code : Code} {user : User}
      (found : s.users.lookup userId = some user) (address : env.normalize user.email = mailbox)
      (set : user.pin = some pin) (right : env.compareHash currentPin pin = true) :
      Sends env s (.initiatePinChange userId currentPin code) .pin_change mailbox code
        (s.now + seconds 600)
  | login {email pin stored mailbox : Text} {code : Code} {row : Sigma fun _ : UserId => User}
      (found : findInsensitive env s email = some row)
        (address : env.normalize row.2.email = mailbox)
      (live : row.2.status ≠ .DELETED) (set : row.2.pin = some stored)
      (right : env.compareHash pin stored = true) :
      Sends env s (.validateUser email pin code) .login_2fa mailbox code (s.now + seconds 300)
  | twoFactor {userId : UserId} {currentPin pin mailbox : Text} {code : Code} {user : User}
      (found : s.users.lookup userId = some user) (address : env.normalize user.email = mailbox)
      (set : user.pin = some pin) (right : env.compareHash currentPin pin = true) :
      Sends env s (.initiateTwoFactor userId currentPin code) .enable_2fa mailbox code
        (s.now + seconds 600)

section Codes

variable {purpose : OtpPurpose} {mailbox : Text} {code : Code} {expiry : Nat}

theorem issued {email : Text} {ttl : Nat} {sent : Code} {reason : OtpPurpose}
    (h : (s.issue env email ttl sent reason).otps (purpose, mailbox) = some (code, expiry)) :
    s.otps (purpose, mailbox) = some (code, expiry) ∨
      reason = purpose ∧ env.normalize email = mailbox ∧ sent = code ∧
        s.now + seconds ttl = expiry := by
  replace h : s.otps.set s.now (seconds ttl) (reason, env.mailbox email) sent (purpose, mailbox) =
    some (code, expiry) := h
  rw [TempStore.set_apply] at h
  split at h
  · rename_i hkey
    rw [Prod.mk.injEq, mailbox_eq] at hkey
    simp only [Option.some.injEq, Prod.mk.injEq] at h
    exact .inr ⟨hkey.1.symm, hkey.2.symm, h.1, h.2⟩
  · exact .inl h

theorem consumed {email : Text} {reason : OtpPurpose}
    (h : (s.consume env email reason).otps (purpose, mailbox) = some (code, expiry)) :
    s.otps (purpose, mailbox) = some (code, expiry) := by
  replace h : s.otps.del (reason, env.mailbox email) (purpose, mailbox) = some (code, expiry) := h
  rw [TempStore.del_apply] at h
  split at h
  · cases h
  · exact h

theorem Effect.mailed (h : Effect env s r out t)
    (ht : t.otps (purpose, mailbox) = some (code, expiry)) :
    s.otps (purpose, mailbox) = some (code, expiry) ∨
      Sends env s r purpose mailbox code expiry := by
  cases h with
  | initiateClientSignUp =>
    refine (issued ht).imp_right ?_
    rintro ⟨rfl, address, rfl, rfl⟩
    exact .signUp (.inl rfl) address
  | resent request few cooled =>
    refine (issued ht).imp_right ?_
    rintro ⟨rfl, address, rfl, rfl⟩
    exact .signUp (.inr request) (by rwa [normalize_idem] at address)
  | resetCode held => exact .inl (consumed ht)
  | signupCode held => exact .inl (consumed ht)
  | forgotPin row found few =>
    refine (issued ht).imp_right ?_
    rintro ⟨rfl, address, rfl, rfl⟩
    exact .forgotPin (by rwa [(found_by_email found).2, normalize_idem] at address)
  | wrongCurrentPin user pin e active live set wrong =>
    obtain ⟨attempts, h | ⟨-, h⟩⟩ := failPinChange_cases s _ user <;> rw [h] at ht <;> exact .inl ht
  | initiatePinChange user pin active live set right =>
    refine (issued ht).imp_right ?_
    rintro ⟨rfl, address, rfl, rfl⟩
    exact .pinChange active.1 address set right
  | confirmPinChange user active held => exact .inl (consumed ht)
  | wrongLogin row stored found set live wrong =>
    obtain ⟨attempts, h | ⟨-, h⟩⟩ := failLogin_cases s row <;> rw [h] at ht <;> exact .inl ht
  | firstFactor row stored found set live right two =>
    refine (issued ht).imp_right ?_
    rintro ⟨rfl, address, rfl, rfl⟩
    exact .login found address live set right
  | verifyLoginTwoFactor row found two held => exact .inl (consumed ht)
  | initiateTwoFactor user pin active set right =>
    refine (issued ht).imp_right ?_
    rintro ⟨rfl, address, rfl, rfl⟩
    exact .twoFactor active.1 address set right
  | verifyTwoFactor user active held => exact .inl (consumed ht)
  | _ => exact .inl ht

/-- After `bs` the request mailed the code, which has been neither used nor replaced since, nor has
it expired. -/
inductive Mailed (env : Env) (now : Nat) (as bs : List Event) (r : Request) (purpose : OtpPurpose)
    (mailbox : Text) (code : Code) : Prop where
  | intro (cs : List Event) (expiry : Nat) (history : as = bs ++ .request r :: cs)
      (sends : Sends env (reached env now bs) r purpose mailbox code expiry)
      (timely : (reached env now as).now < expiry)
      (kept : Run.Throughout (step env) (fun s => s.otps (purpose, mailbox) = some (code, expiry))
        (reached env now (bs ++ [.request r])) cs)

theorem reached_concat (env : Env) (now : Nat) (bs : List Event) (a : Event) :
    reached env now (bs ++ [a]) = step env a (reached env now bs) := by
  unfold reached
  rw [Run.final_append]
  rfl

theorem mailed_of_holds {now : Nat} {as : List Event} {otp email : Text}
    (h : (reached env now as).Holds env otp email purpose) :
    ∃ bs r code, code.text = otp ∧ Mailed env now as bs r purpose (env.normalize email) code := by
  obtain ⟨code, hget, htext⟩ := h
  rw [mailbox_eq] at hget
  obtain ⟨expiry, hkey, htimely⟩ := TempStore.get_eq_some.mp hget
  obtain ⟨bs, a, cs, history, hnew, kept⟩ :=
    Run.origin (P := fun s : State => s.otps (purpose, env.normalize email) = some (code, expiry))
      (by simp [State.initial, TempStore.empty]) hkey
  rw [← reached, ← reached_concat] at kept
  cases a with
  | request r =>
    have hsent := kept.head
    rw [reached_concat] at hsent
    rcases (effect_step env (reached env now bs) r).mailed hsent with hold | sends
    · exact absurd hold hnew
    · exact ⟨bs, r, code, htext, cs, expiry, history, sends, htimely, kept⟩
  | pass ms =>
    have hsent := kept.head
    rw [reached_concat] at hsent
    exact absurd hsent hnew

end Codes

/-- After `bs` a code that had been mailed was traded for `id`, which has been neither used nor
replaced since, nor has it expired. -/
inductive Verified (env : Env) (now : Nat) (as bs : List Event) (purpose : OtpPurpose)
    (address : Text) (id : Nat) : Prop where
  | intro (cs ds : List Event) (r : Request) (email : Text) (code : Code) (expiry : Nat)
      (history : as = bs ++ .request (.verifyOtp email code.text id) :: cs)
      (mailbox : env.normalize email = address)
      (mailed : Mailed env now bs ds r purpose address code)
      (lifetime : (reached env now bs).now + seconds (handOutTtl purpose) = expiry)
      (timely : (reached env now as).now < expiry)
      (kept : Run.Throughout (step env) (fun s => s.HandsOut purpose address id expiry)
        (reached env now (bs ++ [.request (.verifyOtp email code.text id)])) cs)

theorem verified_of_handsOut {now : Nat} {as : List Event} {purpose : OtpPurpose} {address : Text}
    {id expiry : Nat} (h : (reached env now as).HandsOut purpose address id expiry)
    (timely : (reached env now as).now < expiry) :
    ∃ bs, Verified env now as bs purpose address id := by
  obtain ⟨bs, a, cs, history, hnew, kept⟩ :=
    Run.origin (P := fun s : State => s.HandsOut purpose address id expiry)
      (by cases purpose <;> simp [State.HandsOut, State.initial, TempStore.empty]) h
  rw [← reached, ← reached_concat] at kept
  have hout := kept.head
  rw [reached_concat] at hout
  cases a with
  | request r =>
    rcases (effect_step env (reached env now bs) r).handsOut hout with
      hold | ⟨email, otp, rfl, rfl, held, lifetime⟩
    · exact absurd hold hnew
    · obtain ⟨ds, sender, code, rfl, mailed⟩ := mailed_of_holds held
      exact ⟨bs, cs, ds, sender, email, code, expiry, history, rfl, mailed, lifetime, timely, kept⟩
  | pass ms => exact absurd (handsOut_keep hout rfl rfl) hnew

theorem same_account {now : Nat} {as bs cs : List Event} {id old : UserId} {user was : User}
    (history : as = bs ++ cs) (then_found : (reached env now bs).users.lookup old = some was)
    (address : env.normalize was.email = user.email)
    (found : (reached env now as).users.lookup id = some user) : old = id := by
  have howned : (reached env now bs).Owns old user.email := by
    refine ⟨was, then_found, ?_⟩
    rw [← address, (tidy_reached now bs).users old was then_found]
  have hlater := owns_later howned cs
  rw [← history] at hlater
  exact (tidy_reached now as).owner hlater ⟨user, found, rfl⟩

theorem login_code_mailed {now : Nat} {as : List Event} {id : UserId} {user : User} {otp : Text}
    (found : (reached env now as).users.lookup id = some user)
    (held : (reached env now as).Holds env otp user.email .login_2fa) :
    ∃ bs address pin code was stored, code.text = otp ∧
      Mailed env now as bs (.validateUser address pin code) .login_2fa user.email code ∧
      (reached env now bs).users.lookup id = some was ∧ was.status ≠ .DELETED ∧
      was.pin = some stored ∧ env.compareHash pin stored = true := by
  obtain ⟨bs, sender, code, rfl, mailed⟩ := mailed_of_holds held
  rw [(tidy_reached now as).users id user found] at mailed
  have ⟨cs, expiry, history, sends, timely, kept⟩ := mailed
  cases sends with
  | login then_found address live set right =>
    have hwas := found_insensitive then_found
    rw [same_account history hwas address found] at hwas
    exact ⟨bs, _, _, code, _, _, rfl, mailed, hwas, live, set, right⟩

section Example

def lowercase : Env where
  toLowerCase := id
  toLowerCase_idem _ := rfl
  trim_toLowerCase _ := rfl
  isDate _ := true
  hash pin _ := pin
  compareHash pin hashed := pin == hashed

def firstCode : Code := ⟨482913, by decide⟩

def secondCode : Code := ⟨770215, by decide⟩

def mail : Text := "ada@mail.ng".toList

def ada : User := ⟨mail, some "1407".toList, .ACTIVE, none, false, true⟩

def signedUp : List Event :=
  [.request (.initiateClientSignUp mail firstCode), .pass 45000,
    .request (.verifyOtp mail firstCode.text 1),
    .request (.completeClientSignUp 1 "1990-04-17".toList 7),
    .request (.setUserPin 7 "1407".toList 0)]

end Example

end UserAccounts

end ExchangeLedger
