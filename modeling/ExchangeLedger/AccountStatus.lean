import ExchangeLedger.AccountHistory

set_option autoImplicit false

/-! Flagged and deleted accounts: what they can still do, and for how long. -/

namespace ExchangeLedger

open Service

namespace UserAccounts

variable {env : Env}

def State.Flagged (s : State) (id : UserId) : Prop :=
  ∃ user, s.users.lookup id = some user ∧ user.status = .FLAGGED

/-- Deleted after it has had a PIN. -/
def State.Gone (s : State) (id : UserId) : Prop :=
  ∃ user, s.users.lookup id = some user ∧ user.status = .DELETED ∧ user.pin ≠ none

/-- The account whose access token a request carries. -/
def Request.bearer : Request → Option UserId
  | .resendOtp userId _ _ | .setUserPin userId _ _ | .initiatePinChange userId _ _
  | .confirmPinChange userId _ _ _ | .initiateTwoFactor userId _ _ | .verifyTwoFactor userId _
  | .disableTwoFactor userId _ | .userRequestToDeleteAccount userId => some userId
  | _ => none

theorem authGuard_flagged {s : State} {id : UserId} (h : s.Flagged id) :
    (authGuard id).Ends s (.error "Something went wrong. Contact support.") s := by
  obtain ⟨user, hid, hflagged⟩ := h
  simp [authGuard, hid, hflagged]

theorem flagged_refused {s : State} {id : UserId} (h : s.Flagged id) {r : Request}
    (hr : r.bearer = some id) :
    (call env r).Ends s (.error "Something went wrong. Contact support.") s := by
  have hguard := authGuard_flagged h
  cases r <;> simp only [Request.bearer, Option.some.injEq, reduceCtorEq] at hr <;> subst hr <;>
    exact ends_bind.mpr (.inl ⟨_, hguard, rfl⟩)

theorem row_step (env : Env) (s : State) (a : Event) {id : UserId} {user : User}
    (found : s.users.lookup id = some user) : ∃ new,
    (step env a s).users.lookup id = some new ∧
      (new = user ∨ ∃ r, a = .request r ∧ Rewrites env s id user r new) := by
  obtain ⟨new, hnew, -⟩ := owns_step env s a ⟨user, found, rfl⟩
  refine ⟨new, hnew, ?_⟩
  cases a with
  | request r => exact ((effect_step env s r).rewrites found hnew).imp_right fun h => ⟨r, rfl, h⟩
  | pass ms => exact .inl (Option.some.inj (hnew.symm.trans found))

theorem unflagged {s : State} {id : UserId} {user : User} (found : s.users.lookup id = some user)
    (flagged : user.status = .FLAGGED) :
    (step env (.request (.unflagUser id)) s).users.lookup id =
      some { user with status := .ACTIVE, flaggedReason := none } := by
  have hends : (unflagUser id).Ends s (.ok (.message "User has been unflagged"))
      (s.put id { user with status := .ACTIVE, flaggedReason := none }) := by
    simp [unflagUser, found, flagged]
  have hafter : step env (.request (.unflagUser id)) s =
      s.put id { user with status := .ACTIVE, flaggedReason := none } := (ends_iff.mp hends).2
  simp [hafter, State.put]

theorem flagged_step (s : State) (a : Event) {id : UserId} (h : s.Flagged id) :
    (step env a s).Flagged id ↔ a ≠ .request (.unflagUser id) := by
  obtain ⟨user, hid, hflagged⟩ := h
  have hstatus {new : User} (hnew : (step env a s).users.lookup id = some new) :
      (step env a s).Flagged id ↔ new.status = .FLAGGED := by simp [State.Flagged, hnew]
  obtain ⟨new, hnew, rfl | ⟨r, rfl, hrewrite⟩⟩ := row_step env s a hid
  · rw [hstatus hnew]
    refine ⟨fun _ => ?_, fun _ => hflagged⟩
    rintro rfl
    rw [unflagged hid hflagged, Option.some.injEq] at hnew
    rw [← hnew] at hflagged
    cases hflagged
  · rw [hstatus hnew]
    cases hrewrite with
    | setUserPin active unset => exact absurd hflagged active
    | resetPin own held => simp [hflagged]
    | confirmPinChange active held => exact absurd hflagged active
    | wrongCurrentPin live many => simp
    | wrongLogin live many => simp
    | verifyTwoFactor active held => exact absurd hflagged active
    | disableTwoFactor active set right => exact absurd hflagged active
    | userRequestToDeleteAccount active => exact absurd hflagged active
    | flagUser live => simp
    | unflagUser flagged => simp

/-- Every request with the account's access token is refused, and changes nothing. -/
def State.Locked (env : Env) (s : State) (id : UserId) : Prop :=
  s.Flagged id ∧ ∀ r : Request, r.bearer = some id →
    (call env r).Ends s (.error "Something went wrong. Contact support.") s

/-- A flagged account is locked exactly as long as nobody unflags it. -/
theorem locked_until_unflagged (env : Env) (s : State) (id : UserId) (h : s.Flagged id)
    (as : List Event) :
    Run.Throughout (step env) (fun s => s.Locked env id) s as ↔
      Run.Along (step env) (fun _ a => a ≠ .request (.unflagUser id)) s as := by
  have hlocked (s : State) : s.Locked env id ↔ s.Flagged id :=
    ⟨And.left, fun h => ⟨h, fun r => flagged_refused h⟩⟩
  refine Run.throughout_iff_along (fun s a h => ?_) ((hlocked s).mpr h)
  rw [hlocked]
  exact flagged_step s a h.1

section Example

def flagged : State :=
  reached lowercase 0 (signedUp ++ [.request (.flagUser 7 "chargeback".toList)])

def afterFlag : List Event :=
  [.request (.validateUser mail "1407".toList firstCode), .request (.flagUser 7 [])]

theorem locked_after_login :
    Run.Throughout (step lowercase) (fun s => s.Locked lowercase 7) flagged afterFlag :=
  (locked_until_unflagged lowercase flagged 7 ⟨{ ada with
    status := .FLAGGED, flaggedReason := some "chargeback".toList }, by decide, rfl⟩ afterFlag).mpr
    (by simp [afterFlag, Run.Along])

end Example

theorem gone_step (s : State) (a : Event) {id : UserId} (h : s.Gone id) :
    (step env a s).Gone id := by
  obtain ⟨user, hid, hdeleted, hpin⟩ := h
  obtain ⟨new, hnew, rfl | ⟨r, rfl, hrewrite⟩⟩ := row_step env s a hid
  · exact ⟨new, hnew, hdeleted, hpin⟩
  · refine ⟨new, hnew, ?_⟩
    cases hrewrite with
    | setUserPin active unset => exact absurd unset hpin
    | resetPin own held => exact ⟨hdeleted, by simp⟩
    | confirmPinChange active held => exact ⟨hdeleted, by simp⟩
    | wrongCurrentPin live many => exact absurd hdeleted live
    | wrongLogin live many => exact absurd hdeleted live
    | verifyTwoFactor active held => exact ⟨hdeleted, hpin⟩
    | disableTwoFactor active set right => exact ⟨hdeleted, hpin⟩
    | userRequestToDeleteAccount active => exact ⟨rfl, hpin⟩
    | flagUser live => exact absurd hdeleted live
    | unflagUser flagged => simp [hdeleted] at flagged

theorem gone_later {now : Nat} {bs : List Event} {id : UserId} (h : (reached env now bs).Gone id)
    (cs : List Event) : (reached env now (bs ++ cs)).Gone id := by
  unfold reached
  rw [Run.final_append]
  exact (Run.throughout_of_step (fun s a => gone_step s a) h cs).last

theorem now_later (env : Env) (now : Nat) (bs cs : List Event) :
    (reached env now bs).now ≤ (reached env now (bs ++ cs)).now := by
  unfold reached
  rw [Run.final_append]
  exact (Run.throughout_of_step (P := fun s : State =>
    (Run.final (step env) (.initial now) bs).now ≤ s.now)
    (fun s a h => h.trans (now_step env s a)) le_rfl cs).last

/-- An account that is deleted after it has had a PIN stays deleted with one, and five minutes later
nobody signs in to it any more: until then the code of an earlier login can. -/
theorem deleted_for_good (env : Env) (now : Nat) (bs cs : List Event) (id : UserId)
    (h : (reached env now bs).Gone id) :
    (reached env now (bs ++ cs)).Gone id ∧
      ∀ r, (call env r).outcome (reached env now (bs ++ cs)) = .ok (.tokens id) →
        (reached env now (bs ++ cs)).now < (reached env now bs).now + seconds 300 ∧
          ∃ email otp, r = .verifyLoginTwoFactor email otp := by
  have hgone := gone_later h cs
  refine ⟨hgone, fun r hr => ?_⟩
  obtain ⟨user, hid, hdeleted, -⟩ := hgone
  have heffect := effect_step env (reached env now (bs ++ cs)) r
  rw [hr] at heffect
  generalize step env (.request r) (reached env now (bs ++ cs)) = t at heffect
  cases heffect with
  | completeClientSignUp email registered unused fresh =>
    rw [fresh] at hid
    cases hid
  | login row stored found set live right single =>
    cases (found_insensitive found).symm.trans hid
    exact absurd hdeleted live
  | verifyLoginTwoFactor row found two held =>
    refine ⟨?_, _, _, rfl⟩
    obtain ⟨ds, address, pin, code, was, stored, -, mailed, account, live, -, -⟩ :=
      login_code_mailed (found_insensitive found) held
    have ⟨es, expiry, history, sends, timely, kept⟩ := mailed
    have hexpiry : expiry = (reached env now ds).now + seconds 300 := by cases sends; rfl
    rw [hexpiry] at timely
    rcases List.append_eq_append_iff.mp history with ⟨later, rfl, -⟩ | ⟨since, rfl, -⟩
    · obtain ⟨user', hid', hdeleted', -⟩ := gone_later h later
      cases account.symm.trans hid'
      exact absurd hdeleted' live
    · have := now_later env now ds since
      omega

section Example

def deleted : List Event := signedUp ++ [.request (.userRequestToDeleteAccount 7)]

theorem no_login_after_deletion :
    (reached lowercase 0 (deleted ++ [.pass 300000])).Gone 7 ∧
      ∀ r, (call lowercase r).outcome (reached lowercase 0 (deleted ++ [.pass 300000])) =
          .ok (.tokens 7) →
        (reached lowercase 0 (deleted ++ [.pass 300000])).now <
            (reached lowercase 0 deleted).now + seconds 300 ∧
          ∃ email otp, r = .verifyLoginTwoFactor email otp :=
  deleted_for_good lowercase 0 deleted [.pass 300000] 7
    ⟨{ ada with status := .DELETED }, by decide, rfl, by decide⟩

end Example

end UserAccounts

end ExchangeLedger
