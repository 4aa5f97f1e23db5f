import ExchangeLedger.Kyc

set_option autoImplicit false

/-! Which accounts a NIN is bound to, and what stands behind an account's second tier, however the
requests interleave. -/

namespace ExchangeLedger

open Concurrent

namespace Kyc

variable {toLowerCase : Text → Text}

/-- The account has a verified NIN, on a record with the names that it is registered under. -/
def Bound (toLowerCase : Text → Text) (S : Store) (userId : UserId) : Prop :=
  ∃ k user, S.kyc.lookup userId = some k ∧ k.hasVerifiedNin = true ∧ k.nin.isSome = true ∧
    S.users.lookup userId = some user ∧
    NamesMatch toLowerCase k.ninFirstName k.ninLastName user

/-- Every verified NIN is bound by its names, and no NIN is that of two accounts. -/
structure NinsBound (toLowerCase : Text → Text) (S : Store) : Prop where
  bound : ∀ userId k, S.kyc.lookup userId = some k → k.hasVerifiedNin = true →
    Bound toLowerCase S userId
  once : S.kyc.PairwiseRows fun a b => a.nin = none ∨ a.nin ≠ b.nin

/-- What a request under way has found out for good. -/
def Task.Sound (toLowerCase : Text → Text) (S : Store) : Task → Prop
  | .savingNin userId _ e =>
    ∃ user, S.users.lookup userId = some user ∧
      NamesMatch toLowerCase e.first_name e.last_name user
  | .verifyingDocument userId _ | .uploadingImages userId _ _ | .savingDocument userId _ _ _ _
  | .raisingTier userId => Bound toLowerCase S userId
  | _ => True

/-- What no step takes away: an account keeps its names, and a bound one stays bound. -/
structure Later (toLowerCase : Text → Text) (S T : Store) : Prop where
  names : ∀ userId user, S.users.lookup userId = some user →
    ∃ user', T.users.lookup userId = some user' ∧ user'.firstName = user.firstName ∧
      user'.lastName = user.lastName
  bound : ∀ userId, Bound toLowerCase S userId → Bound toLowerCase T userId

theorem Later.refl (S : Store) : Later toLowerCase S S :=
  ⟨fun _ user h => ⟨user, h, rfl, rfl⟩, fun _ h => h⟩

theorem NamesMatch.congr {first last : Option Text} {user user' : User}
    (h : NamesMatch toLowerCase first last user) (hfirst : user'.firstName = user.firstName)
    (hlast : user'.lastName = user.lastName) : NamesMatch toLowerCase first last user' := by
  unfold NamesMatch at h ⊢
  rwa [hfirst, hlast]

theorem Task.Sound.later {S T : Store} (h : Later toLowerCase S T) {t : Task}
    (ht : t.Sound toLowerCase S) : t.Sound toLowerCase T := by
  cases t with
  | savingNin userId nin e =>
    obtain ⟨user, hlookup, hmatch⟩ := ht
    obtain ⟨user', hlater, hfirst, hlast⟩ := h.names userId user hlookup
    exact ⟨user', hlater, hmatch.congr hfirst hlast⟩
  | verifyingDocument userId dto => exact h.bound userId ht
  | uploadingImages userId dto e => exact h.bound userId ht
  | savingDocument userId dto e front back => exact h.bound userId ht
  | raisingTier userId => exact h.bound userId ht
  | _ => trivial

/-! ### The writes -/

/-- An upsert that does not throw is of an account, and no other account has the NIN of the row that
it writes. -/
theorem upsertKyc_eq_ok {userId : UserId} {write : KycVerification → KycVerification} {S T : Store}
    (h : upsertKyc userId write S = .ok T) :
    (∃ user, S.users.lookup userId = some user) ∧
      T = { S with
        kyc := S.kyc.insert userId (write ((S.kyc.lookup userId).getD .blank)) } ∧
      NinFree S userId (write ((S.kyc.lookup userId).getD .blank)).nin := by
  simp only [upsertKyc] at h
  split at h
  · cases h
  · rename_i huser
    split at h
    · rename_i hfree
      cases h
      exact ⟨Option.ne_none_iff_exists'.mp huser, rfl, hfree⟩
    · cases h

theorem insertKyc_later {S : Store} {userId : UserId} {row : KycVerification}
    (hrow : Bound toLowerCase S userId → Bound toLowerCase
      { S with kyc := S.kyc.insert userId row } userId) :
    Later toLowerCase S { S with kyc := S.kyc.insert userId row } := by
  constructor
  · intro i user hi
    exact ⟨user, hi, rfl, rfl⟩
  · intro i hbound
    by_cases hi : i = userId
    · rw [hi] at hbound ⊢
      exact hrow hbound
    · obtain ⟨k, user, hk, hrest⟩ := hbound
      exact ⟨k, user, by simpa [AList.lookup_insert_ne hi] using hk, hrest⟩

theorem insertKyc_ninsBound {S : Store} (hS : NinsBound toLowerCase S) {userId : UserId}
    {row : KycVerification} (hfree : NinFree S userId row.nin)
    (hrow : row.hasVerifiedNin = true →
      Bound toLowerCase { S with kyc := S.kyc.insert userId row } userId) :
    NinsBound toLowerCase { S with kyc := S.kyc.insert userId row } := by
  constructor
  · intro i k hi hverified
    rw [Table.lookup_insert] at hi
    split at hi
    · rename_i hik
      cases hi
      rw [hik]
      exact hrow hverified
    · rename_i hik
      obtain ⟨k', user, hk', hrest⟩ := hS.bound i k hi hverified
      exact ⟨k', user, by simpa [AList.lookup_insert_ne hik] using hk', hrest⟩
  · refine (hS.once.insert_iff userId ?_).mpr ?_
    · intro j b hj h
      by_cases hb : b.nin = none
      · exact .inl hb
      · rcases h with h | h
        · exact .inr fun heq => hb (heq.trans h)
        · exact .inr h.symm
    · intro j b hj hb
      rcases hfree with hnone | hfree
      · exact .inl hnone
      · exact .inr (hfree ⟨j, b⟩ (AList.mem_lookup_iff.mp hb) hj).symm

/-- A write that leaves the NIN and its names alone. -/
def KeepsNin (write : KycVerification → KycVerification) : Prop :=
  ∀ k, (write k).nin = k.nin ∧ (write k).hasVerifiedNin = k.hasVerifiedNin ∧
    (write k).ninFirstName = k.ninFirstName ∧ (write k).ninLastName = k.ninLastName

theorem keepsNin_document (dto : UploadDocumentDto) (e : DocumentEntity) (front : Text)
    (back : Option Text) : KeepsNin (writeDocument toLowerCase dto e front back) :=
  fun _ => ⟨rfl, rfl, rfl, rfl⟩

theorem keepsNin_address (reference : Option Text) : KeepsNin (writeAddress reference) :=
  fun _ => ⟨rfl, rfl, rfl, rfl⟩

theorem upsertKeeping_sound {S T : Store} (hS : NinsBound toLowerCase S) {userId : UserId}
    {write : KycVerification → KycVerification} (hwrite : KeepsNin write)
    (h : upsertKyc userId write S = .ok T) :
    NinsBound toLowerCase T ∧ Later toLowerCase S T := by
  obtain ⟨-, rfl, hfree⟩ := upsertKyc_eq_ok h
  obtain ⟨hnin, hverified, hfirst, hlast⟩ := hwrite ((S.kyc.lookup userId).getD .blank)
  have hkeep (hbound : Bound toLowerCase S userId) : Bound toLowerCase
      { S with kyc := S.kyc.insert userId (write ((S.kyc.lookup userId).getD .blank)) } userId := by
    obtain ⟨k, user, hk, hkv, hkn, huser, hmatch⟩ := hbound
    simp only [hk, Option.getD_some] at hnin hverified hfirst hlast ⊢
    exact ⟨write k, user, AList.lookup_insert S.kyc, hverified.trans hkv, by rwa [hnin], huser,
      by rwa [hfirst, hlast]⟩
  refine ⟨insertKyc_ninsBound hS hfree ?_, insertKyc_later hkeep⟩
  intro hnew
  rw [hverified] at hnew
  cases hk : S.kyc.lookup userId with
  | none => simp [hk, KycVerification.blank] at hnew
  | some k =>
    rw [hk] at hnew
    have hbound := hkeep (hS.bound userId k hk hnew)
    rwa [hk] at hbound

theorem upsertNin_sound {S T : Store} (hS : NinsBound toLowerCase S) {userId : UserId} {nin : Text}
    {e : NinEntity} {user : User} (huser : S.users.lookup userId = some user)
    (hmatch : NamesMatch toLowerCase e.first_name e.last_name user)
    (h : upsertKyc userId (writeNin nin e) S = .ok T) :
    NinsBound toLowerCase T ∧ Later toLowerCase S T := by
  obtain ⟨-, rfl, hfree⟩ := upsertKyc_eq_ok h
  have hbound : Bound toLowerCase
      { S with kyc := S.kyc.insert userId (writeNin nin e ((S.kyc.lookup userId).getD .blank)) }
      userId :=
    ⟨_, user, AList.lookup_insert S.kyc, rfl, rfl, huser, hmatch⟩
  exact ⟨insertKyc_ninsBound hS hfree fun _ => hbound, insertKyc_later fun _ => hbound⟩

theorem insertUser_sound {S : Store} (hS : NinsBound toLowerCase S) {userId : UserId}
    {user user' : User} (huser : S.users.lookup userId = some user)
    (hfirst : user'.firstName = user.firstName) (hlast : user'.lastName = user.lastName) :
    NinsBound toLowerCase { S with users := S.users.insert userId user' } ∧
      Later toLowerCase S { S with users := S.users.insert userId user' } := by
  have hbound (i : UserId) (h : Bound toLowerCase S i) :
      Bound toLowerCase { S with users := S.users.insert userId user' } i := by
    obtain ⟨k, owner, hk, hkv, hkn, howner, hmatch⟩ := h
    by_cases hi : i = userId
    · subst hi
      rw [huser] at howner
      cases howner
      exact ⟨k, user', hk, hkv, hkn, AList.lookup_insert S.users, hmatch.congr hfirst hlast⟩
    · exact ⟨k, owner, hk, hkv, hkn, by simpa [AList.lookup_insert_ne hi] using howner, hmatch⟩
  refine ⟨⟨fun i k hk hkv => hbound i (hS.bound i k hk hkv), hS.once⟩, ?_, hbound⟩
  intro i owner howner
  by_cases hi : i = userId
  · subst hi
    rw [huser] at howner
    cases howner
    exact ⟨user', AList.lookup_insert S.users, hfirst, hlast⟩
  · exact ⟨owner, by simpa [AList.lookup_insert_ne hi] using howner, rfl, rfl⟩

theorem signUp_sound {S : Store} (hS : NinsBound toLowerCase S) (x : SignUp) :
    NinsBound toLowerCase (signUp x S) ∧ Later toLowerCase S (signUp x S) := by
  unfold signUp
  split
  · rename_i hnone
    have hkeep {i : UserId} {user : User} (h : S.users.lookup i = some user) :
        (S.users.insert x.userId ⟨some x.firstName, some x.lastName, .NOT_VERIFIED,
          some .TIER_1⟩).lookup i = some user :=
      Table.lookup_insert_fresh hnone h
    have hbound (i : UserId) (h : Bound toLowerCase S i) : Bound toLowerCase { S with
        users := S.users.insert x.userId ⟨some x.firstName, some x.lastName, .NOT_VERIFIED,
          some .TIER_1⟩ } i := by
      obtain ⟨k, owner, hk, hkv, hkn, howner, hmatch⟩ := h
      exact ⟨k, owner, hk, hkv, hkn, hkeep howner, hmatch⟩
    exact ⟨⟨fun i k hk hkv => hbound i (hS.bound i k hk hkv), hS.once⟩,
      fun i user h => ⟨user, hkeep h, rfl, rfl⟩, hbound⟩
  · exact ⟨hS, .refl S⟩

/-! ### The requests -/

/-- What the next step of a request can do where it does not throw. -/
inductive Does (toLowerCase : Text → Text) (S : Store) : Task → Outcome → Store → Option Task → Prop
    where
  | ninAnswered {userId : UserId} {nin : Text} {r : NinAnswer} {e : NinEntity}
      (entity : r.entity = some e) :
      Does toLowerCase S (.askingNin userId nin) (.ninAnswer r) S
        (some (.comparingNames userId nin e))
  | namesMatched {userId : UserId} {nin : Text} {e : NinEntity} {user : User}
      (found : S.users.lookup userId = some user)
      (same : NamesMatch toLowerCase e.first_name e.last_name user) :
      Does toLowerCase S (.comparingNames userId nin e) .done S (some (.savingNin userId nin e))
  | ninSaved {userId : UserId} {nin : Text} {e : NinEntity} {T : Store}
      (saved : upsertKyc userId (writeNin nin e) S = .ok T) :
      Does toLowerCase S (.savingNin userId nin e) .done T none
  | accepted {userId : UserId} {dto : UploadDocumentDto} {e : DocumentEntity}
      (passed : e.overall_status = some 1) :
      Does toLowerCase S (.verifyingDocument userId dto) (.documentAnswer (some e)) S
        (some (.uploadingImages userId dto e))
  | uploaded {userId : UserId} {dto : UploadDocumentDto} {e : DocumentEntity} {front : Text}
      {back : Option Text} :
      Does toLowerCase S (.uploadingImages userId dto e) (.uploaded front back) S
        (some (.savingDocument userId dto e front back))
  | documentSaved {userId : UserId} {dto : UploadDocumentDto} {e : DocumentEntity} {front : Text}
      {back : Option Text} {T : Store}
      (saved : upsertKyc userId (writeDocument toLowerCase dto e front back) S = .ok T) :
      Does toLowerCase S (.savingDocument userId dto e front back) .done T
        (some (.raisingTier userId))
  | raised {userId : UserId} {user : User} (found : S.users.lookup userId = some user) :
      Does toLowerCase S (.raisingTier userId) .done
        { S with
          users := S.users.insert userId
            { user with kycVerificationStatus := .APPROVED, tier := some .TIER_2 } } none
  | addressAnswered {userId : UserId} {reference : Option Text} :
      Does toLowerCase S (.askingAddress userId) (.addressAnswer reference) S
        (some (.savingAddress userId reference))
  | addressSaved {userId : UserId} {reference : Option Text} {T : Store}
      (saved : upsertKyc userId (writeAddress reference) S = .ok T) :
      Does toLowerCase S (.savingAddress userId reference) .done T none
  | waits {t : Task} {o : Outcome} : Does toLowerCase S t o S (some t)

theorem found_eq_ok {α : Type} {o : Option α} {message : String} {a : α} :
    found o message = .ok a ↔ o = some a := by
  cases o <;> simp [found]

theorem ninEntity_eq_ok {r : NinAnswer} {e : NinEntity} :
    ninEntity r = .ok e ↔ r.entity = some e := by
  unfold ninEntity
  cases r.entity <;> simp

theorem acceptedDocument_eq_ok {entity : Option DocumentEntity} {e : DocumentEntity} :
    acceptedDocument entity = .ok e ↔ entity = some e ∧ e.overall_status = some 1 := by
  unfold acceptedDocument
  cases entity with
  | none => simp
  | some d =>
    by_cases hd : d.overall_status = some 1
    · simp only [hd, if_true, Except.ok.injEq, Option.some.injEq]
      constructor
      · rintro rfl
        exact ⟨rfl, hd⟩
      · exact fun h => h.1
    · simp only [hd, if_false, reduceCtorEq, Option.some.injEq, false_iff]
      rintro ⟨rfl, h⟩
      exact hd h

theorem resume_does {t : Task} {o : Outcome} {S T : Store} {next : Option Task}
    (h : resume toLowerCase t o S = .ok (T, next)) : Does toLowerCase S t o T next := by
  unfold resume at h
  split at h
  case h_1 _ userId nin r =>
    simp only [Block.ok_bind, ninEntity_eq_ok] at h
    obtain ⟨e, he, h⟩ := h
    cases h
    exact .ninAnswered he
  case h_2 _ userId nin e =>
    simp only [Block.ok_bind, found_eq_ok] at h
    obtain ⟨user, huser, h⟩ := h
    split at h
    · rename_i hmatch
      cases h
      exact .namesMatched huser hmatch
    · cases h
  case h_3 _ userId nin e =>
    simp only [Block.ok_bind] at h
    obtain ⟨T, hT, h⟩ := h
    cases h
    exact .ninSaved hT
  case h_4 _ userId dto entity =>
    simp only [Block.ok_bind, acceptedDocument_eq_ok] at h
    obtain ⟨e, ⟨rfl, he⟩, h⟩ := h
    cases h
    exact .accepted he
  case h_5 _ userId dto e front back =>
    cases h
    exact .uploaded
  case h_6 _ userId dto e front back =>
    simp only [Block.ok_bind] at h
    obtain ⟨T, hT, h⟩ := h
    cases h
    exact .documentSaved hT
  case h_7 _ userId =>
    simp only [Block.ok_bind, found_eq_ok] at h
    obtain ⟨user, huser, h⟩ := h
    cases h
    exact .raised huser
  case h_8 _ userId reference =>
    cases h
    exact .addressAnswered
  case h_9 _ userId reference =>
    simp only [Block.ok_bind] at h
    obtain ⟨T, hT, h⟩ := h
    cases h
    exact .addressSaved hT
  case h_10 => cases h
  case h_11 =>
    cases h
    exact .waits

theorem Does.sound {t : Task} {o : Outcome} {S T : Store} {next : Option Task}
    (h : Does toLowerCase S t o T next) (hS : NinsBound toLowerCase S)
    (ht : t.Sound toLowerCase S) :
    (NinsBound toLowerCase T ∧ Later toLowerCase S T) ∧
      ∀ u, next = some u → u.Sound toLowerCase T := by
  cases h with
  | ninAnswered entity => exact ⟨⟨hS, .refl S⟩, by rintro u ⟨⟩; trivial⟩
  | namesMatched found same => exact ⟨⟨hS, .refl S⟩, by rintro u ⟨⟩; exact ⟨_, found, same⟩⟩
  | ninSaved saved =>
    obtain ⟨user, huser, hmatch⟩ := ht
    exact ⟨upsertNin_sound hS huser hmatch saved, by simp⟩
  | accepted passed => exact ⟨⟨hS, .refl S⟩, by rintro u ⟨⟩; exact ht⟩
  | uploaded => exact ⟨⟨hS, .refl S⟩, by rintro u ⟨⟩; exact ht⟩
  | documentSaved saved =>
    have hT := upsertKeeping_sound hS (keepsNin_document _ _ _ _) saved
    exact ⟨hT, by rintro u ⟨⟩; exact hT.2.bound _ ht⟩
  | raised found => exact ⟨insertUser_sound hS found rfl rfl, by simp⟩
  | addressAnswered => exact ⟨⟨hS, .refl S⟩, by rintro u ⟨⟩; trivial⟩
  | addressSaved saved => exact ⟨upsertKeeping_sound hS (keepsNin_address _) saved, by simp⟩
  | waits => exact ⟨⟨hS, .refl S⟩, by rintro u ⟨⟩; exact ht⟩

theorem start_sound {r : Request} {S : Store} (hS : NinsBound toLowerCase S) {t : Task}
    (h : start r S = .ok t) : t.Sound toLowerCase S := by
  cases r with
  | validateNin userId nin =>
    simp only [start] at h
    split at h
    · cases h
    · cases h
      trivial
  | uploadDocument userId dto =>
    simp only [start] at h
    split at h
    · rename_i hverified
      cases h
      simp only [Option.any_eq_true] at hverified
      obtain ⟨k, hk, hkv⟩ := hverified
      exact hS.bound userId k hk hkv
    · cases h
  | verifyAddress userId =>
    cases h
    trivial

/-- The NINs are bound, and the requests under way have found out what they rest on. -/
structure SystemSound (toLowerCase : Text → Text) (s : System) : Prop where
  nins : NinsBound toLowerCase s.state
  tasks : ∀ t ∈ s.running, t.Sound toLowerCase s.state

theorem resume_state (toLowerCase : Text → Text) (t : Task) (o : Outcome) (S : Store) :
    (kyc toLowerCase).resume t o S = (S, none) ∨
      ∃ T next, (kyc toLowerCase).resume t o S = (T, next) ∧ Does toLowerCase S t o T next := by
  simp only [kyc]
  cases h : resume toLowerCase t o S with
  | ok r => exact .inr ⟨r.1, r.2, rfl, resume_does h⟩
  | error message => exact .inl rfl

theorem resume_sound {t : Task} {S : Store} (o : Outcome) (hS : NinsBound toLowerCase S)
    (ht : t.Sound toLowerCase S) :
    (NinsBound toLowerCase ((kyc toLowerCase).resume t o S).1 ∧
        Later toLowerCase S ((kyc toLowerCase).resume t o S).1) ∧
      ∀ u, ((kyc toLowerCase).resume t o S).2 = some u →
        u.Sound toLowerCase ((kyc toLowerCase).resume t o S).1 := by
  rcases resume_state toLowerCase t o S with h | ⟨T, next, h, hdoes⟩
  · rw [h]
    exact ⟨⟨hS, .refl S⟩, by simp⟩
  · rw [h]
    exact hdoes.sound hS ht

theorem start_eq_some {r : Request} {S : Store} {t : Task} :
    (kyc toLowerCase).start r S = some t ↔ start r S = .ok t := by
  simp only [kyc]
  cases start r S <;> simp [Except.toOption]

theorem step_sound {s : System} (hs : SystemSound toLowerCase s) (e : Event) :
    SystemSound toLowerCase (kycStep toLowerCase e s) ∧
      Later toLowerCase s.state (kycStep toLowerCase e s).state := by
  cases e with
  | start r =>
    refine ⟨⟨hs.nins, Handlers.forall_running_start hs.tasks ?_⟩, .refl s.state⟩
    intro t ht
    exact start_sound hs.nins (start_eq_some.mp ht)
  | resume n o =>
    cases hn : s.running[n]? with
    | none =>
      rw [kycStep, Handlers.step_resume_none hn]
      exact ⟨hs, .refl s.state⟩
    | some t =>
      have ht := hs.tasks t (List.mem_of_getElem? hn)
      obtain ⟨⟨hnins, hlater⟩, hnext⟩ := resume_sound o hs.nins ht
      rw [kycStep, Handlers.step_resume hn]
      exact ⟨⟨hnins, Handlers.forall_next (fun u hu => (hs.tasks u hu).later hlater) hnext⟩, hlater⟩
  | outside x =>
    have hx := signUp_sound hs.nins x
    exact ⟨⟨hx.1, fun t ht => (hs.tasks t ht).later hx.2⟩, hx.2⟩

theorem throughout_sound {s : System} (hs : SystemSound toLowerCase s) (es : List Event) :
    Run.Throughout (kycStep toLowerCase) (SystemSound toLowerCase) s es :=
  Run.throughout_of_step (P := SystemSound toLowerCase) (fun _ e h => (step_sound h e).1) hs es

theorem bound_final {s : System} (hs : SystemSound toLowerCase s) {userId : UserId}
    (hbound : Bound toLowerCase s.state userId) (es : List Event) :
    Bound toLowerCase (Run.final (kycStep toLowerCase) s es).state userId := by
  induction es generalizing s with
  | nil => exact hbound
  | cons e es ih =>
    obtain ⟨hnext, hlater⟩ := step_sound hs e
    exact ih hnext (hlater.bound userId hbound)

/-- However the requests interleave, a verified NIN is that of one account, and its record has the
names that the account is registered under. -/
theorem nins_stay_bound (toLowerCase : Text → Text) (s : System)
    (hs : SystemSound toLowerCase s) (es : List Event) :
    Run.Throughout (kycStep toLowerCase) (fun t => NinsBound toLowerCase t.state) s es :=
  (throughout_sound hs es).mono fun _ h => h.nins

/-- No account yet. -/
def noAccounts : System := ⟨⟨∅, ∅⟩, []⟩

theorem noAccounts_sound (toLowerCase : Text → Text) : SystemSound toLowerCase noAccounts := by
  constructor
  · constructor
    · intro userId k hk
      cases hk
    · intro i j a b _ hi
      cases hi
  · intro t ht
    cases ht

/-- An account, its NIN, and a passport. -/
def adaVerified : List Event :=
  [.outside ⟨1, "Ada".toList, "Obi".toList⟩,
    .start (.validateNin 1 "70123456789".toList),
    .resume 0 (.ninAnswer ⟨some ⟨some "ADA".toList, some " Obi".toList⟩,
      "NIN validation completed"⟩),
    .resume 0 .done, .resume 0 .done,
    .start (.uploadDocument 1 ⟨.INTERNATIONAL_PASSPORT, "front".toList, none⟩),
    .resume 0 (.documentAnswer (some ⟨some 1, none, none, []⟩)),
    .resume 0 (.uploaded "front.jpg".toList none), .resume 0 .done, .resume 0 .done]

theorem ada_nin_bound : Run.Throughout (kycStep (·.map Char.toLower))
    (fun t => NinsBound (·.map Char.toLower) t.state) noAccounts adaVerified :=
  nins_stay_bound _ noAccounts (noAccounts_sound _) adaVerified

/-! ### The second tier -/

/-- The account is in the second tier. -/
def Raised (userId : UserId) (S : Store) : Prop :=
  ∃ user, S.users.lookup userId = some user ∧ user.tier = some .TIER_2

/-- The request is one of this account whose document has been accepted. -/
def Task.HasPassed (userId : UserId) : Task → Prop
  | .uploadingImages i _ _ | .savingDocument i _ _ _ _ | .raisingTier i => i = userId
  | _ => False

/-- The account is in the second tier, or on its way there. -/
def OnTheWay (userId : UserId) (s : System) : Prop :=
  Raised userId s.state ∨ ∃ t ∈ s.running, t.HasPassed userId

theorem start_hasPassed {userId : UserId} {r : Request} {S : Store} {t : Task}
    (h : start r S = .ok t) : ¬ t.HasPassed userId := by
  cases r with
  | validateNin i nin =>
    simp only [start] at h
    split at h <;> cases h
    exact id
  | uploadDocument i dto =>
    simp only [start] at h
    split at h <;> cases h
    exact id
  | verifyAddress i =>
    cases h
    exact id

theorem raised_upsertKyc {userId i : UserId} {write : KycVerification → KycVerification}
    {S T : Store} (h : upsertKyc i write S = .ok T) : Raised userId T ↔ Raised userId S := by
  obtain ⟨-, rfl, -⟩ := upsertKyc_eq_ok h
  exact Iff.rfl

theorem raised_insertUser {userId i : UserId} {S : Store} {user : User}
    (h : Raised userId { S with users := S.users.insert i user }) (hi : i ≠ userId) :
    Raised userId S := by
  obtain ⟨u, hu, htier⟩ := h
  exact ⟨u, by simpa [AList.lookup_insert_ne hi.symm] using hu, htier⟩

theorem Does.on_the_way {userId : UserId} {t : Task} {o : Outcome} {S T : Store}
    {next : Option Task} (h : Does toLowerCase S t o T next) (hS : ¬ Raised userId S)
    (ht : ¬ t.HasPassed userId) (hT : Raised userId T ∨ ∃ u, next = some u ∧ u.HasPassed userId) :
    ∃ dto e, t = .verifyingDocument userId dto ∧ o = .documentAnswer (some e) ∧
      e.overall_status = some 1 := by
  cases h with
  | accepted passed =>
    rcases hT with hT | ⟨u, hu, hpassed⟩
    · exact absurd hT hS
    · cases hu
      obtain rfl : _ = userId := hpassed
      exact ⟨_, _, rfl, rfl, passed⟩
  | ninSaved saved => exact absurd hT (by simpa [raised_upsertKyc saved] using hS)
  | addressSaved saved => exact absurd hT (by simpa [raised_upsertKyc saved] using hS)
  | raised found =>
    rcases hT with hT | ⟨u, hu, -⟩
    · exact absurd (raised_insertUser hT ht) hS
    · cases hu
  | uploaded =>
    rcases hT with hT | ⟨u, hu, hpassed⟩
    · exact absurd hT hS
    · cases hu
      exact absurd hpassed ht
  | documentSaved saved =>
    rcases hT with hT | ⟨u, hu, hpassed⟩
    · exact absurd ((raised_upsertKyc saved).mp hT) hS
    · cases hu
      exact absurd hpassed ht
  | waits =>
    rcases hT with hT | ⟨u, hu, hpassed⟩
    · exact absurd hT hS
    · cases hu
      exact absurd hpassed ht
  | _ =>
    rcases hT with hT | ⟨u, hu, hpassed⟩
    · exact absurd hT hS
    · cases hu
      exact hpassed.elim

theorem step_on_the_way {userId : UserId} {s : System} {a : Event} (hs : ¬ OnTheWay userId s)
    (h : OnTheWay userId (kycStep toLowerCase a s)) :
    ∃ n dto e, a = .resume n (.documentAnswer (some e)) ∧ e.overall_status = some 1 ∧
      s.running[n]? = some (.verifyingDocument userId dto) := by
  simp only [OnTheWay, not_or, not_exists, not_and] at hs
  obtain ⟨hraised, htasks⟩ := hs
  cases a with
  | start r =>
    rcases h with h | ⟨t, ht, hpassed⟩
    · exact absurd h hraised
    · rcases List.mem_append.mp ht with ht | ht
      · exact absurd hpassed (htasks t ht)
      · exact absurd hpassed (start_hasPassed (start_eq_some.mp (Option.mem_toList.mp ht)))
  | resume n o =>
    cases hn : s.running[n]? with
    | none =>
      rw [kycStep, Handlers.step_resume_none hn] at h
      rcases h with h | ⟨t, ht, hpassed⟩
      · exact absurd h hraised
      · exact absurd hpassed (htasks t ht)
    | some t =>
      have ht := htasks t (List.mem_of_getElem? hn)
      have hrest (u : Task) (hu : u ∈ s.running.eraseIdx n) : ¬ u.HasPassed userId :=
        htasks u (List.mem_of_mem_eraseIdx hu)
      rw [kycStep, Handlers.step_resume hn] at h
      rcases resume_state toLowerCase t o s.state with hr | ⟨T, next, hr, hdoes⟩
      · rw [hr] at h
        rcases h with h | ⟨u, hu, hpassed⟩
        · exact absurd h hraised
        · exact absurd hpassed (hrest u (by simpa using hu))
      · rw [hr] at h
        have hT : Raised userId T ∨ ∃ u, next = some u ∧ u.HasPassed userId := by
          rcases h with h | ⟨u, hu, hpassed⟩
          · exact .inl h
          · rcases List.mem_append.mp hu with hu | hu
            · exact absurd hpassed (hrest u hu)
            · exact .inr ⟨u, Option.mem_toList.mp hu, hpassed⟩
        obtain ⟨dto, e, rfl, rfl, he⟩ := hdoes.on_the_way hraised ht hT
        exact ⟨n, dto, e, rfl, he, hn⟩
  | outside x =>
    rcases h with h | ⟨t, ht, hpassed⟩
    · obtain ⟨user, huser, htier⟩ := h
      simp only [kycStep, Handlers.step, kyc, signUp] at huser
      split at huser
      · by_cases hi : userId = x.userId
        · subst hi
          simp only [AList.lookup_insert, Option.some.injEq] at huser
          subst huser
          cases htier
        · exact absurd ⟨user, by simpa [AList.lookup_insert_ne hi] using huser, htier⟩ hraised
      · exact absurd ⟨user, huser, htier⟩ hraised
    · exact absurd hpassed (htasks t ht)

/-- An account that a run has taken to the second tier had a document accepted in that run, while it
was bound to a NIN with its names, and it is bound to one still. -/
theorem second_tier_entitled (toLowerCase : Text → Text) (s : System)
    (hs : SystemSound toLowerCase s) (userId : UserId) (hstart : ¬ OnTheWay userId s)
    (es : List Event) (h : Raised userId (Run.final (kycStep toLowerCase) s es).state) :
    Bound toLowerCase (Run.final (kycStep toLowerCase) s es).state userId ∧
      ∃ before n dto e after, es = before ++ .resume n (.documentAnswer (some e)) :: after ∧
        e.overall_status = some 1 ∧
        (Run.final (kycStep toLowerCase) s before).running[n]? =
          some (.verifyingDocument userId dto) ∧
        Bound toLowerCase (Run.final (kycStep toLowerCase) s before).state userId := by
  obtain ⟨before, a, after, rfl, hnot, hway⟩ := Run.origin hstart (P := OnTheWay userId) (.inl h)
  obtain ⟨n, dto, e, rfl, he, hn⟩ := step_on_the_way hnot hway.head
  have hsound := (throughout_sound hs before).last
  have hbound : Bound toLowerCase (Run.final (kycStep toLowerCase) s before).state userId :=
    hsound.tasks _ (List.mem_of_getElem? hn)
  refine ⟨?_, before, n, dto, e, after, rfl, he, hn, hbound⟩
  rw [Run.final_append]
  exact bound_final hsound hbound _

theorem ada_entitled : Bound (·.map Char.toLower)
    (Run.final (kycStep (·.map Char.toLower)) noAccounts adaVerified).state 1 := by
  refine (second_tier_entitled _ noAccounts (noAccounts_sound _) 1 ?_ adaVerified ?_).1
  · rintro (⟨user, huser, -⟩ | ⟨t, ht, -⟩)
    · cases huser
    · cases ht
  · exact ⟨⟨some "Ada".toList, some "Obi".toList, .APPROVED, some .TIER_2⟩, by decide +kernel, rfl⟩

end Kyc

end ExchangeLedger
