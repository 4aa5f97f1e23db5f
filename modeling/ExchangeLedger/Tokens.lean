import ExchangeLedger.Block
import ExchangeLedger.Run
import ExchangeLedger.Table

set_option autoImplicit false

/-! The tokens of `TokenService`: their rows, the two verifications, and what revokes them. -/

namespace ExchangeLedger

namespace TokenService

inductive UserType where
  | INDIVIDUAL | CORPORATE | ADMIN
  deriving DecidableEq, Repr

inductive TokenType where
  | REFRESH | ACCESS | EMAIL_VERIFICATION | PASSWORD_RESET | PASSWORD_CHANGE
  deriving DecidableEq, Repr

/-- Only refresh tokens name the user type. -/
structure Payload where
  id : Nat
  userType : Option UserType
  type : TokenType
  deriving DecidableEq, Repr

/-- A signed text. It is a function of what is signed, of the secret and of the second in which it
is signed, and only the same secret verifies it. -/
structure Jwt where
  payload : Payload
  secret : Nat
  iat : Nat
  exp : Nat
  deriving DecidableEq, Repr

inductive Owner where
  | user (userId : Nat)
  | admin (adminId : Nat)
  deriving DecidableEq, Repr

def Owner.id : Owner → Nat
  | .user userId => userId
  | .admin adminId => adminId

/-- `@@unique([userId, type])` and `@@unique([adminId, type])`. -/
abbrev TokenKey := Owner × TokenType

structure Token where
  token : Jwt
  userType : UserType
  expiresAt : Nat
  isRevoked : Bool
  deriving DecidableEq, Repr

/-- The accounts and the environment. -/
structure Config where
  users : Nat → Option UserType
  admins : Nat → Bool
  secret : TokenType → Nat
  /-- In seconds. -/
  JWT_REFRESH_EXPIRATION : Nat

/-- Times are counted in milliseconds. -/
structure State where
  now : Nat
  tokens : Table TokenKey Token
  isEmailVerified : Nat → Bool

namespace Config

variable (config : Config)

def userTypeOf : Owner → Option UserType
  | .user userId => config.users userId
  | .admin adminId => if config.admins adminId then some .ADMIN else none

def getSecretForTokenType : TokenType → Except String Nat
  | .ACCESS => .error "Invalid token type"
  | type => .ok (config.secret type)

/-- `expiresIn` in seconds: 24 hours for an email's verification, 15 minutes for a reset. -/
def expiresIn : TokenType → Nat
  | .EMAIL_VERIFICATION => 24 * 60 * 60
  | .PASSWORD_RESET => 15 * 60
  | _ => config.JWT_REFRESH_EXPIRATION

/-- The text that an owner's token of a type gets in a second. -/
def sign (key : TokenKey) (second : Nat) : Jwt where
  payload := {
    id := key.1.id
    userType := if key.2 = .REFRESH then config.userTypeOf key.1 else none
    type := key.2 }
  secret := config.secret key.2
  iat := second
  exp := second + config.expiresIn key.2

end Config

namespace State

variable (config : Config) (s : State)

def second : Nat := s.now / 1000

/-- Another row holds the text, against `token @unique`. -/
def taken (key : TokenKey) (token : Jwt) : Bool :=
  s.tokens.entries.any (fun e => e.1 ≠ key ∧ e.2.token = token)

def put (key : TokenKey) (row : Token) : Except String State :=
  if s.taken key row.token then .error "Unique constraint failed"
  else .ok { s with tokens := s.tokens.insert key row }

/-- `generateToken`; a second token of an owner and a type breaks the unique constraint. -/
def generateToken (owner : Owner) (type : TokenType) : Except String State :=
  match config.userTypeOf owner with
  | none => .error "Foreign key constraint failed"
  | some userType =>
    if (s.tokens.lookup (owner, type)).isSome then .error "Unique constraint failed"
    else s.put (owner, type) {
      token := config.sign (owner, type) s.second
      userType := userType
      expiresAt := s.now + config.expiresIn type * 1000
      isRevoked := false }

/-- `generateTokens` and the callers' upsert of the refresh token, which is not revoked then. -/
def signIn (owner : Owner) : Except String State :=
  match config.userTypeOf owner with
  | none => .error "Foreign key constraint failed"
  | some userType => s.put (owner, .REFRESH) {
      token := config.sign (owner, .REFRESH) s.second
      userType := userType
      expiresAt := s.now + 7 * 24 * 60 * 60 * 1000
      isRevoked := false }

/-- `jwtService.verifyAsync`. -/
def verifyAsync (token : Jwt) (secret : Nat) : Bool := token.secret = secret ∧ s.second < token.exp

def find (p : TokenKey → Token → Bool) : Option (TokenKey × Token) :=
  (s.tokens.entries.find? (fun e => p e.1 e.2)).map (fun e => (e.1, e.2))

/-- The column `isRevoked` is not read here. -/
def verifyToken (token : Jwt) (type : TokenType) : Except String (TokenKey × Token) := do
  let secret ← config.getSecretForTokenType type
  if s.verifyAsync token secret = false then .error "invalid signature or jwt expired"
  else if token.payload.type ≠ type then .error "Invalid token type"
  else match s.find (fun _ row => row.token = token) with
    | some (key, tokenRecord) =>
      if tokenRecord.expiresAt < s.now then .error "Token invalid or expired"
      else .ok (key, tokenRecord)
    | none => .error "Token invalid or expired"

def revokeWhere (p : TokenKey → Token → Bool) : State :=
  { s with tokens := s.tokens.mapRows (fun key row =>
      if p key row then { row with isRevoked := true } else row) }

/-- `revokeToken`, and `revokePasswordResetToken`. -/
def revokeToken (token : Jwt) : Except String State :=
  match s.find (fun _ row => row.token = token) with
  | some _ => .ok (s.revokeWhere (fun _ row => row.token = token))
  | none => .error "Record to update not found"

/-- The `where` of `revokeAllUserTokens`: a given type counts unless it is `REFRESH`. -/
def ofUser (userId : Nat) (type : Option TokenType) (key : TokenKey) : Bool :=
  key.1 = .user userId ∧ (type = none ∨ type = some .REFRESH ∨ type = some key.2)

def revokeAllUserTokens (userId : Nat) (type : Option TokenType) : State :=
  s.revokeWhere (fun key _ => ofUser userId type key)

/-- An admin's token has no `user`. -/
def verifyEmailToken (token : Jwt) : Except String State := do
  let tokenData ← s.verifyToken config token .EMAIL_VERIFICATION
  match tokenData.1.1 with
  | .admin _ => .error "Cannot read properties of null"
  | .user userId =>
    if s.isEmailVerified userId then .error "Email already verified"
    else
      let verified := { s with isEmailVerified := Function.update s.isEmailVerified userId true }
      verified.revokeToken token

/-- `id`, `userType` and `userId` of the answer come from the row. -/
def verifyPasswordResetToken (token : Jwt) : Except String (Owner × UserType) := do
  let tokenRecord ← s.verifyToken config token .PASSWORD_RESET
  return (tokenRecord.1.1, tokenRecord.2.userType)

/-- The account that a verified refresh token stands for. -/
def refreshedAccount (refreshToken : Jwt) (key : TokenKey) : Except String (Owner × UserType) :=
  if refreshToken.payload.userType = some .ADMIN then
    let adminId := match key.1 with
      | .admin adminId => adminId
      | .user _ => refreshToken.payload.id
    if config.admins adminId then .ok (.admin adminId, .ADMIN) else .error "Admin not found"
  else match key.1 with
    | .admin _ => .error "Argument id must not be null"
    | .user userId =>
      match config.users userId with
      | some userType => .ok (.user userId, userType)
      | none => .error "User not found"

def verifyRefreshToken (refreshToken : Jwt) : Except String (Owner × UserType) := do
  let secret ← config.getSecretForTokenType .REFRESH
  if s.verifyAsync refreshToken secret = false then .error "Invalid or expired refresh token"
  else if refreshToken.payload.type ≠ .REFRESH then .error "Invalid refresh token payload"
  else match s.find (fun key row =>
      row.token = refreshToken ∧ key.2 = .REFRESH ∧ row.isRevoked = false) with
    | none => .error "Refresh token revoked or invalid"
    | some (key, _) => refreshedAccount config refreshToken key

end State

/-! ### Runs -/

inductive Operation where
  | wait (milliseconds : Nat)
  | generateEmailVerificationToken (owner : Owner)
  | generateResetPasswordToken (owner : Owner)
  | signIn (owner : Owner)
  | verifyEmailToken (token : Jwt)
  | verifyPasswordResetToken (token : Jwt)
  | verifyRefreshToken (refreshToken : Jwt)
  | revokeToken (token : Jwt)
  | revokePasswordResetToken (token : Jwt)
  | revokeAllUserTokens (userId : Nat) (type : Option TokenType)
  deriving DecidableEq, Repr

def stored (s : State) (x : Except String State) : State :=
  match x with
  | .ok t => t
  | .error _ => s

namespace Operation

variable (config : Config)

def perform (s : State) : Operation → State
  | .wait milliseconds => { s with now := s.now + milliseconds }
  | .generateEmailVerificationToken owner =>
    stored s (s.generateToken config owner .EMAIL_VERIFICATION)
  | .generateResetPasswordToken owner => stored s (s.generateToken config owner .PASSWORD_RESET)
  | .signIn owner => stored s (s.signIn config owner)
  | .verifyEmailToken token => stored s (s.verifyEmailToken config token)
  | .verifyPasswordResetToken _ | .verifyRefreshToken _ => s
  | .revokeToken token | .revokePasswordResetToken token => stored s (s.revokeToken token)
  | .revokeAllUserTokens userId type => s.revokeAllUserTokens userId type

/-- The token that the operation verifies with success. -/
def verifies (s : State) : Operation → Option Jwt
  | .verifyEmailToken token => (s.verifyEmailToken config token).toOption.map (fun _ => token)
  | .verifyPasswordResetToken token =>
    (s.verifyPasswordResetToken config token).toOption.map (fun _ => token)
  | .verifyRefreshToken token => (s.verifyRefreshToken config token).toOption.map (fun _ => token)
  | _ => none

/-- The tokens that the operation revokes. -/
def revokes (s : State) : Operation → List Jwt
  | .verifyEmailToken token => (s.verifyEmailToken config token).toOption.toList.map
      (fun _ => token)
  | .revokeToken token | .revokePasswordResetToken token =>
    (s.revokeToken token).toOption.toList.map (fun _ => token)
  | .revokeAllUserTokens userId type =>
    (s.tokens.entries.filter (fun e => State.ofUser userId type e.1)).map (fun e => e.2.token)
  | _ => []

end Operation

/-- The state, and every token that was ever revoked. -/
structure History where
  state : State
  revoked : List Jwt

def step (config : Config) (op : Operation) (h : History) : History where
  state := op.perform config h.state
  revoked := op.revokes config h.state ++ h.revoked

/-- A verification that succeeds is of a token that was never revoked. -/
def NeverAgain (config : Config) (h : History) (op : Operation) : Prop :=
  ∀ token, op.verifies config h.state = some token → token ∉ h.revoked

/-- The row of the token is revoked, and everything that `verifyToken` does look at is in order. -/
def Reusable (config : Config) (s : State) (token : Jwt) (type : TokenType)
    (p : Owner → Bool) : Prop :=
  s.verifyAsync token (config.secret type) = true ∧ token.payload.type = type ∧
    ∃ e ∈ s.tokens.entries, e.2.token = token ∧ e.2.isRevoked = true ∧ s.now ≤ e.2.expiresAt ∧
      p e.1.1 = true

def State.unverified (s : State) : Owner → Bool
  | .user userId => !s.isEmailVerified userId
  | .admin _ => false

/-- No revoked token is presented to `verifyToken` while it has not run out, and no sign-in gets
the very text that was revoked in the same second. -/
def Spared (config : Config) (h : History) : Operation → Prop
  | .verifyEmailToken token =>
    ¬ Reusable config h.state token .EMAIL_VERIFICATION h.state.unverified
  | .verifyPasswordResetToken token =>
    ¬ Reusable config h.state token .PASSWORD_RESET (fun _ => true)
  | .signIn owner => ∀ e ∈ h.state.tokens.entries,
      e.2.token = config.sign (owner, .REFRESH) h.state.second → e.2.isRevoked = false
  | _ => True

/-- A text is in one row at most, which is revoked if the text ever was; a text that is in no row
any more was signed in an earlier second. -/
structure Sound (config : Config) (h : History) : Prop where
  unique : ∀ k l a b, h.state.tokens.lookup k = some a → h.state.tokens.lookup l = some b →
    a.token = b.token → k = l
  signed : ∀ key row, h.state.tokens.lookup key = some row →
    row.token = config.sign key row.token.iat ∧ row.token.iat ≤ h.state.second
  revoked : ∀ token ∈ h.revoked, ∀ key row, h.state.tokens.lookup key = some row →
    row.token = token → row.isRevoked = true
  past : ∀ token ∈ h.revoked, (∃ key row, h.state.tokens.lookup key = some row ∧
    row.token = token) ∨ token.iat < h.state.second

theorem find_eq_some {s : State} {p : TokenKey → Token → Bool} {key : TokenKey} {row : Token}
    (h : s.find p = some (key, row)) : s.tokens.lookup key = some row ∧ p key row = true := by
  unfold State.find at h
  obtain ⟨e, he, heq⟩ := Option.map_eq_some_iff.mp h
  cases heq
  have hp := List.find?_some he
  exact ⟨AList.mem_lookup_iff.mpr (List.mem_of_find?_eq_some he), hp⟩

/-- What a token that `verifyToken` accepts has passed. -/
theorem verifyToken_ok {config : Config} {s : State} {token : Jwt} {type : TokenType}
    {key : TokenKey} {row : Token} (h : s.verifyToken config token type = .ok (key, row)) :
    s.verifyAsync token (config.secret type) = true ∧ token.payload.type = type ∧
      s.tokens.lookup key = some row ∧ row.token = token ∧ s.now ≤ row.expiresAt := by
  obtain ⟨secret, hsecret, h⟩ := Block.ok_bind.mp h
  have hconfigured : secret = config.secret type := by
    cases type with
    | ACCESS => cases hsecret
    | _ =>
      cases hsecret
      rfl
  subst hconfigured
  split at h
  · cases h
  · rename_i hverify
    split at h
    · cases h
    · rename_i htype
      split at h
      · rename_i key' row' hfind
        split at h
        · cases h
        · rename_i hexpired
          cases h
          obtain ⟨hlookup, htoken⟩ := find_eq_some hfind
          exact ⟨by simpa using hverify, by simpa using htype, hlookup, by simpa using htoken,
            by omega⟩
      · cases h

theorem verifyEmailToken_ok {config : Config} {s t : State} {token : Jwt}
    (h : s.verifyEmailToken config token = .ok t) :
    ∃ userId type row, s.verifyToken config token .EMAIL_VERIFICATION =
        .ok ((.user userId, type), row) ∧ s.isEmailVerified userId = false ∧
      t = { s.revokeWhere (fun _ row => row.token = token) with
        isEmailVerified := Function.update s.isEmailVerified userId true } := by
  obtain ⟨⟨⟨owner, type⟩, row⟩, hverify, h⟩ := Block.ok_bind.mp h
  cases owner with
  | admin adminId => cases h
  | user userId =>
    cases hverified : s.isEmailVerified userId with
    | true => simp [hverified] at h
    | false =>
      refine ⟨userId, type, row, hverify, hverified, ?_⟩
      simp only [hverified, Bool.false_eq_true, if_false, State.revokeToken] at h
      split at h
      · exact (Except.ok.inj h).symm
      · cases h

theorem verifyRefreshToken_ok {config : Config} {s : State} {token : Jwt}
    {answer : Owner × UserType} (h : s.verifyRefreshToken config token = .ok answer) :
    ∃ key row, s.tokens.lookup key = some row ∧ row.token = token ∧ row.isRevoked = false := by
  obtain ⟨secret, -, h⟩ := Block.ok_bind.mp h
  split at h
  · cases h
  · split at h
    · cases h
    · split at h
      · cases h
      · rename_i key row hfind
        obtain ⟨hlookup, hp⟩ := find_eq_some hfind
        simp only [decide_eq_true_eq] at hp
        exact ⟨key, row, hlookup, hp.1, hp.2.2⟩

section Preserved

variable {config : Config} {h : History}

theorem Sound.wait (hs : Sound config h) (milliseconds : Nat) :
    Sound config ⟨{ h.state with now := h.state.now + milliseconds }, h.revoked⟩ := by
  have hlater : h.state.second ≤ (h.state.now + milliseconds) / 1000 :=
    Nat.div_le_div_right (by omega)
  constructor
  · exact hs.unique
  · intro key row hrow
    obtain ⟨hsign, hiat⟩ := hs.signed key row hrow
    exact ⟨hsign, hiat.trans hlater⟩
  · exact hs.revoked
  · intro token htoken
    rcases hs.past token htoken with hrow | hiat
    · exact .inl hrow
    · exact .inr (lt_of_lt_of_le hiat hlater)

theorem not_taken {s : State} {key : TokenKey} {token : Jwt} (h : s.taken key token = false)
    {other : TokenKey} {row : Token} (hrow : s.tokens.lookup other = some row)
    (htoken : row.token = token) : other = key := by
  unfold State.taken at h
  rw [List.any_eq_false] at h
  have hother := h ⟨other, row⟩ (AList.mem_lookup_iff.mp hrow)
  by_contra hne
  simp [hne, htoken] at hother

theorem Sound.sign_notMem (hs : Sound config h) {key : TokenKey}
    (hfree : ∀ k row, h.state.tokens.lookup k = some row →
      row.token = config.sign key h.state.second → row.isRevoked = false) :
    config.sign key h.state.second ∉ h.revoked := by
  intro hmem
  rcases hs.past _ hmem with ⟨k, row, hrow, htoken⟩ | hiat
  · have hrevoked := hs.revoked _ hmem k row hrow htoken
    rw [hfree k row hrow htoken] at hrevoked
    cases hrevoked
  · exact absurd hiat (by simp [Config.sign])

theorem Sound.put (hs : Sound config h) {key : TokenKey} {row : Token} {t : State}
    (hput : h.state.put key row = .ok t) (hsign : row.token = config.sign key h.state.second)
    (hfree : ∀ k row, h.state.tokens.lookup k = some row →
      row.token = config.sign key h.state.second → row.isRevoked = false) :
    Sound config ⟨t, h.revoked⟩ := by
  have hnew := hs.sign_notMem hfree
  unfold State.put at hput
  cases htaken : h.state.taken key row.token with
  | true => simp [htaken] at hput
  | false =>
    simp only [htaken, Bool.false_eq_true, if_false, Except.ok.injEq] at hput
    subst hput
    have hlookup (k : TokenKey) (a : Token)
        (ha : (h.state.tokens.insert key row).lookup k = some a) :
        (k = key ∧ a = row) ∨ (k ≠ key ∧ h.state.tokens.lookup k = some a) := by
      rw [Table.lookup_insert] at ha
      split at ha
      · rename_i hk
        cases ha
        exact .inl ⟨hk, rfl⟩
      · rename_i hk
        exact .inr ⟨hk, ha⟩
    constructor
    · intro k l a b hk hl hab
      rcases hlookup k a hk with ⟨hk', ha⟩ | ⟨-, hk'⟩
      · rcases hlookup l b hl with ⟨hl', -⟩ | ⟨-, hl'⟩
        · rw [hk', hl']
        · rw [hk', not_taken htaken hl' (ha ▸ hab.symm)]
      · rcases hlookup l b hl with ⟨hl', hb⟩ | ⟨-, hl'⟩
        · rw [hl', not_taken htaken hk' (hb ▸ hab)]
        · exact hs.unique k l a b hk' hl' hab
    · intro k a hk
      rcases hlookup k a hk with ⟨rfl, rfl⟩ | ⟨-, hk⟩
      · rw [hsign]
        exact ⟨rfl, le_refl _⟩
      · exact hs.signed k a hk
    · intro token htoken k a hk ha
      rcases hlookup k a hk with ⟨rfl, rfl⟩ | ⟨-, hk⟩
      · rw [hsign] at ha
        exact absurd (ha ▸ htoken) hnew
      · exact hs.revoked token htoken k a hk ha
    · intro token htoken
      rcases hs.past token htoken with ⟨k, a, hk, ha⟩ | hiat
      · by_cases hkey : k = key
        · obtain ⟨haSign, haIat⟩ := hs.signed k a hk
          -- the row that is overwritten held a text of an earlier second
          refine .inr (lt_of_le_of_ne (ha ▸ haIat) fun hsame => hnew ?_)
          change token.iat = h.state.second at hsame
          rw [← hkey, ← hsame, ← ha, ← haSign, ha]
          exact htoken
        · exact .inl ⟨k, a, by rw [AList.lookup_insert_ne hkey]; exact hk, ha⟩
      · exact .inr hiat

/-- The tokens `rs` of the rows that are revoked become revoked ones. -/
theorem Sound.revokeWhere (hs : Sound config h) (p : TokenKey → Token → Bool) {rs : List Jwt}
    (hrs : ∀ token ∈ rs, ∃ key row, h.state.tokens.lookup key = some row ∧ row.token = token ∧
      p key row = true) :
    Sound config ⟨h.state.revokeWhere p, rs ++ h.revoked⟩ := by
  have hlookup (k : TokenKey) (a : Token) (ha : (h.state.revokeWhere p).tokens.lookup k = some a) :
      ∃ b, h.state.tokens.lookup k = some b ∧ a.token = b.token ∧
        (b.isRevoked = true ∨ p k b = true → a.isRevoked = true) := by
    simp only [State.revokeWhere, Table.lookup_mapRows, Option.map_eq_some_iff] at ha
    obtain ⟨b, hb, rfl⟩ := ha
    refine ⟨b, hb, ?_⟩
    split
    · exact ⟨rfl, fun _ => rfl⟩
    · rename_i hp
      exact ⟨rfl, fun hor => hor.resolve_right hp⟩
  constructor
  · intro k l a b hk hl hab
    obtain ⟨a', ha', hta, -⟩ := hlookup k a hk
    obtain ⟨b', hb', htb, -⟩ := hlookup l b hl
    exact hs.unique k l a' b' ha' hb' (by rw [← hta, ← htb, hab])
  · intro k a hk
    obtain ⟨b, hb, htoken, -⟩ := hlookup k a hk
    rw [htoken]
    exact hs.signed k b hb
  · intro token hmem k a hk ha
    obtain ⟨b, hb, htoken, hrevoked⟩ := hlookup k a hk
    have hbtoken : b.token = token := htoken.symm.trans ha
    apply hrevoked
    rcases List.mem_append.mp hmem with hnew | hold
    · obtain ⟨key, row, hrow, hrowToken, hp⟩ := hrs token hnew
      obtain rfl := hs.unique key k row b hrow hb (hrowToken.trans hbtoken.symm)
      rw [hrow] at hb
      cases hb
      exact .inr hp
    · exact .inl (hs.revoked token hold k b hb hbtoken)
  · have hkept (token : Jwt) (hrow : ∃ key row, h.state.tokens.lookup key = some row ∧
        row.token = token) : ∃ key row, (h.state.revokeWhere p).tokens.lookup key = some row ∧
          row.token = token := by
      obtain ⟨key, row, hrow, htoken⟩ := hrow
      refine ⟨key, if p key row then { row with isRevoked := true } else row, ?_, ?_⟩
      · simp [State.revokeWhere, hrow]
      · split
        · exact htoken
        · exact htoken
    intro token hmem
    rcases List.mem_append.mp hmem with hnew | hold
    · obtain ⟨key, row, hrow, htoken, -⟩ := hrs token hnew
      exact .inl (hkept token ⟨key, row, hrow, htoken⟩)
    · rcases hs.past token hold with hrow | hiat
      · exact .inl (hkept token hrow)
      · exact .inr hiat

theorem Sound.generateToken (hs : Sound config h) (owner : Owner) (type : TokenType) :
    Sound config ⟨stored h.state (h.state.generateToken config owner type), h.revoked⟩ := by
  cases hgenerate : h.state.generateToken config owner type with
  | error e => exact hs
  | ok t =>
    unfold State.generateToken at hgenerate
    split at hgenerate
    · cases hgenerate
    · split at hgenerate
      · cases hgenerate
      · rename_i hnone
        refine hs.put hgenerate rfl ?_
        intro key row hrow htoken
        have htaken : h.state.taken (owner, type) (config.sign (owner, type) h.state.second) =
            false := by
          cases htaken : h.state.taken (owner, type) (config.sign (owner, type) h.state.second) with
          | false => rfl
          | true => simp [State.put, htaken] at hgenerate
        rw [not_taken htaken hrow htoken] at hrow
        simp [hrow] at hnone

theorem Sound.signIn (hs : Sound config h) {owner : Owner}
    (hspared : Spared config h (.signIn owner)) :
    Sound config ⟨stored h.state (h.state.signIn config owner), h.revoked⟩ := by
  cases hsignIn : h.state.signIn config owner with
  | error e => exact hs
  | ok t =>
    unfold State.signIn at hsignIn
    split at hsignIn
    · cases hsignIn
    · exact hs.put hsignIn rfl fun k row hrow => hspared ⟨k, row⟩ (AList.mem_lookup_iff.mp hrow)

theorem Sound.revokeFound (hs : Sound config h) {token : Jwt} {key : TokenKey} {row : Token}
    (hrow : h.state.tokens.lookup key = some row) (htoken : row.token = token) :
    Sound config ⟨h.state.revokeWhere (fun _ row => row.token = token), token :: h.revoked⟩ := by
  have hrows : ∀ t ∈ [token], ∃ key row, h.state.tokens.lookup key = some row ∧ row.token = t ∧
      decide (row.token = token) = true := by
    intro t ht
    rw [List.mem_singleton.mp ht]
    exact ⟨key, row, hrow, htoken, by simpa using htoken⟩
  exact hs.revokeWhere (fun _ row => row.token = token) hrows

theorem Sound.revokeToken (hs : Sound config h) (token : Jwt) :
    Sound config ⟨stored h.state (h.state.revokeToken token),
      (h.state.revokeToken token).toOption.toList.map (fun _ => token) ++ h.revoked⟩ := by
  unfold State.revokeToken
  split
  · rename_i found hfind
    obtain ⟨key, row⟩ := found
    obtain ⟨hrow, htoken⟩ := find_eq_some hfind
    exact hs.revokeFound hrow (by simpa using htoken)
  · exact hs

theorem Sound.verifyEmailToken (hs : Sound config h) (token : Jwt) :
    Sound config ⟨stored h.state (h.state.verifyEmailToken config token),
      (h.state.verifyEmailToken config token).toOption.toList.map (fun _ => token) ++
        h.revoked⟩ := by
  cases hverify : h.state.verifyEmailToken config token with
  | error e => exact hs
  | ok t =>
    obtain ⟨userId, type, row, hok, -, rfl⟩ := verifyEmailToken_ok hverify
    obtain ⟨-, -, hrow, htoken, -⟩ := verifyToken_ok hok
    have hrevoked := hs.revokeFound hrow htoken
    exact ⟨hrevoked.unique, hrevoked.signed, hrevoked.revoked, hrevoked.past⟩

theorem Sound.revokeAllUserTokens (hs : Sound config h) (userId : Nat) (type : Option TokenType) :
    Sound config ⟨h.state.revokeAllUserTokens userId type,
      (h.state.tokens.entries.filter (fun e => State.ofUser userId type e.1)).map
        (fun e => e.2.token) ++ h.revoked⟩ := by
  refine hs.revokeWhere (fun key _ => State.ofUser userId type key) ?_
  intro token htoken
  obtain ⟨e, he, rfl⟩ := List.mem_map.mp htoken
  obtain ⟨hmem, hp⟩ := List.mem_filter.mp he
  exact ⟨e.1, e.2, AList.mem_lookup_iff.mpr hmem, rfl, hp⟩

theorem Sound.step (hs : Sound config h) {op : Operation} (hspared : Spared config h op) :
    Sound config (step config op h) := by
  cases op with
  | wait milliseconds => exact hs.wait milliseconds
  | generateEmailVerificationToken owner => exact hs.generateToken owner .EMAIL_VERIFICATION
  | generateResetPasswordToken owner => exact hs.generateToken owner .PASSWORD_RESET
  | signIn owner => exact hs.signIn hspared
  | verifyEmailToken token => exact hs.verifyEmailToken token
  | verifyPasswordResetToken token => exact hs
  | verifyRefreshToken token => exact hs
  | revokeToken token => exact hs.revokeToken token
  | revokePasswordResetToken token => exact hs.revokeToken token
  | revokeAllUserTokens userId type => exact hs.revokeAllUserTokens userId type

theorem verified_of_ok {ε α : Type} {x : Except ε α} {token t : Jwt}
    (h : x.toOption.map (fun _ => token) = some t) : t = token ∧ ∃ a, x = .ok a := by
  cases x with
  | error e => cases h
  | ok a =>
    cases h
    exact ⟨rfl, a, rfl⟩

theorem Sound.neverAgain (hs : Sound config h) {op : Operation} (hspared : Spared config h op) :
    NeverAgain config h op := by
  intro t hverified hmem
  cases op with
  | verifyEmailToken token =>
    obtain ⟨rfl, _, hverify⟩ := verified_of_ok hverified
    obtain ⟨userId, type, row, hok, hunverified, -⟩ := verifyEmailToken_ok hverify
    obtain ⟨hsigned, htype, hrow, htoken, hnow⟩ := verifyToken_ok hok
    exact hspared ⟨hsigned, htype, _, AList.mem_lookup_iff.mp hrow, htoken,
      hs.revoked t hmem _ row hrow htoken, hnow, by simp [State.unverified, hunverified]⟩
  | verifyPasswordResetToken token =>
    obtain ⟨rfl, _, hverify⟩ := verified_of_ok hverified
    obtain ⟨⟨key, row⟩, hok, -⟩ := Block.ok_bind.mp hverify
    obtain ⟨hsigned, htype, hrow, htoken, hnow⟩ := verifyToken_ok hok
    exact hspared ⟨hsigned, htype, _, AList.mem_lookup_iff.mp hrow, htoken,
      hs.revoked t hmem key row hrow htoken, hnow, rfl⟩
  | verifyRefreshToken token =>
    obtain ⟨rfl, _, hverify⟩ := verified_of_ok hverified
    obtain ⟨key, row, hrow, htoken, hopen⟩ := verifyRefreshToken_ok hverify
    rw [hs.revoked t hmem key row hrow htoken] at hopen
    cases hopen
  | wait milliseconds => cases hverified
  | generateEmailVerificationToken owner => cases hverified
  | generateResetPasswordToken owner => cases hverified
  | signIn owner => cases hverified
  | revokeToken token => cases hverified
  | revokePasswordResetToken token => cases hverified
  | revokeAllUserTokens userId type => cases hverified

end Preserved

/-- No token has been issued yet. -/
def beforeTokens (now : Nat) (isEmailVerified : Nat → Bool) : History :=
  ⟨⟨now, ∅, isEmailVerified⟩, []⟩

theorem sound_beforeTokens (config : Config) (now : Nat) (isEmailVerified : Nat → Bool) :
    Sound config (beforeTokens now isEmailVerified) := by
  constructor
  · intro k l a b hk
    cases hk
  · intro key row hrow
    cases hrow
  · intro token hmem
    cases hmem
  · intro token hmem
    cases hmem

/-- In every run of the operations whose steps are spared, no token that was revoked is ever
verified with success again. -/
theorem revoked_tokens_refused (config : Config) (now : Nat) (isEmailVerified : Nat → Bool)
    (ops : List Operation)
    (h : Run.Along (step config) (Spared config) (beforeTokens now isEmailVerified) ops) :
    Run.Along (step config) (NeverAgain config) (beforeTokens now isEmailVerified) ops :=
  (Run.throughout_and_along (P := fun _ => True) (fun _ _ => trivial)
    (fun _ _ hs hspared => ⟨hs.step hspared, hs.neverAgain hspared⟩)
    (sound_beforeTokens config now isEmailVerified) h).2

/-- User 1 and admin 1. -/
def oneOfEach : Config where
  users := fun userId => if userId = 1 then some .INDIVIDUAL else none
  admins := fun adminId => adminId = 1
  secret := fun
    | .REFRESH => 1
    | .EMAIL_VERIFICATION => 2
    | _ => 3
  JWT_REFRESH_EXPIRATION := 604800

instance (config : Config) (s : State) (token : Jwt) (type : TokenType) (p : Owner → Bool) :
    Decidable (Reusable config s token type p) := by
  unfold Reusable
  infer_instance

def resetToken (owner : Owner) : Jwt := oneOfEach.sign (owner, .PASSWORD_RESET) 100

def refreshToken (second : Nat) : Jwt := oneOfEach.sign (.user 1, .REFRESH) second

/-- The refresh token is revoked and presented again, and a sign-in a second later gets another
one; the link of a reset is used once, and presented again after it has run out. -/
theorem revoked_tokens_refused_once :
    Run.Along (step oneOfEach) (NeverAgain oneOfEach) (beforeTokens 100000 (fun _ => false))
      [.signIn (.user 1), .revokeToken (refreshToken 100), .verifyRefreshToken (refreshToken 100),
        .wait 1000, .signIn (.user 1), .verifyRefreshToken (refreshToken 101),
        .generateResetPasswordToken (.admin 1),
        .verifyPasswordResetToken (oneOfEach.sign (.admin 1, .PASSWORD_RESET) 101),
        .revokePasswordResetToken (oneOfEach.sign (.admin 1, .PASSWORD_RESET) 101), .wait 900000,
        .verifyPasswordResetToken (oneOfEach.sign (.admin 1, .PASSWORD_RESET) 101)] := by
  refine revoked_tokens_refused oneOfEach 100000 _ _
    ⟨?_, trivial, trivial, trivial, ?_, trivial, trivial, ?_, trivial, trivial, ?_, trivial⟩
  all_goals
    unfold Spared
    decide +kernel

/-- The link of a reset still verifies after the reset has revoked it. -/
theorem reset_link_works_again :
    ¬ ∀ (config : Config) (now : Nat) (isEmailVerified : Nat → Bool) (ops : List Operation),
      Run.Along (step config) (NeverAgain config) (beforeTokens now isEmailVerified) ops := by
  intro h
  obtain ⟨-, -, -, hagain, -⟩ := h oneOfEach 100000 (fun _ => false)
    [.generateResetPasswordToken (.admin 1), .verifyPasswordResetToken (resetToken (.admin 1)),
      .revokePasswordResetToken (resetToken (.admin 1)),
      .verifyPasswordResetToken (resetToken (.admin 1))]
  exact hagain (resetToken (.admin 1)) (by decide +kernel) (by decide +kernel)

end TokenService

end ExchangeLedger
