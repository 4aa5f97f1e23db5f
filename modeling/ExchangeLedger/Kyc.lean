import ExchangeLedger.Concurrent
import ExchangeLedger.Money
import Mathlib.Data.List.Infix

set_option autoImplicit false

/-! Identity verification: a NIN is bound to an account by the names on its record, and a document
lifts a bound account to the second tier. The requests of all accounts run concurrently. -/

namespace ExchangeLedger

open Concurrent ConvertCurrency

namespace Kyc

inductive AccountTier where
  | TIER_1 | TIER_2 | TIER_3
  deriving DecidableEq, Repr

inductive VerificationStatus where
  | NOT_VERIFIED | PENDING | APPROVED | REJECTED
  deriving DecidableEq, Repr

inductive DocumentTypeInternal where
  | INTERNATIONAL_PASSPORT | DRIVERS_LICENSE | VOTER_CARD | NATIONAL_IDENTITY_CARD | NIN
  deriving DecidableEq, Repr

structure User where
  firstName : Option Text
  lastName : Option Text
  kycVerificationStatus : VerificationStatus
  tier : Option AccountTier
  deriving DecidableEq, Repr

structure KycVerification where
  nin : Option Text
  hasVerifiedNin : Bool
  ninFirstName : Option Text
  ninLastName : Option Text
  documentTypeInternal : Option DocumentTypeInternal
  documentType : Option Text
  documentNumber : Option Text
  documentIssuedCountryCode : Option Text
  documentFrontPageUrl : Option Text
  documentBackPageUrl : Option Text
  hasVerifiedAddress : Bool
  addressVerificationRef : Option Text
  deriving DecidableEq, Repr

/-- The defaults of the columns. -/
def KycVerification.blank : KycVerification :=
  ⟨none, false, none, none, none, none, none, none, none, none, false, none⟩

structure Store where
  users : Table UserId User
  kyc : Table UserId KycVerification

/-! ### What the provider answers -/

/-- A name of the record is a text or null, and its column is written as it is. -/
structure NinEntity where
  first_name : Option Text
  last_name : Option Text
  deriving DecidableEq, Repr

structure NinAnswer where
  entity : Option NinEntity
  message : String
  deriving DecidableEq, Repr

structure TextData where
  field_key : Option Text
  value : Option Text
  deriving DecidableEq, Repr

structure DocumentEntity where
  overall_status : Option Int
  document_name : Option Text
  document_country_code : Option Text
  text_data : List TextData
  deriving DecidableEq, Repr

/-- What the call that a request waits for comes to. -/
inductive Outcome where
  | ninAnswer (r : NinAnswer)
  | documentAnswer (entity : Option DocumentEntity)
  | uploaded (front : Text) (back : Option Text)
  | addressAnswer (reference : Option Text)
  /-- A query of the database goes through. -/
  | done
  | throws (message : String)
  deriving DecidableEq, Repr

/-! ### The requests -/

structure UploadDocumentDto where
  documentType : DocumentTypeInternal
  frontImageBase64 : Text
  backImageBase64 : Option Text
  deriving DecidableEq, Repr

inductive Request where
  | validateNin (userId : UserId) (nin : Text)
  | uploadDocument (userId : UserId) (dto : UploadDocumentDto)
  | verifyAddress (userId : UserId)
  deriving DecidableEq, Repr

/-- A request under way, by the call that is next. -/
inductive Task where
  | askingNin (userId : UserId) (nin : Text)
  | comparingNames (userId : UserId) (nin : Text) (e : NinEntity)
  | savingNin (userId : UserId) (nin : Text) (e : NinEntity)
  | verifyingDocument (userId : UserId) (dto : UploadDocumentDto)
  | uploadingImages (userId : UserId) (dto : UploadDocumentDto) (e : DocumentEntity)
  | savingDocument (userId : UserId) (dto : UploadDocumentDto) (e : DocumentEntity) (front : Text)
      (back : Option Text)
  | raisingTier (userId : UserId)
  | askingAddress (userId : UserId)
  | savingAddress (userId : UserId) (reference : Option Text)
  deriving DecidableEq, Repr

section Requests

variable (toLowerCase : Text → Text)

/-- `(name || '').trim().toLowerCase()`. -/
def normalName (name : Option Text) : Text := toLowerCase (trim (name.getD []))

/-- The names of a NIN record are those that the account is registered under. -/
def NamesMatch (first last : Option Text) (user : User) : Prop :=
  normalName toLowerCase first = normalName toLowerCase user.firstName ∧
    normalName toLowerCase last = normalName toLowerCase user.lastName

instance (first last : Option Text) (user : User) :
    Decidable (NamesMatch toLowerCase first last user) := by
  unfold NamesMatch
  infer_instance

/-- The unique column `nin`: the row of `userId` may hold this one. -/
def NinFree (S : Store) (userId : UserId) (nin : Option Text) : Prop :=
  nin = none ∨ ∀ e ∈ S.kyc.entries, e.1 ≠ userId → e.2.nin ≠ nin

instance (S : Store) (userId : UserId) (nin : Option Text) : Decidable (NinFree S userId nin) := by
  unfold NinFree
  infer_instance

/-- `kycVerification.upsert({ where: { user_id } })`. -/
def upsertKyc (userId : UserId) (write : KycVerification → KycVerification) (S : Store) :
    Except String Store :=
  let row := write ((S.kyc.lookup userId).getD .blank)
  if S.users.lookup userId = none then .error "P2003"
  else if NinFree S userId row.nin then .ok { S with kyc := S.kyc.insert userId row }
  else .error "P2002"

def writeNin (nin : Text) (e : NinEntity) (k : KycVerification) : KycVerification :=
  { k with
    nin := some nin
    hasVerifiedNin := true
    ninFirstName := e.first_name
    ninLastName := e.last_name
    documentTypeInternal := some .NIN
    documentNumber := some nin
    documentIssuedCountryCode := some "NG".toList }

/-- The first text field whose key mentions a document. -/
def extractDocumentNumber (e : DocumentEntity) : Option Text :=
  match e.text_data.find? fun td =>
      td.field_key.any fun key => decide ("document".toList <:+: toLowerCase key) with
  | some td => td.value
  | none => none

def documentTypeText : DocumentTypeInternal → Text
  | .INTERNATIONAL_PASSPORT => "INTERNATIONAL_PASSPORT".toList
  | .DRIVERS_LICENSE => "DRIVERS_LICENSE".toList
  | .VOTER_CARD => "VOTER_CARD".toList
  | .NATIONAL_IDENTITY_CARD => "NATIONAL_IDENTITY_CARD".toList
  | .NIN => "NIN".toList

def writeDocument (dto : UploadDocumentDto) (e : DocumentEntity) (front : Text)
    (back : Option Text) (k : KycVerification) : KycVerification :=
  { k with
    documentTypeInternal := some dto.documentType
    documentType := some (e.document_name.getD (documentTypeText dto.documentType))
    documentNumber := extractDocumentNumber toLowerCase e
    documentIssuedCountryCode := some (e.document_country_code.getD "NG".toList)
    documentFrontPageUrl := some front
    documentBackPageUrl := back }

/-- Without a reference in the answer the column keeps what it has. -/
def writeAddress (reference : Option Text) (k : KycVerification) : KycVerification :=
  { k with
    hasVerifiedAddress := true
    addressVerificationRef := reference.or k.addressVerificationRef }

def ninEntity (r : NinAnswer) : Except String NinEntity :=
  match r.entity with
  | some e => .ok e
  | none => .error (if r.message = "" then "NIN validation failed" else r.message)

def acceptedDocument (entity : Option DocumentEntity) : Except String DocumentEntity :=
  match entity with
  | some e =>
    if e.overall_status = some 1 then .ok e
    else .error "Document verification failed. Please upload a valid document."
  | none => .error "Document verification failed. Please upload a valid document."

def found {α : Type} (o : Option α) (message : String) : Except String α :=
  match o with
  | some a => .ok a
  | none => .error message

/-- A request up to its first call. -/
def start : Request → Store → Except String Task
  | .validateNin userId nin, S =>
    if ∃ e ∈ S.kyc.entries, e.2.nin = some (trim nin) then
      .error "This NIN has already been verified for another account."
    else .ok (.askingNin userId (trim nin))
  | .uploadDocument userId dto, S =>
    if (S.kyc.lookup userId).any (·.hasVerifiedNin) then .ok (.verifyingDocument userId dto)
    else .error "Kindly verify your NIN"
  | .verifyAddress userId, _ => .ok (.askingAddress userId)

/-- A request goes on until its next call. An answer to another call is not for it. -/
def resume : Task → Outcome → Store → Except String (Store × Option Task)
  | .askingNin userId nin, .ninAnswer r, S => do
    let e ← ninEntity r
    return (S, some (.comparingNames userId nin e))
  | .comparingNames userId nin e, .done, S => do
    let user ← found (S.users.lookup userId) "User not found"
    if NamesMatch toLowerCase e.first_name e.last_name user then
      return (S, some (.savingNin userId nin e))
    else
      .error ("NIN verification failed: The name on your NIN record does not match your " ++
        "registered name.")
  | .savingNin userId nin e, .done, S => do
    let saved ← upsertKyc userId (writeNin nin e) S
    return (saved, none)
  | .verifyingDocument userId dto, .documentAnswer entity, S => do
    let e ← acceptedDocument entity
    return (S, some (.uploadingImages userId dto e))
  | .uploadingImages userId dto e, .uploaded front back, S =>
    return (S, some (.savingDocument userId dto e front back))
  | .savingDocument userId dto e front back, .done, S => do
    let saved ← upsertKyc userId (writeDocument toLowerCase dto e front back) S
    return (saved, some (.raisingTier userId))
  | .raisingTier userId, .done, S => do
    let user ← found (S.users.lookup userId) "P2025"
    return ({ S with
      users := S.users.insert userId
        { user with kycVerificationStatus := .APPROVED, tier := some .TIER_2 } }, none)
  | .askingAddress userId, .addressAnswer reference, S =>
    return (S, some (.savingAddress userId reference))
  | .savingAddress userId reference, .done, S => do
    let saved ← upsertKyc userId (writeAddress reference) S
    return (saved, none)
  | _, .throws message, _ => .error message
  | t, _, S => return (S, some t)

/-- A new account, with the names that it keeps. -/
structure SignUp where
  userId : UserId
  firstName : Text
  lastName : Text
  deriving DecidableEq, Repr

def signUp (x : SignUp) (S : Store) : Store :=
  if S.users.lookup x.userId = none then
    { S with
      users := S.users.insert x.userId
        ⟨some x.firstName, some x.lastName, .NOT_VERIFIED, some .TIER_1⟩ }
  else S

/-- A request that throws ends with nothing more written. -/
def kyc : Handlers Store Task Request Outcome SignUp where
  start i S := (start i S).toOption
  resume t o S :=
    match resume toLowerCase t o S with
    | .ok r => r
    | .error _ => (S, none)
  outside := signUp

end Requests

abbrev System := Concurrent.System Store Task

abbrev Event := Concurrent.Event Request Outcome SignUp

def kycStep (toLowerCase : Text → Text) (e : Event) (s : System) : System :=
  (kyc toLowerCase).step e s

end Kyc

end ExchangeLedger
