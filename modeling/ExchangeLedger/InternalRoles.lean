import ExchangeLedger.Money
import ExchangeLedger.Service
import ExchangeLedger.Tokens

set_option autoImplicit false

/-! The internal roles of admins: the rows, the two caches in front of them, the calls that manage
them, and the guard that reads the caches. -/

namespace ExchangeLedger

open Service ConvertCurrency

namespace InternalRoles

abbrev RoleId := Nat
abbrev AdminId := Nat
abbrev PermissionId := Nat

inductive AdminRole where
  | SUPER_ADMIN | ADMIN
  deriving DecidableEq, Repr

inductive AccountStatus where
  | ACTIVE | INACTIVE | BANNED | SUSPENDED | DEACTIVATED
  deriving DecidableEq, Repr

def AccountStatus.toLowerCase : AccountStatus → String
  | .ACTIVE => "active"
  | .INACTIVE => "inactive"
  | .BANNED => "banned"
  | .SUSPENDED => "suspended"
  | .DEACTIVATED => "deactivated"

structure Role where
  title : Text
  description : Option Text
  isActive : Bool
  permissions : List PermissionId
  deriving DecidableEq, Repr

structure CachedRole where
  id : RoleId
  title : Text
  permissions : List PermissionId
  isActive : Bool
  deriving DecidableEq, Repr

structure Profile where
  firstName : Text
  lastName : Text
  fullName : Text
  phoneNumber : Option Text
  gender : Option Text
  residentialAddress : Option Text
  country : Option Text
  deriving DecidableEq, Repr

structure Admin where
  email : Text
  profile : Profile
  role : AdminRole
  internalRoleId : Option RoleId
  accountStatus : AccountStatus
  deriving DecidableEq, Repr

structure State where
  roles : Table RoleId Role
  admins : Table AdminId Admin
  /-- The keys `internalRole:…`. -/
  roleKeys : RoleId → Option CachedRole
  /-- The keys `admin:internalRoleId:…`. -/
  adminRoleKeys : AdminId → Option RoleId

def State.putRole (s : State) (roleId : RoleId) (role : Role) : State :=
  { s with roles := s.roles.insert roleId role }

def State.putAdmin (s : State) (adminId : AdminId) (admin : Admin) : State :=
  { s with admins := s.admins.insert adminId admin }

structure Config where
  /-- The ids of the table `permissions`, which only the seeds write. -/
  permissions : List PermissionId
  SUPER_ADMIN_KEY : Text

def master : Text := "MASTER".toList

/-! ### The caches -/

def cachedRole (id : RoleId) (role : Role) : CachedRole :=
  ⟨id, role.title, role.permissions, role.isActive⟩

/-- `role.findUnique`, as the cache keeps it. -/
def State.fetchRole (s : State) (roleId : RoleId) : Option CachedRole :=
  (s.roles.lookup roleId).map (cachedRole roleId)

/-- `getRoleById`: the key, or else the row, which is cached then. -/
def getRoleById (roleId : RoleId) : Service State String (Option CachedRole) := visit fun s =>
  match s.roleKeys roleId with
  | some cached => (some cached, s)
  | none =>
    match s.fetchRole roleId with
    | some role => (some role, { s with roleKeys := Function.update s.roleKeys roleId (some role) })
    | none => (none, s)

/-- `refreshRoleCache`, whose own connection sees the state `committed`. -/
def refreshRoleCache (committed : State) (roleId : RoleId) (s : State) : State :=
  { s with roleKeys := Function.update s.roleKeys roleId (committed.fetchRole roleId) }

def refreshAllRolesCache (s : State) : State :=
  { s with roleKeys := s.roles.fill (fun id role => some (cachedRole id role)) s.roleKeys }

/-- Nothing is written for an admin without a role. -/
def cacheAdminRole (adminId : AdminId) (internalRoleId : Option RoleId) (s : State) : State :=
  match internalRoleId with
  | some roleId => { s with adminRoleKeys := Function.update s.adminRoleKeys adminId (some roleId) }
  | none => s

def onAdminCreated (adminId : AdminId) (internalRoleId : Option RoleId) : State → State :=
  cacheAdminRole adminId internalRoleId

def onAdminRoleUpdated (adminId : AdminId) (newInternalRoleId : Option RoleId) : State → State :=
  cacheAdminRole adminId newInternalRoleId

def State.internalRoleOf (s : State) (adminId : AdminId) : Option RoleId :=
  (s.admins.lookup adminId).bind (·.internalRoleId)

def getAdminInternalRoleId (adminId : AdminId) : Service State String RoleId := do
  match ← read (fun s => s.adminRoleKeys adminId) with
  | some cached => return cached
  | none =>
    let internalRoleId ← demand (← read fun s => s.internalRoleOf adminId)
      ("Admin " ++ toString adminId ++ " has no valid internalRoleId")
    update (cacheAdminRole adminId (some internalRoleId))
    return internalRoleId

def cacheAllAdminRoles (s : State) : State :=
  { s with adminRoleKeys := s.admins.fill (fun _ admin => admin.internalRoleId) s.adminRoleKeys }

/-- The job of 5 AM, which is also what the two caches do when they start. -/
def recomputeDashboardDaily (s : State) : State := refreshAllRolesCache (cacheAllAdminRoles s)

/-! ### Role management -/

def requireSuperAdmin (adminId : AdminId) : Service State String Unit := do
  let admin ← demand (← read fun s => s.admins.lookup adminId) "Kindly login"
  require (admin.role = .SUPER_ADMIN) "Kindly login"

def State.titled (s : State) (title : Text) : Bool := s.roles.entries.any (·.2.title = title)

def State.assigned (s : State) (roleId : RoleId) : Bool :=
  s.admins.entries.any (·.2.internalRoleId = some roleId)

def permissionRecords (config : Config) (ids : List PermissionId) : List PermissionId :=
  config.permissions.filter (· ∈ ids)

structure CreateRoleDto where
  title : Text
  description : Option Text
  permissions : Option (List PermissionId)

/-- `text || null`. -/
def orNull (text : Option Text) : Option Text := text.filter (· ≠ [])

/-- The transaction has not committed when the cache is refreshed, so the key is deleted. -/
def createRole (config : Config) (superAdminId : AdminId) (id : RoleId) (dto : CreateRoleDto) :
    Service State String String := do
  requireSuperAdmin superAdminId
  require ((← read fun s => s.titled dto.title) = false)
    ("Role \"" ++ String.ofList dto.title ++ "\" already exists")
  let permissions := permissionRecords config (dto.permissions.getD [])
  require (permissions.length = (dto.permissions.getD []).length)
    "One or more permission IDs are invalid"
  -- `title @unique`: the title was looked up as it came, and is stored trimmed.
  require ((← read fun s => s.titled (trim dto.title)) = false) "Unique constraint failed"
  require ((← read fun s => s.roles.lookup id) = none) "Unique constraint failed"
  update fun s => refreshRoleCache s id (s.putRole id {
    title := trim dto.title
    description := orNull (dto.description.map trim)
    isActive := true
    permissions := permissions })
  return "Role created successfully"

structure UpdateRoleDto where
  title : Option Text
  description : Option Text
  isActive : Option Bool
  permissions : Option (List PermissionId)

/-- The title is part of the update where it differs from the role's. -/
def UpdateRoleDto.newTitle (dto : UpdateRoleDto) (role : Role) : Option Text :=
  (dto.title.map trim).filter (· ≠ role.title)

def UpdateRoleDto.isEmpty (dto : UpdateRoleDto) (role : Role) : Prop :=
  dto.newTitle role = none ∧ dto.description = none ∧ dto.isActive = none ∧ dto.permissions = none

instance (dto : UpdateRoleDto) (role : Role) : Decidable (dto.isEmpty role) :=
  inferInstanceAs (Decidable (_ ∧ _))

def UpdateRoleDto.apply (config : Config) (dto : UpdateRoleDto) (role : Role) : Role where
  title := (dto.newTitle role).getD role.title
  description := (dto.description.map trim).or role.description
  isActive := dto.isActive.getD role.isActive
  permissions := (dto.permissions.map (permissionRecords config)).getD role.permissions

/-- The refresh reads the row as it was: the transaction has not committed. -/
def updateRole (config : Config) (superAdminId : AdminId) (roleId : RoleId) (dto : UpdateRoleDto) :
    Service State String String := do
  requireSuperAdmin superAdminId
  let role ← demand (← read fun s => s.roles.lookup roleId) "Role not found"
  require (role.title ≠ master) "Access denied"
  let titled ← read fun s => (dto.newTitle role).all fun title => s.titled title = false
  require (titled = true)
    ("Role title \"" ++ String.ofList ((dto.newTitle role).getD []) ++ "\" already exists")
  let assigned ← read fun s => s.assigned roleId
  require (dto.isActive = some false → assigned = false) "Cannot deactivate role assigned to admins"
  require (∀ ids ∈ dto.permissions, (permissionRecords config ids).length = ids.length)
    "One or more permission IDs are invalid"
  if dto.isEmpty role then return "No changes made"
  update fun s => refreshRoleCache s roleId (s.putRole roleId (dto.apply config role))
  return "Role updated successfully"

def deleteRole (superAdminId : AdminId) (roleId : RoleId) : Service State String String := do
  requireSuperAdmin superAdminId
  let role ← demand (← read fun s => s.roles.lookup roleId) "Role not found"
  require (role.title ≠ master) "Cannot delete the MASTER role"
  require ((← read fun s => s.assigned roleId) = false) "Cannot delete role assigned to admins"
  update fun s =>
    let deleted := { s with roles := s.roles.erase roleId }
    refreshRoleCache deleted roleId deleted
  return "Role deleted successfully"

/-! ### Internal users -/

/-- The role that an admin is given, as the cache has it. -/
def requireAssignable (missing : String) (roleId : RoleId) : Service State String Unit := do
  let cachedRole ← demand (← getRoleById roleId) missing
  require (cachedRole.isActive = true)
    ("Role \"" ++ String.ofList cachedRole.title ++ "\" is inactive and cannot be assigned")
  require (cachedRole.title ≠ master) "Role access denied"

/-- The foreign key of `admins`. -/
def requireRow (roleId : RoleId) : Service State String Unit := do
  require ((← read fun s => s.roles.lookup roleId) ≠ none) "Foreign key constraint failed"

def State.emailed (s : State) (email : Text) : Bool := s.admins.entries.any (·.2.email = email)

/-- `fullName.trim().split(' ')`: the first word, and what follows it. -/
def names (fullName : Text) : Text × Text :=
  match (trim fullName).splitOn ' ' with
  | [] => ("Admin".toList, "User".toList)
  | firstName :: rest =>
    (if firstName = [] then "Admin".toList else firstName,
      if [' '].intercalate rest = [] then "User".toList else [' '].intercalate rest)

structure CreateInternalUserDto where
  fullName : Text
  email : Text
  phoneNumber : Option Text
  gender : Option Text
  residentialAddress : Option Text
  country : Option Text
  internalRoleId : Option RoleId

def CreateInternalUserDto.row (dto : CreateInternalUserDto) : Admin where
  email := dto.email
  profile := {
    firstName := (names dto.fullName).1
    lastName := (names dto.fullName).2
    fullName := trim dto.fullName
    phoneNumber := orNull dto.phoneNumber
    gender := orNull dto.gender
    residentialAddress := orNull dto.residentialAddress
    country := orNull dto.country }
  role := .ADMIN
  internalRoleId := dto.internalRoleId
  accountStatus := .ACTIVE

def createInternalUser (superAdminId id : AdminId) (dto : CreateInternalUserDto) :
    Service State String String := do
  requireSuperAdmin superAdminId
  forSome dto.internalRoleId (requireAssignable "Internal role does not exist")
  require ((← read fun s => s.emailed dto.email) = false) "Email already in use"
  forSome dto.internalRoleId requireRow
  require ((← read fun s => s.admins.lookup id) = none) "Unique constraint failed"
  update fun s => onAdminCreated id dto.internalRoleId (s.putAdmin id dto.row)
  return "Created successfully"

/-- `none` is `undefined`; a role may also be given as `null`. -/
structure UpdateInternalUserDto where
  fullName : Option Text
  email : Option Text
  phoneNumber : Option Text
  gender : Option Text
  residentialAddress : Option Text
  country : Option Text
  internalRoleId : Option (Option RoleId)
  accountStatus : Option AccountStatus

namespace UpdateInternalUserDto

variable (dto : UpdateInternalUserDto)

def isEmpty : Prop :=
  dto.fullName = none ∧ dto.email = none ∧ dto.phoneNumber = none ∧ dto.gender = none ∧
    dto.residentialAddress = none ∧ dto.country = none ∧ dto.internalRoleId = none ∧
    dto.accountStatus = none

instance : Decidable dto.isEmpty := inferInstanceAs (Decidable (_ ∧ _))

def applyProfile (profile : Profile) : Profile where
  firstName := (dto.fullName.map fun fullName => (names fullName).1).getD profile.firstName
  lastName := (dto.fullName.map fun fullName => (names fullName).2).getD profile.lastName
  fullName := (dto.fullName.map trim).getD profile.fullName
  phoneNumber := if dto.phoneNumber = none then profile.phoneNumber else orNull dto.phoneNumber
  gender := if dto.gender = none then profile.gender else orNull dto.gender
  residentialAddress :=
    if dto.residentialAddress = none then profile.residentialAddress
    else orNull dto.residentialAddress
  country := if dto.country = none then profile.country else orNull dto.country

def apply (target : Admin) : Admin where
  email := dto.email.getD target.email
  profile := dto.applyProfile target.profile
  role := target.role
  internalRoleId := dto.internalRoleId.getD target.internalRoleId
  accountStatus := dto.accountStatus.getD target.accountStatus

/-- The role that the update assigns, if it assigns one. -/
def assigns : Option RoleId := dto.internalRoleId.join

def updateCaches (adminId : AdminId) (s : State) : State :=
  let s := if dto.accountStatus = some .DEACTIVATED then onAdminRoleUpdated adminId none s else s
  if dto.internalRoleId = none then s else onAdminRoleUpdated adminId dto.assigns s

end UpdateInternalUserDto

def updateInternalUser (superAdminId adminId : AdminId) (dto : UpdateInternalUserDto) :
    Service State String String := do
  requireSuperAdmin superAdminId
  let target ← demand (← read fun s => s.admins.lookup adminId) "Admin not found"
  require (target.role ≠ .SUPER_ADMIN) "Cannot modify Super Admin"
  let free ← read fun s => dto.email.all fun email => email = target.email ∨ s.emailed email = false
  require (free = true) "Email already in use"
  forSome dto.assigns fun roleId =>
    requireAssignable ("Internal role with ID \"" ++ toString roleId ++ "\" does not exist") roleId
  if dto.accountStatus = some target.accountStatus then
    return "Admin is already " ++ target.accountStatus.toLowerCase
  if dto.isEmpty then return "No changes made"
  forSome dto.assigns requireRow
  update fun s => dto.updateCaches adminId (s.putAdmin adminId (dto.apply target))
  return "Internal user updated successfully"

def revokeAllInternalAccess (superAdminId targetAdminId : AdminId) :
    Service State String String := do
  requireSuperAdmin superAdminId
  let target ← demand (← read fun s => s.admins.lookup targetAdminId) "Admin not found"
  require (target.role ≠ .SUPER_ADMIN) "Cannot revoke access from Super Admin"
  if target.internalRoleId = none then return "Admin has no internal role to revoke"
  update fun s => onAdminRoleUpdated targetAdminId none
    (s.putAdmin targetAdminId { target with internalRoleId := none })
  return "All internal access revoked successfully"

structure CreateSuperAdminDto where
  email : Text
  firstName : Text
  lastName : Text
  superAdminKey : Text

/-- `role.findUnique({ where: { title: 'MASTER' } })`. -/
def State.masterRoleId (s : State) : Option RoleId :=
  (s.roles.entries.find? (·.2.title = master)).map (·.1)

def addSuperAdmin (config : Config) (id : AdminId) (dto : CreateSuperAdminDto) :
    Service State String String := do
  require (dto.superAdminKey = config.SUPER_ADMIN_KEY) "Invalid key to create Super Admin"
  require ((← read fun s => s.emailed dto.email) = false) "Admin already exists"
  let masterRoleId ← demand (← read State.masterRoleId) "MASTER role not found"
  require ((← read fun s => s.admins.lookup id) = none) "Unique constraint failed"
  update fun s => s.putAdmin id {
    email := dto.email
    profile := {
      firstName := dto.firstName
      lastName := dto.lastName
      fullName := dto.firstName ++ [' '] ++ dto.lastName
      phoneNumber := none
      gender := none
      residentialAddress := none
      country := none }
    role := .SUPER_ADMIN
    internalRoleId := some masterRoleId
    accountStatus := .ACTIVE }
  return "Super Admin created successfully"

/-! ### The guard -/

/-- What an access token says of its holder; a user's says only the type. -/
structure AccessToken where
  id : AdminId
  userType : TokenService.UserType
  role : Option AdminRole
  internalRoleId : Option RoleId
  accountStatus : Option AccountStatus
  deriving DecidableEq, Repr

/-- The metadata of a handler. -/
structure Requirement where
  super_admin : Bool
  permissions : List PermissionId
  deriving DecidableEq, Repr

/-- `AdminRolesGuard`. The cached role is never null: `getAdminInternalRoleId` throws instead. -/
def canActivate (user : AccessToken) (required : Requirement) : Service State String Unit := do
  require (user.userType = .ADMIN) "Unathourized user"
  require (user.accountStatus = some .ACTIVE) "Access denied"
  require (required.super_admin = true → user.role = some .SUPER_ADMIN) "Unathourized user"
  if user.role = some .SUPER_ADMIN then return
  let cachedInternalRoleId ← getAdminInternalRoleId user.id
  let internalRoleId ← demand user.internalRoleId "Role assignment mismatch detected"
  require (cachedInternalRoleId = internalRoleId) "Access denied. Role changed"
  if required.permissions = [] then return
  let roleDetails ← demand ((← getRoleById internalRoleId).filter (·.isActive)) "Inactive role"
  require (roleDetails.permissions ≠ []) "Unathourized user"
  require (∀ p ∈ required.permissions, p ∈ roleDetails.permissions) "Unathourized user"

/-! ### Runs -/

inductive Request where
  | createRole (superAdminId : AdminId) (id : RoleId) (dto : CreateRoleDto)
  | updateRole (superAdminId : AdminId) (roleId : RoleId) (dto : UpdateRoleDto)
  | deleteRole (superAdminId : AdminId) (roleId : RoleId)
  | createInternalUser (superAdminId id : AdminId) (dto : CreateInternalUserDto)
  | updateInternalUser (superAdminId adminId : AdminId) (dto : UpdateInternalUserDto)
  | revokeAllInternalAccess (superAdminId targetAdminId : AdminId)
  | addSuperAdmin (id : AdminId) (dto : CreateSuperAdminDto)
  | canActivate (user : AccessToken) (required : Requirement)
  | recomputeDashboardDaily

/-- A request is handled to its end before the next one begins. -/
def step (config : Config) : Request → State → State
  | .createRole superAdminId id dto => (createRole config superAdminId id dto).after
  | .updateRole superAdminId roleId dto => (updateRole config superAdminId roleId dto).after
  | .deleteRole superAdminId roleId => (deleteRole superAdminId roleId).after
  | .createInternalUser superAdminId id dto => (createInternalUser superAdminId id dto).after
  | .updateInternalUser superAdminId adminId dto =>
    (updateInternalUser superAdminId adminId dto).after
  | .revokeAllInternalAccess superAdminId targetAdminId =>
    (revokeAllInternalAccess superAdminId targetAdminId).after
  | .addSuperAdmin id dto => (addSuperAdmin config id dto).after
  | .canActivate user required => (canActivate user required).after
  | .recomputeDashboardDaily => recomputeDashboardDaily

end InternalRoles

end ExchangeLedger
