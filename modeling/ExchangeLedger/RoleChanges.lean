import ExchangeLedger.InternalRoles

set_option autoImplicit false

/-! What the calls on roles and admins can do to the rows and to the two caches. -/

namespace ExchangeLedger

open Service

namespace InternalRoles

/-! ### What the caches answer -/

/-- What `getRoleById` answers. -/
def State.roleAnswer (s : State) (roleId : RoleId) : Option CachedRole :=
  (s.roleKeys roleId).or (s.fetchRole roleId)

/-- What `getAdminInternalRoleId` answers; it throws where this is `none`. -/
def State.adminRoleAnswer (s : State) (adminId : AdminId) : Option RoleId :=
  (s.adminRoleKeys adminId).or (s.internalRoleOf adminId)

/-- Some keys that were missing have been filled from the rows. -/
structure Warmed (s t : State) : Prop where
  roles : t.roles = s.roles
  admins : t.admins = s.admins
  roleKeys : ∀ id, t.roleKeys id = s.roleKeys id ∨
    s.roleKeys id = none ∧ t.roleKeys id = s.fetchRole id
  adminRoleKeys : ∀ id, t.adminRoleKeys id = s.adminRoleKeys id ∨
    s.adminRoleKeys id = none ∧ t.adminRoleKeys id = s.internalRoleOf id

namespace Warmed

variable {s t u : State}

theorem refl (s : State) : Warmed s s where
  roles := rfl
  admins := rfl
  roleKeys _ := .inl rfl
  adminRoleKeys _ := .inl rfl

theorem fetchRole (h : Warmed s t) : t.fetchRole = s.fetchRole := by
  funext id
  simp [State.fetchRole, h.roles]

theorem internalRoleOf (h : Warmed s t) : t.internalRoleOf = s.internalRoleOf := by
  funext id
  simp [State.internalRoleOf, h.admins]

theorem trans (h : Warmed s t) (h' : Warmed t u) : Warmed s u where
  roles := h'.roles.trans h.roles
  admins := h'.admins.trans h.admins
  roleKeys id := by
    have h₁ := h.roleKeys id
    have h₂ := h'.roleKeys id
    rw [h.fetchRole] at h₂
    grind
  adminRoleKeys id := by
    have h₁ := h.adminRoleKeys id
    have h₂ := h'.adminRoleKeys id
    rw [h.internalRoleOf] at h₂
    grind

theorem roleAnswer (h : Warmed s t) : t.roleAnswer = s.roleAnswer := by
  funext id
  rcases h.roleKeys id with hkey | ⟨hkey, hfilled⟩
  · simp [State.roleAnswer, hkey, h.fetchRole]
  · simp [State.roleAnswer, hkey, hfilled, h.fetchRole]

theorem adminRoleAnswer (h : Warmed s t) : t.adminRoleAnswer = s.adminRoleAnswer := by
  funext id
  rcases h.adminRoleKeys id with hkey | ⟨hkey, hfilled⟩
  · simp [State.adminRoleAnswer, hkey, h.internalRoleOf]
  · simp [State.adminRoleAnswer, hkey, hfilled, h.internalRoleOf]

end Warmed

section Reads

variable {s t : State}

theorem getRoleById_ends {roleId : RoleId} {r : Except String (Option CachedRole)}
    (h : (getRoleById roleId).Ends s r t) : r = .ok (s.roleAnswer roleId) ∧ Warmed s t := by
  obtain ⟨hr, rfl⟩ := ends_visit.mp h
  subst hr
  cases hkey : s.roleKeys roleId with
  | some cached => simp [State.roleAnswer, hkey, Warmed.refl]
  | none =>
    cases hrow : s.fetchRole roleId with
    | none => simp [State.roleAnswer, hkey, hrow, Warmed.refl]
    | some role =>
      refine ⟨by simp [State.roleAnswer, hkey, hrow], rfl, rfl, fun id => ?_, fun id => .inl rfl⟩
      by_cases hid : id = roleId
      · subst hid
        simp [hkey, hrow]
      · simp [hid]

theorem getAdminInternalRoleId_ok {adminId : AdminId} {roleId : RoleId}
    (h : (getAdminInternalRoleId adminId).Ends s (.ok roleId) t) :
    s.adminRoleAnswer adminId = some roleId ∧ Warmed s t := by
  cases hkey : s.adminRoleKeys adminId with
  | some cached =>
    simp [getAdminInternalRoleId, hkey] at h
    obtain ⟨rfl, rfl⟩ := h
    simp [State.adminRoleAnswer, hkey, Warmed.refl]
  | none =>
    simp [getAdminInternalRoleId, hkey] at h
    obtain ⟨hrole, rfl⟩ := h
    refine ⟨by simp [State.adminRoleAnswer, hkey, hrole], rfl, rfl, fun id => .inl rfl,
      fun id => ?_⟩
    by_cases hid : id = adminId
    · subst hid
      simp [cacheAdminRole, hkey, hrole]
    · simp [cacheAdminRole, hid]

theorem getAdminInternalRoleId_error {adminId : AdminId} {e : String}
    (h : (getAdminInternalRoleId adminId).Ends s (.error e) t) :
    s.adminRoleAnswer adminId = none ∧ s = t := by
  cases hkey : s.adminRoleKeys adminId with
  | some cached => simp [getAdminInternalRoleId, hkey] at h
  | none =>
    simp [getAdminInternalRoleId, hkey] at h
    obtain ⟨hrole, -, rfl⟩ := h
    simp [State.adminRoleAnswer, hkey, hrole]

/-- A role that an admin may be given, as far as the cache knows. -/
def State.Assignable (s : State) (roleId : RoleId) : Prop :=
  ∃ c, s.roleAnswer roleId = some c ∧ c.isActive = true ∧ c.title ≠ master

theorem requireAssignable_ok {missing : String} {roleId : RoleId} {u : Unit}
    (h : (requireAssignable missing roleId).Ends s (.ok u) t) :
    s.Assignable roleId ∧ Warmed s t := by
  simp [requireAssignable] at h
  obtain ⟨c, hget, hactive, htitle⟩ := h
  obtain ⟨hanswer, hwarm⟩ := getRoleById_ends hget
  simp only [Except.ok.injEq] at hanswer
  exact ⟨⟨c, hanswer.symm, hactive, htitle⟩, hwarm⟩

theorem requireAssignable_error {missing : String} {roleId : RoleId} {e : String}
    (h : (requireAssignable missing roleId).Ends s (.error e) t) : Warmed s t := by
  simp [requireAssignable] at h
  rcases h with hget | ⟨_, m, hget, h⟩
  · exact (getRoleById_ends hget).2
  · have hm : m = t := by grind
    subst hm
    exact (getRoleById_ends hget).2

theorem requireAssignables_ok {missing : RoleId → String} {roleId : Option RoleId} {u : Unit}
    (h : (forSome roleId fun id => requireAssignable (missing id) id).Ends s (.ok u) t) :
    (∀ id ∈ roleId, s.Assignable id) ∧ Warmed s t := by
  rcases ends_forSome_ok.mp h with ⟨rfl, rfl⟩ | ⟨id, rfl, hid⟩
  · simp [Warmed.refl]
  · obtain ⟨hassignable, hwarm⟩ := requireAssignable_ok hid
    simp [hassignable, hwarm]

theorem requireAssignables_error {missing : RoleId → String} {roleId : Option RoleId} {e : String}
    (h : (forSome roleId fun id => requireAssignable (missing id) id).Ends s (.error e) t) :
    Warmed s t := by
  obtain ⟨id, -, hid⟩ := ends_forSome_error.mp h
  exact requireAssignable_error hid

theorem requireRows_ok {roleId : Option RoleId} {u : Unit}
    (h : (forSome roleId requireRow).Ends s (.ok u) t) :
    (∀ id ∈ roleId, s.roles.lookup id ≠ none) ∧ s = t := by
  rcases ends_forSome_ok.mp h with ⟨rfl, rfl⟩ | ⟨id, rfl, hid⟩
  · simp
  · simpa [requireRow, and_comm] using hid

theorem requireRows_error {roleId : Option RoleId} {e : String}
    (h : (forSome roleId requireRow).Ends s (.error e) t) : s = t := by
  obtain ⟨id, -, hid⟩ := ends_forSome_error.mp h
  simp [requireRow] at hid
  exact hid.2.2

end Reads

/-! ### What a call changes -/

/-- The change that a call makes where it succeeds, from the state in which it writes. -/
inductive Changed (config : Config) (s : State) : Request → State → Prop where
  | createRole {superAdminId : AdminId} {id : RoleId} {dto : CreateRoleDto} (role : Role)
      (untitled : s.titled role.title = false) (fresh : s.roles.lookup id = none) :
      Changed config s (.createRole superAdminId id dto)
        (refreshRoleCache s id (s.putRole id role))
  | updateRole {superAdminId : AdminId} {roleId : RoleId} {dto : UpdateRoleDto} (role : Role)
      (found : s.roles.lookup roleId = some role) (unreserved : role.title ≠ master)
      (untitled : ∀ title ∈ dto.newTitle role, s.titled title = false)
      (unassigned : dto.isActive = some false → s.assigned roleId = false) :
      Changed config s (.updateRole superAdminId roleId dto)
        (refreshRoleCache s roleId (s.putRole roleId (dto.apply config role)))
  | deleteRole {superAdminId : AdminId} {roleId : RoleId} (role : Role)
      (found : s.roles.lookup roleId = some role) (unreserved : role.title ≠ master)
      (unassigned : s.assigned roleId = false) :
      Changed config s (.deleteRole superAdminId roleId)
        (refreshRoleCache { s with roles := s.roles.erase roleId } roleId
          { s with roles := s.roles.erase roleId })
  | createInternalUser {superAdminId id : AdminId} {dto : CreateInternalUserDto}
      (assignable : ∀ roleId ∈ dto.internalRoleId,
        s.Assignable roleId ∧ s.roles.lookup roleId ≠ none)
      (fresh : s.admins.lookup id = none) :
      Changed config s (.createInternalUser superAdminId id dto)
        (onAdminCreated id dto.internalRoleId (s.putAdmin id dto.row))
  | updateInternalUser {superAdminId adminId : AdminId} {dto : UpdateInternalUserDto}
      (target : Admin) (found : s.admins.lookup adminId = some target)
      (modifiable : target.role ≠ .SUPER_ADMIN)
      (assignable : ∀ roleId ∈ dto.assigns, s.Assignable roleId ∧ s.roles.lookup roleId ≠ none) :
      Changed config s (.updateInternalUser superAdminId adminId dto)
        (dto.updateCaches adminId (s.putAdmin adminId (dto.apply target)))
  | revokeAllInternalAccess {superAdminId targetAdminId : AdminId} (target : Admin)
      (found : s.admins.lookup targetAdminId = some target)
      (modifiable : target.role ≠ .SUPER_ADMIN) :
      Changed config s (.revokeAllInternalAccess superAdminId targetAdminId)
        (s.putAdmin targetAdminId { target with internalRoleId := none })
  | addSuperAdmin {id : AdminId} {dto : CreateSuperAdminDto} (roleId : RoleId) (admin : Admin)
      (found : s.masterRoleId = some roleId)
      (row : admin.role = .SUPER_ADMIN ∧ admin.internalRoleId = some roleId)
      (key : dto.superAdminKey = config.SUPER_ADMIN_KEY) (fresh : s.admins.lookup id = none) :
      Changed config s (.addSuperAdmin id dto) (s.putAdmin id admin)
  | recomputeDashboardDaily :
      Changed config s .recomputeDashboardDaily (recomputeDashboardDaily s)

/-- The request is answered as one that has changed something. -/
def Succeeds (config : Config) (s : State) : Request → Prop
  | .createRole superAdminId id dto =>
    (createRole config superAdminId id dto).outcome s = .ok "Role created successfully"
  | .updateRole superAdminId roleId dto =>
    (updateRole config superAdminId roleId dto).outcome s = .ok "Role updated successfully"
  | .deleteRole superAdminId roleId =>
    (deleteRole superAdminId roleId).outcome s = .ok "Role deleted successfully"
  | .createInternalUser superAdminId id dto =>
    (createInternalUser superAdminId id dto).outcome s = .ok "Created successfully"
  | .updateInternalUser superAdminId adminId dto =>
    (updateInternalUser superAdminId adminId dto).outcome s =
      .ok "Internal user updated successfully"
  | .revokeAllInternalAccess superAdminId targetAdminId =>
    (revokeAllInternalAccess superAdminId targetAdminId).outcome s =
      .ok "All internal access revoked successfully"
  | .addSuperAdmin id dto =>
    (addSuperAdmin config id dto).outcome s = .ok "Super Admin created successfully"
  | .canActivate .. => False
  | .recomputeDashboardDaily => True

instance (config : Config) (s : State) (a : Request) : Decidable (Succeeds config s a) := by
  cases a <;> unfold Succeeds <;> infer_instance

/-- Answered with `success` the call has changed something, and otherwise warmed a cache at most. -/
def Makes (config : Config) (a : Request) (success : String) (x : Service State String String) :
    Prop :=
  ∀ s r t, x.Ends s r t →
    (r = .ok success → ∃ m, Warmed s m ∧ Changed config m a t) ∧ (r ≠ .ok success → Warmed s t)

section Calls

variable {config : Config}

theorem createRole_makes (superAdminId : AdminId) (id : RoleId) (dto : CreateRoleDto) :
    Makes config (.createRole superAdminId id dto) "Role created successfully"
      (createRole config superAdminId id dto) := by
  intro s r t h
  cases r with
  | error e =>
    simp [createRole, requireSuperAdmin] at h
    have hsame : s = t := by grind
    simp [← hsame, Warmed.refl]
  | ok message =>
    simp [createRole, requireSuperAdmin] at h
    obtain ⟨-, -, -, untitled, fresh, rfl, rfl⟩ := h
    exact ⟨fun _ => ⟨s, .refl s, .createRole _ untitled fresh⟩, fun hne => absurd rfl hne⟩

theorem updateRole_makes (superAdminId : AdminId) (roleId : RoleId) (dto : UpdateRoleDto) :
    Makes config (.updateRole superAdminId roleId dto) "Role updated successfully"
      (updateRole config superAdminId roleId dto) := by
  intro s r t h
  cases r with
  | error e =>
    simp [updateRole, requireSuperAdmin] at h
    have hsame : s = t := by grind
    simp [← hsame, Warmed.refl]
  | ok message =>
    simp [updateRole, requireSuperAdmin] at h
    obtain ⟨-, role, found, unreserved, untitled, unassigned, -, h⟩ := h
    rcases h with ⟨-, rfl, rfl⟩ | ⟨-, rfl, rfl⟩
    · simp [Warmed.refl]
    · simp only [Option.all_eq_true, Bool.not_eq_true'] at untitled
      exact ⟨fun _ => ⟨s, .refl s, .updateRole role found unreserved untitled unassigned⟩,
        fun hne => absurd rfl hne⟩

theorem deleteRole_makes (superAdminId : AdminId) (roleId : RoleId) :
    Makes config (.deleteRole superAdminId roleId) "Role deleted successfully"
      (deleteRole superAdminId roleId) := by
  intro s r t h
  cases r with
  | error e =>
    simp [deleteRole, requireSuperAdmin] at h
    have hsame : s = t := by grind
    simp [← hsame, Warmed.refl]
  | ok message =>
    simp [deleteRole, requireSuperAdmin] at h
    obtain ⟨-, role, found, unreserved, unassigned, rfl, rfl⟩ := h
    exact ⟨fun _ => ⟨s, .refl s, .deleteRole role found unreserved unassigned⟩,
      fun hne => absurd rfl hne⟩

theorem createInternalUser_makes (superAdminId id : AdminId) (dto : CreateInternalUserDto) :
    Makes config (.createInternalUser superAdminId id dto) "Created successfully"
      (createInternalUser superAdminId id dto) := by
  intro s r t h
  cases r with
  | error e =>
    suffices hwarm : Warmed s t by simp [hwarm]
    simp [createInternalUser, requireSuperAdmin] at h
    rcases h with h | ⟨-, h | ⟨u, m, hrole, h⟩⟩
    · have hsame : s = t := by grind
      simp [← hsame, Warmed.refl]
    · exact requireAssignables_error h
    · have hsame : m = t := by grind [requireRows_error, requireRows_ok]
      rw [← hsame]
      exact (requireAssignables_ok hrole).2
  | ok message =>
    simp [createInternalUser, requireSuperAdmin] at h
    obtain ⟨-, u, m, hrole, -, v, n, hrow, fresh, rfl, rfl⟩ := h
    obtain ⟨hassignable, hwarm⟩ := requireAssignables_ok hrole
    obtain ⟨hrows, rfl⟩ := requireRows_ok hrow
    refine ⟨fun _ => ⟨m, hwarm, .createInternalUser (fun id hid => ⟨?_, hrows id hid⟩) fresh⟩,
      fun hne => absurd rfl hne⟩
    simpa [State.Assignable, hwarm.roleAnswer] using hassignable id hid

theorem updateInternalUser_makes (superAdminId adminId : AdminId) (dto : UpdateInternalUserDto) :
    Makes config (.updateInternalUser superAdminId adminId dto)
      "Internal user updated successfully" (updateInternalUser superAdminId adminId dto) := by
  intro s r t h
  cases r with
  | error e =>
    suffices hwarm : Warmed s t by simp [hwarm]
    simp [updateInternalUser, requireSuperAdmin] at h
    rcases h with h | ⟨-, h | ⟨target, -, h | ⟨-, h | ⟨-, h | ⟨u, m, hrole, -, -, hrow⟩⟩⟩⟩⟩
    · have hsame : s = t := by grind
      simp [← hsame, Warmed.refl]
    · simp [← h.2.2, Warmed.refl]
    · simp [← h.2.2, Warmed.refl]
    · simp [← h.2.2, Warmed.refl]
    · exact requireAssignables_error h
    · rw [← requireRows_error hrow]
      exact (requireAssignables_ok hrole).2
  | ok message =>
    simp [updateInternalUser, requireSuperAdmin] at h
    obtain ⟨-, target, found, modifiable, -, u, m, hrole, h⟩ := h
    obtain ⟨hassignable, hwarm⟩ := requireAssignables_ok hrole
    rcases h with ⟨-, rfl, rfl⟩ | ⟨-, ⟨-, rfl, rfl⟩ | ⟨-, v, n, hrow, rfl, rfl⟩⟩
    · refine ⟨fun heq => absurd heq ?_, fun _ => hwarm⟩
      cases target.accountStatus <;> simp [AccountStatus.toLowerCase]
    · simp [hwarm]
    · obtain ⟨hrows, rfl⟩ := requireRows_ok hrow
      rw [← hwarm.admins] at found
      refine ⟨fun _ => ⟨m, hwarm, .updateInternalUser target found modifiable
        fun id hid => ⟨?_, hrows id hid⟩⟩, fun hne => absurd rfl hne⟩
      simpa [State.Assignable, hwarm.roleAnswer] using hassignable id hid

theorem revokeAllInternalAccess_makes (superAdminId targetAdminId : AdminId) :
    Makes config (.revokeAllInternalAccess superAdminId targetAdminId)
      "All internal access revoked successfully"
      (revokeAllInternalAccess superAdminId targetAdminId) := by
  intro s r t h
  cases r with
  | error e =>
    simp [revokeAllInternalAccess, requireSuperAdmin] at h
    have hsame : s = t := by grind
    simp [← hsame, Warmed.refl]
  | ok message =>
    simp [revokeAllInternalAccess, requireSuperAdmin] at h
    obtain ⟨-, target, found, modifiable, h⟩ := h
    rcases h with ⟨-, rfl, rfl⟩ | ⟨-, rfl, rfl⟩
    · simp [Warmed.refl]
    · exact ⟨fun _ => ⟨s, .refl s, .revokeAllInternalAccess target found modifiable⟩,
        fun hne => absurd rfl hne⟩

theorem addSuperAdmin_makes (id : AdminId) (dto : CreateSuperAdminDto) :
    Makes config (.addSuperAdmin id dto) "Super Admin created successfully"
      (addSuperAdmin config id dto) := by
  intro s r t h
  cases r with
  | error e =>
    simp [addSuperAdmin] at h
    have hsame : s = t := by grind
    simp [← hsame, Warmed.refl]
  | ok message =>
    simp [addSuperAdmin] at h
    obtain ⟨key, -, roleId, found, fresh, rfl, rfl⟩ := h
    exact ⟨fun _ => ⟨s, .refl s, .addSuperAdmin roleId _ found ⟨rfl, rfl⟩ key fresh⟩,
      fun hne => absurd rfl hne⟩

theorem canActivate_warms {user : AccessToken} {required : Requirement} {s t : State}
    {r : Except String Unit} (h : (canActivate user required).Ends s r t) : Warmed s t := by
  cases r with
  | error e =>
    simp [canActivate] at h
    rcases h with h | ⟨-, h | ⟨-, h | ⟨-, -, h | ⟨roleId, m, hadmin, h⟩⟩⟩⟩
    · simp [← h.2.2, Warmed.refl]
    · simp [← h.2.2, Warmed.refl]
    · simp [← h.2.2, Warmed.refl]
    · simp [← (getAdminInternalRoleId_error h).2, Warmed.refl]
    · have hwarm := (getAdminInternalRoleId_ok hadmin).2
      rcases h with h | ⟨internalRoleId, -, h | ⟨-, -, h | ⟨c, n, hrole, h⟩⟩⟩
      · rwa [← h.2.2]
      · rwa [← h.2.2]
      · exact hwarm.trans (getRoleById_ends h).2
      · have hsame : n = t := by grind
        rw [← hsame]
        exact hwarm.trans (getRoleById_ends hrole).2
  | ok u =>
    simp [canActivate] at h
    obtain ⟨-, -, -, ⟨-, rfl⟩ | ⟨-, roleId, m, hadmin, -, h⟩⟩ := h
    · exact .refl s
    · have hwarm := (getAdminInternalRoleId_ok hadmin).2
      rcases h with ⟨-, rfl⟩ | ⟨-, c, hrole, -⟩
      · exact hwarm
      · exact hwarm.trans (getRoleById_ends hrole).2

theorem Makes.cases {a : Request} {success : String} {x : Service State String String}
    (hx : Makes config a success x) (s : State) :
    x.outcome s ≠ .ok success ∧ Warmed s (x.after s) ∨
      x.outcome s = .ok success ∧ ∃ m, Warmed s m ∧ Changed config m a (x.after s) := by
  have h := hx s _ _ (x.ends_self s)
  by_cases hok : x.outcome s = .ok success
  · exact .inr ⟨hok, h.1 hok⟩
  · exact .inl ⟨hok, h.2 hok⟩

theorem step_cases (a : Request) (s : State) :
    ¬ Succeeds config s a ∧ Warmed s (step config a s) ∨
      Succeeds config s a ∧ ∃ m, Warmed s m ∧ Changed config m a (step config a s) := by
  cases a with
  | createRole superAdminId id dto => exact (createRole_makes superAdminId id dto).cases s
  | updateRole superAdminId roleId dto => exact (updateRole_makes superAdminId roleId dto).cases s
  | deleteRole superAdminId roleId => exact (deleteRole_makes superAdminId roleId).cases s
  | createInternalUser superAdminId id dto =>
    exact (createInternalUser_makes superAdminId id dto).cases s
  | updateInternalUser superAdminId adminId dto =>
    exact (updateInternalUser_makes superAdminId adminId dto).cases s
  | revokeAllInternalAccess superAdminId targetAdminId =>
    exact (revokeAllInternalAccess_makes superAdminId targetAdminId).cases s
  | addSuperAdmin id dto => exact (addSuperAdmin_makes id dto).cases s
  | canActivate user required =>
    exact .inl ⟨not_false, canActivate_warms ((canActivate user required).ends_self s)⟩
  | recomputeDashboardDaily => exact .inr ⟨trivial, s, .refl s, .recomputeDashboardDaily⟩

end Calls

end InternalRoles

end ExchangeLedger
