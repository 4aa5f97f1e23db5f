import ExchangeLedger.RoleChanges
import ExchangeLedger.Run

set_option autoImplicit false

/-! Which requests of an admin the guard lets through, at any moment of a run. -/

namespace ExchangeLedger

open Service

namespace InternalRoles

/-! ### The caches after a change -/

section Keys

variable (s t : State)

theorem internalRoleOf_putAdmin (id j : AdminId) (admin : Admin) :
    (s.putAdmin id admin).internalRoleOf j =
      if j = id then admin.internalRoleId else s.internalRoleOf j := by
  unfold State.internalRoleOf State.putAdmin
  rw [Table.lookup_insert]
  split <;> rfl

theorem fetchRole_putRole (id j : RoleId) (role : Role) :
    (s.putRole id role).fetchRole j =
      if j = id then some (cachedRole id role) else s.fetchRole j := by
  unfold State.fetchRole State.putRole
  rw [Table.lookup_insert]
  split <;> simp_all

theorem roleAnswer_refresh (id j : RoleId) :
    (refreshRoleCache s id t).roleAnswer j =
      if j = id then (s.fetchRole id).or (t.fetchRole id) else t.roleAnswer j := by
  by_cases h : j = id
  · subst h
    simp [State.roleAnswer, refreshRoleCache, State.fetchRole]
  · simp [State.roleAnswer, refreshRoleCache, State.fetchRole, h]

theorem roleAnswer_putRole_ne {id j : RoleId} (role : Role) (h : j ≠ id) :
    (s.putRole id role).roleAnswer j = s.roleAnswer j := by
  unfold State.roleAnswer
  rw [fetchRole_putRole, if_neg h]
  rfl

@[simp] theorem roleAnswer_cacheAdminRole (id : AdminId) (role : Option RoleId) :
    (cacheAdminRole id role s).roleAnswer = s.roleAnswer := by
  cases role <;> rfl

@[simp] theorem updateCaches_eq (dto : UpdateInternalUserDto) (adminId : AdminId) :
    dto.updateCaches adminId s = cacheAdminRole adminId dto.assigns s := by
  unfold UpdateInternalUserDto.updateCaches onAdminRoleUpdated
  cases h : dto.internalRoleId <;> simp [cacheAdminRole, UpdateInternalUserDto.assigns, h]

theorem roleKeys_daily (j : RoleId) :
    (recomputeDashboardDaily s).roleKeys j = (s.fetchRole j).or (s.roleKeys j) := by
  simp [recomputeDashboardDaily, refreshAllRolesCache, cacheAllAdminRoles, Table.fill_apply,
    State.fetchRole, Option.map_eq_bind]

theorem adminRoleKeys_daily (j : AdminId) :
    (recomputeDashboardDaily s).adminRoleKeys j =
      (s.internalRoleOf j).or (s.adminRoleKeys j) := by
  simp [recomputeDashboardDaily, refreshAllRolesCache, cacheAllAdminRoles, Table.fill_apply,
    State.internalRoleOf]

end Keys

/-- Only rows have keys, and an admin's key agrees with the row: a super admin's may be missing. -/
structure Rooted (s : State) : Prop where
  role : ∀ id, s.roles.lookup id = none → s.roleKeys id = none
  admin : ∀ id, s.admins.lookup id = none → s.adminRoleKeys id = none
  held : ∀ id admin roleId, s.admins.lookup id = some admin → admin.internalRoleId = some roleId →
    s.adminRoleKeys id = some roleId ∨ admin.role = .SUPER_ADMIN ∧ s.adminRoleKeys id = none

theorem Warmed.rooted {s t : State} (h : Warmed s t) (hs : Rooted s) : Rooted t where
  role id hid := by
    rw [h.roles] at hid
    have hkey := hs.role id hid
    rcases h.roleKeys id with heq | ⟨-, heq⟩
    · rw [heq, hkey]
    · simp [heq, State.fetchRole, hid]
  admin id hid := by
    rw [h.admins] at hid
    have hkey := hs.admin id hid
    rcases h.adminRoleKeys id with heq | ⟨-, heq⟩
    · rw [heq, hkey]
    · simp [heq, State.internalRoleOf, hid]
  held id admin roleId hid hrole := by
    rw [h.admins] at hid
    rcases h.adminRoleKeys id with heq | ⟨-, heq⟩
    · rw [heq]
      exact hs.held id admin roleId hid hrole
    · simp [heq, State.internalRoleOf, hid, hrole]

theorem adminRoleKeys_cacheAdminRole (s : State) (id j : AdminId) (role : Option RoleId) :
    (cacheAdminRole id role s).adminRoleKeys j =
      if j = id then role.or (s.adminRoleKeys id) else s.adminRoleKeys j := by
  by_cases h : j = id
  · subst h
    cases role <;> simp [cacheAdminRole]
  · cases role <;> simp [cacheAdminRole, h]

@[simp] theorem admins_cacheAdminRole (s : State) (id : AdminId) (role : Option RoleId) :
    (cacheAdminRole id role s).admins = s.admins := by cases role <;> rfl

/-- An admin's row and key are written so that the key agrees with the row. -/
theorem Rooted.putAdmin {s : State} (hs : Rooted s) {id : AdminId} {admin : Admin}
    {role : Option RoleId} (agrees : ∀ roleId, admin.internalRoleId = some roleId →
      role.or (s.adminRoleKeys id) = some roleId ∨
        admin.role = .SUPER_ADMIN ∧ role.or (s.adminRoleKeys id) = none) :
    Rooted (cacheAdminRole id role (s.putAdmin id admin)) where
  role j hj := by
    have hroles : s.roles.lookup j = none := by cases role <;> exact hj
    have hkey := hs.role j hroles
    cases role <;> exact hkey
  admin j hj := by
    rw [admins_cacheAdminRole, State.putAdmin, Table.lookup_insert] at hj
    rw [adminRoleKeys_cacheAdminRole]
    have hkey := hs.admin j
    split at hj <;> simp_all [State.putAdmin]
  held j row roleId hj hrole := by
    rw [admins_cacheAdminRole, State.putAdmin, Table.lookup_insert] at hj
    rw [adminRoleKeys_cacheAdminRole]
    have hheld := hs.held j row roleId
    split at hj
    · rename_i hid
      cases hj
      rw [if_pos hid]
      exact agrees roleId hrole
    · rename_i hid
      rw [if_neg hid]
      exact hheld hj hrole

variable {config : Config}

theorem Changed.rooted {s t : State} {a : Request} (h : Changed config s a t) (hs : Rooted s) :
    Rooted t := by
  cases h with
  | createRole role untitled fresh =>
    refine ⟨fun j hj => ?_, hs.admin, hs.held⟩
    simp only [refreshRoleCache, State.putRole, Table.lookup_insert] at hj ⊢
    have hrole := hs.role j
    grind [Function.update_apply]
  | updateRole role found unreserved untitled unassigned =>
    refine ⟨fun j hj => ?_, hs.admin, hs.held⟩
    simp only [refreshRoleCache, State.putRole, Table.lookup_insert] at hj ⊢
    have hrole := hs.role j
    grind [Function.update_apply]
  | @deleteRole _ roleId role found unreserved unassigned =>
    refine ⟨fun j hj => ?_, hs.admin, hs.held⟩
    by_cases hid : j = roleId
    · subst hid
      simp [refreshRoleCache, State.fetchRole]
    · simp [refreshRoleCache, AList.lookup_erase_ne hid, hid] at hj ⊢
      exact hs.role j hj
  | @createInternalUser _ id dto assignable fresh =>
    refine hs.putAdmin fun roleId hrole => .inl ?_
    have hgiven : dto.internalRoleId = some roleId := hrole
    rw [hgiven, Option.some_or]
  | @updateInternalUser _ adminId dto target found modifiable assignable =>
    rw [updateCaches_eq]
    refine hs.putAdmin fun roleId hrole => .inl ?_
    have hheld := hs.held adminId target roleId found
    simp only [UpdateInternalUserDto.apply] at hrole
    cases hdto : dto.internalRoleId with
    | none => simp_all [UpdateInternalUserDto.assigns]
    | some given => simp_all [UpdateInternalUserDto.assigns]
  | @revokeAllInternalAccess _ adminId target found modifiable =>
    have h : Rooted (cacheAdminRole adminId none
        (s.putAdmin adminId { target with internalRoleId := none })) :=
      hs.putAdmin fun roleId hrole => by cases hrole
    exact h
  | @addSuperAdmin id _ roleId admin found row key fresh =>
    have h : Rooted (cacheAdminRole id none (s.putAdmin id admin)) :=
      hs.putAdmin fun j hj => .inr ⟨row.1, hs.admin id fresh⟩
    exact h
  | recomputeDashboardDaily =>
    refine ⟨fun j hj => ?_, fun j hj => ?_, fun j admin roleId hj hrole => ?_⟩
    · rw [roleKeys_daily, hs.role j hj]
      simp [State.fetchRole, show s.roles.lookup j = none from hj]
    · rw [adminRoleKeys_daily, hs.admin j hj]
      simp [State.internalRoleOf, show s.admins.lookup j = none from hj]
    · have hrow : s.internalRoleOf j = some roleId := by
        simp [State.internalRoleOf, show s.admins.lookup j = some admin from hj, hrole]
      simp [adminRoleKeys_daily, hrow]

theorem rooted_step (s : State) (a : Request) (hs : Rooted s) : Rooted (step config a s) := by
  rcases step_cases a s with ⟨-, hwarm⟩ | ⟨-, m, hwarm, hchanged⟩
  · exact hwarm.rooted hs
  · exact hchanged.rooted (hwarm.rooted hs)

/-! ### The last role published, and the last one assigned -/

/-- The row that a change leaves under a role's key. An update leaves the row that it replaces. -/
def publishes (roleId : RoleId) (s t : State) : Request → Option CachedRole → Option CachedRole
  | .createRole _ id _, shown => if id = roleId then t.fetchRole roleId else shown
  | .updateRole _ id _, shown => if id = roleId then s.fetchRole roleId else shown
  | .deleteRole _ id, shown => if id = roleId then none else shown
  | .recomputeDashboardDaily, _ => s.fetchRole roleId
  | _, shown => shown

/-- The role that a change leaves under an admin's key. Taking a role away leaves it. -/
def assigns (adminId : AdminId) (t : State) : Request → Option RoleId → Option RoleId
  | .createInternalUser _ id dto, held => if id = adminId then dto.internalRoleId else held
  | .updateInternalUser _ id dto, held => if id = adminId then dto.assigns.or held else held
  | .addSuperAdmin id _, held => if id = adminId then t.internalRoleOf adminId else held
  | _, held => held

theorem Changed.roleAnswer {s t : State} {a : Request} (h : Changed config s a t) (hs : Rooted s)
    (roleId : RoleId) : t.roleAnswer roleId = publishes roleId s t a (s.roleAnswer roleId) := by
  cases h with
  | @createRole _ id _ role untitled fresh =>
    rw [roleAnswer_refresh, publishes]
    by_cases hid : roleId = id
    · subst hid
      have hnone : s.fetchRole roleId = none := by simp [State.fetchRole, fresh]
      rw [if_pos rfl, if_pos rfl, hnone, Option.none_or]
      rfl
    · rw [if_neg hid, if_neg (Ne.symm hid), roleAnswer_putRole_ne s role hid]
  | @updateRole _ id _ role found unreserved untitled unassigned =>
    rw [roleAnswer_refresh, publishes]
    by_cases hid : roleId = id
    · subst hid
      have hsome : s.fetchRole roleId = some (cachedRole roleId role) := by
        simp [State.fetchRole, found]
      rw [if_pos rfl, if_pos rfl, hsome, Option.some_or]
    · rw [if_neg hid, if_neg (Ne.symm hid), roleAnswer_putRole_ne s _ hid]
  | @deleteRole _ id role found unreserved unassigned =>
    rw [roleAnswer_refresh, publishes]
    by_cases hid : roleId = id
    · subst hid
      simp [State.fetchRole]
    · rw [if_neg hid, if_neg (Ne.symm hid)]
      simp [State.roleAnswer, State.fetchRole, AList.lookup_erase_ne hid]
  | createInternalUser assignable fresh => exact congrFun (roleAnswer_cacheAdminRole _ _ _) roleId
  | updateInternalUser target found modifiable assignable =>
    rw [updateCaches_eq]
    exact congrFun (roleAnswer_cacheAdminRole _ _ _) roleId
  | revokeAllInternalAccess target found modifiable => rfl
  | addSuperAdmin id admin found row key fresh => rfl
  | recomputeDashboardDaily =>
    have hfetch : (InternalRoles.recomputeDashboardDaily s).fetchRole roleId = s.fetchRole roleId :=
        rfl
    unfold State.roleAnswer
    rw [roleKeys_daily, hfetch, publishes]
    cases hrow : s.roles.lookup roleId with
    | none => simp [State.fetchRole, hrow, hs.role roleId hrow]
    | some role => simp [State.fetchRole, hrow]

theorem adminRoleAnswer_putAdmin {s : State} {id : AdminId} {admin : Admin} (role : Option RoleId)
    (hrow : role.or ((s.adminRoleKeys id).or admin.internalRoleId) =
      role.or (s.adminRoleAnswer id)) (j : AdminId) :
    (cacheAdminRole id role (s.putAdmin id admin)).adminRoleAnswer j =
      if id = j then role.or (s.adminRoleAnswer j) else s.adminRoleAnswer j := by
  have hinternal : (cacheAdminRole id role (s.putAdmin id admin)).internalRoleOf j =
      if j = id then admin.internalRoleId else s.internalRoleOf j := by
    rw [← internalRoleOf_putAdmin]
    simp [State.internalRoleOf]
  unfold State.adminRoleAnswer
  rw [adminRoleKeys_cacheAdminRole, hinternal]
  by_cases h : j = id
  · subst h
    simpa [State.putAdmin, State.adminRoleAnswer, Option.or_assoc] using hrow
  · simp [h, Ne.symm h, State.putAdmin]

theorem Rooted.or_row {s : State} (hs : Rooted s) {id : AdminId} {admin : Admin}
    (found : s.admins.lookup id = some admin) (modifiable : admin.role ≠ .SUPER_ADMIN) :
    (s.adminRoleKeys id).or admin.internalRoleId = s.adminRoleKeys id := by
  cases hrole : admin.internalRoleId with
  | none => simp
  | some roleId =>
    rcases hs.held id admin roleId found hrole with hkey | ⟨hsuper, -⟩
    · simp [hkey]
    · exact absurd hsuper modifiable

theorem Changed.adminRoleAnswer {s t : State} {a : Request} (h : Changed config s a t)
    (hs : Rooted s) (adminId : AdminId) :
    t.adminRoleAnswer adminId = assigns adminId t a (s.adminRoleAnswer adminId) := by
  cases h with
  | createRole role untitled fresh => rfl
  | updateRole role found unreserved untitled unassigned => rfl
  | deleteRole role found unreserved unassigned => rfl
  | @createInternalUser _ id dto assignable fresh =>
    have hnone : s.adminRoleAnswer id = none := by
      simp [State.adminRoleAnswer, State.internalRoleOf, hs.admin id fresh, fresh]
    refine (adminRoleAnswer_putAdmin dto.internalRoleId ?_ adminId).trans ?_
    · cases hrole : dto.internalRoleId with
      | none => simp [CreateInternalUserDto.row, hrole, hnone, hs.admin id fresh]
      | some roleId => simp
    · by_cases hid : id = adminId
      · subst hid
        simp [assigns, hnone]
      · simp [assigns, hid]
  | @updateInternalUser _ id dto target found modifiable assignable =>
    rw [updateCaches_eq]
    refine (adminRoleAnswer_putAdmin dto.assigns ?_ adminId).trans rfl
    have hrow := hs.or_row found modifiable
    simp only [State.adminRoleAnswer, State.internalRoleOf, found, Option.bind_some, hrow,
      UpdateInternalUserDto.apply]
    cases hdto : dto.internalRoleId with
    | none => simp [hrow]
    | some given => cases given <;> simp [UpdateInternalUserDto.assigns, hdto]
  | @revokeAllInternalAccess _ id target found modifiable =>
    refine (adminRoleAnswer_putAdmin none ?_ adminId).trans (by simp [assigns])
    simp [State.adminRoleAnswer, State.internalRoleOf, found, hs.or_row found modifiable]
  | @addSuperAdmin id _ roleId admin found row key fresh =>
    simp only [State.adminRoleAnswer, internalRoleOf_putAdmin, assigns]
    by_cases hid : id = adminId
    · subst hid
      simp [State.putAdmin, hs.admin id fresh]
    · simp [State.putAdmin, hid, Ne.symm hid]
  | recomputeDashboardDaily =>
    have hinternal : (InternalRoles.recomputeDashboardDaily s).internalRoleOf adminId =
      s.internalRoleOf adminId := rfl
    simp only [State.adminRoleAnswer, adminRoleKeys_daily, hinternal, assigns]
    cases hrow : s.internalRoleOf adminId with
    | none => simp
    | some roleId =>
      obtain ⟨admin, hadmin, hrole⟩ := Option.bind_eq_some_iff.mp hrow
      rcases hs.held adminId admin roleId hadmin hrole with hkey | ⟨-, hkey⟩ <;> simp [hkey]

section Observers

variable (config)

/-- The role that the cache shows after a run. It is not what the table holds: an update shows from
the next update, or from the next morning, on. -/
def lastPublished (roleId : RoleId) (s : State) (as : List Request) : Option CachedRole :=
  Run.observed (step config) (fun s a shown =>
    if Succeeds config s a then publishes roleId s (step config a s) a shown else shown)
    (s.roleAnswer roleId) s as

/-- The last role that an admin was given in a run, whether or not it has been taken away since. -/
def lastAssigned (adminId : AdminId) (s : State) (as : List Request) : Option RoleId :=
  Run.observed (step config) (fun s a held =>
    if Succeeds config s a then assigns adminId (step config a s) a held else held)
    (s.adminRoleAnswer adminId) s as

end Observers

theorem Warmed.publishes {s m : State} (h : Warmed s m) (roleId : RoleId) (t : State) (a : Request)
    (shown : Option CachedRole) :
    publishes roleId m t a shown = publishes roleId s t a shown := by
  cases a <;> simp [InternalRoles.publishes, h.fetchRole]

theorem final_roleAnswer {s : State} (hs : Rooted s) (roleId : RoleId) (as : List Request) :
    (Run.final (step config) s as).roleAnswer roleId = lastPublished config roleId s as := by
  refine Run.final_observed (v := fun s => s.roleAnswer roleId) rooted_step ?_ hs as
  intro s a hs
  rcases step_cases a s with ⟨hfails, hwarm⟩ | ⟨hsucceeds, m, hwarm, hchanged⟩
  · rw [if_neg hfails, hwarm.roleAnswer]
  · rw [if_pos hsucceeds, hchanged.roleAnswer (hwarm.rooted hs), hwarm.publishes, hwarm.roleAnswer]

theorem final_adminRoleAnswer {s : State} (hs : Rooted s) (adminId : AdminId)
    (as : List Request) :
    (Run.final (step config) s as).adminRoleAnswer adminId =
      lastAssigned config adminId s as := by
  refine Run.final_observed (v := fun s => s.adminRoleAnswer adminId) rooted_step ?_ hs as
  intro s a hs
  rcases step_cases a s with ⟨hfails, hwarm⟩ | ⟨hsucceeds, m, hwarm, hchanged⟩
  · rw [if_neg hfails, hwarm.adminRoleAnswer]
  · rw [if_pos hsucceeds, hchanged.adminRoleAnswer (hwarm.rooted hs), hwarm.adminRoleAnswer]

/-! ### The guard -/

theorem getAdminInternalRoleId_ends {s : State} {adminId : AdminId} {roleId : RoleId}
    (h : s.adminRoleAnswer adminId = some roleId) :
    ∃ t, (getAdminInternalRoleId adminId).Ends s (.ok roleId) t ∧ Warmed s t := by
  have hends := (getAdminInternalRoleId adminId).ends_self s
  cases hr : (getAdminInternalRoleId adminId).outcome s with
  | error e =>
    rw [hr] at hends
    simp [(getAdminInternalRoleId_error hends).1] at h
  | ok r =>
    rw [hr] at hends
    have hanswer := getAdminInternalRoleId_ok hends
    rw [h, Option.some.injEq] at hanswer
    rw [← hanswer.1] at hends
    exact ⟨_, hends, hanswer.2⟩

theorem canActivate_iff (user : AccessToken) (required : Requirement) (s : State) :
    (canActivate user required).outcome s = .ok () ↔
      user.userType = .ADMIN ∧ user.accountStatus = some .ACTIVE ∧
        (user.role = some .SUPER_ADMIN ∨ required.super_admin = false ∧
          ∃ roleId, user.internalRoleId = some roleId ∧
            s.adminRoleAnswer user.id = some roleId ∧
            (required.permissions = [] ∨ ∃ c, s.roleAnswer roleId = some c ∧ c.isActive = true ∧
              ∀ p ∈ required.permissions, p ∈ c.permissions)) := by
  rw [outcome_eq_iff]
  constructor
  · rintro ⟨t, h⟩
    simp [canActivate] at h
    obtain ⟨htype, hstatus, hsuper, ⟨hrole, -⟩ | ⟨hrole, roleId, m, hadmin, htoken, h⟩⟩ := h
    · exact ⟨htype, hstatus, .inl hrole⟩
    · have hrequired : required.super_admin = false := by
        simpa using fun hreq => hrole (hsuper hreq)
      obtain ⟨hanswer, hwarm⟩ := getAdminInternalRoleId_ok hadmin
      refine ⟨htype, hstatus, .inr ⟨hrequired, roleId, htoken, hanswer, ?_⟩⟩
      rcases h with ⟨hempty, -⟩ | ⟨-, c, hget, hactive, -, hall⟩
      · exact .inl hempty
      · have hc := (getRoleById_ends hget).1
        rw [hwarm.roleAnswer, Except.ok.injEq] at hc
        exact .inr ⟨c, hc.symm, hactive, hall⟩
  · rintro ⟨htype, hstatus, hsuper | ⟨hrequired, roleId, htoken, hanswer, h⟩⟩
    · exact ⟨s, by simp [canActivate, htype, hstatus, hsuper]⟩
    · by_cases hsuper : user.role = some .SUPER_ADMIN
      · exact ⟨s, by simp [canActivate, htype, hstatus, hsuper]⟩
      · obtain ⟨m, hadmin, hwarm⟩ := getAdminInternalRoleId_ends hanswer
        by_cases hempty : required.permissions = []
        · refine ⟨m, ?_⟩
          simp [canActivate, htype, hstatus, hsuper, hrequired, htoken, hempty, hadmin]
        · obtain ⟨c, hc, hactive, hall⟩ := h.resolve_left hempty
          have hnonempty : c.permissions ≠ [] := by
            intro hnil
            rw [hnil] at hall
            exact hempty (List.eq_nil_iff_forall_not_mem.mpr fun p hp => by simpa using hall p hp)
          have hget := (getRoleById roleId).ends_self m
          rw [(getRoleById_ends hget).1, hwarm.roleAnswer, hc] at hget
          refine ⟨(getRoleById roleId).after m, ?_⟩
          simp [canActivate, htype, hstatus, hsuper, hrequired, htoken, hempty]
          exact ⟨m, hadmin, c, hget, hactive, hnonempty, hall⟩

/-- At any moment of a run the guard lets a token's request through exactly where the token says
that its admin is active, and it is a super admin's, or it names the last role that the admin was
given and the cached row of that role is active and has the permissions. Deactivating the admin or
taking the role away stops no token, and a role's update stops none before the next one. -/
theorem guard_allows_iff {s : State} (hs : Rooted s) (as : List Request) (user : AccessToken)
    (required : Requirement) :
    (canActivate user required).outcome (Run.final (step config) s as) = .ok () ↔
      user.userType = .ADMIN ∧ user.accountStatus = some .ACTIVE ∧
        (user.role = some .SUPER_ADMIN ∨ required.super_admin = false ∧
          ∃ roleId, user.internalRoleId = some roleId ∧
            lastAssigned config user.id s as = some roleId ∧
            (required.permissions = [] ∨
              ∃ c, lastPublished config roleId s as = some c ∧ c.isActive = true ∧
                ∀ p ∈ required.permissions, p ∈ c.permissions)) := by
  rw [canActivate_iff, final_adminRoleAnswer hs]
  simp only [final_roleAnswer hs]

theorem rooted_boot (roles : Table RoleId Role) (admins : Table AdminId Admin) :
    Rooted (recomputeDashboardDaily ⟨roles, admins, fun _ => none, fun _ => none⟩) where
  role id hid := by
    have hrow : roles.lookup id = none := hid
    simp [roleKeys_daily, State.fetchRole, hrow]
  admin id hid := by
    have hrow : admins.lookup id = none := hid
    simp [adminRoleKeys_daily, State.internalRoleOf, hrow]
  held id admin roleId hid hrole := by
    have hrow : admins.lookup id = some admin := hid
    simp [adminRoleKeys_daily, State.internalRoleOf, hrow, hrole]

/-- A support role (1) next to MASTER (0). -/
def officeRoles : Table RoleId Role :=
  ((∅ : Table RoleId Role).insert 0 ⟨master, none, true, [7, 8]⟩).insert 1
    ⟨"Support".toList, none, true, [7]⟩

/-- A super admin (0), and an admin (1) with the support role. -/
def officeAdmins : Table AdminId Admin :=
  ((∅ : Table AdminId Admin).insert 0
    ⟨[], ⟨[], [], [], none, none, none, none⟩, .SUPER_ADMIN, some 0, .ACTIVE⟩).insert 1
    ⟨['@'], ⟨[], [], [], none, none, none, none⟩, .ADMIN, some 1, .ACTIVE⟩

def office : State :=
  recomputeDashboardDaily ⟨officeRoles, officeAdmins, fun _ => none, fun _ => none⟩

/-- The role is taken away and then deactivated, and the admin's token still opens what it
opened. -/
theorem revoked_token_passes :
    (canActivate ⟨1, .ADMIN, some .ADMIN, some 1, some .ACTIVE⟩ ⟨false, [7]⟩).outcome
      (Run.final (step ⟨[7, 8], []⟩) office [.revokeAllInternalAccess 0 1,
        .updateRole 0 1 ⟨none, none, some false, none⟩]) = .ok () :=
  (guard_allows_iff (rooted_boot _ _) _ _ _).mpr
    ⟨rfl, rfl, .inr ⟨rfl, 1, rfl, by decide,
      .inr ⟨⟨1, "Support".toList, [7], true⟩, by decide, rfl, by simp⟩⟩⟩

end InternalRoles

end ExchangeLedger
