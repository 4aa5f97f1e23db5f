import ExchangeLedger.AdminAccess

set_option autoImplicit false

/-! What holds of roles and admins in every run: MASTER stays with the super admins, and when every
assigned role is an active one. -/

namespace ExchangeLedger

open Service

namespace InternalRoles

variable {config : Config}

theorem titled_eq_false {s : State} {title : Text} :
    s.titled title = false ↔ ∀ id role, s.roles.lookup id = some role → role.title ≠ title := by
  simp only [State.titled, List.any_eq_false, decide_eq_true_eq]
  constructor
  · intro h id role hrole
    exact h ⟨id, role⟩ (AList.mem_lookup_iff.mp hrole)
  · intro h e he
    exact h e.1 e.2 (AList.mem_lookup_iff.mpr he)

theorem assigned_eq_false {s : State} {roleId : RoleId} :
    s.assigned roleId = false ↔
      ∀ id admin, s.admins.lookup id = some admin → admin.internalRoleId ≠ some roleId := by
  simp only [State.assigned, List.any_eq_false, decide_eq_true_eq]
  constructor
  · intro h id admin hadmin
    exact h ⟨id, admin⟩ (AList.mem_lookup_iff.mp hadmin)
  · intro h e he
    exact h e.1 e.2 (AList.mem_lookup_iff.mpr he)

/-- Title and row of MASTER are as at the start, also in the cache, and only super admins have
it. -/
structure Reserved (masterId : RoleId) (row : Role) (s : State) : Prop where
  rooted : Rooted s
  found : s.roles.lookup masterId = some row
  cached : s.roleAnswer masterId = some (cachedRole masterId row)
  only : ∀ id role, s.roles.lookup id = some role → role.title = master → id = masterId
  admins : ∀ id admin, s.admins.lookup id = some admin → admin.internalRoleId = some masterId →
    admin.role = .SUPER_ADMIN

variable {masterId : RoleId} {row : Role}

theorem Warmed.reserved {s t : State} (h : Warmed s t) (hs : Reserved masterId row s) :
    Reserved masterId row t where
  rooted := h.rooted hs.rooted
  found := by rw [h.roles, hs.found]
  cached := by rw [h.roleAnswer, hs.cached]
  only := by rw [h.roles]; exact hs.only
  admins := by rw [h.admins]; exact hs.admins

section Changed

variable (titled : row.title = master)
include titled

theorem Reserved.ne_of_assignable {s : State} (hs : Reserved masterId row s) {roleId : RoleId}
    (h : s.Assignable roleId) : roleId ≠ masterId := by
  rintro rfl
  obtain ⟨c, hc, -, hne⟩ := h
  rw [hs.cached, Option.some.injEq] at hc
  subst hc
  exact hne titled

theorem Reserved.ne_of_unreserved {s : State} (hs : Reserved masterId row s) {roleId : RoleId}
    {role : Role} (found : s.roles.lookup roleId = some role) (h : role.title ≠ master) :
    roleId ≠ masterId := by
  rintro rfl
  rw [hs.found, Option.some.injEq] at found
  subst found
  exact h titled

theorem Reserved.title_ne {s : State} (hs : Reserved masterId row s) {title : Text}
    (untitled : s.titled title = false) : title ≠ master := by
  rintro rfl
  exact titled_eq_false.mp untitled masterId row hs.found titled

theorem Reserved.update_title {s : State} (hs : Reserved masterId row s) {dto : UpdateRoleDto}
    {role : Role} (unreserved : role.title ≠ master)
    (untitled : ∀ title ∈ dto.newTitle role, s.titled title = false) :
    (dto.apply config role).title ≠ master := by
  cases h : dto.newTitle role with
  | none => simpa [UpdateRoleDto.apply, h] using unreserved
  | some title => simpa [UpdateRoleDto.apply, h] using hs.title_ne titled (untitled title h)

omit titled in
theorem Reserved.putRole {s : State} (hs : Reserved masterId row s) {id : RoleId} {role : Role}
    (hid : id ≠ masterId) (htitle : role.title ≠ master) :
    (s.putRole id role).roles.lookup masterId = some row ∧
      ∀ j r, (s.putRole id role).roles.lookup j = some r → r.title = master → j = masterId := by
  simp only [State.putRole, Table.lookup_insert]
  constructor
  · rw [if_neg (Ne.symm hid), hs.found]
  · intro j r hj hr
    split at hj
    · cases hj
      exact absurd hr htitle
    · exact hs.only j r hj hr

omit titled in
theorem Reserved.putAdmin {s : State} (hs : Reserved masterId row s) {id : AdminId} {admin : Admin}
    (hadmin : admin.internalRoleId = some masterId → admin.role = .SUPER_ADMIN) (j : AdminId)
    (r : Admin) (hj : (s.putAdmin id admin).admins.lookup j = some r)
    (hr : r.internalRoleId = some masterId) : r.role = .SUPER_ADMIN := by
  rw [State.putAdmin, Table.lookup_insert] at hj
  split at hj
  · cases hj
    exact hadmin hr
  · exact hs.admins j r hj hr

theorem Changed.reserved {s t : State} {a : Request} (h : Changed config s a t)
    (hs : Reserved masterId row s) : Reserved masterId row t := by
  have hrooted := h.rooted hs.rooted
  have hcached := h.roleAnswer hs.rooted masterId
  rw [hs.cached] at hcached
  cases h with
  | @createRole _ id _ role untitled fresh =>
    have hid : id ≠ masterId := by
      rintro rfl
      simp [hs.found] at fresh
    have hput := hs.putRole hid (hs.title_ne titled untitled)
    rw [publishes, if_neg hid] at hcached
    exact ⟨hrooted, hput.1, hcached, hput.2, hs.admins⟩
  | @updateRole _ id dto role found unreserved untitled unassigned =>
    have hid := hs.ne_of_unreserved titled found unreserved
    have htitle : (dto.apply config role).title ≠ master :=
      hs.update_title titled unreserved untitled
    have hput := hs.putRole hid htitle
    rw [publishes, if_neg hid] at hcached
    exact ⟨hrooted, hput.1, hcached, hput.2, hs.admins⟩
  | @deleteRole _ id role found unreserved unassigned =>
    have hid := hs.ne_of_unreserved titled found unreserved
    rw [publishes, if_neg hid] at hcached
    refine ⟨hrooted, ?_, hcached, fun j r hj => ?_, hs.admins⟩
    · exact (AList.lookup_erase_ne (Ne.symm hid)).trans hs.found
    · by_cases hj' : j = id
      · subst hj'
        simp [refreshRoleCache] at hj
      · exact hs.only j r ((AList.lookup_erase_ne hj').symm.trans hj)
  | @createInternalUser _ id dto assignable fresh =>
    refine ⟨hrooted, ?_, hcached, ?_, ?_⟩
    · cases h : dto.internalRoleId <;> exact hs.found
    · cases h : dto.internalRoleId <;> exact hs.only
    · rw [onAdminCreated, admins_cacheAdminRole]
      exact hs.putAdmin fun hrole =>
        absurd rfl (hs.ne_of_assignable titled (assignable masterId hrole).1)
  | @updateInternalUser _ id dto target found modifiable assignable =>
    rw [updateCaches_eq] at hrooted hcached ⊢
    refine ⟨hrooted, ?_, hcached, ?_, ?_⟩
    · cases h : dto.assigns <;> exact hs.found
    · cases h : dto.assigns <;> exact hs.only
    · rw [admins_cacheAdminRole]
      refine hs.putAdmin fun hrole => ?_
      cases hdto : dto.internalRoleId with
      | none =>
        simp only [UpdateInternalUserDto.apply, hdto, Option.getD_none] at hrole
        exact hs.admins id target found hrole
      | some given =>
        simp only [UpdateInternalUserDto.apply, hdto, Option.getD_some] at hrole
        have hassigns : dto.assigns = some masterId := by
          simp [UpdateInternalUserDto.assigns, hdto, hrole]
        exact absurd rfl (hs.ne_of_assignable titled (assignable masterId hassigns).1)
  | revokeAllInternalAccess target found modifiable =>
    exact ⟨hrooted, hs.found, hcached, hs.only, hs.putAdmin fun hrole => by cases hrole⟩
  | addSuperAdmin id admin found row key fresh =>
    exact ⟨hrooted, hs.found, hcached, hs.only, hs.putAdmin fun _ => row.1⟩
  | recomputeDashboardDaily =>
    refine ⟨hrooted, hs.found, ?_, hs.only, hs.admins⟩
    rw [hcached]
    simp [publishes, State.fetchRole, hs.found]

end Changed

theorem reserved_step (titled : row.title = master) (s : State) (a : Request)
    (hs : Reserved masterId row s) : Reserved masterId row (step config a s) := by
  rcases step_cases a s with ⟨-, hwarm⟩ | ⟨-, m, hwarm, hchanged⟩
  · exact hwarm.reserved hs
  · exact hchanged.reserved titled (hwarm.reserved hs)

/-! ### Super admins -/

theorem lookup_putAdmin_super {s : State} {id : AdminId} (new : Admin)
    (hnew : new.role ≠ .SUPER_ADMIN)
    (hold : ∀ r, s.admins.lookup id = some r → r.role ≠ .SUPER_ADMIN) (j : AdminId)
    {admin : Admin} (hsuper : admin.role = .SUPER_ADMIN) :
    (s.putAdmin id new).admins.lookup j = some admin ↔ s.admins.lookup j = some admin := by
  rw [State.putAdmin, Table.lookup_insert]
  split
  · rename_i hid
    subst hid
    constructor
    · rintro ⟨⟩
      exact absurd hsuper hnew
    · intro h
      exact absurd hsuper (hold admin h)
  · exact Iff.rfl

theorem Changed.super_admin {s t : State} {a : Request} (h : Changed config s a t) (j : AdminId)
    {admin : Admin} (hsuper : admin.role = .SUPER_ADMIN) :
    (s.admins.lookup j = some admin → t.admins.lookup j = some admin) ∧
      (t.admins.lookup j = some admin → s.admins.lookup j = some admin ∨
        ∃ dto, a = .addSuperAdmin j dto ∧ dto.superAdminKey = config.SUPER_ADMIN_KEY) := by
  have hkept (hiff : t.admins.lookup j = some admin ↔ s.admins.lookup j = some admin) :
      (s.admins.lookup j = some admin → t.admins.lookup j = some admin) ∧
        (t.admins.lookup j = some admin → s.admins.lookup j = some admin ∨
          ∃ dto, a = .addSuperAdmin j dto ∧ dto.superAdminKey = config.SUPER_ADMIN_KEY) :=
    ⟨hiff.mpr, fun ht => .inl (hiff.mp ht)⟩
  cases h with
  | createRole role untitled fresh => exact hkept Iff.rfl
  | updateRole role found unreserved untitled unassigned => exact hkept Iff.rfl
  | deleteRole role found unreserved unassigned => exact hkept Iff.rfl
  | @createInternalUser _ id dto assignable fresh =>
    apply hkept
    rw [onAdminCreated, admins_cacheAdminRole]
    exact lookup_putAdmin_super dto.row (by simp [CreateInternalUserDto.row]) (by simp [fresh]) j
      hsuper
  | @updateInternalUser _ id dto target found modifiable assignable =>
    apply hkept
    rw [updateCaches_eq, admins_cacheAdminRole]
    exact lookup_putAdmin_super (dto.apply target) modifiable
      (by rw [found]; rintro _ ⟨⟩; exact modifiable) j hsuper
  | revokeAllInternalAccess target found modifiable =>
    apply hkept
    exact lookup_putAdmin_super { target with internalRoleId := none } modifiable
      (by rw [found]; rintro _ ⟨⟩; exact modifiable) j hsuper
  | @addSuperAdmin id dto roleId row found hrow key fresh =>
    rw [State.putAdmin, Table.lookup_insert]
    by_cases hid : j = id
    · subst hid
      simp [fresh, key]
    · rw [if_neg hid]
      exact ⟨fun h => h, .inl⟩
  | recomputeDashboardDaily => exact hkept Iff.rfl

theorem step_super_admin (s : State) (a : Request) (j : AdminId) {admin : Admin}
    (hsuper : admin.role = .SUPER_ADMIN) :
    (s.admins.lookup j = some admin → (step config a s).admins.lookup j = some admin) ∧
      ((step config a s).admins.lookup j = some admin → s.admins.lookup j = some admin ∨
        ∃ dto, a = .addSuperAdmin j dto ∧ dto.superAdminKey = config.SUPER_ADMIN_KEY) := by
  rcases step_cases a s with ⟨-, hwarm⟩ | ⟨-, m, hwarm, hchanged⟩
  · rw [hwarm.admins]
    exact ⟨fun h => h, .inl⟩
  · have h := hchanged.super_admin j hsuper
    rwa [hwarm.admins] at h

theorem final_super_admin (s : State) (as : List Request) (j : AdminId) {admin : Admin}
    (hsuper : admin.role = .SUPER_ADMIN) :
    (s.admins.lookup j = some admin →
        (Run.final (step config) s as).admins.lookup j = some admin) ∧
      ((Run.final (step config) s as).admins.lookup j = some admin →
        s.admins.lookup j = some admin ∨
          ∃ dto, .addSuperAdmin j dto ∈ as ∧ dto.superAdminKey = config.SUPER_ADMIN_KEY) := by
  induction as generalizing s with
  | nil => exact ⟨fun h => h, .inl⟩
  | cons a as ih =>
    have hstep := @step_super_admin config s a j admin hsuper
    have hrest := ih (step config a s)
    refine ⟨fun h => hrest.1 (hstep.1 h), fun h => ?_⟩
    rcases hrest.2 h with h | ⟨dto, hdto, hkey⟩
    · rcases hstep.2 h with h | ⟨dto, rfl, hkey⟩
      · exact .inl h
      · exact .inr ⟨dto, by simp, hkey⟩
    · exact .inr ⟨dto, by simp [hdto], hkey⟩

theorem reserved_boot {roles : Table RoleId Role} {admins : Table AdminId Admin}
    (found : roles.lookup masterId = some row)
    (only : ∀ id role, roles.lookup id = some role → role.title = master → id = masterId)
    (supers : ∀ id admin, admins.lookup id = some admin → admin.internalRoleId = some masterId →
      admin.role = .SUPER_ADMIN) :
    Reserved masterId row
      (recomputeDashboardDaily ⟨roles, admins, fun _ => none, fun _ => none⟩) where
  rooted := rooted_boot roles admins
  found := found
  cached := by simp [State.roleAnswer, roleKeys_daily, State.fetchRole, found]
  only := only
  admins := supers

/-- Whatever is requested, MASTER keeps its row, the cache shows that row, and only super admins
have it; no super admin's row changes, and who becomes one has been created with the key. -/
theorem master_stays_reserved {roles : Table RoleId Role} {admins : Table AdminId Admin}
    (titled : row.title = master) (found : roles.lookup masterId = some row)
    (only : ∀ id role, roles.lookup id = some role → role.title = master → id = masterId)
    (supers : ∀ id admin, admins.lookup id = some admin → admin.internalRoleId = some masterId →
      admin.role = .SUPER_ADMIN) (as : List Request) :
    let t := Run.final (step config)
      (recomputeDashboardDaily ⟨roles, admins, fun _ => none, fun _ => none⟩) as
    t.roles.lookup masterId = some row ∧ t.roleAnswer masterId = some (cachedRole masterId row) ∧
      (∀ id admin, t.admins.lookup id = some admin → admin.internalRoleId = some masterId →
        admin.role = .SUPER_ADMIN) ∧
      ∀ id admin, admin.role = .SUPER_ADMIN →
        (admins.lookup id = some admin → t.admins.lookup id = some admin) ∧
        (t.admins.lookup id = some admin → admins.lookup id = some admin ∨
          ∃ dto, .addSuperAdmin id dto ∈ as ∧ dto.superAdminKey = config.SUPER_ADMIN_KEY) := by
  intro t
  have ht : Reserved masterId row t :=
    (Run.throughout_of_step (reserved_step titled) (reserved_boot found only supers) as).last
  refine ⟨ht.found, ht.cached, ht.admins, fun id admin hsuper => ?_⟩
  exact final_super_admin (recomputeDashboardDaily ⟨roles, admins, fun _ => none, fun _ => none⟩)
    as id hsuper

theorem office_only (id : RoleId) (role : Role) (h : officeRoles.lookup id = some role)
    (hrole : role.title = master) : id = 0 := by
  simp only [officeRoles, Table.lookup_insert] at h
  split at h
  · cases h
    exact absurd hrole (by decide)
  · split at h
    · assumption
    · simp at h

theorem office_supers (id : AdminId) (admin : Admin) (h : officeAdmins.lookup id = some admin)
    (hrole : admin.internalRoleId = some 0) : admin.role = .SUPER_ADMIN := by
  simp only [officeAdmins, Table.lookup_insert] at h
  split at h
  · cases h
    exact absurd hrole (by decide)
  · split at h
    · cases h
      rfl
    · simp at h

/-- MASTER is refused to a new admin, who is not there then. -/
theorem master_refused :
    (Run.final (step ⟨[7, 8], []⟩) office
      [.createInternalUser 0 2 ⟨[], [], none, none, none, none, some 0⟩]).roles.lookup 0 =
        some ⟨master, none, true, [7, 8]⟩ :=
  (master_stays_reserved rfl rfl office_only office_supers _).1

/-! ### Active roles -/

/-- Every role that an admin has exists and is active. -/
def AssignedActive (s : State) : Prop :=
  ∀ id admin roleId, s.admins.lookup id = some admin → admin.internalRoleId = some roleId →
    ∃ role, s.roles.lookup roleId = some role ∧ role.isActive = true

/-- The role that a request assigns where it succeeds. -/
def Request.assigned (s : State) : Request → Option RoleId
  | .createInternalUser _ _ dto => dto.internalRoleId
  | .updateInternalUser _ _ dto => dto.assigns
  | .addSuperAdmin _ _ => s.masterRoleId
  | _ => none

/-- Where the request assigns a role, its row is active: the check was made of the cached row. -/
def Fresh (config : Config) (s : State) (a : Request) : Prop :=
  Succeeds config s a → ∀ roleId ∈ a.assigned s, ∀ role, s.roles.lookup roleId = some role →
    role.isActive = true

theorem Warmed.assignedActive {s t : State} (h : Warmed s t) :
    AssignedActive t ↔ AssignedActive s := by
  unfold AssignedActive
  rw [h.roles, h.admins]

theorem assignedActive_putAdmin {s : State} (hs : AssignedActive s) (id : AdminId) (admin : Admin) :
    AssignedActive (s.putAdmin id admin) ↔ ∀ roleId, admin.internalRoleId = some roleId →
      ∃ role, s.roles.lookup roleId = some role ∧ role.isActive = true := by
  constructor
  · intro h roleId hrole
    exact h id admin roleId (AList.lookup_insert s.admins) hrole
  · intro h j r roleId hj hrole
    rw [State.putAdmin, Table.lookup_insert] at hj
    split at hj
    · cases hj
      exact h roleId hrole
    · exact hs j r roleId hj hrole

theorem assignedActive_cacheAdminRole {s : State} (id : AdminId) (role : Option RoleId) :
    AssignedActive (cacheAdminRole id role s) ↔ AssignedActive s := by
  cases role <;> exact Iff.rfl

theorem active_iff {s : State} {given : Option RoleId}
    (exists_row : ∀ roleId ∈ given, s.roles.lookup roleId ≠ none) :
    (∀ roleId, given = some roleId →
        ∃ role, s.roles.lookup roleId = some role ∧ role.isActive = true) ↔
      ∀ roleId ∈ given, ∀ role, s.roles.lookup roleId = some role → role.isActive = true := by
  constructor
  · intro h roleId hgiven role hrole
    obtain ⟨r, hr, hr'⟩ := h roleId hgiven
    rw [hrole, Option.some.injEq] at hr
    rwa [hr]
  · intro h roleId hgiven
    obtain ⟨role, hrole⟩ := Option.ne_none_iff_exists'.mp (exists_row roleId hgiven)
    exact ⟨role, hrole, h roleId hgiven role hrole⟩

theorem assignedActive_putRole {s : State} (hs : AssignedActive s) {id : RoleId} {role : Role}
    (h : ∀ j admin, s.admins.lookup j = some admin → admin.internalRoleId = some id →
      role.isActive = true) : AssignedActive (s.putRole id role) := by
  intro j admin roleId hj hrole
  rw [State.putRole, Table.lookup_insert]
  split
  · rename_i hid
    subst hid
    exact ⟨role, rfl, h j admin hj hrole⟩
  · exact hs j admin roleId hj hrole

theorem masterRoleId_ne_none {s : State} {roleId : RoleId} (h : s.masterRoleId = some roleId) :
    s.roles.lookup roleId ≠ none := by
  obtain ⟨⟨id, role⟩, hfound, rfl⟩ := Option.map_eq_some_iff.mp h
  have hrow : s.roles.lookup id = some role :=
    AList.mem_lookup_iff.mpr (List.mem_of_find?_eq_some hfound)
  simp [hrow]

theorem Changed.assignedActive {s t : State} {a : Request} (h : Changed config s a t)
    (hs : AssignedActive s) :
    AssignedActive t ↔ ∀ roleId ∈ a.assigned s, ∀ role, s.roles.lookup roleId = some role →
      role.isActive = true := by
  cases h with
  | @createRole _ id _ role untitled fresh =>
    simp only [Request.assigned, Option.not_mem_none, false_imp_iff, implies_true, iff_true]
    refine assignedActive_putRole hs fun j admin hj hrole => ?_
    obtain ⟨r, hr, -⟩ := hs j admin id hj hrole
    rw [fresh] at hr
    cases hr
  | @updateRole _ id dto role found unreserved untitled unassigned =>
    simp only [Request.assigned, Option.not_mem_none, false_imp_iff, implies_true, iff_true]
    refine assignedActive_putRole hs fun j admin hj hrole => ?_
    obtain ⟨r, hr, hr'⟩ := hs j admin id hj hrole
    rw [found, Option.some.injEq] at hr
    subst hr
    cases hdto : dto.isActive with
    | none => simpa [UpdateRoleDto.apply, hdto] using hr'
    | some active =>
      cases active with
      | true => simp [UpdateRoleDto.apply, hdto]
      | false => exact absurd hrole (assigned_eq_false.mp (unassigned hdto) j admin hj)
  | @deleteRole _ id role found unreserved unassigned =>
    simp only [Request.assigned, Option.not_mem_none, false_imp_iff, implies_true, iff_true]
    intro j admin roleId hj hrole
    have hid : roleId ≠ id := by
      rintro rfl
      exact assigned_eq_false.mp unassigned j admin hj hrole
    obtain ⟨r, hr, hr'⟩ := hs j admin roleId hj hrole
    exact ⟨r, (AList.lookup_erase_ne hid).trans hr, hr'⟩
  | @createInternalUser _ id dto assignable fresh =>
    rw [onAdminCreated, assignedActive_cacheAdminRole, assignedActive_putAdmin hs]
    simp only [Request.assigned, CreateInternalUserDto.row]
    exact active_iff fun roleId hrole => (assignable roleId hrole).2
  | @updateInternalUser _ id dto target found modifiable assignable =>
    rw [updateCaches_eq, assignedActive_cacheAdminRole, assignedActive_putAdmin hs]
    simp only [Request.assigned, UpdateInternalUserDto.apply]
    cases hdto : dto.internalRoleId with
    | none =>
      simpa [UpdateInternalUserDto.assigns, hdto] using fun roleId => hs id target roleId found
    | some given =>
      have hgiven : dto.assigns = given := by simp [UpdateInternalUserDto.assigns, hdto]
      rw [hgiven, Option.getD_some]
      exact active_iff fun roleId hrole => (assignable roleId (hgiven.trans hrole)).2
  | revokeAllInternalAccess target found modifiable =>
    rw [assignedActive_putAdmin hs]
    simp [Request.assigned]
  | @addSuperAdmin id _ roleId admin found hrow key fresh =>
    rw [assignedActive_putAdmin hs, hrow.2, ← found]
    exact active_iff fun j hj hnone => masterRoleId_ne_none hj hnone
  | recomputeDashboardDaily =>
    simp only [Request.assigned, Option.not_mem_none, false_imp_iff, implies_true, iff_true]
    exact hs

theorem Warmed.assigned {s t : State} (h : Warmed s t) (a : Request) :
    a.assigned t = a.assigned s := by
  cases a <;> simp only [Request.assigned, State.masterRoleId, h.roles]

theorem step_assignedActive (s : State) (a : Request) (hs : AssignedActive s) :
    AssignedActive (step config a s) ↔ Fresh config s a := by
  rcases step_cases a s with ⟨hfails, hwarm⟩ | ⟨hsucceeds, m, hwarm, hchanged⟩
  · rw [hwarm.assignedActive]
    exact ⟨fun _ h => absurd h hfails, fun _ => hs⟩
  · rw [hchanged.assignedActive (hwarm.assignedActive.mpr hs), hwarm.roles, hwarm.assigned]
    exact ⟨fun h _ => h, fun h => h hsucceeds⟩

/-- Every role that an admin has stays an existing and active one, in every state of a run, exactly
where each assignment takes a role whose row is active, and not only the cache's copy of it. -/
theorem assigned_roles_active_iff {roles : Table RoleId Role} {admins : Table AdminId Admin}
    (assigned : ∀ id admin roleId, admins.lookup id = some admin →
      admin.internalRoleId = some roleId →
      ∃ role, roles.lookup roleId = some role ∧ role.isActive = true) (as : List Request) :
    Run.Throughout (step config) AssignedActive
        (recomputeDashboardDaily ⟨roles, admins, fun _ => none, fun _ => none⟩) as ↔
      Run.Along (step config) (Fresh config)
        (recomputeDashboardDaily ⟨roles, admins, fun _ => none, fun _ => none⟩) as :=
  Run.throughout_iff_along (P := AssignedActive) step_assignedActive assigned

theorem office_assigned (id : AdminId) (admin : Admin) (roleId : RoleId)
    (h : officeAdmins.lookup id = some admin) (hrole : admin.internalRoleId = some roleId) :
    ∃ role, officeRoles.lookup roleId = some role ∧ role.isActive = true := by
  simp only [officeAdmins, Table.lookup_insert] at h
  split at h
  · cases h
    cases hrole
    exact ⟨_, rfl, rfl⟩
  · split at h
    · cases h
      cases hrole
      exact ⟨_, rfl, rfl⟩
    · simp at h

/-- The support role is deactivated once nobody has it, and then assigned: its key still shows the
active row. -/
theorem inactive_role_assigned :
    ¬ Run.Throughout (step ⟨[7, 8], []⟩) AssignedActive office [.revokeAllInternalAccess 0 1,
      .updateRole 0 1 ⟨none, none, some false, none⟩,
      .createInternalUser 0 2 ⟨[], ['#'], none, none, none, none, some 1⟩] := by
  intro h
  have hfresh := (assigned_roles_active_iff office_assigned _).mp h
  exact absurd (hfresh.2.2.1 (by decide) 1 rfl _ rfl) (by decide)

end InternalRoles

end ExchangeLedger
