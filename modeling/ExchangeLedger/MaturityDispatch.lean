import ExchangeLedger.Paging
import ExchangeLedger.Run
import ExchangeLedger.Vault

set_option autoImplicit false

/-! The dispatch of the maturity job, page by page, while shards that are queued mature their
vaults. -/

namespace ExchangeLedger

open Block

namespace VaultInterestScheduler

open Paging (After Fresh Reader)

def BATCH_SIZE : Nat := 200

/-- The data of a `scheduler.vault-interest.shard` job. -/
structure Shard where
  ids : List VaultId
  asOf : Nat
  deriving DecidableEq, Repr

/-- The ledger, the shards that earlier dispatches queued, and the loop of this one. -/
structure Dispatch where
  ledger : Ledger
  earlier : List Shard
  reader : Reader VaultId

inductive Event where
  /-- The loop reads its next page and queues it as a shard. -/
  | page
  /-- One vault of a queued shard is matured, or skipped. -/
  | mature (shard : Nat) (id : VaultId)
  deriving DecidableEq, Repr

section

variable (cache : ConvertCurrency.DefaultNetworkCache) (maturityDate : VaultId → Nat) (now : Nat)

/-- `status: ACTIVE, maturityDate: { lte: now }`. -/
def dueVaults (L : Ledger) : List VaultId :=
  L.vaults.keys.filter (fun id =>
    (L.vaults.lookup id).any (fun v => v.status = .ACTIVE ∧ maturityDate id ≤ now))

/-- The shards of this dispatch. -/
def Dispatch.shards (s : Dispatch) : List Shard := s.reader.pages.map (fun ids => ⟨ids, now⟩)

def Dispatch.queue (s : Dispatch) : List Shard := s.earlier ++ s.shards now

def step : Event → Dispatch → Dispatch
  | .page, s => { s with reader := s.reader.next BATCH_SIZE (dueVaults maturityDate now s.ledger) }
  | .mature n id, s =>
    match (s.queue now)[n]? with
    | none => s
    | some shard =>
      if id ∈ shard.ids then
        { s with ledger := (matureBlock cache id (maturityDate id ≤ shard.asOf)).commit s.ledger }
      else s

/-- The loop has not begun. -/
def begun (L : Ledger) (earlier : List Shard) : Dispatch := ⟨L, earlier, Reader.start⟩

/-- Every vault that was due at the beginning is in exactly one shard of the dispatch, once. -/
def PlacedOnce (L : Ledger) (s : Dispatch) : Prop :=
  ∀ id ∈ dueVaults maturityDate now L, ((s.shards now).flatMap Shard.ids).count id = 1

/-- The vault is matured here. -/
def Matures (s : Dispatch) (n : Nat) (id : VaultId) : Prop :=
  ∃ shard, (s.queue now)[n]? = some shard ∧ id ∈ shard.ids ∧
    ((matureBlock cache id (maturityDate id ≤ shard.asOf)).result s.ledger).any Option.isSome = true

/-- What the dispatch rests on, for the vaults that were due at the beginning: at each page after
the first, the vault of the cursor still is due or none is left behind it, and no shard matures one
that has not been placed. -/
def Undisturbed (L : Ledger) (s : Dispatch) : Event → Prop
  | .page => s.reader.ReadsOn (· ∈ dueVaults maturityDate now L)
      (dueVaults maturityDate now s.ledger)
  | .mature n id => id ∈ dueVaults maturityDate now L → Matures cache maturityDate now s n id →
      id ∈ (s.shards now).flatMap Shard.ids

end

/-! ### What maturing does to the vaults -/

theorem onBalances_vaults {α : Type} {x : LedgerBlock α} (hx : OnBalances x)
    (V : Table VaultId Vault) : Preserves (fun L => L.vaults = V) x :=
  hx.preserves fun _ => Iff.rfl

theorem releaseLockedTotals_onBalances (currency : Currency) (v : Vault) (paid : Nat)
    (V : Table VaultId Vault) :
    Preserves (fun L => L.vaults = V) (releaseLockedTotals currency v paid) := by
  refine preserves_onlyIf ?_
  refine preserves_bind (onBalances_vaults (updateCompany_onBalances _ _ _) V) fun _ => ?_
  refine preserves_bind (onBalances_vaults (updateCompany_onBalances _ _ _) V) fun _ => ?_
  exact preserves_bind (onBalances_vaults (updateCompany_onBalances _ _ _) V) fun _ =>
    preserves_pure _

theorem matureBlock_vaults {cache : ConvertCurrency.DefaultNetworkCache} {id : VaultId} {due : Bool}
    {L M : Ledger} {r : Option (Vault × Wallet)} (h : (matureBlock cache id due).Commits L r M) :
    (r = none ∧ M = L) ∨
      (r.isSome = true ∧
        M.vaults = L.vaults.modify id (fun v => { v with status := .MATURED })) := by
  simp only [matureBlock, commits_read_bind] at h
  split at h
  · simp only [commits_pure] at h
    exact .inl ⟨h.1.symm, h.2.symm⟩
  · simp only [commits_read_bind] at h
    split at h
    · simp only [commits_pure] at h
      exact .inl ⟨h.1.symm, h.2.symm⟩
    · refine .inr ?_
      simp only [commits_bind, updateVault, commits_update, commits_pure] at h
      obtain ⟨_, A, hcredit, _, B, hlocked, _, C, hinterest, _, D, hrestate, _, _, rfl, _, E,
        htotals, rfl, rfl⟩ := h
      have hA := onBalances_vaults (mustUpdateWallet_onBalances _ _ _ _) _ _ _ _ rfl hcredit
      have hB := onBalances_vaults (mustUpdateWallet_onBalances _ _ _ _) _ _ _ _ hA hlocked
      have hC := onBalances_vaults (mustUpdateWallet_onBalances _ _ _ _) _ _ _ _ hB hinterest
      have hD := onBalances_vaults (restateOriginalBalance_onBalances _ _ _) _ _ _ _ hC hrestate
      have hE := releaseLockedTotals_onBalances _ _ _ _ _ _ _ rfl htotals
      exact ⟨rfl, by rw [hE, hD]⟩

section

variable {cache : ConvertCurrency.DefaultNetworkCache} {maturityDate : VaultId → Nat} {now : Nat}
  {L : Ledger} {id : VaultId}

theorem mem_dueVaults : id ∈ dueVaults maturityDate now L ↔
    ∃ v, L.vaults.lookup id = some v ∧ v.status = .ACTIVE ∧ maturityDate id ≤ now := by
  simp only [dueVaults, List.mem_filter, Option.any_eq_true, decide_eq_true_eq]
  constructor
  · rintro ⟨-, h⟩
    exact h
  · rintro ⟨v, hv, h⟩
    refine ⟨?_, v, hv, h⟩
    exact AList.mem_keys.mp (AList.lookup_isSome.mp (by simp [hv]))

theorem dueVaults_nodup (L : Ledger) : (dueVaults maturityDate now L).Nodup :=
  L.vaults.keys_nodup.filter _

theorem mem_dueVaults_matured {j : VaultId} {due : Bool} :
    (j ∈ dueVaults maturityDate now ((matureBlock cache id due).commit L) ↔
      j ∈ dueVaults maturityDate now L ∧
        ¬ (j = id ∧ ((matureBlock cache id due).result L).any Option.isSome = true)) := by
  rcases h : matureBlock cache id due L with e | ⟨r, M⟩
  · simp [commit, result, h]
  · have hcommit : (matureBlock cache id due).commit L = M := commit_of_commits h
    have hresult : (matureBlock cache id due).result L = some r := by simp [result, h]
    rw [hcommit, hresult]
    rcases matureBlock_vaults h with ⟨rfl, rfl⟩ | ⟨hr, hvaults⟩
    · simp
    · rw [mem_dueVaults, mem_dueVaults, hvaults, Table.lookup_modify]
      by_cases hj : j = id
      · subst hj
        simp [hr]
      · simp [hj]

end

/-! ### Runs of one dispatch -/

section Runs

variable {cache : ConvertCurrency.DefaultNetworkCache} {maturityDate : VaultId → Nat} {now : Nat}
  {L : Ledger} {s : Dispatch}

@[simp] theorem shards_ids (s : Dispatch) :
    (s.shards now).flatMap Shard.ids = s.reader.placed := by
  simp [Dispatch.shards, Reader.placed, List.flatMap_map, List.flatMap_id']

/-- The pages ascend and hold vaults that were due, and no others have become due since. -/
structure Sound (maturityDate : VaultId → Nat) (now : Nat) (L : Ledger) (s : Dispatch) :
    Prop where
  reader : s.reader.Sound
  placed : ∀ id ∈ s.reader.placed, id ∈ dueVaults maturityDate now L
  due : ∀ id ∈ dueVaults maturityDate now s.ledger, id ∈ dueVaults maturityDate now L

/-- No vault that was due has been lost. -/
def Kept (maturityDate : VaultId → Nat) (now : Nat) (L : Ledger) (s : Dispatch) : Prop :=
  s.reader.Keeps (· ∈ dueVaults maturityDate now L) (dueVaults maturityDate now s.ledger)

theorem step_mature_cases (cache : ConvertCurrency.DefaultNetworkCache)
    (maturityDate : VaultId → Nat) (now : Nat) (s : Dispatch) (n : Nat) (id : VaultId) :
    (step cache maturityDate now (.mature n id) s = s ∧
        ¬ Matures cache maturityDate now s n id) ∨
      ∃ due, step cache maturityDate now (.mature n id) s =
          { s with ledger := (matureBlock cache id due).commit s.ledger } ∧
        (Matures cache maturityDate now s n id ↔
          ((matureBlock cache id due).result s.ledger).any Option.isSome = true) := by
  cases hshard : (s.queue now)[n]? with
  | none => exact .inl ⟨by simp [step, hshard], by simp [Matures, hshard]⟩
  | some shard =>
    by_cases hid : id ∈ shard.ids
    · exact .inr ⟨maturityDate id ≤ shard.asOf, by simp only [step, hshard, hid, if_true],
        by simp [Matures, hshard, hid]⟩
    · exact .inl ⟨by simp [step, hshard, hid], by simp [Matures, hshard, hid]⟩

theorem Sound.step (hs : Sound maturityDate now L s) (e : Event) :
    Sound maturityDate now L (step cache maturityDate now e s) := by
  cases e with
  | page =>
    have hnodup : (dueVaults maturityDate now s.ledger).Nodup := dueVaults_nodup s.ledger
    refine ⟨hs.reader.next hnodup, fun id hid => ?_, hs.due⟩
    rcases Reader.mem_placed_next hnodup hid with hplaced | hrow
    · exact hs.placed id hplaced
    · exact hs.due id hrow
  | mature n id =>
    rcases step_mature_cases cache maturityDate now s n id with ⟨hsame, -⟩ | ⟨due, hcommit, -⟩
    · rw [hsame]
      exact hs
    · rw [hcommit]
      exact ⟨hs.reader, hs.placed, fun j hj => hs.due j (mem_dueVaults_matured.mp hj).1⟩

theorem Sound.kept_step_iff (hs : Sound maturityDate now L s) (hkept : Kept maturityDate now L s)
    (e : Event) : Kept maturityDate now L (VaultInterestScheduler.step cache maturityDate now e s) ↔
      Undisturbed cache maturityDate now L s e := by
  cases e with
  | page =>
    have hnodup : (dueVaults maturityDate now s.ledger).Nodup := dueVaults_nodup s.ledger
    constructor
    · exact hkept.readsOn hs.reader hnodup hs.due
    · exact hkept.next hnodup (by decide)
  | mature n id =>
    simp only [Undisturbed, shards_ids]
    rcases step_mature_cases cache maturityDate now s n id with
      ⟨hsame, hnot⟩ | ⟨due, hcommit, hmatures⟩
    · rw [hsame]
      exact iff_of_true hkept fun _ h => absurd h hnot
    · rw [hcommit]
      constructor
      · intro hafter hid h
        refine (hafter id hid).resolve_right fun hrest => ?_
        exact (mem_dueVaults_matured.mp hrest.2.2).2 ⟨rfl, hmatures.mp h⟩
      · intro hundisturbed j hj
        rcases hkept j hj with hplaced | ⟨hopen, hafter, hrow⟩
        · exact .inl hplaced
        · by_cases h : j = id ∧
              ((matureBlock cache id due).result s.ledger).any Option.isSome = true
          · obtain ⟨rfl, hresult⟩ := h
            exact .inl (hundisturbed hj (hmatures.mpr hresult))
          · exact .inr ⟨hopen, hafter, mem_dueVaults_matured.mpr ⟨hrow, h⟩⟩

theorem kept_of_step {e : Event}
    (h : Kept maturityDate now L (step cache maturityDate now e s)) :
    Kept maturityDate now L s := by
  cases e with
  | page => exact Reader.Keeps.of_next (dueVaults_nodup _) h
  | mature n id =>
    rcases step_mature_cases cache maturityDate now s n id with ⟨hsame, -⟩ | ⟨due, hcommit, -⟩
    · rwa [hsame] at h
    · rw [hcommit] at h
      intro j hj
      refine (h j hj).imp_right ?_
      rintro ⟨hopen, hafter, hrow⟩
      exact ⟨hopen, hafter, (mem_dueVaults_matured.mp hrow).1⟩

theorem sound_begun (L : Ledger) (earlier : List Shard) :
    Sound maturityDate now L (begun L earlier) := ⟨Reader.sound_start, nofun, fun _ h => h⟩

theorem kept_begun (L : Ledger) (earlier : List Shard) :
    Kept maturityDate now L (begun L earlier) := fun _ hid => .inr ⟨rfl, nofun, hid⟩

theorem sound_final (cache : ConvertCurrency.DefaultNetworkCache) (maturityDate : VaultId → Nat)
    (now : Nat) (L : Ledger) (earlier : List Shard) (events : List Event) :
    Sound maturityDate now L
      (Run.final (step cache maturityDate now) (begun L earlier) events) :=
  (Run.throughout_of_step (fun _ e hs => hs.step e) (sound_begun L earlier) events).last

theorem Sound.placedOnce_iff (hs : Sound maturityDate now L s) (hdone : s.reader.finished = true) :
    PlacedOnce maturityDate now L s ↔ Kept maturityDate now L s := by
  simp only [PlacedOnce, shards_ids]
  constructor
  · intro h id hid
    exact .inl (List.count_pos_iff.mp (by rw [h id hid]; decide))
  · intro h id hid
    rcases h id hid with hplaced | hrest
    · exact List.count_eq_one_of_mem (hs.reader.ascending.imp fun h => h.ne) hplaced
    · rw [hdone] at hrest
      cases hrest.1

end Runs

theorem step_mature_reader (cache : ConvertCurrency.DefaultNetworkCache)
    (maturityDate : VaultId → Nat) (now : Nat) (s : Dispatch) (n : Nat) (id : VaultId) :
    (step cache maturityDate now (.mature n id) s).reader = s.reader := by
  rcases step_mature_cases cache maturityDate now s n id with ⟨hsame, -⟩ | ⟨due, hcommit, -⟩
  · rw [hsame]
  · rw [hcommit]

theorem final_progress (cache : ConvertCurrency.DefaultNetworkCache)
    (maturityDate : VaultId → Nat) (now : Nat) (s : Dispatch) (events : List Event) :
    (Run.final (step cache maturityDate now) s events).reader.finished = true ∨
      s.reader.placed.length + events.count .page ≤
        (Run.final (step cache maturityDate now) s events).reader.placed.length := by
  induction events generalizing s with
  | nil => exact .inr (by simp [Run.final])
  | cons e events ih =>
    cases e with
    | page =>
      rcases Reader.next_progress BATCH_SIZE (dueVaults maturityDate now s.ledger) s.reader with
        hdone | hplaced
      · have hstays : ∀ (u : Dispatch) (e : Event), u.reader.finished = true →
            (step cache maturityDate now e u).reader.finished = true := by
          intro u e hu
          cases e with
          | page => simp [step, Reader.next, hu]
          | mature n id => rwa [step_mature_reader]
        exact .inl (Run.throughout_of_step (P := fun u : Dispatch => u.reader.finished = true)
          hstays hdone events).last
      · refine (ih (step cache maturityDate now .page s)).imp_right fun hle => ?_
        rw [List.count_cons_self, Run.final]
        have hstep : s.reader.placed.length <
            (step cache maturityDate now .page s).reader.placed.length := hplaced
        omega
    | mature n id =>
      have hrest := ih (step cache maturityDate now (.mature n id) s)
      rw [step_mature_reader] at hrest
      rwa [List.count_cons_of_ne (by simp)]

theorem dispatch_finishes (cache : ConvertCurrency.DefaultNetworkCache)
    (maturityDate : VaultId → Nat) (now : Nat) (L : Ledger) (earlier : List Shard)
    (events : List Event)
    (h : (dueVaults maturityDate now L).length < events.count .page) :
    (Run.final (step cache maturityDate now) (begun L earlier) events).reader.finished = true := by
  refine (final_progress cache maturityDate now (begun L earlier) events).resolve_right ?_
  intro hle
  have hsound := sound_final cache maturityDate now L earlier events
  have hnodup := hsound.reader.ascending.imp fun h => h.ne
  have hlength := (List.subperm_of_subset hnodup hsound.placed).length_le
  omega

/-- In every run of a dispatch to its end, among shards of this dispatch and of earlier ones that
mature vaults at any time, every vault that was due at the beginning is placed in exactly one shard
if and only if nothing disturbs it: no page is read behind a vault that has just been matured while
others are left, and no earlier shard matures a vault before it is placed. -/
theorem placed_once_iff (cache : ConvertCurrency.DefaultNetworkCache)
    (maturityDate : VaultId → Nat) (now : Nat) (L : Ledger) (earlier : List Shard)
    (events : List Event) (hdone : (Run.final (step cache maturityDate now) (begun L earlier)
      events).reader.finished = true) :
    PlacedOnce maturityDate now L
        (Run.final (step cache maturityDate now) (begun L earlier) events) ↔
      Run.Along (step cache maturityDate now) (Undisturbed cache maturityDate now L)
        (begun L earlier) events := by
  rw [(sound_final cache maturityDate now L earlier events).placedOnce_iff hdone]
  have hexact : Run.Throughout (step cache maturityDate now) (Kept maturityDate now L)
        (begun L earlier) events ↔
      Run.Along (step cache maturityDate now) (Undisturbed cache maturityDate now L)
        (begun L earlier) events :=
    Run.throughout_iff_along_under (fun _ e hs => hs.step e)
      (fun _ e hs hkept => hs.kept_step_iff hkept e) (sound_begun L earlier)
      (kept_begun L earlier)
  rw [← hexact]
  exact ⟨Run.throughout_of_final fun _ _ => kept_of_step, Run.Throughout.last⟩

/-- One user's vaults of one USDT each, all due. -/
def vaultsDue (n : Nat) : Ledger := { Ledger.empty with
  wallets := (∅ : Table WalletKey Wallet).insert (1, .usdt) { Wallet.empty with
    currencyId := some .usdt, lockedAmount := 1000000 * n }
  vaults := {
    entries := (List.range n).map (fun id => ⟨id,
      { userId := 1, currencyId := .usdt, amountLocked := 1000000, bufferAmount := 0
        totalGain := 0, interestRatePerAnum := ⟨0, 0⟩, transactionFee := 0
        amountToReceive := 1000000, status := .ACTIVE }⟩)
    nodupKeys := by
      simp [List.NodupKeys, List.keys, Function.comp_def, List.nodup_range] } }

/-- The only vault is matured before the second page is read: nothing is left behind it. -/
theorem single_vault_placed :
    PlacedOnce (fun _ => 50) 100 (vaultsDue 1)
      (Run.final (step (fun _ => none) (fun _ => 50) 100) (begun (vaultsDue 1) [])
        [.page, .mature 0 0, .page]) := by
  refine (placed_once_iff (fun _ => none) (fun _ => 50) 100 (vaultsDue 1) []
    [.page, .mature 0 0, .page] (by decide +kernel)).mpr ⟨.inr (.inl nofun), ?_, ?_, trivial⟩
  · intro _ _
    decide +kernel
  · refine .inr (.inr ?_)
    decide +kernel

theorem dueVaults_vaultsDue (n : Nat) :
    dueVaults (fun _ => 50) 100 (vaultsDue n) = List.range n := by
  have hkeys : (vaultsDue n).vaults.keys = List.range n := by
    simp [vaultsDue, AList.keys, List.keys, Function.comp_def]
  rw [dueVaults, hkeys, List.filter_eq_self]
  intro id hid
  rw [AList.mem_lookup_iff.mpr (List.mem_map.mpr ⟨id, hid, rfl⟩)]
  rfl

theorem page_vaultsDue (cache : ConvertCurrency.DefaultNetworkCache) :
    step cache (fun _ => 50) 100 .page (begun (vaultsDue 201) []) =
      ⟨vaultsDue 201, [], ⟨some 199, [List.range 200], false⟩⟩ := by
  have hsorted : Paging.inOrder (List.range 201) = List.range 201 :=
    List.pairwise_le_range.insertionSort_eq
  have hpage : Paging.page BATCH_SIZE (List.range 201) none = List.range 200 := by
    rw [Paging.page, hsorted, List.take_range]
    rfl
  simp [step, begun, Reader.next, Reader.start, dueVaults_vaultsDue, hpage, List.getLast?_range]

theorem page_skips_last {rows : List VaultId} (hnodup : rows.Nodup)
    (hrows : ∀ j, j ∈ rows ↔ j < 201 ∧ j ≠ 199) : Paging.page BATCH_SIZE rows (some 199) = [] := by
  have hstale : ¬ Fresh rows (some 199) := fun hfresh => ((hrows 199).mp (hfresh 199 rfl)).2 rfl
  have hbehind : Paging.following rows (some 199) = [200] := by
    refine Paging.ascending_ext (Paging.following_ascending hnodup) (by simp) fun j => ?_
    rw [Paging.mem_following, hrows]
    simp only [After, Option.mem_some, forall_eq', List.mem_singleton]
    constructor
    · rintro ⟨⟨hlt, -⟩, hafter⟩
      exact Nat.le_antisymm (Nat.le_of_lt_succ hlt) hafter
    · rintro rfl
      decide
  rw [Paging.page_of_stale hnodup hstale, hbehind]
  rfl

/-- The last vault of a full page is matured before the next page is read: the vault behind it is
skipped, and the loop ends. -/
theorem vault_skipped :
    ¬ ∀ (cache : ConvertCurrency.DefaultNetworkCache) (maturityDate : VaultId → Nat) (now : Nat)
      (L : Ledger) (earlier : List Shard) (events : List Event),
      (Run.final (step cache maturityDate now) (begun L earlier) events).reader.finished = true →
      PlacedOnce maturityDate now L
        (Run.final (step cache maturityDate now) (begun L earlier) events) := by
  intro h
  have hrun := h (fun _ => none) (fun _ => 50) 100 (vaultsDue 201) [] [.page, .mature 0 199, .page]
  simp only [Run.final, page_vaultsDue] at hrun
  have hresult : ((matureBlock (fun _ => none) 199 true).result (vaultsDue 201)).any
      Option.isSome = true := by decide +kernel
  have hmatured : step (fun _ => none) (fun _ => 50) 100 (.mature 0 199)
      ⟨vaultsDue 201, [], ⟨some 199, [List.range 200], false⟩⟩ =
      ⟨(matureBlock (fun _ => none) 199 true).commit (vaultsDue 201), [],
        ⟨some 199, [List.range 200], false⟩⟩ := by
    simp [step, Dispatch.queue, Dispatch.shards]
  rw [hmatured] at hrun
  -- what is due now are all vaults but the one of the cursor
  have hrows (j : VaultId) : j ∈ dueVaults (fun _ => 50) 100
      ((matureBlock (fun _ => none) 199 true).commit (vaultsDue 201)) ↔ j < 201 ∧ j ≠ 199 := by
    rw [mem_dueVaults_matured, dueVaults_vaultsDue, hresult, List.mem_range]
    simp
  generalize (matureBlock (fun _ => none) 199 true).commit (vaultsDue 201) = L at hrun hrows
  have hpage := page_skips_last (dueVaults_nodup L) hrows
  have hlast : step (fun _ => none) (fun _ => 50) 100 .page
      ⟨L, [], ⟨some 199, [List.range 200], false⟩⟩ =
      ⟨L, [], ⟨some 199, [List.range 200], true⟩⟩ := by
    exact congrArg (Dispatch.mk L []) (Reader.next_of_nil hpage)
  rw [hlast] at hrun
  have hdue : 200 ∈ dueVaults (fun _ => 50) 100 (vaultsDue 201) := by
    rw [dueVaults_vaultsDue, List.mem_range]
    decide
  have honce := hrun rfl 200 hdue
  rw [shards_ids] at honce
  simp [Reader.placed] at honce

end VaultInterestScheduler

end ExchangeLedger
