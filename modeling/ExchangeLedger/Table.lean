import Mathlib.Data.List.AList
import Mathlib.Algebra.BigOperators.Group.List.Basic
import Mathlib.Algebra.Order.BigOperators.Group.List
import Mathlib.Tactic.Ring

set_option autoImplicit false

/-! Keyed tables of rows. A table is an association list that carries its primary-key
constraint; sums over its rows follow single-row updates. -/

/-- Rows of type `ρ` under a primary key `κ`. -/
abbrev Table (κ ρ : Type) := AList (fun _ : κ => ρ)

namespace Table

variable {κ ρ : Type}

/-- The sum of `f` over all rows. -/
def total (f : κ → ρ → Int) (t : Table κ ρ) : Int :=
  (t.entries.map (fun e => f e.1 e.2)).sum

@[simp] theorem total_empty (f : κ → ρ → Int) : total f (∅ : Table κ ρ) = 0 := rfl

@[simp] theorem total_zero (t : Table κ ρ) : total (fun _ _ => 0) t = 0 := by simp [total]

theorem total_le_total {f g : κ → ρ → Int} (hgf : ∀ k r, g k r ≤ f k r) (t : Table κ ρ) :
    total g t ≤ total f t :=
  List.sum_le_sum fun e _ => hgf e.1 e.2

variable [DecidableEq κ]

/-- Rewrite the row under `k` if there is one, as an SQL update by primary key does. -/
def modify (t : Table κ ρ) (k : κ) (f : ρ → ρ) : Table κ ρ :=
  match t.lookup k with
  | some r => t.insert k (f r)
  | none => t

theorem lookup_insert (t : Table κ ρ) (k j : κ) (r : ρ) :
    (t.insert k r).lookup j = if j = k then some r else t.lookup j := by
  by_cases h : j = k
  · subst h; simp
  · simp [h, AList.lookup_insert_ne h]

/-- A row under a new key leaves the others where they are. -/
theorem lookup_insert_fresh {t : Table κ ρ} {k j : κ} {r q : ρ} (hk : t.lookup k = none)
    (hj : t.lookup j = some q) : (t.insert k r).lookup j = some q := by
  have hjk : j ≠ k := by
    rintro rfl
    rw [hk] at hj
    cases hj
  rw [lookup_insert, if_neg hjk, hj]

/-- A row that is there after an erasure was there before it. -/
theorem lookup_of_erase {t : Table κ ρ} {k j : κ} {r : ρ} (h : (t.erase k).lookup j = some r) :
    t.lookup j = some r := by
  by_cases hjk : j = k
  · subst hjk
    simp at h
  · rwa [AList.lookup_erase_ne hjk] at h

theorem lookup_modify (t : Table κ ρ) (k j : κ) (f : ρ → ρ) :
    (t.modify k f).lookup j = if j = k then (t.lookup j).map f else t.lookup j := by
  cases h : t.lookup k with
  | none =>
    by_cases hj : j = k
    · subst hj; simp [modify, h]
    · simp [modify, h, hj]
  | some r =>
    by_cases hj : j = k
    · subst hj; simp [modify, h]
    · simp [modify, h, hj, AList.lookup_insert_ne hj]

@[simp] theorem lookup_modify_self (t : Table κ ρ) (k : κ) (f : ρ → ρ) :
    (t.modify k f).lookup k = (t.lookup k).map f := by simp [lookup_modify]

theorem lookup_modify_ne (t : Table κ ρ) {k j : κ} (f : ρ → ρ) (h : j ≠ k) :
    (t.modify k f).lookup j = t.lookup j := by simp [lookup_modify, h]

/-- A row found by a property that its updated value has is found again. -/
theorem lookup_of_find? {t : Table κ ρ} {p : (Sigma fun _ : κ => ρ) → Bool}
    {e : Sigma fun _ : κ => ρ} (h : t.entries.find? p = some e) :
    t.lookup e.1 = some e.2 ∧ p e = true :=
  ⟨AList.mem_lookup_iff.mpr (List.mem_of_find?_eq_some h), List.find?_some h⟩

theorem lookup_of_find?_none {t : Table κ ρ} {p : (Sigma fun _ : κ => ρ) → Bool}
    (h : t.entries.find? p = none) {k : κ} {r : ρ} (hk : t.lookup k = some r) : ¬ p ⟨k, r⟩ = true :=
  List.find?_eq_none.mp h ⟨k, r⟩ (AList.mem_lookup_iff.mp hk)

theorem find?_modify_of_lookup {t : Table κ ρ} {k : κ} {p : (Sigma fun _ : κ => ρ) → Bool}
    {f : ρ → ρ} (h : (t.entries.find? p).map Sigma.fst = some k)
    (hf : ∀ r, t.lookup k = some r → p ⟨k, r⟩ → p ⟨k, f r⟩) :
    ((t.modify k f).entries.find? p).map Sigma.fst = some k := by
  obtain ⟨e, he, rfl⟩ := Option.map_eq_some_iff.mp h
  have hlookup : t.lookup e.1 = some e.2 :=
    AList.mem_lookup_iff.mpr (List.mem_of_find?_eq_some he)
  simp [modify, hlookup, AList.entries_insert, hf e.2 hlookup (List.find?_some he)]

/-- A row found by a property that its update keeps is found again. -/
theorem find?_modify {t : Table κ ρ} {k : κ} {p : (Sigma fun _ : κ => ρ) → Bool} {f : ρ → ρ}
    (h : (t.entries.find? p).map Sigma.fst = some k) (hf : ∀ r, p ⟨k, r⟩ → p ⟨k, f r⟩) :
    ((t.modify k f).entries.find? p).map Sigma.fst = some k :=
  find?_modify_of_lookup h fun r _ => hf r

/-- Some row has the property. -/
def Any (p : ρ → Prop) (t : Table κ ρ) : Prop := ∃ k r, t.lookup k = some r ∧ p r

theorem any_entries {t : Table κ ρ} {p : ρ → Prop} [DecidablePred p] :
    t.entries.any (fun e => decide (p e.2)) = true ↔ t.Any p := by
  simp only [List.any_eq_true, decide_eq_true_eq]
  constructor
  · rintro ⟨⟨k, r⟩, he, hp⟩
    exact ⟨k, r, AList.mem_lookup_iff.mpr he, hp⟩
  · rintro ⟨k, r, hk, hp⟩
    exact ⟨⟨k, r⟩, AList.mem_lookup_iff.mp hk, hp⟩

theorem Any.modify {t : Table κ ρ} {p : ρ → Prop} (h : t.Any p) (k : κ) {f : ρ → ρ}
    (hf : ∀ r, p r → p (f r)) : (t.modify k f).Any p := by
  obtain ⟨j, r, hj, hp⟩ := h
  by_cases hjk : j = k
  · subst hjk
    exact ⟨j, f r, by simp [hj], hf r hp⟩
  · exact ⟨j, r, by simp [lookup_modify_ne _ _ hjk, hj], hp⟩

theorem Any.insert {t : Table κ ρ} {p : ρ → Prop} (h : t.Any p) {k : κ} (hk : t.lookup k = none)
    (r : ρ) : Any p (t.insert k r) := by
  obtain ⟨j, q, hj, hp⟩ := h
  exact ⟨j, q, lookup_insert_fresh hk hj, hp⟩

theorem any_insert {t : Table κ ρ} {p : ρ → Prop} (k : κ) {r : ρ} (hr : p r) :
    Any p (t.insert k r) := ⟨k, r, AList.lookup_insert t, hr⟩

/-- Every two rows under different keys are related. -/
def PairwiseRows (R : ρ → ρ → Prop) (t : Table κ ρ) : Prop :=
  ∀ i j a b, i ≠ j → t.lookup i = some a → t.lookup j = some b → R a b

theorem PairwiseRows.erase {R : ρ → ρ → Prop} {t : Table κ ρ} (ht : t.PairwiseRows R) (k : κ) :
    PairwiseRows R (t.erase k) := by
  intro i j a b hij hi hj
  exact ht i j a b hij (lookup_of_erase hi) (lookup_of_erase hj)

/-- A row that is written keeps the others related to each other. -/
theorem PairwiseRows.insert_iff {R : ρ → ρ → Prop} {t : Table κ ρ} (ht : t.PairwiseRows R) (k : κ)
    {r : ρ} (hR : ∀ j b, t.lookup j = some b → R r b → R b r) :
    PairwiseRows R (t.insert k r) ↔ ∀ j b, j ≠ k → t.lookup j = some b → R r b := by
  constructor
  · intro h j b hjk hj
    exact h k j r b (Ne.symm hjk) (AList.lookup_insert t) (by rwa [AList.lookup_insert_ne hjk])
  · intro h i j a b hij hi hj
    rw [lookup_insert] at hi hj
    split at hi
    · rename_i hik
      cases hi
      rw [if_neg (by rintro rfl; exact hij hik)] at hj
      exact h j b (by rintro rfl; exact hij hik) hj
    · rename_i hik
      split at hj
      · cases hj
        exact hR i a hi (h i a hik hi)
      · exact ht i j a b hij hi hj

/-- Rewrite every row, as an SQL update of many rows does. -/
def mapRows (f : κ → ρ → ρ) (t : Table κ ρ) : Table κ ρ where
  entries := t.entries.map fun e => ⟨e.1, f e.1 e.2⟩
  nodupKeys := by
    have hkeys : (t.entries.map fun e => (⟨e.1, f e.1 e.2⟩ : Sigma fun _ : κ => ρ)).keys =
        t.entries.keys := by simp [List.keys, Function.comp_def]
    rw [List.NodupKeys, hkeys]
    exact t.nodupKeys

@[simp] theorem lookup_mapRows (f : κ → ρ → ρ) (t : Table κ ρ) (k : κ) :
    (t.mapRows f).lookup k = (t.lookup k).map (f k) := List.dlookup_map₂ k

/-- Write what `f` makes of each row under the row's key, in the order of the rows. -/
def fill {υ : Type} (f : κ → ρ → Option υ) (t : Table κ ρ) (keys : κ → Option υ) : κ → Option υ :=
  let set (keys : κ → Option υ) (e : Sigma fun _ : κ => ρ) :=
    match f e.1 e.2 with
    | some v => Function.update keys e.1 (some v)
    | none => keys
  t.entries.foldl set keys

theorem fill_apply {υ : Type} (f : κ → ρ → Option υ) (t : Table κ ρ) (keys : κ → Option υ)
    (k : κ) : t.fill f keys k = ((t.lookup k).bind (f k)).or (keys k) := by
  obtain ⟨l, hl⟩ := t
  simp only [fill, AList.lookup]
  induction l generalizing keys with
  | nil => simp
  | cons e l ih =>
    obtain ⟨j, r⟩ := e
    have htail := List.nodupKeys_cons.mp hl
    rw [List.foldl_cons, ih _ htail.2]
    by_cases hj : k = j
    · subst hj
      rw [List.dlookup_eq_none.mpr htail.1]
      cases hf : f k r <;> simp [hf]
    · rw [List.dlookup_cons_ne l ⟨j, r⟩ hj]
      cases hf : f j r <;> simp [hj]

theorem sum_kerase (f : κ → ρ → Int) (k : κ) (l : List (Sigma fun _ : κ => ρ)) :
    ((l.kerase k).map (fun e => f e.1 e.2)).sum + (l.dlookup k).elim 0 (f k) =
      (l.map (fun e => f e.1 e.2)).sum := by
  induction l with
  | nil => simp
  | cons e l ih =>
    obtain ⟨j, r⟩ := e
    by_cases h : k = j
    · subst h
      simp only [List.kerase_cons_eq, List.dlookup_cons_eq, Option.elim, List.map_cons,
        List.sum_cons]
      ring
    · have hd : List.dlookup k ((⟨j, r⟩ : Sigma fun _ : κ => ρ) :: l) = l.dlookup k :=
        List.dlookup_cons_ne l ⟨j, r⟩ h
      have hk : List.kerase k ((⟨j, r⟩ : Sigma fun _ : κ => ρ) :: l) = ⟨j, r⟩ :: l.kerase k :=
        List.kerase_cons_ne h
      rw [hk, hd]
      simp only [List.map_cons, List.sum_cons]
      rw [← ih]
      ring

theorem total_insert (f : κ → ρ → Int) (t : Table κ ρ) (k : κ) (r : ρ) :
    total f (t.insert k r) = total f t - (t.lookup k).elim 0 (f k) + f k r := by
  have h := sum_kerase f k t.entries
  simp only [total, AList.entries_insert, List.map_cons, List.sum_cons, AList.lookup] at h ⊢
  rw [← h]
  ring

/-- Updating one row moves the total by what that row changed. -/
theorem total_modify (f : κ → ρ → Int) (t : Table κ ρ) (k : κ) (g : ρ → ρ) :
    total f (t.modify k g) = total f t + (t.lookup k).elim 0 (fun r => f k (g r) - f k r) := by
  cases h : t.lookup k with
  | none => simp [modify, h]
  | some r =>
    simp only [modify, h, total_insert, Option.elim]
    ring

/-- Where the other rows add no more to one total than to another, the two are apart by no more
than this row. -/
theorem total_add_le {f g : κ → ρ → Int} {k : κ} (hgf : ∀ j r, j ≠ k → g j r ≤ f j r)
    (t : Table κ ρ) :
    total g t + (t.lookup k).elim 0 (f k) ≤ total f t + (t.lookup k).elim 0 (g k) := by
  have hf := sum_kerase f k t.entries
  have hg := sum_kerase g k t.entries
  have hrest : ((t.entries.kerase k).map (fun e => g e.1 e.2)).sum ≤
      ((t.entries.kerase k).map (fun e => f e.1 e.2)).sum := by
    refine List.sum_le_sum fun e he => hgf e.1 e.2 ?_
    rintro rfl
    exact List.notMem_keys_kerase e.1 t.nodupKeys (List.mem_keys_of_mem he)
  simp only [total, AList.lookup]
  omega

end Table
