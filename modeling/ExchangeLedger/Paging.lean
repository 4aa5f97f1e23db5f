import Mathlib.Data.List.Sort
import Mathlib.Order.Basic

set_option autoImplicit false

/-! Pages of the matching rows of a table, read one after another behind a cursor. -/

namespace Paging

variable {ι : Type} [LinearOrder ι]

def inOrder (rows : List ι) : List ι := rows.insertionSort (· ≤ ·)

/-- One page of the rows that match, in the order of their ids: with a cursor, the rows from it on
except the first of them. -/
def page (take : Nat) (rows : List ι) : Option ι → List ι
  | none => (inOrder rows).take take
  | some c => ((inOrder (rows.filter (c ≤ ·))).drop 1).take take

/-- A loop that reads pages until one is empty, and moves its cursor to the last row of each. -/
structure Reader (ι : Type) where
  cursor : Option ι
  pages : List (List ι)
  finished : Bool
  deriving DecidableEq, Repr

namespace Reader

def start : Reader ι := ⟨none, [], false⟩

def next (take : Nat) (rows : List ι) (r : Reader ι) : Reader ι :=
  if r.finished then r
  else match (page take rows r.cursor).getLast? with
    | none => { r with finished := true }
    | some c => { r with cursor := some c, pages := r.pages ++ [page take rows r.cursor] }

/-- What has been read. -/
def placed (r : Reader ι) : List ι := r.pages.flatten

end Reader

/-- The row comes after the cursor. -/
def After (cursor : Option ι) (i : ι) : Prop := ∀ c ∈ cursor, c < i

instance (cursor : Option ι) (i : ι) : Decidable (After cursor i) := by
  unfold After
  infer_instance

/-- The row of the cursor still matches. -/
def Fresh (rows : List ι) (cursor : Option ι) : Prop := ∀ c ∈ cursor, c ∈ rows

instance (rows : List ι) (cursor : Option ι) : Decidable (Fresh rows cursor) := by
  unfold Fresh
  infer_instance

/-! ### One page -/

theorem mem_inOrder {rows : List ι} {i : ι} : i ∈ inOrder rows ↔ i ∈ rows :=
  List.mem_insertionSort _

theorem inOrder_ascending {rows : List ι} (h : rows.Nodup) : (inOrder rows).Pairwise (· < ·) := by
  have hsorted : (inOrder rows).Pairwise (· ≤ ·) := List.pairwise_insertionSort _ rows
  have hnodup : (inOrder rows).Nodup := (List.perm_insertionSort _ rows).nodup_iff.mpr h
  exact (hsorted.and hnodup).imp fun h => lt_of_le_of_ne h.1 h.2

theorem ascending_ext {l m : List ι} (hl : l.Pairwise (· < ·)) (hm : m.Pairwise (· < ·))
    (h : ∀ i, i ∈ l ↔ i ∈ m) : l = m := by
  have hperm : l.Perm m :=
    (List.perm_ext_iff_of_nodup (hl.imp fun h => h.ne) (hm.imp fun h => h.ne)).mpr h
  exact hperm.eq_of_pairwise' (hl.imp fun h => h.le) (hm.imp fun h => h.le)

/-- The matching rows after the cursor, in order. -/
def following (rows : List ι) (cursor : Option ι) : List ι :=
  inOrder (rows.filter (fun i => After cursor i))

section

variable {take : Nat} {rows : List ι} {cursor : Option ι}

theorem mem_following {i : ι} : i ∈ following rows cursor ↔ i ∈ rows ∧ After cursor i := by
  simp [following, mem_inOrder]

theorem following_ascending (h : rows.Nodup) : (following rows cursor).Pairwise (· < ·) :=
  inOrder_ascending (h.filter _)

theorem page_of_fresh (h : rows.Nodup) (hfresh : Fresh rows cursor) :
    page take rows cursor = (following rows cursor).take take := by
  cases cursor with
  | none => simp [page, following, After]
  | some c =>
    have hc : c ∈ rows := hfresh c rfl
    have hskip : inOrder (rows.filter (c ≤ ·)) = c :: following rows (some c) := by
      refine ascending_ext (inOrder_ascending (h.filter _)) ?_ fun i => ?_
      · refine List.pairwise_cons.mpr ⟨fun i hi => ?_, following_ascending h⟩
        exact (mem_following.mp hi).2 c rfl
      · simp only [mem_inOrder, List.mem_filter, decide_eq_true_eq, List.mem_cons, mem_following,
          After, Option.mem_some, forall_eq']
        constructor
        · rintro ⟨hi, hle⟩
          rcases hle.eq_or_lt with heq | hlt
          · exact .inl heq.symm
          · exact .inr ⟨hi, hlt⟩
        · rintro (rfl | ⟨hi, hlt⟩)
          · exact ⟨hc, le_refl _⟩
          · exact ⟨hi, hlt.le⟩
    simp only [page, hskip, List.drop_succ_cons, List.drop_zero]

theorem page_of_stale (h : rows.Nodup) (hstale : ¬ Fresh rows cursor) :
    page take rows cursor = ((following rows cursor).drop 1).take take := by
  cases cursor with
  | none => exact absurd (fun c hc => by cases hc) hstale
  | some c =>
    have hc : c ∉ rows := fun hc => hstale fun d hd => by
      cases hd
      exact hc
    have hsame : inOrder (rows.filter (c ≤ ·)) = following rows (some c) := by
      refine ascending_ext (inOrder_ascending (h.filter _)) (following_ascending h) fun i => ?_
      simp only [mem_inOrder, List.mem_filter, decide_eq_true_eq, mem_following, After,
        Option.mem_some, forall_eq']
      constructor
      · rintro ⟨hi, hle⟩
        exact ⟨hi, lt_of_le_of_ne hle fun heq => hc (heq ▸ hi)⟩
      · rintro ⟨hi, hlt⟩
        exact ⟨hi, hlt.le⟩
    simp only [page, hsame]

theorem page_sublist (h : rows.Nodup) :
    (page take rows cursor).Sublist (following rows cursor) := by
  by_cases hfresh : Fresh rows cursor
  · rw [page_of_fresh h hfresh]
    exact List.take_sublist _ _
  · rw [page_of_stale h hfresh]
    exact (List.take_sublist _ _).trans (List.drop_sublist _ _)

theorem mem_of_mem_page (h : rows.Nodup) {i : ι} (hi : i ∈ page take rows cursor) :
    i ∈ rows ∧ After cursor i := mem_following.mp ((page_sublist h).subset hi)

theorem page_ascending (h : rows.Nodup) : (page take rows cursor).Pairwise (· < ·) :=
  (following_ascending h).sublist (page_sublist h)

theorem mem_take_or_after {l : List ι} (hl : l.Pairwise (· < ·)) (htake : 0 < take) {i : ι}
    (hi : i ∈ l) : i ∈ l.take take ∨ ∃ c, (l.take take).getLast? = some c ∧ c < i := by
  rw [← List.take_append_drop take l, List.mem_append] at hi
  rcases hi with hi | hi
  · exact .inl hi
  · have hne : l.take take ≠ [] := by
      cases l with
      | nil => simp at hi
      | cons a l =>
        cases take with
        | zero => omega
        | succ n => simp
    have hlast := List.getLast?_eq_getLast_of_ne_nil hne
    rw [← List.take_append_drop take l, List.pairwise_append] at hl
    exact .inr ⟨_, hlast, hl.2.2 _ (List.getLast_mem hne) i hi⟩

theorem le_getLast {l : List ι} (hl : l.Pairwise (· < ·)) {c i : ι} (hc : l.getLast? = some c)
    (hi : i ∈ l) : i ≤ c := by
  obtain ⟨l', rfl⟩ := List.getLast?_eq_some_iff.mp hc
  rcases List.mem_append.mp hi with hi | hi
  · exact ((List.pairwise_append.mp hl).2.2 i hi c (by simp)).le
  · rw [List.mem_singleton.mp hi]

end

/-! ### The loop -/

namespace Reader

variable {take : Nat} {rows : List ι} {r : Reader ι} {due : ι → Prop}

theorem next_of_nil {r : Reader ι} (h : page take rows r.cursor = []) :
    r.next take rows = { r with finished := true } := by
  unfold Reader.next
  split
  · rename_i hfinished
    rw [← hfinished]
  · rw [h]
    rfl

theorem next_cases (take : Nat) (rows : List ι) (r : Reader ι) :
    (r.finished = true ∧ r.next take rows = r) ∨
    (r.finished = false ∧ page take rows r.cursor = [] ∧
      r.next take rows = { r with finished := true }) ∨
    (r.finished = false ∧ ∃ c, (page take rows r.cursor).getLast? = some c ∧
      r.next take rows =
        { r with cursor := some c, pages := r.pages ++ [page take rows r.cursor] }) := by
  cases hfinished : r.finished with
  | true => exact .inl ⟨rfl, by simp [next, hfinished]⟩
  | false =>
    refine .inr ?_
    cases hlast : (page take rows r.cursor).getLast? with
    | none => exact .inl ⟨rfl, List.getLast?_eq_none_iff.mp hlast, by simp [next, hfinished, hlast]⟩
    | some c => exact .inr ⟨rfl, c, rfl, by simp [next, hfinished, hlast]⟩

/-- The rows on the pages ascend, and none of them comes after the cursor. -/
structure Sound (r : Reader ι) : Prop where
  ascending : r.placed.Pairwise (· < ·)
  behind : ∀ i ∈ r.placed, ¬ After r.cursor i

theorem sound_start : Sound (start : Reader ι) := ⟨.nil, nofun⟩

theorem Sound.next (hr : r.Sound) (h : rows.Nodup) : (r.next take rows).Sound := by
  obtain ⟨-, hsame⟩ | ⟨-, -, hdone⟩ | ⟨-, c, hlast, hread⟩ := next_cases take rows r
  · rw [hsame]
    exact hr
  · rw [hdone]
    exact ⟨hr.ascending, hr.behind⟩
  · rw [hread]
    have hpage : (page take rows r.cursor).Pairwise (· < ·) := page_ascending h
    have hc : c ∈ page take rows r.cursor := List.mem_of_getLast? hlast
    have hcross {i j : ι} (hi : i ∈ r.placed) (hj : j ∈ page take rows r.cursor) : i < j := by
      obtain ⟨d, hd, hle⟩ : ∃ d ∈ r.cursor, i ≤ d := by simpa [After] using hr.behind i hi
      exact hle.trans_lt ((mem_of_mem_page h hj).2 d hd)
    constructor
    · simp only [placed, List.flatten_append, List.flatten_singleton]
      exact List.pairwise_append.mpr ⟨hr.ascending, hpage, fun i hi j hj => hcross hi hj⟩
    · intro i hi hafter
      simp only [placed, List.flatten_append, List.flatten_singleton, List.mem_append] at hi
      have hlt : c < i := hafter c rfl
      rcases hi with hi | hi
      · exact lt_asymm hlt (hcross hi hc)
      · exact absurd (le_getLast hpage hlast hi) (not_le.mpr hlt)

theorem mem_placed_next (h : rows.Nodup) {i : ι} (hi : i ∈ (r.next take rows).placed) :
    i ∈ r.placed ∨ i ∈ rows := by
  obtain ⟨-, hsame⟩ | ⟨-, -, hdone⟩ | ⟨-, c, -, hread⟩ := next_cases take rows r
  · rw [hsame] at hi
    exact .inl hi
  · rw [hdone] at hi
    exact .inl hi
  · rw [hread] at hi
    simp only [placed, List.flatten_append, List.flatten_singleton, List.mem_append] at hi
    exact hi.imp_right fun hpage => (mem_of_mem_page h hpage).1

/-- No row that was due is lost: each has been placed, or still matches after the cursor. -/
def Keeps (due : ι → Prop) (rows : List ι) (r : Reader ι) : Prop :=
  ∀ i, due i → i ∈ r.placed ∨ (r.finished = false ∧ After r.cursor i ∧ i ∈ rows)

/-- The next page leaves no row out. -/
def ReadsOn (due : ι → Prop) (rows : List ι) (r : Reader ι) : Prop :=
  r.finished = true ∨ Fresh rows r.cursor ∨ ∀ i, due i → ¬ After r.cursor i

theorem Keeps.next (hr : r.Keeps due rows) (h : rows.Nodup) (htake : 0 < take)
    (hreads : r.ReadsOn due rows) : (r.next take rows).Keeps due rows := by
  intro i hi
  obtain ⟨-, hsame⟩ | ⟨hopen, hempty, hdone⟩ | ⟨hopen, c, hlast, hread⟩ := next_cases take rows r
  · rw [hsame]
    exact hr i hi
  · rw [hdone]
    refine (hr i hi).imp_right ?_
    rintro ⟨-, hafter, hrow⟩
    rcases hreads with hfinished | hfresh | hlater
    · rw [hopen] at hfinished
      cases hfinished
    · have hnext := mem_take_or_after (following_ascending h) htake
        (mem_following.mpr ⟨hrow, hafter⟩)
      rw [← page_of_fresh h hfresh, hempty] at hnext
      simp at hnext
    · exact absurd hafter (hlater i hi)
  · rw [hread]
    simp only [placed, List.flatten_append, List.flatten_singleton, List.mem_append]
    rcases hr i hi with hplaced | ⟨-, hafter, hrow⟩
    · exact .inl (.inl hplaced)
    · rcases hreads with hfinished | hfresh | hlater
      · rw [hopen] at hfinished
        cases hfinished
      · have hnext := mem_take_or_after (following_ascending h) htake
          (mem_following.mpr ⟨hrow, hafter⟩)
        rw [← page_of_fresh h hfresh, hlast] at hnext
        rcases hnext with hpage | ⟨d, hd, hlt⟩
        · exact .inl (.inr hpage)
        · cases hd
          exact .inr ⟨hopen, by simpa [After] using hlt, hrow⟩
      · exact absurd hafter (hlater i hi)

theorem Keeps.readsOn (hr : r.Keeps due rows) (hsound : r.Sound) (h : rows.Nodup)
    (hdue : ∀ i ∈ rows, due i) (hnext : (r.next take rows).Keeps due rows) :
    r.ReadsOn due rows := by
  by_contra hreads
  obtain ⟨hopen, hstale, hleft⟩ := by simpa only [ReadsOn, not_or] using hreads
  obtain ⟨i, hi, hafter⟩ : ∃ i, due i ∧ After r.cursor i := by simpa using hleft
  have hrow : i ∈ rows := by
    rcases hr i hi with hplaced | hrest
    · exact absurd hafter (hsound.behind i hplaced)
    · exact hrest.2.2
  have hfollows : i ∈ following rows r.cursor := mem_following.mpr ⟨hrow, hafter⟩
  cases hfollowing : following rows r.cursor with
  | nil =>
    rw [hfollowing] at hfollows
    simp at hfollows
  | cons w rest =>
    have hw : w ∈ following rows r.cursor := by simp [hfollowing]
    obtain ⟨hwrow, hwafter⟩ := mem_following.mp hw
    have hpage : page take rows r.cursor = rest.take take := by
      rw [page_of_stale h hstale, hfollowing]
      rfl
    have hafterW {j : ι} (hj : j ∈ page take rows r.cursor) : w < j := by
      have hascending : (following rows r.cursor).Pairwise (· < ·) := following_ascending h
      rw [hfollowing] at hascending
      rw [hpage] at hj
      exact (List.pairwise_cons.mp hascending).1 j (List.mem_of_mem_take hj)
    have hkept := hnext w (hdue w hwrow)
    obtain ⟨hfinished, -⟩ | ⟨-, -, hdone⟩ | ⟨-, c, hlast, hread⟩ := next_cases take rows r
    · exact hopen hfinished
    · rw [hdone] at hkept
      rcases hkept with hplaced | hrest
      · exact hsound.behind w hplaced hwafter
      · cases hrest.1
    · rw [hread] at hkept
      simp only [placed, List.flatten_append, List.flatten_singleton, List.mem_append] at hkept
      rcases hkept with (hplaced | hplaced) | ⟨-, hlater, -⟩
      · exact hsound.behind w hplaced hwafter
      · exact lt_irrefl w (hafterW hplaced)
      · exact lt_asymm (hlater c rfl) (hafterW (List.mem_of_getLast? hlast))

theorem Keeps.of_next (h : rows.Nodup) (hnext : (r.next take rows).Keeps due rows) :
    r.Keeps due rows := by
  intro i hi
  have hkept := hnext i hi
  obtain ⟨-, hsame⟩ | ⟨-, -, hdone⟩ | ⟨hopen, c, hlast, hread⟩ := next_cases take rows r
  · rw [hsame] at hkept
    exact hkept
  · rw [hdone] at hkept
    exact hkept.imp_right fun hrest => by cases hrest.1
  · rw [hread] at hkept
    simp only [placed, List.flatten_append, List.flatten_singleton, List.mem_append] at hkept
    rcases hkept with (hplaced | hpage) | ⟨-, hlater, hrow⟩
    · exact .inl hplaced
    · obtain ⟨hrow, hafter⟩ := mem_of_mem_page h hpage
      exact .inr ⟨hopen, hafter, hrow⟩
    · have hc := (mem_of_mem_page h (List.mem_of_getLast? hlast)).2
      exact .inr ⟨hopen, fun d hd => (hc d hd).trans (hlater c rfl), hrow⟩

theorem next_progress (take : Nat) (rows : List ι) (r : Reader ι) :
    (r.next take rows).finished = true ∨ r.placed.length < (r.next take rows).placed.length := by
  obtain ⟨hfinished, hsame⟩ | ⟨-, -, hdone⟩ | ⟨-, c, hlast, hread⟩ := next_cases take rows r
  · rw [hsame]
    exact .inl hfinished
  · rw [hdone]
    exact .inl rfl
  · rw [hread]
    have hpos := List.length_pos_of_mem (List.mem_of_getLast? hlast)
    refine .inr ?_
    simp only [placed, List.flatten_append, List.flatten_singleton, List.length_append]
    omega

end Reader

end Paging
