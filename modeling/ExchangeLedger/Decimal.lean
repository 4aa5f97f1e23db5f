import Mathlib.Data.Nat.MaxPowDiv
import Mathlib.Data.List.DropRight
import Mathlib.Data.Rat.Lemmas
import Mathlib.Algebra.Order.Field.Power
import Mathlib.Tactic.Linarith
import Mathlib.Tactic.Ring
import Mathlib.Tactic.FieldSimp

set_option autoImplicit false

/-! Decimal numbers and their texts: significant-digit rounding, plain and exponential
notation, and the value that a text denotes. -/

/-- The number `mant * 10 ^ exp`. -/
structure Decimal where
  mant : Int
  exp : Int
  deriving DecidableEq, Repr

namespace Decimal

def value (x : Decimal) : Rat := x.mant * (10 : Rat) ^ x.exp

def isZero (x : Decimal) : Bool := x.mant = 0

/-! ### Texts of natural numbers -/

/-- `n` in at least `k` digits. -/
def padded (k n : Nat) : List Char :=
  List.replicate (k - (Nat.toDigits 10 n).length) '0' ++ Nat.toDigits 10 n

/-- The text of `n / 10 ^ k` with exactly `k` fraction digits. -/
def pointText (n k : Nat) : List Char :=
  if k = 0 then Nat.toDigits 10 n
  else Nat.toDigits 10 (n / 10 ^ k) ++ '.' :: padded k (n % 10 ^ k)

def readNat (s : List Char) : Nat := Nat.ofDigitChars 10 s 0

@[simp] theorem readNat_toDigits (n : Nat) : readNat (Nat.toDigits 10 n) = n :=
  Nat.ofDigitChars_ten_toDigits

theorem readNat_append (s t : List Char) :
    readNat (s ++ t) = readNat s * 10 ^ t.length + readNat t := by
  unfold readNat
  rw [Nat.ofDigitChars_append, Nat.ofDigitChars_eq_ofDigitChars_zero, Nat.mul_comm]

@[simp] theorem readNat_padded (k n : Nat) : readNat (padded k n) = n := by
  have h0 : readNat (List.replicate (k - (Nat.toDigits 10 n).length) '0') = 0 := by
    simp [readNat, Nat.ofDigitChars_replicate_zero]
  rw [padded, readNat_append, h0, readNat_toDigits]
  omega

theorem toDigits_ten_mul_add {n d : Nat} (hn : 0 < n) (hd : d < 10) :
    Nat.toDigits 10 (10 * n + d) = Nat.toDigits 10 n ++ [d.digitChar] := by
  rw [← Nat.toDigits_of_lt_base hd, Nat.toDigits_append_toDigits (by decide) hn hd]

theorem length_toDigits_le {n k : Nat} (hk : 0 < k) (h : n < 10 ^ k) :
    (Nat.toDigits 10 n).length ≤ k :=
  (Nat.length_toDigits_le_iff (by decide) hk).mpr h

theorem lt_pow_length_toDigits (n : Nat) : n < 10 ^ (Nat.toDigits 10 n).length :=
  (Nat.length_toDigits_le_iff (by decide) Nat.length_toDigits_pos).mp le_rfl

theorem length_padded {k n : Nat} (hk : 0 < k) (h : n < 10 ^ k) : (padded k n).length = k := by
  have hl := length_toDigits_le hk h
  simp [padded]
  omega

theorem padded_ne_nil (k n : Nat) : padded k n ≠ [] := by
  simp [padded, Nat.toDigits_ne_nil]

theorem padded_isDigit {k n : Nat} {c : Char} (h : c ∈ padded k n) : c.isDigit = true := by
  rcases List.mem_append.mp h with h | h
  · rw [List.eq_of_mem_replicate h]
    decide
  · exact Nat.isDigit_of_mem_toDigits (by decide) (by decide) h

theorem toDigits_isDigit {n : Nat} {c : Char} (h : c ∈ Nat.toDigits 10 n) : c.isDigit = true :=
  Nat.isDigit_of_mem_toDigits (by decide) (by decide) h

theorem padded_snoc {k n d : Nat} (hk : 0 < k) (hd : d < 10) :
    padded (k + 1) (10 * n + d) = padded k n ++ [d.digitChar] := by
  rcases Nat.eq_zero_or_pos n with rfl | hn
  · have h0 : Nat.toDigits 10 0 = ['0'] := Nat.toDigits_zero 10
    simp only [padded, Nat.mul_zero, Nat.zero_add, Nat.toDigits_of_lt_base hd, h0,
      List.length_singleton, Nat.add_sub_cancel]
    obtain ⟨k, rfl⟩ : ∃ j, k = j + 1 := ⟨k - 1, by omega⟩
    simp [List.replicate_succ']
  · simp only [padded, toDigits_ten_mul_add hn hd, List.length_append, List.length_singleton,
      Nat.add_sub_add_right, List.append_assoc]

theorem pointText_snoc {q d k : Nat} (hk : 0 < k) (hd : d < 10) :
    pointText (10 * q + d) (k + 1) = pointText q k ++ [d.digitChar] := by
  have hdiv : (10 * q + d) / 10 ^ (k + 1) = q / 10 ^ k := by
    rw [pow_succ', ← Nat.div_div_eq_div_mul]
    congr 1
    omega
  have hmod : (10 * q + d) % 10 ^ (k + 1) = 10 * (q % 10 ^ k) + d := by
    rw [pow_succ', Nat.mod_mul]
    have h1 : (10 * q + d) % 10 = d := by omega
    have h2 : (10 * q + d) / 10 = q := by omega
    rw [h1, h2]
    omega
  simp only [pointText, Nat.add_one_ne_zero, if_false, hk.ne', hdiv, hmod,
    padded_snoc hk hd, List.append_assoc, List.cons_append]

theorem pointText_one {q d : Nat} (hd : d < 10) :
    pointText (10 * q + d) 1 = Nat.toDigits 10 q ++ ['.', d.digitChar] := by
  have hdiv : (10 * q + d) / 10 = q := by omega
  have hmod : (10 * q + d) % 10 = d := by omega
  simp [pointText, padded, hdiv, hmod, Nat.toDigits_of_lt_base hd]

/-! ### Reading texts -/

/-- Drop the trailing zeros of a text, and then a trailing point: `replace(/\.?0+$/, '')`. -/
def trimZeros (s : List Char) : List Char :=
  let t := s.rdropWhile (· == '0')
  if t.length = s.length then s
  else if t.getLast? = some '.' then t.dropLast
  else t

/-- The whole and fraction digits of an unsigned plain decimal, `\d+(\.\d+)?`. -/
def splitPoint (s : List Char) : Option (List Char × List Char) :=
  match s.takeWhile Char.isDigit, s.dropWhile Char.isDigit with
  | [], _ => none
  | w, [] => some (w, [])
  | w, '.' :: f => if f ≠ [] ∧ f.all Char.isDigit then some (w, f) else none
  | _, _ => none

/-- The mantissa text and the exponent of a text that ends in `[eE][+-]?\d+`. -/
def splitExponent (s : List Char) : Option (List Char × Int) :=
  let ds := (s.reverse.takeWhile Char.isDigit).reverse
  if ds = [] then none
  else match s.reverse.dropWhile Char.isDigit with
    | 'e' :: m | 'E' :: m => some (m.reverse, readNat ds)
    | '+' :: 'e' :: m | '+' :: 'E' :: m => some (m.reverse, readNat ds)
    | '-' :: 'e' :: m | '-' :: 'E' :: m => some (m.reverse, -(readNat ds : Int))
    | _ => none

/-- Digits with at most one point among them: the number they form and how many follow it. -/
def parseMantissa (s : List Char) : Option (Nat × Nat) :=
  let w := s.takeWhile Char.isDigit
  match s.dropWhile Char.isDigit with
  | [] => if w = [] then none else some (readNat w, 0)
  | '.' :: f =>
    if f.all Char.isDigit ∧ (w ≠ [] ∨ f ≠ []) then some (readNat (w ++ f), f.length) else none
  | _ => none

def parseUnsigned (s : List Char) : Option Decimal :=
  match splitExponent s with
  | some (m, e) => (parseMantissa m).map (fun p => ⟨p.1, e - p.2⟩)
  | none => (parseMantissa s).map (fun p => ⟨p.1, -(p.2 : Int)⟩)

/-- The number a text denotes, in plain or exponential notation. -/
def parse : List Char → Option Decimal
  | '-' :: s => (parseUnsigned s).map (fun x => ⟨-x.mant, x.exp⟩)
  | '+' :: s => parseUnsigned s
  | s => parseUnsigned s

theorem trimZeros_snoc_of_ne {s : List Char} {c : Char} (hc : c ≠ '0') :
    trimZeros (s ++ [c]) = s ++ [c] := by
  have h : (s ++ [c]).rdropWhile (· == '0') = s ++ [c] :=
    List.rdropWhile_concat_neg _ _ _ (by simpa using hc)
  simp [trimZeros, h]

theorem trimZeros_snoc_zero {s : List Char} (hs : s.getLast? ≠ some '.') :
    trimZeros (s ++ ['0']) = trimZeros s := by
  have h : (s ++ ['0']).rdropWhile (· == '0') = s.rdropWhile (· == '0') :=
    List.rdropWhile_concat_pos _ _ _ (by decide)
  have hle : (s.rdropWhile (· == '0')).length ≤ s.length := (List.rdropWhile_prefix _ _).length_le
  have hne : (s.rdropWhile (· == '0')).length ≠ (s ++ ['0']).length := by
    simp only [List.length_append, List.length_singleton]
    omega
  simp only [trimZeros, h, hne, if_false]
  by_cases hl : (s.rdropWhile (· == '0')).length = s.length
  · have he : s.rdropWhile (· == '0') = s := (List.rdropWhile_prefix _ _).eq_of_length hl
    rw [he, if_neg hs]
    simp
  · simp [hl]

theorem trimZeros_minus (s : List Char) : trimZeros ('-' :: s) = '-' :: trimZeros s := by
  have hdrop : ('-' :: s).rdropWhile (· == '0') = '-' :: s.rdropWhile (· == '0') := by
    induction s using List.reverseRecOn with
    | nil => rfl
    | append_singleton s c ih =>
      by_cases hc : c = '0'
      · subst hc
        rw [← List.cons_append, List.rdropWhile_concat_pos _ _ _ (by decide),
          List.rdropWhile_concat_pos _ _ _ (by decide), ih]
      · rw [← List.cons_append, List.rdropWhile_concat_neg _ _ _ (by simpa using hc),
          List.rdropWhile_concat_neg _ _ _ (by simpa using hc), List.cons_append]
  simp only [trimZeros, hdrop, List.length_cons, Nat.add_right_cancel_iff]
  split
  · rfl
  · generalize s.rdropWhile (· == '0') = t
    cases t with
    | nil => simp
    | cons c t =>
      simp only [List.getLast?_cons_cons, List.dropLast_cons_cons]
      split <;> rfl

theorem trimZeros_point_zero (s : List Char) : trimZeros (s ++ ['.', '0']) = s := by
  have h0 : s ++ ['.', '0'] = (s ++ ['.']) ++ ['0'] := by simp
  have h1 : (s ++ ['.', '0']).rdropWhile (· == '0') = s ++ ['.'] := by
    rw [h0, List.rdropWhile_concat_pos _ _ _ (by decide),
      List.rdropWhile_concat_neg _ _ _ (by decide)]
  simp [trimZeros, h1]

theorem getLast?_of_isDigit {s : List Char} (h : ∀ c ∈ s, c.isDigit = true) :
    s.getLast? ≠ some '.' := by
  intro hl
  have := h '.' (List.mem_of_getLast? hl)
  exact absurd this (by decide)

theorem getLast?_pointText (n : Nat) {k : Nat} (hk : 0 < k) :
    (pointText n k).getLast? ≠ some '.' := by
  have hp : (padded k (n % 10 ^ k)).getLast? ≠ some '.' :=
    getLast?_of_isDigit (fun c hc => padded_isDigit hc)
  rw [pointText, if_neg hk.ne', List.getLast?_append, List.getLast?_cons]
  cases hl : (padded k (n % 10 ^ k)).getLast? with
  | none => exact absurd (List.getLast?_eq_none_iff.mp hl) (padded_ne_nil _ _)
  | some c => simpa [hl] using hp

/-- Trimming a fixed-point text drops as many final zeros as its fraction has. -/
theorem trimZeros_pointText (n : Nat) {k : Nat} (hk : 0 < k) :
    ∃ j q, j ≤ k ∧ n = 10 ^ (k - j) * q ∧ trimZeros (pointText n k) = pointText q j ∧
      (j = 0 ∨ ¬ 10 ∣ q) := by
  obtain ⟨k, rfl⟩ : ∃ i, k = i + 1 := ⟨k - 1, by omega⟩
  clear hk
  induction k generalizing n with
  | zero =>
    obtain ⟨q, d, hd, rfl⟩ : ∃ q d, d < 10 ∧ n = 10 * q + d :=
      ⟨n / 10, n % 10, by omega, by omega⟩
    rw [Nat.zero_add, pointText_one hd]
    rcases Nat.eq_zero_or_pos d with rfl | hpos
    · refine ⟨0, q, by omega, by simp, ?_, .inl rfl⟩
      rw [show (0 : Nat).digitChar = '0' from rfl, trimZeros_point_zero]
      simp [pointText]
    · refine ⟨1, 10 * q + d, le_rfl, by simp, ?_, .inr (by omega)⟩
      rw [pointText_one hd]
      have h := @trimZeros_snoc_of_ne (Nat.toDigits 10 q ++ ['.']) d.digitChar
        (by simpa using hpos.ne')
      simpa using h
  | succ k ih =>
    obtain ⟨q, d, hd, rfl⟩ : ∃ q d, d < 10 ∧ n = 10 * q + d :=
      ⟨n / 10, n % 10, by omega, by omega⟩
    rw [pointText_snoc (Nat.succ_pos k) hd]
    rcases Nat.eq_zero_or_pos d with rfl | hpos
    · obtain ⟨j, r, hj, rfl, ht, hr⟩ := ih q
      refine ⟨j, r, by omega, ?_, ?_, hr⟩
      · rw [show k + 1 + 1 - j = (k + 1 - j) + 1 by omega, pow_succ]
        ring
      · rw [show (0 : Nat).digitChar = '0' from rfl,
          trimZeros_snoc_zero (getLast?_pointText _ (Nat.succ_pos k)), ht]
    · refine ⟨k + 1 + 1, 10 * q + d, le_rfl, by simp, ?_, .inr (by omega)⟩
      rw [pointText_snoc (Nat.succ_pos k) hd]
      exact trimZeros_snoc_of_ne (by simpa using hpos.ne')

theorem takeWhile_dropWhile_digits {s t : List Char} (hs : ∀ c ∈ s, c.isDigit = true)
    (ht : ∀ c ∈ t.head?, c.isDigit = false) :
    (s ++ t).takeWhile Char.isDigit = s ∧ (s ++ t).dropWhile Char.isDigit = t := by
  induction s with
  | nil =>
    cases t with
    | nil => simp
    | cons c t =>
      have hc := ht c (by simp)
      simp [hc]
  | cons c s ih =>
    have hc := hs c (by simp)
    obtain ⟨h1, h2⟩ := ih (fun d hd => hs d (by simp [hd]))
    simp [hc, h1, h2]

theorem splitPoint_digits {w : List Char} (hw : ∀ c ∈ w, c.isDigit = true) (hne : w ≠ []) :
    splitPoint w = some (w, []) := by
  obtain ⟨h1, h2⟩ := takeWhile_dropWhile_digits (t := []) hw (by simp)
  simp only [List.append_nil] at h1 h2
  obtain ⟨c, w', rfl⟩ := List.exists_cons_of_ne_nil hne
  simp only [splitPoint, h1, h2]

theorem splitPoint_point {w f : List Char} (hw : ∀ c ∈ w, c.isDigit = true) (hne : w ≠ [])
    (hf : ∀ c ∈ f, c.isDigit = true) (hfne : f ≠ []) :
    splitPoint (w ++ '.' :: f) = some (w, f) := by
  obtain ⟨h1, h2⟩ := takeWhile_dropWhile_digits (t := '.' :: f) hw (by simp)
  obtain ⟨c, w', rfl⟩ := List.exists_cons_of_ne_nil hne
  simp only [splitPoint, h1, h2]
  simp [hfne]
  exact hf

/-- The digits of a fixed-point text: its fraction has exactly `k` of them. -/
theorem splitPoint_pointText (n k : Nat) :
    ∃ w f, splitPoint (pointText n k) = some (w, f) ∧ f.length = k ∧
      readNat w * 10 ^ k + readNat f = n := by
  rcases Nat.eq_zero_or_pos k with rfl | hk
  · refine ⟨Nat.toDigits 10 n, [], ?_, rfl, ?_⟩
    · exact splitPoint_digits (fun c hc => toDigits_isDigit hc) Nat.toDigits_ne_nil
    · simp [readNat]
  · refine ⟨Nat.toDigits 10 (n / 10 ^ k), padded k (n % 10 ^ k), ?_, ?_, ?_⟩
    · rw [pointText, if_neg hk.ne']
      exact splitPoint_point (fun c hc => toDigits_isDigit hc) Nat.toDigits_ne_nil
        (fun c hc => padded_isDigit hc) (padded_ne_nil _ _)
    · exact length_padded hk (Nat.mod_lt _ (by positivity))
    · rw [readNat_toDigits, readNat_padded]
      exact Nat.div_add_mod' n (10 ^ k)

theorem splitExponent_digits {w : List Char} (hw : ∀ c ∈ w, c.isDigit = true) :
    splitExponent w = none := by
  obtain ⟨-, h2⟩ := takeWhile_dropWhile_digits (s := w.reverse) (t := [])
    (fun c hc => hw c (by simpa using hc)) (by simp)
  simp only [List.append_nil] at h2
  simp [splitExponent, h2]

theorem splitExponent_point {w f : List Char} (hf : ∀ c ∈ f, c.isDigit = true) :
    splitExponent (w ++ '.' :: f) = none := by
  have hr : (w ++ '.' :: f).reverse = f.reverse ++ '.' :: w.reverse := by simp
  obtain ⟨-, h2⟩ := takeWhile_dropWhile_digits (s := f.reverse) (t := '.' :: w.reverse)
    (fun c hc => hf c (by simpa using hc)) (by simp)
  simp [splitExponent, hr, h2]

/-- What a plain decimal looks like. -/
theorem splitPoint_eq_some {s w f : List Char} (h : splitPoint s = some (w, f)) :
    w ≠ [] ∧ (∀ c ∈ w, c.isDigit = true) ∧ (∀ c ∈ f, c.isDigit = true) ∧
      (s = w ∧ f = [] ∨ s = w ++ '.' :: f ∧ f ≠ []) := by
  have hsplit : s.takeWhile Char.isDigit ++ s.dropWhile Char.isDigit = s :=
    List.takeWhile_append_dropWhile
  have hw : ∀ c ∈ s.takeWhile Char.isDigit, c.isDigit = true :=
    fun c hc => List.mem_takeWhile_imp hc
  unfold splitPoint at h
  generalize s.takeWhile Char.isDigit = w' at h hsplit hw
  generalize s.dropWhile Char.isDigit = d at h hsplit
  match w', d, h with
  | c :: w', [], h =>
    cases h
    exact ⟨by simp, hw, by simp, .inl ⟨by simpa using hsplit.symm, rfl⟩⟩
  | c :: w', x :: f', h =>
    by_cases hx : x = '.'
    · subst hx
      simp only [Option.ite_none_right_eq_some, Option.some.injEq, Prod.mk.injEq] at h
      obtain ⟨hf, rfl, rfl⟩ := h
      exact ⟨by simp, hw, by simpa using hf.2, .inr ⟨hsplit.symm, hf.1⟩⟩
    · simp [hx] at h

/-- A plain decimal is read with the scale of its fraction. -/
theorem parseUnsigned_plain {s w f : List Char} (h : splitPoint s = some (w, f)) :
    parseUnsigned s = some ⟨readNat (w ++ f), -(f.length : Int)⟩ := by
  obtain ⟨hne, hw, hf, hs⟩ := splitPoint_eq_some h
  rcases hs with ⟨rfl, rfl⟩ | ⟨rfl, hfne⟩
  · have hx := splitExponent_digits hw
    obtain ⟨h1, h2⟩ := takeWhile_dropWhile_digits (t := []) hw (by simp)
    simp only [List.append_nil] at h1 h2
    simp [parseUnsigned, hx, parseMantissa, h1, h2, hne]
  · have hx := splitExponent_point (w := w) hf
    obtain ⟨h1, h2⟩ := takeWhile_dropWhile_digits (t := '.' :: f) hw (by simp)
    have hall : f.all Char.isDigit = true := by simpa using hf
    simp [parseUnsigned, hx, parseMantissa, h1, h2, hne, hall]

theorem parse_plain {s w f : List Char} (h : splitPoint s = some (w, f)) :
    parse s = some ⟨readNat (w ++ f), -(f.length : Int)⟩ := by
  obtain ⟨hne, hw, hf, hs⟩ := splitPoint_eq_some h
  obtain ⟨c, w', rfl⟩ := List.exists_cons_of_ne_nil hne
  have hc : c.isDigit = true := hw c (by simp)
  obtain ⟨r, hr⟩ : ∃ r, s = c :: r := by
    rcases hs with ⟨rfl, -⟩ | ⟨rfl, -⟩
    · exact ⟨w', rfl⟩
    · exact ⟨w' ++ '.' :: f, rfl⟩
  have hu := parseUnsigned_plain h
  subst hr
  unfold parse
  split
  · rename_i heq
    cases heq
    exact absurd hc (by decide)
  · rename_i heq
    cases heq
    exact absurd hc (by decide)
  · exact hu

/-- A plain decimal has no exponent, with a sign in front or without. -/
theorem splitExponent_plain {s w f : List Char} (h : splitPoint s = some (w, f)) :
    splitExponent s = none ∧ splitExponent ('-' :: s) = none := by
  obtain ⟨-, hw, hf, hs⟩ := splitPoint_eq_some h
  rcases hs with ⟨rfl, -⟩ | ⟨rfl, -⟩
  · obtain ⟨-, h2⟩ := takeWhile_dropWhile_digits (s := s.reverse) (t := ['-'])
      (fun c hc => hw c (by simpa using hc)) (by simp)
    exact ⟨splitExponent_digits hw, by simp [splitExponent, h2]⟩
  · exact ⟨splitExponent_point hf, splitExponent_point (w := '-' :: w) hf⟩

/-! ### Texts of scaled numbers -/

/-- `s` is an unsigned plain text of `n / 10 ^ d`, and `f` are its fraction digits. -/
def Writes (n d : Nat) (s f : List Char) : Prop :=
  ∃ w, splitPoint s = some (w, f) ∧ readNat (w ++ f) * 10 ^ d = n * 10 ^ f.length

/-- The whole part and the fraction, without a point where there is no fraction. -/
def joinPoint (w f : List Char) : List Char := if f = [] then w else w ++ '.' :: f

theorem splitPoint_joinPoint {w f : List Char} (hw : ∀ c ∈ w, c.isDigit = true) (hne : w ≠ [])
    (hf : ∀ c ∈ f, c.isDigit = true) : splitPoint (joinPoint w f) = some (w, f) := by
  unfold joinPoint
  split
  · rename_i h
    rw [h]
    exact splitPoint_digits hw hne
  · rename_i h
    exact splitPoint_point hw hne hf h

/-- The whole part of `n / 10 ^ d` with a fraction of `k` digits that is worth the rest. -/
theorem writes_joinPoint {n d : Nat} {f : List Char} (hf : ∀ c ∈ f, c.isDigit = true)
    (hv : readNat f * 10 ^ d = n % 10 ^ d * 10 ^ f.length) :
    Writes n d (joinPoint (Nat.toDigits 10 (n / 10 ^ d)) f) f := by
  refine ⟨Nat.toDigits 10 (n / 10 ^ d),
    splitPoint_joinPoint (fun c hc => toDigits_isDigit hc) Nat.toDigits_ne_nil hf, ?_⟩
  rw [readNat_append, readNat_toDigits, Nat.add_mul, hv]
  calc n / 10 ^ d * 10 ^ f.length * 10 ^ d + n % 10 ^ d * 10 ^ f.length
      = (n / 10 ^ d * 10 ^ d + n % 10 ^ d) * 10 ^ f.length := by ring
    _ = n * 10 ^ f.length := by rw [Nat.div_add_mod']

theorem readNat_zeros (k : Nat) : readNat (List.replicate k '0') = 0 := by
  simp [readNat, Nat.ofDigitChars_replicate_zero]

/-- Digits without their trailing zeros, and how many of these there were. -/
theorem exists_trailing_zeros (s : List Char) :
    ∃ k, s = s.rdropWhile (· == '0') ++ List.replicate k '0' := by
  refine ⟨(s.rtakeWhile (· == '0')).length, ?_⟩
  have hzeros : s.rtakeWhile (· == '0') =
      List.replicate (s.rtakeWhile (· == '0')).length '0' := by
    rw [List.eq_replicate_iff]
    exact ⟨rfl, fun c hc => by simpa using List.mem_rtakeWhile_imp hc⟩
  rw [← hzeros, List.rdropWhile_append_rtakeWhile]

/-- What is left of `n` in `k` digits without its trailing zeros. -/
theorem readNat_rdropWhile_padded {n k : Nat} (h : n < 10 ^ k) :
    ((padded k n).rdropWhile (· == '0')).length ≤ k ∧
      readNat ((padded k n).rdropWhile (· == '0')) * 10 ^ k =
        n * 10 ^ ((padded k n).rdropWhile (· == '0')).length := by
  rcases Nat.eq_zero_or_pos k with rfl | hk
  · obtain rfl : n = 0 := by omega
    decide
  · obtain ⟨j, hj⟩ := exists_trailing_zeros (padded k n)
    have hlen := congrArg List.length hj
    have hread := congrArg readNat hj
    rw [length_padded hk h, List.length_append, List.length_replicate] at hlen
    rw [readNat_padded, readNat_append, readNat_zeros, List.length_replicate] at hread
    refine ⟨by omega, ?_⟩
    calc readNat ((padded k n).rdropWhile (· == '0')) * 10 ^ k
        = readNat ((padded k n).rdropWhile (· == '0')) * 10 ^ j *
            10 ^ ((padded k n).rdropWhile (· == '0')).length := by
          rw [Nat.mul_assoc, ← pow_add, Nat.add_comm j, ← hlen]
      _ = n * 10 ^ ((padded k n).rdropWhile (· == '0')).length := by
          rw [← Nat.add_zero (_ * 10 ^ j), ← hread]

/-- `n / 10 ^ d` with its fraction stripped of trailing zeros. -/
theorem writes_stripped (n d : Nat) :
    Writes n d (joinPoint (Nat.toDigits 10 (n / 10 ^ d))
        ((padded d (n % 10 ^ d)).rdropWhile (· == '0')))
      ((padded d (n % 10 ^ d)).rdropWhile (· == '0')) :=
  writes_joinPoint (fun _ hc => padded_isDigit ((List.rdropWhile_prefix _ _).subset hc))
    (readNat_rdropWhile_padded (Nat.mod_lt _ (by positivity))).2

/-- The number that a plain text of `n / 10 ^ d` is read as. -/
theorem Writes.value {n d : Nat} {s f : List Char} (h : Writes n d s f) :
    (parseUnsigned s).map value = some (n / (10 : Rat) ^ d) := by
  obtain ⟨w, hs, hv⟩ := h
  have hcast : (readNat (w ++ f) : Rat) * 10 ^ d = n * 10 ^ f.length := by exact_mod_cast hv
  rw [parseUnsigned_plain hs]
  change some (Decimal.value _) = _
  rw [Decimal.value, zpow_neg, zpow_natCast, ← div_eq_mul_inv, Int.cast_natCast, Option.some_inj,
    div_eq_div_iff (by positivity) (by positivity), hcast]

/-! ### Arithmetic and printing -/

/-- Keep `p` significant digits, rounding half away from zero. -/
def roundSig (p : Nat) (x : Decimal) : Decimal :=
  let n := (Nat.toDigits 10 x.mant.natAbs).length
  if n ≤ p then x
  else ⟨x.mant.sign * ((x.mant.natAbs + 10 ^ (n - p) / 2) / 10 ^ (n - p) : Nat),
    x.exp + (n - p : Nat)⟩

def precision : Nat := 20

def mul (x y : Decimal) : Decimal := roundSig precision ⟨x.mant * y.mant, x.exp + y.exp⟩

/-- The quotient by a positive number; forty digits more than it has decide the rounding. -/
def divNat (x : Decimal) (n : Nat) : Decimal :=
  roundSig precision ⟨x.mant * 10 ^ 40 / n, x.exp - 40⟩

/-- The quotient of two positive numbers, rounded from forty digits or more. -/
def div (x y : Decimal) : Decimal :=
  let k := 40 + (Nat.toDigits 10 y.mant.natAbs).length
  roundSig precision ⟨x.mant * 10 ^ k / y.mant, x.exp - y.exp - k⟩

def floor (x : Decimal) : Int :=
  if 0 ≤ x.exp then x.mant * 10 ^ x.exp.toNat else x.mant / 10 ^ (-x.exp).toNat

/-- `x.lte(y)`, at the smaller of the two exponents. -/
def lte (x y : Decimal) : Bool :=
  let e := min x.exp y.exp
  x.mant * 10 ^ (x.exp - e).toNat ≤ y.mant * 10 ^ (y.exp - e).toNat

def signed (x : Decimal) (s : List Char) : List Char := if x.mant < 0 then '-' :: s else s

/-- The magnitude of `x` in units of `10 ^ -dp`, rounded half up. -/
def unitsAt (dp : Nat) (x : Decimal) : Nat :=
  if 0 ≤ x.exp + dp then x.mant.natAbs * 10 ^ (x.exp + dp).toNat
  else (x.mant.natAbs + 10 ^ (-(x.exp + dp)).toNat / 2) / 10 ^ (-(x.exp + dp)).toNat

def toFixed (dp : Nat) (x : Decimal) : List Char := x.signed (pointText (unitsAt dp x) dp)

/-- The mantissa without its trailing zeros, and the exponent that goes with it. -/
def normalMant (x : Decimal) : Nat := x.mant.natAbs.divMaxPow 10

def normalExp (x : Decimal) : Int := x.exp + padicValNat 10 x.mant.natAbs

/-- The exponent of the leading digit. -/
def leadExp (x : Decimal) : Int := (Nat.toDigits 10 x.normalMant).length - 1 + x.normalExp

def plainText (x : Decimal) : List Char :=
  if 0 ≤ x.normalExp then Nat.toDigits 10 (x.normalMant * 10 ^ x.normalExp.toNat)
  else pointText x.normalMant (-x.normalExp).toNat

def exponentText (e : Int) : List Char :=
  'e' :: (if e < 0 then '-' else '+') :: Nat.toDigits 10 e.natAbs

def mantissaText : List Char → List Char
  | [] => []
  | [d] => [d]
  | d :: ds => d :: '.' :: ds

/-- Plain notation for numbers between `1e-6` and `1e21`, exponential notation outside. -/
def toText (x : Decimal) : List Char :=
  if x.mant = 0 then ['0']
  else if x.leadExp ≤ -7 ∨ 21 ≤ x.leadExp then
    x.signed (mantissaText (Nat.toDigits 10 x.normalMant) ++ exponentText x.leadExp)
  else x.signed x.plainText

theorem splitExponent_pointText (n k : Nat) : splitExponent (pointText n k) = none := by
  unfold pointText
  split
  · exact splitExponent_digits (fun c hc => toDigits_isDigit hc)
  · exact splitExponent_point (fun c hc => padded_isDigit hc)

theorem splitExponent_exponentText (m : List Char) (e : Int) :
    splitExponent (m ++ exponentText e) = some (m, e) := by
  have hr : (m ++ exponentText e).reverse =
      (Nat.toDigits 10 e.natAbs).reverse ++ (if e < 0 then '-' else '+') :: 'e' :: m.reverse := by
    simp [exponentText]
  have hs : ∀ c ∈ ((if e < 0 then '-' else '+') :: 'e' :: m.reverse).head?,
      c.isDigit = false := by
    intro c hc
    simp only [List.head?_cons, Option.mem_def, Option.some.injEq] at hc
    subst hc
    split <;> decide
  obtain ⟨h1, h2⟩ := takeWhile_dropWhile_digits (s := (Nat.toDigits 10 e.natAbs).reverse)
    (fun c hc => toDigits_isDigit (by simpa using hc)) hs
  simp only [splitExponent, hr, h1, h2, List.reverse_reverse, Nat.toDigits_ne_nil, if_false,
    readNat_toDigits]
  by_cases he : e < 0
  · simp only [he, if_true, List.reverse_reverse, Option.some.injEq, Prod.mk.injEq, true_and]
    omega
  · simp only [he, if_false, List.reverse_reverse, Option.some.injEq, Prod.mk.injEq, true_and]
    omega

theorem parseMantissa_mantissaText {ds : List Char} (hd : ∀ c ∈ ds, c.isDigit = true)
    (hne : ds ≠ []) :
    parseMantissa (mantissaText ds) = some (readNat ds, ds.length - 1) := by
  match ds, hne with
  | [d], _ =>
    have h := hd d (by simp)
    simp [mantissaText, parseMantissa, h]
  | d :: c :: cs, _ =>
    have h := hd d (by simp)
    have ht : ∀ x ∈ c :: cs, x.isDigit = true := fun x hx => hd x (by simp [hx])
    have hp : ('.' : Char).isDigit = false := by decide
    simp only [mantissaText, parseMantissa, List.takeWhile_cons, List.dropWhile_cons, h, hp,
      if_true, Bool.false_eq_true, if_false]
    have hall : (c :: cs).all Char.isDigit = true := by simpa using ht
    simp [hall]

/-- A number printed in exponential notation is read back with the same digits. -/
theorem parse_exponential (n : Nat) (e : Int) :
    parse (mantissaText (Nat.toDigits 10 n) ++ exponentText e) =
      some ⟨n, e - ((Nat.toDigits 10 n).length - 1 : Nat)⟩ := by
  have hd : ∀ c ∈ Nat.toDigits 10 n, c.isDigit = true := fun c hc => toDigits_isDigit hc
  have hu : parseUnsigned (mantissaText (Nat.toDigits 10 n) ++ exponentText e) =
      some ⟨n, e - ((Nat.toDigits 10 n).length - 1 : Nat)⟩ := by
    simp only [parseUnsigned, splitExponent_exponentText,
      parseMantissa_mantissaText hd Nat.toDigits_ne_nil, Option.map_some, readNat_toDigits]
  obtain ⟨c, cs, hc⟩ := List.exists_cons_of_ne_nil (Nat.toDigits_ne_nil (n := n) (b := 10))
  have hcd : c.isDigit = true := hd c (by simp [hc])
  have hhead : ∃ r, mantissaText (Nat.toDigits 10 n) ++ exponentText e = c :: r := by
    rw [hc]
    cases cs with
    | nil => exact ⟨_, rfl⟩
    | cons d ds => exact ⟨_, rfl⟩
  obtain ⟨r, hr⟩ := hhead
  rw [hr] at hu ⊢
  unfold parse
  split
  · rename_i heq
    cases heq
    exact absurd hcd (by decide)
  · rename_i heq
    cases heq
    exact absurd hcd (by decide)
  · exact hu

theorem plainText_eq_pointText (x : Decimal) :
    x.plainText = pointText (x.normalMant * 10 ^ x.normalExp.toNat) (-x.normalExp).toNat := by
  unfold plainText
  split
  · rename_i h
    have h0 : (-x.normalExp).toNat = 0 := by omega
    simp [h0, pointText]
  · rename_i h
    have h0 : x.normalExp.toNat = 0 := by omega
    simp [h0]

/-! ### Values -/

theorem normalMant_mul (x : Decimal) :
    x.mant.natAbs = x.normalMant * 10 ^ padicValNat 10 x.mant.natAbs :=
  (Nat.divMaxPow_mul_pow_padicValNat 10 x.mant.natAbs).symm

theorem normalMant_pos {x : Decimal} (hx : x.mant ≠ 0) : 0 < x.normalMant := by
  have h := normalMant_mul x
  rcases Nat.eq_zero_or_pos x.normalMant with h0 | h0
  · rw [h0, Nat.zero_mul] at h
    omega
  · exact h0

theorem not_ten_dvd_normalMant {x : Decimal} (hx : x.mant ≠ 0) : ¬ 10 ∣ x.normalMant :=
  Nat.not_dvd_divMaxPow (by decide) (by omega)

theorem normalMant_le (x : Decimal) : x.normalMant ≤ x.mant.natAbs := by
  rw [normalMant_mul x]
  exact Nat.le_mul_of_pos_right _ (by positivity)

theorem value_eq_normal {x : Decimal} (hx : 0 ≤ x.mant) :
    x.value = x.normalMant * (10 : Rat) ^ x.normalExp := by
  have h : (x.mant : Rat) = (x.mant.natAbs : Rat) := by rw [Nat.cast_natAbs, abs_of_nonneg hx]
  have hn : (x.mant.natAbs : Rat) =
      x.normalMant * (10 : Rat) ^ padicValNat 10 x.mant.natAbs := by
    exact_mod_cast normalMant_mul x
  rw [value, h, hn, normalExp, zpow_add₀ (by norm_num), zpow_natCast]
  ring

theorem normalExp_le_leadExp (x : Decimal) : x.normalExp ≤ x.leadExp := by
  have h := Nat.length_toDigits_pos (b := 10) (n := x.normalMant)
  unfold leadExp
  omega

/-- Nothing is left of a number below half a unit, and something of any other. -/
theorem unitsAt_eq_zero_iff {n : Nat} (hn : 0 < n) (e : Int) (dp : Nat) :
    unitsAt dp ⟨n, e⟩ = 0 ↔ (n : Rat) * 10 ^ e < 1 / 2 / 10 ^ dp := by
  have h10 : (10 : Rat) ≠ 0 := by norm_num
  have hscale : (n : Rat) * 10 ^ e < 1 / 2 / 10 ^ dp ↔ (n : Rat) * 10 ^ (e + dp) < 1 / 2 := by
    rw [lt_div_iff₀ (by positivity), zpow_add₀ h10, zpow_natCast, mul_assoc]
  rw [hscale]
  unfold unitsAt
  simp only [Int.natAbs_natCast]
  split
  · rename_i h
    obtain ⟨t, ht⟩ : ∃ t : Nat, e + dp = t := ⟨(e + dp).toNat, by omega⟩
    rw [ht, Int.toNat_natCast, zpow_natCast]
    have h1 : 1 ≤ n * 10 ^ t := Nat.mul_pos hn (by positivity)
    constructor
    · intro h0
      omega
    · intro hlt
      have : (1 : Rat) ≤ n * 10 ^ t := by exact_mod_cast h1
      linarith
  · rename_i h
    obtain ⟨j, hj⟩ : ∃ j : Nat, e + dp = -((j + 1 : Nat) : Int) :=
      ⟨(-(e + dp)).toNat - 1, by omega⟩
    have htn : (-(e + dp)).toNat = j + 1 := by omega
    have hpos : 0 < 10 ^ (j + 1) := by positivity
    have heven : 10 ^ (j + 1) / 2 * 2 = 10 ^ (j + 1) := by
      rw [pow_succ]
      omega
    rw [htn, Nat.div_eq_zero_iff, hj, zpow_neg, zpow_natCast, ← div_eq_mul_inv,
      div_lt_iff₀ (by positivity)]
    constructor
    · intro h0
      have h2 : n * 2 < 10 ^ (j + 1) := by omega
      have : (n : Rat) * 2 < 10 ^ (j + 1) := by exact_mod_cast h2
      linarith
    · intro hlt
      have h2 : (n : Rat) * 2 < 10 ^ (j + 1) := by linarith
      have : n * 2 < 10 ^ (j + 1) := by exact_mod_cast h2
      omega

/-- A positive number is a whole number of `10 ^ -d` units exactly when its normal form has at
most `d` fraction digits. -/
theorem units_iff_normalExp {x : Decimal} (hx : 0 < x.mant) (d : Nat) :
    (∃ k : Nat, x.value = k / (10 : Rat) ^ d) ↔ -(d : Int) ≤ x.normalExp := by
  have h10 : (10 : Rat) ≠ 0 := by norm_num
  rw [value_eq_normal hx.le]
  constructor
  · rintro ⟨k, hk⟩
    by_contra hlt
    obtain ⟨j, hj⟩ : ∃ j : Nat, x.normalExp = -((d + 1 + j : Nat) : Int) :=
      ⟨(-x.normalExp).toNat - d - 1, by omega⟩
    rw [hj, zpow_neg, zpow_natCast, ← div_eq_mul_inv,
      div_eq_div_iff (by positivity) (by positivity)] at hk
    have hk' : x.normalMant * 10 ^ d = k * 10 ^ (d + 1 + j) := by exact_mod_cast hk
    have hm : x.normalMant = k * 10 ^ j * 10 := by
      have hpos : 0 < 10 ^ d := by positivity
      apply Nat.eq_of_mul_eq_mul_right hpos
      rw [hk', show d + 1 + j = d + (j + 1) by omega, pow_add, pow_succ]
      ring
    exact not_ten_dvd_normalMant hx.ne' ⟨k * 10 ^ j, by rw [hm]; ring⟩
  · intro h
    refine ⟨x.normalMant * 10 ^ (x.normalExp + d).toNat, ?_⟩
    have he : ((x.normalExp + d).toNat : Int) = x.normalExp + d := by omega
    have hp : (10 : Rat) ^ (x.normalExp + d).toNat = 10 ^ x.normalExp * 10 ^ d := by
      rw [← zpow_natCast, he, zpow_add₀ h10, zpow_natCast]
    rw [eq_div_iff (by positivity)]
    push_cast
    rw [hp]
    ring

theorem unitsAt_le (n : Nat) (e : Int) (dp : Nat) :
    (unitsAt dp ⟨n, e⟩ : Rat) ≤ n * 10 ^ e * 10 ^ dp + 1 / 2 := by
  have h10 : (10 : Rat) ≠ 0 := by norm_num
  have hscale : (n : Rat) * 10 ^ e * 10 ^ dp = n * 10 ^ (e + dp) := by
    rw [zpow_add₀ h10, zpow_natCast, mul_assoc]
  rw [hscale]
  unfold unitsAt
  simp only [Int.natAbs_natCast]
  split
  · rename_i h
    have he : ((e + dp).toNat : Int) = e + dp := by omega
    rw [← he, Int.toNat_natCast, zpow_natCast]
    push_cast
    linarith
  · rename_i h
    obtain ⟨j, hj⟩ : ∃ j : Nat, e + dp = -(j : Int) := ⟨(-(e + dp)).toNat, by omega⟩
    have htn : (-(e + dp)).toNat = j := by omega
    have hpos : (0 : Rat) < 10 ^ j := by positivity
    rw [htn, hj, zpow_neg, zpow_natCast, ← div_eq_mul_inv]
    have hmul : (n + 10 ^ j / 2) / 10 ^ j * 10 ^ j ≤ n + 10 ^ j / 2 := Nat.div_mul_le_self _ _
    have hhalf : 2 * (10 ^ j / 2) ≤ 10 ^ j := Nat.mul_div_le _ _
    have h1 : (((n + 10 ^ j / 2) / 10 ^ j : Nat) : Rat) * 10 ^ j ≤ n + (10 ^ j / 2 : Nat) := by
      exact_mod_cast hmul
    have h2 : 2 * ((10 ^ j / 2 : Nat) : Rat) ≤ 10 ^ j := by exact_mod_cast hhalf
    rw [← le_div_iff₀ hpos, add_div] at h1
    have h3 : ((10 ^ j / 2 : Nat) : Rat) / 10 ^ j ≤ 1 / 2 := by
      rw [div_le_iff₀ hpos]
      linarith
    linarith

/-- A number printed with leading exponent `e` is below `10 ^ (e + 1)`. -/
theorem value_lt_of_leadExp {x : Decimal} (hx : 0 ≤ x.mant) :
    x.value < (10 : Rat) ^ (x.leadExp + 1) := by
  have hl := Nat.length_toDigits_pos (b := 10) (n := x.normalMant)
  have hlt : (x.normalMant : Rat) < 10 ^ (Nat.toDigits 10 x.normalMant).length := by
    exact_mod_cast lt_pow_length_toDigits x.normalMant
  have he : x.leadExp + 1 = ((Nat.toDigits 10 x.normalMant).length : Int) + x.normalExp := by
    unfold leadExp
    omega
  rw [value_eq_normal hx, he, zpow_add₀ (by norm_num), zpow_natCast]
  exact mul_lt_mul_of_pos_right hlt (by positivity)

theorem le_value_of_leadExp {x : Decimal} (hx : 0 < x.mant) :
    (10 : Rat) ^ x.leadExp ≤ x.value := by
  have hl := Nat.length_toDigits_pos (b := 10) (n := x.normalMant)
  have hle : (10 : Rat) ^ ((Nat.toDigits 10 x.normalMant).length - 1) ≤ x.normalMant := by
    have hn := normalMant_pos hx.ne'
    rcases Nat.eq_or_lt_of_le hl with h1 | h1
    · rw [← h1]
      exact_mod_cast hn
    · have hnot : ¬ (Nat.toDigits 10 x.normalMant).length ≤
          (Nat.toDigits 10 x.normalMant).length - 1 := by omega
      rw [Nat.length_toDigits_le_iff (by decide) (by omega)] at hnot
      exact_mod_cast Nat.le_of_not_lt hnot
  have he : x.leadExp = ((Nat.toDigits 10 x.normalMant).length - 1 : Nat) + x.normalExp := by
    unfold leadExp
    omega
  rw [value_eq_normal hx.le, he, zpow_add₀ (by norm_num), zpow_natCast]
  exact mul_le_mul_of_nonneg_right hle (by positivity)

/-- Rounding to `p` significant digits leaves a normal form of at most `p` digits. -/
theorem roundSig_normalMant_lt {p : Nat} (hp : 0 < p) (x : Decimal) :
    (roundSig p x).normalMant < 10 ^ p := by
  have hlt := lt_pow_length_toDigits x.mant.natAbs
  unfold roundSig
  by_cases h : (Nat.toDigits 10 x.mant.natAbs).length ≤ p
  · rw [if_pos h]
    calc x.normalMant ≤ x.mant.natAbs := normalMant_le x
      _ < 10 ^ (Nat.toDigits 10 x.mant.natAbs).length := hlt
      _ ≤ 10 ^ p := Nat.pow_le_pow_right (by decide) h
  · rw [if_neg h]
    obtain ⟨k, hk⟩ : ∃ k, (Nat.toDigits 10 x.mant.natAbs).length = p + k :=
      ⟨(Nat.toDigits 10 x.mant.natAbs).length - p, by omega⟩
    have hk' : (Nat.toDigits 10 x.mant.natAbs).length - p = k := by omega
    rw [hk, pow_add] at hlt
    simp only [hk']
    have hq : (x.mant.natAbs + 10 ^ k / 2) / 10 ^ k ≤ 10 ^ p := by
      have hpos : 0 < 10 ^ k := by positivity
      have : x.mant.natAbs + 10 ^ k / 2 < (10 ^ p + 1) * 10 ^ k := by
        rw [Nat.add_mul, Nat.one_mul]
        omega
      exact Nat.lt_succ_iff.mp ((Nat.div_lt_iff_lt_mul hpos).mpr this)
    set q := (x.mant.natAbs + 10 ^ k / 2) / 10 ^ k with hqdef
    have habs : (x.mant.sign * (q : Int)).natAbs ≤ q := by
      rw [Int.natAbs_mul, Int.natAbs_natCast]
      have : x.mant.sign.natAbs ≤ 1 := by
        rcases lt_trichotomy x.mant 0 with h | h | h
        · simp [Int.sign_eq_neg_one_of_neg h]
        · simp [h]
        · simp [Int.sign_eq_one_of_pos h]
      calc x.mant.sign.natAbs * q ≤ 1 * q := Nat.mul_le_mul_right _ this
        _ = q := Nat.one_mul q
    have hpp : 1 < 10 ^ p := Nat.one_lt_pow hp.ne' (by decide)
    rcases Nat.lt_or_ge (x.mant.sign * (q : Int)).natAbs (10 ^ p) with hl | hg
    · exact lt_of_le_of_lt (normalMant_le _) hl
    · have heq : (x.mant.sign * (q : Int)).natAbs = 10 ^ p := by omega
      simp only [normalMant, heq, Nat.divMaxPow_base_pow (by decide : (10 : Nat) ≠ 0)]
      exact hpp

/-- Rounding to two digits or more takes at most a twentieth off. -/
theorem roundSig_value_ge {p : Nat} (hp : 2 ≤ p) {x : Decimal} (hx : 0 ≤ x.mant) :
    0 ≤ (roundSig p x).mant ∧ 19 * x.value ≤ 20 * (roundSig p x).value := by
  unfold roundSig
  dsimp only
  split
  · refine ⟨hx, ?_⟩
    have hvalue : 0 ≤ x.value := mul_nonneg (by exact_mod_cast hx) (by positivity)
    linarith
  · rename_i hlong
    obtain ⟨m, hm⟩ : ∃ m : Nat, x.mant = m := ⟨x.mant.toNat, (Int.toNat_of_nonneg hx).symm⟩
    have habs : x.mant.natAbs = m := by omega
    have hpos : m ≠ 0 := by
      rintro rfl
      simp [habs] at hlong
      omega
    have hsign : x.mant.sign = 1 := Int.sign_eq_one_of_pos (by omega)
    obtain ⟨k, hk⟩ : ∃ k, (Nat.toDigits 10 x.mant.natAbs).length = p + k :=
      ⟨(Nat.toDigits 10 x.mant.natAbs).length - p, by omega⟩
    -- the last digit that is kept stands for at most a tenth of the number
    have hdigits : 10 ^ (k + 1) ≤ m := by
      by_contra hlt
      have hlen := length_toDigits_le (Nat.succ_pos k) (not_le.mp hlt)
      rw [habs] at hk
      omega
    rw [hsign, hk, habs, one_mul, Nat.add_sub_cancel_left]
    refine ⟨Int.natCast_nonneg _, ?_⟩
    have hround : 19 * m ≤ 20 * ((m + 10 ^ k / 2) / 10 ^ k * 10 ^ k) := by
      have hdiv := Nat.div_add_mod (m + 10 ^ k / 2) (10 ^ k)
      have hmod : (m + 10 ^ k / 2) % 10 ^ k < 10 ^ k := Nat.mod_lt _ (by positivity)
      rw [pow_succ] at hdigits
      rw [Nat.mul_comm] at hdiv
      omega
    have hcast : (19 * m : Rat) ≤ 20 * (((m + 10 ^ k / 2) / 10 ^ k : Nat) * 10 ^ k) := by
      exact_mod_cast hround
    have hexp : (0 : Rat) < (10 : Rat) ^ x.exp := by positivity
    have hmul := mul_le_mul_of_nonneg_right hcast hexp.le
    unfold value
    rw [hm, zpow_add₀ (by norm_num), zpow_natCast, Int.cast_natCast, Int.cast_natCast]
    linarith

theorem mul_value_ge {x y : Decimal} (hx : 0 ≤ x.mant) (hy : 0 ≤ y.mant) :
    0 ≤ (mul x y).mant ∧ 19 * (x.value * y.value) ≤ 20 * (mul x y).value := by
  have hproduct : (⟨x.mant * y.mant, x.exp + y.exp⟩ : Decimal).value = x.value * y.value := by
    simp only [value, Int.cast_mul]
    rw [zpow_add₀ (by norm_num)]
    ring
  rw [← hproduct]
  exact roundSig_value_ge (by decide) (mul_nonneg hx hy)

theorem divNat_value_ge {x : Decimal} (hx : 0 < x.mant) {n : Nat} (hn : 0 < n)
    (hsq : n * n ≤ 10 ^ 40) : 19 * x.value ≤ 20 * ((n + 1) * (x.divNat n).value) := by
  have hquotient : (0 : Int) ≤ x.mant * 10 ^ 40 / n := by positivity
  obtain ⟨-, hround⟩ := roundSig_value_ge (p := precision) (by decide)
    (x := ⟨x.mant * 10 ^ 40 / n, x.exp - 40⟩) hquotient
  change 19 * _ ≤ 20 * (x.divNat n).value at hround
  -- a quotient of at least `n` is cut short by less than an `n`-th
  have hlarge : x.mant * 10 ^ 40 ≤ (n + 1) * (x.mant * 10 ^ 40 / n) := by
    have hle : (n : Int) ≤ x.mant * 10 ^ 40 / n := by
      rw [Int.le_ediv_iff_mul_le (by omega)]
      have hsq' : (n : Int) * n ≤ 10 ^ 40 := by exact_mod_cast hsq
      omega
    have hdiv := Int.mul_ediv_add_emod (x.mant * 10 ^ 40) n
    have hmod := Int.emod_lt_of_pos (x.mant * 10 ^ 40) (by omega : (0 : Int) < n)
    rw [add_mul, one_mul]
    omega
  have hcast : (x.mant * 10 ^ 40 : Rat) ≤ (n + 1) * ((x.mant * 10 ^ 40 / n : Int) : Rat) := by
    exact_mod_cast hlarge
  have hexp : (0 : Rat) ≤ (10 : Rat) ^ (x.exp - 40) := by positivity
  have hvalue : x.value = x.mant * 10 ^ 40 * (10 : Rat) ^ (x.exp - 40) := by
    rw [value, mul_assoc, ← zpow_natCast, ← zpow_add₀ (by norm_num)]
    congr 2
    push_cast
    ring
  have hmul := mul_le_mul_of_nonneg_right hcast hexp
  have hn' : (0 : Rat) ≤ n + 1 := by positivity
  have hscaled := mul_le_mul_of_nonneg_left hround hn'
  simp only [value] at hscaled hvalue ⊢
  rw [hvalue]
  calc 19 * (x.mant * 10 ^ 40 * (10 : Rat) ^ (x.exp - 40))
      ≤ 19 * ((n + 1) * ((x.mant * 10 ^ 40 / n : Int) : Rat) * (10 : Rat) ^ (x.exp - 40)) := by
        linarith
    _ = (n + 1) * (19 * (((x.mant * 10 ^ 40 / n : Int) : Rat) * (10 : Rat) ^ (x.exp - 40))) := by
        ring
    _ ≤ (n + 1) * (20 * ((x.divNat n).mant * (10 : Rat) ^ (x.divNat n).exp)) := hscaled
    _ = 20 * ((n + 1) * ((x.divNat n).mant * (10 : Rat) ^ (x.divNat n).exp)) := by ring

/-- A number from one on has a positive whole part. -/
theorem floor_pos {x : Decimal} (hx : 1 ≤ x.value) : 0 < x.floor := by
  unfold floor
  split
  · rename_i hexp
    obtain ⟨k, hk⟩ := Int.eq_ofNat_of_zero_le hexp
    rw [value, hk, zpow_natCast] at hx
    rw [hk, Int.toNat_natCast]
    have hint : (1 : Int) ≤ x.mant * 10 ^ k := by exact_mod_cast hx
    omega
  · rename_i hexp
    obtain ⟨k, hk⟩ := Int.eq_ofNat_of_zero_le (by omega : 0 ≤ -x.exp)
    have hexp' : x.exp = -(k : Int) := by omega
    rw [value, hexp', zpow_neg, zpow_natCast, ← div_eq_mul_inv,
      le_div_iff₀ (by positivity), one_mul] at hx
    have hint : (10 : Int) ^ k ≤ x.mant := by exact_mod_cast hx
    rw [hk, Int.toNat_natCast]
    exact Int.lt_of_add_one_le ((Int.le_ediv_iff_mul_le (by positivity)).mpr (by omega))

end Decimal
