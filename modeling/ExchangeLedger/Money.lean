import ExchangeLedger.Decimal
import ExchangeLedger.Schema

set_option autoImplicit false

/-! Conversion between decimal texts and base units. -/

namespace ExchangeLedger

def FIAT_DECIMALS : Currency → Option Nat
  | .ngn | .usd => some 2
  | _ => none

def CRYPTO_DECIMALS : Currency → Option Nat
  | .btc => some 8
  | .eth => some 18
  | .usdt => some 6
  | .usdc => some 6
  | .bnb => some 18
  | .doge => some 8
  | .xrp => some 6
  | .sol => some 9
  | .link => some 18
  | .trx => some 6
  | .ngn | .usd => none

def CURRENCY_PRECISION : Currency → List (CryptoNetwork × Nat)
  | .bnb => [(.bep20, 18)]
  | .btc => [(.btc, 8), (.bep20, 18)]
  | .usdt => [(.bep20, 18), (.erc20, 6), (.trc20, 6), (.polygon, 6), (.solana, 6), (.celo, 6),
      (.optimism, 6), (.ton, 6)]
  | .usdc => [(.bep20, 18), (.erc20, 6), (.trc20, 6), (.polygon, 6), (.solana, 6), (.base, 6)]
  | .eth => [(.erc20, 18), (.bep20, 18), (.base, 18)]
  | .trx => [(.trc20, 6)]
  | .sol => [(.solana, 9), (.bep20, 18)]
  | .doge => [(.doge, 8)]
  | .xrp => [(.ripple, 6)]
  | .link => [(.bep20, 18)]
  | .ngn | .usd => []

def getCurrencyDecimals (currency : Currency) (network : Option CryptoNetwork) :
    Except String Nat :=
  match FIAT_DECIMALS currency with
  | some d => .ok d
  | none =>
    if CURRENCY_PRECISION currency = [] then
      match CRYPTO_DECIMALS currency with
      | some d => .ok d
      | none => .error "Decimals not defined for currency"
    else match network with
      | none => .error "requires a network to determine decimals"
      | some n =>
        match (CURRENCY_PRECISION currency).find? (fun p => p.1 = n) with
        | some p => .ok p.2
        | none => .error "not supported on network"

namespace ConvertCurrency

/-- The process-wide cache of default networks, by currency. -/
abbrev DefaultNetworkCache := Currency → Option CryptoNetwork

def getCachedDefaultNetwork (cache : DefaultNetworkCache) (currency : Currency) :
    Option CryptoNetwork :=
  (cache currency).or ((CURRENCY_PRECISION currency).head?.map Prod.fst)

def getDecimals (cache : DefaultNetworkCache) (currency : Currency) : Except String Nat :=
  getCurrencyDecimals currency (getCachedDefaultNetwork cache currency)

/-- The code points that `String.prototype.trim` removes. -/
def spaces : List Nat :=
  [9, 10, 11, 12, 13, 32, 160, 5760, 8192, 8193, 8194, 8195, 8196, 8197, 8198, 8199, 8200, 8201,
    8202, 8232, 8233, 8239, 8287, 12288, 65279]

def isSpace (c : Char) : Bool := spaces.contains c.toNat

def trim (s : Text) : Text := (s.dropWhile isSpace).rdropWhile isSpace

/-- Scientific notation is first rewritten to plain notation with ten extra digits. -/
def normalize (decimals : Nat) (amount : Text) : Except String Text :=
  match Decimal.splitExponent (trim amount) with
  | none => .ok (trim amount)
  | some _ =>
    match Decimal.parse (trim amount) with
    | none => .error "Invalid scientific notation format"
    | some num =>
      let s := Decimal.trimZeros (num.toFixed (decimals + 10))
      .ok (if s = [] ∨ s = ['-'] then ['0'] else s)

def unsignedToBase (decimals : Nat) (s : Text) : Except String Nat :=
  match Decimal.splitPoint s with
  | none => .error "Invalid amount format"
  | some (whole, fraction) =>
    if decimals < fraction.length then .error "supports at most the currency's decimal places"
    else .ok (Decimal.readNat whole * 10 ^ decimals +
      Decimal.readNat (fraction ++ List.replicate (decimals - fraction.length) '0'))

def toBaseUnits (decimals : Nat) (amount : Text) : Except String Int := do
  match ← normalize decimals amount with
  | '-' :: s => return -(← unsignedToBase decimals s : Nat)
  | s => return (← unsignedToBase decimals s : Nat)

def toBase (cache : DefaultNetworkCache) (amount : Text) (currency : Currency) :
    Except String Int := do
  toBaseUnits (← getDecimals cache currency) amount

def fromBaseUnits (decimals : Nat) (fiat : Bool) (amount : Int) : Text :=
  let whole := Nat.toDigits 10 (amount.natAbs / 10 ^ decimals)
  let fraction := Decimal.padded decimals (amount.natAbs % 10 ^ decimals)
  let result :=
    if fiat then whole ++ '.' :: (fraction.take 2 ++
      List.replicate (2 - (fraction.take 2).length) '0')
    else
      let fraction := fraction.rdropWhile (· == '0')
      if fraction = [] then whole else whole ++ '.' :: fraction
  if amount < 0 then '-' :: result else result

def fromBase (cache : DefaultNetworkCache) (amount : Int) (currency : Currency)
    (network : Option CryptoNetwork) : Except String Text := do
  let decimals ← getCurrencyDecimals currency (network.or (getCachedDefaultNetwork cache currency))
  return fromBaseUnits decimals (FIAT_DECIMALS currency).isSome amount

theorem trim_eq_self {s : Text} (h : ∀ c ∈ s, isSpace c = false) : trim s = s := by
  have h1 : s.dropWhile isSpace = s := by
    cases s with
    | nil => rfl
    | cons c s => simp [h c (by simp)]
  rw [trim, h1, List.rdropWhile_eq_self_iff]
  intro hl
  simp [h _ (List.getLast_mem hl)]

theorem trim_trim (s : Text) : trim (trim s) = trim s := by
  have hhead : (trim s).dropWhile isSpace = trim s := by
    rw [List.dropWhile_eq_self_iff]
    intro hl
    have hstart : trim s <+: s.dropWhile isSpace := List.rdropWhile_prefix isSpace _
    have hlong : 0 < (s.dropWhile isSpace).length := lt_of_lt_of_le hl hstart.length_le
    rw [hstart.getElem hl]
    exact List.dropWhile_get_zero_not isSpace s hlong
  rw [show trim (trim s) = ((trim s).dropWhile isSpace).rdropWhile isSpace from rfl, hhead]
  exact List.rdropWhile_idempotent isSpace _

theorem isSpace_of_isDigit {c : Char} (h : c.isDigit = true) : isSpace c = false := by
  simp only [Char.isDigit, Bool.and_eq_true, decide_eq_true_eq] at h
  have h1 : 48 ≤ c.toNat := h.1
  have h2 : c.toNat ≤ 57 := h.2
  simp only [isSpace, spaces, List.contains_eq_mem, List.mem_cons, List.not_mem_nil, or_false,
    decide_eq_false_iff_not]
  omega

theorem normalize_of_plain (decimals : Nat) {s : Text} (hs : ∀ c ∈ s, isSpace c = false)
    (he : Decimal.splitExponent s = none) : normalize decimals s = .ok s := by
  simp only [normalize, trim_eq_self hs, he]

theorem isSpace_point : isSpace '.' = false := by decide

theorem pointText_not_space {n k : Nat} {c : Char} (h : c ∈ Decimal.pointText n k) :
    isSpace c = false := by
  unfold Decimal.pointText at h
  split at h
  · exact isSpace_of_isDigit (Decimal.toDigits_isDigit h)
  · rcases List.mem_append.mp h with h | h
    · exact isSpace_of_isDigit (Decimal.toDigits_isDigit h)
    · rcases List.mem_cons.mp h with rfl | h
      · exact isSpace_point
      · exact isSpace_of_isDigit (Decimal.padded_isDigit h)

theorem toBaseUnits_of_negative {decimals : Nat} {s t : Text}
    (hn : normalize decimals s = .ok ('-' :: t)) :
    toBaseUnits decimals s = (unsignedToBase decimals t).map fun n : Nat => -(n : Int) := by
  simp only [toBaseUnits, hn]
  change Except.bind _ _ = _
  simp only [Except.bind]
  cases unsignedToBase decimals t <;> rfl

theorem toBaseUnits_of_nonnegative {decimals : Nat} {s t : Text}
    (hn : normalize decimals s = .ok t) (hneg : ∀ r, t ≠ '-' :: r) :
    toBaseUnits decimals s = (unsignedToBase decimals t).map Nat.cast := by
  have hbind : toBaseUnits decimals s =
      (unsignedToBase decimals t).bind fun n => .ok (n : Int) := by
    simp only [toBaseUnits, hn]
    show Except.bind _ _ = _
    simp only [Except.bind]
    rfl
  rw [hbind]
  cases unsignedToBase decimals t <;> rfl

theorem toBaseUnits_of_unsigned {decimals : Nat} {s t : Text} {w f : List Char}
    (hn : normalize decimals s = .ok t) (hp : Decimal.splitPoint t = some (w, f)) :
    toBaseUnits decimals s = (unsignedToBase decimals t).map Nat.cast := by
  refine toBaseUnits_of_nonnegative hn ?_
  rintro r rfl
  simp [Decimal.splitPoint] at hp

theorem unsignedToBase_pointText (decimals n k : Nat) :
    unsignedToBase decimals (Decimal.pointText n k) =
      if k ≤ decimals then .ok (n * 10 ^ (decimals - k))
      else .error "supports at most the currency's decimal places" := by
  obtain ⟨w, f, hp, hl, hv⟩ := Decimal.splitPoint_pointText n k
  simp only [unsignedToBase, hp, hl]
  by_cases h : k ≤ decimals
  · rw [if_neg (by omega), if_pos h, Decimal.readNat_append, Decimal.readNat_zeros,
      List.length_replicate]
    congr 1
    rw [← hv, Nat.add_mul, Nat.mul_assoc, ← pow_add, Nat.add_sub_cancel' h]
    omega
  · rw [if_pos (by omega), if_neg h]

theorem plain_not_space {s w f : Text} (hp : Decimal.splitPoint s = some (w, f)) {c : Char}
    (hc : c ∈ s) : isSpace c = false := by
  obtain ⟨-, hw, hf, hs⟩ := Decimal.splitPoint_eq_some hp
  rcases hs with ⟨rfl, -⟩ | ⟨rfl, -⟩
  · exact isSpace_of_isDigit (hw c hc)
  · rcases List.mem_append.mp hc with hc | hc
    · exact isSpace_of_isDigit (hw c hc)
    · rcases List.mem_cons.mp hc with rfl | hc
      · exact isSpace_point
      · exact isSpace_of_isDigit (hf c hc)

theorem unsignedToBase_plain {decimals : Nat} {s w f : Text}
    (hp : Decimal.splitPoint s = some (w, f)) (hf : f.length ≤ decimals) :
    unsignedToBase decimals s =
      .ok (Decimal.readNat (w ++ f) * 10 ^ (decimals - f.length)) := by
  simp only [unsignedToBase, hp]
  rw [if_neg (by omega), Decimal.readNat_append w, Decimal.readNat_append f,
    Decimal.readNat_zeros, List.length_replicate, Nat.add_mul, Nat.mul_assoc, ← pow_add,
    Nat.add_sub_cancel' hf]
  rfl

theorem toBaseUnits_plain {decimals : Nat} {s : Text} {w f : List Char}
    (hp : Decimal.splitPoint s = some (w, f)) (hf : f.length ≤ decimals) :
    toBaseUnits decimals s =
      .ok ((Decimal.readNat (w ++ f) * 10 ^ (decimals - f.length) : Nat) : Int) := by
  have hn := normalize_of_plain decimals (fun c hc => plain_not_space hp hc)
    (Decimal.splitExponent_plain hp).1
  rw [toBaseUnits_of_unsigned hn hp, unsignedToBase_plain hp hf]
  rfl

theorem toBaseUnits_pointText (decimals n k : Nat) :
    toBaseUnits decimals (Decimal.pointText n k) =
      if k ≤ decimals then .ok ((n * 10 ^ (decimals - k) : Nat) : Int)
      else .error "supports at most the currency's decimal places" := by
  obtain ⟨w, f, hp, -, -⟩ := Decimal.splitPoint_pointText n k
  have hn : normalize decimals (Decimal.pointText n k) = .ok (Decimal.pointText n k) :=
    normalize_of_plain decimals (fun c hc => pointText_not_space hc)
      (Decimal.splitExponent_pointText n k)
  rw [toBaseUnits_of_unsigned hn hp, unsignedToBase_pointText]
  split <;> rfl

theorem exponential_not_space {n : Nat} {e : Int} {c : Char}
    (h : c ∈ Decimal.mantissaText (Nat.toDigits 10 n) ++ Decimal.exponentText e) :
    isSpace c = false := by
  rcases List.mem_append.mp h with h | h
  · have hd : c ∈ Nat.toDigits 10 n ∨ c = '.' := by
      revert h
      generalize Nat.toDigits 10 n = ds
      match ds with
      | [] => simp [Decimal.mantissaText]
      | [d] => simpa [Decimal.mantissaText] using Or.inl
      | d :: d' :: ds =>
        simp only [Decimal.mantissaText, List.mem_cons]
        tauto
    rcases hd with h | rfl
    · exact isSpace_of_isDigit (Decimal.toDigits_isDigit h)
    · exact isSpace_point
  · simp only [Decimal.exponentText, List.mem_cons] at h
    rcases h with rfl | rfl | h
    · decide
    · split <;> decide
    · exact isSpace_of_isDigit (Decimal.toDigits_isDigit h)

/-- The digits that are left of a number rounded to ten extra digits are accepted exactly when the
extra ones are zeros. -/
theorem unsignedToBase_rounded {decimals j q u : Nat} (hj : j ≤ decimals + 10)
    (hu : u = 10 ^ (decimals + 10 - j) * q) (hq : j = 0 ∨ ¬ 10 ∣ q) :
    unsignedToBase decimals (Decimal.pointText q j) =
      if 10 ^ 10 ∣ u then .ok (u / 10 ^ 10)
      else .error "supports at most the currency's decimal places" := by
  rw [unsignedToBase_pointText]
  by_cases hjd : j ≤ decimals
  · have hdvd : u = 10 ^ 10 * (10 ^ (decimals - j) * q) := by
      rw [hu, ← Nat.mul_assoc, ← pow_add]
      congr 2
      omega
    rw [if_pos hjd, if_pos ⟨_, hdvd⟩, hdvd, Nat.mul_div_cancel_left _ (by decide), Nat.mul_comm]
  · have hndvd : ¬ 10 ^ 10 ∣ u := by
      rintro ⟨r, hr⟩
      have hq' : ¬ 10 ∣ q := hq.resolve_left (by omega)
      apply hq'
      have hpos : 0 < 10 ^ (decimals + 10 - j) := by positivity
      refine ⟨10 ^ (10 - 1 - (decimals + 10 - j)) * r, ?_⟩
      apply Nat.eq_of_mul_eq_mul_left hpos
      rw [← hu, hr]
      have hexp : 10 = (decimals + 10 - j) + 1 + (10 - 1 - (decimals + 10 - j)) := by omega
      calc 10 ^ 10 * r = 10 ^ ((decimals + 10 - j) + 1 + (10 - 1 - (decimals + 10 - j))) * r := by
            rw [← hexp]
        _ = 10 ^ (decimals + 10 - j) * (10 * (10 ^ (10 - 1 - (decimals + 10 - j)) * r)) := by
            rw [pow_add, pow_add]
            ring
    rw [if_neg hjd, if_neg hndvd]

theorem pointText_ne (m k : Nat) :
    Decimal.pointText m k ≠ [] ∧ ∀ r, Decimal.pointText m k ≠ '-' :: r := by
  obtain ⟨w, f, hp, -, -⟩ := Decimal.splitPoint_pointText m k
  constructor
  · intro h0
    simp [h0, Decimal.splitPoint] at hp
  · intro r h0
    simp [h0, Decimal.splitPoint] at hp

/-- Scientific notation is accepted exactly when rounding to ten extra digits leaves a whole
number of base units. -/
theorem toBaseUnits_scientific {decimals : Nat} {s : Text} {x : Decimal}
    (hexp : Decimal.splitExponent (trim s) ≠ none) (hx : Decimal.parse (trim s) = some x) :
    toBaseUnits decimals s =
      if 10 ^ 10 ∣ Decimal.unitsAt (decimals + 10) x then
        .ok (if x.mant < 0 then -((Decimal.unitsAt (decimals + 10) x / 10 ^ 10 : Nat) : Int)
          else ((Decimal.unitsAt (decimals + 10) x / 10 ^ 10 : Nat) : Int))
      else .error "supports at most the currency's decimal places" := by
  generalize hU : Decimal.unitsAt (decimals + 10) x = u
  obtain ⟨j, q, hj, hu, ht, hq⟩ := Decimal.trimZeros_pointText u (k := decimals + 10) (by omega)
  obtain ⟨m, hm⟩ := Option.ne_none_iff_exists'.mp hexp
  obtain ⟨hne, hminus⟩ := pointText_ne q j
  have hn : normalize decimals s = .ok (x.signed (Decimal.pointText q j)) := by
    simp only [normalize, hm, hx, Decimal.toFixed, hU]
    unfold Decimal.signed
    split
    · simp [Decimal.trimZeros_minus, ht, hne]
    · rw [ht, if_neg (by simp [hne, hminus])]
  have hround := unsignedToBase_rounded hj hu hq
  unfold Decimal.signed at hn
  by_cases hneg : x.mant < 0
  · rw [if_pos hneg] at hn
    rw [toBaseUnits_of_negative hn, hround, if_pos hneg]
    split <;> rfl
  · rw [if_neg hneg] at hn
    rw [toBaseUnits_of_nonnegative hn hminus, hround, if_neg hneg]
    split <;> rfl

theorem toBaseUnits_exponential (decimals n : Nat) (e : Int) :
    toBaseUnits decimals
        (Decimal.mantissaText (Nat.toDigits 10 n) ++ Decimal.exponentText e) =
      if 10 ^ 10 ∣ Decimal.unitsAt (decimals + 10)
        ⟨n, e - ((Nat.toDigits 10 n).length - 1 : Nat)⟩
      then .ok ((Decimal.unitsAt (decimals + 10)
        ⟨n, e - ((Nat.toDigits 10 n).length - 1 : Nat)⟩ / 10 ^ 10 : Nat) : Int)
      else .error "supports at most the currency's decimal places" := by
  have htrim : trim (Decimal.mantissaText (Nat.toDigits 10 n) ++ Decimal.exponentText e) =
      Decimal.mantissaText (Nat.toDigits 10 n) ++ Decimal.exponentText e :=
    trim_eq_self fun c hc => exponential_not_space hc
  have hexp : Decimal.splitExponent
      (trim (Decimal.mantissaText (Nat.toDigits 10 n) ++ Decimal.exponentText e)) ≠ none := by
    simp [htrim, Decimal.splitExponent_exponentText]
  have hparse : Decimal.parse
      (trim (Decimal.mantissaText (Nat.toDigits 10 n) ++ Decimal.exponentText e)) =
        some ⟨n, e - ((Nat.toDigits 10 n).length - 1 : Nat)⟩ := by
    rw [htrim, Decimal.parse_exponential]
  have hneg : ¬ (n : Int) < 0 := by omega
  rw [toBaseUnits_scientific hexp hparse]
  simp only [hneg, if_false]

theorem toBaseUnits_toText_iff {x : Decimal} (hx : 0 < x.mant) (decimals : Nat) :
    (∃ v, toBaseUnits decimals x.toText = .ok v) ↔
      if x.leadExp ≤ -7 ∨ 21 ≤ x.leadExp then
        10 ^ 10 ∣ Decimal.unitsAt (decimals + 10) ⟨x.normalMant, x.normalExp⟩
      else -(decimals : Int) ≤ x.normalExp := by
  have hneg : ¬ x.mant < 0 := by omega
  have hl := Nat.length_toDigits_pos (b := 10) (n := x.normalMant)
  by_cases he : x.leadExp ≤ -7 ∨ 21 ≤ x.leadExp
  · have hexp : x.leadExp - ((Nat.toDigits 10 x.normalMant).length - 1 : Nat) = x.normalExp := by
      unfold Decimal.leadExp
      omega
    simp only [Decimal.toText, hx.ne', if_false, he, if_true, Decimal.signed, hneg,
      toBaseUnits_exponential, hexp]
    split <;> simp_all
  · simp only [Decimal.toText, hx.ne', if_false, he, Decimal.signed, hneg,
      Decimal.plainText_eq_pointText, toBaseUnits_pointText]
    split <;> simp <;> omega

theorem toBaseUnits_toText_pos {x : Decimal} (hx : 0 < x.mant) {decimals : Nat} {v : Int}
    (h : toBaseUnits decimals x.toText = .ok v) :
    0 < v ↔ 1 / 2 / (10 : Rat) ^ (decimals + 10) ≤ x.value := by
  have hneg : ¬ x.mant < 0 := by omega
  have hnpos := Decimal.normalMant_pos hx.ne'
  have hval := Decimal.value_eq_normal hx.le
  by_cases he : x.leadExp ≤ -7 ∨ 21 ≤ x.leadExp
  · have hl := Nat.length_toDigits_pos (b := 10) (n := x.normalMant)
    have hexp : x.leadExp - ((Nat.toDigits 10 x.normalMant).length - 1 : Nat) = x.normalExp := by
      unfold Decimal.leadExp
      omega
    have hzero := Decimal.unitsAt_eq_zero_iff hnpos x.normalExp (decimals + 10)
    rw [← hval] at hzero
    simp only [Decimal.toText, hx.ne', if_false, he, if_true, Decimal.signed, hneg,
      toBaseUnits_exponential, hexp] at h
    split at h
    · rename_i hdvd
      cases h
      rw [← not_lt, ← hzero]
      have hle := Nat.div_pos_iff (a := Decimal.unitsAt (decimals + 10) ⟨x.normalMant, x.normalExp⟩)
        (b := 10 ^ 10)
      constructor
      · intro hp h0
        rw [h0] at hp
        simp at hp
      · intro h0
        exact_mod_cast hle.mpr ⟨by decide, Nat.le_of_dvd (by omega) hdvd⟩
    · cases h
  · have hge : (10 : Rat) ^ (-6 : Int) ≤ x.value :=
      le_trans (zpow_le_zpow_right₀ (by norm_num) (by omega)) (Decimal.le_value_of_leadExp hx)
    have hsmall : 1 / 2 / (10 : Rat) ^ (decimals + 10) ≤ x.value := by
      have h1 : (1 : Rat) / 2 / 10 ^ (decimals + 10) ≤ 10 ^ (-6 : Int) := by
        rw [pow_add, div_le_iff₀ (by positivity)]
        have h2 : (1 : Rat) ≤ 10 ^ decimals := one_le_pow₀ (by norm_num)
        norm_num
        linarith
      exact h1.trans hge
    simp only [Decimal.toText, hx.ne', if_false, he, Decimal.signed, hneg,
      Decimal.plainText_eq_pointText, toBaseUnits_pointText] at h
    split at h
    · cases h
      refine ⟨fun _ => hsmall, fun _ => ?_⟩
      have hpos : 0 < x.normalMant * 10 ^ x.normalExp.toNat *
          10 ^ (decimals - (-x.normalExp).toNat) := by positivity
      exact_mod_cast hpos
    · cases h

theorem toBaseUnits_zero (decimals : Nat) : toBaseUnits decimals ['0'] = .ok 0 := by
  have h := toBaseUnits_pointText decimals 0 0
  simpa [Decimal.pointText, Nat.toDigits_zero] using h

/-- With two decimals a printed number is accepted when it is a whole number of hundredths, and
also when it is so small that the rewriting of its scientific notation rounds it to zero. -/
theorem toBaseUnits_two_toText_iff {x : Decimal} (hx : 0 ≤ x.mant)
    (hn : x.normalMant < 10 ^ Decimal.precision) :
    (∃ v, toBaseUnits 2 x.toText = .ok v) ↔
      (∃ k : Nat, x.value = k / (10 : Rat) ^ 2) ∨ x.value < 5 / 10 ^ 13 := by
  rcases hx.eq_or_lt with h0 | hpos
  · have hv : x.value = 0 := by simp [Decimal.value, ← h0]
    have ht : x.toText = ['0'] := by simp [Decimal.toText, ← h0]
    rw [ht, hv, toBaseUnits_zero]
    exact ⟨fun _ => .inl ⟨0, by simp⟩, fun _ => ⟨0, rfl⟩⟩
  · rw [toBaseUnits_toText_iff hpos, Decimal.units_iff_normalExp hpos]
    have hlow := Decimal.normalExp_le_leadExp x
    have hval := Decimal.value_eq_normal hx
    have hnpos := Decimal.normalMant_pos hpos.ne'
    by_cases hsmall : x.leadExp ≤ -7
    · have hlt : x.value < (10 : Rat) ^ (-6 : Int) :=
        lt_of_lt_of_le (Decimal.value_lt_of_leadExp hx)
          (zpow_le_zpow_right₀ (by norm_num) (by omega))
      have hle : (Decimal.unitsAt 12 ⟨x.normalMant, x.normalExp⟩ : Rat) < 10 ^ 10 := by
        have h := Decimal.unitsAt_le x.normalMant x.normalExp 12
        rw [← hval] at h
        have h6 : (10 : Rat) ^ (-6 : Int) = 1 / 10 ^ 6 := by norm_num
        rw [h6] at hlt
        linarith
      have hle' : Decimal.unitsAt 12 ⟨x.normalMant, x.normalExp⟩ < 10 ^ 10 := by exact_mod_cast hle
      have hzero : 10 ^ 10 ∣ Decimal.unitsAt 12 ⟨x.normalMant, x.normalExp⟩ ↔
          Decimal.unitsAt 12 ⟨x.normalMant, x.normalExp⟩ = 0 :=
        ⟨fun h => Nat.eq_zero_of_dvd_of_lt h hle', fun h => h ▸ dvd_zero _⟩
      rw [if_pos (.inl hsmall), hzero, Decimal.unitsAt_eq_zero_iff hnpos, ← hval]
      have hnot : ¬ (-((2 : Nat) : Int) ≤ x.normalExp) := by omega
      have hc : (1 : Rat) / 2 / 10 ^ 12 = 5 / 10 ^ 13 := by norm_num
      rw [hc]
      tauto
    · have hge : (10 : Rat) ^ (-6 : Int) ≤ x.value :=
        le_trans (zpow_le_zpow_right₀ (by norm_num) (by omega)) (Decimal.le_value_of_leadExp hpos)
      have hnlt : ¬ x.value < 5 / 10 ^ 13 := by
        have h6 : (10 : Rat) ^ (-6 : Int) = 1 / 10 ^ 6 := by norm_num
        rw [h6] at hge
        intro hlt
        linarith
      by_cases hbig : 21 ≤ x.leadExp
      · have hlen : (Nat.toDigits 10 x.normalMant).length ≤ Decimal.precision :=
          Decimal.length_toDigits_le (by decide) hn
        have hne : 2 ≤ x.normalExp := by
          unfold Decimal.leadExp at hbig
          unfold Decimal.precision at hlen
          omega
        have hdvd : 10 ^ 10 ∣ Decimal.unitsAt 12 ⟨x.normalMant, x.normalExp⟩ := by
          have htn : (x.normalExp + (12 : Nat)).toNat = 10 + (x.normalExp + 2).toNat := by omega
          simp only [Decimal.unitsAt, Int.natAbs_natCast]
          rw [if_pos (by omega), htn, pow_add]
          exact Dvd.intro_left (x.normalMant * 10 ^ (x.normalExp + 2).toNat) (by ring)
        rw [if_pos (.inr hbig)]
        exact ⟨fun _ => .inl (by omega), fun _ => hdvd⟩
      · rw [if_neg (by omega)]
        exact ⟨.inl, fun h => h.resolve_right hnlt⟩

end ConvertCurrency

end ExchangeLedger
