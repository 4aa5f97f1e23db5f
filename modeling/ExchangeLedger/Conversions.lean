import ExchangeLedger.Money

set_option autoImplicit false

/-! The conversions with their optional third argument, and the numbers that their texts denote. -/

namespace ExchangeLedger

namespace ConvertCurrency

/-- The optional third argument of the conversions. -/
inductive DecimalsOrNetwork where
  | decimals (d : Nat)
  | network (n : CryptoNetwork)
  deriving DecidableEq, Repr

def decimalsFor (cache : DefaultNetworkCache) (currency : Currency) :
    Option DecimalsOrNetwork → Except String Nat
  | some (.decimals d) => .ok d
  | some (.network n) => getCurrencyDecimals currency (some n)
  | none => getDecimals cache currency

def toBaseAt (cache : DefaultNetworkCache) (amount : Text) (currency : Currency)
    (decimalsOrNetwork : Option DecimalsOrNetwork) : Except String Int := do
  toBaseUnits (← decimalsFor cache currency decimalsOrNetwork) amount

def fromBaseAt (cache : DefaultNetworkCache) (amount : Int) (currency : Currency)
    (decimalsOrNetwork : Option DecimalsOrNetwork) : Except String Text := do
  let decimals ← decimalsFor cache currency decimalsOrNetwork
  return fromBaseUnits decimals (FIAT_DECIMALS currency).isSome amount

/-- A number below one keeps its zero, and zero is written with two decimals. -/
def formatUnits (decimals : Nat) (amount : Int) : Text :=
  let whole := amount.natAbs / 10 ^ decimals
  let fraction := (Decimal.padded decimals (amount.natAbs % 10 ^ decimals)).rdropWhile (· == '0')
  let result :=
    if whole = 0 then if fraction = [] then ['0', '.', '0', '0'] else '0' :: '.' :: fraction
    else if fraction = [] then Nat.toDigits 10 whole
    else Nat.toDigits 10 whole ++ '.' :: fraction
  if amount < 0 then '-' :: result else result

def formatCryptoForQuote (cache : DefaultNetworkCache) (amount : Int) (currency : Currency)
    (decimalsOrNetwork : Option DecimalsOrNetwork) : Except String Text := do
  return formatUnits (← decimalsFor cache currency decimalsOrNetwork) amount

theorem fromBaseAt_network (cache : DefaultNetworkCache) (amount : Int) (currency : Currency)
    (network : Option CryptoNetwork) :
    fromBaseAt cache amount currency (network.map .network) =
      fromBase cache amount currency network := by
  cases network <;> rfl

section Resolved

variable {cache : DefaultNetworkCache} {currency : Currency} {scale : Option DecimalsOrNetwork}
  {d : Nat}

theorem toBaseAt_of_decimals (h : decimalsFor cache currency scale = .ok d) (amount : Text) :
    toBaseAt cache amount currency scale = toBaseUnits d amount := by
  rw [toBaseAt, h]
  rfl

theorem fromBaseAt_of_decimals (h : decimalsFor cache currency scale = .ok d) (amount : Int) :
    fromBaseAt cache amount currency scale =
      .ok (fromBaseUnits d (FIAT_DECIMALS currency).isSome amount) := by
  rw [fromBaseAt, h]
  rfl

theorem formatCryptoForQuote_of_decimals (h : decimalsFor cache currency scale = .ok d)
    (amount : Int) :
    formatCryptoForQuote cache amount currency scale = .ok (formatUnits d amount) := by
  rw [formatCryptoForQuote, h]
  rfl

end Resolved

/-! ### The number a text denotes -/

def numberOf (s : Text) : Option Rat := (Decimal.parse s).map Decimal.value

theorem numberOf_plain {n d : Nat} {s f : Text} (h : Decimal.Writes n d s f) :
    numberOf s = some (n / (10 : Rat) ^ d) := by
  have hvalue := h.value
  obtain ⟨w, hs, -⟩ := h
  rw [numberOf, Decimal.parse_plain hs, ← Decimal.parseUnsigned_plain hs, hvalue]

theorem numberOf_negative {n d : Nat} {s f : Text} (h : Decimal.Writes n d s f) :
    numberOf ('-' :: s) = some (-(n / (10 : Rat) ^ d)) := by
  obtain ⟨x, hx, hvalue⟩ := Option.map_eq_some_iff.mp h.value
  have hneg : Decimal.value ⟨-x.mant, x.exp⟩ = -x.value := by
    simp only [Decimal.value, Int.cast_neg, neg_mul]
  simp only [numberOf, Decimal.parse, hx, Option.map_some, hneg, hvalue]

/-- The sign of `amount` in front of a text. -/
def withSign (amount : Int) (s : Text) : Text := if amount < 0 then '-' :: s else s

theorem natAbs_eq_neg {a : Int} (h : a < 0) : (a.natAbs : Int) = -a := by omega

theorem natAbs_eq_self {a : Int} (h : ¬ a < 0) : (a.natAbs : Int) = a := by omega

theorem numberOf_withSign {a : Int} {d : Nat} {s f : Text} (h : Decimal.Writes a.natAbs d s f) :
    numberOf (withSign a s) = some (a / (10 : Rat) ^ d) := by
  unfold withSign
  split
  · rename_i ha
    rw [numberOf_negative h, ← Int.cast_natCast, natAbs_eq_neg ha, Int.cast_neg, neg_div, neg_neg]
  · rename_i ha
    rw [numberOf_plain h, ← Int.cast_natCast, natAbs_eq_self ha]

/-! ### Reading a signed text -/

/-- A text that writes `a` base units with a fraction that fits is read as `a`. -/
theorem toBaseUnits_withSign {a : Int} {d : Nat} {s f : Text}
    (h : Decimal.Writes a.natAbs d s f) (hf : f.length ≤ d) :
    toBaseUnits d (withSign a s) = .ok a := by
  obtain ⟨w, hs, hv⟩ := h
  have hread : Decimal.readNat (w ++ f) * 10 ^ (d - f.length) = a.natAbs := by
    have hpos : 0 < 10 ^ f.length := by positivity
    apply Nat.eq_of_mul_eq_mul_right hpos
    rw [Nat.mul_assoc, ← pow_add, Nat.sub_add_cancel hf, hv]
  unfold withSign
  split
  · rename_i ha
    have hspace : ∀ c ∈ '-' :: s, isSpace c = false := by
      intro c hc
      rcases List.mem_cons.mp hc with rfl | hc
      · decide
      · exact plain_not_space hs hc
    have hn := normalize_of_plain d hspace (Decimal.splitExponent_plain hs).2
    rw [toBaseUnits_of_negative hn, unsignedToBase_plain hs hf, hread]
    change Except.ok (-(a.natAbs : Int)) = _
    rw [natAbs_eq_neg ha, neg_neg]
  · rename_i ha
    rw [toBaseUnits_plain hs hf, hread, natAbs_eq_self ha]

/-- Plain notation: nothing of the text is an exponent. -/
def IsPlain (s : Text) : Prop := Decimal.splitExponent (trim s) = none

theorem writes_of_unsignedToBase {d n : Nat} {s : Text} (h : unsignedToBase d s = .ok n) :
    ∃ f, Decimal.Writes n d s f := by
  cases hp : Decimal.splitPoint s with
  | none => simp [unsignedToBase, hp] at h
  | some p =>
    obtain ⟨w, f⟩ := p
    by_cases hf : f.length ≤ d
    · rw [unsignedToBase_plain hp hf] at h
      cases h
      refine ⟨f, w, hp, ?_⟩
      rw [Nat.mul_assoc, ← pow_add, Nat.sub_add_cancel hf]
    · simp [unsignedToBase, hp, Nat.lt_of_not_le hf] at h

theorem numberOf_of_toBaseUnits {d : Nat} {s : Text} {v : Int} (hs : IsPlain s)
    (h : toBaseUnits d s = .ok v) : numberOf (trim s) = some (v / (10 : Rat) ^ d) := by
  have hn : normalize d s = .ok (trim s) := by
    unfold normalize
    rw [hs]
  by_cases hsign : ∃ t, trim s = '-' :: t
  · obtain ⟨t, ht⟩ := hsign
    rw [toBaseUnits_of_negative (ht ▸ hn)] at h
    cases hu : unsignedToBase d t with
    | error message => simp [hu, Except.map] at h
    | ok n =>
      obtain ⟨f, hw⟩ := writes_of_unsignedToBase hu
      simp only [hu, Except.map, Except.ok.injEq] at h
      rw [ht, numberOf_negative hw, ← h, Int.cast_neg, Int.cast_natCast, neg_div]
  · rw [toBaseUnits_of_nonnegative hn fun t ht => hsign ⟨t, ht⟩] at h
    cases hu : unsignedToBase d (trim s) with
    | error message => simp [hu, Except.map] at h
    | ok n =>
      obtain ⟨f, hw⟩ := writes_of_unsignedToBase hu
      simp only [hu, Except.map, Except.ok.injEq] at h
      rw [numberOf_plain hw, ← h, Int.cast_natCast]

/-! ### The texts that are printed -/

/-- The fraction of a fiat amount: its first two digits, filled up with zeros. -/
def fiatFraction (d n : Nat) : Text :=
  (Decimal.padded d n).take 2 ++ List.replicate (2 - ((Decimal.padded d n).take 2).length) '0'

theorem writes_fiat {d : Nat} (hd : d ≤ 2) (n : Nat) :
    Decimal.Writes n d (Nat.toDigits 10 (n / 10 ^ d) ++ '.' :: fiatFraction d (n % 10 ^ d))
        (fiatFraction d (n % 10 ^ d)) ∧
      (fiatFraction d (n % 10 ^ d)).length = 2 := by
  have hlt : n % 10 ^ d < 10 ^ d := Nat.mod_lt _ (by positivity)
  generalize hr : n % 10 ^ d = r at hlt
  have hlen : (Decimal.padded d r).length ≤ 2 := by
    rcases Nat.eq_zero_or_pos d with rfl | hpos
    · obtain rfl : r = 0 := by omega
      decide
    · rw [Decimal.length_padded hpos hlt]
      exact hd
  have hf : fiatFraction d r =
      Decimal.padded d r ++ List.replicate (2 - (Decimal.padded d r).length) '0' := by
    rw [fiatFraction, List.take_of_length_le hlen]
  have htwo : (fiatFraction d r).length = 2 := by
    rw [hf, List.length_append, List.length_replicate]
    omega
  have hvalue : Decimal.readNat (fiatFraction d r) * 10 ^ d = r * 10 ^ 2 := by
    rw [hf, Decimal.readNat_append, Decimal.readNat_padded, Decimal.readNat_zeros,
      List.length_replicate, Nat.add_zero]
    rcases Nat.eq_zero_or_pos d with rfl | hpos
    · obtain rfl : r = 0 := by omega
      simp
    · rw [Decimal.length_padded hpos hlt, Nat.mul_assoc, ← pow_add, Nat.sub_add_cancel hd]
  have hdigits : ∀ c ∈ fiatFraction d r, c.isDigit = true := by
    intro c hc
    rw [hf] at hc
    rcases List.mem_append.mp hc with hc | hc
    · exact Decimal.padded_isDigit hc
    · rw [List.eq_of_mem_replicate hc]
      decide
  have hjoin : Decimal.joinPoint (Nat.toDigits 10 (n / 10 ^ d)) (fiatFraction d r) =
      Nat.toDigits 10 (n / 10 ^ d) ++ '.' :: fiatFraction d r := by
    refine if_neg ?_
    intro h
    simp [h] at htwo
  have h := Decimal.writes_joinPoint (n := n) (d := d) hdigits (by rw [hvalue, hr, htwo])
  rw [hjoin] at h
  exact ⟨h, htwo⟩

/-- What `fromBase` prints, of a fiat with at most two decimals or of a cryptocurrency. -/
theorem fromBaseUnits_writes {d : Nat} {fiat : Bool} (hd : fiat = true → d ≤ 2) (a : Int) :
    ∃ s f, fromBaseUnits d fiat a = withSign a s ∧ Decimal.Writes a.natAbs d s f ∧
      f.length ≤ max d (if fiat then 2 else 0) := by
  cases fiat with
  | true =>
    obtain ⟨h, hlen⟩ := writes_fiat (hd rfl) a.natAbs
    exact ⟨_, _, rfl, h, by simp [hlen]⟩
  | false =>
    have hlen := (Decimal.readNat_rdropWhile_padded
      (Nat.mod_lt a.natAbs (show 0 < 10 ^ d by positivity))).1
    exact ⟨_, _, rfl, Decimal.writes_stripped a.natAbs d, by simpa using hlen⟩

theorem toBaseUnits_fromBaseUnits {d : Nat} {fiat : Bool} (hd : fiat = true → d = 2) (a : Int) :
    toBaseUnits d (fromBaseUnits d fiat a) = .ok a := by
  obtain ⟨s, f, htext, hw, hlen⟩ := fromBaseUnits_writes (fun h => (hd h).le) a
  rw [htext]
  refine toBaseUnits_withSign hw ?_
  cases fiat with
  | true => simpa [hd rfl] using hlen
  | false => simpa using hlen

theorem numberOf_fromBaseUnits {d : Nat} {fiat : Bool} (hd : fiat = true → d ≤ 2) (a : Int) :
    numberOf (fromBaseUnits d fiat a) = some (a / (10 : Rat) ^ d) := by
  obtain ⟨s, f, htext, hw, -⟩ := fromBaseUnits_writes hd a
  rw [htext, numberOf_withSign hw]

theorem stripped_eq_nil_iff (d n : Nat) :
    (Decimal.padded d (n % 10 ^ d)).rdropWhile (· == '0') = [] ↔ n % 10 ^ d = 0 := by
  have hlt : n % 10 ^ d < 10 ^ d := Nat.mod_lt _ (by positivity)
  obtain ⟨-, hread⟩ := Decimal.readNat_rdropWhile_padded hlt
  constructor
  · intro h
    rw [h] at hread
    simpa [Decimal.readNat] using hread.symm
  · intro h
    rw [h, List.rdropWhile_eq_nil_iff]
    intro c hc
    have hdigits : Nat.toDigits 10 0 = ['0'] := Nat.toDigits_zero 10
    rw [Decimal.padded, hdigits] at hc
    rcases List.mem_append.mp hc with hc | hc
    · simp [List.eq_of_mem_replicate hc]
    · simpa using hc

/-- Apart from zero a quote prints what `fromBase` prints. -/
theorem formatUnits_eq {d : Nat} {a : Int} (ha : a ≠ 0) :
    formatUnits d a = fromBaseUnits d false a := by
  have hdigits : Nat.toDigits 10 0 = ['0'] := Nat.toDigits_zero 10
  simp only [formatUnits, fromBaseUnits, Bool.false_eq_true, if_false]
  by_cases hwhole : a.natAbs / 10 ^ d = 0
  · have hfraction : (Decimal.padded d (a.natAbs % 10 ^ d)).rdropWhile (· == '0') ≠ [] := by
      rw [ne_eq, stripped_eq_nil_iff]
      intro hzero
      have hsplit := Nat.div_add_mod a.natAbs (10 ^ d)
      rw [hwhole, hzero] at hsplit
      omega
    simp [hwhole, hfraction, hdigits]
  · simp [hwhole]

theorem formatUnits_zero (d : Nat) : formatUnits d 0 = ['0', '.', '0', '0'] := by
  have hfraction := (stripped_eq_nil_iff d 0).mpr (Nat.zero_mod _)
  simp only [formatUnits, Int.natAbs_zero, Nat.zero_div, hfraction, if_true]
  rfl

theorem numberOf_formatUnits (d : Nat) (a : Int) :
    numberOf (formatUnits d a) = some (a / (10 : Rat) ^ d) := by
  by_cases ha : a = 0
  · have hw : Decimal.Writes 0 d ['0', '.', '0', '0'] ['0', '0'] :=
      ⟨['0'], by decide, by rw [Nat.zero_mul, Nat.mul_eq_zero]; exact .inl (by decide)⟩
    rw [ha, formatUnits_zero, numberOf_plain hw]
    simp
  · rw [formatUnits_eq ha, numberOf_fromBaseUnits (by simp)]

/-- Base units survive being printed and read back, an accepted plain text keeps its number, and
the quote of a cryptocurrency prints the same number as `fromBase`. -/
structure Exact (cache : DefaultNetworkCache) (currency : Currency)
    (scale : Option DecimalsOrNetwork) : Prop where
  units : ∀ a : Int, ∃ t, fromBaseAt cache a currency scale = .ok t ∧
    toBaseAt cache t currency scale = .ok a
  text : ∀ s v, IsPlain s → toBaseAt cache s currency scale = .ok v →
    ∃ t q, fromBaseAt cache v currency scale = .ok t ∧
      numberOf t = some q ∧ numberOf (trim s) = some q
  quote : FIAT_DECIMALS currency = none → ∀ a : Int, ∃ t u q,
    fromBaseAt cache a currency scale = .ok t ∧
      formatCryptoForQuote cache a currency scale = .ok u ∧
      numberOf t = some q ∧ numberOf u = some q

theorem getCurrencyDecimals_network {currency : Currency} :
    ∀ p ∈ CURRENCY_PRECISION currency, getCurrencyDecimals currency (some p.1) = .ok p.2 := by
  cases currency <;> decide

/-- The conversions are exact at every scale of a cryptocurrency, every network's among them, and
at a fiat's own decimals. -/
theorem conversions_exact (cache : DefaultNetworkCache) (currency : Currency)
    (scale : Option DecimalsOrNetwork) (d : Nat)
    (hd : decimalsFor cache currency scale = .ok d)
    (hfiat : ∀ own, FIAT_DECIMALS currency = some own → d = own) :
    Exact cache currency scale := by
  have htwo : (FIAT_DECIMALS currency).isSome = true → d = 2 := by
    intro h
    obtain ⟨own, hown⟩ := Option.isSome_iff_exists.mp h
    rw [hfiat own hown]
    cases currency <;> simp_all [FIAT_DECIMALS]
  have hprinted (a : Int) := numberOf_fromBaseUnits (fun h => (htwo h).le) a
  constructor
  · intro a
    refine ⟨_, fromBaseAt_of_decimals hd a, ?_⟩
    rw [toBaseAt_of_decimals hd, toBaseUnits_fromBaseUnits htwo]
  · intro s v hs hv
    rw [toBaseAt_of_decimals hd] at hv
    exact ⟨_, _, fromBaseAt_of_decimals hd v, hprinted v, numberOf_of_toBaseUnits hs hv⟩
  · intro _ a
    exact ⟨_, _, _, fromBaseAt_of_decimals hd a, formatCryptoForQuote_of_decimals hd a,
      hprinted a, numberOf_formatUnits d a⟩

theorem conversions_exact_usdt_ngn :
    Exact (fun _ => none) .usdt (some (.network .erc20)) ∧ Exact (fun _ => none) .ngn none :=
  ⟨conversions_exact _ _ _ 6 rfl (by decide),
    conversions_exact _ _ _ 2 rfl (by decide)⟩

end ConvertCurrency

end ExchangeLedger
