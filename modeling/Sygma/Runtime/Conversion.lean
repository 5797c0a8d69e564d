import Sygma.Runtime.Standalone

/-!
# When decimal conversion is exact

The converter multiplies or divides by a power of ten, depending on the direction and on which side
of 18 the decimals of the asset are. A product is refused when the amount itself is out of range,
but is held at the greatest integer when only the product is; a quotient is computed without any
such check. `conversion_exact_iff` gives the amounts for which the answer is exact or refused.
`round_trip_bounded` is about bridging out and back: it never yields more than it started from, and
within the range of the fixed-point numbers it loses only what the division cuts off.
-/

namespace Sygma

open Exec (Panic)

/-! ## The two computations in closed form -/

/-- An integer is converted if it fits, or if overflow is not checked. -/
theorem from_num_eq (debugAssertions : Bool) (number : Nat) :
    (FixedPoint.fromNum debugAssertions number : Except Panic U112F16) =
      if number < 2 ^ 112 ∨ debugAssertions = false then .ok (FixedPoint.wrappingFromNum number)
      else .error .arithmetic := by
  have hfits : number * 2 ^ 16 < 2 ^ 128 ↔ number < 2 ^ 112 := by omega
  unfold FixedPoint.fromNum
  simp only [hfits]

/-- The power of ten is always converted. -/
theorem from_num_ten {exponent : Nat} (h : 10 ^ exponent < 2 ^ 112) (debugAssertions : Bool) :
    (FixedPoint.fromNum debugAssertions (saturatingPow 10 exponent).toNat : Except Panic U112F16) =
      .ok (FixedPoint.wrappingFromNum (10 ^ exponent)) := by
  rw [saturating_pow_ten h, from_num_eq, if_pos (.inl h)]

/-- A product is held at the greatest integer, and refused for an amount beyond it. -/
theorem multiply_amount_eq {exponent : Nat} (h : 10 ^ exponent < 2 ^ 112) (debugAssertions : Bool)
    (amount : U128) :
    multiplyAmount debugAssertions amount exponent =
      .ok (if amount.toNat < 2 ^ 112 then
        some (BitVec.ofNat 128 (min (amount.toNat * 10 ^ exponent) (2 ^ 112 - 1))) else none) := by
  unfold multiplyAmount
  by_cases hfits : amount.toNat < 2 ^ 112
  · have hexceeds : FixedPoint.exceedsMax 128 16 amount.toNat = false :=
      (FixedPoint.exceeds_max_eq_false (by omega)).mpr hfits
    have hproduct := FixedPoint.toNum_saturatingMul (w := 128) (f := 16) (by omega) amount.toNat
      (10 ^ exponent)
    rw [hexceeds, if_neg Bool.false_ne_true, from_num_ten h, from_num_eq, if_pos (.inl hfits),
      if_pos hfits]
    show Except.ok (some (BitVec.ofNat 128 _)) = _
    rw [hproduct, Nat.mod_eq_of_lt hfits, Nat.mod_eq_of_lt h]
  · have hexceeds : FixedPoint.exceedsMax 128 16 amount.toNat = true := by
      rw [← Bool.not_eq_false, FixedPoint.exceeds_max_eq_false (by omega)]
      exact hfits
    rw [hexceeds, if_neg hfits]
    rfl

/-- A number that is not zero is an answer. -/
theorem nonzero_answer {number : Nat} (h : number < 2 ^ 128) :
    (if BitVec.ofNat 128 number = 0 then pure none else pure (some (BitVec.ofNat 128 number)) :
      Except Panic (Option U128)) =
        .ok (if number = 0 then none else some (BitVec.ofNat 128 number)) := by
  have hzero : BitVec.ofNat 128 number = 0 ↔ number = 0 := by
    rw [← BitVec.toNat_inj, BitVec.toNat_ofNat, Nat.mod_eq_of_lt h]
    rfl
  by_cases hnumber : number = 0
  · rw [if_pos (hzero.mpr hnumber), if_pos hnumber]
    rfl
  · rw [if_neg (mt hzero.mp hnumber), if_neg hnumber]
    rfl

/-- The quotient of a remainder by a power of ten fits. -/
theorem quotient_lt (amount exponent : Nat) : amount % 2 ^ 112 / 10 ^ exponent < 2 ^ 128 := by
  have hmod : amount % 2 ^ 112 < 2 ^ 112 := Nat.mod_lt _ (by omega)
  have hdiv := Nat.div_le_self (amount % 2 ^ 112) (10 ^ exponent)
  omega

/-- A quotient is that of the amount modulo the range, unless overflow is checked. -/
theorem divide_amount_eq {exponent : Nat} (h : 10 ^ exponent < 2 ^ 112) (debugAssertions : Bool)
    (amount : U128) :
    divideAmount debugAssertions amount exponent =
      if amount.toNat < 2 ^ 112 ∨ debugAssertions = false then
        .ok (if amount.toNat % 2 ^ 112 / 10 ^ exponent = 0 then none
          else some (BitVec.ofNat 128 (amount.toNat % 2 ^ 112 / 10 ^ exponent)))
      else .error .arithmetic := by
  unfold divideAmount
  rw [from_num_ten h, from_num_eq, Exec.except_ok_bind]
  by_cases hfits : amount.toNat < 2 ^ 112 ∨ debugAssertions = false
  · have hquotient : (((FixedPoint.wrappingFromNum amount.toNat : U112F16).checkedDiv
        (FixedPoint.wrappingFromNum (10 ^ exponent))).getD (FixedPoint.wrappingFromNum 0)).toNum =
          amount.toNat % 2 ^ 112 / (10 ^ exponent % 2 ^ 112) :=
      FixedPoint.toNum_checkedDiv (by omega) amount.toNat (10 ^ exponent)
    rw [Nat.mod_eq_of_lt h] at hquotient
    rw [if_pos hfits, if_pos hfits, Exec.except_ok_bind]
    simp only [hquotient]
    exact nonzero_answer (quotient_lt _ _)
  · rw [if_neg hfits, if_neg hfits]
    rfl

/-! ## Exact or refused -/

/-- An answer is exact or refused: there is no panic, and a number only if it is the given one. -/
def ExactOrRefused (value : Nat) (result : Except Panic (Option U128)) : Prop :=
  ∃ answer, result = .ok answer ∧ ∀ r, answer = some r → r.toNat = value

/-- A product that fits, or an amount that is refused. -/
def MultipliesExactly (amount : U128) (exponent : Nat) : Prop :=
  amount.toNat * 10 ^ exponent < 2 ^ 112 ∨ 2 ^ 112 ≤ amount.toNat

/-- An amount that fits, or one that wraps to less than the divisor without being noticed. -/
def DividesExactly (debugAssertions : Bool) (amount : U128) (exponent : Nat) : Prop :=
  amount.toNat < 2 ^ 112 ∨ debugAssertions = false ∧ amount.toNat % 2 ^ 112 < 10 ^ exponent

theorem exact_or_refused_ok {value : Nat} {answer : Option U128} :
    ExactOrRefused value (.ok answer) ↔ ∀ r, answer = some r → r.toNat = value := by
  constructor
  · rintro ⟨answer', h, hexact⟩
    cases h
    exact hexact
  · intro h
    exact ⟨answer, rfl, h⟩

theorem multiply_exact_iff {exponent : Nat} (h : 10 ^ exponent < 2 ^ 112) (debugAssertions : Bool)
    (amount : U128) :
    ExactOrRefused (amount.toNat * 10 ^ exponent) (multiplyAmount debugAssertions amount exponent) ↔
      MultipliesExactly amount exponent := by
  rw [multiply_amount_eq h, exact_or_refused_ok, MultipliesExactly]
  by_cases hfits : amount.toNat < 2 ^ 112
  · rw [if_pos hfits]
    -- the number in the answer is the product held at the greatest integer
    have hheld : (BitVec.ofNat 128 (min (amount.toNat * 10 ^ exponent) (2 ^ 112 - 1))).toNat =
        min (amount.toNat * 10 ^ exponent) (2 ^ 112 - 1) := by
      rw [BitVec.toNat_ofNat]
      exact Nat.mod_eq_of_lt (by omega)
    constructor
    · intro hexact
      have hvalue := hexact _ rfl
      rw [hheld] at hvalue
      omega
    · intro hproduct r hr
      rw [← Option.some.inj hr, hheld]
      omega
  · rw [if_neg hfits]
    refine iff_of_true ?_ (.inr (by omega))
    intro r hr
    cases hr

/-- Dividing the remainder of an amount beyond the range gives less than dividing the amount. -/
theorem mod_div_lt {amount divisor range : Nat} (hdivisor : 0 < divisor) (hle : divisor ≤ range)
    (hout : range ≤ amount) : amount % range / divisor < amount / divisor := by
  have hsplit : amount % range + divisor ≤ amount := by
    have hmod := Nat.mod_add_div amount range
    have hpos : 1 ≤ amount / range :=
      (Nat.one_le_div_iff (Nat.lt_of_lt_of_le hdivisor hle)).mpr hout
    have hmul : range * 1 ≤ range * (amount / range) := Nat.mul_le_mul_left range hpos
    omega
  calc amount % range / divisor
      < amount % range / divisor + 1 := Nat.lt_succ_self _
    _ = (amount % range + divisor) / divisor := (Nat.add_div_right _ hdivisor).symm
    _ ≤ amount / divisor := Nat.div_le_div_right hsplit

theorem divide_exact_iff {exponent : Nat} (h : 10 ^ exponent < 2 ^ 112) (debugAssertions : Bool)
    (amount : U128) :
    ExactOrRefused (amount.toNat / 10 ^ exponent) (divideAmount debugAssertions amount exponent) ↔
      DividesExactly debugAssertions amount exponent := by
  have hpos : 0 < 10 ^ exponent := Nat.pow_pos (by omega)
  have hquotient : (BitVec.ofNat 128 (amount.toNat % 2 ^ 112 / 10 ^ exponent)).toNat =
      amount.toNat % 2 ^ 112 / 10 ^ exponent := by
    rw [BitVec.toNat_ofNat]
    exact Nat.mod_eq_of_lt (quotient_lt _ _)
  rw [divide_amount_eq h, DividesExactly]
  by_cases hfits : amount.toNat < 2 ^ 112
  · rw [if_pos (.inl hfits), exact_or_refused_ok]
    refine iff_of_true ?_ (.inl hfits)
    intro r hr
    split at hr
    · cases hr
    · rw [← Option.some.inj hr, hquotient, Nat.mod_eq_of_lt hfits]
  · by_cases hchecks : debugAssertions = false
    · rw [if_pos (.inr hchecks), exact_or_refused_ok]
      have hless := mod_div_lt hpos (Nat.le_of_lt h) (Nat.le_of_not_lt hfits)
      have hzero : amount.toNat % 2 ^ 112 / 10 ^ exponent = 0 ↔
          amount.toNat % 2 ^ 112 < 10 ^ exponent := Nat.div_eq_zero_iff_lt hpos
      constructor
      · intro hexact
        refine .inr ⟨hchecks, hzero.mp ?_⟩
        by_contra hne
        have hvalue := hexact _ (if_neg hne)
        rw [hquotient] at hvalue
        omega
      · rintro (hlt | ⟨-, hlt⟩) r hr
        · exact absurd hlt hfits
        · rw [if_pos (hzero.mpr hlt)] at hr
          cases hr
    · have hnot : ¬ (amount.toNat < 2 ^ 112 ∨ debugAssertions = false) := by
        rintro (hlt | hfalse)
        · exact hfits hlt
        · exact hchecks hfalse
      rw [if_neg hnot]
      refine iff_of_false ?_ ?_
      · rintro ⟨answer, hanswer, -⟩
        cases hanswer
      · rintro (hlt | ⟨hfalse, -⟩)
        · exact hfits hlt
        · exact hchecks hfalse

variable {decimalPairs : List (AssetId × U8)} {id : AssetId} {decimal : U8}

/-- The branch that converts to 18 decimals, by the decimals of the asset. -/
theorem convert_to_eq (hdecimal : decimalsOf decimalPairs id = some decimal)
    (debugAssertions : Bool) (amount : U128) :
    convertTo debugAssertions decimalPairs ⟨id, .fungible amount⟩ =
      if decimal.toNat = 18 then .ok (some amount)
      else if 18 < decimal.toNat then divideAmount debugAssertions amount (decimal.toNat - 18)
      else multiplyAmount debugAssertions amount (18 - decimal.toNat) := by
  have heq : decimal = 18 ↔ decimal.toNat = 18 := BitVec.toNat_inj.symm
  have hgt : decimal > 18 ↔ 18 < decimal.toNat := Iff.rfl
  simp only [convertTo, hdecimal, heq, hgt]

/-- The branch that converts from 18 decimals, by the decimals of the asset. -/
theorem convert_from_eq (hdecimal : decimalsOf decimalPairs id = some decimal)
    (debugAssertions : Bool) (amount : U128) :
    convertFrom debugAssertions decimalPairs ⟨id, .fungible amount⟩ =
      intoAsset debugAssertions id
        (if decimal.toNat = 18 then .ok (some amount)
        else if 18 < decimal.toNat then multiplyAmount debugAssertions amount (decimal.toNat - 18)
        else divideAmount debugAssertions amount (18 - decimal.toNat)) := by
  have heq : decimal = 18 ↔ decimal.toNat = 18 := BitVec.toNat_inj.symm
  have hgt : decimal > 18 ↔ 18 < decimal.toNat := Iff.rfl
  simp only [convertFrom, hdecimal, heq, hgt]

/-- The power of ten between the decimals of a listed asset and 18 fits. -/
theorem SmallDecimals.fits (hsmall : SmallDecimals decimalPairs)
    (hdecimal : decimalsOf decimalPairs id = some decimal) :
    10 ^ (decimal.toNat - 18) < 2 ^ 112 ∧ 10 ^ (18 - decimal.toNat) < 2 ^ 112 := by
  obtain ⟨pair, hfind, rfl⟩ := Option.map_eq_some_iff.mp hdecimal
  have hpair := hsmall pair (List.mem_of_find?_eq_some hfind)
  have habove : pair.2.toNat - 18 ≤ ((pair.2.toNat : Int) - 18).natAbs := by omega
  have hbelow : 18 - pair.2.toNat ≤ ((pair.2.toNat : Int) - 18).natAbs := by omega
  exact ⟨Nat.lt_of_le_of_lt (Nat.pow_le_pow_right (by omega) habove) hpair,
    Nat.lt_of_le_of_lt (Nat.pow_le_pow_right (by omega) hbelow) hpair⟩

/-- The amount is divided with overflow checks, and does not fit. -/
def Overflows (debugAssertions : Bool) (decimalPairs : List (AssetId × U8)) (id : AssetId)
    (amount : U128) : Prop :=
  debugAssertions = true ∧ 2 ^ 112 ≤ amount.toNat ∧
    ∃ decimal, decimalsOf decimalPairs id = some decimal ∧ 18 < decimal.toNat

/-- The conversion to 18 decimals panics exactly where the amount overflows. -/
theorem convert_to_panics_iff (hsmall : SmallDecimals decimalPairs) {debugAssertions : Bool}
    {amount : U128} :
    (∃ reason, convertTo debugAssertions decimalPairs ⟨id, .fungible amount⟩ = .error reason) ↔
      Overflows debugAssertions decimalPairs id amount := by
  unfold Overflows
  cases hdecimal : decimalsOf decimalPairs id with
  | none => simp [convertTo, hdecimal]
  | some decimal =>
      obtain ⟨habove, hbelow⟩ := hsmall.fits hdecimal
      rw [convert_to_eq hdecimal]
      by_cases heq : decimal.toNat = 18
      · simp [heq]
      · by_cases hgt : 18 < decimal.toNat
        · rw [if_neg heq, if_pos hgt, divide_amount_eq habove]
          have hchecked : amount.toNat < 2 ^ 112 ∨ debugAssertions = false ↔
              ¬ (debugAssertions = true ∧ 2 ^ 112 ≤ amount.toNat) := by
            rw [not_and_or, Nat.not_le, Bool.not_eq_true, or_comm]
          by_cases hover : debugAssertions = true ∧ 2 ^ 112 ≤ amount.toNat
          · rw [if_neg (mt hchecked.mp (not_not_intro hover))]
            exact iff_of_true ⟨_, rfl⟩ ⟨hover.1, hover.2, decimal, rfl, hgt⟩
          · rw [if_pos (hchecked.mpr hover)]
            refine iff_of_false ?_ ?_
            · rintro ⟨reason, hreason⟩
              cases hreason
            · rintro ⟨hchecks, hlarge, -⟩
              exact hover ⟨hchecks, hlarge⟩
        · rw [if_neg heq, if_neg hgt, multiply_amount_eq hbelow]
          simp [hgt]

/-- Rescaling to more decimals is a multiplication. -/
theorem rescale_up {amount d e : Nat} (h : d ≤ e) :
    amount * 10 ^ e / 10 ^ d = amount * 10 ^ (e - d) := by
  have hsplit : 10 ^ e = 10 ^ (e - d) * 10 ^ d := by rw [← Nat.pow_add, Nat.sub_add_cancel h]
  rw [hsplit, ← Nat.mul_assoc, Nat.mul_div_cancel _ (Nat.pow_pos (by omega))]

/-- Rescaling to fewer decimals is a division. -/
theorem rescale_down {amount d e : Nat} (h : e ≤ d) :
    amount * 10 ^ e / 10 ^ d = amount / 10 ^ (d - e) := by
  have hsplit : 10 ^ d = 10 ^ (d - e) * 10 ^ e := by rw [← Nat.pow_add, Nat.sub_add_cancel h]
  rw [hsplit, Nat.mul_div_mul_right _ _ (Nat.pow_pos (by omega))]

/-- The answer of `convertTo` is exact or refused. -/
def ExactTo (debugAssertions : Bool) (decimalPairs : List (AssetId × U8)) (id : AssetId)
    (decimal : U8) (amount : U128) : Prop :=
  ExactOrRefused (amount.toNat * 10 ^ 18 / 10 ^ decimal.toNat)
    (convertTo debugAssertions decimalPairs ⟨id, .fungible amount⟩)

/-- The answer of `convertFrom` is exact or refused, and names the same asset. -/
def ExactFrom (debugAssertions : Bool) (decimalPairs : List (AssetId × U8)) (id : AssetId)
    (decimal : U8) (amount : U128) : Prop :=
  ∃ answer, convertFrom debugAssertions decimalPairs ⟨id, .fungible amount⟩ = .ok answer ∧
    ∀ asset, answer = some asset → ∃ r, asset = ⟨id, .fungible r⟩ ∧
      r.toNat = amount.toNat * 10 ^ decimal.toNat / 10 ^ 18

/-- Naming the asset of an answer does not change whether it is exact or refused, except for an
answer of zero that is asserted not to occur. -/
theorem exact_or_refused_into {debugAssertions : Bool} {value : Nat}
    {result : Except Panic (Option U128)} :
    (∃ answer, intoAsset debugAssertions id result = .ok answer ∧
      ∀ asset, answer = some asset → ∃ r, asset = ⟨id, .fungible r⟩ ∧ r.toNat = value) ↔
      ExactOrRefused value result ∧ (debugAssertions = true → result ≠ .ok (some 0)) := by
  rcases result with reason | found
  · refine iff_of_false ?_ ?_
    · rintro ⟨answer, hanswer, -⟩
      cases hanswer
    · rintro ⟨⟨answer, hanswer, -⟩, -⟩
      cases hanswer
  · rw [exact_or_refused_ok]
    cases found with
    | none =>
        refine iff_of_true ⟨none, rfl, ?_⟩ ⟨?_, ?_⟩
        · intro asset hasset
          cases hasset
        · intro r hr
          cases hr
        · intro _ hzero
          cases hzero
    | some r =>
        have hzero : (.ok (some r) : Except Panic (Option U128)) ≠ .ok (some 0) ↔ r ≠ 0 := by simp
        rw [hzero]
        constructor
        · rintro ⟨answer, hanswer, hexact⟩
          have hbind : (MultiAsset.ofAmount debugAssertions id r >>=
              fun asset => pure (some asset)) = .ok answer := hanswer
          obtain ⟨named, hnamed, hrest⟩ := Exec.except_bind_ok.mp hbind
          obtain ⟨hnonzero, rfl⟩ := MultiAsset.of_amount_ok.mp hnamed
          cases hrest
          obtain ⟨r', hasset, hvalue⟩ := hexact _ rfl
          cases hasset
          refine ⟨?_, hnonzero⟩
          intro found hfound
          rw [← Option.some.inj hfound]
          exact hvalue
        · rintro ⟨hexact, hnonzero⟩
          refine ⟨_, into_asset_ok.mpr ⟨r, rfl, hnonzero, rfl⟩, ?_⟩
          intro asset hasset
          exact ⟨r, (Option.some.inj hasset).symm, hexact r rfl⟩

/-- A product is zero only if the amount is. -/
theorem multiply_amount_zero {exponent : Nat} (h : 10 ^ exponent < 2 ^ 112) (debugAssertions : Bool)
    (amount : U128) :
    multiplyAmount debugAssertions amount exponent = .ok (some 0) ↔ amount = 0 := by
  have hpos : 0 < 10 ^ exponent := Nat.pow_pos (by omega)
  have hzero : amount = 0 ↔ amount.toNat = 0 := BitVec.toNat_inj.symm
  rw [multiply_amount_eq h, hzero]
  by_cases hfits : amount.toNat < 2 ^ 112
  · have hheld : BitVec.ofNat 128 (min (amount.toNat * 10 ^ exponent) (2 ^ 112 - 1)) = 0 ↔
        min (amount.toNat * 10 ^ exponent) (2 ^ 112 - 1) = 0 := by
      rw [← BitVec.toNat_inj, BitVec.toNat_ofNat, Nat.mod_eq_of_lt (by omega)]
      rfl
    rw [if_pos hfits, Except.ok.injEq, Option.some.injEq, hheld]
    constructor
    · intro hmin
      have hproduct : amount.toNat * 10 ^ exponent = 0 := by omega
      exact (Nat.mul_eq_zero.mp hproduct).resolve_right (by omega)
    · intro hamount
      rw [hamount, Nat.zero_mul, Nat.zero_min]
  · rw [if_neg hfits]
    refine iff_of_false (by simp) ?_
    omega

/-- A quotient that is given is not zero. -/
theorem divide_amount_nonzero {exponent : Nat} (h : 10 ^ exponent < 2 ^ 112)
    (debugAssertions : Bool) (amount : U128) :
    divideAmount debugAssertions amount exponent ≠ .ok (some 0) := by
  rw [divide_amount_eq h]
  split
  · split <;> rename_i hquotient
    · simp
    · intro hzero
      have hnumber := congrArg BitVec.toNat (Option.some.inj (Except.ok.inj hzero))
      rw [BitVec.toNat_ofNat, Nat.mod_eq_of_lt (quotient_lt _ _)] at hnumber
      exact hquotient hnumber
  · simp

/-- Conversion of a listed asset is exact or refused exactly when its product fits or its amount is
refused, respectively when its amount fits or wraps to nothing. From 18 decimals, debug assertions
ask moreover for an amount other than zero where it is not divided. -/
theorem conversion_exact_iff (hsmall : SmallDecimals decimalPairs)
    (hdecimal : decimalsOf decimalPairs id = some decimal) (debugAssertions : Bool)
    (amount : U128) :
    (ExactTo debugAssertions decimalPairs id decimal amount ↔
      (decimal.toNat < 18 → MultipliesExactly amount (18 - decimal.toNat)) ∧
        (18 < decimal.toNat → DividesExactly debugAssertions amount (decimal.toNat - 18))) ∧
    (ExactFrom debugAssertions decimalPairs id decimal amount ↔
      (18 < decimal.toNat → MultipliesExactly amount (decimal.toNat - 18)) ∧
        (decimal.toNat < 18 → DividesExactly debugAssertions amount (18 - decimal.toNat)) ∧
        (debugAssertions = true → 18 ≤ decimal.toNat → amount ≠ 0)) := by
  obtain ⟨habove, hbelow⟩ := hsmall.fits hdecimal
  unfold ExactTo ExactFrom
  rw [convert_to_eq hdecimal, convert_from_eq hdecimal, exact_or_refused_into]
  rcases Nat.lt_trichotomy decimal.toNat 18 with hlt | heq | hgt
  · have hne : decimal.toNat ≠ 18 := by omega
    have hnot : ¬ 18 < decimal.toNat := by omega
    rw [if_neg hne, if_neg hne, if_neg hnot, if_neg hnot, rescale_up (by omega),
      rescale_down (by omega), multiply_exact_iff hbelow, divide_exact_iff hbelow,
      and_iff_left fun _ => divide_amount_nonzero hbelow debugAssertions amount]
    simp [hlt, hnot]
  · have hnot : ¬ decimal.toNat < 18 := by omega
    have hnot' : ¬ 18 < decimal.toNat := by omega
    rw [if_pos heq, if_pos heq, exact_or_refused_ok, exact_or_refused_ok, heq,
      Nat.mul_div_cancel _ (by omega)]
    simp
  · have hne : decimal.toNat ≠ 18 := by omega
    have hnot : ¬ decimal.toNat < 18 := by omega
    rw [if_neg hne, if_neg hne, if_pos hgt, if_pos hgt, rescale_down (by omega),
      rescale_up (by omega), divide_exact_iff habove, multiply_exact_iff habove, Ne,
      multiply_amount_zero habove]
    simp [hgt, hnot, Nat.le_of_lt hgt]

/-- The decimals of the standalone runtime are small, so its conversions are exact or refused for
amounts that fit. -/
theorem conversion_exact_iff_native :
    SmallDecimals Standalone.assetDecimalPairs ∧
      ExactTo true Standalone.assetDecimalPairs (.concrete Standalone.nativeLocation) 12 1000 := by
  have hsmall : SmallDecimals Standalone.assetDecimalPairs := by decide
  have hdecimal : decimalsOf Standalone.assetDecimalPairs (.concrete Standalone.nativeLocation) =
      some 12 := by decide
  refine ⟨hsmall, (conversion_exact_iff hsmall hdecimal true 1000).1.mpr ⟨fun _ => .inl ?_, ?_⟩⟩
  · decide
  · intro hgt
    exact absurd hgt (by decide)

/-- The native asset has 12 decimals. Converting 10 ^ 28 of it to 18 decimals gives the greatest
integer and not 10 ^ 34, and converting 2 ^ 112 + 10 ^ 6 from 18 decimals gives 1, or panics with
overflow checks. -/
theorem native_conversion_inexact :
    SmallDecimals Standalone.assetDecimalPairs ∧
      convertTo true Standalone.assetDecimalPairs
          ⟨.concrete Standalone.nativeLocation, .fungible 10000000000000000000000000000⟩ =
        .ok (some 5192296858534827628530496329220095) ∧
      ¬ ExactTo true Standalone.assetDecimalPairs (.concrete Standalone.nativeLocation) 12
        10000000000000000000000000000 ∧
      convertFrom false Standalone.assetDecimalPairs
          ⟨.concrete Standalone.nativeLocation, .fungible 5192296858534827628530496330220096⟩ =
        .ok (some ⟨.concrete Standalone.nativeLocation, .fungible 1⟩) ∧
      convertFrom true Standalone.assetDecimalPairs
          ⟨.concrete Standalone.nativeLocation, .fungible 5192296858534827628530496330220096⟩ =
        .error .arithmetic := by
  have hsaturated : convertTo true Standalone.assetDecimalPairs
      ⟨.concrete Standalone.nativeLocation, .fungible 10000000000000000000000000000⟩ =
        .ok (some 5192296858534827628530496329220095) := by decide +kernel
  refine ⟨by decide, hsaturated, ?_, by decide +kernel, by decide +kernel⟩
  intro hexact
  rw [ExactTo, hsaturated, exact_or_refused_ok] at hexact
  exact absurd (hexact _ rfl) (by decide)

/-! ## Round trips -/

/-- The factor both directions compute with is never zero, also where it wraps. -/
theorem scale_pos (exponent : Nat) : 0 < scale exponent := by
  unfold scale saturatingPow
  split
  · rename_i hlt
    have hsmall : exponent < 39 := by
      by_contra hge
      have hpow : 10 ^ 39 ≤ 10 ^ exponent := Nat.pow_le_pow_right (by omega) (by omega)
      have hbound : (10 : U128).toNat ^ exponent < 2 ^ 128 := hlt
      exact absurd (Nat.lt_of_le_of_lt hpow hbound) (by decide)
    rw [BitVec.toNat_ofNat, Nat.mod_eq_of_lt hlt]
    have hall : ∀ e < 39, 0 < 10 ^ e % 2 ^ 112 := by decide
    exact hall exponent hsmall
  · decide

theorem coarser_pos (decimal : U8) : 0 < coarser decimal := by
  unfold coarser
  split
  · exact scale_pos _
  · omega

/-- A multiple of ten that is at most a power of two is less than it. -/
theorem tens_lt {number exponent : Nat} (hexponent : 0 < exponent)
    (h : number * 10 ^ exponent ≤ 2 ^ 112) : number * 10 ^ exponent < 2 ^ 112 := by
  obtain ⟨rest, rfl⟩ : ∃ rest, exponent = rest + 1 := ⟨exponent - 1, by omega⟩
  have hten : number * 10 ^ (rest + 1) = 10 * (number * 10 ^ rest) := by
    rw [Nat.pow_succ]
    ring
  omega

/-- An amount whose product fits is multiplied exactly. -/
theorem multiply_amount_exact {exponent : Nat} (h : 10 ^ exponent < 2 ^ 112)
    (debugAssertions : Bool) {amount : U128} (hproduct : amount.toNat * 10 ^ exponent < 2 ^ 112) :
    ∃ r, multiplyAmount debugAssertions amount exponent = .ok (some r) ∧
      r.toNat = amount.toNat * 10 ^ exponent := by
  have hpos : 0 < 10 ^ exponent := Nat.pow_pos (by omega)
  have hamount : amount.toNat < 2 ^ 112 :=
    Nat.lt_of_le_of_lt (Nat.le_mul_of_pos_right _ hpos) hproduct
  refine ⟨_, by rw [multiply_amount_eq h, if_pos hamount], ?_⟩
  rw [Nat.min_eq_left (by omega), BitVec.toNat_ofNat]
  exact Nat.mod_eq_of_lt (by omega)

/-- An amount that fits and is not less than the divisor is divided exactly. -/
theorem divide_amount_exact {exponent : Nat} (h : 10 ^ exponent < 2 ^ 112) (debugAssertions : Bool)
    {amount : U128} (hamount : amount.toNat < 2 ^ 112) (hle : 10 ^ exponent ≤ amount.toNat) :
    ∃ r, divideAmount debugAssertions amount exponent = .ok (some r) ∧
      r.toNat = amount.toNat / 10 ^ exponent := by
  have hpos : 0 < 10 ^ exponent := Nat.pow_pos (by omega)
  have hne : ¬ amount.toNat / 10 ^ exponent = 0 := by
    rw [Nat.div_eq_zero_iff_lt hpos]
    omega
  have hlt : amount.toNat / 10 ^ exponent < 2 ^ 128 :=
    Nat.lt_of_le_of_lt (Nat.div_le_self _ _) amount.isLt
  refine ⟨BitVec.ofNat 128 (amount.toNat / 10 ^ exponent), ?_, ?_⟩
  · rw [divide_amount_eq h, if_pos (.inl hamount), Nat.mod_eq_of_lt hamount, if_neg hne]
  · rw [BitVec.toNat_ofNat]
    exact Nat.mod_eq_of_lt hlt

/-- An amount other than zero passes the assertion. -/
theorem into_asset_nonzero (debugAssertions : Bool) (id : AssetId) {r : U128} (h : 1 ≤ r.toNat) :
    intoAsset debugAssertions id (.ok (some r)) = .ok (some ⟨id, .fungible r⟩) := by
  refine into_asset_ok.mpr ⟨r, rfl, ?_, rfl⟩
  rintro - rfl
  exact absurd h (by decide)

/-- Bridging out and back yields at most what was sent. -/
theorem out_and_back_le {debugAssertions : Bool} {x r : U128} {asset : MultiAsset}
    (hdecimal : decimalsOf decimalPairs id = some decimal)
    (hto : convertTo debugAssertions decimalPairs ⟨id, .fungible x⟩ = .ok (some r))
    (hfrom : convertFrom debugAssertions decimalPairs ⟨id, .fungible r⟩ = .ok (some asset)) :
    ∃ y, asset = ⟨id, .fungible y⟩ ∧ y.toNat ≤ x.toNat := by
  obtain ⟨outward, houtward, hout⟩ := convert_to_le hto
  obtain ⟨inward, y, hinward, hasset, hback⟩ := convert_from_le hfrom
  obtain rfl : decimal = outward := Option.some.inj (hdecimal.symm.trans houtward)
  obtain rfl : decimal = inward := Option.some.inj (hdecimal.symm.trans hinward)
  exact ⟨y, hasset, Nat.le_of_mul_le_mul_right (hback.trans hout) (finer_pos decimal)⟩

/-- Bridging back and out again yields at most what came in. -/
theorem back_and_out_le {debugAssertions : Bool} {r r' : U128} {asset : MultiAsset}
    (hdecimal : decimalsOf decimalPairs id = some decimal)
    (hfrom : convertFrom debugAssertions decimalPairs ⟨id, .fungible r⟩ = .ok (some asset))
    (hto : convertTo debugAssertions decimalPairs asset = .ok (some r')) :
    r'.toNat ≤ r.toNat := by
  obtain ⟨inward, x, hinward, rfl, hback⟩ := convert_from_le hfrom
  obtain ⟨outward, houtward, hout⟩ := convert_to_le hto
  obtain rfl : decimal = outward := Option.some.inj (hdecimal.symm.trans houtward)
  obtain rfl : decimal = inward := Option.some.inj (hdecimal.symm.trans hinward)
  exact Nat.le_of_mul_le_mul_right (hout.trans hback) (coarser_pos decimal)

/-- With at most 18 decimals, an amount whose conversion fits comes back as it was. -/
theorem out_and_back_exact (hdecimal : decimalsOf decimalPairs id = some decimal)
    (debugAssertions : Bool) {x : U128} (hle : decimal.toNat ≤ 18) (hx : 1 ≤ x.toNat)
    (hfits : decimal.toNat < 18 → x.toNat * 10 ^ (18 - decimal.toNat) ≤ 2 ^ 112) :
    ∃ r, convertTo debugAssertions decimalPairs ⟨id, .fungible x⟩ = .ok (some r) ∧
      convertFrom debugAssertions decimalPairs ⟨id, .fungible r⟩ =
        .ok (some ⟨id, .fungible x⟩) := by
  have hnot : ¬ 18 < decimal.toNat := by omega
  by_cases heq : decimal.toNat = 18
  · refine ⟨x, ?_, ?_⟩
    · rw [convert_to_eq hdecimal, if_pos heq]
    · rw [convert_from_eq hdecimal, if_pos heq]
      exact into_asset_nonzero debugAssertions id hx
  · have hproduct := tens_lt (by omega : 0 < 18 - decimal.toNat) (hfits (by omega))
    have hpos : 0 < 10 ^ (18 - decimal.toNat) := Nat.pow_pos (by omega)
    have hpower : 10 ^ (18 - decimal.toNat) < 2 ^ 112 :=
      Nat.lt_of_le_of_lt (Nat.le_mul_of_pos_left _ hx) hproduct
    obtain ⟨r, hto, hr⟩ := multiply_amount_exact hpower debugAssertions hproduct
    have hmultiple : 10 ^ (18 - decimal.toNat) ≤ r.toNat := by
      rw [hr]
      exact Nat.le_mul_of_pos_left _ hx
    obtain ⟨y, hfrom, hy⟩ := divide_amount_exact hpower debugAssertions (hr ▸ hproduct) hmultiple
    rw [hr, Nat.mul_div_cancel _ hpos] at hy
    obtain rfl : y = x := BitVec.eq_of_toNat_eq hy
    refine ⟨r, ?_, ?_⟩
    · rw [convert_to_eq hdecimal, if_neg heq, if_neg hnot]
      exact hto
    · rw [convert_from_eq hdecimal, if_neg heq, if_neg hnot, hfrom]
      exact into_asset_nonzero debugAssertions id hx

/-- With more than 18 decimals, an amount that fits and does not vanish comes back, less at most
what the division cuts off. -/
theorem out_and_back_loses (hdecimal : decimalsOf decimalPairs id = some decimal)
    (debugAssertions : Bool) {x : U128} (hgt : 18 < decimal.toNat) (hx : x.toNat < 2 ^ 112)
    (hle : 10 ^ (decimal.toNat - 18) ≤ x.toNat) :
    ∃ r y, convertTo debugAssertions decimalPairs ⟨id, .fungible x⟩ = .ok (some r) ∧
      convertFrom debugAssertions decimalPairs ⟨id, .fungible r⟩ = .ok (some ⟨id, .fungible y⟩) ∧
      x.toNat < y.toNat + 10 ^ (decimal.toNat - 18) := by
  have hne : ¬ decimal.toNat = 18 := by omega
  have hpos : 0 < 10 ^ (decimal.toNat - 18) := Nat.pow_pos (by omega)
  have hpower : 10 ^ (decimal.toNat - 18) < 2 ^ 112 := by omega
  obtain ⟨r, hto, hr⟩ := divide_amount_exact hpower debugAssertions hx hle
  have hproduct : r.toNat * 10 ^ (decimal.toNat - 18) < 2 ^ 112 := by
    rw [hr]
    exact Nat.lt_of_le_of_lt (Nat.div_mul_le_self _ _) hx
  obtain ⟨y, hfrom, hy⟩ := multiply_amount_exact hpower debugAssertions hproduct
  refine ⟨r, y, ?_, ?_, ?_⟩
  · rw [convert_to_eq hdecimal, if_neg hne, if_pos hgt]
    exact hto
  · rw [convert_from_eq hdecimal, if_neg hne, if_pos hgt, hfrom]
    refine into_asset_nonzero debugAssertions id ?_
    rw [hy, hr]
    exact Nat.mul_pos (Nat.div_pos hle hpos) hpos
  · rw [hy, hr]
    exact Nat.lt_div_mul_add hpos

/-- An amount that does vanish is refused, also the one just beyond the range. -/
theorem out_vanishes (hdecimal : decimalsOf decimalPairs id = some decimal)
    (debugAssertions : Bool) {x : U128} (hgt : 18 < decimal.toNat)
    (hpower : 10 ^ (decimal.toNat - 18) < 2 ^ 112)
    (hx : x.toNat < 10 ^ (decimal.toNat - 18) ∨ x.toNat = 2 ^ 112) :
    ∀ r, convertTo debugAssertions decimalPairs ⟨id, .fungible x⟩ ≠ .ok (some r) := by
  intro r h
  have hne : ¬ decimal.toNat = 18 := by omega
  have hpos : 0 < 10 ^ (decimal.toNat - 18) := Nat.pow_pos (by omega)
  have hvanish : x.toNat % 2 ^ 112 / 10 ^ (decimal.toNat - 18) = 0 := by
    rw [Nat.div_eq_zero_iff_lt hpos]
    rcases hx with hlt | heq
    · exact Nat.lt_of_le_of_lt (Nat.mod_le _ _) hlt
    · rw [heq, Nat.mod_self]
      exact hpos
  rw [convert_to_eq hdecimal, if_neg hne, if_pos hgt, divide_amount_eq hpower, if_pos hvanish] at h
  split at h <;> cases h

/-- Bridging out and back, or back and out, never yields more than it started from. Within the range
of the fixed-point numbers, bridging out and back returns the amount itself for at most 18 decimals;
for more, it returns an amount whenever the division leaves one, and loses less than the divisor. -/
theorem round_trip_bounded (hdecimal : decimalsOf decimalPairs id = some decimal)
    (debugAssertions : Bool) :
    (∀ x r asset, convertTo debugAssertions decimalPairs ⟨id, .fungible x⟩ = .ok (some r) →
      convertFrom debugAssertions decimalPairs ⟨id, .fungible r⟩ = .ok (some asset) →
      ∃ y, asset = ⟨id, .fungible y⟩ ∧ y.toNat ≤ x.toNat) ∧
    (∀ r r' asset, convertFrom debugAssertions decimalPairs ⟨id, .fungible r⟩ = .ok (some asset) →
      convertTo debugAssertions decimalPairs asset = .ok (some r') → r'.toNat ≤ r.toNat) ∧
    (∀ x : U128, decimal.toNat ≤ 18 → 1 ≤ x.toNat →
      (decimal.toNat < 18 → x.toNat * 10 ^ (18 - decimal.toNat) ≤ 2 ^ 112) →
      ∃ r, convertTo debugAssertions decimalPairs ⟨id, .fungible x⟩ = .ok (some r) ∧
        convertFrom debugAssertions decimalPairs ⟨id, .fungible r⟩ =
          .ok (some ⟨id, .fungible x⟩)) ∧
    (∀ x : U128, 18 < decimal.toNat → x.toNat ≤ 2 ^ 112 →
      10 ^ (decimal.toNat - 18) ≤ 2 ^ 112 →
      (∀ r, convertTo debugAssertions decimalPairs ⟨id, .fungible x⟩ ≠ .ok (some r)) ∧
          (x.toNat < 10 ^ (decimal.toNat - 18) ∨ x.toNat = 2 ^ 112) ∨
        ∃ r y, convertTo debugAssertions decimalPairs ⟨id, .fungible x⟩ = .ok (some r) ∧
          convertFrom debugAssertions decimalPairs ⟨id, .fungible r⟩ =
            .ok (some ⟨id, .fungible y⟩) ∧
          x.toNat < y.toNat + 10 ^ (decimal.toNat - 18)) := by
  refine ⟨fun _ _ _ => out_and_back_le hdecimal, fun _ _ _ => back_and_out_le hdecimal,
    fun _ => out_and_back_exact hdecimal debugAssertions, ?_⟩
  intro x hgt hx hpower
  have hlt : 10 ^ (decimal.toNat - 18) < 2 ^ 112 := by
    rw [← Nat.one_mul (10 ^ (decimal.toNat - 18))] at hpower ⊢
    exact tens_lt (by omega) hpower
  by_cases hkept : 10 ^ (decimal.toNat - 18) ≤ x.toNat ∧ x.toNat < 2 ^ 112
  · exact .inr (out_and_back_loses hdecimal debugAssertions hgt hkept.2 hkept.1)
  · have hgone : x.toNat < 10 ^ (decimal.toNat - 18) ∨ x.toNat = 2 ^ 112 := by omega
    exact .inl ⟨out_vanishes hdecimal debugAssertions hgt hlt hgone, hgone⟩

/-- The native asset has 12 decimals, so an amount of 1000 comes back as it was. -/
theorem round_trip_bounded_native :
    decimalsOf Standalone.assetDecimalPairs (.concrete Standalone.nativeLocation) = some 12 ∧
      ∃ r, convertTo true Standalone.assetDecimalPairs
          ⟨.concrete Standalone.nativeLocation, .fungible 1000⟩ = .ok (some r) ∧
        convertFrom true Standalone.assetDecimalPairs
            ⟨.concrete Standalone.nativeLocation, .fungible r⟩ =
          .ok (some ⟨.concrete Standalone.nativeLocation, .fungible 1000⟩) := by
  have hdecimal : decimalsOf Standalone.assetDecimalPairs (.concrete Standalone.nativeLocation) =
      some 12 := by decide
  obtain ⟨-, -, hexact, -⟩ := round_trip_bounded hdecimal true
  exact ⟨hdecimal, hexact 1000 (by decide) (by decide) fun _ => by decide⟩

end Sygma
