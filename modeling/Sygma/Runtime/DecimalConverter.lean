import Sygma.Library.FixedPoint
import Sygma.Config

/-!
# The decimal converter of the runtimes

`SygmaDecimalConverter` converts an amount between the decimals of its asset, given by a table, and
18 decimals. It computes in fixed-point numbers of 112 integer and 16 fractional bits. The
conversions round down and are held at the greatest integer, and both use the same power of ten, so
neither direction creates value: `convert_to_le` and `convert_from_le`.
-/

namespace Sygma

open Exec (Panic)

/-- The fixed-point numbers of the converter. -/
abbrev U112F16 := FixedPoint 128 16

/-- A power of a 128-bit number, held at the greatest one. -/
def saturatingPow (base : U128) (exponent : Nat) : U128 :=
  if base.toNat ^ exponent < 2 ^ 128 then BitVec.ofNat 128 (base.toNat ^ exponent)
  else BitVec.allOnes 128

/-- The quotient of an amount by a power of ten, nothing if it is zero. -/
def divideAmount (debugAssertions : Bool) (amount : U128) (exponent : Nat) :
    Except Panic (Option U128) := do
  let a : U112F16 ← FixedPoint.fromNum debugAssertions (saturatingPow 10 exponent).toNat
  let dividend : U112F16 ← FixedPoint.fromNum debugAssertions amount.toNat
  let b := dividend.checkedDiv a
  let r := BitVec.ofNat 128 (b.getD (FixedPoint.wrappingFromNum 0)).toNum
  if r = 0 then pure none else pure (some r)

/-- The product of an amount and a power of ten, nothing if the amount is out of range. -/
def multiplyAmount (debugAssertions : Bool) (amount : U128) (exponent : Nat) :
    Except Panic (Option U128) := do
  if FixedPoint.exceedsMax 128 16 amount.toNat then pure none
  else
    let a : U112F16 ← FixedPoint.fromNum debugAssertions (saturatingPow 10 exponent).toNat
    let factor : U112F16 ← FixedPoint.fromNum debugAssertions amount.toNat
    pure (some (BitVec.ofNat 128 (factor.saturatingMul a).toNum))

/-- The decimals of an asset: the first entry of the table. -/
def decimalsOf (decimalPairs : List (AssetId × U8)) (asset : AssetId) : Option U8 :=
  (decimalPairs.find? fun pair => pair.1 == asset).map fun pair => pair.2

/-- An amount in the decimals of its asset, in 18 decimals. -/
def convertTo (debugAssertions : Bool) (decimalPairs : List (AssetId × U8)) (asset : MultiAsset) :
    Except Panic (Option U128) :=
  match asset.fun_ with
  | .fungible amount =>
      match decimalsOf decimalPairs asset.id with
      | some decimal =>
          if decimal = 18 then .ok (some amount)
          else if decimal > 18 then divideAmount debugAssertions amount (decimal.toNat - 18)
          else multiplyAmount debugAssertions amount (18 - decimal.toNat)
      | none => .ok none
  | .nonFungible _ => .ok none

/-- A converted amount as an amount of its asset. -/
def intoAsset (debugAssertions : Bool) (id : AssetId) (converted : Except Panic (Option U128)) :
    Except Panic (Option MultiAsset) := do
  match ← converted with
  | some r => return some (← MultiAsset.ofAmount debugAssertions id r)
  | none => return none

/-- An amount in 18 decimals, in the decimals of its asset. -/
def convertFrom (debugAssertions : Bool) (decimalPairs : List (AssetId × U8))
    (asset : MultiAsset) : Except Panic (Option MultiAsset) :=
  match asset.fun_ with
  | .fungible amount =>
      match decimalsOf decimalPairs asset.id with
      | some decimal =>
          -- zero is an amount only where it was not divided, and is then subject to the assertion
          intoAsset debugAssertions asset.id
            (if decimal = 18 then .ok (some amount)
            else if decimal > 18 then multiplyAmount debugAssertions amount (decimal.toNat - 18)
            else divideAmount debugAssertions amount (18 - decimal.toNat))
      | none => .ok none
  | .nonFungible _ => .ok none

/-- The converter of the runtimes, for a table of decimals. Debug assertions bring the overflow
checks of the fixed-point crate with them. -/
def sygmaDecimalConverter (debugAssertions : Bool) (decimalPairs : List (AssetId × U8)) :
    DecimalConverter where
  convertTo := convertTo debugAssertions decimalPairs
  convertFrom := convertFrom debugAssertions decimalPairs

/-! ## Rounding -/

/-- A power of ten that fits the converter's numbers is computed exactly. -/
theorem saturating_pow_ten {exponent : Nat} (h : 10 ^ exponent < 2 ^ 112) :
    (saturatingPow 10 exponent).toNat = 10 ^ exponent := by
  have hlt : (10 : U128).toNat ^ exponent < 2 ^ 128 :=
    Nat.lt_of_lt_of_le h (Nat.pow_le_pow_right (by omega) (by omega))
  rw [saturatingPow, if_pos hlt, BitVec.toNat_ofNat]
  exact Nat.mod_eq_of_lt hlt

/-- The power of ten both directions compute with, as it fits the fixed-point numbers. -/
def scale (exponent : Nat) : Nat :=
  (saturatingPow 10 exponent).toNat % 2 ^ 112

/-- A power of ten that fits is used as it is. -/
theorem scale_eq {exponent : Nat} (h : 10 ^ exponent < 2 ^ 112) :
    scale exponent = 10 ^ exponent := by
  rw [scale, saturating_pow_ten h]
  exact Nat.mod_eq_of_lt h

theorem from_num_ok {debugAssertions : Bool} {number : Nat} {result : U112F16}
    (h : FixedPoint.fromNum debugAssertions number = .ok result) :
    result = FixedPoint.wrappingFromNum number := by
  unfold FixedPoint.fromNum at h
  split at h
  · cases h
    rfl
  · cases h

/-- A quotient times its divisor is at most the amount. -/
theorem divide_amount_le {debugAssertions : Bool} {amount r : U128} {exponent : Nat}
    (h : divideAmount debugAssertions amount exponent = .ok (some r)) :
    r.toNat * scale exponent ≤ amount.toNat := by
  simp only [divideAmount, Exec.except_bind_ok] at h
  obtain ⟨a, ha, dividend, hdividend, hresult⟩ := h
  rw [from_num_ok ha, from_num_ok hdividend, FixedPoint.toNum_checkedDiv (by omega)] at hresult
  split at hresult
  · cases hresult
  · cases hresult
    have hdiv : amount.toNat % 2 ^ 112 / scale exponent ≤ amount.toNat :=
      (Nat.div_le_self _ _).trans (Nat.mod_le _ _)
    show (BitVec.ofNat 128 (amount.toNat % 2 ^ 112 / scale exponent)).toNat * scale exponent ≤ _
    rw [BitVec.toNat_ofNat, Nat.mod_eq_of_lt (Nat.lt_of_le_of_lt hdiv amount.isLt)]
    exact (Nat.div_mul_le_self _ _).trans (Nat.mod_le _ _)

/-- A product is at most the exact one. -/
theorem multiply_amount_le {debugAssertions : Bool} {amount r : U128} {exponent : Nat}
    (h : multiplyAmount debugAssertions amount exponent = .ok (some r)) :
    r.toNat ≤ amount.toNat * scale exponent := by
  unfold multiplyAmount at h
  split at h
  · cases h
  · simp only [Exec.except_bind_ok] at h
    obtain ⟨a, ha, factor, hfactor, hresult⟩ := h
    rw [from_num_ok ha, from_num_ok hfactor, FixedPoint.toNum_saturatingMul (by omega)] at hresult
    cases hresult
    calc (BitVec.ofNat 128 _).toNat
        ≤ min (amount.toNat % 2 ^ 112 * scale exponent) (2 ^ 112 - 1) := by
          rw [BitVec.toNat_ofNat]
          exact Nat.mod_le _ _
      _ ≤ amount.toNat % 2 ^ 112 * scale exponent := Nat.min_le_left _ _
      _ ≤ amount.toNat * scale exponent := Nat.mul_le_mul_right _ (Nat.mod_le _ _)

/-- The factor by which 18 decimals are finer than those of an asset. -/
def finer (decimal : U8) : Nat :=
  if decimal < 18 then scale (18 - decimal.toNat) else 1

/-- The factor by which 18 decimals are coarser than those of an asset. -/
def coarser (decimal : U8) : Nat :=
  if 18 < decimal then scale (decimal.toNat - 18) else 1

/-- The finer factor always fits. -/
theorem finer_eq (decimal : U8) : finer decimal = 10 ^ (18 - decimal.toNat) := by
  unfold finer
  split <;> rename_i h
  · refine scale_eq (Nat.lt_of_le_of_lt (Nat.pow_le_pow_right (by omega) (Nat.sub_le 18 _)) ?_)
    decide
  · have hge : 18 ≤ decimal.toNat := by simpa [BitVec.lt_def] using h
    rw [Nat.sub_eq_zero_of_le hge, Nat.pow_zero]

theorem finer_pos (decimal : U8) : 0 < finer decimal := by
  rw [finer_eq]
  exact Nat.pow_pos (by omega)

/-- Converting to 18 decimals does not create value. -/
theorem convert_to_le {debugAssertions : Bool} {decimalPairs : List (AssetId × U8)} {id : AssetId}
    {amount r : U128}
    (h : convertTo debugAssertions decimalPairs ⟨id, .fungible amount⟩ = .ok (some r)) :
    ∃ decimal, decimalsOf decimalPairs id = some decimal ∧
      r.toNat * coarser decimal ≤ amount.toNat * finer decimal := by
  unfold convertTo at h
  cases hdecimal : decimalsOf decimalPairs id with
  | none => simp [hdecimal] at h
  | some decimal =>
      simp only [hdecimal] at h
      refine ⟨decimal, rfl, ?_⟩
      unfold coarser finer
      by_cases heq : decimal = 18
      · subst heq
        cases h
        simp
      · by_cases hgt : decimal > 18
        · have hnot : ¬ decimal < 18 := by bv_omega
          rw [if_neg heq, if_pos hgt] at h
          rw [if_pos hgt, if_neg hnot, Nat.mul_one]
          exact divide_amount_le h
        · have hlt : decimal < 18 := by bv_omega
          rw [if_neg heq, if_neg hgt] at h
          rw [if_neg hgt, if_pos hlt, Nat.mul_one]
          exact multiply_amount_le h

theorem into_asset_ok {debugAssertions : Bool} {id : AssetId}
    {converted : Except Panic (Option U128)} {asset : MultiAsset} :
    intoAsset debugAssertions id converted = .ok (some asset) ↔
      ∃ r, converted = .ok (some r) ∧ (debugAssertions = true → r ≠ 0) ∧
        asset = ⟨id, .fungible r⟩ := by
  unfold intoAsset
  rw [Exec.except_bind_ok]
  constructor
  · rintro ⟨answer, hconverted, hanswer⟩
    cases answer with
    | none => cases hanswer
    | some r =>
        obtain ⟨named, hnamed, hasset⟩ := Exec.except_bind_ok.mp hanswer
        cases hasset
        obtain ⟨hnonzero, hasset⟩ := MultiAsset.of_amount_ok.mp hnamed
        exact ⟨r, hconverted, hnonzero, hasset⟩
  · rintro ⟨r, hconverted, hnonzero, hasset⟩
    have hnamed := MultiAsset.of_amount_ok.mpr ⟨hnonzero, hasset⟩
    exact ⟨some r, hconverted, Exec.except_bind_ok.mpr ⟨asset, hnamed, rfl⟩⟩

/-- Converting from 18 decimals keeps the asset and does not create value. -/
theorem convert_from_le {debugAssertions : Bool} {decimalPairs : List (AssetId × U8)} {id : AssetId}
    {amount : U128} {asset : MultiAsset}
    (h : convertFrom debugAssertions decimalPairs ⟨id, .fungible amount⟩ = .ok (some asset)) :
    ∃ decimal r, decimalsOf decimalPairs id = some decimal ∧ asset = ⟨id, .fungible r⟩ ∧
      r.toNat * finer decimal ≤ amount.toNat * coarser decimal := by
  unfold convertFrom at h
  cases hdecimal : decimalsOf decimalPairs id with
  | none => simp [hdecimal] at h
  | some decimal =>
      simp only [hdecimal] at h
      obtain ⟨r, hr, -, rfl⟩ := into_asset_ok.mp h
      refine ⟨decimal, r, rfl, rfl, ?_⟩
      unfold coarser finer
      by_cases heq : decimal = 18
      · subst heq
        cases hr
        simp
      · by_cases hgt : decimal > 18
        · have hnot : ¬ decimal < 18 := by bv_omega
          rw [if_neg heq, if_pos hgt] at hr
          rw [if_pos hgt, if_neg hnot, Nat.mul_one]
          exact multiply_amount_le hr
        · have hlt : decimal < 18 := by bv_omega
          rw [if_neg heq, if_neg hgt] at hr
          rw [if_neg hgt, if_pos hlt, Nat.mul_one]
          exact divide_amount_le hr

/-! ## Conversion in value -/

/-- Every power of ten that the converter uses for a table fits its numbers. -/
def SmallDecimals (decimalPairs : List (AssetId × U8)) : Prop :=
  ∀ pair ∈ decimalPairs, 10 ^ ((pair.2.toNat : Int) - 18).natAbs < 2 ^ 112

instance (decimalPairs : List (AssetId × U8)) : Decidable (SmallDecimals decimalPairs) :=
  inferInstanceAs (Decidable (∀ pair ∈ decimalPairs, _))

/-- With small decimals the coarser factor fits too. -/
theorem coarser_eq {decimalPairs : List (AssetId × U8)} (hsmall : SmallDecimals decimalPairs)
    {asset : AssetId} {decimal : U8} (h : decimalsOf decimalPairs asset = some decimal) :
    coarser decimal = 10 ^ (decimal.toNat - 18) := by
  unfold coarser
  split <;> rename_i hlt
  · have hge : 18 < decimal.toNat := by simpa [BitVec.lt_def] using hlt
    obtain ⟨pair, hfind, rfl⟩ := Option.map_eq_some_iff.mp h
    have hfits := hsmall pair (List.mem_of_find?_eq_some hfind)
    rw [show ((pair.2.toNat : Int) - 18).natAbs = pair.2.toNat - 18 by omega] at hfits
    exact scale_eq hfits
  · have hle : decimal.toNat ≤ 18 := by simpa [BitVec.lt_def] using hlt
    rw [Nat.sub_eq_zero_of_le hle, Nat.pow_zero]

/-- Scaling two amounts by powers of ten on the side where their decimals are short is scaling each
by the other's decimals. -/
theorem scaled_le {first second d e : Nat} (h : first * 10 ^ (d - e) ≤ second * 10 ^ (e - d)) :
    first * 10 ^ d ≤ second * 10 ^ e := by
  have hleft : 10 ^ d = 10 ^ (d - e) * 10 ^ min d e := by
    rw [← Nat.pow_add]
    congr 1
    omega
  have hright : 10 ^ e = 10 ^ (e - d) * 10 ^ min d e := by
    rw [← Nat.pow_add]
    congr 1
    omega
  rw [hleft, hright, ← Nat.mul_assoc, ← Nat.mul_assoc]
  exact Nat.mul_le_mul_right _ h

/-- The value of the 18-decimal amount is at most that of the converted one. -/
theorem convert_to_value {debugAssertions : Bool} {decimalPairs : List (AssetId × U8)}
    (hsmall : SmallDecimals decimalPairs) {id : AssetId} {amount r : U128}
    (h : convertTo debugAssertions decimalPairs ⟨id, .fungible amount⟩ = .ok (some r)) :
    ∃ decimal, decimalsOf decimalPairs id = some decimal ∧
      r.toNat * 10 ^ decimal.toNat ≤ amount.toNat * 10 ^ 18 := by
  obtain ⟨decimal, hdecimal, hle⟩ := convert_to_le h
  rw [finer_eq, coarser_eq hsmall hdecimal] at hle
  exact ⟨decimal, hdecimal, scaled_le hle⟩

/-- The value of the local amount is at most that of the 18-decimal one. -/
theorem convert_from_value {debugAssertions : Bool} {decimalPairs : List (AssetId × U8)}
    (hsmall : SmallDecimals decimalPairs) {id : AssetId} {amount : U128} {asset : MultiAsset}
    (h : convertFrom debugAssertions decimalPairs ⟨id, .fungible amount⟩ = .ok (some asset)) :
    ∃ decimal r, decimalsOf decimalPairs id = some decimal ∧ asset = ⟨id, .fungible r⟩ ∧
      r.toNat * 10 ^ 18 ≤ amount.toNat * 10 ^ decimal.toNat := by
  obtain ⟨decimal, r, hdecimal, hasset, hle⟩ := convert_from_le h
  rw [finer_eq, coarser_eq hsmall hdecimal] at hle
  exact ⟨decimal, r, hdecimal, hasset, scaled_le hle⟩

end Sygma
