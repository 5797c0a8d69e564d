import Sygma.Runtime.Conversion
import Sygma.Runtime.TwoChains

/-!
# What arrives

A transfer is rescaled twice, to 18 decimals when it is deposited and to the decimals of the other
chain when it is paid out, and each rescaling rounds down and saturates. `transfer_precise` says
what comes out over every run of two chains: as long as the amounts fit 112 bits on the way, the
payout for a deposit is exactly the bridged amount rescaled twice, and it falls short of the bridged
amount by less than one unit of the coarser of the two scales it was rounded to.
-/

namespace Sygma

open Bridge

/-! ## One conversion -/

section Conversion

variable {debugAssertions : Bool} {decimalPairs : List (AssetId × U8)} {id : AssetId}

/-- Amounts that no conversion cuts off on the way: neither the amount itself, nor what it is
multiplied to for 18 decimals, nor what that is multiplied to for the decimals of the other chain
goes beyond 112 bits. -/
structure FitsThrough (amount source dest : Nat) : Prop where
  bridged : amount < 2 ^ 112
  published : amount * 10 ^ (18 - source) < 2 ^ 112
  paid : amount * 10 ^ 18 / 10 ^ source * 10 ^ (dest - 18) < 2 ^ 112

/-- A product that fits is exact. -/
theorem multiply_amount_fits {amount r : U128} {exponent : Nat} (hpower : 10 ^ exponent < 2 ^ 112)
    (hfits : amount.toNat * 10 ^ exponent < 2 ^ 112)
    (h : multiplyAmount debugAssertions amount exponent = .ok (some r)) :
    r.toNat = amount.toNat * 10 ^ exponent := by
  obtain ⟨exact_, hexact, hvalue⟩ := multiply_amount_exact hpower debugAssertions hfits
  rw [hexact] at h
  cases h
  exact hvalue

/-- The quotient of an amount that fits is exact. -/
theorem divide_amount_fits {amount r : U128} {exponent : Nat} (hpower : 10 ^ exponent < 2 ^ 112)
    (hfits : amount.toNat < 2 ^ 112)
    (h : divideAmount debugAssertions amount exponent = .ok (some r)) :
    r.toNat = amount.toNat / 10 ^ exponent := by
  rw [divide_amount_eq hpower, if_pos (.inl hfits), Nat.mod_eq_of_lt hfits] at h
  split at h
  · cases h
  · cases h
    rw [BitVec.toNat_ofNat]
    exact Nat.mod_eq_of_lt (Nat.lt_of_le_of_lt (Nat.div_le_self _ _) amount.isLt)

/-- An amount that fits is converted to 18 decimals exactly. -/
theorem convert_to_fits (hsmall : SmallDecimals decimalPairs) {decimal : U8}
    (hdecimal : decimalsOf decimalPairs id = some decimal) {amount r : U128}
    (hamount : amount.toNat < 2 ^ 112)
    (hfits : amount.toNat * 10 ^ (18 - decimal.toNat) < 2 ^ 112)
    (h : convertTo debugAssertions decimalPairs ⟨id, .fungible amount⟩ = .ok (some r)) :
    r.toNat = amount.toNat * 10 ^ 18 / 10 ^ decimal.toNat := by
  obtain ⟨habove, hbelow⟩ := hsmall.fits hdecimal
  rw [convert_to_eq hdecimal] at h
  rcases Nat.lt_trichotomy decimal.toNat 18 with hlt | heq | hgt
  · rw [if_neg (by omega), if_neg (by omega)] at h
    rw [rescale_up (by omega)]
    exact multiply_amount_fits hbelow hfits h
  · rw [if_pos heq] at h
    cases h
    rw [heq, Nat.mul_div_cancel _ (by omega)]
  · rw [if_neg (by omega), if_pos hgt] at h
    rw [rescale_down (by omega)]
    exact divide_amount_fits habove hamount h

/-- An amount that fits is converted from 18 decimals exactly. -/
theorem convert_from_fits (hsmall : SmallDecimals decimalPairs) {decimal : U8}
    (hdecimal : decimalsOf decimalPairs id = some decimal) {amount r : U128}
    (hamount : amount.toNat < 2 ^ 112)
    (hfits : amount.toNat * 10 ^ (decimal.toNat - 18) < 2 ^ 112)
    (h : convertFrom debugAssertions decimalPairs ⟨id, .fungible amount⟩ =
      .ok (some ⟨id, .fungible r⟩)) :
    r.toNat = amount.toNat * 10 ^ decimal.toNat / 10 ^ 18 := by
  obtain ⟨habove, hbelow⟩ := hsmall.fits hdecimal
  rw [convert_from_eq hdecimal] at h
  obtain ⟨found, hfound, -, hr⟩ := into_asset_ok.mp h
  cases hr
  rcases Nat.lt_trichotomy decimal.toNat 18 with hlt | heq | hgt
  · rw [if_neg (by omega), if_neg (by omega)] at hfound
    rw [rescale_down (by omega)]
    exact divide_amount_fits hbelow hamount hfound
  · rw [if_pos heq] at hfound
    cases hfound
    rw [heq, Nat.mul_div_cancel _ (by omega)]
  · rw [if_neg (by omega), if_pos hgt] at hfound
    rw [rescale_up (by omega)]
    exact multiply_amount_fits habove hfits hfound

end Conversion

/-! ## Both conversions -/

/-- An amount with `source` decimals, rescaled to 18 and then to `dest` decimals. -/
def rescaled (source dest amount : Nat) : Nat :=
  amount * 10 ^ 18 / 10 ^ source * 10 ^ dest / 10 ^ 18

/-- What is published for an amount that fits through fits too. -/
theorem FitsThrough.published_lt {amount source dest : Nat} (h : FitsThrough amount source dest) :
    amount * 10 ^ 18 / 10 ^ source < 2 ^ 112 := by
  rcases Nat.le_total source 18 with hle | hge
  · rw [rescale_up hle]
    exact h.published
  · rw [rescale_down hge]
    exact Nat.lt_of_le_of_lt (Nat.div_le_self _ _) h.bridged

/-- Rescaling twice rounds down to the coarser of the two scales, and no further. -/
theorem lt_rescaled (source dest amount : Nat) :
    amount * 10 ^ dest < (rescaled source dest amount + 10 ^ (dest - 18)) * 10 ^ source := by
  have hpublished : amount * 10 ^ 18 < (amount * 10 ^ 18 / 10 ^ source + 1) * 10 ^ source := by
    rw [Nat.mul_comm (_ + 1)]
    exact Nat.lt_mul_div_succ _ (Nat.pow_pos (by omega))
  unfold rescaled
  generalize amount * 10 ^ 18 / 10 ^ source = published at hpublished ⊢
  rcases Nat.le_total dest 18 with hle | hge
  · -- the second rescaling divides, and cuts off less than one unit of the other chain
    have hpaid : published + 1 ≤ (published / 10 ^ (18 - dest) + 1) * 10 ^ (18 - dest) := by
      rw [Nat.mul_comm (_ + 1)]
      exact Nat.lt_mul_div_succ _ (Nat.pow_pos (by omega))
    have hsplit : 10 ^ 18 = 10 ^ dest * 10 ^ (18 - dest) := by
      rw [← Nat.pow_add]
      congr 1
      omega
    rw [rescale_down hle, Nat.sub_eq_zero_of_le hle, Nat.pow_zero]
    refine Nat.lt_of_mul_lt_mul_right (a := 10 ^ (18 - dest)) ?_
    calc amount * 10 ^ dest * 10 ^ (18 - dest)
        = amount * 10 ^ 18 := by rw [hsplit, Nat.mul_assoc]
      _ < (published + 1) * 10 ^ source := hpublished
      _ ≤ (published / 10 ^ (18 - dest) + 1) * 10 ^ (18 - dest) * 10 ^ source :=
          Nat.mul_le_mul_right _ hpaid
      _ = (published / 10 ^ (18 - dest) + 1) * 10 ^ source * 10 ^ (18 - dest) := by ring
  · -- the second rescaling multiplies, and keeps what the first has left
    have hsplit : 10 ^ dest = 10 ^ 18 * 10 ^ (dest - 18) := by
      rw [← Nat.pow_add]
      congr 1
      omega
    rw [rescale_up hge]
    calc amount * 10 ^ dest
        = amount * 10 ^ 18 * 10 ^ (dest - 18) := by rw [hsplit, Nat.mul_assoc]
      _ < (published + 1) * 10 ^ source * 10 ^ (dest - 18) :=
          Nat.mul_lt_mul_of_pos_right hpublished (Nat.pow_pos (by omega))
      _ = (published * 10 ^ (dest - 18) + 10 ^ (dest - 18)) * 10 ^ source := by ring

/-- A token with 24 decimals is cut at 18, and one with 6 at 6. -/
example : rescaled 24 24 1999999 = 1000000 ∧ rescaled 18 6 1999999999999 = 1 := by decide

/-! ## Transfers -/

variable {L M : Type} {cfgSource : Config L} {cfgDest : Config M} {origin dest : DomainID}

/-- A payout is for a deposit, and its amount is what the bridged amount is rescaled to if it fits
through. -/
def Precise (cfgSource : Config L) (cfgDest : Config M)
    (tableSource tableDest : List (AssetId × U8)) (made : Entry L) (event : Event)
    (entry : Entry M) (proposal : Proposal) : Prop :=
  ∃ deposited receipt payout amount decimalSource decimalDest,
    Deposited cfgSource made.before made.after deposited receipt event ∧
    resolve cfgDest entry.before.storage proposal = .ok payout ∧
    payout.asset.fun_ = .fungible amount ∧
    decimalsOf tableSource deposited.id = some decimalSource ∧
    decimalsOf tableDest payout.asset.id = some decimalDest ∧
    (FitsThrough receipt.bridged.toNat decimalSource.toNat decimalDest.toNat →
      amount.toNat = rescaled decimalSource.toNat decimalDest.toNat receipt.bridged.toNat ∧
      receipt.bridged.toNat * 10 ^ decimalDest.toNat <
        (amount.toNat + 10 ^ (decimalDest.toNat - 18)) * 10 ^ decimalSource.toNat)

theorem precise_of_built {debugAssertionsSource debugAssertionsDest : Bool}
    {tableSource tableDest : List (AssetId × U8)}
    (hsource : cfgSource.decimalConverter = sygmaDecimalConverter debugAssertionsSource tableSource)
    (hdest : cfgDest.decimalConverter = sygmaDecimalConverter debugAssertionsDest tableDest)
    (hsmallSource : SmallDecimals tableSource) (hsmallDest : SmallDecimals tableDest)
    {made : Entry L} {entry : Entry M} {event : Event} {proposal : Proposal} {asset : MultiAsset}
    {receipt : Receipt} {payout : Payout}
    (hdeposited : Deposited cfgSource made.before made.after asset receipt event)
    (hbuilt : BuiltFrom origin dest proposal event)
    (hresolve : resolve cfgDest entry.before.storage proposal = .ok payout) :
    Precise cfgSource cfgDest tableSource tableDest made event entry proposal := by
  obtain ⟨left, ⟨caller, target, before, moved, -, hdeposits, -, hevent⟩, -⟩ := id hdeposited
  obtain ⟨sender, transferType, handlerResponse, hproposal, -⟩ := hbuilt
  have hsame := hevent.symm.trans hproposal
  injection hsame with hdomain hresource hnonce _ _ hdata
  obtain ⟨-, -, -, assetId, published, hasset, hextract, hfrom, -⟩ := resolve_ok.mp hresolve
  rw [← hdata] at hextract
  obtain ⟨rfl, hlocation⟩ := extract_create_deposit_data hextract
  have hto := hdeposits.converted
  rw [hsource] at hto
  rw [hdest] at hfrom
  obtain ⟨decimalSource, hdecimalSource, -⟩ := convert_to_le hto
  obtain ⟨decimalDest, amount, hdecimalDest, hpaid, -⟩ := convert_from_le hfrom
  obtain ⟨payoutAsset, location, account⟩ := payout
  subst hpaid
  refine ⟨asset, receipt, _, amount, decimalSource, decimalDest, hdeposited, hresolve, rfl,
    hdecimalSource, hdecimalDest, ?_⟩
  intro hfits
  have hpublished := convert_to_fits hsmallSource hdecimalSource hfits.bridged hfits.published hto
  have hamount : amount.toNat =
      rescaled decimalSource.toNat decimalDest.toNat receipt.bridged.toNat := by
    have hpaid := convert_from_fits hsmallDest hdecimalDest
      (hpublished ▸ hfits.published_lt) (hpublished ▸ hfits.paid) hfrom
    rw [hpublished] at hpaid
    exact hpaid
  refine ⟨hamount, ?_⟩
  rw [hamount]
  exact lt_rescaled _ _ _

/-- Over every run of two chains, however relayers order, group and repeat the proposals, each
payout on the second for the first stems from a deposit on the first. If the bridged amount fits
through, the payout is exactly that amount rescaled twice, and falls short of it by less than one
unit of the second chain, or of the 18 decimals in between if these are coarser. -/
theorem transfer_precise {debugAssertionsSource debugAssertionsDest : Bool}
    {tableSource tableDest : List (AssetId × U8)} {versionSource versionDest : U16}
    {ledgerSource : L} {ledgerDest : M} {trace : List (PairEntry L M)} {final : Pair L M}
    (hconfinedSource : Confined cfgSource) (hconfinedDest : Confined cfgDest)
    (hsource : cfgSource.decimalConverter = sygmaDecimalConverter debugAssertionsSource tableSource)
    (hdest : cfgDest.decimalConverter = sygmaDecimalConverter debugAssertionsDest tableDest)
    (hsmallSource : SmallDecimals tableSource) (hsmallDest : SmallDecimals tableDest)
    (hrun : Run (PairStep cfgSource cfgDest origin dest)
      ⟨.genesis versionSource ledgerSource, .genesis versionDest ledgerDest⟩ trace final)
    {entry : Entry M} (hmem : entry ∈ destEntries trace) {proposal : Proposal}
    (hpays : entry.PaysFor origin proposal) :
    ∃ made ∈ sourceEntries trace, ∃ event ∈ final.source.state.events,
      BuiltFrom origin dest proposal event ∧
        Precise cfgSource cfgDest tableSource tableDest made event entry proposal := by
  have h := attributed_run hconfinedSource hconfinedDest hrun
  obtain ⟨event, hevent, hbuilt⟩ := h.built entry hmem proposal hpays
  obtain ⟨payout, hresolve, -⟩ := h.paid entry hmem proposal hpays
  have hsome : event.depositTo.isSome = true := by
    obtain ⟨_, _, _, rfl, -⟩ := hbuilt
    rfl
  obtain ⟨made, hmade, asset, receipt, hdeposited⟩ := h.issued event hevent hsome
  exact ⟨made, hmade, event, hevent, hbuilt,
    precise_of_built hsource hdest hsmallSource hsmallDest hdeposited hbuilt hresolve⟩

namespace Standalone

/-- The forwarded deposit, of a thousand with 12 decimals, is paid out precisely. -/
theorem transfer_precise_forwarded :
    FitsThrough 1000 12 12 ∧ rescaled 12 12 1000 = 1000 ∧
    ∃ trace, Run (PairStep plainConfig plainConfig 2 1)
        ⟨fundedPoint, fundedPoint⟩ trace ⟨⟨depositedState, []⟩, ⟨forwardedState, []⟩⟩ ∧
      ∃ made ∈ sourceEntries trace, ∃ event ∈ depositedState.events,
        BuiltFrom 2 1 forwardedProposal event ∧
        Precise plainConfig plainConfig assetDecimalPairs assetDecimalPairs made event
          forwardedEntry forwardedProposal := by
  obtain ⟨trace, hrun⟩ := forwarded_run
  have hmem : forwardedEntry ∈ destEntries (trace ++ [.dest forwardedEntry]) := by
    simp [destEntries]
  have hconfined : Confined plainConfig := confined_of_lift rfl
  have hfits : FitsThrough 1000 12 12 := ⟨by decide, by decide, by decide⟩
  exact ⟨hfits, by decide, _, hrun, transfer_precise hconfined hconfined rfl rfl small_decimals
    small_decimals hrun hmem ⟨rfl, by decide +kernel, rfl⟩⟩

end Standalone

end Sygma
