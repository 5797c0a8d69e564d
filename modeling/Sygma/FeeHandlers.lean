import Sygma.AccessSegregator

/-!
# The fee handlers and the fee router

The basic fee handler charges a fixed amount per domain and asset. The percentage fee handler
charges a rate in basis points of the transferred amount, clamped to two bounds. The router sends
the query for a domain and asset to the handler that was set for it; the dynamic handler is not
implemented and answers nothing.
-/

namespace Sygma

variable {L : Type}

namespace BasicFeeHandler

/-- Set the fee of an asset for a domain. -/
def setFee (cfg : Config L) (origin : Origin) (domain : DomainID) (asset : AssetId)
    (amount : U128) : Call L DispatchError Unit := do
  let access ← readStorage fun storage =>
    hasAccess cfg storage cfg.basicFeeHandlerIndex (name "set_fee") origin
  Exec.ensure access (.basicFee .accessDenied)
  writeStorage fun storage =>
    { storage with assetFees := storage.assetFees.insert (domain, asset) amount }
  depositEvent (.feeSet domain asset amount)

/-- The fee of an asset for a domain. -/
def getFee (storage : Storage) (domain : DomainID) (asset : MultiAsset) : Option U128 :=
  storage.assetFees.get (domain, asset.id)

end BasicFeeHandler

/-- Multiplication of 128-bit amounts, held at the greatest amount when it overflows. -/
def saturatingMul (first second : U128) : U128 :=
  if first.toNat * second.toNat < 2 ^ 128 then first * second else BitVec.allOnes 128

namespace PercentageFeeHandler

/-- Set the fee rate and its bounds for an asset and a domain. -/
def setFeeRate (cfg : Config L) (origin : Origin) (domain : DomainID) (asset : AssetId)
    (feeRateBasisPoint : U32) (feeLowerBound feeUpperBound : U128) :
    Call L DispatchError Unit := do
  let access ← readStorage fun storage =>
    hasAccess cfg storage cfg.percentageFeeHandlerIndex (name "set_fee_rate") origin
  Exec.ensure access (.percentageFee .accessDenied)
  Exec.ensure (decide (feeRateBasisPoint < 10000#32)) (.percentageFee .feeRateOutOfRange)
  Exec.ensure (decide (feeLowerBound < feeUpperBound)) (.percentageFee .invalidFeeBound)
  writeStorage fun storage =>
    { storage with
      assetFeeRate := storage.assetFeeRate.insert (domain, asset)
        (feeRateBasisPoint, feeLowerBound, feeUpperBound) }
  depositEvent (.feeRateSet domain asset feeRateBasisPoint feeLowerBound feeUpperBound)

/-- The clamped percentage of the transferred amount. -/
def getFee (storage : Storage) (domain : DomainID) (asset : MultiAsset) : Option U128 :=
  match asset.fun_ with
  | .fungible amount => do
      let (feeRateBasisPoint, feeLowerBound, feeUpperBound) ←
        storage.assetFeeRate.get (domain, asset.id)
      -- a product beyond 128 bits is cut off before it is divided
      let feeAmount := saturatingMul amount (feeRateBasisPoint.setWidth 128) / 10000#128
      if feeAmount > feeUpperBound then some feeUpperBound
      else if feeAmount < feeLowerBound then some feeLowerBound
      else some feeAmount
  | .nonFungible _ => none

end PercentageFeeHandler

namespace FeeHandlerRouter

/-- Choose the fee handler of an asset for a domain. -/
def setFeeHandler (cfg : Config L) (origin : Origin) (domain : DomainID) (asset : AssetId)
    (handlerType : FeeHandlerType) : Call L DispatchError Unit := do
  let access ← readStorage fun storage =>
    hasAccess cfg storage cfg.feeHandlerRouterIndex (name "set_fee_handler") origin
  Exec.ensure access (.feeRouter .accessDenied)
  writeStorage fun storage =>
    { storage with handlerType := storage.handlerType.insert (domain, asset) handlerType }
  depositEvent (.feeHandlerSet domain asset handlerType)

/-- The fee the chosen handler asks for. -/
def getFee (storage : Storage) (domain : DomainID) (asset : MultiAsset) : Option U128 :=
  match storage.handlerType.get (domain, asset.id) with
  | some .basicFeeHandler => BasicFeeHandler.getFee storage domain asset
  | some .percentageFeeHandler => PercentageFeeHandler.getFee storage domain asset
  | some .dynamicFeeHandler => none
  | none => none

end FeeHandlerRouter

end Sygma
