import Sygma.Config

/-!
# The XCM bridge

The pallet that sends assets to other chains of the same relay chain. A transfer builds a program
in the cross-consensus language and gives it to the local executor. Which of three programs it
builds depends on the chain that holds the reserve of the asset: the local chain, the destination,
or a third chain that has to forward the asset.

The executor, the weigher and the reanchoring of assets belong to other crates and are parameters.
`transfer_eq` separates the checks of a transfer from what is then submitted to the executor, and
`create_instructions_ok` reads the reserve and the kind of the transfer off a program.
-/

namespace Sygma.XcmBridge

open Exec (Fault ensure okOr orPanic mapErr)

variable {L : Type}

/-! ## Programs -/

/-- How much weight may be bought. -/
inductive WeightLimit where
  | unlimited
  | limited (weight : Weight)
  deriving DecidableEq

/-- The wildcards that select assets held by the executor. -/
inductive WildMultiAsset where
  | all
  | allCounted (count : U32)
  deriving DecidableEq

/-- The instructions the pallet uses. Three of them carry a program for another chain. -/
inductive Instruction where
  | withdrawAsset (assets : List MultiAsset)
  | transferReserveAsset (assets : List MultiAsset) (dest : MultiLocation) (xcm : List Instruction)
  | initiateReserveWithdraw (assets : WildMultiAsset) (reserve : MultiLocation)
      (xcm : List Instruction)
  | depositReserveAsset (assets : WildMultiAsset) (dest : MultiLocation) (xcm : List Instruction)
  | buyExecution (fees : MultiAsset) (weightLimit : WeightLimit)
  | depositAsset (assets : WildMultiAsset) (beneficiary : MultiLocation)

/-- A program. -/
abbrev Xcm := List Instruction

/-! ## The pallet -/

/-- What the pallet is configured with, and what it uses of other crates. -/
structure Config (L : Type) where
  weigher : Xcm → Option Weight
  /-- Run a program for an origin, given its hash, the weight limit and the weight credit. -/
  executeXcmInCredit : MultiLocation → Xcm → Bytes32 → Weight → Weight → Call L XcmError Unit
  hashOf : Xcm → Bytes32
  /-- The asset as seen from a location, given the path of the local chain. -/
  reanchored : MultiAsset → MultiLocation → Junctions → Option MultiAsset
  assetReservedChecker : MultiAsset → Bool
  selfLocation : MultiLocation
  minXcmFee : List (AssetId × U128)
  /-- Whether the runtime is compiled with debug assertions. -/
  debugAssertions : Bool

/-- Which chain holds the reserve of a transferred asset. -/
inductive TransferKind where
  | selfReserveAsset
  | toReserve
  | toNonReserve
  deriving DecidableEq

/-- A transfer that is being built. -/
structure XcmObject where
  asset : MultiAsset
  fee : MultiAsset
  origin : MultiLocation
  dest : MultiLocation
  recipient : MultiLocation
  weight : Weight

/-- The location of a fungible asset that is identified by one. -/
def assetLocation (asset : MultiAsset) : Option MultiLocation :=
  match asset.id, asset.fun_ with
  | .concrete id, .fungible _ => some id
  | _, _ => none

/-- The chain that holds the reserve of an asset. -/
def reservedLocation (asset : MultiAsset) : Option MultiLocation := do
  let id ← assetLocation asset
  if id.parents = 1 then
    match id.interior.items.head? with
    | some (.parachain para) => some (.sibling para)
    | _ => some .parent
  else if id.parents = 0 then
    match id.interior.items.head? with
    | some (.parachain para) => some ⟨0, [.parachain para], Junctions.bounded_parachain para⟩
    | none => some id
    | _ => none
  else none

/-- The junctions after the first. -/
def splitFirst (junctions : Junctions) : Junctions where
  items := junctions.items.tail
  bounded := by
    have hbounded := junctions.bounded
    rw [List.length_tail]
    omega

/-- The chain and the recipient of a destination. Only chains next to the local one and the relay
chain are accepted. -/
def extractDest (dest : MultiLocation) : Option (MultiLocation × MultiLocation) :=
  match dest.parents, dest.interior.items.head? with
  | 1#8, some (.parachain para) => some (.sibling para, ⟨0, splitFirst dest.interior⟩)
  | 1#8, _ => some (.parent, ⟨0, dest.interior⟩)
  | _, _ => none

/-- The kind of a transfer, given where the reserve of its asset is. -/
def transferKind (cfg : Config L) (object : XcmObject) (assetReservedLocation : MultiLocation) :
    Option TransferKind :=
  if cfg.assetReservedChecker object.asset then some .selfReserveAsset
  else if assetReservedLocation = object.dest then some .toReserve
  else some .toNonReserve

/-- The amount of a fungible asset, zero for any other. -/
def fungibleAmount (asset : MultiAsset) : U128 :=
  match asset.fun_ with
  | .fungible amount => amount
  | .nonFungible _ => 0

/-- Half of an asset, rounded down. -/
def half (asset : MultiAsset) : MultiAsset :=
  ⟨asset.id, .fungible (fungibleAmount asset / 2)⟩

/-- Deposit everything that is held to the recipient. -/
def depositAsset (recipient : MultiLocation) (maxAssets : U32) : Instruction :=
  .depositAsset (.allCounted maxAssets) recipient

/-- Buy execution on the chain at the given location. -/
def buyExecution (cfg : Config L) (asset : MultiAsset) (location : MultiLocation)
    (weightLimit : WeightLimit) : Except DispatchError Instruction :=
  match cfg.reanchored asset location cfg.selfLocation.interior with
  | some fees => .ok (.buyExecution fees weightLimit)
  | none => .error (.xcmBridge .cannotReanchor)

/-- The number of assets, as the source counts them. -/
def countOf (assets : List MultiAsset) : U32 := BitVec.ofNat 32 assets.length

/-- The program for an asset whose reserve is the local chain. -/
def transferSelfReserveAsset (cfg : Config L) (assets : List MultiAsset) (fee : MultiAsset)
    (dest recipient : MultiLocation) (destWeightLimit : WeightLimit) :
    Except DispatchError Xcm := do
  let buy ← buyExecution cfg fee dest destWeightLimit
  .ok [.transferReserveAsset assets dest [buy, depositAsset recipient (countOf assets)]]

/-- The program for an asset whose reserve is the destination. -/
def transferToReserveAsset (cfg : Config L) (assets : List MultiAsset) (fee : MultiAsset)
    (reserve recipient : MultiLocation) (destWeightLimit : WeightLimit) :
    Except DispatchError Xcm := do
  let buy ← buyExecution cfg fee reserve destWeightLimit
  .ok [.withdrawAsset assets,
    .initiateReserveWithdraw .all reserve [buy, depositAsset recipient (countOf assets)]]

/-- A destination as the reserve chain names it. Only a sibling that is seen from the relay chain
is rewritten. -/
def reanchoredDest (reserve dest : MultiLocation) : MultiLocation :=
  if reserve = .parent then
    match dest.parents, dest.interior.items with
    -- the relay chain names a sibling as its child
    | 1#8, [.parachain para] => ⟨0, [.parachain para], Junctions.bounded_parachain para⟩
    | _, _ => dest
  else dest

/-- The program for an asset whose reserve is a third chain. Each of the two remote executions is
bought with half of the fee. -/
def transferToNonReserveAsset (cfg : Config L) (assets : List MultiAsset) (fee : MultiAsset)
    (reserve dest recipient : MultiLocation) (destWeightLimit : WeightLimit) :
    Except DispatchError Xcm := do
  let maxAssets := countOf assets
  let buyAtReserve ← buyExecution cfg (half fee) reserve destWeightLimit
  let buyAtDest ← buyExecution cfg (half fee) dest destWeightLimit
  .ok [.withdrawAsset assets,
    .initiateReserveWithdraw .all reserve
      [buyAtReserve,
        .depositReserveAsset (.allCounted maxAssets) (reanchoredDest reserve dest)
          [buyAtDest, depositAsset recipient maxAssets]]]

/-- The program of a transfer. -/
def createInstructions (cfg : Config L) (object : XcmObject) : Except DispatchError Xcm :=
  match reservedLocation object.asset with
  | none => .error (.xcmBridge .assetReservedLocationNotFound)
  | some assetReservedLocation =>
      match transferKind cfg object assetReservedLocation with
      | none => .error (.xcmBridge .unknownTransferType)
      | some .selfReserveAsset =>
          transferSelfReserveAsset cfg [object.asset] object.fee object.dest object.recipient
            (.limited object.weight)
      | some .toReserve =>
          transferToReserveAsset cfg [object.asset] object.fee object.dest object.recipient
            (.limited object.weight)
      | some .toNonReserve =>
          transferToNonReserveAsset cfg [object.asset] object.fee assetReservedLocation object.dest
            object.recipient (.limited object.weight)

/-- Weigh a program and run it on the local chain. -/
def executeInstructions (cfg : Config L) (object : XcmObject) (program : Xcm) :
    Call L DispatchError Unit := do
  let messageWeight ← okOr (cfg.weigher program) (.xcmBridge .failToWeightMessage)
  mapErr (fun _ => .xcmBridge .xcmExecutionFailed)
    (cfg.executeXcmInCredit object.origin program (cfg.hashOf program) object.weight messageWeight)

/-- The least fee for an asset on the destination: the first entry of the table for it. -/
def minFee (cfg : Config L) (asset : AssetId) : Option U128 :=
  (cfg.minXcmFee.find? fun entry => entry.1 == asset).map Prod.snd

/-- The weight a transfer may use when the caller sets none. -/
def defaultWeight : Weight := ⟨6000000000, 2000000⟩

/-- Send an asset of the sender to a destination on another chain. -/
def transfer (cfg : Config L) (sender : Bytes32) (asset : MultiAsset) (dest : MultiLocation)
    (maxWeight : Option Weight) : Call L DispatchError Unit := do
  let originLocation := MultiLocation.ofAccount sender
  let (destLocation, recipient) ← okOr (extractDest dest) (.xcmBridge .invalidDestination)
  ensure (minFee cfg asset.id).isSome (.xcmBridge .noXcmMinFeeSet)
  -- the `unwrap` after the check for an entry
  let feePerAsset ← orPanic ((minFee cfg asset.id).elim (.error .unwrap) .ok)
  let minFeeToDest ← orPanic (MultiAsset.ofAmount cfg.debugAssertions asset.id feePerAsset)
  let object : XcmObject :=
    { asset := asset
      fee := minFeeToDest
      origin := originLocation
      dest := destLocation
      recipient := recipient
      weight := maxWeight.getD defaultWeight }
  let program ← Exec.lift ((createInstructions cfg object).mapError .error)
  executeInstructions cfg object program
  depositEvent (.xcmTransferSend asset originLocation dest)

/-! ## Submissions -/

/-- What a transfer gives to the executor. -/
structure Submission where
  object : XcmObject
  program : Xcm
  messageWeight : Weight

/-- The checks of a transfer, and what it gives to the executor after them. -/
def prepare (cfg : Config L) (sender : Bytes32) (asset : MultiAsset) (dest : MultiLocation)
    (maxWeight : Option Weight) : Except (Fault DispatchError) Submission :=
  match extractDest dest, minFee cfg asset.id with
  | none, _ => .error (.error (.xcmBridge .invalidDestination))
  | some _, none => .error (.error (.xcmBridge .noXcmMinFeeSet))
  | some (destLocation, recipient), some fee =>
      match MultiAsset.ofAmount cfg.debugAssertions asset.id fee with
      | .error reason => .error (.panic reason)
      | .ok minFeeToDest =>
          let object : XcmObject :=
            { asset := asset
              fee := minFeeToDest
              origin := .ofAccount sender
              dest := destLocation
              recipient := recipient
              weight := maxWeight.getD defaultWeight }
          match createInstructions cfg object with
          | .error error => .error (.error error)
          | .ok program =>
              match cfg.weigher program with
              | none => .error (.error (.xcmBridge .failToWeightMessage))
              | some messageWeight => .ok ⟨object, program, messageWeight⟩

/-- What is submitted buys its execution with the fee of the table. -/
theorem prepare_ok {cfg : Config L} {sender : Bytes32} {asset : MultiAsset} {dest : MultiLocation}
    {maxWeight : Option Weight} {submission : Submission}
    (h : prepare cfg sender asset dest maxWeight = .ok submission) :
    createInstructions cfg submission.object = .ok submission.program ∧
      ∃ fee, minFee cfg asset.id = some fee ∧
        submission.object.fee = ⟨asset.id, .fungible fee⟩ := by
  unfold prepare at h
  split at h
  · cases h
  · cases h
  · rename_i destLocation recipient fee hdest hfee
    split at h
    · cases h
    · rename_i minFeeToDest hamount
      obtain ⟨-, hminFee⟩ := MultiAsset.of_amount_ok.mp hamount
      dsimp only at h
      split at h
      · cases h
      · rename_i program hprogram
        split at h
        · cases h
        · obtain rfl := Except.ok.inj h
          exact ⟨hprogram, fee, hfee, hminFee⟩

/-- The checks panic only where debug assertions are compiled in and the table has a fee of zero. -/
theorem prepare_panic {cfg : Config L} {sender : Bytes32} {asset : MultiAsset}
    {dest : MultiLocation} {maxWeight : Option Weight} {reason : Exec.Panic}
    (h : prepare cfg sender asset dest maxWeight = .error (.panic reason)) :
    cfg.debugAssertions = true ∧ minFee cfg asset.id = some 0 := by
  unfold prepare at h
  split at h
  · cases h
  · cases h
  · rename_i destLocation recipient fee hdest hfee
    split at h
    · rename_i found hamount
      obtain ⟨hassertions, rfl, -⟩ := MultiAsset.of_amount_error.mp hamount
      exact ⟨hassertions, hfee⟩
    · dsimp only at h
      split at h
      · cases h
      · split at h <;> cases h

/-- Give a program to the executor and report the transfer. -/
def Submission.submit (cfg : Config L) (submission : Submission) (asset : MultiAsset)
    (dest : MultiLocation) : Call L DispatchError Unit := do
  mapErr (fun _ => .xcmBridge .xcmExecutionFailed)
    (cfg.executeXcmInCredit submission.object.origin submission.program
      (cfg.hashOf submission.program) submission.object.weight submission.messageWeight)
  depositEvent (.xcmTransferSend asset submission.object.origin dest)

/-- A transfer that fails one of its checks changes nothing, and any other is submitted. -/
theorem transfer_eq (cfg : Config L) (sender : Bytes32) (asset : MultiAsset) (dest : MultiLocation)
    (maxWeight : Option Weight) (state : State L) :
    transfer cfg sender asset dest maxWeight state =
      match prepare cfg sender asset dest maxWeight with
      | .error fault => (.error fault, state)
      | .ok submission => submission.submit cfg asset dest state := by
  unfold transfer prepare
  -- one case per check, in their order
  cases extractDest dest with
  | none => rfl
  | some parts =>
      cases minFee cfg asset.id with
      | none => rfl
      | some fee =>
          dsimp only
          show (orPanic (MultiAsset.ofAmount cfg.debugAssertions asset.id fee) >>= _) state = _
          cases MultiAsset.ofAmount cfg.debugAssertions asset.id fee with
          | error reason => rfl
          | ok minFeeToDest =>
              dsimp only
              generalize hobject : XcmObject.mk asset _ _ _ _ _ = object
              show (Exec.lift ((createInstructions cfg _).mapError .error) >>= _) state = _
              rw [hobject]
              cases createInstructions cfg object with
              | error error => rfl
              | ok program =>
                  show (executeInstructions cfg object program >>= _) state = _
                  unfold executeInstructions
                  subst hobject
                  dsimp only
                  cases cfg.weigher program with
                  | none => rfl
                  | some messageWeight => rfl

/-! ## Plans -/

/-- The reserve of the asset of a transfer, and the kind of the transfer. -/
structure Planned (cfg : Config L) (object : XcmObject) (reserve : MultiLocation)
    (kind : TransferKind) : Prop where
  reserved : reservedLocation object.asset = some reserve
  chosen : transferKind cfg object reserve = some kind

/-- The program of a transfer of the given kind. -/
def XcmObject.program (cfg : Config L) (object : XcmObject) (reserve : MultiLocation) :
    TransferKind → Except DispatchError Xcm
  | .selfReserveAsset =>
      transferSelfReserveAsset cfg [object.asset] object.fee object.dest object.recipient
        (.limited object.weight)
  | .toReserve =>
      transferToReserveAsset cfg [object.asset] object.fee object.dest object.recipient
        (.limited object.weight)
  | .toNonReserve =>
      transferToNonReserveAsset cfg [object.asset] object.fee reserve object.dest object.recipient
        (.limited object.weight)

variable {cfg : Config L} {object : XcmObject} {reserve : MultiLocation} {kind : TransferKind}
  {program : Xcm}

/-- A transfer with a plan uses the program of its kind. -/
theorem create_instructions_eq (h : Planned cfg object reserve kind) :
    createInstructions cfg object = object.program cfg reserve kind := by
  unfold createInstructions
  rw [h.reserved]
  dsimp only
  rw [h.chosen]
  cases kind <;> rfl

/-- Every asset with a reserve has a plan. -/
theorem exists_planned (cfg : Config L) (h : reservedLocation object.asset = some reserve) :
    ∃ kind, Planned cfg object reserve kind := by
  have hkind : ∃ kind, transferKind cfg object reserve = some kind := by
    unfold transferKind
    split
    · exact ⟨_, rfl⟩
    · split <;> exact ⟨_, rfl⟩
  obtain ⟨kind, hkind⟩ := hkind
  exact ⟨kind, h, hkind⟩

theorem create_instructions_ok (h : createInstructions cfg object = .ok program) :
    ∃ reserve kind, Planned cfg object reserve kind ∧
      object.program cfg reserve kind = .ok program := by
  cases hreserve : reservedLocation object.asset with
  | none =>
      unfold createInstructions at h
      rw [hreserve] at h
      cases h
  | some reserve =>
      obtain ⟨kind, hplanned⟩ := exists_planned cfg hreserve
      rw [create_instructions_eq hplanned] at h
      exact ⟨reserve, kind, hplanned, h⟩

/-- The kind of a plan, by the two checks it is made of. -/
theorem Planned.kind_iff (h : Planned cfg object reserve kind) :
    (kind = .selfReserveAsset ↔ cfg.assetReservedChecker object.asset = true) ∧
    (kind = .toReserve ↔
      cfg.assetReservedChecker object.asset ≠ true ∧ reserve = object.dest) ∧
    (kind = .toNonReserve ↔
      cfg.assetReservedChecker object.asset ≠ true ∧ reserve ≠ object.dest) := by
  have hchosen := h.chosen
  unfold transferKind at hchosen
  split_ifs at hchosen with hnative hsame
  · obtain rfl := Option.some.inj hchosen
    simp [hnative]
  · obtain rfl := Option.some.inj hchosen
    simp [hnative, hsame]
  · obtain rfl := Option.some.inj hchosen
    simp [hnative, hsame]

end Sygma.XcmBridge
