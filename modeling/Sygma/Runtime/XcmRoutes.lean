import Sygma.Library.Address
import Sygma.Runtime.Parachain

/-!
# Where the programs of the XCM bridge deliver

Locations are relative to the chain that reads them, and a program of the XCM bridge is read by
up to three chains. `deliveries` follows a program from chain to chain and lists the deposits it
ends in; chains are named by their path from the relay chain, so that two readers can be compared.
`xcm_program_delivers` shows that a program the bridge creates ends in exactly one deposit, on the
chain and to the beneficiary that its destination names, and that the one chain on the way, if any,
is the reserve of the asset.
-/

namespace Sygma.XcmBridge

open Exec (except_bind_ok)

variable {L : Type}

/-! ## Following a program -/

/-- A chain, or a place on one, as its path from the relay chain. -/
abbrev Chain := List Junction

/-- What a location names when the given chain reads it. -/
def locate (chain : Chain) (location : MultiLocation) : Option Chain :=
  Address.resolve chain location.parents.toNat location.interior.items

/-- The chain a place is on: a parachain, or else the relay chain. -/
def chainOf : Chain → Chain
  | .parachain id :: _ => [.parachain id]
  | _ => []

/-- A deposit at the end of a program: the chains the program ran on, and the beneficiary as the
last of them reads it. -/
structure Delivery where
  path : List Chain
  beneficiary : MultiLocation

/-- The same deposit, of a program that was sent on by the given chain. -/
def Delivery.sentBy (chain : Chain) (delivery : Delivery) : Delivery :=
  { delivery with path := chain :: delivery.path }

mutual
/-- The deposits an instruction ends in when the given chain runs it, or `none` if it sends a
program to a location that names no chain. -/
def Instruction.deliveries (chain : Chain) : Instruction → Option (List Delivery)
  | .withdrawAsset _ | .buyExecution _ _ => some []
  | .depositAsset _ beneficiary => some [⟨[chain], beneficiary⟩]
  | .transferReserveAsset _ dest xcm | .depositReserveAsset _ dest xcm
  | .initiateReserveWithdraw _ dest xcm => do
      let next ← locate chain dest
      let delivered ← deliveries next xcm
      some (delivered.map (Delivery.sentBy chain))

/-- The deposits a program ends in when the given chain runs it. -/
def deliveries (chain : Chain) : Xcm → Option (List Delivery)
  | [] => some []
  | instruction :: rest => do
      let first ← instruction.deliveries chain
      let more ← deliveries chain rest
      some (first ++ more)
end

/-- Buying execution delivers nothing. -/
theorem buy_execution_ok {cfg : Config L} {asset : MultiAsset} {location : MultiLocation}
    {limit : WeightLimit} {instruction : Instruction}
    (h : buyExecution cfg asset location limit = .ok instruction) :
    ∃ fees, instruction = .buyExecution fees limit := by
  unfold buyExecution at h
  split at h
  · rename_i fees _
    exact ⟨fees, (Except.ok.inj h).symm⟩
  · cases h

/-- The program for a local reserve goes straight to its destination. -/
theorem self_reserve_deliveries {cfg : Config L} {assets : List MultiAsset} {fee : MultiAsset}
    {dest recipient : MultiLocation} {limit : WeightLimit} {program : Xcm} {chain final : Chain}
    (h : transferSelfReserveAsset cfg assets fee dest recipient limit = .ok program)
    (hdest : locate chain dest = some final) :
    deliveries chain program = some [⟨[chain, final], recipient⟩] := by
  obtain ⟨buy, hbuy, hprogram⟩ := except_bind_ok.mp h
  obtain ⟨fees, rfl⟩ := buy_execution_ok hbuy
  rw [← Except.ok.inj hprogram]
  simp [deliveries, Instruction.deliveries, hdest, depositAsset, Delivery.sentBy]

/-- The program for a reserve at the destination goes straight to it. -/
theorem to_reserve_deliveries {cfg : Config L} {assets : List MultiAsset} {fee : MultiAsset}
    {reserve recipient : MultiLocation} {limit : WeightLimit} {program : Xcm} {chain final : Chain}
    (h : transferToReserveAsset cfg assets fee reserve recipient limit = .ok program)
    (hreserve : locate chain reserve = some final) :
    deliveries chain program = some [⟨[chain, final], recipient⟩] := by
  obtain ⟨buy, hbuy, hprogram⟩ := except_bind_ok.mp h
  obtain ⟨fees, rfl⟩ := buy_execution_ok hbuy
  rw [← Except.ok.inj hprogram]
  simp [deliveries, Instruction.deliveries, hreserve, depositAsset, Delivery.sentBy]

/-- The program for a third reserve goes to it first, and from there to the destination as the
reserve reads it. -/
theorem to_non_reserve_deliveries {cfg : Config L} {assets : List MultiAsset} {fee : MultiAsset}
    {reserve dest recipient : MultiLocation} {limit : WeightLimit} {program : Xcm}
    {chain middle final : Chain}
    (h : transferToNonReserveAsset cfg assets fee reserve dest recipient limit = .ok program)
    (hreserve : locate chain reserve = some middle)
    (hdest : locate middle (reanchoredDest reserve dest) = some final) :
    deliveries chain program = some [⟨[chain, middle, final], recipient⟩] := by
  obtain ⟨first, hfirst, hrest⟩ := except_bind_ok.mp h
  obtain ⟨second, hsecond, hprogram⟩ := except_bind_ok.mp hrest
  obtain ⟨fees, rfl⟩ := buy_execution_ok hfirst
  obtain ⟨fees', rfl⟩ := buy_execution_ok hsecond
  rw [← Except.ok.inj hprogram]
  simp [deliveries, Instruction.deliveries, hreserve, hdest, depositAsset, Delivery.sentBy]

/-! ## Chains next to the local one -/

/-- The locations the bridge sends programs to: the relay chain and the parachains next to the
local one. -/
def Neighbour (location : MultiLocation) : Prop :=
  location = .parent ∨ ∃ para, location = .sibling para

theorem Neighbour.parents {location : MultiLocation} (h : Neighbour location) :
    location.parents = 1 := by
  obtain rfl | ⟨para, rfl⟩ := h
  · rfl
  · rfl

/-- A parachain reads a neighbour as what it names from the relay chain. -/
theorem Neighbour.locate {location : MultiLocation} (h : Neighbour location) (self : U32) :
    locate [.parachain self] location = some location.interior.items := by
  rw [XcmBridge.locate, h.parents]
  exact Address.resolve_one_concat [] _ _

/-- A reserve chain reads the reanchored destination as the chain that the local chain means. -/
theorem locate_reanchored_dest {reserve dest : MultiLocation} (hreserve : Neighbour reserve)
    (hdest : Neighbour dest) (hne : reserve ≠ dest) :
    locate reserve.interior.items (reanchoredDest reserve dest) = some dest.interior.items := by
  obtain rfl | ⟨reserveId, rfl⟩ := hreserve
  · -- the relay chain has no parent, so a sibling has to be renamed to a child
    obtain rfl | ⟨para, rfl⟩ := hdest
    · exact absurd rfl hne
    · rfl
  · -- two parachains read a neighbour alike
    have hsibling : MultiLocation.sibling reserveId ≠ .parent := by
      simp [MultiLocation.sibling, MultiLocation.parent]
    rw [reanchoredDest, if_neg hsibling]
    exact hdest.locate reserveId

/-- What the bridge extracts from a destination: a neighbour and a place on it, whose paths make up
the path of the destination. -/
theorem extract_dest_some {dest destLocation recipient : MultiLocation}
    (h : extractDest dest = some (destLocation, recipient)) :
    dest.parents = 1 ∧ Neighbour destLocation ∧ recipient.parents = 0 ∧
      destLocation.interior.items ++ recipient.interior.items = dest.interior.items ∧
      chainOf dest.interior.items = destLocation.interior.items := by
  obtain ⟨parents, items, bounded⟩ := dest
  unfold extractDest at h
  split at h
  · rename_i para hparents hhead
    obtain ⟨rest, rfl⟩ : ∃ rest, items = .parachain para :: rest :=
      List.head?_eq_some_iff.mp hhead
    obtain ⟨rfl, rfl⟩ := Prod.mk.inj (Option.some.inj h)
    exact ⟨hparents, .inr ⟨para, rfl⟩, rfl, rfl, rfl⟩
  · rename_i hparents hnot
    obtain ⟨rfl, rfl⟩ := Prod.mk.inj (Option.some.inj h)
    refine ⟨hparents, .inl rfl, rfl, rfl, ?_⟩
    unfold chainOf
    split
    · rename_i para _ hitems
      exact absurd (congrArg List.head? hitems) (hnot para)
    · rfl
  · cases h

theorem asset_location_some {asset : MultiAsset} {id : MultiLocation}
    (h : assetLocation asset = some id) : asset.id = .concrete id := by
  unfold assetLocation at h
  split at h
  · rename_i hid _
    rw [hid, Option.some.inj h]
  · cases h

/-- Only assets with a location have a reserve. For an asset that is registered one level up it is
the chain that its path starts with, and otherwise the local chain or a parachain below it. -/
theorem reserved_location_cases {asset : MultiAsset} {reserve : MultiLocation}
    (h : reservedLocation asset = some reserve) :
    ∃ id, assetLocation asset = some id ∧
      (id.parents = 1 ∧ Neighbour reserve ∧
          reserve.interior.items = chainOf id.interior.items ∨
        id = .here ∧ reserve = .here ∨
        id.parents = 0 ∧ id ≠ .here ∧ ∃ child,
          reserve = ⟨0, [.parachain child], Junctions.bounded_parachain child⟩) := by
  obtain ⟨⟨parents, items, bounded⟩, hlocation, hreserve⟩ := Option.bind_eq_some_iff.mp h
  refine ⟨_, hlocation, ?_⟩
  split_ifs at hreserve with hone hzero
  · refine .inl ⟨hone, ?_⟩
    cases items with
    | nil =>
        obtain rfl := Option.some.inj hreserve
        exact ⟨.inl rfl, rfl⟩
    | cons first rest =>
        cases first with
        | parachain para =>
            obtain rfl := Option.some.inj hreserve
            exact ⟨.inr ⟨para, rfl⟩, rfl⟩
        | _ =>
            obtain rfl := Option.some.inj hreserve
            exact ⟨.inl rfl, rfl⟩
  · obtain rfl : parents = 0 := hzero
    cases items with
    | nil => exact .inr (.inl ⟨rfl, (Option.some.inj hreserve).symm⟩)
    | cons first rest =>
        cases first with
        | parachain para => exact .inr (.inr ⟨rfl, nofun, para, (Option.some.inj hreserve).symm⟩)
        | _ => cases hreserve

/-- A reserve is a neighbour of the local chain for an asset that is registered one level up, and
the local chain or one below it otherwise. -/
theorem reserved_location_some {asset : MultiAsset} {reserve : MultiLocation}
    (h : reservedLocation asset = some reserve) :
    ∃ id, asset.id = .concrete id ∧
      (id.parents = 1 ∧ Neighbour reserve ∨ id.parents = 0 ∧ reserve.parents = 0) := by
  obtain ⟨id, hlocation, hcases⟩ := reserved_location_cases h
  refine ⟨id, asset_location_some hlocation, ?_⟩
  obtain ⟨hone, hneighbour, -⟩ | ⟨rfl, rfl⟩ | ⟨hzero, -, child, rfl⟩ := hcases
  · exact .inl ⟨hone, hneighbour⟩
  · exact .inr ⟨rfl, rfl⟩
  · exact .inr ⟨hzero, rfl⟩

/-- Every reserve is a chain that the local chain can name. -/
theorem reserved_location_located {asset : MultiAsset} {reserve : MultiLocation}
    (h : reservedLocation asset = some reserve) (self : U32) :
    ∃ chain, locate [.parachain self] reserve = some chain := by
  obtain ⟨id, _, ⟨_, hneighbour⟩ | ⟨_, hparents⟩⟩ := reserved_location_some h
  · exact ⟨_, hneighbour.locate self⟩
  · refine ⟨[.parachain self] ++ reserve.interior.items, ?_⟩
    rw [locate, hparents]
    exact Address.resolve_zero _ _

/-! ## Every program delivers -/

/-- What is asked of the program of a transfer. Its one deposit is made on the chain that the
destination is on, to a beneficiary that is the rest of the destination. A chain that the program
passes on the way is the reserve of the asset, and an asset that is not native does pass it. -/
def Delivers (cfg : Config L) (chain : Chain) (asset : MultiAsset) (dest : MultiLocation)
    (program : Xcm) : Prop :=
  ∃ place reserve reserveChain via beneficiary,
    locate chain dest = some place ∧
    reservedLocation asset = some reserve ∧ locate chain reserve = some reserveChain ∧
    deliveries chain program = some [⟨chain :: via ++ [chainOf place], beneficiary⟩] ∧
    beneficiary.parents = 0 ∧ locate (chainOf place) beneficiary = some place ∧
    (∀ middle ∈ via, middle = reserveChain) ∧
    (cfg.assetReservedChecker asset = false → reserveChain ∈ via ++ [chainOf place])

section

variable {cfg : Config L} {self : U32} {object : XcmObject} {dest : MultiLocation} {program : Xcm}

/-- A program delivers if its one deposit goes to the recipient, on the chain of the destination and
through no other chain than the reserve. -/
theorem delivers_of_route (via : List Chain)
    (hdest : extractDest dest = some (object.dest, object.recipient))
    {reserve : MultiLocation} {reserveChain : Chain}
    (hreserve : reservedLocation object.asset = some reserve)
    (hreserveChain : locate [.parachain self] reserve = some reserveChain)
    (hroute : deliveries [.parachain self] program =
      some [⟨[.parachain self] :: via ++ [object.dest.interior.items], object.recipient⟩])
    (hvia : ∀ middle ∈ via, middle = reserveChain)
    (hpassed : cfg.assetReservedChecker object.asset = false →
      reserveChain ∈ via ++ [object.dest.interior.items]) :
    Delivers cfg [.parachain self] object.asset dest program := by
  obtain ⟨hparents, hneighbour, hrecipient, hitems, hchain⟩ := extract_dest_some hdest
  have hplace : locate [.parachain self] dest = some dest.interior.items := by
    rw [locate, hparents]
    exact Address.resolve_one_concat [] _ _
  -- the destination is read in two parts, first its chain and then the recipient on it
  have hbeneficiary : locate object.dest.interior.items object.recipient =
      some dest.interior.items := by
    rw [locate, hrecipient]
    show Address.resolve object.dest.interior.items 0 object.recipient.interior.items = _
    rw [Address.resolve_trans (hneighbour.locate self), hitems, hneighbour.parents]
    exact Address.resolve_one_concat [] _ _
  rw [← hchain] at hroute hbeneficiary hpassed
  exact ⟨_, reserve, reserveChain, via, _, hplace, hreserve, hreserveChain, hroute, hrecipient,
    hbeneficiary, hvia, hpassed⟩

/-- A program that the bridge creates for a destination it accepts delivers there. -/
theorem create_instructions_delivers
    (hasset : cfg.assetReservedChecker object.asset = true ∨
      ∃ id, object.asset.id = .concrete id ∧ id.parents = 1)
    (hdest : extractDest dest = some (object.dest, object.recipient))
    (h : createInstructions cfg object = .ok program) :
    Delivers cfg [.parachain self] object.asset dest program := by
  obtain ⟨-, hneighbour, -⟩ := extract_dest_some hdest
  have hlocal : locate [.parachain self] object.dest = some object.dest.interior.items :=
    hneighbour.locate self
  obtain ⟨reserve, kind, hplanned, hprogram⟩ := create_instructions_ok h
  obtain ⟨hself, hto, hnon⟩ := hplanned.kind_iff
  -- an asset that is not native has its reserve on a neighbour
  have hreserve : cfg.assetReservedChecker object.asset ≠ true → Neighbour reserve := by
    intro hforeign
    obtain ⟨id, hid, hone⟩ := hasset.resolve_left hforeign
    obtain ⟨id', hid', hcases⟩ := reserved_location_some hplanned.reserved
    obtain rfl : id = id' := AssetId.concrete.inj (hid.symm.trans hid')
    obtain ⟨_, hneighbour⟩ | ⟨hzero, _⟩ := hcases
    · exact hneighbour
    · rw [hone] at hzero
      cases hzero
  cases kind with
  | selfReserveAsset =>
      obtain ⟨reserveChain, hreserveChain⟩ := reserved_location_located hplanned.reserved self
      refine delivers_of_route [] hdest hplanned.reserved hreserveChain ?_ nofun ?_
      · exact self_reserve_deliveries hprogram hlocal
      · intro hforeign
        rw [hself.mp rfl] at hforeign
        cases hforeign
  | toReserve =>
      obtain ⟨hforeign, hsame⟩ := hto.mp rfl
      refine delivers_of_route [] hdest hplanned.reserved
        ((hreserve hforeign).locate self) ?_ nofun ?_
      · exact to_reserve_deliveries hprogram hlocal
      · intro _
        rw [hsame]
        exact List.mem_singleton_self _
  | toNonReserve =>
      obtain ⟨hforeign, haway⟩ := hnon.mp rfl
      have hreserveChain := (hreserve hforeign).locate self
      have hforward := locate_reanchored_dest (hreserve hforeign) hneighbour haway
      refine delivers_of_route [_] hdest hplanned.reserved hreserveChain
        (to_non_reserve_deliveries hprogram hreserveChain hforward) ?_ ?_
      · intro middle hmiddle
        exact List.mem_singleton.mp hmiddle
      · intro _
        exact List.mem_cons_self

end

/-- A destination that does not start one level up is refused, and nothing changes. -/
theorem transfer_refused (cfg : Config L) {dest : MultiLocation} (h : dest.parents ≠ 1)
    (sender : Bytes32) (asset : MultiAsset) (maxWeight : Option Weight) (state : State L) :
    transfer cfg sender asset dest maxWeight state =
      (.error (.error (.xcmBridge .invalidDestination)), state) := by
  have hnone : extractDest dest = none := by
    unfold extractDest
    split
    · rename_i hparents _
      exact absurd hparents h
    · rename_i hparents _
      exact absurd hparents h
    · rfl
  unfold transfer
  rw [hnone]
  rfl

/-- On a parachain, the program of every transfer of a native asset, or of one registered one level
up, delivers to the requested recipient; destinations elsewhere are refused. -/
theorem xcm_program_delivers {cfg : Config L} {self : U32}
    (hself : cfg.selfLocation = .sibling self) :
    (∀ object dest program,
      (cfg.assetReservedChecker object.asset = true ∨
        ∃ id, object.asset.id = .concrete id ∧ id.parents = 1) →
      extractDest dest = some (object.dest, object.recipient) →
      createInstructions cfg object = .ok program →
      Delivers cfg cfg.selfLocation.interior.items object.asset dest program) ∧
    ∀ dest : MultiLocation, dest.parents ≠ 1 → ∀ sender asset maxWeight state,
      transfer cfg sender asset dest maxWeight state =
        (.error (.error (.xcmBridge .invalidDestination)), state) := by
  refine ⟨?_, ?_⟩
  · intro object dest program hasset hdest h
    rw [hself]
    exact create_instructions_delivers hasset hdest h
  · intro dest hdest
    exact transfer_refused cfg hdest

/-- Parachain 2004 with a fee for the token of the relay chain. The token is `Here` for the relay
chain itself and the parent for its parachains. -/
def relayTokenConfig : Config Unit where
  weigher _ := some ⟨0, 0⟩
  executeXcmInCredit _ _ _ _ _ := pure ()
  hashOf _ := Vector.replicate 32 0
  reanchored asset location _ :=
    if location = .parent then some ⟨.concrete .here, asset.fun_⟩ else some asset
  assetReservedChecker := Parachain.isNativeAsset 2004
  selfLocation := .sibling 2004
  minXcmFee := [(.concrete .parent, 10)]
  debugAssertions := false

/-- An account on parachain 2005, as its sibling names it. -/
def siblingAccount : MultiLocation :=
  ⟨1, [.parachain 2005, .accountId32 none (Vector.replicate 32 7)], by simp⟩

/-- A transfer of the token of the relay chain to that account. -/
def relayTokenTransfer : XcmObject where
  asset := ⟨.concrete .parent, .fungible 100⟩
  fee := ⟨.concrete .parent, .fungible 10⟩
  origin := .ofAccount (Vector.replicate 32 1)
  dest := .sibling 2005
  recipient := .ofAccount (Vector.replicate 32 7)
  weight := defaultWeight

/-- The token travels through the relay chain, which is its reserve. -/
theorem xcm_program_delivers_relay_token :
    ∃ program, createInstructions relayTokenConfig relayTokenTransfer = .ok program ∧
      deliveries [.parachain 2004] program =
        some [⟨[[.parachain 2004], [], [.parachain 2005]], relayTokenTransfer.recipient⟩] ∧
      Delivers relayTokenConfig [.parachain 2004] relayTokenTransfer.asset siblingAccount program :=
  ⟨_, rfl, rfl, (xcm_program_delivers rfl).1 relayTokenTransfer siblingAccount _
    (.inr ⟨.parent, rfl, rfl⟩) rfl rfl⟩

end Sygma.XcmBridge
