import Sygma.Runtime.Pallets
import Sygma.Runtime.XcmRoutes

/-!
# Which program the XCM bridge chooses, and what it costs

A transfer is planned in two steps: the first junctions of the asset id tell where its reserve is,
and the whole id tells whether the asset counts as native. `kind_follows_reserve_iff` compares the
two. They agree except on the assets of the local chain that are registered below it: their reserve
is the local chain, but they do not count as native, so the program asks the local chain to withdraw
from its own account with itself.

Every program buys its execution on each chain it runs on, with a fee from a table.
`fees_covered_iff` says for which amounts the fees are covered by what is sent: the amount is not
compared with the table, so exactly the transfers below the fees are submitted and cannot pay.
-/

namespace Sygma.XcmBridge

open Exec (except_bind_ok)

variable {L : Type}

variable {cfg : Config L} {object : XcmObject} {reserve : MultiLocation} {kind : TransferKind}
  {program : Xcm}

/-! ## The kind of a program -/

/-- The kind of a program, read off its instructions. -/
def kindOf : Xcm → Option TransferKind
  | [.transferReserveAsset _ _ _] => some .selfReserveAsset
  | [.withdrawAsset _, .initiateReserveWithdraw _ _ [_, .depositAsset _ _]] => some .toReserve
  | [.withdrawAsset _, .initiateReserveWithdraw _ _ [_, .depositReserveAsset _ _ _]] =>
      some .toNonReserve
  | _ => none

/-- The instructions of a program show its kind. -/
theorem kind_of_program (h : object.program cfg reserve kind = .ok program) :
    kindOf program = some kind := by
  cases kind with
  | selfReserveAsset | toReserve =>
      obtain ⟨buy, -, hprogram⟩ := except_bind_ok.mp h
      rw [← Except.ok.inj hprogram]
      rfl
  | toNonReserve =>
      obtain ⟨buyAtReserve, -, hrest⟩ := except_bind_ok.mp h
      obtain ⟨buyAtDest, -, hprogram⟩ := except_bind_ok.mp hrest
      rw [← Except.ok.inj hprogram]
      rfl

/-! ## The kind and the reserve chain -/

/-- The kind of a transfer follows the chain that holds the reserve of its asset, as the given chain
reads locations: a local reserve is sent, a reserve at the destination is asked to pay out there,
and only the reserve on a third chain is asked to forward. -/
def FollowsReserve (cfg : Config L) (chain : Chain) (object : XcmObject) : Prop :=
  ∃ reserve kind reserveChain destChain,
    Planned cfg object reserve kind ∧
    createInstructions cfg object = object.program cfg reserve kind ∧
    (∀ program, createInstructions cfg object = .ok program → kindOf program = some kind) ∧
    locate chain reserve = some reserveChain ∧ locate chain object.dest = some destChain ∧
    (kind = .selfReserveAsset ↔ reserveChain = chain) ∧
    (kind = .toReserve ↔ reserveChain = destChain) ∧
    (kind = .toNonReserve → reserveChain ≠ chain ∧ reserveChain ≠ destChain)

/-- An asset that is registered on the given parachain, below the chain itself. -/
def SubAsset (self : U32) (id : MultiLocation) : Prop :=
  id.parents = 1 ∧ ∃ first rest, id.interior.items = .parachain self :: first :: rest

theorem is_native_asset_iff {self : U32} {id : MultiLocation} {amount : U128} :
    Parachain.isNativeAsset self ⟨.concrete id, .fungible amount⟩ = true ↔
      id = .here ∨ id = .sibling self := by
  simp [Parachain.isNativeAsset]

/-- A neighbour is determined by its path. -/
theorem Neighbour.ext {location other : MultiLocation} (h : Neighbour location)
    (hother : Neighbour other) (hitems : location.interior.items = other.interior.items) :
    location = other := by
  obtain rfl | ⟨para, rfl⟩ := h
  · obtain rfl | ⟨para, rfl⟩ := hother
    · rfl
    · cases hitems
  · obtain rfl | ⟨para, rfl⟩ := hother
    · cases hitems
    · cases hitems
      rfl

/-- An asset one level up has its reserve on the given parachain exactly if it is the chain's own
asset or one below it. -/
theorem chain_of_eq_iff {id : MultiLocation} (hparents : id.parents = 1) (self : U32) :
    chainOf id.interior.items = [.parachain self] ↔ id = .sibling self ∨ SubAsset self id := by
  obtain ⟨parents, items, bounded⟩ := id
  obtain rfl : parents = 1 := hparents
  cases items with
  | nil => simp [chainOf, MultiLocation.sibling, SubAsset]
  | cons first rest =>
      cases first with
      | parachain para =>
          cases rest with
          | nil => simp [chainOf, MultiLocation.sibling, SubAsset]
          | cons second rest => simp [chainOf, MultiLocation.sibling, SubAsset]
      | _ => simp [chainOf, MultiLocation.sibling, SubAsset]

/-- Plan and chains are determined, so the kind follows the reserve exactly if the two checks of the
plan agree with the chains. -/
theorem Planned.follows_iff (h : Planned cfg object reserve kind)
    {chain reserveChain destChain : Chain} (hreserve : locate chain reserve = some reserveChain)
    (hdest : locate chain object.dest = some destChain) {native : Prop}
    (hnative : cfg.assetReservedChecker object.asset = true ↔ native) :
    FollowsReserve cfg chain object ↔
      (native ↔ reserveChain = chain) ∧
      (¬ native ∧ reserve = object.dest ↔ reserveChain = destChain) := by
  obtain ⟨hself, hto, hnon⟩ := h.kind_iff
  rw [Ne, hnative] at hto hnon
  rw [hnative] at hself
  constructor
  · rintro ⟨reserve', kind', _, _, h', -, -, hreserve', hdest', hlocal, hremote, -⟩
    obtain rfl := Option.some.inj (h.reserved.symm.trans h'.reserved)
    obtain rfl := Option.some.inj (h.chosen.symm.trans h'.chosen)
    obtain rfl := Option.some.inj (hreserve.symm.trans hreserve')
    obtain rfl := Option.some.inj (hdest.symm.trans hdest')
    exact ⟨hself.symm.trans hlocal, hto.symm.trans hremote⟩
  · rintro ⟨hlocal, hremote⟩
    refine ⟨reserve, kind, reserveChain, destChain, h, create_instructions_eq h, ?_, hreserve,
      hdest, hself.trans hlocal, hto.trans hremote, ?_⟩
    · intro program hprogram
      rw [create_instructions_eq h] at hprogram
      exact kind_of_program hprogram
    · intro hthird
      obtain ⟨hforeign, haway⟩ := hnon.mp hthird
      exact ⟨fun hsame => hforeign (hlocal.mpr hsame), fun hsame => haway (hremote.mpr hsame).2⟩

section

variable {self : U32} {id : MultiLocation}

/-- A neighbour other than the local chain is another chain. -/
theorem Neighbour.elsewhere {dest : MultiLocation} (h : Neighbour dest)
    (hother : dest ≠ .sibling self) : dest.interior.items ≠ [.parachain self] := by
  intro hitems
  exact hother (h.ext (.inr ⟨self, rfl⟩) hitems)

/-- One level up, the first junction tells the chain of the reserve, and of its assets only the one
of the chain itself is native. -/
theorem Planned.follows_one_level_up (h : Planned cfg object reserve kind)
    (hnative : cfg.assetReservedChecker object.asset = true ↔ id = .here ∨ id = .sibling self)
    (hdest : Neighbour object.dest) (hother : object.dest ≠ .sibling self)
    (hparents : id.parents = 1) (hreserve : Neighbour reserve)
    (hitems : reserve.interior.items = chainOf id.interior.items) :
    FollowsReserve cfg [.parachain self] object ↔ ¬ SubAsset self id := by
  have hhere : id ≠ .here := by
    rintro rfl
    cases hparents
  have hlocal := chain_of_eq_iff hparents self
  rw [← hitems] at hlocal
  rw [h.follows_iff (hreserve.locate self) (hdest.locate self) hnative]
  constructor
  · rintro ⟨hagree, -⟩ hsub
    obtain hid | rfl := hagree.mpr (hlocal.mpr (.inr hsub))
    · exact hhere hid
    · obtain ⟨-, first, rest, hlong⟩ := hsub
      cases hlong
  · intro hnot
    refine ⟨?_, ?_, ?_⟩
    · rw [hlocal]
      exact ⟨fun hid => .inl (hid.resolve_left hhere), fun hid => .inr (hid.resolve_right hnot)⟩
    · rintro ⟨-, hsame⟩
      rw [hsame]
    · intro hsame
      refine ⟨?_, hreserve.ext hdest hsame⟩
      intro hid
      exact hdest.elsewhere hother (hsame.symm.trans (hlocal.mpr (.inl (hid.resolve_left hhere))))

/-- A native asset whose reserve is the local chain. -/
theorem Planned.follows_local (h : Planned cfg object .here kind)
    (hnative : cfg.assetReservedChecker object.asset = true) (hdest : Neighbour object.dest)
    (hother : object.dest ≠ .sibling self) : FollowsReserve cfg [.parachain self] object := by
  have hlocal : locate [.parachain self] .here = some [.parachain self] := rfl
  rw [h.follows_iff hlocal (hdest.locate self) (iff_true_intro hnative)]
  refine ⟨iff_of_true trivial rfl, iff_of_false ?_ ?_⟩
  · intro hforeign
    exact hforeign.1 trivial
  · exact (hdest.elsewhere hother).symm

/-- An asset whose reserve is a chain below the local one, which is no neighbour. -/
theorem Planned.follows_below {child : U32}
    (h : Planned cfg object ⟨0, [.parachain child], Junctions.bounded_parachain child⟩ kind)
    (hforeign : cfg.assetReservedChecker object.asset ≠ true) (hdest : Neighbour object.dest) :
    FollowsReserve cfg [.parachain self] object := by
  have hbelow : ⟨0, [.parachain child], Junctions.bounded_parachain child⟩ ≠ object.dest := by
    intro hsame
    have hone := hdest.parents
    rw [← hsame] at hone
    cases hone
  have hthird : [Junction.parachain self, .parachain child] ≠ object.dest.interior.items := by
    obtain hdest | ⟨para, hdest⟩ := hdest
    · rw [hdest]
      nofun
    · rw [hdest]
      nofun
  rw [h.follows_iff (Address.resolve_zero _ _) (hdest.locate self) (iff_false_intro hforeign)]
  refine ⟨iff_of_false not_false nofun, iff_of_false ?_ hthird⟩
  intro hsame
  exact hbelow hsame.2

end

/-- On a parachain that counts its own location as native, the kind of a transfer to another chain
follows the reserve of the asset, except for the assets registered below the parachain. -/
theorem kind_follows_reserve_iff {self : U32}
    (hchecker : cfg.assetReservedChecker = Parachain.isNativeAsset self)
    (hself : cfg.selfLocation = .sibling self) {id : MultiLocation} {amount : U128}
    (hasset : object.asset = ⟨.concrete id, .fungible amount⟩)
    (hreserve : reservedLocation object.asset = some reserve) {dest : MultiLocation}
    (hdest : extractDest dest = some (object.dest, object.recipient))
    (hother : object.dest ≠ .sibling self) :
    FollowsReserve cfg cfg.selfLocation.interior.items object ↔ ¬ SubAsset self id := by
  obtain ⟨-, hneighbour, -⟩ := extract_dest_some hdest
  have hnative : cfg.assetReservedChecker object.asset = true ↔
      id = .here ∨ id = .sibling self := by
    rw [hchecker, hasset]
    exact is_native_asset_iff
  obtain ⟨kind, hplanned⟩ := exists_planned cfg hreserve
  rw [hasset] at hreserve
  obtain ⟨_, hlocation, hcases⟩ := reserved_location_cases hreserve
  obtain rfl := Option.some.inj hlocation
  rw [hself]
  show FollowsReserve cfg [.parachain self] object ↔ _
  obtain ⟨hparents, hclose, hitems⟩ | ⟨rfl, rfl⟩ | ⟨hparents, hhere, child, rfl⟩ := hcases
  · exact hplanned.follows_one_level_up hnative hneighbour hother hparents hclose hitems
  · refine iff_of_true (hplanned.follows_local (hnative.mpr (.inl rfl)) hneighbour hother) ?_
    rintro ⟨hone, -⟩
    cases hone
  · refine iff_of_true (hplanned.follows_below ?_ hneighbour) ?_
    · intro hisNative
      obtain hid | rfl := hnative.mp hisNative
      · exact hhere hid
      · cases hparents
    · rintro ⟨hone, -⟩
      rw [hparents] at hone
      cases hone

/-- The token of the relay chain is asked to be forwarded by its reserve, the relay chain. -/
theorem kind_follows_reserve_relay_token :
    ¬ SubAsset 2004 .parent ∧
      FollowsReserve relayTokenConfig [.parachain 2004] relayTokenTransfer := by
  have hnot : ¬ SubAsset 2004 .parent := by
    rintro ⟨-, first, rest, hitems⟩
    cases hitems
  have hdest : extractDest siblingAccount =
      some (relayTokenTransfer.dest, relayTokenTransfer.recipient) := rfl
  refine ⟨hnot, (kind_follows_reserve_iff rfl rfl rfl rfl hdest ?_).mpr hnot⟩
  nofun

/-- A token that is registered on parachain 2004 under a key. -/
def keyedToken : MultiLocation := ⟨1, [.parachain 2004, Standalone.domainKey], by simp⟩

/-- A transfer of that token to an account on parachain 2005. -/
def keyedTokenTransfer : XcmObject where
  asset := ⟨.concrete keyedToken, .fungible 100⟩
  fee := ⟨.concrete keyedToken, .fungible 10⟩
  origin := .ofAccount (Vector.replicate 32 1)
  dest := .sibling 2005
  recipient := .ofAccount (Vector.replicate 32 7)
  weight := defaultWeight

/-- The reserve of that token is parachain 2004 itself, but its program asks parachain 2004 to
withdraw the asset and to forward it. -/
theorem keyed_token_kind_not_reserve :
    extractDest siblingAccount = some (keyedTokenTransfer.dest, keyedTokenTransfer.recipient) ∧
      reservedLocation keyedTokenTransfer.asset = some (.sibling 2004) ∧
      locate [.parachain 2004] (.sibling 2004) = some [.parachain 2004] ∧
      (∃ program, createInstructions (Parachain.xcmBridgeConfig Parachain.runtimeHost)
        keyedTokenTransfer = .ok program ∧ kindOf program = some .toNonReserve) ∧
      ¬ FollowsReserve (Parachain.xcmBridgeConfig Parachain.runtimeHost) [.parachain 2004]
        keyedTokenTransfer := by
  have hkind : Planned (Parachain.xcmBridgeConfig Parachain.runtimeHost) keyedTokenTransfer
      (.sibling 2004) .toNonReserve := ⟨by decide, by decide⟩
  refine ⟨rfl, hkind.reserved, rfl, ⟨_, create_instructions_eq hkind, rfl⟩, ?_⟩
  rintro ⟨reserve, kind, reserveChain, destChain, hplanned, -, -, hreserve, -, hlocal, -⟩
  obtain rfl := Option.some.inj (hkind.reserved.symm.trans hplanned.reserved)
  obtain rfl := Option.some.inj (hkind.chosen.symm.trans hplanned.chosen)
  obtain rfl : [.parachain 2004] = reserveChain := Option.some.inj hreserve
  cases hlocal.mpr rfl

/-! ## Fees -/

mutual
/-- The fees of the executions that an instruction buys, in the order of the chains. -/
def Instruction.boughtFees : Instruction → List MultiAsset
  | .buyExecution fees _ => [fees]
  | .withdrawAsset _ | .depositAsset _ _ => []
  | .transferReserveAsset _ _ xcm | .depositReserveAsset _ _ xcm
  | .initiateReserveWithdraw _ _ xcm => boughtFees xcm

/-- The fees of the executions that a program buys, in the order of the chains. -/
def boughtFees : Xcm → List MultiAsset
  | [] => []
  | instruction :: rest => instruction.boughtFees ++ boughtFees rest
end

/-- The amounts of assets. -/
def amounts (assets : List MultiAsset) : List Nat :=
  assets.map fun asset => (fungibleAmount asset).toNat

/-- Fees that can be paid one after the other out of what is held. -/
def Payable (held : Nat) : List Nat → Prop
  | [] => True
  | fee :: rest => fee ≤ held ∧ Payable (held - fee) rest

/-- Fees can be paid one after the other exactly if their sum can. -/
theorem payable_iff_sum_le (held : Nat) (fees : List Nat) :
    Payable held fees ↔ fees.sum ≤ held := by
  induction fees generalizing held with
  | nil => simp [Payable]
  | cons fee rest ih =>
      rw [Payable, ih, List.sum_cons]
      omega

/-- The fees of a transfer of the given kind: the whole fee on the one chain it goes to, or half of
it on each of two chains. -/
def TransferKind.fees (fee : U128) : TransferKind → List Nat
  | .selfReserveAsset | .toReserve => [fee.toNat]
  | .toNonReserve => [fee.toNat / 2, fee.toNat / 2]

/-- Reanchoring changes the name of an asset and not its amount. -/
def KeepsAmounts (cfg : Config L) : Prop :=
  ∀ asset location context result,
    cfg.reanchored asset location context = some result → result.fun_ = asset.fun_

/-- The execution is bought for the amount that is asked for. -/
theorem buy_execution_amount (hkeeps : KeepsAmounts cfg) {asset : MultiAsset}
    {location : MultiLocation} {limit : WeightLimit} {instruction : Instruction}
    (h : buyExecution cfg asset location limit = .ok instruction) :
    amounts instruction.boughtFees = [(fungibleAmount asset).toNat] := by
  unfold buyExecution at h
  split at h
  · rename_i fees hfees
    rw [← Except.ok.inj h]
    have hamount : fungibleAmount fees = fungibleAmount asset := by
      unfold fungibleAmount
      rw [hkeeps _ _ _ _ hfees]
    simp [Instruction.boughtFees, amounts, hamount]
  · cases h

theorem half_amount (asset : MultiAsset) :
    (fungibleAmount (half asset)).toNat = (fungibleAmount asset).toNat / 2 := by
  show (fungibleAmount asset / 2).toNat = _
  rw [BitVec.toNat_udiv]
  rfl

/-- The fees in a program are those of its kind. -/
theorem program_fees (hkeeps : KeepsAmounts cfg)
    (h : object.program cfg reserve kind = .ok program) :
    amounts (boughtFees program) = kind.fees (fungibleAmount object.fee) := by
  cases kind with
  | selfReserveAsset | toReserve =>
      obtain ⟨buy, hbuy, hprogram⟩ := except_bind_ok.mp h
      have hamount := buy_execution_amount hkeeps hbuy
      rw [← Except.ok.inj hprogram]
      simpa [boughtFees, Instruction.boughtFees, depositAsset, TransferKind.fees] using hamount
  | toNonReserve =>
      obtain ⟨buyAtReserve, hfirst, hrest⟩ := except_bind_ok.mp h
      obtain ⟨buyAtDest, hsecond, hprogram⟩ := except_bind_ok.mp hrest
      have hreserve := buy_execution_amount hkeeps hfirst
      have hdest := buy_execution_amount hkeeps hsecond
      rw [half_amount] at hreserve hdest
      rw [← Except.ok.inj hprogram]
      simp only [amounts] at hreserve hdest
      simp [boughtFees, Instruction.boughtFees, depositAsset, amounts, hreserve, hdest,
        TransferKind.fees]

/-! ## Transfers that cannot pay -/

/-- The fees of a transfer are covered on every chain: each is at most what is left of the amount
when it is paid, and a transfer for which this fails is refused with nothing changed. No transfer is
too small for a fee of zero, which debug assertions do not let into a program. -/
structure FeesCovered (cfg : Config L) (sender : Bytes32) (asset : MultiAsset)
    (dest : MultiLocation) (maxWeight : Option Weight) : Prop where
  covered : ∀ submission, prepare cfg sender asset dest maxWeight = .ok submission →
    Payable (fungibleAmount asset).toNat (amounts (boughtFees submission.program))
  refused : ∀ state,
    (∀ submission, prepare cfg sender asset dest maxWeight = .ok submission →
      ¬ Payable (fungibleAmount asset).toNat (amounts (boughtFees submission.program))) →
    (∃ error, transfer cfg sender asset dest maxWeight state = (.error (.error error), state)) ∨
      cfg.debugAssertions = true ∧ minFee cfg asset.id = some 0

/-- The fees of a transfer are covered exactly if, whenever it is submitted, the amount is at least
the fees of its kind for the fee in the table. -/
theorem fees_covered_iff (hkeeps : KeepsAmounts cfg) (sender : Bytes32) (id : AssetId)
    (amount : U128) (dest : MultiLocation) (maxWeight : Option Weight) :
    FeesCovered cfg sender ⟨id, .fungible amount⟩ dest maxWeight ↔
      ∀ submission reserve kind fee,
        prepare cfg sender ⟨id, .fungible amount⟩ dest maxWeight = .ok submission →
        Planned cfg submission.object reserve kind → minFee cfg id = some fee →
        (kind.fees fee).sum ≤ amount.toNat := by
  have hfees : ∀ submission reserve kind fee,
      prepare cfg sender ⟨id, .fungible amount⟩ dest maxWeight = .ok submission →
      Planned cfg submission.object reserve kind → minFee cfg id = some fee →
      amounts (boughtFees submission.program) = kind.fees fee := by
    intro submission reserve kind fee hprepare hplanned hfee
    obtain ⟨hprogram, listed, hlisted, hobject⟩ := prepare_ok hprepare
    obtain rfl := Option.some.inj (hfee.symm.trans hlisted)
    rw [create_instructions_eq hplanned] at hprogram
    rw [program_fees hkeeps hprogram, hobject]
    rfl
  constructor
  · intro h submission reserve kind fee hprepare hplanned hfee
    have hcovered := h.covered submission hprepare
    rw [payable_iff_sum_le, hfees submission reserve kind fee hprepare hplanned hfee] at hcovered
    exact hcovered
  · intro h
    have hcovered : ∀ submission,
        prepare cfg sender ⟨id, .fungible amount⟩ dest maxWeight = .ok submission →
        Payable amount.toNat (amounts (boughtFees submission.program)) := by
      intro submission hprepare
      obtain ⟨hprogram, fee, hfee, -⟩ := prepare_ok hprepare
      obtain ⟨reserve, kind, hplanned, -⟩ := create_instructions_ok hprogram
      rw [payable_iff_sum_le, hfees submission reserve kind fee hprepare hplanned hfee]
      exact h submission reserve kind fee hprepare hplanned hfee
    refine ⟨hcovered, ?_⟩
    intro state hnever
    rw [transfer_eq]
    cases hprepare : prepare cfg sender ⟨id, .fungible amount⟩ dest maxWeight with
    | error fault =>
        cases fault with
        | error error => exact .inl ⟨error, rfl⟩
        | panic reason => exact .inr (prepare_panic hprepare)
    | ok submission => exact absurd (hcovered submission hprepare) (hnever submission hprepare)

/-- A hundred tokens of the relay chain pay five on each of the two chains they pass. -/
theorem fees_covered_relay_token :
    (∃ submission, prepare relayTokenConfig (Vector.replicate 32 1) relayTokenTransfer.asset
      siblingAccount none = .ok submission ∧ amounts (boughtFees submission.program) = [5, 5]) ∧
    FeesCovered relayTokenConfig (Vector.replicate 32 1) relayTokenTransfer.asset siblingAccount
      none := by
  have hkeeps : KeepsAmounts relayTokenConfig := by
    intro asset location context result hresult
    have hcases : (if location = .parent then some ⟨.concrete .here, asset.fun_⟩ else some asset) =
      some result := hresult
    split at hcases
    · rw [← Option.some.inj hcases]
    · rw [← Option.some.inj hcases]
  refine ⟨⟨_, rfl, rfl⟩, (fees_covered_iff hkeeps _ _ _ _ _).mpr ?_⟩
  intro submission reserve kind fee _ _ hfee
  obtain rfl : 10 = fee := Option.some.inj hfee
  cases kind <;> decide

/-- The least amount of the parachain's own token. -/
def nativeUnit : MultiAsset := ⟨.concrete Standalone.nativeLocation, .fungible 1⟩

/-- The sender of a transfer has five times the existential deposit, and the account of parachain
2005 has just that. -/
def sovereignState : State Accounts :=
  .genesis 1 ((Accounts.empty.put none (Vector.replicate 32 1) 5000000000).put none
    (Standalone.siblingAccount 2005) 1000000000)

/-- The parachain's own token has a fee of a million millions on the chains it is sent to. The least
amount of it moves to the account of its destination and is reported as sent, and the destination
cannot be paid. -/
theorem native_fee_not_covered :
    (∃ submission, prepare (Parachain.xcmBridgeConfig Parachain.runtimeHost)
      (Vector.replicate 32 1) nativeUnit siblingAccount none = .ok submission ∧
      amounts (boughtFees submission.program) = [1000000000000]) ∧
    (∃ final, transfer (Parachain.xcmBridgeConfig Parachain.runtimeHost) (Vector.replicate 32 1)
        nativeUnit siblingAccount none sovereignState = (.ok (), final) ∧
      final.events = [.xcmTransferSend nativeUnit (.ofAccount (Vector.replicate 32 1))
        siblingAccount] ∧
      final.ledger none (Vector.replicate 32 1) = 4999999999 ∧
      final.ledger none (Standalone.siblingAccount 2005) = 1000000001) ∧
    ¬ FeesCovered (Parachain.xcmBridgeConfig Parachain.runtimeHost) (Vector.replicate 32 1)
      nativeUnit siblingAccount none := by
  have hprepare : ∃ submission, prepare (Parachain.xcmBridgeConfig Parachain.runtimeHost)
      (Vector.replicate 32 1) nativeUnit siblingAccount none = .ok submission ∧
      amounts (boughtFees submission.program) = [1000000000000] := ⟨_, rfl, rfl⟩
  refine ⟨hprepare, ⟨_, Prod.ext (by decide +kernel) rfl, by decide +kernel, by decide +kernel,
    by decide +kernel⟩, ?_⟩
  intro h
  obtain ⟨submission, hsubmitted, hfees⟩ := hprepare
  have hcovered := h.covered submission hsubmitted
  rw [payable_iff_sum_le, hfees] at hcovered
  exact absurd hcovered (by decide)

end Sygma.XcmBridge
