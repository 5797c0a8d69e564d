import Sygma.Runtime.Destinations
import Sygma.Runtime.Keys
import Sygma.Runtime.Ordering

/-!
# Batches on two deployments

A digest names a chain id and a contract address, both constants of a runtime, and no chain beyond
them. The two runtimes have the same two constants, and their migrations write the same MPC address.
`batches_replayable` says what follows for a standalone chain and a parachain with one key: a batch
that the first accepts at any point of its run passes the signature check of the second at every
point of its own, whoever submits it, and is executed there under the tables of the second. One
resource id is bound to different assets on the two, so its proposals are paid out in another asset.
-/

namespace Sygma

open Bridge

variable {L M : Type}

/-! ## Equal digests -/

/-- Two configurations take the same inputs into a digest and recover the same signers. -/
structure SignsAlike (cfg : Config L) (other : Config M) : Prop where
  chainId : other.eip712ChainId = cfg.eip712ChainId
  contract : other.destVerifyingContractAddress = cfg.destVerifyingContractAddress
  keccak : other.keccak256 = cfg.keccak256
  encode : other.abiEncode = cfg.abiEncode
  recover : other.secp256k1EcdsaRecover = cfg.secp256k1EcdsaRecover

section Alike

variable {cfg : Config L} {other : Config M}

/-- A batch has one digest on both. -/
theorem SignsAlike.digest_eq (h : SignsAlike cfg other) (proposals : List Proposal) :
    constructEcdsaSigningProposalsData other proposals =
      constructEcdsaSigningProposalsData cfg proposals := by
  have hseparator : (eip712Domain other).separator other = (eip712Domain cfg).separator cfg := by
    unfold EIP712Domain.separator EIP712Domain.tokens eip712Domain
    rw [h.keccak, h.encode, h.chainId, h.contract]
  have hproposal : proposalHash other = proposalHash cfg := by
    funext proposal
    unfold proposalHash proposalTokens
    rw [h.keccak, h.encode]
  have hstruct : structHash other proposals = structHash cfg proposals := by
    unfold structHash structTokens packedProposalHashes
    rw [h.keccak, h.encode, hproposal]
  unfold constructEcdsaSigningProposalsData typedData
  rw [hseparator, hstruct, h.keccak]

/-- A signature that one accepts is accepted by the other, under one key. -/
theorem SignsAlike.verify_eq (h : SignsAlike cfg other) {storage otherStorage : Storage}
    (hkey : otherStorage.mpcAddr = storage.mpcAddr) (message : Bytes32) (signature : Bytes) :
    verifyByMpcAddress other otherStorage message signature =
      verifyByMpcAddress cfg storage message signature := by
  unfold verifyByMpcAddress publicKeyToAddress
  rw [h.recover, h.keccak, hkey]

/-- A batch that passes its checks is executed. -/
theorem dispatch_batch_eq {proposals : List Proposal} {signature : Bytes} {state : State L}
    (hkey : state.storage.mpcClear = false) (hne : proposals ≠ [])
    (hsigned : verifyByMpcAddress cfg state.storage
      (constructEcdsaSigningProposalsData cfg proposals) signature = true) (origin : Origin) :
    dispatch cfg origin (.executeProposal proposals signature) state =
      Exec.transactional (Exec.forEach proposals (executeOne cfg)) state := by
  have hsome : proposals.isEmpty = false := by simpa using hne
  unfold dispatch Extrinsic.call executeProposal
  rw [Exec.transactional_transactional]
  unfold Exec.transactional
  simp [readStorage, Exec.ensure_bind_apply, hkey, hsome, hsigned]

/-- Over any two runs of deployments that sign alike and share a key, a batch that the first accepts
is executed by the second. -/
theorem SignsAlike.replayed (h : SignsAlike cfg other) (hcfg : Confined cfg)
    (hother : Confined other) {start final : Point L} {trace : List (Entry L)}
    (hrun : Run (Step cfg) start trace final) {start' final' : Point M} {trace' : List (Entry M)}
    (hrun' : Run (Step other) start' trace' final')
    (hversion : start.state.storage.storageVersion ≠ 0)
    (hversion' : start'.state.storage.storageVersion ≠ 0)
    (hkey : start'.state.storage.mpcAddr = start.state.storage.mpcAddr)
    (hset : start.state.storage.mpcAddr ≠ .clear) {entry : Entry L} (hmem : entry ∈ trace)
    {caller : Origin} {proposals : List Proposal} {signature : Bytes}
    (haction : entry.action = .call caller (.executeProposal proposals signature))
    (hok : entry.outcome = .ok ()) (origin : Origin) :
    dispatch other origin (.executeProposal proposals signature) final'.state =
      Exec.transactional (Exec.forEach proposals (executeOne other)) final'.state := by
  obtain ⟨front, back, rfl⟩ := List.append_of_mem hmem
  obtain ⟨before, after, hfront, hstep, -⟩ := hrun.at_entry
  obtain ⟨accepted, hdispatch⟩ := hstep.batch_dispatch haction hok
  obtain ⟨-, hne, hsigned, -⟩ := dispatch_batch_ok.mp hdispatch
  -- neither key changes any more, so the two are the same at both points
  have hnow : entry.before.storage.mpcAddr = start.state.storage.mpcAddr := by
    rw [hstep.entry_eq.1]
    exact mpc_addr_run hcfg hfront hversion hset
  have hthen : final'.state.storage.mpcAddr = start.state.storage.mpcAddr := by
    rw [mpc_addr_run hother hrun' hversion' (by rwa [hkey]), hkey]
  refine dispatch_batch_eq ?_ hne ?_ origin
  · simpa [Storage.mpcClear, hthen] using hset
  · rw [h.digest_eq, h.verify_eq (hthen.trans hnow.symm)]
    exact hsigned

end Alike

/-! ## The two runtimes -/

/-- The two runtimes sign alike on one host. -/
theorem runtimes_sign_alike (host : Parachain.Host L) (transactor : TransactAsset M) :
    SignsAlike (Standalone.config host.toHost transactor) (Parachain.config host) :=
  ⟨rfl, rfl, rfl, rfl, rfl⟩

/-- The resource id that the runtimes bind to different assets. -/
def contestedResourceId : ResourceId := Standalone.resource 3 0

/-- An amount is converted alike for two assets with the same decimals. -/
theorem convert_from_congr {debugAssertions : Bool} {decimalPairs otherPairs : List (AssetId × U8)}
    {id other : AssetId} (h : decimalsOf otherPairs other = decimalsOf decimalPairs id)
    {amount : U128} {asset asset' : MultiAsset}
    (hconvert : convertFrom debugAssertions decimalPairs ⟨id, .fungible amount⟩ = .ok (some asset))
    (hconvert' : convertFrom debugAssertions otherPairs ⟨other, .fungible amount⟩ =
      .ok (some asset')) :
    asset' = ⟨other, asset.fun_⟩ := by
  unfold convertFrom at hconvert hconvert'
  rw [h] at hconvert'
  cases hdecimal : decimalsOf decimalPairs id with
  | none => simp [hdecimal] at hconvert
  | some decimal =>
      simp only [hdecimal] at hconvert hconvert'
      obtain ⟨r, hr, -, rfl⟩ := into_asset_ok.mp hconvert
      obtain ⟨r', hr', -, rfl⟩ := into_asset_ok.mp hconvert'
      have hsame : r' = r := Option.some.inj (Except.ok.inj (hr'.symm.trans hr))
      rw [hsame]

/-- A proposal for the contested resource that passes its checks on both runtimes is paid out in one
amount and to one location, in USDC on the standalone chain and in USDT on the parachain. -/
theorem contested_payouts {host : Parachain.Host L} {transactor : TransactAsset M}
    {storage storage' : Storage} {proposal : Proposal} {payout payout' : Payout}
    (hresource : proposal.resourceId = contestedResourceId)
    (hresolve : resolve (Standalone.config host.toHost transactor) storage proposal = .ok payout)
    (hresolve' : resolve (Parachain.config host) storage' proposal = .ok payout') :
    payout.asset.id = .concrete Standalone.usdcLocation ∧
      payout'.asset = ⟨.concrete Parachain.usdtLocation, payout.asset.fun_⟩ ∧
      payout'.location = payout.location := by
  obtain ⟨-, -, -, id, amount, hbound, hextract, hconvert, -⟩ := resolve_ok.mp hresolve
  obtain ⟨-, -, -, id', amount', hbound', hextract', hconvert', -⟩ := resolve_ok.mp hresolve'
  have husdc : id = .concrete Standalone.usdcLocation := by
    rw [hresource] at hbound
    have hfound : (Standalone.resourcePairs.find? fun pair => pair.2 == contestedResourceId).map
      (fun pair => pair.1) = some (.concrete Standalone.usdcLocation) := by decide +kernel
    exact Option.some.inj (hbound.symm.trans hfound)
  have husdt : id' = .concrete Parachain.usdtLocation := by
    rw [hresource] at hbound'
    have hfound : (Parachain.resourcePairs.find? fun pair => pair.2 == contestedResourceId).map
      (fun pair => pair.1) = some (.concrete Parachain.usdtLocation) := by decide +kernel
    exact Option.some.inj (hbound'.symm.trans hfound)
  -- both chains read one amount and one location out of the data
  have hread : extractDepositData (Parachain.config host) proposal.data =
      .ok (amount, payout.location) := hextract
  obtain ⟨rfl, hlocation⟩ := Prod.mk.inj (Except.ok.inj (hread.symm.trans hextract'))
  subst husdc husdt
  have hdecimals : decimalsOf Parachain.assetDecimalPairs (.concrete Parachain.usdtLocation) =
      decimalsOf Standalone.assetDecimalPairs (.concrete Standalone.usdcLocation) := by
    decide +kernel
  have hfrom : convertFrom host.debugAssertions Standalone.assetDecimalPairs
      ⟨.concrete Standalone.usdcLocation, .fungible amount⟩ = .ok (some payout.asset) := hconvert
  obtain ⟨_, converted, -, hasset, -⟩ := convert_from_le hfrom
  exact ⟨by rw [hasset], convert_from_congr hdecimals hfrom hconvert', hlocation.symm⟩

/-- On a standalone chain and a parachain with one key, whatever either of them has done since the
key was set, a batch that the first has accepted is executed by the second, for anybody. Its
proposals for the contested resource are paid in USDC by the first and in as much USDT by the
second. -/
theorem batches_replayable {host : Parachain.Host L} {transactor : TransactAsset M}
    (hstandalone : Confined (Standalone.config host.toHost transactor))
    (hparachain : Confined (Parachain.config host))
    {start final : Point M} {trace : List (Entry M)}
    (hrun : Run (Step (Standalone.config host.toHost transactor)) start trace final)
    {start' final' : Point L} {trace' : List (Entry L)}
    (hrun' : Run (Step (Parachain.config host)) start' trace' final')
    (hversion : start.state.storage.storageVersion ≠ 0)
    (hversion' : start'.state.storage.storageVersion ≠ 0)
    (hkey : start'.state.storage.mpcAddr = start.state.storage.mpcAddr)
    (hset : start.state.storage.mpcAddr ≠ .clear) {entry : Entry M} (hmem : entry ∈ trace)
    {caller : Origin} {proposals : List Proposal} {signature : Bytes}
    (haction : entry.action = .call caller (.executeProposal proposals signature))
    (hok : entry.outcome = .ok ()) :
    (∀ origin, dispatch (Parachain.config host) origin (.executeProposal proposals signature)
        final'.state =
      Exec.transactional (Exec.forEach proposals (executeOne (Parachain.config host)))
        final'.state) ∧
    ∀ proposal ∈ proposals, proposal.resourceId = contestedResourceId →
      ∀ storage storage' payout payout',
        resolve (Standalone.config host.toHost transactor) storage proposal = .ok payout →
        resolve (Parachain.config host) storage' proposal = .ok payout' →
        payout.asset.id = .concrete Standalone.usdcLocation ∧
          payout'.asset = ⟨.concrete Parachain.usdtLocation, payout.asset.fun_⟩ ∧
          payout'.location = payout.location :=
  ⟨(runtimes_sign_alike host transactor).replayed hstandalone hparachain hrun hrun' hversion
      hversion' hkey hset hmem haction hok,
    fun _ _ hresource _ _ _ _ => contested_payouts hresource⟩

/-- A proposal that was signed for a deposit of USDC. -/
def usdcProposal : Proposal :=
  ⟨1, 0, contestedResourceId, createDepositData 1000000000
    (MultiLocation.codec.encode (.ofAccount Standalone.treasuryAccount))⟩

theorem plain_host_confined : Confined (Parachain.config Parachain.plainHost) :=
  Parachain.confined ⟨fun _ _ => on_ledger_moves _, fun _ _ => on_ledger_moves _⟩
    ⟨fun _ _ => on_ledger_moves _, fun _ _ => on_ledger_moves _⟩ fun _ _ _ _ _ _ => .refl

/-- The standalone chain accepts the proposal, and the parachain then pays it out in USDT. -/
theorem batches_replayable_usdc :
    (dispatch Standalone.plainConfig .none (.executeProposal [usdcProposal] (List.replicate 65 0))
      Standalone.coveredState).1 = .ok () ∧
    dispatch (Parachain.config Parachain.plainHost) .none
        (.executeProposal [usdcProposal] (List.replicate 65 0)) Standalone.coveredState =
      Exec.transactional (Exec.forEach [usdcProposal]
        (executeOne (Parachain.config Parachain.plainHost))) Standalone.coveredState ∧
    (Exec.transactional (Exec.forEach [usdcProposal]
      (executeOne (Parachain.config Parachain.plainHost))) Standalone.coveredState).2.ledger.balance
        (.concrete Parachain.usdtLocation) Standalone.treasuryAccount = 3000 := by
  have haccepted : dispatch Standalone.plainConfig .none
      (.executeProposal [usdcProposal] (List.replicate 65 0)) Standalone.coveredState =
        (.ok (), _) := Prod.ext (by decide +kernel) rfl
  have hstandalone : Confined (Standalone.config Parachain.plainHost.toHost
      (PlainLedger.transactor Standalone.locationToAccountId).lift) := confined_of_lift rfl
  obtain ⟨hreplayed, -⟩ := batches_replayable hstandalone plain_host_confined
    (.snoc .refl (.batch haccepted)) (.refl : Run _ ⟨Standalone.coveredState, []⟩ [] _)
    (by decide) (by decide) rfl (by decide) (List.mem_singleton_self _) rfl rfl
  exact ⟨by rw [haccepted], hreplayed .none, by decide +kernel⟩

end Sygma
