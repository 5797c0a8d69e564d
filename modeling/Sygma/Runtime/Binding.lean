import Sygma.Bridge.Specs
import Sygma.Runtime.Standalone

/-!
# What a signed digest binds

The digest of a batch is computed by hashing in four layers. `digest_inj` follows an equality of
two digests down the layers: each step either finds two different inputs with one hash, or moves on
to the next layer, where the encodings have a fixed width and can be taken apart. `digest_binds`
concludes that a signature of one batch is not accepted for any other batch or deployment.
-/

namespace Sygma

open Bridge

variable {L M : Type}

/-! ## The ABI of static tokens -/

/-- The word a static token is encoded to: numbers and addresses are padded on the left, bytes on
the right. -/
def Token.word : Token → Bytes
  | .uint value => beBytes value
  | .fixedBytes bytes => bytes ++ List.replicate (32 - bytes.length) 0
  | .address contract => List.replicate 12 0 ++ contract.toList

/-- A token that takes one word. -/
def Token.Fits : Token → Prop
  | .fixedBytes bytes => bytes.length ≤ 32
  | _ => True

/-- The ABI encoding of tokens that take one word each is the concatenation of their words. -/
def StaticAbi (abiEncode : List Token → Bytes) : Prop :=
  ∀ tokens : List Token, (∀ token ∈ tokens, token.Fits) →
    abiEncode tokens = (tokens.map Token.word).flatten

theorem length_word {token : Token} (h : token.Fits) : token.word.length = 32 := by
  cases token with
  | uint => exact Bytes.length_to_big_endian 32 _
  | fixedBytes bytes =>
      have hle : bytes.length ≤ 32 := h
      show (bytes ++ List.replicate (32 - bytes.length) 0).length = 32
      rw [List.length_append, List.length_replicate]
      omega
  | address => simp [Token.word]

/-- Static encodings are equal only if all their words are. -/
theorem abi_encode_inj {encode other : List Token → Bytes} (hencode : StaticAbi encode)
    (hother : StaticAbi other) {tokens tokens' : List Token}
    (hfits : ∀ token ∈ tokens, token.Fits) (hfits' : ∀ token ∈ tokens', token.Fits)
    (h : encode tokens = other tokens') : tokens.map Token.word = tokens'.map Token.word := by
  rw [hencode tokens hfits, hother tokens' hfits'] at h
  refine Bytes.flatten_inj (by decide : 0 < 32) ?_ ?_ h
  · intro block hmem
    obtain ⟨token, htoken, rfl⟩ := List.mem_map.mp hmem
    exact length_word (hfits token htoken)
  · intro block hmem
    obtain ⟨token, htoken, rfl⟩ := List.mem_map.mp hmem
    exact length_word (hfits' token htoken)

theorem be_bytes_inj {value other : U256} (h : beBytes value = beBytes other) : value = other :=
  BitVec.eq_of_toNat_eq (Bytes.to_big_endian_inj value.isLt other.isLt h)

/-- A number that was widened is determined by its word. -/
theorem be_bytes_set_width_inj {width : Nat} (hwidth : width ≤ 256) {value other : BitVec width}
    (h : beBytes (value.setWidth 256) = beBytes (other.setWidth 256)) : value = other := by
  have hsame := congrArg (BitVec.setWidth width) (be_bytes_inj h)
  rwa [BitVec.setWidth_setWidth_of_le _ hwidth, BitVec.setWidth_setWidth_of_le _ hwidth,
    BitVec.setWidth_eq, BitVec.setWidth_eq] at hsame

@[simp] theorem word_uint (value : U256) : (Token.uint value).word = beBytes value := rfl

@[simp] theorem word_fixed_bytes (bytes : Bytes32) :
    (Token.fixedBytes bytes.toList).word = bytes.toList := by
  simp [Token.word]

theorem to_list_inj {n : Nat} {bytes other : Vector Byte n} (h : bytes.toList = other.toList) :
    bytes = other :=
  Vector.toList_inj.mp h

/-! ## The inputs of the hash -/

/-- Two different inputs, one of each computation, with the same hash. -/
def Collision (hash : Bytes → Bytes32) (first second : List Bytes) : Prop :=
  ∃ input ∈ first, ∃ other ∈ second, input ≠ other ∧ hash input = hash other

instance (hash : Bytes → Bytes32) (first second : List Bytes) :
    Decidable (Collision hash first second) :=
  inferInstanceAs (Decidable (∃ input ∈ first, ∃ other ∈ second,
    input ≠ other ∧ hash input = hash other))

/-- Everything that is hashed to compute the digest of a batch. -/
def hashInputs (cfg : Config L) (proposals : List Proposal) : List Bytes :=
  [proposalsType, proposalType] ++
    proposals.flatMap (fun proposal =>
      [proposal.data, cfg.abiEncode (proposalTokens cfg proposal)]) ++
    [packedProposalHashes cfg proposals, cfg.abiEncode (structTokens cfg proposals),
      (eip712Domain cfg).name, (eip712Domain cfg).version,
      cfg.abiEncode ((eip712Domain cfg).tokens cfg), typedData cfg proposals]

/-- Without a collision, inputs with the same hash are equal. -/
theorem eq_of_hash_eq {hash : Bytes → Bytes32} {first second : List Bytes}
    (hfree : ¬ Collision hash first second) {input other : Bytes} (hinput : input ∈ first)
    (hother : other ∈ second) (h : hash input = hash other) : input = other := by
  by_contra hne
  exact hfree ⟨input, hinput, other, hother, hne, h⟩

theorem mem_hash_inputs_of_mem {cfg : Config L} {proposals : List Proposal} {proposal : Proposal}
    (h : proposal ∈ proposals) :
    proposal.data ∈ hashInputs cfg proposals ∧
      cfg.abiEncode (proposalTokens cfg proposal) ∈ hashInputs cfg proposals := by
  simp only [hashInputs, List.mem_append, List.mem_flatMap]
  exact ⟨.inl (.inr ⟨proposal, h, by simp⟩), .inl (.inr ⟨proposal, h, by simp⟩)⟩

/-- The digest reads the hash at the listed inputs only: a configuration whose hash agrees there
computes the same digest. -/
theorem digest_congr {cfg : Config L} {other : Config M} {proposals : List Proposal}
    (habi : other.abiEncode = cfg.abiEncode) (hchain : other.eip712ChainId = cfg.eip712ChainId)
    (hcontract : other.destVerifyingContractAddress = cfg.destVerifyingContractAddress)
    (h : ∀ input ∈ hashInputs cfg proposals, other.keccak256 input = cfg.keccak256 input) :
    constructEcdsaSigningProposalsData other proposals =
      constructEcdsaSigningProposalsData cfg proposals := by
  -- innermost first: the hashes of the proposals, of the batch, and of the domain
  have hproposal : ∀ proposal ∈ proposals,
      proposalHash other proposal = proposalHash cfg proposal := by
    intro proposal hmem
    have htokens : proposalTokens other proposal = proposalTokens cfg proposal := by
      simp only [proposalTokens, h _ (mem_hash_inputs_of_mem hmem).1,
        h proposalType (by simp [hashInputs])]
    rw [proposalHash, htokens, habi]
    exact h _ (mem_hash_inputs_of_mem hmem).2
  have hpacked : packedProposalHashes other proposals = packedProposalHashes cfg proposals := by
    simp only [packedProposalHashes, List.flatMap_def]
    rw [List.map_congr_left fun proposal hmem => congrArg Vector.toList (hproposal proposal hmem)]
  have hstruct : structHash other proposals = structHash cfg proposals := by
    have htype := h proposalsType (by simp [hashInputs])
    have hbatch := h (packedProposalHashes cfg proposals) (by simp [hashInputs])
    have htokens : structTokens other proposals = structTokens cfg proposals := by
      simp only [structTokens, hpacked, htype, hbatch]
    rw [structHash, htokens, habi]
    exact h _ (by simp [hashInputs])
  have hseparator : (eip712Domain other).separator other = (eip712Domain cfg).separator cfg := by
    have hname := h (eip712Domain cfg).name (by simp [hashInputs])
    have hversion := h (eip712Domain cfg).version (by simp [hashInputs])
    have htokens : (eip712Domain other).tokens other = (eip712Domain cfg).tokens cfg := by
      simp only [eip712Domain] at hname hversion
      simp [EIP712Domain.tokens, eip712Domain, hname, hversion, hchain, hcontract]
    rw [EIP712Domain.separator, htokens, habi]
    exact h _ (by simp [hashInputs])
  have htyped : typedData other proposals = typedData cfg proposals := by
    simp only [typedData, hstruct, hseparator]
  have hdigest := h (typedData cfg proposals) (by simp [hashInputs])
  simp only [constructEcdsaSigningProposalsData, htyped, hdigest]

/-! ## Down the layers -/

theorem proposal_tokens_fit (cfg : Config L) (proposal : Proposal) :
    ∀ token ∈ proposalTokens cfg proposal, token.Fits := by
  simp [proposalTokens, Token.Fits]

theorem struct_tokens_fit (cfg : Config L) (proposals : List Proposal) :
    ∀ token ∈ structTokens cfg proposals, token.Fits := by
  simp [structTokens, Token.Fits]

theorem domain_tokens_fit (cfg : Config L) :
    ∀ token ∈ (eip712Domain cfg).tokens cfg, token.Fits := by
  simp [EIP712Domain.tokens, eip712Domain, Token.Fits]

section

variable {cfg : Config L} {other : Config M} {proposals proposals' : List Proposal}
  (hhash : other.keccak256 = cfg.keccak256) (habi : StaticAbi cfg.abiEncode)
  (habi' : StaticAbi other.abiEncode)
  (hfree : ¬ Collision cfg.keccak256 (hashInputs cfg proposals) (hashInputs other proposals'))

include hhash habi habi' hfree

/-- The hash of a proposal determines the proposal. -/
theorem proposal_hash_inj {proposal proposal' : Proposal} (hmem : proposal ∈ proposals)
    (hmem' : proposal' ∈ proposals')
    (h : proposalHash cfg proposal = proposalHash other proposal') : proposal = proposal' := by
  have hencoded : cfg.abiEncode (proposalTokens cfg proposal) =
      other.abiEncode (proposalTokens other proposal') := by
    unfold proposalHash at h
    rw [hhash] at h
    exact eq_of_hash_eq hfree (mem_hash_inputs_of_mem hmem).2 (mem_hash_inputs_of_mem hmem').2 h
  have hwords := abi_encode_inj habi habi' (proposal_tokens_fit cfg proposal)
    (proposal_tokens_fit other proposal') hencoded
  simp only [proposalTokens, List.map_cons, List.map_nil, List.cons.injEq, word_fixed_bytes,
    word_uint, and_true] at hwords
  obtain ⟨-, hdomain, hnonce, hresource, hdata⟩ := hwords
  have hdata : proposal.data = proposal'.data := by
    rw [hhash] at hdata
    exact eq_of_hash_eq hfree (mem_hash_inputs_of_mem hmem).1 (mem_hash_inputs_of_mem hmem').1
      (to_list_inj hdata)
  have hdomain := be_bytes_set_width_inj (by decide) hdomain
  have hnonce := be_bytes_set_width_inj (by decide) hnonce
  have hresource := to_list_inj hresource
  cases proposal
  cases proposal'
  rw [Proposal.mk.injEq]
  exact ⟨hdomain, hnonce, hresource, hdata⟩

/-- The packed hashes of the proposals determine the batch, also its length. -/
theorem packed_proposal_hashes_inj
    (h : packedProposalHashes cfg proposals = packedProposalHashes other proposals') :
    proposals = proposals' := by
  have hblocks : proposals.map (fun proposal => (proposalHash cfg proposal).toList) =
      proposals'.map (fun proposal => (proposalHash other proposal).toList) := by
    simp only [packedProposalHashes, encodePacked, List.map_cons, List.map_nil, pack,
      List.flatten_cons, List.flatten_nil, List.append_nil, List.flatMap_def] at h
    refine Bytes.flatten_inj (by decide : 0 < 32) ?_ ?_ h
    · simp
    · simp
  have hlength : proposals.length = proposals'.length := by
    simpa using congrArg List.length hblocks
  refine List.ext_getElem hlength ?_
  intro i hi hi'
  have hblock : (proposalHash cfg proposals[i]).toList =
      (proposalHash other proposals'[i]).toList := by
    have hget := congrArg (fun blocks => blocks[i]?) hblocks
    simpa [hi, hi'] using hget
  exact proposal_hash_inj hhash habi habi' hfree (List.getElem_mem hi) (List.getElem_mem hi')
    (to_list_inj hblock)

/-- The hash of the batch determines the batch. -/
theorem struct_hash_inj (h : structHash cfg proposals = structHash other proposals') :
    proposals = proposals' := by
  have hencoded : cfg.abiEncode (structTokens cfg proposals) =
      other.abiEncode (structTokens other proposals') := by
    unfold structHash at h
    rw [hhash] at h
    exact eq_of_hash_eq hfree (by simp [hashInputs]) (by simp [hashInputs]) h
  have hwords := abi_encode_inj habi habi' (struct_tokens_fit cfg proposals)
    (struct_tokens_fit other proposals') hencoded
  simp only [structTokens, List.map_cons, List.map_nil, List.cons.injEq, word_fixed_bytes,
    and_true] at hwords
  obtain ⟨-, hpacked⟩ := hwords
  rw [hhash] at hpacked
  exact packed_proposal_hashes_inj hhash habi habi' hfree
    (eq_of_hash_eq hfree (by simp [hashInputs]) (by simp [hashInputs]) (to_list_inj hpacked))

/-- The domain separator determines the chain id and the contract. -/
theorem separator_inj
    (h : (eip712Domain cfg).separator cfg = (eip712Domain other).separator other) :
    cfg.eip712ChainId = other.eip712ChainId ∧
      cfg.destVerifyingContractAddress = other.destVerifyingContractAddress := by
  have hencoded : cfg.abiEncode ((eip712Domain cfg).tokens cfg) =
      other.abiEncode ((eip712Domain other).tokens other) := by
    unfold EIP712Domain.separator at h
    rw [hhash] at h
    exact eq_of_hash_eq hfree (by simp [hashInputs]) (by simp [hashInputs]) h
  have hwords := abi_encode_inj habi habi' (domain_tokens_fit cfg) (domain_tokens_fit other)
    hencoded
  simp only [EIP712Domain.tokens, eip712Domain, List.map_cons, List.map_nil, List.cons.injEq,
    word_uint, and_true] at hwords
  obtain ⟨-, -, -, hchain, hcontract⟩ := hwords
  exact ⟨be_bytes_inj hchain, to_list_inj (List.append_cancel_left hcontract)⟩

/-- The digest of a batch determines the batch and the deployment. -/
theorem digest_inj (hne : proposals ≠ []) (hne' : proposals' ≠ [])
    (h : constructEcdsaSigningProposalsData cfg proposals =
      constructEcdsaSigningProposalsData other proposals') :
    cfg.eip712ChainId = other.eip712ChainId ∧
      cfg.destVerifyingContractAddress = other.destVerifyingContractAddress ∧
      proposals = proposals' := by
  have htyped : typedData cfg proposals = typedData other proposals' := by
    rw [constructEcdsaSigningProposalsData, if_neg (by simpa using hne),
      constructEcdsaSigningProposalsData, if_neg (by simpa using hne'), hhash] at h
    exact eq_of_hash_eq hfree (by simp [hashInputs]) (by simp [hashInputs]) h
  simp only [typedData, encodePacked, List.map_cons, List.map_nil, pack, List.flatten_cons,
    List.flatten_nil, List.append_nil] at htyped
  obtain ⟨hseparator, hstruct⟩ := List.append_inj (List.append_cancel_left htyped) (by simp)
  obtain ⟨hchain, hcontract⟩ := separator_inj hhash habi habi' hfree (to_list_inj hseparator)
  exact ⟨hchain, hcontract, struct_hash_inj hhash habi habi' hfree (to_list_inj hstruct)⟩

end

/-! ## Signatures -/

/-- A signature that is accepted recovers to the stored address. -/
theorem verify_by_mpc_address_ok {cfg : Config L} {storage : Storage} {message : Bytes32}
    {signature : Bytes} :
    verifyByMpcAddress cfg storage message signature = true ↔
      ∃ (fixed : Vector Byte 65) (key : Vector Byte 64), fixed.toList = signature ∧
        cfg.secp256k1EcdsaRecover fixed message = some key ∧
        publicKeyToAddress cfg key = storage.mpcAddr := by
  constructor
  · intro h
    unfold verifyByMpcAddress at h
    split at h
    · rename_i hlength
      split at h
      · rename_i key hkey
        exact ⟨_, key, by simp, hkey, by simpa using h⟩
      · cases h
    · cases h
  · rintro ⟨fixed, key, rfl, hkey, haddress⟩
    have hlength : fixed.toList.length = 65 := Vector.length_toList
    have hfixed : (⟨fixed.toList.toArray, by simp⟩ : Vector Byte 65) = fixed :=
      Vector.toList_inj.mp List.toList_toArray
    unfold verifyByMpcAddress
    rw [dif_pos hlength, hfixed, hkey]
    exact beq_iff_eq.mpr haddress

/-- A signature does not recover to one address from both of two different messages. -/
def SignsOne (cfg : Config L) (signature : Bytes) (message message' : Bytes32) : Prop :=
  ∀ (fixed : Vector Byte 65) (key key' : Vector Byte 64), fixed.toList = signature →
    cfg.secp256k1EcdsaRecover fixed message = some key →
    cfg.secp256k1EcdsaRecover fixed message' = some key' →
    publicKeyToAddress cfg key = publicKeyToAddress cfg key' → message = message'

/-- The hashing and recovery of two deployments are the same functions. -/
structure SameHost (cfg : Config L) (other : Config M) : Prop where
  hash : other.keccak256 = cfg.keccak256
  recover : other.secp256k1EcdsaRecover = cfg.secp256k1EcdsaRecover

/-- A signature that two deployments with one key accept for two messages signs the same message. -/
theorem SignsOne.eq {cfg : Config L} {other : Config M} (hhost : SameHost cfg other)
    {signature : Bytes} {message message' : Bytes32} (h : SignsOne cfg signature message message')
    {storage storage' : Storage} (hkey : storage'.mpcAddr = storage.mpcAddr)
    (hverify : verifyByMpcAddress cfg storage message signature = true)
    (hverify' : verifyByMpcAddress other storage' message' signature = true) :
    message = message' := by
  obtain ⟨fixed, key, hfixed, hrecover, haddress⟩ := verify_by_mpc_address_ok.mp hverify
  obtain ⟨fixed', key', hfixed', hrecover', haddress'⟩ := verify_by_mpc_address_ok.mp hverify'
  obtain rfl : fixed = fixed' := to_list_inj (hfixed.trans hfixed'.symm)
  rw [hhost.recover] at hrecover'
  refine h fixed key key' hfixed hrecover hrecover' ?_
  rw [haddress, ← hkey, ← haddress', publicKeyToAddress, publicKeyToAddress, hhost.hash]

/-- Two deployments sign for the same chain and contract, and two batches are the same list. -/
def SameMessage (cfg : Config L) (other : Config M) (proposals proposals' : List Proposal) : Prop :=
  cfg.eip712ChainId = other.eip712ChainId ∧
    cfg.destVerifyingContractAddress = other.destVerifyingContractAddress ∧
    proposals = proposals'

/-- The digest of a batch binds the whole batch and the deployment, or the two computations exhibit
a collision. Without a collision, a signature that is accepted for a batch is not accepted for any
other batch, chain id or contract. -/
theorem digest_binds {cfg : Config L} {other : Config M} (hhost : SameHost cfg other)
    (habi : StaticAbi cfg.abiEncode) (habi' : StaticAbi other.abiEncode)
    {proposals proposals' : List Proposal} (hne : proposals ≠ []) :
    (proposals' ≠ [] → constructEcdsaSigningProposalsData cfg proposals =
        constructEcdsaSigningProposalsData other proposals' →
      SameMessage cfg other proposals proposals' ∨
        Collision cfg.keccak256 (hashInputs cfg proposals) (hashInputs other proposals')) ∧
    (¬ Collision cfg.keccak256 (hashInputs cfg proposals) (hashInputs other proposals') →
      ¬ SameMessage cfg other proposals proposals' →
      ∀ (storage : Storage) (state : State M) (origin : Origin) (signature : Bytes),
        state.storage.mpcAddr = storage.mpcAddr →
        SignsOne cfg signature (constructEcdsaSigningProposalsData cfg proposals)
          (constructEcdsaSigningProposalsData other proposals') →
        verifyByMpcAddress cfg storage (constructEcdsaSigningProposalsData cfg proposals)
          signature = true →
        (executeProposal other origin proposals' signature state).1 ≠ .ok ()) := by
  constructor
  · intro hne' hdigest
    by_cases hcollision : Collision cfg.keccak256 (hashInputs cfg proposals)
        (hashInputs other proposals')
    · exact .inr hcollision
    · exact .inl (digest_inj hhost.hash habi habi' hcollision hne hne' hdigest)
  · intro hfree hdiffer storage state origin signature hkey hsigns hverify hok
    obtain ⟨-, hne', hverify', -⟩ := execute_proposal_ok.mp
      (Prod.ext hok rfl : executeProposal other origin proposals' signature state = (.ok (), _))
    exact hdiffer (digest_inj hhost.hash habi habi' hfree hne hne'
      (hsigns.eq hhost hkey hverify hverify'))

/-! ## A signed batch -/

namespace Standalone

def signedBatch : List Proposal := [⟨1, 0, resource 0 0, createDepositData 5 [1, 0]⟩]

/-- The batch with a second proposal. -/
def extendedBatch : List Proposal :=
  signedBatch ++ [⟨1, 1, resource 0 0, createDepositData 5 [1, 0]⟩]

/-- Numbers as words of 32 bytes. -/
def words (numbers : List Nat) : Bytes := numbers.flatMap (Bytes.toBigEndian 32)

theorem length_words (numbers : List Nat) : (words numbers).length = 32 * numbers.length := by
  simp [words, List.length_flatMap, Nat.mul_comm]

/-! The Keccak hashes for the two batches, from the types inwards to the digests. -/

def domainTypeHash : Nat := 0x8b73c3c69bb8fe3d512ecc4cf759cc79239f7b179b0ffacaa9a75d522b39400f
def proposalsTypeHash : Nat := 0x989d14110ba109ccad392cc18511d1f6ae3a85165c5960e49d72c2c67682fde5
def proposalTypeHash : Nat := 0xcc13634e956dd3d4ec8d808ee8bf294e1cd05a38f63fe7f234b079a0a4c36a70
def nameHash : Nat := 0x7aa5ae620294318af92bf4e2b2a729646c932a80312a5fa630da993a2ef5cc10
def versionHash : Nat := 0x0e23d0b508e2034d01a5c31f12e9d9bbb31708c5518057dde31201ab93b17cef
def separatorHash : Nat := 0x25068876a4cd95e3bcc5832946c0736bacdb95c8b66c2d4cfa85a96cd8ce3f42
def dataHash : Nat := 0x9b481705e426fe65fc887fb5fb478f6d3e6da04db10f70885e163358f2aa70b1
def firstHash : Nat := 0x6691b8db12d344597b78c62ccc4e267017fc2475ddfd964630fc6aab8b94b143
def secondHash : Nat := 0xd6b81999c77827ccfd6e842deaba98ed85119808692ca3632a247b28f8763f70
def signedArrayHash : Nat := 0xd48dcb60c6d0673a59dc50fb981f82014ed84133941997ab2a8731558cb8847d
def extendedArrayHash : Nat := 0xe54601b864e40eb6cd44466619c51477ad06d5f63711178ff450164c8144a42d
def signedStructHash : Nat := 0xd7059e6e2ed45edeecc48f8437a8ea5c555cbb77d0f5d55297749c7cbd7b6ab2
def extendedStructHash : Nat := 0x147adaf3535a5d995a56e884b37ff3dfabb2b3ed217309056c87f5ce8a7094ea
def signedDigest : Nat := 0x2756a2d91dc836413f729f1aff6b087257b6c3ec8d6df65af98edd26d10b1031
def extendedDigest : Nat := 0xbe11ea9d2b78eafe48cca65cf29e921f786b21cea0e9e32c2a6df558d580da50

/-- A signature of the batch: the two numbers of the signature and the recovery id. -/
def mpcSignature : Bytes :=
  words [0x544e77a4dbfad982648d8e4c293bc8bb5185e04417b4b073d7155c4ee55a1350,
    0x2a053d2d4d88b07f4df30f65b2bfd3dea15666caabd247a9c9458d49d5332d7f] ++ [1]

/-- An uncompressed public key. -/
def publicKey (x y : Nat) : Vector Byte 64 := ⟨(words [x, y]).toArray, by simp [length_words]⟩

/-- The public key that signed the batch. -/
def signerKey : Vector Byte 64 :=
  publicKey 0x85713e7bd29d71049725d42387ec17cc40245253a6368f14590803197b17c80b
    0x4b77755d9e7d17dda7d4c26161d2a4452ff460ee9bace47bf396a7fca0f07e88

/-- The public key for which the same signature is one of the extended batch. -/
def otherKey : Vector Byte 64 :=
  publicKey 0xd21b3d7cf413fdf6a6f99866101993d69a32c78d320936bf2bb2ece887d8eb48
    0x8833917c8accaa4c7aba9dc1bb6bc3e8450549fd077b1cd0d7353e8d6de0693d

/-- Everything that is hashed for the two batches and for the two keys. -/
def keccakTable : List (Bytes × Nat) :=
  [(Bytes.ofString ("EIP712Domain(string name,string version,uint256 chainId," ++
      "address verifyingContract)"), domainTypeHash),
    (proposalsType, proposalsTypeHash), (proposalType, proposalTypeHash),
    (Bytes.ofString "Bridge", nameHash), (Bytes.ofString "3.1.0", versionHash),
    (words [domainTypeHash, nameHash, versionHash, 5, 0x6CdE2Cd82a4F8B74693Ff5e194c19CA08c2d1c68],
      separatorHash),
    (createDepositData 5 [1, 0], dataHash),
    (words [proposalTypeHash, 1, 0, 0, dataHash], firstHash),
    (words [proposalTypeHash, 1, 1, 0, dataHash], secondHash),
    (words [firstHash], signedArrayHash), (words [firstHash, secondHash], extendedArrayHash),
    (words [proposalsTypeHash, signedArrayHash], signedStructHash),
    (words [proposalsTypeHash, extendedArrayHash], extendedStructHash),
    ([0x19, 0x01] ++ words [separatorHash, signedStructHash], signedDigest),
    ([0x19, 0x01] ++ words [separatorHash, extendedStructHash], extendedDigest),
    (signerKey.toList, 0xa147a2eea04e1b1302eca3223ace995d2bf9f108f034ae388d258fe5d06c5054),
    (otherKey.toList, 0xfcd1b9424093d84f60fdac57e57c6fb542666730dcc14ae1085ca793b6d80b7e)]

/-- The hash, as far as it is in the table. -/
def keccakHash (input : Bytes) : Bytes32 :=
  ⟨(words [(keccakTable.lookup input).getD 0]).toArray, by simp [length_words]⟩

/-- The key that a signature of a digest recovers to, for the signature and the two digests. -/
def recoverKey (signature : Vector Byte 65) (message : Bytes32) : Option (Vector Byte 64) :=
  if signature.toList = mpcSignature then
    if message.toList = words [signedDigest] then some signerKey
    else if message.toList = words [extendedDigest] then some otherKey
    else none
  else none

/-- A host that encodes words, hashes by the table, and recovers the two keys. -/
def keccakHost : Host :=
  { constantHost with
    keccak256 := keccakHash
    abiEncode tokens := (tokens.map Token.word).flatten
    secp256k1EcdsaRecover := recoverKey }

def keccakConfig : Config PlainLedger :=
  config keccakHost (PlainLedger.transactor locationToAccountId).lift

/-- A chain whose key signed the batch. -/
def signedState : State PlainLedger :=
  let state : State PlainLedger := .genesis 1 ⟨fun _ _ => 10⟩
  { state with
    storage := { state.storage with mpcAddr := publicKeyToAddress keccakConfig signerKey } }

/-- The hashes of the two batches are in the table and do not collide, and their digests recover to
keys with different addresses. Evaluated at once, since all parts read the type strings. -/
theorem keccak_separates :
    ¬ Collision keccakHash (hashInputs keccakConfig signedBatch)
        (hashInputs keccakConfig extendedBatch) ∧
      (constructEcdsaSigningProposalsData keccakConfig signedBatch).toList =
        words [signedDigest] ∧
      (constructEcdsaSigningProposalsData keccakConfig extendedBatch).toList =
        words [extendedDigest] ∧
      publicKeyToAddress keccakConfig signerKey ≠ publicKeyToAddress keccakConfig otherKey := by
  decide +kernel

/-- The signature recovers to the signer for the digest of the batch, and to the other key for that
of the extended batch. -/
theorem recover_key_digests {signature : Vector Byte 65} (h : signature.toList = mpcSignature) :
    recoverKey signature (constructEcdsaSigningProposalsData keccakConfig signedBatch) =
        some signerKey ∧
      recoverKey signature (constructEcdsaSigningProposalsData keccakConfig extendedBatch) =
        some otherKey := by
  obtain ⟨-, hsigned, hextended, -⟩ := keccak_separates
  have hother : words [extendedDigest] ≠ words [signedDigest] := by decide +kernel
  unfold recoverKey
  rw [if_pos h, if_pos hsigned, if_pos h, hextended, if_neg hother, if_pos rfl]
  exact ⟨rfl, rfl⟩

theorem digest_binds_extended :
    verifyByMpcAddress keccakConfig signedState.storage
        (constructEcdsaSigningProposalsData keccakConfig signedBatch) mpcSignature = true ∧
      (executeProposal keccakConfig .none extendedBatch mpcSignature signedState).1 ≠ .ok () := by
  obtain ⟨hfree, -, -, haddresses⟩ := keccak_separates
  have hlength : mpcSignature.length = 65 := by decide +kernel
  have hverify : verifyByMpcAddress keccakConfig signedState.storage
      (constructEcdsaSigningProposalsData keccakConfig signedBatch) mpcSignature = true := by
    have hfixed : (⟨mpcSignature.toArray, by simpa using hlength⟩ : Vector Byte 65).toList =
        mpcSignature := by simp
    have hhost : keccakConfig.secp256k1EcdsaRecover = recoverKey := rfl
    refine verify_by_mpc_address_ok.mpr ⟨_, signerKey, hfixed, ?_, rfl⟩
    rw [hhost]
    exact (recover_key_digests hfixed).1
  have habi : StaticAbi keccakConfig.abiEncode := fun _ _ => rfl
  refine ⟨hverify, (digest_binds ⟨rfl, rfl⟩ habi habi (by decide)).2 hfree ?_
    signedState.storage signedState .none mpcSignature rfl ?_ hverify⟩
  · rintro ⟨-, -, hsame⟩
    exact absurd (congrArg List.length hsame) (by decide)
  · intro fixed key key' hfixed hkey hkey' haddress
    obtain ⟨hsigner, hother⟩ := recover_key_digests hfixed
    obtain rfl : signerKey = key := Option.some.inj (hsigner.symm.trans hkey)
    obtain rfl : otherKey = key' := Option.some.inj (hother.symm.trans hkey')
    exact absurd haddress haddresses

end Standalone

end Sygma
