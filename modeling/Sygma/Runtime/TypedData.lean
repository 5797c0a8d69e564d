import Sygma.Library.Eip712
import Sygma.Runtime.Binding

/-!
# The digest as typed structured data

The bridge unrolls the hashing of a batch by hand, with ABI encodings for the structs and packed
encodings for the array and the digest. Here the same digest is described by types: a `Proposals`
struct with an array of `Proposal` structs, in the signing domain of the bridge. `digest_typed`
says that the two agree for every batch that is not empty, layer by layer from the proposals up.
-/

namespace Sygma

open Bridge

variable {L : Type}

/-! ## The types of the bridge -/

/-- `Proposal(uint8 originDomainID,uint64 depositNonce,bytes32 resourceID,bytes data)`. -/
def proposalMembers : Eip712.Members :=
  .cons "originDomainID" (.uint 8) (.cons "depositNonce" (.uint 64)
    (.cons "resourceID" (.fixedBytes 32) (.cons "data" .bytes .nil)))

/-- `Proposals(Proposal[] proposals)`. -/
def proposalsMembers : Eip712.Members :=
  .cons "proposals" (.array (.struct "Proposal" proposalMembers)) .nil

/-- `EIP712Domain(string name,string version,uint256 chainId,address verifyingContract)`. -/
def domainMembers : Eip712.Members :=
  .cons "name" .string (.cons "version" .string (.cons "chainId" (.uint 256)
    (.cons "verifyingContract" .address .nil)))

/-- A proposal as a value of its type. -/
def Proposal.members (proposal : Proposal) : proposalMembers.Values :=
  (proposal.originDomainId, proposal.depositNonce, proposal.resourceId, proposal.data, ())

/-- A batch as a value of its type. -/
def batchMembers (proposals : List Proposal) : proposalsMembers.Values :=
  (proposals.map Proposal.members, ())

/-- The signing domain of a deployment as a value of its type. -/
def deploymentMembers (cfg : Config L) : domainMembers.Values :=
  (Bytes.ofString "Bridge", Bytes.ofString "3.1.0", cfg.eip712ChainId,
    cfg.destVerifyingContractAddress, ())

/-- The type string whose hash stands in the source as a constant. -/
def domainType : Bytes :=
  Bytes.ofString
    "EIP712Domain(string name,string version,uint256 chainId,address verifyingContract)"

/-! The type strings that are written in the source are those of the types. -/

theorem encode_type_proposal :
    Bytes.ofString (Eip712.encodeType "Proposal" proposalMembers) = proposalType := by
  have htext : Eip712.encodeType "Proposal" proposalMembers =
      "Proposal(uint8 originDomainID,uint64 depositNonce,bytes32 resourceID,bytes data)" := by
    decide +kernel
  rw [htext, proposalType]

theorem encode_type_proposals :
    Bytes.ofString (Eip712.encodeType "Proposals" proposalsMembers) = proposalsType := by
  have htext : Eip712.encodeType "Proposals" proposalsMembers =
      "Proposals(Proposal[] proposals)Proposal(uint8 originDomainID," ++
        "uint64 depositNonce,bytes32 resourceID,bytes data)" := by
    decide +kernel
  rw [htext, proposalsType]

theorem encode_type_domain :
    Bytes.ofString (Eip712.encodeType "EIP712Domain" domainMembers) = domainType := by
  have htext : Eip712.encodeType "EIP712Domain" domainMembers =
      "EIP712Domain(string name,string version,uint256 chainId,address verifyingContract)" := by
    decide +kernel
  rw [htext, domainType]

/-! ## Words -/

/-- The word of a widened number is that of the number. -/
theorem be_bytes_set_width {width : Nat} (hwidth : width ≤ 256) (value : BitVec width) :
    beBytes (value.setWidth 256) = Bytes.toBigEndian 32 value.toNat := by
  have hlt : value.toNat < 2 ^ 256 :=
    Nat.lt_of_lt_of_le value.isLt (Nat.pow_le_pow_right (by omega) hwidth)
  rw [beBytes, BitVec.toNat_setWidth, Nat.mod_eq_of_lt hlt]

/-- Reading 32 bytes as a number and writing them as a word gives them back. -/
theorem be_bytes_to_u256 (bytes : Bytes32) : beBytes (toU256 bytes) = bytes.toList := by
  have hlength : bytes.toList.length = 32 := by simp
  have hlt : Bytes.ofBigEndian bytes.toList < 2 ^ 256 := by
    have hbound := Bytes.of_big_endian_lt bytes.toList
    rwa [hlength] at hbound
  have hback := Bytes.to_of_big_endian bytes.toList
  rw [hlength] at hback
  rw [beBytes, toU256, BitVec.toNat_ofNat, Nat.mod_eq_of_lt hlt, hback]

/-! ## Layer by layer -/

section

variable {cfg : Config L} (habi : StaticAbi cfg.abiEncode)

include habi

/-- A proposal is hashed as a struct. -/
theorem proposal_hash_typed (proposal : Proposal) :
    proposalHash cfg proposal =
      Eip712.hashStruct cfg.keccak256 "Proposal" proposalMembers proposal.members := by
  have hencoded := habi _ (proposal_tokens_fit cfg proposal)
  rw [proposalHash, hencoded, Eip712.hashStruct, Eip712.typeHash, encode_type_proposal]
  simp [proposalTokens, proposalMembers, Proposal.members, Eip712.encodeData, Eip712.encodeField,
    be_bytes_set_width]

/-- The packed hashes of the proposals are the words of the array of structs. -/
theorem packed_proposal_hashes_typed (proposals : List Proposal) :
    packedProposalHashes cfg proposals =
      (proposals.map Proposal.members).flatMap
        (Eip712.encodeField cfg.keccak256 (.struct "Proposal" proposalMembers)) := by
  have hword : ∀ proposal : Proposal, (proposalHash cfg proposal).toList =
      Eip712.encodeField cfg.keccak256 (.struct "Proposal" proposalMembers) proposal.members := by
    intro proposal
    rw [proposal_hash_typed habi]
    rfl
  simp only [packedProposalHashes, encodePacked, List.map_cons, List.map_nil, pack,
    List.flatten_cons, List.flatten_nil, List.append_nil, hword]
  exact (List.flatMap_map _ _ _).symm

/-- A batch is hashed as a struct, whose one word is the hash of the array. -/
theorem struct_hash_typed (proposals : List Proposal) :
    structHash cfg proposals =
      Eip712.hashStruct cfg.keccak256 "Proposals" proposalsMembers (batchMembers proposals) := by
  have hencoded := habi _ (struct_tokens_fit cfg proposals)
  rw [structHash, hencoded, Eip712.hashStruct, Eip712.typeHash, encode_type_proposals]
  simp [structTokens, proposalsMembers, batchMembers, Eip712.encodeData, Eip712.encodeField,
    packed_proposal_hashes_typed habi]
  rfl

/-- The domain separator is the hash of the domain as a struct, if the constant in the source is the
hash of the type string of the domain. -/
theorem separator_typed (htype : cfg.keccak256 domainType = eip712DomainTypeHash) :
    (eip712Domain cfg).separator cfg =
      Eip712.hashStruct cfg.keccak256 "EIP712Domain" domainMembers (deploymentMembers cfg) := by
  have hencoded := habi _ (domain_tokens_fit cfg)
  -- the source writes the type hash of the domain out as a constant
  rw [EIP712Domain.separator, hencoded, Eip712.hashStruct, Eip712.typeHash, encode_type_domain,
    htype]
  simp [EIP712Domain.tokens, eip712Domain, domainMembers, deploymentMembers, Eip712.encodeData,
    Eip712.encodeField, be_bytes_to_u256, Token.word]
  rfl

/-- The digest of a batch that is not empty is the digest of typed structured data. -/
theorem digest_typed (htype : cfg.keccak256 domainType = eip712DomainTypeHash)
    {proposals : List Proposal} (hne : proposals ≠ []) :
    constructEcdsaSigningProposalsData cfg proposals =
      Eip712.digest cfg.keccak256 domainMembers (deploymentMembers cfg) "Proposals"
        proposalsMembers (batchMembers proposals) := by
  have hempty : proposals.isEmpty = false := by
    cases proposals with
    | nil => exact absurd rfl hne
    | cons => rfl
  rw [constructEcdsaSigningProposalsData, hempty, if_neg Bool.false_ne_true, typedData,
    separator_typed habi htype, struct_hash_typed habi, Eip712.digest]
  simp [encodePacked, pack]

end

namespace Standalone

/-- The constant of the source is the hash of the domain type. -/
theorem keccak_domain_type : keccakHash domainType = eip712DomainTypeHash := by
  decide +kernel

theorem digest_typed_extended :
    extendedBatch ≠ [] ∧
      constructEcdsaSigningProposalsData keccakConfig extendedBatch =
        Eip712.digest keccakConfig.keccak256 domainMembers (deploymentMembers keccakConfig)
          "Proposals" proposalsMembers (batchMembers extendedBatch) := by
  have habi : StaticAbi keccakConfig.abiEncode := fun _ _ => rfl
  have hne : extendedBatch ≠ [] := by simp [extendedBatch, signedBatch]
  exact ⟨hne, digest_typed habi keccak_domain_type hne⟩

end Standalone

end Sygma
