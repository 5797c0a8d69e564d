import Sygma.Config

/-!
# The digest the MPC signs

`constructEcdsaSigningProposalsData` hashes a batch of proposals into the 32 bytes that the
signature of `execute_proposal` is checked against. It is computed in four layers: the hash of
each proposal, the hash of their concatenation, the hash of the batch structure, and the hash that
joins it with the domain separator. `verifyByMpcAddress` recovers the signer of a digest.
-/

namespace Sygma.Bridge

variable {L : Type}

/-! ## Packed encoding -/

/-- The values `encode_packed` accepts. -/
inductive SolidityDataType where
  | string (text : Bytes)
  | address (address : Bytes20)
  | bytes (bytes : Bytes)
  | bool (value : Bool)
  | number (value : U256)
  | numberWithShift (value : U256) (takeLastBits : Nat)

/-- The 32 bytes of a 256-bit number, the most significant first. -/
def beBytes (value : U256) : Bytes :=
  Bytes.toBigEndian 32 value.toNat

/-- The bytes of one value without padding. A shifted number keeps its last bytes; more than 256
bits are never asked for. -/
def pack : SolidityDataType → Bytes
  | .string text => text
  | .address address => address.toList
  | .number value => beBytes value
  | .bytes bytes => bytes
  | .bool value => [if value then 1 else 0]
  | .numberWithShift value takeLastBits => (beBytes value).drop (32 - takeLastBits / 8)

/-- The concatenated bytes of the values. -/
def encodePacked (items : List SolidityDataType) : Bytes :=
  (items.map pack).flatten

/-! ## The domain separator -/

/-- The hash of the domain type without a salt, as it is written in the source. -/
def eip712DomainTypeHash : Bytes32 :=
  #v[139, 115, 195, 198, 155, 184, 254, 61, 81, 46, 204, 76, 247, 89, 204, 121, 35, 159, 123, 23,
    155, 15, 250, 202, 169, 167, 93, 82, 43, 57, 64, 15]

/-- The hash of the domain type with a salt, as it is written in the source. -/
def eip712DomainTypeHashWithSalt : Bytes32 :=
  #v[216, 124, 214, 239, 121, 212, 226, 185, 94, 21, 206, 138, 191, 115, 45, 181, 30, 199, 113,
    241, 202, 46, 220, 207, 34, 164, 108, 114, 154, 197, 100, 114]

/-- The attributes of a signing domain. -/
structure EIP712Domain where
  name : Bytes
  version : Bytes
  chainId : U256
  verifyingContract : Bytes20
  salt : Option Bytes32

/-- A 32-byte array read as a number. -/
def toU256 (bytes : Bytes32) : U256 :=
  BitVec.ofNat 256 (Bytes.ofBigEndian bytes.toList)

/-- The tokens that are encoded and hashed into the domain separator. -/
def EIP712Domain.tokens (cfg : Config L) (domain : EIP712Domain) : List Token :=
  let domainTypeHash :=
    if domain.salt.isSome then eip712DomainTypeHashWithSalt else eip712DomainTypeHash
  let tokens :=
    [.uint (toU256 domainTypeHash), .uint (toU256 (cfg.keccak256 domain.name)),
      .uint (toU256 (cfg.keccak256 domain.version)), .uint domain.chainId,
      .address domain.verifyingContract]
  match domain.salt with
  | some salt => tokens ++ [.uint (toU256 salt)]
  | none => tokens

/-- The domain separator. -/
def EIP712Domain.separator (cfg : Config L) (domain : EIP712Domain) : Bytes32 :=
  cfg.keccak256 (cfg.abiEncode (domain.tokens cfg))

/-! ## The digest of a batch -/

/-- The type string of a batch. -/
def proposalsType : Bytes :=
  Bytes.ofString ("Proposals(Proposal[] proposals)Proposal(uint8 originDomainID," ++
    "uint64 depositNonce,bytes32 resourceID,bytes data)")

/-- The type string of a proposal. -/
def proposalType : Bytes :=
  Bytes.ofString "Proposal(uint8 originDomainID,uint64 depositNonce,bytes32 resourceID,bytes data)"

/-- The tokens that are encoded and hashed for one proposal. -/
def proposalTokens (cfg : Config L) (proposal : Proposal) : List Token :=
  [.fixedBytes (cfg.keccak256 proposalType).toList, .uint (proposal.originDomainId.setWidth 256),
    .uint (proposal.depositNonce.setWidth 256), .fixedBytes proposal.resourceId.toList,
    .fixedBytes (cfg.keccak256 proposal.data).toList]

/-- The hash of one proposal. -/
def proposalHash (cfg : Config L) (proposal : Proposal) : Bytes32 :=
  cfg.keccak256 (cfg.abiEncode (proposalTokens cfg proposal))

/-- The hashes of the proposals in order, flattened and packed. -/
def packedProposalHashes (cfg : Config L) (proposals : List Proposal) : Bytes :=
  encodePacked [.bytes (proposals.flatMap fun proposal => (proposalHash cfg proposal).toList)]

/-- The tokens that are encoded and hashed for the batch. -/
def structTokens (cfg : Config L) (proposals : List Proposal) : List Token :=
  [.fixedBytes (cfg.keccak256 proposalsType).toList,
    .fixedBytes (cfg.keccak256 (packedProposalHashes cfg proposals)).toList]

/-- The hash of the batch. -/
def structHash (cfg : Config L) (proposals : List Proposal) : Bytes32 :=
  cfg.keccak256 (cfg.abiEncode (structTokens cfg proposals))

/-- The signing domain of the bridge. -/
def eip712Domain (cfg : Config L) : EIP712Domain where
  name := Bytes.ofString "Bridge"
  version := Bytes.ofString "3.1.0"
  chainId := cfg.eip712ChainId
  verifyingContract := cfg.destVerifyingContractAddress
  salt := none

/-- The bytes that are hashed into the digest: two fixed bytes, the domain separator and the hash
of the batch. -/
def typedData (cfg : Config L) (proposals : List Proposal) : Bytes :=
  encodePacked [.string [0x19, 0x01], .bytes ((eip712Domain cfg).separator cfg).toList,
    .bytes (structHash cfg proposals).toList]

/-- The digest of a batch. -/
def constructEcdsaSigningProposalsData (cfg : Config L) (proposals : List Proposal) : Bytes32 :=
  if proposals.isEmpty then Vector.replicate 32 0
  else cfg.keccak256 (typedData cfg proposals)

/-! ## Recovering the signer -/

/-- The address of an uncompressed public key: the last 20 bytes of its hash. -/
def publicKeyToAddress (cfg : Config L) (publicKey : Vector Byte 64) : Bytes20 :=
  (cfg.keccak256 publicKey.toList).drop 12

/-- Whether a signature of the message was made by the stored MPC address. A signature that is not
65 bytes long is refused. -/
def verifyByMpcAddress (cfg : Config L) (storage : Storage) (signingMessage : Bytes32)
    (signature : Bytes) : Bool :=
  if hlength : signature.length = 65 then
    match cfg.secp256k1EcdsaRecover ⟨signature.toArray, by simpa using hlength⟩ signingMessage with
    | some pubkey => publicKeyToAddress cfg pubkey == storage.mpcAddr
    | none => false
  else false

end Sygma.Bridge
