import Mathlib.Data.List.Nodup
import Sygma.Config

/-!
# Deposit data and the resource table

The byte string that carries a transfer between domains: a 32-byte amount, a 32-byte length and
the recipient. `createDepositData` writes it into the event of a deposit and
`extractDepositData` reads it from a proposal. `extractAsset` and `ridToAssetid` look up the
resource table in its two directions.
-/

namespace Sygma.Bridge

open Exec (Fault except_bind_ok)

variable {L ε : Type}

/-- A 128-bit number as 32 bytes, the most significant first. -/
def hexZeroPadding32 (number : U128) : Bytes :=
  Bytes.toBigEndian 32 number.toNat

/-- The data of a deposit: amount, length of the recipient, recipient. -/
def createDepositData (amount : U128) (recipient : Bytes) : Bytes :=
  hexZeroPadding32 amount ++ hexZeroPadding32 (BitVec.ofNat 128 recipient.length) ++ recipient

/-- The bytes from `start` up to `stop`. A range that is not inside the byte string panics. -/
def slice (bytes : Bytes) (start stop : Nat) : Except (Fault ε) Bytes :=
  if start ≤ stop ∧ stop ≤ bytes.length then .ok ((bytes.take stop).drop start)
  else .error (.panic .index)

/-- The value of an option; deposit data without it is invalid. -/
def orInvalid {α : Type} : Option α → Except (Fault DispatchError) α
  | some value => .ok value
  | none => .error (.error (.bridge .invalidDepositData))

/-- A 256-bit number as an integer of the given number of bits, if it fits. -/
def tryInto (bits : Nat) (number : Nat) : Option (BitVec bits) :=
  if number < 2 ^ bits then some (BitVec.ofNat bits number) else none

/-- The amount and the recipient location of deposit data. -/
def extractDepositData (cfg : Config L) (data : Bytes) :
    Except (Fault DispatchError) (U128 × MultiLocation) := do
  orInvalid (if data.length < 64 then none else some ())
  let amountBytes ← slice data 0 32
  let amount ← orInvalid (tryInto 128 (Bytes.ofBigEndian amountBytes))
  let lengthBytes ← slice data 32 64
  let recipientLen ← orInvalid (tryInto cfg.usizeBits (Bytes.ofBigEndian lengthBytes))
  orInvalid (if data.length - 64 ≠ recipientLen.toNat then none else some ())
  let recipient ← slice data 64 data.length
  let location ← orInvalid (cfg.decodeMultiLocation recipient)
  pure (amount, location)

/-- The resource id, amount and transfer type of an asset. Only fungible assets are supported. -/
def extractAsset (cfg : Config L) (asset : MultiAsset) :
    Option (ResourceId × U128 × TransferType) :=
  match asset.fun_ with
  | .fungible amount =>
      (cfg.resourcePairs.find? fun pair => pair.1 == asset.id).map fun pair =>
        (pair.2, amount, .fungibleTransfer)
  | .nonFungible _ => none

/-- The asset a resource id is bound to. -/
def ridToAssetid (cfg : Config L) (rid : ResourceId) : Option AssetId :=
  (cfg.resourcePairs.find? fun pair => pair.2 == rid).map fun pair => pair.1

/-- The account that holds the reserve of a token. -/
def getTokenReservedAccount (cfg : Config L) (tokenId : AssetId) : Option AccountId :=
  cfg.transferReserveAccounts tokenId

/-! ## What is extracted -/

@[simp] theorem slice_ok {bytes result : Bytes} {start stop : Nat} :
    slice (ε := ε) bytes start stop = .ok result ↔
      start ≤ stop ∧ stop ≤ bytes.length ∧ (bytes.take stop).drop start = result := by
  unfold slice
  split <;> rename_i h
  · simp [h]
  · simp only [reduceCtorEq, false_iff]
    rintro ⟨hstart, hstop, _⟩
    exact h ⟨hstart, hstop⟩

@[simp] theorem or_invalid_ok {α : Type} {option : Option α} {value : α} :
    orInvalid option = .ok value ↔ option = some value := by
  cases option <;> simp [orInvalid]

theorem try_into_eq_some {bits number : Nat} {value : BitVec bits} :
    tryInto bits number = some value ↔ number = value.toNat := by
  unfold tryInto
  split <;> rename_i h
  · rw [Option.some.injEq, ← BitVec.toNat_inj, BitVec.toNat_ofNat, Nat.mod_eq_of_lt h]
  · simp only [reduceCtorEq, false_iff]
    intro heq
    exact h (heq ▸ value.isLt)

/-- Data is accepted exactly when it has at least 64 bytes, its first word is a 128-bit amount,
its second word fits the platform and is the number of bytes that follow, and these decode to the
location. -/
theorem extract_deposit_data_ok {cfg : Config L} {data : Bytes} {amount : U128}
    {location : MultiLocation} :
    extractDepositData cfg data = .ok (amount, location) ↔
      64 ≤ data.length ∧ Bytes.ofBigEndian (data.take 32) = amount.toNat ∧
        Bytes.ofBigEndian ((data.take 64).drop 32) = data.length - 64 ∧
        data.length - 64 < 2 ^ cfg.usizeBits ∧
        cfg.decodeMultiLocation (data.drop 64) = some location := by
  unfold extractDepositData
  simp only [except_bind_ok, or_invalid_ok, slice_ok, try_into_eq_some]
  constructor
  · rintro ⟨_, hlong, _, ⟨-, -, rfl⟩, value, hamount, _, ⟨-, -, rfl⟩, len, hlen, _, hsame, _,
      ⟨-, -, rfl⟩, found, hfound, hresult⟩
    cases hresult
    have hlong : 64 ≤ data.length := by simpa using hlong
    have hsame : data.length - 64 = len.toNat := by simpa using hsame
    refine ⟨hlong, by simpa using hamount, hlen.trans hsame.symm, ?_, by simpa using hfound⟩
    rw [hsame]
    exact len.isLt
  · rintro ⟨hlong, hamount, hlen, hfits, hfound⟩
    have hword : data.length - 64 = (BitVec.ofNat cfg.usizeBits (data.length - 64)).toNat := by
      rw [BitVec.toNat_ofNat, Nat.mod_eq_of_lt hfits]
    refine ⟨(), by simpa using hlong, _, ⟨by omega, by omega, rfl⟩, amount, by simpa using hamount,
      _, ⟨by omega, by omega, rfl⟩, _, hlen.trans hword, (), by simp [← hword], _,
      ⟨by omega, by omega, rfl⟩, location, by simpa using hfound, rfl⟩

/-- The first word of created data is the amount. -/
theorem of_big_endian_take_create (amount : U128) (recipient : Bytes) :
    Bytes.ofBigEndian ((createDepositData amount recipient).take 32) = amount.toNat := by
  have htake : (createDepositData amount recipient).take 32 = hexZeroPadding32 amount := by
    simp [createDepositData, hexZeroPadding32]
  have hfits : amount.toNat < 256 ^ 32 := Nat.lt_of_lt_of_le amount.isLt (by decide)
  rw [htake, hexZeroPadding32, Bytes.of_to_big_endian_of_lt hfits]

theorem drop_create_deposit_data (amount : U128) (recipient : Bytes) :
    (createDepositData amount recipient).drop 64 = recipient :=
  List.drop_left' (by simp [hexZeroPadding32])

/-- Extracting created data gives back the amount, and the location the recipient decodes to. -/
theorem extract_create_deposit_data {cfg : Config L} {amount extracted : U128} {recipient : Bytes}
    {location : MultiLocation}
    (h : extractDepositData cfg (createDepositData amount recipient) = .ok (extracted, location)) :
    extracted = amount ∧ cfg.decodeMultiLocation recipient = some location := by
  obtain ⟨-, hamount, -, -, hlocation⟩ := extract_deposit_data_ok.mp h
  rw [of_big_endian_take_create] at hamount
  rw [drop_create_deposit_data] at hlocation
  exact ⟨BitVec.eq_of_toNat_eq hamount.symm, hlocation⟩

/-! ## The resource table -/

/-- An asset that is accepted is fungible and stands in the table with its resource id. -/
theorem extract_asset_some {cfg : Config L} {asset : MultiAsset} {rid : ResourceId} {amount : U128}
    {transferType : TransferType} (h : extractAsset cfg asset = some (rid, amount, transferType)) :
    asset = ⟨asset.id, .fungible amount⟩ ∧ transferType = .fungibleTransfer ∧
      (asset.id, rid) ∈ cfg.resourcePairs := by
  obtain ⟨id, value⟩ := asset
  cases value with
  | nonFungible => cases h
  | fungible value =>
      obtain ⟨pair, hfind, hpair⟩ := Option.map_eq_some_iff.mp h
      cases hpair
      have hid : pair.1 = id := by simpa using List.find?_some hfind
      refine ⟨rfl, rfl, ?_⟩
      rw [← hid]
      exact List.mem_of_find?_eq_some hfind

theorem rid_to_assetid_mem {cfg : Config L} {rid : ResourceId} {asset : AssetId}
    (h : ridToAssetid cfg rid = some asset) : (asset, rid) ∈ cfg.resourcePairs := by
  obtain ⟨pair, hfind, rfl⟩ := Option.map_eq_some_iff.mp h
  have hrid : pair.2 = rid := by simpa using List.find?_some hfind
  rw [← hrid]
  exact List.mem_of_find?_eq_some hfind

/-- With unique resource ids, the two directions of the table agree. -/
theorem rid_to_assetid_extract_asset {cfg : Config L} {asset : MultiAsset} {rid : ResourceId}
    {amount : U128} {transferType : TransferType} {found : AssetId}
    (hunique : (cfg.resourcePairs.map Prod.snd).Nodup)
    (hextract : extractAsset cfg asset = some (rid, amount, transferType))
    (hfound : ridToAssetid cfg rid = some found) : found = asset.id := by
  have hsame := List.inj_on_of_nodup_map hunique (rid_to_assetid_mem hfound)
    (extract_asset_some hextract).2.2 rfl
  exact congrArg Prod.fst hsame

end Sygma.Bridge
