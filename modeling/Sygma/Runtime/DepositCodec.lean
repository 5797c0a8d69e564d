import Sygma.Bridge.DepositData
import Sygma.Runtime.Standalone

/-!
# The format of deposit data

Deposit data is a word with the amount, a word with the length of the rest, and the encoded
recipient. `deposit_data_codec` says which byte strings are accepted and with which answer, that
all others are refused with one error, and that the width of `usize` makes no difference. A byte
string that exists on a platform has a length that fits `usize`, and this is all that is assumed of
the width.
-/

namespace Sygma

open Bridge

variable {L M : Type}

/-! ## Accepted or refused -/

/-- A range inside the byte string is read. -/
theorem slice_of_le {ε : Type} {bytes : Bytes} {start stop : Nat} (hstart : start ≤ stop)
    (hstop : stop ≤ bytes.length) :
    slice (ε := ε) bytes start stop = .ok ((bytes.take stop).drop start) :=
  slice_ok.mpr ⟨hstart, hstop, rfl⟩

/-- Data is accepted, or refused as invalid; no range is ever outside the byte string. -/
theorem extract_deposit_data_cases (cfg : Config L) (data : Bytes) :
    (∃ amount location, extractDepositData cfg data = .ok (amount, location)) ∨
      extractDepositData cfg data = .error (.error (.bridge .invalidDepositData)) := by
  unfold extractDepositData
  by_cases hshort : data.length < 64
  · rw [if_pos hshort]
    exact .inr rfl
  · rw [if_neg hshort, slice_of_le (by omega) (by omega), slice_of_le (by omega) (by omega),
      slice_of_le (by omega) (by omega)]
    -- one case per conversion, in their order; each one that fails gives the error
    simp only [orInvalid, Exec.except_ok_bind]
    cases tryInto 128 _ with
    | none => exact .inr rfl
    | some amount =>
    simp only [Exec.except_ok_bind]
    cases tryInto cfg.usizeBits _ with
    | none => exact .inr rfl
    | some recipientLen =>
    simp only [Exec.except_ok_bind]
    by_cases hlen : data.length - 64 ≠ recipientLen.toNat
    · rw [if_pos hlen]
      exact .inr rfl
    · rw [if_neg hlen]
      cases cfg.decodeMultiLocation _ with
      | none => exact .inr rfl
      | some location => exact .inl ⟨amount, location, rfl⟩

/-- The accepted byte strings of a platform that they fit. -/
theorem extract_deposit_data_iff {cfg : Config L} {data : Bytes}
    (hdata : data.length < 2 ^ cfg.usizeBits) {amount : U128} {location : MultiLocation} :
    extractDepositData cfg data = .ok (amount, location) ↔
      64 ≤ data.length ∧ Bytes.ofBigEndian (data.take 32) = amount.toNat ∧
        Bytes.ofBigEndian ((data.take 64).drop 32) = data.length - 64 ∧
        cfg.decodeMultiLocation (data.drop 64) = some location := by
  have hfits : data.length - 64 < 2 ^ cfg.usizeBits := by omega
  rw [extract_deposit_data_ok]
  simp only [hfits, true_and]

/-- Platforms with the same codec give the same answer. -/
theorem extract_deposit_data_congr {cfg : Config L} {other : Config M} {data : Bytes}
    (hcodec : other.decodeMultiLocation = cfg.decodeMultiLocation)
    (hdata : data.length < 2 ^ cfg.usizeBits) (hdata' : data.length < 2 ^ other.usizeBits) :
    extractDepositData other data = extractDepositData cfg data := by
  have hsame : ∀ amount location, extractDepositData other data = .ok (amount, location) ↔
      extractDepositData cfg data = .ok (amount, location) := by
    intro amount location
    rw [extract_deposit_data_iff hdata, extract_deposit_data_iff hdata', hcodec]
  rcases extract_deposit_data_cases cfg data with ⟨amount, location, hok⟩ | hinvalid
  · rw [hok]
    exact (hsame amount location).mpr hok
  · rcases extract_deposit_data_cases other data with ⟨amount, location, hok⟩ | hinvalid'
    · rw [(hsame amount location).mp hok] at hinvalid
      cases hinvalid
    · rw [hinvalid, hinvalid']

/-! ## Round trip -/

/-- The length word of created data is the number of bytes that follow. -/
theorem of_big_endian_length_create (amount : U128) {recipient : Bytes}
    (hlength : recipient.length < 2 ^ 128) :
    Bytes.ofBigEndian (((createDepositData amount recipient).take 64).drop 32) =
      recipient.length := by
  have hword : ((createDepositData amount recipient).take 64).drop 32 =
      hexZeroPadding32 (BitVec.ofNat 128 recipient.length) := by
    simp [createDepositData, hexZeroPadding32, List.take_append]
  have hfits : recipient.length < 256 ^ 32 := Nat.lt_of_lt_of_le hlength (by decide)
  rw [hword, hexZeroPadding32, BitVec.toNat_ofNat, Nat.mod_eq_of_lt hlength,
    Bytes.of_to_big_endian_of_lt hfits]

theorem length_create_deposit_data (amount : U128) (recipient : Bytes) :
    (createDepositData amount recipient).length = 64 + recipient.length := by
  simp only [createDepositData, hexZeroPadding32, List.length_append, Bytes.length_to_big_endian]

/-- Created data is extracted to what it was created from. -/
theorem extract_created {cfg : Config L} (husize : cfg.usizeBits ≤ 128) {amount : U128}
    {recipient : Bytes} {location : MultiLocation}
    (hdata : (createDepositData amount recipient).length < 2 ^ cfg.usizeBits)
    (hlocation : cfg.decodeMultiLocation recipient = some location) :
    extractDepositData cfg (createDepositData amount recipient) = .ok (amount, location) := by
  have hpow : 2 ^ cfg.usizeBits ≤ 2 ^ 128 := Nat.pow_le_pow_right (by omega) husize
  have htotal := length_create_deposit_data amount recipient
  refine (extract_deposit_data_iff hdata).mpr ⟨by omega, of_big_endian_take_create amount recipient,
    ?_, ?_⟩
  · rw [of_big_endian_length_create amount (by omega)]
    omega
  · rw [drop_create_deposit_data, hlocation]

/-- The format of deposit data, for a codec of locations that ignores what follows an encoding. -/
theorem deposit_data_codec {cfg : Config L} (husize : cfg.usizeBits ≤ 128)
    {encode : MultiLocation → Bytes}
    (hcodec : ∀ location rest,
      cfg.decodeMultiLocation (encode location ++ rest) = some location) :
    (∀ amount location,
      (createDepositData amount (encode location)).length < 2 ^ cfg.usizeBits →
      extractDepositData cfg (createDepositData amount (encode location)) =
        .ok (amount, location)) ∧
    ∀ data : Bytes, data.length < 2 ^ cfg.usizeBits →
      (∀ amount location, extractDepositData cfg data = .ok (amount, location) ↔
        64 ≤ data.length ∧ Bytes.ofBigEndian (data.take 32) = amount.toNat ∧
          Bytes.ofBigEndian ((data.take 64).drop 32) = data.length - 64 ∧
          cfg.decodeMultiLocation (data.drop 64) = some location) ∧
      ((∃ amount location, extractDepositData cfg data = .ok (amount, location)) ∨
        extractDepositData cfg data = .error (.error (.bridge .invalidDepositData))) ∧
      ∀ other : Config M, other.decodeMultiLocation = cfg.decodeMultiLocation →
        data.length < 2 ^ other.usizeBits →
        extractDepositData other data = extractDepositData cfg data := by
  constructor
  · intro amount location hdata
    have hlocation := hcodec location []
    rw [List.append_nil] at hlocation
    exact extract_created husize hdata hlocation
  · intro data hdata
    exact ⟨fun _ _ => extract_deposit_data_iff hdata, extract_deposit_data_cases cfg data,
      fun _ hother hdata' => extract_deposit_data_congr hother hdata hdata'⟩

/-- The codec of the runtimes ignores what follows an encoding, and an amount of 5 to the chain
itself is extracted as it was created. -/
theorem deposit_data_codec_here :
    (∀ location rest, Standalone.plainConfig.decodeMultiLocation
        (MultiLocation.codec.encode location ++ rest) = some location) ∧
      extractDepositData Standalone.plainConfig
        (createDepositData 5 (MultiLocation.codec.encode .here)) = .ok (5, .here) := by
  have husize : 32 ≤ 128 := by omega
  have hcodec : ∀ location rest, Standalone.plainConfig.decodeMultiLocation
      (MultiLocation.codec.encode location ++ rest) = some location := decode_encode
  refine ⟨hcodec, (deposit_data_codec (M := PlainLedger) husize hcodec).1 5 .here ?_⟩
  rw [length_create_deposit_data]
  show 64 + 2 < 2 ^ 32
  omega

end Sygma
