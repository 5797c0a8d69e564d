import Sygma.Runtime.Routing
import Sygma.Runtime.Conversion

/-!
# Destinations that crash a deposit

The length byte of a key is any byte, whatever its 32 bytes of data, and both destination parsers
slice keys by it. `dest_in_range_iff` says for which destinations a parser slices out of range, and
that a deposit panics exactly when it is given such a destination by a signed caller on a chain
whose key is set, or when it comes to the decimal conversion, in a build with overflow checks, with
an amount that does not fit; where a parser answers, the recipient is a part of its key.
-/

namespace Sygma

open Bridge
open Exec (Panic Fault)

variable {L : Type}

/-! ## The standalone parser -/

namespace Standalone

/-- Two keys, the first with a length beyond its data and the second with a domain. -/
def Oversized (dest : MultiLocation) : Prop :=
  dest.parents = 0 ∧ ∃ length recipient domainLength domain, dest.interior.items =
      [.generalKey length recipient, .generalKey domainLength domain] ∧
    domain.toList.head?.getD 0 ≠ 0 ∧ 32 < length.toNat

theorem extract_dest_error {dest : MultiLocation} {reason : Panic} :
    extractDest dest = .error reason ↔ reason = .index ∧ Oversized dest := by
  constructor
  · intro h
    unfold extractDest at h
    split at h
    · rename_i length recipient domainLength domain hparents hitems
      dsimp only at h
      split_ifs at h with hdomain hlength
      cases h
      exact ⟨rfl, hparents, length, recipient, domainLength, domain, hitems, hdomain, by omega⟩
    · cases h
  · rintro ⟨rfl, hparents, length, recipient, domainLength, domain, hitems, hdomain, hlength⟩
    have hnot : ¬ length.toNat ≤ 32 := by omega
    unfold extractDest
    rw [hparents, hitems]
    show (if domain.toList.head?.getD 0 = 0 then _ else if length.toNat ≤ 32 then _ else _) = _
    rw [if_neg hdomain, if_neg hnot]

/-- The recipient of a destination is the front of its first key. -/
theorem extract_dest_recipient {dest : MultiLocation} {bytes : Bytes} {domainId : DomainID}
    (h : extractDest dest = .ok (some (bytes, domainId))) :
    ∃ length recipient domainLength domain, dest.interior.items =
        [.generalKey length recipient, .generalKey domainLength domain] ∧
      length.toNat ≤ 32 ∧ bytes = recipient.toList.take length.toNat := by
  unfold extractDest at h
  split at h
  · rename_i length recipient domainLength domain hparents hitems
    dsimp only at h
    split_ifs at h with hdomain hlength
    · cases h
    · obtain ⟨rfl, -⟩ := Prod.mk.inj (Option.some.inj (Except.ok.inj h))
      exact ⟨length, recipient, domainLength, domain, hitems, hlength, rfl⟩
  · cases h

end Standalone

/-! ## The parachain parser -/

namespace Parachain

/-- A key, a domain and a key, where the first key has a length beyond its data, or is the name of
the bridge and the domain fits a byte and the last key has a length beyond its data. -/
def Oversized (dest : MultiLocation) : Prop :=
  dest.parents = 0 ∧ ∃ pathLength path domain length recipient, dest.interior.items =
      [.generalKey pathLength path, .generalIndex domain, .generalKey length recipient] ∧
    (32 < pathLength.toNat ∨ pathLength = 5 ∧ path.toList.take 5 = Bytes.ofString "sygma" ∧
      domain.toNat < 256 ∧ 32 < length.toNat)

theorem slice_key_error {key : Bytes32} {length : U8} {reason : Panic} :
    sliceKey key length = .error reason ↔ 32 < length.toNat ∧ reason = .index := by
  unfold sliceKey
  split
  · rename_i hle
    refine iff_of_false nofun ?_
    rintro ⟨hlt, -⟩
    omega
  · rename_i hnot
    constructor
    · intro h
      cases h
      exact ⟨by omega, rfl⟩
    · rintro ⟨-, rfl⟩
      rfl

theorem extract_dest_error {dest : MultiLocation} {reason : Panic} :
    extractDest dest = .error reason ↔ reason = .index ∧ Oversized dest := by
  constructor
  · intro h
    unfold extractDest at h
    split at h
    · rename_i pathLength path domain length recipient hparents hitems
      rcases Exec.except_bind_error.mp h with hslice | ⟨name, hname, hrest⟩
      · obtain ⟨hlong, rfl⟩ := slice_key_error.mp hslice
        exact ⟨rfl, hparents, pathLength, path, domain, length, recipient, hitems, .inl hlong⟩
      · obtain ⟨hpathLength, rfl⟩ := slice_key_ok.mp hname
        split_ifs at hrest with hpath hdomain
        obtain rfl : pathLength = 5 := path_length hpathLength hpath
        rcases Exec.except_bind_error.mp hrest with hslice | ⟨bytes, -, hnone⟩
        · obtain ⟨hlong, rfl⟩ := slice_key_error.mp hslice
          exact ⟨rfl, hparents, 5, path, domain, length, recipient, hitems,
            .inr ⟨rfl, hpath, hdomain, hlong⟩⟩
        · cases hnone
    · cases h
  · rintro ⟨rfl, hparents, pathLength, path, domain, length, recipient, hitems, hcase⟩
    unfold extractDest
    rw [hparents, hitems]
    refine Exec.except_bind_error.mpr ?_
    rcases hcase with hlong | ⟨rfl, hpath, hdomain, hlong⟩
    · exact .inl (slice_key_error.mpr ⟨hlong, rfl⟩)
    · refine .inr ⟨path.toList.take 5, rfl, ?_⟩
      rw [if_pos hpath, if_pos hdomain]
      exact Exec.except_bind_error.mpr (.inl (slice_key_error.mpr ⟨hlong, rfl⟩))

/-- The recipient of a destination is the front of its last key. -/
theorem extract_dest_recipient {dest : MultiLocation} {bytes : Bytes} {domainId : DomainID}
    (h : extractDest dest = .ok (some (bytes, domainId))) :
    ∃ pathLength path domain length recipient, dest.interior.items =
        [.generalKey pathLength path, .generalIndex domain, .generalKey length recipient] ∧
      length.toNat ≤ 32 ∧ bytes = recipient.toList.take length.toNat := by
  obtain ⟨-, path, domain, length, recipient, hitems, -, -, hlength, rfl, -⟩ :=
    extract_dest_ok.mp h
  exact ⟨5, path, domain, length, recipient, hitems, hlength, rfl⟩

end Parachain

/-! ## Deposits -/

/-- The transactor returns from every call, with or without an error. -/
structure TransactAsset.NeverPanics (transactor : TransactAsset L) : Prop where
  withdraw : ∀ asset who, Exec.FaultsIn (fun fault => ∀ reason, fault ≠ .panic reason)
    (transactor.withdrawAsset asset who)
  deposit : ∀ asset who, Exec.FaultsIn (fun fault => ∀ reason, fault ≠ .panic reason)
    (transactor.depositAsset asset who)

/-- A signed deposit on a chain whose key is set comes to the parser. -/
def ReachesParser (origin : Origin) (state : State L) : Prop :=
  (∃ sender, origin = .signed sender) ∧ state.storage.mpcClear = false

/-- A deposit passes its checks, and its calls to the transactor and its nonce succeed, so that it
comes to convert the given amount. -/
def ReachesConversion (cfg : Config L) (origin : Origin) (asset : MultiAsset)
    (dest : MultiLocation) (state : State L) (bridged : U128) : Prop :=
  ∃ quote nonce reached, Bridge.quote cfg state.storage origin asset dest = .ok quote ∧
    quote.amount > quote.fee ∧
    untilConversion cfg asset quote state = (.ok nonce, reached) ∧
    bridged = quote.amount - quote.fee

/-- A deposit returns, with or without an error. -/
def DepositsReturn (cfg : Config L) (origin : Origin) (asset : MultiAsset) (dest : MultiLocation)
    (state : State L) : Prop :=
  ∀ reason, (deposit cfg origin asset dest state).1 ≠ .error (.panic reason)

section Panics

variable {cfg : Config L} {asset : MultiAsset} {quote : Quote} {state : State L} {reason : Panic}

/-- What comes after the nonce panics where its decimal conversion does. -/
theorem publish_panic {nonce : DepositNonce} :
    (publish cfg asset quote nonce state).1 = .error (.panic reason) ↔
      cfg.decimalConverter.convertTo ⟨asset.id, .fungible (quote.amount - quote.fee)⟩ =
        .error reason := by
  constructor
  · intro hpanic
    have hpublish : Exec.FaultsIn (fun fault => ∀ reason, fault = .panic reason →
        cfg.decimalConverter.convertTo ⟨asset.id, .fungible (quote.amount - quote.fee)⟩ =
          .error reason) (publish cfg asset quote nonce) := by
      refine publish_faultsIn nofun ?_ nonce
      intro other hconvert reason hsame
      cases hsame
      exact hconvert
    exact hpublish state _ _ (Prod.ext hpanic rfl) reason rfl
  · intro hconvert
    unfold publish
    rw [hconvert, Exec.orPanic_bind_apply]

-- a deposit calls the transactor at local accounts only
variable
  (hwithdraw : ∀ asset who, Exec.FaultsIn (fun fault => ∀ reason, fault ≠ .panic reason)
    (cfg.assetTransactor.withdrawAsset asset who))
  (hdeposit : ∀ asset account, Exec.FaultsIn (fun fault => ∀ reason, fault ≠ .panic reason)
    (cfg.assetTransactor.depositAsset asset (.ofAccount account)))

include hwithdraw hdeposit

/-- Between the fee check and the conversion nothing panics. -/
theorem until_conversion_never_panics :
    Exec.FaultsIn (fun fault => ∀ reason, fault ≠ .panic reason)
      (untilConversion cfg asset quote) := by
  refine until_conversion_faultsIn nofun ?_ ?_
  · intro what who
    refine (hwithdraw what who).mono ?_
    intro fault hnever other hpanic
    exact absurd hpanic (hnever other)
  · intro what account
    refine (hdeposit what account).mono ?_
    intro fault hnever other hpanic
    exact absurd hpanic (hnever other)

/-- After the fee check a deposit panics only in its decimal conversion, if it comes to it. -/
theorem carry_out_panic :
    (carryOut cfg asset quote state).1 = .error (.panic reason) ↔
      (∃ nonce reached, untilConversion cfg asset quote state = (.ok nonce, reached)) ∧
        cfg.decimalConverter.convertTo ⟨asset.id, .fungible (quote.amount - quote.fee)⟩ =
          .error reason := by
  rw [carry_out_eq, Exec.bind_apply]
  rcases hrun : untilConversion cfg asset quote state with ⟨outcome, reached⟩
  cases outcome with
  | error fault =>
      have hnever := until_conversion_never_panics hwithdraw hdeposit state fault reached hrun
      refine iff_of_false ?_ ?_
      · intro hpanic
        exact hnever reason (Except.error.inj hpanic)
      · rintro ⟨⟨nonce, reached', hok⟩, -⟩
        cases hok
  | ok nonce =>
      refine publish_panic.trans ?_
      exact (and_iff_right ⟨nonce, reached, rfl⟩).symm

/-- A deposit panics in the parser, if it comes to it, or in the decimal conversion. -/
theorem deposit_panic {origin : Origin} {dest : MultiLocation} :
    (deposit cfg origin asset dest state).1 = .error (.panic reason) ↔
      ReachesParser origin state ∧ cfg.extractDestData dest = .error reason ∨
        ∃ bridged, ReachesConversion cfg origin asset dest state bridged ∧
          cfg.decimalConverter.convertTo ⟨asset.id, .fungible bridged⟩ = .error reason := by
  have hparser : ReachesParser origin state ∧ cfg.extractDestData dest = .error reason ↔
      quote cfg state.storage origin asset dest = .error (.panic reason) := by
    rw [quote_panic, ReachesParser, and_assoc]
  rw [deposit_eq, hparser]
  cases hquote : quote cfg state.storage origin asset dest with
  | error fault =>
      constructor
      · intro hpanic
        exact .inl (congrArg Except.error (Except.error.inj hpanic))
      · rintro (hpanic | ⟨bridged, ⟨quote, nonce, reached, hother, -⟩, -⟩)
        · exact congrArg Except.error (Except.error.inj hpanic)
        · rw [hquote] at hother
          cases hother
  | ok quote =>
      dsimp only
      split
      · rename_i hfee
        rw [Exec.transactional_fst, carry_out_panic hwithdraw hdeposit]
        constructor
        · rintro ⟨⟨nonce, reached, hrun⟩, hconvert⟩
          exact .inr ⟨_, ⟨quote, nonce, reached, hquote, hfee, hrun, rfl⟩, hconvert⟩
        · rintro (hpanic | ⟨bridged, ⟨quote', nonce, reached, hother, -, hrun, rfl⟩, hconvert⟩)
          · cases hpanic
          · rw [hquote] at hother
            cases hother
            exact ⟨⟨nonce, reached, hrun⟩, hconvert⟩
      · rename_i hfee
        refine iff_of_false nofun ?_
        rintro (hpanic | ⟨bridged, ⟨quote', nonce, reached, hother, hcovers, -⟩, -⟩)
        · cases hpanic
        · rw [hquote] at hother
          cases hother
          exact hfee hcovers

/-- For a parser that only slices out of range, on the given destinations, deposits panic exactly
where they come to it with one of them, or to the conversion with an amount that overflows. -/
theorem deposits_return_iff {debugAssertions : Bool} {decimalPairs : List (AssetId × U8)}
    {oversized : MultiLocation → Prop} (hsmall : SmallDecimals decimalPairs)
    (hconverter : cfg.decimalConverter = sygmaDecimalConverter debugAssertions decimalPairs)
    (hparser : ∀ dest reason,
      cfg.extractDestData dest = .error reason ↔ reason = .index ∧ oversized dest)
    (origin : Origin) (asset : MultiAsset) (dest : MultiLocation) (state : State L) :
    DepositsReturn cfg origin asset dest state ↔
      ¬ (ReachesParser origin state ∧ oversized dest) ∧
        ∀ bridged, ReachesConversion cfg origin asset dest state bridged →
          ¬ Overflows debugAssertions decimalPairs asset.id bridged := by
  unfold DepositsReturn
  simp only [ne_eq, deposit_panic hwithdraw hdeposit, hparser, hconverter]
  constructor
  · intro hreturns
    refine ⟨?_, ?_⟩
    · rintro ⟨hreach, hoversized⟩
      exact hreturns .index (.inl ⟨hreach, rfl, hoversized⟩)
    · intro bridged hreach hoverflows
      obtain ⟨reason, hconvert⟩ := (convert_to_panics_iff hsmall).mpr hoverflows
      exact hreturns reason (.inr ⟨bridged, hreach, hconvert⟩)
  · rintro ⟨hinRange, hfits⟩ reason (⟨hreach, -, hoversized⟩ | ⟨bridged, hreach, hconvert⟩)
    · exact hinRange ⟨hreach, hoversized⟩
    · exact hfits bridged hreach ((convert_to_panics_iff hsmall).mp ⟨reason, hconvert⟩)

end Panics

/-- A parser that only slices out of range answers everywhere else. -/
theorem answers_iff {α : Type} {result : Except Panic α} {oversized : Prop}
    (h : ∀ reason, result = .error reason ↔ reason = .index ∧ oversized) :
    (∃ answer, result = .ok answer) ↔ ¬ oversized := by
  cases result with
  | error reason =>
      have hoversized := ((h reason).mp rfl).2
      refine iff_of_false nofun ?_
      exact fun hnot => hnot hoversized
  | ok answer =>
      refine iff_of_true ⟨answer, rfl⟩ ?_
      intro hoversized
      cases (h .index).mpr ⟨rfl, hoversized⟩

/-- The transactor that deposits on the parachain come to panics only where those of its host
do. -/
theorem Parachain.local_never_panics {host : Parachain.Host L}
    (hcurrency : host.currencyTransactor.NeverPanics)
    (hfungibles : host.fungiblesTransactor.NeverPanics) :
    (Parachain.localTransactor host).NeverPanics := by
  constructor
  · intro asset who
    unfold Parachain.localTransactor
    dsimp only
    split
    · exact hcurrency.withdraw asset who
    · exact hfungibles.withdraw asset who
  · intro asset who
    unfold Parachain.localTransactor
    dsimp only
    split
    · exact hcurrency.deposit asset who
    · exact hfungibles.deposit asset who

/-- The parsers answer exactly on the destinations that are not oversized, and a recipient they
answer with is the front of its key. Deposits on the two runtimes return, unless they come to the
parser with an oversized destination, or with overflow checks to the decimal conversion with an
amount that does not fit. -/
theorem dest_in_range_iff (standalone : Standalone.Host) {transactor : TransactAsset L}
    (htransactor : transactor.NeverPanics) (parachain : Parachain.Host L)
    (hcurrency : parachain.currencyTransactor.NeverPanics)
    (hfungibles : parachain.fungiblesTransactor.NeverPanics) (dest : MultiLocation) :
    ((∃ answer, Standalone.extractDest dest = .ok answer) ↔ ¬ Standalone.Oversized dest) ∧
    ((∃ answer, Parachain.extractDest dest = .ok answer) ↔ ¬ Parachain.Oversized dest) ∧
    (∀ origin asset (state : State L),
      DepositsReturn (Standalone.config standalone transactor) origin asset dest state ↔
        ¬ (ReachesParser origin state ∧ Standalone.Oversized dest) ∧
          ∀ bridged, ReachesConversion (Standalone.config standalone transactor) origin asset dest
              state bridged →
            ¬ Overflows standalone.debugAssertions Standalone.assetDecimalPairs asset.id bridged) ∧
    (∀ origin asset state,
      DepositsReturn (Parachain.config parachain) origin asset dest state ↔
        ¬ (ReachesParser origin state ∧ Parachain.Oversized dest) ∧
          ∀ bridged, ReachesConversion (Parachain.config parachain) origin asset dest state
              bridged →
            ¬ Overflows parachain.debugAssertions Parachain.assetDecimalPairs asset.id bridged) ∧
    (∀ bytes domainId, Standalone.extractDest dest = .ok (some (bytes, domainId)) →
      ∃ length recipient domainLength domain, dest.interior.items =
          [.generalKey length recipient, .generalKey domainLength domain] ∧
        length.toNat ≤ 32 ∧ bytes = recipient.toList.take length.toNat) ∧
    ∀ bytes domainId, Parachain.extractDest dest = .ok (some (bytes, domainId)) →
      ∃ pathLength path domain length recipient, dest.interior.items =
          [.generalKey pathLength path, .generalIndex domain, .generalKey length recipient] ∧
        length.toNat ≤ 32 ∧ bytes = recipient.toList.take length.toNat := by
  have hstandalone : SmallDecimals Standalone.assetDecimalPairs := by decide
  have hparachain : SmallDecimals Parachain.assetDecimalPairs := by decide
  refine ⟨answers_iff fun _ => Standalone.extract_dest_error,
    answers_iff fun _ => Parachain.extract_dest_error, ?_, ?_,
    fun _ _ => Standalone.extract_dest_recipient, fun _ _ => Parachain.extract_dest_recipient⟩
  · intro origin asset state
    exact deposits_return_iff htransactor.withdraw
      (fun asset account => htransactor.deposit asset (.ofAccount account)) hstandalone rfl
      (fun _ _ => Standalone.extract_dest_error) origin asset dest state
  · intro origin asset state
    -- at local accounts the forwarding transactor is the local one
    have hlocal := Parachain.local_never_panics hcurrency hfungibles
    exact deposits_return_iff hlocal.withdraw
      (fun asset account => hlocal.deposit asset (.ofAccount account)) hparachain rfl
      (fun _ _ => Parachain.extract_dest_error) origin asset dest state

/-- A transactor that acts on the ledger alone returns from every call. -/
theorem LedgerTransactor.lift_never_panics (transactor : LedgerTransactor L) :
    transactor.lift.NeverPanics := by
  have hreturns : ∀ operation : L → Except XcmError Unit × L,
      Exec.FaultsIn (fun fault => ∀ reason, fault ≠ .panic reason) (onLedger operation) := by
    intro operation store fault final h reason
    unfold onLedger at h
    split at h
    · cases h
    · cases h
      nofun
  exact ⟨fun _ _ => hreturns _, fun _ _ => hreturns _⟩

/-- The parachain on the constant host and a plain ledger, without an XCM executor. -/
def Parachain.plainHost : Parachain.Host PlainLedger where
  toHost := Standalone.constantHost
  parachainId := 2004
  blake2256 _ := Vector.replicate 32 2
  encodeMultiLocation _ := []
  currencyTransactor := (PlainLedger.transactor Standalone.locationToAccountId).lift
  fungiblesTransactor := (PlainLedger.transactor Standalone.locationToAccountId).lift
  weigher _ := none
  executeXcmInCredit _ _ _ _ _ := pure ()
  hashOf _ := Vector.replicate 32 3
  reanchored _ _ _ := none

namespace Standalone

/-- A chain whose key is set. -/
def signableState : State PlainLedger :=
  (setMpcAddress plainConfig .root constantSigner (.genesis 1 .empty)).2

/-- Domain 1 and a recipient whose length is given by its key. -/
def destWithLength (length : U8) : MultiLocation :=
  ⟨0, [.generalKey length (Vector.replicate 32 7), domainKey], by simp⟩

/-- The same on the parachain, where the name of the bridge comes first. -/
def parachainDestWithLength (length : U8) : MultiLocation :=
  ⟨0, [sliceToGeneralkey (Bytes.ofString "sygma") sygma_length, .generalIndex 1,
    .generalKey length (Vector.replicate 32 7)], by simp⟩

/-- A recipient of 20 bytes is parsed, and a deposit to it returns. -/
theorem dest_in_range_iff_short :
    (∃ answer, extractDest (destWithLength 20) = .ok answer) ∧
      DepositsReturn plainConfig (.signed treasuryAccount)
        ⟨.concrete nativeLocation, .fungible 5⟩ (destWithLength 20) signableState := by
  have hnever := LedgerTransactor.lift_never_panics (PlainLedger.transactor locationToAccountId)
  have hfits : ¬ Oversized (destWithLength 20) := by
    rintro ⟨-, length, recipient, domainLength, domain, hitems, -, hlength⟩
    cases hitems
    exact absurd hlength (by decide)
  obtain ⟨hparsed, -, hdeposits, -⟩ := dest_in_range_iff constantHost hnever
    Parachain.plainHost hnever hnever (destWithLength 20)
  refine ⟨hparsed.mpr hfits, (hdeposits _ _ signableState).mpr ⟨fun h => hfits h.2, ?_⟩⟩
  -- the constant host is built without overflow checks
  rintro bridged - ⟨hchecks, -⟩
  cases hchecks

/-- A length byte of 33 makes both parsers slice out of range, and a deposit panics. -/
theorem oversized_dest_panics :
    extractDest (destWithLength 33) = .error .index ∧
      Parachain.extractDest (parachainDestWithLength 33) = .error .index ∧
      deposit plainConfig (.signed treasuryAccount) ⟨.concrete nativeLocation, .fungible 5⟩
        (destWithLength 33) signableState = (.error (.panic .index), signableState) ∧
      deposit (Parachain.config Parachain.plainHost) (.signed treasuryAccount)
        ⟨.concrete nativeLocation, .fungible 5⟩ (parachainDestWithLength 33) signableState =
          (.error (.panic .index), signableState) := by
  have hstandalone : extractDest (destWithLength 33) = .error .index := by decide
  have hparachain : Parachain.extractDest (parachainDestWithLength 33) = .error .index := by decide
  have hkey : signableState.storage.mpcClear = false := by decide +kernel
  refine ⟨hstandalone, hparachain, ?_, ?_⟩
  · rw [deposit_eq, quote_panic.mpr ⟨⟨_, rfl⟩, hkey, hstandalone⟩]
  · rw [deposit_eq, quote_panic.mpr ⟨⟨_, rfl⟩, hkey, hparachain⟩]

end Standalone

end Sygma
