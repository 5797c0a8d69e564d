import Sygma.Runtime.Parachain

/-!
# The router and the destination parser of the parachain

The forwarding transactor decides by a pattern which locations go to the Sygma bridge, and the
bridge parses the location it is given with the parser of the runtime. The two were written apart:
the pattern of the router has four junctions, that of the parser three. `routes_agree_iff` says for
which locations they agree, which is only where neither of them applies, and
`other_world_deposit_fails` what follows: no deposit that is routed to the Sygma bridge succeeds.
-/

namespace Sygma.Parachain

open BridgeForwarder (Route routeOf isOtherWorld sygmaKey sygmaBridgeKey XcmAssetTransactor)

variable {L : Type}

/-! ## The two patterns -/

/-- The pattern of the router: the two keys of the bridge, a domain and a recipient, at any
level. -/
def OtherWorldPattern (who : MultiLocation) : Prop :=
  ∃ domain length recipient, who.interior.items =
    [.generalKey 5 sygmaKey, .generalKey 12 sygmaBridgeKey, .generalIndex domain,
      .generalKey length recipient]

/-- The pattern of the parser: a key that starts with the name of the bridge, a domain that fits a
byte, and a recipient whose length fits its key, at the level of the chain. -/
def ParserPattern (who : MultiLocation) : Prop :=
  who.parents = 0 ∧ ∃ path domain length recipient, who.interior.items =
      [.generalKey 5 path, .generalIndex domain, .generalKey length recipient] ∧
    path.toList.take 5 = Bytes.ofString "sygma" ∧ domain.toNat < 256 ∧ length.toNat ≤ 32

/-- The router sends a location to the Sygma bridge exactly when it has the router's pattern. -/
theorem route_of_other_world {who : MultiLocation} :
    routeOf who = .otherWorld ↔ OtherWorldPattern who := by
  constructor
  · intro h
    unfold routeOf at h
    split at h
    · cases h
    · cases h
    · cases h
    · split at h
      · rename_i hpattern
        unfold isOtherWorld at hpattern
        split at hpattern
        · rename_i first second domain length recipient hitems
          rw [Bool.and_eq_true, beq_iff_eq, beq_iff_eq] at hpattern
          obtain ⟨rfl, rfl⟩ := hpattern
          exact ⟨domain, length, recipient, hitems⟩
        · cases hpattern
      · cases h
  · rintro ⟨domain, length, recipient, hitems⟩
    have hpattern : isOtherWorld who.interior = true := by
      unfold isOtherWorld
      rw [hitems]
      simp
    unfold routeOf
    rw [hitems, hpattern]
    split <;> simp_all

theorem slice_key_ok {key : Bytes32} {length : U8} {bytes : Bytes} :
    sliceKey key length = .ok bytes ↔
      length.toNat ≤ 32 ∧ key.toList.take length.toNat = bytes := by
  unfold sliceKey
  split <;> simp_all

/-- A key of the bridge's name has its length. -/
theorem path_length {path : Bytes32} {length : U8} (hlength : length.toNat ≤ 32)
    (h : path.toList.take length.toNat = Bytes.ofString "sygma") : length = 5 := by
  have hlen : (path.toList.take length.toNat).length = 5 := by rw [h]; rfl
  rw [List.length_take, Vector.length_toList, Nat.min_eq_left hlength] at hlen
  exact BitVec.eq_of_toNat_eq hlen

/-- What the parser returns for a location it accepts. -/
theorem extract_dest_ok {who : MultiLocation} {bytes : Bytes} {domainId : DomainID} :
    extractDest who = .ok (some (bytes, domainId)) ↔
      who.parents = 0 ∧ ∃ path domain length recipient, who.interior.items =
          [.generalKey 5 path, .generalIndex domain, .generalKey length recipient] ∧
        path.toList.take 5 = Bytes.ofString "sygma" ∧ domain.toNat < 256 ∧ length.toNat ≤ 32 ∧
        recipient.toList.take length.toNat = bytes ∧ domain.setWidth 8 = domainId := by
  constructor
  · intro h
    unfold extractDest at h
    split at h
    · rename_i pathLen path domain length recipient hparents hitems
      obtain ⟨name, hname, hrest⟩ := Exec.except_bind_ok.mp h
      obtain ⟨hpathLen, rfl⟩ := slice_key_ok.mp hname
      split_ifs at hrest with hpath hdomain
      -- the parser compares the bytes only; the length of the key follows from them
      · obtain rfl : pathLen = 5 := path_length hpathLen hpath
        obtain ⟨key, hkey, hresult⟩ := Exec.except_bind_ok.mp hrest
        obtain ⟨hlength, rfl⟩ := slice_key_ok.mp hkey
        obtain ⟨rfl, rfl⟩ := Prod.mk.inj (Option.some.inj (Except.ok.inj hresult))
        exact ⟨hparents, path, domain, length, recipient, hitems, hpath, hdomain, hlength, rfl, rfl⟩
      · cases hrest
      · cases hrest
    · cases h
  · rintro ⟨hparents, path, domain, length, recipient, hitems, hpath, hdomain, hlength, rfl, rfl⟩
    unfold extractDest
    rw [hparents, hitems]
    have hname : sliceKey path 5 = .ok (path.toList.take 5) := rfl
    show (sliceKey path 5 >>= _) = _
    rw [hname, Exec.except_bind_ok]
    refine ⟨_, rfl, ?_⟩
    rw [if_pos hpath, if_pos hdomain, Exec.except_bind_ok]
    exact ⟨_, slice_key_ok.mpr ⟨hlength, rfl⟩, rfl⟩

/-! ## Agreement -/

/-- Router and parser agree about a location: if it is routed to the Sygma bridge, the parser
returns its domain and its recipient, and if the parser accepts it, it is routed to the Sygma
bridge. -/
structure RoutesAgree (who : MultiLocation) : Prop where
  parsed : routeOf who = .otherWorld → ∃ bytes domainId,
    extractDest who = .ok (some (bytes, domainId)) ∧
    (∀ domain, .generalIndex domain ∈ who.interior.items → domain.toNat ≤ 255 →
      domainId.toNat = domain.toNat) ∧
    ∀ length recipient, who.interior.items.getLast? = some (.generalKey length recipient) →
      length.toNat ≤ 32 → bytes = recipient.toList.take length.toNat
  routed : ∀ bytes domainId, extractDest who = .ok (some (bytes, domainId)) →
    routeOf who = .otherWorld

/-- The parser finds nothing in a location that is routed to the Sygma bridge. -/
theorem other_world_not_parsed {who : MultiLocation} (h : OtherWorldPattern who) :
    extractDest who = .ok none := by
  obtain ⟨domain, length, recipient, hitems⟩ := h
  unfold extractDest
  rw [hitems]
  split
  · rename_i heq
    cases heq
  · rfl

/-- A location the parser accepts is routed to the XCM bridge. -/
theorem parsed_to_remote_chain {who : MultiLocation} (h : ParserPattern who) :
    routeOf who = .remoteChain := by
  obtain ⟨hparents, path, domain, length, recipient, hitems, -⟩ := h
  have hpattern : isOtherWorld who.interior = false := by
    unfold isOtherWorld
    rw [hitems]
  unfold routeOf
  rw [hitems, hpattern]
  split <;> simp_all

/-- A location has at most one of the two patterns, so the router and the parser agree only where
neither of them applies. -/
theorem routes_agree_iff (who : MultiLocation) :
    RoutesAgree who ↔ ¬ OtherWorldPattern who ∧ ¬ ParserPattern who := by
  constructor
  · intro h
    refine ⟨?_, ?_⟩
    · intro hpattern
      obtain ⟨bytes, domainId, hparsed, -⟩ := h.parsed (route_of_other_world.mpr hpattern)
      rw [other_world_not_parsed hpattern] at hparsed
      cases hparsed
    · intro hpattern
      have hremote := parsed_to_remote_chain hpattern
      obtain ⟨hparents, path, domain, length, recipient, hitems, hpath, hdomain, hlength⟩ :=
        hpattern
      have hrouted := h.routed (recipient.toList.take length.toNat) (domain.setWidth 8)
        (extract_dest_ok.mpr ⟨hparents, path, domain, length, recipient, hitems, hpath, hdomain,
          hlength, rfl, rfl⟩)
      rw [hremote] at hrouted
      cases hrouted
  · rintro ⟨hrouter, hparser⟩
    constructor
    · intro hroute
      exact absurd (route_of_other_world.mp hroute) hrouter
    · intro bytes domainId hparsed
      obtain ⟨hparents, path, domain, length, recipient, hitems, hpath, hdomain, hlength, -⟩ :=
        extract_dest_ok.mp hparsed
      exact absurd ⟨hparents, path, domain, length, recipient, hitems, hpath, hdomain, hlength⟩
        hparser

/-- The destination that the scripts build for a deposit: domain 1 and a recipient of 20 bytes. -/
def assetDepositDest : MultiLocation where
  parents := 0
  interior :=
    ⟨[.generalKey 5 sygmaKey, .generalKey 12 sygmaBridgeKey, .generalIndex 1,
      .generalKey 20 #v[0x1a, 0xbd, 0x69, 0x48, 0xe4, 0x22, 0xa1, 0xb6, 0xce, 0xd1, 0xba, 0x28,
        0xba, 0x72, 0xca, 0x56, 0x23, 0x33, 0xdf, 0x01, 0, 0, 0, 0, 0, 0, 0, 0, 0, 0, 0, 0]],
      by simp⟩

/-- The destination of the scripts goes to the Sygma bridge, whose parser finds nothing in it. -/
theorem asset_deposit_dest_not_parsed :
    routeOf assetDepositDest = .otherWorld ∧ extractDest assetDepositDest = .ok none ∧
      ¬ RoutesAgree assetDepositDest := by
  have hpattern : OtherWorldPattern assetDepositDest := ⟨_, _, _, rfl⟩
  refine ⟨route_of_other_world.mpr hpattern, other_world_not_parsed hpattern, ?_⟩
  intro h
  obtain ⟨bytes, domainId, hparsed, -⟩ := h.parsed (route_of_other_world.mpr hpattern)
  rw [other_world_not_parsed hpattern] at hparsed
  cases hparsed

/-! ## What follows -/

/-- A transfer to a location the parser finds nothing in does not succeed. -/
theorem transfer_not_parsed {cfg : Config L} {sender : Bytes32} {asset : MultiAsset}
    {dest : MultiLocation} {state final : State L} (hdest : cfg.extractDestData dest = .ok none) :
    Bridge.transfer cfg sender asset dest state ≠ (.ok (), final) := by
  intro h
  obtain ⟨receipt, moved, hdeposits, -⟩ := Bridge.deposit_ok.mp h
  have hdestination := hdeposits.destination
  rw [hdest] at hdestination
  cases hdestination

/-- On the parachain no deposit that is routed to the Sygma bridge succeeds. -/
theorem other_world_deposit_fails (host : Host L) {who : MultiLocation}
    (hroute : routeOf who = .otherWorld) (what : MultiAsset) (state final : State L) :
    (config host).assetTransactor.depositAsset what who state ≠ (.ok (), final) := by
  intro h
  have hforward : (assetTransactor host).forward 1
      (assetTransactor host).forwarder.otherWorldTransactorForwarder what who state =
        (.ok (), final) := by
    rw [← h]
    show _ = XcmAssetTransactor.depositAsset _ what who state
    unfold XcmAssetTransactor.depositAsset
    rw [hroute]
  obtain ⟨_, middle, _, hsend⟩ := Exec.bind_ok.mp hforward
  obtain ⟨_, sent, htransfer, _⟩ := Exec.bind_ok.mp (Exec.mapErr_ok.mp hsend)
  exact transfer_not_parsed (other_world_not_parsed (route_of_other_world.mp hroute)) htransfer

end Sygma.Parachain
