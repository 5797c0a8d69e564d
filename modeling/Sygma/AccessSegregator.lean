import Sygma.Config

/-!
# The access segregator pallet

`ExtrinsicAccess` maps a pair of pallet index and extrinsic name to the one account that may call
it. `hasAccess` lets the committee origin through, and otherwise a signed origin that holds a
registered pair. `grantAccess` is itself guarded in this way; it stores any pair, registered or
not, and replaces the previous holder.
-/

namespace Sygma

variable {L : Type}

/-- The name of an extrinsic as the byte string it is stored under. -/
abbrev name (text : String) : Bytes := Bytes.ofString text

/-- Whether a pair of pallet index and extrinsic name is in the registered list. -/
def hasRegistered (cfg : Config L) (palletIndex : U8) (extrinsicName : Bytes) : Bool :=
  cfg.extrinsics.any fun entry => entry == (palletIndex, extrinsicName)

/-- Whether an origin may call an extrinsic. -/
def hasAccess (cfg : Config L) (storage : Storage) (palletIndex : U8) (extrinsicName : Bytes)
    (origin : Origin) : Bool :=
  if cfg.bridgeCommitteeOrigin origin then true
  else
    match origin with
    | .signed caller =>
        hasRegistered cfg palletIndex extrinsicName &&
          match storage.extrinsicAccess.get (palletIndex, extrinsicName) with
          | some who => who == caller
          | none => false
    | _ => false

/-- Give an account access to an extrinsic. -/
def grantAccess (cfg : Config L) (origin : Origin) (palletIndex : U8) (extrinsicName : Bytes)
    (who : AccountId) : Call L DispatchError Unit := do
  let access ← readStorage fun storage =>
    hasAccess cfg storage cfg.accessSegregatorIndex (name "grant_access") origin
  Exec.ensure access (.access .grantAccessFailed)
  writeStorage fun storage =>
    { storage with
      extrinsicAccess := storage.extrinsicAccess.insert (palletIndex, extrinsicName) who }
  depositEvent (.accessGranted palletIndex extrinsicName who)

/-- Access means being the committee, or holding a registered pair. -/
theorem has_access_iff {cfg : Config L} {storage : Storage} {palletIndex : U8}
    {extrinsicName : Bytes} {origin : Origin} :
    hasAccess cfg storage palletIndex extrinsicName origin = true ↔
      cfg.bridgeCommitteeOrigin origin = true ∨
        ∃ who, origin = .signed who ∧ (palletIndex, extrinsicName) ∈ cfg.extrinsics ∧
          storage.extrinsicAccess.get (palletIndex, extrinsicName) = some who := by
  unfold hasAccess hasRegistered
  by_cases hcommittee : cfg.bridgeCommitteeOrigin origin = true
  · simp [hcommittee]
  · cases origin with
    | signed caller =>
        simp only [hcommittee, Bool.false_eq_true, if_false, false_or, Bool.and_eq_true,
          List.any_eq_true, beq_iff_eq, Origin.signed.injEq]
        constructor
        · rintro ⟨⟨entry, hmem, rfl⟩, hholder⟩
          refine ⟨caller, rfl, hmem, ?_⟩
          cases hget : storage.extrinsicAccess.get (palletIndex, extrinsicName) with
          | none => simp [hget] at hholder
          | some who =>
              rw [hget] at hholder
              rw [beq_iff_eq.mp hholder]
        · rintro ⟨who, rfl, hmem, hget⟩
          exact ⟨⟨_, hmem, rfl⟩, by simp [hget]⟩
    | root | none | other => simp [hcommittee]

end Sygma
