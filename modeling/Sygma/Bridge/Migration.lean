import Sygma.State

/-!
# The storage migration of the bridge pallet

`FixMpcAddress` runs on every runtime upgrade. At storage version 0 it writes a fixed MPC address
and moves the storage to version 1; at any other version it does nothing.
-/

namespace Sygma.Bridge

/-- The MPC address the migration writes. -/
def migratedMpcAddr : MpcAddress :=
  #v[0xB0, 0x11, 0x37, 0x12, 0x3E, 0xF0, 0x2f, 0xAe, 0xF2, 0x51, 0xa3, 0x91, 0x08, 0xc6, 0xef,
    0x51, 0x3A, 0xAa, 0xC4, 0x85]

/-- What a runtime upgrade does to the storage of the bridge pallet. -/
def onRuntimeUpgrade (storage : Storage) : Storage :=
  if storage.storageVersion = 0 then
    -- the old address is killed before the new one is set
    let killed := { storage with mpcAddr := .clear }
    let migrated := { killed with mpcAddr := migratedMpcAddr }
    { migrated with storageVersion := 1 }
  else storage

/-- At version 0 the upgrade sets the address and the version. -/
theorem on_runtime_upgrade_zero {storage : Storage} (h : storage.storageVersion = 0) :
    onRuntimeUpgrade storage =
      { storage with mpcAddr := migratedMpcAddr, storageVersion := 1 } := by
  simp [onRuntimeUpgrade, h]

/-- At any other version the upgrade changes nothing. -/
theorem on_runtime_upgrade_other {storage : Storage} (h : storage.storageVersion ≠ 0) :
    onRuntimeUpgrade storage = storage := by
  rw [onRuntimeUpgrade, if_neg h]

/-- The upgrade writes the address and the version only. -/
theorem on_runtime_upgrade_frame (storage : Storage) :
    onRuntimeUpgrade storage =
      { storage with
        mpcAddr := (onRuntimeUpgrade storage).mpcAddr
        storageVersion := (onRuntimeUpgrade storage).storageVersion } := by
  by_cases h : storage.storageVersion = 0
  · rw [on_runtime_upgrade_zero h]
  · rw [on_runtime_upgrade_other h]

end Sygma.Bridge
