/-
**`DeleteDevice` erases one device and nothing else.**

`DeleteDevice(devId)` runs `delete from <table> where deviceid=$1` on `pendingcommands`,
`position`, `usertodevicemap` and `deviceinfo` in turn and returns the error of the first delete
that fails.  A call that returns `nil` ran all four, so each of those tables keeps exactly its
rows of other devices, in their order, and the `nonce` table and the command sequence are not
touched.

What a later call reads about a device depends on that device's rows alone: `GetDeviceInfo` and
`GetUserFromDevice` find its first mapping and info row, `GetPending` and `GetPositions` take the
oldest of its commands and positions.  So after the delete every read of the erased device
answers as on an empty database, and every read of another device answers as before, whatever
the state the delete started from.

Main definitions:

* `FindMyDevice.PgStore.ErasesDevice` — what erasing one device means: the four tables filtered,
  the reads of the device turned down, the reads of every other device unchanged.

Main results:

* `FindMyDevice.PgStore.deleteDevice_of_err_none` — a `DeleteDevice` that returns `nil` ran its
  four deletes;
* `FindMyDevice.PgStore.getDeviceInfo_fst_congr` and its three companions — a read of a device
  depends only on the rows of that device;
* `FindMyDevice.PgStore.deleteDevice_erases` — **from any database, a `DeleteDevice` that returns
  `nil` erases exactly its device**.
-/

import FindMyDevice.PgStore

set_option relaxedAutoImplicit false
set_option autoImplicit false

namespace FindMyDevice

/-! ### Rows of one device -/

section Rows

variable {α : Type} (key : α → String) (l : List α) {d d' : String}

/-- Dropping the rows of `d` keeps the rows of every other device. -/
theorem filter_key_of_filter_ne (h : d' ≠ d) :
    (l.filter fun r => key r ≠ d).filter (fun r => key r = d') = l.filter fun r => key r = d' := by
  rw [List.filter_filter]
  refine List.filter_congr fun r _ => ?_
  by_cases hr : key r = d' <;> simp [hr, h]

/-- Dropping the rows of `d` leaves none of them. -/
theorem filter_key_filter_ne_self :
    (l.filter fun r => key r ≠ d).filter (fun r => key r = d) = [] := by
  simp [List.filter_filter]

end Rows

namespace PgStore

/-! ### A read of a device depends on the rows of that device -/

section Reads

variable {s t : Store} {d : String}

theorem getDeviceInfo_fst_congr
    (hu : s.userToDeviceMap.filter (·.deviceId = d) = t.userToDeviceMap.filter (·.deviceId = d))
    (hi : s.deviceInfo.filter (·.deviceId = d) = t.deviceInfo.filter (·.deviceId = d))
    (g : Faults) : (getDeviceInfo s d g).1 = (getDeviceInfo t d g).1 := by
  have hsel : s.selectDeviceInfo d = t.selectDeviceInfo d := by
    simp only [Store.selectDeviceInfo, ← List.filter_head?, hu, hi]
  simp only [getDeviceInfo, hsel]
  split_ifs
  · rfl
  · rcases t.selectDeviceInfo d with _ | ⟨u, i⟩ <;> rfl

theorem getUserFromDevice_fst_congr
    (hu : s.userToDeviceMap.filter (·.deviceId = d) = t.userToDeviceMap.filter (·.deviceId = d))
    (g : Faults) : (getUserFromDevice s d g).1 = (getUserFromDevice t d g).1 := by
  have hsel : s.selectUser d = t.selectUser d := by
    simp only [Store.selectUser, ← List.filter_head?, hu]
  simp only [getUserFromDevice, hsel]
  split_ifs
  · rfl
  · rcases t.selectUser d with _ | u <;> rfl

theorem getPending_fst_congr
    (hc : s.pendingCommands.filter (·.deviceId = d) = t.pendingCommands.filter (·.deviceId = d))
    (now : ℕ) (g : Faults) : (getPending s d now g).1 = (getPending t d now g).1 := by
  have hsel : s.selectPending d = t.selectPending d := by
    simp only [Store.selectPending, hc]
  simp only [getPending, hsel]
  split_ifs <;> rcases t.selectPending d with _ | r <;> rfl

theorem getPositions_fst_congr
    (hp : s.position.filter (·.deviceId = d) = t.position.filter (·.deviceId = d))
    (g : Faults) : (getPositions s d g).1 = (getPositions t d g).1 := by
  simp only [getPositions, Store.selectPosition, hp]
  split_ifs <;> rfl

end Reads

/-! ### Erasing one device -/

/-- What erasing device `d` from `s` leaves as `s'`, as the spec describes it: the four tables
keyed by device lose the rows of `d` and keep all others in their order, nothing else changes,
the reads of `d` find nothing, and every read of another device answers as before. -/
structure ErasesDevice (s s' : Store) (d : String) : Prop where
  /-- The rows of `d` are gone from the four tables; every other row, the `nonce` table and the
  command sequence are as they were. -/
  tables : s' = { s with
    pendingCommands := s.pendingCommands.filter (·.deviceId ≠ d)
    position := s.position.filter (·.deviceId ≠ d)
    userToDeviceMap := s.userToDeviceMap.filter (·.deviceId ≠ d)
    deviceInfo := s.deviceInfo.filter (·.deviceId ≠ d) }
  /-- `GetDeviceInfo(d)` fails with `ErrUnknownDevice`. -/
  getDeviceInfo_unknown : (getDeviceInfo s' d .none).1 = .device none (some .unknownDevice)
  /-- `GetUserFromDevice(d)` fails with `ErrUnknownDevice`. -/
  getUserFromDevice_unknown : (getUserFromDevice s' d .none).1 = .user "" "" (some .unknownDevice)
  /-- `GetPending(d)` hands out no command. -/
  getPending_empty : ∀ now, (getPending s' d now .none).1 = .pending "" "" none
  /-- `GetPositions(d)` returns no position. -/
  getPositions_nil : (getPositions s' d .none).1 = .positions [] none
  /-- Every read of another device answers as before, whichever of its statements fail. -/
  others : ∀ d', d' ≠ d → ∀ (g : Faults) (now : ℕ),
    (getDeviceInfo s' d' g).1 = (getDeviceInfo s d' g).1 ∧
      (getUserFromDevice s' d' g).1 = (getUserFromDevice s d' g).1 ∧
      (getPending s' d' now g).1 = (getPending s d' now g).1 ∧
      (getPositions s' d' g).1 = (getPositions s d' g).1

/-- A `DeleteDevice` that returns `nil` ran all four deletes. -/
theorem deleteDevice_of_err_none {s : Store} {d : String} {f : Faults}
    (h : (deleteDevice s d f).1 = .err none) :
    (deleteDevice s d f).2 = { s with
      pendingCommands := s.pendingCommands.filter (·.deviceId ≠ d)
      position := s.position.filter (·.deviceId ≠ d)
      userToDeviceMap := s.userToDeviceMap.filter (·.deviceId ≠ d)
      deviceInfo := s.deviceInfo.filter (·.deviceId ≠ d) } := by
  simp only [deleteDevice, deleteTables, deviceTables] at h ⊢
  split_ifs at h ⊢ <;> first | rfl | simp at h

/-- **From any database, a `DeleteDevice(d)` that returns `nil` erases exactly device `d`.** -/
theorem deleteDevice_erases (s : Store) (d : String) (f : Faults)
    (h : (deleteDevice s d f).1 = .err none) : ErasesDevice s (deleteDevice s d f).2 d := by
  rw [deleteDevice_of_err_none h]
  refine ⟨rfl, ?_, ?_, fun now => ?_, ?_, fun d' hd g now => ⟨?_, ?_, ?_, ?_⟩⟩
  · exact getDeviceInfo_fst_congr (t := Store.empty) (filter_key_filter_ne_self _ _)
      (filter_key_filter_ne_self _ _) _
  · exact getUserFromDevice_fst_congr (t := Store.empty) (filter_key_filter_ne_self _ _) _
  · exact getPending_fst_congr (t := Store.empty) (filter_key_filter_ne_self _ _) now _
  · exact getPositions_fst_congr (t := Store.empty) (filter_key_filter_ne_self _ _) _
  · exact getDeviceInfo_fst_congr (filter_key_of_filter_ne _ _ hd)
      (filter_key_of_filter_ne _ _ hd) g
  · exact getUserFromDevice_fst_congr (filter_key_of_filter_ne _ _ hd) g
  · exact getPending_fst_congr (filter_key_of_filter_ne _ _ hd) now g
  · exact getPositions_fst_congr (filter_key_of_filter_ne _ _ hd) g

/-- A database with rows of `dev-1` and of `dev-2` in each of the four tables: deleting `dev-1`
erases its rows and keeps those of `dev-2`. -/
theorem deleteDevice_erases_two_devices :
    let s := (runF Env.sample Store.empty
      [(.registerDevice "u" ⟨"dev-1", "", "s1", false, false, 0, "", "", ""⟩ "" 0, .none),
        (.registerDevice "u" ⟨"dev-2", "", "s2", false, false, 0, "", "", ""⟩ "" 0, .none),
        (.storeCommand "dev-1" "ring" "ring" 0, .none), (.storeCommand "dev-2" "lock" "lock" 0, .none),
        (.setDeviceLocation "dev-1" ⟨⟨0⟩, ⟨0⟩, ⟨0⟩, ⟨0⟩, 0⟩ 0, .none),
        (.setDeviceLocation "dev-2" ⟨⟨1⟩, ⟨1⟩, ⟨1⟩, ⟨1⟩, 0⟩ 0, .none)]).2
    s.deviceInfo.map (·.deviceId) = ["dev-1", "dev-2"] ∧
      s.userToDeviceMap.map (·.deviceId) = ["dev-1", "dev-2"] ∧
      s.pendingCommands.map (·.deviceId) = ["dev-1", "dev-2"] ∧
      s.position.map (·.deviceId) = ["dev-1", "dev-2"] ∧
      (deleteDevice s "dev-1" .none).1 = .err none ∧
      ErasesDevice s (deleteDevice s "dev-1" .none).2 "dev-1" :=
  ⟨rfl, rfl, rfl, rfl, rfl, deleteDevice_erases _ "dev-1" .none rfl⟩

end PgStore

end FindMyDevice
