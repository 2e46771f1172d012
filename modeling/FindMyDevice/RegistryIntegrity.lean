/-
**Every device a user is mapped to has an info row, whichever statements fail.**

`RegisterDevice` inserts the `deviceInfo` row of a device before the `userToDeviceMap` row that
maps it to its user, and `DeleteDevice` clears `userToDeviceMap` before `deviceInfo`.  A call that
stops at a failing statement may so leave an info row that no user maps, never a mapping whose
device has no info row.  Every other statement keeps the device ids of both tables: the updates of
`deviceInfo` rewrite the rows of a device in place, and the re-key of `GetDevicesForUser` changes
the user of a mapping only.

So in every state a run reaches from the empty database, whichever statements fail on the way, the
device of every mapping has an info row (`FindMyDevice.Store.InfoOfMapped`), and the reads report
accordingly: `GetDeviceInfo` finds every device that `GetUserFromDevice` finds, with the same user,
and every device that a listing of `GetDevicesForUser` names.  Run concurrently at their
statements, a registration and a delete of one device break the invariant; calls that never
delete a device another registers keep it (`FindMyDevice.RegistryRace`).  What a failure does
leave, an info row no user maps, is not harmless: a retry of the registration does not see it,
and inserts a second one.

Main definitions:

* `FindMyDevice.Store.infoIds`, `FindMyDevice.Store.mappedIds` — the device ids of the rows of
  `deviceInfo` and of `userToDeviceMap`;
* `FindMyDevice.Store.InfoOfMapped` — every mapped device has an info row.

Main results:

* `FindMyDevice.PgStore.infoOfMapped_exec` — every call keeps the invariant, whichever of its
  statements fail;
* `FindMyDevice.PgStore.getDeviceInfo_of_find?` — in a database that holds it, `GetDeviceInfo`
  finds the device of every mapping;
* `FindMyDevice.PgStore.getDeviceInfo_of_getUserFromDevice`,
  `FindMyDevice.PgStore.find?_of_mem_getDevicesForUser` — what `GetUserFromDevice` and a listing
  report is a mapping;
* `FindMyDevice.PgStore.runF_register_retry` — **a failed registration, retried, files the device
  twice**: the info row a failure leaves is one the retry does not see.
-/

import FindMyDevice.DeviceIsolation

set_option relaxedAutoImplicit false
set_option autoImplicit false

namespace FindMyDevice

namespace Store

/-- The device ids of the rows of `deviceInfo`, in their order. -/
def infoIds (s : Store) : List String := s.deviceInfo.map (·.deviceId)

/-- The device ids of the rows of `userToDeviceMap`, in their order. -/
def mappedIds (s : Store) : List String := s.userToDeviceMap.map (·.deviceId)

/-- Every device that a row of `userToDeviceMap` names has a row of `deviceInfo`. -/
def InfoOfMapped (s : Store) : Prop := s.mappedIds ⊆ s.infoIds

/-! ### Each statement keeps the invariant -/

section Statements

variable {s : Store}

theorem infoOfMapped_empty : empty.InfoOfMapped := List.nil_subset _

theorem InfoOfMapped.of_ids {s' : Store} (hs : s.InfoOfMapped) (hi : s'.infoIds = s.infoIds)
    (hm : s'.mappedIds = s.mappedIds) : s'.InfoOfMapped := by
  rw [InfoOfMapped, hi, hm]
  exact hs

/-- The updates of `deviceInfo`: every row of `devId` rewritten, its device id kept. -/
theorem infoIds_mapInfo {devId : String} {F : DeviceInfoRow → DeviceInfoRow}
    (hF : ∀ r, (F r).deviceId = r.deviceId) :
    ({ s with deviceInfo := s.deviceInfo.map fun (r : DeviceInfoRow) =>
      if r.deviceId = devId then F r else r }).infoIds = s.infoIds := by
  simp only [infoIds, List.map_map]
  exact List.map_congr_left fun r _ => by simp only [Function.comp_apply]; split <;> simp only [hF]

theorem infoIds_updateDevice (dev : Device) (id : String) (now : ℕ) :
    (s.updateDevice dev id now).infoIds = s.infoIds :=
  infoIds_mapInfo fun _ => rfl

theorem infoOfMapped_mapInfo (hs : s.InfoOfMapped) {devId : String}
    {F : DeviceInfoRow → DeviceInfoRow} (hF : ∀ r, (F r).deviceId = r.deviceId) :
    ({ s with deviceInfo := s.deviceInfo.map fun (r : DeviceInfoRow) =>
      if r.deviceId = devId then F r else r }).InfoOfMapped :=
  hs.of_ids (infoIds_mapInfo hF) rfl

theorem infoOfMapped_touch (hs : s.InfoOfMapped) (devId : String) (now : ℕ) :
    (s.touch devId now).InfoOfMapped :=
  infoOfMapped_mapInfo hs fun _ => rfl

theorem infoOfMapped_updateDevice (hs : s.InfoOfMapped) (dev : Device) (id : String) (now : ℕ) :
    (s.updateDevice dev id now).InfoOfMapped :=
  hs.of_ids (infoIds_updateDevice dev id now) rfl

theorem infoOfMapped_updateAccessToken (hs : s.InfoOfMapped) (devId token : String) (now : ℕ) :
    (s.updateAccessToken devId token now).InfoOfMapped :=
  infoOfMapped_mapInfo hs fun _ => rfl

theorem infoOfMapped_updateLock (hs : s.InfoOfMapped) (devId : String) (state : Bool) (now : ℕ) :
    (s.updateLock devId state now).InfoOfMapped :=
  infoOfMapped_mapInfo hs fun _ => rfl

/-- The re-key changes the user of a mapping, not its device. -/
theorem mappedIds_rekeyUser (userId oldUserId : String) :
    (s.rekeyUser userId oldUserId).mappedIds = s.mappedIds := by
  simp only [mappedIds, rekeyUser, List.map_map]
  exact List.map_congr_left fun r _ => by simp only [Function.comp_apply]; split <;> rfl

theorem infoOfMapped_rekeyUser (hs : s.InfoOfMapped) (userId oldUserId : String) :
    (s.rekeyUser userId oldUserId).InfoOfMapped :=
  hs.of_ids rfl (mappedIds_rekeyUser userId oldUserId)

theorem infoIds_subset_insertDevice (dev : Device) (id : String) (now : ℕ) :
    s.infoIds ⊆ (s.insertDevice dev id now).infoIds := by
  simp only [infoIds, insertDevice, List.map_append]
  exact List.subset_append_left _ _

/-- An info row may always be added. -/
theorem infoOfMapped_insertDevice (hs : s.InfoOfMapped) (dev : Device) (id : String) (now : ℕ) :
    (s.insertDevice dev id now).InfoOfMapped :=
  hs.trans (infoIds_subset_insertDevice dev id now)

theorem mem_infoIds_insertDevice (dev : Device) (id : String) (now : ℕ) :
    id ∈ (s.insertDevice dev id now).infoIds := by
  simp [infoIds, insertDevice]

/-- A mapping may be added for a device that has an info row. -/
theorem infoOfMapped_insertMapping (hs : s.InfoOfMapped) {deviceId : String}
    (h : deviceId ∈ s.infoIds) (userId : String) (now : ℕ) :
    (s.insertMapping userId deviceId now).InfoOfMapped := by
  intro x hx
  simp only [mappedIds, insertMapping, List.map_append, List.map_singleton, List.mem_append,
    List.mem_singleton] at hx
  rcases hx with hx | rfl
  · exact hs hx
  · exact h

/-- A delete keeps the invariant, the delete from `deviceInfo` only once `devId` is unmapped. -/
theorem infoOfMapped_deleteFrom (hs : s.InfoOfMapped) (t : Table) (devId : String)
    (ht : t = .deviceInfo → devId ∉ s.mappedIds) : (s.deleteFrom t devId).InfoOfMapped := by
  cases t
  case userToDeviceMap => exact ((List.filter_sublist _).map _).subset.trans hs
  case deviceInfo =>
    intro x hx
    obtain ⟨r, hr, rfl⟩ := List.mem_map.1 (hs hx)
    exact List.mem_map_of_mem _ (List.mem_filter.2 ⟨hr, decide_eq_true fun he => ht rfl (he ▸ hx)⟩)
  all_goals exact hs

theorem not_mem_mappedIds_deleteFrom (devId : String) :
    devId ∉ (s.deleteFrom .userToDeviceMap devId).mappedIds := by
  simp [mappedIds, deleteFrom]

end Statements

end Store

/-! ### Each call keeps the invariant -/

namespace PgStore

variable (env : Env)

section Calls

variable {s : Store}

theorem infoOfMapped_execOne {stmt : Store → Store} (hs : s.InfoOfMapped)
    (h : (stmt s).InfoOfMapped) (f : Faults) : (execOne s stmt f).2.InfoOfMapped := by
  unfold execOne
  split
  · exact hs
  · exact h

/-- `RegisterDevice` maps the device only once its info row is in. -/
theorem infoOfMapped_registerDevice (hs : s.InfoOfMapped) (userid : String) (dev : Device)
    (uuid : String) (now : ℕ) (f : Faults) :
    (registerDevice s userid dev uuid now f).2.InfoOfMapped := by
  simp only [registerDevice]
  split_ifs
  · exact hs
  · exact Store.infoOfMapped_updateDevice hs dev _ now
  · exact hs
  · exact Store.infoOfMapped_insertDevice hs dev _ now
  · exact Store.infoOfMapped_insertMapping (Store.infoOfMapped_insertDevice hs dev _ now)
      (Store.mem_infoIds_insertDevice dev _ now) userid now

/-- `DeleteDevice` clears the mappings of the device before its info rows. -/
theorem infoOfMapped_deleteDevice (hs : s.InfoOfMapped) (devId : String) (f : Faults) :
    (deleteDevice s devId f).2.InfoOfMapped := by
  have hmap := Store.infoOfMapped_deleteFrom hs .userToDeviceMap devId nofun
  simp only [deleteDevice, deviceTables, deleteTables]
  split_ifs
  any_goals exact hs
  · exact hmap
  · exact Store.infoOfMapped_deleteFrom hmap .deviceInfo devId fun _ =>
      Store.not_mem_mappedIds_deleteFrom devId

/-- **Every call keeps the invariant**, whichever of its statements fail. -/
theorem infoOfMapped_exec (hs : s.InfoOfMapped) (op : Op) (f : Faults) :
    (exec env s op f).2.InfoOfMapped := by
  cases op <;> simp only [exec]
  case registerDevice userid dev uuid now =>
    exact infoOfMapped_registerDevice hs userid dev uuid now f
  case getDevicesForUser userId oldUserId =>
    simp only [getDevicesForUser]
    split_ifs <;> first | exact hs | exact Store.infoOfMapped_rekeyUser hs userId oldUserId
  case getPending devId now =>
    have htouch : ∀ t : Store, t.InfoOfMapped → ∀ g, (touch t devId now g).2.InfoOfMapped :=
      fun t ht => infoOfMapped_execOne ht (Store.infoOfMapped_touch ht devId now)
    simp only [getPending]
    split_ifs <;> (try split) <;> first | exact hs | (refine htouch _ ?_ _; exact hs)
  case setAccessToken devId token now =>
    exact infoOfMapped_execOne hs (Store.infoOfMapped_updateAccessToken hs devId token now) f
  case setDeviceLock devId state now =>
    exact infoOfMapped_execOne hs (Store.infoOfMapped_updateLock hs devId state now) f
  case touch devId now => exact infoOfMapped_execOne hs (Store.infoOfMapped_touch hs devId now) f
  case deleteDevice devId => exact infoOfMapped_deleteDevice hs devId f
  all_goals
    simp only [getDeviceInfo, getPositions, getUserFromDevice, storeCommand, setDeviceLocation,
      gcDatabase, purgePosition, purgeCommands, getNonce, checkNonce, execOne]
    (repeat' split) <;> exact hs

theorem infoOfMapped_runF : ∀ (calls : List (Op × Faults)) {s : Store}, s.InfoOfMapped →
    (runF env s calls).2.InfoOfMapped
  | [], _, hs => hs
  | (op, f) :: calls, _, hs => infoOfMapped_runF calls (infoOfMapped_exec env hs op f)

end Calls

/-! ### What the reads report -/

variable {s : Store}

/-- In a database that holds the invariant, `GetDeviceInfo` finds the device of every mapping,
with the user of the first mapping of the device. -/
theorem getDeviceInfo_of_find? (hs : s.InfoOfMapped) {d : String} {r : UserDeviceRow}
    (hr : s.userToDeviceMap.find? (·.deviceId = d) = some r) :
    ∃ dev, (getDeviceInfo s d .none).1 = .device (some dev) none ∧ dev.id = d ∧
      dev.user = r.userId := by
  have hd : d ∈ s.mappedIds := by
    have := List.find?_some hr
    exact List.mem_map.2 ⟨r, List.mem_of_find?_eq_some hr, by simpa using this⟩
  obtain ⟨i, hi, hid⟩ := List.mem_map.1 (hs hd)
  obtain ⟨i', hi'⟩ : ∃ i', s.deviceInfo.find? (·.deviceId = d) = some i' :=
    Option.isSome_iff_exists.1 (List.find?_isSome.2 ⟨i, hi, decide_eq_true hid⟩)
  have hid' : i'.deviceId = d := by simpa using List.find?_some hi'
  simp only [getDeviceInfo, Store.selectDeviceInfo, hr, hi', Faults.none_fails, Bool.or_false,
    Bool.false_eq_true, if_false, Option.bind_eq_bind, Option.some_bind]
  exact ⟨_, rfl, hid', rfl⟩

/-- In a database that holds the invariant, `GetDeviceInfo` finds every device that
`GetUserFromDevice` finds, with the same user. -/
theorem getDeviceInfo_of_getUserFromDevice (hs : s.InfoOfMapped) {d u name : String} {g : Faults}
    (h : (getUserFromDevice s d g).1 = .user u name none) :
    ∃ dev, (getDeviceInfo s d .none).1 = .device (some dev) none ∧ dev.id = d ∧ dev.user = u := by
  simp only [getUserFromDevice] at h
  split_ifs at h
  split at h
  · next r hr =>
    simp only [Reply.user.injEq] at h
    exact h.1 ▸ getDeviceInfo_of_find? hs hr
  · simp only [Reply.user.injEq] at h
    exact absurd h.2.2 nofun

/-- A row that `GetDevicesForUser`'s listing reports is a mapping of the store it leaves. -/
theorem find?_of_mem_getDevicesForUser {userId oldUserId : String} {f : Faults}
    {l : List DeviceList} {e : Option StoreError}
    (h : (getDevicesForUser env s userId oldUserId f).1 = .devices l e) {x : DeviceList}
    (hx : x ∈ l) : ∃ r, (getDevicesForUser env s userId oldUserId f).2.userToDeviceMap.find?
      (·.deviceId = x.id) = some r := by
  simp only [getDevicesForUser] at h ⊢
  split_ifs at h ⊢ <;> simp only [Reply.devices.injEq] at h <;> obtain ⟨rfl, -⟩ := h <;>
  · obtain ⟨r, hr, rfl⟩ := List.mem_map.1 hx
    have hr := (List.mem_filter.1 ((List.perm_insertionSort _ _).subset
      (List.take_subset _ _ hr))).1
    exact Option.isSome_iff_exists.1 (List.find?_isSome.2 ⟨r, hr, by simp⟩)

/-! ### What a failed registration leaves -/

/-- **A failed registration, retried, files the device twice.**  From every database in which
user `userid` does not map the device, a `RegisterDevice(userid, dev)` whose insert of the mapping
fails panics with the info row in.  The same call made again, every statement succeeding, finds
no mapping, inserts a second info row and the mapping, and returns the device's id. -/
theorem runF_register_retry (s : Store) (userid : String) (dev : Device) (uuid : String)
    (now now' : ℕ) (h : s.mapsDevice userid (assignedId dev uuid) = false) :
    let id := assignedId dev uuid
    let r := runF env s [(.registerDevice userid dev uuid now, ⟨(· == 3)⟩),
      (.registerDevice userid dev uuid now', .none)]
    r.1 = [.panic, .devId id none] ∧
      (r.2.deviceRows id).1.length = (s.deviceRows id).1.length + 2 ∧
      (r.2.deviceRows id).2.1.length = (s.deviceRows id).2.1.length + 1 := by
  intro id r
  have hmaps : (s.insertDevice dev id now).mapsDevice userid id = s.mapsDevice userid id := rfl
  have hr : r = ([.panic, .devId id none], ((s.insertDevice dev id now).insertDevice dev id
      now').insertMapping userid id now') := by
    simp [r, runF, exec, registerDevice, h, hmaps, id, Faults.none_fails]
  clear_value r
  subst hr
  refine ⟨rfl, ?_, ?_⟩ <;>
    simp [Store.deviceRows, Store.insertDevice, Store.insertMapping, List.filter_append]

theorem runF_register_retry_sample :
    Store.empty.mapsDevice "u"
        (assignedId ⟨"dev-1", "", "s3cr3t", false, false, 0, "", "", ""⟩ "") = false ∧
      ((runF Env.sample Store.empty
        [(.registerDevice "u" ⟨"dev-1", "", "s3cr3t", false, false, 0, "", "", ""⟩ "" 0,
            ⟨(· == 3)⟩),
          (.registerDevice "u" ⟨"dev-1", "", "s3cr3t", false, false, 0, "", "", ""⟩ "" 1,
            .none)]).2.deviceRows "dev-1").1.length = 2 :=
  ⟨rfl, (runF_register_retry Env.sample Store.empty "u" _ "" 0 1 rfl).2.1⟩

end PgStore

end FindMyDevice
