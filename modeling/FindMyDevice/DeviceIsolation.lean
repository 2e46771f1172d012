/-
**A call about one device leaves every other device alone.**

Every `pgStore` method but two is about one device: it reads and writes the rows of its `devId`
(for `RegisterDevice`, of the id it files the device under) in the four tables keyed by device,
`deviceInfo`, `userToDeviceMap`, `pendingCommands` and `position`.  The nonce calls touch only
the `nonce` table.  The two exceptions reach every device: `GetDevicesForUser` re-keys every
mapping of the old user, and `GcDatabase` drops the expired positions of every device, whatever
`devId` and `userId` it is given.

This module proves that the statements keep to that footprint, whichever of them fail.  The one
statement that does not name its device is `GetPending`'s `delete from pendingCommands where id
= $1`; it removes only the row the select returned as long as the serial ids are distinct, and
they are in every state a run can reach, failures included
(`FindMyDevice.PgStore.idsFresh_runF`).  Since every read of a device depends only on that
device's rows, a call that may not change device `d` changes nothing that a read of `d` reports.

Main definitions:

* `FindMyDevice.Store.deviceRows` — the rows of one device in the four tables;
* `FindMyDevice.Op.mayChange` — whether a call may change the rows of a device.

Main results:

* `FindMyDevice.PgStore.idsFresh_exec` — every call, whichever statements fail, keeps the serial
  ids distinct and below the sequence;
* `FindMyDevice.PgStore.deviceRows_exec` — a call keeps the rows of every device it may not
  change;
* `FindMyDevice.PgStore.exec_reads_other_device` — **in every reachable state, a call leaves what
  the reads report about every device it may not change as it was**.
-/

import FindMyDevice.DeviceDelete
import FindMyDevice.CommandQueue

set_option relaxedAutoImplicit false
set_option autoImplicit false

namespace FindMyDevice

/-- The rows of device `d` in the tables keyed by device, in their order. -/
def Store.deviceRows (s : Store) (d : String) :
    List DeviceInfoRow × List UserDeviceRow × List CommandRow × List PositionRow :=
  (s.deviceInfo.filter (·.deviceId = d), s.userToDeviceMap.filter (·.deviceId = d),
    s.pendingCommands.filter (·.deviceId = d), s.position.filter (·.deviceId = d))

/-- Whether a call may change the rows of device `d`.  A call about one device may change that
device only; `GetDevicesForUser` and `GcDatabase` may change any device; the nonce calls and the
three plain reads change none. -/
def Op.mayChange (d : String) : Op → Bool
  | .registerDevice _ dev uuid _ => PgStore.assignedId dev uuid = d
  | .getDeviceInfo _ | .getPositions _ | .getUserFromDevice _ => false
  | .getPending devId _ | .storeCommand devId .. | .setAccessToken devId .. => devId = d
  | .setDeviceLock devId .. | .setDeviceLocation devId .. | .purgePosition devId => devId = d
  | .touch devId _ | .deleteDevice devId | .purgeCommands devId => devId = d
  | .getDevicesForUser .. | .gcDatabase .. => true
  | .getNonce .. | .checkNonce .. => false

/-! ### Rows of other keys -/

section Rows

variable {α : Type} (key : α → String) {l : List α} {d : String}

/-- A rewrite that keeps keys and leaves the rows of `d` alone keeps the rows of `d`. -/
theorem filter_map_of_fix {f : α → α} (hkey : ∀ r, key (f r) = key r)
    (hfix : ∀ r, key r = d → f r = r) :
    (l.map f).filter (fun r => key r = d) = l.filter fun r => key r = d := by
  rw [List.filter_map]
  have hp : (fun r => decide (key r = d)) ∘ f = fun r => decide (key r = d) := by
    funext r
    simp [hkey]
  rw [hp]
  conv_rhs => rw [← List.map_id (l.filter _)]
  exact List.map_congr_left fun r hr => hfix r (by simpa using (List.mem_filter.1 hr).2)

end Rows

namespace Store

/-! ### Each statement keeps the rows of other devices -/

section Statements

variable {s : Store} {d : String}

@[simp] theorem deviceRows_insertNonce (key val : String) (now : ℕ) :
    (s.insertNonce key val now).deviceRows d = s.deviceRows d := rfl

@[simp] theorem deviceRows_gcNonces (now : ℕ) : (s.gcNonces now).deviceRows d = s.deviceRows d :=
  rfl

@[simp] theorem deviceRows_deleteNonce (key : String) :
    (s.deleteNonce key).deviceRows d = s.deviceRows d := rfl

theorem deviceRows_updateCommand {devId : String} (h : devId ≠ d) (now : ℕ)
    (command cType : String) :
    (s.updateCommand now command devId cType).deviceRows d = s.deviceRows d := by
  simp only [deviceRows, updateCommand, Prod.mk.injEq, true_and, and_true]
  exact filter_map_of_fix _ (fun r => by split <;> rfl) fun r hr => by
    rw [if_neg fun hc => h (hc.1.symm.trans hr)]

theorem deviceRows_insertCommand {devId : String} (h : devId ≠ d) (now : ℕ)
    (command cType : String) :
    (s.insertCommand devId now command cType).deviceRows d = s.deviceRows d := by
  simp [deviceRows, insertCommand, List.filter_append, h]

/-- Deleting by id keeps the rows of `d` when no row of `d` carries that id. -/
theorem deviceRows_deleteCommand {id : ℕ}
    (h : ∀ x ∈ s.pendingCommands, x.id = id → x.deviceId ≠ d) :
    (s.deleteCommand id).deviceRows d = s.deviceRows d := by
  simp only [deviceRows, deleteCommand, Prod.mk.injEq, true_and, and_true, List.filter_filter]
  refine List.filter_congr fun x hx => ?_
  by_cases hxd : x.deviceId = d
  · simpa [hxd] using fun e => h x hx e hxd
  · simp [hxd]

/-- The updates of `deviceInfo`: every row of `devId` rewritten, its device id kept. -/
theorem deviceRows_mapInfo {devId : String} (h : devId ≠ d) {F : DeviceInfoRow → DeviceInfoRow}
    (hF : ∀ r, (F r).deviceId = r.deviceId) :
    ({ s with deviceInfo := s.deviceInfo.map fun (r : DeviceInfoRow) =>
      if r.deviceId = devId then F r else r }).deviceRows d = s.deviceRows d := by
  simp only [deviceRows, Prod.mk.injEq, and_true]
  exact filter_map_of_fix _ (fun r => by split <;> simp only [hF]) fun r hr => by
    rw [if_neg fun hc => h (hc.symm.trans hr)]

theorem deviceRows_touch {devId : String} (h : devId ≠ d) (now : ℕ) :
    (s.touch devId now).deviceRows d = s.deviceRows d :=
  deviceRows_mapInfo h fun _ => rfl

theorem deviceRows_updateDevice {id : String} (h : id ≠ d) (dev : Device) (now : ℕ) :
    (s.updateDevice dev id now).deviceRows d = s.deviceRows d :=
  deviceRows_mapInfo h fun _ => rfl

theorem deviceRows_insertDevice {id : String} (h : id ≠ d) (dev : Device) (now : ℕ) :
    (s.insertDevice dev id now).deviceRows d = s.deviceRows d := by
  simp [deviceRows, insertDevice, List.filter_append, h]

theorem deviceRows_updateAccessToken {devId : String} (h : devId ≠ d) (token : String) (now : ℕ) :
    (s.updateAccessToken devId token now).deviceRows d = s.deviceRows d :=
  deviceRows_mapInfo h fun _ => rfl

theorem deviceRows_updateLock {devId : String} (h : devId ≠ d) (state : Bool) (now : ℕ) :
    (s.updateLock devId state now).deviceRows d = s.deviceRows d :=
  deviceRows_mapInfo h fun _ => rfl

theorem deviceRows_insertMapping {deviceId : String} (h : deviceId ≠ d) (userId : String)
    (now : ℕ) : (s.insertMapping userId deviceId now).deviceRows d = s.deviceRows d := by
  simp [deviceRows, insertMapping, List.filter_append, h]

theorem deviceRows_insertPosition {row : PositionRow} (h : row.deviceId ≠ d) :
    (s.insertPosition row).deviceRows d = s.deviceRows d := by
  simp [deviceRows, insertPosition, List.filter_append, h]

theorem deviceRows_deleteFrom {devId : String} (h : devId ≠ d) (t : Table) :
    (s.deleteFrom t devId).deviceRows d = s.deviceRows d := by
  cases t <;> simp only [deviceRows, deleteFrom, filter_key_of_filter_ne _ _ (Ne.symm h)]

end Statements

/-! ### Each statement keeps the serial ids fresh -/

section Ids

variable {s : Store}

theorem idsFresh_updateCommand (hs : IdsFresh s) (now : ℕ) (command devId cType : String) :
    IdsFresh (s.updateCommand now command devId cType) := by
  have hids : (s.updateCommand now command devId cType).pendingCommands.map (·.id) =
      s.pendingCommands.map (·.id) := by
    simp only [updateCommand, List.map_map]
    exact List.map_congr_left fun r _ => by simp only [Function.comp_apply]; split <;> rfl
  refine ⟨hids ▸ hs.1, fun r hr => ?_⟩
  obtain ⟨x, hx, rfl⟩ := List.mem_map.1 hr
  have := hs.2 x hx
  split <;> exact this

theorem idsFresh_insertCommand (hs : IdsFresh s) (devId : String) (now : ℕ)
    (command cType : String) :
    IdsFresh (s.insertCommand devId now command cType) := by
  refine ⟨?_, fun r hr => ?_⟩
  · simp only [insertCommand, List.map_append, List.map_singleton]
    exact List.nodup_append.2 ⟨hs.1, List.nodup_singleton _, fun a ha hb => by
      obtain ⟨x, hx, rfl⟩ := List.mem_map.1 ha
      exact absurd (hs.2 x hx) (by rw [List.mem_singleton.1 hb]; exact Nat.lt_irrefl _)⟩
  · rcases List.mem_append.1 hr with hr | hr
    · exact Nat.lt_succ_of_lt (hs.2 r hr)
    · rw [List.mem_singleton.1 hr]
      exact Nat.lt_succ_self _

theorem idsFresh_deleteCommand (hs : IdsFresh s) (id : ℕ) : IdsFresh (s.deleteCommand id) :=
  idsFresh_of_sublist hs (List.filter_sublist _) rfl

theorem idsFresh_deleteFrom (hs : IdsFresh s) (t : Table) (devId : String) :
    IdsFresh (s.deleteFrom t devId) := by
  cases t
  case pendingCommands => exact idsFresh_of_sublist hs (List.filter_sublist _) rfl
  all_goals exact hs

end Ids

end Store

namespace PgStore

variable (env : Env)

/-! ### Each call keeps the rows of the devices it may not change -/

section Calls

variable {s : Store} {d : String}

theorem deviceRows_execOne {stmt : Store → Store} (h : (stmt s).deviceRows d = s.deviceRows d)
    (f : Faults) : (execOne s stmt f).2.deviceRows d = s.deviceRows d := by
  unfold execOne
  split
  · rfl
  · exact h

theorem deviceRows_registerDevice {dev : Device} {uuid : String} (h : assignedId dev uuid ≠ d)
    (userid : String) (now : ℕ) (f : Faults) :
    (registerDevice s userid dev uuid now f).2.deviceRows d = s.deviceRows d := by
  simp only [registerDevice]
  split_ifs <;> simp only [Store.deviceRows_updateDevice h, Store.deviceRows_insertDevice h,
    Store.deviceRows_insertMapping h]

theorem deviceRows_storeCommand {devId : String} (h : devId ≠ d) (command cType : String)
    (now : ℕ) (f : Faults) :
    (storeCommand s devId command cType now f).2.deviceRows d = s.deviceRows d := by
  simp only [storeCommand]
  split_ifs <;> simp only [Store.deviceRows_insertCommand h, Store.deviceRows_updateCommand h]

/-- `GetPending` deletes by id the row its select returned, which is the only row with that id. -/
theorem deviceRows_getPending (hs : IdsFresh s) {devId : String} (h : devId ≠ d) (now : ℕ)
    (f : Faults) : (getPending s devId now f).2.deviceRows d = s.deviceRows d := by
  have htouch : ∀ t : Store, ∀ g, (touch t devId now g).2.deviceRows d = t.deviceRows d :=
    fun t g => deviceRows_execOne (Store.deviceRows_touch h now) g
  cases hsel : s.selectPending devId with
  | none =>
    simp only [getPending, hsel]
    split_ifs
    · rfl
    · exact htouch s _
  | some r =>
    obtain ⟨hmem, hdev⟩ := List.mem_filter.1 (oldest_mem _ hsel)
    have hdev' : r.deviceId = devId := by simpa using hdev
    have hid : ∀ x ∈ s.pendingCommands, x.id = r.id → x.deviceId ≠ d := fun x hx hxid hxd => by
      rw [List.inj_on_of_nodup_map hs.1 hx hmem hxid, hdev'] at hxd
      exact h hxd
    simp only [getPending, hsel]
    split_ifs <;> simp only [htouch, Store.deviceRows_deleteCommand hid]

theorem deviceRows_setDeviceLocation {devId : String} (h : devId ≠ d) (position : Position)
    (now : ℕ) (f : Faults) :
    (setDeviceLocation env s devId position now f).2.deviceRows d = s.deviceRows d := by
  have hpurge : (purgePosition s devId f).2.deviceRows d = s.deviceRows d :=
    deviceRows_execOne (Store.deviceRows_deleteFrom h .position) f
  simp only [setDeviceLocation]
  split_ifs <;> simp only [hpurge, Store.deviceRows_insertPosition
    (show (locationRow env devId position now).deviceId ≠ d from h)]

theorem deviceRows_deleteTables {devId : String} (h : devId ≠ d) (f : Faults) :
    ∀ (i : ℕ) (ts : List Table) (s : Store),
      (deleteTables f devId i ts s).2.deviceRows d = s.deviceRows d
  | _, [], _ => rfl
  | i, t :: ts, s => by
    simp only [deleteTables]
    split_ifs
    · rfl
    · rw [deviceRows_deleteTables h f (i + 1) ts, Store.deviceRows_deleteFrom h]

theorem deviceRows_checkNonce (nonce : String) (now : ℕ) (f : Faults) :
    (checkNonce env s nonce now f).2.deviceRows d = s.deviceRows d := by
  simp only [checkNonce]
  split_ifs <;> (repeat' split) <;> rfl

/-- **A call keeps the rows of every device it may not change**, whichever of its statements
fail, as long as the serial ids are distinct. -/
theorem deviceRows_exec (hs : IdsFresh s) (op : Op) (f : Faults) (h : op.mayChange d = false) :
    (exec env s op f).2.deviceRows d = s.deviceRows d := by
  cases op <;> simp only [Op.mayChange, decide_eq_false_iff_not, Bool.true_eq_false] at h <;>
    simp only [exec]
  case registerDevice userid dev uuid now => exact deviceRows_registerDevice h userid now f
  case getDeviceInfo devId => simp only [getDeviceInfo]; split_ifs <;> (try split) <;> rfl
  case getPositions devId => simp only [getPositions]; split_ifs <;> rfl
  case getPending devId now => exact deviceRows_getPending hs h now f
  case getUserFromDevice devId => simp only [getUserFromDevice]; split_ifs <;> (try split) <;> rfl
  case storeCommand devId command cType now => exact deviceRows_storeCommand h command cType now f
  case setAccessToken devId token now =>
    exact deviceRows_execOne (Store.deviceRows_updateAccessToken h token now) f
  case setDeviceLock devId state now =>
    exact deviceRows_execOne (Store.deviceRows_updateLock h state now) f
  case setDeviceLocation devId position now =>
    exact deviceRows_setDeviceLocation env h position now f
  case purgePosition devId => exact deviceRows_execOne (Store.deviceRows_deleteFrom h .position) f
  case touch devId now => exact deviceRows_execOne (Store.deviceRows_touch h now) f
  case deleteDevice devId => exact deviceRows_deleteTables h f 0 deviceTables s
  case purgeCommands devId =>
    exact deviceRows_execOne (Store.deviceRows_deleteFrom h .pendingCommands) f
  case getNonce key val now => simp only [getNonce]; split_ifs <;> rfl
  case checkNonce nonce now => exact deviceRows_checkNonce env nonce now f

end Calls

/-! ### The serial ids stay fresh, whichever statements fail -/

section Ids

variable {s : Store}

theorem idsFresh_deleteTables (f : Faults) (devId : String) :
    ∀ (i : ℕ) (ts : List Table) {s : Store}, IdsFresh s → IdsFresh (deleteTables f devId i ts s).2
  | _, [], _, hs => hs
  | i, t :: ts, s, hs => by
    simp only [deleteTables]
    split_ifs
    · exact hs
    · exact idsFresh_deleteTables f devId (i + 1) ts (Store.idsFresh_deleteFrom hs t devId)

/-- **Every call keeps the serial ids distinct and below the sequence**, whichever of its
statements fail. -/
theorem idsFresh_exec (hs : IdsFresh s) (op : Op) (f : Faults) : IdsFresh (exec env s op f).2 := by
  cases hq : op.isQueueCall
  · obtain ⟨hp, hn⟩ := exec_pendingCommands_of_isQueueCall_eq_false env s op f hq
    exact ⟨hp ▸ hs.1, fun r hr => hn ▸ hs.2 r (hp ▸ hr)⟩
  cases op <;> simp only [Op.isQueueCall, Bool.false_eq_true] at hq <;> simp only [exec]
  case storeCommand devId command cType now =>
    simp only [storeCommand]
    split_ifs
    · exact hs
    · exact Store.idsFresh_updateCommand hs now command devId cType
    · exact Store.idsFresh_insertCommand (Store.idsFresh_updateCommand hs now command devId cType)
        devId now command cType
    · exact Store.idsFresh_updateCommand hs now command devId cType
  case getPending devId now =>
    simp only [getPending, touch, execOne]
    split_ifs <;> (try split) <;>
      first | exact hs | exact Store.idsFresh_deleteCommand hs _
  case purgeCommands devId =>
    simp only [purgeCommands, execOne]
    split_ifs
    · exact hs
    · exact Store.idsFresh_deleteFrom hs _ _
  case deleteDevice devId => exact idsFresh_deleteTables f devId 0 deviceTables hs

theorem idsFresh_runF : ∀ (calls : List (Op × Faults)) {s : Store}, IdsFresh s →
    IdsFresh (runF env s calls).2
  | [], _, hs => hs
  | (op, f) :: calls, _, hs => idsFresh_runF calls (idsFresh_exec env hs op f)

end Ids

/-! ### What the reads of another device report -/

/-- The four reads of a device report the same on two databases that hold the same rows of
it. -/
theorem reads_eq_of_deviceRows {s t : Store} {d : String} (h : s.deviceRows d = t.deviceRows d)
    (g : Faults) (now : ℕ) :
    (getDeviceInfo s d g).1 = (getDeviceInfo t d g).1 ∧
      (getUserFromDevice s d g).1 = (getUserFromDevice t d g).1 ∧
      (getPending s d now g).1 = (getPending t d now g).1 ∧
      (getPositions s d g).1 = (getPositions t d g).1 := by
  simp only [Store.deviceRows, Prod.mk.injEq] at h
  obtain ⟨hi, hu, hc, hp⟩ := h
  exact ⟨getDeviceInfo_fst_congr hu hi g, getUserFromDevice_fst_congr hu g,
    getPending_fst_congr hc now g, getPositions_fst_congr hp g⟩

/-- **A call leaves every device it may not change alone.**  In every state a run reaches from
the empty database, whichever statements failed on the way, a call, whichever of its statements
fail, keeps the rows of every device `d` it may not change, so `GetDeviceInfo(d)`,
`GetUserFromDevice(d)`, `GetPending(d)` and `GetPositions(d)` report what they reported before,
whichever of their own statements fail. -/
theorem exec_reads_other_device (calls : List (Op × Faults)) (op : Op) (f : Faults) (d : String)
    (h : op.mayChange d = false) (g : Faults) (now : ℕ) :
    let s := (runF env Store.empty calls).2
    (exec env s op f).2.deviceRows d = s.deviceRows d ∧
      (getDeviceInfo (exec env s op f).2 d g).1 = (getDeviceInfo s d g).1 ∧
      (getUserFromDevice (exec env s op f).2 d g).1 = (getUserFromDevice s d g).1 ∧
      (getPending (exec env s op f).2 d now g).1 = (getPending s d now g).1 ∧
      (getPositions (exec env s op f).2 d g).1 = (getPositions s d g).1 := by
  intro s
  have hrows := deviceRows_exec env (idsFresh_runF env calls idsFresh_empty) op f h
  exact ⟨hrows, reads_eq_of_deviceRows hrows g now⟩

/-- A command queued for `dev-1` leaves the command queued for `dev-2` and its position as they
were. -/
theorem exec_reads_other_device_store :
    let s := (runF Env.sample Store.empty [(.storeCommand "dev-2" "ring" "ring" 0, .none),
      (.setDeviceLocation "dev-2" ⟨⟨0⟩, ⟨0⟩, ⟨0⟩, ⟨0⟩, 0⟩ 0, .none)]).2
    let s' := (exec Env.sample s (.storeCommand "dev-1" "lock" "lock" 0) .none).2
    (Op.storeCommand "dev-1" "lock" "lock" 0).mayChange "dev-2" = false ∧
      (getPending s' "dev-2" 1 .none).1 = (getPending s "dev-2" 1 .none).1 ∧
      (getPositions s' "dev-2" .none).1 = (getPositions s "dev-2" .none).1 ∧
      (getPending s "dev-2" 1 .none).1 = .pending "ring" "ring" none ∧
      (getPositions s "dev-2" .none).1 = .positions [⟨⟨0⟩, ⟨0⟩, ⟨0⟩, ⟨0⟩, 0⟩] none :=
  have h := exec_reads_other_device Env.sample _ (.storeCommand "dev-1" "lock" "lock" 0) .none
    "dev-2" rfl .none 1
  ⟨rfl, h.2.2.2.1, h.2.2.2.2, rfl, rfl⟩

end PgStore

end FindMyDevice
