/-
**The device registry: one `deviceInfo` row and one owner per device, as long as no device is
registered under a second user.**

A device's record is split over two tables, `deviceInfo` for its state and `userToDeviceMap` for
its owner, and neither table has a key constraint.  `RegisterDevice(u, dev)` updates the device's
state when `u` already owns it and otherwise inserts a row into each table; `DeleteDevice` removes
the device's rows from both; the re-key of `GetDevicesForUser` and the updates of
`SetAccessToken`, `SetDeviceLock` and `Touch` change rows without touching their device ids.

So the two tables list the same device ids, each once, in every state reached from an empty
database, with one exception: a `RegisterDevice(u, dev)` for a device that another user owns
takes the insert branch and gives the device a second row in each table
(`FindMyDevice.PgStore.registerDevice_twice_duplicates`).  So does a `RegisterDevice(u, dev)` made
after a re-key has moved `u`'s devices to another user, for a device `u` owned before.

This module describes what each fault-free call does to the device ids of the two tables
(`FindMyDevice.Op.registryStep`), proves that the invariant `FindMyDevice.RegistryInv` holds along
every run whose registrations name devices no other user owns, and derives what `GetDeviceInfo`
and `GetDevicesForUser` answer in such states.

Main definitions:

* `FindMyDevice.Op.registryStep` — what a call does to the device ids of either table;
* `FindMyDevice.NoOtherOwner` — no user other than `u` owns the device;
* `FindMyDevice.RegistryInv` — the two tables list the same device ids, each once;
* `FindMyDevice.PgStore.RegistersOwnDevices` — every registration of a run names a device no
  other user owns when it is made.

Main results:

* `FindMyDevice.PgStore.registryInv_exec`, `FindMyDevice.PgStore.registryInv_run` — the invariant
  is kept;
* `FindMyDevice.PgStore.getDeviceInfo_after_registerDevice` — `GetDeviceInfo` reads back what a
  registration wrote, with its owner;
* `FindMyDevice.PgStore.getDevicesForUser_nodup` — a listing names each device once;
* `FindMyDevice.PgStore.registry_of_registers_own_devices` — **along every fault-free run whose
  registrations name devices no other user owns, each device has at most one row in each table,
  `GetDeviceInfo` reads back each registration, and no listing names a device twice**;
* `FindMyDevice.PgStore.getDeviceInfo_after_update` — **`GetDeviceInfo` reads back every
  `SetDeviceLock`, `SetAccessToken` and `Touch`**, in every state, whatever the tables hold.

The three updates rewrite every info row of their device and keep its id, so the row
`GetDeviceInfo` joins is the first one it joined before, rewritten: they need no invariant.
-/

import FindMyDevice.PgStore

set_option relaxedAutoImplicit false
set_option autoImplicit false

namespace FindMyDevice

/-! ### What a call does to the device ids -/

/-- What a fault-free call does to the device ids of `deviceInfo`, and equally to those of
`userToDeviceMap`, from the store `s`: `RegisterDevice` adds its device when its user does not
own it yet, `DeleteDevice` removes its device, and every other call keeps the ids. -/
def Op.registryStep (s : Store) : Op → List String → List String
  | .registerDevice userid dev uuid _ => fun ids =>
      if s.mapsDevice userid (PgStore.assignedId dev uuid) then ids
      else ids ++ [PgStore.assignedId dev uuid]
  | .deleteDevice devId => fun ids => ids.filter (· ≠ devId)
  | _ => fun ids => ids

/-- No user other than `userId` owns the device `deviceId`. -/
def NoOtherOwner (s : Store) (userId deviceId : String) : Prop :=
  ∀ r ∈ s.userToDeviceMap, r.deviceId = deviceId → r.userId = userId

/-- **The registry's invariant.** -/
structure RegistryInv (s : Store) : Prop where
  /-- The two tables list the same device ids. -/
  perm : List.Perm (s.deviceInfo.map (·.deviceId)) (s.userToDeviceMap.map (·.deviceId))
  /-- Each device has at most one owner. -/
  nodup : (s.userToDeviceMap.map (·.deviceId)).Nodup

theorem registryInv_empty : RegistryInv Store.empty := ⟨.nil, .nil⟩

theorem RegistryInv.nodup_info {s : Store} (hs : RegistryInv s) :
    (s.deviceInfo.map (·.deviceId)).Nodup :=
  hs.perm.nodup_iff.2 hs.nodup

/-- An update that keeps each row's key keeps the list of keys. -/
theorem map_key_map {α : Type} (key : α → String) (f : α → α) (hf : ∀ r, key (f r) = key r)
    (l : List α) : (l.map f).map key = l.map key := by
  rw [List.map_map]
  exact List.map_congr_left fun r _ => hf r

namespace PgStore

variable (env : Env)

/-! ### One call -/

theorem exec_deviceInfo_ids (s : Store) (op : Op) :
    (exec env s op .none).2.deviceInfo.map (·.deviceId) =
      op.registryStep s (s.deviceInfo.map (·.deviceId)) := by
  cases op
  case registerDevice userid dev uuid now =>
    simp only [exec, registerDevice, Op.registryStep, Faults.none_fails, Bool.not_false,
      Bool.true_and, Bool.false_eq_true, if_false]
    generalize assignedId dev uuid = id
    split
    · exact map_key_map _ _ (fun r => by split <;> rfl) _
    · simp [Store.insertDevice, Store.insertMapping]
  case setAccessToken | setDeviceLock | touch | getPending =>
    simp only [exec, setAccessToken, setDeviceLock, touch, getPending, execOne, Op.registryStep,
      Faults.none_fails, Bool.false_eq_true, if_false]
    (repeat' split) <;>
      exact map_key_map _ _ (fun r => by split <;> rfl) _
  case deleteDevice devId =>
    simp only [Op.registryStep, List.filter_map]
    rfl
  all_goals
    simp only [exec, getDeviceInfo, getPositions, getUserFromDevice, getDevicesForUser,
      storeCommand, setDeviceLocation, gcDatabase, purgePosition, purgeCommands, getNonce,
      checkNonce, execOne, Op.registryStep, Faults.none_fails, Bool.false_eq_true, Bool.or_self,
      if_false, and_false]
  all_goals (repeat' split) <;> rfl

theorem exec_userToDeviceMap_ids (s : Store) (op : Op) :
    (exec env s op .none).2.userToDeviceMap.map (·.deviceId) =
      op.registryStep s (s.userToDeviceMap.map (·.deviceId)) := by
  cases op
  case registerDevice userid dev uuid now =>
    simp only [exec, registerDevice, Op.registryStep, Faults.none_fails, Bool.not_false,
      Bool.true_and, Bool.false_eq_true, if_false]
    generalize assignedId dev uuid = id
    split
    · rfl
    · simp [Store.insertDevice, Store.insertMapping]
  case getDevicesForUser userId oldUserId =>
    simp only [exec, getDevicesForUser, Op.registryStep, Faults.none_fails, Bool.false_eq_true,
      if_false]
    split
    · exact map_key_map _ _ (fun r => by split <;> rfl) _
    · rfl
  case deleteDevice devId =>
    simp only [Op.registryStep, List.filter_map]
    rfl
  all_goals
    simp only [exec, getDeviceInfo, getPositions, getPending, getUserFromDevice, storeCommand,
      setAccessToken, setDeviceLock, setDeviceLocation, gcDatabase, purgePosition, touch,
      purgeCommands, getNonce, checkNonce, execOne, Op.registryStep, Faults.none_fails,
      Bool.false_eq_true, Bool.or_self, if_false]
  all_goals (repeat' split) <;> rfl

/-- A registration adds its device only when no user owns it. -/
theorem not_mem_of_registers {s : Store} {userid devId : String}
    (hown : NoOtherOwner s userid devId) (hmap : s.mapsDevice userid devId = false) :
    devId ∉ s.userToDeviceMap.map (·.deviceId) := by
  simp only [List.mem_map, not_exists, not_and]
  intro r hr hd
  have : s.mapsDevice userid devId = true :=
    List.any_eq_true.2 ⟨r, hr, by simp [hd, hown r hr hd]⟩
  simp [this] at hmap

/-- **Each fault-free call keeps the invariant**, a registration as long as no other user owns
its device. -/
theorem registryInv_exec {s : Store} (hs : RegistryInv s) (op : Op)
    (hown : ∀ userid dev uuid now, op = .registerDevice userid dev uuid now →
      NoOtherOwner s userid (assignedId dev uuid)) :
    RegistryInv (exec env s op .none).2 := by
  suffices h : List.Perm (op.registryStep s (s.deviceInfo.map (·.deviceId)))
      (op.registryStep s (s.userToDeviceMap.map (·.deviceId))) ∧
      (op.registryStep s (s.userToDeviceMap.map (·.deviceId))).Nodup by
    rw [← exec_deviceInfo_ids, ← exec_userToDeviceMap_ids] at h
    exact ⟨h.1, h.2⟩
  cases op
  case registerDevice userid dev uuid now =>
    simp only [Op.registryStep]
    split
    · exact ⟨hs.perm, hs.nodup⟩
    · next hmap =>
        refine ⟨hs.perm.append_right _, List.nodup_append.2 ⟨hs.nodup, List.nodup_singleton _, ?_⟩⟩
        exact List.disjoint_singleton.2
          (not_mem_of_registers (hown _ _ _ _ rfl) (Bool.eq_false_iff.2 hmap))
  case deleteDevice devId =>
    exact ⟨hs.perm.filter _, hs.nodup.filter _⟩
  all_goals exact ⟨hs.perm, hs.nodup⟩

/-! ### Runs -/

/-- Every `RegisterDevice(u, dev)` of the run `ops` from `s` names a device that no user other
than `u` owns when the call is made. -/
def RegistersOwnDevices (s : Store) (ops : List Op) : Prop :=
  ∀ a userid dev uuid now b, ops = a ++ .registerDevice userid dev uuid now :: b →
    NoOtherOwner (run env s a).2 userid (assignedId dev uuid)

theorem RegistersOwnDevices.head {s : Store} {op : Op} {ops : List Op}
    (h : RegistersOwnDevices env s (op :: ops)) :
    ∀ userid dev uuid now, op = .registerDevice userid dev uuid now →
      NoOtherOwner s userid (assignedId dev uuid) := by
  rintro userid dev uuid now rfl
  exact h [] userid dev uuid now ops rfl

theorem RegistersOwnDevices.tail {s : Store} {op : Op} {ops : List Op}
    (h : RegistersOwnDevices env s (op :: ops)) :
    RegistersOwnDevices env (exec env s op .none).2 ops := by
  rintro a userid dev uuid now b rfl
  exact h (op :: a) userid dev uuid now b rfl

theorem RegistersOwnDevices.of_append {s : Store} {a b : List Op}
    (h : RegistersOwnDevices env s (a ++ b)) : RegistersOwnDevices env s a := by
  rintro a' userid dev uuid now b' rfl
  exact h a' userid dev uuid now (b' ++ b) (by simp)

/-- **The invariant holds along every fault-free run whose registrations name devices no other
user owns.** -/
theorem registryInv_run {s : Store} (hs : RegistryInv s) (ops : List Op)
    (hown : RegistersOwnDevices env s ops) : RegistryInv (run env s ops).2 := by
  induction ops generalizing s with
  | nil => exact hs
  | cons op ops ih => exact ih (registryInv_exec env hs op hown.head) hown.tail

/-! ### What the reads answer -/

/-- With at most one row per key, `find?` of a row's key finds that row. -/
theorem find?_key_of_nodup {α : Type} (key : α → String) {l : List α} (hl : (l.map key).Nodup)
    {r : α} (hr : r ∈ l) : l.find? (key · = key r) = some r := by
  have hsome : (l.find? (key · = key r)).isSome := List.find?_isSome.2 ⟨r, hr, by simp⟩
  obtain ⟨r', hfind⟩ := Option.isSome_iff_exists.1 hsome
  have hkey := List.find?_some hfind
  simp only [decide_eq_true_eq] at hkey
  rw [hfind, List.inj_on_of_nodup_map hl (List.mem_of_find?_eq_some hfind) hr hkey]

/-- In a state of the invariant, `GetDeviceInfo` joins the device's only mapping with its only
info row. -/
theorem getDeviceInfo_of_mem {s : Store} (hs : RegistryInv s) {u : UserDeviceRow}
    {i : DeviceInfoRow} (hu : u ∈ s.userToDeviceMap) (hi : i ∈ s.deviceInfo)
    (hd : i.deviceId = u.deviceId) :
    (getDeviceInfo s u.deviceId .none).1 = .device (some ⟨i.deviceId, u.userId, i.hawkSecret,
      i.lockable, i.pushUrl ≠ "", lastExchangeOf i.lastExchange, i.pushUrl, i.accepts,
      i.accessToken⟩) none := by
  have hfu : s.userToDeviceMap.find? (·.deviceId = u.deviceId) = some u :=
    find?_key_of_nodup (·.deviceId) hs.nodup hu
  have hfi : s.deviceInfo.find? (·.deviceId = u.deviceId) = some i := by
    simpa [hd] using find?_key_of_nodup (·.deviceId) hs.nodup_info hi
  simp only [getDeviceInfo, Store.selectDeviceInfo, Faults.none_fails, Bool.or_false,
    Bool.false_eq_true, if_false, hfu, hfi]
  rfl

/-- **After a registration, `GetDeviceInfo` reads back the registered state and its owner**: the
device id the call returned, the user, and the secret, push URL, accepted commands and lock flag
just written. -/
theorem getDeviceInfo_after_registerDevice {s : Store} (hs : RegistryInv s)
    (userid : String) (dev : Device) (uuid : String) (now : ℕ)
    (hown : NoOtherOwner s userid (assignedId dev uuid)) :
    (exec env s (.registerDevice userid dev uuid now) .none).1 = .devId (assignedId dev uuid) none ∧
      ∃ D, (exec env (exec env s (.registerDevice userid dev uuid now) .none).2
          (.getDeviceInfo (assignedId dev uuid)) .none).1 = .device (some D) none ∧
        D.id = assignedId dev uuid ∧ D.user = userid ∧ D.secret = dev.secret ∧
        D.pushUrl = dev.pushUrl ∧ D.accepts = dev.accepts ∧ D.hasPasscode = dev.hasPasscode := by
  have hs' := registryInv_exec env hs (.registerDevice userid dev uuid now)
    (by rintro _ _ _ _ ⟨⟩; exact hown)
  revert hs'
  simp only [exec, registerDevice, Faults.none_fails, Bool.not_false, Bool.true_and,
    Bool.false_eq_true, if_false]
  generalize assignedId dev uuid = id at hown ⊢
  split
  · next hmap =>
      intro hs'
      obtain ⟨u, hu, hud⟩ := List.any_eq_true.1 hmap
      simp only [Bool.decide_and, Bool.and_eq_true, decide_eq_true_eq] at hud
      obtain ⟨i, hi, hid⟩ := List.mem_map.1 (hs.perm.symm.subset (List.mem_map_of_mem _ hu))
      have hi' := List.mem_map_of_mem (fun r => if r.deviceId = id then
        { r with lockable := dev.hasPasscode, loggedIn := dev.loggedIn, lastExchange := now,
                 hawkSecret := dev.secret, accepts := dev.accepts, pushUrl := dev.pushUrl }
        else r) hi
      simp only [hid, hud.2, if_true] at hi'
      refine ⟨rfl, _, hud.2 ▸ getDeviceInfo_of_mem hs' hu hi' hud.2.symm, ?_⟩
      simp [hud.1, hud.2]
  · intro hs'
    refine ⟨rfl, _, @getDeviceInfo_of_mem _ hs' ⟨userid, id, "", now⟩
      ⟨id, dev.hasPasscode, dev.loggedIn, now, dev.secret, dev.accepts, dev.pushUrl, ""⟩
      (by simp [Store.insertMapping]) (by simp [Store.insertMapping, Store.insertDevice]) rfl, ?_⟩
    simp

/-- A listing names the devices of the user's mappings, newest first, so with one mapping per
device it names each device once. -/
theorem selectDevices_nodup {s : Store} (hs : (s.userToDeviceMap.map (·.deviceId)).Nodup)
    (userId : String) (limit : ℕ) : ((s.selectDevices userId limit).map (·.id)).Nodup := by
  have hfilter : ((s.userToDeviceMap.filter (·.userId = userId)).map (·.deviceId)).Nodup :=
    hs.sublist ((List.filter_sublist _).map _)
  have hsorted := ((List.perm_insertionSort (fun a b : UserDeviceRow => b.date ≤ a.date)
    _).map (·.deviceId)).nodup_iff.2 hfilter
  simp only [Store.selectDevices, List.map_map]
  exact hsorted.sublist ((List.take_sublist _ _).map _)

/-- **In a state of the invariant, `GetDevicesForUser` names each device once**, with or without
a re-key. -/
theorem getDevicesForUser_nodup {s : Store} (hs : RegistryInv s) (userId oldUserId : String) :
    ∃ l, (exec env s (.getDevicesForUser userId oldUserId) .none).1 = .devices l none ∧
      (l.map (·.id)).Nodup := by
  have hs' := (registryInv_exec env hs (.getDevicesForUser userId oldUserId)
    (by rintro _ _ _ _ ⟨⟩)).nodup
  simp only [exec, getDevicesForUser, Faults.none_fails, Bool.false_eq_true, and_false,
    if_false, and_true] at hs' ⊢
  exact ⟨_, rfl, selectDevices_nodup hs' _ _⟩

/-- With at most one row per key, a key selects at most one row. -/
theorem length_filter_key_le_one {α : Type} (key : α → String) {l : List α}
    (hl : (l.map key).Nodup) (k : String) : (l.filter (key · = k)).length ≤ 1 := by
  have h := List.nodup_iff_count_le_one.1 hl k
  rw [List.count, List.countP_map, List.countP_eq_length_filter] at h
  convert h using 3

/-! ### Runs from an empty database -/

/-- The device the counterexample below registers twice. -/
def twiceRegistered : Device := ⟨"d", "", "s", false, false, 0, "", "", ""⟩

/-- **A device registered by a second user gets a second row in each table.**  `RegisterDevice`
looks only for a mapping of the device to the calling user; another user's mapping sends it
down the insert branch. -/
theorem registerDevice_twice_duplicates :
    ¬ ∃ env : Env, ∀ ops : List Op,
      (∀ op ∈ ops, ∃ userid dev uuid now, op = .registerDevice userid dev uuid now) →
      ∀ devId, ((run env Store.empty ops).2.deviceInfo.filter (·.deviceId = devId)).length ≤ 1 ∧
        ((run env Store.empty ops).2.userToDeviceMap.filter (·.deviceId = devId)).length ≤ 1 := by
  rintro ⟨env, h⟩
  have h₂ := h [.registerDevice "u1" twiceRegistered "" 0, .registerDevice "u2" twiceRegistered "" 1]
    (by simp) "d"
  exact absurd h₂.1 (by show ¬ 2 ≤ 1; decide)

/-- **The registry along a run whose registrations name devices no other user owns**: each device
has at most one `deviceInfo` row and at most one `userToDeviceMap` row; every registration
returns the device's id, and `GetDeviceInfo` called right after it reports that id, the
registering user as owner, and the secret, push URL, accepted commands and lock flag just
registered; and `GetDevicesForUser` never lists a device twice. -/
theorem registry_of_registers_own_devices (ops : List Op)
    (hown : RegistersOwnDevices env Store.empty ops) :
    (∀ devId, ((run env Store.empty ops).2.deviceInfo.filter (·.deviceId = devId)).length ≤ 1 ∧
      ((run env Store.empty ops).2.userToDeviceMap.filter (·.deviceId = devId)).length ≤ 1) ∧
    (∀ a userid dev uuid now b, ops = a ++ .registerDevice userid dev uuid now :: b →
      (exec env (run env Store.empty a).2 (.registerDevice userid dev uuid now) .none).1 =
          .devId (assignedId dev uuid) none ∧
        ∃ D, (exec env (exec env (run env Store.empty a).2 (.registerDevice userid dev uuid now)
            .none).2 (.getDeviceInfo (assignedId dev uuid)) .none).1 = .device (some D) none ∧
          D.id = assignedId dev uuid ∧ D.user = userid ∧ D.secret = dev.secret ∧
          D.pushUrl = dev.pushUrl ∧ D.accepts = dev.accepts ∧ D.hasPasscode = dev.hasPasscode) ∧
    ∀ userId oldUserId, ∃ l,
      (exec env (run env Store.empty ops).2 (.getDevicesForUser userId oldUserId) .none).1 =
        .devices l none ∧ (l.map (·.id)).Nodup := by
  have hinv := registryInv_run env registryInv_empty ops hown
  refine ⟨fun devId => ⟨length_filter_key_le_one _ hinv.nodup_info devId,
    length_filter_key_le_one _ hinv.nodup devId⟩, ?_, getDevicesForUser_nodup env hinv⟩
  rintro a userid dev uuid now b rfl
  exact getDeviceInfo_after_registerDevice env
    (registryInv_run env registryInv_empty a (hown.of_append env)) userid dev uuid now
    (hown a userid dev uuid now b rfl)

/-- User `u` registers device `d`, then registers it again with a new secret: the second call
finds its own mapping and takes the update branch, `GetDeviceInfo` reads the new secret back, and
the device keeps one row in each table and is listed once. -/
theorem registry_reregistration :
    let ops := [Op.registerDevice "u" twiceRegistered "" 0,
      .registerDevice "u" { twiceRegistered with secret := "s2" } "" 1]
    RegistersOwnDevices Env.sample Store.empty ops ∧
      ((run Env.sample Store.empty ops).2.deviceInfo.filter (·.deviceId = "d")).length ≤ 1 ∧
      ((run Env.sample Store.empty ops).2.userToDeviceMap.filter (·.deviceId = "d")).length ≤ 1 ∧
      (exec Env.sample (run Env.sample Store.empty [.registerDevice "u" twiceRegistered "" 0]).2
          (.registerDevice "u" { twiceRegistered with secret := "s2" } "" 1) .none).1 =
        .devId "d" none ∧
      (∃ D, (exec Env.sample (exec Env.sample (run Env.sample Store.empty
          [.registerDevice "u" twiceRegistered "" 0]).2
          (.registerDevice "u" { twiceRegistered with secret := "s2" } "" 1) .none).2
          (.getDeviceInfo "d") .none).1 = .device (some D) none ∧
        D.id = "d" ∧ D.user = "u" ∧ D.secret = "s2" ∧ D.pushUrl = "" ∧ D.accepts = "" ∧
        D.hasPasscode = false) ∧
      ∃ l, (exec Env.sample (run Env.sample Store.empty ops).2 (.getDevicesForUser "u" "")
          .none).1 = .devices l none ∧ (l.map (·.id)).Nodup :=
  have hown : RegistersOwnDevices Env.sample Store.empty [.registerDevice "u" twiceRegistered "" 0,
      .registerDevice "u" { twiceRegistered with secret := "s2" } "" 1] := by
    rintro (_ | ⟨x, _ | ⟨y, a⟩⟩) userid dev uuid now b h r hr
    · exact absurd hr (List.not_mem_nil r)
    · simp only [List.cons_append, List.nil_append, List.cons.injEq, Op.registerDevice.injEq] at h
      obtain ⟨rfl, ⟨rfl, rfl, rfl, rfl⟩, rfl⟩ := h
      revert r
      decide
    · simp at h
  have h := registry_of_registers_own_devices Env.sample _ hown
  ⟨hown, (h.1 "d").1, (h.1 "d").2,
    (h.2.1 [.registerDevice "u" twiceRegistered "" 0] _ _ _ _ [] rfl).1,
    (h.2.1 [.registerDevice "u" twiceRegistered "" 0] _ _ _ _ [] rfl).2, h.2.2 "u" ""⟩

end PgStore

/-! ### Updates of a device's state -/

/-- The reply of `GetDeviceInfo` with `F` applied to the device it reports. -/
def Reply.mapDevice (F : Device → Device) : Reply → Reply
  | .device d e => .device (d.map F) e
  | r => r

namespace PgStore

/-- An update of every info row of `devId` by `F`, which keeps the device id, updates the row
`GetDeviceInfo` joins the same way. -/
theorem selectDeviceInfo_map (s : Store) (devId : String) {F : DeviceInfoRow → DeviceInfoRow}
    (hF : ∀ r, (F r).deviceId = r.deviceId) :
    ({ s with deviceInfo := s.deviceInfo.map fun (r : DeviceInfoRow) =>
        if r.deviceId = devId then F r else r }).selectDeviceInfo devId =
      (s.selectDeviceInfo devId).map fun p => (p.1, F p.2) := by
  have hp : ((fun r : DeviceInfoRow => decide (r.deviceId = devId)) ∘
      fun r : DeviceInfoRow => if r.deviceId = devId then F r else r) =
        fun r => decide (r.deviceId = devId) := by
    funext r
    by_cases h : r.deviceId = devId <;> simp [h, hF]
  simp only [Store.selectDeviceInfo, List.find?_map, hp]
  cases s.userToDeviceMap.find? (·.deviceId = devId) with
  | none => rfl
  | some u =>
    cases hd : s.deviceInfo.find? (·.deviceId = devId) with
    | none => rfl
    | some d =>
      have hdev := List.find?_some hd
      simp only [decide_eq_true_eq] at hdev
      simp [hdev]

/-- So `GetDeviceInfo` reports the device it reported before, as `G` changes it, whenever `G`
does to the device what `F` does to its row. -/
theorem getDeviceInfo_map (s : Store) (devId : String) {F : DeviceInfoRow → DeviceInfoRow}
    {G : Device → Device} (hF : ∀ r, (F r).deviceId = r.deviceId)
    (hG : ∀ (u : UserDeviceRow) (r : DeviceInfoRow),
      G ⟨r.deviceId, u.userId, r.hawkSecret, r.lockable, r.pushUrl ≠ "",
          lastExchangeOf r.lastExchange, r.pushUrl, r.accepts, r.accessToken⟩ =
        ⟨(F r).deviceId, u.userId, (F r).hawkSecret, (F r).lockable, (F r).pushUrl ≠ "",
          lastExchangeOf (F r).lastExchange, (F r).pushUrl, (F r).accepts, (F r).accessToken⟩)
    (g : Faults) :
    (getDeviceInfo { s with deviceInfo := s.deviceInfo.map fun (r : DeviceInfoRow) =>
        if r.deviceId = devId then F r else r } devId g).1 =
      (getDeviceInfo s devId g).1.mapDevice G := by
  simp only [getDeviceInfo]
  split_ifs
  · rfl
  · rw [selectDeviceInfo_map s devId hF]
    cases s.selectDeviceInfo devId with
    | none => rfl
    | some p => exact congrArg (fun D => Reply.device (some D) none) (hG p.1 p.2).symm

/-- **`GetDeviceInfo` reads back the updates of a device's state.**  For every database, device,
clock and outcomes of the statements: after `SetDeviceLock(devId, state)`, `SetAccessToken(devId,
token)` or `Touch(devId)`, `GetDeviceInfo(devId)` reports what it reported before, with the lock
flag and the token set and the last exchange at the update's clock, as `float32` and `int32` round
it (`lastExchangeOf`), when the update's statement succeeded, and unchanged when it failed; it
reports a device exactly when it did before. -/
theorem getDeviceInfo_after_update (s : Store) (devId : String) (now : ℕ) (f g : Faults) :
    (∀ state, (getDeviceInfo (setDeviceLock s devId state now f).2 devId g).1 =
      if f.fails 0 then (getDeviceInfo s devId g).1
      else (getDeviceInfo s devId g).1.mapDevice
        fun D => { D with hasPasscode := state, lastExchange := lastExchangeOf now }) ∧
    (∀ token, (getDeviceInfo (setAccessToken s devId token now f).2 devId g).1 =
      if f.fails 0 then (getDeviceInfo s devId g).1
      else (getDeviceInfo s devId g).1.mapDevice
        fun D => { D with lastExchange := lastExchangeOf now, accessToken := token }) ∧
    (getDeviceInfo (touch s devId now f).2 devId g).1 =
      if f.fails 0 then (getDeviceInfo s devId g).1
      else (getDeviceInfo s devId g).1.mapDevice
        fun D => { D with lastExchange := lastExchangeOf now } := by
  refine ⟨fun state => ?_, fun token => ?_, ?_⟩ <;> simp only [setDeviceLock, setAccessToken,
    touch, execOne] <;> split_ifs
  all_goals first
    | rfl
    | refine getDeviceInfo_map s devId (fun _ => ?_) (fun _ _ => ?_) g <;> rfl

end PgStore

end FindMyDevice
