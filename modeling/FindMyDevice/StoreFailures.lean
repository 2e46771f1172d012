/-
**What a failed statement does to a store call.**

`database/sql` hands back `nil` rows from a failed `Query` and a `nil` statement from a failed
`Prepare`.  Most `pgStore` methods defer `rows.Close()` before they look at the error, or call
`st.Exec` on the statement whatever `Prepare` returned, so a failure there ends in a `nil`
dereference, which the model records as the reply `panic`; others read a failed lookup as an
empty one and carry on.  Which statement does what is written in each method's docstring in
`FindMyDevice.PgStore`.

With every statement succeeding no call panics.  With one failing, a read as plain as
`GetPositions` panics, and `RegisterDevice` registers a device it already holds a second time and
reports success.

No method runs its statements in a transaction, so a call that fails after a write leaves that
write standing: `RegisterDevice` an info row with no mapping, `GetDevicesForUser` its re-key,
`SetDeviceLocation` the device without positions, `DeleteDevice` the device gone from the tables
it cleared first, `CheckNonce` its purge.  Every other failed call leaves the database as it was.

Main results:

* `FindMyDevice.PgStore.exec_none_ne_panic` — with every statement succeeding, no call panics;
* `FindMyDevice.PgStore.failed_query_crashes_or_is_ignored` — a `GetPositions` whose query fails
  panics, and a `RegisterDevice` whose lookup fails inserts the device again and returns `nil`;
* `FindMyDevice.PgStore.exec_failed_states` — **a failed call leaves the database as it was, or
  with what it wrote before the statement that failed** (`FindMyDevice.PgStore.failedStates`): no
  call runs in a transaction, and five of them can fail half-way.
-/

import FindMyDevice.PgStore

set_option relaxedAutoImplicit false
set_option autoImplicit false

namespace FindMyDevice

/-- Whether a reply reports failure: an error, or a panic. -/
def Reply.isFailure : Reply → Bool
  | .err e | .devId _ e | .device _ e | .positions _ e | .pending _ _ e | .user _ _ e
  | .devices _ e | .nonce _ e | .check _ e => e.isSome
  | .panic => true

/-- The outcome of a call whose first statement, and only that one, fails. -/
def Faults.first : Faults := ⟨fun i => i == 0⟩

/-- A phone as the registration handler passes it to `RegisterDevice`. -/
def phone : Device :=
  ⟨"dev-1", "user-1", "s3cr3t", true, true, 0, "https://push.example.com/dev-1", "l,r", ""⟩

namespace PgStore

/-- **With every statement succeeding, no call panics.** -/
theorem exec_none_ne_panic (env : Env) (s : Store) (op : Op) : (exec env s op .none).1 ≠ .panic := by
  cases op <;>
    simp only [exec, registerDevice, getDeviceInfo, getPositions, getPending, getUserFromDevice,
      getDevicesForUser, storeCommand, setAccessToken, setDeviceLock, setDeviceLocation,
      gcDatabase, purgePosition, touch, deleteDevice, deleteTables, deviceTables, purgeCommands,
      getNonce, checkNonce, execOne, Faults.none_fails, Bool.false_eq_true, Bool.or_self,
      Bool.not_false, Bool.true_and, if_false, and_false, ne_eq] <;>
    (repeat' split) <;> simp

/-- A `GetPositions` whose query fails panics on the deferred `rows.Close()`; and after `phone`
is registered, a second `RegisterDevice` of it whose lookup fails takes the device for a new one,
inserts a second info row for it and returns `nil`. -/
theorem failed_query_crashes_or_is_ignored :
    (getPositions Store.empty "dev-1" Faults.first).1 = .panic ∧
      (registerDevice (registerDevice Store.empty "user-1" phone "" 0 .none).2 "user-1" phone ""
        1 Faults.first).1 = .devId "dev-1" none ∧
      ((registerDevice (registerDevice Store.empty "user-1" phone "" 0 .none).2 "user-1" phone ""
        1 Faults.first).2.deviceInfo.filter (·.deviceId = "dev-1")).length = 2 := by
  decide

/-! ### What a failed call leaves -/

/-- The databases a failed call can leave, by what it wrote before the statement that failed:
`RegisterDevice` the info row of a new device, `GetDevicesForUser` its re-key, `SetDeviceLocation`
its purge of the device's positions, `DeleteDevice` the deletes before the failing one, and
`CheckNonce` its purge of old nonces; any other call nothing. -/
def failedStates (s : Store) : Op → List Store
  | .registerDevice _ dev uuid now => [s, s.insertDevice dev (assignedId dev uuid) now]
  | .getDevicesForUser userId oldUserId => [s, s.rekeyUser userId oldUserId]
  | .setDeviceLocation devId _ _ => [s, s.deleteFrom .position devId]
  | .deleteDevice devId => (List.range deviceTables.length).map fun k =>
      (deviceTables.take k).foldl (fun s t => s.deleteFrom t devId) s
  | .checkNonce _ now => [s, s.gcNonces now]
  | _ => [s]

/-- An update that finds no row changes nothing. -/
theorem updateCommand_of_countCommands_eq_zero {s : Store} {devId cType : String}
    (h : s.countCommands devId cType = 0) (now : ℕ) (command : String) :
    s.updateCommand now command devId cType = s := by
  have hnone : ∀ r ∈ s.pendingCommands, ¬ (r.deviceId = devId ∧ r.type = cType) := by
    simpa [Store.countCommands, List.filter_eq_nil_iff] using h
  simp only [Store.updateCommand]
  rw [List.map_congr_left fun r hr => if_neg (hnone r hr), List.map_id']

/-- The loop of `DeleteDevice` fails with the deletes before the failing one done. -/
theorem deleteTables_isFailure (f : Faults) (devId : String) :
    ∀ (i : ℕ) (ts : List Table) (s : Store), (deleteTables f devId i ts s).1.isFailure = true →
      ∃ k < ts.length, (deleteTables f devId i ts s).2 =
        (ts.take k).foldl (fun s t => s.deleteFrom t devId) s
  | _, [], s, h => by simp [deleteTables, Reply.isFailure] at h
  | i, t :: ts, s, h => by
    simp only [deleteTables] at h ⊢
    split_ifs at h ⊢
    · exact ⟨0, by simp, rfl⟩
    · obtain ⟨k, hk, he⟩ := deleteTables_isFailure f devId (i + 1) ts _ h
      exact ⟨k + 1, by simpa using hk, by simpa using he⟩

/-- **A failed call leaves the database as it was, or with what it wrote before the statement that
failed.**  For every database, call and set of failing statements, a call whose reply carries an
error or panics leaves one of `failedStates`: the calls made of one statement, the reads and
`StoreCommand` write nothing, while `RegisterDevice` can leave a new device's info row without its
mapping, `GetDevicesForUser` its re-key, `SetDeviceLocation` the device without positions,
`DeleteDevice` the device gone from the tables before the failing delete, and `CheckNonce` its
purge. -/
theorem exec_failed_states (env : Env) (s : Store) (op : Op) (f : Faults)
    (h : (exec env s op f).1.isFailure = true) : (exec env s op f).2 ∈ failedStates s op := by
  cases op
  case deleteDevice devId =>
    obtain ⟨k, hk, he⟩ := deleteTables_isFailure f devId 0 deviceTables s h
    exact List.mem_map.2 ⟨k, List.mem_range.2 hk, he.symm⟩
  case storeCommand devId command cType now =>
    simp only [exec, storeCommand] at h ⊢
    split_ifs at h ⊢ with h0 hc h1 <;>
      simp_all [Reply.isFailure, failedStates, updateCommand_of_countCommands_eq_zero]
  all_goals
    revert h
    simp only [exec, registerDevice, getDeviceInfo, getPositions, getPending, getUserFromDevice,
      getDevicesForUser, setAccessToken, setDeviceLock, setDeviceLocation, gcDatabase,
      purgePosition, touch, purgeCommands, getNonce, checkNonce, execOne]
    repeat' split
    all_goals simp only [Reply.isFailure, failedStates, Option.isSome_none, Option.isSome_some,
      Bool.false_eq_true, false_implies, List.mem_cons, List.mem_singleton, true_or, or_true,
      implies_true]

end PgStore

end FindMyDevice
