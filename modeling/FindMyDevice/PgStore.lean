/-
**`pgStore`: the Postgres implementation of the device store, method by method.**

Each public method of `pgStore` is translated here as a function of the store, its arguments, the
call's clock `now` and the outcomes of its statements, returning the method's Go results (or a
panic) and the store it leaves.  The translation keeps the control flow of the source, including
the places where it does not look at a statement's outcome: `CheckNonce` drops the errors of its
purge and its delete, `GetPending` those of its delete and its `Touch`, `SetDeviceLocation` that
of its purge.  A `Query` or `Prepare` that fails returns `nil`, and a method that then calls
`Close`, `Next` or `Exec` on it panics; the model returns `Reply.panic` with the store as it
stood, every earlier statement having been committed on its own.

Random draws (`GenUUID4` in `RegisterDevice` and `GetNonce`) are inputs of the call, like the
clock.  The methods form one operation type `FindMyDevice.Op`; `FindMyDevice.PgStore.exec` runs one
call and `FindMyDevice.PgStore.runF` a sequence of calls, one after the other, as the HTTP
handlers issue them.

Main definitions:

* `FindMyDevice.PgStore.genSig`, `getNonce`, `checkNonce` — the nonce store;
* `registerDevice`, `getDeviceInfo`, `getDevicesForUser`, `getUserFromDevice`, `setAccessToken`,
  `setDeviceLock`, `touch` — the device registry, with `lastExchangeOf`, the `float32` and `int32`
  conversions `GetDeviceInfo` applies to the time of the last exchange;
* `storeCommand`, `getPending`, `purgeCommands` — the command queue;
* `setDeviceLocation`, `getPositions`, `gcDatabase`, `purgePosition` — position tracking;
* `deleteDevice` — the cascading delete;
* `FindMyDevice.Op`, `FindMyDevice.PgStore.exec`, `FindMyDevice.PgStore.runF`,
  `FindMyDevice.PgStore.run` — calls, and sequential runs of them (with faults, and without).

Main results:

* `FindMyDevice.PgStore.run_append` — a run is the concatenation of its parts;
* `FindMyDevice.PgStore.mem_foldl_iff` — the rows present after a run, for a table whose rows each
  call keeps, drops or adds one by one.
-/

import FindMyDevice.GoStrings
import FindMyDevice.Tables

set_option relaxedAutoImplicit false
set_option autoImplicit false

namespace FindMyDevice

namespace PgStore

/-! ### The nonce store -/

/-- `genSig`: the checksum that ties a nonce's key to the value stored with it. -/
def genSig (env : Env) (key val : String) : String :=
  env.md5Hex (key ++ "." ++ val)

/-- `GetNonce()`, with the two `GenUUID4` draws `key` and `val` as inputs.  Statement 0 is the
insert. -/
def getNonce (env : Env) (s : Store) (key val : String) (now : ℕ) (f : Faults) : Reply × Store :=
  if f.fails 0 then (.nonce "" (some .db), s)
  else (.nonce (key ++ "." ++ genSig env key val) none, s.insertNonce key val now)

/-- `CheckNonce(nonce)`.  Statements: 0 the purge of expired nonces, 1 the lookup of the key,
2 its delete.  The outcomes of the purge and of the delete are not looked at; a failed lookup
leaves `rows` `nil`, and the deferred `rows.Close()` panics. -/
def checkNonce (env : Env) (s : Store) (nonce : String) (now : ℕ) (f : Faults) : Reply × Store :=
  let s := if f.fails 0 then s else s.gcNonces now
  match Go.splitN nonce "." 2 with
  | [key, sig] =>
    if f.fails 1 then (.panic, s)
    else
      match s.selectNonce key with
      | none => (.check false none, s)
      | some val =>
        (.check (decide (genSig env key val = sig)) none,
          if f.fails 2 then s else s.deleteNonce key)
  | _ => (.check false none, s)

/-! ### The device registry -/

/-- The id `RegisterDevice` files `dev` under: `dev.ID`, or the UUID `GenUUID4` draws when it is
empty. -/
def assignedId (dev : Device) (uuid : String) : String := if dev.id = "" then uuid else dev.id

/-- `RegisterDevice(userid, dev)`, with `uuid` the id `GenUUID4` draws when `dev` has none.
Statements: 0 the select of the user's mapping of the device, 1 the update of its info row,
2 the insert of an info row, 3 the insert of a mapping.  A failed select counts as "not mapped",
as the condition `err == nil && deviceId == dev.ID` does; the later statements are `Query`
calls whose `nil` rows the deferred `Close` dereferences when they fail. -/
def registerDevice (s : Store) (userid : String) (dev : Device) (uuid : String) (now : ℕ)
    (f : Faults) : Reply × Store :=
  let id := assignedId dev uuid
  if !f.fails 0 && s.mapsDevice userid id then
    if f.fails 1 then (.panic, s) else (.devId id none, s.updateDevice dev id now)
  else if f.fails 2 then (.panic, s)
  else
    let s := s.insertDevice dev id now
    if f.fails 3 then (.panic, s) else (.devId id none, s.insertMapping userid id now)

/-- `n / d` rounded to the nearest whole number, ties to the even one. -/
def roundDiv (n d : ℕ) : ℕ :=
  if d < 2 * (n % d) ∨ (2 * (n % d) = d ∧ n / d % 2 = 1) then n / d + 1 else n / d

/-- `strconv.ParseFloat(s, 32)` of the decimal text `s` of a whole number `n`: `n` rounded to the
nearest `float32`, ties to even, whose significand has 24 bits.  (Past the range of `float32` the
result is infinite; every such value is out of the range of `int32` too.) -/
def parseFloat32 (n : ℕ) : ℕ :=
  if n < Nat.pow 2 24 then n
  else roundDiv n (Nat.pow 2 (Nat.log2 n + 1 - 24)) * Nat.pow 2 (Nat.log2 n + 1 - 24)

/-- `int32(x)` of a whole non-negative `x`: `x` when it fits.  Go leaves an out-of-range
conversion to the implementation; amd64 returns `math.MinInt32`. -/
def toInt32 (x : ℕ) : ℤ := if x < Nat.pow 2 31 then x else -(Nat.pow 2 31 : ℕ)

/-- The `LastExchange` `GetDeviceInfo` reports for a row whose `lastexchange` is `t`: the epoch
seconds parsed at `float32` precision, then converted to `int32`. -/
def lastExchangeOf (t : ℕ) : ℤ := toInt32 (parseFloat32 t)

/-- `GetDeviceInfo(devId)`.  Statements: 0 the `Prepare`, 1 the query of the joined row.
`LoggedIn` is read off a non-empty push URL, not off the stored flag, and `LastExchange` passes
through `float32` and `int32`. -/
def getDeviceInfo (s : Store) (devId : String) (f : Faults) : Reply × Store :=
  if f.fails 0 || f.fails 1 then (.device none (some .db), s)
  else
    match s.selectDeviceInfo devId with
    | none => (.device none (some .unknownDevice), s)
    | some (u, d) =>
      (.device (some ⟨d.deviceId, u.userId, d.hawkSecret, d.lockable, d.pushUrl ≠ "",
        lastExchangeOf d.lastExchange, d.pushUrl, d.accepts, d.accessToken⟩) none, s)

/-- `GetUserFromDevice(deviceId)`.  Statement 0 is the query; when it fails the code falls
through to `ErrUnknownDevice`, and the deferred `rows.Close()` panics on the `nil` rows. -/
def getUserFromDevice (s : Store) (deviceId : String) (f : Faults) : Reply × Store :=
  if f.fails 0 then (.panic, s)
  else
    match s.selectUser deviceId with
    | some r => (.user r.userId r.name none, s)
    | none => (.user "" "" (some .unknownDevice), s)

/-- `GetDevicesForUser(userId, oldUserId)`.  Statements: 0 the re-key of `oldUserId`'s mappings
to `userId`, made when `oldUserId` is non-empty and differs (if it fails, the listing is of
`oldUserId`); 1 the listing, whose failure the deferred `rows.Close()` turns into a panic. -/
def getDevicesForUser (env : Env) (s : Store) (userId oldUserId : String) (f : Faults) :
    Reply × Store :=
  let moved := oldUserId ≠ "" ∧ userId ≠ oldUserId
  let s := if moved ∧ f.fails 0 = false then s.rekeyUser userId oldUserId else s
  let uid := if moved ∧ f.fails 0 = true then oldUserId else userId
  if f.fails 1 then (.panic, s) else (.devices (s.selectDevices uid env.maxDevicesForUser) none, s)

/-- The methods made of one `Exec` whose error they return. -/
def execOne (s : Store) (stmt : Store → Store) (f : Faults) : Reply × Store :=
  if f.fails 0 then (.err (some .db), s) else (.err none, stmt s)

/-- `SetAccessToken(devId, token)`. -/
def setAccessToken (s : Store) (devId token : String) (now : ℕ) (f : Faults) : Reply × Store :=
  execOne s (·.updateAccessToken devId token now) f

/-- `SetDeviceLock(devId, state)`. -/
def setDeviceLock (s : Store) (devId : String) (state : Bool) (now : ℕ) (f : Faults) :
    Reply × Store :=
  execOne s (·.updateLock devId state now) f

/-- `Touch(devId)`. -/
def touch (s : Store) (devId : String) (now : ℕ) (f : Faults) : Reply × Store :=
  execOne s (·.touch devId now) f

/-! ### The command queue -/

/-- `StoreCommand(devId, command, cType)`.  Statements: 0 the update of the device's command of
that type, 1 the insert made when the update affected no row. -/
def storeCommand (s : Store) (devId command cType : String) (now : ℕ) (f : Faults) :
    Reply × Store :=
  if f.fails 0 then (.err (some .db), s)
  else
    let cnt := s.countCommands devId cType
    let s := s.updateCommand now command devId cType
    if cnt = 0 then
      if f.fails 1 then (.err (some .db), s)
      else (.err none, s.insertCommand devId now command cType)
    else (.err none, s)

/-- `GetPending(devId)`.  Statements: 0 the select of the oldest command, 1 its delete by id,
2 the update of `Touch(devId)`.  A failed select leaves `rows` `nil`, on which `rows.Next()`
panics; the outcomes of the delete and of the `Touch` are not looked at. -/
def getPending (s : Store) (devId : String) (now : ℕ) (f : Faults) : Reply × Store :=
  if f.fails 0 then (.panic, s)
  else
    match s.selectPending devId with
    | none => (.pending "" "" none, (touch s devId now ⟨fun i => f.fails (i + 2)⟩).2)
    | some r =>
      let s := if f.fails 1 then s else s.deleteCommand r.id
      (.pending r.cmd r.type none, (touch s devId now ⟨fun i => f.fails (i + 2)⟩).2)

/-- `RegisterDevice` with every statement succeeding. -/
theorem registerDevice_none (s : Store) (userid : String) (dev : Device) (uuid : String)
    (now : ℕ) :
    registerDevice s userid dev uuid now .none =
      if s.mapsDevice userid (assignedId dev uuid) then
        (.devId (assignedId dev uuid) none, s.updateDevice dev (assignedId dev uuid) now)
      else (.devId (assignedId dev uuid) none,
        (s.insertDevice dev (assignedId dev uuid) now).insertMapping userid (assignedId dev uuid)
          now) := by
  simp only [registerDevice, Faults.none_fails, Bool.not_false, Bool.true_and, Bool.false_eq_true,
    if_false]

/-- `GetDevicesForUser` with every statement succeeding. -/
theorem getDevicesForUser_none (env : Env) (s : Store) (userId oldUserId : String) :
    getDevicesForUser env s userId oldUserId .none =
      if oldUserId ≠ "" ∧ userId ≠ oldUserId then
        (.devices ((s.rekeyUser userId oldUserId).selectDevices userId env.maxDevicesForUser) none,
          s.rekeyUser userId oldUserId)
      else (.devices (s.selectDevices userId env.maxDevicesForUser) none, s) := by
  simp only [getDevicesForUser, Faults.none_fails, and_true, and_false, if_false,
    Bool.false_eq_true]
  split_ifs <;> rfl

/-- `StoreCommand` with every statement succeeding. -/
theorem storeCommand_none (s : Store) (devId command cType : String) (now : ℕ) :
    storeCommand s devId command cType now .none =
      (.err none, if s.countCommands devId cType = 0 then
        (s.updateCommand now command devId cType).insertCommand devId now command cType
        else s.updateCommand now command devId cType) := by
  simp only [storeCommand, Faults.none_fails, Bool.false_eq_true, if_false]
  split <;> rfl

/-- `GetPending` with every statement succeeding. -/
theorem getPending_none (s : Store) (devId : String) (now : ℕ) :
    getPending s devId now .none =
      match s.selectPending devId with
      | none => (.pending "" "" none, s.touch devId now)
      | some r => (.pending r.cmd r.type none, (s.deleteCommand r.id).touch devId now) := by
  cases hsel : s.selectPending devId <;>
    simp only [getPending, touch, execOne, hsel, Faults.none_fails, Bool.false_eq_true, if_false]

/-- `PurgeCommands(devId)`. -/
def purgeCommands (s : Store) (devId : String) (f : Faults) : Reply × Store :=
  execOne s (·.deleteFrom .pendingCommands devId) f

/-! ### Position tracking -/

/-- `PurgePosition(devId)`. -/
def purgePosition (s : Store) (devId : String) (f : Faults) : Reply × Store :=
  execOne s (·.deleteFrom .position devId) f

/-- The row `SetDeviceLocation(devId, position)` inserts at `now`: the time is the database's
clock, not `position.Time`, and the coordinates are narrowed to `float32`. -/
def locationRow (env : Env) (devId : String) (position : Position) (now : ℕ) : PositionRow :=
  ⟨devId, now, env.toFloat32 position.latitude, env.toFloat32 position.longitude,
    env.toFloat32 position.altitude, env.toFloat32 position.accuracy⟩

/-- `SetDeviceLocation(devId, position)`.  Statements: 0 the delete of `PurgePosition(devId)`,
whose error is dropped; 1 the `Prepare` of the insert (on failure `st` is `nil` and `st.Exec`
panics); 2 the insert of the new row. -/
def setDeviceLocation (env : Env) (s : Store) (devId : String) (position : Position) (now : ℕ)
    (f : Faults) : Reply × Store :=
  let s := (purgePosition s devId f).2
  if f.fails 1 then (.panic, s)
  else if f.fails 2 then (.err (some .db), s)
  else (.err none, s.insertPosition (locationRow env devId position now))

/-- `GetPositions(devId)`.  Statement 0 is the query; when it fails the code logs and returns,
and the deferred `rows.Close()` panics on the `nil` rows. -/
def getPositions (s : Store) (devId : String) (f : Faults) : Reply × Store :=
  if f.fails 0 then (.panic, s)
  else (.positions ((s.selectPosition devId).toList.map PositionRow.toPosition) none, s)

/-- `GcDatabase(devId, userId)`: the position rows of every device older than the expiry
window go.  Statements: 0 the `Prepare` (on failure `st.Exec` panics on `nil`), 1 the delete. -/
def gcDatabase (env : Env) (s : Store) (now : ℕ) (f : Faults) : Reply × Store :=
  if f.fails 0 then (.panic, s)
  else if f.fails 1 then (.err (some .db), s)
  else (.err none, s.gcPositions now env.defExpry)

/-! ### Deleting a device -/

/-- The tables `DeleteDevice` clears, in its order. -/
def deviceTables : List Table := [.pendingCommands, .position, .userToDeviceMap, .deviceInfo]

/-- `DeleteDevice`'s loop from its `i`-th table on: each delete is statement `i`, and the first
that fails ends the call with its error, the earlier deletes standing. -/
def deleteTables (f : Faults) (devId : String) : ℕ → List Table → Store → Reply × Store
  | _, [], s => (.err none, s)
  | i, t :: ts, s =>
    if f.fails i then (.err (some .db), s) else deleteTables f devId (i + 1) ts (s.deleteFrom t devId)

/-- `DeleteDevice(devId)`. -/
def deleteDevice (s : Store) (devId : String) (f : Faults) : Reply × Store :=
  deleteTables f devId 0 deviceTables s

end PgStore

/-! ### Calls and runs -/

/-- A call of a `pgStore` method, with its arguments, its clock and its random draws. -/
inductive Op
  | registerDevice (userid : String) (dev : Device) (uuid : String) (now : ℕ)
  | getDeviceInfo (devId : String)
  | getPositions (devId : String)
  | getPending (devId : String) (now : ℕ)
  | getUserFromDevice (deviceId : String)
  | getDevicesForUser (userId oldUserId : String)
  | storeCommand (devId command cType : String) (now : ℕ)
  | setAccessToken (devId token : String) (now : ℕ)
  | setDeviceLock (devId : String) (state : Bool) (now : ℕ)
  | setDeviceLocation (devId : String) (position : Position) (now : ℕ)
  | gcDatabase (devId userId : String) (now : ℕ)
  | purgePosition (devId : String)
  | touch (devId : String) (now : ℕ)
  | deleteDevice (devId : String)
  | purgeCommands (devId : String)
  | getNonce (key val : String) (now : ℕ)
  | checkNonce (nonce : String) (now : ℕ)
  deriving DecidableEq, Repr

namespace PgStore

/-- One call against the store. -/
def exec (env : Env) (s : Store) : Op → Faults → Reply × Store
  | .registerDevice userid dev uuid now => registerDevice s userid dev uuid now
  | .getDeviceInfo devId => getDeviceInfo s devId
  | .getPositions devId => getPositions s devId
  | .getPending devId now => getPending s devId now
  | .getUserFromDevice deviceId => getUserFromDevice s deviceId
  | .getDevicesForUser userId oldUserId => getDevicesForUser env s userId oldUserId
  | .storeCommand devId command cType now => storeCommand s devId command cType now
  | .setAccessToken devId token now => setAccessToken s devId token now
  | .setDeviceLock devId state now => setDeviceLock s devId state now
  | .setDeviceLocation devId position now => setDeviceLocation env s devId position now
  | .gcDatabase _ _ now => gcDatabase env s now
  | .purgePosition devId => purgePosition s devId
  | .touch devId now => touch s devId now
  | .deleteDevice devId => deleteDevice s devId
  | .purgeCommands devId => purgeCommands s devId
  | .getNonce key val now => getNonce env s key val now
  | .checkNonce nonce now => checkNonce env s nonce now

/-- A sequential run: the calls one after the other, each with the outcomes of its statements;
the replies in order, and the final store. -/
def runF (env : Env) : Store → List (Op × Faults) → List Reply × Store
  | s, [] => ([], s)
  | s, (op, f) :: calls =>
    let r := exec env s op f
    let rest := runF env r.2 calls
    (r.1 :: rest.1, rest.2)

/-- A run in which every statement succeeds. -/
def run (env : Env) (s : Store) (ops : List Op) : List Reply × Store :=
  runF env s (ops.map fun op => (op, Faults.none))

section Run

variable (env : Env)

@[simp] theorem run_nil (s : Store) : run env s [] = ([], s) := rfl

theorem run_cons (s : Store) (op : Op) (ops : List Op) :
    run env s (op :: ops) =
      ((exec env s op .none).1 :: (run env (exec env s op .none).2 ops).1,
        (run env (exec env s op .none).2 ops).2) := rfl

theorem run_append (s : Store) (l₁ l₂ : List Op) :
    run env s (l₁ ++ l₂) =
      ((run env s l₁).1 ++ (run env (run env s l₁).2 l₂).1, (run env (run env s l₁).2 l₂).2) := by
  induction l₁ generalizing s with
  | nil => rfl
  | cons op l₁ ih => simp only [List.cons_append, run_cons, ih, List.cons_append]

theorem run_snd_eq_foldl (s : Store) (ops : List Op) :
    (run env s ops).2 = ops.foldl (fun s op => (exec env s op .none).2) s := by
  induction ops generalizing s with
  | nil => rfl
  | cons op ops ih => rw [run_cons, ih]; rfl

theorem runF_snd_eq_foldl (s : Store) (calls : List (Op × Faults)) :
    (runF env s calls).2 = calls.foldl (fun s c => (exec env s c.1 c.2).2) s := by
  induction calls generalizing s with
  | nil => rfl
  | cons c calls ih => obtain ⟨op, f⟩ := c; exact ih _

end Run

/-! ### Rows over a run -/

section Lifecycle

variable {σ ι R : Type} (step : σ → ι → σ) (rows : σ → List R) (drops adds : ι → R → Prop)

/-- **The rows present after a run**: those present at its start that no call drops, and those
a call adds that no later call drops — for any table whose rows each call keeps, drops or adds
one by one. -/
theorem mem_foldl_iff
    (hstep : ∀ s i r, r ∈ rows (step s i) ↔ (r ∈ rows s ∧ ¬ drops i r) ∨ adds i r)
    (l : List ι) (s : σ) (r : R) :
    r ∈ rows (l.foldl step s) ↔
      (r ∈ rows s ∧ ∀ i ∈ l, ¬ drops i r) ∨
        ∃ a i b, l = a ++ i :: b ∧ adds i r ∧ ∀ j ∈ b, ¬ drops j r := by
  induction l generalizing s with
  | nil => simp
  | cons i l ih =>
      rw [List.foldl_cons, ih, hstep]
      constructor
      · rintro (⟨⟨hr, hd⟩ | ha, hl⟩ | ⟨a, j, b, rfl, ha, hb⟩)
        · exact .inl ⟨hr, List.forall_mem_cons.2 ⟨hd, hl⟩⟩
        · exact .inr ⟨[], i, l, rfl, ha, hl⟩
        · exact .inr ⟨i :: a, j, b, rfl, ha, hb⟩
      · rintro (⟨hr, hl⟩ | ⟨a, j, b, h, ha, hb⟩)
        · rw [List.forall_mem_cons] at hl
          exact .inl ⟨.inl ⟨hr, hl.1⟩, hl.2⟩
        · rcases List.cons_eq_append_iff.1 h with ⟨rfl, h'⟩ | ⟨a', rfl, h'⟩
          · obtain ⟨rfl, rfl⟩ := List.cons.inj h'
            exact .inl ⟨.inr ha, hb⟩
          · exact .inr ⟨a', j, b, h', ha, hb⟩

end Lifecycle

end PgStore

end FindMyDevice
