/-
**The device store's tables, and the SQL statements `pgStore` runs on them.**

`pgStore` keeps the whole state of the service in five Postgres tables: `deviceInfo`,
`userToDeviceMap`, `pendingCommands`, `position` and `nonce`.  A table is modelled as the list of
its rows in the order Postgres scans them; every statement the Go code issues is a function on
the store that names its table, a `where` clause is a filter, and `order by time limit 1` is
`FindMyDevice.oldest`.  No table carries a uniqueness constraint: the schema comment in the source
calls `deviceId` an *index*, and the spec notes that the position table admits many rows per
device.  Whatever uniqueness the store enjoys must therefore be proved of the Go code, which is
what the modules built on this one do.

Outside the database the code reads a clock, two configuration values and an MD5 implementation;
these are gathered in `FindMyDevice.Env`.  The outcome of each statement (success, or an error
from the driver) is an input as well, `FindMyDevice.Faults`, so that a run may fail anywhere.

Main definitions:

* `FindMyDevice.Store` — the five tables and the sequence that numbers pending commands;
* `FindMyDevice.Env`, `FindMyDevice.Faults`, `FindMyDevice.Reply` — what a call reads besides the
  tables, which of its statements fail, and what it returns (or that it panics);
* `FindMyDevice.oldest` — `order by time limit 1`;
* the statements, `FindMyDevice.Store.gcNonces`, `FindMyDevice.Store.selectPending`,
  `FindMyDevice.Store.deleteFrom` and the rest, one per SQL text of the source.

Main results:

* `FindMyDevice.oldest_eq_none_iff`, `FindMyDevice.oldest_mem`, `FindMyDevice.oldest_le` — the row
  `limit 1` returns is a row of least time, and there is one whenever the selection is non-empty.
-/

import Mathlib.Data.List.Sort

set_option relaxedAutoImplicit false
set_option autoImplicit false

namespace FindMyDevice

/-! ### Records of the storage package -/

/-- A Go `float64`, by its IEEE-754 bits.  The store copies coordinates and never computes with
them. -/
structure Float64 where
  bits : UInt64
  deriving DecidableEq, Repr

/-- The storage package's `Device`, with the fields `pgStore` reads or writes; `LastExchange` is
an `int32`. -/
structure Device where
  id : String
  user : String
  secret : String
  hasPasscode : Bool
  loggedIn : Bool
  lastExchange : ℤ
  pushUrl : String
  accepts : String
  accessToken : String
  deriving DecidableEq, Repr

/-- The storage package's `Position`. -/
structure Position where
  latitude : Float64
  longitude : Float64
  altitude : Float64
  accuracy : Float64
  time : ℕ
  deriving DecidableEq, Repr

/-- An entry of a device listing, `DeviceList`. -/
structure DeviceList where
  id : String
  name : String
  deriving DecidableEq, Repr

/-! ### Rows and the store -/

/-- A row of `deviceInfo`. -/
structure DeviceInfoRow where
  deviceId : String
  lockable : Bool
  loggedIn : Bool
  lastExchange : ℕ
  hawkSecret : String
  accepts : String
  pushUrl : String
  accessToken : String
  deriving DecidableEq, Repr

/-- A row of `userToDeviceMap`. -/
structure UserDeviceRow where
  userId : String
  deviceId : String
  name : String
  date : ℕ
  deriving DecidableEq, Repr

/-- A row of `pendingCommands`; `id` is the serial key `GetPending` deletes by. -/
structure CommandRow where
  id : ℕ
  deviceId : String
  time : ℕ
  cmd : String
  type : String
  deriving DecidableEq, Repr

/-- A row of `position`, with the coordinates at the precision the table keeps. -/
structure PositionRow where
  deviceId : String
  time : ℕ
  latitude : Float64
  longitude : Float64
  altitude : Float64
  accuracy : Float64
  deriving DecidableEq, Repr

/-- What `GetPositions` reads back from a position row: the coordinates widened again to
`float64`, the time as epoch seconds. -/
def PositionRow.toPosition (r : PositionRow) : Position :=
  ⟨r.latitude, r.longitude, r.altitude, r.accuracy, r.time⟩

/-- A row of `nonce`. -/
structure NonceRow where
  key : String
  val : String
  time : ℕ
  deriving DecidableEq, Repr

/-- The database behind `pgStore`: its five tables, and the next value of the sequence that
numbers the rows of `pendingCommands`. -/
structure Store where
  deviceInfo : List DeviceInfoRow
  userToDeviceMap : List UserDeviceRow
  pendingCommands : List CommandRow
  position : List PositionRow
  nonce : List NonceRow
  nextId : ℕ
  deriving DecidableEq, Repr

/-- The store of a freshly created database. -/
def Store.empty : Store := ⟨[], [], [], [], [], 0⟩

/-! ### What a call reads, how it fails, what it returns -/

/-- What the store reads besides its tables. -/
structure Env where
  /-- `hex.EncodeToString(md5.Sum(...))` of a string, the checksum behind `genSig`. -/
  md5Hex : String → String
  /-- `float64(float32(x))`: the precision a coordinate keeps in the `position` table. -/
  toFloat32 : Float64 → Float64
  /-- `db.default_expry`: the age in seconds past which `GcDatabase` removes a position. -/
  defExpry : ℕ
  /-- `db.max_devices_for_user`: the `limit` of a device listing. -/
  maxDevicesForUser : ℕ

/-- The configuration defaults of `OpenPostgres` (an expiry of five days, one device per
listing), with the identity in place of MD5 and of the `float32` round trip: an environment in
which the model can be run on sample inputs. -/
def Env.sample : Env := ⟨id, id, 432000, 1⟩

/-- Which SQL statements of one call fail, numbered by their place in the function's source. -/
structure Faults where
  fails : ℕ → Bool

/-- A call in which every statement succeeds. -/
def Faults.none : Faults := ⟨fun _ => false⟩

@[simp] theorem Faults.none_fails (i : ℕ) : Faults.none.fails i = false := rfl

/-- The errors a store call returns. -/
inductive StoreError
  /-- an error from the database driver -/
  | db
  /-- `ErrUnknownDevice` -/
  | unknownDevice
  deriving DecidableEq, Repr

/-- What a `pgStore` method returns, by its Go signature; `panic` is a call that never returns
because it used the `nil` rows or statement of a failed `Query` or `Prepare`. -/
inductive Reply
  | err (e : Option StoreError)
  | devId (id : String) (e : Option StoreError)
  | device (d : Option Device) (e : Option StoreError)
  | positions (ps : List Position) (e : Option StoreError)
  | pending (cmd ctype : String) (e : Option StoreError)
  | user (userId name : String) (e : Option StoreError)
  | devices (ds : List DeviceList) (e : Option StoreError)
  | nonce (n : String) (e : Option StoreError)
  | check (ok : Bool) (e : Option StoreError)
  | panic
  deriving DecidableEq, Repr

/-! ### `order by time limit 1` -/

/-- `order by time limit 1`: a row of least `time`.  Postgres leaves the order of ties open;
the model returns the first of them in table order. -/
def oldest {α : Type} (time : α → ℕ) : List α → Option α
  | [] => none
  | r :: rs =>
    match oldest time rs with
    | none => some r
    | some r' => if time r' < time r then some r' else some r

section Oldest

variable {α : Type} (time : α → ℕ)

theorem oldest_eq_none_iff (l : List α) : oldest time l = none ↔ l = [] := by
  cases l with
  | nil => simp [oldest]
  | cons r rs =>
      simp only [oldest, reduceCtorEq, iff_false]
      split <;> [simp; split <;> simp]

theorem oldest_mem {l : List α} {r : α} (h : oldest time l = some r) : r ∈ l := by
  induction l with
  | nil => simp [oldest] at h
  | cons x xs ih =>
      simp only [oldest] at h
      split at h
      · cases h; exact List.mem_cons_self _ _
      · next r' hr' =>
          split at h <;> cases h
          · exact List.mem_cons_of_mem _ (ih hr')
          · exact List.mem_cons_self _ _

/-- The row `limit 1` returns has the least time of the selection. -/
theorem oldest_le {l : List α} {r : α} (h : oldest time l = some r) : ∀ x ∈ l, time r ≤ time x := by
  induction l generalizing r with
  | nil => simp [oldest] at h
  | cons x xs ih =>
      simp only [oldest] at h
      intro y hy
      split at h
      · next hn =>
          cases h
          rw [oldest_eq_none_iff] at hn
          subst hn
          simp at hy; subst hy; rfl
      · next r' hr' =>
          have hle := ih hr'
          rcases List.mem_cons.1 hy with rfl | hy
          · split at h <;> cases h <;> omega
          · have := hle y hy
            split at h <;> cases h <;> omega

end Oldest

/-! ### The statements on `nonce` -/

/-- How old, in seconds, a nonce may be before `CheckNonce` discards it: `interval '5 minutes'`. -/
def nonceWindow : ℕ := 300

namespace Store

/-- `insert into nonce (key, val, time) values ($1, $2, current_timestamp)`. -/
def insertNonce (s : Store) (key val : String) (now : ℕ) : Store :=
  { s with nonce := s.nonce ++ [⟨key, val, now⟩] }

/-- `delete from nonce where time < current_timestamp - interval '5 minutes'`. -/
def gcNonces (s : Store) (now : ℕ) : Store :=
  { s with nonce := s.nonce.filter fun r => ¬ r.time < now - nonceWindow }

/-- `select val from nonce where key = $1 limit 1`. -/
def selectNonce (s : Store) (key : String) : Option String :=
  (s.nonce.find? (·.key = key)).map (·.val)

/-- `delete from nonce where key = $1`. -/
def deleteNonce (s : Store) (key : String) : Store :=
  { s with nonce := s.nonce.filter (·.key ≠ key) }

/-! ### The statements on `pendingCommands` -/

/-- The rows `update pendingCommands ... where deviceid=$3 and type=$4` affects. -/
def countCommands (s : Store) (devId cType : String) : ℕ :=
  (s.pendingCommands.filter fun r => r.deviceId = devId ∧ r.type = cType).length

/-- `update pendingCommands set time=$1, cmd=$2 where deviceid=$3 and type=$4`. -/
def updateCommand (s : Store) (now : ℕ) (command devId cType : String) : Store :=
  { s with pendingCommands := s.pendingCommands.map fun r =>
      if r.deviceId = devId ∧ r.type = cType then { r with time := now, cmd := command } else r }

/-- `insert into pendingCommands (deviceid, time, cmd, type) values ($1, $2, $3, $4)`, the `id`
drawn from the table's sequence. -/
def insertCommand (s : Store) (devId : String) (now : ℕ) (command cType : String) : Store :=
  { s with pendingCommands := s.pendingCommands ++ [⟨s.nextId, devId, now, command, cType⟩],
           nextId := s.nextId + 1 }

/-- `select id, cmd, type, time from pendingCommands where deviceId = $1 order by time limit 1`. -/
def selectPending (s : Store) (devId : String) : Option CommandRow :=
  oldest (·.time) (s.pendingCommands.filter (·.deviceId = devId))

/-- `delete from pendingCommands where id = $1`. -/
def deleteCommand (s : Store) (id : ℕ) : Store :=
  { s with pendingCommands := s.pendingCommands.filter (·.id ≠ id) }

/-! ### The statements on `deviceInfo` and `userToDeviceMap` -/

/-- `update deviceInfo set lastexchange = now() where deviceid = $1`. -/
def touch (s : Store) (devId : String) (now : ℕ) : Store :=
  { s with deviceInfo := s.deviceInfo.map fun r =>
      if r.deviceId = devId then { r with lastExchange := now } else r }

/-- `update deviceinfo set lockable=$1, loggedin=$2, lastExchange=$3, hawkSecret=$4, accepts=$5,
pushUrl=$6 where deviceid=$7`. -/
def updateDevice (s : Store) (dev : Device) (id : String) (now : ℕ) : Store :=
  { s with deviceInfo := s.deviceInfo.map fun r =>
      if r.deviceId = id then
        { r with lockable := dev.hasPasscode, loggedIn := dev.loggedIn, lastExchange := now,
                 hawkSecret := dev.secret, accepts := dev.accepts, pushUrl := dev.pushUrl }
      else r }

/-- `insert into deviceInfo (deviceId, lockable, loggedin, lastExchange, hawkSecret, accepts,
pushUrl) values (...)`; the access token column starts out `NULL`, read back as `""`. -/
def insertDevice (s : Store) (dev : Device) (id : String) (now : ℕ) : Store :=
  { s with deviceInfo := s.deviceInfo ++
      [⟨id, dev.hasPasscode, dev.loggedIn, now, dev.secret, dev.accepts, dev.pushUrl, ""⟩] }

/-- `update deviceInfo set accesstoken = $1, lastexchange = now() where deviceId = $2`. -/
def updateAccessToken (s : Store) (devId token : String) (now : ℕ) : Store :=
  { s with deviceInfo := s.deviceInfo.map fun r =>
      if r.deviceId = devId then { r with accessToken := token, lastExchange := now } else r }

/-- `update deviceInfo set lockable = $1, lastexchange = now() where deviceId = $2`. -/
def updateLock (s : Store) (devId : String) (state : Bool) (now : ℕ) : Store :=
  { s with deviceInfo := s.deviceInfo.map fun r =>
      if r.deviceId = devId then { r with lockable := state, lastExchange := now } else r }

/-- `select deviceid from userToDeviceMap where userId = $1 and deviceid = $2` finds a row. -/
def mapsDevice (s : Store) (userId deviceId : String) : Bool :=
  s.userToDeviceMap.any fun r => r.userId = userId ∧ r.deviceId = deviceId

/-- `insert into userToDeviceMap (userId, deviceId, name, date) values ($1, $2, '', now())`. -/
def insertMapping (s : Store) (userId deviceId : String) (now : ℕ) : Store :=
  { s with userToDeviceMap := s.userToDeviceMap ++ [⟨userId, deviceId, "", now⟩] }

/-- `update userToDeviceMap set userId = $1 where userId = $2`. -/
def rekeyUser (s : Store) (userId oldUserId : String) : Store :=
  { s with userToDeviceMap := s.userToDeviceMap.map fun r =>
      if r.userId = oldUserId then { r with userId := userId } else r }

/-- `select deviceId, coalesce(name, deviceId) from userToDeviceMap where userId = $1 order by
date desc limit $2`; the name column is never `NULL`, the code inserting `''`. -/
def selectDevices (s : Store) (userId : String) (limit : ℕ) : List DeviceList :=
  (((s.userToDeviceMap.filter (·.userId = userId)).insertionSort
      fun a b => b.date ≤ a.date).take limit).map fun r => ⟨r.deviceId, r.name⟩

/-- `select userId, name from userToDeviceMap where deviceId = $1 limit 1`. -/
def selectUser (s : Store) (deviceId : String) : Option UserDeviceRow :=
  s.userToDeviceMap.find? (·.deviceId = deviceId)

/-- The first row of `GetDeviceInfo`'s join of `userToDeviceMap` and `deviceInfo` on the
device: the first mapping of the device paired with its first info row. -/
def selectDeviceInfo (s : Store) (devId : String) : Option (UserDeviceRow × DeviceInfoRow) := do
  let u ← s.userToDeviceMap.find? (·.deviceId = devId)
  let d ← s.deviceInfo.find? (·.deviceId = devId)
  pure (u, d)

/-! ### The statements on `position` -/

/-- `insert into position (deviceId, time, latitude, longitude, altitude, accuracy) values
(...)`. -/
def insertPosition (s : Store) (row : PositionRow) : Store :=
  { s with position := s.position ++ [row] }

/-- `delete from position where time < (now() - interval '<defExpry> seconds')`. -/
def gcPositions (s : Store) (now defExpry : ℕ) : Store :=
  { s with position := s.position.filter fun r => ¬ r.time < now - defExpry }

/-- `select ... from position where deviceid=$1 order by time limit 1`. -/
def selectPosition (s : Store) (devId : String) : Option PositionRow :=
  oldest (·.time) (s.position.filter (·.deviceId = devId))

end Store

/-! ### Deleting a device's rows -/

/-- The tables keyed by device, in the order `DeleteDevice` clears them. -/
inductive Table
  | pendingCommands
  | position
  | userToDeviceMap
  | deviceInfo
  deriving DecidableEq, Repr

/-- `delete from <table> where deviceid=$1`. -/
def Store.deleteFrom (s : Store) : Table → String → Store
  | .pendingCommands, d => { s with pendingCommands := s.pendingCommands.filter (·.deviceId ≠ d) }
  | .position, d => { s with position := s.position.filter (·.deviceId ≠ d) }
  | .userToDeviceMap, d => { s with userToDeviceMap := s.userToDeviceMap.filter (·.deviceId ≠ d) }
  | .deviceInfo, d => { s with deviceInfo := s.deviceInfo.filter (·.deviceId ≠ d) }

end FindMyDevice
