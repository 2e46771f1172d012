/-
**Registering and deleting a device race at their statements.**

`RegisterDevice` and `DeleteDevice` are sequences of statements, each committed on its own:
`RegisterDevice` selects the user's mapping of the device, then updates the info row, or inserts
an info row and then a mapping; `DeleteDevice` deletes the rows of the device from four tables,
one after another.  `Interleaving` runs them at that grain.  Each call acts on what its select
saw, which another call may have changed since:

* a `DeleteDevice` of the device that runs between the two inserts of a `RegisterDevice` leaves
  the device mapped to its user with no info row: both calls return no error, `GetUserFromDevice`
  finds the user, and `GetDeviceInfo` reports the device unknown;
* two `RegisterDevice` calls of one user and one device both return its id; one after the other
  they give it one info row and one mapping, the second taking the update branch, while under
  every schedule that runs both selects before either insert both insert, and the device gets two
  of each.

Both races need a call that deletes or registers the device another call registers.  A call adds
the info rows and the mappings of the device it registers only, and removes those of the device
it deletes only, whichever statements fail.  So concurrent calls of which none deletes a device
that one registers keep an info row for every mapped device, under every schedule: a
registration between its two inserts holds the info row it put in, a delete past
`userToDeviceMap` holds its device unmapped, and no other call's statement can take either away
(`FindMyDevice.Thread.FitsRegistry`, `FindMyDevice.Thread.Apart`).  What the reads report follows
from every state such calls reach.

Main definitions:

* `FindMyDevice.Op.registers`, `FindMyDevice.Op.deletes`, `FindMyDevice.Thread.registers`,
  `FindMyDevice.Thread.deletes` — the device a call, or a call in flight, registers or deletes;
* `FindMyDevice.Thread.FitsRegistry` — what a call in flight holds about the registry;
* `FindMyDevice.Thread.Apart`, `FindMyDevice.PgStore.RegistryInv` — no call registers a device
  another deletes, and the invariant of a system of calls.

Main results:

* `FindMyDevice.PgStore.mem_infoIds_exec`, `FindMyDevice.PgStore.not_mem_mappedIds_exec` — a call
  removes no info row of a device it does not delete, and maps no device it does not register;
* `FindMyDevice.PgStore.interleave_register_delete_orphan` — **a delete between the two inserts
  of a registration leaves a mapping without an info row**;
* `FindMyDevice.PgStore.interleave_register_twice` — **two registrations of one device, one after
  the other, file it once, and racing, twice**;
* `FindMyDevice.PgStore.registryInv_stepAt` — one statement of any call keeps the invariant;
* `FindMyDevice.PgStore.interleave_apart_infoOfMapped`,
  `FindMyDevice.PgStore.interleave_mapped_devices_known` — **calls that delete no device another
  registers keep every mapped device's info row under every schedule, and the reads agree**.
-/

import FindMyDevice.RegistryIntegrity
import FindMyDevice.Interleaving

set_option relaxedAutoImplicit false
set_option autoImplicit false

namespace FindMyDevice

/-! ### What a call adds and removes -/

/-- The device a call registers: the id `RegisterDevice` files under. -/
def Op.registers : Op → Option String
  | .registerDevice _ dev uuid _ => some (PgStore.assignedId dev uuid)
  | _ => none

/-- The device a call deletes. -/
def Op.deletes : Op → Option String
  | .deleteDevice devId => some devId
  | _ => none

namespace Store

variable {s : Store}

theorem mem_infoIds_deleteFrom {x : String} (hx : x ∈ s.infoIds) {devId : String} (h : x ≠ devId)
    (t : Table) : x ∈ (s.deleteFrom t devId).infoIds := by
  cases t
  case deviceInfo =>
    obtain ⟨r, hr, rfl⟩ := List.mem_map.1 hx
    exact List.mem_map_of_mem _ (List.mem_filter.2 ⟨hr, decide_eq_true h⟩)
  all_goals exact hx

theorem mappedIds_deleteFrom_subset (t : Table) (devId : String) :
    (s.deleteFrom t devId).mappedIds ⊆ s.mappedIds := by
  cases t
  case userToDeviceMap => exact ((List.filter_sublist _).map _).subset
  all_goals exact fun _ h => h

@[simp] theorem infoIds_touch (devId : String) (now : ℕ) : (s.touch devId now).infoIds = s.infoIds :=
  infoIds_mapInfo fun _ => rfl

@[simp] theorem infoIds_updateAccessToken (devId token : String) (now : ℕ) :
    (s.updateAccessToken devId token now).infoIds = s.infoIds :=
  infoIds_mapInfo fun _ => rfl

@[simp] theorem infoIds_updateLock (devId : String) (state : Bool) (now : ℕ) :
    (s.updateLock devId state now).infoIds = s.infoIds :=
  infoIds_mapInfo fun _ => rfl

theorem not_mem_mappedIds_insertMapping {x : String} (hx : x ∉ s.mappedIds) {id : String}
    (h : id ≠ x) (userId : String) (now : ℕ) : x ∉ (s.insertMapping userId id now).mappedIds := by
  simp only [mappedIds, insertMapping, List.map_append, List.map_singleton, List.mem_append,
    List.mem_singleton, not_or]
  exact ⟨hx, Ne.symm h⟩

end Store

namespace PgStore

section Calls

variable (env : Env) {s : Store} {x : String}

theorem mem_infoIds_deleteTables {devId : String} (h : x ≠ devId) (f : Faults) :
    ∀ (i : ℕ) (ts : List Table) {s : Store}, x ∈ s.infoIds →
      x ∈ (deleteTables f devId i ts s).2.infoIds
  | _, [], _, hx => hx
  | i, t :: ts, s, hx => by
    simp only [deleteTables]
    split
    · exact hx
    · exact mem_infoIds_deleteTables h f (i + 1) ts (Store.mem_infoIds_deleteFrom hx h t)

theorem mappedIds_deleteTables_subset (f : Faults) (devId : String) :
    ∀ (i : ℕ) (ts : List Table) (s : Store), (deleteTables f devId i ts s).2.mappedIds ⊆ s.mappedIds
  | _, [], _ => List.Subset.refl _
  | i, t :: ts, s => by
    simp only [deleteTables]
    split
    · exact List.Subset.refl _
    · exact (mappedIds_deleteTables_subset f devId (i + 1) ts _).trans
        (Store.mappedIds_deleteFrom_subset t devId)

/-- **A call keeps the info rows of every device it does not delete**, whichever of its
statements fail. -/
theorem mem_infoIds_exec (hx : x ∈ s.infoIds) (op : Op) (f : Faults) (h : op.deletes ≠ some x) :
    x ∈ (exec env s op f).2.infoIds := by
  cases op
  case registerDevice userid dev uuid now =>
    simp only [exec, registerDevice]
    split_ifs <;> dsimp only
    · exact hx
    · rwa [Store.infoIds_updateDevice]
    · exact hx
    all_goals exact Store.infoIds_subset_insertDevice dev _ now hx
  case deleteDevice devId => exact mem_infoIds_deleteTables (fun he => h (congrArg some he.symm)) f 0 _ hx
  all_goals
    simp only [exec, getDeviceInfo, getPositions, getUserFromDevice, getDevicesForUser,
      storeCommand, setAccessToken, setDeviceLock, setDeviceLocation, gcDatabase, purgePosition,
      touch, purgeCommands, getNonce, checkNonce, getPending, execOne]
    (repeat' split) <;> first | exact hx | simpa using hx

/-- **A call maps no device it does not register**, whichever of its statements fail. -/
theorem not_mem_mappedIds_exec (hx : x ∉ s.mappedIds) (op : Op) (f : Faults)
    (h : op.registers ≠ some x) : x ∉ (exec env s op f).2.mappedIds := by
  cases op
  case registerDevice userid dev uuid now =>
    simp only [exec, registerDevice]
    split_ifs <;> dsimp only
    any_goals exact hx
    exact Store.not_mem_mappedIds_insertMapping hx (fun he => h (congrArg some he)) userid now
  case getDevicesForUser userId oldUserId =>
    simp only [exec, getDevicesForUser]
    split_ifs <;> first | exact hx | rwa [Store.mappedIds_rekeyUser]
  case deleteDevice devId => exact fun hm => hx (mappedIds_deleteTables_subset f devId 0 _ s hm)
  all_goals
    simp only [exec, getDeviceInfo, getPositions, getUserFromDevice, storeCommand, setAccessToken,
      setDeviceLock, setDeviceLocation, gcDatabase, purgePosition, touch, purgeCommands, getNonce,
      checkNonce, getPending, execOne]
    (repeat' split) <;> exact hx

end Calls

end PgStore


/-! ### What a call in flight holds -/

namespace Thread

variable (env : Env) {s : Store}

/-- The device a call in flight registers. -/
def registers : Thread → Option String
  | .call op => op.registers
  | .registerUpdate _ id _ | .registerInsert _ _ id _ | .registerMap _ id _ => some id
  | _ => none

/-- The device a call in flight deletes. -/
def deletes : Thread → Option String
  | .call op => op.deletes
  | .deleting devId _ => some devId
  | _ => none

/-- What a call in flight holds about the registry: a registration about to map its device has
put the device's info row in, and a delete, on a tail of `DeleteDevice`'s tables, has left its
device unmapped once past `userToDeviceMap`. -/
def FitsRegistry (s : Store) : Thread → Prop
  | .registerMap _ id _ => id ∈ s.infoIds
  | .deleting devId ts =>
    ts ∈ PgStore.deviceTables.tails ∧ (.userToDeviceMap ∉ ts → devId ∉ s.mappedIds)
  | _ => True

/-- No call in flight registers a device that one deletes. -/
def Apart (ts : List Thread) : Prop :=
  ∀ t ∈ ts, ∀ t' ∈ ts, ∀ d ∈ t.registers, t'.deletes ≠ some d

instance (ts : List Thread) : Decidable (Apart ts) :=
  inferInstanceAs (Decidable (∀ t ∈ ts, ∀ t' ∈ ts, ∀ d ∈ t.registers, t'.deletes ≠ some d))

theorem registers_step {t : Thread} {d : String} (h : (t.step env s).1.registers = some d) :
    t.registers = some d := by
  cases t
  case call op =>
    cases op
    case registerDevice userid dev uuid now => simp only [step] at h; split at h <;> exact h
    all_goals
      simp only [step, deleteNext, PgStore.deviceTables] at h
      (repeat' split at h) <;> simp [registers] at h
  case registerInsert userid dev id now => exact h
  all_goals
    simp only [step, deleteNext] at h
    (repeat' split at h) <;> simp [registers] at h

theorem deletes_step {t : Thread} {d : String} (h : (t.step env s).1.deletes = some d) :
    t.deletes = some d := by
  cases t
  case call op =>
    cases op
    case deleteDevice devId => exact h
    all_goals
      simp only [step] at h
      (repeat' split at h) <;> simp [deletes] at h
  case deleting devId ts =>
    cases ts with
    | nil => simp [step, deleteNext, deletes] at h
    | cons t ts => simp only [step, deleteNext] at h; split at h <;> simp_all [deletes]
  all_goals
    simp only [step] at h
    (repeat' split at h) <;> simp [deletes] at h

/-- A statement keeps every mapped device's info row, when its call fits the database. -/
theorem infoOfMapped_step (hs : s.InfoOfMapped) {t : Thread} (ht : t.FitsRegistry s) :
    (t.step env s).2.InfoOfMapped := by
  cases t
  case call op =>
    cases op
    case checkNonce nonce now => simp only [step]; split <;> exact hs
    case registerDevice userid dev uuid now => simp only [step]; split <;> exact hs
    case getDevicesForUser userId oldUserId =>
      simp only [step]
      split
      · exact Store.infoOfMapped_rekeyUser hs userId oldUserId
      · exact hs
    case storeCommand devId command cType now => simp only [step]; split <;> exact hs
    case getPending devId now => simp only [step]; split <;> exact hs
    case setDeviceLocation devId position now => exact hs
    case deleteDevice devId => exact Store.infoOfMapped_deleteFrom hs .pendingCommands devId nofun
    all_goals exact PgStore.infoOfMapped_exec env hs _ .none
  case checkSelect key sig => simp only [step]; split <;> exact hs
  case registerUpdate dev id now => exact Store.infoOfMapped_updateDevice hs dev id now
  case registerInsert userid dev id now => exact Store.infoOfMapped_insertDevice hs dev id now
  case registerMap userid id now => exact Store.infoOfMapped_insertMapping hs ht userid now
  case pendingTouch devId now cmd ctype => exact Store.infoOfMapped_touch hs devId now
  case deleting devId ts =>
    cases ts with
    | nil => exact hs
    | cons t ts =>
      obtain ⟨htails, hmap⟩ := ht
      refine Store.infoOfMapped_deleteFrom hs t devId fun h => hmap ?_
      subst h
      simp [PgStore.deviceTables] at htails
      simp [htails]
  all_goals exact hs

/-- The call that ran a statement fits the database it leaves. -/
theorem fits_step {t : Thread} (ht : t.FitsRegistry s) :
    (t.step env s).1.FitsRegistry (t.step env s).2 := by
  cases t
  case call op =>
    cases op
    case checkNonce nonce now => simp only [step]; split <;> trivial
    case registerDevice userid dev uuid now => simp only [step]; split <;> trivial
    case getDevicesForUser userId oldUserId => simp only [step]; split <;> trivial
    case storeCommand devId command cType now => simp only [step]; split <;> trivial
    case getPending devId now => simp only [step]; split <;> trivial
    case deleteDevice devId => exact ⟨by decide, fun h => absurd (by decide) h⟩
    all_goals trivial
  case checkSelect key sig => simp only [step]; split <;> trivial
  case registerInsert userid dev id now => exact Store.mem_infoIds_insertDevice dev id now
  case deleting devId ts =>
    cases ts with
    | nil => trivial
    | cons t ts =>
      obtain ⟨htails, hmap⟩ := ht
      simp [PgStore.deviceTables] at htails
      rcases htails with ⟨rfl, rfl⟩ | ⟨rfl, rfl⟩ | ⟨rfl, rfl⟩ | ⟨rfl, rfl⟩
      · exact ⟨by decide, fun h => absurd (by decide) h⟩
      · exact ⟨by decide, fun h => absurd (by decide) h⟩
      · exact ⟨by decide, fun _ => Store.not_mem_mappedIds_deleteFrom devId⟩
      · trivial
  all_goals trivial

/-- A statement keeps the info rows of every device its call does not delete. -/
theorem mem_infoIds_step {x : String} (hx : x ∈ s.infoIds) (t : Thread)
    (h : t.deletes ≠ some x) : x ∈ (t.step env s).2.infoIds := by
  cases t
  case call op =>
    cases op
    case checkNonce nonce now => simp only [step]; split <;> exact hx
    case registerDevice userid dev uuid now => simp only [step]; split <;> exact hx
    case getDevicesForUser userId oldUserId => simp only [step]; split <;> exact hx
    case storeCommand devId command cType now => simp only [step]; split <;> exact hx
    case getPending devId now => simp only [step]; split <;> exact hx
    case setDeviceLocation devId position now => exact hx
    case deleteDevice devId => exact hx
    all_goals exact PgStore.mem_infoIds_exec env hx _ .none h
  case checkSelect key sig => simp only [step]; split <;> exact hx
  case registerUpdate dev id now =>
    show x ∈ (s.updateDevice dev id now).infoIds
    rwa [Store.infoIds_updateDevice]
  case registerInsert userid dev id now => exact Store.infoIds_subset_insertDevice dev id now hx
  case pendingTouch devId now cmd ctype =>
    show x ∈ (s.touch devId now).infoIds
    rwa [Store.infoIds_touch]
  case deleting devId ts =>
    cases ts with
    | nil => exact hx
    | cons t ts => exact Store.mem_infoIds_deleteFrom hx (fun he => h (congrArg some he.symm)) t
  all_goals exact hx

/-- A statement maps no device its call does not register. -/
theorem not_mem_mappedIds_step {x : String} (hx : x ∉ s.mappedIds) (t : Thread)
    (h : t.registers ≠ some x) : x ∉ (t.step env s).2.mappedIds := by
  cases t
  case call op =>
    cases op
    case checkNonce nonce now => simp only [step]; split <;> exact hx
    case registerDevice userid dev uuid now => simp only [step]; split <;> exact hx
    case getDevicesForUser userId oldUserId =>
      simp only [step]
      split
      · show x ∉ (s.rekeyUser userId oldUserId).mappedIds
        rwa [Store.mappedIds_rekeyUser]
      · exact hx
    case storeCommand devId command cType now => simp only [step]; split <;> exact hx
    case getPending devId now => simp only [step]; split <;> exact hx
    case setDeviceLocation devId position now => exact hx
    case deleteDevice devId => exact hx
    all_goals exact PgStore.not_mem_mappedIds_exec env hx _ .none h
  case checkSelect key sig => simp only [step]; split <;> exact hx
  case registerMap userid id now =>
    exact Store.not_mem_mappedIds_insertMapping hx (fun he => h (congrArg some he)) userid now
  case deleting devId ts =>
    cases ts with
    | nil => exact hx
    | cons t ts => exact fun hm => hx (Store.mappedIds_deleteFrom_subset t devId hm)
  all_goals exact hx

/-- A statement of one call keeps what another call in flight holds, when neither registers a
device the other deletes. -/
theorem FitsRegistry.of_step {t t' : Thread} (h : t'.FitsRegistry s)
    (h₁ : ∀ d ∈ t'.registers, t.deletes ≠ some d) (h₂ : ∀ d ∈ t.registers, t'.deletes ≠ some d) :
    t'.FitsRegistry (t.step env s).2 := by
  cases t'
  case registerMap userid id now => exact mem_infoIds_step env h t (h₁ id rfl)
  case deleting devId ts =>
    exact ⟨h.1, fun hm => not_mem_mappedIds_step env (h.2 hm) t fun hr => h₂ devId hr rfl⟩
  all_goals trivial

theorem apart_set {ts : List Thread} (h : Apart ts) {i : ℕ} {t t' : Thread}
    (ht : ts[i]? = some t) (hr : ∀ d, t'.registers = some d → t.registers = some d)
    (hd : ∀ d, t'.deletes = some d → t.deletes = some d) : Apart (ts.set i t') := by
  have hmem := List.getElem?_mem ht
  intro a ha b hb d hra hdb
  rcases List.mem_or_eq_of_mem_set ha with ha | ha <;>
    rcases List.mem_or_eq_of_mem_set hb with hb | hb
  · exact h a ha b hb d hra hdb
  · exact h a ha t hmem d hra (hd d (hb ▸ hdb))
  · exact h t hmem b hb d (hr d (ha ▸ hra)) hdb
  · exact h t hmem t hmem d (hr d (ha ▸ hra)) (hd d (hb ▸ hdb))

end Thread

/-! ### Every schedule of calls apart -/

/-- A device that brings an id of its own. -/
def Device.sample : Device := ⟨"dev-1", "", "s3cr3t", false, false, 0, "", "", ""⟩

namespace PgStore

variable (env : Env)

/-- The invariant of a system of calls: every mapped device has an info row, every call in flight
fits the database, and no call registers a device that one deletes. -/
def RegistryInv (σ : Store × List Thread) : Prop :=
  σ.1.InfoOfMapped ∧ (∀ t ∈ σ.2, t.FitsRegistry σ.1) ∧ Thread.Apart σ.2

/-- **One statement of any call keeps the invariant.** -/
theorem registryInv_stepAt {σ : Store × List Thread} (hI : RegistryInv σ) (i : ℕ) :
    RegistryInv (stepAt env σ i) := by
  obtain ⟨s, ts⟩ := σ
  obtain ⟨hs, hfit, hA⟩ := hI
  simp only [stepAt]
  split
  · next t ht =>
    have hmem := List.getElem?_mem ht
    refine ⟨Thread.infoOfMapped_step env hs (hfit t hmem), fun t' ht' => ?_,
      Thread.apart_set hA ht (fun _ => Thread.registers_step env)
        (fun _ => Thread.deletes_step env)⟩
    rcases List.mem_or_eq_of_mem_set ht' with ht' | rfl
    · exact (hfit t' ht').of_step env (fun d hr => hA t' ht' t hmem d hr) (hA t hmem t' ht')
    · exact Thread.fits_step env (hfit t hmem)
  · exact ⟨hs, hfit, hA⟩

theorem registryInv_interleave : ∀ (sched : List ℕ) (σ : Store × List Thread), RegistryInv σ →
    RegistryInv (interleave env σ sched)
  | [], _, h => h
  | i :: sched, _, h => registryInv_interleave sched _ (registryInv_stepAt env h i)

/-- Calls that have not run a statement, from a state a run reaches, hold the invariant when
they are apart. -/
theorem registryInv_start (calls : List (Op × Faults)) (ops : List Op)
    (hA : Thread.Apart (ops.map .call)) :
    RegistryInv ((runF env Store.empty calls).2, ops.map .call) :=
  ⟨infoOfMapped_runF env calls Store.infoOfMapped_empty, fun t ht => by
    obtain ⟨op, -, rfl⟩ := List.mem_map.1 ht
    trivial, hA⟩

/-- **Calls apart keep every mapped device's info row.**  From every state a run reaches from the
empty database, whichever statements fail on the way, calls run concurrently statement by
statement under any schedule keep an info row for every mapped device, as long as no call deletes
a device that a call registers; so `GetDeviceInfo` finds every device that `GetUserFromDevice`
finds, with its user. -/
theorem interleave_apart_infoOfMapped (calls : List (Op × Faults)) (ops : List Op)
    (hA : Thread.Apart (ops.map .call)) (sched : List ℕ) :
    let s := (interleave env ((runF env Store.empty calls).2, ops.map .call) sched).1
    s.InfoOfMapped ∧ ∀ (d : String) (g : Faults) (u name : String),
      (getUserFromDevice s d g).1 = .user u name none →
        ∃ dev, (getDeviceInfo s d .none).1 = .device (some dev) none ∧ dev.id = d ∧
          dev.user = u := by
  intro s
  have hs : s.InfoOfMapped := (registryInv_interleave env sched _ (registryInv_start env calls ops hA)).1
  exact ⟨hs, fun d g u name h => getDeviceInfo_of_getUserFromDevice hs h⟩

/-- A registration of `dev-1` races the delete of `dev-2`, registered before, in the schedule of
the orphaning race: `dev-1` keeps its info row, and `GetDeviceInfo` finds it for its user. -/
theorem interleave_apart_infoOfMapped_other :
    Thread.Apart ([Op.registerDevice "u" Device.sample "" 0, .deleteDevice "dev-2"].map .call) ∧
      (getUserFromDevice (interleave Env.sample ((runF Env.sample Store.empty
        [(.registerDevice "u" { Device.sample with id := "dev-2" } "" 0, .none)]).2,
        [Op.registerDevice "u" Device.sample "" 0, .deleteDevice "dev-2"].map .call)
        [0, 0, 1, 1, 1, 1, 0]).1 "dev-1" .none).1 = .user "u" "" none ∧
      ∃ dev, (getDeviceInfo (interleave Env.sample ((runF Env.sample Store.empty
        [(.registerDevice "u" { Device.sample with id := "dev-2" } "" 0, .none)]).2,
        [Op.registerDevice "u" Device.sample "" 0, .deleteDevice "dev-2"].map .call)
        [0, 0, 1, 1, 1, 1, 0]).1 "dev-1" .none).1 = .device (some dev) none ∧ dev.id = "dev-1" ∧
        dev.user = "u" :=
  have hA : Thread.Apart ([Op.registerDevice "u" Device.sample "" 0, .deleteDevice "dev-2"].map
    .call) := by decide
  have hu : (getUserFromDevice (interleave Env.sample ((runF Env.sample Store.empty
      [(.registerDevice "u" { Device.sample with id := "dev-2" } "" 0, .none)]).2,
      [Op.registerDevice "u" Device.sample "" 0, .deleteDevice "dev-2"].map .call)
      [0, 0, 1, 1, 1, 1, 0]).1 "dev-1" .none).1 = .user "u" "" none := by decide
  ⟨hA, hu, (interleave_apart_infoOfMapped Env.sample _ _ hA _).2 "dev-1" .none "u" "" hu⟩

/-- **Every device a user is mapped to can be looked up.**  From every state a run reaches from
the empty database, whichever statements fail on the way, after calls of which none deletes a
device that one registers run concurrently statement by statement under any schedule, every
mapping names a device with an info row.  So when `GetUserFromDevice(d)` returns a user,
`GetDeviceInfo(d)` returns device `d` of that user, and every device a listing of
`GetDevicesForUser` names, `GetDeviceInfo` finds in the database the listing leaves. -/
theorem interleave_mapped_devices_known (calls : List (Op × Faults)) (ops : List Op)
    (hA : Thread.Apart (ops.map .call)) (sched : List ℕ) :
    let s := (interleave env ((runF env Store.empty calls).2, ops.map .call) sched).1
    s.InfoOfMapped ∧
      (∀ (d : String) (g : Faults) (u name : String),
        (getUserFromDevice s d g).1 = .user u name none →
          ∃ dev, (getDeviceInfo s d .none).1 = .device (some dev) none ∧ dev.id = d ∧
            dev.user = u) ∧
      (∀ (userId oldUserId : String) (f : Faults) (l : List DeviceList) (e : Option StoreError),
        (getDevicesForUser env s userId oldUserId f).1 = .devices l e → ∀ x ∈ l,
          ∃ dev, (getDeviceInfo (getDevicesForUser env s userId oldUserId f).2 x.id .none).1 =
            .device (some dev) none ∧ dev.id = x.id) := by
  intro s
  have hs : s.InfoOfMapped := (registryInv_interleave env sched _ (registryInv_start env calls ops hA)).1
  refine ⟨hs, fun d g u name h => getDeviceInfo_of_getUserFromDevice hs h,
    fun userId oldUserId f l e h x hx => ?_⟩
  obtain ⟨r, hr⟩ := find?_of_mem_getDevicesForUser env h hx
  obtain ⟨dev, hdev, hid, -⟩ :=
    getDeviceInfo_of_find? (infoOfMapped_exec env hs (.getDevicesForUser userId oldUserId) f) hr
  exact ⟨dev, hdev, hid⟩

/-- `dev-2` is registered while `dev-1`, registered before, is locked, and `dev-3` deleted:
`GetUserFromDevice` finds the user of `dev-2`, `GetDeviceInfo` finds `dev-2`, and it finds the
device that a listing of the user names. -/
theorem interleave_mapped_devices_known_register :
    let ops := [Op.registerDevice "u" { Device.sample with id := "dev-2" } "" 1,
      .setDeviceLock "dev-1" true 1, .deleteDevice "dev-3"]
    let s := (interleave Env.sample ((runF Env.sample Store.empty
      [(.registerDevice "u" Device.sample "" 0, .none)]).2, ops.map .call)
      [0, 1, 2, 0, 2, 2, 0, 2]).1
    Thread.Apart (ops.map .call) ∧ (getUserFromDevice s "dev-2" .none).1 = .user "u" "" none ∧
      (∃ dev, (getDeviceInfo s "dev-2" .none).1 = .device (some dev) none ∧ dev.id = "dev-2" ∧
        dev.user = "u") ∧
      (getDevicesForUser Env.sample s "u" "" .none).1 = .devices [⟨"dev-2", ""⟩] none ∧
      ∃ dev, (getDeviceInfo (getDevicesForUser Env.sample s "u" "" .none).2 "dev-2" .none).1 =
        .device (some dev) none ∧ dev.id = "dev-2" :=
  have hA : Thread.Apart ([Op.registerDevice "u" { Device.sample with id := "dev-2" } "" 1,
    .setDeviceLock "dev-1" true 1, .deleteDevice "dev-3"].map .call) := by decide
  have h := interleave_mapped_devices_known Env.sample [(.registerDevice "u" Device.sample "" 0, .none)]
    _ hA [0, 1, 2, 0, 2, 2, 0, 2]
  have hu : (getUserFromDevice (interleave Env.sample ((runF Env.sample Store.empty
      [(.registerDevice "u" Device.sample "" 0, .none)]).2,
      [Op.registerDevice "u" { Device.sample with id := "dev-2" } "" 1,
        .setDeviceLock "dev-1" true 1, .deleteDevice "dev-3"].map .call)
      [0, 1, 2, 0, 2, 2, 0, 2]).1 "dev-2" .none).1 = .user "u" "" none := by decide
  have hl : (getDevicesForUser Env.sample (interleave Env.sample ((runF Env.sample Store.empty
      [(.registerDevice "u" Device.sample "" 0, .none)]).2,
      [Op.registerDevice "u" { Device.sample with id := "dev-2" } "" 1,
        .setDeviceLock "dev-1" true 1, .deleteDevice "dev-3"].map .call)
      [0, 1, 2, 0, 2, 2, 0, 2]).1 "u" "" .none).1 = .devices [⟨"dev-2", ""⟩] none := by decide
  ⟨hA, hu, h.2.1 "dev-2" .none "u" "" hu, hl,
    h.2.2 "u" "" .none _ none hl ⟨"dev-2", ""⟩ (List.mem_singleton_self _)⟩

end PgStore

/-! ### The races -/

namespace Store

variable {s : Store} (dev : Device) (id : String) (now : ℕ)

theorem length_info_insertDevice :
    ((s.insertDevice dev id now).deviceRows id).1.length = (s.deviceRows id).1.length + 1 := by
  simp [deviceRows, insertDevice, List.filter_append]

theorem length_mapping_insertMapping (userId : String) :
    ((s.insertMapping userId id now).deviceRows id).2.1.length =
      (s.deviceRows id).2.1.length + 1 := by
  simp [deviceRows, insertMapping, List.filter_append]

/-- An update of `deviceInfo` keeps the number of info rows of every device. -/
theorem length_info_updateDevice (d : String) :
    ((s.updateDevice dev id now).deviceRows d).1.length = (s.deviceRows d).1.length := by
  simp only [deviceRows, updateDevice, List.filter_map, List.length_map]
  congr 2
  funext r
  simp only [Function.comp_apply]
  split <;> rfl

theorem mapsDevice_insertMapping (userId : String) :
    (s.insertMapping userId id now).mapsDevice userId id := by
  simp [mapsDevice, insertMapping]

end Store

namespace Thread

variable (env : Env) (userid : String) (dev : Device) (id : String) (now : ℕ)

/-- The path of a registration past a select that found no mapping: the insert of the info row,
the insert of the mapping, the return. -/
def insertPath : ℕ → Thread
  | 0 => .registerInsert userid dev id now
  | 1 => .registerMap userid id now
  | _ => .done (.devId id none)

theorem step_insertPath (s : Store) (a : ℕ) :
    (insertPath userid dev id now a).step env s = (insertPath userid dev id now (a + 1),
      if a = 0 then s.insertDevice dev id now else if a = 1 then s.insertMapping userid id now
      else s) := by
  rcases a with _ | _ | a <;> rfl

end Thread

namespace PgStore

variable (env : Env) (s : Store) (userid : String) (dev : Device) (uuid : String)

/-- The rows of a device in a table no longer hold it once the delete of the device ran. -/
theorem find?_filter_ne {α : Type} (key : α → String) (l : List α) (d : String) :
    (l.filter fun r => key r ≠ d).find? (fun r => key r = d) = none :=
  List.find?_eq_none.2 fun r hr => by simpa using (List.mem_filter.1 hr).2

/-- The rows the statements of a registration path leave for its device, counted. -/
theorem deviceRows_insertPath (now a : ℕ) (t : Store) :
    let t' := ((Thread.insertPath userid dev (assignedId dev uuid) now a).step env t).2
    (t'.deviceRows (assignedId dev uuid)).1.length + min a 1 =
        (t.deviceRows (assignedId dev uuid)).1.length + min (a + 1) 1 ∧
      (t'.deviceRows (assignedId dev uuid)).2.1.length + min (a - 1) 1 =
        (t.deviceRows (assignedId dev uuid)).2.1.length + min a 1 := by
  rw [Thread.step_insertPath]
  rcases a with _ | _ | a
  · exact ⟨congrArg (· + 0) (Store.length_info_insertDevice dev _ now), rfl⟩
  · exact ⟨rfl, congrArg (· + 0) (Store.length_mapping_insertMapping _ now userid)⟩
  · simp

/-- A registration run alone that finds no mapping inserts the info row and the mapping in its
first three statements. -/
theorem runAlone_register_insert (now : ℕ) (h : s.mapsDevice userid (assignedId dev uuid) = false)
    {n : ℕ} (hn : 3 ≤ n) :
    (Thread.call (.registerDevice userid dev uuid now)).runAlone env s n =
      (.done (.devId (assignedId dev uuid) none),
        (s.insertDevice dev (assignedId dev uuid) now).insertMapping userid (assignedId dev uuid)
          now) := by
  obtain ⟨k, rfl⟩ := Nat.exists_eq_add_of_le hn
  rw [Thread.runAlone_add_of_done env (r := .devId (assignedId dev uuid) none)
    (by simp [Thread.runAlone, Thread.step, h]) k]
  simp [Thread.runAlone, Thread.step, h]

/-- A registration run alone that finds the mapping updates the info row in its first two
statements. -/
theorem runAlone_register_update (now : ℕ) (h : s.mapsDevice userid (assignedId dev uuid) = true)
    {n : ℕ} (hn : 2 ≤ n) :
    (Thread.call (.registerDevice userid dev uuid now)).runAlone env s n =
      (.done (.devId (assignedId dev uuid) none), s.updateDevice dev (assignedId dev uuid) now) := by
  obtain ⟨k, rfl⟩ := Nat.exists_eq_add_of_le hn
  rw [Thread.runAlone_add_of_done env (r := .devId (assignedId dev uuid) none)
    (by simp [Thread.runAlone, Thread.step, h]) k]
  simp [Thread.runAlone, Thread.step, h]

/-- Of two calls, a stretch that never names the other of call `i` names no call besides `i`. -/
theorem others_done_of_count_eq_zero {p : List ℕ} {i : ℕ} (hi : i < 2) (hp : p.count (1 - i) = 0)
    (t₀ t₁ : Thread) : ∀ j ∈ p, j ≠ i → ∀ u, [t₀, t₁][j]? = some u → ∃ r, u = .done r := by
  intro j hj hji u hu
  have hj' : j ≠ 1 - i := fun he => List.count_eq_zero.1 hp (he ▸ hj)
  have hlt : j < 2 := (List.getElem?_eq_some_iff.1 hu).1
  omega

/-- Of two calls, once call `i` has returned, a stretch names no call besides the other one that
has not returned. -/
theorem others_done_of_set {i : ℕ} (hi : i < 2) (t₀ t₁ : Thread) (r : Reply) (q : List ℕ) :
    ∀ j ∈ q, j ≠ 1 - i → ∀ u, ([t₀, t₁].set i (.done r))[j]? = some u → ∃ r, u = .done r := by
  intro j _ hji u hu
  have hlt : j < 2 := by simpa using (List.getElem?_eq_some_iff.1 hu).1
  obtain rfl : j = i := by omega
  rw [List.getElem?_set_self (by simpa using hi)] at hu
  exact ⟨r, (Option.some.inj hu).symm⟩

/-- Two registrations of one device, one after the other, from a database in which the user does
not map it: the first inserts, the second finds its mapping and updates. -/
theorem interleave_register_serial (now now' : ℕ)
    (h : s.mapsDevice userid (assignedId dev uuid) = false) {i : ℕ} (hi : i < 2) (p q : List ℕ)
    (hp : p.count (1 - i) = 0) (hp' : 3 ≤ p.count i) (hq : 2 ≤ q.count (1 - i)) :
    let σ := interleave env (s, [.call (.registerDevice userid dev uuid now),
      .call (.registerDevice userid dev uuid now')]) (p ++ q)
    σ.2 = [.done (.devId (assignedId dev uuid) none), .done (.devId (assignedId dev uuid) none)] ∧
      (σ.1.deviceRows (assignedId dev uuid)).1.length =
        (s.deviceRows (assignedId dev uuid)).1.length + 1 ∧
      (σ.1.deviceRows (assignedId dev uuid)).2.1.length =
        (s.deviceRows (assignedId dev uuid)).2.1.length + 1 := by
  dsimp only
  have hcount : ∀ (m m' : ℕ), let t := ((s.insertDevice dev (assignedId dev uuid) m).insertMapping
      userid (assignedId dev uuid) m).updateDevice dev (assignedId dev uuid) m'
      (t.deviceRows (assignedId dev uuid)).1.length =
        (s.deviceRows (assignedId dev uuid)).1.length + 1 ∧
      (t.deviceRows (assignedId dev uuid)).2.1.length =
        (s.deviceRows (assignedId dev uuid)).2.1.length + 1 := fun m m' =>
    ⟨by rw [Store.length_info_updateDevice]; exact Store.length_info_insertDevice dev _ m,
      Store.length_mapping_insertMapping _ m userid⟩
  have hmaps := fun m => Store.mapsDevice_insertMapping (s := s.insertDevice dev (assignedId dev uuid) m)
    (assignedId dev uuid) m userid
  obtain rfl | rfl : i = 0 ∨ i = 1 := by omega
  · rw [interleave_append, interleave_alone env p s _ (.call (.registerDevice userid dev uuid now))
        rfl (others_done_of_count_eq_zero hi hp _ _), runAlone_register_insert env s _ _ _ now h hp',
      interleave_alone env q _ _ (.call (.registerDevice userid dev uuid now')) rfl
        (others_done_of_set hi _ _ _ q), runAlone_register_update env _ _ _ _ now' (hmaps now) hq]
    exact ⟨rfl, hcount now now'⟩
  · rw [interleave_append, interleave_alone env p s _ (.call (.registerDevice userid dev uuid now'))
        rfl (others_done_of_count_eq_zero hi hp _ _), runAlone_register_insert env s _ _ _ now' h hp',
      interleave_alone env q _ _ (.call (.registerDevice userid dev uuid now)) rfl
        (others_done_of_set hi _ _ _ q), runAlone_register_update env _ _ _ _ now (hmaps now') hq]
    exact ⟨rfl, hcount now' now⟩

/-- Two registrations of one device whose selects both run before either insert, from a database
in which the user does not map it, under every such schedule: a stretch `p` that runs the two
selects, then any stretch `q` that runs the rest of both.  Both insert. -/
theorem interleave_register_race (now now' : ℕ)
    (h : s.mapsDevice userid (assignedId dev uuid) = false) (p q : List ℕ) (hp₀ : p.count 0 = 1)
    (hp₁ : p.count 1 = 1) (hq₀ : 2 ≤ q.count 0) (hq₁ : 2 ≤ q.count 1) :
    let σ := interleave env (s, [.call (.registerDevice userid dev uuid now),
      .call (.registerDevice userid dev uuid now')]) (p ++ q)
    σ.2 = [.done (.devId (assignedId dev uuid) none), .done (.devId (assignedId dev uuid) none)] ∧
      (σ.1.deviceRows (assignedId dev uuid)).1.length =
        (s.deviceRows (assignedId dev uuid)).1.length + 2 ∧
      (σ.1.deviceRows (assignedId dev uuid)).2.1.length =
        (s.deviceRows (assignedId dev uuid)).2.1.length + 2 := by
  dsimp only
  have hselect : ∀ n, (Thread.call (.registerDevice userid dev uuid n)).step env s =
      (Thread.insertPath userid dev (assignedId dev uuid) n 0, s) := fun n => by
    simp only [Thread.step, h, Bool.false_eq_true, if_false]
    rfl
  -- the two selects see `s`, which neither changes
  obtain ⟨s₁, hs₁, hp⟩ := interleave_pair env (Q := fun _ _ s' => s' = s) (A := 1) (B := 1)
    (fun a => if a = 0 then .call (.registerDevice userid dev uuid now)
      else Thread.insertPath userid dev (assignedId dev uuid) now 0)
    (fun b => if b = 0 then .call (.registerDevice userid dev uuid now')
      else Thread.insertPath userid dev (assignedId dev uuid) now' 0)
    (fun a _ _ ha _ hs => by
      obtain rfl : a = 0 := by omega
      subst hs
      exact ⟨by simp [hselect], by simp [hselect]⟩)
    (fun _ b _ _ hb hs => by
      obtain rfl : b = 0 := by omega
      subst hs
      exact ⟨by simp [hselect], by simp [hselect]⟩)
    p 0 0 s (by omega) (by omega) rfl
  -- then each registration follows its path, and the rows of the device are counted
  obtain ⟨s₂, hs₂, hq⟩ := interleave_pair env
    (Q := fun a b s' => (s'.deviceRows (assignedId dev uuid)).1.length =
        (s.deviceRows (assignedId dev uuid)).1.length + min a 1 + min b 1 ∧
      (s'.deviceRows (assignedId dev uuid)).2.1.length =
        (s.deviceRows (assignedId dev uuid)).2.1.length + min (a - 1) 1 + min (b - 1) 1)
    (A := q.count 0) (B := q.count 1) (Thread.insertPath userid dev (assignedId dev uuid) now)
    (Thread.insertPath userid dev (assignedId dev uuid) now')
    (fun a _ s' _ _ hQ => by
      obtain ⟨h₁, h₂⟩ := deviceRows_insertPath env userid dev uuid now a s'
      refine ⟨by rw [Thread.step_insertPath], ?_, ?_⟩ <;> omega)
    (fun _ b s' _ _ hQ => by
      obtain ⟨h₁, h₂⟩ := deviceRows_insertPath env userid dev uuid now' b s'
      refine ⟨by rw [Thread.step_insertPath], ?_, ?_⟩ <;> omega)
    q 0 0 s₁ (by omega) (by omega) (by subst hs₁; simp)
  simp only [hp₀, hp₁, Nat.zero_add, if_true, if_false, one_ne_zero] at hp hq
  rw [interleave_append, hp, hq]
  obtain ⟨k₀, hk₀⟩ : ∃ k, q.count 0 = k + 2 := ⟨_, (Nat.sub_add_cancel hq₀).symm⟩
  obtain ⟨k₁, hk₁⟩ : ∃ k, q.count 1 = k + 2 := ⟨_, (Nat.sub_add_cancel hq₁).symm⟩
  rw [hk₀, hk₁] at hs₂ ⊢
  refine ⟨rfl, ?_, ?_⟩ <;> dsimp only <;> omega

/-- **A delete between the two inserts of a registration leaves a mapping without an info row.**
From every database in which user `userid` does not map the device yet, `RegisterDevice` runs its
select and its insert of the info row, then `DeleteDevice` of the device runs its four deletes and
returns, then `RegisterDevice` inserts its mapping: both calls return no error, and the device is
mapped to `userid` with no info row, so `GetUserFromDevice` returns `userid` and `GetDeviceInfo`
returns `ErrUnknownDevice`. -/
theorem interleave_register_delete_orphan (now : ℕ)
    (h : s.mapsDevice userid (assignedId dev uuid) = false) :
    let id := assignedId dev uuid
    let σ := interleave env (s, [.call (.registerDevice userid dev uuid now), .call (.deleteDevice id)])
      [0, 0, 1, 1, 1, 1, 0]
    σ.2 = [.done (.devId id none), .done (.err none)] ∧ ¬ σ.1.InfoOfMapped ∧
      (getUserFromDevice σ.1 id .none).1 = .user userid "" none ∧
      (getDeviceInfo σ.1 id .none).1 = .device none (some .unknownDevice) := by
  intro id σ
  have hσ : σ = (((((s.insertDevice dev id now).deleteFrom .pendingCommands id).deleteFrom
      .position id).deleteFrom .userToDeviceMap id).deleteFrom .deviceInfo id |>.insertMapping
      userid id now, [.done (.devId id none), .done (.err none)]) := by
    simp [σ, interleave, stepAt, Thread.step, Thread.deleteNext, h, id, deviceTables]
  clear_value σ
  have hmap : σ.1.userToDeviceMap.find? (·.deviceId = id) = some ⟨userid, id, "", now⟩ := by
    simp [hσ, Store.insertMapping, Store.deleteFrom, List.find?_append, find?_filter_ne]
  have hinfo : σ.1.deviceInfo.find? (·.deviceId = id) = none := by
    simp [hσ, Store.insertMapping, Store.deleteFrom, find?_filter_ne]
  have hdev : (getDeviceInfo σ.1 id .none).1 = .device none (some .unknownDevice) := by
    simp only [getDeviceInfo, Store.selectDeviceInfo, hmap, hinfo, Faults.none_fails,
      Bool.or_false, Bool.false_eq_true, if_false, Option.bind_eq_bind, Option.some_bind,
      Option.none_bind]
  refine ⟨by rw [hσ], fun hI => ?_, ?_, hdev⟩
  · obtain ⟨dev', hdev', -⟩ := getDeviceInfo_of_find? hI hmap
    rw [hdev] at hdev'
    cases hdev'
  · simp only [getUserFromDevice, Store.selectUser, hmap, Faults.none_fails,
      Bool.false_eq_true, if_false]

theorem interleave_register_delete_orphan_sample :
    Store.empty.mapsDevice "u" (assignedId Device.sample "") = false ∧
      (getDeviceInfo (interleave Env.sample (Store.empty,
        [.call (.registerDevice "u" Device.sample "" 0),
          .call (.deleteDevice (assignedId Device.sample ""))])
        [0, 0, 1, 1, 1, 1, 0]).1 (assignedId Device.sample "") .none).1 =
        .device none (some .unknownDevice) :=
  ⟨rfl, (interleave_register_delete_orphan Env.sample Store.empty "u" Device.sample "" 0 rfl).2.2.2⟩

/-- **Two registrations of one device, one after the other, file it once, and racing, twice.**
From every database in which user `userid` does not map the device yet, two
`RegisterDevice(userid, dev)` calls both return the device's id with no error.  Under every
schedule that runs one of them to its end before the other starts, the second finds the mapping
the first inserted and updates the info row: the device gains one info row and one mapping.  Under
every schedule that runs both selects before either insert, both insert: the device gains two info
rows and two mappings. -/
theorem interleave_register_twice (now now' : ℕ)
    (h : s.mapsDevice userid (assignedId dev uuid) = false) :
    let id := assignedId dev uuid
    let ts := [Thread.call (.registerDevice userid dev uuid now),
      .call (.registerDevice userid dev uuid now')]
    (∀ i < 2, ∀ p q : List ℕ, p.count (1 - i) = 0 → 3 ≤ p.count i → 2 ≤ q.count (1 - i) →
      (interleave env (s, ts) (p ++ q)).2 = [.done (.devId id none), .done (.devId id none)] ∧
        ((interleave env (s, ts) (p ++ q)).1.deviceRows id).1.length =
          (s.deviceRows id).1.length + 1 ∧
        ((interleave env (s, ts) (p ++ q)).1.deviceRows id).2.1.length =
          (s.deviceRows id).2.1.length + 1) ∧
      ∀ p q : List ℕ, p.count 0 = 1 → p.count 1 = 1 → 2 ≤ q.count 0 → 2 ≤ q.count 1 →
        (interleave env (s, ts) (p ++ q)).2 = [.done (.devId id none), .done (.devId id none)] ∧
          ((interleave env (s, ts) (p ++ q)).1.deviceRows id).1.length =
            (s.deviceRows id).1.length + 2 ∧
          ((interleave env (s, ts) (p ++ q)).1.deviceRows id).2.1.length =
            (s.deviceRows id).2.1.length + 2 :=
  ⟨fun _ hi p q hp hp' hq => interleave_register_serial env s userid dev uuid now now' h hi p q hp hp' hq,
    fun p q hp₀ hp₁ hq₀ hq₁ =>
      interleave_register_race env s userid dev uuid now now' h p q hp₀ hp₁ hq₀ hq₁⟩

theorem interleave_register_twice_sample :
    Store.empty.mapsDevice "u" (assignedId Device.sample "") = false ∧
      [1, 1, 1].count (1 - 1) = 0 ∧ 3 ≤ [1, 1, 1].count 1 ∧ 2 ≤ [0, 0].count (1 - 1) ∧
      ((interleave Env.sample (Store.empty, [.call (.registerDevice "u" Device.sample "" 0),
        .call (.registerDevice "u" Device.sample "" 1)]) ([1, 1, 1] ++ [0, 0])).1.deviceRows
        (assignedId Device.sample "")).1.length = 1 ∧
      [0, 1].count 0 = 1 ∧ [0, 1].count 1 = 1 ∧ 2 ≤ [0, 1, 1, 0].count 0 ∧
      2 ≤ [0, 1, 1, 0].count 1 ∧
      ((interleave Env.sample (Store.empty, [.call (.registerDevice "u" Device.sample "" 0),
        .call (.registerDevice "u" Device.sample "" 1)]) ([0, 1] ++ [0, 1, 1, 0])).1.deviceRows
        (assignedId Device.sample "")).1.length = 2 :=
  have h := interleave_register_twice Env.sample Store.empty "u" Device.sample "" 0 1 rfl
  ⟨rfl, rfl, by decide, by decide, (h.1 1 (by decide) [1, 1, 1] [0, 0] rfl (by decide) (by decide)).2.1,
    rfl, rfl, by decide, by decide,
    (h.2 [0, 1] [0, 1, 1, 0] rfl rfl (by decide) (by decide)).2.1⟩

end PgStore

end FindMyDevice
