/-
**Concurrent calls leave every device none of them is about alone.**

`FindMyDevice.DeviceIsolation` proves it of one call at a time.  Concurrently, the calls of
`Interleaving` run statement by statement, in any order, and a call in flight holds state between
its statements: `GetPending` holds the row its select returned until its delete by id, while
other calls insert, update and delete rows.  The delete removes the rows that carry
that id when it runs, so what keeps it on its device is that no row of another device ever takes
the id: rows keep their ids and devices when updated, and new rows take ids from the sequence,
which only grows (`FindMyDevice.Store.Grows`).

So the invariant of a system is: the serial ids are distinct and below the sequence, and every
row a `GetPending` in flight holds has an id below the sequence that only rows of its device
carry (`FindMyDevice.Thread.Fits`).  Every statement keeps it, and every statement of a call
that may not change device `d` keeps the rows of `d`.

Main definitions:

* `FindMyDevice.Store.Grows` — how the table of commands evolves under the statements;
* `FindMyDevice.Thread.mayChange`, `FindMyDevice.Thread.Fits` — the device a call in flight may
  still change, and what its held row satisfies.

Main results:

* `FindMyDevice.Thread.step_deviceRows` — one statement keeps the rows of every device its call
  may not change;
* `FindMyDevice.PgStore.sysInv_stepAt` — one statement of any thread keeps the invariant;
* `FindMyDevice.PgStore.interleave_reads_other_device` — **under every schedule, concurrent calls
  leave what the reads report about every device none of them may change as it was**.
-/

import FindMyDevice.DeviceIsolation
import FindMyDevice.Interleaving

set_option relaxedAutoImplicit false
set_option autoImplicit false

namespace FindMyDevice

/-! ### How the table of commands evolves -/

/-- The table of commands of `s'` evolves from that of `s` as the statements make it: the sequence
does not go back, and every row of `s'` carries the id and the device of a row of `s`, or an id
the sequence of `s` had not reached. -/
def Store.Grows (s s' : Store) : Prop :=
  s.nextId ≤ s'.nextId ∧ ∀ x ∈ s'.pendingCommands,
    (∃ y ∈ s.pendingCommands, y.id = x.id ∧ y.deviceId = x.deviceId) ∨ s.nextId ≤ x.id

namespace Store

variable {s s' s'' : Store}

theorem Grows.trans (h₁ : s.Grows s') (h₂ : s'.Grows s'') : s.Grows s'' := by
  refine ⟨h₁.1.trans h₂.1, fun x hx => ?_⟩
  rcases h₂.2 x hx with ⟨y, hy, hid, hdev⟩ | hle
  · rcases h₁.2 y hy with ⟨z, hz, hid', hdev'⟩ | hle
    · exact .inl ⟨z, hz, hid'.trans hid, hdev'.trans hdev⟩
    · exact .inr (hid ▸ hle)
  · exact .inr (h₁.1.trans hle)

/-- Keeping a sublist of the rows, with the sequence not going back. -/
theorem grows_of_sublist (hsub : List.Sublist s'.pendingCommands s.pendingCommands)
    (hn : s.nextId ≤ s'.nextId) : s.Grows s' :=
  ⟨hn, fun x hx => .inl ⟨x, hsub.subset hx, rfl, rfl⟩⟩

theorem grows_refl (s : Store) : s.Grows s := grows_of_sublist (List.Sublist.refl _) le_rfl

theorem grows_updateCommand (now : ℕ) (command devId cType : String) :
    s.Grows (s.updateCommand now command devId cType) := by
  refine ⟨le_rfl, fun x hx => ?_⟩
  obtain ⟨y, hy, rfl⟩ := List.mem_map.1 hx
  exact .inl ⟨y, hy, by split <;> rfl, by split <;> rfl⟩

theorem grows_insertCommand (devId : String) (now : ℕ) (command cType : String) :
    s.Grows (s.insertCommand devId now command cType) := by
  refine ⟨Nat.le_succ _, fun x hx => ?_⟩
  rcases List.mem_append.1 hx with hx | hx
  · exact .inl ⟨x, hx, rfl, rfl⟩
  · rw [List.mem_singleton.1 hx]
    exact .inr le_rfl

theorem grows_deleteFrom (t : Table) (devId : String) : s.Grows (s.deleteFrom t devId) := by
  cases t
  case pendingCommands => exact grows_of_sublist (List.filter_sublist _) le_rfl
  all_goals exact grows_refl s

end Store

/-! ### Calls in flight -/

namespace Thread

/-- Whether a call in flight may still change the rows of device `d`: as its call may, once it
has started, since each later statement is about the call's device. -/
def mayChange (d : String) : Thread → Bool
  | .call op => op.mayChange d
  | .checkSelect .. | .checkDelete .. | .devicesSelect _ | .done _ => false
  | .registerUpdate _ id _ | .registerInsert _ _ id _ | .registerMap _ id _ => id = d
  | .storeInsert devId .. | .pendingDelete devId .. | .pendingTouch devId .. => devId = d
  | .locationInsert devId .. | .deleting devId _ => devId = d

/-- What a call in flight holds about the database: the row a `GetPending` waits to delete has an
id below the sequence, and only rows of the call's device carry it. -/
def Fits (s : Store) : Thread → Prop
  | .pendingDelete devId _ r =>
    r.id < s.nextId ∧ ∀ x ∈ s.pendingCommands, x.id = r.id → x.deviceId = devId
  | _ => True

/-- What a held row satisfies survives every evolution of the table. -/
theorem Fits.of_grows {s s' : Store} {t : Thread} (ht : t.Fits s) (hg : s.Grows s') :
    t.Fits s' := by
  cases t
  case pendingDelete devId now r =>
    refine ⟨ht.1.trans_le hg.1, fun x hx hid => ?_⟩
    rcases hg.2 x hx with ⟨y, hy, hyid, hydev⟩ | hle
    · exact hydev ▸ ht.2 y hy (hyid.trans hid)
    · exact absurd ht.1 (not_lt.2 (hid ▸ hle))
  all_goals trivial

end Thread

/-! ### What one call does to the table of commands -/

namespace PgStore

variable (env : Env)

section Grows

variable {s : Store}

theorem grows_deleteTables (f : Faults) (devId : String) :
    ∀ (i : ℕ) (ts : List Table) (s : Store), s.Grows (deleteTables f devId i ts s).2
  | _, [], s => Store.grows_refl s
  | i, t :: ts, s => by
    simp only [deleteTables]
    split_ifs
    · exact Store.grows_refl s
    · exact (Store.grows_deleteFrom t devId).trans (grows_deleteTables f devId (i + 1) ts _)

/-- Every call, whichever of its statements fail, evolves the table of commands as the
statements do. -/
theorem grows_exec (op : Op) (f : Faults) : s.Grows (exec env s op f).2 := by
  cases hq : op.isQueueCall
  · obtain ⟨hp, hn⟩ := exec_pendingCommands_of_isQueueCall_eq_false env s op f hq
    exact ⟨hn.ge, fun x hx => .inl ⟨x, hp ▸ hx, rfl, rfl⟩⟩
  cases op <;> simp only [Op.isQueueCall, Bool.false_eq_true] at hq <;> simp only [exec]
  case storeCommand devId command cType now =>
    simp only [storeCommand]
    split_ifs
    · exact Store.grows_refl s
    · exact Store.grows_updateCommand now command devId cType
    · exact (Store.grows_updateCommand now command devId cType).trans
        (Store.grows_insertCommand devId now command cType)
    · exact Store.grows_updateCommand now command devId cType
  case getPending devId now =>
    simp only [getPending, touch, execOne]
    split_ifs <;> (try split) <;>
      first | exact Store.grows_refl s | exact Store.grows_of_sublist (List.filter_sublist _) le_rfl
  case purgeCommands devId =>
    simp only [purgeCommands, execOne]
    split_ifs
    · exact Store.grows_refl s
    · exact Store.grows_deleteFrom _ _
  case deleteDevice devId => exact grows_deleteTables f devId 0 deviceTables s

end Grows

end PgStore

/-! ### One statement -/

namespace Thread

variable (env : Env) {s : Store} {d : String}

/-- Every statement evolves the table of commands as `Grows` says. -/
theorem step_grows (s : Store) (t : Thread) : s.Grows (t.step env s).2 := by
  cases t
  case call op =>
    cases op
    case checkNonce nonce now => simp only [step]; split <;> exact Store.grows_refl s
    case registerDevice userid dev uuid now => simp only [step]; split <;> exact Store.grows_refl s
    case getDevicesForUser userId oldUserId =>
      simp only [step]; split <;> exact Store.grows_refl s
    case storeCommand devId command cType now =>
      simp only [step]; split <;> exact Store.grows_updateCommand now command devId cType
    case getPending devId now => simp only [step]; split <;> exact Store.grows_refl s
    case setDeviceLocation devId position now => exact Store.grows_deleteFrom .position devId
    case deleteDevice devId => exact Store.grows_deleteFrom .pendingCommands devId
    all_goals exact PgStore.grows_exec env _ .none
  case checkSelect key sig => simp only [step]; split <;> exact Store.grows_refl s
  case storeInsert devId command cType now =>
    exact Store.grows_insertCommand devId now command cType
  case pendingDelete devId now r => exact Store.grows_of_sublist (List.filter_sublist _) le_rfl
  case deleting devId ts =>
    cases ts with
    | nil => exact Store.grows_refl s
    | cons t ts => exact Store.grows_deleteFrom t devId
  all_goals exact Store.grows_refl s

/-- Every statement keeps the serial ids fresh. -/
theorem step_idsFresh (hs : IdsFresh s) (t : Thread) : IdsFresh (t.step env s).2 := by
  cases t
  case call op =>
    cases op
    case checkNonce nonce now => simp only [step]; split <;> exact hs
    case registerDevice userid dev uuid now => simp only [step]; split <;> exact hs
    case getDevicesForUser userId oldUserId => simp only [step]; split <;> exact hs
    case storeCommand devId command cType now =>
      simp only [step]; split <;> exact Store.idsFresh_updateCommand hs now command devId cType
    case getPending devId now => simp only [step]; split <;> exact hs
    case setDeviceLocation devId position now => exact Store.idsFresh_deleteFrom hs .position devId
    case deleteDevice devId => exact Store.idsFresh_deleteFrom hs .pendingCommands devId
    all_goals exact PgStore.idsFresh_exec env hs _ .none
  case checkSelect key sig => simp only [step]; split <;> exact hs
  case storeInsert devId command cType now =>
    exact Store.idsFresh_insertCommand hs devId now command cType
  case pendingDelete devId now r => exact Store.idsFresh_deleteCommand hs r.id
  case deleting devId ts =>
    cases ts with
    | nil => exact hs
    | cons t ts => exact Store.idsFresh_deleteFrom hs t devId
  all_goals exact hs

/-- The row a `GetPending` select hands to its delete fits: the select found a row of its device,
and its id is below the sequence and carried by that row alone. -/
theorem step_fits (hs : IdsFresh s) (t : Thread) : (t.step env s).1.Fits (t.step env s).2 := by
  cases t
  case call op =>
    cases op
    case getPending devId now =>
      simp only [step]
      split
      · trivial
      · next r hr =>
        obtain ⟨hmem, hdev⟩ := List.mem_filter.1 (oldest_mem _ hr)
        refine ⟨hs.2 r hmem, fun x hx hid => ?_⟩
        rw [List.inj_on_of_nodup_map hs.1 hx hmem hid]
        simpa using hdev
    case checkNonce nonce now => simp only [step]; split <;> trivial
    case registerDevice userid dev uuid now => simp only [step]; split <;> trivial
    case getDevicesForUser userId oldUserId => simp only [step]; split <;> trivial
    case storeCommand devId command cType now => simp only [step]; split <;> trivial
    all_goals trivial
  case checkSelect key sig => simp only [step]; split <;> trivial
  case deleting devId ts =>
    cases ts with
    | nil => trivial
    | cons t ts => simp only [step, deleteNext]; split <;> trivial
  all_goals trivial

/-- A call in flight that may not change `d` stays so after its statement. -/
theorem step_mayChange {t : Thread} (h : t.mayChange d = false) :
    (t.step env s).1.mayChange d = false := by
  cases t
  case call op =>
    cases op <;> simp only [mayChange, Op.mayChange, Bool.true_eq_false] at h
    case checkNonce nonce now => simp only [step]; split <;> rfl
    case registerDevice userid dev uuid now => simp only [step]; split <;> exact h
    case storeCommand devId command cType now =>
      simp only [step]; split
      · exact h
      · rfl
    case getPending devId now => simp only [step]; split <;> exact h
    case setDeviceLocation devId position now => exact h
    case deleteDevice devId => exact h
    all_goals rfl
  case checkSelect key sig => simp only [step]; split <;> rfl
  case registerInsert userid dev id now => exact h
  case pendingDelete devId now r => exact h
  case deleting devId ts =>
    cases ts with
    | nil => rfl
    | cons t ts =>
      simp only [step, deleteNext]
      split
      · rfl
      · exact h
  all_goals rfl

/-- **One statement keeps the rows of every device its call may not change.** -/
theorem step_deviceRows (hs : IdsFresh s) {t : Thread} (ht : t.Fits s) (h : t.mayChange d = false) :
    (t.step env s).2.deviceRows d = s.deviceRows d := by
  cases t <;> simp only [mayChange, decide_eq_false_iff_not] at h
  case call op =>
    have hx := PgStore.deviceRows_exec env hs op .none h
    cases op <;> simp only [Op.mayChange, decide_eq_false_iff_not, Bool.true_eq_false] at h
    case checkNonce nonce now => simp only [step]; split <;> rfl
    case registerDevice userid dev uuid now => simp only [step]; split <;> rfl
    case storeCommand devId command cType now =>
      simp only [step]; split <;> exact Store.deviceRows_updateCommand h now command cType
    case getPending devId now => simp only [step]; split <;> rfl
    case setDeviceLocation devId position now => exact Store.deviceRows_deleteFrom h .position
    case deleteDevice devId => exact Store.deviceRows_deleteFrom h .pendingCommands
    all_goals exact hx
  case checkSelect key sig => simp only [step]; split <;> rfl
  case registerUpdate dev id now => exact Store.deviceRows_updateDevice h dev now
  case registerInsert userid dev id now => exact Store.deviceRows_insertDevice h dev now
  case registerMap userid id now => exact Store.deviceRows_insertMapping h userid now
  case deleting devId ts =>
    cases ts with
    | nil => rfl
    | cons t ts => exact Store.deviceRows_deleteFrom h t
  case storeInsert devId command cType now =>
    exact Store.deviceRows_insertCommand h now command cType
  case pendingDelete devId now r =>
    exact Store.deviceRows_deleteCommand fun x hx hid hxd => h ((ht.2 x hx hid).symm.trans hxd)
  case pendingTouch devId now cmd ctype => exact Store.deviceRows_touch h now
  case locationInsert devId position now =>
    exact Store.deviceRows_insertPosition
      (show (PgStore.locationRow env devId position now).deviceId ≠ d from h)
  all_goals rfl

end Thread

/-! ### Every schedule -/

namespace PgStore

variable (env : Env)

/-- The invariant of a system: the serial ids are fresh, and every call in flight fits the
database. -/
def SysInv (σ : Store × List Thread) : Prop := IdsFresh σ.1 ∧ ∀ t ∈ σ.2, t.Fits σ.1

/-- **One statement of any thread keeps the invariant.** -/
theorem sysInv_stepAt {σ : Store × List Thread} (hI : SysInv σ) (i : ℕ) :
    SysInv (stepAt env σ i) := by
  obtain ⟨s, ts⟩ := σ
  simp only [stepAt]
  split
  · next t ht =>
    refine ⟨Thread.step_idsFresh env hI.1 t, fun t' ht' => ?_⟩
    rcases List.mem_or_eq_of_mem_set ht' with ht' | rfl
    · exact (hI.2 t' ht').of_grows (Thread.step_grows env s t)
    · exact Thread.step_fits env hI.1 t
  · exact hI

/-- One statement of any thread, when no call in flight may change `d`, keeps the rows of `d`,
and no call in flight may change `d` afterwards. -/
theorem stepAt_deviceRows {σ : Store × List Thread} {d : String} (hI : SysInv σ)
    (h : ∀ t ∈ σ.2, t.mayChange d = false) (i : ℕ) :
    (stepAt env σ i).1.deviceRows d = σ.1.deviceRows d ∧
      ∀ t ∈ (stepAt env σ i).2, t.mayChange d = false := by
  obtain ⟨s, ts⟩ := σ
  simp only [stepAt]
  split
  · next t ht =>
    have hmem := List.getElem?_mem ht
    refine ⟨Thread.step_deviceRows env hI.1 (hI.2 t hmem) (h t hmem), fun t' ht' => ?_⟩
    rcases List.mem_or_eq_of_mem_set ht' with ht' | rfl
    · exact h t' ht'
    · exact Thread.step_mayChange env (h t hmem)
  · exact ⟨rfl, h⟩

theorem interleave_deviceRows {d : String} :
    ∀ (sched : List ℕ) (σ : Store × List Thread), SysInv σ → (∀ t ∈ σ.2, t.mayChange d = false) →
      (interleave env σ sched).1.deviceRows d = σ.1.deviceRows d
  | [], _, _, _ => rfl
  | i :: sched, σ, hI, h => by
    obtain ⟨hrows, h'⟩ := stepAt_deviceRows env hI h i
    rw [interleave, List.foldl_cons, ← hrows]
    exact interleave_deviceRows sched _ (sysInv_stepAt env hI i) h'

/-- **Concurrent calls leave every device none of them may change alone.**  From every state a
run reaches, whichever statements failed on the way, calls that may not change device `d`, run
concurrently statement by statement under any schedule, keep the rows of `d`, so
`GetDeviceInfo(d)`, `GetUserFromDevice(d)`, `GetPending(d)` and `GetPositions(d)` report what
they reported before. -/
theorem interleave_reads_other_device (calls : List (Op × Faults)) (ops : List Op)
    (sched : List ℕ) (d : String) (h : ∀ op ∈ ops, op.mayChange d = false) (g : Faults) (now : ℕ) :
    let s := (runF env Store.empty calls).2
    let s' := (interleave env (s, ops.map .call) sched).1
    s'.deviceRows d = s.deviceRows d ∧
      (getDeviceInfo s' d g).1 = (getDeviceInfo s d g).1 ∧
      (getUserFromDevice s' d g).1 = (getUserFromDevice s d g).1 ∧
      (getPending s' d now g).1 = (getPending s d now g).1 ∧
      (getPositions s' d g).1 = (getPositions s d g).1 := by
  intro s s'
  have hI : SysInv (s, ops.map .call) := ⟨idsFresh_runF env calls idsFresh_empty, fun t ht => by
    obtain ⟨op, -, rfl⟩ := List.mem_map.1 ht
    trivial⟩
  have hrows := interleave_deviceRows env sched _ hI fun t ht => by
    obtain ⟨op, hop, rfl⟩ := List.mem_map.1 ht
    exact h op hop
  exact ⟨hrows, reads_eq_of_deviceRows hrows g now⟩

/-- A command queued for `dev-1` and the delete of `dev-1`, run statement by statement, leave the
command queued for `dev-2` and its position as they were. -/
theorem interleave_reads_other_device_queue :
    let s := (runF Env.sample Store.empty [(.storeCommand "dev-2" "ring" "ring" 0, .none),
      (.setDeviceLocation "dev-2" ⟨⟨0⟩, ⟨0⟩, ⟨0⟩, ⟨0⟩, 0⟩ 0, .none)]).2
    let s' := (interleave Env.sample (s, [Op.storeCommand "dev-1" "lock" "lock" 0,
      .deleteDevice "dev-1"].map .call) [0, 1, 0, 1, 1, 1]).1
    (∀ op ∈ [Op.storeCommand "dev-1" "lock" "lock" 0, .deleteDevice "dev-1"],
        op.mayChange "dev-2" = false) ∧
      (getPending s' "dev-2" 1 .none).1 = (getPending s "dev-2" 1 .none).1 ∧
      (getPositions s' "dev-2" .none).1 = (getPositions s "dev-2" .none).1 ∧
      (getPending s "dev-2" 1 .none).1 = .pending "ring" "ring" none ∧
      (getPositions s "dev-2" .none).1 = .positions [⟨⟨0⟩, ⟨0⟩, ⟨0⟩, ⟨0⟩, 0⟩] none :=
  have h := interleave_reads_other_device Env.sample _ [.storeCommand "dev-1" "lock" "lock" 0,
    .deleteDevice "dev-1"] [0, 1, 0, 1, 1, 1] "dev-2" (by decide) .none 1
  ⟨by decide, h.2.2.2.1, h.2.2.2.2, rfl, rfl⟩

end PgStore

end FindMyDevice
