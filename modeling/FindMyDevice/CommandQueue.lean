/-
**The command queue refines a map with one slot per device and command type.**

The spec describes pending commands as a map from `(device, type)` to the latest payload stored
for that key and the time it was stored: `StoreCommand` overwrites the slot, `GetPending` hands
out and empties the oldest slot of the device, `PurgeCommands` and `DeleteDevice` empty all of
the device's slots.  The code keeps a table with no key constraint and maintains the
one-row-per-key shape itself: `StoreCommand` updates the key's rows and inserts only when the
update touched none, and `GetPending` deletes the row it selected by its serial id.

This module states the map (`FindMyDevice.Queue`, with `FindMyDevice.QueueStep` for what each call
may do to it) and proves that every fault-free run of store calls, from an empty database, is
matched by a run of the map with the same replies, the table holding exactly one row per slot
of the map with the slot's payload and time (`FindMyDevice.PgStore.run_refines_queue`).  The
serial ids matter on the way: the delete of `GetPending` removes exactly the selected row
because ids are distinct, which `FindMyDevice.IdsFresh` records.

When statements may fail the picture changes: `GetPending` does not look at the outcome of its
delete, so a command whose delete failed is handed out with a `nil` error and stays pending
(`FindMyDevice.PgStore.getPending_of_delete_fails`).

Main definitions:

* `FindMyDevice.Queue`, `FindMyDevice.Queue.store`, `FindMyDevice.Queue.purge`,
  `FindMyDevice.Queue.PopsOldest` — the map and its operations;
* `FindMyDevice.QueueStep`, `FindMyDevice.QueueRun` — the calls and runs the map allows;
* `FindMyDevice.Holds` — the table holds the map.

Main results:

* `FindMyDevice.PgStore.exec_refines_queue` — one call is a step of the map;
* `FindMyDevice.PgStore.run_refines_queue` — **every fault-free run from an empty database is a
  run of the map, with the same replies, and the table holds the final map**.
-/

import FindMyDevice.PgStore

set_option relaxedAutoImplicit false
set_option autoImplicit false

namespace FindMyDevice

/-! ### The map the spec describes -/

/-- Pending commands as the spec describes them: for each device and command type, at most one
payload, with the time it was stored. -/
abbrev Queue := String × String → Option (String × ℕ)

namespace Queue

/-- `StoreCommand(devId, command, cType)` on the map: the slot of `(devId, cType)` now holds
`command`, stored at `now`, whatever it held before. -/
def store (M : Queue) (devId command cType : String) (now : ℕ) : Queue :=
  Function.update M (devId, cType) (some (command, now))

/-- `PurgeCommands(devId)` and `DeleteDevice(devId)` on the map: every slot of the device is
emptied. -/
def purge (M : Queue) (devId : String) : Queue :=
  fun k => if k.1 = devId then none else M k

/-- `GetPending(devId)` on the map: with no slot of the device filled it returns empty strings
and changes nothing; otherwise it returns the payload and type of a filled slot of the least
time and empties exactly that slot. -/
def PopsOldest (M : Queue) (devId cmd ctype : String) (M' : Queue) : Prop :=
  ((∀ ty, M (devId, ty) = none) ∧ cmd = "" ∧ ctype = "" ∧ M' = M) ∨
    ∃ t, M (devId, ctype) = some (cmd, t) ∧
      (∀ ty c t', M (devId, ty) = some (c, t') → t ≤ t') ∧
      M' = Function.update M (devId, ctype) none

end Queue

/-- The calls that touch pending commands. -/
def Op.isQueueCall : Op → Bool
  | .storeCommand .. | .getPending .. | .purgeCommands .. | .deleteDevice .. => true
  | _ => false

/-- What a call may do to the map and reply: the four queue calls as the spec says, and every
other call leaving the map alone. -/
inductive QueueStep : Queue → Op → Reply → Queue → Prop
  | storeCommand (M : Queue) (devId command cType : String) (now : ℕ) :
      QueueStep M (.storeCommand devId command cType now) (.err none)
        (M.store devId command cType now)
  | getPending (M M' : Queue) (devId : String) (now : ℕ) (cmd ctype : String) :
      M.PopsOldest devId cmd ctype M' → QueueStep M (.getPending devId now) (.pending cmd ctype none) M'
  | purgeCommands (M : Queue) (devId : String) :
      QueueStep M (.purgeCommands devId) (.err none) (M.purge devId)
  | deleteDevice (M : Queue) (devId : String) :
      QueueStep M (.deleteDevice devId) (.err none) (M.purge devId)
  | other (M : Queue) (op : Op) (r : Reply) : op.isQueueCall = false → QueueStep M op r M

/-- A run of the map: the calls in order, with their replies. -/
inductive QueueRun : Queue → List Op → List Reply → Queue → Prop
  | nil (M : Queue) : QueueRun M [] [] M
  | cons {M M' M'' : Queue} {op : Op} {r : Reply} {ops : List Op} {rs : List Reply} :
      QueueStep M op r M' → QueueRun M' ops rs M'' → QueueRun M (op :: ops) (r :: rs) M''

/-! ### The table holds the map -/

/-- The slot a row fills. -/
def CommandRow.key (r : CommandRow) : String × String := (r.deviceId, r.type)

/-- What a row puts in its slot. -/
def CommandRow.entry (r : CommandRow) : String × ℕ := (r.cmd, r.time)

/-- The table holds the map `M`: the rows of each slot are exactly one row carrying the slot's
payload and time when `M` fills it, and none when it does not. -/
def Holds (rows : List CommandRow) (M : Queue) : Prop :=
  ∀ k, (rows.filter (·.key = k)).map CommandRow.entry = (M k).toList

/-- The serial ids of the table are distinct, and below the next value of the sequence. -/
def IdsFresh (s : Store) : Prop :=
  (s.pendingCommands.map (·.id)).Nodup ∧ ∀ r ∈ s.pendingCommands, r.id < s.nextId

theorem holds_nil : Holds [] (fun _ => none) := fun _ => rfl

theorem idsFresh_empty : IdsFresh Store.empty := ⟨List.nodup_nil, fun _ h => by cases h⟩

section Holds

variable {rows : List CommandRow} {M : Queue}

theorem key_of_mem_filter {r : CommandRow} {k : String × String}
    (h : r ∈ rows.filter (·.key = k)) : r.key = k := by
  simpa using (List.mem_filter.1 h).2

/-- A slot of the map the table holds has no row when the slot is empty, and a single row
carrying the slot's entry when it is filled. -/
theorem filter_key_of_holds (hM : Holds rows M) (k : String × String) :
    (M k = none ∧ rows.filter (·.key = k) = []) ∨
      ∃ r, M k = some r.entry ∧ rows.filter (·.key = k) = [r] := by
  have h := hM k
  cases hk : M k with
  | none => simpa [hk] using h
  | some e =>
      rw [hk, Option.toList_some, List.map_eq_cons_iff] at h
      obtain ⟨r, l, hl, rfl, hnil⟩ := h
      rw [List.map_eq_nil_iff] at hnil
      exact .inr ⟨r, rfl, hnil ▸ hl⟩

/-- A rewrite of rows that keeps their slots commutes with selecting a slot. -/
theorem filter_key_map {f : CommandRow → CommandRow} (hf : ∀ r, (f r).key = r.key)
    (k : String × String) : (rows.map f).filter (·.key = k) = (rows.filter (·.key = k)).map f := by
  rw [List.filter_map]
  congr 1
  exact List.filter_congr fun r _ => by simp [hf]

/-- Rewriting the rows of one slot refills it: what `StoreCommand`'s update does to a filled
slot. -/
theorem holds_update (hM : Holds rows M) (devId command cType : String) (now : ℕ)
    (hex : ∃ r ∈ rows, r.key = (devId, cType)) :
    Holds (rows.map fun r => if r.deviceId = devId ∧ r.type = cType then
        { r with time := now, cmd := command } else r) (M.store devId command cType now) := by
  intro k
  rw [filter_key_map (by intro r; split <;> rfl), List.map_map]
  by_cases hk : k = (devId, cType)
  · subst hk
    rcases filter_key_of_holds hM (devId, cType) with ⟨-, hnil⟩ | ⟨r, -, hr⟩
    · obtain ⟨r, hr, hkr⟩ := hex
      have : r ∈ rows.filter (·.key = (devId, cType)) := List.mem_filter.2 ⟨hr, by simpa using hkr⟩
      simp [hnil] at this
    · have hkr : r.key = (devId, cType) := key_of_mem_filter (hr ▸ List.mem_singleton_self r)
      simp only [CommandRow.key, Prod.mk.injEq] at hkr
      simp [hr, hkr, Queue.store, CommandRow.entry]
  · rw [List.map_congr_left fun r hr => ?_, hM k]
    · simp [Queue.store, Function.update_noteq hk]
    · have : ¬ (r.deviceId = devId ∧ r.type = cType) := fun h =>
        hk (by rw [← key_of_mem_filter hr]; simp [CommandRow.key, h.1, h.2])
      simp [this]

/-- Appending a row to an empty slot fills it. -/
theorem holds_append (hM : Holds rows M) (r : CommandRow) (hr : M r.key = none) :
    Holds (rows ++ [r]) (Function.update M r.key (some r.entry)) := by
  intro k
  rw [List.filter_append, List.map_append, hM k]
  by_cases hk : r.key = k
  · subst hk; simp [hr]
  · simp [hk, Function.update_noteq (Ne.symm hk)]

/-- Removing the rows of a device empties its slots. -/
theorem holds_filter_deviceId (hM : Holds rows M) (devId : String) :
    Holds (rows.filter (·.deviceId ≠ devId)) (M.purge devId) := by
  intro k
  rw [List.filter_filter]
  by_cases hk : k.1 = devId
  · rw [List.filter_eq_nil_iff.2 fun r _ h => ?_]
    · simp [Queue.purge, hk]
    · simp only [Bool.and_eq_true, decide_eq_true_eq] at h
      exact h.2 (by rw [← hk, ← h.1]; rfl)
  · rw [List.filter_congr fun r _ => ?_, hM k]
    · simp [Queue.purge, hk]
    · by_cases hrk : r.key = k
      · have : r.deviceId ≠ devId := fun h => hk (by rw [← hrk, ← h]; rfl)
        simp [hrk, this]
      · simp [hrk]

/-- Deleting by id the row of a slot empties that slot and no other, as long as ids are
distinct. -/
theorem holds_delete_id (hM : Holds rows M) (hid : (rows.map (·.id)).Nodup) {r : CommandRow}
    (hr : r ∈ rows) : Holds (rows.filter (·.id ≠ r.id)) (Function.update M r.key none) := by
  have hsame : ∀ x ∈ rows, x.id = r.id → x = r := fun x hx h =>
    List.inj_on_of_nodup_map hid hx hr h
  intro k
  rw [List.filter_filter]
  by_cases hk : r.key = k
  · subst hk
    rw [List.filter_eq_nil_iff.2 fun x hx h => ?_]
    · simp
    · simp only [Bool.and_eq_true, decide_eq_true_eq] at h
      have hxr : x ∈ rows.filter (·.key = r.key) := List.mem_filter.2 ⟨hx, by simp [h.1]⟩
      have hrr : r ∈ rows.filter (·.key = r.key) := List.mem_filter.2 ⟨hr, by simp⟩
      rcases filter_key_of_holds hM r.key with ⟨-, hnil⟩ | ⟨r', -, hr'⟩
      · simp [hnil] at hrr
      · rw [hr', List.mem_singleton] at hxr hrr
        exact h.2 (by rw [hxr, hrr])
  · rw [List.filter_congr fun x hx => ?_, hM k]
    · simp [Function.update_noteq (Ne.symm hk)]
    · by_cases hxk : x.key = k
      · have : x.id ≠ r.id := fun h => hk (hsame x hx h ▸ hxk)
        simp [hxk, this]
      · simp [hxk]

/-- Keeping a sublist of the rows, with the sequence untouched, keeps ids fresh. -/
theorem idsFresh_of_sublist {s s' : Store} (hs : IdsFresh s)
    (hsub : List.Sublist s'.pendingCommands s.pendingCommands) (hnext : s'.nextId = s.nextId) :
    IdsFresh s' :=
  ⟨hs.1.sublist (hsub.map _), fun r hr => hnext ▸ hs.2 r (hsub.subset hr)⟩

/-- A filled slot has a row carrying its entry. -/
theorem exists_row_of_holds (hM : Holds rows M) {k : String × String} {e : String × ℕ}
    (hk : M k = some e) : ∃ r ∈ rows, r.key = k ∧ r.entry = e := by
  rcases filter_key_of_holds hM k with ⟨hnone, -⟩ | ⟨r, he, hr⟩
  · simp [hnone] at hk
  · have hmem : r ∈ rows.filter (·.key = k) := hr ▸ List.mem_singleton_self r
    exact ⟨r, List.mem_of_mem_filter hmem, key_of_mem_filter hmem, by simpa [hk] using he.symm⟩

/-- A row of the table fills its slot with its own entry. -/
theorem holds_of_mem (hM : Holds rows M) {r : CommandRow} (hr : r ∈ rows) :
    M r.key = some r.entry := by
  have hmem : r ∈ rows.filter (·.key = r.key) := List.mem_filter.2 ⟨hr, by simp⟩
  rcases filter_key_of_holds hM r.key with ⟨-, hnil⟩ | ⟨r', he, hr'⟩
  · simp [hnil] at hmem
  · rw [hr', List.mem_singleton] at hmem
    rw [he, hmem]

end Holds

/-! ### What the queue calls do without faults -/

namespace PgStore

variable (env : Env)

/-- Calls other than the four queue calls leave the table and its sequence alone. -/
theorem exec_pendingCommands_of_isQueueCall_eq_false (s : Store) (op : Op) (f : Faults)
    (h : op.isQueueCall = false) :
    (exec env s op f).2.pendingCommands = s.pendingCommands ∧
      (exec env s op f).2.nextId = s.nextId := by
  cases op <;> simp only [Op.isQueueCall, reduceCtorEq] at h <;>
    simp only [exec, registerDevice, getDeviceInfo, getPositions, getUserFromDevice,
        getDevicesForUser, setAccessToken, setDeviceLock, setDeviceLocation, gcDatabase,
        purgePosition, touch, getNonce, checkNonce, execOne] <;> (repeat' split) <;>
    exact ⟨rfl, rfl⟩

theorem countCommands_eq_length (s : Store) (devId cType : String) :
    s.countCommands devId cType =
      (s.pendingCommands.filter (·.key = (devId, cType))).length := by
  simp [Store.countCommands, CommandRow.key]

theorem deleteDevice_none_pendingCommands (s : Store) (devId : String) :
    (deleteDevice s devId .none).2.pendingCommands =
      s.pendingCommands.filter (·.deviceId ≠ devId) := rfl

/-! ### One call is a step of the map -/

variable {s : Store} {M : Queue}

/-- `StoreCommand` fills the slot of its device and type, whether or not it held a row. -/
theorem storeCommand_holds (hs : IdsFresh s) (hM : Holds s.pendingCommands M)
    (devId command cType : String) (now : ℕ) :
    Holds (storeCommand s devId command cType now .none).2.pendingCommands
        (M.store devId command cType now) ∧
      IdsFresh (storeCommand s devId command cType now .none).2 := by
  rw [storeCommand_none]
  split
  · next hcnt =>
      rw [countCommands_eq_length, List.length_eq_zero] at hcnt
      have hkeep : (s.updateCommand now command devId cType).pendingCommands = s.pendingCommands := by
        refine (List.map_congr_left fun r hr => ?_).trans (List.map_id' _)
        have : ¬ (r.deviceId = devId ∧ r.type = cType) := fun h =>
          List.filter_eq_nil_iff.1 hcnt r hr (by simp [CommandRow.key, h.1, h.2])
        simp [this]
      have hnone : M (devId, cType) = none := by
        rcases filter_key_of_holds hM (devId, cType) with ⟨h, -⟩ | ⟨r, -, hr⟩
        · exact h
        · simp [hcnt] at hr
      refine ⟨?_, ?_, ?_⟩
      · simp only [Store.insertCommand, hkeep]
        exact holds_append hM ⟨s.nextId, devId, now, command, cType⟩ hnone
      · simp only [Store.insertCommand, hkeep, List.map_append, List.nodup_append]
        exact ⟨hs.1, List.nodup_singleton _, List.disjoint_singleton.2 fun h => by
          obtain ⟨r, hr, hid⟩ := List.mem_map.1 h
          exact absurd (hs.2 r hr) (by simp [hid, Store.updateCommand])⟩
      · simp only [Store.insertCommand, hkeep, List.mem_append, List.mem_singleton]
        rintro r (hr | rfl)
        · exact Nat.lt_succ_of_lt (hs.2 r hr)
        · exact Nat.lt_succ_self _
  · next hcnt =>
      rw [countCommands_eq_length] at hcnt
      obtain ⟨r, hr⟩ := List.exists_mem_of_length_pos (Nat.pos_of_ne_zero hcnt)
      refine ⟨holds_update hM devId command cType now
        ⟨r, List.mem_of_mem_filter hr, key_of_mem_filter hr⟩, ?_, ?_⟩
      · simp only [Store.updateCommand, List.map_map]
        convert hs.1 using 2
        funext r; simp only [Function.comp]; split <;> rfl
      · simp only [Store.updateCommand, List.mem_map]
        rintro _ ⟨r, hr, rfl⟩
        split <;> exact hs.2 r hr

/-- `GetPending` hands out a slot of its device of least time and empties it, or reports that the
device has no slot filled. -/
theorem getPending_pops (hs : IdsFresh s) (hM : Holds s.pendingCommands M) (devId : String)
    (now : ℕ) :
    ∃ cmd ctype M', (getPending s devId now .none).1 = .pending cmd ctype none ∧
      M.PopsOldest devId cmd ctype M' ∧
      Holds (getPending s devId now .none).2.pendingCommands M' ∧
      IdsFresh (getPending s devId now .none).2 := by
  rw [getPending_none]
  cases hsel : s.selectPending devId with
  | none =>
      refine ⟨"", "", M, rfl, .inl ⟨fun ty => ?_, rfl, rfl, rfl⟩, hM, hs⟩
      cases hk : M (devId, ty) with
      | none => rfl
      | some e =>
          obtain ⟨r, hr, hkr, -⟩ := exists_row_of_holds hM hk
          rw [Store.selectPending, oldest_eq_none_iff, List.filter_eq_nil_iff] at hsel
          exact absurd (congrArg Prod.fst hkr) (by simpa using hsel r hr)
  | some r =>
      obtain ⟨hr, hd⟩ := List.mem_filter.1 (oldest_mem _ hsel)
      have hkey : r.key = (devId, r.type) := by simpa [CommandRow.key] using hd
      refine ⟨r.cmd, r.type, Function.update M r.key none, rfl, .inr ⟨r.time, ?_, ?_, ?_⟩,
        holds_delete_id hM hs.1 hr, idsFresh_of_sublist hs (List.filter_sublist _) rfl⟩
      · exact hkey ▸ holds_of_mem hM hr
      · intro ty c t' hk
        obtain ⟨r', hr', hkr', he'⟩ := exists_row_of_holds hM hk
        have hd' : r'.deviceId = devId := congrArg Prod.fst hkr'
        calc r.time ≤ r'.time := oldest_le _ hsel r' (List.mem_filter.2 ⟨hr', by simpa using hd'⟩)
          _ = t' := congrArg Prod.snd he'
      · rw [hkey]

/-- `PurgeCommands` empties every slot of its device. -/
theorem purgeCommands_holds (hs : IdsFresh s) (hM : Holds s.pendingCommands M) (devId : String) :
    Holds (purgeCommands s devId .none).2.pendingCommands (M.purge devId) ∧
      IdsFresh (purgeCommands s devId .none).2 :=
  ⟨holds_filter_deviceId hM devId, idsFresh_of_sublist hs (List.filter_sublist _) rfl⟩

/-- `DeleteDevice` empties every slot of its device, its first delete being that of
`pendingCommands`. -/
theorem deleteDevice_holds (hs : IdsFresh s) (hM : Holds s.pendingCommands M) (devId : String) :
    Holds (deleteDevice s devId .none).2.pendingCommands (M.purge devId) ∧
      IdsFresh (deleteDevice s devId .none).2 := by
  rw [deleteDevice_none_pendingCommands]
  exact ⟨holds_filter_deviceId hM devId, idsFresh_of_sublist hs (List.filter_sublist _) rfl⟩

/-- **Each fault-free call on a table that holds `M`, with fresh ids, is a step of the map, and
the table then holds the map after the step.** -/
theorem exec_refines_queue (hs : IdsFresh s) (hM : Holds s.pendingCommands M) (op : Op) :
    ∃ M', QueueStep M op (exec env s op .none).1 M' ∧
      Holds (exec env s op .none).2.pendingCommands M' ∧ IdsFresh (exec env s op .none).2 := by
  cases hq : op.isQueueCall
  · obtain ⟨h₁, h₂⟩ := exec_pendingCommands_of_isQueueCall_eq_false env s op .none hq
    exact ⟨M, .other M op _ hq, h₁ ▸ hM, idsFresh_of_sublist hs (h₁ ▸ List.Sublist.refl _) h₂⟩
  cases op <;> simp only [Op.isQueueCall, reduceCtorEq] at hq
  case storeCommand devId command cType now =>
    refine ⟨_, ?_, storeCommand_holds hs hM devId command cType now⟩
    simp only [exec, storeCommand_none]
    exact .storeCommand M devId command cType now
  case getPending devId now =>
    obtain ⟨cmd, ctype, M', hr, hpop, h⟩ := getPending_pops hs hM devId now
    refine ⟨M', ?_, h⟩
    simp only [exec, hr]
    exact .getPending M M' devId now cmd ctype hpop
  case purgeCommands devId =>
    exact ⟨_, .purgeCommands M devId, purgeCommands_holds hs hM devId⟩
  case deleteDevice devId =>
    refine ⟨_, ?_, deleteDevice_holds hs hM devId⟩
    exact .deleteDevice M devId

/-- Runs from any table that holds `M` with fresh ids. -/
theorem run_refines_queue_of_holds (ops : List Op) :
    ∀ {s : Store} {M : Queue}, IdsFresh s → Holds s.pendingCommands M →
      ∃ M', QueueRun M ops (run env s ops).1 M' ∧ Holds (run env s ops).2.pendingCommands M' ∧
        IdsFresh (run env s ops).2 := by
  induction ops with
  | nil => exact fun {s M} hs hM => ⟨M, .nil M, hM, hs⟩
  | cons op ops ih =>
      intro s M hs hM
      obtain ⟨M₁, hstep, hM₁, hs₁⟩ := exec_refines_queue env hs hM op
      obtain ⟨M₂, hrun, h⟩ := ih hs₁ hM₁
      exact ⟨M₂, .cons hstep hrun, h⟩

/-- **Every fault-free run from the empty database is a run of the map from the empty map, with
the same replies, and the table holds the final map.** -/
theorem run_refines_queue (ops : List Op) :
    ∃ M, QueueRun (fun _ => none) ops (run env Store.empty ops).1 M ∧
      Holds (run env Store.empty ops).2.pendingCommands M :=
  let ⟨M, hrun, hM, _⟩ := run_refines_queue_of_holds env ops idsFresh_empty holds_nil
  ⟨M, hrun, hM⟩

/-! ### When the delete of `GetPending` fails -/

/-- **`GetPending` does not look at the outcome of its delete**: when the select finds a row and
the delete by id fails, the call still hands the row out with a `nil` error, and the row stays
pending, to be handed out again. -/
theorem getPending_of_delete_fails (s : Store) (devId : String) (now : ℕ) (f : Faults)
    {r : CommandRow} (hsel : s.selectPending devId = some r) (h₀ : f.fails 0 = false)
    (h₁ : f.fails 1 = true) :
    (getPending s devId now f).1 = .pending r.cmd r.type none ∧
      r ∈ (getPending s devId now f).2.pendingCommands := by
  have hr : r ∈ s.pendingCommands := List.mem_of_mem_filter (oldest_mem _ hsel)
  simp only [getPending, touch, execOne, h₀, h₁, hsel, Bool.false_eq_true, if_false, if_true,
    true_and]
  split <;> exact hr

/-- One command stored, then handed out twice with a `nil` error: the first `GetPending`'s delete
fails, and the second finds the same row. -/
theorem getPending_hands_out_twice (env : Env) :
    (runF env Store.empty
      [(.storeCommand "dev-1" "lock" "lock" 0, .none),
       (.getPending "dev-1" 1, ⟨fun i => i = 1⟩),
       (.getPending "dev-1" 2, .none)]).1 =
      [.err none, .pending "lock" "lock" none, .pending "lock" "lock" none] := rfl

end PgStore

end FindMyDevice
