/-
**Concurrent `StoreCommand` and `GetPending` calls: the queue is not linearizable.**

Run one after another, the calls of the command queue keep one row per device and command type
and behave as the map of `FindMyDevice.Queue` (`FindMyDevice.PgStore.run_refines_queue_of_holds`).
Run concurrently at the grain of `FindMyDevice.PgStore.interleave`, they do not: the one-row
shape is kept by the code, not by a key constraint, and each call reads the table in one
statement and writes it in another.

* Two `StoreCommand` calls of one key whose updates both run before either insert both find no
  row, and both insert: the key holds two rows, which no sequential run of any calls from the
  empty database leaves (`FindMyDevice.PgStore.interleave_storeCommand_race`).
* Two `GetPending` calls of one device whose selects both run before either delete hand out the
  same row (`FindMyDevice.PgStore.interleave_getPending_race`), while the map never hands out a
  command twice in a row (`FindMyDevice.Queue.popsOldest_twice`).
* A `StoreCommand` whose update lands between the select and the delete of a `GetPending` of the
  same key returns `nil`, and its payload is deleted without being handed out
  (`FindMyDevice.PgStore.interleave_update_lost`).
* A `DeleteDevice` that runs between the update and the insert of a `StoreCommand` of its device
  returns `nil`, and the command is inserted after it: the deleted device has a pending command,
  which the next `GetPending` of the id hands out
  (`FindMyDevice.PgStore.interleave_storeCommand_delete`).

Main results:

* `FindMyDevice.PgStore.interleave_storeCommand_race` — **the key of two racing stores holds two
  rows, and no sequential run leaves that table**;
* `FindMyDevice.PgStore.interleave_getPending_race` — two racing pops hand out one command twice,
  under every schedule that runs both selects before either delete;
* `FindMyDevice.PgStore.interleave_update_lost` — an update between a pop's select and its delete
  is lost;
* `FindMyDevice.PgStore.interleave_storeCommand_delete` — **a command stored across a delete of
  its device survives the delete**.
-/

import FindMyDevice.Interleaving
import FindMyDevice.CommandQueue

set_option relaxedAutoImplicit false
set_option autoImplicit false

namespace FindMyDevice

namespace Store

variable (s : Store)

/-- The update rewrites rows in place: it changes no row's key, so no key's count. -/
theorem countCommands_updateCommand (now : ℕ) (command devId cType d t : String) :
    (s.updateCommand now command devId cType).countCommands d t = s.countCommands d t := by
  simp only [countCommands, updateCommand, List.filter_map, List.length_map]
  congr 1
  exact List.filter_congr fun r _ => by simp only [Function.comp]; split <;> rfl

theorem countCommands_insertCommand (devId : String) (now : ℕ) (command cType : String) :
    (s.insertCommand devId now command cType).countCommands devId cType =
      s.countCommands devId cType + 1 := by
  simp [countCommands, insertCommand, List.filter_append]

end Store

/-- A table that holds a map has at most one row per key. -/
theorem countCommands_le_one_of_holds {s : Store} {M : Queue} (hM : Holds s.pendingCommands M)
    (devId cType : String) : s.countCommands devId cType ≤ 1 := by
  rw [PgStore.countCommands_eq_length]
  rcases filter_key_of_holds hM (devId, cType) with ⟨-, h⟩ | ⟨r, -, h⟩ <;> simp [h]

namespace Queue

/-- **The map never hands out a command twice in a row**: two pops of a device that return the
same payload and type return the empty pair. -/
theorem popsOldest_twice {M M' M'' : Queue} {devId cmd ctype : String}
    (h₁ : M.PopsOldest devId cmd ctype M') (h₂ : M'.PopsOldest devId cmd ctype M'') :
    cmd = "" ∧ ctype = "" := by
  rcases h₁ with ⟨-, hc, ht, -⟩ | ⟨t, -, -, rfl⟩
  · exact ⟨hc, ht⟩
  rcases h₂ with ⟨-, hc, ht, -⟩ | ⟨t', hslot, -, -⟩
  · exact ⟨hc, ht⟩
  · simp at hslot

end Queue

/-- What the map allows a pop that hands out `cmd` and `ctype`. -/
theorem QueueStep.popsOldest {M M' : Queue} {devId : String} {now : ℕ} {cmd ctype : String}
    (h : QueueStep M (.getPending devId now) (.pending cmd ctype none) M') :
    M.PopsOldest devId cmd ctype M' := by
  cases h
  · assumption
  · rename_i hq
    simp [Op.isQueueCall] at hq

namespace PgStore

variable (env : Env)

/-- **After any fault-free sequential run from the empty database, each key has at most one
row.** -/
theorem run_countCommands_le_one (ops : List Op) (devId cType : String) :
    (run env Store.empty ops).2.countCommands devId cType ≤ 1 :=
  let ⟨_, _, hM, _⟩ := run_refines_queue_of_holds env ops idsFresh_empty holds_nil
  countCommands_le_one_of_holds hM devId cType

/-! ### Two stores of one key -/

/-- **Two racing stores of one key leave two rows**: from any database with no row for the key,
two `StoreCommand` calls that both update before either inserts both return `nil` and both
insert, and no fault-free sequential run of any calls from the empty database leaves a table
with two rows for one key. -/
theorem interleave_storeCommand_race (s : Store) (devId cType c₁ c₂ : String) (n₁ n₂ : ℕ)
    (h : s.countCommands devId cType = 0) :
    let σ := interleave env (s, [.call (.storeCommand devId c₁ cType n₁),
      .call (.storeCommand devId c₂ cType n₂)]) [0, 1, 0, 1]
    σ.2 = [.done (.err none), .done (.err none)] ∧ σ.1.countCommands devId cType = 2 ∧
      ∀ ops, (run env Store.empty ops).2.pendingCommands ≠ σ.1.pendingCommands := by
  intro σ
  have hσ : σ = (((s.updateCommand n₁ c₁ devId cType).updateCommand n₂ c₂ devId cType
      |>.insertCommand devId n₁ c₁ cType).insertCommand devId n₂ c₂ cType,
      [.done (.err none), .done (.err none)]) := by
    simp only [σ, interleave, List.foldl_cons, List.foldl_nil, stepAt_pair_zero, stepAt_pair_one,
      Thread.step, Store.countCommands_updateCommand, h, if_true]
  have hcount : σ.1.countCommands devId cType = 2 := by
    rw [hσ]
    simp only [Store.countCommands_insertCommand, Store.countCommands_updateCommand, h]
  refine ⟨by rw [hσ], hcount, fun ops heq => ?_⟩
  have hle := run_countCommands_le_one env ops devId cType
  rw [Store.countCommands, heq, ← Store.countCommands, hcount] at hle
  exact absurd hle (by decide)

/-- Two concurrent `StoreCommand("dev-1", "lock", "lock")` calls on the empty database, both
updates first: both return `nil`, the key holds two rows, and no sequential run leaves that
table. -/
theorem storeCommand_race_two_rows :
    ∃ s, interleave env (Store.empty, [.call (.storeCommand "dev-1" "lock" "lock" 0),
        .call (.storeCommand "dev-1" "lock" "lock" 0)]) [0, 1, 0, 1] =
        (s, [.done (.err none), .done (.err none)]) ∧ s.countCommands "dev-1" "lock" = 2 ∧
      ∀ ops, (run env Store.empty ops).2.pendingCommands ≠ s.pendingCommands :=
  let ⟨h₁, h₂, h₃⟩ := interleave_storeCommand_race env Store.empty "dev-1" "lock" "lock" "lock" 0 0 rfl
  ⟨_, Prod.ext rfl h₁, h₂, h₃⟩

/-! ### A store across a delete of its device -/

/-- **A command stored across a delete of its device survives it**: from any database with no row
for the key, a `StoreCommand` whose update finds no row, then the four deletes of a
`DeleteDevice` of the device, then the `StoreCommand`'s insert: both calls return `nil`, and the
next `GetPending` of the device, whose rows the delete cleared, hands out the command. -/
theorem interleave_storeCommand_delete (s : Store) (devId command cType : String) (now now' : ℕ)
    (h : s.countCommands devId cType = 0) :
    let σ := interleave env (s, [.call (.storeCommand devId command cType now),
      .call (.deleteDevice devId)]) [0, 1, 1, 1, 1, 0]
    σ.2 = [.done (.err none), .done (.err none)] ∧
      (getPending σ.1 devId now' .none).1 = .pending command cType none := by
  intro σ
  have hσ : σ = ((deleteDevice (s.updateCommand now command devId cType) devId .none).2
      |>.insertCommand devId now command cType, [.done (.err none), .done (.err none)]) := by
    simp only [σ, interleave, List.foldl_cons, List.foldl_nil, stepAt_pair_zero, stepAt_pair_one,
      Thread.step, Store.countCommands_updateCommand, h, if_true]
    rfl
  clear_value σ
  subst hσ
  refine ⟨rfl, ?_⟩
  simp [getPending_none, Store.selectPending, Store.insertCommand, deleteDevice, deleteTables,
    deviceTables, Store.deleteFrom, List.filter_append, Faults.none_fails, oldest]

theorem interleave_storeCommand_delete_erase :
    Store.empty.countCommands "dev-1" "e" = 0 ∧
      (getPending (interleave Env.sample (Store.empty, [.call (.storeCommand "dev-1" "erase" "e" 0),
        .call (.deleteDevice "dev-1")]) [0, 1, 1, 1, 1, 0]).1 "dev-1" 1 .none).1 =
        .pending "erase" "e" none :=
  ⟨rfl, (interleave_storeCommand_delete Env.sample Store.empty "dev-1" "erase" "e" 0 1 rfl).2⟩

/-! ### Two pops of one device -/

/-- Two fault-free pops of one device, one after the other, from a table that holds a map, hand
out the same command twice only when it is the empty pair. -/
theorem run_getPending_twice {s : Store} {M : Queue} (hs : IdsFresh s)
    (hM : Holds s.pendingCommands M) (devId : String) (m₁ m₂ : ℕ) (cmd ctype : String)
    (h : (run env s [.getPending devId m₁, .getPending devId m₂]).1 =
      [.pending cmd ctype none, .pending cmd ctype none]) : cmd = "" ∧ ctype = "" := by
  obtain ⟨M', hrun, -⟩ := run_refines_queue_of_holds env [.getPending devId m₁, .getPending devId m₂] hs hM
  rw [h] at hrun
  cases hrun with
  | cons hstep₁ hrun₁ =>
    cases hrun₁ with
    | cons hstep₂ _ => exact Queue.popsOldest_twice hstep₁.popsOldest hstep₂.popsOldest

theorem run_getPending_twice_empty :
    IdsFresh Store.empty ∧ Holds Store.empty.pendingCommands (fun _ => none) ∧
      (run Env.sample Store.empty [.getPending "dev-1" 1, .getPending "dev-1" 2]).1 =
        [.pending "" "" none, .pending "" "" none] ∧ ("" = "" ∧ "" = "") :=
  ⟨idsFresh_empty, holds_nil, rfl,
    run_getPending_twice Env.sample idsFresh_empty holds_nil "dev-1" 1 2 "" "" rfl⟩

/-- A pop that has selected `r` returns `r`'s payload and type two statements later, whatever
the database: the path of its statements. -/
def popPath (devId : String) (now : ℕ) (r : CommandRow) : ℕ → Thread
  | 0 => .pendingDelete devId now r
  | 1 => .pendingTouch devId now r.cmd r.type
  | _ => .done (.pending r.cmd r.type none)

theorem step_popPath (devId : String) (now : ℕ) (r : CommandRow) (s : Store) (a : ℕ) :
    ((popPath devId now r a).step env s).1 = popPath devId now r (a + 1) := by
  rcases a with _ | _ | a <;> rfl

/-- **Two racing pops hand out one command twice**: from any database in which `r` is the oldest
command of a device, two `GetPending` calls of the device whose selects both run before either
delete both return `r`'s payload and type with a `nil` error, under every such schedule: a
stretch `p` that runs the two selects, then any stretch `q` that runs the rest of both. -/
theorem interleave_getPending_race (s : Store) (devId : String) (n₁ n₂ : ℕ) {r : CommandRow}
    (hsel : s.selectPending devId = some r) (p q : List ℕ) (hp₀ : p.count 0 = 1)
    (hp₁ : p.count 1 = 1) (hq₀ : 2 ≤ q.count 0) (hq₁ : 2 ≤ q.count 1) :
    (interleave env (s, [.call (.getPending devId n₁), .call (.getPending devId n₂)])
      (p ++ q)).2 = [.done (.pending r.cmd r.type none), .done (.pending r.cmd r.type none)] := by
  have hselect : ∀ n, (Thread.call (.getPending devId n)).step env s = (.pendingDelete devId n r, s) :=
    fun n => by simp only [Thread.step, hsel]
  -- the two selects see `s`, which neither changes
  obtain ⟨s₁, -, hp⟩ := interleave_pair env (Q := fun _ _ s' => s' = s) (A := 1) (B := 1)
    (fun a => if a = 0 then .call (.getPending devId n₁) else popPath devId n₁ r 0)
    (fun b => if b = 0 then .call (.getPending devId n₂) else popPath devId n₂ r 0)
    (fun a _ _ ha _ hs => by
      obtain rfl : a = 0 := by omega
      subst hs
      exact ⟨by simp [hselect, popPath], by simp [hselect]⟩)
    (fun _ b _ _ hb hs => by
      obtain rfl : b = 0 := by omega
      subst hs
      exact ⟨by simp [hselect, popPath], by simp [hselect]⟩)
    p 0 0 s (by omega) (by omega) rfl
  -- then each pop follows its path
  obtain ⟨s₂, -, hq⟩ := interleave_pair env (Q := fun _ _ _ => True) (A := q.count 0)
    (B := q.count 1) (popPath devId n₁ r) (popPath devId n₂ r)
    (fun a _ s' _ _ _ => ⟨step_popPath env devId n₁ r s' a, trivial⟩)
    (fun _ b s' _ _ _ => ⟨step_popPath env devId n₂ r s' b, trivial⟩) q 0 0 s₁ (by omega)
    (by omega) trivial
  simp only [hp₀, hp₁, Nat.zero_add, if_true, if_false, one_ne_zero] at hp hq
  rw [interleave_append, hp, hq]
  obtain ⟨k₀, hk₀⟩ : ∃ k, q.count 0 = k + 2 := ⟨_, (Nat.sub_add_cancel hq₀).symm⟩
  obtain ⟨k₁, hk₁⟩ : ∃ k, q.count 1 = k + 2 := ⟨_, (Nat.sub_add_cancel hq₁).symm⟩
  rw [hk₀, hk₁]
  rfl

theorem interleave_getPending_race_lock :
    (run Env.sample Store.empty [.storeCommand "dev-1" "lock" "lock" 0]).2.selectPending "dev-1" =
        some ⟨0, "dev-1", 0, "lock", "lock"⟩ ∧
      [0, 1].count 0 = 1 ∧ [0, 1].count 1 = 1 ∧ 2 ≤ [0, 1, 0, 1].count 0 ∧
      2 ≤ [0, 1, 0, 1].count 1 ∧
      (interleave Env.sample ((run Env.sample Store.empty [.storeCommand "dev-1" "lock" "lock" 0]).2,
        [.call (.getPending "dev-1" 1), .call (.getPending "dev-1" 2)]) ([0, 1] ++ [0, 1, 0, 1])).2 =
        [.done (.pending "lock" "lock" none), .done (.pending "lock" "lock" none)] :=
  have hsel : (run Env.sample Store.empty [.storeCommand "dev-1" "lock" "lock" 0]).2.selectPending
      "dev-1" = some ⟨0, "dev-1", 0, "lock", "lock"⟩ := rfl
  ⟨hsel, rfl, rfl, by decide, by decide,
    interleave_getPending_race Env.sample _ "dev-1" 1 2 hsel _ _ rfl rfl (by decide) (by decide)⟩

/-! ### A store between a pop's select and its delete -/

/-- With the table holding a map, a row is the only row of its key. -/
theorem eq_of_key_eq_of_holds {rows : List CommandRow} {M : Queue} (hM : Holds rows M)
    {r x : CommandRow} (hr : r ∈ rows) (hx : x ∈ rows) (hk : x.key = r.key) : x = r := by
  have hr' : r ∈ rows.filter (·.key = r.key) := List.mem_filter.2 ⟨hr, by simp⟩
  have hx' : x ∈ rows.filter (·.key = r.key) := List.mem_filter.2 ⟨hx, by simp [hk]⟩
  rcases filter_key_of_holds hM r.key with ⟨-, h⟩ | ⟨y, -, h⟩
  · simp [h] at hr'
  · rw [h, List.mem_singleton] at hr' hx'
    rw [hx', hr']

/-- A filled slot of the map the table holds has exactly one row. -/
theorem countCommands_of_holds {rows : List CommandRow} {M : Queue} (hM : Holds rows M)
    {devId cType : String} {e : String × ℕ} (hk : M (devId, cType) = some e) :
    (rows.filter fun r => r.deviceId = devId ∧ r.type = cType).length = 1 := by
  have := hM (devId, cType)
  rw [hk, Option.toList_some] at this
  simpa [CommandRow.key, and_comm] using congrArg List.length this

/-- **One after another, a stored payload is handed out or kept**: from a table that holds a map,
in either order of `GetPending(devId)` and `StoreCommand(devId, command, cType)`, the pop hands
`command` out, or the key still holds a row at the end. -/
theorem run_storeCommand_payload_kept {s : Store} {M : Queue} (hs : IdsFresh s)
    (hM : Holds s.pendingCommands M) (devId command cType : String) (n₁ n₂ : ℕ) (ops : List Op)
    (hops : ops = [.storeCommand devId command cType n₂, .getPending devId n₁] ∨
      ops = [.getPending devId n₁, .storeCommand devId command cType n₂]) :
    .pending command cType none ∈ (run env s ops).1 ∨
      (run env s ops).2.countCommands devId cType = 1 := by
  have hslot : M.store devId command cType n₂ (devId, cType) = some (command, n₂) := by
    simp [Queue.store]
  rcases hops with rfl | rfl
  · obtain ⟨hM₁, hs₁⟩ := storeCommand_holds hs hM devId command cType n₂
    obtain ⟨c, ty, M₂, hrep, hpop, hM₂, -⟩ := getPending_pops hs₁ hM₁ devId n₁
    have hreplies : (run env s [.storeCommand devId command cType n₂, .getPending devId n₁]).1 =
        [(storeCommand s devId command cType n₂ .none).1, .pending c ty none] := by
      simp only [run_cons, run_nil, exec, hrep]
    rw [hreplies, Store.countCommands]
    rcases hpop with ⟨hnone, -, -, -⟩ | ⟨t, hM₁c, -, rfl⟩
    · exact absurd (hnone cType) (by simp [hslot])
    by_cases hty : ty = cType
    · subst hty
      rw [hslot] at hM₁c
      obtain rfl : command = c := (Prod.mk.inj (Option.some.inj hM₁c)).1
      exact .inl (List.mem_cons_of_mem _ (List.mem_singleton_self _))
    · exact .inr (countCommands_of_holds hM₂ (by
        rwa [Function.update_noteq fun h => hty (congrArg Prod.snd h).symm]))
  · obtain ⟨c, ty, M₁, hrep, -, hM₁, hs₁⟩ := getPending_pops hs hM devId n₁
    obtain ⟨hM₂, -⟩ := storeCommand_holds hs₁ hM₁ devId command cType n₂
    exact .inr (@countCommands_of_holds _ _ hM₂ _ _ (command, n₂) (by simp [Queue.store]))

theorem run_storeCommand_payload_kept_empty :
    IdsFresh Store.empty ∧ Holds Store.empty.pendingCommands (fun _ => none) ∧
      ([.storeCommand "dev-1" "unlock" "lock" 2, .getPending "dev-1" 1] : List Op) =
        [.storeCommand "dev-1" "unlock" "lock" 2, .getPending "dev-1" 1] ∧
      (.pending "unlock" "lock" none ∈ (run Env.sample Store.empty
          [.storeCommand "dev-1" "unlock" "lock" 2, .getPending "dev-1" 1]).1 ∨
        (run Env.sample Store.empty [.storeCommand "dev-1" "unlock" "lock" 2,
          .getPending "dev-1" 1]).2.countCommands "dev-1" "lock" = 1) :=
  ⟨idsFresh_empty, holds_nil, rfl, run_storeCommand_payload_kept Env.sample idsFresh_empty holds_nil
    "dev-1" "unlock" "lock" 1 2 _ (.inl rfl)⟩

/-- **A store between a pop's select and its delete is lost**: from any database whose table
holds a map and in which `r` is the oldest command of a device, a `GetPending` of the device
that selects `r`, then a `StoreCommand` of `r`'s key that updates `r` and returns `nil`, then the
delete of `GetPending`: the pop hands out `r`'s old payload, and the key is left with no row, so
the stored payload is neither handed out nor kept. -/
theorem interleave_update_lost {s : Store} {M : Queue} (hM : Holds s.pendingCommands M)
    (devId command : String) (n₁ n₂ : ℕ) {r : CommandRow} (hsel : s.selectPending devId = some r) :
    let σ := interleave env (s, [.call (.getPending devId n₁),
      .call (.storeCommand devId command r.type n₂)]) [0, 1, 0, 0]
    σ.2 = [.done (.pending r.cmd r.type none), .done (.err none)] ∧
      σ.1.countCommands devId r.type = 0 := by
  intro σ
  obtain ⟨hr, hd⟩ := List.mem_filter.1 (oldest_mem _ hsel)
  have hd : r.deviceId = devId := by simpa using hd
  have hone : s.countCommands devId r.type ≠ 0 := by
    rw [countCommands_eq_length]
    exact List.length_pos_of_mem (List.mem_filter.2 ⟨hr, by simp [CommandRow.key, hd]⟩) |>.ne'
  have hσ : σ = ((((s.updateCommand n₂ command devId r.type).deleteCommand r.id).touch devId n₁),
      [.done (.pending r.cmd r.type none), .done (.err none)]) := by
    simp only [σ, interleave, List.foldl_cons, List.foldl_nil, stepAt_pair_zero, stepAt_pair_one,
      Thread.step, hsel, hone, if_false]
  rw [hσ]
  refine ⟨rfl, ?_⟩
  simp only [Store.countCommands, Store.touch, Store.deleteCommand, Store.updateCommand,
    List.length_eq_zero, List.filter_eq_nil_iff, List.mem_filter, List.mem_map]
  rintro _ ⟨⟨x, hx, rfl⟩, hid⟩ hk
  by_cases hc : x.deviceId = devId ∧ x.type = r.type
  · obtain rfl := eq_of_key_eq_of_holds hM hr hx (by simp [CommandRow.key, hc.1, hc.2, hd])
    simp [hc] at hid
  · simp [hc] at hk

theorem interleave_update_lost_lock :
    (∃ M, Holds (run Env.sample Store.empty [.storeCommand "dev-1" "lock" "lock" 0]).2.pendingCommands
        M) ∧
      (run Env.sample Store.empty [.storeCommand "dev-1" "lock" "lock" 0]).2.selectPending "dev-1" =
        some ⟨0, "dev-1", 0, "lock", "lock"⟩ ∧
      (interleave Env.sample ((run Env.sample Store.empty [.storeCommand "dev-1" "lock" "lock" 0]).2,
          [.call (.getPending "dev-1" 1), .call (.storeCommand "dev-1" "unlock" "lock" 2)])
          [0, 1, 0, 0]).2 = [.done (.pending "lock" "lock" none), .done (.err none)] ∧
      (interleave Env.sample ((run Env.sample Store.empty [.storeCommand "dev-1" "lock" "lock" 0]).2,
          [.call (.getPending "dev-1" 1), .call (.storeCommand "dev-1" "unlock" "lock" 2)])
          [0, 1, 0, 0]).1.countCommands "dev-1" "lock" = 0 := by
  obtain ⟨M, -, hM, -⟩ := run_refines_queue_of_holds Env.sample
    [.storeCommand "dev-1" "lock" "lock" 0] idsFresh_empty holds_nil
  have hsel : (run Env.sample Store.empty [.storeCommand "dev-1" "lock" "lock" 0]).2.selectPending
      "dev-1" = some ⟨0, "dev-1", 0, "lock", "lock"⟩ := rfl
  have h := interleave_update_lost Env.sample hM "dev-1" "unlock" 1 2 hsel
  dsimp only at h
  exact ⟨⟨M, hM⟩, hsel, h⟩

end PgStore

end FindMyDevice
