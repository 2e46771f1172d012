/-
**A device is handed only commands stored for it.**

`StoreCommand(devId, command, cType)` is the only method that writes a command: its update sets
the command of the device's rows of that type, and its insert adds a row of the device with the
command and the type.  Every other statement deletes rows, or leaves `pendingCommands` alone.  So
every row of the table carries a device, a command and a type that one `StoreCommand` was called
with (`FindMyDevice.Store.Origin`), in every state a run reaches, whichever statements fail.

`GetPending(devId)` hands out the command and the type of a row its select found among the rows
of `devId`.  Run concurrently, statement by statement, it holds that row while other calls update
and delete rows; but the row it holds is a copy, taken when the row was one of its device's.  So
every command a `GetPending(d)` returns is the empty one, or one a `StoreCommand(d, _, cType)`
was called with, together with that type.  What this does not say is that the command returned is
the newest one stored, or that it is still stored afterwards: a `StoreCommand` that updates the row
between the select and the delete is lost.

Main definitions:

* `FindMyDevice.Op.stored` — what a call stores in `pendingCommands`;
* `FindMyDevice.Store.Origin` — every pending row carries a stored triple;
* `FindMyDevice.Thread.Legit` — a `StoreCommand` in flight stores a triple of the list;
* `FindMyDevice.Thread.Delivers` — a `GetPending(d)` in flight holds, or returned, a command
  stored for `d`.

Main results:

* `FindMyDevice.PgStore.origin_exec` — every call, whichever statements fail, keeps the triples
  of the rows stored;
* `FindMyDevice.PgStore.getPending_stored` — **after every run, whichever statements fail, a
  `GetPending(d)` returns the empty pair or a command and a type a `StoreCommand(d, ...)` of the
  run was called with**;
* `FindMyDevice.Thread.step_delivers` — one statement of a `GetPending(d)` keeps what it holds
  stored for `d`;
* `FindMyDevice.PgStore.interleave_getPending_stored` — **the same for a `GetPending(d)` run
  concurrently with other calls, under every schedule**.
-/

import FindMyDevice.CommandQueue
import FindMyDevice.Interleaving

set_option relaxedAutoImplicit false
set_option autoImplicit false

namespace FindMyDevice

/-- What a call stores in `pendingCommands`: the device, command and type of a `StoreCommand`,
nothing for the other calls. -/
def Op.stored : Op → List (String × String × String)
  | .storeCommand devId command cType _ => [(devId, command, cType)]
  | _ => []

/-- Every row of `pendingCommands` carries a device, a command and a type of `L`. -/
def Store.Origin (L : List (String × String × String)) (s : Store) : Prop :=
  ∀ r ∈ s.pendingCommands, (r.deviceId, r.cmd, r.type) ∈ L

/-! ### The statements on `pendingCommands` -/

namespace Store

variable {L : List (String × String × String)} {s : Store}

theorem origin_empty : Store.empty.Origin L := fun r hr => absurd hr (List.not_mem_nil r)

theorem Origin.of_subset {s' : Store} (h : s.Origin L)
    (hs : ∀ r ∈ s'.pendingCommands, r ∈ s.pendingCommands) : s'.Origin L :=
  fun r hr => h r (hs r hr)

theorem origin_updateCommand (h : s.Origin L) {devId command cType : String}
    (hm : (devId, command, cType) ∈ L) (now : ℕ) :
    (s.updateCommand now command devId cType).Origin L := by
  intro r hr
  obtain ⟨x, hx, rfl⟩ := List.mem_map.1 hr
  split_ifs with hc
  · obtain ⟨hd, ht⟩ := hc
    simpa [hd, ht] using hm
  · exact h x hx

theorem origin_insertCommand (h : s.Origin L) {devId command cType : String}
    (hm : (devId, command, cType) ∈ L) (now : ℕ) :
    (s.insertCommand devId now command cType).Origin L := by
  intro r hr
  rcases List.mem_append.1 hr with hr | hr
  · exact h r hr
  · rw [List.mem_singleton.1 hr]
    exact hm

theorem origin_deleteCommand (h : s.Origin L) (id : ℕ) : (s.deleteCommand id).Origin L :=
  h.of_subset fun _ hr => (List.mem_filter.1 hr).1

theorem origin_deleteFrom (h : s.Origin L) (t : Table) (devId : String) :
    (s.deleteFrom t devId).Origin L := by
  cases t
  case pendingCommands => exact h.of_subset fun _ hr => (List.mem_filter.1 hr).1
  all_goals exact h

/-- The row `GetPending`'s select returns carries its device, and a command and a type stored
for it. -/
theorem stored_of_selectPending (h : s.Origin L) {devId : String} {r : CommandRow}
    (hr : s.selectPending devId = some r) : (devId, r.cmd, r.type) ∈ L := by
  obtain ⟨hmem, hdev⟩ := List.mem_filter.1 (oldest_mem _ hr)
  simpa [of_decide_eq_true hdev] using h r hmem

end Store

/-! ### Every call, whichever statements fail -/

namespace PgStore

variable (env : Env) {L : List (String × String × String)}

theorem origin_deleteTables (f : Faults) (devId : String) :
    ∀ (i : ℕ) (ts : List Table) {s : Store}, s.Origin L → (deleteTables f devId i ts s).2.Origin L
  | _, [], _, h => h
  | i, t :: ts, s, h => by
    simp only [deleteTables]
    split_ifs
    · exact h
    · exact origin_deleteTables f devId (i + 1) ts (Store.origin_deleteFrom h t devId)

/-- **Every call keeps the triples of the rows stored**, whichever of its statements fail, once
what it stores itself is in the list. -/
theorem origin_exec {s : Store} (h : s.Origin L) (op : Op) (hop : op.stored ⊆ L) (f : Faults) :
    (exec env s op f).2.Origin L := by
  cases hq : op.isQueueCall
  · obtain ⟨hp, -⟩ := exec_pendingCommands_of_isQueueCall_eq_false env s op f hq
    exact h.of_subset fun r hr => hp ▸ hr
  cases op <;> simp only [Op.isQueueCall, Bool.false_eq_true] at hq <;> simp only [exec]
  case storeCommand devId command cType now =>
    have hm : (devId, command, cType) ∈ L := hop (List.mem_singleton_self _)
    simp only [storeCommand]
    split_ifs
    · exact h
    · exact Store.origin_updateCommand h hm now
    · exact Store.origin_insertCommand (Store.origin_updateCommand h hm now) hm now
    · exact Store.origin_updateCommand h hm now
  case getPending devId now =>
    simp only [getPending, touch, execOne]
    split_ifs <;> (try split) <;> first | exact h | exact Store.origin_deleteCommand h _
  case purgeCommands devId =>
    simp only [purgeCommands, execOne]
    split_ifs
    · exact h
    · exact Store.origin_deleteFrom h _ _
  case deleteDevice devId => exact origin_deleteTables f devId 0 deviceTables h

theorem origin_runF : ∀ (calls : List (Op × Faults)) {s : Store}, s.Origin L →
    (∀ c ∈ calls, c.1.stored ⊆ L) → (runF env s calls).2.Origin L
  | [], _, h, _ => h
  | (op, f) :: calls, _, h, hc =>
    origin_runF calls (origin_exec env h op (hc _ (.head _)) f) fun c hm => hc c (.tail _ hm)

/-- A triple stored by a call of a list belongs to the list of what its calls store. -/
theorem stored_subset {ops : List Op} {op : Op} (h : op ∈ ops) :
    op.stored ⊆ ops.flatMap Op.stored :=
  fun _ hm => List.mem_flatMap.2 ⟨op, h, hm⟩

/-- What the calls of a list store is what `StoreCommand` calls of the list were called with. -/
theorem mem_flatMap_stored {ops : List Op} {devId command cType : String}
    (h : (devId, command, cType) ∈ ops.flatMap Op.stored) :
    ∃ now, Op.storeCommand devId command cType now ∈ ops := by
  obtain ⟨op, hop, hm⟩ := List.mem_flatMap.1 h
  cases op <;> simp only [Op.stored, List.mem_singleton, List.not_mem_nil, Prod.mk.injEq] at hm
  obtain ⟨rfl, rfl, rfl⟩ := hm
  exact ⟨_, hop⟩

/-- What `GetPending` returns: the empty pair, or the command and the type of the row its select
found, whichever statements fail. -/
theorem getPending_reply {s : Store} {d : String} {now : ℕ} {f : Faults} {cmd ctype : String}
    {e : Option StoreError} (h : (getPending s d now f).1 = .pending cmd ctype e) :
    (cmd, ctype) = ("", "") ∨ ∃ r, s.selectPending d = some r ∧ r.cmd = cmd ∧ r.type = ctype := by
  simp only [getPending] at h
  split_ifs at h <;> cases hsel : s.selectPending d <;> simp only [hsel, Reply.pending.injEq] at h
  all_goals first
    | exact .inr ⟨_, rfl, h.1, h.2.1⟩
    | exact .inl (by rw [← h.1, ← h.2.1])

/-- **After every run, a `GetPending(d)` returns a command stored for `d`.**  From the empty
database, whichever statements fail in the run and in the `GetPending` itself, the command and
the type it returns are the empty pair, or a command and a type that a `StoreCommand(d, ...)` of
the run was called with. -/
theorem getPending_stored (calls : List (Op × Faults)) (d : String) (now : ℕ) (f : Faults)
    {cmd ctype : String} {e : Option StoreError}
    (h : (getPending (runF env Store.empty calls).2 d now f).1 = .pending cmd ctype e) :
    (cmd, ctype) = ("", "") ∨ ∃ now', Op.storeCommand d cmd ctype now' ∈ calls.map Prod.fst := by
  have horigin := origin_runF env (L := (calls.map Prod.fst).flatMap Op.stored) calls
    Store.origin_empty fun c hc => stored_subset (List.mem_map_of_mem Prod.fst hc)
  obtain h | ⟨r, hr, rfl, rfl⟩ := getPending_reply h
  · exact .inl h
  · exact .inr (mem_flatMap_stored (Store.stored_of_selectPending horigin hr))

theorem getPending_stored_lock :
    (getPending (runF Env.sample Store.empty [(.storeCommand "dev-1" "lock" "lock" 0, .none)]).2
        "dev-1" 1 .none).1 = .pending "lock" "lock" none ∧
      (("lock", "lock") = ("", "") ∨ ∃ now', Op.storeCommand "dev-1" "lock" "lock" now' ∈
        [(Op.storeCommand "dev-1" "lock" "lock" 0, Faults.none)].map Prod.fst) :=
  ⟨rfl, getPending_stored Env.sample _ "dev-1" 1 .none rfl⟩

end PgStore

/-! ### One statement -/

namespace Thread

variable (env : Env) {L : List (String × String × String)} {s : Store}

/-- A `StoreCommand` in flight stores a device, command and type of `L`. -/
def Legit (L : List (String × String × String)) : Thread → Prop
  | .call op => op.stored ⊆ L
  | .storeInsert devId command cType _ => (devId, command, cType) ∈ L
  | _ => True

/-- A `GetPending(d)` in flight, or returned: past its select it holds, and it returns, the empty
pair or a command and a type stored for `d`. -/
def Delivers (L : List (String × String × String)) (d : String) : Thread → Prop
  | .call (.getPending devId _) => devId = d
  | .pendingDelete devId _ r => devId = d ∧ (d, r.cmd, r.type) ∈ L
  | .pendingTouch devId _ cmd ctype => devId = d ∧ ((cmd, ctype) = ("", "") ∨ (d, cmd, ctype) ∈ L)
  | .done (.pending cmd ctype _) => (cmd, ctype) = ("", "") ∨ (d, cmd, ctype) ∈ L
  | _ => False

/-- Every statement keeps the triples of the rows stored. -/
theorem step_origin (h : s.Origin L) {t : Thread} (ht : t.Legit L) : (t.step env s).2.Origin L := by
  cases t
  case call op =>
    cases op
    case checkNonce nonce now => simp only [step]; split <;> exact h
    case registerDevice userid dev uuid now => simp only [step]; split <;> exact h
    case getDevicesForUser userId oldUserId => simp only [step]; split <;> exact h
    case storeCommand devId command cType now =>
      simp only [step]
      split <;> exact Store.origin_updateCommand h (ht (List.mem_singleton_self _)) now
    case getPending devId now => simp only [step]; split <;> exact h
    case setDeviceLocation devId position now => exact Store.origin_deleteFrom h .position devId
    case deleteDevice devId => exact Store.origin_deleteFrom h .pendingCommands devId
    all_goals exact PgStore.origin_exec env h _ ht .none
  case checkSelect key sig => simp only [step]; split <;> exact h
  case storeInsert devId command cType now => exact Store.origin_insertCommand h ht now
  case pendingDelete devId now r => exact Store.origin_deleteCommand h r.id
  case deleting devId ts =>
    cases ts with
    | nil => exact h
    | cons t ts => exact Store.origin_deleteFrom h t devId
  all_goals exact h

/-- A `StoreCommand` in flight keeps storing what its call stores. -/
theorem step_legit {t : Thread} (ht : t.Legit L) : (t.step env s).1.Legit L := by
  cases t
  case call op =>
    cases op
    case checkNonce nonce now => simp only [step]; split <;> trivial
    case registerDevice userid dev uuid now => simp only [step]; split <;> trivial
    case getDevicesForUser userId oldUserId => simp only [step]; split <;> trivial
    case storeCommand devId command cType now =>
      simp only [step]
      split
      · exact ht (List.mem_singleton_self _)
      · trivial
    case getPending devId now => simp only [step]; split <;> trivial
    all_goals trivial
  case checkSelect key sig => simp only [step]; split <;> trivial
  case deleting devId ts =>
    cases ts with
    | nil => trivial
    | cons t ts => simp only [step, deleteNext]; split <;> trivial
  all_goals trivial

/-- **One statement of a `GetPending(d)` keeps what it holds stored for `d`**: its select takes
a row of `d`, whose command and type are stored for `d`, and its delete and `Touch` carry them
on. -/
theorem step_delivers (h : s.Origin L) {d : String} {t : Thread} (ht : t.Delivers L d) :
    (t.step env s).1.Delivers L d := by
  cases t
  case call op =>
    cases op <;> simp only [Delivers] at ht
    subst ht
    simp only [step]
    split
    · exact ⟨rfl, .inl rfl⟩
    · next r hr => exact ⟨rfl, Store.stored_of_selectPending h hr⟩
  case pendingDelete devId now r => exact ⟨ht.1, .inr ht.2⟩
  case pendingTouch devId now cmd ctype => exact ht.2
  case done reply => exact ht
  all_goals exact ht.elim

end Thread

/-! ### Every schedule -/

namespace PgStore

variable (env : Env) {L : List (String × String × String)}

/-- One statement of any thread keeps the rows' triples stored and every `StoreCommand` in
flight storing a triple of `L`, and a `GetPending(d)` at index `i` holding what is stored for
`d`. -/
theorem stepAt_origin {σ : Store × List Thread} (hs : σ.1.Origin L) (ht : ∀ t ∈ σ.2, t.Legit L)
    (j : ℕ) : (stepAt env σ j).1.Origin L ∧ (∀ t ∈ (stepAt env σ j).2, t.Legit L) ∧
      ∀ {i : ℕ} {d : String} {t : Thread}, σ.2[i]? = some t → t.Delivers L d →
        ∃ t', (stepAt env σ j).2[i]? = some t' ∧ t'.Delivers L d := by
  obtain ⟨s, ts⟩ := σ
  simp only [stepAt]
  split
  · next t htj =>
    have hl := ht t (List.getElem?_mem htj)
    refine ⟨Thread.step_origin env hs hl, fun t' ht' => ?_, fun {i d u} hu hd => ?_⟩
    · rcases List.mem_or_eq_of_mem_set ht' with ht' | rfl
      · exact ht t' ht'
      · exact Thread.step_legit env hl
    · by_cases hij : j = i
      · subst hij
        rw [htj] at hu
        cases hu
        refine ⟨_, ?_, Thread.step_delivers env hs hd⟩
        rw [List.getElem?_set_self (List.getElem?_eq_some_iff.1 htj).1]
      · exact ⟨u, by rw [List.getElem?_set_ne hij, hu], hd⟩
  · exact ⟨hs, ht, fun hu hd => ⟨_, hu, hd⟩⟩

theorem interleave_origin : ∀ (sched : List ℕ) {σ : Store × List Thread}, σ.1.Origin L →
    (∀ t ∈ σ.2, t.Legit L) → ∀ {i : ℕ} {d : String} {t : Thread}, σ.2[i]? = some t →
      t.Delivers L d →
      ∃ t', (interleave env σ sched).2[i]? = some t' ∧ t'.Delivers L d
  | [], _, _, _, _, _, _, hu, hd => ⟨_, hu, hd⟩
  | j :: sched, σ, hs, ht, _, _, _, hu, hd => by
    obtain ⟨hs', ht', hi⟩ := stepAt_origin env hs ht j
    obtain ⟨u', hu', hd'⟩ := hi hu hd
    exact interleave_origin sched hs' ht' hu' hd'

/-- **A `GetPending(d)` run concurrently is handed only commands stored for `d`.**  From every
state a run reaches, whichever statements failed on the way, run the calls `ops` concurrently,
statement by statement, under any schedule: when the call at index `i` is a `GetPending(d)` and
has returned, the command and the type it returned are the empty pair, or a command and a type
that a `StoreCommand(d, ...)` of the run or of `ops` was called with. -/
theorem interleave_getPending_stored (calls : List (Op × Faults)) (ops : List Op)
    (sched : List ℕ) {i : ℕ} {d : String} {now : ℕ} (hi : ops[i]? = some (.getPending d now))
    {cmd ctype : String} {e : Option StoreError}
    (hdone : (interleave env ((runF env Store.empty calls).2, ops.map .call) sched).2[i]? =
      some (.done (.pending cmd ctype e))) :
    (cmd, ctype) = ("", "") ∨
      ∃ now', Op.storeCommand d cmd ctype now' ∈ calls.map Prod.fst ++ ops := by
  have hs := origin_runF env (L := (calls.map Prod.fst ++ ops).flatMap Op.stored) calls
    Store.origin_empty fun c hc =>
      stored_subset (List.mem_append_left _ (List.mem_map_of_mem Prod.fst hc))
  have ht : ∀ t ∈ ops.map Thread.call, t.Legit ((calls.map Prod.fst ++ ops).flatMap Op.stored) := by
    intro t htm
    obtain ⟨op, hop, rfl⟩ := List.mem_map.1 htm
    exact stored_subset (List.mem_append_right _ hop)
  have hstart : (ops.map Thread.call)[i]? = some (.call (.getPending d now)) := by
    rw [List.getElem?_map, hi]
    rfl
  obtain ⟨t', ht', hd⟩ := interleave_origin env sched
    (σ := ((runF env Store.empty calls).2, ops.map Thread.call)) hs ht hstart (rfl : d = d)
  rw [hdone] at ht'
  cases ht'
  exact hd.imp id mem_flatMap_stored

theorem interleave_getPending_stored_lock :
    [Op.storeCommand "dev-1" "lock" "lock" 0, .getPending "dev-1" 1][1]? =
        some (.getPending "dev-1" 1) ∧
      (interleave Env.sample ((runF Env.sample Store.empty []).2,
          [Op.storeCommand "dev-1" "lock" "lock" 0, .getPending "dev-1" 1].map .call)
          [0, 0, 1, 1, 1]).2[1]? = some (.done (.pending "lock" "lock" none)) ∧
      (("lock", "lock") = ("", "") ∨ ∃ now', Op.storeCommand "dev-1" "lock" "lock" now' ∈
        ([] : List (Op × Faults)).map Prod.fst ++
          [Op.storeCommand "dev-1" "lock" "lock" 0, .getPending "dev-1" 1]) :=
  ⟨rfl, by decide, interleave_getPending_stored Env.sample [] _ [0, 0, 1, 1, 1] (i := 1) (e := none)
    rfl (by decide)⟩

end PgStore

end FindMyDevice
