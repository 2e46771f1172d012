/-
**Concurrent calls of the store, one SQL statement at a time.**

The HTTP handlers call `pgStore` from many goroutines at once, and each method is a sequence of
statements that Postgres runs one by one, each committed on its own: nothing makes a method
atomic.  This module splits every method into its statements, and interleaves calls at that
grain.

* `CheckNonce`: the purge of expired nonces (with the local cut of the presented string), the
  lookup of the key, the delete of the key;
* `RegisterDevice`: the select of the user's mapping of the device, then the update of its info
  row, or the insert of an info row and then the insert of a mapping;
* `GetDevicesForUser`: the re-key of the old user id, when there is one, then the listing;
* `StoreCommand`: the update of the device's command of that type, then, when it affected no
  row, the insert;
* `GetPending`: the select of the oldest command, its delete by id, the update of `Touch`;
* `SetDeviceLocation`: the delete of `PurgePosition`, then the insert of the new row;
* `DeleteDevice`: its four deletes, one table after another.

Every other method runs one statement that reads or writes a table (`GetDeviceInfo` and
`GcDatabase` prepare theirs first, which touches no table), so it runs as one step, as
`PgStore.exec` does.  A call in flight is a `FindMyDevice.Thread`: the statement it runs next
and the local variables the Go code holds there.  A system is the database and a list of threads;
a schedule is the list of the threads that run a statement, in order
(`FindMyDevice.PgStore.interleave`).

The split is checked against the sequential model: a thread run alone performs exactly the call
`PgStore.exec` performs (`FindMyDevice.PgStore.runAlone_call`), so a schedule that runs the calls
one after another is the sequential run `PgStore.run` (`FindMyDevice.PgStore.interleave_serial`).
Two lemmas take a schedule apart by what it runs of each call: a stretch that runs one call while
the others named have returned is that call run alone (`FindMyDevice.PgStore.interleave_alone`),
and for two calls whose statements, counted, determine where they stand, any schedule leaves each
at the count of its own statements (`FindMyDevice.PgStore.interleave_pair`).

Main definitions:

* `FindMyDevice.Thread`, `FindMyDevice.Thread.step` — a call in flight and its next statement;
* `FindMyDevice.PgStore.stepAt`, `FindMyDevice.PgStore.interleave` — runs of a schedule;
* `FindMyDevice.PgStore.serial` — the schedule that runs the calls one after another.

Main results:

* `FindMyDevice.PgStore.runAlone_call` — a thread run alone is the call;
* `FindMyDevice.PgStore.interleave_serial` — **the serial schedule is the sequential run**;
* `FindMyDevice.PgStore.interleave_alone`, `FindMyDevice.PgStore.interleave_pair` — a schedule
  taken apart by the statements it runs of each call;
* `FindMyDevice.PgStore.interleave_range_of_step` — a round in which every thread runs one
  statement, for statements that do not depend on what the others did.
-/

import FindMyDevice.PgStore

set_option relaxedAutoImplicit false
set_option autoImplicit false

namespace FindMyDevice

/-- A call of the store in flight: the statement it runs next, with the local variables the Go
method holds at that point. -/
inductive Thread
  /-- A call that has not run a statement yet. -/
  | call (op : Op)
  /-- `CheckNonce` after its purge and the cut of the presented string into `key` and `sig`:
  next, `select val from nonce where key = $1 limit 1`. -/
  | checkSelect (key sig : String)
  /-- `CheckNonce` after its lookup found `val`: next, `delete from nonce where key = $1`. -/
  | checkDelete (key sig val : String)
  /-- `RegisterDevice` after its select found the user's mapping of device `id`: next, the
  update of its info row. -/
  | registerUpdate (dev : Device) (id : String) (now : ℕ)
  /-- `RegisterDevice` after its select found none: next, the insert of an info row for `id`. -/
  | registerInsert (userid : String) (dev : Device) (id : String) (now : ℕ)
  /-- `RegisterDevice` with the info row in: next, the insert of the mapping of `id` to
  `userid`. -/
  | registerMap (userid id : String) (now : ℕ)
  /-- `GetDevicesForUser` after its re-key: next, the listing of the devices of `uid`. -/
  | devicesSelect (uid : String)
  /-- `StoreCommand` after an update that affected no row: next, the insert. -/
  | storeInsert (devId command cType : String) (now : ℕ)
  /-- `GetPending` after its select found the row `r`: next, the delete of `r` by id. -/
  | pendingDelete (devId : String) (now : ℕ) (r : CommandRow)
  /-- `GetPending` about to return `cmd` and `ctype`: next, the update of `Touch(devId)`. -/
  | pendingTouch (devId : String) (now : ℕ) (cmd ctype : String)
  /-- `SetDeviceLocation` after `PurgePosition(devId)`: next, the insert of the new row. -/
  | locationInsert (devId : String) (position : Position) (now : ℕ)
  /-- `DeleteDevice(devId)` with the tables `ts` it has still to clear, in its order: next, the
  delete from the first. -/
  | deleting (devId : String) (ts : List Table)
  /-- A call that has returned. -/
  | done (reply : Reply)
  deriving DecidableEq, Repr

namespace Thread

variable (env : Env)

/-- `DeleteDevice`'s delete from the first of the tables `ts` it has still to clear; the call
returns after the last. -/
def deleteNext (devId : String) (s : Store) : List Table → Thread × Store
  | [] => (.done (.err none), s)
  | t :: ts => (if ts = [] then .done (.err none) else .deleting devId ts, s.deleteFrom t devId)

/-- The next statement of a call in flight, every statement succeeding: the thread it leaves and
the database after the statement.  A call that has returned runs nothing. -/
def step (s : Store) : Thread → Thread × Store
  | .call (.checkNonce nonce now) =>
    let s := s.gcNonces now
    match Go.splitN nonce "." 2 with
    | [key, sig] => (.checkSelect key sig, s)
    | _ => (.done (.check false none), s)
  | .checkSelect key sig =>
    match s.selectNonce key with
    | none => (.done (.check false none), s)
    | some val => (.checkDelete key sig val, s)
  | .checkDelete key sig val =>
    (.done (.check (decide (PgStore.genSig env key val = sig)) none), s.deleteNonce key)
  | .call (.registerDevice userid dev uuid now) =>
    let id := PgStore.assignedId dev uuid
    if s.mapsDevice userid id then (.registerUpdate dev id now, s)
    else (.registerInsert userid dev id now, s)
  | .registerUpdate dev id now => (.done (.devId id none), s.updateDevice dev id now)
  | .registerInsert userid dev id now => (.registerMap userid id now, s.insertDevice dev id now)
  | .registerMap userid id now => (.done (.devId id none), s.insertMapping userid id now)
  | .call (.getDevicesForUser userId oldUserId) =>
    if oldUserId ≠ "" ∧ userId ≠ oldUserId then
      (.devicesSelect userId, s.rekeyUser userId oldUserId)
    else (.done (.devices (s.selectDevices userId env.maxDevicesForUser) none), s)
  | .devicesSelect uid => (.done (.devices (s.selectDevices uid env.maxDevicesForUser) none), s)
  | .call (.storeCommand devId command cType now) =>
    let cnt := s.countCommands devId cType
    let s := s.updateCommand now command devId cType
    if cnt = 0 then (.storeInsert devId command cType now, s) else (.done (.err none), s)
  | .storeInsert devId command cType now =>
    (.done (.err none), s.insertCommand devId now command cType)
  | .call (.getPending devId now) =>
    match s.selectPending devId with
    | none => (.pendingTouch devId now "" "", s)
    | some r => (.pendingDelete devId now r, s)
  | .pendingDelete devId now r => (.pendingTouch devId now r.cmd r.type, s.deleteCommand r.id)
  | .pendingTouch devId now cmd ctype => (.done (.pending cmd ctype none), s.touch devId now)
  | .call (.setDeviceLocation devId position now) =>
    (.locationInsert devId position now, s.deleteFrom .position devId)
  | .locationInsert devId position now =>
    (.done (.err none), s.insertPosition (PgStore.locationRow env devId position now))
  | .call (.deleteDevice devId) => deleteNext devId s PgStore.deviceTables
  | .deleting devId ts => deleteNext devId s ts
  | .call op => (.done (PgStore.exec env s op .none).1, (PgStore.exec env s op .none).2)
  | .done r => (.done r, s)

/-- The thread run alone for `n` statements. -/
def runAlone : Store → Thread → ℕ → Thread × Store
  | s, t, 0 => (t, s)
  | s, t, n + 1 => runAlone (t.step env s).2 (t.step env s).1 n

theorem runAlone_done (r : Reply) : ∀ (s : Store) (n : ℕ), (Thread.done r).runAlone env s n = (.done r, s)
  | _, 0 => rfl
  | s, n + 1 => runAlone_done r s n

/-- A call that has returned after `n` statements stays so. -/
theorem runAlone_add_of_done {t : Thread} {s : Store} {n : ℕ} {r : Reply}
    (h : (t.runAlone env s n).1 = .done r) (m : ℕ) :
    t.runAlone env s (n + m) = t.runAlone env s n := by
  induction n generalizing s t with
  | zero =>
    subst h
    rw [Nat.zero_add]
    exact runAlone_done env r s m
  | succ n ih => rw [Nat.add_right_comm]; exact ih h

end Thread

namespace PgStore

variable (env : Env)

/-- Thread `i` runs its next statement; a schedule naming no thread changes nothing. -/
def stepAt (σ : Store × List Thread) (i : ℕ) : Store × List Thread :=
  match σ.2[i]? with
  | some t => ((t.step env σ.1).2, σ.2.set i (t.step env σ.1).1)
  | none => σ

/-- The run of a schedule: the named threads run a statement each, in the schedule's order. -/
def interleave (σ : Store × List Thread) (sched : List ℕ) : Store × List Thread :=
  sched.foldl (stepAt env) σ

/-- The schedule that runs `n` calls one after another: four statements of each, the most any
call has. -/
def serial (n : ℕ) : List ℕ := (List.range n).flatMap fun i => List.replicate 4 i

theorem interleave_append (σ : Store × List Thread) (l₁ l₂ : List ℕ) :
    interleave env σ (l₁ ++ l₂) = interleave env (interleave env σ l₁) l₂ :=
  List.foldl_append _ _ _ _

/-- Two calls in flight: the first runs a statement. -/
@[simp] theorem stepAt_pair_zero (s : Store) (t₀ t₁ : Thread) :
    stepAt env (s, [t₀, t₁]) 0 = ((t₀.step env s).2, [(t₀.step env s).1, t₁]) := rfl

/-- Two calls in flight: the second runs a statement. -/
@[simp] theorem stepAt_pair_one (s : Store) (t₀ t₁ : Thread) :
    stepAt env (s, [t₀, t₁]) 1 = ((t₁.step env s).2, [t₀, (t₁.step env s).1]) := rfl

/-- The thread at position `pre.length` runs a statement. -/
theorem stepAt_mid (s : Store) (pre post : List Thread) (t : Thread) :
    stepAt env (s, pre ++ t :: post) pre.length =
      ((t.step env s).2, pre ++ (t.step env s).1 :: post) := by
  simp only [stepAt, List.getElem?_append_right (le_refl _), Nat.sub_self, List.getElem?_cons_zero,
    List.set_append_right _ _ (le_refl _), List.set_cons_zero]

theorem interleave_replicate_mid (pre post : List Thread) (n : ℕ) :
    ∀ (s : Store) (t : Thread), interleave env (s, pre ++ t :: post) (List.replicate n pre.length) =
      ((t.runAlone env s n).2, pre ++ (t.runAlone env s n).1 :: post) := by
  induction n with
  | zero => exact fun _ _ => rfl
  | succ n ih =>
    intro s t
    rw [List.replicate_succ, interleave, List.foldl_cons, stepAt_mid]
    exact ih _ _

/-- **A thread run alone is the call**: four statements of a call in flight, with no other
call in between, give the reply and the database of `exec` without faults. -/
theorem runAlone_call (s : Store) (op : Op) :
    (Thread.call op).runAlone env s 4 = (.done (exec env s op .none).1, (exec env s op .none).2) := by
  cases op
  case checkNonce nonce now =>
    simp only [exec, checkNonce, Faults.none_fails, Bool.false_eq_true, if_false]
    rcases h : Go.splitN nonce "." 2 with _ | ⟨key, _ | ⟨sig, _ | ⟨x, rest⟩⟩⟩
    all_goals simp only [Thread.runAlone, Thread.step, h]
    cases (s.gcNonces now).selectNonce key <;> rfl
  case registerDevice userid dev uuid now =>
    rw [exec, registerDevice_none]
    by_cases h : s.mapsDevice userid (assignedId dev uuid) <;>
      simp only [Thread.runAlone, Thread.step, h, if_true, if_false, Bool.false_eq_true]
  case getDevicesForUser userId oldUserId =>
    rw [exec, getDevicesForUser_none]
    by_cases h : oldUserId ≠ "" ∧ userId ≠ oldUserId
    · simp only [Thread.runAlone, Thread.step, if_pos h]
    · simp only [Thread.runAlone, Thread.step, if_neg h]
  case storeCommand devId command cType now =>
    rw [exec, storeCommand_none]
    by_cases h : s.countCommands devId cType = 0 <;> simp only [Thread.runAlone, Thread.step, h,
      if_true, if_false]
  case getPending devId now =>
    rw [exec, getPending_none]
    cases h : s.selectPending devId <;> simp only [Thread.runAlone, Thread.step, h]
  all_goals rfl

theorem interleave_serial_from (ops : List Op) :
    ∀ (s : Store) (pre : List Thread),
      interleave env (s, pre ++ ops.map .call)
          ((List.range' pre.length ops.length).flatMap fun i => List.replicate 4 i) =
        ((run env s ops).2, pre ++ (run env s ops).1.map .done) := by
  induction ops with
  | nil => intro s pre; simp [interleave]
  | cons op ops ih =>
    intro s pre
    have hlen : (pre ++ [Thread.done (exec env s op .none).1]).length = pre.length + 1 := by simp
    rw [List.length_cons, List.range'_succ, List.flatMap_cons, interleave_append, List.map_cons,
      interleave_replicate_mid, runAlone_call, ← List.singleton_append, ← List.append_assoc, ← hlen,
      ih, run_cons]
    simp

/-- **The serial schedule is the sequential run**: running the calls one after another, each to
its end, gives the database and the replies of `PgStore.run`. -/
theorem interleave_serial (s : Store) (ops : List Op) :
    interleave env (s, ops.map .call) (serial ops.length) =
      ((run env s ops).2, (run env s ops).1.map .done) := by
  simpa [serial, List.range_eq_range'] using interleave_serial_from env ops s []

/-- **A round in which every thread runs one statement**, in the order of the list: when the
statement of each thread `t`, from any database satisfying `P`, leaves `f t` and a database
satisfying `P`, the round leaves the threads mapped by `f`. -/
theorem interleave_range'_of_step {P : Store → Prop} {f : Thread → Thread} (ts : List Thread)
    (hstep : ∀ s, P s → ∀ t ∈ ts, (t.step env s).1 = f t ∧ P (t.step env s).2) :
    ∀ (s : Store) (pre : List Thread), P s →
      ∃ s', P s' ∧
        interleave env (s, pre ++ ts) (List.range' pre.length ts.length) = (s', pre ++ ts.map f) := by
  induction ts with
  | nil => exact fun s pre hs => ⟨s, hs, by simp [interleave]⟩
  | cons t ts ih =>
    intro s pre hs
    obtain ⟨ht, hP⟩ := hstep s hs t (List.mem_cons_self t ts)
    obtain ⟨s', hs', heq⟩ := ih (fun s hs t' ht' => hstep s hs t' (List.mem_cons_of_mem t ht'))
      (t.step env s).2 (pre ++ [f t]) hP
    refine ⟨s', hs', ?_⟩
    rw [List.length_cons, List.range'_succ, interleave, List.foldl_cons, stepAt_mid, ht]
    simpa using heq

theorem interleave_range_of_step {P : Store → Prop} {f : Thread → Thread} (ts : List Thread)
    (hstep : ∀ s, P s → ∀ t ∈ ts, (t.step env s).1 = f t ∧ P (t.step env s).2) (s : Store)
    (hs : P s) : ∃ s', P s' ∧ interleave env (s, ts) (List.range ts.length) = (s', ts.map f) := by
  simpa [List.range_eq_range'] using interleave_range'_of_step env ts hstep s [] hs

/-! ### Taking a schedule apart -/

theorem getElem?_set_of_ne {ts : List Thread} {i j : ℕ} (h : j ≠ i) (t : Thread) :
    (ts.set i t)[j]? = ts[j]? :=
  List.getElem?_set_ne (Ne.symm h)

theorem set_of_getElem? {ts : List Thread} {i : ℕ} {t : Thread} (h : ts[i]? = some t) :
    ts.set i t = ts := by
  refine List.ext_getElem? fun j => ?_
  by_cases hj : j = i
  · subst hj
    rw [List.getElem?_set_self (List.getElem?_eq_some_iff.1 h).1, h]
  · exact getElem?_set_of_ne hj t

/-- A statement of a thread that has returned, or of none, changes nothing. -/
theorem stepAt_of_done {σ : Store × List Thread} {j : ℕ}
    (h : ∀ u, σ.2[j]? = some u → ∃ r, u = .done r) : stepAt env σ j = σ := by
  obtain ⟨s, ts⟩ := σ
  simp only [stepAt]
  split
  · next u hu =>
    obtain ⟨r, rfl⟩ := h u hu
    simp only [Thread.step, Prod.mk.injEq, true_and]
    exact set_of_getElem? hu
  · rfl

/-- **A stretch that runs one call, the others it names having returned, is that call run
alone** for as many statements as the stretch names it. -/
theorem interleave_alone {i : ℕ} : ∀ (sched : List ℕ) (s : Store) (ts : List Thread) (t : Thread),
    ts[i]? = some t → (∀ j ∈ sched, j ≠ i → ∀ u, ts[j]? = some u → ∃ r, u = .done r) →
    interleave env (s, ts) sched =
      ((t.runAlone env s (sched.count i)).2, ts.set i (t.runAlone env s (sched.count i)).1)
  | [], s, ts, t, ht, _ => by simp [interleave, Thread.runAlone, set_of_getElem? ht]
  | j :: sched, s, ts, t, ht, hdone => by
    have hrest : ∀ j' ∈ sched, j' ≠ i → ∀ u, ts[j']? = some u → ∃ r, u = .done r :=
      fun j' hj' => hdone j' (List.mem_cons_of_mem j hj')
    rw [interleave, List.foldl_cons]
    by_cases hji : j = i
    · subst hji
      have hstep : stepAt env (s, ts) j = ((t.step env s).2, ts.set j (t.step env s).1) := by
        simp only [stepAt, ht]
      rw [hstep, ← interleave, interleave_alone sched _ _ (t.step env s).1
        (List.getElem?_set_self (List.getElem?_eq_some_iff.1 ht).1)
        (fun j' hj' hne u hu => hrest j' hj' hne u (by rwa [getElem?_set_of_ne hne] at hu)),
        List.count_cons_self, Thread.runAlone, List.set_set]
    · rw [stepAt_of_done env (hdone j (List.mem_cons_self j sched) hji), ← interleave,
        interleave_alone sched s ts t ht hrest, List.count_cons_of_ne (Ne.symm hji)]

/-- **Two calls whose statements, counted, tell where they stand.**  Let `t₀` and `t₁` be paths
of two calls in flight, and `Q a b` what the database satisfies once the first has run `a`
statements and the second `b`.  When the next statement of each, from every such database, moves
it one place along its path and keeps `Q` at the new counts, up to `A` statements of the first and
`B` of the second, then every schedule that runs no more of them leaves each call at the place of
its own count, on a database satisfying `Q` there. -/
theorem interleave_pair {Q : ℕ → ℕ → Store → Prop} (t₀ t₁ : ℕ → Thread) {A B : ℕ}
    (h₀ : ∀ a b s, a < A → b ≤ B → Q a b s →
      ((t₀ a).step env s).1 = t₀ (a + 1) ∧ Q (a + 1) b ((t₀ a).step env s).2)
    (h₁ : ∀ a b s, a ≤ A → b < B → Q a b s →
      ((t₁ b).step env s).1 = t₁ (b + 1) ∧ Q a (b + 1) ((t₁ b).step env s).2) :
    ∀ (sched : List ℕ) (a b : ℕ) (s : Store), a + sched.count 0 ≤ A → b + sched.count 1 ≤ B →
      Q a b s → ∃ s', Q (a + sched.count 0) (b + sched.count 1) s' ∧
        interleave env (s, [t₀ a, t₁ b]) sched =
          (s', [t₀ (a + sched.count 0), t₁ (b + sched.count 1)])
  | [], a, b, s, _, _, hQ => ⟨s, hQ, rfl⟩
  | j :: sched, a, b, s, hA, hB, hQ => by
    rw [interleave, List.foldl_cons, ← interleave]
    rcases j with _ | _ | j
    · simp only [List.count_cons_self, List.count_cons_of_ne (by omega : 0 ≠ 1)] at hA hB ⊢
      obtain ⟨ht, hQ'⟩ := h₀ a b s (by omega) (by omega) hQ
      rw [stepAt_pair_zero, ht, show a + (sched.count 0 + 1) = a + 1 + sched.count 0 by omega]
      exact interleave_pair t₀ t₁ h₀ h₁ sched (a + 1) b _ (by omega) hB hQ'
    · simp only [List.count_cons_self, List.count_cons_of_ne (by omega : 1 ≠ 0)] at hA hB ⊢
      obtain ⟨ht, hQ'⟩ := h₁ a b s (by omega) (by omega) hQ
      rw [stepAt_pair_one, ht, show b + (sched.count 1 + 1) = b + 1 + sched.count 1 by omega]
      exact interleave_pair t₀ t₁ h₀ h₁ sched a (b + 1) _ hA (by omega) hQ'
    · simp only [List.count_cons_of_ne (by omega : 0 ≠ j + 2),
        List.count_cons_of_ne (by omega : 1 ≠ j + 2)] at hA hB ⊢
      exact interleave_pair t₀ t₁ h₀ h₁ sched a b s hA hB hQ

end PgStore

end FindMyDevice
