/-
**Concurrent or failing `SetDeviceLocation` calls keep more than the latest position.**

`SetDeviceLocation(devId, position)` runs `PurgePosition(devId)`, whose error it drops, and then
inserts the new row: two statements, each committed on its own.  Run one after another with
every statement succeeding, the calls keep one row per device
(`FindMyDevice.PgStore.getPositions_after_run`).  Two calls for one device whose purges both run
before either insert purge the same rows, and both new rows stay; a call whose purge fails
inserts its row next to the old one and still returns `nil`.  `GetPositions` reads
`order by time limit 1`, the oldest row, so in both cases it returns the older position although
the call with the newer one succeeded.

Main results:

* `FindMyDevice.PgStore.interleave_setDeviceLocation_race` — from any database, two calls for one
  device whose purges run first leave both new rows;
* `FindMyDevice.PgStore.runF_setDeviceLocation_purge_fails` — from any database, two calls for
  one device, the second one's purge failing, leave both new rows;
* `FindMyDevice.PgStore.setDeviceLocation_keeps_older` — **two location reports of one device,
  racing or with the second purge failing: both return `nil`, the device holds two rows, and
  `GetPositions` returns the older position**.
-/

import FindMyDevice.Interleaving

set_option relaxedAutoImplicit false
set_option autoImplicit false

namespace FindMyDevice

namespace PgStore

variable (env : Env)

/-- Two `SetDeviceLocation` calls of one device whose purges both run before either insert:
from any database, both return `nil`, and the table keeps the rows of other devices and both new
rows. -/
theorem interleave_setDeviceLocation_race (s : Store) (d : String) (p₁ p₂ : Position)
    (n₁ n₂ : ℕ) :
    interleave env (s, [.call (.setDeviceLocation d p₁ n₁), .call (.setDeviceLocation d p₂ n₂)])
        [0, 1, 0, 1] =
      ({ s with position := s.position.filter (·.deviceId ≠ d) ++
          [locationRow env d p₁ n₁, locationRow env d p₂ n₂] },
        [.done (.err none), .done (.err none)]) := by
  simp only [interleave, List.foldl_cons, List.foldl_nil, stepAt_pair_zero, stepAt_pair_one,
    Thread.step, Store.deleteFrom, Store.insertPosition, List.filter_filter, Bool.and_self,
    List.append_assoc, List.singleton_append]

/-- Two `SetDeviceLocation` calls of one device one after the other, the second one's purge
failing: from any database, both return `nil`, and the table keeps the rows of other devices and
both new rows, the purge's error being dropped. -/
theorem runF_setDeviceLocation_purge_fails (s : Store) (d : String) (p₁ p₂ : Position)
    (n₁ n₂ : ℕ) :
    runF env s [(.setDeviceLocation d p₁ n₁, .none),
        (.setDeviceLocation d p₂ n₂, ⟨fun i => i == 0⟩)] =
      ([.err none, .err none], { s with position := s.position.filter (·.deviceId ≠ d) ++
          [locationRow env d p₁ n₁, locationRow env d p₂ n₂] }) := by
  simp only [runF, exec, setDeviceLocation, purgePosition, execOne, Store.deleteFrom,
    Store.insertPosition, Faults.none_fails, Bool.false_eq_true, if_false, if_true,
    beq_self_eq_true, List.append_assoc, List.singleton_append]
  rfl

/-- Device `dev-1` reports `p₁` at time 1 and `p₂` at time 2, either concurrently with both
purges first, or one after the other with the second purge failing.  Both calls return `nil`
both times, the table ends up holding both rows of the device, and `GetPositions` returns the
position of time 1. -/
theorem setDeviceLocation_keeps_older (p₁ p₂ : Position) :
    interleave env (Store.empty, [.call (.setDeviceLocation "dev-1" p₁ 1),
        .call (.setDeviceLocation "dev-1" p₂ 2)]) [0, 1, 0, 1] =
      (⟨[], [], [], [locationRow env "dev-1" p₁ 1, locationRow env "dev-1" p₂ 2], [], 0⟩,
        [.done (.err none), .done (.err none)]) ∧
    runF env Store.empty [(.setDeviceLocation "dev-1" p₁ 1, .none),
        (.setDeviceLocation "dev-1" p₂ 2, ⟨fun i => i == 0⟩)] =
      ([.err none, .err none],
        ⟨[], [], [], [locationRow env "dev-1" p₁ 1, locationRow env "dev-1" p₂ 2], [], 0⟩) ∧
    (getPositions ⟨[], [], [], [locationRow env "dev-1" p₁ 1, locationRow env "dev-1" p₂ 2], [],
        0⟩ "dev-1" .none).1 = .positions [(locationRow env "dev-1" p₁ 1).toPosition] none :=
  ⟨interleave_setDeviceLocation_race env Store.empty "dev-1" p₁ p₂ 1 2,
    runF_setDeviceLocation_purge_fails env Store.empty "dev-1" p₁ p₂ 1 2, rfl⟩

end PgStore

end FindMyDevice
