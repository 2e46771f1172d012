/-
**The nonce store over whole runs: which presented nonces `CheckNonce` accepts.**

`GetNonce` inserts a fresh `(key, val, now)` and hands out `key.genSig(key, val)`; `CheckNonce`
purges the nonces older than five minutes, cuts the presented string at its first `.`, looks the
key up, deletes it and compares the signature.  This module follows the `nonce` table through a
whole run of store calls and reads off what a check answers.

The table is a list of rows that calls add and drop one at a time, so its contents after a run
are given by `FindMyDevice.PgStore.mem_foldl_iff` once a single call is understood
(`FindMyDevice.PgStore.mem_exec_nonce`): a row is there exactly when a `GetNonce` inserted it and
no later call dropped it, where a `CheckNonce` drops the rows its purge finds expired and, when
its lookup and its delete succeed, every row of the key it was given.

A check *before* the key is issued deletes nothing, so it does not spoil the nonce issued later:
single use is counted from the issue, not from the start of the run
(`FindMyDevice.PgStore.checkNonce_accepts_despite_check_before_issue`).  With statements that may
fail, a check whose lookup or delete fails consumes nothing either, and a check whose purge fails
may accept a nonce past its five minutes; what stays true whatever fails is that only an issued
nonce is ever accepted (`FindMyDevice.PgStore.checkNonce_accepts_only_issued`).  The code drops
the errors of the purge and of the delete and answers `(true, nil)` all the same, so a failed
delete lets an issued nonce be accepted twice, and a failed purge lets an expired one through
(`FindMyDevice.PgStore.checkNonce_accepts_after_failed_statement`).

Main definitions:

* `FindMyDevice.keyOf` — the part of a presented nonce before its first `.`;
* `FindMyDevice.Op.dropsNonce`, `FindMyDevice.Op.addsNonce` — what one call does to the table.

Main results:

* `FindMyDevice.PgStore.mem_run_nonce_iff` — the rows of the table after a fault-free run;
* `FindMyDevice.PgStore.checkNonce_accepts_iff` — **in a fault-free run with distinct keys free of
  `.` and a clock that does not run backwards, a check accepts exactly a string
  `key.genSig(key, val)` issued at most five minutes earlier whose key no check has been given
  since, and answers `(false, nil)` otherwise**;
* `FindMyDevice.PgStore.checkNonce_accepts_only_issued` — the same, as far as it survives failing
  statements;
* `FindMyDevice.PgStore.checkNonce_accepts_after_failed_statement` — **a failed delete lets a
  nonce be accepted twice, and a failed purge lets an expired nonce be accepted**.
-/

import FindMyDevice.PgStore

set_option relaxedAutoImplicit false
set_option autoImplicit false

namespace FindMyDevice

/-- The part of a presented nonce before its first `.`, as `CheckNonce` cuts it. -/
def keyOf (nonce : String) : Option String :=
  match Go.splitN nonce "." 2 with
  | [key, _] => some key
  | _ => none

theorem splitN_dot_eq_pair_iff (s k x : String) :
    Go.splitN s "." 2 = [k, x] ↔ s = k ++ "." ++ x ∧ '.' ∉ k.data :=
  Go.splitN_singleton_two_eq_pair_iff '.' s k x

theorem keyOf_eq_some_iff (nonce key : String) :
    keyOf nonce = some key ↔ ∃ sig, Go.splitN nonce "." 2 = [key, sig] := by
  unfold keyOf
  split <;> simp_all

theorem keyOf_eq_none_iff (nonce : String) :
    keyOf nonce = none ↔ ∀ key sig, Go.splitN nonce "." 2 ≠ [key, sig] := by
  unfold keyOf
  split <;> simp_all

namespace Op

/-- The calls that write the `nonce` table. -/
def isNonceCall : Op → Bool
  | .getNonce .. | .checkNonce .. => true
  | _ => false

/-- The key a `GetNonce` call draws. -/
def nonceKey : Op → Option String
  | .getNonce key _ _ => some key
  | _ => none

/-- The clock of a call, for the calls that read one. -/
def clock : Op → Option ℕ
  | .registerDevice _ _ _ now | .getPending _ now | .storeCommand _ _ _ now
  | .setAccessToken _ _ now | .setDeviceLock _ _ now | .setDeviceLocation _ _ now
  | .gcDatabase _ _ now | .touch _ now | .getNonce _ _ now | .checkNonce _ now => some now
  | _ => none

/-- The call is a `CheckNonce` given a string whose part before its first `.` is `key`. -/
def presentsKey (key : String) : Op → Prop
  | .checkNonce nonce _ => keyOf nonce = some key
  | _ => False

/-- The rows of `nonce` a call removes, given which of its statements fail: a `CheckNonce` drops
the rows its purge finds expired, and every row of its key when its lookup and its delete
succeed. -/
def dropsNonce (f : Faults) (r : NonceRow) : Op → Prop
  | .checkNonce nonce now =>
      (f.fails 0 = false ∧ r.time < now - nonceWindow) ∨
        (keyOf nonce = some r.key ∧ f.fails 1 = false ∧ f.fails 2 = false)
  | _ => False

/-- The row of `nonce` a call adds: a `GetNonce` whose insert succeeds. -/
def addsNonce (f : Faults) (r : NonceRow) : Op → Prop
  | .getNonce key val now => f.fails 0 = false ∧ r = ⟨key, val, now⟩
  | _ => False

end Op

/-! ### The statements on `nonce` -/

namespace Store

variable (s : Store)

theorem mem_gcNonces (now : ℕ) (r : NonceRow) :
    r ∈ (s.gcNonces now).nonce ↔ r ∈ s.nonce ∧ ¬ r.time < now - nonceWindow := by
  simp [gcNonces]

theorem mem_deleteNonce (key : String) (r : NonceRow) :
    r ∈ (s.deleteNonce key).nonce ↔ r ∈ s.nonce ∧ r.key ≠ key := by
  simp [deleteNonce]

theorem selectNonce_eq_some {key val : String} (h : s.selectNonce key = some val) :
    ∃ r ∈ s.nonce, r.key = key ∧ r.val = val := by
  simp only [selectNonce, Option.map_eq_some'] at h
  obtain ⟨r, hr, rfl⟩ := h
  exact ⟨r, List.mem_of_find?_eq_some hr, by simpa using List.find?_some hr, rfl⟩

theorem selectNonce_eq_none_iff (key : String) :
    s.selectNonce key = none ↔ ∀ r ∈ s.nonce, r.key ≠ key := by
  simp [selectNonce]

/-- When all rows of a key carry the same value, the lookup returns it. -/
theorem selectNonce_of_unique {key val : String} (hex : ∃ r ∈ s.nonce, r.key = key)
    (huniq : ∀ r ∈ s.nonce, r.key = key → r.val = val) : s.selectNonce key = some val := by
  cases h : s.selectNonce key with
  | none =>
      obtain ⟨r, hr, hk⟩ := hex
      exact absurd hk ((selectNonce_eq_none_iff s key).1 h r hr)
  | some v =>
      obtain ⟨r, hr, hk, rfl⟩ := selectNonce_eq_some s h
      rw [huniq r hr hk]

end Store

namespace PgStore

variable (env : Env)

/-! ### One call -/

/-- A call that is neither `GetNonce` nor `CheckNonce` leaves the `nonce` table as it was. -/
theorem exec_nonce_of_isNonceCall_eq_false (s : Store) (op : Op) (f : Faults)
    (h : op.isNonceCall = false) : (exec env s op f).2.nonce = s.nonce := by
  cases op <;> simp only [Op.isNonceCall, reduceCtorEq] at h <;>
    simp only [exec, registerDevice, getDeviceInfo, getPositions, getPending,
        getUserFromDevice, getDevicesForUser, storeCommand, setAccessToken, setDeviceLock,
        setDeviceLocation, gcDatabase, purgePosition, touch, deleteDevice, purgeCommands, execOne,
        deleteTables, deviceTables] <;> (repeat' split) <;> rfl

/-- A string without a `.` is turned down after the purge, and nothing else happens. -/
theorem checkNonce_of_keyOf_eq_none (s : Store) (nonce : String) (now : ℕ) (f : Faults)
    (h : keyOf nonce = none) :
    checkNonce env s nonce now f = (.check false none, if f.fails 0 then s else s.gcNonces now) := by
  rw [keyOf_eq_none_iff] at h
  simp only [checkNonce]

/-- The table after `CheckNonce`: the purge keeps the rows not yet expired, and the lookup with
its delete takes out the presented key. -/
theorem mem_checkNonce_nonce (s : Store) (nonce : String) (now : ℕ) (f : Faults)
    (r : NonceRow) :
    r ∈ (checkNonce env s nonce now f).2.nonce ↔
      r ∈ s.nonce ∧ ¬ (f.fails 0 = false ∧ r.time < now - nonceWindow) ∧
        ¬ (keyOf nonce = some r.key ∧ f.fails 1 = false ∧ f.fails 2 = false) := by
  set s₁ := if f.fails 0 then s else s.gcNonces now with hs₁
  have h₁ : r ∈ s₁.nonce ↔ r ∈ s.nonce ∧ ¬ (f.fails 0 = false ∧ r.time < now - nonceWindow) := by
    rw [hs₁]; cases f.fails 0 <;> simp [Store.mem_gcNonces]
  cases hk : keyOf nonce with
  | none => simp [checkNonce_of_keyOf_eq_none env s nonce now f hk, ← hs₁, h₁]
  | some key =>
      obtain ⟨sig, hsp⟩ := (keyOf_eq_some_iff nonce key).1 hk
      simp only [checkNonce, hsp, ← hs₁, Option.some.injEq]
      cases f.fails 1
      · cases hv : s₁.selectNonce key with
        | none =>
            have hne := (Store.selectNonce_eq_none_iff s₁ key).1 hv r
            simp only [Bool.false_eq_true, if_false, h₁]
            constructor
            · rintro ⟨hr, hg⟩
              exact ⟨hr, hg, fun ⟨hkr, _⟩ => hne (h₁.2 ⟨hr, hg⟩) hkr.symm⟩
            · rintro ⟨hr, hg, -⟩
              exact ⟨hr, hg⟩
        | some val =>
            cases f.fails 2 <;>
              simp [Store.mem_deleteNonce, h₁, and_assoc, @eq_comm _ key]
      · simp [h₁]

/-- **One call on the `nonce` table**: a row is there afterwards exactly when it was there and
the call does not drop it, or the call adds it. -/
theorem mem_exec_nonce (s : Store) (op : Op) (f : Faults) (r : NonceRow) :
    r ∈ (exec env s op f).2.nonce ↔ (r ∈ s.nonce ∧ ¬ op.dropsNonce f r) ∨ op.addsNonce f r := by
  cases hop : op.isNonceCall
  · rw [exec_nonce_of_isNonceCall_eq_false env s op f hop]
    cases op <;> simp_all [Op.isNonceCall, Op.dropsNonce, Op.addsNonce]
  · cases op <;> simp only [Op.isNonceCall, reduceCtorEq] at hop
    · next key val now =>
        simp only [exec, getNonce, Op.dropsNonce, Op.addsNonce]
        cases f.fails 0 <;> simp [Store.insertNonce]
    · next nonce now =>
        simp only [exec, mem_checkNonce_nonce, Op.dropsNonce, Op.addsNonce, not_or, or_false]

/-! ### Whole runs -/

/-- **The table after a run with faults**: the rows a `GetNonce` added and no later call
dropped. -/
theorem mem_runF_nonce_iff (calls : List (Op × Faults)) (r : NonceRow) :
    r ∈ (runF env Store.empty calls).2.nonce ↔
      ∃ a c b, calls = a ++ c :: b ∧ c.1.addsNonce c.2 r ∧ ∀ d ∈ b, ¬ d.1.dropsNonce d.2 r := by
  rw [runF_snd_eq_foldl, mem_foldl_iff _ (·.nonce) (fun c r => c.1.dropsNonce c.2 r)
    (fun c r => c.1.addsNonce c.2 r) (fun s c r => mem_exec_nonce env s c.1 c.2 r)]
  simp only [Store.empty, List.not_mem_nil, false_and, false_or]

/-- **The table after a fault-free run.** -/
theorem mem_run_nonce_iff (ops : List Op) (r : NonceRow) :
    r ∈ (run env Store.empty ops).2.nonce ↔
      ∃ a op b, ops = a ++ op :: b ∧ op.addsNonce .none r ∧ ∀ o ∈ b, ¬ o.dropsNonce .none r := by
  rw [run_snd_eq_foldl, mem_foldl_iff _ (·.nonce) (fun o r => o.dropsNonce .none r)
    (fun o r => o.addsNonce .none r) (fun s o r => mem_exec_nonce env s o .none r)]
  simp only [Store.empty, List.not_mem_nil, false_and, false_or]

/-! ### What a check answers -/

/-- `CheckNonce` answers `(true, nil)` exactly when its lookup succeeds and finds, in the table
as its purge left it, a value whose signature is the presented one. -/
theorem checkNonce_fst_eq_check_true_iff (s : Store) (nonce : String) (now : ℕ) (f : Faults) :
    (checkNonce env s nonce now f).1 = .check true none ↔
      f.fails 1 = false ∧ ∃ key val, Go.splitN nonce "." 2 = [key, genSig env key val] ∧
        (if f.fails 0 then s else s.gcNonces now).selectNonce key = some val := by
  set s₁ := if f.fails 0 then s else s.gcNonces now with hs₁
  cases hk : keyOf nonce with
  | none =>
      rw [checkNonce_of_keyOf_eq_none env s nonce now f hk, keyOf_eq_none_iff] at *
      simp only [reduceCtorEq, Reply.check.injEq, Bool.false_eq_true, false_and, false_iff,
        not_and, not_exists]
      exact fun _ key val h _ => hk key _ h
  | some key =>
      obtain ⟨sig, hsp⟩ := (keyOf_eq_some_iff nonce key).1 hk
      simp only [checkNonce, hsp, ← hs₁, List.cons.injEq, and_true]
      cases f.fails 1
      · simp only [if_false, true_and, Bool.false_eq_true]
        constructor
        · intro h
          split at h
          · cases h
          · next val hv =>
              simp only [Reply.check.injEq, decide_eq_true_eq, and_true] at h
              exact ⟨key, val, ⟨rfl, h.symm⟩, hv⟩
        · rintro ⟨_, val, ⟨rfl, rfl⟩, hv⟩
          simp [hv]
      · simp

/-- A check whose lookup succeeds answers `(true, nil)` or `(false, nil)`. -/
theorem checkNonce_fst_eq_check (s : Store) (nonce : String) (now : ℕ) (f : Faults)
    (h : f.fails 1 = false) : ∃ ok, (checkNonce env s nonce now f).1 = .check ok none := by
  simp only [checkNonce]
  split
  · simp only [h, Bool.false_eq_true, if_false]
    split <;> exact ⟨_, rfl⟩
  · exact ⟨false, rfl⟩

end PgStore

/-- Keys drawn by distinct `GetNonce` calls of a list without repeated keys are distinct. -/
theorem eq_of_nonceKey_eq {l : List Op} (hl : (l.filterMap Op.nonceKey).Nodup) {x y : Op}
    (hx : x ∈ l) (hy : y ∈ l) {key : String} (hxk : x.nonceKey = some key)
    (hyk : y.nonceKey = some key) : x = y := by
  induction l with
  | nil => simp at hx
  | cons o l ih =>
      have hsub : (l.filterMap Op.nonceKey).Nodup := by
        cases ho : o.nonceKey <;> simp_all [List.filterMap_cons]
      rcases List.mem_cons.1 hx with rfl | hx' <;> rcases List.mem_cons.1 hy with rfl | hy'
      · rfl
      · simp only [List.filterMap_cons, hxk, List.nodup_cons, List.mem_filterMap] at hl
        exact absurd ⟨y, hy', hyk⟩ hl.1
      · simp only [List.filterMap_cons, hyk, List.nodup_cons, List.mem_filterMap] at hl
        exact absurd ⟨x, hx', hxk⟩ hl.1
      · exact ih hsub hx' hy'

namespace PgStore

variable (env : Env)

/-! ### What a check answers over a run -/

/-- The rows of the table after a fault-free run come from the run's `GetNonce` calls. -/
theorem getNonce_mem_of_mem_run_nonce {pre : List Op} {r : NonceRow}
    (hr : r ∈ (run env Store.empty pre).2.nonce) : Op.getNonce r.key r.val r.time ∈ pre := by
  obtain ⟨a, op, b, rfl, hadd, -⟩ := (mem_run_nonce_iff env pre r).1 hr
  cases op <;> simp only [Op.addsNonce] at hadd
  obtain ⟨-, rfl⟩ := hadd
  simp

/-- A value the lookup finds after the purge was inserted by a `GetNonce` of the run at most five
minutes earlier, and no later call presented its key. -/
theorem issued_of_selectNonce {pre : List Op} {now : ℕ} {key val : String}
    (hsel : ((run env Store.empty pre).2.gcNonces now).selectNonce key = some val) :
    ∃ a t₀ b, pre = a ++ .getNonce key val t₀ :: b ∧ now - t₀ ≤ nonceWindow ∧
      ∀ op ∈ b, ¬ op.presentsKey key := by
  obtain ⟨r, hr, rfl, rfl⟩ := Store.selectNonce_eq_some _ hsel
  obtain ⟨hr, hfresh⟩ := (Store.mem_gcNonces _ _ _).1 hr
  obtain ⟨a, op, b, hpre, hadd, hb⟩ := (mem_run_nonce_iff env pre r).1 hr
  cases op <;> simp only [Op.addsNonce, Faults.none_fails, true_and] at hadd
  subst hadd
  refine ⟨a, _, b, hpre, by dsimp only at hfresh; omega, fun op hop hkey => hb op hop ?_⟩
  cases op <;> simp only [Op.presentsKey] at hkey
  exact .inr ⟨hkey, rfl, rfl⟩

/-- Conversely, with distinct keys and a clock that does not run backwards, the lookup after the
purge finds the value of a key issued at most five minutes earlier that no later call presented. -/
theorem selectNonce_of_issued {a b : List Op} {key val : String} {t₀ now : ℕ}
    (hkeys : ((a ++ .getNonce key val t₀ :: b).filterMap Op.nonceKey).Nodup)
    (hclock : ∀ op ∈ a ++ .getNonce key val t₀ :: b, ∀ t ∈ op.clock, t ≤ now)
    (hwin : now - t₀ ≤ nonceWindow) (hb : ∀ op ∈ b, ¬ op.presentsKey key) :
    ((run env Store.empty (a ++ .getNonce key val t₀ :: b)).2.gcNonces now).selectNonce key =
      some val := by
  have hmem : Op.getNonce key val t₀ ∈ a ++ .getNonce key val t₀ :: b := by simp
  have hr : (⟨key, val, t₀⟩ : NonceRow) ∈ (run env Store.empty (a ++ .getNonce key val t₀ :: b)).2.nonce := by
    refine (mem_run_nonce_iff env _ _).2 ⟨a, _, b, rfl, ⟨rfl, rfl⟩, fun o ho hd => ?_⟩
    cases o <;> simp only [Op.dropsNonce] at hd
    next n' t' =>
      rcases hd with ⟨-, hlt⟩ | ⟨hk, -⟩
      · have := hclock (.checkNonce n' t') (by simp [ho]) t' rfl
        omega
      · exact hb _ ho hk
  refine Store.selectNonce_of_unique _ ⟨_, (Store.mem_gcNonces _ _ _).2 ⟨hr, by dsimp only; omega⟩, rfl⟩ ?_
  intro r' hr' hk'
  have h' := getNonce_mem_of_mem_run_nonce env ((Store.mem_gcNonces _ _ _).1 hr').1
  have := eq_of_nonceKey_eq hkeys h' hmem (by simp [Op.nonceKey, hk']) rfl
  simp only [Op.getNonce.injEq] at this
  exact this.2.1

/-- **The nonce store over a fault-free run.**  Let the `GetNonce` calls before a check draw
distinct keys free of `.`, and let no earlier call be later on the clock than the check.  Then
`CheckNonce(nonce)` at `now` answers `(false, nil)` or `(true, nil)`, and `(true, nil)` exactly
when `nonce` is `key.genSig(key, val)` for a `GetNonce` that inserted `(key, val)` at `t₀`, at
most five minutes before `now`, and no `CheckNonce` since that `GetNonce` was given a string
whose key part is `key`.  Every call of a run is the last call of a prefix of it, so this
describes every check of every such run. -/
theorem checkNonce_accepts_iff (pre : List Op) (nonce : String) (now : ℕ)
    (hkeys : (pre.filterMap Op.nonceKey).Nodup)
    (hdot : ∀ key ∈ pre.filterMap Op.nonceKey, '.' ∉ key.data)
    (hclock : ∀ op ∈ pre, ∀ t ∈ op.clock, t ≤ now) :
    ∃ ok, (exec env (run env Store.empty pre).2 (.checkNonce nonce now) .none).1 = .check ok none ∧
      (ok = true ↔ ∃ a key val t₀ b, pre = a ++ .getNonce key val t₀ :: b ∧
        nonce = key ++ "." ++ genSig env key val ∧ now - t₀ ≤ nonceWindow ∧
        ∀ op ∈ b, ¬ op.presentsKey key) := by
  set s := (run env Store.empty pre).2 with hs
  obtain ⟨ok, hok⟩ := checkNonce_fst_eq_check env s nonce now .none rfl
  refine ⟨ok, hok, ?_⟩
  have htrue : ok = true ↔ (checkNonce env s nonce now .none).1 = .check true none := by
    rw [hok]; simp
  rw [htrue, checkNonce_fst_eq_check_true_iff]
  simp only [Faults.none_fails, Bool.false_eq_true, if_false, true_and]
  constructor
  · rintro ⟨key, val, hsp, hsel⟩
    obtain ⟨a, t₀, b, hpre, hwin, hb⟩ := issued_of_selectNonce env hsel
    exact ⟨a, key, val, t₀, b, hpre, ((splitN_dot_eq_pair_iff _ _ _).1 hsp).1, hwin, hb⟩
  · rintro ⟨a, key, val, t₀, b, rfl, rfl, hwin, hb⟩
    have hdk : '.' ∉ key.data :=
      hdot key (List.mem_filterMap.2 ⟨.getNonce key val t₀, by simp, rfl⟩)
    exact ⟨key, val, (splitN_dot_eq_pair_iff _ _ _).2 ⟨rfl, hdk⟩,
      selectNonce_of_issued env hkeys hclock hwin hb⟩

/-- Two nonces issued, the first checked once: checked again, the first is turned down and the
second is accepted. -/
theorem checkNonce_accepts_iff_two_issues :
    let pre := [Op.getNonce "k1" "v1" 0, .getNonce "k2" "v2" 1, .checkNonce "k1.k1.v1" 2]
    (pre.filterMap Op.nonceKey).Nodup ∧ (∀ key ∈ pre.filterMap Op.nonceKey, '.' ∉ key.data) ∧
      (∀ op ∈ pre, ∀ t ∈ op.clock, t ≤ 3) ∧
      (exec Env.sample (run Env.sample Store.empty pre).2 (.checkNonce "k1.k1.v1" 3) .none).1 =
        .check false none ∧
      (exec Env.sample (run Env.sample Store.empty pre).2 (.checkNonce "k2.k2.v2" 3) .none).1 =
        .check true none ∧
      (∃ ok, (exec Env.sample (run Env.sample Store.empty pre).2 (.checkNonce "k1.k1.v1" 3)
          .none).1 = .check ok none ∧
        (ok = true ↔ ∃ a key val t₀ b, pre = a ++ .getNonce key val t₀ :: b ∧
          "k1.k1.v1" = key ++ "." ++ genSig Env.sample key val ∧ 3 - t₀ ≤ nonceWindow ∧
          ∀ op ∈ b, ¬ op.presentsKey key)) ∧
      ∃ ok, (exec Env.sample (run Env.sample Store.empty pre).2 (.checkNonce "k2.k2.v2" 3)
          .none).1 = .check ok none ∧
        (ok = true ↔ ∃ a key val t₀ b, pre = a ++ .getNonce key val t₀ :: b ∧
          "k2.k2.v2" = key ++ "." ++ genSig Env.sample key val ∧ 3 - t₀ ≤ nonceWindow ∧
          ∀ op ∈ b, ¬ op.presentsKey key) :=
  ⟨by decide, by decide, by decide, by decide, by decide,
    checkNonce_accepts_iff Env.sample _ _ _ (by decide) (by decide) (by decide),
    checkNonce_accepts_iff Env.sample _ _ _ (by decide) (by decide) (by decide)⟩

/-- The pair of runs behind the two counterexamples below: a check given the key part `k`
before `k` is issued, then the issue. -/
theorem run_check_then_issue_nonce :
    (run env Store.empty [.checkNonce "k.x" 0, .getNonce "k" "v" 0]).2.nonce = [⟨"k", "v", 0⟩] :=
  rfl

/-- After a check of `k` and then the issue of `k`, the issued nonce is accepted. -/
theorem checkNonce_after_check_then_issue :
    (exec env (run env Store.empty [.checkNonce "k.x" 0, .getNonce "k" "v" 0]).2
      (.checkNonce ("k" ++ "." ++ genSig env "k" "v") 0) .none).1 = .check true none := by
  rw [exec, checkNonce_fst_eq_check_true_iff]
  refine ⟨rfl, "k", "v", (splitN_dot_eq_pair_iff _ _ _).2 ⟨rfl, by decide⟩, ?_⟩
  simp only [Faults.none_fails, Bool.false_eq_true, if_false, Store.selectNonce, Store.gcNonces,
    run_check_then_issue_nonce]
  decide

/-- Single use is counted from the issue: a check given the key part `k` *before* `k` is issued
deletes nothing, and the nonce issued afterwards is still accepted.  So no environment makes a
check's acceptance depend on the checks of the whole run before it. -/
theorem checkNonce_accepts_despite_check_before_issue :
    ¬ ∃ env : Env, ∀ (pre : List Op) (nonce : String) (now : ℕ),
      (pre.filterMap Op.nonceKey).Nodup → (∀ key ∈ pre.filterMap Op.nonceKey, '.' ∉ key.data) →
      (∀ op ∈ pre, ∀ t ∈ op.clock, t ≤ now) →
      ((exec env (run env Store.empty pre).2 (.checkNonce nonce now) .none).1 = .check true none ↔
        ∃ a key val t₀ b, pre = a ++ .getNonce key val t₀ :: b ∧
          nonce = key ++ "." ++ genSig env key val ∧ now - t₀ ≤ nonceWindow ∧
          ∀ op ∈ pre, ¬ op.presentsKey key) := by
  rintro ⟨env, h⟩
  obtain ⟨a, key, val, t₀, b, hpre, -, -, hnot⟩ :=
    (h _ _ 0 (by decide) (by decide) (by decide)).1 (checkNonce_after_check_then_issue env)
  have hmem : Op.getNonce key val t₀ ∈ [Op.checkNonce "k.x" 0, .getNonce "k" "v" 0] := by
    rw [hpre]; simp
  simp at hmem
  obtain ⟨rfl, -, -⟩ := hmem
  exact hnot (.checkNonce "k.x" 0) (by simp) rfl

/-- **Only issued nonces are accepted, whatever fails.**  In a run where any statement may fail,
a `CheckNonce(nonce)` that answers `(true, nil)` was given `key.genSig(key, val)` for a `GetNonce`
that inserted `(key, val)` at `t₀`, and so handed out that string; every `CheckNonce` given the
key part `key` since that `GetNonce` failed at its lookup or at its delete; and when the check's
own purge did not fail, the `GetNonce` was at most five minutes before it. -/
theorem checkNonce_accepts_only_issued (calls : List (Op × Faults)) (nonce : String) (now : ℕ)
    (f : Faults)
    (h : (exec env (runF env Store.empty calls).2 (.checkNonce nonce now) f).1 = .check true none) :
    ∃ a key val t₀ f₀ b, calls = a ++ (.getNonce key val t₀, f₀) :: b ∧ f₀.fails 0 = false ∧
      nonce = key ++ "." ++ genSig env key val ∧
      (∀ c ∈ b, c.1.presentsKey key → c.2.fails 1 = true ∨ c.2.fails 2 = true) ∧
      (f.fails 0 = false → now - t₀ ≤ nonceWindow) := by
  obtain ⟨-, key, val, hsp, hsel⟩ := (checkNonce_fst_eq_check_true_iff env _ _ _ _).1 h
  obtain ⟨r, hr, rfl, rfl⟩ := Store.selectNonce_eq_some _ hsel
  have hr' : r ∈ (runF env Store.empty calls).2.nonce ∧
      (f.fails 0 = false → ¬ r.time < now - nonceWindow) := by
    cases h0 : f.fails 0 <;> simp only [h0, if_true, if_false, Bool.false_eq_true] at hr
    · exact ⟨((Store.mem_gcNonces _ _ _).1 hr).1, fun _ => ((Store.mem_gcNonces _ _ _).1 hr).2⟩
    · exact ⟨hr, by simp⟩
  obtain ⟨a, ⟨op, f₀⟩, b, hcalls, hadd, hb⟩ := (mem_runF_nonce_iff env calls r).1 hr'.1
  cases op <;> simp only [Op.addsNonce] at hadd
  obtain ⟨hf₀, rfl⟩ := hadd
  refine ⟨a, _, _, _, f₀, b, hcalls, hf₀, ((splitN_dot_eq_pair_iff _ _ _).1 hsp).1,
    fun c hc hkey => ?_, fun h0 => by have := hr'.2 h0; dsimp only at this; omega⟩
  obtain ⟨op, g⟩ := c
  have := hb _ hc
  cases op <;> simp only [Op.presentsKey] at hkey
  simp only [Op.dropsNonce, hkey, true_and, not_or, not_and, Bool.not_eq_false] at this
  cases h1 : g.fails 1
  · exact .inr (this.2 h1)
  · exact .inl rfl

/-- **A failed delete or a failed purge lets a nonce through.**  `CheckNonce` does not look at
the outcome of its purge or of its delete.  For every issued nonce `key.genSig(key, val)` with a
key free of `.`: a check whose delete fails accepts it and leaves it stored, so a second check
within its five minutes accepts it again; and a check whose purge fails accepts it however long
after the issue it comes. -/
theorem checkNonce_accepts_after_failed_statement (key val : String) (t₀ now now' : ℕ)
    (hdot : '.' ∉ key.data) (hwin : now - t₀ ≤ nonceWindow) (hwin' : now' - t₀ ≤ nonceWindow) :
    let nonce := key ++ "." ++ genSig env key val
    (runF env Store.empty [(.getNonce key val t₀, .none), (.checkNonce nonce now, ⟨(· == 2)⟩),
        (.checkNonce nonce now', .none)]).1 =
        [.nonce nonce none, .check true none, .check true none] ∧
      ∀ later : ℕ, (runF env Store.empty [(.getNonce key val t₀, .none),
        (.checkNonce nonce later, ⟨(· == 0)⟩)]).1 = [.nonce nonce none, .check true none] := by
  intro nonce
  have hsp : Go.splitN nonce "." 2 = [key, genSig env key val] :=
    (splitN_dot_eq_pair_iff _ _ _).2 ⟨rfl, hdot⟩
  have h₁ : now ≤ t₀ + nonceWindow := by omega
  have h₂ : now' ≤ t₀ + nonceWindow := by omega
  refine ⟨?_, fun later => ?_⟩ <;>
    simp [runF, exec, getNonce, checkNonce, hsp, Faults.none, Store.selectNonce, Store.gcNonces,
      Store.insertNonce, Store.empty, h₁, h₂]

/-- The nonce `k.k.v` is accepted twice after a check whose delete fails, and a thousand seconds
after its issue by a check whose purge fails. -/
theorem checkNonce_accepts_after_failed_statement_sample :
    '.' ∉ "k".data ∧ 1 - 0 ≤ nonceWindow ∧ 2 - 0 ≤ nonceWindow ∧
      (runF Env.sample Store.empty [(.getNonce "k" "v" 0, .none),
        (.checkNonce "k.k.v" 1, ⟨(· == 2)⟩), (.checkNonce "k.k.v" 2, .none)]).1 =
        [.nonce "k.k.v" none, .check true none, .check true none] ∧
      (runF Env.sample Store.empty [(.getNonce "k" "v" 0, .none),
        (.checkNonce "k.k.v" 1000, ⟨(· == 0)⟩)]).1 = [.nonce "k.k.v" none, .check true none] :=
  have h := checkNonce_accepts_after_failed_statement Env.sample "k" "v" 0 1 2 (by decide)
    (by decide) (by decide)
  ⟨by decide, by decide, by decide, h.1, h.2 1000⟩

end PgStore

end FindMyDevice
