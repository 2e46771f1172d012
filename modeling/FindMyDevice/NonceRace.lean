/-
**Concurrent checks of one nonce: the lookup and the delete race.**

`CheckNonce` consumes a nonce in two statements: it looks the key up, then deletes it.  Between
the two, another check of the same string finds the key still there.  Run at the grain of
`FindMyDevice.PgStore.interleave`, checks that all look the key up before any of them deletes it
all accept: for every number of concurrent checks of an issued nonce, the schedule "every purge,
then every lookup, then every delete" makes each of them return `(true, nil)`
(`FindMyDevice.PgStore.interleave_lookupsFirst`).

Run one after another the same calls accept at most once, since the first check of a key deletes
it, whether it accepts or not (`FindMyDevice.PgStore.serial_checks_accept_at_most_once`).  More
generally, the window between a lookup and its delete is the only way to a second acceptance:
every schedule that runs no lookup while another check is in its window accepts at most once
(`FindMyDevice.PgStore.lookupsExclusive_accept_at_most_once`).  That proof follows an invariant
over the whole run, `FindMyDevice.PgStore.WindowInv`: at most one check will accept, and when one
will, the key is gone or a check is about to delete it.

Main definitions:

* `FindMyDevice.PgStore.checks` — concurrent checks of one string;
* `FindMyDevice.PgStore.lookupsFirst` — the schedule that runs every lookup before any delete;
* `FindMyDevice.PgStore.lookupsExclusive` — schedules that run no lookup inside another check's
  window;
* `FindMyDevice.PgStore.WindowInv` — the invariant of such schedules.

Main results:

* `FindMyDevice.PgStore.interleave_lookupsFirst` — **every check accepts** when the lookups come
  first;
* `FindMyDevice.PgStore.checkNonce_race_accepts_twice` — two checks of a nonce just issued both
  accept;
* `FindMyDevice.PgStore.serial_checks_accept_at_most_once` — one after another, the checks of
  one string accept at most once;
* `FindMyDevice.PgStore.lookupsExclusive_accept_at_most_once` — **with lookups kept out of each
  other's window, the checks of one string accept at most once**.
-/

import FindMyDevice.Interleaving
import FindMyDevice.NonceStore

set_option relaxedAutoImplicit false
set_option autoImplicit false

namespace FindMyDevice

/-- A filter that keeps every element the search is after does not change what it finds. -/
theorem find?_filter_of_imp {α : Type} {p q : α → Bool} (l : List α)
    (h : ∀ a ∈ l, q a → p a) : (l.filter p).find? q = l.find? q := by
  induction l with
  | nil => rfl
  | cons a l ih =>
    have ih' := ih fun b hb => h b (List.mem_cons_of_mem a hb)
    by_cases hq : q a
    · simp [List.filter_cons, h a (List.mem_cons_self a l) hq, List.find?_cons, hq]
    · by_cases hp : p a <;> simp [List.filter_cons, hp, List.find?_cons, hq, ih']

namespace Store

variable {s : Store} {key : String}

/-- The purge does not change the lookup of a key none of whose rows has expired. -/
theorem selectNonce_gcNonces {now : ℕ}
    (h : ∀ r ∈ s.nonce, r.key = key → ¬ r.time < now - nonceWindow) :
    (s.gcNonces now).selectNonce key = s.selectNonce key := by
  simp only [selectNonce, gcNonces]
  rw [find?_filter_of_imp _ fun r hr hk => by simpa using h r hr (by simpa using hk)]

/-- The purge keeps a key that is gone gone. -/
theorem selectNonce_gcNonces_of_none (now : ℕ) (h : s.selectNonce key = none) :
    (s.gcNonces now).selectNonce key = none := by
  rw [selectNonce_eq_none_iff] at h ⊢
  exact fun r hr => h r ((mem_gcNonces s now r).1 hr).1

theorem selectNonce_deleteNonce (key : String) : (s.deleteNonce key).selectNonce key = none :=
  (selectNonce_eq_none_iff _ key).2 fun r hr => ((mem_deleteNonce s key r).1 hr).2

end Store

namespace Thread

/-- A check that will accept: it has returned `(true, nil)`, or it has looked up a value whose
signature matches and has its delete left. -/
def accepting (env : Env) : Thread → Bool
  | .done (.check true none) => true
  | .checkDelete key sig val => decide (PgStore.genSig env key val = sig)
  | _ => false

@[simp] theorem accepting_done_check (env : Env) (ok : Bool) :
    accepting env (.done (.check ok none)) = ok := by
  cases ok <;> rfl

/-- A check between its lookup and its delete. -/
def inWindow : Thread → Bool
  | .checkDelete .. => true
  | _ => false

/-- A check about to run its lookup. -/
def atLookup : Thread → Bool
  | .checkSelect .. => true
  | _ => false

/-- A stage of `CheckNonce(nonce)`, for a string that cuts into `key` and `sig`. -/
def ChecksOf (nonce key sig : String) (t : Thread) : Prop :=
  (∃ now, t = .call (.checkNonce nonce now)) ∨ t = .checkSelect key sig ∨
    (∃ val, t = .checkDelete key sig val) ∨ ∃ ok, t = .done (.check ok none)

end Thread

namespace PgStore

variable (env : Env)

/-- Concurrent `CheckNonce(nonce)` calls, one for each clock. -/
def checks (nonce : String) (nows : List ℕ) : List Thread :=
  nows.map fun now => .call (.checkNonce nonce now)

/-- The schedule in which each of `n` checks runs its purge, then each its lookup, then each its
delete. -/
def lookupsFirst (n : ℕ) : List ℕ := List.range n ++ List.range n ++ List.range n

/-! ### Every lookup before any delete -/

section Race

variable {key val : String} {nows : List ℕ}

/-- The round of purges: each check cuts the string into the key and its signature, and the
lookup of the key still finds `val`. -/
theorem interleave_purges (hkey : '.' ∉ key.data) (s : Store) (hsel : s.selectNonce key = some val)
    (hfresh : ∀ r ∈ s.nonce, r.key = key → ∀ now ∈ nows, ¬ r.time < now - nonceWindow) :
    ∃ s', s'.selectNonce key = some val ∧
      interleave env (s, checks (key ++ "." ++ genSig env key val) nows) (List.range nows.length) =
        (s', nows.map fun _ => .checkSelect key (genSig env key val)) := by
  have hsplit : Go.splitN (key ++ "." ++ genSig env key val) "." 2 = [key, genSig env key val] :=
    (splitN_dot_eq_pair_iff _ _ _).2 ⟨rfl, hkey⟩
  obtain ⟨s', hs', h⟩ := interleave_range_of_step env
    (P := fun s => s.selectNonce key = some val ∧
      ∀ r ∈ s.nonce, r.key = key → ∀ now ∈ nows, ¬ r.time < now - nonceWindow)
    (f := fun _ => .checkSelect key (genSig env key val))
    (checks (key ++ "." ++ genSig env key val) nows)
    (fun s hs t ht => by
      obtain ⟨now, hnow, rfl⟩ := List.mem_map.1 ht
      simp only [Thread.step, hsplit, true_and]
      refine ⟨?_, fun r hr hk now' hnow' => hs.2 r ((Store.mem_gcNonces _ _ _).1 hr).1 hk now' hnow'⟩
      rw [Store.selectNonce_gcNonces fun r hr hk => hs.2 r hr hk now hnow, hs.1])
    s ⟨hsel, hfresh⟩
  simp only [checks, List.length_map, List.map_map] at h
  exact ⟨s', hs'.1, h⟩

/-- The round of lookups: each check finds `val`, and the database does not change. -/
theorem interleave_lookups (sig : String) (s : Store) (hsel : s.selectNonce key = some val) :
    interleave env (s, nows.map fun _ => .checkSelect key sig) (List.range nows.length) =
      (s, nows.map fun _ => .checkDelete key sig val) := by
  obtain ⟨s', rfl, h⟩ := interleave_range_of_step env (P := (· = s))
    (f := fun _ => .checkDelete key sig val) (nows.map fun _ => .checkSelect key sig)
    (fun s hs t ht => by
      obtain ⟨-, -, rfl⟩ := List.mem_map.1 ht
      subst hs
      simp only [Thread.step, hsel, and_self])
    s rfl
  simpa using h

/-- The round of deletes: each check compares the signature with the one of `val`, and accepts. -/
theorem interleave_deletes (s : Store) :
    (interleave env (s, nows.map fun _ => .checkDelete key (genSig env key val) val)
      (List.range nows.length)).2 = nows.map fun _ => .done (.check true none) := by
  obtain ⟨s', -, h⟩ := interleave_range_of_step env (P := fun _ => True)
    (f := fun _ => .done (.check true none))
    (nows.map fun _ => .checkDelete key (genSig env key val) val)
    (fun s _ t ht => by
      obtain ⟨-, -, rfl⟩ := List.mem_map.1 ht
      simp [Thread.step])
    s trivial
  simpa using congrArg Prod.snd h

/-- **Every check of an issued nonce accepts when the lookups come first**: for every list of
clocks at which no row of the key has expired, concurrent checks of `key.genSig(key, val)` that
all run their lookup before any runs its delete each return `(true, nil)`. -/
theorem interleave_lookupsFirst (s : Store) (hkey : '.' ∉ key.data)
    (hsel : s.selectNonce key = some val)
    (hfresh : ∀ r ∈ s.nonce, r.key = key → ∀ now ∈ nows, ¬ r.time < now - nonceWindow) :
    (interleave env (s, checks (key ++ "." ++ genSig env key val) nows)
      (lookupsFirst nows.length)).2 = nows.map fun _ => .done (.check true none) := by
  obtain ⟨s', hs', h⟩ := interleave_purges env hkey s hsel hfresh
  rw [lookupsFirst, interleave_append, interleave_append, h, interleave_lookups env _ s' hs',
    interleave_deletes]

end Race

/-- Two checks, at clock 1, of the nonce `GetNonce` issued at clock 0 from an empty database,
with the lookups first: both accept. -/
theorem checkNonce_race_accepts_twice :
    (exec env Store.empty (.getNonce "k" "v" 0) .none).1 = .nonce ("k." ++ genSig env "k" "v") none ∧
      (interleave env ((exec env Store.empty (.getNonce "k" "v" 0) .none).2,
        checks ("k" ++ "." ++ genSig env "k" "v") [1, 1]) [0, 1, 0, 1, 0, 1]).2 =
        [.done (.check true none), .done (.check true none)] :=
  have hfresh : ∀ r ∈ (exec env Store.empty (.getNonce "k" "v" 0) .none).2.nonce, r.key = "k" →
      ∀ now ∈ [1, 1], ¬ r.time < now - nonceWindow := by
    show ∀ r ∈ [(⟨"k", "v", 0⟩ : NonceRow)], r.key = "k" → ∀ now ∈ [1, 1], ¬ r.time < now - nonceWindow
    decide
  ⟨rfl, interleave_lookupsFirst env _ (by decide) rfl hfresh⟩

/-! ### One after another -/

section Serial

variable {key : String}

/-- After a check of a string with key `key`, the key is gone: the lookup found nothing, or the
delete took it out. -/
theorem checkNonce_selectNonce_none (s : Store) (nonce : String) (now : ℕ)
    (hkey : keyOf nonce = some key) : (checkNonce env s nonce now .none).2.selectNonce key = none := by
  obtain ⟨sig, hsplit⟩ := (keyOf_eq_some_iff nonce key).1 hkey
  simp only [checkNonce, Faults.none_fails, Bool.false_eq_true, if_false, hsplit]
  cases h : (s.gcNonces now).selectNonce key
  · exact h
  · exact Store.selectNonce_deleteNonce key

/-- With the key gone, a check turns the string down. -/
theorem checkNonce_of_selectNonce_none (s : Store) (nonce : String) (now : ℕ)
    (hkey : keyOf nonce = some key) (h : s.selectNonce key = none) :
    (checkNonce env s nonce now .none).1 = .check false none := by
  obtain ⟨sig, hsplit⟩ := (keyOf_eq_some_iff nonce key).1 hkey
  simp only [checkNonce, Faults.none_fails, Bool.false_eq_true, if_false, hsplit,
    Store.selectNonce_gcNonces_of_none now h]

/-- Checks from a database in which each of them turns the string down and leaves such a
database all turn it down. -/
theorem run_checks_of_rejects {P : Store → Prop} (nonce : String)
    (hP : ∀ s now, P s → (checkNonce env s nonce now .none).1 = .check false none ∧
      P (checkNonce env s nonce now .none).2)
    (nows : List ℕ) : ∀ s, P s →
      (run env s (nows.map (.checkNonce nonce))).1 = nows.map fun _ => .check false none := by
  induction nows with
  | nil => exact fun _ _ => rfl
  | cons now nows ih =>
    intro s h
    rw [List.map_cons, run_cons, List.map_cons]
    exact congrArg₂ _ (hP s now h).1 (ih _ (hP s now h).2)

/-- Every check after the first turns the string down: the first has removed its key, or the
string has no key. -/
theorem run_checks_tail (s : Store) (nonce : String) (now : ℕ) (nows : List ℕ) :
    (run env (checkNonce env s nonce now .none).2 (nows.map (.checkNonce nonce))).1 =
      nows.map fun _ => .check false none := by
  cases hkey : keyOf nonce with
  | some key =>
    exact run_checks_of_rejects env (P := (·.selectNonce key = none)) nonce
      (fun s now h => ⟨checkNonce_of_selectNonce_none env s nonce now hkey h,
        checkNonce_selectNonce_none env s nonce now hkey⟩)
      nows _ (checkNonce_selectNonce_none env s nonce now hkey)
  | none =>
    exact run_checks_of_rejects env (P := fun _ => True) nonce
      (fun s now _ => ⟨by rw [checkNonce_of_keyOf_eq_none env _ _ _ _ hkey], trivial⟩) nows _ trivial

/-- **Checks of one string, one after another, accept at most once**: the serial schedule of
concurrent checks, from any database, leaves at most one of them returning `(true, nil)`. -/
theorem serial_checks_accept_at_most_once (s : Store) (nonce : String) (nows : List ℕ) :
    ((interleave env (s, checks nonce nows) (serial nows.length)).2.filter
      (· = .done (.check true none))).length ≤ 1 := by
  have hthreads : checks nonce nows = (nows.map (.checkNonce nonce)).map .call := by
    simp [checks]
  rw [hthreads, ← List.length_map nows (Op.checkNonce nonce), interleave_serial]
  cases nows with
  | nil => simp
  | cons now nows =>
    rw [List.map_cons, run_cons, List.map_cons]
    simp only [exec, run_checks_tail, List.map_map]
    have htail : (nows.map (Thread.done ∘ fun _ => Reply.check false none)).filter
        (· = .done (.check true none)) = [] :=
      List.filter_eq_nil_iff.2 fun t ht => by obtain ⟨_, _, rfl⟩ := List.mem_map.1 ht; simp
    rw [List.filter_cons, htail]
    split <;> simp

end Serial

/-! ### Closing the window -/

section Window

variable {nonce key sig : String}

/-- Thread `i` may run its next statement: it is not a lookup, or no check is between its lookup
and its delete. -/
def lookupAllowed (σ : Store × List Thread) (i : ℕ) : Bool :=
  match σ.2[i]? with
  | some t => !t.atLookup || σ.2.countP Thread.inWindow == 0
  | none => true

/-- The schedule runs no lookup while another check sits between its lookup and its delete: what
an atomic verify-and-consume would guarantee. -/
def lookupsExclusive : Store × List Thread → List ℕ → Bool
  | _, [] => true
  | σ, i :: sched => lookupAllowed σ i && lookupsExclusive (stepAt env σ i) sched

/-- What holds of concurrent checks of `nonce` along a schedule that keeps lookups exclusive:
every thread is a stage of the check, at most one will accept, and when one will, the key is gone
or a check is in its window, about to delete it. -/
structure WindowInv (nonce key sig : String) (σ : Store × List Thread) : Prop where
  shape : ∀ t ∈ σ.2, t.ChecksOf nonce key sig
  atMostOne : σ.2.countP (Thread.accepting env) ≤ 1
  consumed : 0 < σ.2.countP (Thread.accepting env) →
    σ.1.selectNonce key = none ∨ 0 < σ.2.countP Thread.inWindow

theorem countP_set_of_getElem? {α : Type} (p : α → Bool) {l : List α} {i : ℕ} {t : α}
    (h : l[i]? = some t) (x : α) :
    (l.set i x).countP p = l.countP p - (if p t then 1 else 0) + (if p x then 1 else 0) := by
  obtain ⟨hi, rfl⟩ := List.getElem?_eq_some_iff.1 h
  exact List.countP_set p l i x hi

theorem ite_le_countP {α : Type} (p : α → Bool) {l : List α} {t : α} (ht : t ∈ l) :
    (if p t then 1 else 0) ≤ l.countP p := by
  split
  · exact List.countP_pos_iff.2 ⟨t, ht, ‹_›⟩
  · exact Nat.zero_le _

/-- The invariant after thread `i` moves from `t` to `t'`, in terms of the counts before. -/
theorem windowInv_set {s' : Store} {ts : List Thread} {i : ℕ} {t t' : Thread}
    (hshape : ∀ x ∈ ts, x.ChecksOf nonce key sig) (hi : ts[i]? = some t)
    (ht' : t'.ChecksOf nonce key sig)
    (hone : ts.countP (Thread.accepting env) - (if t.accepting env then 1 else 0) +
      (if t'.accepting env then 1 else 0) ≤ 1)
    (hcons : 0 < ts.countP (Thread.accepting env) - (if t.accepting env then 1 else 0) +
        (if t'.accepting env then 1 else 0) →
      s'.selectNonce key = none ∨ 0 < ts.countP Thread.inWindow - (if t.inWindow then 1 else 0) +
        (if t'.inWindow then 1 else 0)) :
    WindowInv env nonce key sig (s', ts.set i t') where
  shape x hx := (List.mem_or_eq_of_mem_set hx).elim (hshape x) (· ▸ ht')
  atMostOne := by rw [countP_set_of_getElem? _ hi]; exact hone
  consumed := by
    rw [countP_set_of_getElem? _ hi, countP_set_of_getElem? _ hi]
    exact hcons

/-- **One statement keeps the invariant**, when it is not a lookup run while a check is in its
window. -/
theorem windowInv_stepAt (hsplit : Go.splitN nonce "." 2 = [key, sig])
    {σ : Store × List Thread} (hI : WindowInv env nonce key sig σ) (i : ℕ)
    (hg : lookupAllowed σ i = true) : WindowInv env nonce key sig (stepAt env σ i) := by
  obtain ⟨s, ts⟩ := σ
  have hone : ts.countP (Thread.accepting env) ≤ 1 := hI.atMostOne
  have hcons : 0 < ts.countP (Thread.accepting env) →
      s.selectNonce key = none ∨ 0 < ts.countP Thread.inWindow := hI.consumed
  cases hi : ts[i]? with
  | none => simpa [stepAt, hi] using hI
  | some t =>
    have hacc := ite_le_countP (Thread.accepting env) (List.getElem?_mem hi)
    simp only [lookupAllowed, hi] at hg
    simp only [stepAt, hi]
    rcases hI.shape t (List.getElem?_mem hi) with ⟨now, rfl⟩ | rfl | ⟨v, rfl⟩ | ⟨b, rfl⟩
    · -- the purge: nothing accepts or enters its window, and a gone key stays gone
      simp only [Thread.step, hsplit]
      refine windowInv_set env hI.shape hi (.inr (.inl rfl)) ?_ ?_ <;>
        simp only [Thread.accepting, Thread.inWindow, Bool.false_eq_true, if_false, Nat.sub_zero,
          Nat.add_zero]
      · exact hone
      · exact fun h => (hcons h).imp_left (Store.selectNonce_gcNonces_of_none now)
    · -- the lookup, run with no check in its window
      have hw : ts.countP Thread.inWindow = 0 := by simpa [Thread.atLookup] using hg
      cases hsel : s.selectNonce key with
      | none =>
        simp only [Thread.step, hsel]
        refine windowInv_set env hI.shape hi (.inr (.inr (.inr ⟨false, rfl⟩))) ?_ fun _ => .inl hsel
        simpa only [Thread.accepting, Thread.accepting_done_check, Bool.false_eq_true, if_false,
          Nat.sub_zero, Nat.add_zero] using hone
      | some v =>
        have hc : ts.countP (Thread.accepting env) = 0 := by
          by_contra hne
          rcases hcons (Nat.pos_of_ne_zero hne) with h | h
          · simp [hsel] at h
          · omega
        simp only [Thread.step, hsel]
        refine windowInv_set env hI.shape hi (.inr (.inr (.inl ⟨v, rfl⟩))) ?_ fun _ => .inr ?_ <;>
          simp only [Thread.accepting, Thread.inWindow, hc, hw, Bool.false_eq_true, if_false,
            if_true, Nat.zero_sub, Nat.zero_add, Nat.zero_lt_one]
        split <;> omega
    · -- the delete: the key is gone afterwards
      simp only [Thread.step]
      refine windowInv_set env hI.shape hi (.inr (.inr (.inr ⟨_, rfl⟩))) ?_
        fun _ => .inl (Store.selectNonce_deleteNonce key)
      simp only [Thread.accepting_done_check]
      simp only [Thread.accepting] at hacc ⊢
      omega
    · -- a check that has returned runs nothing
      simp only [Thread.step]
      simp only [Thread.accepting_done_check] at hacc
      refine windowInv_set env hI.shape hi (.inr (.inr (.inr ⟨b, rfl⟩))) ?_ fun h => ?_
      · simp only [Thread.accepting_done_check]
        omega
      · simp only [Thread.accepting_done_check, Thread.inWindow, Bool.false_eq_true, if_false,
          Nat.sub_zero, Nat.add_zero] at h ⊢
        exact hcons (by omega)

/-- Every schedule that keeps lookups exclusive keeps the invariant. -/
theorem windowInv_interleave (hsplit : Go.splitN nonce "." 2 = [key, sig]) (sched : List ℕ) :
    ∀ σ, WindowInv env nonce key sig σ → lookupsExclusive env σ sched = true →
      WindowInv env nonce key sig (interleave env σ sched) := by
  induction sched with
  | nil => exact fun σ hI _ => hI
  | cons i sched ih =>
    intro σ hI h
    simp only [lookupsExclusive, Bool.and_eq_true] at h
    exact ih _ (windowInv_stepAt env hsplit hI i h.1) h.2

/-- Checks that have not started satisfy the invariant. -/
theorem windowInv_checks (s : Store) (nows : List ℕ) :
    WindowInv env nonce key sig (s, checks nonce nows) :=
  have hzero : (checks nonce nows).countP (Thread.accepting env) = 0 :=
    List.countP_eq_zero.2 fun t ht => by
      obtain ⟨now, -, rfl⟩ := List.mem_map.1 ht
      simp [Thread.accepting]
  ⟨fun t ht => by
      obtain ⟨now, -, rfl⟩ := List.mem_map.1 ht
      exact .inl ⟨now, rfl⟩,
    hzero ▸ Nat.zero_le 1, fun h => absurd h (hzero ▸ Nat.lt_irrefl 0)⟩

/-- **With lookups kept exclusive, concurrent checks of one string accept at most once**: in
every schedule that runs no lookup while another check is between its lookup and its delete, at
most one check returns `(true, nil)`.  The race of `interleave_lookupsFirst` is the only way to a
second acceptance. -/
theorem lookupsExclusive_accept_at_most_once (s : Store)
    (hsplit : Go.splitN nonce "." 2 = [key, sig]) (nows sched : List ℕ)
    (h : lookupsExclusive env (s, checks nonce nows) sched = true) :
    ((interleave env (s, checks nonce nows) sched).2.filter
      (· = .done (.check true none))).length ≤ 1 := by
  have hI := windowInv_interleave env hsplit sched _ (windowInv_checks env s nows) h
  rw [← List.countP_eq_length_filter]
  refine (List.countP_mono_left fun t _ ht => ?_).trans hI.atMostOne
  rw [of_decide_eq_true ht, Thread.accepting_done_check]

theorem lookupsExclusive_accept_at_most_once_serial :
    Go.splitN ("k" ++ "." ++ "k.v") "." 2 = ["k", "k.v"] ∧
      lookupsExclusive Env.sample ((exec Env.sample Store.empty (.getNonce "k" "v" 0) .none).2,
        checks ("k" ++ "." ++ "k.v") [1, 1]) (serial 2) = true ∧
      ((interleave Env.sample ((exec Env.sample Store.empty (.getNonce "k" "v" 0) .none).2,
        checks ("k" ++ "." ++ "k.v") [1, 1]) (serial 2)).2.filter
        (· = .done (.check true none))).length ≤ 1 :=
  have hsplit : Go.splitN ("k" ++ "." ++ "k.v") "." 2 = ["k", "k.v"] := by decide
  have hexcl : lookupsExclusive Env.sample ((exec Env.sample Store.empty (.getNonce "k" "v" 0) .none).2,
      checks ("k" ++ "." ++ "k.v") [1, 1]) (serial 2) = true := by decide
  ⟨hsplit, hexcl, lookupsExclusive_accept_at_most_once Env.sample _ hsplit [1, 1] (serial 2) hexcl⟩

end Window

end PgStore

end FindMyDevice
