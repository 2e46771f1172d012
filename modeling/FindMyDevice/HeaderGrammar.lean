/-
**The grammar `ParseAuthHeader` reads, and the outcomes it can have.**

`ParseAuthHeader(req)` reads the `Authorization` header in three steps.  An empty header is
`ErrNoAuth`.  Otherwise it lower-cases `auth[:4]` and returns `ErrNotHawkAuth` when that is not
`hawk`.  Then it cuts `auth[5:]` at `", "` and each piece at its first `=`; a piece whose key is,
in lower case, `id`, `ts`, `nonce`, `ext`, `hash` or `mac` sets the field it names to the value
with its double quotes trimmed off, and any other piece is skipped.  Path, host and port are
taken from the request afterwards.

Neither slice is guarded.  A non-empty header shorter than four bytes, and a header of exactly
four bytes that passes the check, end in a slice out of range, which the model records as
`none`.  And the check reads four bytes, not the scheme: `hawkx` passes it.

A header written as the grammar has it, `Hawk ` and pairs `k="v"` joined by `", "`, with no `=`
or `", "` in a key and no `"` or `", "` in a value, is read exactly.  It passes the checks
(`FindMyDevice.Hawk.parseAuthHeader_hawk`); cutting it at `", "` gives the rendered pairs back;
one element reads one pair; and over the whole list each field ends up with the value of the last
pair of its key, while no pair reaches the configuration, so path, host and port depend on the
request alone.

Main definitions:

* `FindMyDevice.Hawk.renderPair`, `FindMyDevice.Hawk.renderPairs` — the header the grammar
  describes;
* `FindMyDevice.Hawk.lastValue`, `FindMyDevice.Hawk.readPairs` — what the pairs set, as the spec
  says: each field the value of the last pair of its key.

Main results:

* `FindMyDevice.Hawk.parseAuthHeader_outcomes` — **the outcomes of `ParseAuthHeader`**: which
  headers are refused, which panic, and that a refusal leaves the `Hawk` as it was;
* `FindMyDevice.Hawk.parseAuthHeader_scheme_prefix` — short headers panic, and `hawkx` passes;
* `FindMyDevice.Hawk.parseElement_renderPair` — one element reads one pair;
* `FindMyDevice.Hawk.foldl_parseElement_renderPair` — the elements read the pairs in order;
* `FindMyDevice.Hawk.parseAuthHeader_renderPairs` — **`ParseAuthHeader` reads its grammar**.
-/

import FindMyDevice.HawkHeader

set_option relaxedAutoImplicit false
set_option autoImplicit false

namespace FindMyDevice

namespace Hawk

/-! ### The outcomes -/

theorem utf8ByteSize_eq_zero_iff (s : String) : s.utf8ByteSize = 0 ↔ s = "" := by
  rw [show s.utf8ByteSize = String.utf8Len s.data from rfl, String.utf8Len_eq_zero,
    String.ext_iff]

/-- **The outcomes of `ParseAuthHeader`**, for every header: `ErrNoAuth` exactly for the empty
one; `ErrNotHawkAuth` exactly for one of four bytes or more whose first four do not lower-case to
`hawk`; a panic exactly for one of one to three bytes, or of four that lower-case to `hawk`; and
a refused header leaves the `Hawk` as it was. -/
theorem parseAuthHeader_outcomes (self : Hawk) (req : Request) :
    ((parseAuthHeader self req).map Prod.fst = some (some .noAuth) ↔ req.authorization = "") ∧
      ((parseAuthHeader self req).map Prod.fst = some (some .notHawkAuth) ↔
        4 ≤ req.authorization.utf8ByteSize ∧
          Go.toLower ⟨Go.takeBytes req.authorization.data 4⟩ ≠ "hawk") ∧
      (parseAuthHeader self req = none ↔
        0 < req.authorization.utf8ByteSize ∧ req.authorization.utf8ByteSize < 4 ∨
          req.authorization.utf8ByteSize = 4 ∧
            Go.toLower ⟨Go.takeBytes req.authorization.data 4⟩ = "hawk") ∧
      ∀ e v, parseAuthHeader self req = some (some e, v) → v = self := by
  have h0 := utf8ByteSize_eq_zero_iff req.authorization
  dsimp only [parseAuthHeader]
  split_ifs with ha hs hh hs5 <;> simp_all <;> omega

/-- A header of three bytes panics at `auth[:4]`, the header `hawk` at `auth[5:]`, and the header
`hawkx`, whose scheme is not `hawk`, passes the check and is read with no error. -/
theorem parseAuthHeader_scheme_prefix (self : Hawk) (req : Request) :
    parseAuthHeader self { req with authorization := "abc" } = none ∧
      parseAuthHeader self { req with authorization := "hawk" } = none ∧
      parseAuthHeader self { req with authorization := "hawkx" } =
        some (none, { self with
          path := getFullPath req, host := (self.getHostPort req).1,
          port := (self.getHostPort req).2 }) :=
  ⟨rfl, rfl, rfl⟩

/-! ### The grammar, and what the spec says it sets -/

/-- One pair `k="v"`. -/
def renderPair (p : String × String) : String := p.1 ++ "=" ++ quoted p.2

/-- The header the grammar describes: `Hawk ` and the pairs joined by `", "`. -/
def renderPairs (pairs : List (String × String)) : String :=
  "Hawk " ++ Go.join ", " (pairs.map renderPair)

/-- The value of the last pair whose key is `name` in lower case. -/
def lastValue (pairs : List (String × String)) (name : String) : Option String :=
  ((pairs.filter fun p => Go.toLower p.1 = name).getLast?).map Prod.snd

/-- What the pairs set, as the spec says: each of the six fields the value of the last pair of
its key, or what it was when there is none. -/
def readPairs (self : Hawk) (pairs : List (String × String)) : Hawk :=
  { self with
    id := (lastValue pairs "id").getD self.id
    time := (lastValue pairs "ts").getD self.time
    nonce := (lastValue pairs "nonce").getD self.nonce
    extra := (lastValue pairs "ext").getD self.extra
    hash := (lastValue pairs "hash").getD self.hash
    signature := (lastValue pairs "mac").getD self.signature }

theorem lastValue_append (ps qs : List (String × String)) (name : String) :
    lastValue (ps ++ qs) name = (lastValue qs name).or (lastValue ps name) := by
  simp only [lastValue, List.filter_append, List.getLast?_append, Option.map_or']

theorem getD_or {α : Type} (a b : Option α) (d : α) : (a.or b).getD d = a.getD (b.getD d) := by
  cases a <;> rfl

/-- Reading `ps ++ qs` is reading `ps`, then `qs`. -/
theorem readPairs_append (self : Hawk) (ps qs : List (String × String)) :
    readPairs self (ps ++ qs) = readPairs (readPairs self ps) qs := by
  simp only [readPairs, lastValue_append, getD_or]

/-! ### Reading the grammar -/

/-- **One element reads one pair**: for a key without `=` and a value without `"`, the element
`k="v"` sets the field its key names to `v`, as reading that pair alone does. -/
theorem parseElement_renderPair (self : Hawk) {p : String × String} (hk : '=' ∉ p.1.data)
    (hv : '"' ∉ p.2.data) : parseElement self (renderPair p) = readPairs self [p] := by
  obtain ⟨k, v⟩ := p
  simp only [renderPair, parseElement, splitN_eq_kv k (quoted v) hk, trim_quoted hv]
  split <;> simp_all [readPairs, lastValue]

/-- The elements read the pairs in order. -/
theorem foldl_parseElement_renderPair (self : Hawk) (pairs : List (String × String))
    (hk : ∀ p ∈ pairs, '=' ∉ p.1.data) (hv : ∀ p ∈ pairs, '"' ∉ p.2.data) :
    (pairs.map renderPair).foldl parseElement self = readPairs self pairs := by
  induction pairs generalizing self with
  | nil => rfl
  | cons p ps ih =>
      rw [List.map_cons, List.foldl_cons, parseElement_renderPair self (hk p (.head _)) (hv p (.head _)),
        ih _ (fun q hq => hk q (.tail _ hq)) (fun q hq => hv q (.tail _ hq))]
      exact (readPairs_append self [p] ps).symm

/-- A rendered pair followed by a comma holds no `", "`, so that cutting the header at `", "`
finds exactly the separators. -/
theorem renderPair_no_sep {p : String × String} (hk : ¬ [',', ' '] <:+: p.1.data)
    (hv : ¬ [',', ' '] <:+: p.2.data) :
    ¬ ", ".data <:+: (renderPair p).data ++ ", ".data.dropLast := by
  have hkq : ¬ [',', ' '] <:+: p.1.data ++ "=\"".data :=
    not_sep_append hk (by decide) (.inr (by decide))
  rw [show (renderPair p).data ++ ", ".data.dropLast = p.1.data ++ "=\"".data ++ p.2.data ++
      "\",".data by simp only [renderPair, quoted, String.data_append, List.append_assoc]; rfl]
  exact not_sep_between hkq (by decide) hv (by rw [List.getLast?_append_of_ne_nil _ (by decide)]; decide) (by decide)

/-- **`ParseAuthHeader` reads its grammar.**  For every list of pairs, with no `=` and no `", "`
in a key and no `"` and no `", "` in a value, the header `Hawk ` and the pairs rendered `k="v"`
and joined by `", "` parses with no error; each of id, time, nonce, extra string, hash and MAC
takes the value of the last pair whose key is, in lower case, `id`, `ts`, `nonce`, `ext`,
`hash` or `mac`, and keeps its value when there is none; and path, host and port come from the
request alone. -/
theorem parseAuthHeader_renderPairs (self : Hawk) (req : Request) (pairs : List (String × String))
    (hk : ∀ p ∈ pairs, '=' ∉ p.1.data ∧ ¬ [',', ' '] <:+: p.1.data)
    (hv : ∀ p ∈ pairs, '"' ∉ p.2.data ∧ ¬ [',', ' '] <:+: p.2.data) :
    parseAuthHeader self { req with authorization := renderPairs pairs } =
      some (none, { self with
        id := (lastValue pairs "id").getD self.id
        time := (lastValue pairs "ts").getD self.time
        nonce := (lastValue pairs "nonce").getD self.nonce
        extra := (lastValue pairs "ext").getD self.extra
        hash := (lastValue pairs "hash").getD self.hash
        signature := (lastValue pairs "mac").getD self.signature
        path := getFullPath req
        host := (self.getHostPort req).1
        port := (self.getHostPort req).2 }) := by
  rw [renderPairs, parseAuthHeader_hawk]
  by_cases hnil : pairs = []
  · subst hnil
    rfl
  · have hsep : ∀ e ∈ pairs.map renderPair, ¬ ", ".data <:+: e.data ++ ", ".data.dropLast := by
      intro e he
      obtain ⟨p, hp, rfl⟩ := List.mem_map.1 he
      exact renderPair_no_sep (hk p hp).2 (hv p hp).2
    rw [Go.split_join (by decide) _ (by simpa using hnil) hsep,
      foldl_parseElement_renderPair self pairs (fun p hp => (hk p hp).1) (fun p hp => (hv p hp).1)]
    rfl

set_option maxRecDepth 4000 in
/-- The key `İd` lower-cases to `id`, so its value, the last, is the id read. -/
theorem parseAuthHeader_renderPairs_lock :
    (∀ p ∈ [("id", "dev-1"), ("ts", "1"), ("\u0130d", "dev-2")],
        '=' ∉ p.1.data ∧ ¬ [',', ' '] <:+: p.1.data) ∧
      (∀ p ∈ [("id", "dev-1"), ("ts", "1"), ("\u0130d", "dev-2")],
        '"' ∉ p.2.data ∧ ¬ [',', ' '] <:+: p.2.data) ∧
      parseAuthHeader (fresh false) { lockRequest with
          authorization := renderPairs [("id", "dev-1"), ("ts", "1"), ("\u0130d", "dev-2")] } =
        some (none, { fresh false with
          id := "dev-2", time := "1", path := "/cmd", host := "fmd.example.com", port := "443" }) :=
  ⟨by decide, by decide, parseAuthHeader_renderPairs (fresh false) lockRequest _ (by decide)
    (by decide)⟩

end Hawk

end FindMyDevice
