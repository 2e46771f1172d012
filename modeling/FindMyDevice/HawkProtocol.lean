/-
**Signing twice is signing once, and a header written as the grammar has it passes the check.**

`GenerateSignature` fills only the fields of a `Hawk` that are empty, and what it fills the time,
the nonce and the payload hash with is never empty: a decimal number, and the Base64 texts of six
drawn bytes and of a digest.  The path, host, port and method it fills from the request are
filled again with the same values.  So a `Hawk` it has signed is one it leaves as it is: signing
it again, with the same request, extra string and secret, gives it back, whatever body, draw and
clock the second signing gets (`FindMyDevice.Hawk.generateSignature_idem`).  `AsHeader` signs only
a `Hawk` without a MAC, and a signed one always has one, so it signs a `Hawk` once: a later call
with another request, body, extra string or secret renders the first signing's fields again
(`FindMyDevice.Hawk.asHeader_asHeader`).

The server's check (`FindMyDevice.Hawk.verify`) parses the `Authorization` header into a fresh
`Hawk` and signs the request again from it.  `AsHeader` does not render its fields as the parser
reads them (`FindMyDevice.HawkHeader`); a client that sends the pairs of its signed `Hawk` as the
grammar has them (`FindMyDevice.Hawk.signedPairs`, rendered by
`FindMyDevice.Hawk.renderPairs`) gets its time, nonce, payload hash, extra string and MAC read
back, while the method, path, host and port come from the request.  The server then rebuilds the
client's canonical string, computes the client's MAC, and the check passes, for every choice of
hash functions.  It passes for every body the server holds: the payload hash is the one the
header carries, and nothing in the check hashes the body of the request.  More generally, the
check reads the body, the server's clock and its draws only to fill a field the header left
empty: every header with a time, a nonce and a payload hash gets one answer whatever they are, so
the check binds no body and refuses no old request.  Nor does it bind all of the Host header:
`getHostPort` keeps the text before the first colon, and a port only from a header with exactly
one colon and only when `override_port` is not set.

Main definitions:

* `FindMyDevice.Hawk.signedPairs` — the pairs of a signed `Hawk` that a client sends.

Main results:

* `FindMyDevice.Hawk.generateSignature_marshal` — a MAC is the MAC of the canonical string of the
  `Hawk` that holds it;
* `FindMyDevice.Hawk.generateSignature_filled` — what a signing leaves, a second signing does not
  fill again;
* `FindMyDevice.Hawk.generateSignature_idem` — **signing a signed `Hawk` again changes nothing**;
* `FindMyDevice.Hawk.asHeader_asHeader` — **`AsHeader` signs a `Hawk` once**, whatever request,
  body, extra string and secret a later call passes;
* `FindMyDevice.Hawk.verify_renderPairs_signedPairs` — **a signed request whose header follows
  the grammar passes the check, whatever body the server holds**;
* `FindMyDevice.Hawk.verify_independent` — **the check of a header with a time, a nonce and a
  payload hash reads neither the body nor the server's clock and draws**;
* `FindMyDevice.Hawk.generateSignature_host_unbound` — **the MAC does not bind a Host header past
  its first colon** when the header has other than one colon, nor its port under
  `override_port`.

That the check fails for a request whose fields were changed is a property of the hash functions,
which the model leaves abstract, and is not stated here.
-/

import FindMyDevice.HeaderGrammar
import FindMyDevice.Canonical

set_option relaxedAutoImplicit false
set_option autoImplicit false

namespace FindMyDevice

/-! ### Values that are never empty -/

theorem toDigitsCore_ne_nil :
    ∀ (fuel n : ℕ) (ds : List Char), Nat.toDigitsCore 10 (fuel + 1) n ds ≠ []
  | 0, n, ds => by
    show (if n / 10 = 0 then Nat.digitChar (n % 10) :: ds else Nat.digitChar (n % 10) :: ds) ≠ []
    rw [ite_self]
    exact List.cons_ne_nil _ _
  | fuel + 1, n, ds => by
    show (if n / 10 = 0 then Nat.digitChar (n % 10) :: ds
      else Nat.toDigitsCore 10 (fuel + 1) (n / 10) (Nat.digitChar (n % 10) :: ds)) ≠ []
    split
    · exact List.cons_ne_nil _ _
    · exact toDigitsCore_ne_nil fuel _ _

theorem toString_ne_empty (n : ℕ) : toString n ≠ "" := fun h =>
  toDigitsCore_ne_nil n n [] (congrArg String.data h)

namespace Hawk

theorem genNonce_ne_empty (draw : NonceDraw) : genNonce draw ≠ "" :=
  ne_empty_of_base64 fun h => by simpa [h] using draw.2

theorem genHash_ne_empty (crypto : Crypto) (req : Request) (body : String) :
    genHash crypto req body ≠ "" :=
  ne_empty_of_base64 (digest_ne_nil _)

/-! ### What a signing leaves -/

section Sign

variable (crypto : Crypto) (req : Request) (extra secret : String)

/-- A MAC `GenerateSignature` computes is the MAC of the canonical string of the `Hawk` it
returns: the canonical string reads no field the MAC is stored in. -/
theorem generateSignature_marshal (self : Hawk) (body : String) (draw : NonceDraw) (now : ℕ) :
    (self.generateSignature crypto req extra body secret draw now).signature =
      ⟨base64Encode (crypto.hmacSha256 (bytesOf secret)
        (bytesOf ((self.generateSignature crypto req extra body secret draw now).marshal
          extra))).bytes⟩ := by
  obtain ⟨s, hs⟩ : ∃ s : Hawk, self.generateSignature crypto req extra body secret draw now =
      { s with signature := ⟨base64Encode (crypto.hmacSha256 (bytesOf secret)
        (bytesOf (s.marshal extra))).bytes⟩ } := ⟨_, rfl⟩
  rw [hs]
  rfl

/-- Two signings under one secret whose canonical strings agree compute one MAC. -/
theorem signature_eq_of_marshal_eq {h₁ h₂ : Hawk} {r₂ : Request} {b₁ b₂ : String}
    {d₁ d₂ : NonceDraw} {n₁ n₂ : ℕ}
    (h : (h₁.generateSignature crypto req extra b₁ secret d₁ n₁).marshal extra =
      (h₂.generateSignature crypto r₂ extra b₂ secret d₂ n₂).marshal extra) :
    (h₁.generateSignature crypto req extra b₁ secret d₁ n₁).signature =
      (h₂.generateSignature crypto r₂ extra b₂ secret d₂ n₂).signature := by
  rw [generateSignature_marshal, generateSignature_marshal crypto r₂ extra secret h₂, h]

/-- The fields `GenerateSignature` never writes: the configuration, the id and the extra
string. -/
theorem generateSignature_keeps (self : Hawk) (body : String) (draw : NonceDraw) (now : ℕ) :
    let g := self.generateSignature crypto req extra body secret draw now
    g.overridePort = self.overridePort ∧ g.id = self.id ∧ g.extra = self.extra := by
  simp only [generateSignature, apply_ite Hawk.overridePort, apply_ite Hawk.id,
    apply_ite Hawk.extra, ite_self, and_self]

/-- Equal values of the fields the canonical string reads give equal canonical strings. -/
theorem marshal_congr {h₁ h₂ : Hawk} (ht : h₁.time = h₂.time) (hn : h₁.nonce = h₂.nonce)
    (hm : h₁.method = h₂.method) (hp : h₁.path = h₂.path) (hH : h₁.host = h₂.host)
    (hP : h₁.port = h₂.port) (hh : h₁.hash = h₂.hash) : h₁.marshal extra = h₂.marshal extra := by
  simp only [marshal, ht, hn, hm, hp, hH, hP, hh]

/-- **What a signing leaves, a second signing does not fill again**: the time, the nonce and the
payload hash are not empty, and filling the path, the method, the host and the port from the
same request gives them back. -/
theorem generateSignature_filled (self : Hawk) (body : String) (draw : NonceDraw) (now : ℕ) :
    let g := self.generateSignature crypto req extra body secret draw now
    g.time ≠ "" ∧ g.nonce ≠ "" ∧ g.hash ≠ "" ∧
      (if g.method = "" then Go.toUpper req.method else g.method) = g.method ∧
      (if g.path = "" then getFullPath req else g.path) = g.path ∧
      (if g.host = "" then (g.getHostPort req).1 else g.host) = g.host ∧
      (if g.host = "" then (g.getHostPort req).2 else g.port) = g.port := by
  intro g
  obtain ⟨ht, hn, hm, hp, hh, hH, hP⟩ :=
    generateSignature_fields crypto self req extra body secret draw now
  have hhp : g.getHostPort req = self.getHostPort req :=
    getHostPort_congr (generateSignature_keeps crypto req extra secret self body draw now).1 req
  refine ⟨?time, ?nonce, ?hash, ?method, ?path, ?host, ?port⟩
  case time => rw [ht]; split_ifs with h; exacts [toString_ne_empty now, h]
  case nonce => rw [hn]; split_ifs with h; exacts [genNonce_ne_empty draw, h]
  case hash => rw [hh]; split_ifs with h; exacts [genHash_ne_empty crypto req body, h]
  case method => rw [hm]; by_cases h : self.method = "" <;> simp [h]
  case path => rw [hp]; by_cases h : self.path = "" <;> simp [h]
  case host => rw [hhp, hH]; by_cases h : self.host = "" <;> simp [h]
  case port => rw [hhp, hP, hH]; by_cases h : self.host = "" <;> simp [h]

/-! ### Signing twice -/

/-- A `Hawk` whose time, nonce and payload hash are set, that filling from `req` would not change,
and whose MAC is that of its canonical string, is one `GenerateSignature` leaves as it is. -/
theorem generateSignature_eq_self {g : Hawk} (ht : g.time ≠ "") (hn : g.nonce ≠ "")
    (hh : g.hash ≠ "") (hm : (if g.method = "" then Go.toUpper req.method else g.method) = g.method)
    (hp : (if g.path = "" then getFullPath req else g.path) = g.path)
    (hH : (if g.host = "" then (g.getHostPort req).1 else g.host) = g.host)
    (hP : (if g.host = "" then (g.getHostPort req).2 else g.port) = g.port)
    (hsig : g.signature =
      ⟨base64Encode (crypto.hmacSha256 (bytesOf secret) (bytesOf (g.marshal extra))).bytes⟩)
    (body : String) (draw : NonceDraw) (now : ℕ) :
    g.generateSignature crypto req extra body secret draw now = g := by
  obtain ⟨ht', hn', hm', hp', hh', hH', hP'⟩ :=
    generateSignature_fields crypto g req extra body secret draw now
  obtain ⟨ho', hi', he'⟩ := generateSignature_keeps crypto req extra secret g body draw now
  simp only [if_neg ht, if_neg hn, if_neg hh, hm, hp, hH, hP] at ht' hn' hh' hm' hp' hH' hP'
  refine Hawk.ext ho' hi' ht' hn' hm' hp' hH' hP' he' hh' ?_
  rw [generateSignature_marshal, marshal_congr extra ht' hn' hm' hp' hH' hP' hh', ← hsig]

end Sign

/-- **Signing a signed `Hawk` again changes nothing**: with the same request, extra string and
secret, the second signing gives back the `Hawk` the first one returned, whatever body, draw and
clock it gets, so `AsHeader`'s guard on an empty MAC only saves work. -/
theorem generateSignature_idem (crypto : Crypto) (self : Hawk) (req : Request)
    (extra body secret body' : String) (draw draw' : NonceDraw) (now now' : ℕ) :
    (self.generateSignature crypto req extra body secret draw now).generateSignature crypto req
        extra body' secret draw' now' =
      self.generateSignature crypto req extra body secret draw now := by
  obtain ⟨ht, hn, hh, hm, hp, hH, hP⟩ :=
    generateSignature_filled crypto req extra secret self body draw now
  exact generateSignature_eq_self crypto req extra secret ht hn hh hm hp hH hP
    (generateSignature_marshal crypto req extra secret self body draw now) body' draw' now'

/-- A `Hawk` that `AsHeader` returns carries a MAC: the one it had, or the one it was signed
with, which is the Base64 text of a digest. -/
theorem asHeader_signature_ne_empty (crypto : Crypto) (self : Hawk) (req : Request)
    (id body extra secret : String) (draw : NonceDraw) (now : ℕ) :
    (asHeader crypto self req id body extra secret draw now).2.signature ≠ "" := by
  simp only [asHeader]
  split_ifs with h
  · obtain ⟨d, hd⟩ := generateSignature_signature crypto self req extra body secret draw now
    rw [hd]
    exact ne_empty_of_base64 (digest_ne_nil d)
  · exact h

/-- **`AsHeader` signs a `Hawk` once.**  Called again on the `Hawk` it returned, with any id,
body, extra string, secret, draw and clock, it signs nothing, renders the same fields under the
new id and leaves the `Hawk` as it is: a `Hawk` used for a second request keeps the first
request's MAC, time and nonce. -/
theorem asHeader_asHeader (crypto : Crypto) (self : Hawk) (req : Request)
    (id body extra secret : String) (draw : NonceDraw) (now : ℕ) (req' : Request)
    (id' body' extra' secret' : String) (draw' : NonceDraw) (now' : ℕ) :
    asHeader crypto (asHeader crypto self req id body extra secret draw now).2 req' id' body' extra'
        secret' draw' now' =
      (headerText id' (asHeader crypto self req id body extra secret draw now).2,
        (asHeader crypto self req id body extra secret draw now).2) := by
  rw [asHeader, if_neg (asHeader_signature_ne_empty crypto self req id body extra secret draw now)]

/-! ### What the check reads -/

/-- A `Hawk` with a time, a nonce and a payload hash is signed alike whatever body, draw and clock
the signing gets: they only fill those three fields when they are empty. -/
theorem generateSignature_of_set (crypto : Crypto) {self : Hawk} (ht : self.time ≠ "")
    (hn : self.nonce ≠ "") (hh : self.hash ≠ "") (req : Request) (extra secret body body' : String)
    (draw draw' : NonceDraw) (now now' : ℕ) :
    self.generateSignature crypto req extra body secret draw now =
      self.generateSignature crypto req extra body' secret draw' now' := by
  obtain ⟨ht₁, hn₁, hm₁, hp₁, hh₁, hH₁, hP₁⟩ :=
    generateSignature_fields crypto self req extra body secret draw now
  obtain ⟨ht₂, hn₂, hm₂, hp₂, hh₂, hH₂, hP₂⟩ :=
    generateSignature_fields crypto self req extra body' secret draw' now'
  obtain ⟨ho₁, hi₁, he₁⟩ := generateSignature_keeps crypto req extra secret self body draw now
  obtain ⟨ho₂, hi₂, he₂⟩ := generateSignature_keeps crypto req extra secret self body' draw' now'
  simp only [if_neg ht, if_neg hn, if_neg hh] at ht₁ ht₂ hn₁ hn₂ hh₁ hh₂
  have htime := ht₁.trans ht₂.symm
  have hnonce := hn₁.trans hn₂.symm
  have hmethod := hm₁.trans hm₂.symm
  have hpath := hp₁.trans hp₂.symm
  have hhost := hH₁.trans hH₂.symm
  have hport := hP₁.trans hP₂.symm
  have hhash := hh₁.trans hh₂.symm
  refine Hawk.ext (ho₁.trans ho₂.symm) (hi₁.trans hi₂.symm) htime hnonce hmethod hpath hhost hport
    (he₁.trans he₂.symm) hhash ?_
  exact signature_eq_of_marshal_eq crypto req extra secret
    (marshal_congr extra htime hnonce hmethod hpath hhost hport hhash)

/-- **The check reads neither the body nor the server's clock and draws.**  For every request
whose `Authorization` header, once parsed, carries a time, a nonce and a payload hash, the check
gives the same answer for every body the server holds and every draw and clock it has: the
payload hash is taken from the header, and the time is never compared with the server's clock, so
the check neither binds the body nor refuses an old request. -/
theorem verify_independent (crypto : Crypto) (o : Bool) (req : Request) (secret : String)
    (h : ∀ v, parseAuthHeader (fresh o) req = some (none, v) →
      v.time ≠ "" ∧ v.nonce ≠ "" ∧ v.hash ≠ "")
    (body body' : String) (draw draw' : NonceDraw) (now now' : ℕ) :
    verify crypto o req body secret draw now = verify crypto o req body' secret draw' now' := by
  simp only [verify]
  split
  · next v hv =>
    obtain ⟨ht, hn, hh⟩ := h v hv
    rw [generateSignature_of_set crypto ht hn hh req v.extra secret body body' draw draw' now now']
  · rfl

/-- A `lock` header with a time, a nonce and a hash gets the same answer for an `unlock` body read
at another time with another draw. -/
theorem verify_independent_replay :
    (∀ v, parseAuthHeader (fresh false)
        { lockRequest with authorization := "Hawk ts=\"1\", nonce=\"n\", hash=\"h\"" } =
          some (none, v) → v.time ≠ "" ∧ v.nonce ≠ "" ∧ v.hash ≠ "") ∧
      verify Crypto.zero false
          { lockRequest with authorization := "Hawk ts=\"1\", nonce=\"n\", hash=\"h\"" } "lock"
          "s3cr3t" ⟨List.replicate 6 0, rfl⟩ 0 =
        verify Crypto.zero false
          { lockRequest with authorization := "Hawk ts=\"1\", nonce=\"n\", hash=\"h\"" } "unlock"
          "s3cr3t" ⟨List.replicate 6 1, rfl⟩ 99 := by
  have hp : Option.map (fun p : Option HawkError × Hawk => (p.2.time, p.2.nonce, p.2.hash))
      (parseAuthHeader (fresh false)
        { lockRequest with authorization := "Hawk ts=\"1\", nonce=\"n\", hash=\"h\"" }) =
      some ("1", "n", "h") := by decide
  have h : ∀ v, parseAuthHeader (fresh false)
      { lockRequest with authorization := "Hawk ts=\"1\", nonce=\"n\", hash=\"h\"" } =
        some (none, v) → v.time ≠ "" ∧ v.nonce ≠ "" ∧ v.hash ≠ "" := by
    intro v hv
    rw [hv, Option.map_some', Option.some.injEq, Prod.mk.injEq, Prod.mk.injEq] at hp
    obtain ⟨h₁, h₂, h₃⟩ := hp
    rw [h₁, h₂, h₃]
    decide
  exact ⟨h, verify_independent Crypto.zero false _ "s3cr3t" h "lock" "unlock" _ _ 0 99⟩

/-- A Host header with other than one colon, as an IPv6 literal has, or any Host header when
`override_port` is set, gives the text before its first colon and the scheme's port. -/
theorem getHostPort_of_portless {self : Hawk} {req : Request}
    (h : self.overridePort = true ∨ (Go.split req.host ":").length ≠ 2) :
    self.getHostPort req =
      ((Go.split req.host ":").headD "", if req.url.scheme = "https" then "443" else "80") := by
  rcases h with h | h <;> simp [getHostPort, h]

/-- **The MAC does not bind a Host header past its first colon** when the header holds other than
one colon, as an IPv6 literal does, nor its port when `override_port` is set.  Two requests that
differ only in such Host headers, agreeing up to the first colon, get one MAC from every `Hawk`,
under every choice of hash functions, extra string, body, secret, draw and clock. -/
theorem generateSignature_host_unbound (crypto : Crypto) (self : Hawk) (req : Request)
    (extra body secret : String) (draw : NonceDraw) (now : ℕ) {h₁ h₂ : String}
    (hhead : (Go.split h₁ ":").headD "" = (Go.split h₂ ":").headD "")
    (h : self.overridePort = true ∨
      (Go.split h₁ ":").length ≠ 2 ∧ (Go.split h₂ ":").length ≠ 2) :
    (self.generateSignature crypto { req with host := h₁ } extra body secret draw now).signature =
      (self.generateSignature crypto { req with host := h₂ } extra body secret draw
        now).signature := by
  have hhp :
      self.getHostPort { req with host := h₁ } = self.getHostPort { req with host := h₂ } := by
    rw [getHostPort_of_portless (h.imp_right And.left),
      getHostPort_of_portless (h.imp_right And.right)]
    exact congrArg (·, _) hhead
  obtain ⟨ht₁, hn₁, hm₁, hp₁, hh₁, hH₁, hP₁⟩ :=
    generateSignature_fields crypto self { req with host := h₁ } extra body secret draw now
  obtain ⟨ht₂, hn₂, hm₂, hp₂, hh₂, hH₂, hP₂⟩ :=
    generateSignature_fields crypto self { req with host := h₂ } extra body secret draw now
  refine signature_eq_of_marshal_eq crypto _ extra secret (marshal_congr extra
    (ht₁.trans ht₂.symm) (hn₁.trans hn₂.symm) (hm₁.trans hm₂.symm) (hp₁.trans hp₂.symm) ?_ ?_
    (hh₁.trans hh₂.symm))
  · rw [hH₁, hH₂, hhp]
  · rw [hP₁, hP₂, hhp]

/-- A `lock` request signed for the IPv6 host `[::1]` on port 443 carries the MAC of one sent to
`[::2]`. -/
theorem generateSignature_host_unbound_ipv6 :
    (Go.split "[::1]:443" ":").headD "" = (Go.split "[::2]:443" ":").headD "" ∧
      ((fresh false).overridePort = true ∨
        (Go.split "[::1]:443" ":").length ≠ 2 ∧ (Go.split "[::2]:443" ":").length ≠ 2) ∧
      ((fresh false).generateSignature Crypto.zero { lockRequest with host := "[::1]:443" } ""
          "lock" "s3cr3t" ⟨List.replicate 6 0, rfl⟩ 0).signature =
        ((fresh false).generateSignature Crypto.zero { lockRequest with host := "[::2]:443" } ""
          "lock" "s3cr3t" ⟨List.replicate 6 0, rfl⟩ 0).signature := by
  have hhead : (Go.split "[::1]:443" ":").headD "" = (Go.split "[::2]:443" ":").headD "" := by
    decide
  have h : (fresh false).overridePort = true ∨
      (Go.split "[::1]:443" ":").length ≠ 2 ∧ (Go.split "[::2]:443" ":").length ≠ 2 :=
    .inr ⟨by decide, by decide⟩
  exact ⟨hhead, h, generateSignature_host_unbound Crypto.zero (fresh false) lockRequest "" "lock"
    "s3cr3t" _ 0 hhead h⟩

/-! ### A header that follows the grammar -/

/-- The pairs of a signed `Hawk` `g` that a client sends with its id and extra string. -/
def signedPairs (id extra : String) (g : Hawk) : List (String × String) :=
  [("id", id), ("ts", g.time), ("nonce", g.nonce), ("ext", extra), ("hash", g.hash),
    ("mac", g.signature)]

/-- A value free of `"` and of `,` can be sent in a pair. -/
theorem sendable_of_noQuoteComma {v : String} (h : NoQuoteComma v) :
    '"' ∉ v.data ∧ ¬ [',', ' '] <:+: v.data :=
  ⟨h.2, fun hi => h.1 (hi.subset (List.mem_cons_self _ _))⟩

/-- What `ParseAuthHeader` reads from the pairs of a `Hawk` signed from a fresh one: the id and
the extra string sent, the time, nonce, payload hash and MAC of the signing, and the path, host
and port of the request. -/
theorem parseAuthHeader_signedPairs (crypto : Crypto) (o : Bool) (req : Request)
    (id extra body secret : String) (draw : NonceDraw) (now : ℕ)
    (hid : '"' ∉ id.data ∧ ¬ [',', ' '] <:+: id.data)
    (hext : '"' ∉ extra.data ∧ ¬ [',', ' '] <:+: extra.data) :
    let g := (fresh o).generateSignature crypto req extra body secret draw now
    parseAuthHeader (fresh o) { req with authorization := renderPairs (signedPairs id extra g) } =
      some (none, { fresh o with
        id := id, time := g.time, nonce := g.nonce, extra := extra, hash := g.hash,
        signature := g.signature, path := getFullPath req,
        host := ((fresh o).getHostPort req).1, port := ((fresh o).getHostPort req).2 }) := by
  intro g
  obtain ⟨htime, hnonce, -, hhash⟩ :=
    generateSignature_fresh crypto o req extra body secret draw now
  obtain ⟨d, hsig⟩ := generateSignature_signature crypto (fresh o) req extra body secret draw now
  have hv : ∀ p ∈ signedPairs id extra g, '"' ∉ p.2.data ∧ ¬ [',', ' '] <:+: p.2.data := by
    simp only [signedPairs, List.mem_cons, List.mem_singleton, List.not_mem_nil, or_false]
    rintro p (rfl | rfl | rfl | rfl | rfl | rfl)
    exacts [hid, htime ▸ sendable_of_noQuoteComma (noQuoteComma_toString now),
      hnonce ▸ sendable_of_noQuoteComma (noQuoteComma_base64 _), hext,
      hhash ▸ sendable_of_noQuoteComma (noQuoteComma_base64 _),
      hsig ▸ sendable_of_noQuoteComma (noQuoteComma_base64 _)]
  have hk : ∀ p ∈ signedPairs id extra g, '=' ∉ p.1.data ∧ ¬ [',', ' '] <:+: p.1.data := by
    simp only [signedPairs, List.mem_cons, List.mem_singleton, List.not_mem_nil, or_false]
    rintro p (rfl | rfl | rfl | rfl | rfl | rfl) <;> dsimp only <;> decide
  have hsep : ∀ e ∈ (signedPairs id extra g).map renderPair,
      ¬ ", ".data <:+: e.data ++ ", ".data.dropLast := by
    intro e he
    obtain ⟨p, hp, rfl⟩ := List.mem_map.1 he
    exact renderPair_no_sep (hk p hp).2 (hv p hp).2
  rw [renderPairs, parseAuthHeader_hawk, Go.split_join (by decide) _ (by simp [signedPairs]) hsep,
    foldl_parseElement_renderPair _ _ (fun p hp => (hk p hp).1) (fun p hp => (hv p hp).1)]
  rfl

/-- The server signs again what it parsed: a `Hawk` with the id and extra string sent, the time,
nonce, payload hash and MAC of a signing from a fresh `Hawk`, and the path, host and port of the
request, signed with that extra string and secret for the request with any header, computes the
MAC of the signing. -/
theorem compare_resign (crypto : Crypto) (o : Bool) (req : Request) (id extra body secret : String)
    (draw : NonceDraw) (now : ℕ) (a body' : String) (draw' : NonceDraw) (now' : ℕ) {v : Hawk}
    (hv : v = let g := (fresh o).generateSignature crypto req extra body secret draw now
      { fresh o with
        id := id, time := g.time, nonce := g.nonce, extra := extra, hash := g.hash,
        signature := g.signature, path := getFullPath req,
        host := ((fresh o).getHostPort req).1, port := ((fresh o).getHostPort req).2 }) :
    (v.generateSignature crypto { req with authorization := a } extra body' secret draw'
        now').compare
      ((fresh o).generateSignature crypto req extra body secret draw now).signature = true := by
  obtain ⟨ht, hn, hh, -, -, -, -⟩ :=
    generateSignature_filled crypto req extra secret (fresh o) body draw now
  obtain ⟨-, -, hm, hp, -, hH, hP⟩ :=
    generateSignature_fields crypto (fresh o) req extra body secret draw now
  obtain ⟨ht', hn', hm', hp', hh', hH', hP'⟩ :=
    generateSignature_fields crypto v { req with authorization := a } extra body' secret draw' now'
  obtain ⟨hvo, hvt, hvn, hvh, hvm, hvp, hvH, hvP⟩ : v.overridePort = (fresh o).overridePort ∧
      v.time = ((fresh o).generateSignature crypto req extra body secret draw now).time ∧
      v.nonce = ((fresh o).generateSignature crypto req extra body secret draw now).nonce ∧
      v.hash = ((fresh o).generateSignature crypto req extra body secret draw now).hash ∧
      v.method = "" ∧ v.path = getFullPath req ∧ v.host = ((fresh o).getHostPort req).1 ∧
      v.port = ((fresh o).getHostPort req).2 := by
    subst hv
    dsimp only
    exact ⟨rfl, rfl, rfl, rfl, rfl, rfl, rfl, rfl⟩
  have hhp := (getHostPort_congr hvo _).trans (getHostPort_authorization (fresh o) req a)
  have hsig : (v.generateSignature crypto { req with authorization := a } extra body' secret draw'
      now').signature =
        ((fresh o).generateSignature crypto req extra body secret draw now).signature :=
    signature_eq_of_marshal_eq crypto _ extra secret (marshal_congr extra
      (by rw [ht', hvt, if_neg ht]) (by rw [hn', hvn, if_neg hn]) (by rw [hm', hm, hvm]; rfl)
      (by rw [hp', hvp, getFullPath_authorization req a, ite_self, hp]; rfl)
      (by rw [hH', hvH, hhp, ite_self, hH]; rfl) (by rw [hP', hvH, hvP, hhp, ite_self, hP]; rfl)
      (by rw [hh', hvh, if_neg hh]))
  simp only [compare, hsig, decide_True]

/-- **A signed request whose header follows the grammar passes the check.**  A client signs a
request from a fresh `Hawk` and sends its id, time, nonce, extra string, payload hash and MAC as
the pairs of the grammar, with an id and an extra string free of `"` and of `", "`.  A server
with the same configuration and the same secret accepts it, for every choice of hash functions,
and whatever body, draw and clock it uses: it takes the payload hash from the header and never
hashes the body. -/
theorem verify_renderPairs_signedPairs (crypto : Crypto) (o : Bool) (req : Request)
    (id extra body secret : String) (draw : NonceDraw) (now : ℕ)
    (hid : '"' ∉ id.data ∧ ¬ [',', ' '] <:+: id.data)
    (hext : '"' ∉ extra.data ∧ ¬ [',', ' '] <:+: extra.data)
    (body' : String) (draw' : NonceDraw) (now' : ℕ) :
    verify crypto o { req with authorization := renderPairs (signedPairs id extra
        ((fresh o).generateSignature crypto req extra body secret draw now)) }
      body' secret draw' now' = true := by
  simp only [verify,
    parseAuthHeader_signedPairs crypto o req id extra body secret draw now hid hext]
  exact compare_resign crypto o req id extra body secret draw now _ body' draw' now' rfl

/-- Device `dev-1` signs a `lock` command and sends the pairs of the grammar; the server, holding
the body `unlock` instead, accepts it. -/
theorem verify_renderPairs_signedPairs_unlock :
    ('"' ∉ "dev-1".data ∧ ¬ [',', ' '] <:+: "dev-1".data) ∧ ('"' ∉ "".data ∧ ¬ [',', ' '] <:+: "".data) ∧
      verify Crypto.zero false { lockRequest with
          authorization := renderPairs (signedPairs "dev-1" ""
            ((fresh false).generateSignature Crypto.zero lockRequest "" "lock" "s3cr3t"
              ⟨List.replicate 6 0, rfl⟩ 0)) }
        "unlock" "s3cr3t" ⟨List.replicate 6 1, rfl⟩ 1 = true :=
  ⟨by decide, by decide, verify_renderPairs_signedPairs Crypto.zero false lockRequest "dev-1" ""
    "lock" "s3cr3t" _ 0 (by decide) (by decide) "unlock" _ 1⟩

end Hawk

end FindMyDevice
