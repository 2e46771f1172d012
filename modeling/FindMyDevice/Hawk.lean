/-
**The Hawk authenticator: signing a request, rendering the header, parsing it back.**

`hawk.go` implements a minimal Hawk scheme.  `GenerateSignature` fills the fields of a `Hawk`
that are still empty (path, host and port from the request, a fresh nonce, the clock, the
method, the payload hash) and computes the MAC: an HMAC-SHA256, under the device's secret, of a
newline-separated canonical string.  `AsHeader` renders the fields as an `Authorization` header,
`ParseAuthHeader` reads such a header back into a `Hawk`, and `Compare` checks a presented MAC
against the computed one.

The model follows the Go code statement by statement.  The functions that are not about Hawk
are inputs: SHA-256 and HMAC-SHA256 (`FindMyDevice.Crypto`, of which only the length of a digest
is fixed), the six random bytes of `GenNonce(6)` and the clock.  Base64 encoding is modelled
exactly, since what the header parser does with a MAC depends on the characters it is made of.
Strings are lists of characters, cased by Go's Unicode tables (`FindMyDevice.Go.Unicode`).
`ParseAuthHeader` slices the header at byte offsets; a byte of a character the offset cuts
stands as U+FFFD, the rune Go's string functions read it as.

Main definitions:

* `FindMyDevice.base64Encode` — `base64.StdEncoding.EncodeToString`;
* `FindMyDevice.Crypto` — the two hash functions, with their 32-byte digests;
* `FindMyDevice.Request`, `FindMyDevice.Hawk` — what the functions read from a request, and the
  `Hawk` struct;
* `FindMyDevice.Hawk.getFullPath`, `FindMyDevice.Hawk.getHostPort`, `FindMyDevice.Hawk.genHash`,
  `FindMyDevice.Hawk.generateSignature`, `FindMyDevice.Hawk.asHeader`,
  `FindMyDevice.Hawk.parseAuthHeader`, `FindMyDevice.Hawk.compare` — the functions of `hawk.go`.

Main results:

* `FindMyDevice.base64Encode_mem` — a Base64 text is made of the alphabet and `=`;
* `FindMyDevice.base64Encode_head?` — the text of a non-empty input starts with a letter of the
  alphabet, never with the padding `=`.
-/

import FindMyDevice.GoStrings

set_option relaxedAutoImplicit false
set_option autoImplicit false

namespace FindMyDevice

/-! ### Base64 -/

/-- The alphabet of `base64.StdEncoding`. -/
def base64Alphabet : List Char :=
  "ABCDEFGHIJKLMNOPQRSTUVWXYZabcdefghijklmnopqrstuvwxyz0123456789+/".data

/-- The letter of a six-bit group. -/
def b64 (n : ℕ) : Char := base64Alphabet.getD n 'A'

/-- `base64.StdEncoding.EncodeToString`: each group of three bytes becomes four letters, and a
last group of one or two bytes is padded with `=`. -/
def base64Encode : List UInt8 → List Char
  | [] => []
  | [x] => [b64 (x.toNat / 4), b64 (x.toNat % 4 * 16), '=', '=']
  | [x, y] => [b64 (x.toNat / 4), b64 (x.toNat % 4 * 16 + y.toNat / 16), b64 (y.toNat % 16 * 4), '=']
  | x :: y :: z :: rest =>
    [b64 (x.toNat / 4), b64 (x.toNat % 4 * 16 + y.toNat / 16),
      b64 (y.toNat % 16 * 4 + z.toNat / 64), b64 (z.toNat % 64)] ++ base64Encode rest

theorem b64_mem (n : ℕ) : b64 n ∈ base64Alphabet := by
  unfold b64
  rw [List.getD_eq_getElem?_getD]
  cases h : base64Alphabet[n]? with
  | none => decide
  | some x => exact List.getElem?_mem h

/-- **A Base64 text is made of the letters of the alphabet and the padding `=`.** -/
theorem base64Encode_mem : ∀ (l : List UInt8), ∀ x ∈ base64Encode l, x ∈ base64Alphabet ∨ x = '='
  | [] => by simp [base64Encode]
  | [x] => by simp [base64Encode, b64_mem]
  | [x, y] => by simp [base64Encode, b64_mem]
  | x :: y :: z :: rest => by
      intro c hc
      simp only [base64Encode, List.cons_append, List.nil_append, List.mem_cons] at hc
      rcases hc with rfl | rfl | rfl | rfl | hc
      iterate 4 exact .inl (b64_mem _)
      exact base64Encode_mem rest c hc

/-- **The text of a non-empty input starts with a letter**, never with the padding. -/
theorem base64Encode_head? : ∀ (l : List UInt8), l ≠ [] →
    ∃ x, (base64Encode l).head? = some x ∧ x ∈ base64Alphabet
  | [], h => absurd rfl h
  | [_], _ => ⟨_, rfl, b64_mem _⟩
  | [_, _], _ => ⟨_, rfl, b64_mem _⟩
  | _ :: _ :: _ :: _, _ => ⟨_, rfl, b64_mem _⟩

/-! ### The functions `hawk.go` calls -/

/-- A SHA-256 digest: 32 bytes. -/
structure Digest where
  bytes : List UInt8
  length_eq : bytes.length = 32

/-- SHA-256 and HMAC-SHA256, left abstract: `sha256 m` is `sha256.Sum256(m)`, `hmacSha256 k m` is
the `Sum` of an HMAC over SHA-256 keyed with `k` that has been written `m`. -/
structure Crypto where
  sha256 : List UInt8 → Digest
  hmacSha256 : List UInt8 → List UInt8 → Digest

/-- The zero digest. -/
def Digest.zero : Digest := ⟨List.replicate 32 0, List.length_replicate _ _⟩

/-- Hash functions that return the zero digest: a `Crypto` in which the model can be run on
sample inputs. -/
def Crypto.zero : Crypto := ⟨fun _ => .zero, fun _ _ => .zero⟩

/-- `[]byte(s)`: the UTF-8 bytes of a string. -/
def bytesOf (s : String) : List UInt8 := s.toUTF8.data.toList

/-- A draw of `GenNonce(6)`: the six bytes `rand.Read` fills. -/
abbrev NonceDraw := { l : List UInt8 // l.length = 6 }

/-! ### Requests and the `Hawk` struct -/

/-- The parts of `req.URL` the Hawk code reads. -/
structure URL where
  scheme : String
  path : String
  rawQuery : String
  fragment : String
  deriving DecidableEq, Repr

/-- The parts of an `http.Request` the Hawk code reads: the method, the URL, `req.Host`, and the
`Content-Type` and `Authorization` headers (`""` when absent, as `Header.Get` returns). -/
structure Request where
  method : String
  url : URL
  host : String
  contentType : String
  authorization : String
  deriving DecidableEq, Repr

/-- The `Hawk` struct, without its logger.  Of its `config` the code reads the flag
`override_port`, kept here as `overridePort`; the flag `hawk.show_hash` only turns on logging. -/
@[ext]
structure Hawk where
  overridePort : Bool
  id : String
  time : String
  nonce : String
  method : String
  path : String
  host : String
  port : String
  extra : String
  hash : String
  signature : String
  deriving DecidableEq, Repr

/-- The errors of `hawk.go`. -/
inductive HawkError
  | noAuth
  | notHawkAuth
  | invalidSignature
  deriving DecidableEq, Repr

namespace Hawk

/-- A zero `Hawk` with its configuration: every string field empty. -/
def fresh (overridePort : Bool) : Hawk := ⟨overridePort, "", "", "", "", "", "", "", "", "", ""⟩

/-- `GenNonce(6)`: the Base64 text of six random bytes. -/
def genNonce (draw : NonceDraw) : String := ⟨base64Encode draw.1⟩

/-- `getFullPath(req)`: the URL path, then `?` and the raw query and `#` and the fragment when
they are non-empty. -/
def getFullPath (req : Request) : String :=
  let path := req.url.path
  let path := if req.url.rawQuery.length > 0 then path ++ "?" ++ req.url.rawQuery else path
  if req.url.fragment.length > 0 then path ++ "#" ++ req.url.fragment else path

/-- `getHostPort(req)`: the host is `req.Host` up to its first `:`, and the port is what follows
when there is exactly one `:`; a missing port, or any port when `override_port` is set, is
replaced by the scheme's, `443` for `https` and `80` otherwise.  (`Split` returns at least one
piece, so `elements[0]` exists.) -/
def getHostPort (self : Hawk) (req : Request) : String × String :=
  let elements := Go.split req.host ":"
  let host := elements.headD ""
  let port := if elements.length = 2 then elements.getD 1 "" else ""
  let port :=
    if port = "" || self.overridePort then (if req.url.scheme = "https" then "443" else "80")
    else port
  (host, port)

/-- The content type `genHash` hashes: the request's `Content-Type` up to its first `;`, and
`text/plain` when the header is absent. -/
def normalizedType (req : Request) : String :=
  let contentType := if req.contentType = "" then "text/plain" else req.contentType
  (Go.split contentType ";").headD ""

/-- The body as `genHash` hashes it: backslashes doubled, then newlines written `\n`. -/
def escapeBody (body : String) : String :=
  let nbody := Go.replace body '\\' "\\\\"
  Go.replace nbody '\n' "\\n"

/-- `marshalStr` of `genHash`: the lines `hawk.1.payload`, the content type and the body, each
ended by a newline. -/
def payloadString (req : Request) (body : String) : String :=
  "hawk.1.payload" ++ "\n" ++ normalizedType req ++ "\n" ++ escapeBody body ++ "\n"

/-- `genHash(req, body)`: the Base64 SHA-256 of the payload string. -/
def genHash (crypto : Crypto) (req : Request) (body : String) : String :=
  ⟨base64Encode (crypto.sha256 (bytesOf (payloadString req body))).bytes⟩

/-- The canonical string `GenerateSignature` signs, from the fields of `self` and `extra`. -/
def marshal (self : Hawk) (extra : String) : String :=
  "hawk.1.header" ++ "\n" ++ self.time ++ "\n" ++ self.nonce ++ "\n" ++ Go.toUpper self.method ++
    "\n" ++ self.path ++ "\n" ++ Go.toLower self.host ++ "\n" ++ self.port ++ "\n" ++ self.hash ++
    "\n" ++ extra ++ "\n"

/-- `GenerateSignature(req, extra, body, secret)`: the empty fields filled in turn, then the MAC
of the canonical string under `secret`.  Its error is always `nil`.  `draw` and `now` are the
bytes `GenNonce` draws and the Unix time, read only when the nonce and the time are empty. -/
def generateSignature (crypto : Crypto) (self : Hawk) (req : Request)
    (extra body secret : String) (draw : NonceDraw) (now : ℕ) : Hawk :=
  let self := if self.path = "" then { self with path := getFullPath req } else self
  let self :=
    if self.host = "" then
      { self with host := (self.getHostPort req).1, port := (self.getHostPort req).2 }
    else self
  let self := if self.nonce = "" then { self with nonce := genNonce draw } else self
  let self := if self.time = "" then { self with time := toString now } else self
  let self := if self.method = "" then { self with method := Go.toUpper req.method } else self
  let self := if self.hash = "" then { self with hash := genHash crypto req body } else self
  { self with
    signature := ⟨base64Encode (crypto.hmacSha256 (bytesOf secret)
      (bytesOf (self.marshal extra))).bytes⟩ }

/-- The header text `AsHeader` formats from an id and the fields of `self`, with its
`fmt.Sprintf` format as the source has it. -/
def headerText (id : String) (self : Hawk) : String :=
  "Hawk id=\"" ++ id ++ "\", ts=\"" ++ self.time ++ "\", nonce=\"" ++ self.nonce ++
    "\" ext=\"" ++ self.extra ++ "\", hash=\"" ++ self.hash ++ "\" mac=\"" ++ self.signature ++
    "\""

/-- `AsHeader(req, id, body, extra, secret)`: signs first when there is no signature yet, then
renders the header; the `Hawk` it leaves is returned too. -/
def asHeader (crypto : Crypto) (self : Hawk) (req : Request) (id body extra secret : String)
    (draw : NonceDraw) (now : ℕ) : String × Hawk :=
  let self :=
    if self.signature = "" then self.generateSignature crypto req extra body secret draw now
    else self
  (headerText id self, self)

/-- One element `key="value"` of the header: the value, without its quotes, goes to the field
the key names in any case; an element without `=` or with another key is skipped. -/
def parseElement (self : Hawk) (element : String) : Hawk :=
  match Go.splitN element "=" 2 with
  | [key, value] =>
    let val := Go.trim value '"'
    match Go.toLower key with
    | "id" => { self with id := val }
    | "ts" => { self with time := val }
    | "nonce" => { self with nonce := val }
    | "ext" => { self with extra := val }
    | "hash" => { self with hash := val }
    | "mac" => { self with signature := val }
    | _ => self
  | _ => self

/-- `ParseAuthHeader(req)`: `none` when slicing the header panics, which happens when it is
shorter than four bytes, or than five with a `hawk` scheme; otherwise the error and the `Hawk`
left.  The slices `auth[:4]` and `auth[5:]` are at byte offsets (`Go.takeBytes`,
`Go.dropBytes`); the elements are `auth[5:]` cut at `", "`, and path, host and port are then
taken from the request. -/
def parseAuthHeader (self : Hawk) (req : Request) : Option (Option HawkError × Hawk) :=
  let auth := req.authorization
  if auth = "" then some (some .noAuth, self)
  else if auth.utf8ByteSize < 4 then none
  else if Go.toLower ⟨Go.takeBytes auth.data 4⟩ ≠ "hawk" then some (some .notHawkAuth, self)
  else if auth.utf8ByteSize < 5 then none
  else
    let self := (Go.split ⟨Go.dropBytes auth.data 5⟩ ", ").foldl parseElement self
    let self := { self with path := getFullPath req }
    some (none, { self with host := (self.getHostPort req).1, port := (self.getHostPort req).2 })

/-- `Compare(sig)`: the two MACs agree once trailing `=` are trimmed from both. -/
def compare (self : Hawk) (sig : String) : Bool :=
  Go.trimRight sig '=' = Go.trimRight self.signature '='

end Hawk

end FindMyDevice
