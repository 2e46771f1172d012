/-
**The two canonical strings of `hawk.go`, and what each one pins down.**

`genHash` hashes the lines `hawk.1.payload`, the normalized content type and the escaped body;
`GenerateSignature` MACs the lines `hawk.1.header`, the time, the nonce, the upper-cased method,
the path, the lower-cased host, the port, the payload hash and the extra string.  Two inputs that
build the same string get the same hash or the same MAC, so what a signature binds is what can
be read back from its string.

The payload string reads back completely.  Doubling the backslashes before writing the newlines
as `\n` is an escaping that a decoder undoes (`FindMyDevice.Hawk.unescape`), and a content type
without a newline ends at the string's second line break; so the string gives back the body and
the normalized content type (`FindMyDevice.Hawk.payloadString_eq_iff`).

The header string reads back its time, nonce and payload hash from the front and its extra
string from the back, whatever the request holds: these are the fields whose values the caller
supplies or `GenerateSignature` draws, and they hold no newline.  The four lines in between come
from the request.  When its method and its `Host` hold no newline, they read back too: the
method line from the front, the port and the host from the back, and the full path is what
lies between, whatever it holds.  But they are not the request: `getFullPath` joins the URL
path, the query and the fragment with `?` and `#`, and the method and the host are cased.  A
request for the path `/cmd?lock` and one for the path `/cmd` with the query `lock` sign alike
(`FindMyDevice.Hawk.marshal_path_query_collision`).

Main definitions:

* `FindMyDevice.Hawk.escapeChar`, `FindMyDevice.Hawk.unescape` — the escaping one character at a
  time, and its decoder.

Main results:

* `FindMyDevice.Hawk.unescape_escapeBody` — the decoder undoes the escaping;
* `FindMyDevice.Hawk.genHash_input_eq_iff` — **what `genHash` hashes agrees for two requests
  exactly when the bodies and the normalized content types do**;
* `FindMyDevice.Hawk.generateSignature_fields` — the fields `GenerateSignature` fills;
* `FindMyDevice.Hawk.marshal_eq` — what one header string determines;
* `FindMyDevice.Hawk.generateSignature_marshal_eq` — **what two requests signed alike share**.
-/

import FindMyDevice.HawkHeader

set_option relaxedAutoImplicit false
set_option autoImplicit false

namespace FindMyDevice

namespace Hawk

/-! ### The payload string -/

/-- How the two `Replace` passes write one character. -/
def escapeChar (c : Char) : List Char :=
  if c = '\\' then ['\\', '\\'] else if c = '\n' then ['\\', 'n'] else [c]

/-- Reads an escaped text back: a backslash and the character after it stand for a newline when
that character is `n`, and for that character otherwise. -/
def unescape : List Char → List Char
  | c :: d :: r => if c = '\\' then (if d = 'n' then '\n' else d) :: unescape r
      else c :: unescape (d :: r)
  | l => l

theorem escapeBody_data (body : String) :
    (escapeBody body).data = body.data.flatMap escapeChar := by
  simp only [escapeBody, Go.replace, List.flatMap_assoc]
  congr 1
  funext c
  by_cases h₁ : c = '\\'
  · subst h₁; rfl
  · by_cases h₂ : c = '\n'
    · subst h₂; rfl
    · simp [escapeChar, h₁, h₂]

theorem unescape_cons_of_ne {c : Char} (h : c ≠ '\\') (l : List Char) :
    unescape (c :: l) = c :: unescape l := by
  cases l with
  | nil => rfl
  | cons d r => simp [unescape, h]

theorem unescape_flatMap_escapeChar : ∀ l : List Char, unescape (l.flatMap escapeChar) = l
  | [] => rfl
  | c :: l => by
    rw [List.flatMap_cons]
    by_cases h₁ : c = '\\'
    · subst h₁; simp [escapeChar, unescape, unescape_flatMap_escapeChar l]
    · by_cases h₂ : c = '\n'
      · subst h₂; simp [escapeChar, unescape, unescape_flatMap_escapeChar l]
      · simp only [escapeChar, h₁, h₂, if_false, List.singleton_append, unescape_cons_of_ne h₁,
          unescape_flatMap_escapeChar l]

/-- **The decoder undoes the escaping**, so the escaping is injective. -/
theorem unescape_escapeBody (body : String) : unescape (escapeBody body).data = body.data := by
  rw [escapeBody_data, unescape_flatMap_escapeChar]

/-- A content type without a newline normalizes to a text without one. -/
theorem newline_not_mem_normalizedType {req : Request} (h : '\n' ∉ req.contentType.data) :
    '\n' ∉ (normalizedType req).data := by
  have hct : '\n' ∉ (if req.contentType = "" then "text/plain" else req.contentType).data := by
    split_ifs
    · decide
    · exact h
  dsimp only [normalizedType]
  cases hl : Go.split (if req.contentType = "" then "text/plain" else req.contentType) ";" with
  | nil => exact List.not_mem_nil _
  | cons p ps => exact Go.not_mem_of_mem_split (hl ▸ List.mem_cons_self p ps) hct

theorem payloadString_data (req : Request) (body : String) :
    (payloadString req body).data = "hawk.1.payload".data ++
      '\n' :: ((normalizedType req).data ++ '\n' :: ((escapeBody body).data ++ ['\n'])) := by
  simp only [payloadString, String.data_append, List.append_assoc]
  rfl

/-- Two payload strings agree exactly when the bodies and the normalized content types do, for
content types without a newline. -/
theorem payloadString_eq_iff (r₁ r₂ : Request) (b₁ b₂ : String)
    (h₁ : '\n' ∉ r₁.contentType.data) (h₂ : '\n' ∉ r₂.contentType.data) :
    payloadString r₁ b₁ = payloadString r₂ b₂ ↔ b₁ = b₂ ∧ normalizedType r₁ = normalizedType r₂ := by
  constructor
  · intro h
    have hd := congrArg String.data h
    rw [payloadString_data, payloadString_data] at hd
    obtain ⟨ht, hb⟩ := Go.eq_of_append_cons_eq (newline_not_mem_normalizedType h₁)
      (newline_not_mem_normalizedType h₂) (List.cons.inj (List.append_cancel_left hd)).2
    have he := congrArg unescape (List.append_cancel_right hb)
    rw [unescape_escapeBody, unescape_escapeBody] at he
    exact ⟨String.ext he, String.ext ht⟩
  · rintro ⟨rfl, h⟩
    rw [payloadString, payloadString, h]

/-- **What `genHash` hashes agrees for two requests exactly when the bodies and the normalized
content types do.**  `genHash` hashes the payload string, whatever the hash functions; two
payload strings, for content types without a newline, agree exactly when the bodies and the
normalized content types do. -/
theorem genHash_input_eq_iff (r₁ r₂ : Request) (b₁ b₂ : String)
    (h₁ : '\n' ∉ r₁.contentType.data) (h₂ : '\n' ∉ r₂.contentType.data) :
    (∀ (crypto : Crypto) (r : Request) (b : String),
      genHash crypto r b = ⟨base64Encode (crypto.sha256 (bytesOf (payloadString r b))).bytes⟩) ∧
      (payloadString r₁ b₁ = payloadString r₂ b₂ ↔
        b₁ = b₂ ∧ normalizedType r₁ = normalizedType r₂) :=
  ⟨fun _ _ _ => rfl, payloadString_eq_iff r₁ r₂ b₁ b₂ h₁ h₂⟩

theorem genHash_input_eq_iff_charset :
    '\n' ∉ lockRequest.contentType.data ∧
      '\n' ∉ "application/json; charset=utf-8".data ∧
      payloadString lockRequest "lock" =
        payloadString { lockRequest with contentType := "application/json; charset=utf-8" } "lock" :=
  ⟨by decide, by decide, ((genHash_input_eq_iff lockRequest
    { lockRequest with contentType := "application/json; charset=utf-8" } "lock" "lock" (by decide)
    (by decide)).2).2 ⟨rfl, rfl⟩⟩

/-! ### The header string -/

/-- **The fields `GenerateSignature` fills**: each empty one from the request, the draw or the
clock, and the port with the host. -/
theorem generateSignature_fields (crypto : Crypto) (self : Hawk) (req : Request)
    (extra body secret : String) (draw : NonceDraw) (now : ℕ) :
    let g := self.generateSignature crypto req extra body secret draw now
    g.time = (if self.time = "" then toString now else self.time) ∧
      g.nonce = (if self.nonce = "" then genNonce draw else self.nonce) ∧
      g.method = (if self.method = "" then Go.toUpper req.method else self.method) ∧
      g.path = (if self.path = "" then getFullPath req else self.path) ∧
      g.hash = (if self.hash = "" then genHash crypto req body else self.hash) ∧
      g.host = (if self.host = "" then (self.getHostPort req).1 else self.host) ∧
      g.port = (if self.host = "" then (self.getHostPort req).2 else self.port) := by
  simp only [generateSignature, apply_ite Hawk.time, apply_ite Hawk.nonce, apply_ite Hawk.method,
    apply_ite Hawk.path, apply_ite Hawk.host, apply_ite Hawk.port, apply_ite Hawk.hash, ite_self,
    true_and]
  constructor <;> split_ifs <;> rfl

/-- The same for a fresh `Hawk` preset with a time, a nonce and a payload hash. -/
theorem generateSignature_preset (crypto : Crypto) (o : Bool) (req : Request)
    (ts n hs extra body secret : String) (draw : NonceDraw) (now : ℕ) :
    let g := generateSignature crypto { fresh o with time := ts, nonce := n, hash := hs } req extra
      body secret draw now
    g.time = (if ts = "" then toString now else ts) ∧
      g.nonce = (if n = "" then genNonce draw else n) ∧
      g.hash = (if hs = "" then genHash crypto req body else hs) ∧
      g.method = Go.toUpper req.method ∧ g.path = getFullPath req ∧
      g.host = ((fresh o).getHostPort req).1 ∧ g.port = ((fresh o).getHostPort req).2 :=
  let ⟨ht, hn, hm, hp, hh, hH, hP⟩ := generateSignature_fields crypto
    { fresh o with time := ts, nonce := n, hash := hs } req extra body secret draw now
  ⟨ht, hn, hh, hm, hp, hH, hP⟩

/-- The header string, line by line, grouped as it is read back: three lines from the front, the
extra string and the hash from the back, and the four lines of the request in between. -/
theorem marshal_data (self : Hawk) (extra : String) :
    (self.marshal extra).data = "hawk.1.header".data ++ '\n' :: (self.time.data ++
      '\n' :: (self.nonce.data ++ '\n' :: (((((Go.toUpper self.method).data ++
        '\n' :: (self.path.data ++ '\n' :: ((Go.toLower self.host).data ++
          '\n' :: self.port.data))) ++ '\n' :: self.hash.data) ++ '\n' :: extra.data) ++
            ['\n']))) := by
  simp only [marshal, String.data_append, List.append_assoc, List.cons_append]
  rfl

/-- **What one header string determines**: with no newline in the time, the nonce, the hash and
the extra string, equal strings have equal values of these four, and equal request lines. -/
theorem marshal_eq {h₁ h₂ : Hawk} {e₁ e₂ : String}
    (hnl : ∀ x ∈ [h₁.time, h₂.time, h₁.nonce, h₂.nonce, h₁.hash, h₂.hash, e₁, e₂],
      '\n' ∉ x.data)
    (h : h₁.marshal e₁ = h₂.marshal e₂) :
    h₁.time = h₂.time ∧ h₁.nonce = h₂.nonce ∧ h₁.hash = h₂.hash ∧ e₁ = e₂ ∧
      (Go.toUpper h₁.method).data ++ '\n' :: (h₁.path.data ++ '\n' ::
          ((Go.toLower h₁.host).data ++ '\n' :: h₁.port.data)) =
        (Go.toUpper h₂.method).data ++ '\n' :: (h₂.path.data ++ '\n' ::
          ((Go.toLower h₂.host).data ++ '\n' :: h₂.port.data)) := by
  simp only [List.mem_cons, List.mem_singleton, List.not_mem_nil, or_false, forall_eq_or_imp,
    forall_eq] at hnl
  obtain ⟨ht₁, ht₂, hn₁, hn₂, hh₁, hh₂, he₁, he₂⟩ := hnl
  have hd := congrArg String.data h
  rw [marshal_data, marshal_data] at hd
  have hpre : '\n' ∉ "hawk.1.header".data := by decide
  obtain ⟨-, hd⟩ := Go.eq_of_append_cons_eq hpre hpre hd
  obtain ⟨ht, hd⟩ := Go.eq_of_append_cons_eq ht₁ ht₂ hd
  obtain ⟨hn, hd⟩ := Go.eq_of_append_cons_eq hn₁ hn₂ hd
  obtain ⟨hd, he⟩ := Go.eq_of_append_cons_eq_right he₁ he₂ (List.append_cancel_right hd)
  obtain ⟨hmid, hh⟩ := Go.eq_of_append_cons_eq_right hh₁ hh₂ hd
  exact ⟨String.ext ht, String.ext hn, String.ext hh, String.ext he, hmid⟩

/-! ### What equal header strings force -/

theorem newline_not_mem_base64 (l : List UInt8) : '\n' ∉ (⟨base64Encode l⟩ : String).data :=
  fun h => (base64Encode_mem l _ h).elim (fun h => absurd h (by decide)) fun h => absurd h (by decide)

theorem newline_not_mem_toString (n : ℕ) : '\n' ∉ (toString n).data := fun h =>
  (mem_toDigitsCore h).elim (List.not_mem_nil _) fun ⟨k, hk, hc⟩ =>
    (by decide : ∀ k < 10, Nat.digitChar k ≠ '\n') k hk hc.symm

/-- A host without a newline yields a host part and a port without one. -/
theorem newline_not_mem_getHostPort (self : Hawk) {req : Request} (h : '\n' ∉ req.host.data) :
    '\n' ∉ (self.getHostPort req).1.data ∧ '\n' ∉ (self.getHostPort req).2.data := by
  have hpiece : ∀ p ∈ Go.split req.host ":", '\n' ∉ p.data := fun p hp =>
    Go.not_mem_of_mem_split hp h
  have hport : '\n' ∉ ((Go.split req.host ":").getD 1 "").data := by
    rw [List.getD_eq_getElem?_getD]
    cases hg : (Go.split req.host ":")[1]? with
    | none => exact List.not_mem_nil _
    | some p => exact hpiece p (List.getElem?_mem hg)
  dsimp only [getHostPort]
  refine ⟨?_, ?_⟩
  · cases hl : Go.split req.host ":" with
    | nil => exact List.not_mem_nil _
    | cons p ps => exact hpiece p (hl ▸ List.mem_cons_self p ps)
  · split_ifs <;> first | decide | exact hport

/-- `POST` over `https` to the service, for the URL path `path` and the raw query `query`. -/
def cmdRequest (path query : String) : Request :=
  ⟨"POST", ⟨"https", path, query, ""⟩, "fmd.example.com", "application/json", ""⟩

/-- **What two requests signed alike share.**  Sign `r₁` and `r₂` with fresh `Hawk`s preset with
times, nonces and payload hashes, and extra strings, none holding a newline.  If the two header
strings agree, then so do the times, nonces and payload hashes used (the preset ones, or the
clock, the draw and the payload hash for empty ones) and the extra strings; and when the methods
and the hosts of the requests hold no newline, so do the method lines (the method upper-cased
when `GenerateSignature` fills it in, and again when it writes the line), the full paths
`getFullPath`, the lower-cased hosts and the ports. -/
theorem generateSignature_marshal_eq (crypto : Crypto) (o₁ o₂ : Bool) (r₁ r₂ : Request)
    (ts₁ ts₂ n₁ n₂ hs₁ hs₂ e₁ e₂ b₁ b₂ k₁ k₂ : String) (d₁ d₂ : NonceDraw) (now₁ now₂ : ℕ)
    (hnl : ∀ x ∈ [ts₁, ts₂, n₁, n₂, hs₁, hs₂, e₁, e₂], '\n' ∉ x.data) (g₁ g₂ : Hawk)
    (hg₁ : g₁ = generateSignature crypto { fresh o₁ with time := ts₁, nonce := n₁, hash := hs₁ }
      r₁ e₁ b₁ k₁ d₁ now₁)
    (hg₂ : g₂ = generateSignature crypto { fresh o₂ with time := ts₂, nonce := n₂, hash := hs₂ }
      r₂ e₂ b₂ k₂ d₂ now₂)
    (h : g₁.marshal e₁ = g₂.marshal e₂) :
    g₁.time = g₂.time ∧ g₁.nonce = g₂.nonce ∧ g₁.hash = g₂.hash ∧ e₁ = e₂ ∧
      ((∀ x ∈ [r₁.method, r₂.method, r₁.host, r₂.host], '\n' ∉ x.data) →
        Go.toUpper (Go.toUpper r₁.method) = Go.toUpper (Go.toUpper r₂.method) ∧
          getFullPath r₁ = getFullPath r₂ ∧
          Go.toLower ((fresh o₁).getHostPort r₁).1 = Go.toLower ((fresh o₂).getHostPort r₂).1 ∧
          ((fresh o₁).getHostPort r₁).2 = ((fresh o₂).getHostPort r₂).2) := by
  obtain ⟨ht₁, hn₁, hh₁, hm₁, hp₁, hH₁, hP₁⟩ :=
    generateSignature_preset crypto o₁ r₁ ts₁ n₁ hs₁ e₁ b₁ k₁ d₁ now₁
  obtain ⟨ht₂, hn₂, hh₂, hm₂, hp₂, hH₂, hP₂⟩ :=
    generateSignature_preset crypto o₂ r₂ ts₂ n₂ hs₂ e₂ b₂ k₂ d₂ now₂
  rw [← hg₁] at ht₁ hn₁ hh₁ hm₁ hp₁ hH₁ hP₁
  rw [← hg₂] at ht₂ hn₂ hh₂ hm₂ hp₂ hH₂ hP₂
  simp only [List.mem_cons, List.mem_singleton, List.not_mem_nil, or_false, forall_eq_or_imp,
    forall_eq] at hnl
  obtain ⟨hts₁, hts₂, hns₁, hns₂, hhs₁, hhs₂, he₁, he₂⟩ := hnl
  have hfill : ∀ {x y : String}, '\n' ∉ y.data → '\n' ∉ x.data →
      '\n' ∉ (if y = "" then x else y).data := fun hy hx => by split_ifs <;> assumption
  have hnl' : ∀ x ∈ [g₁.time, g₂.time, g₁.nonce, g₂.nonce, g₁.hash, g₂.hash, e₁, e₂],
      '\n' ∉ x.data := by
    simp only [List.mem_cons, List.mem_singleton, List.not_mem_nil, or_false, forall_eq_or_imp,
      forall_eq, ht₁, ht₂, hn₁, hn₂, hh₁, hh₂]
    exact ⟨hfill hts₁ (newline_not_mem_toString _), hfill hts₂ (newline_not_mem_toString _),
      hfill hns₁ (newline_not_mem_base64 _), hfill hns₂ (newline_not_mem_base64 _),
      hfill hhs₁ (newline_not_mem_base64 _), hfill hhs₂ (newline_not_mem_base64 _), he₁, he₂⟩
  obtain ⟨htime, hnonce, hhash, hextra, hmid⟩ := @marshal_eq g₁ g₂ e₁ e₂ hnl' h
  refine ⟨htime, hnonce, hhash, hextra, fun hr => ?_⟩
  simp only [List.mem_cons, List.mem_singleton, List.not_mem_nil, or_false, forall_eq_or_imp,
    forall_eq] at hr
  obtain ⟨hM₁, hM₂, hO₁, hO₂⟩ := hr
  obtain ⟨hhost₁, hport₁⟩ := newline_not_mem_getHostPort (fresh o₁) hO₁
  obtain ⟨hhost₂, hport₂⟩ := newline_not_mem_getHostPort (fresh o₂) hO₂
  rw [hm₁, hm₂, hp₁, hp₂, hH₁, hH₂, hP₁, hP₂] at hmid
  -- the method line from the front
  obtain ⟨hM, hmid⟩ := Go.eq_of_append_cons_eq
    (Go.newline_not_mem_toUpper (Go.newline_not_mem_toUpper hM₁))
    (Go.newline_not_mem_toUpper (Go.newline_not_mem_toUpper hM₂)) hmid
  -- the port, then the host, from the back
  simp only [← List.cons_append, ← List.append_assoc] at hmid
  obtain ⟨hmid, hP⟩ := Go.eq_of_append_cons_eq_right hport₁ hport₂ hmid
  obtain ⟨hF, hO⟩ := Go.eq_of_append_cons_eq_right (Go.newline_not_mem_toLower hhost₁)
    (Go.newline_not_mem_toLower hhost₂) hmid
  exact ⟨String.ext hM, String.ext hF, String.ext hO, String.ext hP⟩

theorem generateSignature_marshal_eq_lock :
    (∀ x ∈ ["1", "1", "n", "n", "h", "h", "", ""], '\n' ∉ x.data) ∧
      (generateSignature Crypto.zero { fresh false with time := "1", nonce := "n", hash := "h" }
          (cmdRequest "/cmd?lock" "") "" "lock" "s3cr3t" ⟨List.replicate 6 0, rfl⟩ 0).marshal "" =
        (generateSignature Crypto.zero { fresh false with time := "1", nonce := "n", hash := "h" }
          (cmdRequest "/cmd" "lock") "" "lock" "s3cr3t" ⟨List.replicate 6 0, rfl⟩ 0).marshal "" ∧
      getFullPath (cmdRequest "/cmd?lock" "") = getFullPath (cmdRequest "/cmd" "lock") :=
  ⟨by decide, rfl, ((generateSignature_marshal_eq Crypto.zero false false (cmdRequest "/cmd?lock" "")
    (cmdRequest "/cmd" "lock") "1" "1" "n" "n" "h" "h" "" "" "lock" "lock" "s3cr3t" "s3cr3t"
    ⟨List.replicate 6 0, rfl⟩ ⟨List.replicate 6 0, rfl⟩ 0 0 (by decide) _ _ rfl rfl
    rfl).2.2.2.2 (by decide)).2.1⟩

/-- The URL path `/cmd?lock` (a decoded `%3F`) with no query, and the URL path `/cmd` with the
query `lock`, build the same header string, whatever the hash functions, body, secret, draw and
clock, so every MAC of one is a MAC of the other. -/
theorem marshal_cmdRequest_collision (crypto : Crypto) (body secret : String) (draw : NonceDraw)
    (now : ℕ) :
    (generateSignature crypto { fresh false with time := "1", nonce := "n", hash := "h" }
        (cmdRequest "/cmd?lock" "") "" body secret draw now).marshal "" =
      (generateSignature crypto { fresh false with time := "1", nonce := "n", hash := "h" }
        (cmdRequest "/cmd" "lock") "" body secret draw now).marshal "" ∧
    (cmdRequest "/cmd?lock" "").url.path ≠ (cmdRequest "/cmd" "lock").url.path :=
  ⟨rfl, by decide⟩

/-- The same for the body `lock` signed with the secret `s3cr3t` at time 0. -/
theorem marshal_path_query_collision :
    (generateSignature Crypto.zero { fresh false with time := "1", nonce := "n", hash := "h" }
        (cmdRequest "/cmd?lock" "") "" "lock" "s3cr3t" ⟨List.replicate 6 0, rfl⟩ 0).marshal "" =
      (generateSignature Crypto.zero { fresh false with time := "1", nonce := "n", hash := "h" }
        (cmdRequest "/cmd" "lock") "" "lock" "s3cr3t" ⟨List.replicate 6 0, rfl⟩ 0).marshal "" ∧
    (cmdRequest "/cmd?lock" "").url.path ≠ (cmdRequest "/cmd" "lock").url.path :=
  marshal_cmdRequest_collision Crypto.zero "lock" "s3cr3t" _ 0

end Hawk

end FindMyDevice
