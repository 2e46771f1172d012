/-
**The header `AsHeader` renders is not the one `ParseAuthHeader` reads.**

`AsHeader` formats

    Hawk id="<id>", ts="<time>", nonce="<nonce>" ext="<extra>", hash="<hash>" mac="<mac>"

with no comma before `ext` and none before `mac`.  `ParseAuthHeader` cuts the text after `Hawk `
at `", "` and each element at its first `=`, so it sees four elements, not six: the third is the
key `nonce` with the value `"<nonce>" ext="<extra>"`, the fourth the key `hash` with the value
`"<hash>" mac="<mac>"`.  Trimming the quotes off these values leaves the nonce followed by
`" ext=` (when the extra string is empty, as it is for a fresh `Hawk`, which `AsHeader` never
sets) and the hash followed by `" mac="` and the MAC; the keys `ext` and `mac` are never seen.

This module proves that reading for every header `AsHeader` renders from a fresh `Hawk`, and its
consequence for the server's check: the MAC the parsed header carries is empty, while the MAC
`GenerateSignature` computes is a Base64 text of a 32-byte digest, whose first letter is not
the padding, so `Compare` fails.  No request signed by `AsHeader` passes the check.

Main definitions:

* `FindMyDevice.Hawk.headerElements` — the elements of a rendered header, as the parser cuts
  them;
* `FindMyDevice.Hawk.verify` — the server's check: parse, sign again, compare.

Main results:

* `FindMyDevice.Hawk.parseAuthHeader_hawk` — a header `Hawk <rest>` passes the checks and is read
  from the pieces of `rest`, with path, host and port from the request;
* `FindMyDevice.Hawk.parseAuthHeader_headerText` — **what `ParseAuthHeader` reads from a rendered
  header**;
* `FindMyDevice.Hawk.parseAuthHeader_asHeader` — the same for the header of a fresh `Hawk`;
* `FindMyDevice.Hawk.verify_asHeader_eq_false` — **the check rejects every request `AsHeader`
  signs**.
-/

import FindMyDevice.Hawk
import Mathlib.Data.String.Basic

set_option relaxedAutoImplicit false
set_option autoImplicit false

namespace FindMyDevice

/-! ### Characters of the rendered values -/

/-- A value that holds neither a comma nor a double quote. -/
def NoQuoteComma (s : String) : Prop := ',' ∉ s.data ∧ '"' ∉ s.data

theorem noQuoteComma_base64 (l : List UInt8) : NoQuoteComma ⟨base64Encode l⟩ := by
  constructor <;> intro h <;> rcases base64Encode_mem l _ h with h | h <;>
    exact absurd h (by decide)

theorem digitChar_ne {k : ℕ} (hk : k < 10) : Nat.digitChar k ≠ ',' ∧ Nat.digitChar k ≠ '"' :=
  (by decide : ∀ k < 10, Nat.digitChar k ≠ ',' ∧ Nat.digitChar k ≠ '"') k hk

theorem mem_toDigitsCore {fuel n : ℕ} {ds : List Char} {c : Char}
    (h : c ∈ Nat.toDigitsCore 10 fuel n ds) : c ∈ ds ∨ ∃ k < 10, c = Nat.digitChar k := by
  induction fuel generalizing n ds with
  | zero => exact .inl h
  | succ fuel ih =>
      have hd : ∀ {x : Char}, x ∈ Nat.digitChar (n % 10) :: ds → x ∈ ds ∨ ∃ k < 10, x = Nat.digitChar k :=
        fun hx => (List.mem_cons.1 hx).elim (fun h => .inr ⟨_, Nat.mod_lt n (by omega), h⟩) .inl
      replace h : c ∈ if n / 10 = 0 then Nat.digitChar (n % 10) :: ds
          else Nat.toDigitsCore 10 fuel (n / 10) (Nat.digitChar (n % 10) :: ds) := h
      split at h
      · exact hd h
      · exact (ih h).elim hd .inr

/-- The decimal text of a number is made of digits. -/
theorem noQuoteComma_toString (n : ℕ) : NoQuoteComma (toString n) := by
  have hdigits : ∀ c ∈ (toString n).data, c ≠ ',' ∧ c ≠ '"' := fun c hc =>
    (mem_toDigitsCore hc).elim (fun h => absurd h (List.not_mem_nil c))
      fun ⟨_, hk, hc⟩ => hc ▸ digitChar_ne hk
  exact ⟨fun h => (hdigits _ h).1 rfl, fun h => (hdigits _ h).2 rfl⟩

theorem ne_empty_of_base64 {l : List UInt8} (hl : l ≠ []) : (⟨base64Encode l⟩ : String) ≠ "" :=
  fun h => by
    obtain ⟨x, hx, -⟩ := base64Encode_head? l hl
    simp [String.ext_iff] at h
    simp [h] at hx

/-! ### The elements of a rendered header -/

namespace Hawk

/-- `"v"`. -/
def quoted (v : String) : String := "\"" ++ v ++ "\""

/-- The elements of the header `AsHeader` renders, as `ParseAuthHeader` cuts them: `ext` and
`mac` share an element with the pair before them. -/
def headerElements (id : String) (self : Hawk) : List String :=
  ["id" ++ "=" ++ quoted id, "ts" ++ "=" ++ quoted self.time,
    "nonce" ++ "=" ++ ("\"" ++ self.nonce ++ "\" ext=\"" ++ self.extra ++ "\""),
    "hash" ++ "=" ++ ("\"" ++ self.hash ++ "\" mac=\"" ++ self.signature ++ "\"")]

theorem headerText_eq (id : String) (self : Hawk) :
    headerText id self = "Hawk " ++ Go.join ", " (headerElements id self) := by
  simp only [headerText, headerElements, quoted, Go.join, String.ext_iff, String.data_append,
    List.append_assoc]
  rfl

/-- `", "` does not occur in `x ++ y` when it occurs in neither and not across the seam. -/
theorem not_sep_append {x y : List Char} (hx : ¬ [',', ' '] <:+: x) (hy : ¬ [',', ' '] <:+: y)
    (hseam : x.getLast? ≠ some ',' ∨ y.head? ≠ some ' ') : ¬ [',', ' '] <:+: x ++ y := fun h =>
  (Go.infix_pair_append h).elim hx fun h => h.elim hy fun ⟨h₁, h₂⟩ => hseam.elim (· h₁) (· h₂)

/-- With no comma inside, the only comma of `l ++ ","` is the last character. -/
theorem not_sep_of_comma_not_mem {l : List Char} (h : ',' ∉ l) :
    ¬ ", ".data <:+: l ++ ", ".data.dropLast := fun hi =>
  (Go.infix_pair_append hi).elim (fun hl => h (hl.subset (List.mem_cons_self _ _)))
    fun h' => h'.elim (by decide) fun ⟨hl, _⟩ => h (List.mem_of_mem_getLast? hl)

/-- A value between two literal texts that do not let `", "` run into it. -/
theorem not_sep_between {a v b : List Char} (ha : ¬ [',', ' '] <:+: a)
    (hb : ¬ [',', ' '] <:+: b) (hv : ¬ [',', ' '] <:+: v) (ha' : a.getLast? ≠ some ',')
    (hb' : b.head? ≠ some ' ') : ¬ [',', ' '] <:+: a ++ v ++ b :=
  not_sep_append (not_sep_append ha hv (.inl ha')) hb (.inr hb')

/-- Every element of a rendered header, followed by a comma, is free of `", "`, so that cutting
the header at `", "` finds exactly the separators `AsHeader` wrote. -/
theorem headerElements_no_sep {id : String} {self : Hawk} (hid : ¬ [',', ' '] <:+: id.data)
    (htime : NoQuoteComma self.time) (hnonce : NoQuoteComma self.nonce)
    (hextra : self.extra = "") (hhash : NoQuoteComma self.hash)
    (hsig : NoQuoteComma self.signature) :
    ∀ p ∈ headerElements id self, ¬ ", ".data <:+: p.data ++ ", ".data.dropLast := by
  simp only [headerElements, List.mem_cons, List.mem_singleton, List.not_mem_nil, or_false]
  rintro p (rfl | rfl | rfl | rfl)
  · rw [show ("id" ++ "=" ++ quoted id).data ++ ", ".data.dropLast =
        "id=\"".data ++ id.data ++ "\",".data by
      simp only [quoted, String.data_append, List.append_assoc]; rfl]
    exact not_sep_between (by decide) (by decide) hid (by decide) (by decide)
  all_goals
    refine not_sep_of_comma_not_mem ?_
    simp only [quoted, hextra, String.data_append, List.mem_append, not_or]
    repeat' constructor
    all_goals first | decide | exact htime.1 | exact hnonce.1 | exact hhash.1 | exact hsig.1

/-! ### Reading a rendered header back -/

theorem splitN_eq_kv (key value : String) (hkey : '=' ∉ key.data) :
    Go.splitN (key ++ "=" ++ value) "=" 2 = [key, value] :=
  (Go.splitN_singleton_two_eq_pair_iff '=' _ key value).2 ⟨rfl, hkey⟩

/-- The four elements of a rendered header each set the field their key names. -/
theorem parseElement_fields (self : Hawk) (v : String) :
    parseElement self ("id" ++ "=" ++ v) = { self with id := Go.trim v '"' } ∧
      parseElement self ("ts" ++ "=" ++ v) = { self with time := Go.trim v '"' } ∧
      parseElement self ("nonce" ++ "=" ++ v) = { self with nonce := Go.trim v '"' } ∧
      parseElement self ("hash" ++ "=" ++ v) = { self with hash := Go.trim v '"' } := by
  refine ⟨?_, ?_, ?_, ?_⟩ <;>
    simp only [parseElement, splitN_eq_kv "id" v (by decide), splitN_eq_kv "ts" v (by decide),
      splitN_eq_kv "nonce" v (by decide), splitN_eq_kv "hash" v (by decide)] <;> rfl

theorem trim_quoted {v : String} (hv : '"' ∉ v.data) : Go.trim (quoted v) '"' = v :=
  Go.trim_eq (show (quoted v).data = ['"'] ++ v.data ++ ['"'] from rfl) (by simp) (by simp)
    (fun h => hv (List.mem_of_mem_head? h)) (fun h => hv (List.mem_of_mem_getLast? h))

/-- The value of the element `nonce`: the nonce and the empty `ext` pair. -/
theorem trim_nonce_value {n : String} (hn : '"' ∉ n.data) (hne : n ≠ "") :
    Go.trim ("\"" ++ n ++ "\" ext=\"" ++ "" ++ "\"") '"' = n ++ "\" ext=" := by
  have hne' : n.data ≠ [] := fun h => hne (String.ext h)
  refine Go.trim_eq (show ("\"" ++ n ++ "\" ext=\"" ++ "" ++ "\"").data =
      ['"'] ++ (n.data ++ "\" ext=".data) ++ ['"', '"'] by
    simp only [String.data_append, List.append_assoc]; rfl) (by simp) (by simp) ?_ ?_
  · rw [List.head?_append_of_ne_nil _ hne']
    exact fun h => hn (List.mem_of_mem_head? h)
  · rw [List.getLast?_append_of_ne_nil _ (by decide)]
    decide

/-- The value of the element `hash`: the hash and the `mac` pair. -/
theorem trim_hash_value {h m : String} (hh : '"' ∉ h.data) (hne : h ≠ "") (hm : '"' ∉ m.data)
    (hmne : m ≠ "") :
    Go.trim ("\"" ++ h ++ "\" mac=\"" ++ m ++ "\"") '"' = h ++ "\" mac=\"" ++ m := by
  have hne' : h.data ≠ [] := fun e => hne (String.ext e)
  have hmne' : m.data ≠ [] := fun e => hmne (String.ext e)
  refine Go.trim_eq (show ("\"" ++ h ++ "\" mac=\"" ++ m ++ "\"").data =
      ['"'] ++ (h.data ++ "\" mac=\"".data ++ m.data) ++ ['"'] by
    simp only [String.data_append, List.append_assoc]) (by simp) (by simp) ?_ ?_
  · rw [List.append_assoc, List.head?_append_of_ne_nil _ hne']
    exact fun e => hh (List.mem_of_mem_head? e)
  · rw [List.getLast?_append_of_ne_nil _ hmne']
    exact fun e => hm (List.mem_of_mem_getLast? e)

/-! ### Headers with the `Hawk ` scheme -/

/-- No element reaches the configuration. -/
theorem parseElement_overridePort (self : Hawk) (element : String) :
    (parseElement self element).overridePort = self.overridePort := by
  dsimp only [parseElement]
  split
  · split <;> rfl
  · rfl

theorem foldl_parseElement_overridePort (self : Hawk) (elements : List String) :
    (elements.foldl parseElement self).overridePort = self.overridePort := by
  induction elements generalizing self with
  | nil => rfl
  | cons e es ih => rw [List.foldl_cons, ih, parseElement_overridePort]

theorem getHostPort_congr {h h' : Hawk} (e : h.overridePort = h'.overridePort) (req : Request) :
    h.getHostPort req = h'.getHostPort req := by
  simp only [getHostPort, e]

/-- **A header `Hawk <rest>` passes the checks**, and the fields come from the pieces of `rest`,
cut at `", "`, while path, host and port come from the request. -/
theorem parseAuthHeader_hawk (self : Hawk) (req : Request) (rest : String) :
    parseAuthHeader self { req with authorization := "Hawk " ++ rest } =
      some (none, { (Go.split rest ", ").foldl parseElement self with
        path := getFullPath req, host := (self.getHostPort req).1,
        port := (self.getHostPort req).2 }) := by
  have hdata : ("Hawk " ++ rest).data = "Hawk ".data ++ rest.data := rfl
  have hsize : 5 ≤ ("Hawk " ++ rest).utf8ByteSize := by
    rw [show ("Hawk " ++ rest).utf8ByteSize = String.utf8Len ("Hawk " ++ rest).data from rfl,
      hdata, String.utf8Len_append]
    exact Nat.le_add_right_of_le (by decide)
  have hne : "Hawk " ++ rest ≠ "" := fun h => absurd (h ▸ hsize) (by decide)
  have h4 : ¬ ("Hawk " ++ rest).utf8ByteSize < 4 := by omega
  have h5 : ¬ ("Hawk " ++ rest).utf8ByteSize < 5 := by omega
  have htake : Go.toLower ⟨Go.takeBytes ("Hawk " ++ rest).data 4⟩ = "hawk" := rfl
  have hdrop : (⟨Go.dropBytes ("Hawk " ++ rest).data 5⟩ : String) = rest :=
    congrArg String.mk (Go.dropBytes_append_of_utf8Size (p := "Hawk ".data) (by decide) rest.data)
  have hhost : ((Go.split rest ", ").foldl parseElement self).getHostPort req =
      self.getHostPort req := getHostPort_congr (foldl_parseElement_overridePort self _) req
  simp only [parseAuthHeader, if_neg hne, if_neg h4, htake, ne_eq, not_true_eq_false, if_false,
    h5, hdrop, ← hhost]
  rfl

/-- **What `ParseAuthHeader` reads from a header `AsHeader` rendered** from `self` and `id`, for
an id free of `"` and of `", "`, a time, nonce, hash and MAC free of `"` and `,` (the last three
non-empty), and no extra string: the parse succeeds and reads the id and the time, the nonce with
`" ext=` after it, the hash with `" mac="` and the MAC after it, and neither `ext` nor `mac`. -/
theorem parseAuthHeader_headerText (self v : Hawk) (req : Request) (id : String)
    (hid : '"' ∉ id.data) (hid' : ¬ [',', ' '] <:+: id.data) (htime : NoQuoteComma self.time)
    (hnonce : NoQuoteComma self.nonce) (hnonce' : self.nonce ≠ "") (hextra : self.extra = "")
    (hhash : NoQuoteComma self.hash) (hhash' : self.hash ≠ "")
    (hsig : NoQuoteComma self.signature) (hsig' : self.signature ≠ "")
    (hauth : req.authorization = headerText id self) :
    parseAuthHeader v req = some (none,
      { v with id := id, time := self.time, nonce := self.nonce ++ "\" ext=",
               hash := self.hash ++ "\" mac=\"" ++ self.signature, path := getFullPath req,
               host := (v.getHostPort req).1, port := (v.getHostPort req).2 }) := by
  have hreq : parseAuthHeader v req = parseAuthHeader v
      { req with authorization := "Hawk " ++ Go.join ", " (headerElements id self) } := by
    rw [← headerText_eq, ← hauth]
  rw [hreq, parseAuthHeader_hawk, Go.split_join (by decide) (headerElements id self)
    (by simp [headerElements]) (headerElements_no_sep hid' htime hnonce hextra hhash hsig)]
  simp only [headerElements, List.foldl, (parseElement_fields _ _).1, (parseElement_fields _ _).2.1,
    (parseElement_fields _ _).2.2.1, (parseElement_fields _ _).2.2.2, hextra, trim_quoted hid,
    trim_quoted htime.2, trim_nonce_value hnonce.2 hnonce', trim_hash_value hhash.2 hhash' hsig.2 hsig']

/-! ### Signing with a fresh `Hawk`, and checking -/

/-- The path does not depend on the `Authorization` header. -/
theorem getFullPath_authorization (req : Request) (a : String) :
    getFullPath { req with authorization := a } = getFullPath req := rfl

/-- Nor do the host and port. -/
theorem getHostPort_authorization (self : Hawk) (req : Request) (a : String) :
    self.getHostPort { req with authorization := a } = self.getHostPort req := rfl


/-- The fields `GenerateSignature` fills on a fresh `Hawk`; the extra string is not one of
them. -/
theorem generateSignature_fresh (crypto : Crypto) (o : Bool) (req : Request)
    (extra body secret : String) (draw : NonceDraw) (now : ℕ) :
    let h := (fresh o).generateSignature crypto req extra body secret draw now
    h.time = toString now ∧ h.nonce = genNonce draw ∧ h.extra = "" ∧
      h.hash = genHash crypto req body :=
  ⟨rfl, rfl, rfl, rfl⟩

/-- Every MAC `GenerateSignature` computes is the Base64 text of a digest. -/
theorem generateSignature_signature (crypto : Crypto) (self : Hawk) (req : Request)
    (extra body secret : String) (draw : NonceDraw) (now : ℕ) :
    ∃ d : Digest, (self.generateSignature crypto req extra body secret draw now).signature =
      ⟨base64Encode d.bytes⟩ :=
  ⟨_, rfl⟩

theorem digest_ne_nil (d : Digest) : d.bytes ≠ [] := fun h => by
  simpa [h] using d.length_eq

/-- **The header of a fresh `Hawk` parses to other values**: for every request, body, extra
string, secret, draw and clock, and every id free of `"` and of `", "`, `ParseAuthHeader` reads
the id and the time back, but the nonce with `" ext=` after it and the hash with `" mac="` and
the MAC after it, and it leaves the extra string and the MAC empty. -/
theorem parseAuthHeader_asHeader (crypto : Crypto) (o o' : Bool) (req : Request)
    (id body extra secret : String) (draw : NonceDraw) (now : ℕ) (hid : '"' ∉ id.data)
    (hid' : ¬ [',', ' '] <:+: id.data) :
    let out := asHeader crypto (fresh o) req id body extra secret draw now
    parseAuthHeader (fresh o') { req with authorization := out.1 } = some (none,
      { fresh o' with
        id := id, time := out.2.time, nonce := out.2.nonce ++ "\" ext=",
        hash := out.2.hash ++ "\" mac=\"" ++ out.2.signature, path := getFullPath req,
        host := ((fresh o').getHostPort req).1, port := ((fresh o').getHostPort req).2 }) := by
  intro out
  obtain ⟨htime, hnonce, hextra, hhash⟩ :=
    generateSignature_fresh crypto o req extra body secret draw now
  obtain ⟨d, hsig⟩ := generateSignature_signature crypto (fresh o) req extra body secret draw now
  have hout : out = (headerText id ((fresh o).generateSignature crypto req extra body secret draw now),
      (fresh o).generateSignature crypto req extra body secret draw now) := rfl
  clear_value out
  subst hout
  generalize (fresh o).generateSignature crypto req extra body secret draw now = h at *
  have hdraw : draw.1 ≠ [] := fun h => by simpa [h] using draw.2
  have := parseAuthHeader_headerText h (fresh o') { req with authorization := headerText id h } id
    hid hid' (htime ▸ noQuoteComma_toString now) (hnonce ▸ noQuoteComma_base64 _)
    (hnonce ▸ ne_empty_of_base64 hdraw) hextra (hhash ▸ noQuoteComma_base64 _)
    (hhash ▸ ne_empty_of_base64 (digest_ne_nil _)) (hsig ▸ noQuoteComma_base64 _)
    (hsig ▸ ne_empty_of_base64 (digest_ne_nil d)) rfl
  rwa [getFullPath_authorization, getHostPort_authorization] at this

/-- The server's check of a signed request as the spec lays it out: parse the `Authorization`
header into a fresh `Hawk`, keep the MAC it carried, sign the request again from the parsed
fields and the parsed extra string, and compare.  A header that does not parse fails. -/
def verify (crypto : Crypto) (overridePort : Bool) (req : Request) (body secret : String)
    (draw : NonceDraw) (now : ℕ) : Bool :=
  match parseAuthHeader (fresh overridePort) req with
  | some (none, v) =>
    (v.generateSignature crypto req v.extra body secret draw now).compare v.signature
  | _ => false

/-- An empty MAC never matches a computed one: the Base64 text of a digest starts with a letter,
which `TrimRight` keeps. -/
theorem compare_generateSignature_empty (crypto : Crypto) (self : Hawk) (req : Request)
    (extra body secret : String) (draw : NonceDraw) (now : ℕ) :
    (self.generateSignature crypto req extra body secret draw now).compare "" = false := by
  obtain ⟨d, hd⟩ := generateSignature_signature crypto self req extra body secret draw now
  obtain ⟨x, hx, hxa⟩ := base64Encode_head? d.bytes (digest_ne_nil d)
  have hkeep : Go.trimRight (self.generateSignature crypto req extra body secret draw now).signature
      '=' ≠ "" := hd ▸ Go.trimRight_ne_empty hx fun h => absurd (h ▸ hxa) (by decide)
  simpa [compare, Go.trimRight_empty, eq_comm] using hkeep

/-- **No request `AsHeader` signs passes the check**, whatever the request, body, extra string,
secret, draws and clocks, and whatever body and secret the check uses: the parsed header
carries no MAC. -/
theorem verify_asHeader_eq_false (crypto : Crypto) (o o' : Bool) (req : Request)
    (id body extra secret body' secret' : String) (draw draw' : NonceDraw) (now now' : ℕ)
    (hid : '"' ∉ id.data) (hid' : ¬ [',', ' '] <:+: id.data) :
    verify crypto o' { req with
        authorization := (asHeader crypto (fresh o) req id body extra secret draw now).1 }
      body' secret' draw' now' = false := by
  simp only [verify, parseAuthHeader_asHeader crypto o o' req id body extra secret draw now hid hid']
  exact compare_generateSignature_empty ..

/-! ### The spec's request -/

/-- `POST /cmd` over `https` to the service, the spec's example of a signed request. -/
def lockRequest : Request :=
  ⟨"POST", ⟨"https", "/cmd", "", ""⟩, "fmd.example.com", "application/json", ""⟩

theorem verify_asHeader_eq_false_zero :
    '"' ∉ "dev-1".data ∧ ¬ [',', ' '] <:+: "dev-1".data ∧
      verify Crypto.zero true { lockRequest with
          authorization := (asHeader Crypto.zero (fresh false) lockRequest "dev-1" "lock" "" "s3cr3t"
            ⟨List.replicate 6 0, rfl⟩ 0).1 } "lock" "s3cr3t" ⟨List.replicate 6 0, rfl⟩ 0 = false :=
  ⟨by decide, by decide, verify_asHeader_eq_false Crypto.zero false true lockRequest "dev-1" "lock" ""
    "s3cr3t" "lock" "s3cr3t" _ _ 0 0 (by decide) (by decide)⟩

/-- Device `dev-1`, with secret `s3cr3t`, signs a `lock` command with `AsHeader`; the server's
check of the signed request fails, for every choice of hash functions, draws and clocks. -/
theorem verify_signed_lock_fails (crypto : Crypto) (draw draw' : NonceDraw) (now now' : ℕ) :
    verify crypto false { lockRequest with
        authorization := (asHeader crypto (fresh false) lockRequest "dev-1" "lock" "" "s3cr3t"
          draw now).1 } "lock" "s3cr3t" draw' now' = false := by
  simp only [verify, parseAuthHeader_asHeader crypto false false lockRequest "dev-1" "lock" ""
    "s3cr3t" draw now (by decide) (by decide)]
  exact compare_generateSignature_empty ..

/-- The same signed request parsed: the nonce comes back with `" ext=` after it, and the MAC
does not come back at all. -/
theorem parseAuthHeader_signed_lock (crypto : Crypto) (draw : NonceDraw) (now : ℕ) :
    let out := asHeader crypto (fresh false) lockRequest "dev-1" "lock" "" "s3cr3t" draw now
    ∃ v, parseAuthHeader (fresh false) { lockRequest with authorization := out.1 } =
        some (none, v) ∧
      v.id = "dev-1" ∧ v.nonce = out.2.nonce ++ "\" ext=" ∧ v.nonce ≠ out.2.nonce ∧
      v.signature = "" ∧ v.signature ≠ out.2.signature := by
  intro out
  obtain ⟨d, hsig⟩ := generateSignature_signature crypto (fresh false) lockRequest "" "lock"
    "s3cr3t" draw now
  refine ⟨_, parseAuthHeader_asHeader crypto false false lockRequest "dev-1" "lock" "" "s3cr3t"
    draw now (by decide) (by decide), rfl, rfl, fun h => ?_, rfl, fun h => ?_⟩
  · exact absurd (by simpa using congrArg String.length h) (by decide : "\" ext=".length ≠ 0)
  · exact ne_empty_of_base64 (digest_ne_nil d) (hsig ▸ h.symm)

end Hawk

end FindMyDevice
