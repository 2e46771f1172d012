/-
**The part of Go's `strings` package that the device store and the Hawk code use.**

Both halves of the service cut strings at separators: `pgStore.CheckNonce` splits a presented
nonce at its first `.` into a key and a signature, and `Hawk.ParseAuthHeader` splits an
Authorization header at `", "` and each of its elements at the first `=`.  What the proofs about
those functions need from the library is exactly where a cut falls, so this module gives the
library functions as they are specified for non-empty separators, on the characters of a string.
A Go string is a sequence of bytes, and a slice at a byte offset may cut a character; the bytes
of a cut character then stand as `U+FFFD` each, which is the rune Go's string functions read such
a byte as.

Main definitions:

* `FindMyDevice.Go.cut` — `strings.Cut`: the text before and after the first occurrence of a
  separator;
* `FindMyDevice.Go.splitN`, `FindMyDevice.Go.split`, `FindMyDevice.Go.join` — `strings.SplitN`,
  `strings.Split` and `strings.Join`;
* `FindMyDevice.Go.trim`, `FindMyDevice.Go.trimRight`, `FindMyDevice.Go.replace` — the calls
  with a one-character cutset or pattern that `hawk.go` makes;
* `FindMyDevice.Go.toLower`, `FindMyDevice.Go.toUpper` — `strings.ToLower` and
  `strings.ToUpper`, the rune case mapping of `FindMyDevice.Go.Unicode` applied to every rune;
* `FindMyDevice.Go.takeBytes`, `FindMyDevice.Go.dropBytes` — `s[:n]` and `s[n:]`, slices at a
  byte offset.

Main results:

* `FindMyDevice.Go.cut_singleton_eq_some_iff` — cutting at a one-character separator finds its
  first occurrence;
* `FindMyDevice.Go.splitN_singleton_two_eq_pair_iff` — **`SplitN(s, sep, 2)` yields two pieces
  exactly when `s` is the first piece, `sep` and the second piece, and the first piece does not
  contain `sep`**;
* `FindMyDevice.Go.split_join` — **splitting a join at its separator gives the pieces back**, when
  no piece runs into a separator;
* `FindMyDevice.Go.trim_eq` — trimming removes exactly the cutset characters around the middle.
-/

import FindMyDevice.GoUnicode

set_option relaxedAutoImplicit false
set_option autoImplicit false

namespace FindMyDevice

namespace Go

/-! ### Cutting at the first occurrence of a separator -/

/-- `strings.Cut` on character lists: the text before and after the first occurrence of `sep`,
or `none` when `sep` does not occur. -/
def cut (sep : List Char) : List Char → Option (List Char × List Char)
  | [] => if sep = [] then some ([], []) else none
  | c :: s =>
    if sep <+: c :: s then some ([], (c :: s).drop sep.length)
    else (cut sep s).map fun p => (c :: p.1, p.2)

@[simp] theorem cut_singleton_nil (c : Char) : cut [c] [] = none := rfl

theorem cut_singleton_cons (c d : Char) (s : List Char) :
    cut [c] (d :: s) =
      if c = d then some ([], s) else (cut [c] s).map fun p => (d :: p.1, p.2) := by
  by_cases h : c = d <;> simp [cut, h]

/-- Cutting at a single character `c` splits off the text before its first occurrence. -/
theorem cut_singleton_eq_some_iff (c : Char) (s a b : List Char) :
    cut [c] s = some (a, b) ↔ s = a ++ c :: b ∧ c ∉ a := by
  induction s generalizing a with
  | nil => simp
  | cons d s ih =>
      rw [cut_singleton_cons]
      by_cases hcd : c = d
      · subst hcd
        cases a with
        | nil => simp [eq_comm]
        | cons e a => simp [eq_comm]; tauto
      · simp only [hcd, if_false, Option.map_eq_some']
        constructor
        · rintro ⟨⟨a', b'⟩, h, he⟩
          simp only [Prod.mk.injEq] at he
          obtain ⟨rfl, rfl⟩ := he
          obtain ⟨rfl, hc⟩ := (ih a').1 h
          exact ⟨rfl, by simp [hcd, hc]⟩
        · rintro ⟨hs, hc⟩
          cases a with
          | nil => simp at hs; exact absurd hs.1.symm hcd
          | cons e a =>
              simp only [List.cons_append, List.cons.injEq] at hs
              obtain ⟨rfl, rfl⟩ := hs
              exact ⟨(a, b), (ih a).2 ⟨rfl, fun h => hc (List.mem_cons_of_mem _ h)⟩, rfl⟩

theorem cut_singleton_append (c : Char) (a b : List Char) (h : c ∉ a) :
    cut [c] (a ++ c :: b) = some (a, b) :=
  (cut_singleton_eq_some_iff c _ a b).2 ⟨rfl, h⟩

/-- A text determines the piece before its first `c` and the rest: two ways of writing it as a
`c`-free piece, `c` and a rest agree. -/
theorem eq_of_append_cons_eq {c : Char} {a₁ a₂ b₁ b₂ : List Char} (h₁ : c ∉ a₁) (h₂ : c ∉ a₂)
    (h : a₁ ++ c :: b₁ = a₂ ++ c :: b₂) : a₁ = a₂ ∧ b₁ = b₂ := by
  have e := cut_singleton_append c a₁ b₁ h₁
  rw [h, cut_singleton_append c a₂ b₂ h₂, Option.some.injEq, Prod.mk.injEq] at e
  exact ⟨e.1.symm, e.2.symm⟩

/-- The same from the end: the piece after the last `c` and the text before it. -/
theorem eq_of_append_cons_eq_right {c : Char} {a₁ a₂ b₁ b₂ : List Char} (h₁ : c ∉ b₁)
    (h₂ : c ∉ b₂) (h : a₁ ++ c :: b₁ = a₂ ++ c :: b₂) : a₁ = a₂ ∧ b₁ = b₂ := by
  have hr := congrArg List.reverse h
  simp only [List.reverse_append, List.reverse_cons, List.append_assoc, List.singleton_append]
    at hr
  obtain ⟨hb, ha⟩ := eq_of_append_cons_eq (List.mem_reverse.not.2 h₁)
    (List.mem_reverse.not.2 h₂) hr
  exact ⟨List.reverse_injective ha, List.reverse_injective hb⟩

/-! ### `SplitN` and `Split` -/

/-- `strings.SplitN(s, sep, n)` for `n ≥ 0`: at most `n` pieces, cut at the first `n - 1`
occurrences of `sep` (no pieces at all when `n = 0`). -/
def splitN (s sep : String) : ℕ → List String
  | 0 => []
  | 1 => [s]
  | n + 2 =>
    match cut sep.data s.data with
    | none => [s]
    | some (a, b) => ⟨a⟩ :: splitN ⟨b⟩ sep (n + 1)

/-- `strings.Split(s, sep)` for a non-empty `sep`: `s` cut at every occurrence of `sep`.  Go
bounds the number of pieces by `len(s) + 1`, which every such split respects. -/
def split (s sep : String) : List String := splitN s sep (s.length + 1)

theorem splitN_two (s sep : String) :
    splitN s sep 2 =
      match cut sep.data s.data with
      | none => [s]
      | some (a, b) => [⟨a⟩, ⟨b⟩] := by
  simp only [splitN]

/-- **`SplitN(s, sep, 2)` for a one-character `sep` yields two pieces exactly when `s` is the
first piece, `sep` and the second, and the first piece does not contain `sep`.** -/
theorem splitN_singleton_two_eq_pair_iff (c : Char) (s k x : String) :
    splitN s ⟨[c]⟩ 2 = [k, x] ↔ s = k ++ ⟨[c]⟩ ++ x ∧ c ∉ k.data := by
  rw [splitN_two]
  cases h : cut [c] s.data with
  | none =>
      simp only [List.cons.injEq, List.ne_cons_self, and_false, false_iff, not_and]
      intro hs hk
      rw [hs] at h
      simp [cut_singleton_append c k.data x.data hk] at h
  | some p =>
      obtain ⟨a, b⟩ := p
      rw [cut_singleton_eq_some_iff] at h
      simp only [List.cons.injEq, and_true, String.ext_iff, String.data_append, h.1]
      constructor
      · rintro ⟨rfl, rfl⟩
        exact ⟨by simp, h.2⟩
      · rintro ⟨hs, hk⟩
        have := (cut_singleton_eq_some_iff c _ a b).2 ⟨rfl, h.2⟩
        rw [hs, List.append_assoc, List.singleton_append, cut_singleton_append c _ _ hk] at this
        simp only [Option.some.injEq, Prod.mk.injEq] at this
        exact ⟨this.1.symm, this.2.symm⟩

/-- Every piece of `SplitN(s, c, n)` is a stretch of `s`. -/
theorem infix_of_mem_splitN {c : Char} :
    ∀ (n : ℕ) (s p : String), p ∈ splitN s ⟨[c]⟩ n → p.data <:+: s.data
  | 0, _, p, h => absurd h (List.not_mem_nil p)
  | 1, s, p, h => by
      rw [List.mem_singleton.1 h]
  | n + 2, s, p, h => by
      simp only [splitN] at h
      split at h
      · rw [List.mem_singleton.1 h]
      · next a b hcut =>
          obtain ⟨hs, -⟩ := (cut_singleton_eq_some_iff c _ a b).1 hcut
          rcases List.mem_cons.1 h with rfl | h
          · exact hs ▸ (List.prefix_append _ _).isInfix
          · exact (infix_of_mem_splitN (n + 1) ⟨b⟩ p h).trans
              (hs ▸ ((List.suffix_cons c b).trans (List.suffix_append a _)).isInfix)

/-- A character that `s` does not hold is in no piece of `Split(s, c)`. -/
theorem not_mem_of_mem_split {c x : Char} {s p : String} (hp : p ∈ split s ⟨[c]⟩)
    (h : x ∉ s.data) : x ∉ p.data :=
  fun hx => h ((infix_of_mem_splitN _ s p hp).subset hx)

/-! ### Cutting at a separator of any length -/

theorem cut_eq_none_of_not_infix {sep : List Char} (hsep : sep ≠ []) {s : List Char}
    (h : ¬ sep <:+: s) : cut sep s = none := by
  induction s with
  | nil => simp [cut, hsep]
  | cons c s ih =>
      rw [cut, if_neg fun hp => h hp.isInfix, ih fun hi => h (List.infix_cons hi), Option.map_none']

/-- Cutting `a ++ sep ++ b` finds the `sep` after `a` when no occurrence of `sep` starts inside
`a`, that is, when `sep` is not an infix of `a` followed by all but the last character of
`sep`. -/
theorem cut_append_of_not_infix {sep : List Char} (hsep : sep ≠ []) {a : List Char}
    (h : ¬ sep <:+: a ++ sep.dropLast) (b : List Char) : cut sep (a ++ sep ++ b) = some (a, b) := by
  induction a with
  | nil =>
      obtain ⟨c, sep', rfl⟩ := List.exists_cons_of_ne_nil hsep
      simp [cut]
  | cons x a ih =>
      have hlen : 0 < sep.length := List.length_pos.2 hsep
      have hdrop : a ++ sep.dropLast <+: a ++ sep ++ b := by
        rw [List.append_assoc]
        exact (List.prefix_append_right_inj a).2
          ((List.dropLast_prefix sep).trans (List.prefix_append sep b))
      have hpre : ¬ sep <+: x :: (a ++ sep ++ b) := fun hp => h <| List.IsPrefix.isInfix <|
        List.prefix_of_prefix_length_le hp ((List.prefix_cons_inj x).2 hdrop)
          (by simp only [List.length_cons, List.length_append, List.length_dropLast]; omega)
      rw [List.cons_append, List.cons_append, cut, if_neg hpre,
        ih fun hi => h (List.infix_cons hi)]
      rfl

/-! ### `Join`, and `Split` undoing it -/

/-- `strings.Join(elems, sep)`. -/
def join (sep : String) : List String → String
  | [] => ""
  | [p] => p
  | p :: q :: ps => p ++ sep ++ join sep (q :: ps)

theorem splitN_succ_of_not_infix {s sep : String} (hsep : sep.data ≠ [])
    (h : ¬ sep.data <:+: s.data) (n : ℕ) : splitN s sep (n + 1) = [s] := by
  cases n with
  | zero => rfl
  | succ n => simp [splitN, cut_eq_none_of_not_infix hsep h]

/-- **`SplitN` undoes `Join`**: cutting `Join(pieces, sep)` at `sep` into as many pieces as
there are, or more, gives the pieces back, as long as no piece holds an occurrence of `sep`, not
even one that runs into the separator after it. -/
theorem splitN_join {sep : String} (hsep : sep.data ≠ []) :
    ∀ pieces : List String, pieces ≠ [] →
      (∀ p ∈ pieces, ¬ sep.data <:+: p.data ++ sep.data.dropLast) →
      ∀ n, pieces.length ≤ n → splitN (join sep pieces) sep n = pieces
  | [], h, _, _, _ => absurd rfl h
  | [p], _, hp, n, hn => by
      obtain ⟨n, rfl⟩ : ∃ m, n = m + 1 := ⟨n - 1, by simp at hn; omega⟩
      exact splitN_succ_of_not_infix hsep
        (fun hi => hp p (List.mem_singleton_self p) (hi.trans (List.prefix_append _ _).isInfix)) n
  | p :: q :: ps, _, hp, n, hn => by
      obtain ⟨n, rfl⟩ : ∃ m, n = m + 2 := ⟨n - 2, by simp at hn; omega⟩
      have hcut := cut_append_of_not_infix hsep (hp p (List.mem_cons_self p _))
        (join sep (q :: ps)).data
      have hrest := splitN_join hsep (q :: ps) (List.cons_ne_nil q ps)
        (fun r hr => hp r (List.mem_cons_of_mem p hr)) (n + 1) (by simp at hn ⊢; omega)
      simp only [join, splitN, String.data_append, hcut]
      exact congrArg (p :: ·) hrest

theorem length_join {sep : String} (hsep : sep.data ≠ []) :
    ∀ pieces : List String, pieces.length ≤ (join sep pieces).length + 1
  | [] => by simp
  | [p] => by simp
  | p :: q :: ps => by
      have := length_join hsep (q :: ps)
      have : 0 < sep.length := List.length_pos.2 hsep
      simp only [join, String.length_append, List.length_cons] at *
      omega

/-- **`Split` undoes `Join`** under the same condition on the pieces. -/
theorem split_join {sep : String} (hsep : sep.data ≠ []) (pieces : List String)
    (hne : pieces ≠ []) (hp : ∀ p ∈ pieces, ¬ sep.data <:+: p.data ++ sep.data.dropLast) :
    split (join sep pieces) sep = pieces :=
  splitN_join hsep pieces hne hp _ (length_join hsep pieces)

/-- A two-character separator occurs in `x ++ y` only inside `x`, inside `y`, or across the seam. -/
theorem infix_pair_append {c d : Char} {x y : List Char} (h : [c, d] <:+: x ++ y) :
    [c, d] <:+: x ∨ [c, d] <:+: y ∨ (x.getLast? = some c ∧ y.head? = some d) := by
  induction x with
  | nil => exact .inr (.inl h)
  | cons e x ih =>
      rcases List.infix_cons_iff.1 h with hp | hi
      · cases x with
        | nil =>
            cases y with
            | nil => simp at hp
            | cons f y =>
                simp at hp
                obtain ⟨rfl, rfl⟩ := hp
                simp
        | cons f x =>
            simp at hp
            obtain ⟨rfl, rfl⟩ := hp
            exact .inl (List.prefix_append _ x).isInfix
      · rcases ih hi with hx | hy | ⟨hl, hh⟩
        · exact .inl (List.infix_cons hx)
        · exact .inr (.inl hy)
        · cases x with
          | nil => simp at hl
          | cons f x => exact .inr (.inr ⟨by simpa using hl, hh⟩)

/-! ### `Trim`, `TrimRight`, `Replace`, `ToLower` and `ToUpper` -/

/-- `strings.ToLower`: `unicode.ToLower` of every rune. -/
def toLower (s : String) : String := ⟨s.data.map Unicode.toLower⟩

/-- `strings.ToUpper`: `unicode.ToUpper` of every rune. -/
def toUpper (s : String) : String := ⟨s.data.map Unicode.toUpper⟩

/-- `strings.Trim(s, cutset)` for a one-character cutset: `s` without its leading and trailing
`c`s. -/
def trim (s : String) (c : Char) : String :=
  ⟨((s.data.dropWhile (· = c)).reverse.dropWhile (· = c)).reverse⟩

/-- `strings.TrimRight(s, cutset)` for a one-character cutset: `s` without its trailing `c`s. -/
def trimRight (s : String) (c : Char) : String :=
  ⟨(s.data.reverse.dropWhile (· = c)).reverse⟩

/-- `strings.Replace(s, old, new, -1)` for a one-character `old`: every `old` replaced by
`new`. -/
def replace (s : String) (old : Char) (new : String) : String :=
  ⟨s.data.flatMap fun x => if x = old then new.data else [x]⟩

/-- Trimming `c` off a run of `c`s, a middle that neither starts nor ends with `c`, and another
run of `c`s leaves the middle. -/
theorem trim_eq {c : Char} {s : String} {a m b : List Char} (hs : s.data = a ++ m ++ b)
    (ha : ∀ x ∈ a, x = c) (hb : ∀ x ∈ b, x = c) (hhead : m.head? ≠ some c)
    (hlast : m.getLast? ≠ some c) : trim s c = ⟨m⟩ := by
  have ha' : ∀ x ∈ a, decide (x = c) = true := by simpa using ha
  have hb' : ∀ x ∈ b.reverse, decide (x = c) = true := by simpa using hb
  have hkeep : ∀ l : List Char, l.head? ≠ some c → l.dropWhile (· = c) = l := by
    intro l hl
    cases l with
    | nil => rfl
    | cons y l => exact List.dropWhile_cons_of_neg (by simpa using hl)
  show String.mk _ = String.mk m
  congr 1
  cases m with
  | nil =>
      have hall : ∀ x ∈ a ++ b, decide (x = c) = true := fun x hx =>
        (List.mem_append.1 hx).elim (ha' x) fun hxb => by simpa using hb x hxb
      rw [hs, List.append_nil, List.dropWhile_eq_nil_iff.2 hall]
      rfl
  | cons x m =>
      rw [hs, List.append_assoc, List.dropWhile_append_of_pos ha',
        hkeep ((x :: m) ++ b) (by simpa using hhead), List.reverse_append,
        List.dropWhile_append_of_pos hb', hkeep (x :: m).reverse (by rwa [List.head?_reverse]),
        List.reverse_reverse]

/-! ### Slicing at byte offsets -/

/-- `utf8.RuneError`, the rune Go's string functions read a byte as when it does not start a
complete character. -/
def runeError : Char := '\uFFFD'

/-- `s[:n]` for a byte offset `n`: the characters that end by the offset, then one `runeError`
for each byte before the offset of a character the offset cuts. -/
def takeBytes (s : List Char) (n : ℕ) : List Char :=
  match n, s with
  | 0, _ => []
  | _ + 1, [] => []
  | n + 1, c :: cs =>
    if c.utf8Size ≤ n + 1 then c :: takeBytes cs (n + 1 - c.utf8Size)
    else List.replicate (n + 1) runeError

/-- `s[n:]` for a byte offset `n`: one `runeError` for each byte after the offset of a character
the offset cuts, then the characters after it. -/
def dropBytes (s : List Char) (n : ℕ) : List Char :=
  match n, s with
  | 0, cs => cs
  | _ + 1, [] => []
  | n + 1, c :: cs =>
    if c.utf8Size ≤ n + 1 then dropBytes cs (n + 1 - c.utf8Size)
    else List.replicate (c.utf8Size - (n + 1)) runeError ++ cs

theorem dropBytes_zero (s : List Char) : dropBytes s 0 = s := by
  cases s <;> rfl

/-- **A slice at the end of a prefix of one-byte characters cuts none**: `s[n:]` is what follows
the prefix. -/
theorem dropBytes_append_of_utf8Size {p : List Char} (hp : ∀ c ∈ p, c.utf8Size = 1)
    (cs : List Char) : dropBytes (p ++ cs) p.length = cs := by
  induction p with
  | nil => exact dropBytes_zero cs
  | cons c p ih =>
    have hc := hp c (List.mem_cons_self c p)
    rw [List.cons_append, List.length_cons, dropBytes, if_pos (by omega), hc, Nat.add_sub_cancel]
    exact ih fun d hd => hp d (List.mem_cons_of_mem c hd)

/-- The same for `s[:n]`, which is the prefix. -/
theorem takeBytes_append_of_utf8Size {p : List Char} (hp : ∀ c ∈ p, c.utf8Size = 1)
    (cs : List Char) : takeBytes (p ++ cs) p.length = p := by
  induction p with
  | nil => cases cs <;> rfl
  | cons c p ih =>
    have hc := hp c (List.mem_cons_self c p)
    rw [List.cons_append, List.length_cons, takeBytes, if_pos (by omega), hc, Nat.add_sub_cancel,
      ih fun d hd => hp d (List.mem_cons_of_mem c hd)]

/-! ### Case mapping keeps newlines out -/

theorem newline_not_mem_toUpper {s : String} (h : '\n' ∉ s.data) : '\n' ∉ (toUpper s).data := by
  simp only [toUpper, List.mem_map, not_exists, not_and]
  exact fun c hc hu => h (Unicode.toUpper_eq_newline hu ▸ hc)

theorem newline_not_mem_toLower {s : String} (h : '\n' ∉ s.data) : '\n' ∉ (toLower s).data := by
  simp only [toLower, List.mem_map, not_exists, not_and]
  exact fun c hc hu => h (Unicode.toLower_eq_newline hu ▸ hc)

theorem trimRight_empty (c : Char) : trimRight "" c = "" := rfl

/-- A string that starts with a character other than `c` keeps it under `TrimRight`. -/
theorem trimRight_ne_empty {s : String} {c x : Char} (hs : s.data.head? = some x) (hx : x ≠ c) :
    trimRight s c ≠ "" := by
  intro h
  have hnil : s.data.reverse.dropWhile (· = c) = [] := by
    simpa [trimRight, String.ext_iff] using h
  have := List.dropWhile_eq_nil_iff.1 hnil x (List.mem_reverse.2 (List.mem_of_mem_head? hs))
  exact hx (by simpa using this)

end Go

end FindMyDevice
