/-
**The case mapping of Go's `unicode` package, which `strings.ToLower` and `strings.ToUpper` apply
to every rune.**

`hawk.go` compares lower-cased text with ASCII words (the scheme `hawk`, and the keys `id`, `ts`,
`nonce`, `ext`, `hash` and `mac` of the header's elements), and it signs the upper-cased method
and the lower-cased host.  Go maps case one rune at a time with `unicode.ToLower` and
`unicode.ToUpper`: an ASCII letter by the distance between `a` and `A`, every other rune through
the table `unicode.CaseRanges`, whose entries give, for a range of runes, the distance to their
upper and to their lower case.  Four runes above ASCII map into it: `İ` (U+0130) and the Kelvin
sign (U+212A) lower-case to `i` and `k`, and `ı` (U+0131) and `ſ` (U+017F) upper-case to `I` and
`S`.  So `ToLower` reads a header key `İd` as `id`.

The entries of `FindMyDevice.Go.Unicode.caseRanges` are the simple case mappings of Unicode 14.0,
merged into ranges as Go's table generator merges them: runs of runes with equal distances, and
runs of alternating upper- and lower-case pairs, marked `upperLower`.  Each Go release ships the
table of its Unicode version, and those differ only at runes added since.  The title-case
distances are left out, since the code never asks for title case.

Main definitions:

* `FindMyDevice.Go.Unicode.CaseRange`, `FindMyDevice.Go.Unicode.caseRanges` — the table;
* `FindMyDevice.Go.Unicode.toCase` — `unicode.To`, with its binary search over the table;
* `FindMyDevice.Go.Unicode.toLower`, `FindMyDevice.Go.Unicode.toUpper` — `unicode.ToLower` and
  `unicode.ToUpper`.

Main results:

* `FindMyDevice.Go.Unicode.search_eq_some` — the entry the search finds is one of the table, and
  its range holds the rune;
* `FindMyDevice.Go.Unicode.toLower_eq_newline`, `FindMyDevice.Go.Unicode.toUpper_eq_newline` —
  **only a newline maps to a newline**, in either case.
-/

import Mathlib.Data.List.Infix

set_option relaxedAutoImplicit false
set_option autoImplicit false

namespace FindMyDevice

namespace Go

namespace Unicode

/-- `unicode.MaxRune`. -/
def maxRune : ℤ := 0x10FFFF

/-- `unicode.UpperLower`: the distance that marks a range of alternating upper- and lower-case
pairs. -/
def upperLower : ℤ := maxRune + 1

/-- `unicode.MaxASCII`. -/
def maxASCII : ℕ := 0x7F

/-- The cases the code maps to, `unicode.UpperCase` and `unicode.LowerCase`. -/
inductive Case
  | upperCase
  | lowerCase
  deriving DecidableEq, Repr

/-- The value of a case constant: `UpperCase = 0`, `LowerCase = 1`. -/
def Case.toNat : Case → ℕ
  | .upperCase => 0
  | .lowerCase => 1

/-- An entry of `unicode.CaseRanges`: the runes `lo` to `hi`, and `Delta[UpperCase]` and
`Delta[LowerCase]`, what `To` adds to a rune of the range to reach its upper and its lower case. -/
structure CaseRange where
  lo : ℕ
  hi : ℕ
  upper : ℤ
  lower : ℤ
  deriving DecidableEq, Repr

/-- `Delta[_case]`. -/
def CaseRange.delta (cr : CaseRange) : Case → ℤ
  | .upperCase => cr.upper
  | .lowerCase => cr.lower

/-- `unicode.CaseRanges`, without the title-case distances. -/
def caseRanges : List CaseRange := open CaseRange in [
  mk 0x0041 0x005A 0 32, mk 0x0061 0x007A (-32) 0, mk 0x00B5 0x00B5 743 0, mk 0x00C0 0x00D6 0 32,
  mk 0x00D8 0x00DE 0 32, mk 0x00E0 0x00F6 (-32) 0, mk 0x00F8 0x00FE (-32) 0,
  mk 0x00FF 0x00FF 121 0, mk 0x0100 0x012F upperLower upperLower, mk 0x0130 0x0130 0 (-199),
  mk 0x0131 0x0131 (-232) 0, mk 0x0132 0x0137 upperLower upperLower,
  mk 0x0139 0x0148 upperLower upperLower, mk 0x014A 0x0177 upperLower upperLower,
  mk 0x0178 0x0178 0 (-121), mk 0x0179 0x017E upperLower upperLower, mk 0x017F 0x017F (-300) 0,
  mk 0x0180 0x0180 195 0, mk 0x0181 0x0181 0 210, mk 0x0182 0x0185 upperLower upperLower,
  mk 0x0186 0x0186 0 206, mk 0x0187 0x0188 upperLower upperLower, mk 0x0189 0x018A 0 205,
  mk 0x018B 0x018C upperLower upperLower, mk 0x018E 0x018E 0 79, mk 0x018F 0x018F 0 202,
  mk 0x0190 0x0190 0 203, mk 0x0191 0x0192 upperLower upperLower, mk 0x0193 0x0193 0 205,
  mk 0x0194 0x0194 0 207, mk 0x0195 0x0195 97 0, mk 0x0196 0x0196 0 211, mk 0x0197 0x0197 0 209,
  mk 0x0198 0x0199 upperLower upperLower, mk 0x019A 0x019A 163 0, mk 0x019C 0x019C 0 211,
  mk 0x019D 0x019D 0 213, mk 0x019E 0x019E 130 0, mk 0x019F 0x019F 0 214,
  mk 0x01A0 0x01A5 upperLower upperLower, mk 0x01A6 0x01A6 0 218,
  mk 0x01A7 0x01A8 upperLower upperLower, mk 0x01A9 0x01A9 0 218,
  mk 0x01AC 0x01AD upperLower upperLower, mk 0x01AE 0x01AE 0 218,
  mk 0x01AF 0x01B0 upperLower upperLower, mk 0x01B1 0x01B2 0 217,
  mk 0x01B3 0x01B6 upperLower upperLower, mk 0x01B7 0x01B7 0 219,
  mk 0x01B8 0x01B9 upperLower upperLower, mk 0x01BC 0x01BD upperLower upperLower,
  mk 0x01BF 0x01BF 56 0, mk 0x01C4 0x01C4 0 2, mk 0x01C5 0x01C5 (-1) 1, mk 0x01C6 0x01C6 (-2) 0,
  mk 0x01C7 0x01C7 0 2, mk 0x01C8 0x01C8 (-1) 1, mk 0x01C9 0x01C9 (-2) 0, mk 0x01CA 0x01CA 0 2,
  mk 0x01CB 0x01CB (-1) 1, mk 0x01CC 0x01CC (-2) 0, mk 0x01CD 0x01DC upperLower upperLower,
  mk 0x01DD 0x01DD (-79) 0, mk 0x01DE 0x01EF upperLower upperLower, mk 0x01F1 0x01F1 0 2,
  mk 0x01F2 0x01F2 (-1) 1, mk 0x01F3 0x01F3 (-2) 0, mk 0x01F4 0x01F5 upperLower upperLower,
  mk 0x01F6 0x01F6 0 (-97), mk 0x01F7 0x01F7 0 (-56), mk 0x01F8 0x021F upperLower upperLower,
  mk 0x0220 0x0220 0 (-130), mk 0x0222 0x0233 upperLower upperLower, mk 0x023A 0x023A 0 10795,
  mk 0x023B 0x023C upperLower upperLower, mk 0x023D 0x023D 0 (-163), mk 0x023E 0x023E 0 10792,
  mk 0x023F 0x0240 10815 0, mk 0x0241 0x0242 upperLower upperLower, mk 0x0243 0x0243 0 (-195),
  mk 0x0244 0x0244 0 69, mk 0x0245 0x0245 0 71, mk 0x0246 0x024F upperLower upperLower,
  mk 0x0250 0x0250 10783 0, mk 0x0251 0x0251 10780 0, mk 0x0252 0x0252 10782 0,
  mk 0x0253 0x0253 (-210) 0, mk 0x0254 0x0254 (-206) 0, mk 0x0256 0x0257 (-205) 0,
  mk 0x0259 0x0259 (-202) 0, mk 0x025B 0x025B (-203) 0, mk 0x025C 0x025C 42319 0,
  mk 0x0260 0x0260 (-205) 0, mk 0x0261 0x0261 42315 0, mk 0x0263 0x0263 (-207) 0,
  mk 0x0265 0x0265 42280 0, mk 0x0266 0x0266 42308 0, mk 0x0268 0x0268 (-209) 0,
  mk 0x0269 0x0269 (-211) 0, mk 0x026A 0x026A 42308 0, mk 0x026B 0x026B 10743 0,
  mk 0x026C 0x026C 42305 0, mk 0x026F 0x026F (-211) 0, mk 0x0271 0x0271 10749 0,
  mk 0x0272 0x0272 (-213) 0, mk 0x0275 0x0275 (-214) 0, mk 0x027D 0x027D 10727 0,
  mk 0x0280 0x0280 (-218) 0, mk 0x0282 0x0282 42307 0, mk 0x0283 0x0283 (-218) 0,
  mk 0x0287 0x0287 42282 0, mk 0x0288 0x0288 (-218) 0, mk 0x0289 0x0289 (-69) 0,
  mk 0x028A 0x028B (-217) 0, mk 0x028C 0x028C (-71) 0, mk 0x0292 0x0292 (-219) 0,
  mk 0x029D 0x029D 42261 0, mk 0x029E 0x029E 42258 0, mk 0x0345 0x0345 84 0,
  mk 0x0370 0x0373 upperLower upperLower, mk 0x0376 0x0377 upperLower upperLower,
  mk 0x037B 0x037D 130 0, mk 0x037F 0x037F 0 116, mk 0x0386 0x0386 0 38, mk 0x0388 0x038A 0 37,
  mk 0x038C 0x038C 0 64, mk 0x038E 0x038F 0 63, mk 0x0391 0x03A1 0 32, mk 0x03A3 0x03AB 0 32,
  mk 0x03AC 0x03AC (-38) 0, mk 0x03AD 0x03AF (-37) 0, mk 0x03B1 0x03C1 (-32) 0,
  mk 0x03C2 0x03C2 (-31) 0, mk 0x03C3 0x03CB (-32) 0, mk 0x03CC 0x03CC (-64) 0,
  mk 0x03CD 0x03CE (-63) 0, mk 0x03CF 0x03CF 0 8, mk 0x03D0 0x03D0 (-62) 0,
  mk 0x03D1 0x03D1 (-57) 0, mk 0x03D5 0x03D5 (-47) 0, mk 0x03D6 0x03D6 (-54) 0,
  mk 0x03D7 0x03D7 (-8) 0, mk 0x03D8 0x03EF upperLower upperLower, mk 0x03F0 0x03F0 (-86) 0,
  mk 0x03F1 0x03F1 (-80) 0, mk 0x03F2 0x03F2 7 0, mk 0x03F3 0x03F3 (-116) 0,
  mk 0x03F4 0x03F4 0 (-60), mk 0x03F5 0x03F5 (-96) 0, mk 0x03F7 0x03F8 upperLower upperLower,
  mk 0x03F9 0x03F9 0 (-7), mk 0x03FA 0x03FB upperLower upperLower, mk 0x03FD 0x03FF 0 (-130),
  mk 0x0400 0x040F 0 80, mk 0x0410 0x042F 0 32, mk 0x0430 0x044F (-32) 0, mk 0x0450 0x045F (-80) 0,
  mk 0x0460 0x0481 upperLower upperLower, mk 0x048A 0x04BF upperLower upperLower,
  mk 0x04C0 0x04C0 0 15, mk 0x04C1 0x04CE upperLower upperLower, mk 0x04CF 0x04CF (-15) 0,
  mk 0x04D0 0x052F upperLower upperLower, mk 0x0531 0x0556 0 48, mk 0x0561 0x0586 (-48) 0,
  mk 0x10A0 0x10C5 0 7264, mk 0x10C7 0x10C7 0 7264, mk 0x10CD 0x10CD 0 7264,
  mk 0x10D0 0x10FA 3008 0, mk 0x10FD 0x10FF 3008 0, mk 0x13A0 0x13EF 0 38864, mk 0x13F0 0x13F5 0 8,
  mk 0x13F8 0x13FD (-8) 0, mk 0x1C80 0x1C80 (-6254) 0, mk 0x1C81 0x1C81 (-6253) 0,
  mk 0x1C82 0x1C82 (-6244) 0, mk 0x1C83 0x1C84 (-6242) 0, mk 0x1C85 0x1C85 (-6243) 0,
  mk 0x1C86 0x1C86 (-6236) 0, mk 0x1C87 0x1C87 (-6181) 0, mk 0x1C88 0x1C88 35266 0,
  mk 0x1C90 0x1CBA 0 (-3008), mk 0x1CBD 0x1CBF 0 (-3008), mk 0x1D79 0x1D79 35332 0,
  mk 0x1D7D 0x1D7D 3814 0, mk 0x1D8E 0x1D8E 35384 0, mk 0x1E00 0x1E95 upperLower upperLower,
  mk 0x1E9B 0x1E9B (-59) 0, mk 0x1E9E 0x1E9E 0 (-7615), mk 0x1EA0 0x1EFF upperLower upperLower,
  mk 0x1F00 0x1F07 8 0, mk 0x1F08 0x1F0F 0 (-8), mk 0x1F10 0x1F15 8 0, mk 0x1F18 0x1F1D 0 (-8),
  mk 0x1F20 0x1F27 8 0, mk 0x1F28 0x1F2F 0 (-8), mk 0x1F30 0x1F37 8 0, mk 0x1F38 0x1F3F 0 (-8),
  mk 0x1F40 0x1F45 8 0, mk 0x1F48 0x1F4D 0 (-8), mk 0x1F51 0x1F51 8 0, mk 0x1F53 0x1F53 8 0,
  mk 0x1F55 0x1F55 8 0, mk 0x1F57 0x1F57 8 0, mk 0x1F59 0x1F59 0 (-8), mk 0x1F5B 0x1F5B 0 (-8),
  mk 0x1F5D 0x1F5D 0 (-8), mk 0x1F5F 0x1F5F 0 (-8), mk 0x1F60 0x1F67 8 0, mk 0x1F68 0x1F6F 0 (-8),
  mk 0x1F70 0x1F71 74 0, mk 0x1F72 0x1F75 86 0, mk 0x1F76 0x1F77 100 0, mk 0x1F78 0x1F79 128 0,
  mk 0x1F7A 0x1F7B 112 0, mk 0x1F7C 0x1F7D 126 0, mk 0x1F80 0x1F87 8 0, mk 0x1F88 0x1F8F 0 (-8),
  mk 0x1F90 0x1F97 8 0, mk 0x1F98 0x1F9F 0 (-8), mk 0x1FA0 0x1FA7 8 0, mk 0x1FA8 0x1FAF 0 (-8),
  mk 0x1FB0 0x1FB1 8 0, mk 0x1FB3 0x1FB3 9 0, mk 0x1FB8 0x1FB9 0 (-8), mk 0x1FBA 0x1FBB 0 (-74),
  mk 0x1FBC 0x1FBC 0 (-9), mk 0x1FBE 0x1FBE (-7205) 0, mk 0x1FC3 0x1FC3 9 0,
  mk 0x1FC8 0x1FCB 0 (-86), mk 0x1FCC 0x1FCC 0 (-9), mk 0x1FD0 0x1FD1 8 0, mk 0x1FD8 0x1FD9 0 (-8),
  mk 0x1FDA 0x1FDB 0 (-100), mk 0x1FE0 0x1FE1 8 0, mk 0x1FE5 0x1FE5 7 0, mk 0x1FE8 0x1FE9 0 (-8),
  mk 0x1FEA 0x1FEB 0 (-112), mk 0x1FEC 0x1FEC 0 (-7), mk 0x1FF3 0x1FF3 9 0,
  mk 0x1FF8 0x1FF9 0 (-128), mk 0x1FFA 0x1FFB 0 (-126), mk 0x1FFC 0x1FFC 0 (-9),
  mk 0x2126 0x2126 0 (-7517), mk 0x212A 0x212A 0 (-8383), mk 0x212B 0x212B 0 (-8262),
  mk 0x2132 0x2132 0 28, mk 0x214E 0x214E (-28) 0, mk 0x2160 0x216F 0 16, mk 0x2170 0x217F (-16) 0,
  mk 0x2183 0x2184 upperLower upperLower, mk 0x24B6 0x24CF 0 26, mk 0x24D0 0x24E9 (-26) 0,
  mk 0x2C00 0x2C2F 0 48, mk 0x2C30 0x2C5F (-48) 0, mk 0x2C60 0x2C61 upperLower upperLower,
  mk 0x2C62 0x2C62 0 (-10743), mk 0x2C63 0x2C63 0 (-3814), mk 0x2C64 0x2C64 0 (-10727),
  mk 0x2C65 0x2C65 (-10795) 0, mk 0x2C66 0x2C66 (-10792) 0, mk 0x2C67 0x2C6C upperLower upperLower,
  mk 0x2C6D 0x2C6D 0 (-10780), mk 0x2C6E 0x2C6E 0 (-10749), mk 0x2C6F 0x2C6F 0 (-10783),
  mk 0x2C70 0x2C70 0 (-10782), mk 0x2C72 0x2C73 upperLower upperLower,
  mk 0x2C75 0x2C76 upperLower upperLower, mk 0x2C7E 0x2C7F 0 (-10815),
  mk 0x2C80 0x2CE3 upperLower upperLower, mk 0x2CEB 0x2CEE upperLower upperLower,
  mk 0x2CF2 0x2CF3 upperLower upperLower, mk 0x2D00 0x2D25 (-7264) 0, mk 0x2D27 0x2D27 (-7264) 0,
  mk 0x2D2D 0x2D2D (-7264) 0, mk 0xA640 0xA66D upperLower upperLower,
  mk 0xA680 0xA69B upperLower upperLower, mk 0xA722 0xA72F upperLower upperLower,
  mk 0xA732 0xA76F upperLower upperLower, mk 0xA779 0xA77C upperLower upperLower,
  mk 0xA77D 0xA77D 0 (-35332), mk 0xA77E 0xA787 upperLower upperLower,
  mk 0xA78B 0xA78C upperLower upperLower, mk 0xA78D 0xA78D 0 (-42280),
  mk 0xA790 0xA793 upperLower upperLower, mk 0xA794 0xA794 48 0,
  mk 0xA796 0xA7A9 upperLower upperLower, mk 0xA7AA 0xA7AA 0 (-42308), mk 0xA7AB 0xA7AB 0 (-42319),
  mk 0xA7AC 0xA7AC 0 (-42315), mk 0xA7AD 0xA7AD 0 (-42305), mk 0xA7AE 0xA7AE 0 (-42308),
  mk 0xA7B0 0xA7B0 0 (-42258), mk 0xA7B1 0xA7B1 0 (-42282), mk 0xA7B2 0xA7B2 0 (-42261),
  mk 0xA7B3 0xA7B3 0 928, mk 0xA7B4 0xA7C3 upperLower upperLower, mk 0xA7C4 0xA7C4 0 (-48),
  mk 0xA7C5 0xA7C5 0 (-42307), mk 0xA7C6 0xA7C6 0 (-35384), mk 0xA7C7 0xA7CA upperLower upperLower,
  mk 0xA7D0 0xA7D1 upperLower upperLower, mk 0xA7D6 0xA7D9 upperLower upperLower,
  mk 0xA7F5 0xA7F6 upperLower upperLower, mk 0xAB53 0xAB53 (-928) 0, mk 0xAB70 0xABBF (-38864) 0,
  mk 0xFF21 0xFF3A 0 32, mk 0xFF41 0xFF5A (-32) 0, mk 0x10400 0x10427 0 40,
  mk 0x10428 0x1044F (-40) 0, mk 0x104B0 0x104D3 0 40, mk 0x104D8 0x104FB (-40) 0,
  mk 0x10570 0x1057A 0 39, mk 0x1057C 0x1058A 0 39, mk 0x1058C 0x10592 0 39,
  mk 0x10594 0x10595 0 39, mk 0x10597 0x105A1 (-39) 0, mk 0x105A3 0x105B1 (-39) 0,
  mk 0x105B3 0x105B9 (-39) 0, mk 0x105BB 0x105BC (-39) 0, mk 0x10C80 0x10CB2 0 64,
  mk 0x10CC0 0x10CF2 (-64) 0, mk 0x118A0 0x118BF 0 32, mk 0x118C0 0x118DF (-32) 0,
  mk 0x16E40 0x16E5F 0 32, mk 0x16E60 0x16E7F (-32) 0, mk 0x1E900 0x1E921 0 34,
  mk 0x1E922 0x1E943 (-34) 0]

/-- The binary search of `to` over a table sorted by range, between its entries `lo` and `hi`:
the entry whose range holds `r`, if there is one.  Each round narrows the stretch, so as many
rounds as the table has entries always reach the end of Go's loop. -/
def search (caseRange : List CaseRange) (r : ℕ) : ℕ → ℕ → ℕ → Option CaseRange
  | 0, _, _ => none
  | fuel + 1, lo, hi =>
    if lo < hi then
      let m := lo + (hi - lo) / 2
      match caseRange[m]? with
      | some cr =>
        if cr.lo ≤ r ∧ r ≤ cr.hi then some cr
        else if r < cr.lo then search caseRange r fuel lo m
        else search caseRange r fuel (m + 1) hi
      | none => none
    else none

/-- `unicode.To(_case, r)`: `r` moved by the distance of the range that holds it or, in a range
of upper- and lower-case pairs, the rune of its pair in the case asked for (upper case at even
offsets from `lo`, lower case at odd ones); a rune in no range is its own case. -/
def toCase (c : Case) (r : Char) : Char :=
  match search caseRanges r.toNat caseRanges.length 0 caseRanges.length with
  | none => r
  | some cr =>
    if cr.delta c > maxRune then Char.ofNat (cr.lo + ((r.toNat - cr.lo) / 2 * 2 + c.toNat))
    else Char.ofNat (r.toNat + cr.delta c).toNat

/-- `unicode.ToLower(r)`. -/
def toLower (r : Char) : Char :=
  if r.toNat ≤ maxASCII then
    if 'A'.toNat ≤ r.toNat ∧ r.toNat ≤ 'Z'.toNat then Char.ofNat (r.toNat + ('a'.toNat - 'A'.toNat))
    else r
  else toCase .lowerCase r

/-- `unicode.ToUpper(r)`. -/
def toUpper (r : Char) : Char :=
  if r.toNat ≤ maxASCII then
    if 'a'.toNat ≤ r.toNat ∧ r.toNat ≤ 'z'.toNat then Char.ofNat (r.toNat - ('a'.toNat - 'A'.toNat))
    else r
  else toCase .upperCase r

set_option maxRecDepth 4000 in
example : toLower '\u0130' = 'i' ∧ toUpper '\u017F' = 'S' ∧ toLower 'K' = 'k' := by decide

/-! ### Only a newline maps to a newline -/

/-- **The entry the search finds is one of the table, and its range holds the rune.** -/
theorem search_eq_some {caseRange : List CaseRange} {r : ℕ} : ∀ {fuel lo hi : ℕ} {cr : CaseRange},
    search caseRange r fuel lo hi = some cr → cr ∈ caseRange ∧ cr.lo ≤ r ∧ r ≤ cr.hi
  | 0, _, _, _, h => nomatch h
  | fuel + 1, lo, hi, cr, h => by
    unfold search at h
    split_ifs at h
    dsimp only at h
    split at h
    · next e he =>
      split_ifs at h with hin
      · cases h
        exact ⟨List.getElem?_mem he, hin⟩
      all_goals exact search_eq_some h
    · cases h

set_option maxRecDepth 4000 in
/-- Every range of the table lies above the newline, and so does every rune it moves the runes
of its range to. -/
theorem caseRanges_above_newline : ∀ cr ∈ caseRanges, 10 < cr.lo ∧
    (maxRune < cr.upper ∨ 10 < cr.lo + cr.upper) ∧ (maxRune < cr.lower ∨ 10 < cr.lo + cr.lower) :=
  by decide

theorem eq_ten_of_ofNat_eq_newline {n : ℕ} (h : Char.ofNat n = '\n') : n = 10 := by
  unfold Char.ofNat at h
  split at h
  · exact congrArg Char.toNat h
  · exact absurd h (by decide)

/-- A rune above the newline is not mapped to it. -/
theorem toCase_ne_newline (c : Case) {r : Char} (hr : 10 < r.toNat) : toCase c r ≠ '\n' := by
  unfold toCase
  split
  · exact fun h => by rw [h] at hr; exact absurd hr (by decide)
  · next cr hcr =>
    obtain ⟨hmem, hlo, -⟩ := search_eq_some hcr
    obtain ⟨hlo', hu, hl⟩ := caseRanges_above_newline cr hmem
    have hd : maxRune < cr.delta c ∨ 10 < cr.lo + cr.delta c := by cases c <;> assumption
    split_ifs with hul
    · exact fun h => by have := eq_ten_of_ofNat_eq_newline h; omega
    · exact fun h => by have := eq_ten_of_ofNat_eq_newline h; omega

theorem toLower_eq_newline {r : Char} (h : toLower r = '\n') : r = '\n' := by
  unfold toLower at h
  split_ifs at h with ha hb
  · have := eq_ten_of_ofNat_eq_newline h
    simp only [show 'A'.toNat = 65 from rfl, show 'a'.toNat = 97 from rfl] at this
    omega
  · exact h
  · exact absurd h (toCase_ne_newline .lowerCase (by unfold maxASCII at ha; omega))

theorem toUpper_eq_newline {r : Char} (h : toUpper r = '\n') : r = '\n' := by
  unfold toUpper at h
  split_ifs at h with ha hb
  · have := eq_ten_of_ofNat_eq_newline h
    simp only [show 'A'.toNat = 65 from rfl, show 'a'.toNat = 97 from rfl,
      show 'z'.toNat = 122 from rfl] at this hb
    omega
  · exact h
  · exact absurd h (toCase_ne_newline .upperCase (by unfold maxASCII at ha; omega))

end Unicode

end Go

end FindMyDevice
