import Mathlib.Data.List.Basic

/-!
# Unicode character data

The tables of the Unicode character database that Python's `str` methods and `re` classes read,
as Python 3.11's `unicodedata` has them (Unicode 14.0). Each table is a binary search tree of
disjoint intervals of code points, written in order, one interval a line:

* `lowerTree` and `upperTree`: the one-character mappings of `str.lower` and `str.upper` outside
  ASCII, as runs in which every code point, or every second one, moves by the same offset;
  `upperSpecial`: the characters `str.upper` maps to several characters (`U+0130` is the only
  one for `str.lower`);
* `caseIgnorableTree` and `casedTree`: what the final-sigma rule of `str.lower` looks past, and
  the letters it looks for;
* `wordTree`: `\w`, the characters `str.isalnum` accepts and `_`;
* `decimalTree`: `\d`, the decimal digits, which `int()` reads.
-/

namespace MysqlChReplicator.Python

/-- Disjoint intervals `[first, last]` of code points, each with a value, as a binary search
tree. -/
inductive RangeTree (α : Type) where
  | leaf
  | node (left : RangeTree α) (first last : Nat) (value : α) (right : RangeTree α)

namespace RangeTree

variable {α : Type}

/-- The interval that holds `n`: its first code point and its value. -/
def find? (n : Nat) : RangeTree α → Option (Nat × α)
  | leaf => none
  | node left first last value right =>
      if n < first then left.find? n else if last < n then right.find? n else some (first, value)

/-- Whether an interval holds `n`. -/
def contains (tree : RangeTree α) (n : Nat) : Bool := (tree.find? n).isSome

/-- Every interval satisfies `p`. -/
def all (p : Nat → Nat → α → Bool) : RangeTree α → Bool
  | leaf => true
  | node left first last value right => left.all p && p first last value && right.all p

/-- What `find?` answers is an interval of the tree that holds `n`. -/
theorem all_of_find? {p : Nat → Nat → α → Bool} {n first : Nat} {value : α} :
    ∀ {tree : RangeTree α}, tree.all p = true → tree.find? n = some (first, value) →
      ∃ last, first ≤ n ∧ n ≤ last ∧ p first last value = true
  | leaf, _, found => nomatch found
  | node left first' last' value' right, all, found => by
      simp only [RangeTree.all, Bool.and_eq_true] at all
      unfold find? at found
      split at found
      · exact all_of_find? all.1.1 found
      · split at found
        · exact all_of_find? all.2 found
        · cases found
          exact ⟨last', by omega, by omega, all.1.2⟩

end RangeTree

/-! ## The tables -/

/-- The one-character mappings of `str.lower` outside ASCII, as runs `(step, target)`. -/
def lowerTree : RangeTree (Nat × Nat) :=
  .node (.node (.node (.node (.node (.node (.node (.node .leaf 0xC0 0xD6 (1, 0xE0) .leaf)
                0xD8 0xDE (1, 0xF8) .leaf)
              0x100 0x12E (2, 0x101)
              (.node (.node .leaf 0x132 0x136 (2, 0x133) .leaf)
                0x139 0x147 (2, 0x13A) .leaf))
            0x14A 0x176 (2, 0x14B)
            (.node (.node (.node .leaf 0x178 0x178 (2, 0xFF) .leaf)
                0x179 0x17D (2, 0x17A) .leaf)
              0x181 0x181 (2, 0x253)
              (.node (.node .leaf 0x182 0x184 (2, 0x183) .leaf)
                0x186 0x186 (2, 0x254) .leaf)))
          0x187 0x187 (2, 0x188)
          (.node (.node (.node (.node .leaf 0x189 0x18A (1, 0x256) .leaf)
                0x18B 0x18B (2, 0x18C) .leaf)
              0x18E 0x18E (2, 0x1DD)
              (.node (.node .leaf 0x18F 0x18F (2, 0x259) .leaf)
                0x190 0x190 (2, 0x25B) .leaf))
            0x191 0x191 (2, 0x192)
            (.node (.node (.node .leaf 0x193 0x193 (2, 0x260) .leaf)
                0x194 0x194 (2, 0x263) .leaf)
              0x196 0x196 (2, 0x269)
              (.node .leaf 0x197 0x197 (2, 0x268) .leaf))))
        0x198 0x198 (2, 0x199)
        (.node (.node (.node (.node (.node .leaf 0x19C 0x19C (2, 0x26F) .leaf)
                0x19D 0x19D (2, 0x272) .leaf)
              0x19F 0x19F (2, 0x275)
              (.node (.node .leaf 0x1A0 0x1A4 (2, 0x1A1) .leaf)
                0x1A6 0x1A6 (2, 0x280) .leaf))
            0x1A7 0x1A7 (2, 0x1A8)
            (.node (.node (.node .leaf 0x1A9 0x1A9 (2, 0x283) .leaf)
                0x1AC 0x1AC (2, 0x1AD) .leaf)
              0x1AE 0x1AE (2, 0x288)
              (.node (.node .leaf 0x1AF 0x1AF (2, 0x1B0) .leaf)
                0x1B1 0x1B2 (1, 0x28A) .leaf)))
          0x1B3 0x1B5 (2, 0x1B4)
          (.node (.node (.node (.node .leaf 0x1B7 0x1B7 (2, 0x292) .leaf)
                0x1B8 0x1B8 (2, 0x1B9) .leaf)
              0x1BC 0x1BC (2, 0x1BD)
              (.node (.node .leaf 0x1C4 0x1C4 (2, 0x1C6) .leaf)
                0x1C5 0x1C5 (2, 0x1C6) .leaf))
            0x1C7 0x1C7 (2, 0x1C9)
            (.node (.node (.node .leaf 0x1C8 0x1C8 (2, 0x1C9) .leaf)
                0x1CA 0x1CA (2, 0x1CC) .leaf)
              0x1CB 0x1DB (2, 0x1CC)
              (.node .leaf 0x1DE 0x1EE (2, 0x1DF) .leaf)))))
      0x1F1 0x1F1 (2, 0x1F3)
      (.node (.node (.node (.node (.node (.node .leaf 0x1F2 0x1F4 (2, 0x1F3) .leaf)
                0x1F6 0x1F6 (2, 0x195) .leaf)
              0x1F7 0x1F7 (2, 0x1BF)
              (.node (.node .leaf 0x1F8 0x21E (2, 0x1F9) .leaf)
                0x220 0x220 (2, 0x19E) .leaf))
            0x222 0x232 (2, 0x223)
            (.node (.node (.node .leaf 0x23A 0x23A (2, 0x2C65) .leaf)
                0x23B 0x23B (2, 0x23C) .leaf)
              0x23D 0x23D (2, 0x19A)
              (.node (.node .leaf 0x23E 0x23E (2, 0x2C66) .leaf)
                0x241 0x241 (2, 0x242) .leaf)))
          0x243 0x243 (2, 0x180)
          (.node (.node (.node (.node .leaf 0x244 0x244 (2, 0x289) .leaf)
                0x245 0x245 (2, 0x28C) .leaf)
              0x246 0x24E (2, 0x247)
              (.node (.node .leaf 0x370 0x372 (2, 0x371) .leaf)
                0x376 0x376 (2, 0x377) .leaf))
            0x37F 0x37F (2, 0x3F3)
            (.node (.node (.node .leaf 0x386 0x386 (2, 0x3AC) .leaf)
                0x388 0x38A (1, 0x3AD) .leaf)
              0x38C 0x38C (2, 0x3CC)
              (.node .leaf 0x38E 0x38F (1, 0x3CD) .leaf))))
        0x391 0x3A1 (1, 0x3B1)
        (.node (.node (.node (.node (.node .leaf 0x3A3 0x3AB (1, 0x3C3) .leaf)
                0x3CF 0x3CF (2, 0x3D7) .leaf)
              0x3D8 0x3EE (2, 0x3D9)
              (.node (.node .leaf 0x3F4 0x3F4 (2, 0x3B8) .leaf)
                0x3F7 0x3F7 (2, 0x3F8) .leaf))
            0x3F9 0x3F9 (2, 0x3F2)
            (.node (.node (.node .leaf 0x3FA 0x3FA (2, 0x3FB) .leaf)
                0x3FD 0x3FF (1, 0x37B) .leaf)
              0x400 0x40F (1, 0x450)
              (.node .leaf 0x410 0x42F (1, 0x430) .leaf)))
          0x460 0x480 (2, 0x461)
          (.node (.node (.node (.node .leaf 0x48A 0x4BE (2, 0x48B) .leaf)
                0x4C0 0x4C0 (2, 0x4CF) .leaf)
              0x4C1 0x4CD (2, 0x4C2)
              (.node (.node .leaf 0x4D0 0x52E (2, 0x4D1) .leaf)
                0x531 0x556 (1, 0x561) .leaf))
            0x10A0 0x10C5 (1, 0x2D00)
            (.node (.node (.node .leaf 0x10C7 0x10C7 (2, 0x2D27) .leaf)
                0x10CD 0x10CD (2, 0x2D2D) .leaf)
              0x13A0 0x13EF (1, 0xAB70)
              (.node .leaf 0x13F0 0x13F5 (1, 0x13F8) .leaf))))))
    0x1C90 0x1CBA (1, 0x10D0)
    (.node (.node (.node (.node (.node (.node (.node .leaf 0x1CBD 0x1CBF (1, 0x10FD) .leaf)
                0x1E00 0x1E94 (2, 0x1E01) .leaf)
              0x1E9E 0x1E9E (2, 0xDF)
              (.node (.node .leaf 0x1EA0 0x1EFE (2, 0x1EA1) .leaf)
                0x1F08 0x1F0F (1, 0x1F00) .leaf))
            0x1F18 0x1F1D (1, 0x1F10)
            (.node (.node (.node .leaf 0x1F28 0x1F2F (1, 0x1F20) .leaf)
                0x1F38 0x1F3F (1, 0x1F30) .leaf)
              0x1F48 0x1F4D (1, 0x1F40)
              (.node (.node .leaf 0x1F59 0x1F5F (2, 0x1F51) .leaf)
                0x1F68 0x1F6F (1, 0x1F60) .leaf)))
          0x1F88 0x1F8F (1, 0x1F80)
          (.node (.node (.node (.node .leaf 0x1F98 0x1F9F (1, 0x1F90) .leaf)
                0x1FA8 0x1FAF (1, 0x1FA0) .leaf)
              0x1FB8 0x1FB9 (1, 0x1FB0)
              (.node (.node .leaf 0x1FBA 0x1FBB (1, 0x1F70) .leaf)
                0x1FBC 0x1FBC (2, 0x1FB3) .leaf))
            0x1FC8 0x1FCB (1, 0x1F72)
            (.node (.node (.node .leaf 0x1FCC 0x1FCC (2, 0x1FC3) .leaf)
                0x1FD8 0x1FD9 (1, 0x1FD0) .leaf)
              0x1FDA 0x1FDB (1, 0x1F76)
              (.node .leaf 0x1FE8 0x1FE9 (1, 0x1FE0) .leaf))))
        0x1FEA 0x1FEB (1, 0x1F7A)
        (.node (.node (.node (.node (.node .leaf 0x1FEC 0x1FEC (2, 0x1FE5) .leaf)
                0x1FF8 0x1FF9 (1, 0x1F78) .leaf)
              0x1FFA 0x1FFB (1, 0x1F7C)
              (.node (.node .leaf 0x1FFC 0x1FFC (2, 0x1FF3) .leaf)
                0x2126 0x2126 (2, 0x3C9) .leaf))
            0x212A 0x212A (2, 0x6B)
            (.node (.node (.node .leaf 0x212B 0x212B (2, 0xE5) .leaf)
                0x2132 0x2132 (2, 0x214E) .leaf)
              0x2160 0x216F (1, 0x2170)
              (.node .leaf 0x2183 0x2183 (2, 0x2184) .leaf)))
          0x24B6 0x24CF (1, 0x24D0)
          (.node (.node (.node (.node .leaf 0x2C00 0x2C2F (1, 0x2C30) .leaf)
                0x2C60 0x2C60 (2, 0x2C61) .leaf)
              0x2C62 0x2C62 (2, 0x26B)
              (.node (.node .leaf 0x2C63 0x2C63 (2, 0x1D7D) .leaf)
                0x2C64 0x2C64 (2, 0x27D) .leaf))
            0x2C67 0x2C6B (2, 0x2C68)
            (.node (.node (.node .leaf 0x2C6D 0x2C6D (2, 0x251) .leaf)
                0x2C6E 0x2C6E (2, 0x271) .leaf)
              0x2C6F 0x2C6F (2, 0x250)
              (.node .leaf 0x2C70 0x2C70 (2, 0x252) .leaf)))))
      0x2C72 0x2C72 (2, 0x2C73)
      (.node (.node (.node (.node (.node (.node .leaf 0x2C75 0x2C75 (2, 0x2C76) .leaf)
                0x2C7E 0x2C7F (1, 0x23F) .leaf)
              0x2C80 0x2CE2 (2, 0x2C81)
              (.node (.node .leaf 0x2CEB 0x2CED (2, 0x2CEC) .leaf)
                0x2CF2 0x2CF2 (2, 0x2CF3) .leaf))
            0xA640 0xA66C (2, 0xA641)
            (.node (.node (.node .leaf 0xA680 0xA69A (2, 0xA681) .leaf)
                0xA722 0xA72E (2, 0xA723) .leaf)
              0xA732 0xA76E (2, 0xA733)
              (.node (.node .leaf 0xA779 0xA77B (2, 0xA77A) .leaf)
                0xA77D 0xA77D (2, 0x1D79) .leaf)))
          0xA77E 0xA786 (2, 0xA77F)
          (.node (.node (.node (.node .leaf 0xA78B 0xA78B (2, 0xA78C) .leaf)
                0xA78D 0xA78D (2, 0x265) .leaf)
              0xA790 0xA792 (2, 0xA791)
              (.node (.node .leaf 0xA796 0xA7A8 (2, 0xA797) .leaf)
                0xA7AA 0xA7AA (2, 0x266) .leaf))
            0xA7AB 0xA7AB (2, 0x25C)
            (.node (.node (.node .leaf 0xA7AC 0xA7AC (2, 0x261) .leaf)
                0xA7AD 0xA7AD (2, 0x26C) .leaf)
              0xA7AE 0xA7AE (2, 0x26A)
              (.node .leaf 0xA7B0 0xA7B0 (2, 0x29E) .leaf))))
        0xA7B1 0xA7B1 (2, 0x287)
        (.node (.node (.node (.node (.node .leaf 0xA7B2 0xA7B2 (2, 0x29D) .leaf)
                0xA7B3 0xA7B3 (2, 0xAB53) .leaf)
              0xA7B4 0xA7C2 (2, 0xA7B5)
              (.node (.node .leaf 0xA7C4 0xA7C4 (2, 0xA794) .leaf)
                0xA7C5 0xA7C5 (2, 0x282) .leaf))
            0xA7C6 0xA7C6 (2, 0x1D8E)
            (.node (.node (.node .leaf 0xA7C7 0xA7C9 (2, 0xA7C8) .leaf)
                0xA7D0 0xA7D0 (2, 0xA7D1) .leaf)
              0xA7D6 0xA7D8 (2, 0xA7D7)
              (.node .leaf 0xA7F5 0xA7F5 (2, 0xA7F6) .leaf)))
          0xFF21 0xFF3A (1, 0xFF41)
          (.node (.node (.node (.node .leaf 0x10400 0x10427 (1, 0x10428) .leaf)
                0x104B0 0x104D3 (1, 0x104D8) .leaf)
              0x10570 0x1057A (1, 0x10597)
              (.node (.node .leaf 0x1057C 0x1058A (1, 0x105A3) .leaf)
                0x1058C 0x10592 (1, 0x105B3) .leaf))
            0x10594 0x10595 (1, 0x105BB)
            (.node (.node (.node .leaf 0x10C80 0x10CB2 (1, 0x10CC0) .leaf)
                0x118A0 0x118BF (1, 0x118C0) .leaf)
              0x16E40 0x16E5F (1, 0x16E60)
              (.node .leaf 0x1E900 0x1E921 (1, 0x1E922) .leaf))))))

/-- The one-character mappings of `str.upper` outside ASCII, as runs `(step, target)`. -/
def upperTree : RangeTree (Nat × Nat) :=
  .node (.node (.node (.node (.node (.node (.node (.node .leaf 0xB5 0xB5 (2, 0x39C) .leaf)
                0xE0 0xF6 (1, 0xC0)
                (.node .leaf 0xF8 0xFE (1, 0xD8) .leaf))
              0xFF 0xFF (2, 0x178)
              (.node (.node .leaf 0x101 0x12F (2, 0x100) .leaf)
                0x131 0x131 (2, 0x49) .leaf))
            0x133 0x137 (2, 0x132)
            (.node (.node (.node .leaf 0x13A 0x148 (2, 0x139) .leaf)
                0x14B 0x177 (2, 0x14A) .leaf)
              0x17A 0x17E (2, 0x179)
              (.node (.node .leaf 0x17F 0x17F (2, 0x53) .leaf)
                0x180 0x180 (2, 0x243) .leaf)))
          0x183 0x185 (2, 0x182)
          (.node (.node (.node (.node .leaf 0x188 0x188 (2, 0x187) .leaf)
                0x18C 0x18C (2, 0x18B) .leaf)
              0x192 0x192 (2, 0x191)
              (.node (.node .leaf 0x195 0x195 (2, 0x1F6) .leaf)
                0x199 0x199 (2, 0x198) .leaf))
            0x19A 0x19A (2, 0x23D)
            (.node (.node (.node .leaf 0x19E 0x19E (2, 0x220) .leaf)
                0x1A1 0x1A5 (2, 0x1A0) .leaf)
              0x1A8 0x1A8 (2, 0x1A7)
              (.node (.node .leaf 0x1AD 0x1AD (2, 0x1AC) .leaf)
                0x1B0 0x1B0 (2, 0x1AF) .leaf))))
        0x1B4 0x1B6 (2, 0x1B3)
        (.node (.node (.node (.node (.node .leaf 0x1B9 0x1B9 (2, 0x1B8) .leaf)
                0x1BD 0x1BD (2, 0x1BC) .leaf)
              0x1BF 0x1BF (2, 0x1F7)
              (.node (.node .leaf 0x1C5 0x1C5 (2, 0x1C4) .leaf)
                0x1C6 0x1C6 (2, 0x1C4) .leaf))
            0x1C8 0x1C8 (2, 0x1C7)
            (.node (.node (.node .leaf 0x1C9 0x1C9 (2, 0x1C7) .leaf)
                0x1CB 0x1CB (2, 0x1CA) .leaf)
              0x1CC 0x1CC (2, 0x1CA)
              (.node (.node .leaf 0x1CE 0x1DC (2, 0x1CD) .leaf)
                0x1DD 0x1DD (2, 0x18E) .leaf)))
          0x1DF 0x1EF (2, 0x1DE)
          (.node (.node (.node (.node .leaf 0x1F2 0x1F2 (2, 0x1F1) .leaf)
                0x1F3 0x1F3 (2, 0x1F1) .leaf)
              0x1F5 0x1F5 (2, 0x1F4)
              (.node (.node .leaf 0x1F9 0x21F (2, 0x1F8) .leaf)
                0x223 0x233 (2, 0x222) .leaf))
            0x23C 0x23C (2, 0x23B)
            (.node (.node (.node .leaf 0x23F 0x240 (1, 0x2C7E) .leaf)
                0x242 0x242 (2, 0x241) .leaf)
              0x247 0x24F (2, 0x246)
              (.node (.node .leaf 0x250 0x250 (2, 0x2C6F) .leaf)
                0x251 0x251 (2, 0x2C6D) .leaf)))))
      0x252 0x252 (2, 0x2C70)
      (.node (.node (.node (.node (.node (.node .leaf 0x253 0x253 (2, 0x181) .leaf)
                0x254 0x254 (2, 0x186) .leaf)
              0x256 0x257 (1, 0x189)
              (.node (.node .leaf 0x259 0x259 (2, 0x18F) .leaf)
                0x25B 0x25B (2, 0x190) .leaf))
            0x25C 0x25C (2, 0xA7AB)
            (.node (.node (.node .leaf 0x260 0x260 (2, 0x193) .leaf)
                0x261 0x261 (2, 0xA7AC) .leaf)
              0x263 0x263 (2, 0x194)
              (.node (.node .leaf 0x265 0x265 (2, 0xA78D) .leaf)
                0x266 0x266 (2, 0xA7AA) .leaf)))
          0x268 0x268 (2, 0x197)
          (.node (.node (.node (.node .leaf 0x269 0x269 (2, 0x196) .leaf)
                0x26A 0x26A (2, 0xA7AE) .leaf)
              0x26B 0x26B (2, 0x2C62)
              (.node (.node .leaf 0x26C 0x26C (2, 0xA7AD) .leaf)
                0x26F 0x26F (2, 0x19C) .leaf))
            0x271 0x271 (2, 0x2C6E)
            (.node (.node (.node .leaf 0x272 0x272 (2, 0x19D) .leaf)
                0x275 0x275 (2, 0x19F) .leaf)
              0x27D 0x27D (2, 0x2C64)
              (.node (.node .leaf 0x280 0x280 (2, 0x1A6) .leaf)
                0x282 0x282 (2, 0xA7C5) .leaf))))
        0x283 0x283 (2, 0x1A9)
        (.node (.node (.node (.node (.node .leaf 0x287 0x287 (2, 0xA7B1) .leaf)
                0x288 0x288 (2, 0x1AE) .leaf)
              0x289 0x289 (2, 0x244)
              (.node (.node .leaf 0x28A 0x28B (1, 0x1B1) .leaf)
                0x28C 0x28C (2, 0x245) .leaf))
            0x292 0x292 (2, 0x1B7)
            (.node (.node (.node .leaf 0x29D 0x29D (2, 0xA7B2) .leaf)
                0x29E 0x29E (2, 0xA7B0) .leaf)
              0x345 0x345 (2, 0x399)
              (.node (.node .leaf 0x371 0x373 (2, 0x370) .leaf)
                0x377 0x377 (2, 0x376) .leaf)))
          0x37B 0x37D (1, 0x3FD)
          (.node (.node (.node (.node .leaf 0x3AC 0x3AC (2, 0x386) .leaf)
                0x3AD 0x3AF (1, 0x388) .leaf)
              0x3B1 0x3C1 (1, 0x391)
              (.node (.node .leaf 0x3C2 0x3C2 (2, 0x3A3) .leaf)
                0x3C3 0x3CB (1, 0x3A3) .leaf))
            0x3CC 0x3CC (2, 0x38C)
            (.node (.node (.node .leaf 0x3CD 0x3CE (1, 0x38E) .leaf)
                0x3D0 0x3D0 (2, 0x392) .leaf)
              0x3D1 0x3D1 (2, 0x398)
              (.node (.node .leaf 0x3D5 0x3D5 (2, 0x3A6) .leaf)
                0x3D6 0x3D6 (2, 0x3A0) .leaf))))))
    0x3D7 0x3D7 (2, 0x3CF)
    (.node (.node (.node (.node (.node (.node (.node .leaf 0x3D9 0x3EF (2, 0x3D8) .leaf)
                0x3F0 0x3F0 (2, 0x39A)
                (.node .leaf 0x3F1 0x3F1 (2, 0x3A1) .leaf))
              0x3F2 0x3F2 (2, 0x3F9)
              (.node (.node .leaf 0x3F3 0x3F3 (2, 0x37F) .leaf)
                0x3F5 0x3F5 (2, 0x395) .leaf))
            0x3F8 0x3F8 (2, 0x3F7)
            (.node (.node (.node .leaf 0x3FB 0x3FB (2, 0x3FA) .leaf)
                0x430 0x44F (1, 0x410) .leaf)
              0x450 0x45F (1, 0x400)
              (.node (.node .leaf 0x461 0x481 (2, 0x460) .leaf)
                0x48B 0x4BF (2, 0x48A) .leaf)))
          0x4C2 0x4CE (2, 0x4C1)
          (.node (.node (.node (.node .leaf 0x4CF 0x4CF (2, 0x4C0) .leaf)
                0x4D1 0x52F (2, 0x4D0) .leaf)
              0x561 0x586 (1, 0x531)
              (.node (.node .leaf 0x10D0 0x10FA (1, 0x1C90) .leaf)
                0x10FD 0x10FF (1, 0x1CBD) .leaf))
            0x13F8 0x13FD (1, 0x13F0)
            (.node (.node (.node .leaf 0x1C80 0x1C80 (2, 0x412) .leaf)
                0x1C81 0x1C81 (2, 0x414) .leaf)
              0x1C82 0x1C82 (2, 0x41E)
              (.node (.node .leaf 0x1C83 0x1C84 (1, 0x421) .leaf)
                0x1C85 0x1C85 (2, 0x422) .leaf))))
        0x1C86 0x1C86 (2, 0x42A)
        (.node (.node (.node (.node (.node .leaf 0x1C87 0x1C87 (2, 0x462) .leaf)
                0x1C88 0x1C88 (2, 0xA64A) .leaf)
              0x1D79 0x1D79 (2, 0xA77D)
              (.node (.node .leaf 0x1D7D 0x1D7D (2, 0x2C63) .leaf)
                0x1D8E 0x1D8E (2, 0xA7C6) .leaf))
            0x1E01 0x1E95 (2, 0x1E00)
            (.node (.node (.node .leaf 0x1E9B 0x1E9B (2, 0x1E60) .leaf)
                0x1EA1 0x1EFF (2, 0x1EA0) .leaf)
              0x1F00 0x1F07 (1, 0x1F08)
              (.node (.node .leaf 0x1F10 0x1F15 (1, 0x1F18) .leaf)
                0x1F20 0x1F27 (1, 0x1F28) .leaf)))
          0x1F30 0x1F37 (1, 0x1F38)
          (.node (.node (.node (.node .leaf 0x1F40 0x1F45 (1, 0x1F48) .leaf)
                0x1F51 0x1F57 (2, 0x1F59) .leaf)
              0x1F60 0x1F67 (1, 0x1F68)
              (.node (.node .leaf 0x1F70 0x1F71 (1, 0x1FBA) .leaf)
                0x1F72 0x1F75 (1, 0x1FC8) .leaf))
            0x1F76 0x1F77 (1, 0x1FDA)
            (.node (.node (.node .leaf 0x1F78 0x1F79 (1, 0x1FF8) .leaf)
                0x1F7A 0x1F7B (1, 0x1FEA) .leaf)
              0x1F7C 0x1F7D (1, 0x1FFA)
              (.node (.node .leaf 0x1FB0 0x1FB1 (1, 0x1FB8) .leaf)
                0x1FBE 0x1FBE (2, 0x399) .leaf)))))
      0x1FD0 0x1FD1 (1, 0x1FD8)
      (.node (.node (.node (.node (.node (.node .leaf 0x1FE0 0x1FE1 (1, 0x1FE8) .leaf)
                0x1FE5 0x1FE5 (2, 0x1FEC) .leaf)
              0x214E 0x214E (2, 0x2132)
              (.node (.node .leaf 0x2170 0x217F (1, 0x2160) .leaf)
                0x2184 0x2184 (2, 0x2183) .leaf))
            0x24D0 0x24E9 (1, 0x24B6)
            (.node (.node (.node .leaf 0x2C30 0x2C5F (1, 0x2C00) .leaf)
                0x2C61 0x2C61 (2, 0x2C60) .leaf)
              0x2C65 0x2C65 (2, 0x23A)
              (.node (.node .leaf 0x2C66 0x2C66 (2, 0x23E) .leaf)
                0x2C68 0x2C6C (2, 0x2C67) .leaf)))
          0x2C73 0x2C73 (2, 0x2C72)
          (.node (.node (.node (.node .leaf 0x2C76 0x2C76 (2, 0x2C75) .leaf)
                0x2C81 0x2CE3 (2, 0x2C80) .leaf)
              0x2CEC 0x2CEE (2, 0x2CEB)
              (.node (.node .leaf 0x2CF3 0x2CF3 (2, 0x2CF2) .leaf)
                0x2D00 0x2D25 (1, 0x10A0) .leaf))
            0x2D27 0x2D27 (2, 0x10C7)
            (.node (.node (.node .leaf 0x2D2D 0x2D2D (2, 0x10CD) .leaf)
                0xA641 0xA66D (2, 0xA640) .leaf)
              0xA681 0xA69B (2, 0xA680)
              (.node (.node .leaf 0xA723 0xA72F (2, 0xA722) .leaf)
                0xA733 0xA76F (2, 0xA732) .leaf))))
        0xA77A 0xA77C (2, 0xA779)
        (.node (.node (.node (.node (.node .leaf 0xA77F 0xA787 (2, 0xA77E) .leaf)
                0xA78C 0xA78C (2, 0xA78B) .leaf)
              0xA791 0xA793 (2, 0xA790)
              (.node (.node .leaf 0xA794 0xA794 (2, 0xA7C4) .leaf)
                0xA797 0xA7A9 (2, 0xA796) .leaf))
            0xA7B5 0xA7C3 (2, 0xA7B4)
            (.node (.node (.node .leaf 0xA7C8 0xA7CA (2, 0xA7C7) .leaf)
                0xA7D1 0xA7D1 (2, 0xA7D0) .leaf)
              0xA7D7 0xA7D9 (2, 0xA7D6)
              (.node (.node .leaf 0xA7F6 0xA7F6 (2, 0xA7F5) .leaf)
                0xAB53 0xAB53 (2, 0xA7B3) .leaf)))
          0xAB70 0xABBF (1, 0x13A0)
          (.node (.node (.node (.node .leaf 0xFF41 0xFF5A (1, 0xFF21) .leaf)
                0x10428 0x1044F (1, 0x10400) .leaf)
              0x104D8 0x104FB (1, 0x104B0)
              (.node (.node .leaf 0x10597 0x105A1 (1, 0x10570) .leaf)
                0x105A3 0x105B1 (1, 0x1057C) .leaf))
            0x105B3 0x105B9 (1, 0x1058C)
            (.node (.node (.node .leaf 0x105BB 0x105BC (1, 0x10594) .leaf)
                0x10CC0 0x10CF2 (1, 0x10C80) .leaf)
              0x118C0 0x118DF (1, 0x118A0)
              (.node (.node .leaf 0x16E60 0x16E7F (1, 0x16E40) .leaf)
                0x1E922 0x1E943 (1, 0x1E900) .leaf))))))

/-- The characters `str.upper` maps to several characters, with their images. -/
def upperSpecial : List (Nat × List Nat) :=
  [(0xDF, [0x53, 0x53]),
    (0x149, [0x2BC, 0x4E]),
    (0x1F0, [0x4A, 0x30C]),
    (0x390, [0x399, 0x308, 0x301]),
    (0x3B0, [0x3A5, 0x308, 0x301]),
    (0x587, [0x535, 0x552]),
    (0x1E96, [0x48, 0x331]),
    (0x1E97, [0x54, 0x308]),
    (0x1E98, [0x57, 0x30A]),
    (0x1E99, [0x59, 0x30A]),
    (0x1E9A, [0x41, 0x2BE]),
    (0x1F50, [0x3A5, 0x313]),
    (0x1F52, [0x3A5, 0x313, 0x300]),
    (0x1F54, [0x3A5, 0x313, 0x301]),
    (0x1F56, [0x3A5, 0x313, 0x342]),
    (0x1F80, [0x1F08, 0x399]),
    (0x1F81, [0x1F09, 0x399]),
    (0x1F82, [0x1F0A, 0x399]),
    (0x1F83, [0x1F0B, 0x399]),
    (0x1F84, [0x1F0C, 0x399]),
    (0x1F85, [0x1F0D, 0x399]),
    (0x1F86, [0x1F0E, 0x399]),
    (0x1F87, [0x1F0F, 0x399]),
    (0x1F88, [0x1F08, 0x399]),
    (0x1F89, [0x1F09, 0x399]),
    (0x1F8A, [0x1F0A, 0x399]),
    (0x1F8B, [0x1F0B, 0x399]),
    (0x1F8C, [0x1F0C, 0x399]),
    (0x1F8D, [0x1F0D, 0x399]),
    (0x1F8E, [0x1F0E, 0x399]),
    (0x1F8F, [0x1F0F, 0x399]),
    (0x1F90, [0x1F28, 0x399]),
    (0x1F91, [0x1F29, 0x399]),
    (0x1F92, [0x1F2A, 0x399]),
    (0x1F93, [0x1F2B, 0x399]),
    (0x1F94, [0x1F2C, 0x399]),
    (0x1F95, [0x1F2D, 0x399]),
    (0x1F96, [0x1F2E, 0x399]),
    (0x1F97, [0x1F2F, 0x399]),
    (0x1F98, [0x1F28, 0x399]),
    (0x1F99, [0x1F29, 0x399]),
    (0x1F9A, [0x1F2A, 0x399]),
    (0x1F9B, [0x1F2B, 0x399]),
    (0x1F9C, [0x1F2C, 0x399]),
    (0x1F9D, [0x1F2D, 0x399]),
    (0x1F9E, [0x1F2E, 0x399]),
    (0x1F9F, [0x1F2F, 0x399]),
    (0x1FA0, [0x1F68, 0x399]),
    (0x1FA1, [0x1F69, 0x399]),
    (0x1FA2, [0x1F6A, 0x399]),
    (0x1FA3, [0x1F6B, 0x399]),
    (0x1FA4, [0x1F6C, 0x399]),
    (0x1FA5, [0x1F6D, 0x399]),
    (0x1FA6, [0x1F6E, 0x399]),
    (0x1FA7, [0x1F6F, 0x399]),
    (0x1FA8, [0x1F68, 0x399]),
    (0x1FA9, [0x1F69, 0x399]),
    (0x1FAA, [0x1F6A, 0x399]),
    (0x1FAB, [0x1F6B, 0x399]),
    (0x1FAC, [0x1F6C, 0x399]),
    (0x1FAD, [0x1F6D, 0x399]),
    (0x1FAE, [0x1F6E, 0x399]),
    (0x1FAF, [0x1F6F, 0x399]),
    (0x1FB2, [0x1FBA, 0x399]),
    (0x1FB3, [0x391, 0x399]),
    (0x1FB4, [0x386, 0x399]),
    (0x1FB6, [0x391, 0x342]),
    (0x1FB7, [0x391, 0x342, 0x399]),
    (0x1FBC, [0x391, 0x399]),
    (0x1FC2, [0x1FCA, 0x399]),
    (0x1FC3, [0x397, 0x399]),
    (0x1FC4, [0x389, 0x399]),
    (0x1FC6, [0x397, 0x342]),
    (0x1FC7, [0x397, 0x342, 0x399]),
    (0x1FCC, [0x397, 0x399]),
    (0x1FD2, [0x399, 0x308, 0x300]),
    (0x1FD3, [0x399, 0x308, 0x301]),
    (0x1FD6, [0x399, 0x342]),
    (0x1FD7, [0x399, 0x308, 0x342]),
    (0x1FE2, [0x3A5, 0x308, 0x300]),
    (0x1FE3, [0x3A5, 0x308, 0x301]),
    (0x1FE4, [0x3A1, 0x313]),
    (0x1FE6, [0x3A5, 0x342]),
    (0x1FE7, [0x3A5, 0x308, 0x342]),
    (0x1FF2, [0x1FFA, 0x399]),
    (0x1FF3, [0x3A9, 0x399]),
    (0x1FF4, [0x38F, 0x399]),
    (0x1FF6, [0x3A9, 0x342]),
    (0x1FF7, [0x3A9, 0x342, 0x399]),
    (0x1FFC, [0x3A9, 0x399]),
    (0xFB00, [0x46, 0x46]),
    (0xFB01, [0x46, 0x49]),
    (0xFB02, [0x46, 0x4C]),
    (0xFB03, [0x46, 0x46, 0x49]),
    (0xFB04, [0x46, 0x46, 0x4C]),
    (0xFB05, [0x53, 0x54]),
    (0xFB06, [0x53, 0x54]),
    (0xFB13, [0x544, 0x546]),
    (0xFB14, [0x544, 0x535]),
    (0xFB15, [0x544, 0x53B]),
    (0xFB16, [0x54E, 0x546]),
    (0xFB17, [0x544, 0x53D])]

/-! The parts of `caseIgnorableTree`, in order. -/

def caseIgnorableTree₁ : RangeTree Unit :=
  .node (.node (.node (.node (.node (.node (.node .leaf 0x27 0x27 () .leaf)
              0x2E 0x2E ()
              (.node .leaf 0x3A 0x3A () .leaf))
            0x5E 0x5E ()
            (.node (.node .leaf 0x60 0x60 () .leaf)
              0xA8 0xA8 () .leaf))
          0xAD 0xAD ()
          (.node (.node (.node .leaf 0xAF 0xAF () .leaf)
              0xB4 0xB4 ()
              (.node .leaf 0xB7 0xB8 () .leaf))
            0x2B0 0x36F ()
            (.node (.node .leaf 0x374 0x375 () .leaf)
              0x37A 0x37A () .leaf)))
        0x384 0x385 ()
        (.node (.node (.node (.node .leaf 0x387 0x387 () .leaf)
              0x483 0x489 ()
              (.node .leaf 0x559 0x559 () .leaf))
            0x55F 0x55F ()
            (.node (.node .leaf 0x591 0x5BD () .leaf)
              0x5BF 0x5BF () .leaf))
          0x5C1 0x5C2 ()
          (.node (.node (.node .leaf 0x5C4 0x5C5 () .leaf)
              0x5C7 0x5C7 () .leaf)
            0x5F4 0x5F4 ()
            (.node (.node .leaf 0x600 0x605 () .leaf)
              0x610 0x61A () .leaf))))
      0x61C 0x61C ()
      (.node (.node (.node (.node (.node .leaf 0x640 0x640 () .leaf)
              0x64B 0x65F ()
              (.node .leaf 0x670 0x670 () .leaf))
            0x6D6 0x6DD ()
            (.node (.node .leaf 0x6DF 0x6E8 () .leaf)
              0x6EA 0x6ED () .leaf))
          0x70F 0x70F ()
          (.node (.node (.node .leaf 0x711 0x711 () .leaf)
              0x730 0x74A ()
              (.node .leaf 0x7A6 0x7B0 () .leaf))
            0x7EB 0x7F5 ()
            (.node (.node .leaf 0x7FA 0x7FA () .leaf)
              0x7FD 0x7FD () .leaf)))
        0x816 0x82D ()
        (.node (.node (.node (.node .leaf 0x859 0x85B () .leaf)
              0x888 0x888 ()
              (.node .leaf 0x890 0x891 () .leaf))
            0x898 0x89F ()
            (.node (.node .leaf 0x8C9 0x902 () .leaf)
              0x93A 0x93A () .leaf))
          0x93C 0x93C ()
          (.node (.node (.node .leaf 0x941 0x948 () .leaf)
              0x94D 0x94D () .leaf)
            0x951 0x957 ()
            (.node (.node .leaf 0x962 0x963 () .leaf)
              0x971 0x971 () .leaf)))))
    0x981 0x981 ()
    (.node (.node (.node (.node (.node (.node .leaf 0x9BC 0x9BC () .leaf)
              0x9C1 0x9C4 ()
              (.node .leaf 0x9CD 0x9CD () .leaf))
            0x9E2 0x9E3 ()
            (.node (.node .leaf 0x9FE 0x9FE () .leaf)
              0xA01 0xA02 () .leaf))
          0xA3C 0xA3C ()
          (.node (.node (.node .leaf 0xA41 0xA42 () .leaf)
              0xA47 0xA48 ()
              (.node .leaf 0xA4B 0xA4D () .leaf))
            0xA51 0xA51 ()
            (.node (.node .leaf 0xA70 0xA71 () .leaf)
              0xA75 0xA75 () .leaf)))
        0xA81 0xA82 ()
        (.node (.node (.node (.node .leaf 0xABC 0xABC () .leaf)
              0xAC1 0xAC5 ()
              (.node .leaf 0xAC7 0xAC8 () .leaf))
            0xACD 0xACD ()
            (.node (.node .leaf 0xAE2 0xAE3 () .leaf)
              0xAFA 0xAFF () .leaf))
          0xB01 0xB01 ()
          (.node (.node (.node .leaf 0xB3C 0xB3C () .leaf)
              0xB3F 0xB3F () .leaf)
            0xB41 0xB44 ()
            (.node (.node .leaf 0xB4D 0xB4D () .leaf)
              0xB55 0xB56 () .leaf))))
      0xB62 0xB63 ()
      (.node (.node (.node (.node (.node .leaf 0xB82 0xB82 () .leaf)
              0xBC0 0xBC0 ()
              (.node .leaf 0xBCD 0xBCD () .leaf))
            0xC00 0xC00 ()
            (.node (.node .leaf 0xC04 0xC04 () .leaf)
              0xC3C 0xC3C () .leaf))
          0xC3E 0xC40 ()
          (.node (.node (.node .leaf 0xC46 0xC48 () .leaf)
              0xC4A 0xC4D () .leaf)
            0xC55 0xC56 ()
            (.node (.node .leaf 0xC62 0xC63 () .leaf)
              0xC81 0xC81 () .leaf)))
        0xCBC 0xCBC ()
        (.node (.node (.node (.node .leaf 0xCBF 0xCBF () .leaf)
              0xCC6 0xCC6 ()
              (.node .leaf 0xCCC 0xCCD () .leaf))
            0xCE2 0xCE3 ()
            (.node (.node .leaf 0xD00 0xD01 () .leaf)
              0xD3B 0xD3C () .leaf))
          0xD41 0xD44 ()
          (.node (.node (.node .leaf 0xD4D 0xD4D () .leaf)
              0xD62 0xD63 () .leaf)
            0xD81 0xD81 ()
            (.node (.node .leaf 0xDCA 0xDCA () .leaf)
              0xDD2 0xDD4 () .leaf)))))

def caseIgnorableTree₂ : RangeTree Unit :=
  .node (.node (.node (.node (.node (.node (.node .leaf 0xE31 0xE31 () .leaf)
              0xE34 0xE3A ()
              (.node .leaf 0xE46 0xE4E () .leaf))
            0xEB1 0xEB1 ()
            (.node (.node .leaf 0xEB4 0xEBC () .leaf)
              0xEC6 0xEC6 () .leaf))
          0xEC8 0xECD ()
          (.node (.node (.node .leaf 0xF18 0xF19 () .leaf)
              0xF35 0xF35 ()
              (.node .leaf 0xF37 0xF37 () .leaf))
            0xF39 0xF39 ()
            (.node (.node .leaf 0xF71 0xF7E () .leaf)
              0xF80 0xF84 () .leaf)))
        0xF86 0xF87 ()
        (.node (.node (.node (.node .leaf 0xF8D 0xF97 () .leaf)
              0xF99 0xFBC ()
              (.node .leaf 0xFC6 0xFC6 () .leaf))
            0x102D 0x1030 ()
            (.node (.node .leaf 0x1032 0x1037 () .leaf)
              0x1039 0x103A () .leaf))
          0x103D 0x103E ()
          (.node (.node (.node .leaf 0x1058 0x1059 () .leaf)
              0x105E 0x1060 () .leaf)
            0x1071 0x1074 ()
            (.node (.node .leaf 0x1082 0x1082 () .leaf)
              0x1085 0x1086 () .leaf))))
      0x108D 0x108D ()
      (.node (.node (.node (.node (.node .leaf 0x109D 0x109D () .leaf)
              0x10FC 0x10FC ()
              (.node .leaf 0x135D 0x135F () .leaf))
            0x1712 0x1714 ()
            (.node (.node .leaf 0x1732 0x1733 () .leaf)
              0x1752 0x1753 () .leaf))
          0x1772 0x1773 ()
          (.node (.node (.node .leaf 0x17B4 0x17B5 () .leaf)
              0x17B7 0x17BD ()
              (.node .leaf 0x17C6 0x17C6 () .leaf))
            0x17C9 0x17D3 ()
            (.node (.node .leaf 0x17D7 0x17D7 () .leaf)
              0x17DD 0x17DD () .leaf)))
        0x180B 0x180F ()
        (.node (.node (.node (.node .leaf 0x1843 0x1843 () .leaf)
              0x1885 0x1886 ()
              (.node .leaf 0x18A9 0x18A9 () .leaf))
            0x1920 0x1922 ()
            (.node (.node .leaf 0x1927 0x1928 () .leaf)
              0x1932 0x1932 () .leaf))
          0x1939 0x193B ()
          (.node (.node (.node .leaf 0x1A17 0x1A18 () .leaf)
              0x1A1B 0x1A1B () .leaf)
            0x1A56 0x1A56 ()
            (.node (.node .leaf 0x1A58 0x1A5E () .leaf)
              0x1A60 0x1A60 () .leaf)))))
    0x1A62 0x1A62 ()
    (.node (.node (.node (.node (.node (.node .leaf 0x1A65 0x1A6C () .leaf)
              0x1A73 0x1A7C ()
              (.node .leaf 0x1A7F 0x1A7F () .leaf))
            0x1AA7 0x1AA7 ()
            (.node (.node .leaf 0x1AB0 0x1ACE () .leaf)
              0x1B00 0x1B03 () .leaf))
          0x1B34 0x1B34 ()
          (.node (.node (.node .leaf 0x1B36 0x1B3A () .leaf)
              0x1B3C 0x1B3C ()
              (.node .leaf 0x1B42 0x1B42 () .leaf))
            0x1B6B 0x1B73 ()
            (.node (.node .leaf 0x1B80 0x1B81 () .leaf)
              0x1BA2 0x1BA5 () .leaf)))
        0x1BA8 0x1BA9 ()
        (.node (.node (.node (.node .leaf 0x1BAB 0x1BAD () .leaf)
              0x1BE6 0x1BE6 ()
              (.node .leaf 0x1BE8 0x1BE9 () .leaf))
            0x1BED 0x1BED ()
            (.node (.node .leaf 0x1BEF 0x1BF1 () .leaf)
              0x1C2C 0x1C33 () .leaf))
          0x1C36 0x1C37 ()
          (.node (.node (.node .leaf 0x1C78 0x1C7D () .leaf)
              0x1CD0 0x1CD2 () .leaf)
            0x1CD4 0x1CE0 ()
            (.node (.node .leaf 0x1CE2 0x1CE8 () .leaf)
              0x1CED 0x1CED () .leaf))))
      0x1CF4 0x1CF4 ()
      (.node (.node (.node (.node (.node .leaf 0x1CF8 0x1CF9 () .leaf)
              0x1D2C 0x1D6A ()
              (.node .leaf 0x1D78 0x1D78 () .leaf))
            0x1D9B 0x1DFF ()
            (.node (.node .leaf 0x1FBD 0x1FBD () .leaf)
              0x1FBF 0x1FC1 () .leaf))
          0x1FCD 0x1FCF ()
          (.node (.node (.node .leaf 0x1FDD 0x1FDF () .leaf)
              0x1FED 0x1FEF () .leaf)
            0x1FFD 0x1FFE ()
            (.node (.node .leaf 0x200B 0x200F () .leaf)
              0x2018 0x2019 () .leaf)))
        0x2024 0x2024 ()
        (.node (.node (.node (.node .leaf 0x2027 0x2027 () .leaf)
              0x202A 0x202E ()
              (.node .leaf 0x2060 0x2064 () .leaf))
            0x2066 0x206F ()
            (.node (.node .leaf 0x2071 0x2071 () .leaf)
              0x207F 0x207F () .leaf))
          0x2090 0x209C ()
          (.node (.node (.node .leaf 0x20D0 0x20F0 () .leaf)
              0x2C7C 0x2C7D () .leaf)
            0x2CEF 0x2CF1 ()
            (.node (.node .leaf 0x2D6F 0x2D6F () .leaf)
              0x2D7F 0x2D7F () .leaf)))))

def caseIgnorableTree₃ : RangeTree Unit :=
  .node (.node (.node (.node (.node (.node (.node .leaf 0x2E2F 0x2E2F () .leaf)
              0x3005 0x3005 ()
              (.node .leaf 0x302A 0x302D () .leaf))
            0x3031 0x3035 ()
            (.node (.node .leaf 0x303B 0x303B () .leaf)
              0x3099 0x309E () .leaf))
          0x30FC 0x30FE ()
          (.node (.node (.node .leaf 0xA015 0xA015 () .leaf)
              0xA4F8 0xA4FD ()
              (.node .leaf 0xA60C 0xA60C () .leaf))
            0xA66F 0xA672 ()
            (.node (.node .leaf 0xA674 0xA67D () .leaf)
              0xA67F 0xA67F () .leaf)))
        0xA69C 0xA69F ()
        (.node (.node (.node (.node .leaf 0xA6F0 0xA6F1 () .leaf)
              0xA700 0xA721 ()
              (.node .leaf 0xA770 0xA770 () .leaf))
            0xA788 0xA78A ()
            (.node (.node .leaf 0xA7F2 0xA7F4 () .leaf)
              0xA7F8 0xA7F9 () .leaf))
          0xA802 0xA802 ()
          (.node (.node (.node .leaf 0xA806 0xA806 () .leaf)
              0xA80B 0xA80B () .leaf)
            0xA825 0xA826 ()
            (.node (.node .leaf 0xA82C 0xA82C () .leaf)
              0xA8C4 0xA8C5 () .leaf))))
      0xA8E0 0xA8F1 ()
      (.node (.node (.node (.node (.node .leaf 0xA8FF 0xA8FF () .leaf)
              0xA926 0xA92D ()
              (.node .leaf 0xA947 0xA951 () .leaf))
            0xA980 0xA982 ()
            (.node (.node .leaf 0xA9B3 0xA9B3 () .leaf)
              0xA9B6 0xA9B9 () .leaf))
          0xA9BC 0xA9BD ()
          (.node (.node (.node .leaf 0xA9CF 0xA9CF () .leaf)
              0xA9E5 0xA9E6 ()
              (.node .leaf 0xAA29 0xAA2E () .leaf))
            0xAA31 0xAA32 ()
            (.node (.node .leaf 0xAA35 0xAA36 () .leaf)
              0xAA43 0xAA43 () .leaf)))
        0xAA4C 0xAA4C ()
        (.node (.node (.node (.node .leaf 0xAA70 0xAA70 () .leaf)
              0xAA7C 0xAA7C ()
              (.node .leaf 0xAAB0 0xAAB0 () .leaf))
            0xAAB2 0xAAB4 ()
            (.node (.node .leaf 0xAAB7 0xAAB8 () .leaf)
              0xAABE 0xAABF () .leaf))
          0xAAC1 0xAAC1 ()
          (.node (.node (.node .leaf 0xAADD 0xAADD () .leaf)
              0xAAEC 0xAAED () .leaf)
            0xAAF3 0xAAF4 ()
            (.node (.node .leaf 0xAAF6 0xAAF6 () .leaf)
              0xAB5B 0xAB5F () .leaf)))))
    0xAB69 0xAB6B ()
    (.node (.node (.node (.node (.node (.node .leaf 0xABE5 0xABE5 () .leaf)
              0xABE8 0xABE8 ()
              (.node .leaf 0xABED 0xABED () .leaf))
            0xFB1E 0xFB1E ()
            (.node (.node .leaf 0xFBB2 0xFBC2 () .leaf)
              0xFE00 0xFE0F () .leaf))
          0xFE13 0xFE13 ()
          (.node (.node (.node .leaf 0xFE20 0xFE2F () .leaf)
              0xFE52 0xFE52 ()
              (.node .leaf 0xFE55 0xFE55 () .leaf))
            0xFEFF 0xFEFF ()
            (.node (.node .leaf 0xFF07 0xFF07 () .leaf)
              0xFF0E 0xFF0E () .leaf)))
        0xFF1A 0xFF1A ()
        (.node (.node (.node (.node .leaf 0xFF3E 0xFF3E () .leaf)
              0xFF40 0xFF40 ()
              (.node .leaf 0xFF70 0xFF70 () .leaf))
            0xFF9E 0xFF9F ()
            (.node (.node .leaf 0xFFE3 0xFFE3 () .leaf)
              0xFFF9 0xFFFB () .leaf))
          0x101FD 0x101FD ()
          (.node (.node (.node .leaf 0x102E0 0x102E0 () .leaf)
              0x10376 0x1037A () .leaf)
            0x10780 0x10785 ()
            (.node (.node .leaf 0x10787 0x107B0 () .leaf)
              0x107B2 0x107BA () .leaf))))
      0x10A01 0x10A03 ()
      (.node (.node (.node (.node (.node .leaf 0x10A05 0x10A06 () .leaf)
              0x10A0C 0x10A0F ()
              (.node .leaf 0x10A38 0x10A3A () .leaf))
            0x10A3F 0x10A3F ()
            (.node (.node .leaf 0x10AE5 0x10AE6 () .leaf)
              0x10D24 0x10D27 () .leaf))
          0x10EAB 0x10EAC ()
          (.node (.node (.node .leaf 0x10F46 0x10F50 () .leaf)
              0x10F82 0x10F85 () .leaf)
            0x11001 0x11001 ()
            (.node (.node .leaf 0x11038 0x11046 () .leaf)
              0x11070 0x11070 () .leaf)))
        0x11073 0x11074 ()
        (.node (.node (.node (.node .leaf 0x1107F 0x11081 () .leaf)
              0x110B3 0x110B6 ()
              (.node .leaf 0x110B9 0x110BA () .leaf))
            0x110BD 0x110BD ()
            (.node (.node .leaf 0x110C2 0x110C2 () .leaf)
              0x110CD 0x110CD () .leaf))
          0x11100 0x11102 ()
          (.node (.node (.node .leaf 0x11127 0x1112B () .leaf)
              0x1112D 0x11134 () .leaf)
            0x11173 0x11173 ()
            (.node (.node .leaf 0x11180 0x11181 () .leaf)
              0x111B6 0x111BE () .leaf)))))

def caseIgnorableTree₄ : RangeTree Unit :=
  .node (.node (.node (.node (.node (.node (.node .leaf 0x111CF 0x111CF () .leaf)
              0x1122F 0x11231 ()
              (.node .leaf 0x11234 0x11234 () .leaf))
            0x11236 0x11237 ()
            (.node (.node .leaf 0x1123E 0x1123E () .leaf)
              0x112DF 0x112DF () .leaf))
          0x112E3 0x112EA ()
          (.node (.node (.node .leaf 0x11300 0x11301 () .leaf)
              0x1133B 0x1133C ()
              (.node .leaf 0x11340 0x11340 () .leaf))
            0x11366 0x1136C ()
            (.node (.node .leaf 0x11370 0x11374 () .leaf)
              0x11438 0x1143F () .leaf)))
        0x11442 0x11444 ()
        (.node (.node (.node (.node .leaf 0x11446 0x11446 () .leaf)
              0x1145E 0x1145E ()
              (.node .leaf 0x114B3 0x114B8 () .leaf))
            0x114BA 0x114BA ()
            (.node (.node .leaf 0x114BF 0x114C0 () .leaf)
              0x114C2 0x114C3 () .leaf))
          0x115B2 0x115B5 ()
          (.node (.node (.node .leaf 0x115BC 0x115BD () .leaf)
              0x115BF 0x115C0 () .leaf)
            0x115DC 0x115DD ()
            (.node (.node .leaf 0x11633 0x1163A () .leaf)
              0x1163D 0x1163D () .leaf))))
      0x1163F 0x11640 ()
      (.node (.node (.node (.node (.node .leaf 0x116AB 0x116AB () .leaf)
              0x116AD 0x116AD ()
              (.node .leaf 0x116B0 0x116B5 () .leaf))
            0x116B7 0x116B7 ()
            (.node (.node .leaf 0x1171D 0x1171F () .leaf)
              0x11722 0x11725 () .leaf))
          0x11727 0x1172B ()
          (.node (.node (.node .leaf 0x1182F 0x11837 () .leaf)
              0x11839 0x1183A ()
              (.node .leaf 0x1193B 0x1193C () .leaf))
            0x1193E 0x1193E ()
            (.node (.node .leaf 0x11943 0x11943 () .leaf)
              0x119D4 0x119D7 () .leaf)))
        0x119DA 0x119DB ()
        (.node (.node (.node (.node .leaf 0x119E0 0x119E0 () .leaf)
              0x11A01 0x11A0A ()
              (.node .leaf 0x11A33 0x11A38 () .leaf))
            0x11A3B 0x11A3E ()
            (.node (.node .leaf 0x11A47 0x11A47 () .leaf)
              0x11A51 0x11A56 () .leaf))
          0x11A59 0x11A5B ()
          (.node (.node (.node .leaf 0x11A8A 0x11A96 () .leaf)
              0x11A98 0x11A99 () .leaf)
            0x11C30 0x11C36 ()
            (.node (.node .leaf 0x11C38 0x11C3D () .leaf)
              0x11C3F 0x11C3F () .leaf)))))
    0x11C92 0x11CA7 ()
    (.node (.node (.node (.node (.node (.node .leaf 0x11CAA 0x11CB0 () .leaf)
              0x11CB2 0x11CB3 ()
              (.node .leaf 0x11CB5 0x11CB6 () .leaf))
            0x11D31 0x11D36 ()
            (.node (.node .leaf 0x11D3A 0x11D3A () .leaf)
              0x11D3C 0x11D3D () .leaf))
          0x11D3F 0x11D45 ()
          (.node (.node (.node .leaf 0x11D47 0x11D47 () .leaf)
              0x11D90 0x11D91 ()
              (.node .leaf 0x11D95 0x11D95 () .leaf))
            0x11D97 0x11D97 ()
            (.node (.node .leaf 0x11EF3 0x11EF4 () .leaf)
              0x13430 0x13438 () .leaf)))
        0x16AF0 0x16AF4 ()
        (.node (.node (.node (.node .leaf 0x16B30 0x16B36 () .leaf)
              0x16B40 0x16B43 ()
              (.node .leaf 0x16F4F 0x16F4F () .leaf))
            0x16F8F 0x16F9F ()
            (.node (.node .leaf 0x16FE0 0x16FE1 () .leaf)
              0x16FE3 0x16FE4 () .leaf))
          0x1AFF0 0x1AFF3 ()
          (.node (.node (.node .leaf 0x1AFF5 0x1AFFB () .leaf)
              0x1AFFD 0x1AFFE () .leaf)
            0x1BC9D 0x1BC9E ()
            (.node (.node .leaf 0x1BCA0 0x1BCA3 () .leaf)
              0x1CF00 0x1CF2D () .leaf))))
      0x1CF30 0x1CF46 ()
      (.node (.node (.node (.node (.node .leaf 0x1D167 0x1D169 () .leaf)
              0x1D173 0x1D182 ()
              (.node .leaf 0x1D185 0x1D18B () .leaf))
            0x1D1AA 0x1D1AD ()
            (.node (.node .leaf 0x1D242 0x1D244 () .leaf)
              0x1DA00 0x1DA36 () .leaf))
          0x1DA3B 0x1DA6C ()
          (.node (.node (.node .leaf 0x1DA75 0x1DA75 () .leaf)
              0x1DA84 0x1DA84 () .leaf)
            0x1DA9B 0x1DA9F ()
            (.node (.node .leaf 0x1DAA1 0x1DAAF () .leaf)
              0x1E000 0x1E006 () .leaf)))
        0x1E008 0x1E018 ()
        (.node (.node (.node (.node .leaf 0x1E01B 0x1E021 () .leaf)
              0x1E023 0x1E024 ()
              (.node .leaf 0x1E026 0x1E02A () .leaf))
            0x1E130 0x1E13D ()
            (.node (.node .leaf 0x1E2AE 0x1E2AE () .leaf)
              0x1E2EC 0x1E2EF () .leaf))
          0x1E8D0 0x1E8D6 ()
          (.node (.node (.node .leaf 0x1E944 0x1E94B () .leaf)
              0x1F3FB 0x1F3FF () .leaf)
            0xE0001 0xE0001 ()
            (.node (.node .leaf 0xE0020 0xE007F () .leaf)
              0xE0100 0xE01EF () .leaf)))))

/-- The case-ignorable characters, which the final-sigma rule of `str.lower` looks past. -/
def caseIgnorableTree : RangeTree Unit :=
  .node (.node caseIgnorableTree₁
      0xDD6 0xDD6 ()
      caseIgnorableTree₂)
    0x2DE0 0x2DFF ()
    (.node caseIgnorableTree₃
      0x111C9 0x111CC ()
      caseIgnorableTree₄)

/-- The cased characters that are not case-ignorable: the letters the final-sigma rule looks for. -/
def casedTree : RangeTree Unit :=
  .node (.node (.node (.node (.node (.node (.node (.node .leaf 0x41 0x5A () .leaf)
                0x61 0x7A () .leaf)
              0xAA 0xAA ()
              (.node .leaf 0xB5 0xB5 () .leaf))
            0xBA 0xBA ()
            (.node (.node (.node .leaf 0xC0 0xD6 () .leaf)
                0xD8 0xF6 () .leaf)
              0xF8 0x1BA ()
              (.node .leaf 0x1BC 0x1BF () .leaf)))
          0x1C4 0x293 ()
          (.node (.node (.node (.node .leaf 0x295 0x2AF () .leaf)
                0x370 0x373 () .leaf)
              0x376 0x377 ()
              (.node .leaf 0x37B 0x37D () .leaf))
            0x37F 0x37F ()
            (.node (.node .leaf 0x386 0x386 () .leaf)
              0x388 0x38A ()
              (.node .leaf 0x38C 0x38C () .leaf))))
        0x38E 0x3A1 ()
        (.node (.node (.node (.node (.node .leaf 0x3A3 0x3F5 () .leaf)
                0x3F7 0x481 () .leaf)
              0x48A 0x52F ()
              (.node .leaf 0x531 0x556 () .leaf))
            0x560 0x588 ()
            (.node (.node (.node .leaf 0x10A0 0x10C5 () .leaf)
                0x10C7 0x10C7 () .leaf)
              0x10CD 0x10CD ()
              (.node .leaf 0x10D0 0x10FA () .leaf)))
          0x10FD 0x10FF ()
          (.node (.node (.node (.node .leaf 0x13A0 0x13F5 () .leaf)
                0x13F8 0x13FD () .leaf)
              0x1C80 0x1C88 ()
              (.node .leaf 0x1C90 0x1CBA () .leaf))
            0x1CBD 0x1CBF ()
            (.node (.node .leaf 0x1D00 0x1D2B () .leaf)
              0x1D6B 0x1D77 ()
              (.node .leaf 0x1D79 0x1D9A () .leaf)))))
      0x1E00 0x1F15 ()
      (.node (.node (.node (.node (.node (.node .leaf 0x1F18 0x1F1D () .leaf)
                0x1F20 0x1F45 () .leaf)
              0x1F48 0x1F4D ()
              (.node .leaf 0x1F50 0x1F57 () .leaf))
            0x1F59 0x1F59 ()
            (.node (.node (.node .leaf 0x1F5B 0x1F5B () .leaf)
                0x1F5D 0x1F5D () .leaf)
              0x1F5F 0x1F7D ()
              (.node .leaf 0x1F80 0x1FB4 () .leaf)))
          0x1FB6 0x1FBC ()
          (.node (.node (.node (.node .leaf 0x1FBE 0x1FBE () .leaf)
                0x1FC2 0x1FC4 () .leaf)
              0x1FC6 0x1FCC ()
              (.node .leaf 0x1FD0 0x1FD3 () .leaf))
            0x1FD6 0x1FDB ()
            (.node (.node .leaf 0x1FE0 0x1FEC () .leaf)
              0x1FF2 0x1FF4 ()
              (.node .leaf 0x1FF6 0x1FFC () .leaf))))
        0x2102 0x2102 ()
        (.node (.node (.node (.node (.node .leaf 0x2107 0x2107 () .leaf)
                0x210A 0x2113 () .leaf)
              0x2115 0x2115 ()
              (.node .leaf 0x2119 0x211D () .leaf))
            0x2124 0x2124 ()
            (.node (.node .leaf 0x2126 0x2126 () .leaf)
              0x2128 0x2128 ()
              (.node .leaf 0x212A 0x212D () .leaf)))
          0x212F 0x2134 ()
          (.node (.node (.node (.node .leaf 0x2139 0x2139 () .leaf)
                0x213C 0x213F () .leaf)
              0x2145 0x2149 ()
              (.node .leaf 0x214E 0x214E () .leaf))
            0x2160 0x217F ()
            (.node (.node .leaf 0x2183 0x2184 () .leaf)
              0x24B6 0x24E9 ()
              (.node .leaf 0x2C00 0x2C7B () .leaf))))))
    0x2C7E 0x2CE4 ()
    (.node (.node (.node (.node (.node (.node (.node .leaf 0x2CEB 0x2CEE () .leaf)
                0x2CF2 0x2CF3 () .leaf)
              0x2D00 0x2D25 ()
              (.node .leaf 0x2D27 0x2D27 () .leaf))
            0x2D2D 0x2D2D ()
            (.node (.node (.node .leaf 0xA640 0xA66D () .leaf)
                0xA680 0xA69B () .leaf)
              0xA722 0xA76F ()
              (.node .leaf 0xA771 0xA787 () .leaf)))
          0xA78B 0xA78E ()
          (.node (.node (.node (.node .leaf 0xA790 0xA7CA () .leaf)
                0xA7D0 0xA7D1 () .leaf)
              0xA7D3 0xA7D3 ()
              (.node .leaf 0xA7D5 0xA7D9 () .leaf))
            0xA7F5 0xA7F6 ()
            (.node (.node .leaf 0xA7FA 0xA7FA () .leaf)
              0xAB30 0xAB5A ()
              (.node .leaf 0xAB60 0xAB68 () .leaf))))
        0xAB70 0xABBF ()
        (.node (.node (.node (.node (.node .leaf 0xFB00 0xFB06 () .leaf)
                0xFB13 0xFB17 () .leaf)
              0xFF21 0xFF3A ()
              (.node .leaf 0xFF41 0xFF5A () .leaf))
            0x10400 0x1044F ()
            (.node (.node (.node .leaf 0x104B0 0x104D3 () .leaf)
                0x104D8 0x104FB () .leaf)
              0x10570 0x1057A ()
              (.node .leaf 0x1057C 0x1058A () .leaf)))
          0x1058C 0x10592 ()
          (.node (.node (.node (.node .leaf 0x10594 0x10595 () .leaf)
                0x10597 0x105A1 () .leaf)
              0x105A3 0x105B1 ()
              (.node .leaf 0x105B3 0x105B9 () .leaf))
            0x105BB 0x105BC ()
            (.node (.node .leaf 0x10C80 0x10CB2 () .leaf)
              0x10CC0 0x10CF2 ()
              (.node .leaf 0x118A0 0x118DF () .leaf)))))
      0x16E40 0x16E7F ()
      (.node (.node (.node (.node (.node (.node .leaf 0x1D400 0x1D454 () .leaf)
                0x1D456 0x1D49C () .leaf)
              0x1D49E 0x1D49F ()
              (.node .leaf 0x1D4A2 0x1D4A2 () .leaf))
            0x1D4A5 0x1D4A6 ()
            (.node (.node (.node .leaf 0x1D4A9 0x1D4AC () .leaf)
                0x1D4AE 0x1D4B9 () .leaf)
              0x1D4BB 0x1D4BB ()
              (.node .leaf 0x1D4BD 0x1D4C3 () .leaf)))
          0x1D4C5 0x1D505 ()
          (.node (.node (.node (.node .leaf 0x1D507 0x1D50A () .leaf)
                0x1D50D 0x1D514 () .leaf)
              0x1D516 0x1D51C ()
              (.node .leaf 0x1D51E 0x1D539 () .leaf))
            0x1D53B 0x1D53E ()
            (.node (.node .leaf 0x1D540 0x1D544 () .leaf)
              0x1D546 0x1D546 ()
              (.node .leaf 0x1D54A 0x1D550 () .leaf))))
        0x1D552 0x1D6A5 ()
        (.node (.node (.node (.node (.node .leaf 0x1D6A8 0x1D6C0 () .leaf)
                0x1D6C2 0x1D6DA () .leaf)
              0x1D6DC 0x1D6FA ()
              (.node .leaf 0x1D6FC 0x1D714 () .leaf))
            0x1D716 0x1D734 ()
            (.node (.node .leaf 0x1D736 0x1D74E () .leaf)
              0x1D750 0x1D76E ()
              (.node .leaf 0x1D770 0x1D788 () .leaf)))
          0x1D78A 0x1D7A8 ()
          (.node (.node (.node (.node .leaf 0x1D7AA 0x1D7C2 () .leaf)
                0x1D7C4 0x1D7CB () .leaf)
              0x1DF00 0x1DF09 ()
              (.node .leaf 0x1DF0B 0x1DF1E () .leaf))
            0x1E900 0x1E943 ()
            (.node (.node .leaf 0x1F130 0x1F149 () .leaf)
              0x1F150 0x1F169 ()
              (.node .leaf 0x1F170 0x1F189 () .leaf))))))

/-! The parts of `wordTree`, in order. -/

def wordTree₁ : RangeTree Unit :=
  .node (.node (.node (.node (.node (.node (.node .leaf 0x30 0x39 () .leaf)
              0x41 0x5A () .leaf)
            0x5F 0x5F ()
            (.node (.node .leaf 0x61 0x7A () .leaf)
              0xAA 0xAA () .leaf))
          0xB2 0xB3 ()
          (.node (.node (.node .leaf 0xB5 0xB5 () .leaf)
              0xB9 0xBA () .leaf)
            0xBC 0xBE ()
            (.node (.node .leaf 0xC0 0xD6 () .leaf)
              0xD8 0xF6 () .leaf)))
        0xF8 0x2C1 ()
        (.node (.node (.node (.node .leaf 0x2C6 0x2D1 () .leaf)
              0x2E0 0x2E4 () .leaf)
            0x2EC 0x2EC ()
            (.node (.node .leaf 0x2EE 0x2EE () .leaf)
              0x370 0x374 () .leaf))
          0x376 0x377 ()
          (.node (.node (.node .leaf 0x37A 0x37D () .leaf)
              0x37F 0x37F () .leaf)
            0x386 0x386 ()
            (.node .leaf 0x388 0x38A () .leaf))))
      0x38C 0x38C ()
      (.node (.node (.node (.node (.node .leaf 0x38E 0x3A1 () .leaf)
              0x3A3 0x3F5 () .leaf)
            0x3F7 0x481 ()
            (.node (.node .leaf 0x48A 0x52F () .leaf)
              0x531 0x556 () .leaf))
          0x559 0x559 ()
          (.node (.node (.node .leaf 0x560 0x588 () .leaf)
              0x5D0 0x5EA () .leaf)
            0x5EF 0x5F2 ()
            (.node (.node .leaf 0x620 0x64A () .leaf)
              0x660 0x669 () .leaf)))
        0x66E 0x66F ()
        (.node (.node (.node (.node .leaf 0x671 0x6D3 () .leaf)
              0x6D5 0x6D5 () .leaf)
            0x6E5 0x6E6 ()
            (.node (.node .leaf 0x6EE 0x6FC () .leaf)
              0x6FF 0x6FF () .leaf))
          0x710 0x710 ()
          (.node (.node (.node .leaf 0x712 0x72F () .leaf)
              0x74D 0x7A5 () .leaf)
            0x7B1 0x7B1 ()
            (.node .leaf 0x7C0 0x7EA () .leaf)))))
    0x7F4 0x7F5 ()
    (.node (.node (.node (.node (.node (.node .leaf 0x7FA 0x7FA () .leaf)
              0x800 0x815 () .leaf)
            0x81A 0x81A ()
            (.node (.node .leaf 0x824 0x824 () .leaf)
              0x828 0x828 () .leaf))
          0x840 0x858 ()
          (.node (.node (.node .leaf 0x860 0x86A () .leaf)
              0x870 0x887 () .leaf)
            0x889 0x88E ()
            (.node (.node .leaf 0x8A0 0x8C9 () .leaf)
              0x904 0x939 () .leaf)))
        0x93D 0x93D ()
        (.node (.node (.node (.node .leaf 0x950 0x950 () .leaf)
              0x958 0x961 () .leaf)
            0x966 0x96F ()
            (.node (.node .leaf 0x971 0x980 () .leaf)
              0x985 0x98C () .leaf))
          0x98F 0x990 ()
          (.node (.node (.node .leaf 0x993 0x9A8 () .leaf)
              0x9AA 0x9B0 () .leaf)
            0x9B2 0x9B2 ()
            (.node .leaf 0x9B6 0x9B9 () .leaf))))
      0x9BD 0x9BD ()
      (.node (.node (.node (.node (.node .leaf 0x9CE 0x9CE () .leaf)
              0x9DC 0x9DD () .leaf)
            0x9DF 0x9E1 ()
            (.node (.node .leaf 0x9E6 0x9F1 () .leaf)
              0x9F4 0x9F9 () .leaf))
          0x9FC 0x9FC ()
          (.node (.node (.node .leaf 0xA05 0xA0A () .leaf)
              0xA0F 0xA10 () .leaf)
            0xA13 0xA28 ()
            (.node (.node .leaf 0xA2A 0xA30 () .leaf)
              0xA32 0xA33 () .leaf)))
        0xA35 0xA36 ()
        (.node (.node (.node (.node .leaf 0xA38 0xA39 () .leaf)
              0xA59 0xA5C () .leaf)
            0xA5E 0xA5E ()
            (.node (.node .leaf 0xA66 0xA6F () .leaf)
              0xA72 0xA74 () .leaf))
          0xA85 0xA8D ()
          (.node (.node (.node .leaf 0xA8F 0xA91 () .leaf)
              0xA93 0xAA8 () .leaf)
            0xAAA 0xAB0 ()
            (.node .leaf 0xAB2 0xAB3 () .leaf)))))

def wordTree₂ : RangeTree Unit :=
  .node (.node (.node (.node (.node (.node (.node .leaf 0xABD 0xABD () .leaf)
              0xAD0 0xAD0 () .leaf)
            0xAE0 0xAE1 ()
            (.node (.node .leaf 0xAE6 0xAEF () .leaf)
              0xAF9 0xAF9 () .leaf))
          0xB05 0xB0C ()
          (.node (.node (.node .leaf 0xB0F 0xB10 () .leaf)
              0xB13 0xB28 () .leaf)
            0xB2A 0xB30 ()
            (.node (.node .leaf 0xB32 0xB33 () .leaf)
              0xB35 0xB39 () .leaf)))
        0xB3D 0xB3D ()
        (.node (.node (.node (.node .leaf 0xB5C 0xB5D () .leaf)
              0xB5F 0xB61 () .leaf)
            0xB66 0xB6F ()
            (.node (.node .leaf 0xB71 0xB77 () .leaf)
              0xB83 0xB83 () .leaf))
          0xB85 0xB8A ()
          (.node (.node (.node .leaf 0xB8E 0xB90 () .leaf)
              0xB92 0xB95 () .leaf)
            0xB99 0xB9A ()
            (.node .leaf 0xB9C 0xB9C () .leaf))))
      0xB9E 0xB9F ()
      (.node (.node (.node (.node (.node .leaf 0xBA3 0xBA4 () .leaf)
              0xBA8 0xBAA () .leaf)
            0xBAE 0xBB9 ()
            (.node (.node .leaf 0xBD0 0xBD0 () .leaf)
              0xBE6 0xBF2 () .leaf))
          0xC05 0xC0C ()
          (.node (.node (.node .leaf 0xC0E 0xC10 () .leaf)
              0xC12 0xC28 () .leaf)
            0xC2A 0xC39 ()
            (.node (.node .leaf 0xC3D 0xC3D () .leaf)
              0xC58 0xC5A () .leaf)))
        0xC5D 0xC5D ()
        (.node (.node (.node (.node .leaf 0xC60 0xC61 () .leaf)
              0xC66 0xC6F () .leaf)
            0xC78 0xC7E ()
            (.node (.node .leaf 0xC80 0xC80 () .leaf)
              0xC85 0xC8C () .leaf))
          0xC8E 0xC90 ()
          (.node (.node (.node .leaf 0xC92 0xCA8 () .leaf)
              0xCAA 0xCB3 () .leaf)
            0xCB5 0xCB9 ()
            (.node .leaf 0xCBD 0xCBD () .leaf)))))
    0xCDD 0xCDE ()
    (.node (.node (.node (.node (.node (.node .leaf 0xCE0 0xCE1 () .leaf)
              0xCE6 0xCEF () .leaf)
            0xCF1 0xCF2 ()
            (.node (.node .leaf 0xD04 0xD0C () .leaf)
              0xD0E 0xD10 () .leaf))
          0xD12 0xD3A ()
          (.node (.node (.node .leaf 0xD3D 0xD3D () .leaf)
              0xD4E 0xD4E () .leaf)
            0xD54 0xD56 ()
            (.node (.node .leaf 0xD58 0xD61 () .leaf)
              0xD66 0xD78 () .leaf)))
        0xD7A 0xD7F ()
        (.node (.node (.node (.node .leaf 0xD85 0xD96 () .leaf)
              0xD9A 0xDB1 () .leaf)
            0xDB3 0xDBB ()
            (.node (.node .leaf 0xDBD 0xDBD () .leaf)
              0xDC0 0xDC6 () .leaf))
          0xDE6 0xDEF ()
          (.node (.node (.node .leaf 0xE01 0xE30 () .leaf)
              0xE32 0xE33 () .leaf)
            0xE40 0xE46 ()
            (.node .leaf 0xE50 0xE59 () .leaf))))
      0xE81 0xE82 ()
      (.node (.node (.node (.node (.node .leaf 0xE84 0xE84 () .leaf)
              0xE86 0xE8A () .leaf)
            0xE8C 0xEA3 ()
            (.node (.node .leaf 0xEA5 0xEA5 () .leaf)
              0xEA7 0xEB0 () .leaf))
          0xEB2 0xEB3 ()
          (.node (.node (.node .leaf 0xEBD 0xEBD () .leaf)
              0xEC0 0xEC4 () .leaf)
            0xEC6 0xEC6 ()
            (.node (.node .leaf 0xED0 0xED9 () .leaf)
              0xEDC 0xEDF () .leaf)))
        0xF00 0xF00 ()
        (.node (.node (.node (.node .leaf 0xF20 0xF33 () .leaf)
              0xF40 0xF47 () .leaf)
            0xF49 0xF6C ()
            (.node (.node .leaf 0xF88 0xF8C () .leaf)
              0x1000 0x102A () .leaf))
          0x103F 0x1049 ()
          (.node (.node (.node .leaf 0x1050 0x1055 () .leaf)
              0x105A 0x105D () .leaf)
            0x1061 0x1061 ()
            (.node .leaf 0x1065 0x1066 () .leaf)))))

def wordTree₃ : RangeTree Unit :=
  .node (.node (.node (.node (.node (.node (.node .leaf 0x1075 0x1081 () .leaf)
              0x108E 0x108E () .leaf)
            0x1090 0x1099 ()
            (.node (.node .leaf 0x10A0 0x10C5 () .leaf)
              0x10C7 0x10C7 () .leaf))
          0x10CD 0x10CD ()
          (.node (.node (.node .leaf 0x10D0 0x10FA () .leaf)
              0x10FC 0x1248 () .leaf)
            0x124A 0x124D ()
            (.node (.node .leaf 0x1250 0x1256 () .leaf)
              0x1258 0x1258 () .leaf)))
        0x125A 0x125D ()
        (.node (.node (.node (.node .leaf 0x1260 0x1288 () .leaf)
              0x128A 0x128D () .leaf)
            0x1290 0x12B0 ()
            (.node (.node .leaf 0x12B2 0x12B5 () .leaf)
              0x12B8 0x12BE () .leaf))
          0x12C0 0x12C0 ()
          (.node (.node (.node .leaf 0x12C2 0x12C5 () .leaf)
              0x12C8 0x12D6 () .leaf)
            0x12D8 0x1310 ()
            (.node .leaf 0x1312 0x1315 () .leaf))))
      0x1318 0x135A ()
      (.node (.node (.node (.node (.node .leaf 0x1369 0x137C () .leaf)
              0x1380 0x138F () .leaf)
            0x13A0 0x13F5 ()
            (.node (.node .leaf 0x13F8 0x13FD () .leaf)
              0x1401 0x166C () .leaf))
          0x166F 0x167F ()
          (.node (.node (.node .leaf 0x1681 0x169A () .leaf)
              0x16A0 0x16EA () .leaf)
            0x16EE 0x16F8 ()
            (.node (.node .leaf 0x1700 0x1711 () .leaf)
              0x171F 0x1731 () .leaf)))
        0x1740 0x1751 ()
        (.node (.node (.node (.node .leaf 0x1760 0x176C () .leaf)
              0x176E 0x1770 () .leaf)
            0x1780 0x17B3 ()
            (.node (.node .leaf 0x17D7 0x17D7 () .leaf)
              0x17DC 0x17DC () .leaf))
          0x17E0 0x17E9 ()
          (.node (.node (.node .leaf 0x17F0 0x17F9 () .leaf)
              0x1810 0x1819 () .leaf)
            0x1820 0x1878 ()
            (.node .leaf 0x1880 0x1884 () .leaf)))))
    0x1887 0x18A8 ()
    (.node (.node (.node (.node (.node (.node .leaf 0x18AA 0x18AA () .leaf)
              0x18B0 0x18F5 () .leaf)
            0x1900 0x191E ()
            (.node (.node .leaf 0x1946 0x196D () .leaf)
              0x1970 0x1974 () .leaf))
          0x1980 0x19AB ()
          (.node (.node (.node .leaf 0x19B0 0x19C9 () .leaf)
              0x19D0 0x19DA () .leaf)
            0x1A00 0x1A16 ()
            (.node (.node .leaf 0x1A20 0x1A54 () .leaf)
              0x1A80 0x1A89 () .leaf)))
        0x1A90 0x1A99 ()
        (.node (.node (.node (.node .leaf 0x1AA7 0x1AA7 () .leaf)
              0x1B05 0x1B33 () .leaf)
            0x1B45 0x1B4C ()
            (.node (.node .leaf 0x1B50 0x1B59 () .leaf)
              0x1B83 0x1BA0 () .leaf))
          0x1BAE 0x1BE5 ()
          (.node (.node (.node .leaf 0x1C00 0x1C23 () .leaf)
              0x1C40 0x1C49 () .leaf)
            0x1C4D 0x1C7D ()
            (.node .leaf 0x1C80 0x1C88 () .leaf))))
      0x1C90 0x1CBA ()
      (.node (.node (.node (.node (.node .leaf 0x1CBD 0x1CBF () .leaf)
              0x1CE9 0x1CEC () .leaf)
            0x1CEE 0x1CF3 ()
            (.node (.node .leaf 0x1CF5 0x1CF6 () .leaf)
              0x1CFA 0x1CFA () .leaf))
          0x1D00 0x1DBF ()
          (.node (.node (.node .leaf 0x1E00 0x1F15 () .leaf)
              0x1F18 0x1F1D () .leaf)
            0x1F20 0x1F45 ()
            (.node (.node .leaf 0x1F48 0x1F4D () .leaf)
              0x1F50 0x1F57 () .leaf)))
        0x1F59 0x1F59 ()
        (.node (.node (.node (.node .leaf 0x1F5B 0x1F5B () .leaf)
              0x1F5D 0x1F5D () .leaf)
            0x1F5F 0x1F7D ()
            (.node (.node .leaf 0x1F80 0x1FB4 () .leaf)
              0x1FB6 0x1FBC () .leaf))
          0x1FBE 0x1FBE ()
          (.node (.node (.node .leaf 0x1FC2 0x1FC4 () .leaf)
              0x1FC6 0x1FCC () .leaf)
            0x1FD0 0x1FD3 ()
            (.node .leaf 0x1FD6 0x1FDB () .leaf)))))

def wordTree₄ : RangeTree Unit :=
  .node (.node (.node (.node (.node (.node (.node .leaf 0x1FF2 0x1FF4 () .leaf)
              0x1FF6 0x1FFC () .leaf)
            0x2070 0x2071 ()
            (.node (.node .leaf 0x2074 0x2079 () .leaf)
              0x207F 0x2089 () .leaf))
          0x2090 0x209C ()
          (.node (.node (.node .leaf 0x2102 0x2102 () .leaf)
              0x2107 0x2107 () .leaf)
            0x210A 0x2113 ()
            (.node (.node .leaf 0x2115 0x2115 () .leaf)
              0x2119 0x211D () .leaf)))
        0x2124 0x2124 ()
        (.node (.node (.node (.node .leaf 0x2126 0x2126 () .leaf)
              0x2128 0x2128 () .leaf)
            0x212A 0x212D ()
            (.node (.node .leaf 0x212F 0x2139 () .leaf)
              0x213C 0x213F () .leaf))
          0x2145 0x2149 ()
          (.node (.node (.node .leaf 0x214E 0x214E () .leaf)
              0x2150 0x2189 () .leaf)
            0x2460 0x249B ()
            (.node .leaf 0x24EA 0x24FF () .leaf))))
      0x2776 0x2793 ()
      (.node (.node (.node (.node (.node .leaf 0x2C00 0x2CE4 () .leaf)
              0x2CEB 0x2CEE () .leaf)
            0x2CF2 0x2CF3 ()
            (.node (.node .leaf 0x2CFD 0x2CFD () .leaf)
              0x2D00 0x2D25 () .leaf))
          0x2D27 0x2D27 ()
          (.node (.node (.node .leaf 0x2D2D 0x2D2D () .leaf)
              0x2D30 0x2D67 () .leaf)
            0x2D6F 0x2D6F ()
            (.node (.node .leaf 0x2D80 0x2D96 () .leaf)
              0x2DA0 0x2DA6 () .leaf)))
        0x2DA8 0x2DAE ()
        (.node (.node (.node (.node .leaf 0x2DB0 0x2DB6 () .leaf)
              0x2DB8 0x2DBE () .leaf)
            0x2DC0 0x2DC6 ()
            (.node (.node .leaf 0x2DC8 0x2DCE () .leaf)
              0x2DD0 0x2DD6 () .leaf))
          0x2DD8 0x2DDE ()
          (.node (.node (.node .leaf 0x2E2F 0x2E2F () .leaf)
              0x3005 0x3007 () .leaf)
            0x3021 0x3029 ()
            (.node .leaf 0x3031 0x3035 () .leaf)))))
    0x3038 0x303C ()
    (.node (.node (.node (.node (.node (.node .leaf 0x3041 0x3096 () .leaf)
              0x309D 0x309F () .leaf)
            0x30A1 0x30FA ()
            (.node (.node .leaf 0x30FC 0x30FF () .leaf)
              0x3105 0x312F () .leaf))
          0x3131 0x318E ()
          (.node (.node (.node .leaf 0x3192 0x3195 () .leaf)
              0x31A0 0x31BF () .leaf)
            0x31F0 0x31FF ()
            (.node (.node .leaf 0x3220 0x3229 () .leaf)
              0x3248 0x324F () .leaf)))
        0x3251 0x325F ()
        (.node (.node (.node (.node .leaf 0x3280 0x3289 () .leaf)
              0x32B1 0x32BF () .leaf)
            0x3400 0x4DBF ()
            (.node (.node .leaf 0x4E00 0xA48C () .leaf)
              0xA4D0 0xA4FD () .leaf))
          0xA500 0xA60C ()
          (.node (.node (.node .leaf 0xA610 0xA62B () .leaf)
              0xA640 0xA66E () .leaf)
            0xA67F 0xA69D ()
            (.node .leaf 0xA6A0 0xA6EF () .leaf))))
      0xA717 0xA71F ()
      (.node (.node (.node (.node (.node .leaf 0xA722 0xA788 () .leaf)
              0xA78B 0xA7CA () .leaf)
            0xA7D0 0xA7D1 ()
            (.node (.node .leaf 0xA7D3 0xA7D3 () .leaf)
              0xA7D5 0xA7D9 () .leaf))
          0xA7F2 0xA801 ()
          (.node (.node (.node .leaf 0xA803 0xA805 () .leaf)
              0xA807 0xA80A () .leaf)
            0xA80C 0xA822 ()
            (.node (.node .leaf 0xA830 0xA835 () .leaf)
              0xA840 0xA873 () .leaf)))
        0xA882 0xA8B3 ()
        (.node (.node (.node (.node .leaf 0xA8D0 0xA8D9 () .leaf)
              0xA8F2 0xA8F7 () .leaf)
            0xA8FB 0xA8FB ()
            (.node (.node .leaf 0xA8FD 0xA8FE () .leaf)
              0xA900 0xA925 () .leaf))
          0xA930 0xA946 ()
          (.node (.node (.node .leaf 0xA960 0xA97C () .leaf)
              0xA984 0xA9B2 () .leaf)
            0xA9CF 0xA9D9 ()
            (.node .leaf 0xA9E0 0xA9E4 () .leaf)))))

def wordTree₅ : RangeTree Unit :=
  .node (.node (.node (.node (.node (.node (.node .leaf 0xAA00 0xAA28 () .leaf)
              0xAA40 0xAA42 () .leaf)
            0xAA44 0xAA4B ()
            (.node (.node .leaf 0xAA50 0xAA59 () .leaf)
              0xAA60 0xAA76 () .leaf))
          0xAA7A 0xAA7A ()
          (.node (.node (.node .leaf 0xAA7E 0xAAAF () .leaf)
              0xAAB1 0xAAB1 () .leaf)
            0xAAB5 0xAAB6 ()
            (.node (.node .leaf 0xAAB9 0xAABD () .leaf)
              0xAAC0 0xAAC0 () .leaf)))
        0xAAC2 0xAAC2 ()
        (.node (.node (.node (.node .leaf 0xAADB 0xAADD () .leaf)
              0xAAE0 0xAAEA () .leaf)
            0xAAF2 0xAAF4 ()
            (.node (.node .leaf 0xAB01 0xAB06 () .leaf)
              0xAB09 0xAB0E () .leaf))
          0xAB11 0xAB16 ()
          (.node (.node (.node .leaf 0xAB20 0xAB26 () .leaf)
              0xAB28 0xAB2E () .leaf)
            0xAB30 0xAB5A ()
            (.node .leaf 0xAB5C 0xAB69 () .leaf))))
      0xAB70 0xABE2 ()
      (.node (.node (.node (.node (.node .leaf 0xABF0 0xABF9 () .leaf)
              0xAC00 0xD7A3 () .leaf)
            0xD7B0 0xD7C6 ()
            (.node (.node .leaf 0xD7CB 0xD7FB () .leaf)
              0xF900 0xFA6D () .leaf))
          0xFA70 0xFAD9 ()
          (.node (.node (.node .leaf 0xFB00 0xFB06 () .leaf)
              0xFB13 0xFB17 () .leaf)
            0xFB1D 0xFB1D ()
            (.node (.node .leaf 0xFB1F 0xFB28 () .leaf)
              0xFB2A 0xFB36 () .leaf)))
        0xFB38 0xFB3C ()
        (.node (.node (.node (.node .leaf 0xFB3E 0xFB3E () .leaf)
              0xFB40 0xFB41 () .leaf)
            0xFB43 0xFB44 ()
            (.node (.node .leaf 0xFB46 0xFBB1 () .leaf)
              0xFBD3 0xFD3D () .leaf))
          0xFD50 0xFD8F ()
          (.node (.node (.node .leaf 0xFD92 0xFDC7 () .leaf)
              0xFDF0 0xFDFB () .leaf)
            0xFE70 0xFE74 ()
            (.node .leaf 0xFE76 0xFEFC () .leaf)))))
    0xFF10 0xFF19 ()
    (.node (.node (.node (.node (.node (.node .leaf 0xFF21 0xFF3A () .leaf)
              0xFF41 0xFF5A () .leaf)
            0xFF66 0xFFBE ()
            (.node (.node .leaf 0xFFC2 0xFFC7 () .leaf)
              0xFFCA 0xFFCF () .leaf))
          0xFFD2 0xFFD7 ()
          (.node (.node (.node .leaf 0xFFDA 0xFFDC () .leaf)
              0x10000 0x1000B () .leaf)
            0x1000D 0x10026 ()
            (.node (.node .leaf 0x10028 0x1003A () .leaf)
              0x1003C 0x1003D () .leaf)))
        0x1003F 0x1004D ()
        (.node (.node (.node (.node .leaf 0x10050 0x1005D () .leaf)
              0x10080 0x100FA () .leaf)
            0x10107 0x10133 ()
            (.node (.node .leaf 0x10140 0x10178 () .leaf)
              0x1018A 0x1018B () .leaf))
          0x10280 0x1029C ()
          (.node (.node (.node .leaf 0x102A0 0x102D0 () .leaf)
              0x102E1 0x102FB () .leaf)
            0x10300 0x10323 ()
            (.node .leaf 0x1032D 0x1034A () .leaf))))
      0x10350 0x10375 ()
      (.node (.node (.node (.node (.node .leaf 0x10380 0x1039D () .leaf)
              0x103A0 0x103C3 () .leaf)
            0x103C8 0x103CF ()
            (.node (.node .leaf 0x103D1 0x103D5 () .leaf)
              0x10400 0x1049D () .leaf))
          0x104A0 0x104A9 ()
          (.node (.node (.node .leaf 0x104B0 0x104D3 () .leaf)
              0x104D8 0x104FB () .leaf)
            0x10500 0x10527 ()
            (.node (.node .leaf 0x10530 0x10563 () .leaf)
              0x10570 0x1057A () .leaf)))
        0x1057C 0x1058A ()
        (.node (.node (.node (.node .leaf 0x1058C 0x10592 () .leaf)
              0x10594 0x10595 () .leaf)
            0x10597 0x105A1 ()
            (.node (.node .leaf 0x105A3 0x105B1 () .leaf)
              0x105B3 0x105B9 () .leaf))
          0x105BB 0x105BC ()
          (.node (.node (.node .leaf 0x10600 0x10736 () .leaf)
              0x10740 0x10755 () .leaf)
            0x10760 0x10767 ()
            (.node .leaf 0x10780 0x10785 () .leaf)))))

def wordTree₆ : RangeTree Unit :=
  .node (.node (.node (.node (.node (.node (.node .leaf 0x107B2 0x107BA () .leaf)
              0x10800 0x10805 () .leaf)
            0x10808 0x10808 ()
            (.node (.node .leaf 0x1080A 0x10835 () .leaf)
              0x10837 0x10838 () .leaf))
          0x1083C 0x1083C ()
          (.node (.node (.node .leaf 0x1083F 0x10855 () .leaf)
              0x10858 0x10876 () .leaf)
            0x10879 0x1089E ()
            (.node (.node .leaf 0x108A7 0x108AF () .leaf)
              0x108E0 0x108F2 () .leaf)))
        0x108F4 0x108F5 ()
        (.node (.node (.node (.node .leaf 0x108FB 0x1091B () .leaf)
              0x10920 0x10939 () .leaf)
            0x10980 0x109B7 ()
            (.node (.node .leaf 0x109BC 0x109CF () .leaf)
              0x109D2 0x10A00 () .leaf))
          0x10A10 0x10A13 ()
          (.node (.node (.node .leaf 0x10A15 0x10A17 () .leaf)
              0x10A19 0x10A35 () .leaf)
            0x10A40 0x10A48 ()
            (.node .leaf 0x10A60 0x10A7E () .leaf))))
      0x10A80 0x10A9F ()
      (.node (.node (.node (.node (.node .leaf 0x10AC0 0x10AC7 () .leaf)
              0x10AC9 0x10AE4 () .leaf)
            0x10AEB 0x10AEF ()
            (.node (.node .leaf 0x10B00 0x10B35 () .leaf)
              0x10B40 0x10B55 () .leaf))
          0x10B58 0x10B72 ()
          (.node (.node (.node .leaf 0x10B78 0x10B91 () .leaf)
              0x10BA9 0x10BAF () .leaf)
            0x10C00 0x10C48 ()
            (.node (.node .leaf 0x10C80 0x10CB2 () .leaf)
              0x10CC0 0x10CF2 () .leaf)))
        0x10CFA 0x10D23 ()
        (.node (.node (.node (.node .leaf 0x10D30 0x10D39 () .leaf)
              0x10E60 0x10E7E () .leaf)
            0x10E80 0x10EA9 ()
            (.node (.node .leaf 0x10EB0 0x10EB1 () .leaf)
              0x10F00 0x10F27 () .leaf))
          0x10F30 0x10F45 ()
          (.node (.node (.node .leaf 0x10F51 0x10F54 () .leaf)
              0x10F70 0x10F81 () .leaf)
            0x10FB0 0x10FCB ()
            (.node .leaf 0x10FE0 0x10FF6 () .leaf)))))
    0x11003 0x11037 ()
    (.node (.node (.node (.node (.node (.node .leaf 0x11052 0x1106F () .leaf)
              0x11071 0x11072 () .leaf)
            0x11075 0x11075 ()
            (.node (.node .leaf 0x11083 0x110AF () .leaf)
              0x110D0 0x110E8 () .leaf))
          0x110F0 0x110F9 ()
          (.node (.node (.node .leaf 0x11103 0x11126 () .leaf)
              0x11136 0x1113F () .leaf)
            0x11144 0x11144 ()
            (.node (.node .leaf 0x11147 0x11147 () .leaf)
              0x11150 0x11172 () .leaf)))
        0x11176 0x11176 ()
        (.node (.node (.node (.node .leaf 0x11183 0x111B2 () .leaf)
              0x111C1 0x111C4 () .leaf)
            0x111D0 0x111DA ()
            (.node (.node .leaf 0x111DC 0x111DC () .leaf)
              0x111E1 0x111F4 () .leaf))
          0x11200 0x11211 ()
          (.node (.node (.node .leaf 0x11213 0x1122B () .leaf)
              0x11280 0x11286 () .leaf)
            0x11288 0x11288 ()
            (.node .leaf 0x1128A 0x1128D () .leaf))))
      0x1128F 0x1129D ()
      (.node (.node (.node (.node (.node .leaf 0x1129F 0x112A8 () .leaf)
              0x112B0 0x112DE () .leaf)
            0x112F0 0x112F9 ()
            (.node (.node .leaf 0x11305 0x1130C () .leaf)
              0x1130F 0x11310 () .leaf))
          0x11313 0x11328 ()
          (.node (.node (.node .leaf 0x1132A 0x11330 () .leaf)
              0x11332 0x11333 () .leaf)
            0x11335 0x11339 ()
            (.node (.node .leaf 0x1133D 0x1133D () .leaf)
              0x11350 0x11350 () .leaf)))
        0x1135D 0x11361 ()
        (.node (.node (.node (.node .leaf 0x11400 0x11434 () .leaf)
              0x11447 0x1144A () .leaf)
            0x11450 0x11459 ()
            (.node (.node .leaf 0x1145F 0x11461 () .leaf)
              0x11480 0x114AF () .leaf))
          0x114C4 0x114C5 ()
          (.node (.node (.node .leaf 0x114C7 0x114C7 () .leaf)
              0x114D0 0x114D9 () .leaf)
            0x11580 0x115AE ()
            (.node .leaf 0x115D8 0x115DB () .leaf)))))

def wordTree₇ : RangeTree Unit :=
  .node (.node (.node (.node (.node (.node (.node .leaf 0x11644 0x11644 () .leaf)
              0x11650 0x11659 () .leaf)
            0x11680 0x116AA ()
            (.node (.node .leaf 0x116B8 0x116B8 () .leaf)
              0x116C0 0x116C9 () .leaf))
          0x11700 0x1171A ()
          (.node (.node (.node .leaf 0x11730 0x1173B () .leaf)
              0x11740 0x11746 () .leaf)
            0x11800 0x1182B ()
            (.node (.node .leaf 0x118A0 0x118F2 () .leaf)
              0x118FF 0x11906 () .leaf)))
        0x11909 0x11909 ()
        (.node (.node (.node (.node .leaf 0x1190C 0x11913 () .leaf)
              0x11915 0x11916 () .leaf)
            0x11918 0x1192F ()
            (.node (.node .leaf 0x1193F 0x1193F () .leaf)
              0x11941 0x11941 () .leaf))
          0x11950 0x11959 ()
          (.node (.node (.node .leaf 0x119A0 0x119A7 () .leaf)
              0x119AA 0x119D0 () .leaf)
            0x119E1 0x119E1 ()
            (.node .leaf 0x119E3 0x119E3 () .leaf))))
      0x11A00 0x11A00 ()
      (.node (.node (.node (.node (.node .leaf 0x11A0B 0x11A32 () .leaf)
              0x11A3A 0x11A3A () .leaf)
            0x11A50 0x11A50 ()
            (.node (.node .leaf 0x11A5C 0x11A89 () .leaf)
              0x11A9D 0x11A9D () .leaf))
          0x11AB0 0x11AF8 ()
          (.node (.node (.node .leaf 0x11C00 0x11C08 () .leaf)
              0x11C0A 0x11C2E () .leaf)
            0x11C40 0x11C40 ()
            (.node (.node .leaf 0x11C50 0x11C6C () .leaf)
              0x11C72 0x11C8F () .leaf)))
        0x11D00 0x11D06 ()
        (.node (.node (.node (.node .leaf 0x11D08 0x11D09 () .leaf)
              0x11D0B 0x11D30 () .leaf)
            0x11D46 0x11D46 ()
            (.node (.node .leaf 0x11D50 0x11D59 () .leaf)
              0x11D60 0x11D65 () .leaf))
          0x11D67 0x11D68 ()
          (.node (.node (.node .leaf 0x11D6A 0x11D89 () .leaf)
              0x11D98 0x11D98 () .leaf)
            0x11DA0 0x11DA9 ()
            (.node .leaf 0x11EE0 0x11EF2 () .leaf)))))
    0x11FB0 0x11FB0 ()
    (.node (.node (.node (.node (.node (.node .leaf 0x11FC0 0x11FD4 () .leaf)
              0x12000 0x12399 () .leaf)
            0x12400 0x1246E ()
            (.node (.node .leaf 0x12480 0x12543 () .leaf)
              0x12F90 0x12FF0 () .leaf))
          0x13000 0x1342E ()
          (.node (.node (.node .leaf 0x14400 0x14646 () .leaf)
              0x16800 0x16A38 () .leaf)
            0x16A40 0x16A5E ()
            (.node (.node .leaf 0x16A60 0x16A69 () .leaf)
              0x16A70 0x16ABE () .leaf)))
        0x16AC0 0x16AC9 ()
        (.node (.node (.node (.node .leaf 0x16AD0 0x16AED () .leaf)
              0x16B00 0x16B2F () .leaf)
            0x16B40 0x16B43 ()
            (.node (.node .leaf 0x16B50 0x16B59 () .leaf)
              0x16B5B 0x16B61 () .leaf))
          0x16B63 0x16B77 ()
          (.node (.node (.node .leaf 0x16B7D 0x16B8F () .leaf)
              0x16E40 0x16E96 () .leaf)
            0x16F00 0x16F4A ()
            (.node .leaf 0x16F50 0x16F50 () .leaf))))
      0x16F93 0x16F9F ()
      (.node (.node (.node (.node (.node .leaf 0x16FE0 0x16FE1 () .leaf)
              0x16FE3 0x16FE3 () .leaf)
            0x17000 0x187F7 ()
            (.node (.node .leaf 0x18800 0x18CD5 () .leaf)
              0x18D00 0x18D08 () .leaf))
          0x1AFF0 0x1AFF3 ()
          (.node (.node (.node .leaf 0x1AFF5 0x1AFFB () .leaf)
              0x1AFFD 0x1AFFE () .leaf)
            0x1B000 0x1B122 ()
            (.node (.node .leaf 0x1B150 0x1B152 () .leaf)
              0x1B164 0x1B167 () .leaf)))
        0x1B170 0x1B2FB ()
        (.node (.node (.node (.node .leaf 0x1BC00 0x1BC6A () .leaf)
              0x1BC70 0x1BC7C () .leaf)
            0x1BC80 0x1BC88 ()
            (.node (.node .leaf 0x1BC90 0x1BC99 () .leaf)
              0x1D2E0 0x1D2F3 () .leaf))
          0x1D360 0x1D378 ()
          (.node (.node (.node .leaf 0x1D400 0x1D454 () .leaf)
              0x1D456 0x1D49C () .leaf)
            0x1D49E 0x1D49F ()
            (.node .leaf 0x1D4A2 0x1D4A2 () .leaf)))))

def wordTree₈ : RangeTree Unit :=
  .node (.node (.node (.node (.node (.node (.node .leaf 0x1D4A9 0x1D4AC () .leaf)
              0x1D4AE 0x1D4B9 () .leaf)
            0x1D4BB 0x1D4BB ()
            (.node (.node .leaf 0x1D4BD 0x1D4C3 () .leaf)
              0x1D4C5 0x1D505 () .leaf))
          0x1D507 0x1D50A ()
          (.node (.node (.node .leaf 0x1D50D 0x1D514 () .leaf)
              0x1D516 0x1D51C () .leaf)
            0x1D51E 0x1D539 ()
            (.node (.node .leaf 0x1D53B 0x1D53E () .leaf)
              0x1D540 0x1D544 () .leaf)))
        0x1D546 0x1D546 ()
        (.node (.node (.node (.node .leaf 0x1D54A 0x1D550 () .leaf)
              0x1D552 0x1D6A5 () .leaf)
            0x1D6A8 0x1D6C0 ()
            (.node (.node .leaf 0x1D6C2 0x1D6DA () .leaf)
              0x1D6DC 0x1D6FA () .leaf))
          0x1D6FC 0x1D714 ()
          (.node (.node (.node .leaf 0x1D716 0x1D734 () .leaf)
              0x1D736 0x1D74E () .leaf)
            0x1D750 0x1D76E ()
            (.node .leaf 0x1D770 0x1D788 () .leaf))))
      0x1D78A 0x1D7A8 ()
      (.node (.node (.node (.node (.node .leaf 0x1D7AA 0x1D7C2 () .leaf)
              0x1D7C4 0x1D7CB () .leaf)
            0x1D7CE 0x1D7FF ()
            (.node (.node .leaf 0x1DF00 0x1DF1E () .leaf)
              0x1E100 0x1E12C () .leaf))
          0x1E137 0x1E13D ()
          (.node (.node (.node .leaf 0x1E140 0x1E149 () .leaf)
              0x1E14E 0x1E14E () .leaf)
            0x1E290 0x1E2AD ()
            (.node (.node .leaf 0x1E2C0 0x1E2EB () .leaf)
              0x1E2F0 0x1E2F9 () .leaf)))
        0x1E7E0 0x1E7E6 ()
        (.node (.node (.node (.node .leaf 0x1E7E8 0x1E7EB () .leaf)
              0x1E7ED 0x1E7EE () .leaf)
            0x1E7F0 0x1E7FE ()
            (.node (.node .leaf 0x1E800 0x1E8C4 () .leaf)
              0x1E8C7 0x1E8CF () .leaf))
          0x1E900 0x1E943 ()
          (.node (.node (.node .leaf 0x1E94B 0x1E94B () .leaf)
              0x1E950 0x1E959 () .leaf)
            0x1EC71 0x1ECAB ()
            (.node .leaf 0x1ECAD 0x1ECAF () .leaf)))))
    0x1ECB1 0x1ECB4 ()
    (.node (.node (.node (.node (.node (.node .leaf 0x1ED01 0x1ED2D () .leaf)
              0x1ED2F 0x1ED3D () .leaf)
            0x1EE00 0x1EE03 ()
            (.node (.node .leaf 0x1EE05 0x1EE1F () .leaf)
              0x1EE21 0x1EE22 () .leaf))
          0x1EE24 0x1EE24 ()
          (.node (.node (.node .leaf 0x1EE27 0x1EE27 () .leaf)
              0x1EE29 0x1EE32 () .leaf)
            0x1EE34 0x1EE37 ()
            (.node (.node .leaf 0x1EE39 0x1EE39 () .leaf)
              0x1EE3B 0x1EE3B () .leaf)))
        0x1EE42 0x1EE42 ()
        (.node (.node (.node (.node .leaf 0x1EE47 0x1EE47 () .leaf)
              0x1EE49 0x1EE49 () .leaf)
            0x1EE4B 0x1EE4B ()
            (.node (.node .leaf 0x1EE4D 0x1EE4F () .leaf)
              0x1EE51 0x1EE52 () .leaf))
          0x1EE54 0x1EE54 ()
          (.node (.node (.node .leaf 0x1EE57 0x1EE57 () .leaf)
              0x1EE59 0x1EE59 () .leaf)
            0x1EE5B 0x1EE5B ()
            (.node .leaf 0x1EE5D 0x1EE5D () .leaf))))
      0x1EE5F 0x1EE5F ()
      (.node (.node (.node (.node (.node .leaf 0x1EE61 0x1EE62 () .leaf)
              0x1EE64 0x1EE64 () .leaf)
            0x1EE67 0x1EE6A ()
            (.node (.node .leaf 0x1EE6C 0x1EE72 () .leaf)
              0x1EE74 0x1EE77 () .leaf))
          0x1EE79 0x1EE7C ()
          (.node (.node (.node .leaf 0x1EE7E 0x1EE7E () .leaf)
              0x1EE80 0x1EE89 () .leaf)
            0x1EE8B 0x1EE9B ()
            (.node .leaf 0x1EEA1 0x1EEA3 () .leaf)))
        0x1EEA5 0x1EEA9 ()
        (.node (.node (.node (.node .leaf 0x1EEAB 0x1EEBB () .leaf)
              0x1F100 0x1F10C () .leaf)
            0x1FBF0 0x1FBF9 ()
            (.node (.node .leaf 0x20000 0x2A6DF () .leaf)
              0x2A700 0x2B738 () .leaf))
          0x2B740 0x2B81D ()
          (.node (.node (.node .leaf 0x2B820 0x2CEA1 () .leaf)
              0x2CEB0 0x2EBE0 () .leaf)
            0x2F800 0x2FA1D ()
            (.node .leaf 0x30000 0x3134A () .leaf)))))

/-- `\w`: the characters `str.isalnum` accepts, and `_`. -/
def wordTree : RangeTree Unit :=
  .node (.node (.node wordTree₁
        0xAB5 0xAB9 ()
        wordTree₂)
      0x106E 0x1070 ()
      (.node wordTree₃
        0x1FE0 0x1FEC ()
        wordTree₄))
    0xA9E6 0xA9FE ()
    (.node (.node wordTree₅
        0x10787 0x107B0 ()
        wordTree₆)
      0x11600 0x1162F ()
      (.node wordTree₇
        0x1D4A5 0x1D4A6 ()
        wordTree₈))

/-- `\d`: the decimal digits, each interval a run of tens from a zero. -/
def decimalTree : RangeTree Unit :=
  .node (.node (.node (.node (.node (.node .leaf 0x30 0x39 () .leaf)
            0x660 0x669 ()
            (.node .leaf 0x6F0 0x6F9 () .leaf))
          0x7C0 0x7C9 ()
          (.node (.node .leaf 0x966 0x96F () .leaf)
            0x9E6 0x9EF ()
            (.node .leaf 0xA66 0xA6F () .leaf)))
        0xAE6 0xAEF ()
        (.node (.node (.node .leaf 0xB66 0xB6F () .leaf)
            0xBE6 0xBEF ()
            (.node .leaf 0xC66 0xC6F () .leaf))
          0xCE6 0xCEF ()
          (.node (.node .leaf 0xD66 0xD6F () .leaf)
            0xDE6 0xDEF ()
            (.node .leaf 0xE50 0xE59 () .leaf))))
      0xED0 0xED9 ()
      (.node (.node (.node (.node .leaf 0xF20 0xF29 () .leaf)
            0x1040 0x1049 ()
            (.node .leaf 0x1090 0x1099 () .leaf))
          0x17E0 0x17E9 ()
          (.node (.node .leaf 0x1810 0x1819 () .leaf)
            0x1946 0x194F ()
            (.node .leaf 0x19D0 0x19D9 () .leaf)))
        0x1A80 0x1A89 ()
        (.node (.node (.node .leaf 0x1A90 0x1A99 () .leaf)
            0x1B50 0x1B59 ()
            (.node .leaf 0x1BB0 0x1BB9 () .leaf))
          0x1C40 0x1C49 ()
          (.node (.node .leaf 0x1C50 0x1C59 () .leaf)
            0xA620 0xA629 ()
            (.node .leaf 0xA8D0 0xA8D9 () .leaf)))))
    0xA900 0xA909 ()
    (.node (.node (.node (.node (.node .leaf 0xA9D0 0xA9D9 () .leaf)
            0xA9F0 0xA9F9 ()
            (.node .leaf 0xAA50 0xAA59 () .leaf))
          0xABF0 0xABF9 ()
          (.node (.node .leaf 0xFF10 0xFF19 () .leaf)
            0x104A0 0x104A9 ()
            (.node .leaf 0x10D30 0x10D39 () .leaf)))
        0x11066 0x1106F ()
        (.node (.node (.node .leaf 0x110F0 0x110F9 () .leaf)
            0x11136 0x1113F ()
            (.node .leaf 0x111D0 0x111D9 () .leaf))
          0x112F0 0x112F9 ()
          (.node (.node .leaf 0x11450 0x11459 () .leaf)
            0x114D0 0x114D9 ()
            (.node .leaf 0x11650 0x11659 () .leaf))))
      0x116C0 0x116C9 ()
      (.node (.node (.node (.node .leaf 0x11730 0x11739 () .leaf)
            0x118E0 0x118E9 ()
            (.node .leaf 0x11950 0x11959 () .leaf))
          0x11C50 0x11C59 ()
          (.node (.node .leaf 0x11D50 0x11D59 () .leaf)
            0x11DA0 0x11DA9 ()
            (.node .leaf 0x16A60 0x16A69 () .leaf)))
        0x16AC0 0x16AC9 ()
        (.node (.node (.node .leaf 0x16B50 0x16B59 () .leaf)
            0x1D7CE 0x1D7FF ()
            (.node .leaf 0x1E140 0x1E149 () .leaf))
          0x1E2F0 0x1E2F9 ()
          (.node (.node .leaf 0x1E950 0x1E959 () .leaf)
            0x1FBF0 0x1FBF9 () .leaf))))

end MysqlChReplicator.Python
