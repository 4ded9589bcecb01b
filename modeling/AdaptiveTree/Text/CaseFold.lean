import AdaptiveTree.Text.Ranges

/-!
# Simple case folding

Two characters are equal but for case when they have the same simple case folding. The orbits are
small: at most four characters fold together.
-/

set_option autoImplicit false

namespace AdaptiveTree.Text

/-- A run of code points that fold alike: `first`, `first + step`, up to `last`, each to itself less
`offset`. -/
structure FoldRun where
  first : Nat
  last : Nat
  step : Nat
  offset : Nat

/-- Runs of the simple case folding, each code point going to the least one that it folds with. -/
def foldRuns : List FoldRun := ([
  (0x61, 0x7A, 0x1, 0x20), (0xE0, 0xF6, 0x1, 0x20), (0xF8, 0xFE, 0x1, 0x20),
  (0x101, 0x12F, 0x2, 0x1), (0x133, 0x137, 0x2, 0x1), (0x13A, 0x148, 0x2, 0x1),
  (0x14B, 0x177, 0x2, 0x1), (0x178, 0x178, 0x1, 0x79), (0x17A, 0x17E, 0x2, 0x1),
  (0x17F, 0x17F, 0x1, 0x12C), (0x183, 0x185, 0x2, 0x1), (0x188, 0x188, 0x1, 0x1),
  (0x18C, 0x18C, 0x1, 0x1), (0x192, 0x192, 0x1, 0x1), (0x199, 0x199, 0x1, 0x1),
  (0x1A1, 0x1A5, 0x2, 0x1), (0x1A8, 0x1A8, 0x1, 0x1), (0x1AD, 0x1AD, 0x1, 0x1),
  (0x1B0, 0x1B0, 0x1, 0x1), (0x1B4, 0x1B6, 0x2, 0x1), (0x1B9, 0x1B9, 0x1, 0x1),
  (0x1BD, 0x1BD, 0x1, 0x1), (0x1C5, 0x1C5, 0x1, 0x1), (0x1C6, 0x1C6, 0x1, 0x2),
  (0x1C8, 0x1C8, 0x1, 0x1), (0x1C9, 0x1C9, 0x1, 0x2), (0x1CB, 0x1CB, 0x1, 0x1),
  (0x1CC, 0x1CC, 0x1, 0x2), (0x1CE, 0x1DC, 0x2, 0x1), (0x1DD, 0x1DD, 0x1, 0x4F),
  (0x1DF, 0x1EF, 0x2, 0x1), (0x1F2, 0x1F2, 0x1, 0x1), (0x1F3, 0x1F3, 0x1, 0x2),
  (0x1F5, 0x1F5, 0x1, 0x1), (0x1F6, 0x1F6, 0x1, 0x61), (0x1F7, 0x1F7, 0x1, 0x38),
  (0x1F9, 0x21F, 0x2, 0x1), (0x220, 0x220, 0x1, 0x82), (0x223, 0x233, 0x2, 0x1),
  (0x23C, 0x23C, 0x1, 0x1), (0x23D, 0x23D, 0x1, 0xA3), (0x242, 0x242, 0x1, 0x1),
  (0x243, 0x243, 0x1, 0xC3), (0x247, 0x24F, 0x2, 0x1), (0x253, 0x253, 0x1, 0xD2),
  (0x254, 0x254, 0x1, 0xCE), (0x256, 0x257, 0x1, 0xCD), (0x259, 0x259, 0x1, 0xCA),
  (0x25B, 0x25B, 0x1, 0xCB), (0x260, 0x260, 0x1, 0xCD), (0x263, 0x263, 0x1, 0xCF),
  (0x268, 0x268, 0x1, 0xD1), (0x269, 0x269, 0x1, 0xD3), (0x26F, 0x26F, 0x1, 0xD3),
  (0x272, 0x272, 0x1, 0xD5), (0x275, 0x275, 0x1, 0xD6), (0x280, 0x280, 0x1, 0xDA),
  (0x283, 0x283, 0x1, 0xDA), (0x288, 0x288, 0x1, 0xDA), (0x289, 0x289, 0x1, 0x45),
  (0x28A, 0x28B, 0x1, 0xD9), (0x28C, 0x28C, 0x1, 0x47), (0x292, 0x292, 0x1, 0xDB),
  (0x371, 0x373, 0x2, 0x1), (0x377, 0x377, 0x1, 0x1), (0x399, 0x399, 0x1, 0x54),
  (0x39C, 0x39C, 0x1, 0x2E7), (0x3AC, 0x3AC, 0x1, 0x26), (0x3AD, 0x3AF, 0x1, 0x25),
  (0x3B1, 0x3B8, 0x1, 0x20), (0x3B9, 0x3B9, 0x1, 0x74), (0x3BA, 0x3BB, 0x1, 0x20),
  (0x3BC, 0x3BC, 0x1, 0x307), (0x3BD, 0x3C1, 0x1, 0x20), (0x3C2, 0x3C2, 0x1, 0x1F),
  (0x3C3, 0x3CB, 0x1, 0x20), (0x3CC, 0x3CC, 0x1, 0x40), (0x3CD, 0x3CE, 0x1, 0x3F),
  (0x3D0, 0x3D0, 0x1, 0x3E), (0x3D1, 0x3D1, 0x1, 0x39), (0x3D5, 0x3D5, 0x1, 0x2F),
  (0x3D6, 0x3D6, 0x1, 0x36), (0x3D7, 0x3D7, 0x1, 0x8), (0x3D9, 0x3EF, 0x2, 0x1),
  (0x3F0, 0x3F0, 0x1, 0x56), (0x3F1, 0x3F1, 0x1, 0x50), (0x3F3, 0x3F3, 0x1, 0x74),
  (0x3F4, 0x3F4, 0x1, 0x5C), (0x3F5, 0x3F5, 0x1, 0x60), (0x3F8, 0x3F8, 0x1, 0x1),
  (0x3F9, 0x3F9, 0x1, 0x7), (0x3FB, 0x3FB, 0x1, 0x1), (0x3FD, 0x3FF, 0x1, 0x82),
  (0x430, 0x44F, 0x1, 0x20), (0x450, 0x45F, 0x1, 0x50), (0x461, 0x481, 0x2, 0x1),
  (0x48B, 0x4BF, 0x2, 0x1), (0x4C2, 0x4CE, 0x2, 0x1), (0x4CF, 0x4CF, 0x1, 0xF),
  (0x4D1, 0x52F, 0x2, 0x1), (0x561, 0x586, 0x1, 0x30), (0x13F8, 0x13FD, 0x1, 0x8),
  (0x1C80, 0x1C80, 0x1, 0x186E), (0x1C81, 0x1C81, 0x1, 0x186D), (0x1C82, 0x1C82, 0x1, 0x1864),
  (0x1C83, 0x1C84, 0x1, 0x1862), (0x1C85, 0x1C85, 0x1, 0x1863), (0x1C86, 0x1C86, 0x1, 0x185C),
  (0x1C87, 0x1C87, 0x1, 0x1825), (0x1C8A, 0x1C8A, 0x1, 0x1), (0x1C90, 0x1CBA, 0x1, 0xBC0),
  (0x1CBD, 0x1CBF, 0x1, 0xBC0), (0x1E01, 0x1E95, 0x2, 0x1), (0x1E9B, 0x1E9B, 0x1, 0x3B),
  (0x1E9E, 0x1E9E, 0x1, 0x1DBF), (0x1EA1, 0x1EFF, 0x2, 0x1), (0x1F08, 0x1F0F, 0x1, 0x8),
  (0x1F18, 0x1F1D, 0x1, 0x8), (0x1F28, 0x1F2F, 0x1, 0x8), (0x1F38, 0x1F3F, 0x1, 0x8),
  (0x1F48, 0x1F4D, 0x1, 0x8), (0x1F59, 0x1F5F, 0x2, 0x8), (0x1F68, 0x1F6F, 0x1, 0x8),
  (0x1F88, 0x1F8F, 0x1, 0x8), (0x1F98, 0x1F9F, 0x1, 0x8), (0x1FA8, 0x1FAF, 0x1, 0x8),
  (0x1FB8, 0x1FB9, 0x1, 0x8), (0x1FBA, 0x1FBB, 0x1, 0x4A), (0x1FBC, 0x1FBC, 0x1, 0x9),
  (0x1FBE, 0x1FBE, 0x1, 0x1C79), (0x1FC8, 0x1FCB, 0x1, 0x56), (0x1FCC, 0x1FCC, 0x1, 0x9),
  (0x1FD3, 0x1FD3, 0x1, 0x1C43), (0x1FD8, 0x1FD9, 0x1, 0x8), (0x1FDA, 0x1FDB, 0x1, 0x64),
  (0x1FE3, 0x1FE3, 0x1, 0x1C33), (0x1FE8, 0x1FE9, 0x1, 0x8), (0x1FEA, 0x1FEB, 0x1, 0x70),
  (0x1FEC, 0x1FEC, 0x1, 0x7), (0x1FF8, 0x1FF9, 0x1, 0x80), (0x1FFA, 0x1FFB, 0x1, 0x7E),
  (0x1FFC, 0x1FFC, 0x1, 0x9), (0x2126, 0x2126, 0x1, 0x1D7D), (0x212A, 0x212A, 0x1, 0x20DF),
  (0x212B, 0x212B, 0x1, 0x2066), (0x214E, 0x214E, 0x1, 0x1C), (0x2170, 0x217F, 0x1, 0x10),
  (0x2184, 0x2184, 0x1, 0x1), (0x24D0, 0x24E9, 0x1, 0x1A), (0x2C30, 0x2C5F, 0x1, 0x30),
  (0x2C61, 0x2C61, 0x1, 0x1), (0x2C62, 0x2C62, 0x1, 0x29F7), (0x2C63, 0x2C63, 0x1, 0xEE6),
  (0x2C64, 0x2C64, 0x1, 0x29E7), (0x2C65, 0x2C65, 0x1, 0x2A2B), (0x2C66, 0x2C66, 0x1, 0x2A28),
  (0x2C68, 0x2C6C, 0x2, 0x1), (0x2C6D, 0x2C6D, 0x1, 0x2A1C), (0x2C6E, 0x2C6E, 0x1, 0x29FD),
  (0x2C6F, 0x2C6F, 0x1, 0x2A1F), (0x2C70, 0x2C70, 0x1, 0x2A1E), (0x2C73, 0x2C73, 0x1, 0x1),
  (0x2C76, 0x2C76, 0x1, 0x1), (0x2C7E, 0x2C7F, 0x1, 0x2A3F), (0x2C81, 0x2CE3, 0x2, 0x1),
  (0x2CEC, 0x2CEE, 0x2, 0x1), (0x2CF3, 0x2CF3, 0x1, 0x1), (0x2D00, 0x2D25, 0x1, 0x1C60),
  (0x2D27, 0x2D27, 0x1, 0x1C60), (0x2D2D, 0x2D2D, 0x1, 0x1C60), (0xA641, 0xA649, 0x2, 0x1),
  (0xA64A, 0xA64A, 0x1, 0x89C2), (0xA64B, 0xA64B, 0x1, 0x89C3), (0xA64D, 0xA66D, 0x2, 0x1),
  (0xA681, 0xA69B, 0x2, 0x1), (0xA723, 0xA72F, 0x2, 0x1), (0xA733, 0xA76F, 0x2, 0x1),
  (0xA77A, 0xA77C, 0x2, 0x1), (0xA77D, 0xA77D, 0x1, 0x8A04), (0xA77F, 0xA787, 0x2, 0x1),
  (0xA78C, 0xA78C, 0x1, 0x1), (0xA78D, 0xA78D, 0x1, 0xA528), (0xA791, 0xA793, 0x2, 0x1),
  (0xA797, 0xA7A9, 0x2, 0x1), (0xA7AA, 0xA7AA, 0x1, 0xA544), (0xA7AB, 0xA7AB, 0x1, 0xA54F),
  (0xA7AC, 0xA7AC, 0x1, 0xA54B), (0xA7AD, 0xA7AD, 0x1, 0xA541), (0xA7AE, 0xA7AE, 0x1, 0xA544),
  (0xA7B0, 0xA7B0, 0x1, 0xA512), (0xA7B1, 0xA7B1, 0x1, 0xA52A), (0xA7B2, 0xA7B2, 0x1, 0xA515),
  (0xA7B5, 0xA7C3, 0x2, 0x1), (0xA7C4, 0xA7C4, 0x1, 0x30), (0xA7C5, 0xA7C5, 0x1, 0xA543),
  (0xA7C6, 0xA7C6, 0x1, 0x8A38), (0xA7C8, 0xA7CA, 0x2, 0x1), (0xA7CB, 0xA7CB, 0x1, 0xA567),
  (0xA7CD, 0xA7CD, 0x1, 0x1), (0xA7D1, 0xA7D1, 0x1, 0x1), (0xA7D7, 0xA7DB, 0x2, 0x1),
  (0xA7DC, 0xA7DC, 0x1, 0xA641), (0xA7F6, 0xA7F6, 0x1, 0x1), (0xAB53, 0xAB53, 0x1, 0x3A0),
  (0xAB70, 0xABBF, 0x1, 0x97D0), (0xFB06, 0xFB06, 0x1, 0x1), (0xFF41, 0xFF5A, 0x1, 0x20),
  (0x10428, 0x1044F, 0x1, 0x28), (0x104D8, 0x104FB, 0x1, 0x28), (0x10597, 0x105A1, 0x1, 0x27),
  (0x105A3, 0x105B1, 0x1, 0x27), (0x105B3, 0x105B9, 0x1, 0x27), (0x105BB, 0x105BC, 0x1, 0x27),
  (0x10CC0, 0x10CF2, 0x1, 0x40), (0x10D70, 0x10D85, 0x1, 0x20), (0x118C0, 0x118DF, 0x1, 0x20),
  (0x16E60, 0x16E7F, 0x1, 0x20), (0x1E922, 0x1E943, 0x1, 0x22)] :
    List (Nat × Nat × Nat × Nat)).map fun (a, b, s, d) => ⟨a, b, s, d⟩

/-- The code points of a run, each with the least one that it folds with before it. -/
def FoldRun.pairs (r : FoldRun) : List (Nat × Nat) :=
  (List.range ((r.last - r.first) / r.step + 1)).map fun i =>
    (r.first + i * r.step - r.offset, r.first + i * r.step)

/-- All pairs of a code point and the least one that it folds with, which comes first. -/
def foldPairs : List (Nat × Nat) :=
  foldRuns.flatMap FoldRun.pairs

/-- The least code points of the orbits that a set in order meets. -/
def orbitsMet (set : Ranges) : Ranges :=
  Ranges.ofList <| foldPairs.filterMap fun (least, n) =>
    if set.contains least || set.contains n then some (least, least) else none

/-- The set in order with all characters that differ from one of its own in case only. -/
def closeUnderCase (set : Ranges) : Ranges :=
  let met := orbitsMet set
  let variants := foldPairs.filterMap fun (least, n) =>
    if met.contains least then some (n, n) else none
  Ranges.unionAll [set, met, variants.toArray]

end AdaptiveTree.Text
