/-
# JsonRules.Unicode.Folding -- characters that differ only in case

Folding sends a character to the one that stands for it where case does not matter.
`Folding.variants` lists the characters with the same folding as a given one, so that a
set of characters can be closed under differences of case.
-/

namespace JsonRules.Unicode

set_option autoImplicit false

/-- A run of characters that all fold by the same distance. -/
structure FoldingRun where
  /-- The first character of the run. -/
  first : Nat
  /-- The distance between neighbours of the run. -/
  step : Nat
  /-- How many characters the run has. -/
  count : Nat
  /-- How far a character is from its folding. -/
  distance : Int
  deriving DecidableEq, Repr

namespace FoldingRun

/-- The code point belongs to the run. -/
def contains (run : FoldingRun) (n : Nat) : Bool :=
  run.first ≤ n && n < run.first + run.step * run.count && (n - run.first) % run.step == 0

end FoldingRun

namespace Folding

/-- Every character that is not its own folding. -/
def table : List FoldingRun :=
  [⟨0x41, 1, 26, 32⟩, ⟨0xb5, 1, 1, 775⟩, ⟨0xc0, 1, 23, 32⟩, ⟨0xd8, 1, 7, 32⟩, ⟨0x100, 2, 24, 1⟩,
   ⟨0x132, 2, 3, 1⟩, ⟨0x139, 2, 8, 1⟩, ⟨0x14a, 2, 23, 1⟩, ⟨0x178, 1, 1, -121⟩, ⟨0x179, 2, 3, 1⟩,
   ⟨0x17f, 1, 1, -268⟩, ⟨0x181, 1, 1, 210⟩, ⟨0x182, 2, 2, 1⟩, ⟨0x186, 1, 1, 206⟩, ⟨0x187, 1, 1, 1⟩,
   ⟨0x189, 1, 2, 205⟩, ⟨0x18b, 1, 1, 1⟩, ⟨0x18e, 1, 1, 79⟩, ⟨0x18f, 1, 1, 202⟩, ⟨0x190, 1, 1, 203⟩,
   ⟨0x191, 1, 1, 1⟩, ⟨0x193, 1, 1, 205⟩, ⟨0x194, 1, 1, 207⟩, ⟨0x196, 1, 1, 211⟩, ⟨0x197, 1, 1, 209⟩,
   ⟨0x198, 1, 1, 1⟩, ⟨0x19c, 1, 1, 211⟩, ⟨0x19d, 1, 1, 213⟩, ⟨0x19f, 1, 1, 214⟩, ⟨0x1a0, 2, 3, 1⟩,
   ⟨0x1a6, 1, 1, 218⟩, ⟨0x1a7, 1, 1, 1⟩, ⟨0x1a9, 1, 1, 218⟩, ⟨0x1ac, 1, 1, 1⟩, ⟨0x1ae, 1, 1, 218⟩,
   ⟨0x1af, 1, 1, 1⟩, ⟨0x1b1, 1, 2, 217⟩, ⟨0x1b3, 2, 2, 1⟩, ⟨0x1b7, 1, 1, 219⟩, ⟨0x1b8, 1, 1, 1⟩,
   ⟨0x1bc, 1, 1, 1⟩, ⟨0x1c4, 1, 1, 2⟩, ⟨0x1c5, 1, 1, 1⟩, ⟨0x1c7, 1, 1, 2⟩, ⟨0x1c8, 1, 1, 1⟩,
   ⟨0x1ca, 1, 1, 2⟩, ⟨0x1cb, 2, 9, 1⟩, ⟨0x1de, 2, 9, 1⟩, ⟨0x1f1, 1, 1, 2⟩, ⟨0x1f2, 2, 2, 1⟩,
   ⟨0x1f6, 1, 1, -97⟩, ⟨0x1f7, 1, 1, -56⟩, ⟨0x1f8, 2, 20, 1⟩, ⟨0x220, 1, 1, -130⟩, ⟨0x222, 2, 9, 1⟩,
   ⟨0x23a, 1, 1, 10795⟩, ⟨0x23b, 1, 1, 1⟩, ⟨0x23d, 1, 1, -163⟩, ⟨0x23e, 1, 1, 10792⟩,
   ⟨0x241, 1, 1, 1⟩, ⟨0x243, 1, 1, -195⟩, ⟨0x244, 1, 1, 69⟩, ⟨0x245, 1, 1, 71⟩, ⟨0x246, 2, 5, 1⟩,
   ⟨0x345, 1, 1, 116⟩, ⟨0x370, 2, 2, 1⟩, ⟨0x376, 1, 1, 1⟩, ⟨0x37f, 1, 1, 116⟩, ⟨0x386, 1, 1, 38⟩,
   ⟨0x388, 1, 3, 37⟩, ⟨0x38c, 1, 1, 64⟩, ⟨0x38e, 1, 2, 63⟩, ⟨0x391, 1, 17, 32⟩, ⟨0x3a3, 1, 9, 32⟩,
   ⟨0x3c2, 1, 1, 1⟩, ⟨0x3cf, 1, 1, 8⟩, ⟨0x3d0, 1, 1, -30⟩, ⟨0x3d1, 1, 1, -25⟩, ⟨0x3d5, 1, 1, -15⟩,
   ⟨0x3d6, 1, 1, -22⟩, ⟨0x3d8, 2, 12, 1⟩, ⟨0x3f0, 1, 1, -54⟩, ⟨0x3f1, 1, 1, -48⟩,
   ⟨0x3f4, 1, 1, -60⟩, ⟨0x3f5, 1, 1, -64⟩, ⟨0x3f7, 1, 1, 1⟩, ⟨0x3f9, 1, 1, -7⟩, ⟨0x3fa, 1, 1, 1⟩,
   ⟨0x3fd, 1, 3, -130⟩, ⟨0x400, 1, 16, 80⟩, ⟨0x410, 1, 32, 32⟩, ⟨0x460, 2, 17, 1⟩,
   ⟨0x48a, 2, 27, 1⟩, ⟨0x4c0, 1, 1, 15⟩, ⟨0x4c1, 2, 7, 1⟩, ⟨0x4d0, 2, 48, 1⟩, ⟨0x531, 1, 38, 48⟩,
   ⟨0x10a0, 1, 38, 7264⟩, ⟨0x10c7, 1, 1, 7264⟩, ⟨0x10cd, 1, 1, 7264⟩, ⟨0x13f8, 1, 6, -8⟩,
   ⟨0x1c80, 1, 1, -6222⟩, ⟨0x1c81, 1, 1, -6221⟩, ⟨0x1c82, 1, 1, -6212⟩, ⟨0x1c83, 1, 2, -6210⟩,
   ⟨0x1c85, 1, 1, -6211⟩, ⟨0x1c86, 1, 1, -6204⟩, ⟨0x1c87, 1, 1, -6180⟩, ⟨0x1c88, 1, 1, 35267⟩,
   ⟨0x1c89, 1, 1, 1⟩, ⟨0x1c90, 1, 43, -3008⟩, ⟨0x1cbd, 1, 3, -3008⟩, ⟨0x1e00, 2, 75, 1⟩,
   ⟨0x1e9b, 1, 1, -58⟩, ⟨0x1e9e, 1, 1, -7615⟩, ⟨0x1ea0, 2, 48, 1⟩, ⟨0x1f08, 1, 8, -8⟩,
   ⟨0x1f18, 1, 6, -8⟩, ⟨0x1f28, 1, 8, -8⟩, ⟨0x1f38, 1, 8, -8⟩, ⟨0x1f48, 1, 6, -8⟩,
   ⟨0x1f59, 2, 4, -8⟩, ⟨0x1f68, 1, 8, -8⟩, ⟨0x1f88, 1, 8, -8⟩, ⟨0x1f98, 1, 8, -8⟩,
   ⟨0x1fa8, 1, 8, -8⟩, ⟨0x1fb8, 1, 2, -8⟩, ⟨0x1fba, 1, 2, -74⟩, ⟨0x1fbc, 1, 1, -9⟩,
   ⟨0x1fbe, 1, 1, -7173⟩, ⟨0x1fc8, 1, 4, -86⟩, ⟨0x1fcc, 1, 1, -9⟩, ⟨0x1fd3, 1, 1, -7235⟩,
   ⟨0x1fd8, 1, 2, -8⟩, ⟨0x1fda, 1, 2, -100⟩, ⟨0x1fe3, 1, 1, -7219⟩, ⟨0x1fe8, 1, 2, -8⟩,
   ⟨0x1fea, 1, 2, -112⟩, ⟨0x1fec, 1, 1, -7⟩, ⟨0x1ff8, 1, 2, -128⟩, ⟨0x1ffa, 1, 2, -126⟩,
   ⟨0x1ffc, 1, 1, -9⟩, ⟨0x2126, 1, 1, -7517⟩, ⟨0x212a, 1, 1, -8383⟩, ⟨0x212b, 1, 1, -8262⟩,
   ⟨0x2132, 1, 1, 28⟩, ⟨0x2160, 1, 16, 16⟩, ⟨0x2183, 1, 1, 1⟩, ⟨0x24b6, 1, 26, 26⟩,
   ⟨0x2c00, 1, 48, 48⟩, ⟨0x2c60, 1, 1, 1⟩, ⟨0x2c62, 1, 1, -10743⟩, ⟨0x2c63, 1, 1, -3814⟩,
   ⟨0x2c64, 1, 1, -10727⟩, ⟨0x2c67, 2, 3, 1⟩, ⟨0x2c6d, 1, 1, -10780⟩, ⟨0x2c6e, 1, 1, -10749⟩,
   ⟨0x2c6f, 1, 1, -10783⟩, ⟨0x2c70, 1, 1, -10782⟩, ⟨0x2c72, 1, 1, 1⟩, ⟨0x2c75, 1, 1, 1⟩,
   ⟨0x2c7e, 1, 2, -10815⟩, ⟨0x2c80, 2, 50, 1⟩, ⟨0x2ceb, 2, 2, 1⟩, ⟨0x2cf2, 1, 1, 1⟩,
   ⟨0xa640, 2, 23, 1⟩, ⟨0xa680, 2, 14, 1⟩, ⟨0xa722, 2, 7, 1⟩, ⟨0xa732, 2, 31, 1⟩, ⟨0xa779, 2, 2, 1⟩,
   ⟨0xa77d, 1, 1, -35332⟩, ⟨0xa77e, 2, 5, 1⟩, ⟨0xa78b, 1, 1, 1⟩, ⟨0xa78d, 1, 1, -42280⟩,
   ⟨0xa790, 2, 2, 1⟩, ⟨0xa796, 2, 10, 1⟩, ⟨0xa7aa, 1, 1, -42308⟩, ⟨0xa7ab, 1, 1, -42319⟩,
   ⟨0xa7ac, 1, 1, -42315⟩, ⟨0xa7ad, 1, 1, -42305⟩, ⟨0xa7ae, 1, 1, -42308⟩, ⟨0xa7b0, 1, 1, -42258⟩,
   ⟨0xa7b1, 1, 1, -42282⟩, ⟨0xa7b2, 1, 1, -42261⟩, ⟨0xa7b3, 1, 1, 928⟩, ⟨0xa7b4, 2, 8, 1⟩,
   ⟨0xa7c4, 1, 1, -48⟩, ⟨0xa7c5, 1, 1, -42307⟩, ⟨0xa7c6, 1, 1, -35384⟩, ⟨0xa7c7, 2, 2, 1⟩,
   ⟨0xa7cb, 1, 1, -42343⟩, ⟨0xa7cc, 1, 1, 1⟩, ⟨0xa7d0, 1, 1, 1⟩, ⟨0xa7d6, 2, 3, 1⟩,
   ⟨0xa7dc, 1, 1, -42561⟩, ⟨0xa7f5, 1, 1, 1⟩, ⟨0xab70, 1, 80, -38864⟩, ⟨0xfb05, 1, 1, 1⟩,
   ⟨0xff21, 1, 26, 32⟩, ⟨0x10400, 1, 40, 40⟩, ⟨0x104b0, 1, 36, 40⟩, ⟨0x10570, 1, 11, 39⟩,
   ⟨0x1057c, 1, 15, 39⟩, ⟨0x1058c, 1, 7, 39⟩, ⟨0x10594, 1, 2, 39⟩, ⟨0x10c80, 1, 51, 64⟩,
   ⟨0x10d50, 1, 22, 32⟩, ⟨0x118a0, 1, 32, 32⟩, ⟨0x16e40, 1, 32, 32⟩, ⟨0x1e900, 1, 34, 34⟩]

/-- The code point that stands for `n` where case does not matter. -/
def fold (n : Nat) : Nat :=
  match table.find? (·.contains n) with
  | some run => (n + run.distance).toNat
  | none => n

/-- The code points with the same folding as `n`, itself included. -/
def variants (n : Nat) : List Nat :=
  let folded := fold n
  folded :: table.filterMap fun run =>
    let source := ((folded : Int) - run.distance).toNat
    if run.contains source then some source else none

end Folding

end JsonRules.Unicode
