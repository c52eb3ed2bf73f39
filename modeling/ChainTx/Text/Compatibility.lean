/-!
# Compatibility forms of letters

Unicode has letters that differ from the basic lower-case ones only in their form: full-width,
styled, raised or lowered, ligatures. `Text.plainForm` replaces each by the basic letters that its
compatibility decomposition consists of. Characters that decompose into anything else are kept, for
no word of a mnemonic phrase contains them.
-/

namespace ChainTx.Text

/-- Runs of characters: the first code, how many follow one another, and what the first one stands
for. In a run of several, every character stands for the letter after that of the one before. -/
def compatibilityRuns : List (Nat × Nat × String) := [
  (0xaa, 1, "a"), (0xba, 1, "o"), (0x133, 1, "ij"), (0x17f, 1, "s"), (0x1c9, 1, "lj"),
  (0x1cc, 1, "nj"), (0x1f3, 1, "dz"), (0x2b0, 1, "h"), (0x2b2, 1, "j"), (0x2b3, 1, "r"),
  (0x2b7, 1, "w"), (0x2b8, 1, "y"), (0x2e1, 1, "l"), (0x2e2, 1, "s"), (0x2e3, 1, "x"),
  (0x1d43, 1, "a"), (0x1d47, 1, "b"), (0x1d48, 2, "d"), (0x1d4d, 1, "g"), (0x1d4f, 1, "k"),
  (0x1d50, 1, "m"), (0x1d52, 1, "o"), (0x1d56, 1, "p"), (0x1d57, 2, "t"), (0x1d5b, 1, "v"),
  (0x1d62, 1, "i"), (0x1d63, 1, "r"), (0x1d64, 2, "u"), (0x1d9c, 1, "c"), (0x1da0, 1, "f"),
  (0x1dbb, 1, "z"), (0x2071, 1, "i"), (0x207f, 1, "n"), (0x2090, 1, "a"), (0x2091, 1, "e"),
  (0x2092, 1, "o"), (0x2093, 1, "x"), (0x2095, 1, "h"), (0x2096, 4, "k"), (0x209a, 1, "p"),
  (0x209b, 2, "s"), (0x209d, 1, "w"), (0x209e, 2, "y"), (0x210a, 1, "g"), (0x210e, 1, "h"),
  (0x2113, 1, "l"), (0x212f, 1, "e"), (0x2134, 1, "o"), (0x2139, 1, "i"), (0x2146, 2, "d"),
  (0x2148, 2, "i"), (0x2170, 1, "i"), (0x2171, 1, "ii"), (0x2172, 1, "iii"), (0x2173, 1, "iv"),
  (0x2174, 1, "v"), (0x2175, 1, "vi"), (0x2176, 1, "vii"), (0x2177, 1, "viii"), (0x2178, 1, "ix"),
  (0x2179, 1, "x"), (0x217a, 1, "xi"), (0x217b, 1, "xii"), (0x217c, 1, "l"), (0x217d, 2, "c"),
  (0x217f, 1, "m"), (0x24d0, 26, "a"), (0x2c7c, 1, "j"), (0x32cd, 1, "erg"), (0x3372, 1, "da"),
  (0x3374, 1, "bar"), (0x3376, 1, "pc"), (0x3377, 1, "dm"), (0x3388, 1, "cal"), (0x3389, 1, "kcal"),
  (0x338e, 1, "mg"), (0x338f, 1, "kg"), (0x3396, 1, "ml"), (0x3397, 1, "dl"), (0x3398, 1, "kl"),
  (0x3399, 1, "fm"), (0x339a, 1, "nm"), (0x339c, 1, "mm"), (0x339d, 1, "cm"), (0x339e, 1, "km"),
  (0x33ad, 1, "rad"), (0x33b0, 1, "ps"), (0x33b1, 1, "ns"), (0x33b3, 1, "ms"), (0x33c4, 1, "cc"),
  (0x33c5, 1, "cd"), (0x33ca, 1, "ha"), (0x33cc, 1, "in"), (0x33cf, 1, "kt"), (0x33d0, 1, "lm"),
  (0x33d1, 1, "ln"), (0x33d2, 1, "log"), (0x33d3, 1, "lx"), (0x33d4, 1, "mb"), (0x33d5, 1, "mil"),
  (0x33d6, 1, "mol"), (0x33db, 1, "sr"), (0x33ff, 1, "gal"), (0xfb00, 1, "ff"), (0xfb01, 1, "fi"),
  (0xfb02, 1, "fl"), (0xfb03, 1, "ffi"), (0xfb04, 1, "ffl"), (0xfb05, 1, "st"), (0xfb06, 1, "st"),
  (0xff41, 26, "a"), (0x107a5, 1, "q"), (0x1d41a, 26, "a"), (0x1d44e, 7, "a"), (0x1d456, 18, "i"),
  (0x1d482, 26, "a"), (0x1d4b6, 4, "a"), (0x1d4bb, 1, "f"), (0x1d4bd, 7, "h"), (0x1d4c5, 11, "p"),
  (0x1d4ea, 26, "a"), (0x1d51e, 26, "a"), (0x1d552, 26, "a"), (0x1d586, 26, "a"),
  (0x1d5ba, 26, "a"), (0x1d5ee, 26, "a"), (0x1d622, 26, "a"), (0x1d656, 26, "a"),
  (0x1d68a, 26, "a")]

/-- The basic letters that a character is a form of, or the character itself. -/
def plainForm (c : Char) : List Char :=
  let n := c.toNat
  if n < 0x80 then [c]
  else
    let run := compatibilityRuns.find? fun (first, count, _) => first ≤ n && n < first + count
    match run with
    | none => [c]
    | some (_, 1, letters) => letters.toList
    | some (first, _, letters) => letters.toList.map fun l => Char.ofNat (l.toNat + (n - first))

end ChainTx.Text
