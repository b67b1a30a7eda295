/-!
Letters as the text indexes see them.

A *word character* is a letter or a digit in the Unicode sense, or a character for private use;
the table lists the ranges of the other characters (punctuation, symbols, spaces, marks and
controls) in the blocks that text is commonly written in, and a character outside them counts as
a word character. A *combining mark* (U+0300 to U+036F and the marks of a few other blocks) joins
the word it follows. Case folding maps a capital to its small letter and a few other letters to
the letter they are the same as (`ſ` to `s`, `µ` to `μ`); removing diacritics maps a letter of the
Latin blocks written with one diacritic to its plain small letter.
-/

namespace RosterSync.Database.TextSearch

/-- Ranges of characters beyond ASCII that are not letters, digits or characters for private
use, inclusive at both ends. -/
def nonWordRanges : List (Nat × Nat) :=
  [(0x80, 0xA9), (0xAB, 0xB1), (0xB4, 0xB4), (0xB6, 0xB8), (0xBB, 0xBB), (0xBF, 0xBF),
   (0xD7, 0xD7), (0xF7, 0xF7), (0x2C2, 0x2C5), (0x2D2, 0x2DF), (0x2E5, 0x2EB), (0x2ED, 0x2ED),
   (0x2EF, 0x36F), (0x375, 0x375), (0x37E, 0x37E), (0x384, 0x385), (0x387, 0x387),
   (0x3F6, 0x3F6), (0x482, 0x489), (0x55A, 0x55F), (0x589, 0x58A), (0x58D, 0x58F),
   (0x591, 0x5BD), (0x5BE, 0x5C7), (0x5F3, 0x5F4), (0x600, 0x60F), (0x610, 0x61F),
   (0x64B, 0x65F), (0x66A, 0x66D), (0x670, 0x670), (0x6D4, 0x6D4), (0x6D6, 0x6ED),
   (0x900, 0x903), (0x93A, 0x93C), (0x93E, 0x94F), (0x951, 0x957), (0x962, 0x965),
   (0x970, 0x970), (0xE31, 0xE31), (0xE34, 0xE3F), (0xE47, 0xE4F), (0xE5A, 0xE5B),
   (0x1680, 0x1680), (0x180E, 0x180E), (0x1AB0, 0x1AFF), (0x1DC0, 0x1DFF), (0x1FBD, 0x1FBD),
   (0x1FBF, 0x1FC1), (0x1FCD, 0x1FCF), (0x1FDD, 0x1FDF), (0x1FED, 0x1FEF), (0x1FFD, 0x1FFE),
   (0x2000, 0x206F), (0x207A, 0x207E), (0x208A, 0x208E), (0x20A0, 0x20FF), (0x2100, 0x2101),
   (0x2103, 0x2106), (0x2108, 0x2109), (0x2114, 0x2114), (0x2116, 0x2118), (0x211E, 0x2123),
   (0x2125, 0x2125), (0x2127, 0x2127), (0x2129, 0x2129), (0x212E, 0x212E), (0x213A, 0x213B),
   (0x2140, 0x2144), (0x214A, 0x214D), (0x214F, 0x214F), (0x218A, 0x218B), (0x2190, 0x245F),
   (0x249C, 0x24E9), (0x2500, 0x2775), (0x2794, 0x2BFF), (0x2CE5, 0x2CEA), (0x2CEF, 0x2CF1),
   (0x2CF9, 0x2CFC), (0x2CFE, 0x2CFF), (0x2DE0, 0x2E7F), (0x2E80, 0x2FFF), (0x3000, 0x3004),
   (0x3008, 0x3020), (0x302A, 0x3030), (0x3036, 0x3037), (0x303D, 0x303F), (0x3099, 0x309C),
   (0x30A0, 0x30A0), (0x30FB, 0x30FB), (0x3190, 0x3191), (0x3196, 0x319F), (0x31C0, 0x31EF),
   (0x3200, 0x321F), (0x322A, 0x3247), (0x3250, 0x3250), (0x3260, 0x327F), (0x328A, 0x32B0),
   (0x32C0, 0x33FF), (0x4DC0, 0x4DFF), (0xA490, 0xA4C6), (0xA700, 0xA716), (0xA720, 0xA721),
   (0xA789, 0xA78A), (0xD800, 0xDFFF), (0xFB29, 0xFB29), (0xFBB2, 0xFBC1), (0xFD3E, 0xFD3F),
   (0xFDFC, 0xFDFD), (0xFE00, 0xFE6F), (0xFEFF, 0xFEFF), (0xFF01, 0xFF0F), (0xFF1A, 0xFF20),
   (0xFF3B, 0xFF40), (0xFF5B, 0xFF65), (0xFFE0, 0xFFFF), (0x1D000, 0x1D24F),
   (0x1F000, 0x1F0FF), (0x1F10D, 0x1FAFF), (0xE0000, 0xE01EF)]

/-- Whether a character is a letter, a digit or a character for private use. -/
def isWordChar (c : Char) : Bool :=
  let n := c.toNat
  if n < 0x80 then c.isAlphanum
  else !nonWordRanges.any fun (lo, hi) => lo ≤ n && n ≤ hi

/-- Whether a character is a combining mark that joins the word before it. -/
def isCombiningMark (c : Char) : Bool :=
  let n := c.toNat
  (0x300 ≤ n && n ≤ 0x36F) || (0x483 ≤ n && n ≤ 0x487) || (0x591 ≤ n && n ≤ 0x5BD) ||
    (0x64B ≤ n && n ≤ 0x65F) || (0x1AB0 ≤ n && n ≤ 0x1AFF) || (0x1DC0 ≤ n && n ≤ 0x1DFF) ||
    (0x20D0 ≤ n && n ≤ 0x20FF) || (0xFE20 ≤ n && n ≤ 0xFE2F)

private def evenCode (n : Nat) : Bool := n % 2 == 0

/-- The small letter of a capital, and the letter a few other letters are the same as; any other
character is its own fold. -/
def foldCase (c : Char) : Char :=
  let n := c.toNat
  let m : Nat :=
    if n < 0x80 then (if 0x41 ≤ n && n ≤ 0x5A then n + 32 else n)
    else if n == 0xB5 then 0x3BC
    else if 0xC0 ≤ n && n ≤ 0xDE && n != 0xD7 then n + 32
    else if 0x100 ≤ n && n ≤ 0x12F then (if evenCode n then n + 1 else n)
    else if 0x132 ≤ n && n ≤ 0x137 then (if evenCode n then n + 1 else n)
    else if 0x139 ≤ n && n ≤ 0x148 then (if evenCode n then n else n + 1)
    else if 0x14A ≤ n && n ≤ 0x177 then (if evenCode n then n + 1 else n)
    else if n == 0x178 then 0xFF
    else if 0x179 ≤ n && n ≤ 0x17E then (if evenCode n then n else n + 1)
    else if n == 0x17F then 0x73
    else if n == 0x1C4 || n == 0x1C5 then 0x1C6
    else if n == 0x1C7 || n == 0x1C8 then 0x1C9
    else if n == 0x1CA || n == 0x1CB then 0x1CC
    else if 0x1CD ≤ n && n ≤ 0x1DC then (if evenCode n then n else n + 1)
    else if 0x1DE ≤ n && n ≤ 0x1EF then (if evenCode n then n + 1 else n)
    else if n == 0x1F1 || n == 0x1F2 then 0x1F3
    else if 0x1F8 ≤ n && n ≤ 0x21F then (if evenCode n then n + 1 else n)
    else if n == 0x386 then 0x3AC
    else if 0x388 ≤ n && n ≤ 0x38A then n + 37
    else if n == 0x38C then 0x3CC
    else if n == 0x38E || n == 0x38F then n + 63
    else if 0x391 ≤ n && n ≤ 0x3AB && n != 0x3A2 then n + 32
    else if 0x3D8 ≤ n && n ≤ 0x3EF then (if evenCode n then n + 1 else n)
    else if 0x400 ≤ n && n ≤ 0x40F then n + 80
    else if 0x410 ≤ n && n ≤ 0x42F then n + 32
    else if 0x460 ≤ n && n ≤ 0x481 then (if evenCode n then n + 1 else n)
    else if 0x48A ≤ n && n ≤ 0x4BF then (if evenCode n then n + 1 else n)
    else if n == 0x4C0 then 0x4CF
    else if 0x4C1 ≤ n && n ≤ 0x4CE then (if evenCode n then n else n + 1)
    else if 0x4D0 ≤ n && n ≤ 0x52F then (if evenCode n then n + 1 else n)
    else if 0x531 ≤ n && n ≤ 0x556 then n + 48
    else if 0x10A0 ≤ n && n ≤ 0x10C5 then n + 0x1C60
    else if 0x1E00 ≤ n && n ≤ 0x1E95 then (if evenCode n then n + 1 else n)
    else if n == 0x1E9E then 0xDF
    else if 0x1EA0 ≤ n && n ≤ 0x1EFF then (if evenCode n then n + 1 else n)
    else if 0x2160 ≤ n && n ≤ 0x216F then n + 16
    else if 0x24B6 ≤ n && n ≤ 0x24CF then n + 26
    else if 0xFF21 ≤ n && n ≤ 0xFF3A then n + 32
    else if 0x10400 ≤ n && n ≤ 0x10427 then n + 40
    else n
  Char.ofNat m

/-- The plain letters of the small Latin letters from U+00E0 to U+00FF, `_` where the letter
keeps its form. -/
def latinOneBases : String := "aaaaaa_ceeeeiiii_nooooo__uuuuy_y"

/-- The plain letters of the Latin Extended-A block, U+0100 to U+017F, `_` where the letter
keeps its form. -/
def latinExtendedBases : String :=
  "aaaaaaccccccccdd__eeeeeeeeeegggggggghh__iiiiiiiii___jjkk_llllll____nnnnnn___oooooo__rrrrrrsssssssstttt__uuuuuuuuuuuuwwyyyzzzzzz_"

/-- The plain small letter of a folded Latin letter written with one diacritic; any other
character is left as it is. -/
def stripDiacritic (c : Char) : Char :=
  let n := c.toNat
  let pick (table : String) (i : Nat) : Char :=
    match table.toList[i]? with
    | some b => if b == '_' then c else b
    | none => c
  if 0xE0 ≤ n && n ≤ 0xFF then pick latinOneBases (n - 0xE0)
  else if n == 0x130 then 'i'
  else if 0x100 ≤ n && n ≤ 0x17F then pick latinExtendedBases (n - 0x100)
  else c

end RosterSync.Database.TextSearch
