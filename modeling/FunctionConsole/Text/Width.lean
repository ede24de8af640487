import FunctionConsole.Text.Marks

/-!
# How many cells a text takes

A character takes no cell if it attaches to another or shows nothing, two cells if it is wide, and
one otherwise. A text takes the sum, apart from sequences that are drawn as one. A pictograph with a
selector, with a skin tone, or joined to others takes two cells together, and in some scripts
letters grow together with those behind them. The cells are counted from the end of a text, so that
what a character adds depends on what follows it; a character may take back a cell that was counted
before it.

The tables are those of Unicode 17.
-/

namespace FunctionConsole.Text

/-- Characters that show nothing. -/
def ignorableTable : List (Nat × Nat) :=
  [(0xAD, 0xAD), (0x34F, 0x34F), (0x61C, 0x61C), (0x115F, 0x1160), (0x17B4, 0x17B5),
   (0x180B, 0x180F), (0x200B, 0x200F), (0x202A, 0x202E), (0x2060, 0x206F), (0x3164, 0x3164),
   (0xFE00, 0xFE0F), (0xFEFF, 0xFEFF), (0xFFA0, 0xFFA0), (0xFFF0, 0xFFF8), (0x1BCA0, 0x1BCA3),
   (0x1D173, 0x1D17A), (0xE0000, 0xE0FFF)]

/-- Characters that take two cells. -/
def wideTable : List (Nat × Nat) :=
  [(0x1100, 0x115F), (0x231A, 0x231B), (0x2329, 0x232A), (0x23E9, 0x23EC), (0x23F0, 0x23F0),
   (0x23F3, 0x23F3), (0x25FD, 0x25FE), (0x2614, 0x2615), (0x2630, 0x2637), (0x2648, 0x2653),
   (0x267F, 0x267F), (0x268A, 0x268F), (0x2693, 0x2693), (0x26A1, 0x26A1), (0x26AA, 0x26AB),
   (0x26BD, 0x26BE), (0x26C4, 0x26C5), (0x26CE, 0x26CE), (0x26D4, 0x26D4), (0x26EA, 0x26EA),
   (0x26F2, 0x26F3), (0x26F5, 0x26F5), (0x26FA, 0x26FA), (0x26FD, 0x26FD), (0x2705, 0x2705),
   (0x270A, 0x270B), (0x2728, 0x2728), (0x274C, 0x274C), (0x274E, 0x274E), (0x2753, 0x2755),
   (0x2757, 0x2757), (0x2795, 0x2797), (0x27B0, 0x27B0), (0x27BF, 0x27BF), (0x2B1B, 0x2B1C),
   (0x2B50, 0x2B50), (0x2B55, 0x2B55), (0x2E80, 0x2E99), (0x2E9B, 0x2EF3), (0x2F00, 0x2FD5),
   (0x2FF0, 0x3029), (0x3030, 0x303E), (0x3041, 0x3096), (0x309B, 0x30FF), (0x3105, 0x312F),
   (0x3131, 0x3163), (0x3165, 0x318E), (0x3190, 0x31E5), (0x31EF, 0x321E), (0x3220, 0x3247),
   (0x3250, 0xA48C), (0xA490, 0xA4C6), (0xA960, 0xA97C), (0xAC00, 0xD7A3), (0xF900, 0xFAFF),
   (0xFE10, 0xFE19), (0xFE30, 0xFE52), (0xFE54, 0xFE66), (0xFE68, 0xFE6B), (0xFF01, 0xFF60),
   (0xFFE0, 0xFFE6), (0x16FE0, 0x16FE3), (0x16FF2, 0x16FF6), (0x17000, 0x18CD5),
   (0x18CFF, 0x18D1E), (0x18D80, 0x18DF2), (0x1AFF0, 0x1AFF3), (0x1AFF5, 0x1AFFB),
   (0x1AFFD, 0x1AFFE), (0x1B000, 0x1B122), (0x1B132, 0x1B132), (0x1B150, 0x1B152),
   (0x1B155, 0x1B155), (0x1B164, 0x1B167), (0x1B170, 0x1B2FB), (0x1D300, 0x1D356),
   (0x1D360, 0x1D376), (0x1F004, 0x1F004), (0x1F0CF, 0x1F0CF), (0x1F18E, 0x1F18E),
   (0x1F191, 0x1F19A), (0x1F200, 0x1F202), (0x1F210, 0x1F23B), (0x1F240, 0x1F248),
   (0x1F250, 0x1F251), (0x1F260, 0x1F265), (0x1F300, 0x1F320), (0x1F32D, 0x1F335),
   (0x1F337, 0x1F37C), (0x1F37E, 0x1F393), (0x1F3A0, 0x1F3CA), (0x1F3CF, 0x1F3D3),
   (0x1F3E0, 0x1F3F0), (0x1F3F4, 0x1F3F4), (0x1F3F8, 0x1F43E), (0x1F440, 0x1F440),
   (0x1F442, 0x1F4FC), (0x1F4FF, 0x1F53D), (0x1F54B, 0x1F54E), (0x1F550, 0x1F567),
   (0x1F57A, 0x1F57A), (0x1F595, 0x1F596), (0x1F5A4, 0x1F5A4), (0x1F5FB, 0x1F64F),
   (0x1F680, 0x1F6C5), (0x1F6CC, 0x1F6CC), (0x1F6D0, 0x1F6D2), (0x1F6D5, 0x1F6D8),
   (0x1F6DC, 0x1F6DF), (0x1F6EB, 0x1F6EC), (0x1F6F4, 0x1F6FC), (0x1F7E0, 0x1F7EB),
   (0x1F7F0, 0x1F7F0), (0x1F90C, 0x1F93A), (0x1F93C, 0x1F945), (0x1F947, 0x1F9FF),
   (0x1FA70, 0x1FA7C), (0x1FA80, 0x1FA8A), (0x1FA8E, 0x1FAC6), (0x1FAC8, 0x1FAC8),
   (0x1FACD, 0x1FADC), (0x1FADF, 0x1FAEA), (0x1FAEF, 0x1FAF8), (0x20000, 0x2FFFD),
   (0x30000, 0x3FFFD)]

/-- Narrow characters that a selector turns into a picture. -/
def picturedTable : List (Nat × Nat) :=
  [(0x23, 0x23), (0x2A, 0x2A), (0x30, 0x39), (0xA9, 0xA9), (0xAE, 0xAE), (0x203C, 0x203C),
   (0x2049, 0x2049), (0x2122, 0x2122), (0x2139, 0x2139), (0x2194, 0x2199), (0x21A9, 0x21AA),
   (0x2328, 0x2328), (0x23CF, 0x23CF), (0x23ED, 0x23EF), (0x23F1, 0x23F2), (0x23F8, 0x23FA),
   (0x24C2, 0x24C2), (0x25AA, 0x25AB), (0x25B6, 0x25B6), (0x25C0, 0x25C0), (0x25FB, 0x25FC),
   (0x2600, 0x2604), (0x260E, 0x260E), (0x2611, 0x2611), (0x2618, 0x2618), (0x261D, 0x261D),
   (0x2620, 0x2620), (0x2622, 0x2623), (0x2626, 0x2626), (0x262A, 0x262A), (0x262E, 0x262F),
   (0x2638, 0x263A), (0x2640, 0x2640), (0x2642, 0x2642), (0x265F, 0x2660), (0x2663, 0x2663),
   (0x2665, 0x2666), (0x2668, 0x2668), (0x267B, 0x267B), (0x267E, 0x267E), (0x2692, 0x2692),
   (0x2694, 0x2697), (0x2699, 0x2699), (0x269B, 0x269C), (0x26A0, 0x26A0), (0x26A7, 0x26A7),
   (0x26B0, 0x26B1), (0x26C8, 0x26C8), (0x26CF, 0x26CF), (0x26D1, 0x26D1), (0x26D3, 0x26D3),
   (0x26E9, 0x26E9), (0x26F0, 0x26F1), (0x26F4, 0x26F4), (0x26F7, 0x26F9), (0x2702, 0x2702),
   (0x2708, 0x2709), (0x270C, 0x270D), (0x270F, 0x270F), (0x2712, 0x2712), (0x2714, 0x2714),
   (0x2716, 0x2716), (0x271D, 0x271D), (0x2721, 0x2721), (0x2733, 0x2734), (0x2744, 0x2744),
   (0x2747, 0x2747), (0x2763, 0x2764), (0x27A1, 0x27A1), (0x2934, 0x2935), (0x2B05, 0x2B07),
   (0x1F170, 0x1F171), (0x1F17E, 0x1F17F), (0x1F321, 0x1F321), (0x1F324, 0x1F32C),
   (0x1F336, 0x1F336), (0x1F37D, 0x1F37D), (0x1F396, 0x1F397), (0x1F399, 0x1F39B),
   (0x1F39E, 0x1F39F), (0x1F3CB, 0x1F3CE), (0x1F3D4, 0x1F3DF), (0x1F3F3, 0x1F3F3),
   (0x1F3F5, 0x1F3F5), (0x1F3F7, 0x1F3F7), (0x1F43F, 0x1F43F), (0x1F441, 0x1F441),
   (0x1F4FD, 0x1F4FD), (0x1F549, 0x1F54A), (0x1F56F, 0x1F570), (0x1F573, 0x1F579),
   (0x1F587, 0x1F587), (0x1F58A, 0x1F58D), (0x1F590, 0x1F590), (0x1F5A5, 0x1F5A5),
   (0x1F5A8, 0x1F5A8), (0x1F5B1, 0x1F5B2), (0x1F5BC, 0x1F5BC), (0x1F5C2, 0x1F5C4),
   (0x1F5D1, 0x1F5D3), (0x1F5DC, 0x1F5DE), (0x1F5E1, 0x1F5E1), (0x1F5E3, 0x1F5E3),
   (0x1F5E8, 0x1F5E8), (0x1F5EF, 0x1F5EF), (0x1F5F3, 0x1F5F3), (0x1F5FA, 0x1F5FA),
   (0x1F6CB, 0x1F6CB), (0x1F6CD, 0x1F6CF), (0x1F6E0, 0x1F6E5), (0x1F6E9, 0x1F6E9),
   (0x1F6F0, 0x1F6F0), (0x1F6F3, 0x1F6F3)]

/-- Wide characters for which there is a selector. -/
def variedTable : List (Nat × Nat) :=
  [(0x231A, 0x231B), (0x23E9, 0x23EC), (0x23F0, 0x23F0), (0x23F3, 0x23F3), (0x25FD, 0x25FE),
   (0x2614, 0x2615), (0x2648, 0x2653), (0x267F, 0x267F), (0x2693, 0x2693), (0x26A1, 0x26A1),
   (0x26AA, 0x26AB), (0x26BD, 0x26BE), (0x26C4, 0x26C5), (0x26CE, 0x26CE), (0x26D4, 0x26D4),
   (0x26EA, 0x26EA), (0x26F2, 0x26F3), (0x26F5, 0x26F5), (0x26FA, 0x26FA), (0x26FD, 0x26FD),
   (0x2705, 0x2705), (0x270A, 0x270B), (0x2728, 0x2728), (0x274C, 0x274C), (0x274E, 0x274E),
   (0x2753, 0x2755), (0x2757, 0x2757), (0x2795, 0x2797), (0x27B0, 0x27B0), (0x27BF, 0x27BF),
   (0x2B1B, 0x2B1C), (0x2B50, 0x2B50), (0x2B55, 0x2B55), (0x3030, 0x3030), (0x303D, 0x303D),
   (0x3297, 0x3297), (0x3299, 0x3299), (0x1F004, 0x1F004), (0x1F202, 0x1F202), (0x1F21A, 0x1F21A),
   (0x1F22F, 0x1F22F), (0x1F237, 0x1F237), (0x1F30D, 0x1F30F), (0x1F315, 0x1F315),
   (0x1F31C, 0x1F31C), (0x1F378, 0x1F378), (0x1F393, 0x1F393), (0x1F3A7, 0x1F3A7),
   (0x1F3AC, 0x1F3AE), (0x1F3C2, 0x1F3C2), (0x1F3C4, 0x1F3C4), (0x1F3C6, 0x1F3C6),
   (0x1F3CA, 0x1F3CA), (0x1F3E0, 0x1F3E0), (0x1F3ED, 0x1F3ED), (0x1F408, 0x1F408),
   (0x1F415, 0x1F415), (0x1F41F, 0x1F41F), (0x1F426, 0x1F426), (0x1F442, 0x1F442),
   (0x1F446, 0x1F449), (0x1F44D, 0x1F44E), (0x1F453, 0x1F453), (0x1F46A, 0x1F46A),
   (0x1F47D, 0x1F47D), (0x1F4A3, 0x1F4A3), (0x1F4B0, 0x1F4B0), (0x1F4B3, 0x1F4B3),
   (0x1F4BB, 0x1F4BB), (0x1F4BF, 0x1F4BF), (0x1F4CB, 0x1F4CB), (0x1F4DA, 0x1F4DA),
   (0x1F4DF, 0x1F4DF), (0x1F4E4, 0x1F4E6), (0x1F4EA, 0x1F4ED), (0x1F4F7, 0x1F4F7),
   (0x1F4F9, 0x1F4FB), (0x1F508, 0x1F508), (0x1F50D, 0x1F50D), (0x1F512, 0x1F513),
   (0x1F550, 0x1F567), (0x1F610, 0x1F610), (0x1F687, 0x1F687), (0x1F68D, 0x1F68D),
   (0x1F691, 0x1F691), (0x1F694, 0x1F694), (0x1F698, 0x1F698), (0x1F6AD, 0x1F6AD),
   (0x1F6B2, 0x1F6B2), (0x1F6B9, 0x1F6BA), (0x1F6BC, 0x1F6BC)]

/-- Pictures that take a skin tone. -/
def tonedTable : List (Nat × Nat) :=
  [(0x261D, 0x261D), (0x26F9, 0x26F9), (0x270A, 0x270D), (0x1F385, 0x1F385), (0x1F3C2, 0x1F3C4),
   (0x1F3C7, 0x1F3C7), (0x1F3CA, 0x1F3CC), (0x1F442, 0x1F443), (0x1F446, 0x1F450),
   (0x1F466, 0x1F478), (0x1F47C, 0x1F47C), (0x1F481, 0x1F483), (0x1F485, 0x1F487),
   (0x1F48F, 0x1F48F), (0x1F491, 0x1F491), (0x1F4AA, 0x1F4AA), (0x1F574, 0x1F575),
   (0x1F57A, 0x1F57A), (0x1F590, 0x1F590), (0x1F595, 0x1F596), (0x1F645, 0x1F647),
   (0x1F64B, 0x1F64F), (0x1F6A3, 0x1F6A3), (0x1F6B4, 0x1F6B6), (0x1F6C0, 0x1F6C0),
   (0x1F6CC, 0x1F6CC), (0x1F90C, 0x1F90C), (0x1F90F, 0x1F90F), (0x1F918, 0x1F91F),
   (0x1F926, 0x1F926), (0x1F930, 0x1F939), (0x1F93C, 0x1F93E), (0x1F977, 0x1F977),
   (0x1F9B5, 0x1F9B6), (0x1F9B8, 0x1F9B9), (0x1F9BB, 0x1F9BB), (0x1F9CD, 0x1F9CF),
   (0x1F9D1, 0x1F9DD), (0x1FAC3, 0x1FAC5), (0x1FAF0, 0x1FAF8)]

/-- Letters of Arabic that grow together with a `lam` before them. -/
def alefTable : List (Nat × Nat) :=
  [(0x622, 0x623), (0x625, 0x625), (0x627, 0x627), (0x671, 0x673), (0x675, 0x675), (0x773, 0x774),
   (0x870, 0x882)]

/-- The forms of the letter `lam`. -/
def lamTable : List (Nat × Nat) :=
  [(0x644, 0x644), (0x6B5, 0x6B8), (0x76A, 0x76A), (0x8A6, 0x8A6), (0x8C7, 0x8C7)]

/-- Characters without a cell that keep a `lam` from growing together with what is behind them. -/
def partingTable : List (Nat × Nat) :=
  [(0x605, 0x605), (0x890, 0x891), (0x8E2, 0x8E2), (0x9BE, 0x9BE), (0x9D7, 0x9D7), (0xB3E, 0xB3E),
   (0xB57, 0xB57), (0xBBE, 0xBBE), (0xBD7, 0xBD7), (0xCC0, 0xCC0), (0xCC2, 0xCC2), (0xCC7, 0xCC8),
   (0xCCA, 0xCCB), (0xCD5, 0xCD6), (0xD3E, 0xD3E), (0xD57, 0xD57), (0xDCF, 0xDCF), (0xDDF, 0xDDF),
   (0x1160, 0x11FF), (0x1715, 0x1715), (0x1734, 0x1734), (0x180E, 0x180E), (0x1B35, 0x1B35),
   (0x1B3B, 0x1B3B), (0x1B3D, 0x1B3D), (0x1B43, 0x1B44), (0x1BAA, 0x1BAA), (0x1BF2, 0x1BF3),
   (0x200C, 0x200D), (0x2065, 0x2069), (0x302E, 0x302F), (0x3164, 0x3164), (0xA8FA, 0xA8FA),
   (0xA953, 0xA953), (0xA9C0, 0xA9C0), (0xD7B0, 0xD7C6), (0xD7CB, 0xD7FB), (0xFF9E, 0xFFA0),
   (0xFFF0, 0xFFF8), (0x111C0, 0x111C0), (0x11235, 0x11235), (0x1133E, 0x1133E), (0x1134D, 0x1134D),
   (0x11357, 0x11357), (0x113B8, 0x113B8), (0x113C2, 0x113C2), (0x113C5, 0x113C5),
   (0x113C7, 0x113C9), (0x113CF, 0x113CF), (0x114B0, 0x114B0), (0x114BD, 0x114BD),
   (0x115AF, 0x115AF), (0x116B6, 0x116B6), (0x11930, 0x11930), (0x1193D, 0x1193D),
   (0x11F41, 0x11F41), (0x16FF0, 0x16FF1), (0x1D165, 0x1D166), (0x1D16D, 0x1D172),
   (0xE0000, 0xE0000), (0xE0002, 0xE001F), (0xE0080, 0xE00FF), (0xE01F0, 0xE0FFF)]

/-- Letters of Khmer that are drawn below the one before them. -/
def subscriptTable : List (Nat × Nat) :=
  [(0x1780, 0x1782), (0x1784, 0x1787), (0x1789, 0x178C), (0x178E, 0x1793), (0x1795, 0x1798),
   (0x179B, 0x179D), (0x17A0, 0x17A0), (0x17A2, 0x17A2), (0x17A7, 0x17A7), (0x17AB, 0x17AC),
   (0x17AF, 0x17AF)]

/-- Consonants of Tifinagh. -/
def tifinaghTable : List (Nat × Nat) := [(0x2D31, 0x2D65), (0x2D6F, 0x2D6F)]

/-- Marks that do not part letters which grow together, the joiner aside. -/
def passedTable : List (Nat × Nat) :=
  [(0x34F, 0x34F), (0x17B4, 0x17B5), (0x180B, 0x180D), (0x180F, 0x180F), (0xFE00, 0xFE0F),
   (0xE0100, 0xE01EF)]

/-- Whether a character is a control of the first two blocks. -/
def isControl (c : Char) : Bool := c.toNat < 0x20 || (0x7F ≤ c.toNat && c.toNat < 0xA0)

/-- Whether a character takes no cell. -/
def takesNoCell (c : Char) : Bool :=
  let n := c.toNat
  if n < 0xAD then false
  else if n = 0x115F ∨ n = 0x17A4 ∨ n = 0x2D7F then false
  else
    isExtending c || inTable ignorableTable n ||
      n < 0x10000 && (syllablePart? c == some .vowel || syllablePart? c == some .trailing) ||
      [0x605, 0x70F, 0x890, 0x891, 0x8E2, 0xA8FA].contains n

/-- Whether a character takes two cells. -/
def isWide (c : Char) : Bool :=
  0x1100 ≤ c.toNat && (c.toNat == 0x17A4 || inTable wideTable c.toNat)

/-- The cells of a character; controls have none. -/
def charWidth (c : Char) : Nat :=
  if c.toNat < 0x7F then (if c.toNat < 0x20 then 0 else 1)
  else if isControl c || takesNoCell c then 0
  else if c.toNat = 0x17D8 then 3
  else if isWide c then 2
  else 1

/-- Whether a character shows as a picture by itself. -/
def isPicture (c : Char) : Bool :=
  0x231A ≤ c.toNat && isWide c && isPictograph c &&
    !([0x3030, 0x303D, 0x3297, 0x3299, 0x1F202, 0x1F237].contains c.toNat)

/-- Whether a selector after a character makes a picture of it. -/
def startsPicture (c : Char) : Bool :=
  inTable picturedTable c.toNat || isWide c && inTable variedTable c.toNat

/-- Whether a selector after a picture makes it narrow. -/
def startsPlain (c : Char) : Bool :=
  isPicture c && inTable variedTable c.toNat && !(0x1F200 ≤ c.toNat && c.toNat < 0x1F300)

/-- The selector for a picture. -/
def pictureSelector : Char := '\uFE0F'

/-- The selector for plain text. -/
def textSelector : Char := '\uFE0E'

-- ==================================================== what stands to the right

/-- Letters that grow together with those before them. -/
inductive Ligature where
  /-- An Arabic `alef`. -/
  | alef
  /-- A Hebrew `lamed`. -/
  | lamed
  /-- A Khmer letter that may be drawn below another. -/
  | subscript
  /-- A Buginese `ya`. -/
  | ya
  /-- A Buginese `ya` with the vowel before it. -/
  | vowelAndYa
  /-- A consonant of Tifinagh. -/
  | consonant
  /-- A consonant of Tifinagh with the sign before it that joins consonants. -/
  | signAndConsonant
  /-- The second half of a tone of Lisu. -/
  | tone
  /-- An Old Turkic `i`. -/
  | orkhonI
  deriving DecidableEq, Repr

/-- A joiner with a picture behind it, or what may stand before these. -/
inductive Joined where
  | bare
  /-- The key around a character. -/
  | key
  /-- A half of a flag. -/
  | flagHalf
  /-- Halves of flags, and whether their number is even. -/
  | flagHalves (even : Bool)
  /-- The letters of a tagged flag, from the end on, and how many they are. -/
  | letters (count : Nat)
  /-- The digits of a tagged flag, from the last one on, and how many they are. -/
  | digits (count : Nat)
  deriving DecidableEq, Repr

/-- What stands to the right of a character, as far as it matters for its cells. -/
inductive Neighbour where
  | other
  | lineFeed
  | picture
  | skinTone
  | flagHalf
  /-- Several halves of flags. -/
  | flagHalves
  | joined (tail : Joined)
  /-- A letter that grows together with others, and whether a joiner stands before it. -/
  | ligature (letter : Ligature) (tied : Bool)
  /-- A vowel of Kirat Rai that grows together with others, and whether it is a double one. -/
  | kirat (double : Bool)
  deriving DecidableEq, Repr

/-- The two selectors. -/
inductive Selector where
  | picture
  | plain
  deriving DecidableEq, Repr

/-- A neighbour, and the selector before it, if there is one. -/
structure Following where
  neighbour : Neighbour
  selector : Option Selector := none
  deriving DecidableEq, Repr

-- ==================================================== what a character adds

/-- The letter that a character is, if it grows together with others. -/
def ligature? (c : Char) : Option Ligature :=
  let n := c.toNat
  if inTable alefTable n then some .alef
  else if n = 0x5DC then some .lamed
  else if inTable subscriptTable n then some .subscript
  else if n = 0x1A10 then some .ya
  else if inTable tifinaghTable n then some .consonant
  else if n = 0xA4FC ∨ n = 0xA4FD then some .tone
  else if n = 0x10C03 then some .orkhonI
  else none

/-- What a character is to the one before it, whatever follows. -/
def neighbourOf (c : Char) : Neighbour :=
  if isSkinTone c then .skinTone
  else if isFlagHalf c then .flagHalf
  else if isPicture c then .picture
  else if c.toNat = 0x16D67 then .kirat false
  else if c.toNat = 0x16D68 then .kirat true
  else match ligature? c with
    | some letter => .ligature letter false
    | none => .other

/-- Whether a letter grows together with others across a character. -/
def Ligature.passes (letter : Ligature) (c : Char) : Bool :=
  if letter = .alef then charWidth c = 0 && !inTable partingTable c.toNat
  else c = joiner || inTable passedTable c.toNat

/-- What a character adds if it grows together with a letter behind it, and what it makes of it. A
letter is tied if a joiner stands before it. -/
def Ligature.grown? (letter : Ligature) (tied : Bool) (c : Char) : Option (Int × Neighbour) :=
  let n := c.toNat
  match letter with
  | .alef => if inTable lamTable n then some (0, .other) else none
  | .lamed => if tied ∧ n = 0x5D0 then some (0, .other) else none
  | .subscript => if n = 0x17D2 then some (-1, .other) else none
  | .ya => if tied ∧ n = 0x1A17 then some (0, .ligature .vowelAndYa true) else none
  | .vowelAndYa => if n = 0x1A15 then some (0, .other) else none
  | .consonant =>
    if n = 0x2D7F then some (1, .ligature .signAndConsonant true)
    else if tied ∧ inTable tifinaghTable n then some (0, .other)
    else none
  | .signAndConsonant => if inTable tifinaghTable n then some (-1, .other) else none
  | .tone => if 0xA4F8 ≤ n ∧ n ≤ 0xA4FB then some (0, .other) else none
  | .orkhonI => if tied ∧ n = 0x10C32 then some (0, .other) else none

/-- What a character adds before a letter that grows together with others, and what it makes of the
letter, unless it is nothing to it. -/
def Ligature.before? (letter : Ligature) (tied : Bool) (c : Char) : Option (Int × Neighbour) :=
  if letter.passes c then some (0, .ligature letter (tied || c = joiner)) else letter.grown? tied c

/-- What a character adds before a picture that is joined to others, and what it makes of it, unless
it is nothing to it. -/
def Joined.before? (tail : Joined) (c : Char) : Option (Int × Neighbour) :=
  let n := c.toNat
  match tail with
  | .bare =>
    if n = 0x20E3 then some (0, .joined .key)
    else if isFlagHalf c then some (1, .joined .flagHalf)
    else if isSkinTone c then some (0, .skinTone)
    else if n = 0xE007F then some (0, .joined (.letters 0))
    else if isPicture c then some (0, .picture)
    else none
  | .key => none
  | .flagHalf => if isFlagHalf c then some (-1, .joined (.flagHalves true)) else none
  | .flagHalves even =>
    -- with an odd number of halves the first one is alone, with an even number it is part of a flag
    if isFlagHalf c then some (if even then 3 else -1, .joined (.flagHalves !even))
    else if c = joiner then some (0, .joined .bare)
    else none
  | .letters count =>
    if 0xE0061 ≤ n ∧ n ≤ 0xE007A ∧ count < 6 then some (0, .joined (.letters (count + 1)))
    else if 0xE0030 ≤ n ∧ n ≤ 0xE0039 ∧ count ≤ 4 then some (0, .joined (.digits 1))
    else if n = 0x1F3F4 ∧ 3 ≤ count then some (0, .picture)
    else none
  | .digits count =>
    if 0xE0030 ≤ n ∧ n ≤ 0xE0039 ∧ count < 3 then some (0, .joined (.digits (count + 1)))
    else if n = 0x1F3F4 ∧ count = 3 then some (0, .picture)
    else none

/-- What a character adds before a neighbour, and what it makes of it, unless it is nothing to
it. -/
def Neighbour.before? (next : Neighbour) (c : Char) : Option (Int × Neighbour) :=
  match next with
  | .other | .lineFeed => none
  | .picture => if c = joiner then some (0, .joined .bare) else none
  | .skinTone =>
    if inTable tonedTable c.toNat then some (0, .picture)
    else if c = joiner then some (0, .joined .bare)
    else none
  | .flagHalf => if isFlagHalf c then some (1, .flagHalves) else none
  | .flagHalves =>
    if isFlagHalf c then some (1, .flagHalves)
    else if c = joiner then some (0, .joined .bare)
    else none
  | .joined tail => tail.before? c
  | .ligature letter tied => letter.before? tied c
  | .kirat double =>
    if c.toNat = 0x16D63 then some (0, .other)
    else if double then none
    else if c.toNat = 0x16D67 then some (0, .kirat true)
    else if c.toNat = 0x16D68 then some (1, .kirat false)
    else if c.toNat = 0x16D69 then some (0, .other)
    else none

/-- The cells that a character adds before a neighbour, and what the two are to the one before. -/
def Neighbour.before (next : Neighbour) (c : Char) : Int × Neighbour :=
  if c.toNat ≤ 0xA0 then
    (if c = '\r' ∧ next = .lineFeed then 0 else 1, if c = '\n' then .lineFeed else .other)
  else (next.before? c).getD (charWidth c, neighbourOf c)

/-- What is left of a neighbour if the selector before it has made nothing of a character: letters
that grow together do so across it, and pictures are not joined across it. -/
def Following.unselected (next : Following) : Neighbour :=
  match next.selector, next.neighbour with
  | none, neighbour => neighbour
  | some _, .ligature letter tied => .ligature letter tied
  | some _, _ => .other

/-- The cells that a character adds to what follows it, and what the two are to the one before. -/
def widthBefore (c : Char) (next : Following) : Int × Following :=
  if c = pictureSelector then (0, ⟨next.unselected, some .picture⟩)
  else if c = textSelector then (0, ⟨next.unselected, some .plain⟩)
  else if next.selector = some .picture ∧ startsPicture c then
    let joins := next.neighbour = .joined .bare ∨ next.neighbour = .joined .key
    (if joins then 0 else 2, ⟨.picture, none⟩)
  else if next.selector = some .plain ∧ startsPlain c then (1, ⟨.other, none⟩)
  else
    let (cells, neighbour) := next.unselected.before c
    (cells, ⟨neighbour, none⟩)

/-- The cells of a text with what its first character is to one before it. -/
def widthFrom : List Char → Int × Following
  | [] => (0, ⟨.other, none⟩)
  | c :: cs =>
    let (cells, next) := widthFrom cs
    let (more, here) := widthBefore c next
    (cells + more, here)

/-- The cells that a text takes. -/
def width (cs : List Char) : Nat := (widthFrom cs).1.toNat

end FunctionConsole.Text
