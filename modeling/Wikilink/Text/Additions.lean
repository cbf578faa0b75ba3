/-
# Text.Additions -- letters and digits of the newest scripts

The character database grows by editions.  Words are those of edition 16, so that
a mention or a template never changes its reading; search keys follow edition 17,
so that a text in a new script can be found at all.  The tables here are what the
later edition adds to the properties of the earlier one.
-/
import Wikilink.Text.CodePoints

namespace Wikilink.Text

set_option autoImplicit false

/-- Code points that are alphabetic from edition 17 on. -/
def alphabeticAdditions : CodePoints :=
  [(0x363, 0x36F), (0x88F, 0x88F), (0xC5C, 0xC5C), (0xCDC, 0xCDC), (0x1DD3, 0x1DE6),
   (0xA7CE, 0xA7CF), (0xA7D2, 0xA7D2), (0xA7D4, 0xA7D4), (0xA7F1, 0xA7F1), (0x10940, 0x10959),
   (0x10EC5, 0x10EC7), (0x10EFA, 0x10EFB), (0x11B60, 0x11B67), (0x11DB0, 0x11DDB),
   (0x16EA0, 0x16EB8), (0x16EBB, 0x16ED3), (0x16FF2, 0x16FF6), (0x187F8, 0x187FF),
   (0x18D09, 0x18D1E), (0x18D80, 0x18DF2), (0x1E6C0, 0x1E6DE), (0x1E6E0, 0x1E6F5),
   (0x1E6FE, 0x1E6FF), (0x2B73A, 0x2B73F), (0x2CEA2, 0x2CEAD), (0x323B0, 0x33479)]

/-- Code points that are decimal digits from edition 17 on. -/
def decimalDigitAdditions : CodePoints :=
  [(0x11DE0, 0x11DE9)]

end Wikilink.Text
