import Mathlib.Data.UInt

/-!
# Strings of the web UI

A string of the web UI is a sequence of UTF-16 code units.  Its operations index code units,
while its iterator goes over code points, taking a lone surrogate by itself.
-/

namespace Rsbtd.WebUi

abbrev CodeUnit := UInt16

abbrev JsString := List CodeUnit

/-- The code unit of an ASCII character. -/
def unit (c : Char) : CodeUnit := c.toNat.toUInt16

/-- The string of a literal in ASCII. -/
def js (s : String) : JsString := s.toList.map unit

namespace JsString

def isHighSurrogate (u : CodeUnit) : Bool := 0xd800 ≤ u && u ≤ 0xdbff

def isLowSurrogate (u : CodeUnit) : Bool := 0xdc00 ≤ u && u ≤ 0xdfff

/-- The code points, each as the string of its units. -/
def codePoints : JsString → List JsString
  | [] => []
  | [u] => [[u]]
  | u :: v :: rest =>
    if isHighSurrogate u && isLowSurrogate v then [u, v] :: codePoints rest
    else [u] :: codePoints (v :: rest)

/-- `\s` of a regular expression. -/
def isSpace (u : CodeUnit) : Bool :=
  (0x9 ≤ u && u ≤ 0xd) || u == 0x20 || u == 0xa0 || u == 0x1680 || (0x2000 ≤ u && u ≤ 0x200a) ||
    u == 0x2028 || u == 0x2029 || u == 0x202f || u == 0x205f || u == 0x3000 || u == 0xfeff

end JsString

end Rsbtd.WebUi
