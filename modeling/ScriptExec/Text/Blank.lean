-- SUMMARY: White space of all scripts, and texts without it at their ends.
import ScriptExec.Text.Ranges

/-!
# Blank characters

The characters with the Unicode property `White_Space`, and trimming by them.
-/

namespace ScriptExec.Text

/-- Code points with the property `White_Space`. -/
def whiteSpace : CodeRanges :=
  [(0x9, 0xd), (0x20, 0x20), (0x85, 0x85), (0xa0, 0xa0), (0x1680, 0x1680), (0x2000, 0x200a),
   (0x2028, 0x2029), (0x202f, 0x202f), (0x205f, 0x205f), (0x3000, 0x3000)]

def isBlank (c : Char) : Bool :=
  whiteSpace.holds c.toNat

/-- A list of characters without the blank ones at its end. -/
def dropBlankEnd (cs : List Char) : List Char :=
  (cs.reverse.dropWhile isBlank).reverse

/-- A text without the blank characters at its end. -/
def trimEnd (text : String) : String :=
  String.ofList (dropBlankEnd text.toList)

/-- A text without the blank characters at both ends. -/
def trim (text : String) : String :=
  String.ofList (dropBlankEnd (text.toList.dropWhile isBlank))

end ScriptExec.Text
