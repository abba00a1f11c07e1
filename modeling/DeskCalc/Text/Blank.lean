import DeskCalc.Text.Ranges

/-! # Blank characters

The characters that stand between words, and cutting a text at them.

* `isBlank`: the character has the Unicode property `White_Space`.
* `skipBlanks`, `trim`: a text without the blanks in front, and without those at both ends.
* `allBlank`: nothing but blanks.
* `words`: the maximal runs of other characters, in order.
* `items`: the pieces between commas, each trimmed; a text of blanks has none.
-/

namespace DeskCalc.Text
set_option autoImplicit false

def blanks : Ranges :=
  [(0x9, 0xD), (0x20, 0x20), (0x85, 0x85), (0xA0, 0xA0), (0x1680, 0x1680), (0x2000, 0x200A), (0x2028, 0x2029),
   (0x202F, 0x202F), (0x205F, 0x205F), (0x3000, 0x3000)]

def isBlank (c : Char) : Bool := blanks.has c

/-! ## Trimming -/

def skipBlanks (cs : List Char) : List Char := cs.dropWhile isBlank

def trim (cs : List Char) : List Char := (skipBlanks (skipBlanks cs).reverse).reverse

def allBlank (cs : List Char) : Bool := cs.all isBlank

/-- The text of a string without the blanks at its ends. -/
def trimmed (s : String) : String := String.ofList (trim s.toList)

/-! ## Cutting -/

def words (cs : List Char) : List (List Char) := (cs.splitOnP isBlank).filter fun w => !w.isEmpty

/-- The comma-separated items of a list. Between two commas, and beside one, an item may be empty. -/
def items (cs : List Char) : List (List Char) :=
  if allBlank cs then [] else (cs.splitOn ',').map trim

end DeskCalc.Text
