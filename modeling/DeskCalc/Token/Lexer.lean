import DeskCalc.Number.Scalar
import DeskCalc.Text.Blank
import DeskCalc.Token.Basic

/-! # From text to tokens

A line is cut in two moves. First every symbol is set between blanks, one symbol of `symbols` after the other over
the whole text; then the text is cut into words, and each word is a token.

* `setApart`: one pass, for one symbol.
* `spaced`: all passes, and the blanks at the ends removed.
* `isNumeral`: the words that are numbers: digits and at most one point. Signs and exponents belong to no number.
* `Token.ofWord`: a symbol, a number, or else a name.
* `Token.ofText`: the tokens of a text.
-/

namespace DeskCalc
open DeskCalc.Number DeskCalc.Text
set_option autoImplicit false

/-! ## Setting symbols apart -/

def setApart (symbol : Char) (cs : List Char) : List Char :=
  cs.flatMap fun c => if c = symbol then [' ', c, ' '] else [c]

def spaced (cs : List Char) : List Char :=
  trim (symbols.foldl (fun text symbol => setApart symbol text) cs)

/-! ## Words -/

def isNumeral (cs : List Char) : Bool :=
  cs.all (fun c => c == '.' || c.isDigit) && cs.any Char.isDigit && cs.count '.' < 2

namespace Token

def ofSymbol? {α : Type} (c : Char) : Option (Token α) :=
  if c = '(' then some opening
  else if c = ')' then some closing
  else (Operator.ofSymbol? c).map operator

def symbolOf? {α : Type} : List Char → Option (Token α)
  | [c] => ofSymbol? c
  | _ => none

variable {α : Type} [Scalar α]

/-- The number a word is, if it is a numeral and can be read. -/
def numberOf? (word : List Char) : Option (Token α) :=
  if isNumeral word then (Scalar.read? word).map number else none

def ofWord (word : List Char) : Token α :=
  ((symbolOf? word).or (numberOf? word)).getD (name (String.ofList word))

def ofChars (cs : List Char) : List (Token α) := (words (spaced cs)).map ofWord

/-- The tokens of a text. Whether its names mean anything is not asked here. -/
def ofText (text : String) : List (Token α) := ofChars text.toList

end Token

end DeskCalc
