import DeskCalc.Number.Scalar
import DeskCalc.Token.Basic

/-! # The text of tokens

* `Token.text`: the text of one token; a number has its shortest digits.
* `Token.unparse`: the texts of some tokens, a space between any two.
-/

namespace DeskCalc.Token
open DeskCalc.Number
set_option autoImplicit false

variable {α : Type} [Scalar α]

def text : Token α → String
  | number x => Scalar.text x
  | name s => s
  | operator op => op.text
  | opening => "("
  | closing => ")"

def unparse (tokens : List (Token α)) : String := " ".intercalate (tokens.map text)

end DeskCalc.Token
