import DeskCalc.Command.Basic
import DeskCalc.Fault
import DeskCalc.Text.Word
import DeskCalc.Token.Lexer

/-! # Reading commands

A line is one of these, tried in this order:

* nothing but blanks;
* `def name(params) = body`, if it begins with the word `def`;
* `name = expression`;
* `name(arguments)`;
* an expression.

The scanning functions `name?`, `group?`, `rightSide?` take a part off the front of a text; `definition?`,
`assignment?` and `call?` are the parts of a whole line of that shape. `Command.read` makes a command of them.
-/

namespace DeskCalc
open DeskCalc.Number DeskCalc.Text
set_option autoImplicit false

namespace Command

/-! ## Names -/

def startsName (c : Char) : Bool := c.isAlpha || c == '_'

def continuesName (c : Char) : Bool := c.isAlphanum || c == '_'

/-- ASCII letters, digits and underscores, no digit in front. -/
def isName : List Char → Bool
  | [] => false
  | c :: cs => startsName c && cs.all continuesName

/-- The one word that is no name. -/
def keyword : String := "def"

/-- The longest name in front, and the rest. -/
def name? : List Char → Option (String × List Char)
  | [] => none
  | c :: cs =>
    if startsName c then some (String.ofList (c :: cs.takeWhile continuesName), cs.dropWhile continuesName)
    else none

/-! ## Parts of a line -/

def isParenthesis (c : Char) : Bool := c == '(' || c == ')'

/-- What stands between parentheses in front, itself without any, and the rest. -/
def group? : List Char → Option (List Char × List Char)
  | '(' :: cs =>
    match cs.dropWhile fun c => !isParenthesis c with
    | ')' :: rest => some (cs.takeWhile fun c => !isParenthesis c, rest)
    | _ => none
  | _ => none

/-- What follows an equals sign up to the end. It may not go on on another line. -/
def rightSide? (cs : List Char) : Option (List Char) :=
  match skipBlanks cs with
  | '=' :: rest => if '\n' ∈ rest then none else some rest
  | _ => none

def afterKeyword? (line : List Char) : Option (List Char) :=
  match skipBlanks line with
  | 'd' :: 'e' :: 'f' :: rest => some rest
  | _ => none

/-- The first word is the keyword. -/
def isDefinition (line : List Char) : Bool :=
  match afterKeyword? line with
  | none => false
  | some [] => true
  | some (c :: _) => !isWordChar c

/-- Name, parameters and body of a definition. -/
def definition? (line : List Char) : Option (String × List Char × List Char) :=
  match afterKeyword? line with
  | some (c :: rest) =>
    if isBlank c then do
      let (name, rest) ← name? (skipBlanks rest)
      let (params, rest) ← group? (skipBlanks rest)
      let body ← rightSide? rest
      pure (name, params, body)
    else none
  | _ => none

/-- Name and expression of an assignment. -/
def assignment? (line : List Char) : Option (String × List Char) := do
  let (name, rest) ← name? (skipBlanks line)
  let expression ← rightSide? rest
  pure (name, expression)

/-- Name and arguments of a call. -/
def call? (line : List Char) : Option (String × List Char) := do
  let (name, rest) ← name? (skipBlanks line)
  let (arguments, rest) ← group? (skipBlanks rest)
  if allBlank rest then pure (name, arguments) else none

/-! ## Reading -/

variable {α : Type} [Scalar α]

/-- The tokens of an expression, in which an equals sign has no place. -/
def readExpression (cs : List Char) : Except Fault (List (Token α)) :=
  if '=' ∈ cs then .error (.strayEquals (String.ofList (trim cs))) else .ok (Token.ofChars cs)

/-- The first fault in a parameter list wins. -/
def readParams (known : List String) : List (List Char) → Except Fault (List String)
  | [] => .ok []
  | p :: ps =>
    let name := String.ofList p
    if name = keyword then .error (.reservedName name)
    else if !isName p then .error (.malformedParameter name)
    else if name ∈ known then .error (.repeatedParameter name)
    else do
      let names ← readParams (name :: known) ps
      pure (name :: names)

/-- The header is judged before the body, and the body before the parameters. -/
def readDefinition (line : List Char) : Except Fault (Command α) :=
  match definition? line with
  | none => .error (.malformedDefinition (String.ofList (trim line)))
  | some (name, list, body) =>
    if name = keyword then .error (.reservedName name)
    else do
      let tokens ← readExpression body
      if tokens.isEmpty then .error (.emptyBody name)
      else do
        let names ← readParams [] (items list)
        pure (.define ⟨name, names, tokens⟩)

def readAssignment (name : String) (cs : List Char) : Except Fault (Command α) := do
  let tokens ← readExpression cs
  if tokens.isEmpty then .error (.emptyAssignment name) else pure (.assign name tokens)

/-- A call without arguments has only blanks between the parentheses. -/
def readCall (name : String) (list : List Char) : Except Fault (Command α) :=
  let arguments := items list
  if [] ∈ arguments then .error (.emptyArgument name)
  else .ok (.call name (arguments.map String.ofList))

/-- The command of a line that is not blank. -/
def readChars (line : List Char) : Except Fault (Command α) :=
  if isDefinition line then readDefinition line
  else match assignment? line with
    | some (name, cs) => readAssignment name cs
    | none =>
      match call? line with
      | some (name, list) => readCall name list
      | none => .display <$> readExpression line

/-- A blank line asks for nothing. -/
def read (line : String) : Except Fault (Option (Command α)) :=
  if allBlank line.toList then .ok none else some <$> readChars line.toList

end Command

end DeskCalc
