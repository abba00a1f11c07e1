import DeskCalc.Operator.Basic

/-! # Faults

Everything that can go wrong with a line. A fault ends the line that causes it and nothing else.

* `Fault`: the causes, each with what it tells about itself.
* `Fault.Kind`: the kinds they fall into; `Fault.kind` says which.
* `Fault.message`: the answer given to the user.
-/

namespace DeskCalc
set_option autoImplicit false

inductive Fault where
  /-- A name in an expression that is neither a parameter nor a variable. -/
  | undefinedName (name : String)
  | undefinedFunction (name : String)
  | tooManyArguments (name : String) (expected given : Nat)
  | tooFewArguments (name : String) (expected given : Nat)
  /-- An argument of a call that is neither a variable nor a number. -/
  | unknownArgument (text : String)
  | divisionByZero
  | missingOperand (op : Operator)
  | unbalanced
  | emptyExpression
  /-- More than one value is left when everything has been computed. -/
  | looseOperands (count : Nat)
  | unknownOperator (text : String)
  | strayEquals (text : String)
  | malformedDefinition (line : String)
  | reservedName (name : String)
  | emptyBody (name : String)
  | emptyAssignment (name : String)
  | emptyArgument (name : String)
  | malformedParameter (text : String)
  | repeatedParameter (name : String)
  deriving DecidableEq, Repr

namespace Fault

inductive Kind where
  | undefinedName
  | undefinedFunction
  | tooManyArguments
  | tooFewArguments
  | unknownArgument
  | divisionByZero
  | malformedExpression
  | unknownOperator
  | malformedLine
  deriving DecidableEq, Repr

def kind : Fault → Kind
  | undefinedName _ => .undefinedName
  | undefinedFunction _ => .undefinedFunction
  | tooManyArguments .. => .tooManyArguments
  | tooFewArguments .. => .tooFewArguments
  | unknownArgument _ => .unknownArgument
  | divisionByZero => .divisionByZero
  | missingOperand _ | unbalanced | emptyExpression | looseOperands _ => .malformedExpression
  | unknownOperator _ => .unknownOperator
  | strayEquals _ | malformedDefinition _ | reservedName _ | emptyBody _ | emptyAssignment _ | emptyArgument _
  | malformedParameter _ | repeatedParameter _ => .malformedLine

def message : Fault → String
  | undefinedName name => s!"{name} is undefined"
  | undefinedFunction name => s!"undefined function {name}"
  | tooManyArguments name expected given => s!"too many parameters, {name} expects {expected} but got {given}"
  | tooFewArguments name expected given => s!"insufficient parameters, {name} expects {expected} but got {given}"
  | unknownArgument text => s!"the variable {text} has not been initialized"
  | divisionByZero => "division by zero"
  | missingOperand op => s!"operator {op.text} is missing an operand"
  | unbalanced => "parentheses mismatch"
  | emptyExpression => "cannot evaluate empty expression"
  | looseOperands count => s!"{count} operands left without operator"
  | unknownOperator text => s!"invalid operator {text}"
  | strayEquals text => s!"unexpected '=' in {text}"
  | malformedDefinition line => s!"invalid function definition {line}"
  | reservedName name => s!"{name} is a keyword and cannot be used as name"
  | emptyBody name => s!"function {name} has an empty body"
  | emptyAssignment name => s!"nothing to assign to {name}"
  | emptyArgument name => s!"empty argument in call of {name}"
  | malformedParameter text => s!"invalid parameter name '{text}'"
  | repeatedParameter name => s!"duplicate parameter {name}"

end Fault

end DeskCalc
