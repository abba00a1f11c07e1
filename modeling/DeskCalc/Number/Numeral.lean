import DeskCalc.Number.Format

/-! # Written numbers

The texts that are read as a number: an optional sign, digits with at most one point among or around them, and an
optional exponent; or a word for infinity or for no number, in any case.

* `Numeral`: what such a text says.
* `Numeral.read?`: its reading.
* `Format.read?`: the word of the number of a format that is nearest to it.
-/

namespace DeskCalc.Number
set_option autoImplicit false

inductive Numeral where
  | decimal (negative : Bool) (significand : Nat) (exponent : Int)
  | infinity (negative : Bool)
  | notANumber
  deriving DecidableEq, Repr

namespace Numeral

def digit (c : Char) : Nat := c.toNat - 48

/-- The number that a row of digits says. -/
def natural (ds : List Char) : Nat := ds.foldl (fun n d => 10 * n + digit d) 0

/-- An exponent stops growing once it has passed this. -/
def exponentLimit : Nat := 65535

def exponentDigits? (ds : List Char) : Option Nat :=
  if ds ≠ [] ∧ ds.all Char.isDigit then
    some (ds.foldl (fun e d => if e ≤ exponentLimit then 10 * e + digit d else e) 0)
  else none

/-- What may follow the digits of a number: nothing, or an `e` and a whole number. -/
def exponent? : List Char → Option Int
  | [] => some 0
  | c :: cs =>
    if c = 'e' ∨ c = 'E' then
      match cs with
      | '-' :: ds => (exponentDigits? ds).map fun e => -(e : Int)
      | '+' :: ds => (exponentDigits? ds).map fun e => (e : Int)
      | ds => (exponentDigits? ds).map fun e => (e : Int)
    else none

/-- The digits behind a point, if one stands here, and what follows them. -/
def fraction : List Char → List Char × List Char
  | '.' :: cs => (cs.takeWhile Char.isDigit, cs.dropWhile Char.isDigit)
  | cs => ([], cs)

def decimal? (negative : Bool) (cs : List Char) : Option Numeral :=
  let whole := cs.takeWhile Char.isDigit
  let (decimals, rest) := fraction (cs.dropWhile Char.isDigit)
  if whole = [] ∧ decimals = [] then none
  else (exponent? rest).map fun e => .decimal negative (natural (whole ++ decimals)) (e - decimals.length)

def word? (negative : Bool) (cs : List Char) : Option Numeral :=
  let s := cs.map Char.toLower
  if s = "inf".toList ∨ s = "infinity".toList then some (.infinity negative)
  else if s = "nan".toList then some .notANumber
  else none

def unsigned? (negative : Bool) (cs : List Char) : Option Numeral :=
  (decimal? negative cs).or (word? negative cs)

def read? : List Char → Option Numeral
  | '-' :: cs => unsigned? true cs
  | '+' :: cs => unsigned? false cs
  | cs => unsigned? false cs

end Numeral

/-- The word of the number nearest to what is written. -/
def Format.ofNumeral (f : Format) : Numeral → Nat
  | .decimal negative significand exponent => f.signed negative (f.nearestDecimal significand exponent)
  | .infinity negative => f.signed negative f.infinity
  | .notANumber => f.notANumber

def Format.read? (f : Format) (cs : List Char) : Option Nat := (Numeral.read? cs).map f.ofNumeral

example : Numeral.read? "-.5e+3".toList = some (.decimal true 5 2) ∧
    Numeral.read? "5.".toList = some (.decimal false 5 0) ∧
    Numeral.read? "+iNfinity".toList = some (.infinity false) ∧ Numeral.read? ".".toList = none ∧
    Numeral.read? "1e".toList = none ∧ Numeral.read? "".toList = none := by
  decide +kernel

end DeskCalc.Number
