import DeskCalc.Memory.Basic

/-! # The console

A conversation over bytes: a prompt, a line, its answer, and so on until the input ends or one of the two channels
fails.

* `Source`: the bytes that are delivered, and whether reading fails after them or reports the end.
* `Console.respond`: the answer to one line.
* `Console.converse`: the conversation, with the bytes that the output has room for.
* `Transcript`: what was put out, how it ended, the memory then, and the reports.
-/

namespace DeskCalc
open DeskCalc.Number DeskCalc.Text
set_option autoImplicit false

/-! ## Channels -/

structure Source where
  bytes : List UInt8
  fails : Bool
  deriving DecidableEq, Repr

/-- At most `limit` bytes are delivered. The read after them fails, even where the input is at its end. -/
def Source.ofInput (input : List UInt8) (limit : Option Nat) : Source :=
  match limit with
  | none => ⟨input, false⟩
  | some n => if n ≤ input.length then ⟨input.take n, true⟩ else ⟨input, false⟩

inductive Ending where
  | finished
  | readFailed
  | writeFailed
  deriving DecidableEq, Repr

structure Transcript (α : Type) where
  output : List UInt8
  ending : Ending
  memory : Memory α
  events : List (Event α)

/-! ## Answers -/

/-- The text of an answer, the memory after it and the reports on the way. -/
structure Answer (α : Type) where
  text : String
  memory : Memory α
  events : List (Event α)

namespace Console

def prompt : String := "> "

def newline : UInt8 := 10

variable {α : Type} [Scalar α]

/-- The line that answers the result of a command, if there is anything to say. -/
def answerText : Except Fault (Option α × Memory α) → String
  | .ok (some x, _) => Scalar.text x ++ "\n"
  | .ok (none, _) => ""
  | .error fault => fault.message ++ "\n"

def respond (m : Memory α) (line : List UInt8) : Answer α :=
  match Utf8.decode line with
  | .error invalid => ⟨"line is not valid UTF-8\n", m, [.skipping invalid]⟩
  | .ok cs =>
    let x := m.enter (String.ofList (trim cs))
    ⟨answerText x.outcome, m.after x, x.events⟩

/-! ## The conversation -/

/-- Puts out as much of a text as there is room for, and goes on if that was all of it. -/
def say (text : String) (room : Option Nat) (m : Memory α) (next : Option Nat → Transcript α) : Transcript α :=
  let bytes := Utf8.bytes text
  match room with
  | none =>
    let t := next none
    { t with output := bytes ++ t.output }
  | some n =>
    if n < bytes.length then ⟨bytes.take n, .writeFailed, m, []⟩
    else
      let t := next (some (n - bytes.length))
      { t with output := bytes ++ t.output }

/-- Answers a line and goes on with the memory after it. -/
def reply (m : Memory α) (line : List UInt8) (room : Option Nat)
    (next : Memory α → Option Nat → Transcript α) : Transcript α :=
  let answer := respond m line
  let t := say answer.text room answer.memory (next answer.memory)
  { t with events := answer.events ++ t.events }

/-- The input has reported its end: the last prompt gets a line end in place of an answer. -/
def farewell (m : Memory α) (room : Option Nat) : Transcript α :=
  say "\n" room m fun _ => ⟨[], .finished, m, []⟩

/-- Reads on behind a prompt, where `line` holds the bytes of the current line, last one first. A line is answered
at its newline, an unfinished last one at the end of the input, but not when reading fails there. -/
def converse (fails : Bool) (m : Memory α) (room : Option Nat) (line : List UInt8) : List UInt8 → Transcript α
  | [] =>
    if fails then ⟨[], .readFailed, m, []⟩
    else if line.isEmpty then farewell m room
    else reply m line.reverse room fun m room => say prompt room m fun room => farewell m room
  | b :: rest =>
    if b = newline then
      reply m (b :: line).reverse room fun m room => say prompt room m fun room => converse fails m room [] rest
    else converse fails m room (b :: line) rest

def run (m : Memory α) (source : Source) (room : Option Nat) : Transcript α :=
  say prompt room m fun room => converse source.fails m room [] source.bytes

end Console

end DeskCalc
