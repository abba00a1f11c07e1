import DeskCalc.Console

/-! # The command line

The console on standard input and output, in double precision. Warnings go to standard error.
-/

namespace DeskCalc
set_option autoImplicit false

namespace CommandLine

/-- The bytes up to and with the next newline; none at the end of the input. -/
partial def readLine (input : IO.FS.Stream) (line : ByteArray) : IO ByteArray := do
  let next ← input.read 1
  let line := line ++ next
  if next.isEmpty || next[0]! == Console.newline then return line
  readLine input line

def report (event : Event Float) : IO Unit := do
  if event.level = .warn then IO.eprintln event.message

partial def converse (input output : IO.FS.Stream) (m : Memory Float) : IO Unit := do
  output.putStr Console.prompt
  output.flush
  let line ← readLine input .empty
  if line.isEmpty then output.putStr "\n"
  else
    let answer := Console.respond m line.data.toList
    answer.events.forM report
    output.putStr answer.text
    converse input output answer.memory

end CommandLine

end DeskCalc

def main : IO Unit := do
  DeskCalc.CommandLine.converse (← IO.getStdin) (← IO.getStdout) ∅
