import SearchQuery.CommandLine.Session
import Std.Time.Zoned

/-!
# The command

Reads the arguments and the standard input, and prints what the session answers.
Every line is answered by `Session.reply`, and every query by `Session.answer`; what
is left to this module is to read the lines and to print the answers in the order in
which `run` puts them together.
-/

namespace SearchQuery

def printText (t : Text) : IO Unit := do
  let stdout ← IO.getStdout
  stdout.putStr (String.ofList t)
  stdout.flush

def printLog (log : List Text) : IO Unit :=
  log.forM fun line => IO.eprintln (String.ofList line)

/-- The first of `Session.lines` of the bytes that are still to come, where the bytes
of `read` were taken off already, the last of them first. -/
partial def nextLine (input : IO.FS.Stream) (read : List UInt8) :
    IO (Option (List UInt8)) := do
  let bytes ← input.read 1
  match bytes.toList with
  | [] => return if read.isEmpty then none else some read.reverse
  | byte :: _ =>
      if byte = 10 then return some read.reverse
      else nextLine input (byte :: read)

/-- Follows `Session.converse` over the lines of the input, each read when it is due. -/
partial def converse (session : Session) (input : IO.FS.Stream) : IO UInt32 := do
  printText Session.prompt
  match ← nextLine input [] with
  | none => return 0
  | some line =>
      match session.reply line with
      | .leave code => return code.toUInt32
      | .answer answer =>
          printLog answer.log
          printText answer.output
          converse session input

def today : IO (Option Date) := do
  let now ← Std.Time.PlainDate.now
  return Date.ofParts? now.year.toInt now.month.toInt now.day.toInt

end SearchQuery

open SearchQuery in
def main (arguments : List String) : IO UInt32 := do
  match Options.ofArguments (arguments.map String.toList) with
  | .error error =>
      printLog [error.message]
      return 2
  | .ok options =>
      match ← today with
      | none =>
          printLog ["the clock shows no date of the calendar"]
          return 1
      | some today =>
          let session := options.session today
          if options.words.isEmpty then
            converse session (← IO.getStdin)
          else
            let answer := session.answer options.query
            printLog answer.log
            printText answer.output
            return answer.code.toUInt32
