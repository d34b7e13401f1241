import SearchQuery.CommandLine.Options

/-!
# Answering queries

A session answers queries with one of the searches in stock: with the words of
the command line as the only query, or line by line from standard input.  In a
conversation, each line is asked for by a prompt, blank lines are passed over,
and the line `/bye` ends it.
-/

namespace SearchQuery

structure Session where
  search : Search Chain
  json : Bool
  verbose : Bool

structure Answer where
  output : Text
  log : List Text
  code : Nat
  deriving DecidableEq, Repr

inductive Reply where
  | answer (answer : Answer)
  | leave (code : Nat)
  deriving DecidableEq, Repr

structure Exit where
  code : Nat
  output : Text
  deriving DecidableEq, Repr

def Options.session (options : Options) (today : Date) : Session :=
  { search := (options.stock.getD .jobs).search (options.today.getD today)
    json := options.json
    verbose := options.verbose }

namespace Session

def document (session : Session) (query : Text) (chain : Chain) : Json :=
  .obj (("search", .str session.search.name) :: ("query", .str query) :: chain.members)

def render (session : Session) (query : Text) (chain : Chain) : Text :=
  (if session.json then (session.document query chain).text
    else if chain.isEmpty then "(no conditions)"
    else chain.text) ++ ['\n']

def answer (session : Session) (query : Text) : Answer :=
  let verdict := session.search.compile query Chain.empty
  let log := if session.verbose then verdict.events.map Event.text else []
  match verdict.outcome with
  | .ok chain => { output := session.render query chain, log := log, code := 0 }
  | .error error => { output := [], log := log ++ [error.message], code := 1 }

def prompt : Text :=
  "> "

def decode? (bytes : List UInt8) : Option Text :=
  (String.fromUTF8? ⟨bytes.toArray⟩).map String.toList

/-- Answers a line.  A line that is no text ends the conversation with an error. -/
def reply (session : Session) (line : List UInt8) : Reply :=
  match decode? line with
  | none => .leave 1
  | some t =>
      let query := Text.trim t
      if query = [] then .answer { output := [], log := [], code := 0 }
      else if query = "/bye" then .leave 0
      else .answer (session.answer query)

def converse (session : Session) : List (List UInt8) → Exit
  | [] => { code := 0, output := prompt }
  | line :: lines =>
      match session.reply line with
      | .leave code => { code := code, output := prompt }
      | .answer answer =>
          let exit := session.converse lines
          { exit with output := prompt ++ answer.output ++ exit.output }

/-- The lines of the input, without their line feeds.  The last line need not end
with one. -/
def lines : List UInt8 → List (List UInt8)
  | [] => []
  | byte :: bytes =>
      if byte = 10 then [] :: lines bytes
      else
        match lines bytes with
        | [] => [[byte]]
        | line :: rest => (byte :: line) :: rest

end Session

/-- The whole program: the query on the command line, or the conversation on
standard input if there is none. -/
def run (today : Date) (arguments : List Text) (input : List UInt8) : Exit :=
  match Options.ofArguments arguments with
  | .error _ => { code := 2, output := [] }
  | .ok options =>
      let session := options.session today
      if options.words.isEmpty then session.converse (Session.lines input)
      else
        let answer := session.answer options.query
        { code := answer.code, output := answer.output }

end SearchQuery
