import SearchQuery.Stock

/-!
# Command line options

The words of a command line are the query, except for the options among them.
Options may stand anywhere before a double hyphen, and each at most once.
-/

namespace SearchQuery

inductive UsageError where
  | unknown (option : Text)
  | repeated (option : Text)
  | valueMissing (option : Text)
  | valueUnexpected (option : Text)
  | valueInvalid (option value : Text)
  deriving DecidableEq, Repr

def UsageError.message : UsageError → Text
  | unknown option => "unknown option " ++ option
  | repeated option => option ++ " may be given only once"
  | valueMissing option => option ++ " needs a value"
  | valueUnexpected option => option ++ " takes no value"
  | valueInvalid option value => option ++ " does not take the value " ++ Text.quoted value

structure Options where
  stock : Option Stock
  today : Option Date
  json : Bool
  verbose : Bool
  words : List Text
  deriving DecidableEq

inductive Argument where
  | word (t : Text)
  | ending
  | short (name : Text)
  | long (name : Text) (value : Option Text)
  deriving DecidableEq, Repr

/-- A single hyphen is a word; more behind it makes an option. -/
def Argument.ofText : Text → Argument
  | ['-', '-'] => ending
  | '-' :: '-' :: t =>
      match t.dropWhile (· ≠ '=') with
      | [] => long t none
      | _ :: value => long (t.takeWhile (· ≠ '=')) (some value)
  | '-' :: c :: t => short (c :: t)
  | t => word t

namespace Options

def unset : Options :=
  { stock := none, today := none, json := false, verbose := false, words := [] }

def turnOn (options : Options) (name : Text) : Except UsageError Options :=
  if name = "json" then
    if options.json then .error (.repeated name) else .ok { options with json := true }
  else if name = "verbose" then
    if options.verbose then .error (.repeated name)
    else .ok { options with verbose := true }
  else .error (.unknown name)

def set (options : Options) (name value : Text) : Except UsageError Options :=
  if name = "search" then
    if options.stock.isSome then .error (.repeated name)
    else
      match Stock.ofName? value with
      | none => .error (.valueInvalid name value)
      | some stock => .ok { options with stock := some stock }
  else if name = "today" then
    if options.today.isSome then .error (.repeated name)
    else
      match Date.ofText? value with
      | none => .error (.valueInvalid name value)
      | some date => .ok { options with today := some date }
  else if name = "json" ∨ name = "verbose" then .error (.valueUnexpected name)
  else .error (.unknown name)

def readFrom (options : Options) : List Text → Except UsageError Options
  | [] => .ok options
  | argument :: rest =>
      match Argument.ofText argument with
      | .word t => readFrom { options with words := options.words ++ [t] } rest
      | .ending => .ok { options with words := options.words ++ rest }
      | .short name =>
          if name = "v" then (options.turnOn "verbose").bind fun options => readFrom options rest
          else .error (.unknown argument)
      | .long name (some value) =>
          (options.set name value).bind fun options => readFrom options rest
      | .long name none =>
          if name = "search" ∨ name = "today" then
            match rest with
            | [] => .error (.valueMissing name)
            | value :: rest =>
                if value.head? = some '-' then .error (.valueMissing name)
                else (options.set name value).bind fun options => readFrom options rest
          else (options.turnOn name).bind fun options => readFrom options rest

/-- Reads the arguments from the left, by the rules of clap: an option may stand in
front of the words or behind them and is given once, its value stands behind an
equals sign or is the next argument, which must then not look like an option, and
everything behind a double hyphen is a word. -/
def ofArguments (arguments : List Text) : Except UsageError Options :=
  readFrom unset arguments

def query (options : Options) : Text :=
  Text.joinWith [' '] options.words

end Options

end SearchQuery
