import SearchQuery.Text.Decimal

/-!
# JSON documents

Documents made of strings, lists and objects, whose members keep their order,
and their text over several lines, each level set in by two spaces.
-/

namespace SearchQuery

inductive Json where
  | str (value : Text)
  | arr (items : List Json)
  | obj (members : List (Text × Json))
  deriving Repr

namespace Json

/-- The escapes of serde_json: the quote, the backslash and the characters below the
space, by a letter where there is one. -/
def escape (c : Char) : Text :=
  match c with
  | '"' => ['\\', '"']
  | '\\' => ['\\', '\\']
  | '\x08' => ['\\', 'b']
  | '\x0c' => ['\\', 'f']
  | '\n' => ['\\', 'n']
  | '\r' => ['\\', 'r']
  | '\t' => ['\\', 't']
  | _ =>
      if c.toNat < 0x20 then
        ['\\', 'u'] ++ List.leftpad 4 '0' (Nat.toDigits 16 c.toNat)
      else [c]

def quoted (t : Text) : Text :=
  ['"'] ++ t.flatMap escape ++ ['"']

def newline (level : Nat) : Text :=
  '\n' :: List.replicate (2 * level) ' '

mutual

/-- The document as text, its first line standing at the given level.  The layout is
the one of serde_json: an item or a member to a line, two spaces for a level, one
space behind a colon, and nothing between the brackets of an empty list or object. -/
def pretty (level : Nat) : Json → Text
  | str value => quoted value
  | arr [] => ['[', ']']
  | arr (item :: items) =>
      '[' :: newline (level + 1) ++ pretty (level + 1) item ++
        prettyItems (level + 1) items ++ newline level ++ [']']
  | obj [] => ['\x7b', '\x7d']
  | obj ((name, value) :: members) =>
      '\x7b' :: newline (level + 1) ++ quoted name ++ [':', ' '] ++
        pretty (level + 1) value ++ prettyMembers (level + 1) members ++
        newline level ++ ['\x7d']

def prettyItems (level : Nat) : List Json → Text
  | [] => []
  | item :: items =>
      ',' :: newline level ++ pretty level item ++ prettyItems level items

def prettyMembers (level : Nat) : List (Text × Json) → Text
  | [] => []
  | (name, value) :: members =>
      ',' :: newline level ++ quoted name ++ [':', ' '] ++ pretty level value ++
        prettyMembers level members

end

def text (document : Json) : Text :=
  document.pretty 0

end Json

end SearchQuery
