import SearchQuery.Text.Decimal
import SearchQuery.Text.Extending
import SearchQuery.Text.Invisible

/-!
# Quoted text

Text is shown between double quotes on a single line of visible characters:
the quote and the backslash are escaped, five control characters have short
escapes, and whatever has no glyph of its own is shown by its code point.
-/

namespace SearchQuery

namespace Text

def codePoint (c : Char) : Text :=
  ['\\', 'u', '\x7b'] ++ Nat.toDigits 16 c.toNat ++ ['\x7d']

def escape (c : Char) : Text :=
  match c with
  | '\x00' => ['\\', '0']
  | '\t' => ['\\', 't']
  | '\r' => ['\\', 'r']
  | '\n' => ['\\', 'n']
  | '"' => ['\\', '"']
  | '\\' => ['\\', '\\']
  | _ => if isExtending c || isInvisible c then codePoint c else [c]

def quoted (t : Text) : Text :=
  ['"'] ++ t.flatMap escape ++ ['"']

end Text

end SearchQuery
