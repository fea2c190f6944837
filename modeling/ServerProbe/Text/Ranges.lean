import ServerProbe.Text.Blank
import ServerProbe.Text.Numeral

/-! Sets of characters, given by ranges of their numbers.

A table is written as lines of ranges with blanks between them. A range is one
hexadecimal number, or two with a hyphen for its first and its last character.
-/

set_option autoImplicit false

namespace ServerProbe.Text

abbrev Ranges := List (Nat × Nat)

namespace Ranges

def contains (ranges : Ranges) (c : Char) : Bool :=
  ranges.any fun range => range.1 ≤ c.toNat && c.toNat ≤ range.2

def rangeOf? (text : List Char) : Option (Nat × Nat) :=
  match (fields '-' text).mapM (natOfDigits? 16) with
  | some [only] => some (only, only)
  | some [first, last] => some (first, last)
  | _ => none

def ofLines (lines : List String) : Ranges :=
  lines.flatMap fun line => (fields ' ' line.toList).filterMap rangeOf?

end Ranges

end ServerProbe.Text
