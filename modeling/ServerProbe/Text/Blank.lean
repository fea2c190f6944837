/-! Blank characters, and cutting text at them.

Blank means the Unicode property White_Space, which is wider than the blank
characters of ASCII. Cutting works on lists of characters; the versions on
strings wrap those.
-/

set_option autoImplicit false

namespace ServerProbe.Text

def isBlank (c : Char) : Bool :=
  let code := c.toNat
  (0x09 ≤ code && code ≤ 0x0D) || code == 0x20 || code == 0x85 || code == 0xA0 ||
    code == 0x1680 || (0x2000 ≤ code && code ≤ 0x200A) || code == 0x2028 || code == 0x2029 ||
    code == 0x202F || code == 0x205F || code == 0x3000

def trimEnd (text : List Char) : List Char :=
  (text.reverse.dropWhile isBlank).reverse

def trim (text : List Char) : List Char :=
  trimEnd (text.dropWhile isBlank)

/-- One step of cutting text into words, from its end: the word being built and those after it. -/
def wordStep (c : Char) (state : List Char × List (List Char)) : List Char × List (List Char) :=
  if isBlank c then
    ([], if state.1.isEmpty then state.2 else state.1 :: state.2)
  else
    (c :: state.1, state.2)

/-- The longest runs of characters that are not blank, in order. -/
def words (text : List Char) : List (List Char) :=
  let (first, rest) := text.foldr wordStep ([], [])
  if first.isEmpty then rest else first :: rest

def trimmed (text : String) : String :=
  String.ofList (trim text.toList)

def isBlankText (text : String) : Bool :=
  text.toList.all isBlank

/-- The text before the first `mark` and the text after it, when there is one. -/
def cutAt? (mark : Char) : List Char → Option (List Char × List Char)
  | [] => none
  | c :: rest =>
    if c = mark then some ([], rest)
    else (cutAt? mark rest).map fun (before, after) => (c :: before, after)

/-- The parts of a text between the occurrences of `mark`; never the empty list. -/
def fields (mark : Char) : List Char → List (List Char)
  | [] => [[]]
  | c :: rest =>
    if c = mark then [] :: fields mark rest
    else
      match fields mark rest with
      | first :: others => (c :: first) :: others
      | [] => [[c]]

def contains (part : List Char) : List Char → Bool
  | [] => part.isEmpty
  | c :: rest => part.isPrefixOf (c :: rest) || contains part rest

end ServerProbe.Text
