import ServerProbe.Text.Numeral

/-! Quoted texts of TOML.

There are four kinds: within double quotes a backslash starts an escape, within
single quotes nothing does; three quotes allow line ends. Each reader starts
behind the opening quotes and returns the text and what follows it.
-/

set_option autoImplicit false

namespace ServerProbe.Toml

/-- Characters that may not stand in a document as they are, line ends apart. -/
def isControl (c : Char) : Bool :=
  (c.toNat < 0x20 && c != '\t') || c.toNat == 0x7F

/-- The character of a number, unless it is half of a surrogate pair or too large. -/
def charOf? (code : Nat) : Option Char :=
  if code < 0xD800 ∨ (0xDFFF < code ∧ code < 0x110000) then some (Char.ofNat code) else none

def hexChar? (digits : List Char) : Option Char :=
  (Text.natOfDigits? 16 digits).bind charOf?

def shortEscape? (c : Char) : Option Char :=
  match c with
  | 'b' => some '\x08'
  | 't' => some '\t'
  | 'n' => some '\n'
  | 'f' => some '\x0c'
  | 'r' => some '\r'
  | 'e' => some '\x1b'
  | '"' => some '"'
  | '\\' => some '\\'
  | _ => none

abbrev Quoted := Option (List Char × List Char)

def Quoted.cons (c : Char) (quoted : Quoted) : Quoted :=
  quoted.map fun (text, rest) => (c :: text, rest)

def Quoted.consEscaped (c : Option Char) (quoted : Quoted) : Quoted :=
  c.bind fun c => quoted.cons c

def basic : List Char → Quoted
  | [] => none
  | '"' :: rest => some ([], rest)
  | '\\' :: 'x' :: a :: b :: rest => Quoted.consEscaped (hexChar? [a, b]) (basic rest)
  | '\\' :: 'u' :: a :: b :: c :: d :: rest =>
    Quoted.consEscaped (hexChar? [a, b, c, d]) (basic rest)
  | '\\' :: 'U' :: a :: b :: c :: d :: e :: f :: g :: h :: rest =>
    Quoted.consEscaped (hexChar? [a, b, c, d, e, f, g, h]) (basic rest)
  | '\\' :: c :: rest => Quoted.consEscaped (shortEscape? c) (basic rest)
  | c :: rest => if isControl c ∨ c = '\\' then none else Quoted.cons c (basic rest)

def literal : List Char → Quoted
  | [] => none
  | '\'' :: rest => some ([], rest)
  | c :: rest => if isControl c then none else Quoted.cons c (literal rest)

def endsLine : List Char → Bool
  | '\n' :: _ => true
  | '\r' :: '\n' :: _ => true
  | ' ' :: rest => endsLine rest
  | '\t' :: rest => endsLine rest
  | _ => false

-- A text in three double quotes. While `joining`, after a backslash at the end of a line, blanks
-- and line ends are passed over. One or two quotes may stand before the closing ones.
def multilineBasic (joining : Bool) : List Char → Quoted
  | [] => none
  | '"' :: '"' :: '"' :: '"' :: '"' :: rest => some (['"', '"'], rest)
  | '"' :: '"' :: '"' :: '"' :: rest => some (['"'], rest)
  | '"' :: '"' :: '"' :: rest => some ([], rest)
  | '\r' :: '\n' :: rest =>
    if joining then multilineBasic true rest else Quoted.cons '\n' (multilineBasic false rest)
  | '\n' :: rest =>
    if joining then multilineBasic true rest else Quoted.cons '\n' (multilineBasic false rest)
  | '\\' :: 'x' :: a :: b :: rest =>
    Quoted.consEscaped (hexChar? [a, b]) (multilineBasic false rest)
  | '\\' :: 'u' :: a :: b :: c :: d :: rest =>
    Quoted.consEscaped (hexChar? [a, b, c, d]) (multilineBasic false rest)
  | '\\' :: 'U' :: a :: b :: c :: d :: e :: f :: g :: h :: rest =>
    Quoted.consEscaped (hexChar? [a, b, c, d, e, f, g, h]) (multilineBasic false rest)
  | '\\' :: c :: rest =>
    if endsLine (c :: rest) then multilineBasic true rest
    else Quoted.consEscaped (shortEscape? c) (multilineBasic false rest)
  | c :: rest =>
    if joining ∧ (c = ' ' ∨ c = '\t') then multilineBasic true rest
    else if isControl c ∨ c = '\\' then none
    else Quoted.cons c (multilineBasic false rest)

def multilineLiteral : List Char → Quoted
  | [] => none
  | '\'' :: '\'' :: '\'' :: '\'' :: '\'' :: rest => some (['\'', '\''], rest)
  | '\'' :: '\'' :: '\'' :: '\'' :: rest => some (['\''], rest)
  | '\'' :: '\'' :: '\'' :: rest => some ([], rest)
  | '\r' :: '\n' :: rest => Quoted.cons '\n' (multilineLiteral rest)
  | '\n' :: rest => Quoted.cons '\n' (multilineLiteral rest)
  | c :: rest => if isControl c then none else Quoted.cons c (multilineLiteral rest)

/-- A line end right behind three opening quotes does not count. -/
def dropLineEnd : List Char → List Char
  | '\r' :: '\n' :: rest => rest
  | '\n' :: rest => rest
  | text => text

def quoted? : List Char → Quoted
  | '"' :: '"' :: '"' :: rest => multilineBasic false (dropLineEnd rest)
  | '\'' :: '\'' :: '\'' :: rest => multilineLiteral (dropLineEnd rest)
  | '"' :: rest => basic rest
  | '\'' :: rest => literal rest
  | _ => none

end ServerProbe.Toml
