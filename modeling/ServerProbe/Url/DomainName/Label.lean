import ServerProbe.Text.Composition
import ServerProbe.Text.Direction
import ServerProbe.Text.Joining
import ServerProbe.Url.DomainName.Mapping
import ServerProbe.Url.Punycode

/-! Labels: the parts of a domain name between dots.

A label has a form that is shown and an ASCII form that is looked up. They
differ when the shown form has characters outside ASCII; then the ASCII form is
Punycode behind `xn--`, and the shown form has rules to keep.
-/

set_option autoImplicit false

namespace ServerProbe.Url.DomainName

structure Label where
  shown : List Char
  ascii : List Char

namespace Label

/-- How many characters a label may have that is written in Punycode. -/
def shownLimit : Nat := 1000

def encodedLimit : Nat := 2000

def isAscii (text : List Char) : Bool :=
  text.all fun c => c.toNat < 128

def encodedMark : List Char := "xn--".toList

/-- The combining class of the marks that take the vowel from a consonant. -/
def vowelKiller : Nat := 9

/-- Whether invisible joiners stand only where they matter: behind a mark that takes a vowel away,
or, for the one that keeps letters apart, between letters that would be joined. -/
def joinersFit (before : List Char) : List Char → Bool
  | [] => true
  | c :: rest =>
    let followsKiller :=
      match before with
      | [] => false
      | last :: _ => Text.combiningClass last == vowelKiller
    let fits :=
      if c = '\u200d' then followsKiller
      else if c = '\u200c' then followsKiller || Text.areJoined before rest
      else true
    fits && joinersFit (c :: before) rest

/-- Whether a text with characters outside ASCII may be the shown form of a label. -/
def isShown (text : List Char) : Bool :=
  !(text.head?.map Text.isMark).getD false && joinersFit [] text &&
    !encodedMark.isPrefixOf text && text.length ≤ shownLimit

def isComposed (text : List Char) : Bool :=
  Text.composed text == text

def ofMapped? (text : List Char) : Option Label :=
  if encodedMark.isPrefixOf text then
    let encoded := text.drop encodedMark.length
    if !isAscii text || encodedLimit < encoded.length then none
    else
      (Punycode.decode? encoded).bind fun shown =>
        if !isAscii shown && shown.all isStable && isComposed shown && isShown shown then
          some ⟨shown, text⟩
        else none
  else if isAscii text then some ⟨text, text⟩
  else if isShown text then some ⟨text, encodedMark ++ Punycode.encode text⟩
  else none

def isRightToLeft (direction : Text.Direction) : Bool :=
  direction == .rightToLeft || direction == .arabicLetter

def hasRightToLeft (label : Label) : Bool :=
  label.shown.any fun c =>
    isRightToLeft (Text.direction c) || Text.direction c == .arabicNumber

def isInLeftToRight : Text.Direction → Bool
  | .rightToLeft | .arabicLetter | .arabicNumber => false
  | _ => true

def isInRightToLeft : Text.Direction → Bool
  | .leftToRight => false
  | _ => true

-- Whether the directions of a label agree with each other. It starts with a letter and ends, but
-- for marks, with a letter of the same direction or a digit; from right to left its digits are
-- all of one kind.
def keepsDirection (label : Label) : Bool :=
  let directions := label.shown.map Text.direction
  let last := (directions.reverse.dropWhile (· == .mark)).head?
  match directions.head?, last with
  | some first, some last =>
    if first = .leftToRight then
      directions.all isInLeftToRight && (last == .leftToRight || last == .europeanNumber)
    else if isRightToLeft first then
      directions.all isInRightToLeft &&
        (isRightToLeft last || last == .europeanNumber || last == .arabicNumber) &&
        !(directions.contains .europeanNumber && directions.contains .arabicNumber)
    else false
  | some _, none => false
  | none, _ => true

end Label

end ServerProbe.Url.DomainName
