/-! Punycode: labels with characters outside ASCII written in ASCII.

The ASCII characters of a label come first. Then each other character, in order
of its number, is an insertion whose distance from the one before is written in
a variable-length system of base 36, which adapts to the sizes of the distances.
-/

set_option autoImplicit false

namespace ServerProbe.Url.Punycode

def digit (value : Nat) : Char :=
  if value < 26 then Char.ofNat ('a'.toNat + value) else Char.ofNat ('0'.toNat + (value - 26))

def value? (c : Char) : Option Nat :=
  if 'a' ≤ c ∧ c ≤ 'z' then some (c.toNat - 'a'.toNat)
  else if 'A' ≤ c ∧ c ≤ 'Z' then some (c.toNat - 'A'.toNat)
  else if '0' ≤ c ∧ c ≤ '9' then some (c.toNat - '0'.toNat + 26)
  else none

/-- The smallest digit that is not the last one at a position, between 1 and 26. -/
def threshold (position bias : Nat) : Nat :=
  if position ≤ bias then 1 else min 26 (position - bias)

def adaptFrom (delta position : Nat) : Nat :=
  if 455 < delta then adaptFrom (delta / 35) (position + 36)
  else position + 36 * delta / (delta + 38)
termination_by delta
decreasing_by exact Nat.div_lt_self (by omega) (by omega)

/-- The bias after a distance, when `count` characters are in place. -/
def adapt (delta count : Nat) (first : Bool) : Nat :=
  let scaled := if first then delta / 700 else delta / 2
  adaptFrom (scaled + scaled / count) 0

/-- The digits of a distance; `fuel` bounds their number. -/
def distanceDigits (bias : Nat) : Nat → Nat → Nat → List Char
  | 0, _, _ => []
  | fuel + 1, position, distance =>
    let low := threshold position bias
    if distance < low then [digit distance]
    else
      digit (low + (distance - low) % (36 - low)) ::
        distanceDigits bias fuel (position + 36) ((distance - low) / (36 - low))

structure Writer where
  output : List Char
  bias : Nat
  delta : Nat
  handled : Nat
  first : Bool

/-- Passes one character of the label while the characters with number `next` are inserted. -/
def Writer.pass (next : Nat) (writer : Writer) (code : Nat) : Writer :=
  if code < next then { writer with delta := writer.delta + 1 }
  else if code = next then
    { output := writer.output ++ distanceDigits writer.bias (writer.delta + 1) 36 writer.delta
      bias := adapt writer.delta (writer.handled + 1) writer.first
      delta := 0
      handled := writer.handled + 1
      first := false }
  else writer

def insertAll (codes : List Nat) : Nat → Nat → Writer → List Char
  | 0, _, writer => writer.output
  | fuel + 1, current, writer =>
    match (codes.filter (current ≤ ·)).min? with
    | none => writer.output
    | some next =>
      let start := { writer with delta := writer.delta + (next - current) * (writer.handled + 1) }
      let passed := codes.foldl (Writer.pass next) start
      insertAll codes fuel (next + 1) { passed with delta := passed.delta + 1 }

def encode (label : List Char) : List Char :=
  let basic := label.filter fun c => c.toNat < 128
  let output := if basic.isEmpty then [] else basic ++ ['-']
  insertAll (label.map Char.toNat) label.length 128 ⟨output, 72, 0, basic.length, true⟩

def readDistance (bias : Nat) : Nat → Nat → Nat → List Char → Option (Nat × List Char)
  | _, _, _, [] => none
  | position, weight, total, c :: rest =>
    match value? c with
    | none => none
    | some value =>
      let total := total + value * weight
      let low := threshold position bias
      if value < low then some (total, rest)
      else readDistance bias (position + 36) (weight * (36 - low)) total rest

def readInsertions : Nat → List Char → Nat → Nat → Nat → List Char → Option (List Char)
  | 0, output, _, _, _, text => if text.isEmpty then some output else none
  | fuel + 1, output, code, place, bias, text =>
    if text.isEmpty then some output
    else
      match readDistance bias 36 1 0 text with
      | none => none
      | some (distance, rest) =>
        let count := output.length + 1
        let total := place + distance
        let code := code + total / count
        let index := total % count
        if code < 0x110000 ∧ ¬(0xD800 ≤ code ∧ code ≤ 0xDFFF) then
          readInsertions fuel (output.take index ++ Char.ofNat code :: output.drop index) code
            (index + 1) (adapt distance count (place == 0)) rest
        else none

def splitAtLastHyphen (text : List Char) : List Char × List Char :=
  let tail := (text.reverse.takeWhile (· != '-')).reverse
  if tail.length = text.length then ([], text)
  else (text.take (text.length - tail.length - 1), tail)

def decode? (text : List Char) : Option (List Char) :=
  let (basic, digits) := splitAtLastHyphen text
  readInsertions digits.length basic 128 0 72 digits

end ServerProbe.Url.Punycode
