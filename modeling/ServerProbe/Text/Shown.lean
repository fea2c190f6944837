import ServerProbe.Text.Utf8

/-! The text of bytes that need not be UTF-8. Each longest piece that starts like a character, but
is none, becomes one replacement mark. -/

set_option autoImplicit false

namespace ServerProbe.Text

-- What has to follow the first byte of a character: how many bytes, and the range of the first
-- of them. The others are between 0x80 and 0xBF.
def following? (first : Nat) : Option (Nat × Nat × Nat) :=
  if first < 0x80 then some (0, 0, 0)
  else if first < 0xC2 then none
  else if first < 0xE0 then some (1, 0x80, 0xBF)
  else if first = 0xE0 then some (2, 0xA0, 0xBF)
  else if first = 0xED then some (2, 0x80, 0x9F)
  else if first < 0xF0 then some (2, 0x80, 0xBF)
  else if first = 0xF0 then some (3, 0x90, 0xBF)
  else if first < 0xF4 then some (3, 0x80, 0xBF)
  else if first = 0xF4 then some (3, 0x80, 0x8F)
  else none

/-- How many of `count` bytes continue a character, where the first has a range of its own. -/
def continued (low high : Nat) : Nat → List UInt8 → Nat
  | count + 1, byte :: rest =>
    if low ≤ byte.toNat ∧ byte.toNat ≤ high then continued 0x80 0xBF count rest + 1 else 0
  | _, _ => 0

def pieceTail (first : UInt8) (rest : List UInt8) : Nat :=
  match following? first.toNat with
  | some (count, low, high) => continued low high count rest
  | none => 0

def shown : List UInt8 → String
  | [] => ""
  | first :: rest =>
    let tail := pieceTail first rest
    (ofUtf8? (first :: rest.take tail)).getD "\ufffd" ++ shown (rest.drop tail)
termination_by bytes => bytes.length
decreasing_by simp only [List.length_drop, List.length_cons]; omega

end ServerProbe.Text
