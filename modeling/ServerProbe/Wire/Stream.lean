import ServerProbe.Text.Utf8
import ServerProbe.Wire.Fault

/-! What arrives from the other end, and the three ways to read it.

A stream is the list of events that are still to come; where the list ends, the
other end has closed the connection. Each way of reading returns what is left,
also when it fails: the bytes before a fault are lost, and so is the fault.
-/

set_option autoImplicit false

namespace ServerProbe.Wire

inductive Event where
  | byte (value : UInt8)
  | fault (fault : Fault)
  /-- The other end sends nothing more until it has got a request body. -/
  | pause
  deriving DecidableEq

abbrev Stream := List Event

/-- The bytes read, the fault that ended reading if one did, and what is left. -/
structure Taken where
  bytes : List UInt8
  fault : Option Fault
  rest : Stream

def Taken.cons (byte : UInt8) (taken : Taken) : Taken :=
  { taken with bytes := byte :: taken.bytes }

-- Reads up to a line end, which is included, or to the end of the stream. A fault that is only
-- an interruption is passed over.
def takeLine : Stream → Taken
  | [] => ⟨[], none, []⟩
  | .byte byte :: rest => if byte = 10 then ⟨[byte], none, rest⟩ else (takeLine rest).cons byte
  | .fault fault :: rest =>
    if fault.kind = .interrupted then takeLine rest else ⟨[], some fault, rest⟩
  | .pause :: rest => ⟨[], some .nothingYet, .pause :: rest⟩

def takeBytes : Nat → Stream → Taken
  | 0, stream => ⟨[], none, stream⟩
  | _ + 1, [] => ⟨[], some .shortRead, []⟩
  | count + 1, .byte byte :: rest => (takeBytes count rest).cons byte
  | count + 1, .fault fault :: rest =>
    if fault.kind = .interrupted then takeBytes (count + 1) rest else ⟨[], some fault, rest⟩
  | _ + 1, .pause :: rest => ⟨[], some .nothingYet, .pause :: rest⟩

def takeAll : Stream → Taken
  | [] => ⟨[], none, []⟩
  | .byte byte :: rest => (takeAll rest).cons byte
  | .fault fault :: rest =>
    if fault.kind = .interrupted then takeAll rest else ⟨[], some fault, rest⟩
  | .pause :: rest => ⟨[], some .nothingYet, .pause :: rest⟩

-- Reads a line as text, empty at the end of the stream. A fault counts before text that is not
-- UTF-8.
def readLine (stream : Stream) : Except Fault String × Stream :=
  match takeLine stream with
  | ⟨_, some fault, rest⟩ => (.error fault, rest)
  | ⟨bytes, none, rest⟩ =>
    match Text.ofUtf8? bytes with
    | some line => (.ok line, rest)
    | none => (.error .notUtf8, rest)

/-- The stream after the other end has got a request body. -/
def afterBody (stream : Stream) : Stream :=
  stream.filter (· != .pause)

def ofBytes (bytes : List UInt8) : Stream :=
  bytes.map .byte

theorem takeLine_length (stream : Stream) :
    (takeLine stream).rest.length + (takeLine stream).bytes.length ≤ stream.length := by
  induction stream with
  | nil => simp [takeLine]
  | cons event rest ih =>
    cases event with
    | byte byte =>
      by_cases isEnd : byte = 10
      · simp [takeLine, isEnd]
      · simp only [takeLine, isEnd, if_false, Taken.cons, List.length_cons]
        omega
    | fault fault =>
      by_cases retried : fault.kind = .interrupted
      · simp only [takeLine, retried, if_true, List.length_cons]
        omega
      · simp [takeLine, retried]
    | pause => simp [takeLine]

theorem takeBytes_length (count : Nat) (stream : Stream) :
    (takeBytes count stream).rest.length ≤ stream.length := by
  fun_induction takeBytes count stream with
  | case1 => exact Nat.le_refl _
  | case2 => exact Nat.le_refl _
  | case3 count byte rest ih => exact Nat.le_succ_of_le ih
  | case4 count fault rest retried ih => exact Nat.le_succ_of_le ih
  | case5 count fault rest retried => exact Nat.le_succ _
  | case6 => exact Nat.le_refl _

theorem readLine_length (stream : Stream) : (readLine stream).2.length ≤ stream.length := by
  have bound := takeLine_length stream
  unfold readLine
  split
  · next taken => simp only [taken] at bound; dsimp only; omega
  · next taken =>
    simp only [taken] at bound
    split <;> (dsimp only; omega)

theorem readLine_shorter {stream rest : Stream} {line : String}
    (read : readLine stream = (.ok line, rest)) (isLine : line.isEmpty = false) :
    rest.length < stream.length := by
  have bound := takeLine_length stream
  unfold readLine at read
  split at read
  · simp at read
  · next bytes left taken =>
    split at read
    · next text decoded =>
      simp only [Prod.mk.injEq, Except.ok.injEq] at read
      obtain ⟨rfl, rfl⟩ := read
      simp only [taken] at bound
      cases bytes with
      | nil =>
        have isEmpty : text = "" := by
          have known := Text.ofUtf8?_utf8 ""
          exact Option.some.inj (decoded.symm.trans known)
        simp [isEmpty] at isLine
      | cons byte bytes =>
        simp only [List.length_cons] at bound
        omega
    · simp at read

end ServerProbe.Wire
