import ServerProbe.Text.AsciiCase
import ServerProbe.Text.Blank
import ServerProbe.Text.Numeral
import ServerProbe.Wire.Stream

/-! Reading one response from a stream.

A head is a status line and fields up to a blank line. The body that follows it
is in chunks, has a known length, or goes on to the end of the stream. Each
reader returns what is left of the stream, and reads nothing beyond its message.
-/

set_option autoImplicit false

namespace ServerProbe.Http

open Wire

structure Head where
  status : UInt16
  fields : List (String × String)
  deriving DecidableEq

/-- Why a body could not be read. -/
inductive BodyFailure where
  | fault (fault : Fault)
  /-- The announced size is larger than any memory. -/
  | oversized
  deriving DecidableEq

/-- One more than the largest size that memory can have. -/
def sizeLimit : Nat := 0x8000000000000000

def noResponse : Fault := .described .unexpectedEof "connection closed before a response"

def headCut : Fault := .described .unexpectedEof "connection closed inside the response head"

def chunksCut : Fault := .described .unexpectedEof "connection closed inside a chunked body"

def invalid (message : String) : Fault := .described .invalidData message

/-- The status of a status line, whose second word it is. -/
def statusOf (line : List Char) : Except Fault UInt16 :=
  match Text.words line with
  | version :: code :: _ =>
    if "HTTP/".toList.isPrefixOf version then
      match Text.unsigned? 10 Text.shortLimit code with
      | some status => .ok (UInt16.ofNat status)
      | none => .error (invalid ("bad status code in '" ++ String.ofList line ++ "'"))
    else .error (invalid ("bad status line '" ++ String.ofList line ++ "'"))
  | _ => .error (invalid ("bad status line '" ++ String.ofList line ++ "'"))

/-- The field that a line holds; a line without a colon holds none. -/
def fieldOf (line : List Char) : List (String × String) :=
  match Text.cutAt? ':' line with
  | some (name, value) => [(String.ofList (Text.trim name), String.ofList (Text.trim value))]
  | none => []

theorem not_isEmpty_of_not_blank {line : String} (notBlank : ¬Text.isBlankText line = true) :
    line.isEmpty = false := by
  cases isEmpty : line.isEmpty with
  | false => rfl
  | true =>
    rw [String.isEmpty_iff] at isEmpty
    simp [isEmpty, Text.isBlankText] at notBlank

def readFields (stream : Stream) : Except Fault (List (String × String)) × Stream :=
  match _ : readLine stream with
  | (.error fault, rest) => (.error fault, rest)
  | (.ok line, rest) =>
    if line.isEmpty then (.error headCut, rest)
    else if _ : Text.isBlankText line then (.ok [], rest)
    else
      match readFields rest with
      | (.error fault, left) => (.error fault, left)
      | (.ok fields, left) => (.ok (fieldOf (Text.trimEnd line.toList) ++ fields), left)
termination_by stream.length
decreasing_by exact readLine_shorter (by assumption) (not_isEmpty_of_not_blank (by assumption))

-- These equations are the loops without the proofs that they end.
theorem readFields_eq (stream : Stream) :
    readFields stream =
      match readLine stream with
      | (.error fault, rest) => (.error fault, rest)
      | (.ok line, rest) =>
        if line.isEmpty then (.error headCut, rest)
        else if Text.isBlankText line then (.ok [], rest)
        else
          match readFields rest with
          | (.error fault, left) => (.error fault, left)
          | (.ok fields, left) => (.ok (fieldOf (Text.trimEnd line.toList) ++ fields), left) := by
  rw [readFields]
  split
  · next read => simp only [read]
  · next read =>
    simp only [read, dite_eq_ite]

def readHead (stream : Stream) : Except Fault Head × Stream :=
  match readLine stream with
  | (.error fault, rest) => (.error fault, rest)
  | (.ok line, rest) =>
    if line.isEmpty then (.error noResponse, rest)
    else
      match statusOf (Text.trimEnd line.toList) with
      | .error fault => (.error fault, rest)
      | .ok status =>
        match readFields rest with
        | (.error fault, left) => (.error fault, left)
        | (.ok fields, left) => (.ok ⟨status, fields⟩, left)

theorem readFields_length (stream : Stream) : (readFields stream).2.length ≤ stream.length := by
  fun_induction readFields stream with
  | case1 stream fault rest read => simpa [read] using readLine_length stream
  | case2 stream line rest read _ => simpa [read] using readLine_length stream
  | case3 stream line rest read _ _ => simpa [read] using readLine_length stream
  | case4 stream line rest read _ _ fault left fields ih =>
    have taken := readLine_length stream
    simp only [read, fields] at taken ih ⊢
    omega
  | case5 stream line rest read _ _ parsed left fields ih =>
    have taken := readLine_length stream
    simp only [read, fields] at taken ih ⊢
    omega

theorem readHead_shorter {stream rest : Stream} {head : Head}
    (read : readHead stream = (.ok head, rest)) : rest.length < stream.length := by
  unfold readHead at read
  split at read
  · simp at read
  · next line afterLine lineRead =>
    split at read
    · simp at read
    · next notEmpty =>
      split at read
      · simp at read
      · split at read
        · simp at read
        · next fields left fieldsRead =>
          simp only [Prod.mk.injEq] at read
          obtain ⟨-, rfl⟩ := read
          have line_taken := readLine_shorter lineRead (by simpa using notEmpty)
          have fields_taken := readFields_length afterLine
          simp only [fieldsRead] at fields_taken
          omega

/-- Passes over the lines after the last chunk, up to a blank one or the end of the stream. -/
def skipTrailers (stream : Stream) : Except Fault Unit × Stream :=
  match _ : readLine stream with
  | (.error fault, rest) => (.error fault, rest)
  | (.ok line, rest) =>
    if _ : Text.isBlankText line then (.ok (), rest)
    else skipTrailers rest
termination_by stream.length
decreasing_by exact readLine_shorter (by assumption) (not_isEmpty_of_not_blank (by assumption))

theorem skipTrailers_eq (stream : Stream) :
    skipTrailers stream =
      match readLine stream with
      | (.error fault, rest) => (.error fault, rest)
      | (.ok line, rest) =>
        if Text.isBlankText line then (.ok (), rest) else skipTrailers rest := by
  rw [skipTrailers]
  split <;> next read => simp only [read, dite_eq_ite]

/-- The text of a chunk's size: what stands before a semicolon. -/
def sizeText (line : String) : List Char :=
  Text.trim (((Text.fields ';' (Text.trimEnd line.toList)).head?).getD [])

/-- Reads chunks, after `start` bytes of the body, up to a chunk of size zero and its trailers. -/
def readChunks (start : Nat) (stream : Stream) : Except BodyFailure (List UInt8) × Stream :=
  match _ : readLine stream with
  | (.error fault, rest) => (.error (.fault fault), rest)
  | (.ok line, rest) =>
    if _ : line.isEmpty then (.error (.fault chunksCut), rest)
    else
      match Text.unsigned? 16 Text.wordLimit (sizeText line) with
      | none =>
        let message := "bad chunk size '" ++ String.ofList (sizeText line) ++ "'"
        (.error (.fault (invalid message)), rest)
      | some 0 =>
        match skipTrailers rest with
        | (.error fault, left) => (.error (.fault fault), left)
        | (.ok (), left) => (.ok [], left)
      | some (size + 1) =>
        if sizeLimit ≤ start + (size + 1) then (.error .oversized, rest)
        else
          match _ : takeBytes (size + 1) rest with
          | ⟨_, some fault, left⟩ => (.error (.fault fault), left)
          | ⟨data, none, afterData⟩ =>
            match _ : readLine afterData with
            | (.error fault, left) => (.error (.fault fault), left)
            | (.ok _, next) =>
              match readChunks (start + (size + 1)) next with
              | (.error failure, left) => (.error failure, left)
              | (.ok body, left) => (.ok (data ++ body), left)
termination_by stream.length
decreasing_by
  rename_i read notEmpty _ taken _ ended
  have line_taken := readLine_shorter read (by simpa using notEmpty)
  have data_taken := takeBytes_length (size + 1) rest
  have end_taken := readLine_length afterData
  simp only [taken] at data_taken
  simp only [ended] at end_taken
  omega

theorem readChunks_eq (start : Nat) (stream : Stream) :
    readChunks start stream =
      match readLine stream with
      | (.error fault, rest) => (.error (.fault fault), rest)
      | (.ok line, rest) =>
        if line.isEmpty then (.error (.fault chunksCut), rest)
        else
          match Text.unsigned? 16 Text.wordLimit (sizeText line) with
          | none =>
            let message := "bad chunk size '" ++ String.ofList (sizeText line) ++ "'"
            (.error (.fault (invalid message)), rest)
          | some 0 =>
            match skipTrailers rest with
            | (.error fault, left) => (.error (.fault fault), left)
            | (.ok (), left) => (.ok [], left)
          | some (size + 1) =>
            if sizeLimit ≤ start + (size + 1) then (.error .oversized, rest)
            else
              match takeBytes (size + 1) rest with
              | ⟨_, some fault, left⟩ => (.error (.fault fault), left)
              | ⟨data, none, afterData⟩ =>
                match readLine afterData with
                | (.error fault, left) => (.error (.fault fault), left)
                | (.ok _, next) =>
                  match readChunks (start + (size + 1)) next with
                  | (.error failure, left) => (.error failure, left)
                  | (.ok body, left) => (.ok (data ++ body), left) := by
  rw [readChunks]
  split
  · next read => simp only [read]
  · next read =>
    simp only [read, dite_eq_ite]
    split
    · rfl
    · split
      · rfl
      · rfl
      · split
        · rfl
        · split
          · next taken => simp only [taken]
          · next taken =>
            simp only [taken]
            split
            · next closed => simp only [closed]
            · next closed => simp only [closed]

namespace Head

def field? (name : String) (head : Head) : Option String :=
  (head.fields.find? fun field => Text.sameIgnoringCase field.1 name).map (·.2)

/-- A status from 100 to 199: the response itself is still to come. -/
def isInterim (head : Head) : Bool :=
  100 ≤ head.status.toNat && head.status.toNat < 200

def isSuccess (head : Head) : Bool :=
  200 ≤ head.status.toNat && head.status.toNat < 300

def readFinal (stream : Stream) : Except Fault Head × Stream :=
  match _ : readHead stream with
  | (.error fault, rest) => (.error fault, rest)
  | (.ok head, rest) => if head.isInterim then readFinal rest else (.ok head, rest)
termination_by stream.length
decreasing_by exact readHead_shorter (by assumption)

theorem readFinal_eq (stream : Stream) :
    readFinal stream =
      match readHead stream with
      | (.error fault, rest) => (.error fault, rest)
      | (.ok head, rest) => if head.isInterim then readFinal rest else (.ok head, rest) := by
  rw [readFinal]
  split <;> next read => simp only [read]

def contentLength? (head : Head) : Option Nat :=
  (head.field? "Content-Length").bind fun value =>
    Text.unsigned? 10 Text.wordLimit (Text.trim value.toList)

def isChunked (head : Head) : Bool :=
  match head.field? "Transfer-Encoding" with
  | some value => Text.contains "chunked".toList (value.toList.map Char.toLower)
  | none => false

-- Reads a body up to the end of the stream. A connection that ends too early ends the body as
-- well.
def readToEnd (stream : Stream) : Except BodyFailure (List UInt8) × Stream :=
  match takeAll stream with
  | ⟨body, none, rest⟩ => (.ok body, rest)
  | ⟨body, some fault, rest⟩ =>
    if fault.kind = .unexpectedEof then (.ok body, rest) else (.error (.fault fault), rest)

def readSized (size : Nat) (stream : Stream) : Except BodyFailure (List UInt8) × Stream :=
  if sizeLimit ≤ size then (.error .oversized, stream)
  else
    match takeBytes size stream with
    | ⟨body, none, rest⟩ => (.ok body, rest)
    | ⟨_, some fault, rest⟩ => (.error (.fault fault), rest)

def readBody (head : Head) (stream : Stream) : Except BodyFailure (List UInt8) × Stream :=
  if head.isChunked then readChunks 0 stream
  else
    match head.contentLength? with
    | some size => readSized size stream
    | none => readToEnd stream

end Head

end ServerProbe.Http
