import ServerProbe.Proofs.Http.Building

/-! The head of a request as a server cuts it.

A line ends with a carriage return and a line feed, wherever they come from, and
the first empty line ends the head. A text that holds line ends adds lines to
the head in which it stands, and an empty one among them ends it too early.
-/

set_option autoImplicit false

namespace ServerProbe.Http

/-- Cuts bytes into lines, where `line` is what has come of the first of them. -/
def linesFrom (line : List UInt8) : List UInt8 → List (List UInt8)
  | [] => [line]
  | 13 :: 10 :: rest => line :: linesFrom [] rest
  | byte :: rest => linesFrom (line ++ [byte]) rest

def linesOf (bytes : List UInt8) : List (List UInt8) :=
  linesFrom [] bytes

/-- The lines that a text adds to the one that it begins on. -/
def addedLines (text : String) : List (List UInt8) :=
  (linesOf (Text.utf8 text)).tail

def headFrom? (line : List UInt8) : List UInt8 → Option (List (List UInt8) × List UInt8)
  | [] => none
  | 13 :: 10 :: rest =>
    if line.isEmpty then some ([], rest)
    else (headFrom? [] rest).map fun (lines, body) => (line :: lines, body)
  | byte :: rest => headFrom? (line ++ [byte]) rest

/-- The lines before the first empty line, and the bytes after it. -/
def head? (bytes : List UInt8) : Option (List (List UInt8) × List UInt8) :=
  headFrom? [] bytes

def lowerByte (byte : UInt8) : UInt8 :=
  if 65 ≤ byte ∧ byte ≤ 90 then byte + 32 else byte

/-- The value on a line whose name, in any letter case, is that of the content length. -/
def lengthValue? (line : List UInt8) : Option (List UInt8) :=
  let name := line.takeWhile (· != 58)
  match line.drop name.length with
  | [] => none
  | _ :: value =>
    if name.map lowerByte = Text.utf8 "content-length" then some (value.dropWhile (· == 32))
    else none

/-- Lines as they are written, the empty line that ends them, and a body. -/
def written (lines : List (List UInt8)) (body : List UInt8) : List UInt8 :=
  lines.flatMap (· ++ [13, 10]) ++ [13, 10] ++ body

theorem headFrom?_byte {line rest : List UInt8} {byte : UInt8}
    (noEnd : ∀ later, byte = 13 → rest = 10 :: later → False) :
    headFrom? line (byte :: rest) = headFrom? (line ++ [byte]) rest := by
  rw [headFrom?]
  exact fun later first second => noEnd later first second

theorem noEnd_append {byte : UInt8} {text : List UInt8}
    (noEnd : ∀ later, byte = 13 → text = 10 :: later → False) (rest later : List UInt8)
    (first : byte = 13) (second : text ++ 13 :: 10 :: rest = 10 :: later) : False := by
  cases text with
  | nil => cases second
  | cons next more =>
    obtain ⟨rfl, -⟩ := List.cons.inj second
    exact noEnd more first rfl

theorem headFrom?_append {line text : List UInt8} (full : [] ∉ linesFrom line text)
    (rest : List UInt8) :
    headFrom? line (text ++ 13 :: 10 :: rest) =
      (head? rest).map fun (lines, body) => (linesFrom line text ++ lines, body) := by
  fun_induction linesFrom line text with
  | case1 line =>
    have notEmpty : line.isEmpty = false := by
      rw [List.isEmpty_eq_false_iff]
      rintro rfl
      exact full List.mem_cons_self
    rw [List.nil_append, headFrom?, notEmpty]
    rfl
  | case2 line more ih =>
    obtain ⟨first, later⟩ := List.ne_and_not_mem_of_not_mem_cons full
    have notEmpty : line.isEmpty = false := List.isEmpty_eq_false_iff.mpr first.symm
    rw [List.cons_append, List.cons_append, headFrom?, notEmpty, ih later]
    simp [Function.comp_def]
  | case3 line byte more noEnd ih =>
    rw [List.cons_append, headFrom?_byte (noEnd_append noEnd rest), ih full]

theorem headFrom?_ended {line text : List UInt8} (ended : [] ∈ linesFrom line text)
    (rest : List UInt8) :
    ∃ lines body, headFrom? line (text ++ 13 :: 10 :: rest) = some (lines, body) ∧
      rest.length ≤ body.length := by
  fun_induction linesFrom line text with
  | case1 line =>
    have empty : line = [] := by simpa [eq_comm] using ended
    rw [empty]
    exact ⟨[], rest, rfl, Nat.le_refl _⟩
  | case2 line more ih =>
    rw [List.cons_append, List.cons_append, headFrom?]
    -- The empty line is this one, or it comes later in the text.
    by_cases empty : line.isEmpty = true
    · refine ⟨[], more ++ 13 :: 10 :: rest, if_pos empty, ?_⟩
      rw [List.length_append, List.length_cons, List.length_cons]
      omega
    · have later : [] ∈ linesFrom [] more := by
        rcases List.mem_cons.mp ended with first | later
        · rw [← first] at empty
          exact absurd rfl empty
        · exact later
      obtain ⟨lines, body, head, longer⟩ := ih later
      refine ⟨line :: lines, body, ?_, longer⟩
      rw [if_neg empty, head]
      rfl
  | case3 line byte more noEnd ih =>
    rw [List.cons_append, headFrom?_byte (noEnd_append noEnd rest)]
    exact ih ended

theorem written_append (lines : List (List UInt8)) (body more : List UInt8) :
    written lines body ++ more = written lines (body ++ more) := by
  simp [written]

theorem written_cons (piece : List UInt8) (pieces : List (List UInt8)) (body : List UInt8) :
    written (piece :: pieces) body = piece ++ 13 :: 10 :: written pieces body := by
  simp [written]

theorem head?_written {pieces : List (List UInt8)} (full : [] ∉ pieces.flatMap linesOf)
    (body : List UInt8) : head? (written pieces body) = some (pieces.flatMap linesOf, body) := by
  induction pieces with
  | nil => rfl
  | cons piece pieces ih =>
    rw [List.flatMap_cons, List.mem_append, not_or] at full
    rw [written_cons, head?, headFrom?_append full.1, ih full.2]
    rfl

theorem head?_written_ended {pieces : List (List UInt8)} (ended : [] ∈ pieces.flatMap linesOf)
    (body : List UInt8) :
    ∃ lines rest, head? (written pieces body) = some (lines, rest) ∧
      body.length < rest.length := by
  -- The rest of the head, with at least its own empty line, is left to what should be the body.
  have length (pieces : List (List UInt8)) : body.length < (written pieces body).length := by
    simp [written]
    omega
  induction pieces with
  | nil => cases ended
  | cons piece pieces ih =>
    rw [written_cons, head?]
    by_cases here : [] ∈ linesOf piece
    · obtain ⟨lines, rest, head, longer⟩ := headFrom?_ended here (written pieces body)
      exact ⟨lines, rest, head, (length pieces).trans_le longer⟩
    · have later : [] ∈ pieces.flatMap linesOf := by
        rw [List.flatMap_cons, List.mem_append] at ended
        exact ended.resolve_left here
      obtain ⟨lines, rest, head, longer⟩ := ih later
      refine ⟨linesOf piece ++ lines, rest, ?_, longer⟩
      rw [headFrom?_append here, head]
      rfl

/-- What is written as a head and a body is cut into them just when no line of the head is empty,
and the head then has the lines of each text that was written. -/
theorem head?_written_iff {pieces lines : List (List UInt8)} {body : List UInt8} :
    head? (written pieces body) = some (lines, body) ↔
      lines = pieces.flatMap linesOf ∧ [] ∉ lines := by
  constructor
  · intro head
    by_cases ended : [] ∈ pieces.flatMap linesOf
    · obtain ⟨others, rest, cut, longer⟩ := head?_written_ended ended body
      rw [head] at cut
      cases cut
      omega
    · rw [head?_written ended] at head
      cases head
      exact ⟨rfl, ended⟩
  · rintro ⟨rfl, full⟩
    exact head?_written full body

theorem linesFrom_byte {line rest : List UInt8} {byte : UInt8}
    (noEnd : ∀ later, byte = 13 → rest = 10 :: later → False) :
    linesFrom line (byte :: rest) = linesFrom (line ++ [byte]) rest := by
  rw [linesFrom]
  exact fun later first second => noEnd later first second

theorem linesFrom_append (front line text : List UInt8) :
    linesFrom (front ++ line) text = (linesFrom line text).modifyHead (front ++ ·) := by
  fun_induction linesFrom line text with
  | case1 line => rfl
  | case2 line more ih => rfl
  | case3 line byte more noEnd ih => rw [linesFrom_byte noEnd, List.append_assoc, ih]

theorem linesFrom_of_no_return {front : List UInt8} (noReturn : 13 ∉ front)
    (line text : List UInt8) : linesFrom line (front ++ text) = linesFrom (line ++ front) text := by
  induction front generalizing line with
  | nil => rw [List.nil_append, List.append_nil]
  | cons byte front ih =>
    obtain ⟨other, later⟩ := List.ne_and_not_mem_of_not_mem_cons noReturn
    rw [List.cons_append, linesFrom_byte fun _ isReturn => absurd isReturn.symm other, ih later,
      List.append_assoc]
    rfl

theorem linesFrom_ne_nil (line text : List UInt8) : linesFrom line text ≠ [] := by
  fun_induction linesFrom line text with
  | case1 line => exact List.cons_ne_nil _ _
  | case2 line more ih => exact List.cons_ne_nil _ _
  | case3 line byte more noEnd ih => exact ih

theorem linesOf_eq_cons (text : List UInt8) :
    ∃ first, linesOf text = first :: (linesOf text).tail :=
  ⟨_, (List.cons_head_tail (linesFrom_ne_nil [] text)).symm⟩

theorem linesOf_append {front : List UInt8} (noReturn : 13 ∉ front) (text : List UInt8) :
    linesOf (front ++ text) = (linesOf text).modifyHead (front ++ ·) := by
  have whole := linesFrom_append front [] text
  rw [List.append_nil] at whole
  exact (linesFrom_of_no_return noReturn [] text).trans whole

theorem linesFrom_of_no_newline {text : List UInt8} (oneLine : 10 ∉ text) (line : List UInt8) :
    linesFrom line text = [line ++ text] := by
  fun_induction linesFrom line text with
  | case1 line => rw [List.append_nil]
  | case2 line more ih => simp at oneLine
  | case3 line byte more noEnd ih =>
    rw [ih (List.not_mem_of_not_mem_cons oneLine), List.append_assoc]
    rfl

theorem linesOf_utf8 {text : String} (oneLine : '\n' ∉ text.toList) :
    linesOf (Text.utf8 text) = [Text.utf8 text] :=
  linesFrom_of_no_newline (Text.newline_not_mem_utf8 oneLine) []

theorem addedLines_of_oneLine {text : String} (oneLine : '\n' ∉ text.toList) :
    addedLines text = [] := by
  rw [addedLines, linesOf_utf8 oneLine, List.tail_cons]

theorem lengthValue?_colon {name : List UInt8} (noColon : 58 ∉ name) (value : List UInt8) :
    lengthValue? (name ++ 58 :: value) =
      if name.map lowerByte = Text.utf8 "content-length" then some (value.dropWhile (· == 32))
      else none := by
  simp [lengthValue?, Text.takeWhile_append_mark noColon value]

theorem lengthValue?_length (length : Nat) :
    lengthValue? (Text.utf8 ("Content-Length: " ++ toString length)) =
      some (Text.utf8 (toString length)) := by
  have spelled : Text.utf8 ("Content-Length: " ++ toString length) =
      Text.utf8 "Content-Length" ++ 58 :: 32 :: Text.utf8 (toString length) := by
    rw [Text.utf8_append]
    rfl
  have noSpace : 32 ∉ Text.utf8 (toString length) :=
    Text.not_mem_utf8 (by decide) ((toString_isSolid length).not_mem (c := ' ') (by decide))
  have kept : (Text.utf8 (toString length)).dropWhile (· == 32) = Text.utf8 (toString length) := by
    rw [List.dropWhile_eq_self_iff]
    intro notEmpty isSpace
    rw [beq_iff_eq] at isSpace
    exact noSpace (isSpace ▸ List.getElem_mem notEmpty)
  rw [spelled, lengthValue?_colon (by decide), if_pos (by decide),
    List.dropWhile_cons_of_pos (by decide), kept]

/-- A field of another name begins a line that announces no length; the lines that its value adds
are lines of their own. -/
theorem linesOf_field (name : String) (noReturn : 13 ∉ Text.utf8 name)
    (noColon : 58 ∉ Text.utf8 name)
    (other : (Text.utf8 name).map lowerByte ≠ Text.utf8 "content-length") (value : String) :
    ∃ first, linesOf (Text.utf8 (name ++ ": " ++ value)) = first :: addedLines value ∧
      first ≠ [] ∧ lengthValue? first = none := by
  have spelled : Text.utf8 (name ++ ": " ++ value) =
      (Text.utf8 name ++ [58, 32]) ++ Text.utf8 value := by
    rw [Text.utf8_append, Text.utf8_append]
    rfl
  obtain ⟨start, cut⟩ := linesOf_eq_cons (Text.utf8 value)
  refine ⟨Text.utf8 name ++ 58 :: 32 :: start, ?_, by simp, ?_⟩
  · have inFront : 13 ∉ Text.utf8 name ++ [58, 32] := by simp [noReturn]
    rw [spelled, linesOf_append inFront, cut]
    simp [addedLines]
  · rw [lengthValue?_colon noColon, if_neg other]

theorem Request.headBytes_eq_written (request : Request) :
    request.headBytes =
      written ((lines request.path request.fields request.declaredLength).map Text.utf8) [] := by
  have newline : Text.utf8 "\r\n" = [13, 10] := by decide
  rw [headBytes, head_eq_lines, Text.utf8_append, Text.utf8_join, newline, written,
    List.flatMap_map, List.flatMap_map, List.append_nil]
  simp only [Text.utf8_append, newline]

theorem Request.bytes_eq_written (request : Request) :
    request.bytes =
      written ((lines request.path request.fields request.declaredLength).map Text.utf8)
        request.body := by
  rw [bytes, headBytes_eq_written, written_append, List.nil_append]

end ServerProbe.Http
