import ServerProbe.Proofs.Wire.Lines

/-! What is read from a stream that ends cleanly.

A line ends with its line feed or with the stream, so what is left of a line that
was cut off passes for a line, and behind the last byte there is an empty one.
Bytes that are asked for by their number must all be there.
-/

set_option autoImplicit false

namespace ServerProbe.Wire

/-- Bytes that are a line when these others follow them. -/
def IsLine (line rest : List UInt8) : Prop :=
  (∃ front, line = front ++ [10] ∧ 10 ∉ front) ∨ 10 ∉ line ∧ rest = []

theorem isLine_last {line : List UInt8} (noEnd : 10 ∉ line) : IsLine line [] :=
  Or.inr ⟨noEnd, rfl⟩

theorem isLine_newline {line : String} (oneLine : '\n' ∉ line.toList) (rest : List UInt8) :
    IsLine (Text.utf8 (line ++ "\n")) rest := by
  have newline : Text.utf8 "\n" = [10] := by decide
  refine Or.inl ⟨Text.utf8 line, ?_, Text.newline_not_mem_utf8 oneLine⟩
  rw [Text.utf8_append, newline]

theorem exists_line (bytes : List UInt8) :
    ∃ line rest, bytes = line ++ rest ∧ IsLine line rest := by
  by_cases ended : 10 ∈ bytes
  · obtain ⟨front, rest, rfl, oneLine⟩ := List.eq_append_cons_of_mem ended
    exact ⟨front ++ [10], rest, by simp, Or.inl ⟨front, rfl, oneLine⟩⟩
  · exact ⟨bytes, [], by simp, isLine_last ended⟩

theorem takeLine_last {line : List UInt8} (noEnd : 10 ∉ line) :
    takeLine (ofBytes line) = ⟨line, none, []⟩ := by
  induction line with
  | nil => rfl
  | cons byte line ih =>
    obtain ⟨other, later⟩ := List.ne_and_not_mem_of_not_mem_cons noEnd
    simp [takeLine, other.symm, ih later, Taken.cons]

theorem readLine_isLine {line rest : List UInt8} (isLine : IsLine line rest) :
    readLine (ofBytes (line ++ rest)) = (lineOf line, ofBytes rest) := by
  rcases isLine with ⟨front, rfl, oneLine⟩ | ⟨noEnd, rfl⟩
  · rw [ofBytes_append]
    exact readLine_ofBytes oneLine _
  · rw [List.append_nil]
    unfold readLine lineOf
    rw [takeLine_last noEnd]
    dsimp only
    cases Text.ofUtf8? line <;> rfl

theorem lineOf_ok_iff {bytes : List UInt8} {text : String} :
    lineOf bytes = .ok text ↔ bytes = Text.utf8 text := by
  constructor
  · intro known
    unfold lineOf at known
    split at known
    · next decoded =>
      cases known
      exact (Text.utf8_of_ofUtf8? decoded).symm
    · cases known
  · rintro rfl
    rw [lineOf, Text.ofUtf8?_utf8]

theorem readLine_ok_iff {bytes : List UInt8} {text : String} {left : Stream} :
    readLine (ofBytes bytes) = (.ok text, left) ↔
      ∃ rest, bytes = Text.utf8 text ++ rest ∧ left = ofBytes rest ∧
        IsLine (Text.utf8 text) rest := by
  constructor
  · intro read
    obtain ⟨line, rest, rfl, isLine⟩ := exists_line bytes
    rw [readLine_isLine isLine] at read
    obtain ⟨known, rfl⟩ := Prod.mk.inj read
    obtain rfl := lineOf_ok_iff.mp known
    exact ⟨rest, rfl, rfl, isLine⟩
  · rintro ⟨rest, rfl, rfl, isLine⟩
    rw [readLine_isLine isLine, lineOf_ok_iff.mpr rfl]

theorem takeBytes_short {count : Nat} {bytes : List UInt8} (fewer : bytes.length < count) :
    takeBytes count (ofBytes bytes) = ⟨bytes, some .shortRead, []⟩ := by
  induction bytes generalizing count with
  | nil =>
    obtain ⟨before, rfl⟩ := Nat.exists_eq_succ_of_ne_zero (Nat.ne_of_gt fewer)
    rfl
  | cons byte bytes ih =>
    obtain ⟨before, rfl⟩ := Nat.exists_eq_succ_of_ne_zero (Nat.ne_zero_of_lt fewer)
    have others := ih (Nat.lt_of_succ_lt_succ fewer)
    simp [takeBytes, others, Taken.cons]

theorem takeBytes_ok_iff {count : Nat} {bytes data : List UInt8} {left : Stream} :
    takeBytes count (ofBytes bytes) = ⟨data, none, left⟩ ↔
      ∃ rest, bytes = data ++ rest ∧ left = ofBytes rest ∧ data.length = count := by
  constructor
  · intro taken
    rcases Nat.lt_or_ge bytes.length count with fewer | enough
    · rw [takeBytes_short fewer] at taken
      cases taken
    · have front := takeBytes_ofBytes (bytes.take count) (ofBytes (bytes.drop count))
      rw [← ofBytes_append, List.take_append_drop, List.length_take_of_le enough, taken] at front
      cases front
      exact ⟨bytes.drop count, (List.take_append_drop ..).symm, rfl,
        List.length_take_of_le enough⟩
  · rintro ⟨rest, rfl, rfl, rfl⟩
    rw [ofBytes_append]
    exact takeBytes_ofBytes data _

end ServerProbe.Wire
