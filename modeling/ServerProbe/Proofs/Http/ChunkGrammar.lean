import Mathlib.Algebra.GroupWithZero.Nat
import ServerProbe.Proofs.Http.ReadBack
import ServerProbe.Proofs.Wire.Ended

/-! Which bytes are read as chunks.

Each chunk is a line with its size, as many bytes, and one more line, of which
only the end matters. A size of zero stands on the last line before the trailers,
which go on to a blank line or to the end of the stream.
-/

set_option autoImplicit false

namespace ServerProbe.Http

open Wire

/-- The line announces a size: what stands before a semicolon, but for blanks around it, is a
hexadecimal numeral of this value. -/
def HasSize (line : String) (size : Nat) : Prop :=
  Text.unsigned? 16 Text.wordLimit (Text.trim (line.toList.takeWhile (· != ';'))) = some size

instance (line : String) (size : Nat) : Decidable (HasSize line size) :=
  inferInstanceAs (Decidable (Text.unsigned? 16 Text.wordLimit
    (Text.trim (line.toList.takeWhile (· != ';'))) = some size))

/-- Lines of text up to the first blank one, where these other bytes follow. -/
inductive TrailerLines : List UInt8 → List UInt8 → Prop where
  | blank {line : String} {rest : List UInt8} :
      IsLine (Text.utf8 line) rest → Text.isBlankText line = true →
      TrailerLines (Text.utf8 line) rest
  | more {line : String} {bytes rest : List UInt8} :
      IsLine (Text.utf8 line) (bytes ++ rest) → Text.isBlankText line = false →
      TrailerLines bytes rest → TrailerLines (Text.utf8 line ++ bytes) rest

/-- Chunks with these parts of a body, up to the end of the trailers, where these other bytes
follow. -/
inductive ChunkLines : List (List UInt8) → List UInt8 → List UInt8 → Prop where
  | last {line : String} {trailers rest : List UInt8} :
      IsLine (Text.utf8 line) (trailers ++ rest) → HasSize line 0 → TrailerLines trailers rest →
      ChunkLines [] (Text.utf8 line ++ trailers) rest
  | chunk {line ended : String} {data bytes rest : List UInt8} {parts : List (List UInt8)} :
      IsLine (Text.utf8 line) (data ++ (Text.utf8 ended ++ (bytes ++ rest))) →
      HasSize line data.length → data ≠ [] → IsLine (Text.utf8 ended) (bytes ++ rest) →
      ChunkLines parts bytes rest →
      ChunkLines (data :: parts) (Text.utf8 line ++ (data ++ (Text.utf8 ended ++ bytes))) rest

theorem sizeText_eq (line : String) :
    sizeText line = Text.trim (line.toList.takeWhile (· != ';')) := by
  rw [sizeText, Text.head?_fields, Option.getD_some, Text.trim_takeWhile_trimEnd]

theorem hasSize_iff {line : String} {size : Nat} :
    HasSize line size ↔ Text.unsigned? 16 Text.wordLimit (sizeText line) = some size := by
  rw [HasSize, sizeText_eq]

theorem HasSize.not_isEmpty {line : String} {size : Nat} (hasSize : HasSize line size) :
    line.isEmpty = false := by
  cases isEmpty : line.isEmpty with
  | false => rfl
  | true =>
    rw [String.isEmpty_iff.mp isEmpty, HasSize] at hasSize
    cases hasSize

theorem TrailerLines.skipTrailers {bytes rest : List UInt8} (trailers : TrailerLines bytes rest) :
    Http.skipTrailers (ofBytes (bytes ++ rest)) = (.ok (), ofBytes rest) := by
  induction trailers with
  | blank isLine blank => exact skipTrailers_blank (readLine_ok_iff.mpr ⟨_, rfl, rfl, isLine⟩) blank
  | more isLine notBlank _ ih =>
    rw [List.append_assoc]
    rw [skipTrailers_line (readLine_ok_iff.mpr ⟨_, rfl, rfl, isLine⟩) notBlank, ih]

theorem trailerLines_of_skipTrailers {bytes : List UInt8} {left : Stream}
    (skipped : skipTrailers (ofBytes bytes) = (.ok (), left)) :
    ∃ front rest, bytes = front ++ rest ∧ left = ofBytes rest ∧ TrailerLines front rest := by
  generalize arrived : ofBytes bytes = stream at skipped
  fun_induction Http.skipTrailers stream generalizing bytes with
  | case1 => cases skipped
  | case2 stream line afterLine read blank =>
    subst arrived
    cases skipped
    obtain ⟨rest, rfl, rfl, isLine⟩ := readLine_ok_iff.mp read
    exact ⟨_, rest, rfl, rfl, .blank isLine blank⟩
  | case3 stream line afterLine read notBlank ih =>
    subst arrived
    obtain ⟨later, rfl, rfl, isLine⟩ := readLine_ok_iff.mp read
    obtain ⟨front, rest, rfl, rfl, trailers⟩ := ih rfl skipped
    refine ⟨_, rest, (List.append_assoc ..).symm, rfl, .more isLine ?_ trailers⟩
    simpa using notBlank

theorem ChunkLines.readChunks {parts : List (List UInt8)} {bytes rest : List UInt8} {start : Nat}
    (chunks : ChunkLines parts bytes rest) (fits : start + parts.flatten.length < sizeLimit) :
    Http.readChunks start (ofBytes (bytes ++ rest)) = (.ok parts.flatten, ofBytes rest) := by
  induction chunks generalizing start with
  | last isLine hasSize trailers =>
    rw [List.append_assoc]
    exact readChunks_last (readLine_ok_iff.mpr ⟨_, rfl, rfl, isLine⟩) hasSize.not_isEmpty
      (hasSize_iff.mp hasSize) trailers.skipTrailers
  | @chunk line ended data bytes rest parts isLine hasSize notEmpty endLine later ih =>
    obtain ⟨size, isSize⟩ : ∃ size, data.length = size + 1 :=
      Nat.exists_eq_succ_of_ne_zero (by simpa using notEmpty)
    rw [List.flatten_cons, List.length_append, isSize] at fits
    have room : start + (size + 1) + parts.flatten.length < sizeLimit := by omega
    have others := ih room
    have announced := hasSize_iff.mp hasSize
    rw [isSize] at announced
    simp only [List.append_assoc, List.flatten_cons]
    exact readChunks_chunk (readLine_ok_iff.mpr ⟨_, rfl, rfl, isLine⟩) hasSize.not_isEmpty
      announced (by omega) (takeBytes_ok_iff.mpr ⟨_, rfl, rfl, isSize⟩)
      (readLine_ok_iff.mpr ⟨_, rfl, rfl, endLine⟩) others

theorem chunkLines_of_readChunks {start : Nat} {bytes body : List UInt8} {left : Stream}
    (room : start < sizeLimit) (read : readChunks start (ofBytes bytes) = (.ok body, left)) :
    ∃ parts front rest, bytes = front ++ rest ∧ left = ofBytes rest ∧
      ChunkLines parts front rest ∧ body = parts.flatten ∧ start + body.length < sizeLimit := by
  generalize arrived : ofBytes bytes = stream at read
  fun_induction Http.readChunks start stream generalizing bytes body left with
  | case5 start stream line afterLine lineRead notEnd known afterTrailers skipped =>
    subst arrived
    cases read
    obtain ⟨later, rfl, rfl, isLine⟩ := readLine_ok_iff.mp lineRead
    obtain ⟨trailers, rest, rfl, rfl, skips⟩ := trailerLines_of_skipTrailers skipped
    have lines := ChunkLines.last isLine (hasSize_iff.mpr known) skips
    exact ⟨[], _, rest, (List.append_assoc ..).symm, rfl, lines, rfl, room⟩
  | case10 start stream line afterLine lineRead notEnd size known fits data afterData taken ended
      next closed others afterOthers found ih =>
    subst arrived
    cases read
    obtain ⟨later, rfl, rfl, isLine⟩ := readLine_ok_iff.mp lineRead
    obtain ⟨afterChunk, rfl, rfl, isSize⟩ := takeBytes_ok_iff.mp taken
    obtain ⟨more, rfl, rfl, endLine⟩ := readLine_ok_iff.mp closed
    obtain ⟨parts, front, rest, rfl, rfl, chunks, rfl, small⟩ := ih (by omega) rfl found
    have hasSize : HasSize line data.length := by
      rw [isSize]
      exact hasSize_iff.mpr known
    have notEmpty : data ≠ [] := List.ne_nil_of_length_eq_add_one isSize
    refine ⟨data :: parts, _, rest, ?_, rfl, .chunk isLine hasSize notEmpty endLine chunks, rfl, ?_⟩
    · simp only [List.append_assoc]
    · rw [List.length_append, isSize]
      omega
  | _ => cases read

/-- A body in chunks is read from a stream that ends cleanly just when the stream begins with lines
and data of chunks, which are what is taken off it. The body has the parts of all chunks in order,
and its length is the sum of the sizes, which fits in memory. -/
theorem readChunks_ok_iff (bytes body : List UInt8) (left : Stream) :
    readChunks 0 (ofBytes bytes) = (.ok body, left) ↔
      ∃ parts front rest, bytes = front ++ rest ∧ left = ofBytes rest ∧
        ChunkLines parts front rest ∧ body = parts.flatten ∧
        body.length = (parts.map List.length).sum ∧ (parts.map List.length).sum < sizeLimit := by
  constructor
  · intro read
    obtain ⟨parts, front, rest, split, taken, chunks, rfl, fits⟩ :=
      chunkLines_of_readChunks (by decide) read
    rw [Nat.zero_add, List.length_flatten] at fits
    exact ⟨parts, front, rest, split, taken, chunks, rfl, List.length_flatten, fits⟩
  · rintro ⟨parts, front, rest, rfl, rfl, chunks, rfl, length, fits⟩
    refine chunks.readChunks ?_
    rwa [Nat.zero_add, length]

end ServerProbe.Http
