import ServerProbe.Http.Response
import ServerProbe.Proofs.Text.Cutting
import ServerProbe.Proofs.Wire.Interruption

/-! Heads that a fault interrupts.

A fault before the end of a head loses what came of it, and reading goes on in
the middle. What is left of the head is then no head, unless another status line
begins there.
-/

set_option autoImplicit false

namespace ServerProbe.Http

open Wire

def fieldsAfter (line : String) : Stream → Except Fault (List (String × String)) × Stream :=
  if line.isEmpty then done (.error headCut)
  else if Text.isBlankText line then done (.ok [])
  else andThen readFields fun fields => done (.ok (fieldOf (Text.trimEnd line.toList) ++ fields))

def headAfter (line : String) : Stream → Except Fault Head × Stream :=
  if line.isEmpty then done (.error noResponse)
  else
    match statusOf (Text.trimEnd line.toList) with
    | .error fault => done (.error fault)
    | .ok status => andThen readFields fun fields => done (.ok ⟨status, fields⟩)

theorem readFields_andThen : readFields = andThen readLine fieldsAfter := by
  funext stream
  rw [readFields_eq]
  unfold andThen
  cases readLine stream with
  | mk result rest =>
    cases result with
    | error fault => rfl
    | ok line =>
      unfold fieldsAfter
      dsimp only
      split
      · rfl
      · split
        · rfl
        · unfold andThen
          cases readFields rest with
          | mk later left => cases later <;> rfl

theorem readHead_andThen : readHead = andThen readLine headAfter := by
  funext stream
  unfold readHead andThen
  cases readLine stream with
  | mk result rest =>
    cases result with
    | error fault => rfl
    | ok line =>
      unfold headAfter
      dsimp only
      split
      · rfl
      · cases statusOf (Text.trimEnd line.toList) with
        | error fault => rfl
        | ok status =>
          unfold andThen
          dsimp only
          cases readFields rest with
          | mk later left => cases later <;> rfl

theorem used_ne_nil {used : List UInt8} {line : String} (found : Takes readLine used (.ok line))
    (notEnd : line.isEmpty = false) : used ≠ [] := by
  rintro rfl
  have shorter := readLine_shorter (found []) notEnd
  simp at shorter

theorem settles_readFields (bytes : List UInt8) : Settles readFields bytes := by
  -- The line that was read took a byte, so fewer are left for the lines after it.
  induction length : bytes.length using Nat.strong_induction_on generalizing bytes with
  | _ size ih =>
    rw [readFields_andThen]
    refine settles_andThen (settles_readLine bytes) ?_
    rintro used left line rfl found
    unfold fieldsAfter
    split
    · exact settles_done _ left
    · next notEnd =>
      split
      · exact settles_done _ left
      · have taken := used_ne_nil found (by simpa using notEnd)
        have fewer : left.length < size := by
          rw [← length, List.length_append]
          exact Nat.lt_add_of_pos_left (List.length_pos_iff.mpr taken)
        refine settles_andThen (ih left.length fewer left rfl) ?_
        intro more unread fields _ _
        exact settles_done _ unread

theorem settles_readHead (bytes : List UInt8) : Settles readHead bytes := by
  rw [readHead_andThen]
  refine settles_andThen (settles_readLine bytes) ?_
  intro used left line _ _
  unfold headAfter
  split
  · exact settles_done _ left
  · split
    · exact settles_done _ left
    · refine settles_andThen (settles_readFields left) ?_
      intro more unread fields _ _
      exact settles_done _ unread

theorem statusOf_kind {line : List Char} {fault : Fault} (failed : statusOf line = .error fault) :
    fault.kind = .invalidData := by
  unfold statusOf at failed
  split at failed
  · split at failed
    · split at failed
      · cases failed
      · cases failed
        rfl
    · cases failed
      rfl
  · cases failed
    rfl

theorem names_protocol {line : List Char} {status : UInt16} (known : statusOf line = .ok status) :
    "HTTP/".toList <:+: line := by
  unfold statusOf at known
  split at known
  · next version code others words =>
    have member : version ∈ Text.words line := by simp [words]
    split at known
    · next named =>
      have front : "HTTP/".toList <+: version := List.isPrefixOf_iff_prefix.mp named
      exact front.isInfix.trans (Text.infix_of_mem_words member)
    · cases known
  · cases known

/-- A line that does not name the protocol is refused as a head, with its stream. -/
theorem readHead_unnamed {line : List UInt8} (oneLine : 10 ∉ line)
    (unnamed : ¬Text.utf8 "HTTP/" <:+: line ++ [10]) (rest : Stream) :
    ∃ fault left, fault.kind = .invalidData ∧
      readHead (ofBytes (line ++ [10]) ++ rest) = (.error fault, left) := by
  rw [readHead_andThen]
  unfold andThen
  rw [readLine_ofBytes oneLine rest]
  unfold lineOf
  cases decoded : Text.ofUtf8? (line ++ [10]) with
  | none => exact ⟨_, _, rfl, rfl⟩
  | some text =>
    have spelled := Text.utf8_of_ofUtf8? decoded
    have notEmpty : text.isEmpty = false := by
      cases isEmpty : text.isEmpty with
      | false => rfl
      | true =>
        rw [String.isEmpty_iff] at isEmpty
        rw [isEmpty] at spelled
        simp [Text.utf8] at spelled
    dsimp only
    unfold headAfter
    rw [if_neg (by simp [notEmpty])]
    cases parsed : statusOf (Text.trimEnd text.toList) with
    | error fault => exact ⟨fault, rest, statusOf_kind parsed, rfl⟩
    | ok status =>
      have named := (names_protocol parsed).trans (Text.trimEnd_isPrefix text.toList).isInfix
      rw [← spelled] at unnamed
      exact absurd (Text.utf8_infix named) unnamed

end ServerProbe.Http
