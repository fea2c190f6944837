import ServerProbe.Proofs.Wire.Lines

/-! Loops over a stream.

Reading loses no byte: what was taken off a stream and what is left of it make
up the bytes that were to come. A loop of which every turn but the last takes
bytes therefore ends, with at most one turn more than there are bytes.
-/

set_option autoImplicit false

namespace ServerProbe.Wire

/-- The bytes that are still to come, up to the end of the stream. -/
def bytesIn : Stream → List UInt8
  | [] => []
  | .byte byte :: rest => byte :: bytesIn rest
  | .fault _ :: rest => bytesIn rest
  | .pause :: rest => bytesIn rest

theorem bytesIn_takeLine (stream : Stream) :
    (takeLine stream).bytes ++ bytesIn (takeLine stream).rest = bytesIn stream := by
  fun_induction takeLine stream with
  | case1 => rfl
  | case2 => rfl
  | case3 byte rest _ ih => exact congrArg (byte :: ·) ih
  | case4 fault rest _ ih => exact ih
  | case5 => rfl
  | case6 => rfl

theorem bytesIn_takeBytes (count : Nat) (stream : Stream) :
    (takeBytes count stream).bytes ++ bytesIn (takeBytes count stream).rest = bytesIn stream := by
  fun_induction takeBytes count stream with
  | case1 => rfl
  | case2 => rfl
  | case3 count byte rest ih => exact congrArg (byte :: ·) ih
  | case4 count fault rest _ ih => exact ih
  | case5 => rfl
  | case6 => rfl

theorem bytesIn_readLine {stream rest : Stream} {line : String}
    (read : readLine stream = (.ok line, rest)) :
    Text.utf8 line ++ bytesIn rest = bytesIn stream := by
  have whole := bytesIn_takeLine stream
  unfold readLine at read
  split at read
  · cases read
  · next taken =>
    split at read
    · next decoded =>
      cases read
      rw [taken] at whole
      rw [Text.utf8_of_ofUtf8? decoded]
      exact whole
    · cases read

theorem length_of_readLine {stream rest : Stream} {line : String}
    (read : readLine stream = (.ok line, rest)) :
    (bytesIn rest).length ≤ (bytesIn stream).length := by
  rw [← bytesIn_readLine read, List.length_append]
  exact Nat.le_add_left _ _

theorem length_of_readLine_lt {stream rest : Stream} {line : String}
    (read : readLine stream = (.ok line, rest)) (notEmpty : line.isEmpty = false) :
    (bytesIn rest).length < (bytesIn stream).length := by
  have taken : Text.utf8 line ≠ [] := by
    intro nothing
    have isEmpty : line = "" := Text.utf8_injective (nothing.trans (by decide))
    simp [isEmpty] at notEmpty
  rw [← bytesIn_readLine read, List.length_append]
  exact Nat.lt_add_of_pos_left (List.length_pos_iff.mpr taken)

theorem length_of_takeBytes {count : Nat} {stream rest : Stream} {bytes : List UInt8}
    (taken : takeBytes count stream = ⟨bytes, none, rest⟩) :
    (bytesIn rest).length ≤ (bytesIn stream).length := by
  have whole := bytesIn_takeBytes count stream
  rw [taken] at whole
  rw [← whole, List.length_append]
  exact Nat.le_add_left _ _

theorem length_takeBytes {count : Nat} {stream rest : Stream} {bytes : List UInt8}
    (taken : takeBytes count stream = ⟨bytes, none, rest⟩) : bytes.length = count := by
  fun_induction takeBytes count stream generalizing bytes with
  | case1 => cases taken; rfl
  | case2 => cases taken
  | case3 count byte later ih =>
    cases others : takeBytes count later with
    | mk read fault left =>
      rw [others] at taken ih
      simp only [Taken.cons, Taken.mk.injEq] at taken
      obtain ⟨rfl, rfl, rfl⟩ := taken
      rw [List.length_cons, ih rfl]
  | case4 count fault later retried ih => exact ih taken
  | case5 => cases taken
  | case6 => cases taken

/-- What a turn of a loop comes to: the loop is left with a result, or goes on from a state. -/
inductive Turn (S R : Type) where
  | leave (result : R)
  | again (next : S)

/-- From a state the loop takes this many turns, and is left with this result by the last. -/
inductive Runs {S R : Type} (turn : S → Turn S R) : S → Nat → R → Prop where
  | leave {state : S} {result : R} : turn state = .leave result → Runs turn state 1 result
  | again {state next : S} {turns : Nat} {result : R} : turn state = .again next →
      Runs turn next turns result → Runs turn state (turns + 1) result

variable {S R : Type}

def Turn.finish (goOn : S → R) : Turn S R → R
  | .leave result => result
  | .again next => goOn next

/-- The reader is the loop of these turns: one turn of the loop can be unrolled. -/
def IsLoop (turn : S → Turn S R) (reader : S → R) : Prop :=
  ∀ state, reader state = (turn state).finish reader

/-- Every turn either leaves the loop or takes at least so many bytes off the stream. -/
def Advances (turn : S → Turn S R) (streamOf : S → Stream) (least : Nat) : Prop :=
  ∀ state next, turn state = .again next →
    (bytesIn (streamOf next)).length + least ≤ (bytesIn (streamOf state)).length

theorem IsLoop.runs {turn : S → Turn S R} {reader : S → R} {streamOf : S → Stream} {least : Nat}
    (loop : IsLoop turn reader) (advances : Advances turn streamOf least) (positive : 0 < least)
    (state : S) :
    ∃ turns, Runs turn state turns (reader state) ∧
      least * turns ≤ (bytesIn (streamOf state)).length + least := by
  -- The bytes that are still to come become fewer with every turn that goes on.
  induction left : (bytesIn (streamOf state)).length using Nat.strongRecOn generalizing state with
  | _ size ih =>
    rw [loop state]
    cases known : turn state with
    | leave result => exact ⟨1, .leave known, by omega⟩
    | again next =>
      have taken := advances state next known
      obtain ⟨turns, runs, bound⟩ := ih _ (by omega) next rfl
      refine ⟨turns + 1, .again known runs, ?_⟩
      rw [Nat.mul_succ]
      omega

end ServerProbe.Wire
