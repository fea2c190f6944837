import ServerProbe.Wire.Stream
import ServerProbe.Proofs.Wire.Lines

/-! Readers that a fault interrupts.

A reader of lines either finds all it takes in the bytes that have arrived, or it
loses them to the fault that comes next: they are off the stream, and nothing was
made of them. This is put together from the lines that a reader takes in turn.
-/

set_option autoImplicit false

namespace ServerProbe.Wire

variable {R S : Type}

/-- These bytes are all that a reader takes, whatever follows them. -/
def Takes (read : Stream → Except Fault R × Stream) (bytes : List UInt8)
    (result : Except Fault R) : Prop :=
  ∀ rest, read (ofBytes bytes ++ rest) = (result, rest)

def AreLines (bytes : List UInt8) : Prop :=
  bytes = [] ∨ ∃ front, bytes = front ++ [10]

/-- A reader takes some whole lines of the bytes, or a fault after the bytes ends it. -/
def Settles (read : Stream → Except Fault R × Stream) (bytes : List UInt8) : Prop :=
  (∃ used left result, bytes = used ++ left ∧ AreLines used ∧ Takes read used result) ∨
    ∀ fault rest, fault.kind ≠ .interrupted →
      read (ofBytes bytes ++ .fault fault :: rest) = (.error fault, rest)

def andThen (first : Stream → Except Fault R × Stream)
    (next : R → Stream → Except Fault S × Stream) (stream : Stream) : Except Fault S × Stream :=
  match first stream with
  | (.error fault, rest) => (.error fault, rest)
  | (.ok value, rest) => next value rest

def done (result : Except Fault R) (stream : Stream) : Except Fault R × Stream :=
  (result, stream)

theorem AreLines.append {front back : List UInt8} (first : AreLines front)
    (second : AreLines back) : AreLines (front ++ back) := by
  rcases second with rfl | ⟨before, rfl⟩
  · rw [List.append_nil]
    exact first
  · exact Or.inr ⟨front ++ before, (List.append_assoc ..).symm⟩

theorem AreLines.newline_mem_drop {bytes : List UInt8} (lines : AreLines bytes) {cut : Nat}
    (inside : cut < bytes.length) : 10 ∈ bytes.drop cut := by
  rcases lines with rfl | ⟨front, rfl⟩
  · simp at inside
  · rw [List.length_append, List.length_singleton] at inside
    rw [List.drop_append_of_le_length (by omega)]
    simp

theorem takes_andThen {first : Stream → Except Fault R × Stream}
    {next : R → Stream → Except Fault S × Stream} {front back : List UInt8} {value : R}
    {result : Except Fault S} (found : Takes first front (.ok value))
    (later : Takes (next value) back result) :
    Takes (andThen first next) (front ++ back) result := by
  intro rest
  rw [ofBytes_append, List.append_assoc]
  unfold andThen
  rw [found]
  exact later rest

theorem takes_andThen_error {first : Stream → Except Fault R × Stream}
    {next : R → Stream → Except Fault S × Stream} {bytes : List UInt8} {fault : Fault}
    (failed : Takes first bytes (.error fault)) :
    Takes (andThen first next) bytes (.error fault) := by
  intro rest
  unfold andThen
  rw [failed]

theorem settles_done (result : Except Fault R) (bytes : List UInt8) :
    Settles (done result) bytes :=
  Or.inl ⟨[], bytes, result, rfl, Or.inl rfl, fun _ => rfl⟩

theorem settles_andThen {first : Stream → Except Fault R × Stream}
    {next : R → Stream → Except Fault S × Stream} {bytes : List UInt8}
    (settles : Settles first bytes)
    (later : ∀ used left value, bytes = used ++ left → Takes first used (.ok value) →
      Settles (next value) left) : Settles (andThen first next) bytes := by
  rcases settles with ⟨used, left, result, split, lines, found⟩ | lost
  -- The first reader found what it takes: the second one has the rest of the bytes.
  · cases result with
    | error fault => exact Or.inl ⟨used, left, _, split, lines, takes_andThen_error found⟩
    | ok value =>
      rcases later used left value split found with ⟨more, unread, result, rfl, ends, taken⟩ | lost
      · have both := takes_andThen found taken
        refine Or.inl ⟨used ++ more, unread, result, ?_, lines.append ends, both⟩
        rw [split, List.append_assoc]
      · refine Or.inr ?_
        intro fault rest stops
        rw [split, ofBytes_append, List.append_assoc]
        unfold andThen
        rw [found]
        exact lost fault rest stops
  · refine Or.inr ?_
    intro fault rest stops
    unfold andThen
    rw [lost fault rest stops]

/-- A reader that is cut short returns the fault, and reads on behind it. -/
theorem Takes.cut {read : Stream → Except Fault R × Stream} {bytes missing : List UInt8}
    {result : Except Fault R} (whole : Takes read (bytes ++ missing) result)
    (settles : Settles read bytes) (isCut : missing ≠ []) {fault : Fault}
    (stops : fault.kind ≠ .interrupted) (rest : Stream) :
    read (ofBytes bytes ++ .fault fault :: rest) = (.error fault, rest) := by
  rcases settles with ⟨used, left, early, rfl, -, found⟩ | lost
  · -- What it took could not be less than the whole.
    have atEnd := whole []
    rw [List.append_nil, List.append_assoc, ofBytes_append, found] at atEnd
    have nothing := (Prod.mk.inj atEnd).2
    rw [ofBytes_append] at nothing
    exact absurd (List.map_eq_nil_iff.mp (List.append_eq_nil_iff.mp nothing).2) isCut
  · exact lost fault rest stops

theorem Takes.areLines {read : Stream → Except Fault R × Stream} {bytes : List UInt8} {value : R}
    (whole : Takes read bytes (.ok value)) (settles : Settles read bytes) : AreLines bytes := by
  rcases settles with ⟨used, left, early, rfl, lines, found⟩ | lost
  · have atEnd := whole []
    rw [List.append_nil, ofBytes_append, found] at atEnd
    have nothing := List.map_eq_nil_iff.mp (Prod.mk.inj atEnd).2
    rw [nothing, List.append_nil]
    exact lines
  · have read := lost .nothingYet [] (by decide)
    rw [whole] at read
    cases read

theorem takeLine_fault {bytes : List UInt8} (noEnd : 10 ∉ bytes) {fault : Fault}
    (stops : fault.kind ≠ .interrupted) (rest : Stream) :
    takeLine (ofBytes bytes ++ .fault fault :: rest) = ⟨bytes, some fault, rest⟩ := by
  induction bytes with
  | nil => simp [takeLine, stops]
  | cons byte bytes ih =>
    obtain ⟨other, later⟩ := List.ne_and_not_mem_of_not_mem_cons noEnd
    simp [takeLine, other.symm, ih later, Taken.cons]

theorem settles_readLine (bytes : List UInt8) : Settles readLine bytes := by
  -- Only a line feed among the bytes lets a line be read before the fault.
  by_cases ended : 10 ∈ bytes
  · obtain ⟨line, left, rfl, oneLine⟩ := List.eq_append_cons_of_mem ended
    exact Or.inl ⟨line ++ [10], left, _, by simp, Or.inr ⟨line, rfl⟩, readLine_ofBytes oneLine⟩
  · refine Or.inr ?_
    intro fault rest stops
    unfold readLine
    rw [takeLine_fault ended stops]

end ServerProbe.Wire
