import ServerProbe.Proofs.Wire.Interruption

/-! What is read from a connection that breaks.

A reader that returns a value in spite of the break has found all of it in the
bytes that had arrived. It returns the same, and leaves the same, whatever
comes in place of the break.
-/

set_option autoImplicit false

namespace ServerProbe.Wire

variable {E R : Type}

/-- A fault that breaks a connection. An interruption does not, and one kind of fault counts as the
end of the stream. -/
structure Breaks (fault : Fault) : Prop where
  stops : fault.kind ≠ .interrupted
  noEnd : fault.kind ≠ .unexpectedEof

def broken (bytes : List UInt8) (fault : Fault) (rest : Stream) : Stream :=
  ofBytes bytes ++ .fault fault :: rest

/-- What this reader returns in spite of a break it has from the bytes before it. -/
def HeedsBreaks (read : Stream → Except E R × Stream) : Prop :=
  ∀ ⦃bytes fault rest value left⦄, Breaks fault →
    read (broken bytes fault rest) = (.ok value, left) →
      ∃ unread, unread <:+ bytes ∧ left = broken unread fault rest ∧
        ∀ later, read (ofBytes bytes ++ later) = (.ok value, ofBytes unread ++ later)

theorem heedsBreaks_of_settles {read : Stream → Except Fault R × Stream}
    (settles : ∀ bytes, Settles read bytes) : HeedsBreaks read := by
  intro bytes fault rest value left breaks found
  rcases settles bytes with ⟨used, unread, result, rfl, -, takes⟩ | lost
  · have whole (later : Stream) :
        read (ofBytes (used ++ unread) ++ later) = (result, ofBytes unread ++ later) := by
      rw [ofBytes_append, List.append_assoc]
      exact takes _
    rw [broken, whole] at found
    obtain ⟨rfl, rfl⟩ := Prod.mk.inj found
    exact ⟨unread, List.suffix_append used unread, rfl, whole⟩
  · rw [broken, lost fault rest breaks.stops] at found
    cases found

theorem readLine_heedsBreaks : HeedsBreaks readLine :=
  heedsBreaks_of_settles settles_readLine

theorem takeBytes_front {count : Nat} {bytes : List UInt8} (enough : count ≤ bytes.length)
    (later : Stream) :
    takeBytes count (ofBytes bytes ++ later) =
      ⟨bytes.take count, none, ofBytes (bytes.drop count) ++ later⟩ := by
  have front := takeBytes_ofBytes (bytes.take count) (ofBytes (bytes.drop count) ++ later)
  rwa [← List.append_assoc, ← ofBytes_append, List.take_append_drop,
    List.length_take_of_le enough] at front

theorem takeBytes_broken {count : Nat} {bytes : List UInt8} (fewer : bytes.length < count)
    {fault : Fault} (breaks : Breaks fault) (rest : Stream) :
    takeBytes count (broken bytes fault rest) = ⟨bytes, some fault, rest⟩ := by
  induction bytes generalizing count with
  | nil =>
    obtain ⟨before, rfl⟩ := Nat.exists_eq_succ_of_ne_zero (Nat.ne_of_gt fewer)
    simp [broken, takeBytes, breaks.stops]
  | cons byte bytes ih =>
    obtain ⟨before, rfl⟩ := Nat.exists_eq_succ_of_ne_zero (Nat.ne_zero_of_lt fewer)
    have others := ih (Nat.lt_of_succ_lt_succ fewer)
    rw [broken] at others ⊢
    simp [takeBytes, others, Taken.cons]

theorem takeBytes_of_broken {count : Nat} {bytes data : List UInt8} {fault : Fault}
    (breaks : Breaks fault) {rest left : Stream}
    (taken : takeBytes count (broken bytes fault rest) = ⟨data, none, left⟩) :
    ∃ unread, unread <:+ bytes ∧ left = broken unread fault rest ∧
      ∀ later, takeBytes count (ofBytes bytes ++ later) = ⟨data, none, ofBytes unread ++ later⟩ := by
  rcases Nat.lt_or_ge bytes.length count with fewer | enough
  · rw [takeBytes_broken fewer breaks] at taken
    cases taken
  · rw [broken, takeBytes_front enough] at taken
    cases taken
    exact ⟨bytes.drop count, List.drop_suffix count bytes, rfl, takeBytes_front enough⟩

theorem takeAll_broken (bytes : List UInt8) {fault : Fault} (breaks : Breaks fault)
    (rest : Stream) : takeAll (broken bytes fault rest) = ⟨bytes, some fault, rest⟩ := by
  induction bytes with
  | nil => simp [broken, takeAll, breaks.stops]
  | cons byte bytes ih =>
    rw [broken] at ih ⊢
    simp [takeAll, ih, Taken.cons]

end ServerProbe.Wire
