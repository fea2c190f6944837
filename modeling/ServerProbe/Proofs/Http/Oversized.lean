import ServerProbe.Proofs.Http.ReadBack

/-! Which answers are too large to be read.

A server announces sizes, and nothing checks them before room is made for what
they announce. Reading then ends in neither a body nor a fault when a length, or
the size of a chunk together with the chunks before it, is more than memory can
have. Every other answer is read or fails by a fault.
-/

set_option autoImplicit false

namespace ServerProbe

namespace Wire

theorem takeBytes_takes {count : Nat} {stream rest : Stream} {bytes : List UInt8}
    (taken : takeBytes count stream = ⟨bytes, none, rest⟩) :
    count + rest.length ≤ stream.length := by
  fun_induction takeBytes count stream generalizing bytes with
  | case1 stream =>
    cases taken
    omega
  | case2 => cases taken
  | case3 count byte later ih =>
    cases others : takeBytes count later with
    | mk read fault left =>
      rw [others] at taken ih
      simp only [Taken.cons, Taken.mk.injEq] at taken
      obtain ⟨-, rfl, rfl⟩ := taken
      have fewer := ih rfl
      rw [List.length_cons]
      omega
  | case4 count fault later retried ih =>
    have fewer := ih taken
    rw [List.length_cons]
    omega
  | case5 => cases taken
  | case6 => cases taken

end Wire

namespace Http

open Wire

/-- A line that announces the size of a chunk is next on a stream. -/
def Announces (stream : Stream) (size : Nat) (rest : Stream) : Prop :=
  ∃ line, readLine stream = (.ok line, rest) ∧
    Text.unsigned? 16 Text.wordLimit (sizeText line) = some size

/-- Some whole chunks are next on a stream: how many bytes they hold, and what follows them. -/
inductive Chunks : Stream → Nat → Stream → Prop where
  | none {stream : Stream} : Chunks stream 0 stream
  | more {stream afterSize afterData next rest : Stream} {size total : Nat} {data : List UInt8}
      {ended : String} :
      Announces stream (size + 1) afterSize →
      takeBytes (size + 1) afterSize = ⟨data, none, afterData⟩ →
      readLine afterData = (.ok ended, next) →
      Chunks next total rest → Chunks stream (size + 1 + total) rest

/-- The body after a head is announced to be more than memory can have, by a size of this much. -/
inductive Oversized (head : Head) (stream : Stream) (size : Nat) : Prop where
  | length : head.isChunked = false → head.contentLength? = some size → sizeLimit ≤ size →
      Oversized head stream size
  | chunk {total : Nat} {rest left : Stream} : head.isChunked = true → Chunks stream total rest →
      Announces rest size left → 0 < size → sizeLimit ≤ total + size →
      Oversized head stream size

/-- One response: a head and the body after it. -/
def readResponse (stream : Stream) : Except BodyFailure (Head × List UInt8) :=
  match readHead stream with
  | (.error fault, _) => .error (.fault fault)
  | (.ok head, rest) => (head.readBody rest).1.map fun body => (head, body)

theorem Announces.length {stream rest : Stream} {size : Nat}
    (announced : Announces stream size rest) : rest.length ≤ stream.length := by
  obtain ⟨line, read, -⟩ := announced
  have shorter := readLine_length stream
  rwa [read] at shorter

theorem Chunks.length {stream rest : Stream} {total : Nat} (chunks : Chunks stream total rest) :
    total + rest.length ≤ stream.length := by
  induction chunks with
  | none => omega
  | @more stream afterSize afterData next rest size total data ended announced taken closed later
      ih =>
    have sizeLine := announced.length
    have data := takeBytes_takes taken
    have ending := readLine_length afterData
    rw [closed] at ending
    dsimp only at ending
    omega

theorem Announces.not_isEmpty {stream rest : Stream} {size : Nat}
    (announced : Announces stream size rest) :
    ∃ line, readLine stream = (.ok line, rest) ∧ line.isEmpty = false ∧
      Text.unsigned? 16 Text.wordLimit (sizeText line) = some size := by
  obtain ⟨line, read, known⟩ := announced
  refine ⟨line, read, ?_, known⟩
  cases isEmpty : line.isEmpty with
  | false => rfl
  | true =>
    have noSize : Text.unsigned? 16 Text.wordLimit (sizeText "") = none := by decide
    rw [String.isEmpty_iff.mp isEmpty, noSize] at known
    cases known

theorem readChunks_of_oversized {start size : Nat} {stream rest : Stream}
    (announced : Announces stream (size + 1) rest) (large : sizeLimit ≤ start + (size + 1)) :
    (readChunks start stream).1 = .error .oversized := by
  obtain ⟨line, read, notEnd, known⟩ := announced.not_isEmpty
  rw [readChunks_eq]
  simp [read, notEnd, known, large]

theorem readChunks_of_failure {start size : Nat} {stream afterSize afterData next : Stream}
    {data : List UInt8} {ended : String} {failure : BodyFailure}
    (announced : Announces stream (size + 1) afterSize) (fits : start + (size + 1) < sizeLimit)
    (taken : takeBytes (size + 1) afterSize = ⟨data, none, afterData⟩)
    (closed : readLine afterData = (.ok ended, next))
    (later : (readChunks (start + (size + 1)) next).1 = .error failure) :
    (readChunks start stream).1 = .error failure := by
  obtain ⟨line, read, notEnd, known⟩ := announced.not_isEmpty
  have room : ¬sizeLimit ≤ start + (size + 1) := by omega
  rw [readChunks_eq]
  cases others : readChunks (start + (size + 1)) next with
  | mk result left =>
    rw [others] at later
    dsimp only at later
    simp [read, notEnd, known, room, taken, closed, others, later]

theorem readChunks_of_later {start size : Nat} {stream afterSize afterData next : Stream}
    {data : List UInt8} {ended : String} (announced : Announces stream (size + 1) afterSize)
    (taken : takeBytes (size + 1) afterSize = ⟨data, none, afterData⟩)
    (closed : readLine afterData = (.ok ended, next))
    (later : (readChunks (start + (size + 1)) next).1 = .error .oversized) :
    (readChunks start stream).1 = .error .oversized := by
  by_cases large : sizeLimit ≤ start + (size + 1)
  · exact readChunks_of_oversized announced large
  · exact readChunks_of_failure announced (Nat.lt_of_not_le large) taken closed later

theorem Chunks.readChunks {stream rest left : Stream} {total size : Nat}
    (chunks : Chunks stream total rest) (announced : Announces rest size left) (notLast : 0 < size)
    {start : Nat} (large : sizeLimit ≤ start + total + size) :
    (Http.readChunks start stream).1 = .error .oversized := by
  induction chunks generalizing start with
  | none =>
    obtain ⟨before, rfl⟩ := Nat.exists_eq_succ_of_ne_zero (by omega : size ≠ 0)
    exact readChunks_of_oversized announced (by omega)
  | more first taken closed _ ih =>
    exact readChunks_of_later first taken closed (ih announced (by omega))

theorem readChunks_oversized_iff {start : Nat} {stream : Stream} :
    (readChunks start stream).1 = .error .oversized ↔
      ∃ total size rest left, Chunks stream total rest ∧ Announces rest size left ∧ 0 < size ∧
        sizeLimit ≤ start + total + size := by
  constructor
  · intro failed
    -- Only a size that is too large fails like this, in one of the rounds of the loop.
    fun_induction Http.readChunks start stream with
    | case6 start stream line rest read _ size known large =>
      exact ⟨0, size + 1, stream, rest, .none, ⟨line, read, known⟩, by omega, by omega⟩
    | case9 start stream line rest read _ size known _ data afterData taken ended next closed
        failure left later ih =>
      rw [later] at ih
      obtain ⟨total, last, before, after, chunks, announced, notLast, large⟩ := ih failed
      exact ⟨size + 1 + total, last, before, after,
        .more ⟨line, read, known⟩ taken closed chunks, announced, notLast, by omega⟩
    | _ => cases failed
  · rintro ⟨total, size, rest, left, chunks, announced, notLast, large⟩
    exact chunks.readChunks announced notLast large

theorem readSized_oversized_iff {size : Nat} {stream : Stream} :
    (Head.readSized size stream).1 = .error .oversized ↔ sizeLimit ≤ size := by
  unfold Head.readSized
  split
  · next large => simp [large]
  · next fits =>
    split <;> simp [fits]

theorem readToEnd_not_oversized (stream : Stream) :
    (Head.readToEnd stream).1 ≠ .error .oversized := by
  unfold Head.readToEnd
  split
  · simp
  · split <;> simp

theorem readBody_oversized_iff {head : Head} {stream : Stream} :
    (head.readBody stream).1 = .error .oversized ↔ ∃ size, Oversized head stream size := by
  unfold Head.readBody
  cases chunked : head.isChunked with
  | true =>
    rw [if_pos rfl, readChunks_oversized_iff]
    constructor
    · rintro ⟨total, size, rest, left, chunks, announced, notLast, large⟩
      exact ⟨size, .chunk chunked chunks announced notLast (by omega)⟩
    · rintro ⟨size, notChunked | ⟨_, chunks, announced, notLast, large⟩⟩
      · rw [chunked] at notChunked
        cases notChunked
      · exact ⟨_, size, _, _, chunks, announced, notLast, by omega⟩
  | false =>
    rw [if_neg Bool.false_ne_true]
    constructor
    · intro failed
      split at failed
      · next size known => exact ⟨size, .length chunked known (readSized_oversized_iff.mp failed)⟩
      · exact absurd failed (readToEnd_not_oversized stream)
    · rintro ⟨size, ⟨_, known, large⟩ | isChunked⟩
      · rw [known]
        exact readSized_oversized_iff.mpr large
      · rw [chunked] at isChunked
        cases isChunked

theorem readResponse_oversized_iff {stream : Stream} :
    readResponse stream = .error .oversized ↔
      ∃ head rest size, readHead stream = (.ok head, rest) ∧ Oversized head rest size := by
  unfold readResponse
  cases read : readHead stream with
  | mk first rest =>
    cases first with
    | error fault => simp
    | ok head =>
      have whole : (head.readBody rest).1.map (fun body => (head, body)) = .error .oversized ↔
          (head.readBody rest).1 = .error .oversized := by
        cases (head.readBody rest).1 <;> simp [Except.map]
      rw [whole, readBody_oversized_iff]
      simp

/-- Whatever its size was announced for, a body that is too large is so by one size alone: but for
the bytes that arrived, it is more than memory can have. -/
theorem Oversized.large {head : Head} {stream : Stream} {size : Nat}
    (oversized : Oversized head stream size) : sizeLimit ≤ size + stream.length := by
  cases oversized with
  | length _ _ large => omega
  | chunk _ chunks _ _ large =>
    have arrived := chunks.length
    omega

/-- A response is read, or fails by a fault, just when it does not announce more than memory can
have. This takes one size that is too large by itself, but for what the server really sent. -/
theorem readResponse_settles_iff (stream : Stream) :
    (((∃ answer, readResponse stream = .ok answer) ∨
        ∃ fault, readResponse stream = .error (.fault fault)) ↔
      ∀ head rest size, readHead stream = (.ok head, rest) → ¬Oversized head rest size) ∧
      ∀ head rest size, readHead stream = (.ok head, rest) → Oversized head rest size →
        sizeLimit ≤ size + stream.length := by
  constructor
  · constructor
    · rintro settled head rest size read oversized
      have failed := readResponse_oversized_iff.mpr ⟨head, rest, size, read, oversized⟩
      rw [failed] at settled
      simp at settled
    · intro fits
      cases response : readResponse stream with
      | ok answer => exact .inl ⟨answer, rfl⟩
      | error failure =>
        cases failure with
        | fault fault => exact .inr ⟨fault, rfl⟩
        | oversized =>
          obtain ⟨head, rest, size, read, oversized⟩ := readResponse_oversized_iff.mp response
          exact absurd oversized (fits head rest size read)
  · intro head rest size read oversized
    have large := oversized.large
    have shorter := readHead_shorter read
    omega

def hugeHead : HeadText where
  statusLine := okLine
  fieldLines := [⟨"Content-Length", "9223372036854775808", " ", .crlf,
    isTrimmed_lengthName, colon_not_mem_lengthName, by decide, isGap_space, by decide⟩]
  ending := .crlf

/-- A few bytes of an answer make reading end in neither a body nor a fault. -/
theorem hugeHead_not_settled :
    ¬((∃ answer, readResponse (ofBytes hugeHead.bytes) = .ok answer) ∨
      ∃ fault, readResponse (ofBytes hugeHead.bytes) = .error (.fault fault)) := by
  have read := readHead_written hugeHead []
  rw [List.append_nil] at read
  have oversized : Oversized hugeHead.head [] 9223372036854775808 :=
    .length (by decide) (by decide) (by decide)
  rw [readResponse_oversized_iff.mpr ⟨_, _, _, read, oversized⟩]
  simp

end Http

end ServerProbe
