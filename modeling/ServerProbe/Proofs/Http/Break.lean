import ServerProbe.Proofs.Http.Interruption
import ServerProbe.Proofs.Http.ReadBack
import ServerProbe.Proofs.Wire.Break

/-! Responses from a connection that breaks.

A head or a body is returned in spite of a break only when it was complete by
then: the same bytes give the same response when the connection holds. A body
that ends with its connection is never complete before a break.
-/

set_option autoImplicit false

namespace ServerProbe.Http

open Wire

def trailersAfter (line : String) : Stream → Except Fault Unit × Stream :=
  if Text.isBlankText line then done (.ok ()) else skipTrailers

theorem skipTrailers_andThen : skipTrailers = andThen readLine trailersAfter := by
  funext stream
  rw [skipTrailers_eq]
  unfold andThen
  cases readLine stream with
  | mk result rest =>
    cases result with
    | error fault => rfl
    | ok line =>
      unfold trailersAfter
      dsimp only
      split <;> rfl

theorem settles_skipTrailers (bytes : List UInt8) : Settles skipTrailers bytes := by
  -- A line that is not blank took a byte, so fewer are left for the lines after it.
  induction length : bytes.length using Nat.strong_induction_on generalizing bytes with
  | _ size ih =>
    rw [skipTrailers_andThen]
    refine settles_andThen (settles_readLine bytes) ?_
    rintro used left line rfl found
    unfold trailersAfter
    split
    · exact settles_done _ left
    · next notBlank =>
      have taken := used_ne_nil found (not_isEmpty_of_not_blank notBlank)
      have fewer : left.length < size := by
        rw [← length, List.length_append]
        exact Nat.lt_add_of_pos_left (List.length_pos_iff.mpr taken)
      exact ih left.length fewer left rfl

theorem readHead_heedsBreaks : HeedsBreaks readHead :=
  heedsBreaks_of_settles settles_readHead

theorem readChunks_heedsBreaks (start : Nat) : HeedsBreaks (readChunks start) := by
  intro bytes fault rest body left breaks read
  generalize arrived : broken bytes fault rest = stream at read
  fun_induction Http.readChunks start stream generalizing bytes body left with
  | case5 start stream line afterLine lineRead notEnd known afterTrailers skipped =>
    subst arrived
    obtain ⟨inSize, sizeSuffix, rfl, sizeLine⟩ := readLine_heedsBreaks breaks lineRead
    obtain ⟨unread, suffix, rfl, trailers⟩ :=
      heedsBreaks_of_settles settles_skipTrailers breaks skipped
    cases read
    refine ⟨unread, suffix.trans sizeSuffix, rfl, fun later => ?_⟩
    exact readChunks_last (sizeLine later) (by simpa using notEnd) known (trailers later)
  | case10 start stream line afterLine lineRead notEnd size known fits data afterData taken ended
      next closed others afterOthers found ih =>
    subst arrived
    obtain ⟨inSize, sizeSuffix, rfl, sizeLine⟩ := readLine_heedsBreaks breaks lineRead
    obtain ⟨inData, dataSuffix, rfl, chunk⟩ := takeBytes_of_broken breaks taken
    obtain ⟨inEnd, endSuffix, rfl, closing⟩ := readLine_heedsBreaks breaks closed
    obtain ⟨unread, suffix, rfl, later⟩ := ih rfl found
    cases read
    refine ⟨unread, suffix.trans (endSuffix.trans (dataSuffix.trans sizeSuffix)), rfl, ?_⟩
    intro more
    exact readChunks_chunk (sizeLine more) (by simpa using notEnd) known (by omega) (chunk more)
      (closing more) (later more)
  | _ => cases read

theorem readSized_heedsBreaks (size : Nat) : HeedsBreaks (Head.readSized size) := by
  intro bytes fault rest body left breaks read
  unfold Head.readSized at read ⊢
  split at read
  · cases read
  · next fits =>
    split at read
    · next taken =>
      obtain ⟨unread, suffix, rfl, whole⟩ := takeBytes_of_broken breaks taken
      cases read
      refine ⟨unread, suffix, rfl, fun later => ?_⟩
      simp only [if_neg fits, whole]
    · cases read

/-- A break is never taken for the end of the connection. -/
theorem readToEnd_broken (bytes : List UInt8) {fault : Fault} (breaks : Breaks fault)
    (rest : Stream) :
    Head.readToEnd (broken bytes fault rest) = (.error (.fault fault), rest) := by
  unfold Head.readToEnd
  rw [takeAll_broken bytes breaks]
  exact if_neg breaks.noEnd

theorem readBody_heedsBreaks (head : Head) : HeedsBreaks head.readBody := by
  intro bytes fault rest body left breaks read
  unfold Head.readBody at read ⊢
  split at read
  · next chunked =>
    simpa only [if_pos chunked] using readChunks_heedsBreaks 0 breaks read
  · next notChunked =>
    simp only [if_neg notChunked]
    split at read
    · next size known => exact readSized_heedsBreaks size breaks read
    · rw [readToEnd_broken bytes breaks] at read
      cases read

/-- Before a break only a body is complete that tells its own end. -/
theorem delimited_of_broken {head : Head} {bytes body : List UInt8} {fault : Fault}
    {rest left : Stream} (breaks : Breaks fault)
    (read : head.readBody (broken bytes fault rest) = (.ok body, left)) :
    head.isChunked = true ∨ ∃ size, head.contentLength? = some size := by
  unfold Head.readBody at read
  split at read
  · next chunked => exact .inl chunked
  · split at read
    · next size known => exact .inr ⟨size, known⟩
    · rw [readToEnd_broken bytes breaks] at read
      cases read

/-- A response that was read before its connection broke is the response. Whatever comes in place of
the break, the same head and the same body are read, and they take the same bytes. In particular the
body did not have to wait for the end of the connection. -/
theorem read_before_break {bytes body : List UInt8} {head : Head} {fault : Fault}
    {rest afterHead left : Stream} (breaks : Breaks fault)
    (headRead : readHead (broken bytes fault rest) = (.ok head, afterHead))
    (bodyRead : head.readBody afterHead = (.ok body, left)) :
    (head.isChunked = true ∨ ∃ size, head.contentLength? = some size) ∧
      ∃ inBody unread, inBody <:+ bytes ∧ unread <:+ inBody ∧
        afterHead = broken inBody fault rest ∧ left = broken unread fault rest ∧
        ∀ later, readHead (ofBytes bytes ++ later) = (.ok head, ofBytes inBody ++ later) ∧
          head.readBody (ofBytes inBody ++ later) = (.ok body, ofBytes unread ++ later) := by
  obtain ⟨inBody, headSuffix, rfl, wholeHead⟩ := readHead_heedsBreaks breaks headRead
  obtain ⟨unread, suffix, rfl, wholeBody⟩ := readBody_heedsBreaks head breaks bodyRead
  exact ⟨delimited_of_broken breaks bodyRead, inBody, unread, headSuffix, suffix, rfl, rfl,
    fun later => ⟨wholeHead later, wholeBody later⟩⟩

def resetLater : List UInt8 :=
  mixedHead.bytes ++ (mixedChunks.bytes ++ Text.utf8 "HTTP/1.1")

theorem read_before_reset :
    readHead (broken resetLater (.system 104) []) =
        (.ok mixedHead.head,
          broken (mixedChunks.bytes ++ Text.utf8 "HTTP/1.1") (.system 104) []) ∧
      mixedHead.head.readBody
          (broken (mixedChunks.bytes ++ Text.utf8 "HTTP/1.1") (.system 104) []) =
        (.ok mixedChunks.content, broken (Text.utf8 "HTTP/1.1") (.system 104) []) ∧
      ∃ inBody unread, inBody <:+ resetLater ∧ unread <:+ inBody ∧
        ∀ later, readHead (ofBytes resetLater ++ later) =
            (.ok mixedHead.head, ofBytes inBody ++ later) ∧
          mixedHead.head.readBody (ofBytes inBody ++ later) =
            (.ok mixedChunks.content, ofBytes unread ++ later) := by
  have headRead : readHead (broken resetLater (.system 104) []) =
      (.ok mixedHead.head,
        broken (mixedChunks.bytes ++ Text.utf8 "HTTP/1.1") (.system 104) []) := by
    rw [broken, resetLater, ofBytes_append, List.append_assoc]
    exact readHead_written mixedHead _
  have bodyRead : mixedHead.head.readBody
      (broken (mixedChunks.bytes ++ Text.utf8 "HTTP/1.1") (.system 104) []) =
        (.ok mixedChunks.content, broken (Text.utf8 "HTTP/1.1") (.system 104) []) := by
    rw [broken, ofBytes_append, List.append_assoc]
    exact readBody_chunked mixedChunks mixedChunks_announced (by decide) _
  obtain ⟨-, inBody, unread, headSuffix, suffix, -, -, whole⟩ :=
    read_before_break ⟨by decide, by decide⟩ headRead bodyRead
  exact ⟨headRead, bodyRead, inBody, unread, headSuffix, suffix, whole⟩

end ServerProbe.Http
