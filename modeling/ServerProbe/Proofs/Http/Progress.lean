import ServerProbe.Http.Response
import ServerProbe.Proofs.Wire.Progress

/-! The loops that read a response make progress.

Nothing counts the turns of these loops; the other end decides with every line
whether there is one more. Each loop is written out as what one turn of it does,
and is shown to be the reader it stands for. A turn after which there is another
has taken bytes, so every loop ends, whatever comes.
-/

set_option autoImplicit false

namespace ServerProbe.Http

open Wire

abbrev Fields := List (String × String)

def fieldTurn : Fields × Stream → Turn (Fields × Stream) (Except Fault Fields × Stream)
  | (fields, stream) =>
    match readLine stream with
    | (.error fault, rest) => .leave (.error fault, rest)
    | (.ok line, rest) =>
      if line.isEmpty then .leave (.error headCut, rest)
      else if Text.isBlankText line then .leave (.ok fields, rest)
      else .again (fields ++ fieldOf (Text.trimEnd line.toList), rest)

def trailerTurn (stream : Stream) : Turn Stream (Except Fault Unit × Stream) :=
  match readLine stream with
  | (.error fault, rest) => .leave (.error fault, rest)
  | (.ok line, rest) => if Text.isBlankText line then .leave (.ok (), rest) else .again rest

def chunkTurn : List UInt8 × Stream →
    Turn (List UInt8 × Stream) (Except BodyFailure (List UInt8) × Stream)
  | (body, stream) =>
    match readLine stream with
    | (.error fault, rest) => .leave (.error (.fault fault), rest)
    | (.ok line, rest) =>
      if line.isEmpty then .leave (.error (.fault chunksCut), rest)
      else
        match Text.unsigned? 16 Text.wordLimit (sizeText line) with
        | none =>
          let message := "bad chunk size '" ++ String.ofList (sizeText line) ++ "'"
          .leave (.error (.fault (invalid message)), rest)
        | some 0 =>
          match skipTrailers rest with
          | (.error fault, left) => .leave (.error (.fault fault), left)
          | (.ok (), left) => .leave (.ok body, left)
        | some (size + 1) =>
          if sizeLimit ≤ body.length + (size + 1) then .leave (.error .oversized, rest)
          else
            match takeBytes (size + 1) rest with
            | ⟨_, some fault, left⟩ => .leave (.error (.fault fault), left)
            | ⟨data, none, afterData⟩ =>
              match readLine afterData with
              | (.error fault, left) => .leave (.error (.fault fault), left)
              | (.ok _, next) => .again (body ++ data, next)

def headTurn (stream : Stream) : Turn Stream (Except Fault Head × Stream) :=
  match readHead stream with
  | (.error fault, rest) => .leave (.error fault, rest)
  | (.ok head, rest) => if head.isInterim then .again rest else .leave (.ok head, rest)

def fieldsBehind : Fields × Stream → Except Fault Fields × Stream
  | (fields, stream) => ((readFields stream).1.map (fields ++ ·), (readFields stream).2)

def chunksBehind : List UInt8 × Stream → Except BodyFailure (List UInt8) × Stream
  | (body, stream) =>
    ((readChunks body.length stream).1.map (body ++ ·), (readChunks body.length stream).2)

theorem fieldsBehind_nothing (stream : Stream) : fieldsBehind ([], stream) = readFields stream := by
  cases read : readFields stream with
  | mk result rest => cases result <;> simp [fieldsBehind, read, Except.map]

theorem chunksBehind_nothing (stream : Stream) :
    chunksBehind ([], stream) = readChunks 0 stream := by
  cases read : readChunks 0 stream with
  | mk result rest => cases result <;> simp [chunksBehind, read, Except.map]

theorem isLoop_fields : IsLoop fieldTurn fieldsBehind := by
  rintro ⟨fields, stream⟩
  simp only [fieldsBehind, fieldTurn]
  rw [readFields_eq]
  cases readLine stream with
  | mk result rest =>
    cases result with
    | error fault => rfl
    | ok line =>
      dsimp only
      split
      · rfl
      · split
        · simp only [Except.map, List.append_nil, Turn.finish]
        · simp only [Turn.finish, fieldsBehind]
          cases readFields rest with
          | mk result left => cases result <;> simp [Except.map]

theorem isLoop_trailers : IsLoop trailerTurn skipTrailers := by
  intro stream
  rw [skipTrailers_eq, trailerTurn]
  cases readLine stream with
  | mk result rest =>
    cases result with
    | error fault => rfl
    | ok line =>
      dsimp only
      split <;> rfl

theorem isLoop_heads : IsLoop headTurn Head.readFinal := by
  intro stream
  rw [Head.readFinal_eq, headTurn]
  cases readHead stream with
  | mk result rest =>
    cases result with
    | error fault => rfl
    | ok head =>
      dsimp only
      split <;> rfl

theorem isLoop_chunks : IsLoop chunkTurn chunksBehind := by
  rintro ⟨body, stream⟩
  simp only [chunksBehind, chunkTurn]
  rw [readChunks_eq]
  cases readLine stream with
  | mk result rest =>
    cases result with
    | error fault => rfl
    | ok line =>
      dsimp only
      split
      · rfl
      · cases Text.unsigned? 16 Text.wordLimit (sizeText line) with
        | none => rfl
        | some size =>
          cases size with
          | zero =>
            dsimp only
            cases skipTrailers rest with
            | mk result left =>
              cases result <;> simp [Except.map, Turn.finish]
          | succ size =>
            dsimp only
            split
            · rfl
            · cases taken : takeBytes (size + 1) rest with
              | mk data fault afterData =>
                cases fault with
                | some fault => rfl
                | none =>
                  dsimp only
                  cases readLine afterData with
                  | mk closing next =>
                    cases closing with
                    | error fault => rfl
                    | ok ended =>
                      simp only [Turn.finish, chunksBehind, List.length_append,
                        length_takeBytes taken]
                      cases readChunks (body.length + (size + 1)) next with
                      | mk result left => cases result <;> simp [Except.map]

theorem advances_fields : Advances fieldTurn Prod.snd 1 := by
  rintro ⟨fields, stream⟩ next known
  simp only [fieldTurn] at known
  split at known
  · cases known
  · next line rest read =>
    split at known
    · cases known
    · next notEmpty =>
      split at known
      · cases known
      · cases known
        exact length_of_readLine_lt read (by simpa using notEmpty)

theorem advances_trailers : Advances trailerTurn id 1 := by
  intro stream next known
  unfold trailerTurn at known
  split at known
  · cases known
  · next line rest read =>
    split at known
    · cases known
    · next notBlank =>
      cases known
      exact length_of_readLine_lt read (not_isEmpty_of_not_blank notBlank)

/-- The line with the size is not empty, whatever follows it. -/
theorem advances_chunks : Advances chunkTurn Prod.snd 1 := by
  rintro ⟨body, stream⟩ next known
  simp only [chunkTurn] at known
  split at known
  · cases known
  · next line rest read =>
    split at known
    · cases known
    · next notEmpty =>
      have sizeLine := length_of_readLine_lt read (by simpa using notEmpty)
      split at known
      · cases known
      · split at known <;> cases known
      · split at known
        · cases known
        · split at known
          · cases known
          · next data afterData taken =>
            split at known
            · cases known
            · next ended afterEnd closed =>
              cases known
              have inData := length_of_takeBytes taken
              have ending := length_of_readLine closed
              dsimp only
              omega

theorem length_of_readFields {stream rest : Stream} {fields : Fields}
    (read : readFields stream = (.ok fields, rest)) :
    (bytesIn rest).length < (bytesIn stream).length := by
  fun_induction readFields stream generalizing fields with
  | case1 => cases read
  | case2 => cases read
  | case3 stream line afterLine lineRead notEmpty blank =>
    cases read
    exact length_of_readLine_lt lineRead (by simpa using notEmpty)
  | case4 => cases read
  | case5 stream line afterLine lineRead notEmpty notBlank others left later ih =>
    cases read
    exact Nat.lt_trans (ih later) (length_of_readLine_lt lineRead (by simpa using notEmpty))

/-- A head has a status line and a blank line, neither of which is empty. -/
theorem length_of_readHead {stream rest : Stream} {head : Head}
    (read : readHead stream = (.ok head, rest)) :
    (bytesIn rest).length + 2 ≤ (bytesIn stream).length := by
  unfold readHead at read
  split at read
  · cases read
  · next line afterLine lineRead =>
    split at read
    · cases read
    · next notEmpty =>
      split at read
      · cases read
      · split at read
        · cases read
        · next fields left fieldsRead =>
          cases read
          have statusLine := length_of_readLine_lt lineRead (by simpa using notEmpty)
          have fieldLines := length_of_readFields fieldsRead
          omega

theorem advances_heads : Advances headTurn id 2 := by
  intro stream next known
  unfold headTurn at known
  split at known
  · cases known
  · next head rest read =>
    split at known
    · cases known
      exact length_of_readHead read
    · cases known

theorem Head.isFinal_of_readFinal {stream rest : Stream} {head : Head}
    (read : Head.readFinal stream = (.ok head, rest)) : head.isInterim = false := by
  fun_induction Head.readFinal stream with
  | case1 => cases read
  | case2 stream first afterFirst headRead interim ih => exact ih read
  | case3 stream first afterFirst headRead notInterim =>
    cases read
    simpa using notInterim

/-- On no stream do the loops that read a response go round without end. A head takes bytes when it
is read. Every turn of the loops over the fields of a head, over chunks and over their trailers
takes a byte or is the last, so these readers take no more turns than there are bytes, and one. The
loop that passes over interim heads takes no more turns than there are bytes, or one when nothing
comes; what it is left with is a fault or a head that is final. -/
theorem loops_make_progress (stream : Stream) :
    (∀ head rest, readHead stream = (.ok head, rest) →
        (bytesIn rest).length < (bytesIn stream).length) ∧
      (Advances fieldTurn Prod.snd 1 ∧ ∃ turns ≤ (bytesIn stream).length + 1,
        Runs fieldTurn ([], stream) turns (readFields stream)) ∧
      (Advances chunkTurn Prod.snd 1 ∧ ∃ turns ≤ (bytesIn stream).length + 1,
        Runs chunkTurn ([], stream) turns (readChunks 0 stream)) ∧
      (Advances trailerTurn id 1 ∧ ∃ turns ≤ (bytesIn stream).length + 1,
        Runs trailerTurn stream turns (skipTrailers stream)) ∧
      Advances headTurn id 1 ∧ ∃ turns ≤ max 1 (bytesIn stream).length,
        Runs headTurn stream turns (Head.readFinal stream) ∧
        ∀ head, (Head.readFinal stream).1 = .ok head → head.isInterim = false := by
  obtain ⟨lines, fieldRuns, lineBound⟩ :=
    isLoop_fields.runs advances_fields (by decide) ([], stream)
  obtain ⟨chunks, chunkRuns, chunkBound⟩ :=
    isLoop_chunks.runs advances_chunks (by decide) ([], stream)
  obtain ⟨trailers, trailerRuns, trailerBound⟩ :=
    isLoop_trailers.runs advances_trailers (by decide) stream
  obtain ⟨heads, headRuns, headBound⟩ := isLoop_heads.runs advances_heads (by decide) stream
  rw [fieldsBehind_nothing] at fieldRuns
  rw [chunksBehind_nothing] at chunkRuns
  dsimp only [id] at lineBound chunkBound trailerBound headBound
  refine ⟨fun head rest read => ?_, ⟨advances_fields, lines, by omega, fieldRuns⟩,
    ⟨advances_chunks, chunks, by omega, chunkRuns⟩,
    ⟨advances_trailers, trailers, by omega, trailerRuns⟩,
    fun state next known => ?_, heads, by omega, headRuns, fun head final => ?_⟩
  · have taken := length_of_readHead read
    omega
  · have taken := advances_heads state next known
    omega
  · exact Head.isFinal_of_readFinal (Prod.ext final rfl)

end ServerProbe.Http
