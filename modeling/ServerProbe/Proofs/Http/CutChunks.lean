import ServerProbe.Proofs.Http.ChunkGrammar
import ServerProbe.Proofs.Http.Oversized

/-! A body in chunks that is cut off before its last chunk.

A size that is cut off is a smaller size, so the data after it is missing. Only
when nothing but zeros is left of it, it passes for the size of the last chunk,
and the body for complete.
-/

set_option autoImplicit false

namespace ServerProbe.Http

open Wire

/-- A chunk whose size is spelled in any way in which it can be read. -/
structure SpelledChunk where
  data : List UInt8
  /-- The line with the size, without its line feed. -/
  sizeLine : String
  notEmpty : data ≠ []
  oneLine : '\n' ∉ sizeLine.toList
  hasSize : HasSize sizeLine data.length

def SpelledChunk.bytes (chunk : SpelledChunk) : List UInt8 :=
  Text.utf8 (chunk.sizeLine ++ "\n") ++ (chunk.data ++ Text.utf8 "\r\n")

structure SpelledBody where
  chunks : List SpelledChunk
  lastLine : String
  oneLine : '\n' ∉ lastLine.toList
  isLast : HasSize lastLine 0

namespace SpelledBody

def content (body : SpelledBody) : List UInt8 :=
  body.chunks.flatMap SpelledChunk.data

def chunkBytes (body : SpelledBody) : List UInt8 :=
  body.chunks.flatMap SpelledChunk.bytes

def bytes (body : SpelledBody) : List UInt8 :=
  body.chunkBytes ++ Text.utf8 (body.lastLine ++ "\n")

end SpelledBody

/-- A cut leaves some whole chunks, with this content, and of the next size only zeros. -/
inductive LeavesZeros : List SpelledChunk → List UInt8 → List UInt8 → Prop where
  | here {zeros : String} {chunk : SpelledChunk} {chunks : List SpelledChunk} :
      zeros.toList <+: chunk.sizeLine.toList → HasSize zeros 0 →
      LeavesZeros (chunk :: chunks) (Text.utf8 zeros) []
  | later {chunk : SpelledChunk} {chunks : List SpelledChunk} {left content : List UInt8} :
      LeavesZeros chunks left content →
      LeavesZeros (chunk :: chunks) (chunk.bytes ++ left) (chunk.data ++ content)

/-- The bytes are not read as chunks: they end in a fault, or in a size that is too large, which
takes a body that is larger than memory can have. -/
def Refused (start total : Nat) (bytes : List UInt8) : Prop :=
  ∃ failure, (readChunks start (ofBytes bytes)).1 = .error failure ∧
    (failure = .oversized → sizeLimit ≤ total)

theorem sizeText_newline (line : String) : sizeText (line ++ "\n") = sizeText line := by
  have newline : "\n".toList.takeWhile (· != ';') = "\n".toList := by decide
  have blank : Text.IsGap "\n".toList := by decide
  rw [sizeText_eq, sizeText_eq, String.toList_append, List.takeWhile_append]
  split
  · next whole =>
    have kept : line.toList.takeWhile (· != ';') = line.toList :=
      (List.takeWhile_prefix _).eq_of_length whole
    rw [newline, kept, Text.trim_append_gap _ blank]
  · rfl

theorem sizeText_isPrefix {front line : String} (starts : front.toList <+: line.toList) :
    sizeText front <+: sizeText line := by
  rw [sizeText_eq, sizeText_eq]
  refine Text.trim_isPrefix ?_
  obtain ⟨more, whole⟩ := starts
  rw [← whole, List.takeWhile_append]
  split
  · exact (List.takeWhile_prefix _).trans (List.prefix_append ..)
  · exact List.prefix_rfl

theorem HasSize.le_of_starts {front line : String} {smaller larger : Nat}
    (first : HasSize front smaller) (starts : front.toList <+: line.toList)
    (whole : HasSize line larger) : smaller ≤ larger :=
  Text.le_of_unsigned? (by decide) (sizeText_isPrefix starts) (hasSize_iff.mp first)
    (hasSize_iff.mp whole)

theorem exists_zeros_front {text : List Char} (leads : Text.LeadsWithZero (Text.trim text)) :
    ∃ front, front <+: text ∧
      Text.unsigned? 16 Text.wordLimit (Text.trim front) = some 0 := by
  obtain ⟨sign, isSign, starts⟩ := leads.exists_zero
  let gap := text.takeWhile Text.isBlank
  refine ⟨gap ++ (sign ++ ['0']), ?_, ?_⟩
  · have solid : sign ++ ['0'] <+: text.dropWhile Text.isBlank :=
      starts.trans (Text.trimEnd_isPrefix _)
    have whole : gap ++ text.dropWhile Text.isBlank = text := List.takeWhile_append_dropWhile
    rw [← whole]
    exact (List.prefix_append_right_inj gap).mpr solid
  · have blank : Text.IsGap gap := fun c member => List.mem_takeWhile_imp member
    have trimmed : Text.IsTrimmed (sign ++ ['0']) := by
      rcases isSign with rfl | rfl <;> decide
    rw [Text.trim_gap_append blank trimmed]
    rcases isSign with rfl | rfl <;> decide

/-- A line begins with a size of zero just when its size leads with a zero. -/
theorem exists_zeros_iff {line : String} :
    (∃ zeros : String, zeros.toList <+: line.toList ∧ HasSize zeros 0) ↔
      Text.LeadsWithZero (sizeText line) := by
  constructor
  · rintro ⟨zeros, starts, isZero⟩
    have leads := Text.leadsWithZero_of_unsigned? (by decide) (hasSize_iff.mp isZero)
    exact leads.mono (sizeText_isPrefix starts)
  · intro leads
    rw [sizeText_eq] at leads
    obtain ⟨front, starts, isZero⟩ := exists_zeros_front leads
    have noMark : front.takeWhile (· != ';') = front := by
      apply List.takeWhile_eq_self_iff.mpr
      intro c member
      have known := List.mem_takeWhile_imp (starts.subset member)
      exact known
    refine ⟨String.ofList front, ?_, ?_⟩
    · rw [String.toList_ofList]
      exact starts.trans (List.takeWhile_prefix _)
    · rwa [HasSize, String.toList_ofList, noMark]

theorem ChunkLines.oversized {parts : List (List UInt8)} {bytes rest : List UInt8} {start : Nat}
    (chunks : ChunkLines parts bytes rest) (room : start < sizeLimit)
    (large : sizeLimit ≤ start + parts.flatten.length) :
    (Http.readChunks start (ofBytes (bytes ++ rest))).1 = .error .oversized := by
  induction chunks generalizing start with
  | last =>
    rw [List.flatten_nil, List.length_nil] at large
    omega
  | @chunk line ended data bytes rest parts isLine hasSize notEmpty endLine later ih =>
    obtain ⟨size, isSize⟩ : ∃ size, data.length = size + 1 :=
      Nat.exists_eq_succ_of_ne_zero (by simpa using notEmpty)
    rw [List.flatten_cons, List.length_append, isSize] at large
    have known := hasSize_iff.mp hasSize
    rw [isSize] at known
    simp only [List.append_assoc]
    have announced : Announces _ (size + 1) _ :=
      ⟨line, readLine_ok_iff.mpr ⟨_, rfl, rfl, isLine⟩, known⟩
    rcases Nat.lt_or_ge (start + (size + 1)) sizeLimit with fits | first
    · exact readChunks_of_later announced (takeBytes_ok_iff.mpr ⟨_, rfl, rfl, isSize⟩)
        (readLine_ok_iff.mpr ⟨_, rfl, rfl, endLine⟩) (ih fits (by omega))
    · exact readChunks_of_oversized announced first

theorem LeavesZeros.chunkLines {chunks : List SpelledChunk} {left content : List UInt8}
    (zeros : LeavesZeros chunks left content) :
    ∃ parts, ChunkLines parts left [] ∧ content = parts.flatten := by
  induction zeros with
  | @here zeros chunk chunks starts isZero =>
    have noEnd : 10 ∉ Text.utf8 zeros :=
      Text.newline_not_mem_utf8 fun member => chunk.oneLine (starts.subset member)
    have trailers : TrailerLines (Text.utf8 "") [] := .blank (isLine_last (by decide)) (by decide)
    have lines := ChunkLines.last (isLine_last noEnd) isZero trailers
    rw [show Text.utf8 "" = [] from rfl, List.append_nil] at lines
    exact ⟨[], lines, rfl⟩
  | @later chunk chunks left content _ ih =>
    obtain ⟨parts, lines, rfl⟩ := ih
    refine ⟨chunk.data :: parts, ?_, rfl⟩
    have regroup : chunk.bytes ++ left =
        Text.utf8 (chunk.sizeLine ++ "\n") ++ (chunk.data ++ (Text.utf8 "\r\n" ++ left)) := by
      simp [SpelledChunk.bytes]
    have hasSize : HasSize (chunk.sizeLine ++ "\n") chunk.data.length := by
      rw [hasSize_iff, sizeText_newline]
      exact hasSize_iff.mp chunk.hasSize
    rw [regroup]
    exact .chunk (isLine_newline chunk.oneLine _) hasSize chunk.notEmpty
      (Or.inl ⟨[13], by decide, by decide⟩) lines

/-- Zeros pass for the last chunk, and memory must have room for the chunks before them. -/
theorem LeavesZeros.read {chunks : List SpelledChunk} {left content : List UInt8}
    (zeros : LeavesZeros chunks left content) :
    (readChunks 0 (ofBytes left)).1 =
      if content.length < sizeLimit then .ok content else .error .oversized := by
  obtain ⟨parts, lines, rfl⟩ := zeros.chunkLines
  split
  · next fits =>
    have room : 0 + parts.flatten.length < sizeLimit := by rwa [Nat.zero_add]
    have read := lines.readChunks room
    rw [List.append_nil] at read
    rw [read]
  · next large =>
    have tooLarge : sizeLimit ≤ 0 + parts.flatten.length := by omega
    have read := lines.oversized (by decide) tooLarge
    rwa [List.append_nil] at read

theorem cut_append {first second front back : List UInt8}
    (whole : first ++ second = front ++ back) :
    (∃ missing, missing ≠ [] ∧ first = front ++ missing) ∨
      ∃ more, front = first ++ more ∧ second = more ++ back := by
  rcases List.append_eq_append_iff.mp whole with ⟨more, split, rest⟩ | ⟨missing, split, rest⟩
  · exact Or.inr ⟨more, split, rest⟩
  · by_cases nothing : missing = []
    · rw [nothing] at split rest
      exact Or.inr ⟨[], by simpa using split.symm, by simpa using rest.symm⟩
    · exact Or.inl ⟨missing, nothing, split⟩

namespace Refused

variable {start total size : Nat} {bytes rest data : List UInt8} {afterData next : Stream}
  {ended : String}

theorem of_fault (fault : Fault)
    (failed : (readChunks start (ofBytes bytes)).1 = .error (.fault fault)) :
    Refused start total bytes :=
  ⟨.fault fault, failed, by rintro ⟨⟩⟩

theorem nil : Refused start total [] := by
  refine of_fault chunksCut ?_
  rw [readChunks_eq]
  rfl

theorem of_large (announced : Announces (ofBytes bytes) (size + 1) next)
    (large : sizeLimit ≤ start + (size + 1)) (within : start + (size + 1) ≤ total) :
    Refused start total bytes :=
  ⟨_, readChunks_of_oversized announced large, fun _ => Nat.le_trans large within⟩

theorem of_short (announced : Announces (ofBytes bytes) (size + 1) (ofBytes rest))
    (fewer : rest.length < size + 1) (within : start + (size + 1) ≤ total) :
    Refused start total bytes := by
  by_cases large : sizeLimit ≤ start + (size + 1)
  · exact of_large announced large within
  · obtain ⟨line, read, notEnd, known⟩ := announced.not_isEmpty
    refine of_fault .shortRead ?_
    rw [readChunks_eq]
    simp only [read, notEnd, known, large, takeBytes_short fewer, if_false, Bool.false_eq_true]

theorem of_later (announced : Announces (ofBytes bytes) (size + 1) next)
    (taken : takeBytes (size + 1) next = ⟨data, none, afterData⟩)
    (closed : readLine afterData = (.ok ended, ofBytes rest))
    (within : start + (size + 1) ≤ total) (later : Refused (start + (size + 1)) total rest) :
    Refused start total bytes := by
  by_cases large : sizeLimit ≤ start + (size + 1)
  · exact of_large announced large within
  · obtain ⟨failure, failed, onlyLarge⟩ := later
    have room : start + (size + 1) < sizeLimit := Nat.lt_of_not_le large
    exact ⟨failure, readChunks_of_failure announced room taken closed failed, onlyLarge⟩

end Refused

/-! Cuts. -/

namespace SpelledChunk

variable (chunk : SpelledChunk)

theorem announces (rest : List UInt8) :
    Announces (ofBytes (Text.utf8 (chunk.sizeLine ++ "\n") ++ rest)) chunk.data.length
      (ofBytes rest) := by
  refine ⟨chunk.sizeLine ++ "\n", ?_, ?_⟩
  · exact readLine_ok_iff.mpr ⟨rest, rfl, rfl, isLine_newline chunk.oneLine rest⟩
  · rw [sizeText_newline]
    exact hasSize_iff.mp chunk.hasSize

theorem exists_size : ∃ size, chunk.data.length = size + 1 :=
  Nat.exists_eq_succ_of_ne_zero (by simpa using chunk.notEmpty)

theorem cut_size {start total : Nat} {front missing : List UInt8}
    (cut : Text.utf8 (chunk.sizeLine ++ "\n") = front ++ missing) (notAll : missing ≠ [])
    (within : start + chunk.data.length ≤ total) (chunks : List SpelledChunk) :
    LeavesZeros (chunk :: chunks) front [] ∨ Refused start total front := by
  have starts : front <+: Text.utf8 chunk.sizeLine := by
    have newline : Text.utf8 "\n" = [10] := by decide
    rw [Text.utf8_append, newline] at cut
    refine (List.prefix_concat_iff.mp ⟨missing, cut.symm⟩).resolve_left ?_
    rintro rfl
    exact notAll (List.self_eq_append_right.mp cut)
  have noEnd : 10 ∉ front := fun member =>
    Text.newline_not_mem_utf8 chunk.oneLine (starts.subset member)
  have read : readLine (ofBytes front) = (lineOf front, ofBytes []) := by
    have last := readLine_isLine (isLine_last noEnd)
    rwa [List.append_nil] at last
  cases known : lineOf front with
  | error fault =>
    rw [known] at read
    refine Or.inr (.of_fault fault ?_)
    rw [readChunks_eq]
    simp only [read]
  | ok line =>
    rw [known] at read
    obtain rfl := lineOf_ok_iff.mp known
    have begins := Text.prefix_of_utf8 starts
    cases announced : Text.unsigned? 16 Text.wordLimit (sizeText line) with
    | none =>
      refine Or.inr ?_
      cases isEmpty : line.isEmpty with
      | true =>
        refine .of_fault chunksCut ?_
        rw [readChunks_eq]
        simp only [read, isEmpty, if_true]
      | false =>
        refine .of_fault (invalid ("bad chunk size '" ++ String.ofList (sizeText line) ++ "'")) ?_
        rw [readChunks_eq]
        simp only [read, isEmpty, announced, Bool.false_eq_true, if_false]
    | some size =>
      cases size with
      | zero => exact Or.inl (.here begins (hasSize_iff.mpr announced))
      | succ size =>
        have smaller := HasSize.le_of_starts (hasSize_iff.mpr announced) begins chunk.hasSize
        exact Or.inr (.of_short ⟨line, read, announced⟩ (Nat.succ_pos _) (by omega))

end SpelledChunk

/-- What a cut leaves of the line end after the data is still read as one. -/
theorem readLine_cutEnd {front missing : List UInt8} (cut : Text.utf8 "\r\n" = front ++ missing)
    (notAll : missing ≠ []) : ∃ ended, readLine (ofBytes front) = (.ok ended, []) := by
  have bytes : Text.utf8 "\r\n" = [13, 10] := by decide
  rw [bytes] at cut
  cases front with
  | nil => exact ⟨"", rfl⟩
  | cons byte front =>
    obtain ⟨rfl, later⟩ := List.cons.inj cut
    cases front with
    | nil => exact ⟨"\r", by decide⟩
    | cons other front =>
      obtain ⟨-, nothing⟩ := List.append_eq_nil_iff.mp (List.cons.inj later).2.symm
      exact absurd nothing notAll

/-- What a cut leaves of some chunks ends in zeros, or is refused. -/
theorem zeros_or_refused {chunks : List SpelledChunk} {front back : List UInt8} {start total : Nat}
    (cut : chunks.flatMap SpelledChunk.bytes = front ++ back)
    (within : start + (chunks.flatMap SpelledChunk.data).length ≤ total) :
    (∃ content, LeavesZeros chunks front content) ∨ Refused start total front := by
  induction chunks generalizing start front with
  | nil =>
    obtain ⟨rfl, -⟩ := List.append_eq_nil_iff.mp cut.symm
    exact Or.inr .nil
  | cons chunk chunks ih =>
    obtain ⟨size, isSize⟩ := chunk.exists_size
    rw [List.flatMap_cons, List.length_append] at within
    rw [List.flatMap_cons, SpelledChunk.bytes, List.append_assoc, List.append_assoc] at cut
    rcases cut_append cut with ⟨missing, notAll, inSize⟩ | ⟨afterSize, rfl, cutLater⟩
    · have within : start + chunk.data.length ≤ total := by omega
      exact (chunk.cut_size inSize notAll within chunks).imp_left fun zeros => ⟨[], zeros⟩
    have announced := chunk.announces afterSize
    rw [isSize] at announced within
    rcases cut_append cutLater with ⟨missing, notAll, inData⟩ | ⟨afterData, rfl, cutEnd⟩
    · have fewer : afterSize.length < size + 1 := by
        have lengths := congrArg List.length inData
        have positive := List.length_pos_iff.mpr notAll
        rw [List.length_append] at lengths
        omega
      exact Or.inr (.of_short announced fewer (by omega))
    have taken : takeBytes (size + 1) (ofBytes (chunk.data ++ afterData)) =
        ⟨chunk.data, none, ofBytes afterData⟩ := takeBytes_ok_iff.mpr ⟨afterData, rfl, rfl, isSize⟩
    rcases cut_append cutEnd with ⟨missing, notAll, inEnd⟩ | ⟨next, rfl, cutNext⟩
    · obtain ⟨ended, closed⟩ := readLine_cutEnd inEnd notAll
      exact Or.inr (.of_later announced taken closed (by omega) .nil)
    · have later : start + (size + 1) + (chunks.flatMap SpelledChunk.data).length ≤ total := by
        omega
      rcases ih cutNext later with ⟨content, zeros⟩ | refused
      · refine Or.inl ⟨chunk.data ++ content, ?_⟩
        have whole : LeavesZeros (chunk :: chunks) (chunk.bytes ++ next) _ := .later zeros
        rwa [SpelledChunk.bytes, List.append_assoc, List.append_assoc] at whole
      · have closed : readLine (ofBytes (Text.utf8 "\r\n" ++ next)) = (.ok "\r\n", ofBytes next) :=
          readLine_ok_iff.mpr ⟨next, rfl, rfl, Or.inl ⟨[13], by decide, by decide⟩⟩
        exact Or.inr (.of_later announced taken closed (by omega) refused)

theorem LeavesZeros.length_le {chunks : List SpelledChunk} {left content : List UInt8}
    (zeros : LeavesZeros chunks left content) :
    content.length ≤ (chunks.flatMap SpelledChunk.data).length := by
  induction zeros with
  | here => exact Nat.zero_le _
  | later _ ih =>
    rw [List.flatMap_cons, List.length_append, List.length_append]
    omega

theorem LeavesZeros.leadsWithZero {chunks : List SpelledChunk} {left content : List UInt8}
    (zeros : LeavesZeros chunks left content) :
    ∃ chunk ∈ chunks, Text.LeadsWithZero (sizeText chunk.sizeLine) := by
  induction zeros with
  | here starts isZero =>
    exact ⟨_, List.mem_cons_self, exists_zeros_iff.mp ⟨_, starts, isZero⟩⟩
  | later _ ih =>
    obtain ⟨chunk, member, leads⟩ := ih
    exact ⟨chunk, List.mem_cons_of_mem _ member, leads⟩

theorem exists_leavesZeros {chunks : List SpelledChunk} {chunk : SpelledChunk}
    (member : chunk ∈ chunks) (leads : Text.LeadsWithZero (sizeText chunk.sizeLine)) :
    ∃ left content, left <+: chunks.flatMap SpelledChunk.bytes ∧
      LeavesZeros chunks left content := by
  induction chunks with
  | nil => cases member
  | cons first chunks ih =>
    rw [List.flatMap_cons]
    rcases List.mem_cons.mp member with rfl | later
    · obtain ⟨zeros, starts, isZero⟩ := exists_zeros_iff.mpr leads
      have inLine : Text.utf8 zeros <+: Text.utf8 (chunk.sizeLine ++ "\n") := by
        rw [Text.utf8_append]
        exact (Text.utf8_isPrefix starts).trans (List.prefix_append ..)
      have inChunk : Text.utf8 zeros <+: chunk.bytes := inLine.trans (List.prefix_append ..)
      exact ⟨_, [], inChunk.trans (List.prefix_append ..), .here starts isZero⟩
    · obtain ⟨left, content, starts, zeros⟩ := ih later
      exact ⟨_, _, (List.prefix_append_right_inj _).mpr starts, .later zeros⟩

/-! The body as a whole. -/

namespace SpelledBody

variable (body : SpelledBody)

theorem zeros_or_refused {cut : Nat} (before : cut ≤ body.chunkBytes.length) :
    (∃ content, LeavesZeros body.chunks (body.bytes.take cut) content) ∨
      Refused 0 body.content.length (body.bytes.take cut) := by
  have split : body.chunkBytes = body.bytes.take cut ++ body.chunkBytes.drop cut := by
    rw [bytes, List.take_append_of_le_length before, List.take_append_drop]
  exact Http.zeros_or_refused split (Nat.le_of_eq (Nat.zero_add body.content.length))

theorem taken_iff {cut : Nat} (before : cut ≤ body.chunkBytes.length) (content : List UInt8) :
    (readChunks 0 (ofBytes (body.bytes.take cut))).1 = .ok content ↔
      LeavesZeros body.chunks (body.bytes.take cut) content ∧ content.length < sizeLimit := by
  constructor
  · intro read
    rcases body.zeros_or_refused before with ⟨known, zeros⟩ | ⟨failure, failed, -⟩
    · rw [zeros.read] at read
      split at read
      · next fits =>
        cases read
        exact ⟨zeros, fits⟩
      · cases read
    · rw [failed] at read
      cases read
  · rintro ⟨zeros, fits⟩
    rw [zeros.read, if_pos fits]

theorem noticed_iff (fits : body.content.length < sizeLimit) :
    (∀ cut ≤ body.chunkBytes.length,
        ∃ fault, (readChunks 0 (ofBytes (body.bytes.take cut))).1 = .error (.fault fault)) ↔
      ∀ chunk ∈ body.chunks, ¬Text.LeadsWithZero (sizeText chunk.sizeLine) := by
  constructor
  · intro noticed chunk member leads
    obtain ⟨left, content, starts, zeros⟩ := exists_leavesZeros member leads
    have isCut : left = body.bytes.take left.length :=
      List.prefix_iff_eq_take.mp (starts.trans (List.prefix_append ..))
    have small : content.length < sizeLimit := Nat.lt_of_le_of_lt zeros.length_le fits
    obtain ⟨fault, failed⟩ := noticed left.length starts.length_le
    rw [← isCut, zeros.read, if_pos small] at failed
    cases failed
  · intro noZeros cut before
    rcases body.zeros_or_refused before with ⟨content, zeros⟩ | ⟨failure, failed, onlyLarge⟩
    · obtain ⟨chunk, member, leads⟩ := zeros.leadsWithZero
      exact absurd leads (noZeros chunk member)
    · cases failure with
      | fault fault => exact ⟨fault, failed⟩
      | oversized => exact absurd (onlyLarge rfl) (Nat.not_le.mpr fits)

end SpelledBody

/-- A body in chunks that is cut off before its last line is refused, unless the cut leaves only
zeros of a size: then the chunks before it are taken for the whole. So every cut is noticed just
when no size leads with a zero. -/
theorem cut_taken_iff (body : SpelledBody) :
    (∀ cut ≤ body.chunkBytes.length,
      let left := body.bytes.take cut
      (∀ content, (readChunks 0 (ofBytes left)).1 = .ok content ↔
        LeavesZeros body.chunks left content ∧ content.length < sizeLimit) ∧
      ((∀ content, ¬LeavesZeros body.chunks left content) →
        Refused 0 body.content.length left)) ∧
    (body.content.length < sizeLimit →
      ((∀ cut ≤ body.chunkBytes.length,
          ∃ fault, (readChunks 0 (ofBytes (body.bytes.take cut))).1 = .error (.fault fault)) ↔
        ∀ chunk ∈ body.chunks, ¬Text.LeadsWithZero (sizeText chunk.sizeLine))) := by
  refine ⟨fun cut before => ⟨body.taken_iff before, ?_⟩, body.noticed_iff⟩
  intro noZeros
  rcases body.zeros_or_refused before with ⟨content, zeros⟩ | refused
  · exact absurd zeros (noZeros content)
  · exact refused

def plainSizes : SpelledBody where
  chunks :=
    [⟨Text.utf8 "0\r\n\r\n0\r\n\r\n", "A;0=0\r", by decide, by decide, by decide⟩,
     ⟨Text.utf8 "another chunk", " d", by decide, by decide, by decide⟩]
  lastLine := "000"
  oneLine := by decide
  isLast := by decide

theorem plainSizes_cut : ∀ cut ≤ plainSizes.chunkBytes.length, ∃ fault,
    (readChunks 0 (ofBytes (plainSizes.bytes.take cut))).1 = .error (.fault fault) :=
  ((cut_taken_iff plainSizes).2 (by decide)).mpr (by decide)

def paddedSize : SpelledBody where
  chunks := [⟨Text.utf8 "0123456789", "0a\r", by decide, by decide, by decide⟩]
  lastLine := "0\r"
  oneLine := by decide
  isLast := by decide

/-- Behind its first byte the cut is not noticed. -/
theorem paddedSize_cut : ¬∀ cut ≤ paddedSize.chunkBytes.length, ∃ failure,
    (readChunks 0 (ofBytes (paddedSize.bytes.take cut))).1 = .error failure := by
  intro noticed
  have zeros : LeavesZeros paddedSize.chunks (Text.utf8 "0") [] := .here (by decide) (by decide)
  obtain ⟨failure, failed⟩ := noticed 1 (by decide)
  rw [show paddedSize.bytes.take 1 = Text.utf8 "0" by decide, zeros.read] at failed
  cases failed

end ServerProbe.Http
