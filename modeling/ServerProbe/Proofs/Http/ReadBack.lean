import ServerProbe.Proofs.Http.Framing
import ServerProbe.Proofs.Wire.Lines

/-! Reading undoes framing.

A written response is read as its status, its fields in order and its body, and
the stream is left exactly behind it. Each reader is first stated line by line:
what one line makes it do, given what the lines after it make it do.
-/

set_option autoImplicit false

namespace ServerProbe.Http

open Wire

theorem LineEnd.isGap (ending : LineEnd) : Text.IsGap ending.text.toList := by
  cases ending <;> decide

theorem readLine_ended {text : String} (oneLine : '\n' ∉ text.toList) (ending : LineEnd)
    (rest : Stream) :
    readLine (ofBytes (Text.utf8 (text ++ ending.text)) ++ rest) =
      (.ok (text ++ ending.text), rest) := by
  cases ending with
  | lf => exact readLine_utf8 oneLine rest
  | crlf =>
    have withReturn : '\n' ∉ (text ++ "\r").toList := by simpa using oneLine
    have regroup : text ++ LineEnd.crlf.text = text ++ "\r" ++ "\n" := by
      rw [String.append_assoc]
      rfl
    rw [regroup]
    exact readLine_utf8 withReturn rest

theorem LineEnd.isEmpty_text (ending : LineEnd) : ending.text.isEmpty = false := by
  cases ending <;> decide

theorem LineEnd.isBlank_text (ending : LineEnd) : Text.isBlankText ending.text = true := by
  cases ending <;> decide

theorem readLine_blank (ending : LineEnd) (rest : Stream) :
    readLine (ofBytes (Text.utf8 ending.text) ++ rest) = (.ok ending.text, rest) := by
  have noBreak : '\n' ∉ "".toList := by simp
  simpa using readLine_ended noBreak ending rest

theorem isEmpty_ended (text : String) (ending : LineEnd) :
    (text ++ ending.text).isEmpty = false := by
  cases ending <;> simp [LineEnd.text, String.isEmpty_eq_false_iff]

theorem isBlankText_ended (text : String) (ending : LineEnd) :
    Text.isBlankText (text ++ ending.text) = Text.isBlankText text := by
  have blank := ending.isBlank_text
  simp only [Text.isBlankText] at blank ⊢
  rw [String.toList_append, List.all_append, blank, Bool.and_true]

theorem StatusLine.toList_text (line : StatusLine) :
    line.text.toList = ("HTTP/".toList ++ line.version.toList) ++ ' ' ::
      ((toString line.status.toNat).toList ++ ' ' ::
        (line.reason.toList ++ line.ending.text.toList)) := by
  simp [StatusLine.text]

theorem toString_isSolid (value : Nat) : Text.IsSolid (toString value).toList := by
  intro c member
  obtain ⟨digit, known⟩ := Text.isDigit_of_mem_toString member
  exact Text.not_isBlank_of_digitValue? (by decide) known

theorem StatusLine.statusOf_text (line : StatusLine) :
    statusOf (Text.trimEnd line.text.toList) = .ok line.status := by
  have version : Text.IsSolid ("HTTP/".toList ++ line.version.toList) :=
    Text.IsSolid.append (by decide) line.solid
  have digits : (toString line.status.toNat).toList ≠ [] := by simp
  have words : Text.words (Text.trimEnd line.text.toList) =
      ("HTTP/".toList ++ line.version.toList) :: (toString line.status.toNat).toList ::
        Text.words (line.reason.toList ++ line.ending.text.toList) := by
    rw [Text.words_trimEnd, line.toList_text,
      Text.words_solid_blank version (by simp) (by decide),
      Text.words_solid_blank (toString_isSolid _) digits (by decide)]
  have scheme : "HTTP/".toList.isPrefixOf ("HTTP/".toList ++ line.version.toList) = true := by
    simp
  have status : Text.unsigned? 10 Text.shortLimit (toString line.status.toNat).toList =
      some line.status.toNat := Text.unsigned?_toString line.status.toNat_lt
  simp only [statusOf, words, scheme, status, if_true, UInt16.ofNat_toNat]

theorem FieldLine.toList_text (line : FieldLine) :
    line.text.toList = line.name.toList ++ ':' ::
      (line.gap.toList ++ line.value.toList ++ line.ending.text.toList) := by
  simp [FieldLine.text]

theorem FieldLine.fieldOf_text (line : FieldLine) :
    fieldOf (Text.trimEnd line.text.toList) = [line.field] := by
  have trimmed : Text.trimEnd line.text.toList =
      line.name.toList ++ ':' :: Text.trimEnd (line.gap.toList ++ line.value.toList) := by
    rw [line.toList_text, Text.trimEnd_append_cons _ _ (by decide),
      Text.trimEnd_append_gap _ line.ending.isGap]
  simp only [fieldOf, trimmed, Text.cutAt?_append line.noColon,
    Text.trim_of_isTrimmed line.nameTrimmed,
    Text.trim_trimEnd_gap_append line.blank line.valueTrimmed, String.ofList_toList, field]

theorem FieldLine.isBlankText_text (line : FieldLine) : Text.isBlankText line.text = false := by
  simp [Text.isBlankText, line.toList_text, show Text.isBlank ':' = false by decide]

theorem FieldLine.readLine_text (line : FieldLine) (rest : Stream) :
    readLine (ofBytes (Text.utf8 line.text) ++ rest) = (.ok line.text, rest) := by
  have oneLine : '\n' ∉ (line.name ++ ":" ++ line.gap ++ line.value).toList := by
    simp [line.oneLine]
  exact readLine_ended oneLine line.ending rest

theorem readFields_blank {stream rest : Stream} {line : String}
    (read : readLine stream = (.ok line, rest)) (notEnd : line.isEmpty = false)
    (blank : Text.isBlankText line = true) : readFields stream = (.ok [], rest) := by
  rw [readFields_eq]
  simp [read, notEnd, blank]

theorem readFields_field {stream rest left : Stream} {line : String}
    {fields : List (String × String)} (read : readLine stream = (.ok line, rest))
    (notBlank : Text.isBlankText line = false) (later : readFields rest = (.ok fields, left)) :
    readFields stream = (.ok (fieldOf (Text.trimEnd line.toList) ++ fields), left) := by
  have notEnd : line.isEmpty = false := not_isEmpty_of_not_blank (by simp [notBlank])
  rw [readFields_eq]
  simp [read, notEnd, notBlank, later]

theorem readFields_written (lines : List FieldLine) (ending : LineEnd) (rest : Stream) :
    readFields (ofBytes (lines.flatMap (fun line => Text.utf8 line.text) ++
      Text.utf8 ending.text) ++ rest) = (.ok (lines.map FieldLine.field), rest) := by
  induction lines with
  | nil =>
    exact readFields_blank (readLine_blank ending rest) ending.isEmpty_text ending.isBlank_text
  | cons line lines ih =>
    rw [List.flatMap_cons, List.append_assoc, ofBytes_append, List.append_assoc]
    have step := readFields_field (line.readLine_text _) line.isBlankText_text ih
    rw [line.fieldOf_text] at step
    exact step

theorem readHead_of_status {stream rest left : Stream} {line : String} {status : UInt16}
    {fields : List (String × String)} (read : readLine stream = (.ok line, rest))
    (notEnd : line.isEmpty = false) (known : statusOf (Text.trimEnd line.toList) = .ok status)
    (later : readFields rest = (.ok fields, left)) :
    readHead stream = (.ok ⟨status, fields⟩, left) := by
  simp only [readHead, read, notEnd, known, later, Bool.false_eq_true, if_false]

theorem StatusLine.readLine_text (line : StatusLine) (rest : Stream) :
    readLine (ofBytes (Text.utf8 line.text) ++ rest) = (.ok line.text, rest) := by
  have oneLine : '\n' ∉ ("HTTP/" ++ line.version ++ " " ++ toString line.status.toNat ++ " " ++
      line.reason).toList := by
    have version := line.solid.newline_not_mem
    have digits := (toString_isSolid line.status.toNat).newline_not_mem
    simp only [String.toList_append, List.mem_append, not_or]
    exact ⟨⟨⟨⟨⟨by decide, version⟩, by decide⟩, digits⟩, by decide⟩, line.oneLine⟩
  exact readLine_ended oneLine line.ending rest

theorem readHead_written (written : HeadText) (rest : Stream) :
    readHead (ofBytes written.bytes ++ rest) = (.ok written.head, rest) := by
  rw [HeadText.bytes, List.append_assoc, ofBytes_append, List.append_assoc]
  have notEnd : written.statusLine.text.isEmpty = false :=
    isEmpty_ended _ written.statusLine.ending
  exact readHead_of_status (written.statusLine.readLine_text _) notEnd
    written.statusLine.statusOf_text (readFields_written _ _ rest)

/-! Chunks. -/

theorem SizeLine.sizeText_text {size : Nat} (line : SizeLine size) :
    sizeText line.text = line.digits := by
  have solid : Text.IsSolid line.digits := fun c member => (line.spells.range member).1
  -- No digit is blank or begins an extension.
  have noMark : ';' ∉ line.digits := fun member => (line.spells.range member).2.2 rfl
  have first : (Text.fields ';' (Text.trimEnd line.text.toList)).head? = some line.digits := by
    cases given : line.extension with
    | none =>
      have trimmed : Text.trimEnd line.text.toList = line.digits := by
        simp only [text, given, Option.elim_none, String.append_empty, String.toList_append,
          String.toList_ofList]
        rw [Text.trimEnd_append_gap _ line.ending.isGap, Text.trimEnd_eq_self solid.isTrimmed.2]
      rw [trimmed, Text.fields_of_not_mem noMark]
      rfl
    | some extension =>
      have spelled : line.text.toList =
          line.digits ++ ';' :: (extension.toList ++ line.ending.text.toList) := by
        simp [text, given]
      rw [spelled, Text.trimEnd_append_cons _ _ (by decide), Text.fields_append noMark]
      rfl
  rw [sizeText, first, Option.getD_some, Text.trim_of_isTrimmed solid.isTrimmed]

theorem SizeLine.readLine_text {size : Nat} (line : SizeLine size) (rest : Stream) :
    readLine (ofBytes (Text.utf8 line.text) ++ rest) = (.ok line.text, rest) := by
  have digits : '\n' ∉ line.digits := fun member => (line.spells.range member).2.1 rfl
  have oneLine : '\n' ∉ (String.ofList line.digits ++
      (line.extension.elim "" fun text => ";" ++ text)).toList := by
    cases given : line.extension with
    | none => simpa using digits
    | some extension =>
      have later : '\n' ∉ extension.toList := line.oneLine extension given
      simp [digits, later]
  exact readLine_ended oneLine line.ending rest

theorem skipTrailers_blank {stream rest : Stream} {line : String}
    (read : readLine stream = (.ok line, rest)) (blank : Text.isBlankText line = true) :
    skipTrailers stream = (.ok (), rest) := by
  rw [skipTrailers_eq]
  simp [read, blank]

theorem skipTrailers_line {stream rest : Stream} {line : String}
    (read : readLine stream = (.ok line, rest)) (notBlank : Text.isBlankText line = false) :
    skipTrailers stream = skipTrailers rest := by
  rw [skipTrailers_eq]
  simp [read, notBlank]

theorem skipTrailers_written (trailers : List Trailer) (ending : LineEnd) (rest : Stream) :
    skipTrailers (ofBytes (trailers.flatMap (fun trailer =>
      Text.utf8 (trailer.text ++ trailer.ending.text)) ++ Text.utf8 ending.text) ++ rest) =
        (.ok (), rest) := by
  induction trailers with
  | nil => exact skipTrailers_blank (readLine_blank ending rest) ending.isBlank_text
  | cons trailer trailers ih =>
    rw [List.flatMap_cons, List.append_assoc, ofBytes_append, List.append_assoc]
    have notBlank := isBlankText_ended trailer.text trailer.ending
    rw [trailer.notBlank] at notBlank
    rw [skipTrailers_line (readLine_ended trailer.oneLine trailer.ending _) notBlank, ih]

theorem readChunks_last {start : Nat} {stream rest left : Stream} {line : String}
    (read : readLine stream = (.ok line, rest)) (notEnd : line.isEmpty = false)
    (size : Text.unsigned? 16 Text.wordLimit (sizeText line) = some 0)
    (skipped : skipTrailers rest = (.ok (), left)) :
    readChunks start stream = (.ok [], left) := by
  rw [readChunks_eq]
  simp [read, notEnd, size, skipped]

theorem readChunks_chunk {start size : Nat} {stream rest afterData next left : Stream}
    {line ended : String} {data body : List UInt8}
    (read : readLine stream = (.ok line, rest)) (notEnd : line.isEmpty = false)
    (announced : Text.unsigned? 16 Text.wordLimit (sizeText line) = some (size + 1))
    (fits : start + (size + 1) < sizeLimit)
    (taken : takeBytes (size + 1) rest = ⟨data, none, afterData⟩)
    (closed : readLine afterData = (.ok ended, next))
    (later : readChunks (start + (size + 1)) next = (.ok body, left)) :
    readChunks start stream = (.ok (data ++ body), left) := by
  have room : ¬sizeLimit ≤ start + (size + 1) := by omega
  rw [readChunks_eq]
  simp [read, notEnd, announced, room, taken, closed, later]

theorem SizeLine.unsigned?_text {size : Nat} (line : SizeLine size) (fits : size < sizeLimit) :
    Text.unsigned? 16 Text.wordLimit (sizeText line.text) = some size := by
  have inRange : size < Text.wordLimit := Nat.lt_trans fits (by decide)
  rw [line.sizeText_text]
  exact line.spells.unsigned? inRange

theorem readChunks_lastBytes (written : ChunkedText) (start : Nat) (rest : Stream) :
    readChunks start (ofBytes written.lastBytes ++ rest) = (.ok [], rest) := by
  rw [ChunkedText.lastBytes, List.append_assoc, ofBytes_append, List.append_assoc]
  have notEnd : written.last.text.isEmpty = false := isEmpty_ended _ written.last.ending
  exact readChunks_last (written.last.readLine_text _) notEnd
    (written.last.unsigned?_text (by decide)) (skipTrailers_written _ _ rest)

/-- The chunks add up to the body, however it was cut into them. -/
theorem readChunks_append (chunks : List Chunk) (start : Nat) (stream : Stream)
    {body : List UInt8} {rest : Stream}
    (fits : start + (chunks.flatMap Chunk.data).length < sizeLimit)
    (later : readChunks (start + (chunks.flatMap Chunk.data).length) stream = (.ok body, rest)) :
    readChunks start (ofBytes (chunks.flatMap Chunk.bytes) ++ stream) =
      (.ok (chunks.flatMap Chunk.data ++ body), rest) := by
  induction chunks generalizing start with
  | nil => simpa using later
  | cons chunk chunks ih =>
    -- A chunk of size zero would have been the last one.
    obtain ⟨size, isSize⟩ : ∃ size, chunk.data.length = size + 1 :=
      Nat.exists_eq_succ_of_ne_zero (by simpa using chunk.notEmpty)
    simp only [List.flatMap_cons, List.length_append] at fits later ⊢
    rw [← Nat.add_assoc] at fits later
    -- What was read before a chunk only counts towards the size of the whole.
    have others := ih (start + chunk.data.length) fits later
    have announced := (chunk.sizeLine.unsigned?_text (by omega)).trans (congrArg some isSize)
    have notEnd : chunk.sizeLine.text.isEmpty = false := isEmpty_ended _ chunk.sizeLine.ending
    have taken := takeBytes_ofBytes chunk.data (ofBytes (Text.utf8 chunk.ending.text) ++
      (ofBytes (chunks.flatMap Chunk.bytes) ++ stream))
    rw [isSize] at taken others
    rw [Chunk.bytes, ofBytes_append, ofBytes_append, ofBytes_append, List.append_assoc,
      List.append_assoc, List.append_assoc, List.append_assoc]
    exact readChunks_chunk (chunk.sizeLine.readLine_text _) notEnd announced (by omega) taken
      (readLine_blank _ _) others

theorem readChunks_written (written : ChunkedText) (fits : written.content.length < sizeLimit)
    (rest : Stream) :
    readChunks 0 (ofBytes written.bytes ++ rest) = (.ok written.content, rest) := by
  have room : 0 + written.content.length < sizeLimit := by
    rw [Nat.zero_add]
    exact fits
  have later := readChunks_lastBytes written (0 + written.content.length) rest
  have whole := readChunks_append written.chunks 0 _ room later
  rw [List.append_nil] at whole
  rw [ChunkedText.bytes, ofBytes_append, List.append_assoc]
  exact whole

theorem field?_eq_some_iff {name value : String} {head : Head} :
    head.field? name = some value ↔ IsFirst name value head.fields := by
  simp only [Head.field?, Option.map_eq_some_iff, List.find?_eq_some_iff_append, IsFirst]
  constructor
  · rintro ⟨⟨spelled, known⟩, ⟨same, before, after, split, earlier⟩, rfl⟩
    exact ⟨spelled, before, after, split, same, by simpa using earlier⟩
  · rintro ⟨spelled, before, after, split, same, earlier⟩
    exact ⟨(spelled, value), ⟨same, before, after, split, by simpa using earlier⟩, rfl⟩

theorem field?_eq_none {name : String} {head : Head}
    (absent : ∀ field ∈ head.fields, Text.sameIgnoringCase field.1 name = false) :
    head.field? name = none := by
  simpa [Head.field?, List.find?_eq_none] using absent

theorem isChunked_iff {head : Head} : head.isChunked = true ↔ IsChunked head.fields := by
  cases coding : head.field? "Transfer-Encoding" with
  | none =>
    have absent : ¬IsChunked head.fields := by
      rintro ⟨value, first, -⟩
      rw [← field?_eq_some_iff, coding] at first
      cases first
    simp [Head.isChunked, coding, absent]
  | some value =>
    simp only [Head.isChunked, coding, Text.contains_iff_isInfix]
    constructor
    · intro named
      exact ⟨value, field?_eq_some_iff.mp coding, named⟩
    · rintro ⟨other, first, named⟩
      rw [← field?_eq_some_iff, coding] at first
      cases first
      exact named

theorem readBody_chunked {head : Head} (written : ChunkedText) (announced : IsChunked head.fields)
    (fits : written.content.length < sizeLimit) (rest : Stream) :
    head.readBody (ofBytes written.bytes ++ rest) = (.ok written.content, rest) := by
  rw [Head.readBody, if_pos (isChunked_iff.mpr announced)]
  exact readChunks_written written fits rest

theorem readBody_sized {head : Head} {content : List UInt8} (noChunks : ¬IsChunked head.fields)
    (announced : IsFirst "Content-Length" (toString content.length) head.fields)
    (fits : content.length < sizeLimit) (rest : Stream) :
    head.readBody (ofBytes content ++ rest) = (.ok content, rest) := by
  have notChunked : head.isChunked = false :=
    Bool.eq_false_iff.mpr fun chunked => noChunks (isChunked_iff.mp chunked)
  have inRange : content.length < Text.wordLimit := Nat.lt_trans fits (by decide)
  have length : head.contentLength? = some content.length := by
    rw [Head.contentLength?, field?_eq_some_iff.mpr announced, Option.bind_some,
      Text.trim_of_isTrimmed (toString_isSolid _).isTrimmed, Text.unsigned?_toString inRange]
  have room : ¬sizeLimit ≤ content.length := by omega
  simp [Head.readBody, notChunked, length, Head.readSized, room, takeBytes_ofBytes]

theorem readBody_untilEnd {head : Head} {content : List UInt8}
    (noCoding : ∀ field ∈ head.fields,
      Text.sameIgnoringCase field.1 "Transfer-Encoding" = false)
    (noLength : ∀ field ∈ head.fields, Text.sameIgnoringCase field.1 "Content-Length" = false) :
    head.readBody (ofBytes content) = (.ok content, []) := by
  have notChunked : head.isChunked = false := by
    rw [Head.isChunked, field?_eq_none noCoding]
  have unknown : head.contentLength? = none := by
    rw [Head.contentLength?, field?_eq_none noLength, Option.bind_none]
  simp [Head.readBody, notChunked, unknown, Head.readToEnd, takeAll_ofBytes]

/-- A written response is read back: its status, its fields in order and its body, with nothing of
what follows it taken. Only a body that ends with the stream must have nothing after it. -/
theorem read_written (written : HeadText) (body : BodyText written.fields) (rest : Stream)
    (follows : body.isDelimited = true ∨ rest = []) :
    readHead (ofBytes (written.bytes ++ body.bytes) ++ rest) =
        (.ok ⟨written.statusLine.status, written.fields⟩, ofBytes body.bytes ++ rest) ∧
      Head.readBody ⟨written.statusLine.status, written.fields⟩ (ofBytes body.bytes ++ rest) =
        (.ok body.content, rest) := by
  constructor
  · rw [ofBytes_append, List.append_assoc]
    exact readHead_written written _
  · cases body with
    | chunked text announced fits => exact readBody_chunked text announced fits rest
    | sized content noChunks announced fits => exact readBody_sized noChunks announced fits rest
    | untilEnd content noCoding noLength =>
      obtain rfl : rest = [] := follows.resolve_left (by simp [BodyText.isDelimited])
      rw [List.append_nil]
      exact readBody_untilEnd noCoding noLength

def okLine : StatusLine := ⟨"1.1", 200, "OK", .crlf, by decide, by decide⟩

/-! What the line of a length takes for granted. -/

theorem isTrimmed_lengthName : Text.IsTrimmed "Content-Length".toList := by decide

theorem colon_not_mem_lengthName : ':' ∉ "Content-Length".toList := by decide

theorem isGap_space : Text.IsGap " ".toList := by decide

def mixedHead : HeadText where
  statusLine := okLine
  fieldLines := [⟨"transfer-ENCODING", "gzip, ChUnKeD", "  ", .lf, by decide, by decide,
    by decide, by decide, by decide⟩]
  ending := .crlf

/-- Two chunks with sizes in letters of both cases, an extension and a trailer. -/
def mixedChunks : ChunkedText where
  chunks :=
    [⟨Text.utf8 "<a>\r\n0\r\n\r\n", ⟨"0a".toList, some "part=1", .lf, ⟨1, by decide⟩, by decide⟩,
      .crlf, by decide⟩,
     ⟨Text.utf8 "second chunk", ⟨"C".toList, none, .crlf, ⟨0, by decide⟩, by decide⟩, .lf,
      by decide⟩]
  last := ⟨"00".toList, none, .crlf, ⟨1, by decide⟩, by decide⟩
  trailers := [⟨"Expires: 0", .crlf, by decide, by decide⟩]
  ending := .lf

theorem mixedChunks_announced : IsChunked mixedHead.fields :=
  ⟨"gzip, ChUnKeD", ⟨"transfer-ENCODING", [], [], rfl, by decide, by decide⟩,
    ⟨"gzip, ".toList, [], by decide⟩⟩

theorem read_mixedChunks :
    readHead (ofBytes (mixedHead.bytes ++ mixedChunks.bytes) ++ ofBytes (Text.utf8 "HTTP/1.1")) =
        (.ok ⟨200, [("transfer-ENCODING", "gzip, ChUnKeD")]⟩,
          ofBytes mixedChunks.bytes ++ ofBytes (Text.utf8 "HTTP/1.1")) ∧
      Head.readBody ⟨200, [("transfer-ENCODING", "gzip, ChUnKeD")]⟩
          (ofBytes mixedChunks.bytes ++ ofBytes (Text.utf8 "HTTP/1.1")) =
        (.ok (Text.utf8 "<a>\r\n0\r\n\r\nsecond chunk"), ofBytes (Text.utf8 "HTTP/1.1")) := by
  have fits : mixedChunks.content.length < sizeLimit := by decide
  exact read_written mixedHead (.chunked mixedChunks mixedChunks_announced fits)
    (ofBytes (Text.utf8 "HTTP/1.1")) (Or.inl rfl)

end ServerProbe.Http
