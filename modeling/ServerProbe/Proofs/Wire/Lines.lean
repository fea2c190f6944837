import ServerProbe.Wire.Stream

/-! Reading what was written to a stream, when it arrives whole.

In UTF-8 the byte 10 stands for the line feed and is part of no other character,
so a line that was written as text ends where its line feed is. What follows on
the stream is never touched.
-/

set_option autoImplicit false

namespace ServerProbe

namespace Text

theorem length_utf8 (text : String) : (utf8 text).length = text.utf8ByteSize := rfl

theorem utf8_append (front back : String) : utf8 (front ++ back) = utf8 front ++ utf8 back := by
  simp [utf8, String.toByteArray_append, ByteArray.data_append]

theorem utf8_join (texts : List String) : utf8 (String.join texts) = texts.flatMap utf8 := by
  induction texts with
  | nil => rfl
  | cons text texts ih => rw [String.join_cons, utf8_append, ih, List.flatMap_cons]

theorem utf8_ofList (text : List Char) :
    utf8 (String.ofList text) = text.flatMap String.utf8EncodeChar := by
  simp [utf8, List.utf8Encode]

theorem utf8_eq_flatMap (text : String) :
    utf8 text = text.toList.flatMap String.utf8EncodeChar := by
  rw [← utf8_ofList, String.ofList_toList]

theorem utf8_of_ofUtf8? {bytes : List UInt8} {text : String} (known : ofUtf8? bytes = some text) :
    utf8 text = bytes := by
  unfold ofUtf8? String.fromUTF8? at known
  split at known
  · cases known
    simp [utf8, String.fromUTF8]
  · cases known

theorem utf8_infix {part text : String} (inside : part.toList <:+: text.toList) :
    utf8 part <:+: utf8 text := by
  obtain ⟨front, back, whole⟩ := inside
  rw [utf8_eq_flatMap part, utf8_eq_flatMap text, ← whole]
  rw [List.flatMap_append, List.flatMap_append]
  exact ⟨_, _, rfl⟩

theorem utf8_isPrefix {front text : String} (starts : front.toList <+: text.toList) :
    utf8 front <+: utf8 text := by
  obtain ⟨more, whole⟩ := starts
  rw [utf8_eq_flatMap front, utf8_eq_flatMap text, ← whole, List.flatMap_append]
  exact List.prefix_append ..

theorem utf8_injective {left right : String} (same : utf8 left = utf8 right) : left = right := by
  have known := ofUtf8?_utf8 left
  rw [same, ofUtf8?_utf8] at known
  exact (Option.some.inj known).symm

/-- The bytes of a character tell where they end. -/
theorem eq_of_utf8EncodeChar_append {c d : Char} {later others : List UInt8}
    (same : String.utf8EncodeChar c ++ later = String.utf8EncodeChar d ++ others) : c = d := by
  have decoded (c : Char) (later : List UInt8) :
      (String.utf8EncodeChar c ++ later).toByteArray.utf8DecodeChar? 0 = some c := by
    rw [List.toByteArray_append]
    exact ByteArray.utf8DecodeChar?_utf8EncodeChar_append
  have first := decoded c later
  rw [same, decoded] at first
  exact (Option.some.inj first).symm

theorem prefix_of_flatMap_utf8EncodeChar {front text : List Char}
    (starts : front.flatMap String.utf8EncodeChar <+: text.flatMap String.utf8EncodeChar) :
    front <+: text := by
  induction front generalizing text with
  | nil => exact List.nil_prefix
  | cons c front ih =>
    obtain ⟨more, whole⟩ := starts
    cases text with
    | nil =>
      simp only [List.flatMap_cons, List.flatMap_nil, List.append_eq_nil_iff] at whole
      exact absurd whole.1.1 String.utf8EncodeChar_ne_nil
    | cons d text =>
      rw [List.flatMap_cons, List.flatMap_cons, List.append_assoc] at whole
      obtain rfl := eq_of_utf8EncodeChar_append whole
      exact (List.prefix_cons_inj c).mpr (ih ⟨more, List.append_cancel_left whole⟩)

theorem prefix_of_utf8 {front text : String} (starts : utf8 front <+: utf8 text) :
    front.toList <+: text.toList := by
  rw [utf8_eq_flatMap, utf8_eq_flatMap] at starts
  exact prefix_of_flatMap_utf8EncodeChar starts

theorem high_of_mem_utf8EncodeChar {c : Char} (wide : 127 < c.val.toNat) {byte : UInt8}
    (member : byte ∈ String.utf8EncodeChar c) : 128 ≤ byte.toNat := by
  unfold String.utf8EncodeChar at member
  dsimp only at member
  rw [if_neg (by omega)] at member
  -- Two, three or four bytes, and each of them is marked in its highest bit.
  split at member
  · simp only [List.mem_cons, List.not_mem_nil, or_false] at member
    rcases member with rfl | rfl <;> (rw [UInt8.toNat_ofNat']; omega)
  · split at member
    · simp only [List.mem_cons, List.not_mem_nil, or_false] at member
      rcases member with rfl | rfl | rfl <;> (rw [UInt8.toNat_ofNat']; omega)
    · simp only [List.mem_cons, List.not_mem_nil, or_false] at member
      rcases member with rfl | rfl | rfl | rfl <;> (rw [UInt8.toNat_ofNat']; omega)

theorem utf8EncodeChar_ascii {c : Char} (ascii : c.val.toNat ≤ 127) :
    String.utf8EncodeChar c = [UInt8.ofNat c.val.toNat] :=
  if_pos ascii

theorem eq_of_mem_utf8EncodeChar {c d : Char} (ascii : d.val.toNat ≤ 127)
    (member : UInt8.ofNat d.val.toNat ∈ String.utf8EncodeChar c) : c = d := by
  by_cases narrow : c.val.toNat ≤ 127
  · rw [utf8EncodeChar_ascii narrow, List.mem_singleton] at member
    have code := congrArg UInt8.toNat member
    rw [UInt8.toNat_ofNat', UInt8.toNat_ofNat', Nat.mod_eq_of_lt (by omega),
      Nat.mod_eq_of_lt (by omega)] at code
    exact Char.toNat_inj.mp code.symm
  · have high := high_of_mem_utf8EncodeChar (by omega) member
    rw [UInt8.toNat_ofNat', Nat.mod_eq_of_lt (by omega)] at high
    omega

theorem not_mem_utf8 {c : Char} {text : String} (ascii : c.val.toNat ≤ 127)
    (absent : c ∉ text.toList) : UInt8.ofNat c.val.toNat ∉ utf8 text := by
  rw [utf8_eq_flatMap, List.mem_flatMap]
  rintro ⟨d, inText, inBytes⟩
  exact absent (eq_of_mem_utf8EncodeChar ascii inBytes ▸ inText)

theorem newline_not_mem_utf8 {text : String} (oneLine : '\n' ∉ text.toList) : 10 ∉ utf8 text :=
  not_mem_utf8 (by decide) oneLine

end Text

namespace Wire

@[simp] theorem ofBytes_nil : ofBytes [] = [] := rfl

@[simp] theorem ofBytes_cons (byte : UInt8) (bytes : List UInt8) :
    ofBytes (byte :: bytes) = .byte byte :: ofBytes bytes := rfl

@[simp] theorem ofBytes_append (front back : List UInt8) :
    ofBytes (front ++ back) = ofBytes front ++ ofBytes back := List.map_append

theorem takeLine_ofBytes {line : List UInt8} (oneLine : 10 ∉ line) (rest : Stream) :
    takeLine (ofBytes line ++ .byte 10 :: rest) = ⟨line ++ [10], none, rest⟩ := by
  induction line with
  | nil => simp [takeLine]
  | cons byte line ih =>
    obtain ⟨other, later⟩ := List.ne_and_not_mem_of_not_mem_cons oneLine
    simp [takeLine, other.symm, ih later, Taken.cons]

theorem takeBytes_ofBytes (bytes : List UInt8) (rest : Stream) :
    takeBytes bytes.length (ofBytes bytes ++ rest) = ⟨bytes, none, rest⟩ := by
  induction bytes with
  | nil => simp [takeBytes]
  | cons byte bytes ih => simp [takeBytes, ih, Taken.cons]

theorem takeAll_ofBytes (bytes : List UInt8) : takeAll (ofBytes bytes) = ⟨bytes, none, []⟩ := by
  induction bytes with
  | nil => rfl
  | cons byte bytes ih => simp [takeAll, ih, Taken.cons]

def lineOf (bytes : List UInt8) : Except Fault String :=
  match Text.ofUtf8? bytes with
  | some line => .ok line
  | none => .error .notUtf8

theorem readLine_ofBytes {line : List UInt8} (oneLine : 10 ∉ line) (rest : Stream) :
    readLine (ofBytes (line ++ [10]) ++ rest) = (lineOf (line ++ [10]), rest) := by
  rw [ofBytes_append, List.append_assoc, ofBytes_cons, ofBytes_nil, List.singleton_append]
  unfold readLine lineOf
  rw [takeLine_ofBytes oneLine]
  dsimp only
  cases Text.ofUtf8? (line ++ [10]) <;> rfl

-- A line that was written is read as it was written, with its line feed.
theorem readLine_utf8 {line : String} (oneLine : '\n' ∉ line.toList) (rest : Stream) :
    readLine (ofBytes (Text.utf8 (line ++ "\n")) ++ rest) = (.ok (line ++ "\n"), rest) := by
  have newline : Text.utf8 "\n" = [10] := by decide
  have decoded := Text.ofUtf8?_utf8 (line ++ "\n")
  have read := readLine_ofBytes (Text.newline_not_mem_utf8 oneLine) rest
  rw [Text.utf8_append, newline] at decoded ⊢
  rw [read, lineOf, decoded]

end Wire

end ServerProbe
