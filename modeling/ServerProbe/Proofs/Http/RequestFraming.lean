import ServerProbe.Proofs.Http.HeadLines

/-! Requests as a server takes them apart.

A line feed in a part of a request could end its line too early, and a colon in
a name could end the name. Without them the first empty line ends the head, which
has the lines of the parts and announces one length, and the body is what follows,
whatever bytes it holds.
-/

set_option autoImplicit false

namespace ServerProbe.Http

theorem lowerByte_of_high {byte : UInt8} (high : 128 ≤ byte.toNat) : lowerByte byte = byte := by
  have notUpper : ¬(65 ≤ byte ∧ byte ≤ 90) := by
    rintro ⟨-, small⟩
    have small : byte.toNat ≤ 90 := small
    omega
  exact if_neg notUpper

/-- Bytes outside ASCII are kept, and so are the characters that they belong to. -/
theorem map_lowerByte_utf8EncodeChar (c : Char) :
    (String.utf8EncodeChar c).map lowerByte = String.utf8EncodeChar c.toLower := by
  by_cases ascii : c.val.toNat ≤ 127
  · have known : ∀ code < 128, (String.utf8EncodeChar (Char.ofNat code)).map lowerByte =
        String.utf8EncodeChar (Char.ofNat code).toLower := by decide
    have same := known c.toNat (Nat.lt_succ_of_le ascii)
    rwa [Char.ofNat_toNat] at same
  · have kept : c.toLower = c := by
      refine dif_neg ?_
      rintro ⟨-, small⟩
      have small : c.val.toNat ≤ 90 := small
      omega
    rw [kept]
    refine (List.map_congr_left fun byte member => ?_).trans (List.map_id _)
    exact lowerByte_of_high (Text.high_of_mem_utf8EncodeChar (by omega) member)

theorem map_lowerByte_utf8 (text : String) :
    (Text.utf8 text).map lowerByte = Text.utf8 (Text.lowerAscii text) := by
  rw [Text.lowerAscii, Text.utf8_ofList, Text.utf8_eq_flatMap, List.map_flatMap,
    List.flatMap_map]
  simp only [map_lowerByte_utf8EncodeChar]

theorem lowerBytes_ne {name : String}
    (other : Text.sameIgnoringCase name "content-length" = false) :
    (Text.utf8 name).map lowerByte ≠ Text.utf8 "content-length" := by
  intro same
  rw [map_lowerByte_utf8] at same
  have spelled : name.toList.map Char.toLower = "content-length".toList := by
    rw [← Text.utf8_injective same, Text.lowerAscii, String.toList_ofList]
  have named : Text.sameIgnoringCase name "content-length" = true := by
    rw [Text.sameIgnoringCase_iff, spelled]
    decide
  rw [other] at named
  cases named

def headEnd : List UInt8 := [13, 10, 13, 10]

theorem nil_mem_linesFrom (line text : List UInt8) : [] ∈ linesFrom line (text ++ [13, 10]) := by
  generalize whole : text ++ [13, 10] = bytes
  fun_induction linesFrom line bytes generalizing text with
  | case1 line => simp at whole
  | case2 line more ih =>
    -- The line end is the last one, or it stands in front of the last one.
    rcases text with _ | ⟨first, _ | ⟨second, others⟩⟩
    · cases whole
      simp [linesFrom]
    · simp at whole
    · cases whole
      exact List.mem_cons_of_mem _ (ih others rfl)
  | case3 line byte more noEnd ih =>
    cases text with
    | nil =>
      cases whole
      exact absurd rfl (noEnd [] rfl)
    | cons first others =>
      cases whole
      exact ih others rfl

theorem head?_ends_first {before after body : List UInt8} {lines : List (List UInt8)}
    (head : head? (before ++ headEnd ++ after) = some (lines, body)) :
    after.length ≤ body.length := by
  obtain ⟨others, rest, found, longer⟩ := headFrom?_ended (nil_mem_linesFrom [] before) after
  have regroup : before ++ headEnd ++ after = before ++ [13, 10] ++ 13 :: 10 :: after := by
    simp [headEnd]
  rw [regroup, head?, found] at head
  cases head
  exact longer

/-! Reading a body by the length that its head announces. -/

/-- Takes a body off the bytes after a head, as long as the head announces first. -/
def takeBody? (bytes : List UInt8) : Option (List UInt8 × List UInt8) := do
  let (lines, rest) ← head? bytes
  let value ← lines.findSome? lengthValue?
  let text ← Text.ofUtf8? value
  let length ← Text.natOfDigits? 10 text.toList
  if length ≤ rest.length then some (rest.splitAt length) else none

theorem takeBody?_of_head {bytes body : List UInt8} {lines : List (List UInt8)} {length : Nat}
    (head : head? bytes = some (lines, body))
    (announced : lines.filterMap lengthValue? = [Text.utf8 (toString length)]) :
    takeBody? bytes =
      if length ≤ body.length then some (body.take length, body.drop length) else none := by
  have first : lines.findSome? lengthValue? = some (Text.utf8 (toString length)) := by
    rw [← List.head?_filterMap, announced, List.head?_cons]
  simp only [takeBody?, head, first, Text.ofUtf8?_utf8, Text.natOfDigits?_toString,
    Option.bind_eq_bind, Option.bind_some, List.splitAt_eq]

theorem takeBody?_whole_iff {bytes body : List UInt8} {lines : List (List UInt8)} {length : Nat}
    (head : head? bytes = some (lines, body))
    (announced : lines.filterMap lengthValue? = [Text.utf8 (toString length)]) :
    takeBody? bytes = some (body, []) ↔ length = body.length := by
  rw [takeBody?_of_head head announced]
  constructor
  · intro taken
    split at taken
    · next enough =>
      simp only [Option.some.injEq, Prod.mk.injEq, List.drop_eq_nil_iff] at taken
      omega
    · cases taken
  · rintro rfl
    simp

namespace Request

/-- Nothing in a request ends a line before its end, or a name before its colon. -/
structure IsFramed (request : Request) : Prop where
  path : '\n' ∉ request.path.toList
  names : ∀ field ∈ request.fields, '\n' ∉ field.1.toList ∧ ':' ∉ field.1.toList
  values : ∀ field ∈ request.fields, '\n' ∉ field.2.toList

/-- What a server can take from the bytes of a request with this body. -/
structure TakenApart (body : List UInt8) (request : Request) : Prop where
  ended : ∃ front, request.headBytes = front ++ headEnd
  /-- No empty line comes before the one that ends the head. -/
  first : ∀ before after, request.bytes = before ++ headEnd ++ after →
    request.headBytes.length ≤ (before ++ headEnd).length
  rest : request.bytes = request.headBytes ++ body
  lines : head? request.bytes =
    some ((Request.lines request.path request.fields request.declaredLength).map Text.utf8, body)
  /-- One line names the content length, in any letter case. -/
  announced : ((Request.lines request.path request.fields request.declaredLength).map
    Text.utf8).filterMap lengthValue? = [Text.utf8 (toString request.declaredLength)]
  length : request.length = request.headBytes.length + request.bodyLength
  wellFormed : request.isMalformed = false ↔ takeBody? request.bytes = some (body, [])

namespace Step

/-- A step that brings no line feed, and no colon into a name. -/
def IsOneLine : Step → Prop
  | .path target => '\n' ∉ target.toList
  | .field name value => ('\n' ∉ name.toList ∧ ':' ∉ name.toList) ∧ '\n' ∉ value.toList
  | .declaredLength _ => True

instance (step : Step) : Decidable step.IsOneLine :=
  match step with
  | .path target => inferInstanceAs (Decidable ('\n' ∉ target.toList))
  | .field name value =>
    inferInstanceAs
      (Decidable (('\n' ∉ name.toList ∧ ':' ∉ name.toList) ∧ '\n' ∉ value.toList))
  | .declaredLength _ => inferInstanceAs (Decidable True)

end Step

theorem mem_setField {name value : String} {fields : List Field} {field : Field}
    (member : field ∈ setField name value fields) :
    field ∈ fields ∨
      field.2 = value ∧ (field.1 = name ∨ ∃ old, (field.1, old) ∈ fields) := by
  induction fields with
  | nil =>
    obtain rfl := List.mem_singleton.mp member
    exact .inr ⟨rfl, .inl rfl⟩
  | cons first rest ih =>
    obtain ⟨known, old⟩ := first
    unfold setField at member
    split at member
    · rcases List.mem_cons.mp member with rfl | later
      · exact .inr ⟨rfl, .inr ⟨old, List.mem_cons_self⟩⟩
      · exact .inl (List.mem_cons_of_mem _ later)
    · rcases List.mem_cons.mp member with rfl | later
      · exact .inl List.mem_cons_self
      · rcases ih later with inRest | ⟨same, named | ⟨before, inRest⟩⟩
        · exact .inl (List.mem_cons_of_mem _ inRest)
        · exact .inr ⟨same, .inl named⟩
        · exact .inr ⟨same, .inr ⟨before, List.mem_cons_of_mem _ inRest⟩⟩

variable {request : Request}

theorem IsFramed.withField (framed : request.IsFramed) {name value : String}
    (nameFramed : '\n' ∉ name.toList ∧ ':' ∉ name.toList) (valueFramed : '\n' ∉ value.toList) :
    (request.withField name value).IsFramed := by
  unfold Request.withField
  split
  · split <;> exact ⟨framed.path, framed.names, framed.values⟩
  · refine ⟨framed.path, fun field member => ?_, fun field member => ?_⟩
    · rcases mem_setField member with known | ⟨-, named | ⟨old, known⟩⟩
      · exact framed.names field known
      · rwa [named]
      · exact framed.names (field.1, old) known
    · rcases mem_setField member with known | ⟨rfl, -⟩
      · exact framed.values field known
      · exact valueFramed

theorem IsFramed.apply (framed : request.IsFramed) {step : Step} (oneLine : step.IsOneLine) :
    (step.apply request).IsFramed := by
  cases step with
  | path target => exact ⟨oneLine, framed.names, framed.values⟩
  | field name value => exact framed.withField oneLine.1 oneLine.2
  | declaredLength declared => exact ⟨framed.path, framed.names, framed.values⟩

variable {host : String} {port : Nat} {body : List UInt8} {steps : List Step}

theorem isFramed_post (oneLine : '\n' ∉ host.toList) : (post host port body).IsFramed where
  path := by
    rw [show (post host port body).path = "/" from rfl]
    decide
  names := by
    have named : ∀ name ∈ startNames, '\n' ∉ name.toList ∧ ':' ∉ name.toList := by decide
    exact fun field member => named field.1 (List.mem_map_of_mem member)
  values := by
    have number := (toString_isSolid port).newline_not_mem
    have target : '\n' ∉ (host ++ ":" ++ toString port).toList := by simpa [oneLine] using number
    have others : '\n' ∉ userAgent.toList ∧ '\n' ∉ "*/*".toList ∧ '\n' ∉ xmlContentType.toList := by
      decide
    simp only [post, List.forall_mem_cons, List.not_mem_nil, false_implies, implies_true, and_true]
    exact ⟨others.1, target, others.2.1, others.2.2⟩

theorem isFramed_build (hostFramed : '\n' ∉ host.toList)
    (oneLine : ∀ step ∈ steps, step.IsOneLine) : (build host port body steps).IsFramed := by
  induction steps using List.reverseRecOn with
  | nil => exact isFramed_post hostFramed
  | append_singleton steps step ih =>
    rw [build_append_singleton]
    exact (ih fun other member => oneLine other (by simp [member])).apply (oneLine step (by simp))

theorem oneLine_of_mem_lines (framed : request.IsFramed) {length : Nat} {line : String}
    (member : line ∈ lines request.path request.fields length) : '\n' ∉ line.toList := by
  have number := (toString_isSolid length).newline_not_mem
  simp only [lines, List.cons_append, List.mem_cons, List.mem_append, List.mem_map,
    List.not_mem_nil, or_false] at member
  rcases member with rfl | ⟨field, known, rfl⟩ | rfl
  · simpa using framed.path
  · have name := (framed.names field known).1
    simp [name, framed.values field known]
  · simpa using number

theorem flatMap_linesOf (framed : request.IsFramed) (length : Nat) :
    ((lines request.path request.fields length).map Text.utf8).flatMap linesOf =
      (lines request.path request.fields length).map Text.utf8 := by
  rw [List.flatMap_map, List.map_eq_flatMap]
  exact List.flatMap_congr fun line member => linesOf_utf8 (oneLine_of_mem_lines framed member)

theorem nil_not_mem_lines (path : String) (fields : List Field) (length : Nat) :
    [] ∉ (lines path fields length).map Text.utf8 := by
  rw [List.mem_map]
  rintro ⟨line, member, empty⟩
  obtain rfl : line = "" := Text.utf8_injective empty
  simp only [lines, List.cons_append, List.mem_cons, List.mem_append, List.mem_map,
    List.not_mem_nil, or_false, String.ext_iff] at member
  simp at member

theorem head?_headBytes_append (framed : request.IsFramed) (rest : List UInt8) :
    head? (request.headBytes ++ rest) =
      some ((lines request.path request.fields request.declaredLength).map Text.utf8, rest) := by
  rw [headBytes_eq_written, written_append, List.nil_append]
  exact head?_written_iff.mpr ⟨(flatMap_linesOf framed _).symm, nil_not_mem_lines _ _ _⟩

theorem head?_bytes (framed : request.IsFramed) :
    head? request.bytes =
      some ((lines request.path request.fields request.declaredLength).map Text.utf8,
        request.body) :=
  head?_headBytes_append framed request.body

theorem lengthValue?_field {field : Field} (noColon : ':' ∉ field.1.toList)
    (other : Text.sameIgnoringCase field.1 "content-length" = false) :
    lengthValue? (Text.utf8 (field.1 ++ ": " ++ field.2)) = none := by
  have spelled : Text.utf8 (field.1 ++ ": " ++ field.2) =
      Text.utf8 field.1 ++ 58 :: 32 :: Text.utf8 field.2 := by
    rw [Text.utf8_append, Text.utf8_append, List.append_assoc]
    rfl
  have noColonByte : 58 ∉ Text.utf8 field.1 := Text.not_mem_utf8 (by decide) noColon
  rw [spelled, lengthValue?_colon noColonByte, if_neg (lowerBytes_ne other)]

theorem lengthValue?_requestLine (path : String) :
    lengthValue? (Text.utf8 ("POST " ++ path ++ " HTTP/1.1")) = none := by
  -- Whatever the path, the name on this line begins with the method.
  have spelled : Text.utf8 ("POST " ++ path ++ " HTTP/1.1") =
      80 :: ([79, 83, 84, 32] ++ Text.utf8 path ++ Text.utf8 " HTTP/1.1") := by
    rw [Text.utf8_append, Text.utf8_append]
    rfl
  have other (later : List UInt8) :
      (80 :: later).map lowerByte ≠ Text.utf8 "content-length" := by
    intro same
    have first : lowerByte 80 = 99 := (List.cons.inj same).1
    exact absurd first (by decide)
  rw [spelled, lengthValue?, List.takeWhile_cons_of_pos (by decide)]
  split
  · rfl
  · exact if_neg (other _)

/-- Only the last line of a head announces a length. -/
theorem lengths_lines (framed : request.IsFramed)
    (noLength : ∀ field ∈ request.fields,
      Text.sameIgnoringCase field.1 "content-length" = false) (length : Nat) :
    ((lines request.path request.fields length).map Text.utf8).filterMap lengthValue? =
      [Text.utf8 (toString length)] := by
  have fields : (request.fields.map fun field =>
      Text.utf8 (field.1 ++ ": " ++ field.2)).filterMap lengthValue? = [] := by
    rw [List.filterMap_eq_nil_iff, List.forall_mem_map]
    exact fun field member =>
      lengthValue?_field (framed.names field member).2 (noLength field member)
  simp only [lines, List.cons_append, List.map_cons, List.map_append, List.map_map,
    List.map_nil, List.filterMap_cons, List.filterMap_append, lengthValue?_requestLine,
    lengthValue?_length, Function.comp_def, fields, List.filterMap_nil, List.nil_append]

theorem ended_headBytes (request : Request) :
    ∃ front, request.headBytes = front ++ headEnd := by
  have lineEnd : Text.utf8 "\r\n\r\n" = headEnd := by decide
  rw [headBytes, head, Text.utf8_append, lineEnd]
  exact ⟨_, rfl⟩

theorem IsFramed.takenApart (framed : request.IsFramed)
    (noLength : ∀ field ∈ request.fields,
      Text.sameIgnoringCase field.1 "content-length" = false) :
    TakenApart request.body request where
  ended := ended_headBytes request
  first := by
    intro before after split
    have head := head?_bytes framed
    rw [split] at head
    have longer := head?_ends_first head
    have size := congrArg List.length split
    rw [bytes] at size
    simp only [List.length_append] at size ⊢
    omega
  rest := rfl
  lines := head?_bytes framed
  announced := lengths_lines framed noLength _
  length := List.length_append
  wellFormed := by
    rw [takeBody?_whole_iff (head?_bytes framed) (lengths_lines framed noLength _), isMalformed,
      bne_eq_false_iff_eq]
    rfl

/-- A request that was built step by step is taken apart into its parts: whenever what stands in it
now holds no line feed, and no name a colon, and so whenever no step brought one. -/
theorem framing_undone (host : String) (port : Nat) (body : List UInt8) (steps : List Step) :
    ('\n' ∉ host.toList → (∀ step ∈ steps, step.IsOneLine) →
        (build host port body steps).IsFramed) ∧
      ((build host port body steps).IsFramed → TakenApart body (build host port body steps)) := by
  constructor
  · exact isFramed_build
  · intro framed
    have taken := framed.takenApart (no_length_build host port body steps)
    rwa [body_build] at taken

def notedSteps : List Step :=
  [.path "/RPC2", .field "content-LENGTH" " 3 ", .field "HOST" "[::1]", .field "X-Note" "a: b"]

/-- The body looks like another head. -/
theorem noted_undone :
    (∀ step ∈ notedSteps, step.IsOneLine) ∧
      TakenApart (Text.utf8 "A: 1\r\n\r\nhi")
        (build "::1" 80 (Text.utf8 "A: 1\r\n\r\nhi") notedSteps) := by
  have oneLine : ∀ step ∈ notedSteps, step.IsOneLine := by decide
  have taken := framing_undone "::1" 80 (Text.utf8 "A: 1\r\n\r\nhi") notedSteps
  exact ⟨oneLine, taken.2 (taken.1 (by decide) oneLine)⟩

end Request

end ServerProbe.Http
