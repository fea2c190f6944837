import ServerProbe.Proofs.Xml.RoundTrip

/-! One list of lines for both layouts of a call.

The lines of a call are nested: every tag stands at the number of elements that
are open around it, and closes the element that was opened last. A writer that
walks over the call and only counts its open elements puts down just these
lines, in either layout, and never closes an element that is not open.
-/

set_option autoImplicit false

namespace ServerProbe.Xml

/-- Lines that can stand inside of some open elements, the innermost first, and that close all of
them. Each line has the number of elements that are open around it. -/
inductive Nested : List String → List Line → Prop where
  | done : Nested [] []
  | opening {around : List String} {tag : String} {rest : List Line} :
      Nested (tag :: around) rest → Nested around ((around.length, .opening tag) :: rest)
  | closing {around : List String} {tag : String} {rest : List Line} :
      Nested around rest → Nested (tag :: around) ((around.length, .closing tag) :: rest)
  | leaf {around : List String} {tag text : String} {rest : List Line} :
      Nested around rest → Nested around ((around.length, .leaf tag text) :: rest)
  | empty {around : List String} {tag : String} {rest : List Line} :
      Nested around rest → Nested around ((around.length, .empty tag) :: rest)
  | declaration {around : List String} {rest : List Line} :
      Nested around rest → Nested around ((around.length, .declaration) :: rest)

/-- Lines that leave the elements around them open, whatever follows. -/
def Fits (around : List String) (lines : List Line) : Prop :=
  ∀ rest, Nested around rest → Nested around (lines ++ rest)

namespace Fits

variable {around : List String}

theorem nil : Fits around [] := fun _ later => later

theorem append {front back : List Line} (first : Fits around front) (second : Fits around back) :
    Fits around (front ++ back) := by
  intro rest later
  rw [List.append_assoc]
  exact first _ (second rest later)

theorem leaf (tag text : String) : Fits around [(around.length, .leaf tag text)] :=
  fun _ later => .leaf later

theorem element (tag : String) {inner : List Line} (inside : Fits (tag :: around) inner) :
    Fits around (element around.length tag inner) := by
  intro rest later
  rw [Xml.element, List.cons_append, List.append_assoc]
  exact .opening (inside _ (.closing later))

theorem lone (tag text : String) :
    Fits around (Xml.element around.length "value" [(around.length + 1, .leaf tag text)]) :=
  .element "value" (.leaf tag text)

end Fits

mutual

theorem value_fits (around : List String) : ∀ value : Value,
    Fits around (value.lines around.length)
  | .nil => by
    rw [Value.lines]
    exact .element "value" fun _ later => .empty later
  | .int _ => by rw [Value.lines]; exact .lone _ _
  | .boolean _ => by rw [Value.lines]; exact .lone _ _
  | .double _ => by rw [Value.lines]; exact .lone _ _
  | .string _ => by rw [Value.lines]; exact .lone _ _
  | .base64 _ => by rw [Value.lines]; exact .lone _ _
  | .dateTime _ => by rw [Value.lines]; exact .lone _ _
  | .array items => by
    rw [Value.lines]
    apply Fits.element
    apply Fits.element
    apply Fits.element
    exact items_fit ("data" :: "array" :: "value" :: around) items
  | .struct members => by
    rw [Value.lines]
    apply Fits.element
    apply Fits.element
    exact members_fit ("struct" :: "value" :: around) members

theorem items_fit (around : List String) : ∀ items : List Value,
    Fits around (itemLines around.length items)
  | [] => by rw [itemLines]; exact .nil
  | item :: rest => by
    rw [itemLines]
    exact (value_fits around item).append (items_fit around rest)

theorem members_fit (around : List String) : ∀ members : List (String × Value),
    Fits around (memberLines around.length members)
  | [] => by rw [memberLines]; exact .nil
  | (name, value) :: rest => by
    rw [memberLines]
    have named : Fits ("member" :: around) [(around.length + 1, .leaf "name" (escape name))] :=
      .leaf "name" (escape name)
    have member := (named.append (value_fits ("member" :: around) value)).element "member"
    exact member.append (members_fit around rest)

end

theorem parameters_fit (parameters : List Value) :
    Fits ["params", "methodCall"] (parameters.flatMap Call.parameterLines) := by
  induction parameters with
  | nil => exact .nil
  | cons parameter rest ih =>
    rw [List.flatMap_cons]
    have value := value_fits ["param", "params", "methodCall"] parameter
    exact Fits.append (.element "param" value) ih

theorem Call.nested (call : Call) : Nested [] call.lines := by
  have named : Fits ["methodCall"] [(1, .leaf "methodName" (escape call.method))] :=
    .leaf "methodName" (escape call.method)
  have inside := named.append ((parameters_fit call.parameters).element "params")
  have whole := inside.element "methodCall" [] .done
  rw [List.append_nil] at whole
  exact .declaration whole

/-- The text of a document so far, with one more line. -/
def Layout.add (layout : Layout) (text : String) (line : Line) : String :=
  match layout with
  | .compact => text ++ line.2.text
  | .indented => text ++ (if text = "" then "" else "\n") ++ line.indentedText

structure Writer where
  layout : Layout
  text : String
  /-- The number of elements that are open. -/
  depth : Nat

namespace Writer

def blank (layout : Layout) : Writer := ⟨layout, "", 0⟩

def put (token : Token) (writer : Writer) : Writer :=
  { writer with text := writer.layout.add writer.text (writer.depth, token) }

def enter (tag : String) (writer : Writer) : Writer :=
  { writer.put (.opening tag) with depth := writer.depth + 1 }

/-- Closes an element, which fails where none is open. -/
def leave (tag : String) (writer : Writer) : Option Writer :=
  match writer.depth with
  | 0 => none
  | depth + 1 => some (put (.closing tag) { writer with depth := depth })

/-- Writes a value that is a single token. -/
def lone (token : Token) (writer : Writer) : Option Writer :=
  ((writer.enter "value").put token).leave "value"

mutual

def value (writer : Writer) : Value → Option Writer
  | .nil => writer.lone (.empty "nil")
  | .int value => writer.lone (.leaf "int" (toString value.toInt))
  | .boolean value => writer.lone (.leaf "boolean" (if value then "1" else "0"))
  | .double value => writer.lone (.leaf "double" value.positional)
  | .string text => writer.lone (.leaf "string" (escape text))
  | .base64 bytes => writer.lone (.leaf "base64" (Bytes.base64 bytes))
  | .dateTime time => writer.lone (.leaf "dateTime.iso8601" time.compact)
  | .array values => do
    let written ← items (((writer.enter "value").enter "array").enter "data") values
    let outer ← written.leave "data"
    let outermost ← outer.leave "array"
    outermost.leave "value"
  | .struct pairs => do
    let written ← members ((writer.enter "value").enter "struct") pairs
    let outer ← written.leave "struct"
    outer.leave "value"

def items (writer : Writer) : List Value → Option Writer
  | [] => some writer
  | item :: rest => do
    let written ← writer.value item
    items written rest

def members (writer : Writer) : List (String × Value) → Option Writer
  | [] => some writer
  | (name, value) :: rest => do
    let named := (writer.enter "member").put (.leaf "name" (escape name))
    let written ← named.value value
    let closed ← written.leave "member"
    members closed rest

end

def parameters (writer : Writer) : List Value → Option Writer
  | [] => some writer
  | parameter :: rest => do
    let written ← (writer.enter "param").value parameter
    let closed ← written.leave "param"
    closed.parameters rest

def call (writer : Writer) (call : Call) : Option Writer := do
  let begun := (writer.put .declaration).enter "methodCall"
  let named := begun.put (.leaf "methodName" (escape call.method))
  let written ← (named.enter "params").parameters call.parameters
  let closed ← written.leave "params"
  closed.leave "methodCall"

/-- The writer after some lines, at the depth where it was before. -/
def after (lines : List Line) (writer : Writer) : Writer :=
  { writer with text := lines.foldl writer.layout.add writer.text }

@[simp] theorem after_nil (writer : Writer) : writer.after [] = writer := rfl

@[simp] theorem after_after (front back : List Line) (writer : Writer) :
    (writer.after front).after back = writer.after (front ++ back) := by
  simp [after]

@[simp] theorem depth_after (lines : List Line) (writer : Writer) :
    (writer.after lines).depth = writer.depth := rfl

@[simp] theorem depth_enter (tag : String) (writer : Writer) :
    (writer.enter tag).depth = writer.depth + 1 := rfl

theorem put_eq (token : Token) (writer : Writer) :
    writer.put token = writer.after [(writer.depth, token)] := rfl

theorem leave_after (tag : String) (inner : List Line) (writer : Writer) :
    ((writer.enter tag).after inner).leave tag =
      some (writer.after (element writer.depth tag inner)) := by
  simp [leave, after, enter, put, element]

theorem lone_eq (token : Token) (writer : Writer) :
    writer.lone token =
      some (writer.after (element writer.depth "value" [(writer.depth + 1, token)])) := by
  rw [lone, put_eq, leave_after, depth_enter]

mutual

theorem value_eq (writer : Writer) : ∀ value : Value,
    writer.value value = some (writer.after (value.lines writer.depth))
  | .nil => by rw [Writer.value, lone_eq, Value.lines]
  | .int _ => by rw [Writer.value, lone_eq, Value.lines]
  | .boolean _ => by rw [Writer.value, lone_eq, Value.lines]
  | .double _ => by rw [Writer.value, lone_eq, Value.lines]
  | .string _ => by rw [Writer.value, lone_eq, Value.lines]
  | .base64 _ => by rw [Writer.value, lone_eq, Value.lines]
  | .dateTime _ => by rw [Writer.value, lone_eq, Value.lines]
  | .array values => by
    have inside := items_eq (((writer.enter "value").enter "array").enter "data") values
    simp [Writer.value, inside, leave_after, Value.lines]
  | .struct pairs => by
    have inside := members_eq ((writer.enter "value").enter "struct") pairs
    simp [Writer.value, inside, leave_after, Value.lines]

theorem items_eq (writer : Writer) : ∀ values : List Value,
    writer.items values = some (writer.after (itemLines writer.depth values))
  | [] => by rw [items, itemLines, after_nil]
  | item :: rest => by
    have first := value_eq writer item
    have others := items_eq (writer.after (item.lines writer.depth)) rest
    simp [items, first, others, itemLines]

theorem members_eq (writer : Writer) : ∀ pairs : List (String × Value),
    writer.members pairs = some (writer.after (memberLines writer.depth pairs))
  | [] => by rw [members, memberLines, after_nil]
  | (name, value) :: rest => by
    have named := value_eq ((writer.enter "member").put (.leaf "name" (escape name))) value
    rw [put_eq, after_after, depth_after, depth_enter] at named
    have others := members_eq (writer.after (element writer.depth "member"
      ((writer.depth + 1, .leaf "name" (escape name)) :: value.lines (writer.depth + 1)))) rest
    simp [members, put_eq, named, leave_after, others, memberLines]

end

theorem parameters_eq {writer : Writer} (depth : writer.depth = 2) (values : List Value) :
    writer.parameters values = some (writer.after (values.flatMap Call.parameterLines)) := by
  induction values generalizing writer with
  | nil => rfl
  | cons parameter rest ih =>
    have others := @ih (writer.after (Call.parameterLines parameter)) depth
    simp [parameters, value_eq, leave_after, depth, Call.parameterLines] at others ⊢
    exact others

theorem call_eq (layout : Layout) (call : Call) :
    (blank layout).call call = some ((blank layout).after call.lines) := by
  let begun := ((blank layout).after [(0, .declaration)]).enter "methodCall"
  let named := begun.after [(1, .leaf "methodName" (escape call.method))]
  have written : (named.enter "params").parameters call.parameters =
      some ((named.enter "params").after (call.parameters.flatMap Call.parameterLines)) :=
    parameters_eq rfl call.parameters
  have params := named.leave_after "params" (call.parameters.flatMap Call.parameterLines)
  have whole := ((blank layout).after [(0, .declaration)]).leave_after "methodCall"
    ((1, .leaf "methodName" (escape call.method)) ::
      element 1 "params" (call.parameters.flatMap Call.parameterLines))
  have start : (blank layout).call call =
      ((named.enter "params").parameters call.parameters).bind fun written =>
        (written.leave "params").bind fun closed => closed.leave "methodCall" := rfl
  rw [start, written, Option.bind_some, params, Option.bind_some]
  simp only [named, begun, after_after]
  exact whole

end Writer

theorem Token.text_ne_empty (token : Token) : token.text ≠ "" := by
  cases token <;> simp [Token.text]

theorem Layout.toList_add (layout : Layout) {text : String} (started : text ≠ "") (line : Line) :
    (layout.add text line).toList = text.toList ++ (line.gap layout ++ line.2.text.toList) := by
  cases layout with
  | compact => simp [add, Line.gap]
  | indented => simp [add, started, Line.gap, Line.indentedText]

theorem Layout.toList_foldl_add (layout : Layout) {text : String} (started : text ≠ "")
    (lines : List Line) :
    (lines.foldl layout.add text).toList =
      text.toList ++ lines.flatMap fun line => line.gap layout ++ line.2.text.toList := by
  induction lines generalizing text with
  | nil => simp
  | cons line lines ih =>
    have added := layout.toList_add started line
    have more : layout.add text line ≠ "" := by
      intro empty
      rw [empty] at added
      simp [Token.text_ne_empty] at added
    rw [List.foldl_cons, ih more, added]
    simp

theorem Layout.foldl_add (layout : Layout) (token : Token) (lines : List Line) :
    ((0, token) :: lines).foldl layout.add "" = render layout ((0, token) :: lines) := by
  have first : layout.add "" (0, token) = token.text := by
    cases layout <;> simp [add, Line.indentedText]
  rw [← String.toList_inj, List.foldl_cons, first,
    layout.toList_foldl_add (Token.text_ne_empty token), toList_render]

theorem Call.toXml_ends (layout : Layout) (call : Call) :
    (call.toXml layout).toList.head? = some '<' ∧
      (call.toXml layout).toList.getLast? = some '>' := by
  have spelled : Token.declaration.text.toList = '<' :: "?xml version=\"1.0\"?>".toList := by
    decide
  have ended : (Token.closing "methodCall").text.toList = "</methodCall".toList ++ ['>'] := by
    decide
  rw [Call.toXml, Call.lines, toList_render, element]
  constructor
  · simp [spelled]
  · simp only [List.flatMap_cons, List.flatMap_append, List.flatMap_nil, List.append_nil, ended,
      ← List.append_assoc, List.getLast?_concat]

theorem Call.sound_lines (call : Call) : ∀ line ∈ call.lines, line.2.IsSound := by
  obtain ⟨node, lines, split, builds, -⟩ := call_lines .compact call
  rw [split]
  exact List.forall_mem_cons.mpr ⟨trivial, builds.sound⟩

/-- Both layouts spell one list of tokens, each at the number of elements that are open around it.
The compact layout puts them side by side, the indented layout puts each on a line of its own. A
writer that walks over the call comes to the same document, closes only what is open, and leaves
nothing open. -/
theorem layouts_spell_lines (call : Call) :
    ∃ lines : List Line,
      (∀ line ∈ lines, line.2.IsSound) ∧ Nested [] lines ∧
      call.toXml .compact = String.join (lines.map fun (_, token) => token.text) ∧
      call.toXml .indented = String.intercalate "\n" (lines.map fun (depth, token) =>
        String.ofList (List.replicate (2 * depth) ' ') ++ token.text) ∧
      (call.toXml .indented).toList.head? = some '<' ∧
      (call.toXml .indented).toList.getLast? = some '>' ∧
      ∀ layout, (Writer.blank layout).call call = some ⟨layout, call.toXml layout, 0⟩ := by
  refine ⟨call.lines, call.sound_lines, call.nested, rfl, rfl, (call.toXml_ends .indented).1,
    (call.toXml_ends .indented).2, ?_⟩
  intro layout
  have text : call.lines.foldl layout.add "" = call.toXml layout :=
    layout.foldl_add .declaration _
  rw [Writer.call_eq, Writer.after]
  simp [Writer.blank, text]

end ServerProbe.Xml
