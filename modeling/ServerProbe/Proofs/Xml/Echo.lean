import ServerProbe.Proofs.Xml.Tags

/-! The documents of echo calls and their sizes.

Only the text of the call differs from one echo call to another, and it stands in
one place of the document. What stands around it depends on the layout, so the
size grows with every character by as much as its escaped form takes.
-/

set_option autoImplicit false

namespace ServerProbe.Xml

theorem escape_ofList (text : List Char) :
    escape (String.ofList text) = String.join (text.map fun c => escape (String.singleton c)) := by
  rw [← String.toList_inj, String.toList_join, List.flatMap_map]
  simp [escape]

theorem escape_replicate (length : Nat) (c : Char) :
    escape (String.ofList (List.replicate length c)) =
      String.join (List.replicate length (escape (String.singleton c))) := by
  rw [escape_ofList, List.map_replicate]

theorem utf8ByteSize_join_replicate (length : Nat) (text : String) :
    (String.join (List.replicate length text)).utf8ByteSize = length * text.utf8ByteSize := by
  induction length with
  | zero => simp
  | succ length ih =>
    rw [List.replicate_succ, String.join_cons, String.utf8ByteSize_append, ih, Nat.succ_mul,
      Nat.add_comm]

/-- A document around the text of a leaf, with the tags of the leaf at its cut ends. -/
theorem render_leaf (layout : Layout) (first : Token) (before after : List Line) (depth : Nat)
    (tag text : String) :
    render layout ((0, first) :: (before ++ (depth, .leaf tag text) :: after)) =
      render layout ((0, first) :: (before ++ [(depth, .opening tag)])) ++ text ++
        render layout ((0, .closing tag) :: after) := by
  -- A gap depends on the depth of its line and not on the token.
  have sameGap : Line.gap (depth, .leaf tag text) layout =
      Line.gap (depth, .opening tag) layout := by
    cases layout <;> rfl
  rw [← String.toList_inj, String.toList_append, String.toList_append, toList_render,
    toList_render, toList_render, List.flatMap_append, List.flatMap_append, List.flatMap_cons,
    sameGap]
  simp [Token.text]

namespace Call

def echoBefore : List Line := [
  (0, .opening "methodCall"),
  (1, .leaf "methodName" "echo"),
  (1, .opening "params"),
  (2, .opening "param"),
  (3, .opening "value")]

def echoAfter : List Line := [
  (3, .closing "value"),
  (2, .closing "param"),
  (1, .closing "params"),
  (0, .closing "methodCall")]

def echoFront (layout : Layout) : String :=
  render layout ((0, .declaration) :: (echoBefore ++ [(4, .opening "string")]))

def echoBack (layout : Layout) : String :=
  render layout ((0, .closing "string") :: echoAfter)

theorem lines_echo (length : Nat) (fill : Char) :
    (echo length fill).lines = (0, .declaration) :: (echoBefore ++
      (4, .leaf "string" (escape (String.ofList (List.replicate length fill)))) :: echoAfter) := by
  have named : escape "echo" = "echo" := by decide
  rw [lines, echo, List.flatMap_singleton, parameterLines, Value.lines, named]
  rfl

theorem toXml_echo (layout : Layout) (length : Nat) (fill : Char) :
    (echo length fill).toXml layout =
      echoFront layout ++ String.join (List.replicate length (escape (String.singleton fill))) ++
        echoBack layout := by
  rw [toXml, lines_echo, render_leaf, escape_replicate]
  rfl

theorem utf8ByteSize_echo (layout : Layout) (length : Nat) (fill : Char) :
    ((echo length fill).toXml layout).utf8ByteSize =
      ((echo 0 fill).toXml layout).utf8ByteSize +
        length * (escape (String.singleton fill)).utf8ByteSize := by
  simp only [toXml_echo, String.utf8ByteSize_append, utf8ByteSize_join_replicate]
  omega

/-- The call that is made by default. -/
example : ((echo 65535 'a').toXml .indented).utf8ByteSize = 183 + 65535 := by
  have frame : ((echo 0 'a').toXml .indented).utf8ByteSize = 183 := rfl
  have letter : (escape (String.singleton 'a')).utf8ByteSize = 1 := rfl
  rw [utf8ByteSize_echo, frame, letter]

end Call

end ServerProbe.Xml
