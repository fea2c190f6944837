import ServerProbe.Proofs.Xml.Leaves
import ServerProbe.Proofs.Xml.Tags

/-! Calls are read back from their documents.

The lines of a value put one element into whatever is open around them, and
that element means the value. This is shown along the values; the layout only
decides what stands between the tags.
-/

set_option autoImplicit false

namespace ServerProbe.Xml

theorem markOf_opening {tag : String} (isTag : IsTag tag) : markOf tag.toList = .opening tag := by
  have notLast : tag.toList.getLast? ≠ some '/' := fun last =>
    isTag.2 (List.mem_of_getLast? last)
  unfold markOf
  split
  · next name spelled =>
    have member : '/' ∈ tag.toList := by simp [spelled]
    exact absurd member isTag.2
  · rw [if_neg notLast, String.ofList_toList]

theorem markOf_closing (tag : String) : markOf ('/' :: tag.toList) = .closing tag := by
  rw [markOf, String.ofList_toList]

theorem buildAll?_append (opened : List Open) (front back : List Piece) :
    buildAll? opened (front ++ back) =
      (buildAll? opened front).bind fun next => buildAll? next back := by
  induction front generalizing opened with
  | nil => rfl
  | cons piece front ih =>
    rw [List.cons_append, buildAll?, buildAll?, Option.bind_assoc]
    congr 1
    funext next
    exact ih next

theorem build?_opening {tag : String} (isTag : IsTag tag) {gap : List Char} (layout : IsLayout gap)
    (opened : List Open) : build? opened ⟨gap, tag.toList⟩ = some (⟨tag, []⟩ :: opened) := by
  simp only [build?, markOf_opening isTag, layout, if_true]

theorem build?_closing {tag : String} {text : List Char} {inner : List Node} {node : Node}
    (closed : Open.close ⟨tag, inner⟩ text = some node) (current : Open) (outer : List Open) :
    build? (⟨tag, inner⟩ :: current :: outer) ⟨text, '/' :: tag.toList⟩ =
      some (current.add node :: outer) := by
  simp only [build?, markOf_closing, if_true, closed, Option.map_some]

theorem build?_nil {gap : List Char} (layout : IsLayout gap) (current : Open) (outer : List Open) :
    build? (current :: outer) ⟨gap, "nil".toList ++ ['/']⟩ =
      some (current.add (.element "nil" [] []) :: outer) := by
  have mark : markOf ("nil".toList ++ ['/']) = .empty "nil" := rfl
  simp only [build?, mark, layout, if_true]

/-- Lines that put some elements into whatever element is open around them. -/
structure Builds (layout : Layout) (lines : List Line) (nodes : List Node) : Prop where
  sound : ∀ line ∈ lines, line.2.IsSound
  built : ∀ current outer, buildAll? (current :: outer) (lines.flatMap (Line.pieces layout)) =
    some (⟨current.tag, nodes.reverse ++ current.inner⟩ :: outer)

namespace Builds

variable {layout : Layout}

theorem none : Builds layout [] [] where
  sound := fun _ member => nomatch member
  built := fun _ _ => rfl

theorem append {front back : List Line} {nodes more : List Node} (first : Builds layout front nodes)
    (second : Builds layout back more) : Builds layout (front ++ back) (nodes ++ more) where
  sound := fun line member =>
    (List.mem_append.mp member).elim (first.sound line) (second.sound line)
  built := by
    intro current outer
    rw [List.flatMap_append, buildAll?_append, first.built, Option.bind_some, second.built,
      List.reverse_append, List.append_assoc]

theorem leaf (depth : Nat) {tag text : String} (isTag : IsTag tag) (noTag : '<' ∉ text.toList) :
    Builds layout [(depth, .leaf tag text)] [.element tag text.toList []] where
  sound := by
    intro line member
    rw [List.mem_singleton.mp member]
    exact ⟨isTag, noTag⟩
  built := by
    intro current outer
    have opened := build?_opening isTag (isLayout_gap layout (depth, .leaf tag text))
      (current :: outer)
    have ended : Open.close ⟨tag, []⟩ text.toList = some (.element tag text.toList []) := rfl
    have closed := build?_closing ended current outer
    rw [List.flatMap_cons, List.flatMap_nil, List.append_nil, Line.pieces, Token.pieces, buildAll?,
      opened, Option.bind_some, buildAll?, closed]
    rfl

theorem nilTag (depth : Nat) :
    Builds layout [(depth, .empty "nil")] [.element "nil" [] []] where
  sound := by
    intro line member
    rw [List.mem_singleton.mp member]
    exact (by decide : IsTag "nil")
  built := by
    intro current outer
    have added := build?_nil (isLayout_gap layout (depth, .empty "nil")) current outer
    rw [List.flatMap_cons, List.flatMap_nil, List.append_nil, Line.pieces, Token.pieces, buildAll?,
      added]
    rfl

theorem element (depth : Nat) (tag : String) (isTag : IsTag tag) {inner : List Line}
    {nodes : List Node} (builds : Builds layout inner nodes) :
    ∃ text, IsLayout text ∧
      Builds layout (element depth tag inner) [.element tag text nodes] := by
  -- Without elements inside, what stands before the closing tag becomes the text.
  obtain ⟨text, plain, closed⟩ : ∃ text, IsLayout text ∧
      Open.close ⟨tag, nodes.reverse⟩ (Line.gap (depth, .closing tag) layout) =
        some (.element tag text nodes) := by
    have gap := isLayout_gap layout (depth, .closing tag)
    cases nodes with
    | nil => exact ⟨_, gap, rfl⟩
    | cons node others =>
      refine ⟨[], isLayout_nil, ?_⟩
      simp [Open.close, gap]
  refine ⟨text, plain, ?_, ?_⟩
  · intro line member
    rcases List.mem_cons.mp member with rfl | member
    · exact isTag
    · rcases List.mem_append.mp member with inside | last
      · exact builds.sound line inside
      · rw [List.mem_singleton.mp last]
        exact isTag
  · intro current outer
    have opened := build?_opening isTag (isLayout_gap layout (depth, .opening tag))
      (current :: outer)
    have ended := build?_closing closed current outer
    have inside := builds.built ⟨tag, []⟩ (current :: outer)
    rw [List.append_nil] at inside
    rw [Xml.element, List.flatMap_cons, List.flatMap_append, List.flatMap_cons, List.flatMap_nil,
      List.append_nil, buildAll?_append]
    simp only [Line.pieces, Token.pieces, buildAll?, opened, Option.bind_some] at inside ⊢
    rw [buildAll?_append, inside, Option.bind_some, buildAll?, ended]
    rfl

end Builds

theorem content?_leaf {tag : String} {text : List Char} (other : tag ≠ "struct") :
    Node.content? (.element tag text []) = leafOf? tag text := by
  rw [Node.content?]
  exact other

variable {layout : Layout}

theorem value_of_content (depth : Nat) {lines : List Line} {content : Node} {shown : Shown}
    (builds : Builds layout lines [content]) (meaning : content.content? = some shown) :
    ∃ node, Builds layout (element depth "value" lines) [node] ∧ node.value? = some shown := by
  obtain ⟨text, -, built⟩ := builds.element depth "value" (by decide)
  exact ⟨_, built, meaning⟩

theorem value_of_leaf (depth : Nat) {tag text : String} {shown : Shown} (isTag : IsTag tag)
    (other : tag ≠ "struct") (noTag : '<' ∉ text.toList)
    (meaning : leafOf? tag text.toList = some shown) :
    ∃ node, Builds layout (element depth "value" [(depth + 1, .leaf tag text)]) [node] ∧
      node.value? = some shown :=
  value_of_content depth (.leaf (depth + 1) isTag noTag) ((content?_leaf other).trans meaning)

mutual

theorem value_lines (layout : Layout) (depth : Nat) : ∀ value : Value,
    ∃ node, Builds layout (value.lines depth) [node] ∧ node.value? = some value.shown
  | .nil => by
    rw [Value.lines, Value.shown]
    exact value_of_content depth (.nilTag (depth + 1)) rfl
  | .int value => by
    rw [Value.lines, Value.shown]
    exact value_of_leaf depth (by decide) (by decide) (isPlain_int _).open_not_mem
      (leafOf?_int value)
  | .boolean value => by
    rw [Value.lines, Value.shown]
    have noTag : '<' ∉ (if value then "1" else "0").toList := by cases value <;> decide
    exact value_of_leaf depth (by decide) (by decide) noTag (leafOf?_boolean value)
  | .double value => by
    rw [Value.lines, Value.shown]
    exact value_of_leaf depth (by decide) (by decide) (isPlain_double value).open_not_mem
      (leafOf?_double value)
  | .string text => by
    rw [Value.lines, Value.shown]
    exact value_of_leaf depth (by decide) (by decide) (open_not_mem_escape text)
      (leafOf?_string text)
  | .base64 bytes => by
    rw [Value.lines, Value.shown]
    exact value_of_leaf depth (by decide) (by decide) (isPlain_base64 bytes).open_not_mem
      (leafOf?_base64 bytes)
  | .dateTime time => by
    rw [Value.lines, Value.shown]
    exact value_of_leaf depth (by decide) (by decide) (isPlain_dateTime time).open_not_mem
      (leafOf?_dateTime time)
  | .array items => by
    obtain ⟨nodes, inside, meaning⟩ := item_lines layout (depth + 3) items
    obtain ⟨gap, plain, data⟩ := inside.element (depth + 2) "data" (by decide)
    obtain ⟨_, -, array⟩ := data.element (depth + 1) "array" (by decide)
    rw [Value.lines, Value.shown]
    refine value_of_content depth array ?_
    simp [Node.content?, plain, meaning]
  | .struct members => by
    obtain ⟨nodes, inside, meaning⟩ := member_lines layout (depth + 2) members
    obtain ⟨gap, plain, struct⟩ := inside.element (depth + 1) "struct" (by decide)
    rw [Value.lines, Value.shown]
    refine value_of_content depth struct ?_
    simp [Node.content?, plain, meaning]

theorem item_lines (layout : Layout) (depth : Nat) : ∀ items : List Value,
    ∃ nodes, Builds layout (itemLines depth items) nodes ∧
      valuesOf? nodes = some (shownItems items)
  | [] => ⟨[], .none, rfl⟩
  | item :: rest => by
    obtain ⟨node, first, shown⟩ := value_lines layout depth item
    obtain ⟨nodes, others, meaning⟩ := item_lines layout depth rest
    refine ⟨node :: nodes, first.append others, ?_⟩
    rw [valuesOf?, shown, meaning]
    rfl

theorem member_lines (layout : Layout) (depth : Nat) : ∀ members : List (String × Value),
    ∃ nodes, Builds layout (memberLines depth members) nodes ∧
      membersOf? nodes = some (shownMembers members)
  | [] => ⟨[], .none, rfl⟩
  | (name, value) :: rest => by
    obtain ⟨node, built, shown⟩ := value_lines layout (depth + 1) value
    obtain ⟨nodes, others, meaning⟩ := member_lines layout depth rest
    have named : Builds layout [(depth + 1, .leaf "name" (escape name))] _ :=
      .leaf (depth + 1) (by decide) (open_not_mem_escape name)
    obtain ⟨gap, -, first⟩ := (named.append built).element depth "member" (by decide)
    refine ⟨_ :: nodes, first.append others, ?_⟩
    have known : Node.member? (.element "member" gap
        [.element "name" (escape name).toList [], node]) = some (name, value.shown) := by
      rw [Node.member?, textOf?_escape, shown]
    rw [membersOf?]
    simp only [List.singleton_append, known, meaning]
    rfl

end

theorem parameter_lines (layout : Layout) (parameters : List Value) :
    ∃ nodes, Builds layout (parameters.flatMap Call.parameterLines) nodes ∧
      parametersOf? nodes = some (parameters.map Value.shown) := by
  induction parameters with
  | nil => exact ⟨[], .none, rfl⟩
  | cons parameter rest ih =>
    obtain ⟨nodes, others, meaning⟩ := ih
    obtain ⟨node, built, shown⟩ := value_lines layout 3 parameter
    obtain ⟨gap, -, first⟩ := built.element 2 "param" (by decide)
    refine ⟨_ :: nodes, first.append others, ?_⟩
    rw [parametersOf?, shown, meaning]
    rfl

theorem call_lines (layout : Layout) (call : Call) :
    ∃ node lines, call.lines = (0, .declaration) :: lines ∧ Builds layout lines [node] ∧
      callOf? node = some call.shown := by
  obtain ⟨nodes, inside, meaning⟩ := parameter_lines layout call.parameters
  obtain ⟨gap, plain, parameters⟩ := inside.element 1 "params" (by decide)
  have named : Builds layout [(1, .leaf "methodName" (escape call.method))] _ :=
    .leaf 1 (by decide) (open_not_mem_escape call.method)
  obtain ⟨outer, -, whole⟩ := (named.append parameters).element 0 "methodCall" (by decide)
  refine ⟨_, _, rfl, whole, ?_⟩
  simp only [List.singleton_append, callOf?, plain, if_true, textOf?_escape, meaning]
  rfl

theorem decode?_toXml (layout : Layout) (call : Call) :
    decode? (call.toXml layout) = some call.shown := by
  obtain ⟨node, lines, split, builds, meaning⟩ := call_lines layout call
  have pieces := cut?_render layout builds.sound
  have built := builds.built ⟨"", []⟩ []
  rw [List.append_nil] at built
  have root : rootOf? (call.toXml layout).toList = some node := by
    rw [rootOf?, Call.toXml, split, pieces]
    simp [built]
  rw [decode?, root, Option.bind_some, meaning]

/-! Calls that look the same. -/

mutual

theorem lines_congr : ∀ (depth : Nat) (first second : Value), first.shown = second.shown →
    first.lines depth = second.lines depth
  | _, .nil, second, same => by
    cases second <;> simp [Value.shown] at same
    rfl
  | _, .int _, second, same => by
    cases second <;> simp [Value.shown] at same
    rw [same]
  | _, .boolean _, second, same => by
    cases second <;> simp [Value.shown] at same
    rw [same]
  | _, .double _, second, same => by
    cases second <;> simp [Value.shown] at same
    rw [Value.lines, Value.lines, same]
  | _, .string _, second, same => by
    cases second <;> simp [Value.shown] at same
    rw [same]
  | _, .base64 _, second, same => by
    cases second <;> simp [Value.shown] at same
    rw [same]
  | _, .dateTime _, second, same => by
    cases second <;> simp [Value.shown] at same
    rw [Value.lines, Value.lines, same]
  | depth, .array items, second, same => by
    cases second <;> simp [Value.shown] at same
    next others => rw [Value.lines, Value.lines, itemLines_congr (depth + 3) items others same]
  | depth, .struct members, second, same => by
    cases second <;> simp [Value.shown] at same
    next others => rw [Value.lines, Value.lines, memberLines_congr (depth + 2) members others same]

theorem itemLines_congr : ∀ (depth : Nat) (first second : List Value),
    shownItems first = shownItems second → itemLines depth first = itemLines depth second
  | _, [], second, same => by
    cases second <;> simp [shownItems] at same
    rfl
  | depth, item :: rest, second, same => by
    cases second <;> simp [shownItems] at same
    next other others =>
      rw [itemLines, itemLines, lines_congr depth item other same.1,
        itemLines_congr depth rest others same.2]

theorem memberLines_congr : ∀ (depth : Nat) (first second : List (String × Value)),
    shownMembers first = shownMembers second → memberLines depth first = memberLines depth second
  | _, [], second, same => by
    cases second <;> simp [shownMembers] at same
    rfl
  | depth, (name, value) :: rest, second, same => by
    cases second <;> simp [shownMembers] at same
    next member others =>
      obtain ⟨other, otherValue⟩ := member
      obtain ⟨⟨rfl, sameValue⟩, sameRest⟩ := same
      rw [memberLines, memberLines, lines_congr (depth + 1) value otherValue sameValue,
        memberLines_congr depth rest others sameRest]

end

theorem parameterLines_congr {first second : List Value}
    (same : first.map Value.shown = second.map Value.shown) :
    first.flatMap Call.parameterLines = second.flatMap Call.parameterLines := by
  induction first generalizing second with
  | nil =>
    rw [List.map_nil, eq_comm, List.map_eq_nil_iff] at same
    rw [same]
  | cons parameter rest ih =>
    cases second with
    | nil => cases same
    | cons other others =>
      obtain ⟨sameFirst, sameRest⟩ := List.cons.inj same
      rw [List.flatMap_cons, List.flatMap_cons, ih sameRest, Call.parameterLines,
        Call.parameterLines, lines_congr 3 parameter other sameFirst]

theorem toXml_congr {first second : Call} (same : first.shown = second.shown) (layout : Layout) :
    first.toXml layout = second.toXml layout := by
  obtain ⟨sameMethod, sameParameters⟩ := ShownCall.mk.inj same
  rw [Call.toXml, Call.toXml, Call.lines, Call.lines, sameMethod,
    parameterLines_congr sameParameters]

/-- One reader gets every call back from either layout, its doubles and times as they are printed.
So two calls have the same document just when nothing that is printed tells them apart. -/
theorem toXml_loses_nothing :
    (∀ (layout : Layout) (call : Call), decode? (call.toXml layout) = some call.shown) ∧
      ∀ (layout : Layout) (first second : Call),
        first.toXml layout = second.toXml layout ↔ first.shown = second.shown := by
  refine ⟨decode?_toXml, fun layout first second => ?_⟩
  constructor
  · intro same
    have decoded := congrArg decode? same
    rw [decode?_toXml, decode?_toXml] at decoded
    exact Option.some.inj decoded
  · intro same
    exact toXml_congr same layout

end ServerProbe.Xml
