import ServerProbe.Proofs.Xml.Document

/-! Rendered tokens, cut at their tags.

The layout of a document shows only in what stands before its tags. Text keeps
its place between the two tags of its element.
-/

set_option autoImplicit false

namespace ServerProbe.Xml

theorem cut?_tag {inside : List Char} (closed : '>' ∉ inside) (before passed rest : List Char) :
    cut? (.tag before passed) (inside ++ '>' :: rest) =
      (cut? (.text []) rest).map fun pieces => ⟨before, passed.reverse ++ inside⟩ :: pieces := by
  induction inside generalizing passed with
  | nil => simp [cut?]
  | cons c inside ih =>
    obtain ⟨other, later⟩ := List.ne_and_not_mem_of_not_mem_cons closed
    rw [List.cons_append, cut?, if_neg other.symm, ih later, List.reverse_cons, List.append_assoc]
    rfl

theorem cut?_text {before : List Char} (noTag : '<' ∉ before) (passed rest : List Char) :
    cut? (.text passed) (before ++ '<' :: rest) =
      cut? (.tag (passed.reverse ++ before) []) rest := by
  induction before generalizing passed with
  | nil => simp [cut?]
  | cons c before ih =>
    obtain ⟨other, later⟩ := List.ne_and_not_mem_of_not_mem_cons noTag
    rw [List.cons_append, cut?, if_neg other.symm, ih later, List.reverse_cons, List.append_assoc]
    rfl

def Piece.text (piece : Piece) : List Char :=
  piece.before ++ '<' :: (piece.inside ++ ['>'])

def Piece.IsSound (piece : Piece) : Prop := '<' ∉ piece.before ∧ '>' ∉ piece.inside

theorem cut?_piece {piece : Piece} (sound : piece.IsSound) (rest : List Char) :
    cut? (.text []) (piece.text ++ rest) = (cut? (.text []) rest).map (piece :: ·) := by
  have regroup : piece.text ++ rest = piece.before ++ '<' :: (piece.inside ++ '>' :: rest) := by
    simp [Piece.text]
  rw [regroup, cut?_text sound.1, cut?_tag sound.2]
  rfl

/-- A text that is put together from pieces is cut into them again. -/
theorem cut?_pieces {pieces : List Piece} (sound : ∀ piece ∈ pieces, piece.IsSound) :
    cut? (.text []) (pieces.flatMap Piece.text) = some pieces := by
  induction pieces with
  | nil => rfl
  | cons piece others ih =>
    have later := ih fun other member => sound other (List.mem_cons_of_mem piece member)
    rw [List.flatMap_cons, cut?_piece (sound piece List.mem_cons_self), later]
    rfl

def IsTag (tag : String) : Prop := '>' ∉ tag.toList ∧ '/' ∉ tag.toList

instance (tag : String) : Decidable (IsTag tag) :=
  inferInstanceAs (Decidable (_ ∧ _))

def Token.IsSound : Token → Prop
  | .declaration => True
  | .opening tag => IsTag tag
  | .closing tag => IsTag tag
  | .leaf tag text => IsTag tag ∧ '<' ∉ text.toList
  | .empty tag => IsTag tag

def Token.pieces (gap : List Char) : Token → List Piece
  | .declaration => [⟨gap, declared⟩]
  | .opening tag => [⟨gap, tag.toList⟩]
  | .closing tag => [⟨gap, '/' :: tag.toList⟩]
  | .leaf tag text => [⟨gap, tag.toList⟩, ⟨text.toList, '/' :: tag.toList⟩]
  | .empty tag => [⟨gap, tag.toList ++ ['/']⟩]

/-- What a layout puts before a line that is not the first. -/
def Line.gap (line : Line) : Layout → List Char
  | .compact => []
  | .indented => '\n' :: List.replicate (2 * line.1) ' '

def Line.pieces (layout : Layout) (line : Line) : List Piece :=
  line.2.pieces (line.gap layout)

theorem isLayout_gap (layout : Layout) (line : Line) : IsLayout (line.gap layout) := by
  intro c member
  cases layout with
  | compact => cases member
  | indented =>
    rcases List.mem_cons.mp member with rfl | member
    · exact Or.inl rfl
    · exact Or.inr (List.eq_of_mem_replicate member)

theorem isLayout_nil : IsLayout [] := fun _ member => nomatch member

theorem IsLayout.open_not_mem {text : List Char} (layout : IsLayout text) : '<' ∉ text := by
  intro member
  have known := layout '<' member
  simp at known

theorem Token.text_pieces (gap : List Char) (token : Token) :
    (token.pieces gap).flatMap Piece.text = gap ++ token.text.toList := by
  cases token with
  | declaration =>
    have spelled : Token.declaration.text.toList = '<' :: (declared ++ ['>']) := by decide
    rw [spelled, pieces, List.flatMap_cons, List.flatMap_nil, List.append_nil, Piece.text]
  | opening tag => simp [pieces, Piece.text, text]
  | closing tag => simp [pieces, Piece.text, text]
  | leaf tag text => simp [pieces, Piece.text, Token.text]
  | empty tag => simp [pieces, Piece.text, text]

theorem Token.sound_pieces {gap : List Char} (layout : IsLayout gap) {token : Token}
    (sound : token.IsSound) : ∀ piece ∈ token.pieces gap, piece.IsSound := by
  have noTag := layout.open_not_mem
  cases token with
  | declaration =>
    intro piece member
    have closed : '>' ∉ declared := by decide
    rw [List.mem_singleton.mp member]
    exact ⟨noTag, closed⟩
  | opening tag =>
    intro piece member
    rw [List.mem_singleton.mp member]
    exact ⟨noTag, sound.1⟩
  | closing tag =>
    intro piece member
    rw [List.mem_singleton.mp member]
    exact ⟨noTag, by simp [sound.1]⟩
  | leaf tag text =>
    intro piece member
    rcases List.mem_cons.mp member with rfl | member
    · exact ⟨noTag, sound.1.1⟩
    · rw [List.mem_singleton.mp member]
      exact ⟨sound.2, by simp [sound.1.1]⟩
  | empty tag =>
    intro piece member
    rw [List.mem_singleton.mp member]
    exact ⟨noTag, by simp [sound.1]⟩

theorem toList_intercalate (first : String) (lines : List Line) :
    (String.intercalate "\n" (first :: lines.map Line.indentedText)).toList =
      first.toList ++ lines.flatMap fun line => line.gap .indented ++ line.2.text.toList := by
  induction lines generalizing first with
  | nil => simp
  | cons line lines ih =>
    -- A line break belongs to the line that it starts.
    have joined := ih line.indentedText
    rw [String.toList_intercalate] at joined ⊢
    simp only [List.map_cons] at joined ⊢
    rw [List.intercalate_cons_cons, joined]
    simp [Line.indentedText, Line.gap]

theorem toList_render (layout : Layout) (token : Token) (lines : List Line) :
    (render layout ((0, token) :: lines)).toList =
      token.text.toList ++ lines.flatMap fun line => line.gap layout ++ line.2.text.toList := by
  cases layout with
  | compact =>
    rw [render, String.toList_join, List.map_cons, List.flatMap_cons, List.flatMap_map]
    rfl
  | indented =>
    have noIndent : Line.indentedText (0, token) = token.text := by
      simp [Line.indentedText]
    rw [render, List.map_cons, noIndent]
    exact toList_intercalate token.text lines

theorem cut?_render (layout : Layout) {lines : List Line}
    (sound : ∀ line ∈ lines, line.2.IsSound) :
    cut? (.text []) (render layout ((0, .declaration) :: lines)).toList =
      some (⟨[], declared⟩ :: lines.flatMap (Line.pieces layout)) := by
  have spelled : (render layout ((0, .declaration) :: lines)).toList =
      (Token.declaration.pieces [] ++ lines.flatMap (Line.pieces layout)).flatMap Piece.text := by
    rw [toList_render, List.flatMap_append, Token.text_pieces, List.nil_append,
      List.flatMap_assoc]
    simp only [Line.pieces, Token.text_pieces]
  have first : Token.declaration.IsSound := trivial
  rw [spelled]
  apply cut?_pieces
  intro piece member
  rcases List.mem_append.mp member with inFirst | later
  · exact Token.sound_pieces isLayout_nil first piece inFirst
  · obtain ⟨line, known, inLine⟩ := List.mem_flatMap.mp later
    exact Token.sound_pieces (isLayout_gap layout line) (sound line known) piece inLine

end ServerProbe.Xml
