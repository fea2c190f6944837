import ServerProbe.Proofs.Text.Numerals
import ServerProbe.Url.Reader

/-! The characters in the parts of an address.

Whatever an address is read from, control characters are encoded or refused, so
none of its parts has a line end. Numbers are written with digits, dots and
colons only, so brackets tell an IPv6 address from everything that is looked up.
-/

set_option autoImplicit false

namespace ServerProbe.Url

/-- Text without line ends and other control characters. -/
def NoControl (text : List Char) : Prop :=
  ∀ c ∈ text, 0x20 ≤ c.toNat

instance (text : List Char) : Decidable (NoControl text) :=
  List.decidableBAll (fun c : Char => 0x20 ≤ c.toNat) text

theorem NoControl.append {front back : List Char} (first : NoControl front)
    (second : NoControl back) : NoControl (front ++ back) :=
  List.forall_mem_append.mpr ⟨first, second⟩

theorem noControl_append {front back : String} (first : NoControl front.toList)
    (second : NoControl back.toList) : NoControl (front ++ back).toList := by
  rw [String.toList_append]
  exact first.append second

theorem NoControl.subset {part text : List Char} (whole : NoControl text) (within : part ⊆ text) :
    NoControl part :=
  fun c member => whole c (within member)

theorem NoControl.newline_not_mem {text : List Char} (clean : NoControl text) : '\n' ∉ text :=
  fun member => absurd (clean '\n' member) (by decide)

theorem NoControl.return_not_mem {text : List Char} (clean : NoControl text) : '\r' ∉ text :=
  fun member => absurd (clean '\r' member) (by decide)

theorem noControl_percentByte (byte : UInt8) : NoControl (percentByte byte) := by
  have digits : ∀ value < 16, 0x20 ≤ (Text.upperHexDigit value).toNat := by decide
  have small := byte.toNat_lt
  have high := digits (byte.toNat / 16) (by omega)
  have low := digits (byte.toNat % 16) (by omega)
  intro c member
  simp only [percentByte, List.mem_cons, List.not_mem_nil, or_false] at member
  rcases member with rfl | rfl | rfl
  · decide
  · exact high
  · exact low

theorem noControl_encode {inSet : Char → Bool} (encodes : ∀ c, isControl c = true → inSet c = true)
    (text : List Char) : NoControl (encode inSet text).toList := by
  rw [encode, String.toList_ofList]
  intro c member
  obtain ⟨source, -, written⟩ := List.mem_flatMap.mp member
  unfold encodeChar at written
  split at written
  · obtain ⟨byte, -, inByte⟩ := List.mem_flatMap.mp written
    exact noControl_percentByte byte c inByte
  · next kept =>
    obtain rfl := List.mem_singleton.mp written
    refine Nat.le_of_not_lt fun small => kept (encodes c ?_)
    rw [isControl, decide_eq_true small, Bool.true_or]

theorem inPathSet_of_isControl (c : Char) (control : isControl c = true) : inPathSet c = true := by
  simp [inPathSet, inFragmentSet, control]

theorem le_of_isAlpha {c : Char} (letter : c.isAlpha = true) : 0x20 ≤ c.toNat := by
  rcases Bool.or_eq_true_iff.mp letter with upper | lower
  · exact Nat.le_trans (by decide) (of_decide_eq_true upper).1
  · exact Nat.le_trans (by decide) (of_decide_eq_true (Bool.and_eq_true_iff.mp lower).1)

theorem noControl_driveLetter {segment : List Char} (drive : isDriveLetter segment = true) :
    NoControl segment := by
  unfold isDriveLetter at drive
  split at drive
  · next letter mark =>
    simp only [Bool.and_eq_true, Bool.or_eq_true, beq_iff_eq] at drive
    obtain ⟨alpha, isMark⟩ := drive
    intro c member
    simp only [List.mem_cons, List.not_mem_nil, or_false] at member
    rcases member with rfl | rfl
    · exact le_of_isAlpha alpha
    · rcases isMark with rfl | rfl <;> decide
  · cases drive

def CleanSegments (segments : Segments) : Prop :=
  ∀ segment ∈ segments, NoControl segment.toList

theorem CleanSegments.cons {segments : Segments} (clean : CleanSegments segments) {segment : String}
    (first : NoControl segment.toList) : CleanSegments (segment :: segments) :=
  List.forall_mem_cons.mpr ⟨first, clean⟩

theorem CleanSegments.removeLast {segments : Segments} (clean : CleanSegments segments)
    (kind : SchemeKind) : CleanSegments (removeLast kind segments) := by
  unfold Url.removeLast
  split
  · exact clean
  · exact fun segment member => clean segment (List.mem_of_mem_drop member)

theorem CleanSegments.pushSegment {segments : Segments} (clean : CleanSegments segments)
    (kind : SchemeKind) (segment : List Char) :
    CleanSegments (pushSegment kind segments segment) := by
  have encoded (text : List Char) : NoControl (encode inPathSet text).toList :=
    noControl_encode inPathSet_of_isControl text
  unfold Url.pushSegment
  split
  · split
    · next drive =>
      refine clean.cons ?_
      rw [String.toList_ofList]
      exact ((noControl_driveLetter drive).subset (List.take_subset 1 segment)).append (by decide)
    · split
      · next drive =>
        refine (clean.cons ?_).cons (encoded _)
        rw [String.toList_ofList]
        exact noControl_driveLetter drive.1
      · exact clean.cons (encoded segment)
  · exact clean.cons (encoded segment)

theorem CleanSegments.addSegments {segments : Segments} (clean : CleanSegments segments)
    (kind : SchemeKind) (parts : List (List Char)) :
    CleanSegments (addSegments kind segments parts) := by
  have empty : NoControl "".toList := by decide
  induction parts generalizing segments with
  | nil => exact clean
  | cons part parts ih =>
    unfold Url.addSegments
    apply ih
    -- A segment of dots removes one or none, and leaves an empty one at the end of the path.
    split
    · split
      · exact (clean.removeLast kind).cons empty
      · exact clean.removeLast kind
    · split
      · split
        · exact clean.cons empty
        · exact clean
      · exact clean.pushSegment kind part

theorem noControl_pathAfterSlash (kind : SchemeKind) (text : List Char) :
    NoControl (pathAfterSlash kind text).toList := by
  have none : CleanSegments [] := nofun
  have clean := none.addSegments kind (cutAtSlashes kind text)
  rw [pathAfterSlash, String.toList_join]
  intro c member
  obtain ⟨written, within, inText⟩ := List.mem_flatMap.mp member
  obtain ⟨segment, inReverse, rfl⟩ := List.mem_map.mp within
  have slashed : NoControl ("/" ++ segment).toList := by
    rw [String.toList_append]
    exact NoControl.append (by decide) (clean segment (List.mem_reverse.mp inReverse))
  exact slashed c inText

theorem noControl_filePath (text : List Char) : NoControl (filePath text).toList := by
  have whole := noControl_pathAfterSlash .file text
  have slash : NoControl ['/'] := by decide
  have spelled : (filePath text).toList =
      ['/'] ++ (pathAfterSlash .file text).toList.dropWhile (· == '/') := by
    simp [filePath]
  rw [spelled]
  exact slash.append (whole.subset (List.dropWhile_sublist _).subset)

theorem noControl_pathAfterAuthority (kind : SchemeKind) (text : List Char) :
    NoControl (pathAfterAuthority kind text).toList := by
  unfold pathAfterAuthority
  split
  · split <;> decide
  · exact noControl_pathAfterSlash kind _

theorem noControl_query {kind : SchemeKind} {tail : List Char} {query : String}
    (read : (readTail kind tail).1 = some query) : NoControl query.toList := by
  unfold readTail at read
  dsimp only at read
  split at read
  · rw [← Option.some.inj read]
    refine noControl_encode (fun c control => ?_) _
    split <;> simp [inQuerySet, inSpecialQuerySet, control]
  · cases read

def IsNumbers (text : List Char) : Prop :=
  ∀ c ∈ text, (∃ base ≤ 16, ∃ digit, Text.digitValue? base c = some digit) ∨ c = '.' ∨ c = ':'

theorem IsNumbers.append {front back : List Char} (first : IsNumbers front)
    (second : IsNumbers back) : IsNumbers (front ++ back) :=
  List.forall_mem_append.mpr ⟨first, second⟩

theorem IsNumbers.noControl {text : List Char} (numbers : IsNumbers text) : NoControl text := by
  intro c member
  rcases numbers c member with ⟨base, fits, digit, known⟩ | rfl | rfl
  · have range := Text.range_of_digitValue? fits known
    omega
  · decide
  · decide

theorem IsNumbers.bracket_not_mem {text : List Char} (numbers : IsNumbers text) : '[' ∉ text := by
  intro member
  rcases numbers '[' member with ⟨base, fits, digit, known⟩ | same | same
  · exact absurd (Text.range_of_digitValue? fits known) (by decide)
  · cases same
  · cases same

theorem isNumbers_toString (value : Nat) : IsNumbers (toString value).toList :=
  fun _ member => Or.inl ⟨10, by decide, Text.isDigit_of_mem_toString member⟩

theorem isNumbers_hexNumeral (value : Nat) : IsNumbers (Text.hexNumeral value).toList := by
  rw [Text.hexNumeral, String.toList_ofList]
  have read := Text.natOfDigitsFrom?_toDigits (by decide : 1 < 16) (by decide) value
  exact fun c member =>
    Or.inl ⟨16, Nat.le_refl 16, Text.isDigit_of_natOfDigitsFrom? read c member⟩

theorem isNumbers_ipv4 (address : Nat) : IsNumbers (Ipv4.text address).toList := by
  have dot : IsNumbers ['.'] := by simp [IsNumbers]
  have part (value : Nat) : IsNumbers (toString value).toList := isNumbers_toString value
  have spelled : (Ipv4.text address).toList =
      (toString (address / 16777216 % 256)).toList ++ ['.'] ++
        (toString (address / 65536 % 256)).toList ++ ['.'] ++
          (toString (address / 256 % 256)).toList ++ ['.'] ++
            (toString (address % 256)).toList := by
    simp [Ipv4.text]
  rw [spelled]
  exact ((((((part _).append dot).append (part _)).append dot).append (part _)).append dot).append
    (part _)

theorem isNumbers_joined (numbers : List Nat) : IsNumbers (Ipv6.joined numbers).toList := by
  have colon : IsNumbers [':'] := by simp [IsNumbers]
  induction numbers with
  | nil => exact nofun
  | cons number numbers ih =>
    cases numbers with
    | nil => simpa [Ipv6.joined] using isNumbers_hexNumeral number
    | cons next others =>
      have spelled : (Ipv6.joined (number :: next :: others)).toList =
          (Text.hexNumeral number).toList ++ [':'] ++ (Ipv6.joined (next :: others)).toList := by
        simp [Ipv6.joined, String.toList_intercalate]
      rw [spelled]
      exact ((isNumbers_hexNumeral number).append colon).append ih

theorem isNumbers_hexText (numbers : List Nat) : IsNumbers (Ipv6.hexText numbers).toList := by
  have gap : IsNumbers "::".toList := by simp [IsNumbers]
  unfold Ipv6.hexText
  dsimp only
  split
  · exact isNumbers_joined numbers
  · rw [String.toList_append, String.toList_append]
    exact ((isNumbers_joined _).append gap).append (isNumbers_joined _)

theorem isNumbers_socketText (numbers : List Nat) :
    IsNumbers (Ipv6.socketText numbers).toList := by
  have front : IsNumbers "::ffff:".toList := by
    intro c member
    have known : c = ':' ∨ c = 'f' ∨ c = ':' := by simpa using member
    rcases known with rfl | rfl | rfl
    · exact Or.inr (Or.inr rfl)
    · exact Or.inl ⟨16, Nat.le_refl 16, 15, by decide⟩
    · exact Or.inr (Or.inr rfl)
  unfold Ipv6.socketText
  split
  · rw [String.toList_append]
    exact front.append (isNumbers_ipv4 _)
  · exact isNumbers_hexText numbers

theorem noControl_ipv6 (numbers : List Nat) : NoControl (Host.ipv6 numbers).text.toList := by
  have opening : NoControl ['['] := by decide
  have closing : NoControl [']'] := by decide
  have spelled : (Host.ipv6 numbers).text.toList =
      ['['] ++ (Ipv6.hexText numbers).toList ++ [']'] := by
    simp [Host.text]
  rw [spelled]
  exact (opening.append (isNumbers_hexText numbers).noControl).append closing

theorem Host.noControl_of_ofBracketed {text : List Char} {host : Host}
    (read : ofBracketed text = .ok host) : NoControl host.text.toList := by
  unfold ofBracketed at read
  split at read
  · split at read
    · cases read
      exact noControl_ipv6 _
    · cases read
  · cases read

theorem DomainName.noControl_of_toAscii? {name : List UInt8} {ascii : List Char}
    (read : toAscii? name = some ascii) : NoControl ascii := by
  simp only [toAscii?, Option.bind_eq_bind, Option.bind_eq_some_iff] at read
  obtain ⟨text, -, mapped, -, labels, -, given⟩ := read
  split at given
  · cases given
  · next allowed =>
    split at given
    · cases given
    · cases given
      rw [List.any_eq_true] at allowed
      intro c member
      refine Nat.le_of_not_lt fun small => allowed ⟨c, member, ?_⟩
      simp [isForbidden, Nat.le_of_lt small]

theorem Host.noControl_of_ofText {text : List Char} {host : Host}
    (read : ofText text = .ok host) : NoControl host.text.toList := by
  unfold ofText at read
  split at read
  · exact noControl_of_ofBracketed read
  · split at read
    · cases read
    · cases read
    · next name _ ascii =>
      split at read
      · split at read
        · cases read
          exact (isNumbers_ipv4 _).noControl
        · cases read
      · cases read
        rw [Host.text, String.toList_ofList]
        exact DomainName.noControl_of_toAscii? ascii

theorem Host.noControl_of_ofOpaqueText {text : List Char} {host : Host}
    (read : ofOpaqueText text = .ok host) : NoControl host.text.toList := by
  unfold ofOpaqueText at read
  split at read
  · exact noControl_of_ofBracketed read
  · split at read
    · cases read
    · cases read
      exact noControl_encode (fun c control => control) text

theorem noControl_of_readHost {kind : SchemeKind} {text : List Char} {host : Host}
    (read : readHost kind text = .ok host) : NoControl host.text.toList := by
  unfold readHost at read
  split at read
  · split at read
    · cases read
    · exact Host.noControl_of_ofText read
  · exact Host.noControl_of_ofOpaqueText read

end ServerProbe.Url
