import Mathlib.Logic.ExistsUnique
import ServerProbe.Network
import ServerProbe.Proofs.Bytes.Hex

/-! Which certificate a fingerprint pins, in all of its spellings.

A fingerprint goes through two filters: the check counts its digits, and the
comparison takes the lower case of every character there is. They agree on what
a fingerprint is, since no character beyond ASCII has a digit for its lower case.
-/

set_option autoImplicit false

namespace ServerProbe

open Text

namespace Text

theorem lowercase_of_ascii {c : Char} (ascii : c.toNat < 128) : lowercase c = [c.toLower] :=
  if_pos ascii

theorem isHexDigit_toLower (c : Char) : isHexDigit c.toLower = isHexDigit c := by
  rw [isHexDigit, digitValue?_toLower, isHexDigit]

theorem ascii_of_isHexDigit {c : Char} (isDigit : isHexDigit c = true) : c.toNat < 128 := by
  obtain ⟨value, known⟩ := Option.isSome_iff_exists.mp isDigit
  exact ascii_of_digitValue? known

theorem not_isHexDigit_of_lt {c : Char} (beyond : 102 < c.toNat) : isHexDigit c = false := by
  cases isDigit : isHexDigit c with
  | false => rfl
  | true =>
    obtain ⟨value, known⟩ := Option.isSome_iff_exists.mp isDigit
    have range := range_of_digitValue? (Nat.le_refl 16) known
    omega

theorem not_isHexDigit_ofNat {code : Nat} (beyond : 102 < code) :
    isHexDigit (Char.ofNat code) = false := by
  by_cases valid : code.isValidChar
  · have kept : (Char.ofNat code).toNat = code := by
      rw [Char.ofNat, dif_pos valid]
      rfl
    exact not_isHexDigit_of_lt (by omega)
  · have nul : Char.ofNat code = '\x00' := dif_neg valid
    rw [nul]
    decide

/-- A row of the table that covers more than ASCII starts with a lower case after `f`. -/
theorem lt_of_mem_lowercaseRows {first last step : Nat} {distance : Int}
    (member : (first, last, step, distance) ∈ lowercaseRows) :
    last < 128 ∨ 102 < (first : Int) + distance := by
  have table : ∀ row ∈ lowercaseRows, row.2.1 < 128 ∨ 102 < (row.1 : Int) + row.2.2.2 := by
    decide +kernel
  exact table _ member

theorem not_isHexDigit_simpleLowercase {c : Char} (high : 128 ≤ c.toNat) :
    isHexDigit (simpleLowercase c) = false := by
  unfold simpleLowercase
  dsimp only
  split
  · next first last step distance found =>
    have covered := List.find?_some found
    simp only [Bool.and_eq_true, decide_eq_true_eq] at covered
    have row := lt_of_mem_lowercaseRows (List.mem_of_find?_eq_some found)
    exact not_isHexDigit_ofNat (by omega)
  · exact not_isHexDigit_of_lt (by omega)

theorem exists_not_isHexDigit_lowercase {c : Char} (high : 128 ≤ c.toNat) :
    ∃ lower ∈ lowercase c, isHexDigit lower = false := by
  unfold lowercase
  rw [if_neg (by omega)]
  split
  · exact ⟨'i', List.mem_cons_self, by decide⟩
  · exact ⟨_, List.mem_cons_self, not_isHexDigit_simpleLowercase high⟩

theorem flatMap_lowercase_of_ascii {text : List Char} (ascii : ∀ c ∈ text, c.toNat < 128) :
    text.flatMap lowercase = text.map Char.toLower := by
  induction text with
  | nil => rfl
  | cons c rest ih =>
    obtain ⟨first, later⟩ := List.forall_mem_cons.mp ascii
    rw [List.flatMap_cons, lowercase_of_ascii first, ih later, List.map_cons, List.singleton_append]

/-- For digits the lower case in ASCII is as good as the lower case in all of Unicode. -/
theorem flatMap_lowercase_eq_iff {text digits : List Char}
    (areDigits : ∀ digit ∈ digits, isHexDigit digit = true) :
    text.flatMap lowercase = digits ↔ text.map Char.toLower = digits := by
  constructor
  · rintro rfl
    refine (flatMap_lowercase_of_ascii fun c member => ?_).symm
    refine Classical.byContradiction fun high => ?_
    obtain ⟨lower, isLower, notDigit⟩ := exists_not_isHexDigit_lowercase (Nat.le_of_not_lt high)
    have isDigit := areDigits lower (List.mem_flatMap.mpr ⟨c, member, isLower⟩)
    rw [notDigit] at isDigit
    cases isDigit
  · rintro rfl
    refine flatMap_lowercase_of_ascii fun c member => ascii_of_isHexDigit ?_
    rw [← isHexDigit_toLower]
    exact areDigits _ (List.mem_map_of_mem member)

end Text

/-- A text spells digits when it has them in order, letters in either case and colons anywhere. -/
inductive Spells : List Char → List Char → Prop where
  | nil : Spells [] []
  | colon {digits text : List Char} : Spells digits text → Spells digits (':' :: text)
  | digit {digit c : Char} {digits text : List Char} :
      c.toLower = digit.toLower → Spells digits text → Spells (digit :: digits) (c :: text)

def AreLowerDigits (digits : List Char) : Prop :=
  ∀ digit ∈ digits, isHexDigit digit = true ∧ digit.toLower = digit

theorem ne_colon_of_isHexDigit {c : Char} (isDigit : isHexDigit c = true) : c ≠ ':' := by
  rintro rfl
  exact absurd isDigit (by decide)

theorem spells_iff {digits text : List Char} (lower : AreLowerDigits digits) :
    Spells digits text ↔ (text.filter (· != ':')).map Char.toLower = digits := by
  constructor
  · intro spells
    induction spells with
    | nil => rfl
    | colon _ ih => simpa using ih lower
    | @digit digit c digits text same _ ih =>
      obtain ⟨⟨isDigit, kept⟩, others⟩ := List.forall_mem_cons.mp lower
      rw [kept] at same
      have notColon : c ≠ ':' := ne_colon_of_isHexDigit (by rwa [← isHexDigit_toLower, same])
      rw [List.filter_cons_of_pos (by simpa using notColon), List.map_cons, same, ih others]
  · intro same
    induction text generalizing digits with
    | nil =>
      obtain rfl : [] = digits := same
      exact .nil
    | cons c rest ih =>
      by_cases isColon : c = ':'
      · subst isColon
        exact .colon (ih lower (by simpa using same))
      · rw [List.filter_cons_of_pos (by simpa using isColon), List.map_cons] at same
        subst same
        obtain ⟨⟨-, kept⟩, others⟩ := List.forall_mem_cons.mp lower
        exact .digit kept.symm (ih others rfl)

theorem ascii_of_spells {digits text : List Char} (lower : AreLowerDigits digits)
    (spells : Spells digits text) : ∀ c ∈ text, c.toNat < 128 := by
  induction spells with
  | nil => exact nofun
  | colon _ ih => exact List.forall_mem_cons.mpr ⟨by decide, ih lower⟩
  | @digit digit c digits text same _ ih =>
    obtain ⟨⟨isDigit, kept⟩, others⟩ := List.forall_mem_cons.mp lower
    rw [kept] at same
    have ascii : c.toNat < 128 := ascii_of_isHexDigit (by rwa [← isHexDigit_toLower, same])
    exact List.forall_mem_cons.mpr ⟨ascii, ih others⟩

theorem areLowerDigits_hexPairs (bytes : List UInt8) :
    AreLowerDigits (bytes.flatMap Bytes.hexPair) := by
  have table : ∀ value < 16, isHexDigit (hexDigit value) = true ∧
      (hexDigit value).toLower = hexDigit value := by decide
  intro digit member
  obtain ⟨byte, -, inPair⟩ := List.mem_flatMap.mp member
  have small : byte.toNat < 256 := byte.toNat_lt
  simp only [Bytes.hexPair, List.mem_cons, List.not_mem_nil, or_false] at inPair
  rcases inPair with rfl | rfl
  · exact table _ (by omega)
  · exact table _ (by omega)

theorem areLowerDigits_hex (bytes : List UInt8) : AreLowerDigits (Bytes.hex bytes).toList := by
  rw [Bytes.hex, String.toList_ofList]
  exact areLowerDigits_hexPairs bytes

theorem normalizedFingerprint_eq_iff {text : String} {digest : List UInt8} :
    normalizedFingerprint text = Bytes.hex digest ↔
      Spells (Bytes.hex digest).toList text.toList := by
  have lower := areLowerDigits_hex digest
  rw [spells_iff lower, ← flatMap_lowercase_eq_iff fun digit member => (lower digit member).1,
    ← String.ofList_inj, String.ofList_toList, normalizedFingerprint]

theorem length_hexPairs (bytes : List UInt8) :
    (bytes.flatMap Bytes.hexPair).length = 2 * bytes.length := by
  induction bytes with
  | nil => rfl
  | cons byte rest ih =>
    rw [List.flatMap_cons, List.length_append, ih]
    simp [Bytes.hexPair]
    omega

theorem Check.fingerprint_ok_iff {field text : String} :
    Check.fingerprint field text = .ok () ↔
      (text.toList.filter (· != ':')).length = 64 ∧
        ∀ c ∈ text.toList.filter (· != ':'), isHexDigit c = true := by
  rw [← List.all_eq_true]
  unfold Check.fingerprint
  dsimp only
  split
  · next passes => exact iff_of_true rfl passes
  · next fails => exact iff_of_false nofun fails

theorem Check.fingerprint_ok_iff_spells {field text : String} :
    Check.fingerprint field text = .ok () ↔
      ∃ digest : List UInt8, digest.length = 32 ∧
        Spells (Bytes.hex digest).toList text.toList := by
  rw [Check.fingerprint_ok_iff]
  constructor
  · rintro ⟨length, areDigits⟩
    obtain ⟨digest, size, written⟩ := Bytes.exists_hexPairs 32 length areDigits
    refine ⟨digest, size, (spells_iff (areLowerDigits_hex digest)).mpr ?_⟩
    rw [← written, Bytes.hex, String.toList_ofList]
  · rintro ⟨digest, size, spells⟩
    have lower := areLowerDigits_hex digest
    rw [spells_iff lower] at spells
    constructor
    · rw [← List.length_map (f := Char.toLower), spells, Bytes.hex, String.toList_ofList,
        length_hexPairs, size]
    · intro c member
      rw [← isHexDigit_toLower]
      exact (lower _ (spells ▸ List.mem_map_of_mem member)).1

/-- Of all certificates a fingerprint pins those with this digest, and a server without one is
refused. -/
structure Pins (text : String) (digest : List UInt8) : Prop where
  size : digest.length = 32
  normalized : normalizedFingerprint text = Bytes.hex digest
  certificate : ∀ certificate verifiedHost target,
    Identity.pin ⟨some (fingerprintOf certificate), verifiedHost⟩ target text =
      if Bytes.Sha256.digest certificate = digest then .ok ()
      else .error (.fingerprintMismatch (Bytes.hex digest) (fingerprintOf certificate))
  noCertificate : ∀ verifiedHost target,
    Identity.pin ⟨none, verifiedHost⟩ target text =
      .error (.handshake target.text "server sent no certificate")

theorem Bytes.hex_inj {bytes others : List UInt8} :
    Bytes.hex bytes = Bytes.hex others ↔ bytes = others := by
  rw [Bytes.hex, Bytes.hex, String.ofList_inj]
  exact ⟨Bytes.hexPairs_injective, fun same => same ▸ rfl⟩

theorem pins_of_normalized {text : String} {digest : List UInt8} (size : digest.length = 32)
    (normalized : normalizedFingerprint text = Bytes.hex digest) : Pins text digest where
  size := size
  normalized := normalized
  certificate certificate verifiedHost target := by
    simp only [Identity.pin, normalized, fingerprintOf, Bytes.hex_inj]
  noCertificate verifiedHost target := rfl

/-- A text is accepted and has the hexadecimal digits of a digest for its normal form just when it
spells them. Every text that is accepted pins one digest, and no text with a character beyond ASCII
is accepted or has the digits of a digest for its normal form. -/
theorem fingerprint_spellings (field text : String) :
    (∀ digest : List UInt8, digest.length = 32 →
      (Check.fingerprint field text = .ok () ∧ normalizedFingerprint text = Bytes.hex digest ↔
        Spells (Bytes.hex digest).toList text.toList)) ∧
      (Check.fingerprint field text = .ok () → ∃! digest, Pins text digest) ∧
      ((∃ c ∈ text.toList, 128 ≤ c.toNat) →
        Check.fingerprint field text ≠ .ok () ∧
          ∀ digest, normalizedFingerprint text ≠ Bytes.hex digest) := by
  refine ⟨fun digest size => ?_, fun accepted => ?_, fun ⟨c, member, high⟩ => ?_⟩
  · rw [normalizedFingerprint_eq_iff, Check.fingerprint_ok_iff_spells]
    exact ⟨And.right, fun spells => ⟨⟨digest, size, spells⟩, spells⟩⟩
  · obtain ⟨digest, size, spells⟩ := Check.fingerprint_ok_iff_spells.mp accepted
    have normalized := normalizedFingerprint_eq_iff.mpr spells
    refine ⟨digest, pins_of_normalized size normalized, fun other pins => ?_⟩
    exact Bytes.hex_inj.mp (pins.normalized.symm.trans normalized)
  · have beyond (digest : List UInt8) : ¬Spells (Bytes.hex digest).toList text.toList :=
      fun spells => absurd (ascii_of_spells (areLowerDigits_hex digest) spells c member)
        (Nat.not_lt_of_le high)
    constructor
    · rw [ne_eq, Check.fingerprint_ok_iff_spells]
      rintro ⟨digest, -, spells⟩
      exact beyond digest spells
    · intro digest
      rw [ne_eq, normalizedFingerprint_eq_iff]
      exact beyond digest

def mixedCase : String :=
  String.ofList (List.replicate 32 [':', 'a', 'B']).flatten

/-- A text as long as a fingerprint that starts with a full width digit. -/
def fullWidth : String :=
  String.ofList ('Ａ' :: List.replicate 63 'b')

theorem mixedCase_toList : mixedCase.toList = (List.replicate 32 [':', 'a', 'B']).flatten :=
  String.toList_ofList

theorem fullWidth_toList : fullWidth.toList = 'Ａ' :: List.replicate 63 'b' :=
  String.toList_ofList

theorem mixedCase_pins_fullWidth_refused :
    Spells (Bytes.hex (List.replicate 32 0xab)).toList mixedCase.toList ∧
      (∃! digest, Pins mixedCase digest) ∧
      Check.fingerprint "server_fingerprint" fullWidth ≠ .ok () := by
  have pinned := fingerprint_spellings "server_fingerprint" mixedCase
  have spoiled := fingerprint_spellings "server_fingerprint" fullWidth
  have accepted : Check.fingerprint "server_fingerprint" mixedCase = .ok () := by
    rw [Check.fingerprint_ok_iff, mixedCase_toList]
    exact ⟨rfl, List.all_eq_true.mp rfl⟩
  have normalized : normalizedFingerprint mixedCase = Bytes.hex (List.replicate 32 0xab) := by
    unfold normalizedFingerprint
    rw [mixedCase_toList]
    decide +kernel
  have beyond : ∃ c ∈ fullWidth.toList, 128 ≤ c.toNat := by
    rw [fullWidth_toList]
    exact ⟨'Ａ', List.mem_cons_self, by decide⟩
  exact ⟨(pinned.1 _ List.length_replicate).mp ⟨accepted, normalized⟩, pinned.2.1 accepted,
    (spoiled.2.2 beyond).1⟩

end ServerProbe
