import ServerProbe.Check
import ServerProbe.Http.Proxy
import ServerProbe.Proofs.Url.Reading

/-! What has passed a check.

A chain of checks passes when each of them does. A web address that passes names
a host, so a proxy that passes can be read as it stands.
-/

set_option autoImplicit false

namespace ServerProbe.Check

theorem andThen_ok_iff {first : Result} {others : Unit → Result} :
    first >>= others = .ok () ↔ first = .ok () ∧ others () = .ok () := by
  rw [bind_ok_iff]
  exact ⟨fun ⟨(), passed, later⟩ => ⟨passed, later⟩, fun ⟨passed, later⟩ => ⟨(), passed, later⟩⟩

theorem andThen_error_iff {first : Result} {others : Unit → Result} {failure : Failure} :
    first >>= others = .error failure ↔
      first = .error failure ∨ first = .ok () ∧ others () = .error failure := by
  cases first <;> simp [bind, Except.bind]

theorem between_ok_iff {field : String} {value low high : Int} :
    between field value low high = .ok () ↔ low ≤ value ∧ value ≤ high := by
  unfold between
  split
  · next inside => exact iff_of_true rfl inside
  · next isOutside => exact iff_of_false nofun isOutside

theorem betweenNumbers_ok_iff {field : String} {value low high : Binary64} :
    betweenNumbers field value low high = .ok () ↔ low.le value = true ∧ value.le high = true := by
  rw [← Bool.and_eq_true]
  unfold betweenNumbers
  split
  · next inside => exact iff_of_true rfl inside
  · next isOutside => exact iff_of_false nofun isOutside

theorem notBlank_ok_iff {field value : String} :
    notBlank field value = .ok () ↔ Text.isBlankText value = false := by
  cases blank : Text.isBlankText value <;> simp [notBlank, refuse, blank]

theorem notBlank_error_iff {field value : String} {failure : Failure} :
    notBlank field value = .error failure ↔ Text.isBlankText value = true ∧
      failure = .invalidSetting field value "Value cannot be empty or whitespace-only" := by
  cases blank : Text.isBlankText value <;> simp [notBlank, refuse, blank, eq_comm]

theorem url_ok_iff {field value : String} :
    url field value = .ok () ↔ value ≠ "" ∧
      ∃ read, Url.ofText value = .ok read ∧ (read.scheme = "http" ∨ read.scheme = "https") := by
  unfold url
  cases isEmpty : value.isEmpty with
  | true => simp [String.isEmpty_iff.mp isEmpty, refuse]
  | false =>
    have notEmpty : value ≠ "" := by
      rintro rfl
      cases isEmpty
    rw [if_neg Bool.false_ne_true]
    cases Url.ofText value with
    | error problem => simp [refuse]
    | ok read =>
      dsimp only
      split
      · next web => simpa [notEmpty] using web
      · next other => simpa [notEmpty, refuse] using other

theorem proxyOf_of_url {field value : String} (passed : url field value = .ok ()) :
    ∃ read, Http.proxyOf value = .ok read := by
  obtain ⟨-, read, found, web⟩ := url_ok_iff.mp passed
  have wellKnown : Url.SchemeKind.ofScheme read.scheme = .wellKnown := by
    rcases web with http | https
    · rw [http]
      decide
    · rw [https]
      decide
  refine ⟨read, ?_⟩
  simp [Http.proxyOf, found, (Url.proper_of_ofText found).named wellKnown]

end ServerProbe.Check
