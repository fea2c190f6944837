import ServerProbe.Settings.Stress

/-! The keys of settings.

A key belongs to some settings when reading them can depend on it. For every
kind of settings these are the keys of their written form, which has all of
them, whatever the values are and whether options are set or not.
-/

set_option autoImplicit false

namespace ServerProbe

namespace Json

variable {A : Type} {decode : Members → Option A} {keys : List String}

/-- A decoder reads a key when it can tell apart two objects that agree on all other keys. -/
def Reads (decode : Members → Option A) (key : String) : Prop :=
  ∃ left right : Members,
    (∀ other, other ≠ key → lookup? other left = lookup? other right) ∧ decode left ≠ decode right

/-- Objects that agree on these keys are the same to a decoder. -/
def ReadsOnly (decode : Members → Option A) (keys : List String) : Prop :=
  ∀ left right : Members,
    (∀ key ∈ keys, lookup? key left = lookup? key right) → decode left = decode right

theorem ReadsOnly.mem (only : ReadsOnly decode keys) {key : String} (reads : Reads decode key) :
    key ∈ keys := by
  obtain ⟨left, right, same, differ⟩ := reads
  refine Decidable.byContradiction fun absent => ?_
  refine differ (only left right fun other member => same other ?_)
  rintro rfl
  exact absent member

theorem reads_of_refused {object : Members} {key : String} {value : Json}
    (accepted : (decode object).isSome = true)
    (refused : (decode ((key, value) :: object)).isSome = false) : Reads decode key := by
  refine ⟨(key, value) :: object, object, fun other differs => ?_, fun same => ?_⟩
  · rw [lookup?, if_neg differs.symm]
  · rw [same, accepted] at refused
    cases refused

/-- These are the keys that a decoder reads, as no other key matters and none of them may have an
object as its value. -/
theorem reads_iff_mem (only : ReadsOnly decode keys) (object : Members)
    (accepted : (decode object).isSome = true)
    (refused : ∀ key ∈ keys, (decode ((key, .obj []) :: object)).isSome = false) {key : String} :
    Reads decode key ↔ key ∈ keys :=
  ⟨only.mem, fun member => reads_of_refused accepted (refused key member)⟩

end Json

namespace DisconnectSettings

def keys : List String :=
  ["host", "port", "tls", "verify", "server_fingerprint", "requested_size", "declared_length",
    "send_bytes", "timeout_seconds", "user_agent"]

theorem keys_toMembers (settings : DisconnectSettings) :
    settings.toMembers.map Prod.fst = keys := rfl

theorem readsOnly_ofMembers? : Json.ReadsOnly ofMembers? keys := by
  intro left right same
  simp only [keys, List.forall_mem_cons] at same
  simp only [ofMembers?, Json.withDefault?, Json.optional?, same]

theorem reads_ofMembers?_iff {key : String} : Json.Reads ofMembers? key ↔ key ∈ keys :=
  Json.reads_iff_mem readsOnly_ofMembers? [] (by decide) (by decide)

end DisconnectSettings

namespace StallSettings

def keys : List String :=
  ["url", "payload_len", "fill", "threshold_seconds", "expect_continue", "verify",
    "timeout_seconds", "proxy"]

theorem keys_toMembers (settings : StallSettings) : settings.toMembers.map Prod.fst = keys := rfl

theorem readsOnly_ofMembers? : Json.ReadsOnly ofMembers? keys := by
  intro left right same
  simp only [keys, List.forall_mem_cons] at same
  simp only [ofMembers?, Json.required?, Json.withDefault?, Json.optional?, same]

theorem reads_ofMembers?_iff {key : String} : Json.Reads ofMembers? key ↔ key ∈ keys :=
  Json.reads_iff_mem readsOnly_ofMembers? [("url", .str "")] (by decide) (by decide)

end StallSettings

namespace StressSettings

def keys : List String :=
  StallSettings.keys ++ ["clients", "calls_per_client"]

theorem keys_toMembers (settings : StressSettings) : settings.toMembers.map Prod.fst = keys := rfl

theorem readsOnly_ofMembers? : Json.ReadsOnly ofMembers? keys := by
  intro left right same
  rw [keys, List.forall_mem_append] at same
  obtain ⟨stall, own⟩ := same
  simp only [List.forall_mem_cons] at own
  simp only [ofMembers?, Json.withDefault?, StallSettings.readsOnly_ofMembers? left right stall,
    own]

theorem reads_ofMembers?_iff {key : String} : Json.Reads ofMembers? key ↔ key ∈ keys :=
  Json.reads_iff_mem readsOnly_ofMembers? [("url", .str "")] (by decide) (by decide)

end StressSettings

end ServerProbe
