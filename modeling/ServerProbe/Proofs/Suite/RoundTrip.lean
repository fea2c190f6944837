import ServerProbe.Proofs.Settings.Keys
import ServerProbe.Proofs.Settings.RoundTrip
import ServerProbe.Suite.Plan

/-! Probe definitions read back from their written form.

A definition is written as one flat object, where its own members and those of
its settings share one space of keys. No two of them clash, so each is found
again, and members that are missing make no difference to the others.
-/

set_option autoImplicit false

namespace ServerProbe.Suite

open Json

variable {gone : String → Bool} {object : Members}

namespace ProbeSettings

def Writable : ProbeSettings → Prop
  | .disconnect settings => settings.Writable
  | .stall settings => settings.Writable
  | .stress settings => settings.Writable

def reset (gone : String → Bool) : ProbeSettings → ProbeSettings
  | .disconnect settings => .disconnect (settings.reset gone)
  | .stall settings => .stall (settings.reset gone)
  | .stress settings => .stress (settings.reset gone)

def neededKeys : ProbeSettings → List String
  | .disconnect _ => []
  | .stall _ => ["url"]
  | .stress _ => ["url"]

theorem ofMembers?_of_keeps {settings : ProbeSettings} (writable : settings.Writable)
    (keeps : Keeps gone settings.toMembers object) :
    ofMembers? settings.kind object =
      if settings.neededKeys.any gone then none else some (settings.reset gone) := by
  cases settings with
  | disconnect settings =>
    have read := DisconnectSettings.ofMembers?_of_keeps writable keeps
    exact congrArg (Option.map disconnect) read
  | stall settings =>
    have read := StallSettings.ofMembers?_of_keeps writable keeps
    have same : ofMembers? "stall" object = (StallSettings.ofMembers? object).map stall := rfl
    rw [kind, same, read]
    cases isGone : gone "url" <;> simp [unlessGone, neededKeys, reset, isGone]
  | stress settings =>
    have read := StressSettings.ofMembers?_of_keeps writable keeps
    have same : ofMembers? "stress" object = (StressSettings.ofMembers? object).map stress := rfl
    rw [kind, same, read]
    cases isGone : gone "url" <;> simp [unlessGone, neededKeys, reset, isGone]

end ProbeSettings

namespace ProbeDefinition

def reset (gone : String → Bool) (definition : ProbeDefinition) : ProbeDefinition where
  name := definition.name
  enabled := unlessGone gone "enabled" none definition.enabled
  settings := definition.settings.reset gone

def neededKeys (definition : ProbeDefinition) : List String :=
  "name" :: "type" :: definition.settings.neededKeys

theorem nodup_keys (definition : ProbeDefinition) :
    (definition.toMembers.map Prod.fst).Nodup := by
  obtain ⟨name, enabled, settings⟩ := definition
  cases settings with
  | disconnect settings =>
    show ("name" :: "enabled" :: "type" :: DisconnectSettings.keys).Nodup
    decide
  | stall settings =>
    show ("name" :: "enabled" :: "type" :: StallSettings.keys).Nodup
    decide
  | stress settings =>
    show ("name" :: "enabled" :: "type" :: StressSettings.keys).Nodup
    decide

theorem reset_nothing (definition : ProbeDefinition) :
    definition.reset (fun _ => false) = definition := by
  obtain ⟨name, enabled, settings⟩ := definition
  cases settings <;> rfl

theorem ofMembers?_of_keeps {definition : ProbeDefinition} (writable : definition.settings.Writable)
    (keeps : Keeps gone definition.toMembers object) :
    ofMembers? object =
      if definition.neededKeys.any gone then none else some (definition.reset gone) := by
  have inside : definition.settings.toMembers ⊆ definition.toMembers := fun member known =>
    List.mem_cons_of_mem _ (List.mem_cons_of_mem _ (List.mem_cons_of_mem _ known))
  have settings := ProbeSettings.ofMembers?_of_keeps writable (keeps.subset inside)
  simp only [Keeps, toMembers, List.forall_mem_cons] at keeps
  obtain ⟨name, enabled, kind, -⟩ := keeps
  unfold ofMembers?
  rw [required?_unlessGone name (asText?_str _), required?_unlessGone kind (asText?_str _),
    optional?_unlessGone enabled rfl fun value _ => asBool?_bool value]
  cases noName : gone "name" with
  | true => simp [unlessGone, neededKeys, noName]
  | false =>
    cases noKind : gone "type" with
    | true => simp [unlessGone, neededKeys, noName, noKind]
    | false =>
      simp only [unlessGone, noName, noKind, neededKeys, List.any_cons, Bool.false_or,
        Bool.false_eq_true, if_false, Option.bind_eq_bind, Option.bind_some, settings]
      cases definition.settings.neededKeys.any gone <;> rfl

/-- A definition is read back from the object that it is written as, in which no key stands for two
things. When members are deleted from the object, the definition that is read has the defaults for
just these and is otherwise the same, whatever the order of the members; the object is refused only
if a key is deleted that has no default. -/
theorem written_survives (definition : ProbeDefinition) (writable : definition.settings.Writable) :
    (definition.toMembers.map Prod.fst).Nodup ∧
      ofJson? (.obj definition.toMembers) = some definition ∧
      ∀ gone object, object.Perm (definition.toMembers.filter fun member => !gone member.1) →
        ofJson? (.obj object) =
          if definition.neededKeys.any gone then none else some (definition.reset gone) := by
  have deleted (gone : String → Bool) (object : Members)
      (rest : object.Perm (definition.toMembers.filter fun member => !gone member.1)) :
      ofJson? (.obj object) =
        if definition.neededKeys.any gone then none else some (definition.reset gone) :=
    ofMembers?_of_keeps writable (keeps_of_perm definition.nodup_keys rest)
  refine ⟨definition.nodup_keys, ?_, deleted⟩
  have whole := deleted (fun _ => false) definition.toMembers (by simp)
  rwa [List.any_eq_false.mpr (by simp), reset_nothing] at whole

def burst : ProbeDefinition where
  name := "burst"
  enabled := some false
  settings := .stress {
    stall := {
      url := "http://localhost/"
      payloadLength := 12
      fill := '<'
      thresholdSeconds := ⟨0x8000000000000000⟩
      expectContinue := false
      timeoutSeconds := some 5
      proxy := some "http://localhost:8080" }
    clients := 8
    callsPerClient := 3 }

def isLimit (key : String) : Bool :=
  ["enabled", "timeout_seconds", "proxy", "clients"].contains key

theorem burst_survives :
    burst.settings.Writable ∧ ofJson? (.obj burst.toMembers) = some burst ∧
      ofJson? (.obj (burst.toMembers.filter fun member => !isLimit member.1).reverse) =
        some {
          name := "burst"
          enabled := none
          settings := .stress {
            stall := {
              url := "http://localhost/"
              payloadLength := 12
              fill := '<'
              thresholdSeconds := ⟨0x8000000000000000⟩
              expectContinue := false }
            callsPerClient := 3 } } := by
  have writable : burst.settings.Writable :=
    ⟨⟨by decide, by decide, by rintro value ⟨⟩; decide⟩, by decide, by decide⟩
  obtain ⟨-, whole, without⟩ := written_survives burst writable
  refine ⟨writable, whole, ?_⟩
  rw [without isLimit _ (List.reverse_perm _)]
  decide

end ProbeDefinition

end ServerProbe.Suite
