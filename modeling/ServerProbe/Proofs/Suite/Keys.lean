import ServerProbe.Proofs.Settings.Keys
import ServerProbe.Suite.Plan

/-! Which keys a suite may have.

The known keys of a table are never written down: they are those of what was read
from it. They turn out to be the keys that reading it can depend on, for the
suite and for every kind of probe, so that a key is refused just when it could
not have had an effect.
-/

set_option autoImplicit false

namespace ServerProbe

theorem Json.reads_map_iff {A B : Type} {decode : Members → Option A} {f : A → B}
    (injective : Function.Injective f) {key : String} :
    Reads (fun members => (decode members).map f) key ↔ Reads decode key := by
  have same (left right : Members) :
      (decode left).map f ≠ (decode right).map f ↔ decode left ≠ decode right :=
    not_congr (Option.map_injective injective).eq_iff
  simp only [Reads, same]

namespace Suite

namespace Info

def keys : List String :=
  ["name", "description", "stop_on_failure", "execution_order"]

theorem keys_toMembers (info : Info) : info.toMembers.map Prod.fst = keys := rfl

theorem readsOnly_ofMembers? : Json.ReadsOnly ofMembers? keys := by
  intro left right same
  simp only [keys, List.forall_mem_cons] at same
  simp only [ofMembers?, Json.required?, Json.optional?, same]

theorem reads_ofMembers?_iff {key : String} : Json.Reads ofMembers? key ↔ key ∈ keys :=
  Json.reads_iff_mem readsOnly_ofMembers? [("name", .str "")] (by decide) (by decide)

end Info

namespace ProbeSettings

theorem kind_of_ofMembers? {kind : String} {members : Json.Members} {settings : ProbeSettings}
    (read : ofMembers? kind members = some settings) : settings.kind = kind := by
  unfold ofMembers? at read
  split at read
  · next same =>
    obtain ⟨disconnect, -, rfl⟩ := Option.map_eq_some_iff.mp read
    exact same.symm
  · split at read
    · next same =>
      obtain ⟨stall, -, rfl⟩ := Option.map_eq_some_iff.mp read
      exact same.symm
    · split at read
      · next same =>
        obtain ⟨stress, -, rfl⟩ := Option.map_eq_some_iff.mp read
        exact same.symm
      · cases read

theorem reads_ofMembers?_iff (settings : ProbeSettings) {key : String} :
    Json.Reads (ofMembers? settings.kind) key ↔ key ∈ settings.toMembers.map Prod.fst := by
  cases settings with
  | disconnect settings =>
    exact (Json.reads_map_iff fun _ _ => disconnect.inj).trans
      DisconnectSettings.reads_ofMembers?_iff
  | stall settings =>
    exact (Json.reads_map_iff fun _ _ => stall.inj).trans StallSettings.reads_ofMembers?_iff
  | stress settings =>
    exact (Json.reads_map_iff fun _ _ => stress.inj).trans StressSettings.reads_ofMembers?_iff

end ProbeSettings

/-- A table of a document: how it is named in failures, its keys, and which keys are known there. -/
structure Part where
  field : String
  keys : List String
  Known : String → Prop

def Part.AllKnown (part : Part) : Prop :=
  ∀ key ∈ part.keys, part.Known key

def textAt (key : String) (table : Json.Members) : String :=
  ((Json.lookup? key table).bind Json.asText?).getD ""

/-- The keys of a probe: those of every probe, and those that are read for its own kind. -/
def KnownToProbe (kind key : String) : Prop :=
  key ∈ ["name", "enabled", "type"] ∨ Json.Reads (ProbeSettings.ofMembers? kind) key

def suitePart (table : Json.Members) : Part where
  field := "suite"
  keys := table.map Prod.fst
  Known := Json.Reads Info.ofMembers?

def probePart (table : Json.Members) : Part where
  field := "probes." ++ textAt "name" table
  keys := table.map Prod.fst
  Known := KnownToProbe (textAt "type" table)

def tablesOf : Json → List Json.Members
  | .obj table => [table]
  | _ => []

/-- The tables of the probes, in the order of the document. -/
def probeTables (members : Json.Members) : List Json.Members :=
  match Json.lookup? "probes" members with
  | some (.arr items) => items.flatMap tablesOf
  | _ => []

def partsOf (members : Json.Members) : List Part :=
  ((Json.lookup? "suite" members).toList.flatMap tablesOf).map suitePart ++
    (probeTables members).map probePart

/-- What becomes of checking some parts: either all of their keys are known, or the first part with
another key is named, together with such a key. -/
inductive Checked : List Part → Check.Result → Prop where
  | known {parts : List Part} : (∀ part ∈ parts, part.AllKnown) → Checked parts (.ok ())
  | unknown {before after : List Part} {part : Part} {key : String} :
      (∀ earlier ∈ before, earlier.AllKnown) → key ∈ part.keys → ¬part.Known key →
      Checked (before ++ part :: after)
        (.error (.invalidSuite part.field ("Unknown key '" ++ key ++ "'")))

theorem Checked.append {front back : List Part} {first second : Check.Result}
    (inFront : Checked front first) (behind : Checked back second) :
    Checked (front ++ back) (first.bind fun _ => second) := by
  cases inFront with
  | unknown earlier member notKnown =>
    rw [List.append_assoc]
    exact .unknown earlier member notKnown
  | known all =>
    cases behind with
    | known others =>
      refine .known fun part member => ?_
      rcases List.mem_append.mp member with member | member
      · exact all part member
      · exact others part member
    | @unknown before after part key earlier member notKnown =>
      rw [← List.append_assoc]
      refine .unknown (fun part member => ?_) member notKnown
      rcases List.mem_append.mp member with member | member
      · exact all part member
      · exact earlier part member

namespace Plan

theorem eq_nil_of_firstKey {keys : List String} (absent : firstKey keys = none) : keys = [] := by
  cases keys with
  | nil => rfl
  | cons key rest =>
    unfold firstKey at absent
    split at absent
    · split at absent <;> cases absent
    · cases absent

theorem mem_of_firstKey {keys : List String} {key : String} (found : firstKey keys = some key) :
    key ∈ keys := by
  fun_induction firstKey keys with
  | case1 => cases found
  | case2 head rest other later earlier ih =>
    cases found
    exact List.mem_cons_of_mem head (ih later)
  | case3 head rest other later notEarlier ih =>
    cases found
    exact List.mem_cons_self
  | case4 head rest nothing ih =>
    cases found
    exact List.mem_cons_self

theorem checked_checkKeys (part : Part) (written table : Json.Members)
    (isTable : part.keys = table.map Prod.fst)
    (same : ∀ key, part.Known key ↔ key ∈ written.map Prod.fst) :
    Checked [part] (checkKeys part.field written table) := by
  have unknown_iff (key : String) :
      key ∈ (table.map Prod.fst).filter (fun key => !(written.map Prod.fst).contains key) ↔
        key ∈ part.keys ∧ ¬part.Known key := by
    rw [List.mem_filter, ← isTable, same]
    simp
  unfold checkKeys
  dsimp only
  split
  · next key found =>
    obtain ⟨member, notKnown⟩ := (unknown_iff key).mp (mem_of_firstKey found)
    show Checked ([] ++ [part]) _
    exact .unknown (fun _ none => nomatch none) member notKnown
  · next absent =>
    refine .known fun other isPart key member => ?_
    obtain rfl := List.mem_singleton.mp isPart
    refine Classical.byContradiction fun notKnown => ?_
    have listed := (unknown_iff key).mpr ⟨member, notKnown⟩
    rw [eq_nil_of_firstKey absent] at listed
    cases listed

theorem table_of_definition {table : Json.Members} {definition : ProbeDefinition}
    (read : ProbeDefinition.ofMembers? table = some definition) :
    textAt "name" table = definition.name ∧ textAt "type" table = definition.settings.kind := by
  unfold ProbeDefinition.ofMembers? Json.required? at read
  simp only [Option.bind_eq_bind, Option.bind_eq_some_iff] at read
  obtain ⟨name, named, enabled, -, kind, kinded, settings, settingsRead, given⟩ := read
  cases given
  unfold textAt
  rw [Option.bind_eq_some_iff.mpr named, Option.bind_eq_some_iff.mpr kinded]
  exact ⟨rfl, (ProbeSettings.kind_of_ofMembers? settingsRead).symm⟩

theorem knownToProbe_iff (definition : ProbeDefinition) (key : String) :
    KnownToProbe definition.settings.kind key ↔ key ∈ definition.toMembers.map Prod.fst := by
  rw [KnownToProbe, ProbeSettings.reads_ofMembers?_iff]
  simp only [ProbeDefinition.toMembers, List.map_cons, List.mem_cons, List.not_mem_nil, or_false,
    or_assoc]

theorem checked_probe {table : Json.Members} {definition : ProbeDefinition}
    (read : ProbeDefinition.ofMembers? table = some definition) :
    Checked [probePart table]
      (checkKeys ("probes." ++ definition.name) definition.toMembers table) := by
  obtain ⟨name, kind⟩ := table_of_definition read
  rw [← name]
  refine checked_checkKeys (probePart table) definition.toMembers table rfl fun key => ?_
  rw [← knownToProbe_iff, ← kind]
  rfl

theorem checked_checkProbeKeys {items : List Json} {definitions : List ProbeDefinition}
    (read : items.mapM ProbeDefinition.ofJson? = some definitions) :
    Checked ((items.flatMap tablesOf).map probePart) (checkProbeKeys definitions items) := by
  induction items generalizing definitions with
  | nil =>
    cases read
    exact .known fun _ none => nomatch none
  | cons item items ih =>
    rw [List.mapM_cons] at read
    simp only [Option.bind_eq_bind, Option.bind_eq_some_iff] at read
    obtain ⟨definition, itemRead, later, itemsRead, given⟩ := read
    cases given
    cases item with
    | obj table => exact (checked_probe itemRead).append (ih itemsRead)
    | _ => cases itemRead

theorem checkAllKeys_eq (plan : Plan) (members : Json.Members) :
    plan.checkAllKeys members =
      (match Json.lookup? "suite" members with
        | some (.obj table) => checkKeys "suite" plan.info.toMembers table
        | _ => .ok ()).bind fun _ =>
      match Json.lookup? "probes" members with
      | some (.arr tables) => checkProbeKeys plan.probes tables
      | _ => .ok () := by
  unfold checkAllKeys
  cases Json.lookup? "suite" members with
  | none => rfl
  | some suite => cases suite <;> rfl

theorem checked_checkAllKeys {members : Json.Members} {plan : Plan}
    (read : ofMembers? members = some plan) :
    Checked (partsOf members) (plan.checkAllKeys members) := by
  unfold ofMembers? at read
  simp only [Option.bind_eq_bind, Option.bind_eq_some_iff] at read
  obtain ⟨info, ⟨suite, suiteFound, infoRead⟩, probes, probesRead, given⟩ := read
  cases given
  rw [partsOf, checkAllKeys_eq]
  refine Checked.append ?_ ?_
  · rw [suiteFound]
    cases suite with
    | obj table =>
      refine checked_checkKeys (suitePart table) info.toMembers table rfl fun key => ?_
      exact Info.reads_ofMembers?_iff
    | _ => exact .known fun _ none => nomatch none
  · unfold probeTables
    cases probesFound : Json.lookup? "probes" members with
    | none => exact .known fun _ none => nomatch none
    | some value =>
      rw [probesFound] at probesRead
      cases value with
      | arr items => exact checked_checkProbeKeys probesRead
      | _ => cases probesRead

/-- The keys of a suite that was read are refused just when one of them is not known: one that is
not read for the suite, or one of a probe that is neither a key of every probe nor read for its
kind. The first table with such a key is named, and the key. -/
theorem checkAllKeys_exact {members : Json.Members} {plan : Plan}
    (read : ofMembers? members = some plan) :
    (plan.checkAllKeys members = .ok () ↔ ∀ part ∈ partsOf members, part.AllKnown) ∧
      ∀ failure, plan.checkAllKeys members = .error failure →
        ∃ before part after key, partsOf members = before ++ part :: after ∧
          (∀ earlier ∈ before, earlier.AllKnown) ∧ key ∈ part.keys ∧ ¬part.Known key ∧
          failure = .invalidSuite part.field ("Unknown key '" ++ key ++ "'") := by
  generalize parts : partsOf members = all
  generalize result : plan.checkAllKeys members = outcome
  have checked := checked_checkAllKeys read
  rw [parts, result] at checked
  cases checked with
  | known allKnown => exact ⟨⟨fun _ => allKnown, fun _ => rfl⟩, fun _ failed => nomatch failed⟩
  | @unknown before after part key earlier member notKnown =>
    refine ⟨⟨fun passed => (nomatch passed), fun allKnown => ?_⟩, fun failure failed => ?_⟩
    · exact absurd (allKnown part (by simp) key member) notKnown
    · cases failed
      exact ⟨before, part, after, key, rfl, earlier, member, notKnown, rfl⟩

/-- A suite whose probe has a threshold that is no number, and a misspelled key. -/
def misspelled : Json.Members := [
  ("suite", .obj [("name", .str "nightly")]),
  ("probes", .arr [.obj [
    ("name", .str "echo"),
    ("type", .str "stall"),
    ("url", .str "http://localhost/"),
    ("threshold_seconds", .double .nan),
    ("expect_continu", .bool false)]])]

def misspelledPlan : Plan where
  info := ⟨"nightly", none, none, none⟩
  probes := [⟨"echo", none, .stall { url := "http://localhost/", thresholdSeconds := .nan }⟩]

theorem misspelled_named :
    ofMembers? misspelled = some misspelledPlan ∧
      misspelledPlan.checkAllKeys misspelled =
        .error (.invalidSuite "probes.echo" "Unknown key 'expect_continu'") ∧
      ¬∀ part ∈ partsOf misspelled, part.AllKnown := by
  have read : ofMembers? misspelled = some misspelledPlan := by decide
  have refused : misspelledPlan.checkAllKeys misspelled =
      .error (.invalidSuite "probes.echo" "Unknown key 'expect_continu'") := rfl
  refine ⟨read, refused, fun allKnown => ?_⟩
  have passed := (checkAllKeys_exact read).1.mpr allKnown
  rw [refused] at passed
  cases passed

end Plan

end Suite

end ServerProbe
