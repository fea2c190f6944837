import Mathlib.Data.List.Perm.Basic
import ServerProbe.Json.Reader

/-! Members of an object by their keys.

Where keys are pairwise different, what an object has under a key does not depend
on the order of its members. When members are taken out of an object, readers
that have a default for them fall back on it, and others do not notice.
-/

set_option autoImplicit false

namespace ServerProbe.Json

theorem lookup?_eq_none_iff {key : String} {members : Members} :
    lookup? key members = none ↔ key ∉ members.map Prod.fst := by
  induction members with
  | nil => simp [lookup?]
  | cons member rest ih =>
    obtain ⟨other, value⟩ := member
    by_cases same : other = key
    · simp [lookup?, same]
    · simp [lookup?, same, ih, Ne.symm same]

theorem lookup?_eq_some_iff {key : String} {value : Json} {members : Members}
    (distinct : (members.map Prod.fst).Nodup) :
    lookup? key members = some value ↔ (key, value) ∈ members := by
  induction members with
  | nil => simp [lookup?]
  | cons member rest ih =>
    obtain ⟨other, first⟩ := member
    rw [List.map_cons, List.nodup_cons] at distinct
    obtain ⟨noOther, distinct⟩ := distinct
    by_cases same : other = key
    · subst same
      have later : (other, value) ∉ rest := fun member =>
        noOther (List.mem_map.mpr ⟨_, member, rfl⟩)
      simp [lookup?, later, eq_comm]
    · simp [lookup?, same, ih distinct, Ne.symm same]

theorem lookup?_perm {members others : Members} (distinct : (members.map Prod.fst).Nodup)
    (same : others.Perm members) (key : String) : lookup? key others = lookup? key members := by
  have alsoDistinct : (others.map Prod.fst).Nodup := (same.map Prod.fst).nodup_iff.mpr distinct
  refine Option.ext fun value => ?_
  rw [lookup?_eq_some_iff distinct, lookup?_eq_some_iff alsoDistinct, same.mem_iff]

theorem lookup?_append (key : String) (front back : Members) :
    lookup? key (front ++ back) = (lookup? key front).or (lookup? key back) := by
  induction front with
  | nil => rfl
  | cons member rest ih =>
    obtain ⟨other, value⟩ := member
    rw [List.cons_append, lookup?, lookup?, ih]
    split <;> rfl

theorem asText?_str (text : String) : asText? (.str text) = some text := rfl

theorem asBool?_bool (value : Bool) : asBool? (.bool value) = some value := rfl

theorem asNat?_ofNat {limit value : Nat} (small : value < limit) :
    asNat? limit (.ofNat value) = some value := by
  have inRange : (value : Int) < limit := Int.ofNat_lt.mpr small
  simp [ofNat, asNat?, inRange]

theorem asInt32?_toInt (value : Int32) : asInt32? (.int value.toInt) = some value := by
  have low := value.le_toInt
  have high := value.toInt_lt
  rw [asInt32?, Text.int32?, if_pos ⟨low, high⟩, Int32.ofInt_toInt]

theorem asDouble?_ofDouble {value : Binary64} (finite : value.isFinite = true) :
    asDouble? (.ofDouble value) = some value := by
  rw [ofDouble, if_pos finite, asDouble?]

theorem asChar?_singleton (c : Char) : asChar? (.str (String.ofList [c])) = some c := by
  rw [asChar?, String.toList_ofList]

section
variable {A : Type} {decode : Json → Option A} {key : String} {object : Members}
  {picked : Option A}

/-- What the object has under the key is read as this value, and it has nothing there if there is
no value. -/
def Finds (decode : Json → Option A) (key : String) (object : Members) (picked : Option A) :
    Prop :=
  (lookup? key object).map decode = picked.map some

namespace Finds

theorem withDefault? (finds : Finds decode key object picked) (default : A) :
    Json.withDefault? decode default key object = some (picked.getD default) := by
  unfold Finds at finds
  unfold Json.withDefault?
  cases found : lookup? key object <;> cases picked <;> simp_all

theorem required? (finds : Finds decode key object picked) :
    Json.required? decode key object = picked := by
  unfold Finds at finds
  unfold Json.required?
  cases found : lookup? key object <;> cases picked <;> simp_all

theorem optional? (finds : Finds decode key object picked) (strict : decode .null = none) :
    Json.optional? decode key object = some picked := by
  unfold Finds at finds
  unfold Json.optional?
  cases found : lookup? key object with
  | none => cases picked <;> simp_all
  | some json => cases json <;> cases picked <;> simp_all

end Finds

end

section
variable {A : Type} {gone : String → Bool} {written object : Members}

def unlessGone (gone : String → Bool) (key : String) (default value : A) : A :=
  if gone key then default else value

/-- The object has these members, but for those whose keys are gone. -/
def Keeps (gone : String → Bool) (written object : Members) : Prop :=
  ∀ member ∈ written, lookup? member.1 object = unlessGone gone member.1 none (some member.2)

theorem keeps_of_perm (distinct : (written.map Prod.fst).Nodup)
    (same : object.Perm (written.filter fun member => !gone member.1)) :
    Keeps gone written object := by
  have stillDistinct : ((written.filter fun member => !gone member.1).map Prod.fst).Nodup :=
    distinct.sublist (List.filter_sublist.map Prod.fst)
  rintro ⟨key, value⟩ member
  rw [lookup?_perm stillDistinct same]
  unfold unlessGone
  dsimp only
  split
  · next isGone =>
    rw [lookup?_eq_none_iff, List.mem_map]
    rintro ⟨other, kept, rfl⟩
    simp [isGone] at kept
  · next notGone =>
    rw [lookup?_eq_some_iff stillDistinct, List.mem_filter]
    exact ⟨member, by simpa using notGone⟩

theorem Keeps.subset {part : Members} (keeps : Keeps gone written object)
    (inside : part ⊆ written) : Keeps gone part object :=
  fun member inPart => keeps member (inside inPart)

variable {decode : Json → Option A} {key : String} {json : Json} {value default : A}

theorem finds_unlessGone (found : lookup? key object = unlessGone gone key none (some json))
    (read : decode json = some value) :
    Finds decode key object (unlessGone gone key none (some value)) := by
  unfold Finds
  rw [found]
  unfold unlessGone
  cases gone key with
  | true => rfl
  | false => exact congrArg some read

theorem withDefault?_unlessGone (found : lookup? key object = unlessGone gone key none (some json))
    (read : decode json = some value) :
    withDefault? decode default key object = some (unlessGone gone key default value) := by
  rw [(finds_unlessGone found read).withDefault?]
  unfold unlessGone
  cases gone key <;> rfl

theorem required?_unlessGone (found : lookup? key object = unlessGone gone key none (some json))
    (read : decode json = some value) :
    required? decode key object = unlessGone gone key none (some value) :=
  (finds_unlessGone found read).required?

/-- An option that is not set is written as well, but reading it is the same as not finding it. -/
theorem optional?_unlessGone {encode : A → Json} {option : Option A}
    (found : lookup? key object = unlessGone gone key none (some (ofOption encode option)))
    (strict : decode .null = none) (read : ∀ value, option = some value →
      decode (encode value) = some value) :
    optional? decode key object = some (unlessGone gone key none option) := by
  rw [optional?, found]
  unfold unlessGone
  cases gone key with
  | true => rfl
  | false =>
    cases option with
    | none => rfl
    | some value =>
      have known := read value rfl
      have notNull : encode value ≠ .null := by
        intro isNull
        rw [isNull, strict] at known
        cases known
      simp only [ofOption, Bool.false_eq_true, if_false, known, Option.map_some]

end

end ServerProbe.Json
