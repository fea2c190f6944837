import ServerProbe.Http.Request
import ServerProbe.Proofs.Http.ReadBack

/-! Requests that are built step by step.

Whatever the steps, no field appears twice and none is the content length. A
field stands where its name appeared first, in the spelling it had there, and has
the value that it was given last. The length that is announced is the one of the
last step that decided about it.
-/

set_option autoImplicit false

namespace ServerProbe

namespace Text

theorem sameIgnoringCase_iff {left right : String} :
    sameIgnoringCase left right = true ↔
      left.toList.map Char.toLower = right.toList.map Char.toLower := beq_iff_eq

theorem sameIgnoringCase_comm (left right : String) :
    sameIgnoringCase left right = sameIgnoringCase right left := by
  rw [Bool.eq_iff_iff, sameIgnoringCase_iff, sameIgnoringCase_iff, eq_comm]

theorem sameIgnoringCase_congr {left right : String} (same : sameIgnoringCase left right = true)
    (other : String) : sameIgnoringCase left other = sameIgnoringCase right other := by
  rw [Bool.eq_iff_iff, sameIgnoringCase_iff, sameIgnoringCase_iff, sameIgnoringCase_iff.mp same]

end Text

namespace Http

open Text (sameIgnoringCase sameIgnoringCase_comm sameIgnoringCase_congr)

/-- The names of a list without those that appeared before in any letter case. -/
def firstSpellings : List String → List String
  | [] => []
  | name :: later =>
    name :: (firstSpellings later).filter fun other => !sameIgnoringCase name other

theorem firstSpellings_append_singleton (names : List String) (name : String) :
    firstSpellings (names ++ [name]) =
      if names.any (sameIgnoringCase · name) then firstSpellings names
      else firstSpellings names ++ [name] := by
  induction names with
  | nil => rfl
  | cons first later ih =>
    rw [List.cons_append, firstSpellings, ih, List.any_cons]
    by_cases known : later.any (sameIgnoringCase · name) = true
    · simp [known, firstSpellings]
    · by_cases same : sameIgnoringCase first name = true
      · simp [known, same, firstSpellings]
      · simp [known, same, firstSpellings]

theorem subset_of_firstSpellings {names : List String} {name : String}
    (member : name ∈ firstSpellings names) : name ∈ names := by
  induction names with
  | nil => exact member
  | cons first later ih =>
    rcases List.mem_cons.mp member with rfl | inLater
    · exact List.mem_cons_self
    · exact List.mem_cons_of_mem _ (ih (List.mem_filter.mp inLater).1)

theorem pairwise_firstSpellings (names : List String) :
    (firstSpellings names).Pairwise fun left right => sameIgnoringCase left right = false := by
  induction names with
  | nil => exact .nil
  | cons first later ih =>
    refine .cons ?_ (ih.filter _)
    intro other member
    simpa using (List.mem_filter.mp member).2

theorem firstSpellings_prefix (names more : List String) :
    firstSpellings names <+: firstSpellings (names ++ more) := by
  induction more using List.reverseRecOn with
  | nil => simp
  | append_singleton more name ih =>
    rw [← List.append_assoc, firstSpellings_append_singleton]
    split
    · exact ih
    · exact ih.trans (List.prefix_append _ _)

theorem any_firstSpellings (names : List String) (name : String) :
    (firstSpellings names).any (sameIgnoringCase · name) =
      names.any (sameIgnoringCase · name) := by
  induction names with
  | nil => rfl
  | cons first later ih =>
    rw [firstSpellings, List.any_cons, List.any_cons, ← ih, List.any_filter]
    cases same : sameIgnoringCase first name with
    | true => rfl
    | false =>
      -- What is the same as the name is not the same as the first name.
      have kept : (fun other => !sameIgnoringCase first other && sameIgnoringCase other name) =
          (sameIgnoringCase · name) := by
        funext other
        cases again : sameIgnoringCase other name with
        | false => simp
        | true =>
          rw [sameIgnoringCase_comm first other, sameIgnoringCase_congr again first,
            sameIgnoringCase_comm name first, same]
          rfl
      rw [kept]

theorem isFirst_cons {name value known old : String} {rest : List Field} :
    IsFirst name value ((known, old) :: rest) ↔
      if sameIgnoringCase known name = true then value = old else IsFirst name value rest := by
  have whole : Head.field? name ⟨0, (known, old) :: rest⟩ = some value ↔
      IsFirst name value ((known, old) :: rest) := field?_eq_some_iff
  have later : Head.field? name ⟨0, rest⟩ = some value ↔ IsFirst name value rest :=
    field?_eq_some_iff
  rw [← whole, ← later]
  cases same : sameIgnoringCase known name with
  | true => simp [Head.field?, same, eq_comm]
  | false => simp [Head.field?, same]

theorem isFirst_iff_mem {fields : List Field}
    (distinct : fields.Pairwise fun left right => sameIgnoringCase left.1 right.1 = false)
    {name value : String} :
    IsFirst name value fields ↔
      ∃ spelled, (spelled, value) ∈ fields ∧ sameIgnoringCase spelled name = true := by
  constructor
  · rintro ⟨spelled, before, after, rfl, same, -⟩
    exact ⟨spelled, by simp, same⟩
  · rintro ⟨spelled, member, same⟩
    obtain ⟨before, after, rfl⟩ := List.append_of_mem member
    refine ⟨spelled, before, after, rfl, same, ?_⟩
    intro field inFront
    have different := (List.pairwise_append.mp distinct).2.2 field inFront _ List.mem_cons_self
    rwa [sameIgnoringCase_comm, sameIgnoringCase_congr same, sameIgnoringCase_comm] at different

theorem isFirst_reverse {fields : List Field}
    (distinct : fields.Pairwise fun left right => sameIgnoringCase left.1 right.1 = false)
    {name value : String} : IsFirst name value fields.reverse ↔ IsFirst name value fields := by
  have backwards : fields.reverse.Pairwise fun left right =>
      sameIgnoringCase left.1 right.1 = false := by
    rw [List.pairwise_reverse]
    exact distinct.imp fun different => by rwa [sameIgnoringCase_comm]
  rw [isFirst_iff_mem backwards, isFirst_iff_mem distinct]
  simp

namespace Request

theorem isFirst_setField (name value other found : String) (fields : List Field) :
    IsFirst other found (setField name value fields) ↔
      IsFirst other found ((name, value) :: fields) := by
  induction fields with
  | nil => rfl
  | cons field rest ih =>
    obtain ⟨known, old⟩ := field
    unfold setField
    by_cases same : sameIgnoringCase known name = true
    · rw [if_pos same, isFirst_cons, isFirst_cons, isFirst_cons,
        sameIgnoringCase_congr same other]
      split <;> rfl
    · rw [if_neg same, isFirst_cons, ih, isFirst_cons, isFirst_cons, isFirst_cons]
      by_cases asked : sameIgnoringCase name other = true
      · -- Then the field in front has another name.
        have different : sameIgnoringCase known other = false := by
          rw [sameIgnoringCase_comm, ← sameIgnoringCase_congr asked, sameIgnoringCase_comm]
          simpa using same
        simp [asked, different]
      · simp [asked]

theorem names_setField (name value : String) (fields : List Field) :
    (setField name value fields).map Prod.fst =
      if (fields.map Prod.fst).any (sameIgnoringCase · name) then fields.map Prod.fst
      else fields.map Prod.fst ++ [name] := by
  induction fields with
  | nil => rfl
  | cons field rest ih =>
    obtain ⟨known, old⟩ := field
    unfold setField
    by_cases same : sameIgnoringCase known name = true
    · simp [same]
    · rw [if_neg same, List.map_cons, ih, List.map_cons, List.any_cons, eq_false_of_ne_true same,
        Bool.false_or]
      split <;> rfl

inductive Step where
  | path (target : String)
  | field (name value : String)
  | declaredLength (declared : Option Nat)

namespace Step

def apply (request : Request) : Step → Request
  | .path target => request.withPath target
  | .field name value => request.withField name value
  | .declaredLength declared => request.withDeclaredLength declared

def path? : Step → Option String
  | .path target => some target
  | _ => none

/-- The field that a step sets. A content length is none. -/
def field? : Step → Option Field
  | .field name value => if sameIgnoringCase name "content-length" then none else some (name, value)
  | _ => none

/-- What a step decides about the length to announce: a number, or the length of the body. A
content length that is no number decides nothing. -/
def length? : Step → Option (Option Nat)
  | .declaredLength declared => some declared
  | .field name value =>
    if sameIgnoringCase name "content-length" then
      (Text.unsigned? 10 Text.wordLimit (Text.trim value.toList)).map some
    else none
  | .path _ => none

/-- What the last of the steps says that says anything. -/
def last? {A : Type} (read : Step → Option A) (steps : List Step) : Option A :=
  (steps.filterMap read).getLast?

theorem last?_append_singleton {A : Type} (read : Step → Option A) (steps : List Step)
    (step : Step) : last? read (steps ++ [step]) = (read step).or (last? read steps) := by
  unfold last?
  rw [List.filterMap_append]
  cases known : read step with
  | none => simp [known]
  | some value => simp [known]

end Step

variable (host : String) (port : Nat) (body : List UInt8) (steps : List Step)

def startFields : List Field := [
  ("User-Agent", userAgent),
  ("Host", host ++ ":" ++ toString port),
  ("Accept", "*/*"),
  ("Content-type", xmlContentType)]

def startNames : List String := ["User-Agent", "Host", "Accept", "Content-type"]

theorem startFields_names : (startFields host port).map Prod.fst = startNames := rfl

theorem firstSpellings_startNames : firstSpellings startNames = startNames := by decide

def fieldsSet : List Field :=
  startFields host port ++ steps.filterMap Step.field?

def build : Request :=
  steps.foldl Step.apply (post host port body)

theorem build_append_singleton (step : Step) :
    build host port body (steps ++ [step]) = step.apply (build host port body steps) := by
  simp [build]

theorem apply_eq (request : Request) (step : Step) :
    step.apply request = {
      path := step.path?.getD request.path
      fields := match step.field? with
        | some (name, value) => setField name value request.fields
        | none => request.fields
      body := request.body
      declared := step.length?.getD request.declared } := by
  cases step with
  | path target => rfl
  | declaredLength declared => rfl
  | field name value =>
    simp only [Step.apply, withField, Step.path?, Step.field?, Step.length?]
    split
    · cases Text.unsigned? 10 Text.wordLimit (Text.trim value.toList) <;> rfl
    · rfl

/-! What a run of steps makes of each part. -/

/-- A part that every step either replaces or keeps is as the last step left it that replaced it. -/
theorem view_build {A : Type} {view : Request → A} {read : Step → Option A}
    (each : ∀ request step, view (step.apply request) = (read step).getD (view request)) :
    view (build host port body steps) =
      (Step.last? read steps).getD (view (post host port body)) := by
  induction steps using List.reverseRecOn with
  | nil => rfl
  | append_singleton steps step ih =>
    rw [build_append_singleton, each, ih, Step.last?_append_singleton]
    cases read step <;> rfl

theorem body_build : (build host port body steps).body = body := by
  induction steps using List.reverseRecOn with
  | nil => rfl
  | append_singleton steps step ih =>
    rw [build_append_singleton, apply_eq]
    exact ih

theorem startFields_distinct :
    (startFields host port).Pairwise fun left right =>
      sameIgnoringCase left.1 right.1 = false := by
  have names := pairwise_firstSpellings startNames
  rw [firstSpellings_startNames, ← startFields_names host port] at names
  exact List.pairwise_map.mp names

theorem fieldsSet_append_singleton (step : Step) :
    fieldsSet host port (steps ++ [step]) = fieldsSet host port steps ++ step.field?.toList := by
  unfold fieldsSet
  rw [List.filterMap_append, List.append_assoc]
  cases known : step.field? <;> simp [known]

theorem names_build :
    (build host port body steps).fields.map Prod.fst =
      firstSpellings ((fieldsSet host port steps).map Prod.fst) := by
  induction steps using List.reverseRecOn with
  | nil =>
    rw [fieldsSet, List.filterMap_nil, List.append_nil, startFields_names,
      firstSpellings_startNames]
    rfl
  | append_singleton steps step ih =>
    rw [build_append_singleton, apply_eq, fieldsSet_append_singleton]
    cases step.field? with
    | none => simpa using ih
    | some field =>
      dsimp only
      rw [names_setField, ih, any_firstSpellings, Option.toList_some, List.map_append,
        List.map_singleton, firstSpellings_append_singleton]

theorem values_build (name value : String) :
    IsFirst name value (build host port body steps).fields ↔
      IsFirst name value (fieldsSet host port steps).reverse := by
  induction steps using List.reverseRecOn with
  | nil =>
    rw [fieldsSet, List.filterMap_nil, List.append_nil, isFirst_reverse (startFields_distinct ..)]
    rfl
  | append_singleton steps step ih =>
    rw [build_append_singleton, apply_eq, fieldsSet_append_singleton]
    cases step.field? with
    | none => simpa using ih
    | some field =>
      dsimp only
      rw [isFirst_setField, Option.toList_some, List.reverse_append, List.reverse_singleton,
        List.singleton_append, isFirst_cons, isFirst_cons, ih]

theorem no_length_set {field : Field} (member : field ∈ fieldsSet host port steps) :
    sameIgnoringCase field.1 "content-length" = false := by
  rcases List.mem_append.mp member with start | set
  · have names : ∀ name ∈ startNames, sameIgnoringCase name "content-length" = false := by decide
    exact names field.1 (List.mem_map_of_mem start)
  · obtain ⟨step, -, known⟩ := List.mem_filterMap.mp set
    unfold Step.field? at known
    split at known
    · split at known
      · cases known
      · next ordinary =>
        cases known
        simpa using ordinary
    · cases known

theorem no_length_build :
    ∀ field ∈ (build host port body steps).fields,
      sameIgnoringCase field.1 "content-length" = false := by
  intro field member
  have named : field.1 ∈ firstSpellings ((fieldsSet host port steps).map Prod.fst) := by
    rw [← names_build host port body steps]
    exact List.mem_map_of_mem member
  obtain ⟨set, known, same⟩ := List.mem_map.mp (subset_of_firstSpellings named)
  rw [← same]
  exact no_length_set host port steps known

def lines (path : String) (fields : List Field) (length : Nat) : List String :=
  ("POST " ++ path ++ " HTTP/1.1") :: fields.map (fun field => field.1 ++ ": " ++ field.2) ++
    ["Content-Length: " ++ toString length]

theorem head_eq_lines (request : Request) :
    request.head =
      String.join ((lines request.path request.fields request.declaredLength).map (· ++ "\r\n")) ++
        "\r\n" := by
  have fieldLines : request.fields.map fieldLine =
      (request.fields.map fun field => field.1 ++ ": " ++ field.2).map (· ++ "\r\n") := by
    rw [List.map_map]
    rfl
  rw [head, fieldLines]
  simp [lines, String.append_assoc]

/-- What a request has from the steps that built it. -/
structure BuiltFrom (request : Request) : Prop where
  distinct : request.fields.Pairwise fun left right => sameIgnoringCase left.1 right.1 = false
  no_length : ∀ field ∈ request.fields, sameIgnoringCase field.1 "content-length" = false
  /-- Each name stands where it was set first, spelled as it was there. -/
  names : request.fields.map Prod.fst =
    firstSpellings ((fieldsSet host port steps).map Prod.fst)
  start : startNames <+: request.fields.map Prod.fst
  /-- Looked up in any letter case, a field has the value that was set last. -/
  values : ∀ name value, IsFirst name value request.fields ↔
    IsFirst name value (fieldsSet host port steps).reverse
  length : request.declaredLength =
    ((Step.last? Step.length? steps).getD none).getD body.length
  body : request.body = body
  head : request.headBytes = Text.utf8 (String.join
    ((lines ((Step.last? Step.path? steps).getD "/") request.fields request.declaredLength).map
      (· ++ "\r\n")) ++ "\r\n")

/-- Every request is as its steps say. -/
theorem build_follows : BuiltFrom host port body steps (build host port body steps) where
  distinct := by
    have distinct := pairwise_firstSpellings ((fieldsSet host port steps).map Prod.fst)
    rw [← names_build host port body steps] at distinct
    exact List.pairwise_map.mp distinct
  no_length := no_length_build host port body steps
  names := names_build host port body steps
  start := by
    have first := firstSpellings_prefix ((startFields host port).map Prod.fst)
      ((steps.filterMap Step.field?).map Prod.fst)
    rwa [← List.map_append, ← fieldsSet, ← names_build host port body steps, startFields_names,
      firstSpellings_startNames] at first
  values := values_build host port body steps
  length := by
    have declared : (build host port body steps).declared =
        (Step.last? Step.length? steps).getD none :=
      view_build host port body steps fun request step =>
        congrArg Request.declared (apply_eq request step)
    rw [declaredLength, declared, bodyLength, body_build]
  body := body_build host port body steps
  head := by
    have path : (build host port body steps).path = (Step.last? Step.path? steps).getD "/" :=
      view_build host port body steps fun request step =>
        congrArg Request.path (apply_eq request step)
    rw [headBytes, head_eq_lines, path]

end Request

end Http
end ServerProbe
