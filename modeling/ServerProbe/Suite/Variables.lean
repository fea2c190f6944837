/-! References to variables in the text of a suite.

A reference is `$`, a name in braces that is not empty, and nothing else; the
name ends at the first closing brace and may hold anything before it. All
references are replaced in one pass from left to right, and what replaces them
is not looked at again.
-/

set_option autoImplicit false

namespace ServerProbe.Suite

abbrev Environment := String → Option String

def Environment.ofList (bindings : List (String × String)) : Environment := fun name =>
  if name.toList.any fun c => c = '=' ∨ c = '\x00' then none
  else (bindings.find? fun known => known.1 == name).map (·.2)

def reference (name : List Char) : List Char :=
  '$' :: '\x7b' :: (name ++ ['\x7d'])

/-- The value of a name, or the reference itself when there is no such variable. -/
def replacement (environment : Environment) (name : List Char) : List Char :=
  match environment (String.ofList name) with
  | some value => value.toList
  | none => reference name

/-- Cuts a name off a text that starts behind an opening brace. -/
def cutName? (text : List Char) : Option (List Char × List Char) :=
  let name := text.takeWhile (· != '\x7d')
  match text.drop name.length with
  | _ :: rest => if name.isEmpty then none else some (name, rest)
  | [] => none

theorem cutName?_length {text name rest : List Char} (cut : cutName? text = some (name, rest)) :
    rest.length < text.length := by
  unfold cutName? at cut
  dsimp only at cut
  split at cut
  · next after dropped =>
    split at cut
    · simp at cut
    · simp only [Option.some.injEq, Prod.mk.injEq] at cut
      have length := congrArg List.length dropped
      simp only [List.length_drop, List.length_cons] at length
      have same := congrArg List.length cut.2
      omega
  · simp at cut

def substitute (environment : Environment) : List Char → List Char
  | [] => []
  | c :: rest =>
    match c, rest with
    | '$', '\x7b' :: after =>
      match _ : cutName? after with
      | some (name, later) => replacement environment name ++ substitute environment later
      | none => '$' :: substitute environment ('\x7b' :: after)
    | c, rest => c :: substitute environment rest
termination_by text => text.length
decreasing_by
  all_goals simp only [List.length_cons]
  · have := cutName?_length (by assumption); omega
  · omega
  · omega

def references : List Char → List String
  | [] => []
  | c :: rest =>
    match c, rest with
    | '$', '\x7b' :: after =>
      match _ : cutName? after with
      | some (name, later) => String.ofList name :: references later
      | none => references ('\x7b' :: after)
    | _, rest => references rest
termination_by text => text.length
decreasing_by
  all_goals simp only [List.length_cons]
  · have := cutName?_length (by assumption); omega
  · omega
  · omega

end ServerProbe.Suite
