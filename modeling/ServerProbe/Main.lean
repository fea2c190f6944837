import ServerProbe.Session

/-! The command line program.

It has files and an environment, but no sockets: every connection fails because
the network is unreachable. The log goes to standard error, one entry a line.
-/

set_option autoImplicit false

namespace ServerProbe

def readTextFile (name : String) : IO (Except Wire.Fault String) := do
  try
    let bytes ← IO.FS.readBinFile name
    match Text.ofUtf8? bytes.toList with
    | some text => return .ok text
    | none => return .error .notUtf8
  catch error =>
    match error with
    | .noFileOrDirectory .. => return .error .noSuchFile
    | .permissionDenied .. => return .error (.system 13)
    | .inappropriateType .. => return .error .isDirectory
    | _ => return .error (.plain .other)

def readVariables (text : String) : IO (List (String × String)) := do
  let mut bindings := []
  for name in Suite.references text.toList do
    if let some value ← IO.getEnv name then
      bindings := (name, value) :: bindings
  return bindings

-- What a run of a command line can reach. Only the file that it names is read.
def surroundingsOf (arguments : List String) : IO Surroundings := do
  let unreachable : Network := ⟨.epoch, .error .networkUnreachable⟩
  let silent : Surroundings := ⟨fun _ => .error .noSuchFile, .ofList [], unreachable⟩
  match CommandLine.read arguments with
  | .ok invocation =>
    match invocation.command with
    | .suite options =>
      let text ← readTextFile options.config
      return ⟨fun _ => text, .ofList (← readVariables (text.toOption.getD "")), unreachable⟩
    | _ => return silent
  | .error _ => return silent

def wantsJsonLog (arguments : List String) : Bool :=
  match CommandLine.read arguments with
  | .ok invocation => invocation.jsonLogs
  | .error _ => false

def Log.Entry.line (isJson : Bool) (entry : Log.Entry) : String :=
  if isJson then
    Json.compact (.obj [
      ("level", .str entry.level.name),
      ("fields", .obj [("message", .str entry.message)])])
  else entry.level.name ++ " " ++ entry.message

end ServerProbe

open ServerProbe in
def main (arguments : List String) : IO UInt32 := do
  let session := Session.ofArguments (← surroundingsOf arguments) arguments
  let errors ← IO.getStderr
  for entry in session.log do
    errors.putStrLn (entry.line (wantsJsonLog arguments))
  IO.print session.printed.text
  if let some failure := session.failure then
    for line in failure.complaint do
      errors.putStrLn line
  return session.exitStatus.toUInt32
