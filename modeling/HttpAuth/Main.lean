import HttpAuth.Recording
import HttpAuth.Registry

/-!
# The command line

Fetches a manifest over replies that are read from standard input.  The arguments name the image
and the tag; credentials and client settings come from the environment.
-/

namespace HttpAuth
namespace CommandLine

/-- The variables that matter. -/
def variableNames : List String :=
  ["REGISTRY_USERNAME", "REGISTRY_PASSWORD"] ++
    ["PROXY_HOST", "PROXY_PORT", "PROXY_SECURE", "TRUST_ALL", "FOLLOW_REDIRECTS",
      "CONNECT_TIMEOUT", "IDLE_TIMEOUT"].map (String.ofList Environment.defaultStart ++ ·)

/-- Levels of the call stack that are left where a reply is read. -/
def stackLevels : Nat := 900

/-- The variables of the process. -/
def readEnvironment : IO Environment := do
  let found ← variableNames.mapM fun name => do
    return (← IO.getEnv name).map fun value => (name.toList, value.toList)
  return found.reduceOption

/-- The records of a trace that matter at a severity. -/
def logLines (verbose : Bool) (trace : List Event) : List String :=
  trace.filterMap fun event =>
    match event with
    | .log record =>
        if verbose || record.level != .debug then some record.message else none
    | _ => none

/-- Fetch over recorded replies, and print what was logged and the report. -/
def run (arguments : List Text) (environment : Environment) (replies : List Reply)
    (verbose : Bool) : IO UInt32 := do
  match Registry.program stackLevels environment arguments with
  | .error (.invalid invalid) =>
      invalid.issues.forM fun issue => IO.eprintln issue.fault.message
      return 1
  | .error (.literal error) =>
      IO.eprintln error.message
      return 1
  | .ok action =>
      let (network, result) := Run.finish action { client := { pending := replies } }
      (logLines verbose network.trace).forM fun line => IO.eprintln line
      match result with
      | .ok exit =>
          IO.print (String.ofList exit.output)
          return exit.code.toUInt32
      | .error failure =>
          IO.eprintln failure.message
          return 1

end CommandLine
end HttpAuth

/-- Fetch the manifest that the arguments name. -/
def main (arguments : List String) : IO UInt32 := do
  let input ← (← IO.getStdin).readToEnd
  match HttpAuth.Recording.replies? input.toList with
  | none =>
      IO.eprintln "standard input holds no replies"
      return 2
  | some replies =>
      let verbose := (← IO.getEnv "VERBOSE").getD "" != ""
      HttpAuth.CommandLine.run (arguments.map String.toList)
        (← HttpAuth.CommandLine.readEnvironment) replies verbose
