import Storefront.EnvFile
import Storefront.Startup

/-! The command. It starts the service that the environment names, with an environment file if
there is one, and logs the start. Connections are the business of whoever embeds the library:
here every address is out of reach, and a service that listens is handed no requests. -/
namespace Storefront.Command

def variableNames : List String :=
  ["SERVICE_NAME", "DATABASE_URL", "DB_MAX_CONNECTIONS", "HOST", "PORT", "RUST_LOG"]

def readNamed : IO Variables := do
  let mut vars : Variables := []
  for name in variableNames do
    match ← IO.getEnv name with
    | some value => vars := vars.set name (bytesOf value)
    | none => pure ()
  return vars

def readVariables : IO Variables := do
  try
    return Variables.ofBlock (← IO.FS.readBinFile "/proc/self/environ").toList
  catch _ => readNamed

/-- The environment file in the current directory or the nearest one above it. -/
def readFile (depth : Nat) : IO Bytes := do
  let mut path := ".env"
  for _ in List.range (depth + 1) do
    try
      return (← IO.FS.readBinFile path).toList
    catch _ => path := "../" ++ path
  return []

def outOfReach : Network := fun _ _ => .error (.io "no route to the database")

def run : IO UInt32 := do
  let depth := (← IO.currentDir).components.length
  let vars := EnvFile.load (← readVariables) (← readFile depth)
  let env := Environment.ofVariables vars
  let (trace, result) := Startup.run env outOfReach
  for entry in Startup.keptEntries env trace do
    IO.println entry.text
  match result with
  | .ok _ => return 0
  | .error fault =>
    (← IO.getStderr).putStr (Startup.report fault.chain)
    return 1

end Storefront.Command

def main : IO UInt32 := Storefront.Command.run
