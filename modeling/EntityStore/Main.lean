import EntityStore.Cli
import EntityStore.Network.Resolver

/-!
# The program

Reads the options and the configuration file, runs the command and prints what came of it.
-/

open EntityStore

/-- The text of a file, or why there is none. -/
def readSource (path : String) : IO (Except String String) :=
  try
    return .ok (← IO.FS.readFile path)
  catch
    | .noFileOrDirectory .. => return .error (path ++ ": No such file or directory (os error 2)")
    | e => return .error (path ++ ": " ++ toString e)

/-- The program. -/
def main (args : List String) : IO UInt32 := do
  let result ← match Cli.Invocation.of? {} args with
    | none => pure Cli.Result.usage
    | some invocation =>
      match invocation.config.or (← IO.getEnv "QUARRY_CONFIG") with
      | none => pure Cli.Result.usage
      | some path => return (← report (Cli.run resolveLiteral (← readSource path) invocation.rest))
  report result
where
  /-- Prints a result. -/
  report (r : Cli.Result) : IO UInt32 := do
    (← IO.getStdout).putStr r.stdout
    (← IO.getStderr).putStr r.stderr
    return UInt32.ofNat r.exitCode
