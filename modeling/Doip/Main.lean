import Doip.CommandLine.Run

/-! The program: arguments and files go in, text and an exit code come out. It opens no sockets of its own, so
that every attempt to reach the network ends as on a host without a route. -/

namespace Doip.CommandLine

/-- A bench without an entity, on a network that carries nothing. -/
def isolated (manager : Manager) : Bench :=
  { network := .unreachable, manager, entity := { script := { address := 0 } }, tcp := none, udp := none }

def content (path : String) : IO (Except String Bytes) := do
  try return .ok (← IO.FS.readBinFile path).toList
  catch e => return .error (toString e)

end Doip.CommandLine

def main (arguments : List String) : IO UInt32 := do
  let path := (Doip.CommandLine.readUsage arguments).toOption.bind (·.config)
  let content ← path.elim (pure (.error "")) Doip.CommandLine.content
  let (outcome, _) := Doip.CommandLine.run (fun _ => content) Doip.CommandLine.isolated arguments
  (← IO.getStdout).putStr outcome.stdout
  (← IO.getStderr).putStr outcome.stderr
  return UInt32.ofNat outcome.exit
