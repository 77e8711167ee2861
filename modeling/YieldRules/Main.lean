import YieldRules.Preview.Run

/-!
# Command line

`preview [--config FILE] [--snapshot FILE] [--player N] [modifiers|warehouse]`
prints a report on a world. The exit code is 1 when there is no report.
-/

namespace YieldRules.CommandLine

open Preview

/-- What a call asks for. -/
structure Invocation where
  config : Option String
  snapshot : Option String
  player : Option PlayerId
  command : Command

/-- The number of a player. -/
def player? (s : String) : Option PlayerId := do
  let n ← s.toNat?
  if n < UInt8.size then some ⟨UInt8.ofNat n⟩ else none

/-- Read the arguments that follow those read so far. -/
def parse? (args : Invocation) : List String → Option Invocation
  | [] => some args
  | option :: rest =>
    match option, rest with
    | "modifiers", [] => some { args with command := .modifiers }
    | "warehouse", [] => some { args with command := .warehouse }
    | "-c", path :: rest | "--config", path :: rest => parse? { args with config := some path } rest
    | "-s", path :: rest | "--snapshot", path :: rest =>
      parse? { args with snapshot := some path } rest
    | "-p", n :: rest | "--player", n :: rest =>
      match player? n with
      | some p => parse? { args with player := some p } rest
      | none => none
    | _, _ => none

def readText? (path : String) : IO (Option String) := do
  try
    return some (← IO.FS.readFile path)
  catch _ =>
    return none

def loadConfig (path? : Option String) : IO (Except ConfigFault Config) := do
  match path? with
  | none => return .ok .default
  | some path => return Config.load path (← readText? path)

/-- Print the report that the arguments ask for. -/
def printReport (args : Invocation) : IO UInt32 := do
  match ← loadConfig args.config with
  | .error _ =>
    IO.eprintln "the configuration cannot be loaded"
    return 1
  | .ok config =>
    let world := World.load (← readText? (args.snapshot.getD config.snapshot))
    match run config world args.player args.command with
    | .ok text =>
      IO.print text
      return 0
    | .error _ =>
      IO.eprintln "the world cannot be loaded"
      return 1

end YieldRules.CommandLine

def main (args : List String) : IO UInt32 := do
  match YieldRules.CommandLine.parse? ⟨none, none, none, .everything⟩ args with
  | some arguments => YieldRules.CommandLine.printReport arguments
  | none =>
    IO.eprintln "usage: preview [-c FILE] [-s FILE] [-p PLAYER] [modifiers|warehouse]"
    return 2
