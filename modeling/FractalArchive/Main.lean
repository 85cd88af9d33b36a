import FractalArchive.Server.Run

/-!
# The program

The outer layer: it reads the environment file, the variables of the settings and the requests, and
writes what a run of the server leaves.  Every line of the standard input is a request, its method,
target, content type and body separated by tabs; the end of the input ends the server.
-/

namespace FractalArchive.Program

/-- The variables of the settings that the process has. -/
def readEnvironment : IO Environment := do
  let mut found : Environment := []
  for s in Setting.all do
    if let some value ← IO.getEnv s.variableName then
      found := found ++ [(s.variableName, value)]
  return found

/-- A disk with the working directory and the environment file in it. -/
def readDisk : IO Disk := do
  let here ← IO.currentDir
  let path := Path.parts here.toString
  let file := here / Server.environmentFile
  let disk := (Disk.mk path []).makeDirectory here.toString |>.toOption.getD ⟨path, []⟩
  let place := path ++ [Server.environmentFile]
  if ← file.isDir then return disk.put place .directory
  else if ← file.pathExists then
    return disk.put place (.file (.octets (← IO.FS.readBinFile file).toList))
  else return disk

/-- The request of a line. -/
def requestOf? (line : String) : Option Http.Request :=
  let part (i : Nat) := octetsOf (((line.toList.splitOn '\t').map String.ofList).getD i "")
  Http.Request.read (part 0) (part 1) [(octetsOf "content-type", part 2)] (part 3)

/-- The requests of all lines of the standard input. -/
partial def readRequests (input : IO.FS.Stream) : IO (List Http.Request) := do
  let line ← input.getLine
  if line.isEmpty then return []
  let rest ← readRequests input
  return (requestOf? (String.ofList (line.toList.filter (· ≠ '\n')))).toList ++ rest

/-- An answer as it is written to the standard output. -/
def answerText (a : Http.Answer) : String :=
  let headers := (Server.sent a).headers.map fun (name, value) => s!"{name}: {value}\n"
  s!"{a.status}\n" ++ String.join headers ++ "\n" ++ a.body ++ "\n"

end FractalArchive.Program

open FractalArchive in
/-- Runs the server; the requests are read once it listens. -/
def main (arguments : List String) : IO UInt32 := do
  let seed := UInt32.ofNat (← IO.rand 0 0xFFFFFFFF)
  let surroundings : Server.Surroundings :=
    ⟨Refusal.programName :: arguments, ← Program.readEnvironment, ← Program.readDisk, [],
      .terminate, Generator.cycle [seed]⟩
  let started := Server.run surroundings
  let ended ←
    if started.answers.isNone then pure started
    else do
      let requests ← Program.readRequests (← IO.getStdin)
      pure (Server.run { surroundings with requests })
  IO.print ended.output
  for a in ended.answers.getD [] do
    IO.print (Program.answerText a)
  for e in ended.log.taken ended.events do
    IO.eprint (Logging.line s!"{← IO.monoMsNow}" 0 e)
  IO.eprint ended.errors
  return UInt32.ofNat ended.exitCode
