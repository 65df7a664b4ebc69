import Std.Time.DateTime.Timestamp
import ViewAudit.Command.Run

/-!
The program: it takes the name of a tool and the arguments for it. What a run
may look at is read first, so that the run itself needs no input or output.
-/

namespace ViewAudit

/-- The number of a failure of the system, which may come as its negative. -/
def failureNumber (code : UInt32) : Nat :=
  if code.toNat < 0x80000000 then code.toNat else (0 - code).toNat

/-- The reason for a failed reading. -/
def readErrorOf (error : IO.Error) : ReadError :=
  match error with
  | .noFileOrDirectory _ code details => .ofSystem (failureNumber code) details
  | .inappropriateType _ code details => .ofSystem (failureNumber code) details
  | .invalidArgument _ code details => .ofSystem (failureNumber code) details
  | .permissionDenied _ code details => .ofSystem (failureNumber code) details
  | error => .system error.toString

/-- The contents of a file, or the reason why there are none. -/
def readNow (path : String) : IO (Except ReadError (List UInt8)) := do
  try
    return .ok (← IO.FS.readBinFile path).toList
  catch error =>
    return .error (readErrorOf error)

/-- The names in a directory, as far as a run asks for them, and what could not
be listed. -/
def listNow (path : String) : IO (Option (List FileName) × List String) := do
  let place := (← IO.currentDir) / path
  if path.isEmpty then return (none, [])
  else if ← place.isDir then
    try
      let entries ← place.readDir
      return (some (entries.toList.map fun entry => Utf8.bytes entry.fileName), [])
    catch error =>
      let failure := "IO error for operation on " ++ path ++ ": " ++ (readErrorOf error).message
      return (some [], [failure])
  else if ← place.pathExists then return (some [], [])
  else return (none, [])

/-- Reads all that a run may look at in the file system. -/
def filesNow (tool : Tool) (options : Options) : IO Files := do
  let root := options.guideRoot
  let (listing, failures) ←
    match tool with
    | .accessibilityCheck => pure (none, [])
    | .guidelineAdvisor => listNow root
  let candidates := (candidatesIn (listing.getD [])).map (joinPath root)
  let contents ← (options.file.toList ++ candidates).mapM fun path =>
    return (path, ← readNow path)
  let read path := ((contents.find? (·.1 == path)).map Prod.snd).getD (.error .missing)
  let list path := if path = root then listing else none
  return { read, list, listFailures := fun path => if path = root then failures else [] }

/-- The rest of standard input. -/
partial def inputNow (input : IO.FS.Stream) (before : ByteArray) : IO ByteArray := do
  let part ← input.read 65536
  if part.isEmpty then return before
  else inputNow input (before ++ part)

/-- The point in time at which this is run, in UTC. -/
def stampNow : IO Stamp := do
  let now ← Std.Time.Timestamp.now
  let seconds := now.toSecondsSinceUnixEpoch.val
  let nanoseconds := now.toNanosecondsSinceUnixEpoch.val - seconds * 1000000000
  match Stamp.ofUnix? seconds nanoseconds 0 with
  | some stamp => return stamp
  | none => throw (IO.userError "The clock shows no time of the calendar.")

/-- Reads all that a run with some options may look at. -/
def surroundingsNow (tool : Tool) (options : Options) : IO Surroundings := do
  let startedAt ← stampNow
  let start ← IO.monoMsNow
  let files ← filesNow tool options
  let input ←
    if tool.consultsInput options files then inputNow (← IO.getStdin) .empty
    else pure .empty
  let setting ← IO.getEnv "RUST_LOG"
  let duration := (← IO.monoMsNow) - start
  return ⟨files, input.toList, setting, ⟨startedAt, some (← stampNow), some (.ofNat duration)⟩⟩

/-- Surroundings for what depends on none. -/
def emptySurroundings : IO Surroundings := do
  let files := { read := fun _ => .error .missing, list := fun _ => none }
  return ⟨files, [], none, ⟨← stampNow, none, none⟩⟩

/-- Prints what a run leaves behind. -/
def Outcome.print (outcome : Outcome) (stamp : Stamp) : IO UInt32 := do
  for event in outcome.log do
    IO.eprintln (String.ofList stamp.writeChars ++ " " ++ event.line)
  IO.eprint outcome.diagnostics
  IO.print outcome.standardOutput
  return .ofNat outcome.exitCode

/-- Runs a tool here and now. -/
def Tool.runNow (tool : Tool) (arguments : List String) : IO UInt32 := do
  let around ←
    match Invocation.ofArguments tool arguments with
    | .run options => surroundingsNow tool options
    | _ => emptySurroundings
  (tool.run arguments around).print around.run.startedAt

end ViewAudit

def main (arguments : List String) : IO UInt32 := do
  match arguments with
  | name :: arguments =>
      match ViewAudit.Tool.ofName? name with
      | some tool => tool.runNow arguments
      | none => IO.eprintln ("unknown tool: " ++ name); return 2
  | [] => IO.eprintln "no tool is named"; return 2
