import OpenApiSharp.CommandLine.Effect

namespace OpenApiSharp.CommandLine

open Text

def look (path : String) : IO (Except FileFault ByteArray) := do
  match ← (IO.FS.readBinFile (shown path)).toBaseIO with
  | .ok bytes => return .ok bytes
  | .error (.inappropriateType _ 21 _) => return .error .directory
  | .error _ => return .error .missing

/-- What a path leads to, after a look at it. -/
def seenKind : Except FileFault ByteArray → Files.Kind
  | .ok _ => .file
  | .error .directory => .directory
  | .error .missing => .missing

def readEnvironment : IO (List (String × String)) :=
  environmentEntries.filterMapM fun entry => do
    return (← IO.getEnv entry).map fun value => (entry, textOfChars value.toList)

def Transcript.print (transcript : Transcript) : IO Unit := do
  IO.print (shown transcript.output)
  IO.eprint (shown transcript.errors)

/-- Write texts one after the other, and say what cannot be encoded. -/
def writeFiles : List (String × String) → IO (Option LoneSurrogates)
  | [] => return none
  | (path, content) :: rest => do
      IO.FS.createDirAll (Files.parent (shown path))
      match Utf8.encode content with
      | .error fault =>
          IO.FS.writeBinFile (shown path) ⟨#[]⟩
          return some fault
      | .ok bytes =>
          IO.FS.writeBinFile (shown path) ⟨bytes.toArray⟩
          writeFiles rest

def Plan.run (plan : Plan) : IO UInt32 := do
  plan.opening.print
  match ← writeFiles plan.files with
  | some fault =>
      IO.eprintln fault.message
      return 1
  | none =>
      plan.closing.print
      if let .broken fault := plan.ending then
        IO.eprintln fault.message
      return UInt32.ofNat plan.exitCode

def refuse (fault : UsageFault) : IO UInt32 := do
  IO.eprintln (shown ("Error: " ++ fault.message))
  return UInt32.ofNat usageExitCode

def serve (arguments : List String) : IO UInt32 := do
  match Request.parse (← readEnvironment) (arguments.map fun text => textOfChars text.toList) with
  | .error fault => refuse fault
  | .ok request =>
      let document ← look request.command.document
      let output ←
        match request.command with
        | .generate _ output _ => look output
        | .inspect _ => pure (.error .missing)
      let kind (path : String) : Files.Kind :=
        seenKind (if path = request.command.document then document else output)
      match request.check kind with
      | .error fault => refuse fault
      | .ok () => (request.plan .standard (document.map (·.toList))).run

end OpenApiSharp.CommandLine

/-- Generate the types and services that a document describes, or list them. -/
def main (arguments : List String) : IO UInt32 :=
  OpenApiSharp.CommandLine.serve arguments
