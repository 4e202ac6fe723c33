import OpenApiSharp.CommandLine.Plan

/-!
# Effects

What the program does to a tree of files whose contents are bytes, and what it
prints.  A file that cannot be written ends the run.
-/

namespace OpenApiSharp.CommandLine

open Text

/-- A tree of files as they are stored. -/
abbrev Storage := Files.Tree (List UInt8)

/-- Why the writing of files ended early. -/
inductive Interruption where
  | file (fault : Files.WriteFault)
  | encoding (fault : LoneSurrogates)
  deriving DecidableEq, Repr

/-- What a run leaves behind. -/
structure Effect where
  storage : Storage
  exitCode : Nat
  transcript : Transcript
  interruption : Option Interruption := none

/-- Write texts one after the other, until one cannot be written.  A file is made
before its text is encoded, so it is left empty if that fails. -/
def writeTexts (storage : Storage) :
    List (String × String) → Storage × Option Interruption
  | [] => (storage, none)
  | (path, content) :: rest =>
      match storage.write path ((Utf8.encode content).toOption.getD []) with
      | .error fault => (storage, some (.file fault))
      | .ok next =>
          match Utf8.encode content with
          | .error fault => (next, some (.encoding fault))
          | .ok _ => writeTexts next rest

/-- What is printed before and after the writing of files. -/
def Plan.transcript (plan : Plan) : Transcript where
  output := plan.opening.output ++ plan.closing.output
  errors := plan.opening.errors ++ plan.closing.errors

def Plan.effect (plan : Plan) (storage : Storage) : Effect :=
  match writeTexts storage plan.files with
  | (written, none) =>
      { storage := written, exitCode := plan.exitCode, transcript := plan.transcript }
  | (written, some interruption) =>
      { storage := written
        exitCode := 1
        transcript := plan.opening
        interruption := some interruption }

def Request.content (request : Request) (storage : Storage) : Except FileFault (List UInt8) :=
  match storage.read? request.command.document with
  | some bytes => .ok bytes
  | none => .error .missing

def Request.effect (request : Request) (reader : Reader) (storage : Storage) : Effect :=
  match request.check storage.kind with
  | .error fault =>
      { storage
        exitCode := usageExitCode
        transcript := { errors := "Error: " ++ fault.message ++ "\n" } }
  | .ok () => (request.plan reader (request.content storage)).effect storage

end OpenApiSharp.CommandLine
