import OpenApiSharp.Document.Json
import OpenApiSharp.Files
import OpenApiSharp.Specification
import OpenApiSharp.Text.Case
import OpenApiSharp.Text.Printable
import OpenApiSharp.Text.Utf8
import OpenApiSharp.Yaml.Meaning

namespace OpenApiSharp

open Document Text

/-- Why the bytes of a file cannot be had. -/
inductive FileFault where
  | missing
  | directory
  deriving DecidableEq, Repr

def FileFault.message (path : String) : FileFault → String
  | missing => "[Errno 2] No such file or directory: " ++ quoted path
  | directory => "[Errno 21] Is a directory: " ++ quoted path

/-- Why a document cannot be loaded. -/
inductive LoadFault where
  | unreadable (path : String) (fault : FileFault)
  | encoding (path : String) (fault : Utf8Fault)
  | json (error : JsonError) (source : List Char)
  | yaml
  | specification (fault : SpecificationFault)
  deriving DecidableEq, Repr

def encodingMessage (fault : Utf8Fault) : String :=
  let place :=
    if fault.length = 1 then
      "byte 0x" ++ String.ofList (hexDigits 2 fault.first.toNat) ++ " in position " ++
        toString fault.position
    else
      "bytes in position " ++ toString fault.position ++ "-" ++
        toString (fault.position + fault.length - 1)
  "'utf-8' codec can't decode " ++ place ++ ": " ++ fault.reason.text

def LoadFault.message : LoadFault → String
  | unreadable path fault => "cannot read " ++ path ++ ": " ++ fault.message path
  | encoding path fault => path ++ " is not valid UTF-8: " ++ encodingMessage fault
  | json error source =>
      "document is not valid structured data: " ++ error.message source
  | yaml => "document is not valid structured data"
  | specification fault => fault.message

inductive Format where
  | json
  | yaml
  deriving DecidableEq, Repr

def Format.ofSuffix (suffix : String) : Format :=
  if lower suffix = ".json" then .json else .yaml

/-- What reads the texts of the two formats. -/
structure Reader where
  json : List Char → Except JsonError Value
  yaml : List Char → Option Value

namespace Reader

/-- The readers of this library. -/
def standard : Reader where
  json := readJson
  yaml := readYaml

variable (reader : Reader)

def read (format : Format) (source : List Char) : Except LoadFault Value :=
  match format with
  | .json => (reader.json source).mapError fun error => .json error source
  | .yaml =>
      match reader.yaml source with
      | some value => .ok value
      | none => .error .yaml

def parse (format : Format) (source : List Char) : Except LoadFault Value := do
  let document ← reader.read format source
  (Specification.validate document).mapError .specification

/-- The document in a file, given the bytes of the file. -/
def load (path : String) (content : Except FileFault (List UInt8)) :
    Except LoadFault Value := do
  let shown := Files.normalize path
  let bytes ← content.mapError (.unreadable shown)
  let source ← (Utf8.decodeMarked bytes).mapError (.encoding shown)
  reader.parse (.ofSuffix (Files.suffix path)) (normalizeLineEnds source)

end Reader

end OpenApiSharp
