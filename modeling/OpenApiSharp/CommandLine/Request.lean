import OpenApiSharp.Files
import OpenApiSharp.Report

/-!
# Requests

What a user asks for on the command line.  Settings come from options, else from
the environment, else from their defaults; an empty entry of the environment says
nothing.
-/

namespace OpenApiSharp.CommandLine

/-- The options of a command. -/
structure OptionTable where
  /-- The long options, and whether they take a value. -/
  long : List (String × Bool)
  /-- The short options, with the long ones that they stand for. -/
  short : List (Char × String)

/-- An option that was given. -/
structure Given where
  name : String
  value : String := ""
  deriving DecidableEq, Repr

/-- What is wrong with arguments. -/
inductive ArgumentFault where
  | unknownOption (name : String)
  | missingValue (name : String)
  | unexpectedValue (name : String)
  deriving DecidableEq, Repr

def ArgumentFault.message : ArgumentFault → String
  | unknownOption name => "No such option: " ++ name
  | missingValue name => "Option " ++ name ++ " requires an argument."
  | unexpectedValue name => "Option " ++ name ++ " does not take a value."

/-- The arguments of a command, sorted into options and operands. -/
structure Arguments where
  options : List Given := []
  operands : List String := []
  deriving DecidableEq, Repr

namespace Arguments

def withOptions (arguments : Arguments) (options : List Given) : Arguments :=
  { arguments with options := options ++ arguments.options }

def withOperand (arguments : Arguments) (operand : String) : Arguments :=
  { arguments with operands := operand :: arguments.operands }

/-- The last value given for an option. -/
def value? (arguments : Arguments) (name : String) : Option String :=
  (arguments.options.reverse.find? fun option => option.name == name).map (·.value)

def has (arguments : Arguments) (name : String) : Bool :=
  arguments.options.any fun option => option.name == name

end Arguments

/-- The short options in an argument, and the one that still lacks its value. -/
def shortOptions (table : OptionTable) :
    List Char → Except ArgumentFault (List Given × Option String)
  | [] => .ok ([], none)
  | c :: rest =>
      match table.short.lookup c with
      | none => .error (.unknownOption (String.ofList ['-', c]))
      | some name =>
          if table.long.lookup name = some true then
            if rest.isEmpty then .ok ([], some name)
            else .ok ([{ name, value := String.ofList rest }], none)
          else
            (shortOptions table rest).map fun (options, pending?) =>
              ({ name : Given } :: options, pending?)

def splitLong (argument : String) : String × Option String :=
  let name := argument.toList.takeWhile (· != '=')
  match argument.toList.drop name.length with
  | [] => (argument, none)
  | _ :: value => (String.ofList name, some (String.ofList value))

/-- The long option in an argument, or its name if it still lacks its value. -/
def longOption (table : OptionTable) (argument : String) :
    Except ArgumentFault (List Given × Option String) :=
  let (name, value?) := splitLong argument
  match table.long.lookup name, value? with
  | none, _ => .error (.unknownOption name)
  | some true, some value => .ok ([{ name, value }], none)
  | some true, none => .ok ([], some name)
  | some false, some _ => .error (.unexpectedValue name)
  | some false, none => .ok ([{ name }], none)

/-- The options in an argument that begins with a hyphen. -/
def optionsOf (table : OptionTable) (argument : String) :
    Except ArgumentFault (List Given × Option String) :=
  match argument.toList with
  | '-' :: '-' :: _ => longOption table argument
  | cs => shortOptions table cs.tail

def isOption (argument : String) : Bool :=
  argument.toList.head? == some '-' && argument != "-"

/-- Sort the arguments of a command.  Unless options may stand behind operands, the
first operand ends them. -/
def readArguments (table : OptionTable) (mixed : Bool) :
    List String → Except ArgumentFault Arguments
  | [] => .ok {}
  | argument :: rest =>
      -- whatever follows is an operand, even if it looks like an option
      if argument == "--" then .ok { operands := rest }
      else if isOption argument then do
        let (options, pending?) ← optionsOf table argument
        match pending?, rest with
        | none, rest => return (← readArguments table mixed rest).withOptions options
        | some name, value :: rest =>
            return (← readArguments table mixed rest).withOptions (options ++ [{ name, value }])
        | some name, [] => .error (.missingValue name)
      else if mixed then
        (readArguments table mixed rest).map (·.withOperand argument)
      else .ok { operands := argument :: rest }

/-- A command with the paths and settings that it works on. -/
inductive Command where
  | generate (document output : String) (config : Config)
  | inspect (document : String)
  deriving DecidableEq, Repr

/-- What a user asks for. -/
structure Request where
  verbose : Bool
  command : Command
  deriving DecidableEq, Repr

/-- Why a request cannot be met. -/
inductive UsageFault where
  | argument (fault : ArgumentFault)
  | missingCommand
  | unknownCommand (name : String)
  | missingDocument
  | extraOperand (operand : String)
  | noDocument (path : String)
  | documentIsDirectory (path : String)
  | outputIsFile (path : String)
  deriving DecidableEq, Repr

def UsageFault.message : UsageFault → String
  | argument fault => fault.message
  | missingCommand => "Missing command."
  | unknownCommand name => "No such command '" ++ name ++ "'."
  | missingDocument => "Missing argument 'SPEC_PATH'."
  | extraOperand operand => "Got unexpected extra argument (" ++ operand ++ ")"
  | noDocument path => "File '" ++ path ++ "' does not exist."
  | documentIsDirectory path => "File '" ++ path ++ "' is a directory."
  | outputIsFile path => "Directory '" ++ path ++ "' is a file."

def commonOptions : OptionTable where
  long := [("--verbose", false)]
  short := [('v', "--verbose")]

def generateOptions : OptionTable where
  long :=
    [("--output", true), ("--models-namespace", true), ("--services-namespace", true),
     ("--keep-resource", false), ("--keep-version", false), ("--http-client", true),
     ("--http-client-namespace", true)]
  short := [('o', "--output")]

/-- The options of inspection, of which there are none. -/
def inspectOptions : OptionTable where
  long := []
  short := []

def defaultOutput : String := "generated"

/-- The entries of the environment that say something about a run. -/
def environmentEntries : List String :=
  ["SWAGSHARP_OUTPUT", "SWAGSHARP_MODELS_NAMESPACE", "SWAGSHARP_SERVICES_NAMESPACE",
   "SWAGSHARP_HTTP_CLIENT", "SWAGSHARP_HTTP_CLIENT_NAMESPACE"]

/-- A setting from an option, else from an entry of the environment. -/
def setting? (arguments : Arguments) (environment : List (String × String))
    (option entry : String) : Option String :=
  match arguments.value? option with
  | some value => some value
  | none => (environment.lookup entry).filter fun value => !value.isEmpty

def configOf (arguments : Arguments) (environment : List (String × String)) : Config :=
  let defaults : Config := {}
  let setting? := setting? arguments environment
  { modelsNamespace :=
      (setting? "--models-namespace" "SWAGSHARP_MODELS_NAMESPACE").getD defaults.modelsNamespace
    servicesNamespace :=
      (setting? "--services-namespace" "SWAGSHARP_SERVICES_NAMESPACE").getD
        defaults.servicesNamespace
    cleanup :=
      { removeResource := !arguments.has "--keep-resource"
        removeVersion := !arguments.has "--keep-version" }
    httpClient := (setting? "--http-client" "SWAGSHARP_HTTP_CLIENT").getD defaults.httpClient
    httpClientNamespace :=
      setting? "--http-client-namespace" "SWAGSHARP_HTTP_CLIENT_NAMESPACE" }

/-- Sort the arguments of a command that works on one document. -/
def documentArguments (table : OptionTable) (arguments : List String) :
    Except UsageFault (String × Arguments) := do
  let sorted ← (readArguments table true arguments).mapError .argument
  match sorted.operands with
  | [] => .error .missingDocument
  | [document] => .ok (document, sorted)
  | _ :: extra :: _ => .error (.extraOperand extra)

def Command.parse (environment : List (String × String)) (name : String)
    (arguments : List String) : Except UsageFault Command := do
  match name with
  | "generate" =>
      let (document, sorted) ← documentArguments generateOptions arguments
      return .generate document
        ((setting? sorted environment "--output" "SWAGSHARP_OUTPUT").getD defaultOutput)
        (configOf sorted environment)
  | "inspect" =>
      let (document, _) ← documentArguments inspectOptions arguments
      return .inspect document
  | _ => .error (.unknownCommand name)

def Request.parse (environment : List (String × String)) (arguments : List String) :
    Except UsageFault Request := do
  let sorted ← (readArguments commonOptions false arguments).mapError .argument
  match sorted.operands with
  | [] => .error .missingCommand
  | name :: rest =>
      let command ← Command.parse environment name rest
      return { verbose := sorted.has "--verbose", command }

def Command.document : Command → String
  | generate document _ _ | inspect document => document

/-- Check a request against what its paths lead to: the document has to be a file,
and the output must be none. -/
def Request.check (request : Request) (kind : String → Files.Kind) : Except UsageFault Unit :=
  let document := request.command.document
  match kind document, request.command with
  | .missing, _ => .error (.noDocument document)
  | .directory, _ => .error (.documentIsDirectory document)
  | .file, .generate _ output _ =>
      if kind output = .file then .error (.outputIsFile output) else .ok ()
  | .file, .inspect _ => .ok ()

end OpenApiSharp.CommandLine
