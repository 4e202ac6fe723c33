import OpenApiSharp.CSharp.TypeTree
import OpenApiSharp.Document.Value
import OpenApiSharp.Naming.Identifier

/-!
# Schemas

How a definition is emitted depends on which of three keys it has.  References are
resolved by name alone; lists are followed for one step, and mappings to any depth.
The schema of a body stands directly under it, or under one of its content types,
where the types that stand for JSON come first.
-/

namespace OpenApiSharp.Schema

open Document CSharp Naming

/-- What becomes of a definition. -/
inductive Kind where
  | enumeration
  | record
  | wrapper
  | fallback
  deriving DecidableEq, Repr

def Kind.text : Kind → String
  | enumeration => "enum"
  | record => "object"
  | wrapper => "simple"
  | fallback => "fallback"

/-- The kind of a definition.  The first key that is present decides. -/
def classify (definition : Value) : Kind :=
  if definition.has "enum" then .enumeration
  else if definition.has "properties" then .record
  else if definition.has "type" then .wrapper
  else .fallback

/-- The description of a schema, empty if there is none. -/
def description (schema : Value) : String :=
  (schema.getText? "description").getD ""

/-- The keys that constrain a value. -/
def constraintKeys : List String :=
  ["minLength", "maxLength", "minimum", "maximum", "pattern", "enum"]

def isConstrained (property : Value) : Bool :=
  constraintKeys.any property.has

/-- Whether the type of a property is a number or a truth value. -/
def isValueType (property : Value) : Bool :=
  ((property.getText? "type").any fun schemaType =>
    ["integer", "number", "boolean"].contains schemaType)

/-- Whether a parent schema lists a property among the required ones. -/
def listsAsRequired (parent : Value) (name : String) : Bool :=
  ((parent.get? "required").any fun listed =>
    listed.elements.any fun element => element.text? == some name)

/-- Whether a property of a schema is mandatory. -/
def isRequired (property : Value) (name : String) (parent : Value) : Bool :=
  if listsAsRequired parent name then true
  else if property.isTrue "required" then true
  else if property.isTrue "nullable" then false
  else if isValueType property then !property.isTrue "x-nullable"
  else isConstrained property

def lastSegment (pointer : String) : String :=
  String.ofList (pointer.toList.reverse.takeWhile (· != '/')).reverse

def referenceName (pointer : String) : String :=
  if pointer.isEmpty then objectName else typeName (lastSegment pointer)

/-- The type of a primitive schema, by its type and format. -/
def primitiveName? (schemaType format : Option String) : Option String :=
  match schemaType with
  | some "string" =>
      some (match format with
        | some "date-time" | some "date" => "DateTime"
        | some "byte" | some "binary" => "byte[]"
        | _ => "string")
  | some "integer" => some (if format = some "int64" then "long" else "int")
  | some "number" =>
      some (match format with
        | some "float" => "float"
        | some "double" => "double"
        | _ => "decimal")
  | some "boolean" => some "bool"
  | _ => none

/-- The element type of a list.  A container as element is not followed. -/
def itemName (items : Option Value) : String :=
  match items with
  | none => objectName
  | some schema =>
      match schema.getText? "$ref" with
      | some pointer => referenceName pointer
      | none =>
          (primitiveName? (schema.getText? "type") (schema.getText? "format")).getD objectName

mutual

/-- The type of a schema. -/
def resolve : Value → TypeTree
  | .map entries =>
      let schema := Value.map entries
      match schema.getText? "$ref" with
      | some pointer => .leaf (referenceName pointer)
      | none =>
          match primitiveName? (schema.getText? "type") (schema.getText? "format") with
          | some name => .leaf name
          | none =>
              if schema.getText? "type" = some "array" then
                .list (itemName (schema.get? "items"))
              else if schema.getText? "type" = some "object" then
                resolveMapping entries
              else .leaf objectName
  | _ => .leaf objectName

/-- The type of an object schema with these entries: a dictionary if it allows
additional properties, else any object. -/
def resolveMapping : List (Scalar × Value) → TypeTree
  | [] => .leaf objectName
  | (key, value) :: rest =>
      -- any value but false allows them, and one that is no schema allows any object
      if key = .text "additionalProperties" then
        if value.isBool false then .leaf objectName else .dictionary (resolve value)
      else
        resolveMapping rest

end

def typeText (schema : Value) : String :=
  (resolve schema).text

/-- The type of a parameter, whose schema stands under a key of its own or in
its place. -/
def parameterTypeText (parameter : Value) : String :=
  typeText ((parameter.get? "schema").getD parameter)

/-- The content types that are looked for first. -/
def jsonContentTypes : List String :=
  ["application/json", "text/json", "*/*"]

def successStatuses : List String :=
  ["200", "201"]

def bodySchema? (holder : Value) : Option Value :=
  match holder.get? "schema" with
  | some schema => some schema
  | none =>
      (holder.get? "content").bind fun content =>
        (jsonContentTypes.filterMap content.get? ++ content.entries.map (·.2)).findSome?
          fun media => media.get? "schema"

/-- The first response that stands for success. -/
def successResponse? (operation : Value) : Option Value :=
  (operation.get? "responses").bind fun responses =>
    successStatuses.findSome? responses.get?

/-- The type that an operation returns. -/
def returnTypeText (operation : Value) : String :=
  match (successResponse? operation).bind bodySchema? with
  | some schema => typeText schema
  | none => voidName

/-- The schema of the request body of an operation, and whether a body has to be
sent. -/
def requestBody? (operation : Value) : Option (Value × Bool) :=
  (operation.get? "requestBody").bind fun body =>
    (bodySchema? body).map fun schema => (schema, body.isTrue "required")

end OpenApiSharp.Schema
