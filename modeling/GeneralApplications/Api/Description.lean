import GeneralApplications.Json.Basic

/-!
# Descriptions of an API

What an API offers, in the terms of an OpenAPI document: operations with the answers they declare,
and schemas of what is exchanged. `Description.toJson` is the document.
-/

namespace GeneralApplications.Api

/-- The form of a value. -/
inductive Schema where
  | plain (type : String)
  /-- A value that may be `null`. -/
  | nullable (type : String)
  | integer (minimum : Option Nat)
  | list (items : Schema)
  | component (name : String)
  /-- A component or `null`. -/
  | optionalComponent (name : String)
  deriving DecidableEq, Repr

/-- A property of an object. -/
structure Property where
  name : String
  schema : Schema
  required : Bool
  description : Option String
  deriving DecidableEq, Repr

/-- What a component is. -/
inductive ComponentForm where
  | record (properties : List Property)
  | choice (names : List String)
  deriving DecidableEq, Repr

/-- A named schema. -/
structure Component where
  name : String
  description : String
  form : ComponentForm
  deriving DecidableEq, Repr

/-- An answer that an operation declares; its body is a component. -/
structure Answer where
  status : Nat
  description : String
  body : String
  deriving DecidableEq, Repr

/-- A parameter in the path. -/
structure PathParameter where
  name : String
  description : String
  deriving DecidableEq, Repr

/-- An operation; its request body, if it has one, is a component. -/
structure Operation where
  path : String
  method : String
  id : String
  summary : String
  tag : String
  parameters : List PathParameter
  body : Option String
  answers : List Answer
  deriving DecidableEq, Repr

/-- A group of operations. -/
structure Tag where
  name : String
  description : String
  deriving DecidableEq, Repr

/-- An API. -/
structure Description where
  title : String
  description : String
  version : String
  operations : List Operation
  components : List Component
  tags : List Tag
  deriving DecidableEq, Repr

/-! ## The document -/

/-- A reference to a component. -/
def referenceTo (component : String) : Json :=
  .object [("$ref", .string ("#/components/schemas/" ++ component))]

/-- The members of a schema. -/
def Schema.members : Schema → List (String × Json)
  | plain type => [("type", .string type)]
  | nullable type => [("type", .ofStrings [type, "null"])]
  | integer minimum =>
    [("type", .string "integer"), ("format", .string "int64")] ++
      minimum.elim [] fun n => [("minimum", .ofInt n)]
  | list items => [("type", .string "array"), ("items", .object items.members)]
  | component name => [("$ref", .string ("#/components/schemas/" ++ name))]
  | optionalComponent name =>
    [("oneOf", .array [.object [("type", .string "null")], referenceTo name])]

/-- A description, if there is one. -/
def described (description : Option String) : List (String × Json) :=
  description.elim [] fun d => [("description", .string d)]

/-- The schema of a component. -/
def Component.toJson (c : Component) : Json :=
  match c.form with
  | .choice names =>
    .object [("type", .string "string"), ("description", .string c.description),
      ("enum", .ofStrings names)]
  | .record properties =>
    let required := (properties.filter (·.required)).map (·.name)
    .object <|
      [("type", .string "object"), ("description", .string c.description)] ++
        (if required.isEmpty then [] else [("required", .ofStrings required)]) ++
        [("properties", .object (properties.map fun p =>
          (p.name, .object (p.schema.members ++ described p.description))))]

/-- Content in JSON that is a component. -/
def content (component : String) : Json :=
  .object [("application/json", .object [("schema", referenceTo component)])]

/-- An operation's entry. -/
def Operation.toJson (o : Operation) : Json :=
  let parameter (p : PathParameter) : Json :=
    .object [("name", .string p.name), ("in", .string "path"),
      ("description", .string p.description), ("required", .bool true),
      ("schema", .object (Schema.plain "string").members)]
  .object <|
    [("tags", .ofStrings [o.tag]), ("summary", .string o.summary),
      ("operationId", .string o.id)] ++
      (if o.parameters.isEmpty then []
        else [("parameters", .array (o.parameters.map parameter))]) ++
      (o.body.elim [] fun b =>
        [("requestBody", .object [("content", content b), ("required", .bool true)])]) ++
      [("responses", .object (o.answers.map fun a =>
        (toString a.status,
          .object [("description", .string a.description), ("content", content a.body)])))]

/-- The OpenAPI document of an API. -/
def Description.toJson (d : Description) : Json :=
  .object [("openapi", .string "3.1.0"),
    ("info", .object [("title", .string d.title), ("description", .string d.description),
      ("license", .object [("name", .string "")]), ("version", .string d.version)]),
    ("paths", .object (d.operations.map fun o => (o.path, .object [(o.method, o.toJson)]))),
    ("components", .object [("schemas", .object (d.components.map fun c => (c.name, c.toJson)))]),
    ("tags", .array (d.tags.map fun t =>
      .object [("name", .string t.name), ("description", .string t.description)]))]

/-- The operation declares an answer with a status. -/
def Operation.declares (o : Operation) (status : Nat) : Bool :=
  o.answers.any (·.status = status)

end GeneralApplications.Api
