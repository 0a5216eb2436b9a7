import Gloss.Server.Tool

namespace Gloss

def Form.schema : Form → List (String × Json)
  | text => [("type", .text "string")]
  | texts => [("type", .text "array"), ("items", .object [("type", .text "string")])]
  | count => [("type", .text "integer"), ("format", .text "uint32"), ("minimum", .ofNat 0)]

def Parameter.schema (p : Parameter) : Json :=
  .object ((p.description.map (("description", .text ·))).toList ++ p.form.schema
    ++ if p.isRequired then [] else [("nullable", .bool true)])

namespace Tool

def schema (tool : Tool) : Json :=
  let (title, description) := tool.signature
  .object [("$schema", .text "https://json-schema.org/draft/2020-12/schema"), ("title", .text title),
    ("description", .text description), ("type", .text "object"),
    ("properties", .object (tool.parameters.map fun p => (p.name, p.schema))),
    ("required", .texts ((tool.parameters.filter (·.isRequired)).map (·.name)))]

def toJson (tool : Tool) : Json :=
  .object [("name", .text tool.name), ("description", .text tool.description), ("inputSchema", tool.schema)]

end Tool

end Gloss
