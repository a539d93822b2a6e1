import ApiCompiler.Plan
import ApiCompiler.Value

/-!
# Plans as values

A plan as a mapping of its fields, in a fixed order.
-/

namespace ApiCompiler

private def fields (entries : List (String × Value)) : Value :=
  .map (entries.map fun (name, value) => (.str name, value))

private def orNull : Option String → Value
  | none => .null
  | some text => .str text

def Segment.record : Segment → Value
  | .literal value => fields [("kind", .str "literal"), ("value", .str value)]
  | .parameter name argument =>
    fields [("kind", .str "parameter"), ("name", .str name), ("argument", .str argument)]

def HeaderSource.record : HeaderSource → Value
  | .constant value => fields [("kind", .str "constant"), ("value", .str value)]
  | .argument name => fields [("kind", .str "argument"), ("argument", .str name)]

def HeaderBinding.record (binding : HeaderBinding) : Value :=
  fields [("key", .str binding.key), ("source", binding.source.record)]

def QueryBinding.record (binding : QueryBinding) : Value :=
  fields [("key", .str binding.key), ("argument", .str binding.argument),
    ("ordered", .bool binding.ordered)]

def RequestPlan.record (request : RequestPlan) : Value :=
  fields [
    ("method", .str request.method.verb),
    ("base_url", .str request.baseUrl),
    ("path_segments", .list (request.segments.map Segment.record)),
    ("header_bindings", .list (request.headers.map HeaderBinding.record)),
    ("query_bindings", .list (request.query.map QueryBinding.record)),
    ("body_binding", if request.carriesBody then .str bodyArgument else .null),
    ("body_field", .str request.bodyField.name),
    ("content_type", orNull request.contentType),
    ("validations", .list (request.required.map fun argument =>
      fields [("argument", .str argument)]))]

def ArgumentNote.record (note : ArgumentNote) : Value :=
  fields [("argument", .str note.argument), ("name", .str note.name),
    ("location", .str note.location.name), ("types", .str note.types),
    ("required", .bool note.required), ("description", orNull note.description)]

def FunctionNotes.record (notes : FunctionNotes) : Value :=
  fields [("summary", orNull notes.summary), ("description", orNull notes.description),
    ("parameters", .list (notes.arguments.map ArgumentNote.record)),
    ("body_description", orNull notes.bodyDescription)]

def Plan.record (plan : Plan) : Value :=
  fields [
    ("operation_id", .str plan.operationId),
    ("function_name", .str plan.functionName),
    ("arguments", .list (plan.arguments.map .str)),
    ("accepts_body", .bool plan.acceptsBody),
    ("request", plan.request.record),
    ("doc", plan.notes.record)]

end ApiCompiler
