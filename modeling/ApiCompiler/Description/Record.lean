import ApiCompiler.Description
import ApiCompiler.Shape

/-!
# Descriptions as records

Reads the parts of a description from mappings that hold their fields under fixed names. Fields that
are not listed here are passed over.
-/

namespace ApiCompiler

open Shape

private def listed {α : Type} (ofName? : String → Option α) : Value → Checked α
  | .str name =>
    match ofName? name with
    | some value => .fits value
    | none => .flaw .notListed
  | _ => .flaw .notListed

/-- A parameter; its schema accepts texts where nothing is said. -/
def Parameter.ofRecord : Value → Checked Parameter :=
  record fun entries => Parameter.mk
    <$> field "name" text entries
    <*> field "location" (listed Location.ofName?) entries
    <*> fieldOr false "required" truth entries
    <*> fieldOr false "ordered" truth entries
    <*> optionalField "description" text entries
    <*> fieldOr ["string"] "schema_types" (list text) entries

def Body.ofRecord : Value → Checked Body :=
  record fun entries => Body.mk
    <$> fieldOr false "required" truth entries
    <*> optionalField "description" text entries
    <*> fieldOr [] "content_types" (list text) entries

def Operation.ofRecord : Value → Checked Operation :=
  record fun entries => Operation.mk
    <$> field "path" text entries
    <*> field "method" (listed Method.ofName?) entries
    <*> optionalField "operation_id" text entries
    <*> optionalField "summary" text entries
    <*> optionalField "description" text entries
    <*> fieldOr [] "parameters" (list Parameter.ofRecord) entries
    <*> optionalField "request_body" Body.ofRecord entries

def Info.ofRecord : Value → Checked Info :=
  record fun entries => Info.mk
    <$> field "title" text entries
    <*> field "version" text entries
    <*> optionalField "description" text entries

def Server.ofRecord : Value → Checked Server :=
  record fun entries => Server.mk
    <$> field "url" text entries
    <*> optionalField "description" text entries

def Description.ofRecord : Value → Checked Description :=
  record fun entries => Description.mk
    <$> field "info" Info.ofRecord entries
    <*> field "servers" (list Server.ofRecord) entries
    <*> fieldOr [] "operations" (list Operation.ofRecord) entries
    <*> field "openapi_version" text entries

end ApiCompiler
