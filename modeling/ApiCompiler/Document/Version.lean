import ApiCompiler.Logged

/-!
# Versions of the document format

Only documents of the third version are accepted; one that is newer than 3.1 is noted.
-/

namespace ApiCompiler.Document

private def startsWith (lead : String) (text : String) : Bool :=
  lead.toList.isPrefixOf text.toList

/-- A version of the two series that are known. -/
def isKnownSeries (version : String) : Bool :=
  startsWith "3.0." version || startsWith "3.1." version

/-- The version that a document declares. -/
def declaredVersion (entries : List (Value × Value)) : Except Failure String :=
  match Value.field? entries "swagger" with
  | some version => do
    throw (.document (.oldFormat (← version.showable.mapError .misuse)))
  | none =>
    match (Value.field? entries "openapi").getD .null with
    | .null => .error (.document .noVersion)
    | version => do
      let shown ← version.shown.mapError .misuse
      if startsWith "3." shown then return shown
      else throw (.document (.unsupportedVersion version))

/-- The version of a document, with a notice if it is of no known series. -/
def acceptVersion (document : Value) : Logged String := do
  let version ← declaredVersion (document.entries?.getD [])
  unless isKnownSeries version do Logged.note (.newerFormat version)
  return version

end ApiCompiler.Document
