import ApiCompiler.Json.Printer
import ApiCompiler.Logged
import ApiCompiler.Settings

/-!
# The console

The texts of tables and remarks. A quiet console withholds what only informs, and only a verbose one
shows what helps to find errors. All of it is plain text.
-/

namespace ApiCompiler

/-- How a console shows data, and which diagnostics it shows. -/
structure Console where
  format : Format
  quiet : Bool
  verbose : Bool
deriving Repr, DecidableEq

/-- The kinds of remarks. -/
inductive Tone where
  | info
  | success
  | warning
  | error
  | suggestion
  | debug
deriving Repr, DecidableEq

/-- What a remark starts with. -/
def Tone.lead : Tone → String
  | .info => ""
  | .success => ""
  | .warning => "Warning: "
  | .error => "Error: "
  | .suggestion => "→ "
  | .debug => "[debug] "

namespace Level

/-- The name that records bear. -/
def name : Level → String
  | .debug => "DEBUG"
  | .info => "INFO"
  | .warning => "WARNING"
  | .error => "ERROR"
  | .critical => "CRITICAL"

/-- Whether records of a level matter to those who do not look for errors. -/
def isGrave : Level → Bool
  | .debug => false
  | .info => false
  | .warning => true
  | .error => true
  | .critical => true

end Level

namespace Console

/-- A console for a format. It is not known to be a terminal, so data is plain unless a format is
named. -/
def ofFormat (format : Format) (quiet verbose : Bool) : Console :=
  ⟨if format = .auto then .plain else format, quiet, verbose⟩

/-- The console that is used where none was set up. -/
def standard : Console :=
  ofFormat .auto false false

/-- Whether a remark is shown. -/
def shows (console : Console) : Tone → Bool
  | .info => !console.quiet
  | .success => !console.quiet
  | .suggestion => !console.quiet
  | .warning => true
  | .error => true
  | .debug => console.verbose

/-- Whether a record is shown. -/
def records (console : Console) (level : Level) : Bool :=
  console.verbose || level.isGrave

/-- The text of a remark. -/
def remark (console : Console) (tone : Tone) (text : String) : String :=
  if console.shows tone then tone.lead ++ text ++ "\n" else ""

/-- The text with a line feed at its end. -/
def endLine (text : String) : String :=
  if text.endsWith "\n" then text else text ++ "\n"

private def rowRecord (headers row : List String) : Value :=
  .map (Value.ofEntries ((headers.zip row).map fun (header, cell) => (.str header, .str cell)))

/-- The text of a value, on lines of their own. -/
def indented (value : Value) : Except Misuse String :=
  (Json.print .indented value).map endLine

/-- The text of a table: a list of mappings, or lines of cells with tabs between. -/
def table (console : Console) (headers : List String) (rows : List (List String)) :
    Except Misuse String :=
  match console.format with
  | .json => indented (.list (rows.map (rowRecord headers)))
  | _ => .ok (String.join ((headers :: rows).map fun row => endLine (String.intercalate "\t" row)))

end Console

end ApiCompiler
