import ApiCompiler.Module.Assembly
import ApiCompiler.Proofs.Module.Documentation
import ApiCompiler.Proofs.Text.Decoding

/-!
# Modules that tell what they do

The text of a module, whatever its documentation says, tells of each of its functions what requests
it makes: under which name it is called, where it takes its headers, query entries and segments
from, what it checks and how it carries a body. The text is read from its start to its end, and
where something may be repeated or left out, what follows starts differently.
-/

namespace ApiCompiler.Module

open Text Plan

/-- A piece of an address: a text, or the text of an argument. -/
inductive Piece where
  | literal (value : String)
  | argument (name : String)
deriving Repr, DecidableEq

def pieceOf : Segment → Piece
  | .literal value => .literal value
  | .parameter _ argument => .argument argument

/-- What the function of a plan does with a call. -/
structure FunctionBehaviour where
  functionName : String
  takesParameters : Bool
  required : List String
  contentType : Option String
  headers : List HeaderBinding
  query : List QueryBinding
  method : Method
  pieces : List Piece
  carriesBody : Bool
  bodyField : BodyField
deriving Repr, DecidableEq

/-- What a module does for an operation. -/
structure Behaviour extends FunctionBehaviour where
  operationId : String
  baseUrl : String
deriving Repr, DecidableEq

/-- The media type that is sent as a header. -/
def sentContentType (request : RequestPlan) : Option String :=
  if request.sendsContentType then some (request.contentType.getD "") else none

def functionBehaviour (plan : Plan) : FunctionBehaviour where
  functionName := plan.functionName
  takesParameters := plan.takesParameters
  required := plan.request.required
  contentType := sentContentType plan.request
  headers := plan.request.headers
  query := plan.request.query
  method := plan.request.method
  pieces := plan.request.segments.map pieceOf
  carriesBody := plan.request.carriesBody
  bodyField := plan.request.bodyField

def behaviourOf (plan : Plan) : Behaviour where
  toFunctionBehaviour := functionBehaviour plan
  operationId := plan.operationId
  baseUrl := plan.request.baseUrl

/-- The characters of a line and of its end. -/
def lineText (line : String) : List Char :=
  line.toList ++ ['\n']

theorem toList_unlines (lines : List String) : (unlines lines).toList = lines.flatMap lineText := by
  induction lines with
  | nil => rfl
  | cons line lines induction =>
      have first : (unlines (line :: lines)).toList =
        (line ++ "\n").toList ++ (unlines lines).toList := by
        simp [unlines]
      rw [first, induction, String.toList_append]
      rfl

theorem lineText_checkLine (argument : String) :
    lineText (checkLine argument) =
      "    require_parameter(arguments, ".toList ++ ((quoted argument).toList ++ ")\n".toList) := by
  change ("    require_parameter(arguments, " ++ quoted argument ++ ")").toList ++ _ = _
  rw [String.toList_append, String.toList_append, List.append_assoc, List.append_assoc]
  rfl

/-- The line that sends a media type. -/
def contentTypeLine (media : String) : String :=
  s!"        \x7b\"Content-Type\": {quoted media}\x7d,"

theorem lineText_contentTypeLine (media : String) :
    lineText (contentTypeLine media) =
      "        \x7b\"Content-Type\": ".toList ++ ((quoted media).toList ++ "\x7d,\n".toList) := by
  change ("        \x7b\"Content-Type\": " ++ quoted media ++ "\x7d,").toList ++ _ = _
  rw [String.toList_append, String.toList_append, List.append_assoc, List.append_assoc]
  rfl

theorem contentTypeLines_eq (request : RequestPlan) :
    contentTypeLines request = (sentContentType request).toList.map contentTypeLine := by
  unfold contentTypeLines sentContentType
  split <;> rfl

theorem toList_argumentLookup (argument : String) :
    (argumentLookup argument).toList =
      "arguments.get(".toList ++ ((quoted argument).toList ++ ")".toList) := by
  change ("arguments.get(" ++ quoted argument ++ ")").toList = _
  rw [String.toList_append, String.toList_append, List.append_assoc]

theorem tells_argumentLookup :
    Tells (fun _ => True) (fun argument => (argumentLookup argument).toList) id := by
  simp only [toList_argumentLookup]
  exact tells_quoted.between _ _

/-- What stands for the value of a header. -/
def sourceText : HeaderSource → List Char
  | .constant value => (quoted value).toList
  | .argument argument => (argumentLookup argument).toList

theorem tells_sourceText : Tells (fun _ => True) sourceText id := by
  have apart (value argument : String) (rest last : List Char) :
      sourceText (.constant value) ++ rest ≠ sourceText (.argument argument) ++ last := by
    rw [sourceText, sourceText, toList_argumentLookup]
    exact quoted_append_ne (by decide) value rest _
  intro one other rest last _ _ same
  cases one with
  | constant value =>
      cases other with
      | constant held =>
          obtain ⟨own, others⟩ := tells_quoted trivial trivial same
          exact ⟨congrArg HeaderSource.constant own, others⟩
      | argument argument => exact absurd same (apart value argument rest last)
  | argument argument =>
      cases other with
      | constant held => exact absurd same.symm (apart held argument last rest)
      | argument another =>
          obtain ⟨own, others⟩ := tells_argumentLookup trivial trivial same
          exact ⟨congrArg HeaderSource.argument own, others⟩

/-- The part of a line between its indentation and its end. -/
def headerText (binding : HeaderBinding) : List Char :=
  (quoted binding.key).toList ++ (": ".toList ++ sourceText binding.source)

theorem lineText_headerLine (binding : HeaderBinding) :
    lineText (headerLine binding) =
      "            ".toList ++ (headerText binding ++ ",\n".toList) := by
  obtain ⟨key, source⟩ := binding
  have line (value : String) :
      ("            " ++ quoted key ++ ": " ++ value ++ ",").toList ++ ['\n'] =
        "            ".toList ++ ((quoted key).toList ++ (": ".toList ++ value.toList) ++
          ",\n".toList) := by
    simp only [String.toList_append, List.append_assoc]
    rfl
  cases source with
  | constant value => exact line (quoted value)
  | argument argument => exact line (argumentLookup argument)

theorem tells_headerText : Tells (fun _ => True) headerText id := by
  intro one other rest last _ _ same
  rw [headerText, headerText, List.append_assoc, List.append_assoc, List.append_assoc,
    List.append_assoc] at same
  obtain ⟨key, others⟩ := tells_quoted trivial trivial same
  obtain ⟨source, rest_eq⟩ := tells_sourceText trivial trivial (List.append_cancel_left others)
  obtain ⟨_, _⟩ := one
  obtain ⟨_, _⟩ := other
  cases key
  cases source
  exact ⟨rfl, rest_eq⟩

/-- What stands for the value of a query entry. -/
def lookupText (ordered : Bool) (argument : String) : List Char :=
  if ordered then "sort_ordered(".toList ++ ((argumentLookup argument).toList ++ ")".toList)
  else (argumentLookup argument).toList

def queryText (binding : QueryBinding) : List Char :=
  (quoted binding.key).toList ++ (": ".toList ++ lookupText binding.ordered binding.argument)

theorem lineText_queryLine (binding : QueryBinding) :
    lineText (queryLine binding) =
      "        ".toList ++ (queryText binding ++ ",\n".toList) := by
  obtain ⟨key, argument, ordered⟩ := binding
  have line (value : String) :
      ("        " ++ quoted key ++ ": " ++ value ++ ",").toList ++ ['\n'] =
        "        ".toList ++ ((quoted key).toList ++ (": ".toList ++ value.toList) ++
          ",\n".toList) := by
    simp only [String.toList_append, List.append_assoc]
    rfl
  cases ordered with
  | false => exact line (argumentLookup argument)
  | true =>
      have sorted : ("sort_ordered(" ++ argumentLookup argument ++ ")").toList =
          lookupText true argument := by
        rw [String.toList_append, String.toList_append, List.append_assoc]
        rfl
      refine (line ("sort_ordered(" ++ argumentLookup argument ++ ")")).trans ?_
      rw [sorted]
      rfl

theorem lookupText_inj {ordered again : Bool} {argument other : String} {rest last : List Char}
    (same : lookupText ordered argument ++ rest = lookupText again other ++ last) :
    ordered = again ∧ argument = other ∧ rest = last := by
  have apart (argument other : String) (rest last : List Char) :
      lookupText true argument ++ rest ≠ lookupText false other ++ last := by
    rw [lookupText, if_pos rfl, lookupText, if_neg Bool.false_ne_true, toList_argumentLookup other,
      List.append_assoc, List.append_assoc]
    intro same
    exact absurd (List.cons.inj same).1 (by decide)
  cases ordered with
  | true =>
      cases again with
      | true =>
          obtain ⟨own, others⟩ := tells_argumentLookup.between _ _ trivial trivial same
          exact ⟨rfl, own, others⟩
      | false => exact absurd same (apart argument other rest last)
  | false =>
      cases again with
      | true => exact absurd same.symm (apart other argument last rest)
      | false =>
          obtain ⟨own, others⟩ := tells_argumentLookup trivial trivial same
          exact ⟨rfl, own, others⟩

theorem tells_queryText : Tells (fun _ => True) queryText id := by
  intro one other rest last _ _ same
  rw [queryText, queryText, List.append_assoc, List.append_assoc, List.append_assoc,
    List.append_assoc] at same
  obtain ⟨key, others⟩ := tells_quoted trivial trivial same
  obtain ⟨ordered, argument, rest_eq⟩ := lookupText_inj (List.append_cancel_left others)
  obtain ⟨_, _, _⟩ := one
  obtain ⟨_, _, _⟩ := other
  cases key
  cases ordered
  cases argument
  exact ⟨rfl, rest_eq⟩

def pieceText : Segment → List Char
  | .literal value => (quoted value).toList
  | .parameter _ argument => "str(arguments[".toList ++ ((quoted argument).toList ++ "])".toList)

theorem lineText_segmentLine (segment : Segment) :
    lineText (segmentLine segment) =
      "            ".toList ++ (pieceText segment ++ ",\n".toList) := by
  cases segment with
  | literal value =>
      change ("            " ++ quoted value ++ ",").toList ++ _ = _
      rw [String.toList_append, String.toList_append, List.append_assoc, List.append_assoc]
      rfl
  | parameter name argument =>
      have spread (text : List Char) :
          "            str(arguments[".toList ++ text ++ "]),".toList ++ ['\n'] =
            "            ".toList ++ (("str(arguments[".toList ++ (text ++ "])".toList)) ++
              ",\n".toList) := by
        simp only [List.append_assoc]
        rfl
      have line : (segmentLine (.parameter name argument)).toList =
          "            str(arguments[".toList ++ (quoted argument).toList ++ "]),".toList := by
        change ("            str(arguments[" ++ quoted argument ++ "]),").toList = _
        rw [String.toList_append, String.toList_append]
      exact (congrArg (· ++ ['\n']) line).trans (spread (quoted argument).toList)

theorem tells_pieceText : Tells (fun _ => True) pieceText pieceOf := by
  have apart (value name argument : String) (rest last : List Char) :
      pieceText (.literal value) ++ rest ≠ pieceText (.parameter name argument) ++ last :=
    quoted_append_ne (by decide) value rest _
  intro one other rest last _ _ same
  cases one with
  | literal value =>
      cases other with
      | literal held =>
          obtain ⟨own, others⟩ := tells_quoted trivial trivial same
          exact ⟨congrArg Piece.literal own, others⟩
      | parameter name argument => exact absurd same (apart value name argument rest last)
  | parameter name argument =>
      cases other with
      | literal held => exact absurd same.symm (apart held name argument last rest)
      | parameter also another =>
          obtain ⟨own, others⟩ := tells_quoted.between _ _ trivial trivial same
          exact ⟨congrArg Piece.argument own, others⟩

/-- The line of the method. -/
def methodLine (method : Method) : String :=
  s!"        \"method\": {quoted method.verb},"

theorem verb_injective : Function.Injective Method.verb := by
  intro one other same
  cases one <;> cases other <;> first | rfl | exact absurd same (by decide)

theorem tells_methodLine : Tells (fun _ => True)
    (fun method => lineText (methodLine method)) id := by
  have text (method : Method) : lineText (methodLine method) =
      "        \"method\": ".toList ++ ((quoted method.verb).toList ++ ",\n".toList) := by
    change ("        \"method\": " ++ quoted method.verb ++ ",").toList ++ _ = _
    rw [String.toList_append, String.toList_append, List.append_assoc, List.append_assoc]
    rfl
  intro one other rest last _ _ same
  simp only [text] at same
  obtain ⟨verb, others⟩ := tells_quoted.between _ _ trivial trivial same
  exact ⟨verb_injective verb, others⟩

theorem name_injective : Function.Injective BodyField.name := by
  intro one other same
  cases one <;> cases other <;> first | rfl | exact absurd same (by decide)

/-- The line of the body tells whether there is one, and how it is carried. -/
theorem bodyLine_inj {one other : RequestPlan} {rest last : List Char}
    (same : lineText (bodyLine one) ++ rest = lineText (bodyLine other) ++ last) :
    one.carriesBody = other.carriesBody ∧
      (one.carriesBody = true → one.bodyField = other.bodyField) ∧ rest = last := by
  have carried {request : RequestPlan} (carries : request.carriesBody = true) (rest : List Char) :
      lineText (bodyLine request) ++ rest =
        "        ".toList ++ ((quoted request.bodyField.name).toList ++
          (": ".toList ++ ((argumentLookup bodyArgument).toList ++ (",\n".toList ++ rest)))) := by
    rw [bodyLine, if_pos carries]
    change (("        " ++ quoted request.bodyField.name ++ ": " ++ argumentLookup bodyArgument ++
      ",").toList ++ _) ++ rest = _
    simp only [String.toList_append, List.append_assoc]
    rfl
  have bodiless {request : RequestPlan} (none : request.carriesBody = false) (rest : List Char) :
      lineText (bodyLine request) ++ rest =
        "        ".toList ++ ("\"json\": None,\n".toList ++ rest) := by
    rw [bodyLine, if_neg (by simp [none])]
    rfl
  have single (field : BodyField) (rest last : List Char) :
      (quoted field.name).toList ++ rest ≠ '"' :: last := by
    intro same
    have mark : quoteMark field.name.toList = '\'' := by cases field <;> decide
    have starts := (List.cons.inj ((toList_quoted field.name) ▸ same)).1
    exact absurd (mark.symm.trans starts) (by decide)
  cases here : one.carriesBody with
  | true =>
      rw [carried here] at same
      cases there : other.carriesBody with
      | true =>
          rw [carried there] at same
          obtain ⟨named, others⟩ := tells_quoted trivial trivial (List.append_cancel_left same)
          have rest_eq := List.append_cancel_left (List.append_cancel_left
            (List.append_cancel_left others))
          exact ⟨rfl, fun _ => name_injective named, rest_eq⟩
      | false =>
          rw [bodiless there] at same
          exact absurd (List.append_cancel_left same) (single _ _ _)
  | false =>
      rw [bodiless here] at same
      cases there : other.carriesBody with
      | true =>
          rw [carried there] at same
          exact absurd (List.append_cancel_left same).symm (single _ _ _)
      | false =>
          rw [bodiless there] at same
          have rest_eq := List.append_cancel_left (List.append_cancel_left same)
          exact ⟨rfl, fun carries => absurd carries Bool.false_ne_true, rest_eq⟩

/-! ## Functions -/

def startLines (takesParameters : Bool) : List String :=
  if takesParameters then ["    arguments = dict(parameters or \x7b\x7d)"] else []

def optionLines : List String :=
  ["    options = dict(options or \x7b\x7d)", "    headers = merge_headers("]

def callerHeaderLines : List String :=
  ["        options.pop(\"headers\", None) or \x7b\x7d,", "        \x7b"]

def callerQueryLines : List String :=
  ["        \x7d,", "    )", "    query = \x7b",
    "        **(options.pop(\"params\", None) or \x7b\x7d),"]

def requestLines : List String :=
  ["    \x7d", "    request = \x7b", "        \"base_url\": BASE_URL,"]

def joinLines : List String :=
  ["        \"url\": \"/\".join(["]

def cleanLines : List String :=
  ["        ]),", "        \"headers\": clean_headers(headers),",
    "        \"params\": clean_query(query),"]

def dispatchingLines : List String :=
  ["    \x7d", "    request.update(options)", "    return await dispatch(request)"]

theorem functionLines_eq (plan : Plan) :
    functionLines plan = startLines plan.takesParameters ++ (plan.request.required.map checkLine ++
      (optionLines ++ ((sentContentType plan.request).toList.map contentTypeLine ++
        (callerHeaderLines ++ (plan.request.headers.map headerLine ++ (callerQueryLines ++
          (plan.request.query.map queryLine ++ (requestLines ++
            ([methodLine plan.request.method] ++ (joinLines ++
              (plan.request.segments.map segmentLine ++ (cleanLines ++
                ([bodyLine plan.request] ++ dispatchingLines))))))))))))) := by
  rw [← contentTypeLines_eq]
  simp only [functionLines, List.append_assoc]
  rfl

/-- The text of fixed lines. -/
abbrev fixed (lines : List String) : List Char :=
  lines.flatMap lineText

/-- The lines of a function tell what it does with a call. -/
theorem functionBehaviour_of_lines {one other : Plan} {rest last : List Char}
    (takes : one.takesParameters = other.takesParameters)
    (same : (unlines (functionLines one)).toList ++ rest =
      (unlines (functionLines other)).toList ++ last) :
    (one.request.required = other.request.required ∧
      sentContentType one.request = sentContentType other.request ∧
      one.request.headers = other.request.headers ∧ one.request.query = other.request.query ∧
      one.request.method = other.request.method ∧
      one.request.segments.map pieceOf = other.request.segments.map pieceOf ∧
      one.request.carriesBody = other.request.carriesBody ∧
      (one.request.carriesBody = true → one.request.bodyField = other.request.bodyField)) ∧
      rest = last := by
  simp only [toList_unlines, functionLines_eq, List.flatMap_append, List.flatMap_map,
    lineText_checkLine, lineText_contentTypeLine, lineText_headerLine, lineText_queryLine,
    lineText_segmentLine, List.append_assoc, takes] at same
  replace same := List.append_cancel_left same
  obtain ⟨required, same⟩ := tells_quoted.rowBetween 5 (by decide) (by decide) (by decide)
    (fun _ _ => trivial) (fun _ _ => trivial) same
  obtain ⟨contentType, same⟩ := tells_quoted.rowBetween 9 (by decide) (by decide) (by decide)
    (fun _ _ => trivial) (fun _ _ => trivial) same
  obtain ⟨headers, same⟩ := tells_headerText.rowBetween 9 (by decide) (by decide) (by decide)
    (fun _ _ => trivial) (fun _ _ => trivial) same
  obtain ⟨query, same⟩ := tells_queryText.rowBetween 5 (by decide) (by decide) (by decide)
    (fun _ _ => trivial) (fun _ _ => trivial) same
  simp only [List.flatMap_singleton] at same
  obtain ⟨method, same⟩ := tells_methodLine trivial trivial same
  replace same := List.append_cancel_left same
  obtain ⟨pieces, same⟩ := tells_pieceText.rowBetween 9 (by decide) (by decide) (by decide)
    (fun _ _ => trivial) (fun _ _ => trivial) same
  obtain ⟨carries, field, same⟩ := bodyLine_inj same
  simp only [List.map_id] at required contentType headers query
  have media : sentContentType one.request = sentContentType other.request := by
    simpa using congrArg List.head? contentType
  exact ⟨⟨required, media, headers, query, method, pieces, carries, field⟩,
    List.append_cancel_left same⟩

/-- Documentation ends at the first three marks that may end it. -/
theorem eq_of_contained {one other rest last : List Char} (containedOne : Contained one)
    (containedOther : Contained other)
    (same : one ++ '"' :: '"' :: '"' :: rest = other ++ '"' :: '"' :: '"' :: last) :
    one = other ∧ rest = last := by
  -- What one of two texts has more than the other would have to begin with the marks that end it.
  have whole {shorter longer more rest last : List Char} (short : Contained shorter)
      (long : Contained longer) (split : longer = shorter ++ more)
      (same : '"' :: '"' :: '"' :: rest = more ++ '"' :: '"' :: '"' :: last) : more = [] := by
    have after := long.after
    have scan := long.scan
    rw [split, Mode.after_append, short.after] at after
    rw [split, Mode.scan_append, short.after, short.scan, List.nil_append] at scan
    rcases more with _ | ⟨first, _ | ⟨second, _ | ⟨third, more⟩⟩⟩
    · rfl
    · simp only [List.cons_append, List.cons.injEq] at same
      obtain ⟨rfl, -⟩ := same
      exact absurd after (by decide)
    · simp only [List.cons_append, List.cons.injEq] at same
      obtain ⟨rfl, rfl, -⟩ := same
      exact absurd after (by decide)
    · simp only [List.cons_append, List.cons.injEq] at same
      obtain ⟨rfl, rfl, rfl, -⟩ := same
      exact absurd scan (List.cons_ne_nil _ _)
  rcases List.append_eq_append_iff.mp same with ⟨more, longer, left⟩ | ⟨more, longer, right⟩
  · obtain rfl := whole containedOne containedOther longer left
    rw [List.append_nil] at longer
    subst longer
    simpa using List.append_cancel_left same
  · obtain rfl := whole containedOther containedOne longer right
    rw [List.append_nil] at longer
    subst longer
    simpa using List.append_cancel_left same

/-- The name of the first argument of a function. -/
def firstArgument (takesParameters : Bool) : List Char :=
  if takesParameters then "parameters".toList else "_".toList

theorem firstArgument_inj {one other : Bool} {rest last : List Char}
    (same : firstArgument one ++ rest = firstArgument other ++ last) :
      one = other ∧ rest = last := by
  have apart (rest last : List Char) : "parameters".toList ++ rest ≠ "_".toList ++ last :=
    append_ne_append 1 (by decide) (by decide) (by decide) rest last
  cases one with
  | true =>
      cases other with
      | true => exact ⟨rfl, List.append_cancel_left same⟩
      | false => exact absurd same (apart rest last)
  | false =>
      cases other with
      | true => exact absurd same.symm (apart last rest)
      | false => exact ⟨rfl, List.append_cancel_left same⟩

/-- The text of a function, whatever stands in its documentation. -/
def functionText (plan : Plan) (prose : List Char) : List Char :=
  "\n\nasync def ".toList ++ (plan.functionName.toList ++ ('(' ::
    (firstArgument plan.takesParameters ++
      ("=None, options=None):\n    \"\"\"".toList ++ (prose ++ '"' :: '"' :: '"' :: '\n' ::
        (unlines (functionLines plan)).toList)))))

theorem functionText_append (plan : Plan) (prose rest : List Char) :
    functionText plan prose ++ rest =
      "\n\nasync def ".toList ++ (plan.functionName.toList ++ ('(' ::
        (firstArgument plan.takesParameters ++
          ("=None, options=None):\n    \"\"\"".toList ++ (prose ++ '"' :: '"' :: '"' :: '\n' ::
            ((unlines (functionLines plan)).toList ++ rest)))))) := by
  have spread (lead name first opening prose body : List Char) :
      lead ++
        (name ++ ('(' :: (first ++ (opening ++ (prose ++ '"' :: '"' :: '"' :: '\n' :: body))))) ++
          rest =
        lead ++ (name ++ ('(' :: (first ++ (opening ++ (prose ++ '"' :: '"' :: '"' :: '\n' ::
          (body ++ rest)))))) := by
    simp only [List.append_assoc, List.cons_append]
  exact spread _ _ _ _ _ _

/-- A function that is well-formed enough to be told from its text. -/
structure Legible (plan : Plan) (prose : List Char) : Prop where
  named : ∀ character ∈ plan.functionName.toList, Naming.isNameCharacter character = true
  contained : Contained prose
  bodiless : plan.request.carriesBody = false → plan.request.bodyField = .json

/-- The text of a function tells what it does with a call. -/
theorem tells_functionText :
    Tells (fun function : Plan × List Char => Legible function.1 function.2)
      (fun function => functionText function.1 function.2)
      (fun function => functionBehaviour function.1) := by
  rintro ⟨one, prose⟩ ⟨other, also⟩ rest last legible readable same
  change functionText one prose ++ rest = functionText other also ++ last at same
  rw [functionText_append, functionText_append] at same
  have stop : Naming.isNameCharacter '(' = false := by decide
  obtain ⟨name, same⟩ := eq_of_append_cons stop legible.named readable.named
    (List.append_cancel_left same)
  obtain ⟨takes, same⟩ := firstArgument_inj same
  obtain ⟨-, same⟩ := eq_of_contained legible.contained readable.contained
    (List.append_cancel_left same)
  obtain ⟨⟨required, media, headers, query, method, pieces, carries, field⟩, rest_eq⟩ :=
    functionBehaviour_of_lines takes (List.cons.inj same).2
  have bodyField : one.request.bodyField = other.request.bodyField := by
    cases here : one.request.carriesBody with
    | true => exact field here
    | false => rw [legible.bodiless here, readable.bodiless (carries ▸ here)]
  have functionName : one.functionName = other.functionName := String.toList_injective name
  refine ⟨?_, rest_eq⟩
  simp only [functionBehaviour, functionName, takes, required, media, headers, query,
    method, pieces, carries, bodyField]

/-! ## Modules -/

/-- Functions beside what stands in their documentation. -/
abbrev Documents := List (Plan × List Char)

/-- The lines between the documentation of a module and its address. -/
def helperPart : List String :=
  ["", helpers, "", "", "dispatch = send_request",
    "\"\"\"Coroutine sending each request description. Replace it to swap the transport.\"\"\"", ""]

/-- The text of a module, whatever stands in its documentation. -/
def moduleText (title : List Char) (baseUrl : String) (functions : Documents) : List Char :=
  (unlines warningLines ++ "\"\"\"").toList ++ (title ++ '"' :: '"' :: '"' :: '\n' ::
    ((unlines (dispatchLines baseUrl)).toList ++
      (functions.flatMap (fun function => functionText function.1 function.2) ++
        (unlines (indexLines (functions.map (·.1)))).toList)))

theorem toList_dispatchLines_append (baseUrl : String) (rest : List Char) :
    (unlines (dispatchLines baseUrl)).toList ++ rest =
      fixed helperPart ++ ("BASE_URL = ".toList ++ ((quoted baseUrl).toList ++ '\n' :: rest)) := by
  have last : lineText s!"BASE_URL = {quoted baseUrl}" =
      "BASE_URL = ".toList ++ ((quoted baseUrl).toList ++ ['\n']) := by
    change ("BASE_URL = " ++ quoted baseUrl).toList ++ _ = _
    rw [String.toList_append, List.append_assoc]
  have split : dispatchLines baseUrl = helperPart ++ [s!"BASE_URL = {quoted baseUrl}"] := rfl
  rw [toList_unlines, split, List.flatMap_append, List.flatMap_singleton, last, List.append_assoc,
    List.append_assoc, List.append_assoc, List.singleton_append]

theorem toList_signature (plan : Plan) :
    (signature plan).toList =
      "async def ".toList ++ (plan.functionName.toList ++ (['('] ++
        (firstArgument plan.takesParameters ++ "=None, options=None):".toList))) := by
  have whole (first : String) :
      ("async def " ++ plan.functionName ++ "(" ++ first ++ "=None, options=None):").toList =
        "async def ".toList ++ (plan.functionName.toList ++ (['('] ++
          (first.toList ++ "=None, options=None):".toList))) := by
    simp only [String.toList_append, List.append_assoc]
    rfl
  cases takes : plan.takesParameters with
  | true =>
      rw [signature, takes]
      exact whole "parameters"
  | false =>
      rw [signature, takes]
      exact whole "_"

theorem functionText_eq (plan : Plan) (prose : List Char) :
    functionText plan prose =
      ("\n\n" ++ signature plan ++ "\n    \"\"\"").toList ++
        (prose ++ ("\"\"\"\n" ++ unlines (functionLines plan)).toList) := by
  have spread {lead opening : List Char}
    (first second third fourth name argument prose body : List Char)
      (leads : first ++ second = lead) (opens : third ++ fourth = opening) :
      first ++ (second ++ (name ++ (['('] ++ (argument ++ third)))) ++ fourth ++
          (prose ++ (['"', '"', '"', '\n'] ++ body)) =
        lead ++ (name ++ ('(' :: (argument ++ (opening ++ (prose ++ '"' :: '"' :: '"' :: '\n' ::
          body))))) := by
    subst leads opens
    simp
  rw [String.toList_append, String.toList_append, String.toList_append, toList_signature]
  exact (spread _ _ _ _ _ _ _ _ (by decide) (by decide)).symm

theorem flatMap_text_functionFragments (plan : Plan) :
    (functionFragments plan).flatMap (·.text.toList) =
      functionText plan (functionProse plan).toList := by
  rw [functionText_eq]
  simp only [functionFragments, List.flatMap_cons, List.flatMap_nil, Fragment.text, List.append_nil]
  rfl

theorem toList_textOf (fragments : List Fragment) :
    (textOf fragments).toList = fragments.flatMap (·.text.toList) := by
  induction fragments with
  | nil => rfl
  | cons fragment fragments induction =>
      rw [List.flatMap_cons, ← induction]
      simp [textOf]

/-- Plans beside what their notes say. -/
def documentsOf (plans : List Plan) : Documents :=
  plans.map fun plan => (plan, (functionProse plan).toList)

theorem map_fst_documentsOf (plans : List Plan) : (documentsOf plans).map (·.1) = plans := by
  simp [documentsOf, Function.comp_def]

/-- A module's text is that of its plans, with what their notes say in the documentation. -/
theorem toList_render (info : Info) (baseUrl : String) (plans : List Plan) :
    (render info baseUrl plans).toList =
      moduleText (moduleProse info).toList baseUrl (documentsOf plans) := by
  have functions : (plans.flatMap functionFragments).flatMap (·.text.toList) =
      (documentsOf plans).flatMap fun function => functionText function.1 function.2 := by
    rw [List.flatMap_assoc, documentsOf, List.flatMap_map]
    simp only [flatMap_text_functionFragments]
  have spread (lead title dispatch functions index : List Char) :
      (lead ++ (title ++ (['"', '"', '"', '\n'] ++ dispatch ++ []))) ++ functions ++ (index ++ []) =
        lead ++ (title ++ '"' :: '"' :: '"' :: '\n' :: (dispatch ++ (functions ++ index))) := by
    simp
  have closing : ("\"\"\"\n" ++ unlines (dispatchLines baseUrl)).toList =
      ['"', '"', '"', '\n'] ++ (unlines (dispatchLines baseUrl)).toList := by
    rw [String.toList_append]
    rfl
  rw [render, toList_textOf, fragments, List.flatMap_append, List.flatMap_append, functions,
    moduleText, map_fst_documentsOf]
  simp only [List.flatMap_cons, List.flatMap_nil, Fragment.text, closing]
  exact spread _ _ _ _ _

def indexOpening : List String := ["", "", "API = \x7b"]

def indexClosing : List String := ["\x7d", "", s!"__all__ = [{exportList}]"]

/-- An entry of the index without its indentation and its end. -/
def entryText (plan : Plan) : List Char :=
  (quoted plan.operationId).toList ++ (": ".toList ++ (plan.functionName.toList ++ [',']))

theorem lineText_entryLine (plan : Plan) :
    lineText (entryLine plan) = "    ".toList ++ (entryText plan ++ ['\n']) := by
  change ("    " ++ quoted plan.operationId ++ ": " ++ plan.functionName ++ ",").toList ++ _ = _
  simp only [String.toList_append, List.append_assoc, entryText]
  rfl

theorem tells_entryText :
    Tells (fun plan : Plan => ∀ character ∈ plan.functionName.toList,
      Naming.isNameCharacter character = true) entryText Plan.operationId := by
  intro one other rest last named called same
  simp only [entryText, List.append_assoc] at same
  obtain ⟨operationId, others⟩ := tells_quoted trivial trivial same
  have stop : Naming.isNameCharacter ',' = false := by decide
  exact ⟨operationId, (eq_of_append_cons stop named called (List.append_cancel_left others)).2⟩

/-- The text of a module tells what it does for each operation. -/
theorem behaviour_of_moduleText {title header : List Char} {baseUrl otherUrl : String}
    {functions others : Documents} (titled : Contained title) (headed : Contained header)
    (legible : ∀ function ∈ functions, Legible function.1 function.2)
    (readable : ∀ function ∈ others, Legible function.1 function.2)
    (same : moduleText title baseUrl functions = moduleText header otherUrl others) :
    baseUrl = otherUrl ∧
      functions.map (fun function => functionBehaviour function.1) =
        others.map (fun function => functionBehaviour function.1) ∧
      functions.map (fun function => function.1.operationId) =
        others.map (fun function => function.1.operationId) := by
  rw [moduleText, moduleText] at same
  obtain ⟨-, same⟩ := eq_of_contained titled headed (List.append_cancel_left same)
  replace same := (List.cons.inj same).2
  rw [toList_dispatchLines_append, toList_dispatchLines_append] at same
  replace same := List.append_cancel_left (List.append_cancel_left same)
  obtain ⟨url, same⟩ := tells_quoted trivial trivial same
  have index (plans : List Plan) : (unlines (indexLines plans)).toList =
      fixed indexOpening ++
        (plans.flatMap (fun plan => "    ".toList ++ (entryText plan ++ ['\n'])) ++
        (fixed indexClosing ++ [])) := by
    have split : indexLines plans = indexOpening ++ plans.map entryLine ++ indexClosing := rfl
    rw [toList_unlines, split, List.flatMap_append, List.flatMap_append, List.flatMap_map,
      List.append_nil, List.append_assoc]
    simp only [lineText_entryLine]
  rw [index, index] at same
  have apart (function : Plan × List Char) (rest last : List Char) :
      functionText function.1 function.2 ++ rest ≠ fixed indexOpening ++ last := by
    rw [functionText_append]
    exact append_ne_append 3 (by decide) (by decide) (by decide) _ _
  obtain ⟨behaviours, same⟩ :=
    tells_functionText.row (fun function rest last _ => apart function rest last)
    legible readable (List.cons.inj same).2
  obtain ⟨operationIds, -⟩ := tells_entryText.rowBetween 1 (by decide) (by decide) (by decide)
    (List.forall_mem_map.mpr fun function member => (legible function member).named)
    (List.forall_mem_map.mpr fun function member => (readable function member).named) same
  rw [List.map_map, List.map_map] at operationIds
  exact ⟨url, behaviours, operationIds⟩

end ApiCompiler.Module
