import ApiCompiler.Call.Request
import ApiCompiler.Proofs.Module.Returns
import ApiCompiler.Proofs.Module.Decoding

/-!
# Modules with one text

Modules with one text make the same requests, also where one of them is read back from a file with
its line ends as line feeds: carriage returns stand in documentation only.
-/

namespace ApiCompiler.Module

open Outcome Text Plan Call

theorem contentTypeLayer_eq (request : RequestPlan) :
    contentTypeLayer request = (sentContentType request).toList.map fun media =>
      .map [(.str "Content-Type", .str media)] := by
  unfold contentTypeLayer sentContentType
  split <;> rfl

/-- The text of a piece of an address. -/
def pieceShown (arguments : Entries) : Piece → Except Misuse String
  | .literal value => .ok value
  | .argument argument => segmentText arguments (.parameter argument argument)

theorem urlOf_eq_pieces (request : RequestPlan) (arguments : Entries) :
    urlOf request arguments = do
      return String.intercalate "/"
        (← (request.segments.map pieceOf).mapM (pieceShown arguments)) := by
  have each : segmentText arguments = pieceShown arguments ∘ pieceOf := by
    funext segment
    cases segment <;> rfl
  rw [urlOf, each, List.mapM_map]

/-- What a function dispatches depends on what it does with a call and on the address alone. -/
theorem evaluate_eq_of_functionBehaviour {one other : Plan}
    (same : functionBehaviour one = functionBehaviour other)
    (address : one.request.baseUrl = other.request.baseUrl) (functions : List String)
    (parameters options : Value) :
    evaluate functions one parameters options = evaluate functions other parameters options := by
  simp only [functionBehaviour, FunctionBehaviour.mk.injEq] at same
  obtain ⟨-, takes, required, media, headers, query, method, pieces, carries, field⟩ := same
  have arguments : argumentsOf one parameters = argumentsOf other parameters := by
    rw [argumentsOf, argumentsOf, takes]
  have request (arguments options : Entries) :
      requestOf functions one.request arguments options =
        requestOf functions other.request arguments options := by
    simp only [requestOf, Call.headersOf, contentTypeLayer_eq, media,
      Call.boundHeaders, headers, queryOf,
      query, urlOf_eq_pieces, pieces, bodyEntry, carries, field, address, method]
  simp only [evaluate, arguments, required, request]

/-- Modules that do the same for each operation answer every call alike. -/
theorem call_eq_of_behaviour {plans others : List Plan}
    (same : plans.map behaviourOf = others.map behaviourOf) (operationId : String)
    (arguments : List Value) : call plans operationId arguments =
      call others operationId arguments := by
  have functions : plans.map (·.functionName) = others.map (·.functionName) := by
    simpa [Function.comp_def, behaviourOf, functionBehaviour] using
      congrArg (List.map fun behaviour => behaviour.functionName) same
  have found : (plans.find? (·.operationId == operationId)).map behaviourOf =
      (others.find? (·.operationId == operationId)).map behaviourOf := by
    have picked := congrArg (List.find? fun behaviour => behaviour.operationId == operationId) same
    rw [List.find?_map, List.find?_map] at picked
    exact picked
  cases here : plans.find? (·.operationId == operationId) with
  | none =>
      rw [here, Option.map_none, eq_comm, Option.map_eq_none_iff] at found
      simp only [call, here, found]
  | some plan =>
      rw [here, Option.map_some, eq_comm, Option.map_eq_some_iff] at found
      obtain ⟨other, there, alike⟩ := found
      have evaluates (parameters options : Value) :=
        evaluate_eq_of_functionBehaviour (congrArg Behaviour.toFunctionBehaviour alike.symm)
          (congrArg Behaviour.baseUrl alike.symm) (others.map (·.functionName)) parameters options
      rcases arguments with _ | ⟨parameters, _ | ⟨options, _ | ⟨third, more⟩⟩⟩
      · simp only [call, here, there, functions, evaluates]
      · simp only [call, here, there, functions, evaluates]
      · simp only [call, here, there, functions, evaluates]
      · simp only [call, here, there]

theorem normalizeNewlines_cons_of_ne {character : Char} (plain : character ≠ '\r')
    (rest : List Char) :
    normalizeNewlines (character :: rest) = character :: normalizeNewlines rest := by
  rw [normalizeNewlines]
  · intro _ return_
    exact absurd return_ plain
  · exact plain

theorem normalizeNewlines_append {left : List Char} (absent : '\r' ∉ left) (right : List Char) :
    normalizeNewlines (left ++ right) = left ++ normalizeNewlines right := by
  induction left with
  | nil => rfl
  | cons character left induction =>
      rw [List.mem_cons, not_or] at absent
      rw [List.cons_append, normalizeNewlines_cons_of_ne (Ne.symm absent.1), induction absent.2,
        List.cons_append]

/-- A carriage return at the end of a text stays alone where no line feed follows. -/
theorem normalizeNewlines_append_cons {stop : Char} (other : stop ≠ '\n') (left right : List Char) :
    normalizeNewlines (left ++ stop :: right) =
      normalizeNewlines left ++ normalizeNewlines (stop :: right) := by
  fun_induction normalizeNewlines left with
  | case1 rest induction =>
      rw [List.cons_append, List.cons_append, normalizeNewlines, induction, List.cons_append]
  | case2 rest alone induction =>
      rw [List.cons_append, normalizeNewlines, induction, List.cons_append]
      intro behind same
      cases rest with
      | nil => exact other (List.cons.inj same).1
      | cons first rest => exact alone rest (congrArg (· :: rest) (List.cons.inj same).1)
  | case3 character rest _ plain induction =>
      rw [List.cons_append, normalizeNewlines_cons_of_ne plain, induction, List.cons_append]
  | case4 => rfl

/-- Documentation is open. -/
inductive IsOpen : Mode → Prop where
  | long (closing : Nat) : IsOpen (.long '"' closing)
  | escaped : IsOpen (.longEscaped '"')

/-- Line ends in documentation leave it open, whatever stood before them. -/
theorem IsOpen.lineEnd {mode : Mode} (opened : IsOpen mode) {character : Char}
    (ends : character = '\r' ∨ character = '\n') :
    mode.kept character = [] ∧ mode.next character = .documentation := by
  cases opened with
  | long closing => rcases ends with rfl | rfl <;> exact ⟨rfl, rfl⟩
  | escaped => exact ⟨rfl, rfl⟩

theorem IsOpen.next {mode : Mode} (opened : IsOpen mode) {character : Char}
    (dropped : mode.kept character = []) : IsOpen (mode.next character) := by
  cases opened with
  | long closing =>
      change IsOpen (Mode.insideLong '"' closing character)
      unfold Mode.insideLong
      split
      · next marked =>
        split
        · next last =>
          subst marked last
          contradiction
        · exact .long _
      · split
        · exact .escaped
        · exact .long _
  | escaped => exact .long 0

/-- Reading line ends as line feeds lets nothing out of documentation. -/
theorem scan_normalizeNewlines {mode : Mode} (opened : IsOpen mode) {text : List Char}
    (inside : mode.scan text = []) :
    mode.after (normalizeNewlines text) = mode.after text ∧
      mode.scan (normalizeNewlines text) = [] := by
  have feed : IsOpen .documentation := .long 0
  fun_induction normalizeNewlines text generalizing mode with
  | case1 rest induction =>
      rw [Mode.scan, Mode.scan, List.append_eq_nil_iff, List.append_eq_nil_iff,
        (opened.lineEnd (.inl rfl)).2] at inside
      obtain ⟨after, scan⟩ := induction feed inside.2.2
      obtain ⟨kept, next⟩ := opened.lineEnd (.inr rfl)
      refine ⟨?_, ?_⟩
      · change ((mode.next '\n').after _) = ((mode.next '\r').next '\n').after rest
        rw [next, (opened.lineEnd (.inl rfl)).2]
        exact after
      · rw [Mode.scan, kept, next, scan, List.append_nil]
  | case2 rest _ induction =>
      rw [Mode.scan, List.append_eq_nil_iff, (opened.lineEnd (.inl rfl)).2] at inside
      obtain ⟨after, scan⟩ := induction feed inside.2
      obtain ⟨kept, next⟩ := opened.lineEnd (.inr rfl)
      refine ⟨?_, ?_⟩
      · change ((mode.next '\n').after _) = (mode.next '\r').after rest
        rw [next, (opened.lineEnd (.inl rfl)).2]
        exact after
      · rw [Mode.scan, kept, next, scan, List.append_nil]
  | case3 character rest _ _ induction =>
      rw [Mode.scan, List.append_eq_nil_iff] at inside
      obtain ⟨after, scan⟩ := induction (opened.next inside.1) inside.2
      exact ⟨after, by rw [Mode.scan, inside.1, scan, List.append_nil]⟩
  | case4 => exact ⟨rfl, rfl⟩

theorem contained_normalizeNewlines {text : List Char} (contained : Contained text) :
    Contained (normalizeNewlines text) := by
  obtain ⟨after, scan⟩ := scan_normalizeNewlines (.long 0) contained.scan
  exact ⟨after.trans contained.after, scan⟩

/-- Functions with the line ends of their documentation as line feeds. -/
def readBack (functions : Documents) : Documents :=
  functions.map fun function => (function.1, normalizeNewlines function.2)

theorem normalizeNewlines_functionText {plan : Plan} (named : holdsReturn plan.functionName = false)
    (prose rest : List Char) :
    normalizeNewlines (functionText plan prose ++ rest) =
      functionText plan (normalizeNewlines prose) ++ normalizeNewlines rest := by
  have head : '\r' ∉ ("\n\n" ++ signature plan ++ "\n    \"\"\"").toList := by
    rw [← holdsReturn_eq_false_iff, holdsReturn_append, holdsReturn_append, holdsReturn_signature,
      named]
    rfl
  have tail : '\r' ∉ ("\"\"\"\n" ++ unlines (functionLines plan)).toList := by
    rw [← holdsReturn_eq_false_iff, holdsReturn_append,
      holdsReturn_unlines_eq_false (holdsReturn_functionLines plan)]
    rfl
  have marked : ("\"\"\"\n" ++ unlines (functionLines plan)).toList ++ rest =
      '"' :: ("\"\"\n" ++ unlines (functionLines plan)).toList ++ rest := by
    rw [String.toList_append, String.toList_append]
    rfl
  rw [functionText_eq, functionText_eq, List.append_assoc, normalizeNewlines_append head,
    List.append_assoc, marked, List.cons_append, normalizeNewlines_append_cons (by decide),
    ← List.cons_append, ← marked, normalizeNewlines_append tail]
  simp only [List.append_assoc]

theorem normalizeNewlines_flatMap_functionText {functions : Documents}
    (named : ∀ function ∈ functions, holdsReturn function.1.functionName = false)
    (rest : List Char) :
    normalizeNewlines (functions.flatMap (fun function =>
      functionText function.1 function.2) ++ rest) =
      (readBack functions).flatMap (fun function => functionText function.1 function.2) ++
        normalizeNewlines rest := by
  induction functions with
  | nil => rfl
  | cons function functions induction =>
      obtain ⟨first, others⟩ := List.forall_mem_cons.mp named
      rw [List.flatMap_cons, List.append_assoc, normalizeNewlines_functionText first,
        induction others, ← List.append_assoc]
      rfl

/-- The text of a module with its line ends as line feeds differs in its documentation only. -/
theorem normalizeNewlines_moduleText {functions : Documents}
    (named : ∀ function ∈ functions, holdsReturn function.1.functionName = false)
    (title : List Char) (baseUrl : String) :
    normalizeNewlines (moduleText title baseUrl functions) =
      moduleText (normalizeNewlines title) baseUrl (readBack functions) := by
  have head : '\r' ∉ (unlines warningLines ++ "\"\"\"").toList := by
    rw [← holdsReturn_eq_false_iff, holdsReturn_append, holdsReturn_warningLines]
    rfl
  have dispatch : '\r' ∉ (unlines (dispatchLines baseUrl)).toList :=
    holdsReturn_eq_false_iff.mp (holdsReturn_dispatchLines baseUrl)
  have index : '\r' ∉ (unlines (indexLines (functions.map (·.1)))).toList :=
    holdsReturn_eq_false_iff.mp (holdsReturn_indexLines (List.forall_mem_map.mpr named))
  have names : (readBack functions).map (·.1) = functions.map (·.1) := by
    simp [readBack, Function.comp_def]
  rw [moduleText, normalizeNewlines_append head, normalizeNewlines_append_cons (by decide)]
  iterate 3 rw [normalizeNewlines_cons_of_ne (show '"' ≠ '\r' by decide)]
  rw [normalizeNewlines_cons_of_ne (by decide), normalizeNewlines_append dispatch,
    normalizeNewlines_flatMap_functionText named, (normalizeNewlines_eq_self_iff _).mpr index,
    moduleText, names]

/-- What carries no body has the field that is the usual one. -/
theorem bodyField_of_bodiless {operation : Operation} {info : Info} {servers : List Server}
    {versions : Versions} {plan : Plan}
    (planned : ofOperation operation info servers versions = .ok plan)
    (bodiless : plan.request.carriesBody = false) : plan.request.bodyField = .json := by
  obtain ⟨operationId, server, _, segments, -, -, -, -, -, -, rfl⟩ :=
    ofOperation_eq_ok_iff.mp planned
  have none : operation.body = none :=
    Option.isSome_eq_false_iff.mp bodiless |> Option.isNone_iff_eq_none.mp
  change bodyFieldOf (operation.body.bind (·.contentTypes.head?)) = .json
  rw [none]
  rfl

section Assembled

variable {description : Description} {versions : Versions} {plans : List Plan} {server : Server}
  (planned : (ofDescription description versions).result = .ok plans)

include planned

/-- What stands in the documentation of the functions. -/
theorem legible_of_planned :
    ∀ function ∈ documentsOf plans, Legible function.1 function.2 := by
  refine List.forall_mem_map.mpr fun plan member => ?_
  obtain ⟨operation, made⟩ := exists_operation_of_mem planned plan member
  dsimp only
  refine ⟨?_, contained_functionProse (namesContained_of_planned planned plan member), ?_⟩
  · rw [(names_of_ofOperation made).2.2]
    exact Naming.isNameCharacter_of_mem_functionName plan.operationId
  · exact bodyField_of_bodiless made

theorem baseUrl_of_planned (serves : firstServer description = .ok server) :
    ∀ plan ∈ plans, plan.request.baseUrl = server.url := by
  intro plan member
  obtain ⟨operation, made⟩ := exists_operation_of_mem planned plan member
  obtain ⟨operationId, first, others, segments, -, -, servers, -, -, -, rfl⟩ :=
    ofOperation_eq_ok_iff.mp made
  rw [firstServer, servers] at serves
  exact congrArg Server.url (Except.ok.inj serves)

theorem holdsReturn_functionName_of_mem_documentsOf :
    ∀ function ∈ documentsOf plans, holdsReturn function.1.functionName = false := by
  refine List.forall_mem_map.mpr fun plan member => ?_
  obtain ⟨operation, made⟩ := exists_operation_of_mem planned plan member
  exact holdsReturn_functionName_of_planned made

end Assembled

theorem legible_readBack {functions : Documents}
    (legible : ∀ function ∈ functions, Legible function.1 function.2) :
    ∀ function ∈ readBack functions, Legible function.1 function.2 := by
  refine List.forall_mem_map.mpr fun function member => ?_
  obtain ⟨named, contained, bodiless⟩ := legible function member
  exact ⟨named, contained_normalizeNewlines contained, bodiless⟩

/-- What the plans of one address do is told by what their functions do and for which operations. -/
theorem map_behaviourOf_eq {plans others : List Plan} {address : String}
    (functions : plans.map functionBehaviour = others.map functionBehaviour)
    (identifiers : plans.map (·.operationId) = others.map (·.operationId))
    (here : ∀ plan ∈ plans, plan.request.baseUrl = address)
    (there : ∀ plan ∈ others, plan.request.baseUrl = address) :
    plans.map behaviourOf = others.map behaviourOf := by
  have zipped {plans : List Plan} (one : ∀ plan ∈ plans, plan.request.baseUrl = address) :
      plans.map behaviourOf =
        List.zipWith (fun function operationId => Behaviour.mk function operationId address)
          (plans.map functionBehaviour) (plans.map (·.operationId)) := by
    rw [List.zipWith_map, List.zipWith_self]
    refine List.map_congr_left fun plan member => ?_
    rw [behaviourOf, one plan member]
  rw [zipped here, zipped there, functions, identifiers]

/-- Plans with one text do the same, also where one of the texts is read back from a file. -/
theorem map_behaviourOf_eq_of_render {description other : Description} {versions others : Versions}
    {plans rivals : List Plan} {server host : Server}
    (planned : (ofDescription description versions).result = .ok plans)
    (rivalled : (ofDescription other others).result = .ok rivals)
    (serves : firstServer description = .ok server) (hosts : firstServer other = .ok host)
    (same : render description.info server.url plans = render other.info host.url rivals ∨
      render description.info server.url plans =
        Files.Content.readText (render other.info host.url rivals)) :
    plans.map behaviourOf = rivals.map behaviourOf := by
  have legible := legible_of_planned planned
  have readable := legible_of_planned rivalled
  have titled := contained_moduleProse description.info
  have headed := contained_moduleProse other.info
  have told : server.url = host.url ∧
      (documentsOf plans).map (fun function => functionBehaviour function.1) =
        (documentsOf rivals).map (fun function => functionBehaviour function.1) ∧
      (documentsOf plans).map (fun function => function.1.operationId) =
        (documentsOf rivals).map (fun function => function.1.operationId) := by
    rcases same with written | read
    · have texts := congrArg String.toList written
      rw [toList_render, toList_render] at texts
      exact behaviour_of_moduleText titled headed legible readable texts
    · have texts := congrArg String.toList read
      rw [Files.Content.readText, String.toList_ofList, toList_render, toList_render,
        normalizeNewlines_moduleText (holdsReturn_functionName_of_mem_documentsOf rivalled)]
          at texts
      have told := behaviour_of_moduleText titled (contained_normalizeNewlines headed) legible
        (legible_readBack readable) texts
      simpa only [readBack, List.map_map, Function.comp_def] using told
  simp only [documentsOf, List.map_map, Function.comp_def] at told
  obtain ⟨address, functions, identifiers⟩ := told
  exact map_behaviourOf_eq functions identifiers (baseUrl_of_planned planned serves)
    (address ▸ baseUrl_of_planned rivalled hosts)

end ApiCompiler.Module
