import ApiCompiler.Sorting.Merge

/-!
# Sorting by runs

A list falls into runs that rise, or fall and are turned round. Short runs take the items behind
them one by one, and neighbouring runs merge in an order that keeps them balanced. Items that
compare equal keep their order; where the comparison is no order, the result shows which items were
compared.
-/

namespace ApiCompiler.Sorting

variable {α : Type}

/-- Extends a rising run; the run is held with its last item first. -/
def risingRun (below? : α → α → Option Bool) : α → List α → List α → Option (List α × List α)
  | last, earlier, [] => some ((last :: earlier).reverse, [])
  | last, earlier, next :: rest => do
    if ← below? next last then return ((last :: earlier).reverse, next :: rest)
    else risingRun below? next (last :: earlier) rest

/-- Extends a falling run, which is held turned round. -/
def fallingRun (below? : α → α → Option Bool) : α → List α → List α → Option (List α × List α)
  | least, others, [] => some (least :: others, [])
  | least, others, next :: rest => do
    if ← below? next least then fallingRun below? next (least :: others) rest
    else return (least :: others, next :: rest)

/-- The first run of a list in rising order, and what follows it. -/
def firstRun (below? : α → α → Option Bool) : List α → Option (List α × List α)
  | [] => some ([], [])
  | [item] => some ([item], [])
  | first :: second :: rest => do
    if ← below? second first then fallingRun below? second [first] rest
    else risingRun below? second [first] rest

/-- The first run of a list, made up to a length by inserting what follows it. -/
def fullRun (below? : α → α → Option Bool) (least : Nat) (items : List α) :
    Option (List α × List α) := do
  let (run, rest) ← firstRun below? items
  let missing := least - run.length
  let run ← (rest.take missing).foldlM (fun run item => insertByHalving below? item run) run
  return (run, rest.drop missing)

/-- The least length of a run: a count of 64 and more is halved until it is below, and rounded up if
anything was lost. -/
def leastRun (count : Nat) : Nat :=
  let rec halveDown (count : Nat) (lost : Nat) : Nat :=
    if 64 ≤ count then halveDown (count / 2) (max lost (count % 2)) else count + lost
  termination_by count
  halveDown count 0

/-- A run, the number of items in front of it, and the depth of its border with the next run in a
balanced tree over the list. -/
structure Run (α : Type) where
  items : List α
  start : Nat
  depth : Nat

/-- The number of binary places up to the one where two fractions of a total differ. -/
def firstDifference (total : Nat) : Nat → Nat → Nat → Nat
  | 0, _, _ => 0
  | fuel + 1, low, high =>
    if total ≤ low then firstDifference total fuel (2 * (low - total)) (2 * (high - total)) + 1
    else if total ≤ high then 1
    else firstDifference total fuel (2 * low) (2 * high) + 1

/-- The depth of the border between a run and the next one. -/
def borderDepth (total : Nat) (run : Run α) (next : Nat) : Nat :=
  let low := 2 * run.start + run.items.length
  firstDifference total (total + 1) low (low + run.items.length + next)

def joinRuns (below? : α → α → Option Bool) (lower upper : Run α) : Paced (Run α) := do
  return { lower with items := ← mergeRuns below? lower.items upper.items }

/-- Merges the runs whose border is deeper than a new one; the last run comes first. -/
def mergeDeeper (below? : α → α → Option Bool) (depth : Nat) : List (Run α) → Paced (List (Run α))
  | upper :: lower :: runs => do
    if depth < lower.depth then
      mergeDeeper below? depth ((← joinRuns below? lower upper) :: runs)
    else return upper :: lower :: runs
  | runs => return runs
termination_by runs => runs.length

/-- Adds a run behind the others. -/
def addRun (below? : α → α → Option Bool) (total : Nat) (runs : List (Run α)) (items : List α)
    (start : Nat) : Paced (List (Run α)) := do
  match runs with
  | [] => return [⟨items, start, 0⟩]
  | last :: _ =>
    let depth := borderDepth total last items.length
    match ← mergeDeeper below? depth runs with
    | last :: others => return ⟨items, start, 0⟩ :: { last with depth } :: others
    | [] => return [⟨items, start, 0⟩]

/-- Merges all runs, the last one first; of three, the lower two if the lowest is shorter than the
last. -/
def mergeAll (below? : α → α → Option Bool) : List (Run α) → Paced (List α)
  | [] => return []
  | [run] => return run.items
  | [upper, lower] => mergeRuns below? lower.items upper.items
  | upper :: lower :: lowest :: runs => do
    if lowest.items.length < upper.items.length then
      mergeAll below? (upper :: (← joinRuns below? lowest lower) :: runs)
    else mergeAll below? ((← joinRuns below? lower upper) :: lowest :: runs)
termination_by runs => runs.length

/-- Cuts a list into runs and merges them as they come. -/
def gatherRuns (below? : α → α → Option Bool) (total : Nat) :
    Nat → List (Run α) → List α → Paced (List α)
  | 0, _, _ => failure
  | fuel + 1, runs, items => do
    if items.isEmpty then mergeAll below? runs
    else
      let (run, rest) ← fullRun below? (leastRun total) items
      gatherRuns below? total fuel (← addRun below? total runs run (total - items.length)) rest

/-- The items in rising order; `none` if two that meet do not compare. -/
def sortItems (below? : α → α → Option Bool) (items : List α) : Option (List α) :=
  (gatherRuns below? items.length (items.length + 1) [] items).run' longStretch

end ApiCompiler.Sorting
