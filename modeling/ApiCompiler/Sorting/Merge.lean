/-!
# Merging runs

Two neighbouring runs in rising order become one, and of items that compare equal the left one goes
first. The longer run stays in place: the merge starts at the end where the shorter one lies. Items
are compared one by one until one side has won many times in a row; then whole stretches are taken.
How many wins that needs is remembered from one merge to the next.

A stretch is found by a search, for how many items at the front of a side pass a test that no item
behind a failing one passes. The places that are looked at show only where the items are in no such
order.
-/

namespace ApiCompiler.Sorting

variable {α : Type}

/-- The first place between two bounds that fails a test, found by halving; an even gap is halved
late or early. -/
def halve (test : Nat → Option Bool) (early : Bool) (low high : Nat) : Option Nat :=
  if low < high then do
    let width := high - low
    let middle := low + (if early then width - 1 else width) / 2
    if ← test middle then halve test early (middle + 1) high
    else halve test early low middle
  else some low
termination_by high - low
decreasing_by all_goals split <;> omega

/-- The first place that fails a test, found by strides that double and then by halving; all places
up to the one before the next stride are known to pass. -/
def strideFrom (test : Nat → Option Bool) (early : Bool) (count last next : Nat) : Option Nat :=
  if next < count then do
    if ← test next then strideFrom test early count next (2 * next + 1)
    else halve test early (last + 1) next
  else halve test early (last + 1) count
termination_by count - next

/-- The number of items at the front that pass a test, found by strides. -/
def leading (early : Bool) (test : α → Option Bool) (items : List α) : Option Nat :=
  match items with
  | [] => some 0
  | first :: _ => do
    if ← test first then
      strideFrom (fun place => (items[place]?).bind test) early items.length 0 1
    else return 0

/-- Puts an item after all that are not above it, found by halving. -/
def insertByHalving (below? : α → α → Option Bool) (item : α) (ordered : List α) :
    Option (List α) := do
  let place ← halve (fun place => do
    let other ← ordered[place]?
    return !(← below? item other)) false 0 ordered.length
  return ordered.take place ++ item :: ordered.drop place

/-- Steps of sorting, with the number of wins in a row after which a merge takes stretches; they
fail where two items do not compare. -/
abbrev Paced := StateT Nat Option

/-- How a merge goes on. -/
inductive Pace where
  /-- Item by item, after so many wins in a row of the kept side and of the other. -/
  | single (kept other : Nat)
  /-- By stretches, which come in twos; whether the first of the two was long. -/
  | stretch (second long : Bool)
deriving Repr

/-- A stretch that is worth looking for. -/
def longStretch : Nat := 7

/-- What is left to merge, both sides in the order in which they are taken. -/
structure Merging (α : Type) where
  /-- The side that lies apart. -/
  kept : List α
  other : List α
  pace : Pace
  /-- The number of wins to remember if nothing is left to compare. -/
  patience : Nat
  /-- The number of wins to go on with. -/
  nextPatience : Nat

/-- What follows where nothing is left to compare; the last item of the kept side goes last. -/
def settled? : List α → List α → Option (List α)
  | kept, [] => some kept
  | [], other => some other
  | [last], other => some (other ++ [last])
  | _, _ => none

namespace Merging

/-- Whether an item of the other side goes before one of the kept side. -/
def otherWins? (below? : α → α → Option Bool) (upward : Bool) (kept other : α) : Option Bool :=
  if upward then below? other kept else below? kept other

def afterSingle (patience kept other : Nat) : Pace :=
  if patience ≤ max kept other then .stretch false false else .single kept other

/-- How to go on after a stretch: after two that are short, item by item and more patiently. -/
def afterStretch (merging : Merging α) (second long : Bool) (length : Nat) : Merging α :=
  let long := long || longStretch ≤ length
  let patience := merging.patience
  if !second then { merging with pace := .stretch true long }
  else if long then
    { merging with pace := .stretch false false, nextPatience := max 1 (patience - 1) }
  else { merging with pace := .single 0 0, nextPatience := patience + 1 }

/-- Takes a stretch of one side and the item of the other that ends it; going up, the kept side is
first of the two. -/
def takeStretch (below? : α → α → Option Bool) (upward second long : Bool) (merging : Merging α)
    (keptFirst otherFirst : α) : Option (List α × Merging α) := do
  if upward != second then
    let length ← leading (!upward)
      (fun item => do return !(← otherWins? below? upward item otherFirst)) merging.kept
    let taken := merging.kept.take length
    let merging := { merging with kept := merging.kept.drop length }
    if (settled? merging.kept merging.other).isSome then return (taken, merging)
    else
      let merging := { merging with other := merging.other.tail }
      return (taken ++ [otherFirst], merging.afterStretch second long length)
  else
    let length ← leading (!upward) (otherWins? below? upward keptFirst) merging.other
    let taken := merging.other.take length
    let merging := { merging with other := merging.other.drop length }
    if (settled? merging.kept merging.other).isSome then return (taken, merging)
    else
      let merging := { merging with kept := merging.kept.tail }
      return (taken ++ [keptFirst], merging.afterStretch second long length)

/-- Takes one item, or a stretch and an item. -/
def step (below? : α → α → Option Bool) (upward : Bool) (merging : Merging α) :
    Option (List α × Merging α) :=
  let merging := { merging with patience := merging.nextPatience }
  match merging.kept, merging.other with
  | keptFirst :: kept, otherFirst :: other =>
    match merging.pace with
    | .single keptWins otherWins => do
      if ← otherWins? below? upward keptFirst otherFirst then
        let pace := afterSingle merging.patience 0 (otherWins + 1)
        return ([otherFirst], { merging with other, pace })
      else
        let pace := afterSingle merging.patience (keptWins + 1) 0
        return ([keptFirst], { merging with kept, pace })
    | .stretch second long => merging.takeStretch below? upward second long keptFirst otherFirst
  | _, _ => none

/-- All that is left in order, and the patience to remember. -/
def run (below? : α → α → Option Bool) (upward : Bool) :
    Nat → Merging α → Option (List α × Nat)
  | 0, _ => none
  | fuel + 1, merging =>
    match settled? merging.kept merging.other with
    | some rest => some (rest, merging.patience)
    | none => do
      let (taken, merging) ← merging.step below? upward
      let (rest, patience) ← run below? upward fuel merging
      return (taken ++ rest, patience)

/-- Merges two sides in the order in which they are taken. -/
def sides (below? : α → α → Option Bool) (upward : Bool) (kept other : List α) :
    Paced (List α) :=
  fun patience =>
    run below? upward (kept.length + other.length + 1)
      ⟨kept, other, .single 0 0, patience, patience⟩

end Merging

/-- Merges what two neighbouring runs have beside each other; the first item to go is known. -/
def mergeOverlap (below? : α → α → Option Bool) (left right : List α) : Paced (List α) := do
  if left.length ≤ right.length then
    return right.take 1 ++ (← Merging.sides below? true left right.tail)
  else
    let rest ← Merging.sides below? false right.reverse left.reverse.tail
    return (left.reverse.take 1 ++ rest).reverse

/-- Merges two neighbouring runs. What is in place already is left there. -/
def mergeRuns (below? : α → α → Option Bool) (left right : List α) : Paced (List α) := do
  match right, left.getLast? with
  | first :: _, some last =>
    let before ← leading false (fun item => do return !(← below? first item)) left
    let behind ← if before < left.length then
        leading true (fun item => do return !(← below? item last)) right.reverse
      else pure right.length
    let within := right.length - behind
    if within = 0 then return left ++ right
    else
      let merged ← mergeOverlap below? (left.drop before) (right.take within)
      return left.take before ++ merged ++ right.drop within
  | _, _ => return left ++ right

end ApiCompiler.Sorting
