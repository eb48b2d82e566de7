/-!
# Sorting by insertion

Sorting by a comparison that need not be an order: each item in turn is put into the sorted ones
before it, at the place that halving finds. Under an order this is the stable sort; under any other
comparison the result depends on which items are compared, so the procedure is part of its meaning.
That is so for fewer than 64 items, which are sorted in this way; of more, parts are sorted and then
merged, and if the comparison is no order they may come out in another order than here.
-/

namespace Triage

/-- The items at the start of a list that go on from one item to the next, and the others. -/
def runFrom (goesOn : α → α → Bool) (last : α) : List α → List α × List α
  | [] => ([], [])
  | x :: rest =>
    if goesOn last x then
      let (run, after) := runFrom goesOn x rest
      (x :: run, after)
    else ([], x :: rest)

/-- Splits a list behind the items that are sorted already. They may be in strictly falling order,
and are turned round then. -/
def leadingRun (lt : α → α → Bool) : List α → List α × List α
  | a :: b :: rest =>
    if lt b a then
      let (run, after) := runFrom (fun x y => lt y x) b rest
      ((a :: b :: run).reverse, after)
    else
      let (run, after) := runFrom (fun x y => !lt y x) b rest
      (a :: b :: run, after)
  | xs => (xs, [])

/-- The place for an item among sorted ones, between two places: before the middle one if the item
is less than that, and behind it otherwise. Every step halves the distance, so that is fuel
enough. -/
def placeBetween (lt : α → α → Bool) (x : α) (sorted : List α) : Nat → Nat → Nat → Nat
  | 0, low, _ => low
  | fuel + 1, low, high =>
    if low < high then
      let middle := low + (high - low) / 2
      if (sorted[middle]?).any (lt x) then placeBetween lt x sorted fuel low middle
      else placeBetween lt x sorted fuel (middle + 1) high
    else low

/-- Puts an item into sorted ones. -/
def insertSorted (lt : α → α → Bool) (sorted : List α) (x : α) : List α :=
  sorted.insertIdx (placeBetween lt x sorted sorted.length 0 sorted.length) x

/-- Sorts items by insertion. -/
def sortByInsertion (lt : α → α → Bool) (items : List α) : List α :=
  let (run, rest) := leadingRun lt items
  rest.foldl (insertSorted lt) run

end Triage
