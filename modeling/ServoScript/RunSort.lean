/-!
# Sorting by runs and binary insertion

A stable sort for a relation `before` that need not be an order. A short list is sorted by taking its
first run, which is turned round if it strictly descends, and inserting the other entries one by one
behind the last entry that a binary search does not find to come after them. A long list is only
sorted stably, without a look at its runs.
-/

namespace ServoScript.RunSort

variable {α : Type} (before : α → α → Bool)

/-- The longest start of a list in which every entry is related to the one in front of it, beginning
with `last`. -/
def span (related : α → α → Bool) (last : α) : List α → List α × List α
  | [] => ([], [])
  | a :: rest =>
    if related a last then
      let (run, others) := span related a rest
      (a :: run, others)
    else ([], a :: rest)

/-- The first run of a list, in ascending order, and the entries behind it. -/
def firstRun : List α → List α × List α
  | a :: b :: rest =>
    if before b a then
      let (run, others) := span before b rest
      ((a :: b :: run).reverse, others)
    else
      let (run, others) := span (fun x y => !before x y) b rest
      (a :: b :: run, others)
  | short => (short, [])

/-- The place for an entry between `low` and `high`, by halving. The distance is halved in every
step, so that it is an upper bound for the fuel. -/
def place (sorted : List α) (entry : α) : (fuel low high : Nat) → Nat
  | 0, low, _ => low
  | fuel + 1, low, high =>
    if low < high then
      let middle := low + (high - low) / 2
      match sorted[middle]? with
      | none => low
      | some a =>
        if before entry a then place sorted entry fuel low middle
        else place sorted entry fuel (middle + 1) high
    else low

def insert (sorted : List α) (entry : α) : List α :=
  let n := place before sorted entry sorted.length 0 sorted.length
  sorted.take n ++ entry :: sorted.drop n

def mergeLength : Nat := 64

/-- The sorted list. From `mergeLength` entries on this is just some stable sort: it agrees with the
merging of runs if `before` is an order, but need not do so for other relations. -/
def sort (l : List α) : List α :=
  if l.length < mergeLength then
    let (run, others) := firstRun before l
    others.foldl (insert before) run
  else l.mergeSort fun a b => !before b a

end ServoScript.RunSort
