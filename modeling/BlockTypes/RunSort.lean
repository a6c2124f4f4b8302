/-!
# Sorting by insertion into a run

A list is sorted by the run at its start, which ascends, or descends and is turned round, and by
putting every further element into the run at the place that halving leads to. In a linear order that
gives the ascending list, where equal elements keep their order. If some elements are neither before
nor after the others, it depends on these steps where they come to stand.
-/

namespace BlockTypes.RunSort

variable {α : Type}

/-- The elements that go on with a run after `last`, and the others. A run descends if every element of
it is before the last one; otherwise none is. -/
def follow (before : α → α → Bool) (descends : Bool) (last : α) : List α → List α × List α
  | [] => ([], [])
  | x :: rest =>
    if before x last == descends then
      let (run, others) := follow before descends x rest
      (x :: run, others)
    else ([], x :: rest)

/-- The place of `x` among the elements of the run from `low` to `high`, after those that it is not
before. Each step halves the range, so that `fuel` need not be more than its length. -/
def slot (before : α → α → Bool) (run : List α) (x : α) : (fuel low high : Nat) → Nat
  | 0, low, _ => low
  | fuel + 1, low, high =>
    if low < high then
      let middle := (low + high) / 2
      if run[middle]?.any (before x) then slot before run x fuel low middle
      else slot before run x fuel (middle + 1) high
    else low

/-- The run with one more element. -/
def insert (before : α → α → Bool) (run : List α) (x : α) : List α :=
  let n := slot before run x run.length 0 run.length
  run.take n ++ x :: run.drop n

/-- The elements in ascending order. -/
def sort (before : α → α → Bool) : List α → List α
  | first :: second :: rest =>
    let descends := before second first
    let (more, others) := follow before descends first (second :: rest)
    let run := first :: more
    others.foldl (insert before) (if descends then run.reverse else run)
  | xs => xs

end BlockTypes.RunSort
