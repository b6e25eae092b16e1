/-!
# Runs of code points

Character classes are held as ascending lists of runs: stretches of code points at a fixed
distance from each other. Alternating upper and lower case letters make runs of step two.

## Main definitions

* `CodeRun`: one run, with membership by comparison and remainder.
* `CodeRun.anyContains`: membership in an ascending list, which stops at the first later run.
* `CaseRun`: a run whose members all move by one offset in the other letter case.
-/

namespace DartClient.Text

/-- The code points `first`, `first + step`, and so on up to `last`. -/
structure CodeRun where
  /-- The least member. -/
  first : Nat
  /-- The greatest member. -/
  last : Nat
  /-- The distance between neighbours. -/
  step : Nat
  deriving Repr

namespace CodeRun

/-- Whether a code point belongs to the run. -/
def contains (run : CodeRun) (code : Nat) : Bool :=
  run.first ≤ code && code ≤ run.last && (code - run.first) % run.step == 0

/-- Whether a code point belongs to one of the runs of an ascending list. -/
def anyContains : List CodeRun → Nat → Bool
  | [], _ => false
  | run :: runs, code =>
    if code < run.first then false
    else if code ≤ run.last then run.contains code
    else anyContains runs code

end CodeRun

/-- A run whose members all move by the same offset when their case changes. -/
structure CaseRun where
  /-- The code points that change. -/
  run : CodeRun
  /-- How far they move. -/
  offset : Int
  deriving Repr

/-- The image of a code point under the first run that holds it. -/
def CaseRun.map? : List CaseRun → Nat → Option Nat
  | [], _ => none
  | entry :: entries, code =>
    if code < entry.run.first then none
    else if entry.run.contains code then some (code + entry.offset).toNat
    else map? entries code

end DartClient.Text
