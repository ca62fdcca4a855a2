import Gemtext.Text.Basic

/-!
# Case mappings as runs

A case mapping sends long runs of letters to letters at a fixed distance.  A `CaseRun` describes
such a run: every character, or every second one, between two bounds moves by the same offset.
-/

namespace Gemtext

/-- The characters `first`, `first + step`, … up to `last`, each of which maps to the one
`offset` further on. -/
structure CaseRun where
  first : Nat
  last : Nat
  step : Nat
  offset : Int

/-- The character that `c` maps to by a list of runs in ascending order; characters in no run
stay. -/
def CaseRun.apply (c : Char) : List CaseRun → Char
  | [] => c
  | run :: runs =>
    let n := c.toNat
    if n < run.first then c
    else if n ≤ run.last && (n - run.first) % run.step == 0 then
      Char.ofNat ((n : Int) + run.offset).toNat
    else CaseRun.apply c runs

end Gemtext
