/-!
Tables of characters as runs of code points, in ascending order.
-/

set_option autoImplicit false

namespace Rehearsal.Text

/-- The first and the last code point of each run. -/
abbrev Runs := List (Nat × Nat)

def Runs.contains (runs : Runs) (c : Char) : Bool :=
  runs.any fun run => run.1 <= c.toNat && c.toNat <= run.2

theorem Runs.contains_iff (runs : Runs) (c : Char) :
    runs.contains c = true ↔ ∃ run ∈ runs, run.1 <= c.toNat ∧ c.toNat <= run.2 := by
  simp [Runs.contains]

end Rehearsal.Text
