/-
# GeoFeed.Text.Figure -- figures of numbers up to base sixteen

The letters `A` to `F` stand for ten to fifteen, in either case when they are
read and as capitals when they are written.  The main statement is
`figureValue?_figure`: a figure that is written reads back.
-/
namespace GeoFeed.Text

set_option autoImplicit false

/-- The figure of a number below sixteen. -/
def figure (n : Nat) : Char :=
  Char.ofNat (if n < 10 then 48 + n else 55 + n)

/-- The number that a figure stands for. -/
def figureValue? (c : Char) : Option Nat :=
  if '0' ≤ c ∧ c ≤ '9' then some (c.toNat - 48)
  else if 'A' ≤ c ∧ c ≤ 'F' then some (c.toNat - 55)
  else if 'a' ≤ c ∧ c ≤ 'f' then some (c.toNat - 87)
  else none

/-- The value of figures in a base, if all of them are figures there. -/
def valueIn? (base : Nat) (cs : List Char) : Option Nat :=
  cs.foldlM (fun n c => do
    let d ← figureValue? c
    if d < base then some (n * base + d) else none) 0

/-- **A figure that is written reads back.** -/
theorem figureValue?_figure {n : Nat} (h : n < 16) : figureValue? (figure n) = some n := by
  have all : ∀ m ∈ List.range 16, figureValue? (figure m) = some m := by decide
  exact all n (List.mem_range.2 h)

end GeoFeed.Text
