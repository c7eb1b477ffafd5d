import Mixdown.Single.Decimal

/-!
# Shortest decimals

The decimal that stands for a single is the point of the coarsest decimal grid that reads back as
the single; of two such points it is the nearer one.
-/

namespace Mixdown

namespace Single

/-- The two points around `m * 2 ^ e` on the grid of the multiples of `10 ^ k`, as multiples of
`10 ^ k`, the nearer one first. -/
def gridNeighbours (m : Nat) (e k : Int) : List Nat :=
  let num := (m <<< e.toNat) * Nat.pow 10 (-k).toNat
  let den := (1 <<< (-e).toNat) * Nat.pow 10 k.toNat
  let below := num / den
  if 2 * (num % den) ≤ den then [below, below + 1] else [below + 1, below]

/-- The powers of ten of the grids to look at, the coarsest first. The largest single is below
`10 ^ 39`, and nine digits tell any two singles apart. -/
def gridPowers : List Int := (List.range 94).map fun (i : Nat) => 39 - (i : Int)

/-- The shortest decimal that reads back as the magnitude of a finite single, as digits and a
power of ten; zero digits for zero, and none for what is not finite. -/
def shortest? (x : Float32) : Option (Nat × Int) :=
  match x.toModel.unpack with
  | .zero _ => some (0, 0)
  | .finite _ m e _ =>
    gridPowers.findSome? fun k =>
      ((gridNeighbours m e k).find? fun n => ofDecimal n k == x.abs).map (·, k)
  | _ => none

end Single

end Mixdown
