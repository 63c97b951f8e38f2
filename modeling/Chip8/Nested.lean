/-!
# Nested values

Values in rows, rows of rows and so on, as a host may hand them over. If all parts of one level have
one shape, the whole has a shape: the extents of the levels from the outside in.
-/

namespace Chip8

inductive Nested (α : Type) where
  | value (item : α)
  | row (parts : List (Nested α))

namespace Nested

variable {α : Type}

/-- The longest common beginning of two lists of extents. -/
def commonPrefix : List Nat → List Nat → List Nat
  | a :: rest, b :: others => if a = b then a :: commonPrefix rest others else []
  | _, _ => []

mutual

/-- The extents as far as all parts agree, and whether they agree throughout. -/
def shape : Nested α → List Nat × Bool
  | value _ => ([], true)
  | row parts =>
    let (extents, even) := partsShape parts
    (parts.length :: extents, even)

/-- The shape that the parts of a row have in common. -/
def partsShape : List (Nested α) → List Nat × Bool
  | [] => ([], true)
  | [part] => shape part
  | part :: rest =>
    let (first, firstEven) := shape part
    let (others, othersEven) := partsShape rest
    (commonPrefix first others, firstEven && othersEven && first == others)

end

mutual

/-- All values, from the first to the last. -/
def values : Nested α → List α
  | value item => [item]
  | row parts => partsValues parts

/-- All values of the parts of a row. -/
def partsValues : List (Nested α) → List α
  | [] => []
  | part :: rest => values part ++ partsValues rest

end

end Nested

end Chip8
