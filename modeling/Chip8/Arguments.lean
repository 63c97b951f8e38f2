/-!
# Arguments

What a caller hands over: values by place and values by name. They are matched with a signature, the
placed values in the order of its parameters. No parameter takes two values, and only an open
signature takes named values that belong to no parameter.
-/

namespace Chip8

/-- What a call takes. -/
structure Signature where
  /-- The names of its parameters, in the order of their places. -/
  parameters : List String
  /-- The parameters that must be given a value. -/
  needed : List String
  /-- Whether it takes named values beside those of its parameters. -/
  isOpen : Bool := false

/-- The values that a caller hands over. -/
structure Arguments (ω : Type) where
  placed : List ω
  named : List (String × ω)

/-- Values with the parameters that take them, and the named values beside them. -/
structure Assignment (ω : Type) where
  values : List (String × ω)
  others : List (String × ω)

variable {ω : Type}

namespace Assignment

/-- The value that a parameter takes, if it was given one. -/
def value? (assignment : Assignment ω) (parameter : String) : Option ω :=
  assignment.values.lookup parameter

/-- Whether an assignment gives a signature what it needs and no more than it takes. -/
def Fits (assignment : Assignment ω) (signature : Signature) : Prop :=
  (∀ parameter ∈ signature.needed, (assignment.value? parameter).isSome = true) ∧
    (signature.isOpen = true ∨ assignment.others = [])

instance (assignment : Assignment ω) (signature : Signature) :
    Decidable (assignment.Fits signature) :=
  have : Decidable (assignment.others = []) :=
    decidable_of_iff (assignment.others.isEmpty = true) List.isEmpty_iff
  inferInstanceAs (Decidable (_ ∧ _))

end Assignment

namespace Arguments

/-- The values by place with the parameters of their places, and the values by name told apart. -/
def split (arguments : Arguments ω) (parameters : List String) : Assignment ω where
  values := parameters.zip arguments.placed ++
    arguments.named.filter fun given => parameters.contains given.1
  others := arguments.named.filter fun given => !parameters.contains given.1

/-- Whether there is a parameter for each place, and none that is given by place and by name. -/
def Placeable (arguments : Arguments ω) (parameters : List String) : Prop :=
  arguments.placed.length ≤ parameters.length ∧
    ∀ given ∈ arguments.named, given.1 ∉ parameters.take arguments.placed.length

instance (arguments : Arguments ω) (parameters : List String) :
    Decidable (arguments.Placeable parameters) :=
  inferInstanceAs (Decidable (_ ∧ _))

/-- Matches values with the parameters of a signature, if they fit. -/
def assign? (arguments : Arguments ω) (signature : Signature) : Option (Assignment ω) :=
  let assignment := arguments.split signature.parameters
  if arguments.Placeable signature.parameters ∧ assignment.Fits signature then some assignment
  else none

end Arguments

end Chip8
