/-!
# Keypad

Which of the sixteen keys are held. A wait for a key ends on a press that was not already held when
the keypad was last looked at; of several such keys the lowest counts.
-/

namespace Chip8

structure Keypad where
  keys : Vector Bool 16
deriving DecidableEq

namespace Keypad

/-- No key is held. -/
def released : Keypad := ⟨Vector.replicate 16 false⟩

def held (keypad : Keypad) (key : Fin 16) : Bool :=
  keypad.keys[key]

/-- Records that a key is held or not. -/
def set (keypad : Keypad) (key : Fin 16) (held : Bool) : Keypad :=
  ⟨keypad.keys.set key held⟩

/-- The lowest key that is held now and was not held before. -/
def firstNewPress? (now before : Keypad) : Option (Fin 16) :=
  (List.finRange 16).find? fun key => now.held key && !before.held key

@[ext]
theorem ext {first second : Keypad} (agree : ∀ key, first.held key = second.held key) :
    first = second := by
  cases first with | mk firstKeys =>
  cases second with | mk secondKeys =>
  congr 1
  apply Vector.ext
  intro number inside
  exact agree ⟨number, inside⟩

@[simp]
theorem held_released (key : Fin 16) : released.held key = false := by
  simp [released, held]

theorem held_set (keypad : Keypad) (key other : Fin 16) (held : Bool) :
    (keypad.set key held).held other = if key = other then held else keypad.held other := by
  simp [set, Keypad.held, Vector.getElem_set, Fin.ext_iff]

theorem firstNewPress?_eq_none_iff (now before : Keypad) :
    now.firstNewPress? before = none ↔
      ∀ key, now.held key = true → before.held key = true := by
  simp [firstNewPress?, List.find?_eq_none]

end Keypad

end Chip8
