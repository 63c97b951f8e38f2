import Chip8.Instruction.Form
import Chip8.Instruction.Operands

/-!
# Words and their forms

The instruction table tells a form by a mask and a pattern, and a word takes the first form that
covers it. This module says both in digits: which words a form covers, and that first or not makes
no difference but for clearing the screen and returning, which machine-code calls cover too.
-/

namespace Chip8

/-! ## The fields of a word as numbers -/

namespace Operands

variable (word : UInt16)

theorem val_x_ofWord : (ofWord word).x.val = word.toNat / 0x100 % 16 := by
  simp only [ofWord, ofInt]
  omega

theorem val_y_ofWord : (ofWord word).y.val = word.toNat / 0x10 % 16 := by
  simp only [ofWord, ofInt]
  omega

theorem val_n_ofWord : (ofWord word).n.val = word.toNat % 16 := by
  simp only [ofWord, ofInt]
  omega

theorem val_nn_ofWord : (ofWord word).nn.val = word.toNat % 0x100 := by
  simp only [ofWord, ofInt]
  omega

theorem val_nnn_ofWord : (ofWord word).nnn.val = word.toNat % 0x1000 := by
  simp only [ofWord, ofInt]
  omega

variable {word} in
/-- A word names one register between the first digit and the last two. -/
theorem x_ofWord_of_digits {pattern : Nat} {x : Fin 16} (digits : word.toNat = pattern + 0x100 * x)
    (plain : pattern / 0x100 % 16 = 0) : (ofWord word).x = x := by
  have named := val_x_ofWord word
  omega

end Operands

/-! ## Masks cut numbers at digit boundaries -/

/-- Bitwise and works on the last three digits and on what stands before them by themselves. -/
theorem and_split (number mask : Nat) :
    number &&& mask = (number / 0x1000 &&& mask / 0x1000) * 0x1000
      + (number % 0x1000 &&& mask % 0x1000) := by
  have high : (number &&& mask) / 0x1000 = number / 0x1000 &&& mask / 0x1000 :=
    @Nat.and_div_two_pow number mask 12
  have low : (number &&& mask) % 0x1000 = number % 0x1000 &&& mask % 0x1000 :=
    @Nat.and_mod_two_pow number mask 12
  omega

/-- Masking the first digit leaves out the address. -/
theorem and_family_add (word : UInt16) :
    (word.toNat &&& 0xF000) + (Operands.ofWord word).nnn = word.toNat := by
  have small : word.toNat < 0x10000 := word.toNat_lt
  have high : word.toNat / 0x1000 &&& 0xF = word.toNat / 0x1000 % 0x10 :=
    Nat.and_two_pow_sub_one_eq_mod _ 4
  have split := and_split word.toNat 0xF000
  simp only [Nat.reduceDiv, Nat.reduceMod, Nat.and_zero] at split high
  simp only [split, high, Operands.val_nnn_ofWord]
  omega

/-- Masking the first and the last digit leaves out the two registers. -/
theorem and_familyLast_add (word : UInt16) :
    (word.toNat &&& 0xF00F) + (0x100 * (Operands.ofWord word).x + 0x10 * (Operands.ofWord word).y)
      = word.toNat := by
  have small : word.toNat < 0x10000 := word.toNat_lt
  have low : word.toNat % 0x1000 &&& 0xF = word.toNat % 0x1000 % 0x10 :=
    Nat.and_two_pow_sub_one_eq_mod _ 4
  have high : word.toNat / 0x1000 &&& 0xF = word.toNat / 0x1000 % 0x10 :=
    Nat.and_two_pow_sub_one_eq_mod _ 4
  have split := and_split word.toNat 0xF00F
  simp only [Nat.reduceDiv, Nat.reduceMod] at split high low
  simp only [split, high, low, Operands.val_x_ofWord, Operands.val_y_ofWord]
  omega

/-- Masking the first digit and the last byte leaves out the first register. -/
theorem and_familyByte_add (word : UInt16) :
    (word.toNat &&& 0xF0FF) + 0x100 * (Operands.ofWord word).x = word.toNat := by
  have small : word.toNat < 0x10000 := word.toNat_lt
  have low : word.toNat % 0x1000 &&& 0xFF = word.toNat % 0x1000 % 0x100 :=
    Nat.and_two_pow_sub_one_eq_mod _ 8
  have high : word.toNat / 0x1000 &&& 0xF = word.toNat / 0x1000 % 0x10 :=
    Nat.and_two_pow_sub_one_eq_mod _ 4
  have split := and_split word.toNat 0xF0FF
  simp only [Nat.reduceDiv, Nat.reduceMod] at split high low
  simp only [split, high, low, Operands.val_x_ofWord]
  omega

/-- Masking all digits leaves nothing out. -/
theorem and_word (word : UInt16) : word.toNat &&& 0xFFFF = word.toNat := by
  have small : word.toNat < 0x10000 := word.toNat_lt
  have whole : word.toNat &&& 0xFFFF = word.toNat % 0x10000 := Nat.and_two_pow_sub_one_eq_mod _ 16
  omega

namespace Form

/-! ## The words of a form -/

/-- What the operands add to the pattern of a form: the digits that its mask leaves free. -/
def free (form : Form) (operands : Operands) : Nat :=
  match form with
  | clearScreen | ret => 0
  | machineCall | jump | call | skipEqualByte | skipUnequalByte | setByte | addByte
  | setIndex | jumpOffset | random | draw => operands.nnn
  | skipEqual | move | bitOr | bitAnd | bitXor | add | subtract | shiftRight | subtractFrom
  | shiftLeft | skipUnequal => 0x100 * operands.x + 0x10 * operands.y
  | skipPressed | skipReleased | readDelay | awaitKey | setDelay | setSound | addIndex
  | digitSprite | storeDecimal | storeRegisters | loadRegisters => 0x100 * operands.x

/-- What a mask keeps of a word and what it leaves free make up the word. -/
theorem and_mask_add_free (form : Form) (word : UInt16) :
    (word.toNat &&& form.row.mask.toNat) + form.free (Operands.ofWord word) = word.toNat := by
  cases form with
  | clearScreen | ret => exact and_word word
  | machineCall | jump | call | skipEqualByte | skipUnequalByte | setByte | addByte
  | setIndex | jumpOffset | random | draw => exact and_family_add word
  | skipEqual | move | bitOr | bitAnd | bitXor | add | subtract | shiftRight | subtractFrom
  | shiftLeft | skipUnequal => exact and_familyLast_add word
  | skipPressed | skipReleased | readDelay | awaitKey | setDelay | setSound | addIndex
  | digitSprite | storeDecimal | storeRegisters | loadRegisters => exact and_familyByte_add word

/-- A form covers a word if the word is its pattern with the operands put in. -/
theorem covers_iff_toNat (form : Form) (word : UInt16) :
    form.covers word = true ↔
      word.toNat = form.row.pattern.toNat + form.free (Operands.ofWord word) := by
  have whole := and_mask_add_free form word
  rw [covers, beq_iff_eq, ← UInt16.toNat_inj, UInt16.toNat_and]
  omega

/-- Two rows of the table agree on the bits that both look at only where one is a machine-code
call and the other one of the two words before it. -/
theorem eq_or_machineCall_of_compatible : ∀ first ∈ all, ∀ second ∈ all,
    first.row.pattern &&& second.row.mask = second.row.pattern &&& first.row.mask →
      first = second ∨
        first = machineCall ∧ (second = clearScreen ∨ second = ret) ∨
        second = machineCall ∧ (first = clearScreen ∨ first = ret) := by
  decide +kernel

/-- A word that two forms cover is a machine-code call that the table takes for another form. -/
theorem eq_or_machineCall_of_covers {first second : Form} {word : UInt16}
    (firstCovers : first.covers word = true) (secondCovers : second.covers word = true) :
    first = second ∨
      first = machineCall ∧ (second = clearScreen ∨ second = ret) ∨
      second = machineCall ∧ (first = clearScreen ∨ first = ret) := by
  apply eq_or_machineCall_of_compatible first (mem_all first) second (mem_all second)
  rw [covers, beq_iff_eq] at firstCovers secondCovers
  rw [← firstCovers, ← secondCovers, UInt16.and_assoc, UInt16.and_assoc,
    UInt16.and_comm first.row.mask]

theorem covers_of_ofWord? {form : Form} {word : UInt16} (found : ofWord? word = some form) :
    form.covers word = true :=
  List.find?_some (p := fun other : Form => other.covers word) found

theorem ofWord?_eq_none_iff {word : UInt16} :
    ofWord? word = none ↔ ∀ form : Form, form.covers word = false := by
  simp only [ofWord?, List.find?_eq_none, Bool.not_eq_true]
  exact ⟨fun none form => none form (mem_all form), fun none form _ => none form⟩

/-- A form other than a machine-code call is found wherever it covers. -/
theorem ofWord?_of_covers {form : Form} {word : UInt16} (ordinary : form ≠ machineCall)
    (covering : form.covers word = true) : ofWord? word = some form := by
  cases found : ofWord? word with
  | none =>
    rw [ofWord?_eq_none_iff.mp found form] at covering
    contradiction
  | some other =>
    have both := eq_or_machineCall_of_covers covering (covers_of_ofWord? found)
    rcases both with rfl | ⟨call, -⟩ | ⟨rfl, early⟩
    · rfl
    · exact absurd call ordinary
    · -- the table reaches a machine-code call only behind the two forms before it
      rw [ofWord?, all] at found
      rcases early with rfl | rfl
      · simp [covering] at found
      · simp only [List.find?_cons, covering] at found
        split at found <;> simp at found

end Form

end Chip8
