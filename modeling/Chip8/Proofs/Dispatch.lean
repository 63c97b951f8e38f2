import Mathlib.Data.Int.Bitwise
import Chip8.Inputs
import Chip8.Instruction.Assembly
import Chip8.Proofs.Words

/-!
# One word for every number

A number of any size and sign is read as the instruction word that its lowest sixteen bits are. The
fields of an instruction, its assembly text and its execution each take these bits by themselves:
the fields and the text from the number as a whole, in two's complement, and the execution from a
word cut to sixteen bits. `State.dispatch_agrees` says that all three come to the same place of the
instruction table, which is the only one there is for the word, but for the two words that are
machine-code calls as well.
-/

namespace Chip8

/-! ## The lowest bits of a number -/

namespace Operands

/-- In two's complement, a mask of sixteen bits sees the number modulo `0x10000`. -/
theorem land_natCast (number : Int) {mask : Nat} (narrow : mask < 2 ^ 16) :
    Int.land number mask = ((number % 0x10000).toNat &&& mask : Nat) := by
  have high : ∀ bit, 16 ≤ bit → mask.testBit bit = false := fun bit past =>
    Nat.testBit_lt_two_pow (narrow.trans_le (Nat.pow_le_pow_right (by decide) past))
  cases number with
  | ofNat value =>
    have low : (Int.ofNat value % 0x10000).toNat = value % 2 ^ 16 := by
      simp only [Int.ofNat_eq_natCast]
      omega
    change ((value &&& mask : Nat) : Int) = _
    rw [low]
    refine congrArg Nat.cast (Nat.eq_of_testBit_eq fun bit => ?_)
    rw [Nat.testBit_and, Nat.testBit_and, Nat.testBit_mod_two_pow]
    rcases Nat.lt_or_ge bit 16 with below | past
    · simp [below]
    · simp [high bit past]
  | negSucc value =>
    have low : (Int.negSucc value % 0x10000).toNat = 2 ^ 16 - (value % 2 ^ 16 + 1) := by
      omega
    change ((Nat.ldiff mask value : Nat) : Int) = _
    rw [low]
    refine congrArg Nat.cast (Nat.eq_of_testBit_eq fun bit => ?_)
    rw [Nat.testBit_ldiff, Nat.testBit_and,
      Nat.testBit_two_pow_sub_succ (Nat.mod_lt _ (by decide)), Nat.testBit_mod_two_pow]
    rcases Nat.lt_or_ge bit 16 with below | past
    · simp [below, Bool.and_comm]
    · simp [high bit past]

/-- Digits that are masked and moved to the right are cut out of the number. -/
theorem land_shiftRight (number : Int) {shift width : Nat} (narrow : shift + width ≤ 16) :
    Int.land number ((2 ^ width - 1) * 2 ^ shift : Nat) >>> shift =
      ((number % 0x10000).toNat / 2 ^ shift % 2 ^ width : Nat) := by
  have whole : 2 ^ width * 2 ^ shift ≤ 2 ^ 16 := by
    rw [← Nat.pow_add, Nat.add_comm]
    exact Nat.pow_le_pow_right (by decide) narrow
  have less : (2 ^ width - 1) * 2 ^ shift < 2 ^ width * 2 ^ shift :=
    Nat.mul_lt_mul_of_pos_right (Nat.sub_lt (Nat.two_pow_pos width) (by decide))
      (Nat.two_pow_pos shift)
  rw [land_natCast number (less.trans_le whole), ← Int.natCast_shiftRight,
    Nat.shiftRight_eq_div_pow, Nat.and_div_two_pow, Nat.mul_div_cancel _ (Nat.two_pow_pos shift),
    Nat.and_two_pow_sub_one_eq_mod]

/-- The fields, cut out of the number by masks and shifts. -/
theorem fields_eq_land (number : Int) :
    let fields := ofInt number
    fields.family.val = Int.land number 0xF000 >>> (12 : Nat) ∧
      fields.x.val = Int.land number 0x0F00 >>> (8 : Nat) ∧
      fields.y.val = Int.land number 0x00F0 >>> (4 : Nat) ∧
      fields.n.val = Int.land number 0x000F ∧
      fields.nn.val = Int.land number 0x00FF ∧
      fields.nnn.val = Int.land number 0x0FFF := by
  have family : Int.land number 0xF000 >>> (12 : Nat) = _ :=
    @land_shiftRight number 12 4 (by decide)
  have x : Int.land number 0x0F00 >>> (8 : Nat) = _ := @land_shiftRight number 8 4 (by decide)
  have y : Int.land number 0x00F0 >>> (4 : Nat) = _ := @land_shiftRight number 4 4 (by decide)
  have n : Int.land number 0x000F >>> (0 : Nat) = _ := @land_shiftRight number 0 4 (by decide)
  have nn : Int.land number 0x00FF >>> (0 : Nat) = _ := @land_shiftRight number 0 8 (by decide)
  have nnn : Int.land number 0x0FFF >>> (0 : Nat) = _ := @land_shiftRight number 0 12 (by decide)
  rw [Int.shiftRight_zero] at n nn nnn
  rw [family, x, y, n, nn, nnn]
  simp only [ofInt]
  omega

theorem toNat_ofInt (number : Int) :
    (UInt16.ofInt number).toNat = (number % 0x10000).toNat := by
  rw [UInt16.ofInt, UInt16.toNat_ofNat']
  omega

theorem cast_toNat_ofInt (number : Int) :
    ((UInt16.ofInt number).toNat : Int) = number % 0x10000 := by
  rw [toNat_ofInt]
  omega

/-- A number and its lowest sixteen bits are cut to the same word. -/
theorem wordOfInt_emod (number : Int) :
    UInt16.ofInt (number % 0x10000) = UInt16.ofInt number := by
  rw [← UInt16.toNat_inj, toNat_ofInt, toNat_ofInt, Int.emod_emod]

theorem ofWord_ofInt (number : Int) : ofWord (UInt16.ofInt number) = ofInt number := by
  rw [ofWord, cast_toNat_ofInt, ofInt_emod]

end Operands

/-! ## Places in the table -/

namespace Form

/-- The number and the word cut from it have the same forms. -/
theorem coversInt_eq_covers (form : Form) (number : Int) :
    form.coversInt number = form.covers (UInt16.ofInt number) := by
  rw [Bool.eq_iff_iff, coversInt, covers, beq_iff_eq, beq_iff_eq, ← UInt16.toNat_inj,
    UInt16.toNat_and, Operands.toNat_ofInt]

theorem ofInt?_eq_ofWord? (number : Int) : ofInt? number = ofWord? (UInt16.ofInt number) := by
  simp only [ofInt?, ofWord?, coversInt_eq_covers]

/-- A row of the table, matched against a number as it is. -/
theorem land_eq_pattern_iff (form : Form) (number : Int) :
    Int.land number form.row.mask.toNat = form.row.pattern.toNat ↔
      form.covers (UInt16.ofInt number) = true := by
  rw [← coversInt_eq_covers, coversInt, beq_iff_eq,
    Operands.land_natCast number form.row.mask.toNat_lt]
  exact Int.natCast_inj

theorem getElem?_place (form : Form) : all[form.place]? = some form := by
  cases form <;> rfl

/-- At the place of a word stands its form. -/
theorem getElem?_placeOfWord (word : UInt16) : all[placeOfWord word]? = ofWord? word := by
  cases found : ofWord? word with
  | some form => simp only [placeOfWord, found, getElem?_place]
  | none =>
    simp only [placeOfWord, found]
    exact List.getElem?_eq_none (Nat.le_refl _)

theorem placeOfWord_eq_length_iff (word : UInt16) :
    placeOfWord word = all.length ↔ ofWord? word = none := by
  cases found : ofWord? word with
  | some form =>
    have inside : form.place ≠ all.length := by cases form <;> decide
    simp only [placeOfWord, found, inside, reduceCtorEq]
  | none => simp only [placeOfWord, found]

/-- Two rows of the table match the same word only where the word clears the screen or returns, and
then the later one is the machine-code call. -/
theorem covers_both_iff (first second : Form) (word : UInt16) :
    first.place < second.place ∧ first.covers word = true ∧ second.covers word = true ↔
      second = machineCall ∧ (first = clearScreen ∧ word.toNat = 0x00E0 ∨
        first = ret ∧ word.toNat = 0x00EE) := by
  constructor
  · rintro ⟨before, firstCovers, secondCovers⟩
    have digits := (covers_iff_toNat first word).mp firstCovers
    rcases eq_or_machineCall_of_covers firstCovers secondCovers with
      rfl | ⟨rfl, rfl | rfl⟩ | ⟨rfl, rfl | rfl⟩
    · exact absurd before (Nat.lt_irrefl _)
    · exact absurd before (by decide)
    · exact absurd before (by decide)
    · exact ⟨rfl, .inl ⟨rfl, digits⟩⟩
    · exact ⟨rfl, .inr ⟨rfl, digits⟩⟩
  · have address := Operands.val_nnn_ofWord word
    rintro ⟨rfl, ⟨rfl, digits⟩ | ⟨rfl, digits⟩⟩
    · refine ⟨by decide, (covers_iff_toNat _ word).mpr digits, (covers_iff_toNat _ word).mpr ?_⟩
      simp only [row, free, UInt16.reduceToNat]
      omega
    · refine ⟨by decide, (covers_iff_toNat _ word).mpr digits, (covers_iff_toNat _ word).mpr ?_⟩
      simp only [row, free, UInt16.reduceToNat]
      omega

/-! ## Assembly text -/

/-- The assembly text of a form begins with two letters that do not begin data. -/
theorem take_assemblyText_ne (form : Form) (operands : Operands) :
    (form.assemblyText operands).toList.take 2 ≠ ['D', 'W'] := by
  have opening : ∃ letters rest, form.row.assembly = .letters letters :: rest ∧
      2 ≤ letters.toList.length ∧ letters.toList.take 2 ≠ ['D', 'W'] := by
    cases form <;> exact ⟨_, _, rfl, by decide, by decide⟩
  obtain ⟨letters, rest, begins, long, apart⟩ := opening
  rw [assemblyText, begins, List.map_cons, String.join_cons, String.toList_append]
  rw [List.take_append_of_le_length (by exact long)]
  exact apart

end Form

theorem take_dataText (number : Int) : (dataText number).toList.take 2 = ['D', 'W'] := by
  rw [dataText, String.toList_append]
  rfl

theorem disassemble_of_form {form : Form} {number : Int}
    (found : Form.ofWord? (UInt16.ofInt number) = some form) :
    disassemble number = form.assemblyText (Operands.ofInt number) := by
  simp only [disassemble, Form.ofInt?_eq_ofWord?, found]

theorem disassemble_of_formless {number : Int}
    (none : Form.ofWord? (UInt16.ofInt number) = none) :
    disassemble number = dataText number := by
  simp only [disassemble, Form.ofInt?_eq_ofWord?, none]

/-- Only a number without a form reads as data. -/
theorem data_prefix_iff (number : Int) : ['D', 'W'] <+: (disassemble number).toList ↔
    Form.ofWord? (UInt16.ofInt number) = none := by
  rw [List.prefix_iff_eq_take]
  cases found : Form.ofWord? (UInt16.ofInt number) with
  | some form =>
    rw [disassemble_of_form found]
    exact iff_of_false (Form.take_assemblyText_ne form _).symm (by simp)
  | none =>
    rw [disassemble_of_formless found]
    exact iff_of_true (take_dataText number).symm rfl

/-! ## Handlers -/

/-- What is done for a word, by the place of its form in the table; the last one is for a word
without a form. -/
def handlers : List (Operands → State → State) :=
  Form.all.map Form.perform ++ [fun _ state => state.halt .unknownInstruction]

namespace State

/-- A word is executed by the handler at its place. -/
theorem handlers_placeOfWord (state : State) (word : UInt16) :
    ∃ handler, handlers[Form.placeOfWord word]? = some handler ∧
      state.execute word = handler (Operands.ofWord word) { state with opcode := word } := by
  cases found : Form.ofWord? word with
  | some form =>
    have there : Form.all[Form.placeOfWord word]? = some form := by
      rw [Form.getElem?_placeOfWord, found]
    have inside : Form.placeOfWord word < (Form.all.map Form.perform).length := by
      rw [List.length_map]
      exact (List.getElem?_eq_some_iff.mp there).1
    refine ⟨form.perform, ?_, by simp only [execute, found]⟩
    rw [handlers, List.getElem?_append_left inside, List.getElem?_map, there]
    rfl
  | none =>
    have last : Form.placeOfWord word = Form.all.length :=
      (Form.placeOfWord_eq_length_iff word).mpr found
    refine ⟨fun _ state => state.halt .unknownInstruction, ?_, by simp only [execute, found]⟩
    rw [last]
    rfl

/-- **Decoding, assembly text and execution agree.** For every number, with `low` for its lowest
sixteen bits: the fields are the digits of `low`, as masks and shifts cut them out of the number
itself. The rows of the table that match the number are those that match `low`; no two do, unless
`low` clears the screen or returns and the later row is the machine-code call. The assembly text of
the number is written by the row at the place of `low`, and is then the text of `low` as well; it is
a line of data just where `low` has no place. A number that fits 32 bits with a sign is executed as
`low` is, by the handler at the place of `low`. -/
theorem dispatch_agrees (state : State) (number : Int) :
    let low := number % 0x10000
    let word := UInt16.ofInt number
    let operands := Operands.ofInt number
    let place := Form.placeOfWord word
    (word.toNat = low ∧ Form.placeOfInt? low = some place) ∧
    (low = 0x1000 * operands.family.val + operands.nnn.val ∧
      operands.nnn.val = 0x100 * operands.x.val + operands.nn.val ∧
      operands.nn.val = 0x10 * operands.y.val + operands.n.val) ∧
    (operands.family.val = Int.land number 0xF000 >>> (12 : Nat) ∧
      operands.x.val = Int.land number 0x0F00 >>> (8 : Nat) ∧
      operands.y.val = Int.land number 0x00F0 >>> (4 : Nat) ∧
      operands.n.val = Int.land number 0x000F ∧
      operands.nn.val = Int.land number 0x00FF ∧
      operands.nnn.val = Int.land number 0x0FFF) ∧
    (∀ form : Form, Int.land number form.row.mask.toNat = form.row.pattern.toNat ↔
      form.covers word = true) ∧
    (∀ first second : Form,
      first.place < second.place ∧ first.covers word = true ∧ second.covers word = true ↔
        second = .machineCall ∧ (first = .clearScreen ∧ low = 0x00E0 ∨
          first = .ret ∧ low = 0x00EE)) ∧
    (∀ form, Form.all[place]? = some form →
      disassemble number = String.join (form.row.assembly.map operands.fill) ∧
        disassemble number = disassemble low) ∧
    (place = Form.all.length → disassemble number = dataText number) ∧
    (['D', 'W'] <+: (disassemble number).toList ↔ place = Form.all.length) ∧
    (-0x80000000 ≤ number ∧ number < 0x80000000 →
      state.executeInt number = state.executeInt low ∧
        ∃ handler, handlers[place]? = some handler ∧
          state.executeInt number = .ok (handler operands { state with opcode := word })) := by
  intro low word operands place
  refine ⟨⟨Operands.cast_toNat_ofInt number, ?place⟩, Operands.ofInt_digits number,
    Operands.fields_eq_land number, fun form => Form.land_eq_pattern_iff form number, ?rows,
    fun form there => ?text, ?data, ?line, ?execution⟩
  case place =>
    have inside : 0 ≤ low ∧ low < 0x10000 := by omega
    rw [Form.placeOfInt?, if_pos inside, Operands.wordOfInt_emod]
  case rows =>
    intro first second
    have value : (word.toNat : Int) = low := Operands.cast_toNat_ofInt number
    rw [Form.covers_both_iff, ← value]
    norm_cast
  case text =>
    have found : Form.ofWord? word = some form := by rw [← Form.getElem?_placeOfWord, there]
    refine ⟨disassemble_of_form found, ?_⟩
    have same : Form.ofWord? (UInt16.ofInt low) = some form := by
      rw [Operands.wordOfInt_emod, found]
    rw [disassemble_of_form found, disassemble_of_form same, Operands.ofInt_emod]
  case data =>
    intro last
    exact disassemble_of_formless ((Form.placeOfWord_eq_length_iff word).mp last)
  case line => rw [data_prefix_iff, Form.placeOfWord_eq_length_iff]
  case execution =>
    intro fits
    have inside : -0x80000000 ≤ low ∧ low < 0x80000000 := by omega
    obtain ⟨handler, there, runs⟩ := state.handlers_placeOfWord word
    have executes : state.executeInt number = .ok (state.execute word) := if_pos fits
    refine ⟨?_, handler, there, ?_⟩
    · rw [executes, executeInt, if_pos inside, Operands.wordOfInt_emod]
    · rw [executes, runs, Operands.ofWord_ofInt]

/-- A negative number adds two registers, as its lowest bits `0x8124` do. A number of seventeen bits
is no instruction, and is shown as data. -/
theorem dispatch_agrees_on_wide_numbers :
    let state := { fresh ⟨0, 0⟩ with registers := (Registers.zero.set 1 200).set 2 100 }
    Form.all[Form.placeOfWord (UInt16.ofInt (-163548))]? = some .add ∧
      disassemble (-163548) = disassemble 0x8124 ∧
      Form.placeOfWord (UInt16.ofInt 0x1F0FF) = Form.all.length ∧
      disassemble 0x1F0FF = dataText 0x1F0FF ∧
      (-0x80000000 ≤ (-163548 : Int) ∧ (-163548 : Int) < 0x80000000) ∧
      state.executeInt (-163548) = state.executeInt 0x8124 := by
  intro state
  have there : Form.all[Form.placeOfWord (UInt16.ofInt (-163548))]? = some .add := by
    decide +kernel
  have last : Form.placeOfWord (UInt16.ofInt 0x1F0FF) = Form.all.length := by decide +kernel
  have fits : -0x80000000 ≤ (-163548 : Int) ∧ (-163548 : Int) < 0x80000000 := by decide
  obtain ⟨-, -, -, -, -, texts, -, -, executes⟩ := dispatch_agrees state (-163548)
  obtain ⟨-, -, -, -, -, -, data, -, -⟩ := dispatch_agrees state 0x1F0FF
  exact ⟨there, (texts .add there).2, last, data last, fits, (executes fits).1⟩

end State

end Chip8
