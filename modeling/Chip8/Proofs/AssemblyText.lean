import Chip8.Proofs.Dispatch
import Chip8.Proofs.RegisterArithmetic

/-!
# What assembly text tells

From its assembly text a word can be told, but for the second register of the two shifts, which is
not written and makes no difference. This rests on two facts about the rows of the instruction
table. Lines of different forms have different letters at some place (`Form.eq_or_differ`), and a
line gives its operands back, because all of them are of fixed width but one at the end
(`Operands.fill_of_line`).
-/

namespace Chip8

/-! ## Hexadecimal numbers read back -/

namespace Text

/-- The value of a hexadecimal digit in upper case. -/
def hexDigitValue (c : Char) : Nat :=
  if c.toNat < 0x41 then c.toNat - 0x30 else c.toNat - 0x37

/-- The number that hexadecimal digits in upper case stand for. -/
def hexValue (digits : List Char) : Nat :=
  digits.foldl (fun value c => 16 * value + hexDigitValue c) 0

theorem hexDigitValue_digitChar {digit : Nat} (small : digit < 16) :
    hexDigitValue (Nat.digitChar digit).toUpper = digit := by
  have each : ∀ digit : Fin 16, hexDigitValue (Nat.digitChar digit).toUpper = digit := by decide
  exact each ⟨digit, small⟩

theorem hexValue_concat (digits : List Char) (last : Char) :
    hexValue (digits ++ [last]) = 16 * hexValue digits + hexDigitValue last := by
  simp only [hexValue, List.foldl_append, List.foldl_cons, List.foldl_nil]

theorem hexValue_zeros (count : Nat) (digits : List Char) :
    hexValue (List.replicate count '0' ++ digits) = hexValue digits := by
  induction count with
  | zero => rfl
  | succ count ih => exact ih

theorem hexValue_hexDigits (value : Nat) : hexValue (hexDigits value).toList = value := by
  induction value using Nat.strongRecOn with
  | ind value ih =>
    rw [hexDigits, String.toList_ofList]
    rcases Nat.lt_or_ge value 16 with small | large
    · rw [Nat.toDigits_of_lt_base small]
      exact (Nat.zero_add _).trans (hexDigitValue_digitChar small)
    · have front := ih (value / 16) (by omega)
      rw [hexDigits, String.toList_ofList] at front
      rw [Nat.toDigits_of_base_le (by decide) large, List.map_append, List.map_cons, List.map_nil,
        hexValue_concat, front, hexDigitValue_digitChar (Nat.mod_lt _ (by decide))]
      exact Nat.div_add_mod value 16

theorem hex_natCast (width value : Nat) :
    (hex width value).toList =
      List.replicate (width - (hexDigits value).length) '0' ++ (hexDigits value).toList := by
  have plain : sign value = "" := if_neg (by omega)
  simp [hex, plain, alignRight]

/-- Hexadecimal of any width reads back. -/
theorem hexValue_hex (width value : Nat) : hexValue (hex width value).toList = value := by
  rw [hex_natCast, hexValue_zeros, hexValue_hexDigits]

theorem hex_injective {width first second : Nat} (same : hex width first = hex width second) :
    first = second := by
  rw [← hexValue_hex width first, same, hexValue_hex]

theorem hexDigits_injective {first second : Nat} (same : hexDigits first = hexDigits second) :
    first = second := by
  rw [← hexValue_hexDigits first, same, hexValue_hexDigits]

theorem digits_injective {first second : Nat} (same : digits first = digits second) :
    first = second := by
  rw [← @Nat.ofDigitChars_ten_toDigits first, String.ofList_inj.mp same,
    Nat.ofDigitChars_ten_toDigits]

theorem length_hexDigits_le {width value : Nat} (positive : 0 < width)
    (small : value < 16 ^ width) : (hexDigits value).length ≤ width := by
  rw [hexDigits, String.length_ofList, List.length_map]
  exact (Nat.length_toDigits_le_iff (by decide) positive).mpr small

/-- A number that fits a width is written in just that width. -/
theorem length_hex {width value : Nat} (positive : 0 < width) (small : value < 16 ^ width) :
    (hex width value).toList.length = width := by
  have fits := length_hexDigits_le positive small
  rw [hex_natCast, List.length_append, List.length_replicate, String.length_toList]
  omega

end Text

/-! ## Operands in a line -/

/-- The number that an operand stands for. -/
def Operands.value (operands : Operands) : Slot → Nat
  | .x => operands.x
  | .y => operands.y
  | .n => operands.n
  | .nn => operands.nn
  | .nnn => operands.nnn

namespace Operands

variable {first second : Operands}

theorem value_of_text {slot : Slot} (same : first.text slot = second.text slot) :
    first.value slot = second.value slot := by
  cases slot with
  | x | y => exact Text.hexDigits_injective same
  | n => exact Text.digits_injective same
  | nn | nnn => exact Text.hex_injective ((String.append_right_inj _).mp same)

/-- The letters of an operand at their places; where a digit stands there is none. The height of a
sprite has no fixed width and is left out. -/
def letters : Slot → List (Option Char)
  | .x | .y => [none]
  | .nn => [some '0', some 'x', none, none]
  | .nnn => [some '0', some 'x', none, none, none]
  | .n => []

theorem length_text (operands : Operands) {slot : Slot} (steady : slot ≠ .n) :
    (operands.text slot).toList.length = (letters slot).length := by
  have digit : ∀ digit : Fin 16, (Text.hexDigits digit).toList.length = 1 := by decide
  cases slot with
  | n => contradiction
  | x => exact digit operands.x
  | y => exact digit operands.y
  | nn =>
    have wide := @Text.length_hex 2 operands.nn.val (by decide) operands.nn.isLt
    rw [text, String.toList_append, List.length_append, wide]
    rfl
  | nnn =>
    have wide := @Text.length_hex 3 operands.nnn.val (by decide) operands.nnn.isLt
    rw [text, String.toList_append, List.length_append, wide]
    rfl

/-- A line as characters. -/
def line (operands : Operands) (pieces : List Piece) : List Char :=
  (String.join (pieces.map operands.fill)).toList

theorem line_cons (operands : Operands) (piece : Piece) (pieces : List Piece) :
    operands.line (piece :: pieces) = (operands.fill piece).toList ++ operands.line pieces := by
  rw [line, List.map_cons, String.join_cons, String.toList_append]
  rfl

/-- Equal lines show equal operands, if only the last one is not of fixed width. -/
theorem fill_of_line {pieces : List Piece} (steady : .operand .n ∉ pieces.dropLast)
    (same : first.line pieces = second.line pieces) :
    ∀ piece ∈ pieces, first.fill piece = second.fill piece := by
  induction pieces with
  | nil => exact List.forall_mem_nil _
  | cons piece rest ih =>
    rw [line_cons, line_cons] at same
    cases rest with
    | nil =>
      refine List.forall_mem_singleton.mpr (String.toList_inj.mp ?_)
      simpa [line] using same
    | cons next rest =>
      rw [List.dropLast_cons_cons, List.mem_cons, not_or] at steady
      have wide : (first.fill piece).toList.length = (second.fill piece).toList.length := by
        cases piece with
        | letters => rfl
        | operand slot =>
          have fixed : slot ≠ .n := fun height => steady.1 (by rw [height])
          exact (first.length_text fixed).trans (second.length_text fixed).symm
      obtain ⟨front, back⟩ := List.append_inj same wide
      exact List.forall_mem_cons.mpr ⟨String.toList_inj.mp front, ih steady.2 back⟩

/-! ## Letters in a line -/

/-- The letters of a line at their places, up to the height of a sprite. -/
def lineLetters : List Piece → List (Option Char)
  | [] => []
  | .letters text :: rest => text.toList.map some ++ lineLetters rest
  | .operand slot :: rest => if slot = .n then [] else letters slot ++ lineLetters rest

/-- A text has the letters at their places. -/
def Shows (text : List Char) (letters : List (Option Char)) : Prop :=
  ∀ (place : Nat) (c : Char), letters[place]? = some (some c) → text[place]? = some c

theorem Shows.append {front back : List Char} {early late : List (Option Char)}
    (shows : Shows front early) (wide : front.length = early.length) (further : Shows back late) :
    Shows (front ++ back) (early ++ late) := by
  intro place c there
  rcases Nat.lt_or_ge place early.length with inside | past
  · rw [List.getElem?_append_left inside] at there
    rw [List.getElem?_append_left (by omega)]
    exact shows place c there
  · rw [List.getElem?_append_right past] at there
    rw [List.getElem?_append_right (by omega), wide]
    exact further _ c there

theorem shows_map_some (text : List Char) : Shows text (text.map some) := by
  intro place c there
  rw [List.getElem?_map, Option.map_eq_some_iff] at there
  obtain ⟨letter, found, same⟩ := there
  rw [found, Option.some.inj same]

theorem shows_of_none {letters : List (Option Char)} (line : List Char)
    (bare : ∀ letter ∈ letters, letter = none) : Shows line letters := by
  intro place c there
  have nowhere := bare (some c) (List.mem_of_getElem? there)
  contradiction

theorem shows_text (operands : Operands) (slot : Slot) :
    Shows (operands.text slot).toList (letters slot) := by
  cases slot with
  | x | y | n => exact shows_of_none _ (by decide)
  | nn =>
    have bare (line : List Char) : Shows line [none, none] := shows_of_none line (by decide)
    rw [text, String.toList_append]
    exact (shows_map_some "0x".toList).append rfl (bare _)
  | nnn =>
    have bare (line : List Char) : Shows line [none, none, none] := shows_of_none line (by decide)
    rw [text, String.toList_append]
    exact (shows_map_some "0x".toList).append rfl (bare _)

/-- Operands do not change the letters of a line. -/
theorem shows_line (operands : Operands) (pieces : List Piece) :
    Shows (operands.line pieces) (lineLetters pieces) := by
  induction pieces with
  | nil => exact shows_of_none _ (List.forall_mem_nil _)
  | cons piece rest ih =>
    rw [line_cons]
    cases piece with
    | letters text => exact (shows_map_some text.toList).append (List.length_map _).symm ih
    | operand slot =>
      rw [lineLetters]
      split
      · exact shows_of_none _ (List.forall_mem_nil _)
      · next steady => exact (operands.shows_text slot).append (operands.length_text steady) ih

end Operands

namespace Form

/-- Two lists of letters have different ones at some place. -/
def differ (first second : List (Option Char)) : Bool :=
  (first.zip second).any fun
    | (some a, some b) => a != b
    | _ => false

theorem exists_of_differ {first second : List (Option Char)}
    (differs : differ first second = true) :
    ∃ (place : Nat) (a b : Char), a ≠ b ∧ first[place]? = some (some a) ∧
      second[place]? = some (some b) := by
  obtain ⟨⟨a?, b?⟩, among, unequal⟩ := List.any_eq_true.mp differs
  obtain ⟨place, there⟩ := List.mem_iff_getElem?.mp among
  obtain ⟨atFirst, atSecond⟩ := List.getElem?_zip_eq_some.mp there
  cases a? with
  | none => simp at unequal
  | some a =>
    cases b? with
    | none => simp at unequal
    | some b => exact ⟨place, a, b, by simpa using unequal, atFirst, atSecond⟩

/-- Any two rows of the table have different letters at some place. -/
theorem eq_or_differ : ∀ first ∈ all, ∀ second ∈ all, first = second ∨
    differ (Operands.lineLetters first.row.assembly)
      (Operands.lineLetters second.row.assembly) = true := by
  decide +kernel

variable {first second form : Form} {a b : Operands}

/-- The assembly text tells the form. -/
theorem eq_of_assemblyText (same : first.assemblyText a = second.assemblyText b) :
    first = second := by
  rcases eq_or_differ first (mem_all first) second (mem_all second) with equal | differs
  · exact equal
  · obtain ⟨place, letter, other, apart, atFirst, atSecond⟩ := exists_of_differ differs
    have shown := a.shows_line first.row.assembly place letter atFirst
    have shownToo := b.shows_line second.row.assembly place other atSecond
    have lines : a.line first.row.assembly = b.line second.row.assembly :=
      congrArg String.toList same
    rw [lines, shownToo] at shown
    exact absurd (Option.some.inj shown).symm apart

/-- The assembly text tells the operands that its form shows. -/
theorem value_of_assemblyText (same : form.assemblyText a = form.assemblyText b) {slot : Slot}
    (shown : .operand slot ∈ form.row.assembly) : a.value slot = b.value slot := by
  have steady : .operand .n ∉ form.row.assembly.dropLast := by cases form <;> decide
  exact Operands.value_of_text
    (Operands.fill_of_line steady (congrArg String.toList same) _ shown)

end Form

/-! ## Words -/

/-- The fields of a word are its digits. -/
theorem Operands.ofWord_digits (word : UInt16) :
    let fields := ofWord word
    fields.nnn.val = 0x100 * fields.x.val + fields.nn.val ∧
      fields.nn.val = 0x10 * fields.y.val + fields.n.val :=
  (ofInt_digits word.toNat).2

/-- Words of a form that show the same operands leave the same digits free, but for the shifts,
which do not show the second register. -/
theorem Form.free_eq (form : Form) (right : form ≠ .shiftRight) (left : form ≠ .shiftLeft)
    {first second : UInt16} (agree : ∀ slot, .operand slot ∈ form.row.assembly →
      (Operands.ofWord first).value slot = (Operands.ofWord second).value slot) :
    form.free (Operands.ofWord first) = form.free (Operands.ofWord second) := by
  have digits := Operands.ofWord_digits first
  have digitsToo := Operands.ofWord_digits second
  generalize Operands.ofWord first = a at *
  generalize Operands.ofWord second = b at *
  cases form with
  | clearScreen | ret => rfl
  | machineCall | jump | call | setIndex | jumpOffset => exact agree .nnn (by decide)
  | skipEqualByte | skipUnequalByte | setByte | addByte | random =>
    have x : a.x.val = b.x.val := agree .x (by decide)
    have nn : a.nn.val = b.nn.val := agree .nn (by decide)
    simp only [free]
    omega
  | draw =>
    have x : a.x.val = b.x.val := agree .x (by decide)
    have y : a.y.val = b.y.val := agree .y (by decide)
    have n : a.n.val = b.n.val := agree .n (by decide)
    simp only [free]
    omega
  | skipEqual | move | bitOr | bitAnd | bitXor | add | subtract | subtractFrom | skipUnequal =>
    have x : a.x.val = b.x.val := agree .x (by decide)
    have y : a.y.val = b.y.val := agree .y (by decide)
    simp only [free, x, y]
  | shiftRight | shiftLeft => contradiction
  | skipPressed | skipReleased | readDelay | awaitKey | setDelay | setSound | addIndex
  | digitSprite | storeDecimal | storeRegisters | loadRegisters =>
    have x : a.x.val = b.x.val := agree .x (by decide)
    simp only [free, x]

section Words

variable {first second word : UInt16}

theorem wordOfInt_toNat (word : UInt16) : UInt16.ofInt word.toNat = word := by
  rw [← UInt16.toNat_inj, Operands.toNat_ofInt]
  have small := word.toNat_lt
  omega

theorem disassemble_word_of_form {form : Form} (found : Form.ofWord? word = some form) :
    disassemble word.toNat = form.assemblyText (Operands.ofWord word) := by
  rw [← wordOfInt_toNat word] at found
  exact disassemble_of_form found

theorem disassemble_word_of_formless (none : Form.ofWord? word = none) :
    disassemble word.toNat = dataText word.toNat := by
  rw [← wordOfInt_toNat word] at none
  exact disassemble_of_formless none

/-- Words with the same text have the same form or are both data. -/
theorem ofWord?_eq_of_disassemble (same : disassemble first.toNat = disassemble second.toNat) :
    Form.ofWord? first = Form.ofWord? second := by
  have data : Form.ofWord? first = none ↔ Form.ofWord? second = none := by
    have reads := data_prefix_iff first.toNat
    rw [same, data_prefix_iff, wordOfInt_toNat, wordOfInt_toNat] at reads
    exact reads.symm
  cases found : Form.ofWord? first with
  | none => exact (data.mp found).symm
  | some form =>
    cases foundToo : Form.ofWord? second with
    | none => rw [data.mpr foundToo] at found; contradiction
    | some other =>
      rw [disassemble_word_of_form found, disassemble_word_of_form foundToo] at same
      rw [Form.eq_of_assemblyText same]

end Words

/-! ## Shifts -/

/-- Two words `8XY6`, or two words `8XYE`, with the same first register, whatever the second is. -/
def SameShift (first second : UInt16) : Prop :=
  ∃ (x y z : Fin 16) (digit : Nat), (digit = 6 ∨ digit = 0xE) ∧
    first.toNat = 0x8000 + 0x100 * x + 0x10 * y + digit ∧
    second.toNat = 0x8000 + 0x100 * x + 0x10 * z + digit

namespace Operation

/-- The operations that read one register only. -/
def Shifts (operation : Operation) : Prop :=
  operation = shiftRight ∨ operation = shiftLeft

variable {operation : Operation} {word : UInt16} {x y : Fin 16}

theorem exists_shift {digit : Nat} (shifts : digit = 6 ∨ digit = 0xE) :
    ∃ operation : Operation, operation.Shifts ∧ digit = operation.digit := by
  rcases shifts with rfl | rfl
  · exact ⟨shiftRight, .inl rfl, rfl⟩
  · exact ⟨shiftLeft, .inr rfl, rfl⟩

theorem covers_form_iff (operation : Operation) (word : UInt16) :
    operation.form.covers word = true ↔ word.toNat = 0x8000
      + 0x100 * (Operands.ofWord word).x + 0x10 * (Operands.ofWord word).y + operation.digit := by
  rw [Form.covers_iff_toNat, operation.toNat_pattern_form, operation.free_form]
  omega

theorem write_shift (shifts : operation.Shifts) (registers : Registers) (x y z : Fin 16) :
    operation.write registers x y = operation.write registers x z := by
  rcases shifts with rfl | rfl <;> rfl

/-- The text of a shift shows the first register only. -/
theorem disassemble_shift (shifts : operation.Shifts)
    (digits : word.toNat = 0x8000 + 0x100 * x + 0x10 * y + operation.digit) :
    disassemble word.toNat = operation.form.assemblyText { Operands.ofWord 0 with x } := by
  have last : operation.digit < 0x10 := by cases operation <;> decide
  have first := Operands.val_x_ofWord word
  have second := Operands.val_y_ofWord word
  have covering : operation.form.covers word = true := by
    rw [operation.covers_form_iff]
    omega
  have named : (Operands.ofWord word).x = x := by omega
  rw [disassemble_word_of_form (Form.ofWord?_of_covers operation.form_ne_machineCall covering)]
  rcases shifts with rfl | rfl <;> rw [← named] <;> rfl

end Operation

/-- Words of a shift that show the same register are the same shift. -/
theorem sameShift_of_covers {operation : Operation} (shifts : operation.Shifts)
    {first second : UInt16} (covers : operation.form.covers first = true)
    (coversToo : operation.form.covers second = true)
    (same : (Operands.ofWord first).x.val = (Operands.ofWord second).x.val) :
    SameShift first second := by
  rw [operation.covers_form_iff] at covers coversToo
  rw [← same] at coversToo
  refine ⟨_, _, _, operation.digit, ?_, covers, coversToo⟩
  rcases shifts with rfl | rfl
  · exact .inl rfl
  · exact .inr rfl

/-! ## Text and effect -/

/-- Two words have the same text just if they are equal or the same shift. -/
theorem disassemble_eq_iff (first second : UInt16) :
    disassemble first.toNat = disassemble second.toNat ↔
      first = second ∨ SameShift first second := by
  constructor
  · intro same
    have foundToo := ofWord?_eq_of_disassemble same
    cases found : Form.ofWord? first with
    | none =>
      rw [found] at foundToo
      rw [disassemble_word_of_formless found, disassemble_word_of_formless foundToo.symm] at same
      exact .inl (UInt16.toNat_inj.mp (Text.hex_injective ((String.append_right_inj _).mp same)))
    | some form =>
      rw [found] at foundToo
      have covers := Form.covers_of_ofWord? found
      have coversToo := Form.covers_of_ofWord? foundToo.symm
      rw [disassemble_word_of_form found, disassemble_word_of_form foundToo.symm] at same
      by_cases shifts : ∃ operation : Operation, operation.Shifts ∧ form = operation.form
      · obtain ⟨operation, shifts, rfl⟩ := shifts
        have shown : .operand .x ∈ operation.form.row.assembly := by
          rcases shifts with rfl | rfl <;> decide
        exact .inr (sameShift_of_covers shifts covers coversToo
          (Form.value_of_assemblyText same shown))
      · have right : form ≠ .shiftRight := fun right => shifts ⟨.shiftRight, .inl rfl, right⟩
        have left : form ≠ .shiftLeft := fun left => shifts ⟨.shiftLeft, .inr rfl, left⟩
        have free := form.free_eq right left fun _ shown => Form.value_of_assemblyText same shown
        rw [Form.covers_iff_toNat] at covers coversToo
        exact .inl (UInt16.toNat_inj.mp (by rw [covers, coversToo, free]))
  · rintro (rfl | ⟨x, y, z, digit, shifts, digits, digitsToo⟩)
    · rfl
    · obtain ⟨operation, shifting, rfl⟩ := Operation.exists_shift shifts
      rw [Operation.disassemble_shift shifting digits,
        Operation.disassemble_shift shifting digitsToo]

namespace State

theorem opcode_execute (state : State) (word : UInt16) : (state.execute word).opcode = word := by
  cases obstacle : state.obstacle? word with
  | some fault => rw [execute_of_obstacle obstacle]
  | none =>
    obtain ⟨form, found, safe⟩ := exists_form_of_clear obstacle
    rw [execute_of_form found safe, Form.opcode_effect]

/-- **Assembly text determines the effect.** Two words with the same text do the same to every
state, but that each is recorded as the word executed last. And two words have the same text just if
they are equal, or shift the same register the same way and name different second registers, which
are not written. -/
theorem assembly_determines_effect (first second : UInt16) :
    (disassemble first.toNat = disassemble second.toNat →
      ∀ state : State, state.execute second = { state.execute first with opcode := second }) ∧
    (disassemble first.toNat = disassemble second.toNat ↔
      first = second ∨
        ∃ (x y z : Fin 16) (digit : Nat), (digit = 6 ∨ digit = 0xE) ∧
          first.toNat = 0x8000 + 0x100 * x + 0x10 * y + digit ∧
          second.toNat = 0x8000 + 0x100 * x + 0x10 * z + digit) := by
  refine ⟨fun same state => ?_, disassemble_eq_iff first second⟩
  rcases (disassemble_eq_iff first second).mp same with
    rfl | ⟨x, y, z, digit, shifts, digits, digitsToo⟩
  · have recorded := state.opcode_execute first
    generalize state.execute first = after at *
    subst recorded
    rfl
  · obtain ⟨operation, shifting, rfl⟩ := Operation.exists_shift shifts
    rw [execute_operation operation digits, execute_operation operation digitsToo,
      Operation.write_shift shifting state.registers x z y]

/-- A shift to the right reads as `SHR V1` whatever second register it names, and does the same. -/
theorem assembly_determines_effect_of_shift :
    let state := { fresh ⟨0, 0⟩ with registers := Registers.zero.set 1 0x2B }
    disassemble (0x8126 : UInt16).toNat = "SHR V1" ∧
      disassemble (0x8126 : UInt16).toNat = disassemble (0x81F6 : UInt16).toNat ∧
      state.execute 0x81F6 = { state.execute 0x8126 with opcode := 0x81F6 } := by
  intro state
  obtain ⟨does, reads⟩ := assembly_determines_effect 0x8126 0x81F6
  have same : disassemble (0x8126 : UInt16).toNat = disassemble (0x81F6 : UInt16).toNat :=
    reads.mpr (.inr ⟨1, 2, 0xF, 6, .inl rfl, by decide, by decide⟩)
  exact ⟨by decide +kernel, same, does same state⟩

end State

end Chip8
