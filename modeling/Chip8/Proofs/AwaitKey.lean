import Chip8.Proofs.CycleCases
import Chip8.Proofs.Histories

/-!
# Waiting for a key

A machine that executes the wait for a key looks at the keypad in every cycle from then on, and goes
on at the first key that is held and was not held at the look before. Looks that come to nothing
count as well, so a key that is held all the time never ends the wait. `State.WaitsFor` is what
holds of the machine while it waits. One look keeps it (`waitsFor_look`) or ends it
(`step_of_newPress`), and `await_key` follows any number of looks, by induction on their number.
-/

namespace Chip8

namespace Nested

variable {α : Type}

theorem partsShape_map_value (items : List α) : partsShape (items.map value) = ([], true) := by
  induction items with
  | nil => rfl
  | cons item rest ih =>
    cases rest with
    | nil => rfl
    | cons second rest =>
      simp only [List.map_cons] at ih ⊢
      simp only [partsShape, ih, shape, commonPrefix, Bool.and_self, beq_self_eq_true]

theorem partsValues_map_value (items : List α) : partsValues (items.map value) = items := by
  induction items with
  | nil => rfl
  | cons item rest ih => simp only [List.map_cons, partsValues, values, ih, List.singleton_append]

end Nested

namespace Keypad

/-- The keys as a host hands them over: sixteen states in one row. -/
def row (keypad : Keypad) : Nested Bool :=
  .row (keypad.keys.toList.map .value)

theorem shape_row (keypad : Keypad) : keypad.row.shape = ([16], true) := by
  simp [row, Nested.shape, Nested.partsShape_map_value]

theorem values_row (keypad : Keypad) : keypad.row.values = keypad.keys.toList := by
  rw [row, Nested.values, Nested.partsValues_map_value]

/-- A key is held now and was not held before. -/
def NewPress (before now : Keypad) (key : Fin 16) : Prop :=
  now.held key = true ∧ before.held key = false

instance (before now : Keypad) (key : Fin 16) : Decidable (NewPress before now key) :=
  inferInstanceAs (Decidable (_ ∧ _))

theorem firstNewPress?_eq_some_iff {now before : Keypad} {key : Fin 16} :
    now.firstNewPress? before = some key ↔
      NewPress before now key ∧ ∀ lower < key, ¬ NewPress before now lower := by
  rw [firstNewPress?, List.find?_eq_some_iff_getElem]
  simp only [List.getElem_finRange, List.length_finRange, Fin.cast_mk, Bool.and_eq_true,
    Bool.not_eq_true']
  constructor
  · rintro ⟨pressed, place, inside, rfl, none⟩
    refine ⟨pressed, fun lower below press => ?_⟩
    have passed := none lower below
    simp [press.1, press.2] at passed
  · rintro ⟨pressed, least⟩
    refine ⟨pressed, key, key.isLt, rfl, fun lower below => ?_⟩
    have passed := least ⟨lower, by omega⟩ below
    rw [NewPress, not_and, Bool.not_eq_false] at passed
    by_cases held : now.held ⟨lower, by omega⟩ = true
    · simp only [held, passed held, Bool.not_true, Bool.and_false]
    · simp only [Bool.eq_false_iff.mpr held, Bool.false_and]

/-- Of several new keys one is the lowest. -/
theorem exists_least {before now : Keypad} (pressed : ∃ key, NewPress before now key) :
    ∃ key, NewPress before now key ∧ ∀ lower < key, ¬ NewPress before now lower := by
  obtain ⟨some_key, held, released⟩ := pressed
  cases found : now.firstNewPress? before with
  | some key => exact ⟨key, firstNewPress?_eq_some_iff.mp found⟩
  | none =>
    have before_held := (firstNewPress?_eq_none_iff now before).mp found some_key held
    rw [released] at before_held
    contradiction

theorem firstNewPress?_eq_none_of {now before : Keypad}
    (unpressed : ∀ key, ¬ NewPress before now key) : now.firstNewPress? before = none := by
  rw [firstNewPress?_eq_none_iff]
  intro key held
  cases before_held : before.held key with
  | true => rfl
  | false => exact absurd ⟨held, before_held⟩ (unpressed key)

end Keypad

/-! ## Looks at the keypad -/

/-- What a host may do at any time besides setting keys: tick the timers, ask for a beep or for a
frame. -/
inductive Errand where
  | tick | takeBeep | takeFrame

def Errand.request : Errand → Request
  | tick => .tick
  | takeBeep => .takeBeep
  | takeFrame => .takeFrame

/-- The host sets the keys and a cycle follows, with errands before the cycle and after it. -/
structure Look where
  keypad : Keypad
  before : List Errand
  after : List Errand

namespace Look

/-- The requests up to the cycle. -/
def opening (look : Look) : List Request :=
  .setKeypad look.keypad.row :: look.before.map Errand.request

/-- All requests of a look. -/
def requests (look : Look) : List Request :=
  look.opening ++ .step :: look.after.map Errand.request

/-- The keys after so many looks, from keys that are held at first. -/
def keysAfter (first : Keypad) (looks : List Look) (count : Nat) : Keypad :=
  (looks.take count).foldl (fun _ look => look.keypad) first

theorem keysAfter_succ (first : Keypad) {looks : List Look} {count : Nat}
    (inside : count < looks.length) :
    keysAfter first looks (count + 1) = looks[count].keypad := by
  rw [keysAfter, List.take_succ_eq_append_getElem inside, List.foldl_append]
  rfl

/-- None of so many looks finds a key that was not held at the look before. -/
def Unpressed (first : Keypad) (looks : List Look) (count : Nat) : Prop :=
  ∀ index < count, ∀ key,
    ¬ Keypad.NewPress (keysAfter first looks index) (keysAfter first looks (index + 1)) key

instance (first : Keypad) (looks : List Look) (count : Nat) :
    Decidable (Unpressed first looks count) :=
  inferInstanceAs (Decidable (∀ index < count, ∀ _, ¬ _))

end Look

namespace State

/-- A host that hands over sixteen states in one row sets the keys. -/
theorem setKeypad_row (state : State) (keypad : Keypad) :
    state.setKeypad keypad.row = .ok (state.setKeys keypad) := by
  have sized : keypad.row.values.length = 16 := by rw [keypad.values_row, Vector.length_toList]
  have same : (⟨⟨keypad.row.values.toArray, by simpa using sized⟩⟩ : Keypad) = keypad := by
    cases keypad with | mk keys =>
    congr 1
    apply Vector.ext
    intro key inside
    simp [Keypad.values_row]
  simp only [setKeypad, Keypad.shape_row, sized, if_true, and_self, dite_true, same]

theorem after_append (state : State) (earlier later : List Request) :
    state.after (earlier ++ later) = (state.after earlier).after later :=
  List.foldl_append

/-! ## The wait -/

/-- The machine waits to put a key into a register. It has come from a state without anything but
timers, beep, keypad and the mark of a changed screen changed besides the wait, and the keys it saw
last are given. -/
structure WaitsFor (origin : State) (register : Fin 16) (seen : Keypad) (state : State) : Prop where
  waiting : state.waiting = true
  keyRegister : state.keyRegister = UInt8.ofNat register
  latch : state.latch = seen
  pc : state.pc = origin.pc
  fault : state.fault = origin.fault
  registers : state.registers = origin.registers
  index : state.index = origin.index
  stack : state.stack = origin.stack
  memory : state.memory = origin.memory
  screen : state.screen = origin.screen
  random : state.random = origin.random

variable {origin state : State} {register : Fin 16} {seen : Keypad}

/-- Executing the wait begins it, with the keys that are held. -/
theorem waitsFor_step_of_awaitKey (pending : state.pendingWord? = some state.fetch)
    (awaits : state.fetch.toNat = 0xF00A + 0x100 * register) :
    WaitsFor state register state.keypad state.step := by
  have named : (Operands.ofWord state.fetch).x = register :=
    Operands.x_ofWord_of_digits awaits rfl
  have runs : state.step = Form.awaitKey.effect (Operands.ofWord state.fetch)
      { state with opcode := state.fetch } := by
    rw [step_of_pendingWord? pending]
    exact execute_of_digits .awaitKey (by decide) (by rw [Form.free, named]; exact awaits) rfl
  rw [runs]
  exact ⟨rfl, congrArg (fun x : Fin 16 => UInt8.ofNat x) named, rfl, rfl, rfl, rfl, rfl, rfl, rfl,
    rfl, rfl⟩

/-- The timers, the beep, the keys and the mark of a changed screen do not matter to the wait. -/
theorem WaitsFor.change (waits : WaitsFor origin register seen state)
    (delayTimer soundTimer : UInt8) (beep : Bool) (keypad : Keypad) (dirty : Bool) :
    WaitsFor origin register seen
      { state with delayTimer, soundTimer, beep, keypad, dirty } :=
  ⟨waits.waiting, waits.keyRegister, waits.latch, waits.pc, waits.fault, waits.registers,
    waits.index, waits.stack, waits.memory, waits.screen, waits.random⟩

/-- An errand does not touch the wait or the keys. -/
theorem waitsFor_errand (waits : WaitsFor origin register seen state) (errand : Errand) :
    WaitsFor origin register seen (state.serve errand.request).1 ∧
      (state.serve errand.request).1.keypad = state.keypad := by
  cases errand with
  | tick | takeBeep => exact ⟨waits.change _ _ _ _ _, rfl⟩
  | takeFrame =>
    simp only [Errand.request, serve, takeFrame]
    split
    · exact ⟨waits.change _ _ _ _ _, rfl⟩
    · exact ⟨waits, rfl⟩

theorem waitsFor_errands (waits : WaitsFor origin register seen state) (errands : List Errand) :
    WaitsFor origin register seen (state.after (errands.map Errand.request)) ∧
      (state.after (errands.map Errand.request)).keypad = state.keypad := by
  induction errands generalizing state with
  | nil => exact ⟨waits, rfl⟩
  | cons errand rest ih =>
    obtain ⟨still, same⟩ := waitsFor_errand waits errand
    obtain ⟨later, sameLater⟩ := ih still
    exact ⟨later, sameLater.trans same⟩

/-- Up to its cycle a look only sets the keys. -/
theorem waitsFor_opening (waits : WaitsFor origin register seen state) (look : Look) :
    WaitsFor origin register seen (state.after look.opening) ∧
      (state.after look.opening).keypad = look.keypad := by
  have set : (state.serve (.setKeypad look.keypad.row)).1 = state.setKeys look.keypad := by
    simp only [serve, setKeypad_row, orRefuse]
  have waitsSet : WaitsFor origin register seen (state.setKeys look.keypad) :=
    waits.change _ _ _ _ _
  have unfolded : state.after look.opening =
      (state.setKeys look.keypad).after (look.before.map Errand.request) := by
    rw [← set]
    rfl
  rw [unfolded]
  exact waitsFor_errands waitsSet look.before

variable (running : origin.fault = none)

include running

/-- Without a new key a cycle goes on with the wait and remembers the keys. -/
theorem waitsFor_step (waits : WaitsFor origin register seen state)
    (unpressed : ∀ key, ¬ Keypad.NewPress seen state.keypad key) :
    WaitsFor origin register state.keypad state.step := by
  have notFound : state.keypad.firstNewPress? state.latch = none := by
    rw [waits.latch]
    exact Keypad.firstNewPress?_eq_none_of unpressed
  rw [step_of_waiting (waits.fault.trans running) waits.waiting, poll, notFound]
  exact ⟨waits.waiting, waits.keyRegister, rfl, waits.pc, waits.fault, waits.registers, waits.index,
    waits.stack, waits.memory, waits.screen, waits.random⟩

/-- The lowest new key ends the wait: it goes to the register, and the machine goes on behind the
instruction. -/
theorem step_of_newPress (waits : WaitsFor origin register seen state) {key : Fin 16}
    (pressed : Keypad.NewPress seen state.keypad key)
    (least : ∀ lower < key, ¬ Keypad.NewPress seen state.keypad lower) :
    state.step = { state with
      waiting := false
      pc := origin.pc + 2
      registers := origin.registers.set register (UInt8.ofNat key) } := by
  have found : state.keypad.firstNewPress? state.latch = some key := by
    rw [waits.latch]
    exact Keypad.firstNewPress?_eq_some_iff.mpr ⟨pressed, least⟩
  have number : state.keyRegister.toNat = register := by
    rw [waits.keyRegister, UInt8.toNat_ofNat']
    omega
  have inside : state.keyRegister.toNat < 16 := by omega
  have same : (⟨state.keyRegister.toNat, inside⟩ : Fin 16) = register := Fin.ext number
  have polled : state.poll = { state with
      waiting := false
      pc := state.pc + 2
      registers := state.registers.setNumber state.keyRegister.toNat (UInt8.ofNat key) } := by
    simp only [poll, found, next, advance]
  rw [step_of_waiting (waits.fault.trans running) waits.waiting, polled,
    Registers.setNumber_of_lt _ _ inside, same, waits.registers, waits.pc]

/-- A whole look without a new key goes on with the wait. -/
theorem waitsFor_look (waits : WaitsFor origin register seen state) (look : Look)
    (unpressed : ∀ key, ¬ Keypad.NewPress seen look.keypad key) :
    WaitsFor origin register look.keypad (state.after look.requests) := by
  obtain ⟨opened, keys⟩ := waitsFor_opening waits look
  rw [← keys] at unpressed ⊢
  rw [Look.requests, after_append]
  exact (waitsFor_errands (waitsFor_step running opened unpressed) look.after).1

omit running

/-- The state after an instruction at the program counter, errands, and so many looks. -/
def afterLooks (state : State) (errands : List Errand) (looks : List Look) (count : Nat) : State :=
  (state.step.after (errands.map Errand.request)).after ((looks.take count).flatMap Look.requests)

theorem afterLooks_succ (errands : List Errand) {looks : List Look} {count : Nat}
    (inside : count < looks.length) :
    state.afterLooks errands looks (count + 1) =
      (state.afterLooks errands looks count).after looks[count].requests := by
  rw [afterLooks, List.take_succ_eq_append_getElem inside, List.flatMap_append, after_append,
    List.flatMap_singleton]
  rfl

/-- As long as no look finds a new key, the machine waits. -/
theorem waitsFor_afterLooks (running : state.fault = none)
    (pending : state.pendingWord? = some state.fetch)
    (awaits : state.fetch.toNat = 0xF00A + 0x100 * register) (errands : List Errand)
    {looks : List Look} {count : Nat} (inside : count ≤ looks.length)
    (unpressed : Look.Unpressed state.keypad looks count) :
    WaitsFor state register (Look.keysAfter state.keypad looks count)
      (state.afterLooks errands looks count) := by
  induction count with
  | zero => exact (waitsFor_errands (waitsFor_step_of_awaitKey pending awaits) errands).1
  | succ count ih =>
    have before := ih (by omega) fun index earlier => unpressed index (by omega)
    have quiet := unpressed count (by omega)
    rw [Look.keysAfter_succ _ inside] at quiet ⊢
    rw [afterLooks_succ errands inside]
    exact waitsFor_look running before _ quiet

/-- **Waiting for a key.** A machine executes the wait for a key; then its host sets keys and lets a
cycle run, time after time, with ticks, beeps and frames in between. As long as no look finds a key
that was not held at the look before, or when the wait began, the machine waits, and only the keys
it saw last have changed. The first look that finds such keys puts the lowest of them into the
register and goes on behind the instruction. It is none that was held all the time. -/
theorem await_key {state : State} {register : Fin 16} (running : state.fault = none)
    (awake : state.waiting = false) (near : state.pc ≤ 0xFFE)
    (awaits : state.fetch.toNat = 0xF00A + 0x100 * register) (errands : List Errand)
    (looks : List Look) :
    let keys := Look.keysAfter state.keypad looks
    (∀ count ≤ looks.length, Look.Unpressed state.keypad looks count →
      WaitsFor state register (keys count) (state.afterLooks errands looks count)) ∧
    (∀ (index : Nat) (inside : index < looks.length), Look.Unpressed state.keypad looks index →
      (∃ key, Keypad.NewPress (keys index) (keys (index + 1)) key) →
      let before := (state.afterLooks errands looks index).after looks[index].opening
      WaitsFor state register (keys index) before ∧
      ∃ key, Keypad.NewPress (keys index) (keys (index + 1)) key ∧
        (∀ lower < key, ¬ Keypad.NewPress (keys index) (keys (index + 1)) lower) ∧
        before.step = { before with
          waiting := false
          pc := state.pc + 2
          registers := state.registers.set register (UInt8.ofNat key) } ∧
        (state.pc + 2).toNat = state.pc.toNat + 2 ∧
        ∀ other, (∀ count ≤ index + 1, (keys count).held other = true) → other ≠ key) := by
  intro keys
  have pending := pendingWord?_eq_fetch_iff.mpr ⟨running, awake, near⟩
  have bound : state.pc.toNat ≤ 0xFFE := UInt16.le_iff_toNat_le.mp near
  refine ⟨fun count inside unpressed =>
    waitsFor_afterLooks running pending awaits errands inside unpressed, ?_⟩
  intro index inside unpressed some_key before
  have waits := waitsFor_afterLooks running pending awaits errands (by omega) unpressed
  obtain ⟨still, set⟩ := waitsFor_opening waits looks[index]
  have now : before.keypad = keys (index + 1) :=
    set.trans (Look.keysAfter_succ state.keypad inside).symm
  obtain ⟨key, pressed, least⟩ := Keypad.exists_least some_key
  refine ⟨still, key, pressed, least, ?_, toNat_pc_add (by omega) (by decide), ?_⟩
  · rw [← now] at pressed least
    exact step_of_newPress running still pressed least
  · rintro other held rfl
    have before_held := held index (by omega)
    rw [pressed.2] at before_held
    contradiction

/-- Two keys are held when the wait begins. One of them is released and pressed again, together with
a higher one, and ends the wait; the other one, though lower, is held all the time. -/
theorem await_key_pressed_again :
    let held := (Keypad.released.set 2 true).set 5 true
    let state := ((fresh ⟨0, 0⟩).after [.loadProgram [0xF3, 0x0A]]).setKeys held
    let looks : List Look := [⟨held, [.tick], []⟩, ⟨Keypad.released.set 2 true, [], [.takeFrame]⟩,
      ⟨held.set 9 true, [.takeBeep, .tick], []⟩]
    let before := (state.afterLooks [.tick] looks 2).after looks[2].opening
    state.fetch.toNat = 0xF00A + 0x100 * (3 : Fin 16) ∧ before.waiting = true ∧
      before.step.waiting = false ∧ before.step.pc.toNat = 0x202 ∧
      before.step.registers.get 3 = 5 := by
  intro held state looks before
  have awaits : state.fetch.toNat = 0xF00A + 0x100 * (3 : Fin 16) := by decide +kernel
  obtain ⟨-, ends⟩ := @await_key state 3 (by decide +kernel) (by decide +kernel)
    (by decide +kernel) awaits [.tick] looks
  obtain ⟨waits, key, pressed, least, after, next, -⟩ := ends 2 (by decide) (by decide +kernel)
    ⟨5, by decide +kernel⟩
  have fifth : ∀ key, Keypad.NewPress (Look.keysAfter state.keypad looks 2)
      (Look.keysAfter state.keypad looks 3) key →
      (∀ lower < key, ¬ Keypad.NewPress (Look.keysAfter state.keypad looks 2)
        (Look.keysAfter state.keypad looks 3) lower) → key = 5 := by
    decide +kernel
  obtain rfl := fifth key pressed least
  refine ⟨awaits, waits.waiting, ?_, ?_, ?_⟩
  · rw [after]
  · rw [after]
    exact next
  · rw [after]
    exact Registers.get_set_self _ _ _

end State

end Chip8
