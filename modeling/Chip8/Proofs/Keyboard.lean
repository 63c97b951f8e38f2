import Chip8.Proofs.Ownership
import Chip8.Proofs.WindowProtocol

/-!
# The keyboard of a window

The keypad of a frame is a fold over all events so far. It is `Mirrored` by what was last done to
the keyboard keys: one event keeps this (`Mirrored.press`), so the events of a frame do, and so do
the frames of a run (`mirrored_stages`). The cycles of a frame do not touch the keypad.
-/

namespace Chip8.Window

/-! ## The keyboard keys of the keypad -/

section KeyMap

variable {name other : String} {key : Fin 16}

theorem mem_keyMap (mapped : keypadKey? name = some key) : (name, key) ∈ keyMap := by
  obtain ⟨before, after, split, -⟩ := List.lookup_eq_some_iff.mp mapped
  rw [split]
  exact List.mem_append_right _ List.mem_cons_self

/-- No keyboard key stands in the map twice. -/
theorem keypadKey?_of_mem (among : (name, key) ∈ keyMap) : keypadKey? name = some key := by
  have all : ∀ entry ∈ keyMap, keypadKey? entry.1 = some entry.2 := by decide
  exact all _ among

theorem isSome_keypadKey?_iff :
    (keypadKey? name).isSome = true ↔ name ∈ keyMap.map Prod.fst := by
  rw [Option.isSome_iff_exists, List.mem_map]
  constructor
  · rintro ⟨key, mapped⟩
    exact ⟨_, mem_keyMap mapped, rfl⟩
  · rintro ⟨⟨_, key⟩, among, rfl⟩
    exact ⟨key, keypadKey?_of_mem among⟩

/-- No two keyboard keys stand for one key of the keypad. -/
theorem keypadKey?_injective (mapped : keypadKey? name = some key)
    (again : keypadKey? other = some key) : name = other := by
  have apart : ∀ entry ∈ keyMap, ∀ further ∈ keyMap, entry.2 = further.2 → entry.1 = further.1 := by
    decide
  exact apart _ (mem_keyMap mapped) _ (mem_keyMap again) rfl

/-- One keyboard key stands for each key of the keypad. -/
theorem existsUnique_keypadKey? (key : Fin 16) : ∃! name, keypadKey? name = some key := by
  have onto : ∀ key : Fin 16, ∃ entry ∈ keyMap, entry.2 = key := by decide
  obtain ⟨⟨name, _⟩, among, rfl⟩ := onto key
  have mapped := keypadKey?_of_mem among
  exact ⟨name, mapped, fun _ again => keypadKey?_injective again mapped⟩

theorem ne_closeKey (mapped : keypadKey? name = some key) : name ≠ closeKey := by
  rintro rfl
  have unmapped : keypadKey? closeKey = none := by decide
  exact absurd (unmapped.symm.trans mapped) nofun

end KeyMap

/-! ## One event -/

/-- The keyboard key that an event moves. -/
def Event.key? : Event → Option String
  | .keyDown key => some key
  | .keyUp key => some key
  | _ => none

/-- The last event that moves a keyboard key. -/
def lastMove? (name : String) (events : List Event) : Option Event :=
  (events.filter fun event => event.key? = some name).getLast?

section Press

variable {name : String} {key : Fin 16}

theorem lastMove?_concat_of_eq {event : Event} (moves : event.key? = some name)
    (past : List Event) : lastMove? name (past ++ [event]) = some event := by
  have kept : [event].filter (fun event => event.key? = some name) = [event] := by simp [moves]
  rw [lastMove?, List.filter_append, kept, List.getLast?_concat]

theorem lastMove?_concat_of_ne {event : Event} (moves : event.key? ≠ some name)
    (past : List Event) : lastMove? name (past ++ [event]) = lastMove? name past := by
  have dropped : [event].filter (fun event => event.key? = some name) = [] := by simp [moves]
  rw [lastMove?, List.filter_append, dropped, List.append_nil, lastMove?]

theorem press_keyDown (keypad : Keypad) (mapped : keypadKey? name = some key) :
    press keypad (.keyDown name) = keypad.set key true := by
  have plain : ¬ (name == closeKey) = true := by simpa using ne_closeKey mapped
  rw [press, if_neg plain, mapped]

theorem press_keyUp (keypad : Keypad) (mapped : keypadKey? name = some key) :
    press keypad (.keyUp name) = keypad.set key false := by
  rw [press, mapped]

/-- An event that moves no mapped key leaves the keypad as it is. -/
theorem press_of_unmapped (keypad : Keypad) {event : Event}
    (unmapped : ∀ name, event.key? = some name → keypadKey? name = none) :
    press keypad event = keypad := by
  cases event with
  | keyDown other =>
    rw [press, unmapped other rfl]
    exact ite_self keypad
  | keyUp other => rw [press, unmapped other rfl]
  | _ => rfl

/-- An event that does not move the keyboard key of a key leaves the key as it is. -/
theorem held_press_of_ne (keypad : Keypad) {event : Event} (mapped : keypadKey? name = some key)
    (moves : event.key? ≠ some name) : (press keypad event).held key = keypad.held key := by
  by_cases known : ∃ other number, event.key? = some other ∧ keypadKey? other = some number
  · obtain ⟨other, number, about, stands⟩ := known
    have apart : number ≠ key := by
      rintro rfl
      exact moves (keypadKey?_injective stands mapped ▸ about)
    cases event with
    | keyDown =>
      cases about
      rw [press_keyDown keypad stands, Keypad.held_set, if_neg apart]
    | keyUp =>
      cases about
      rw [press_keyUp keypad stands, Keypad.held_set, if_neg apart]
    | _ => contradiction
  · rw [press_of_unmapped]
    intro other about
    exact Option.eq_none_iff_forall_ne_some.mpr fun number stands =>
      known ⟨other, number, about, stands⟩

end Press

/-! ## All events so far -/

/-- A key of the keypad is held exactly if its keyboard key was moved by the events and went down
last. -/
def Mirrored (keypad : Keypad) (events : List Event) : Prop :=
  ∀ name key, keypadKey? name = some key →
    (keypad.held key = true ↔ lastMove? name events = some (.keyDown name))

theorem mirrored_released : Mirrored Keypad.released [] := by
  intro name key _
  rw [Keypad.held_released]
  exact iff_of_false Bool.false_ne_true nofun

theorem Mirrored.press {keypad : Keypad} {past : List Event} (mirrored : Mirrored keypad past)
    (event : Event) : Mirrored (press keypad event) (past ++ [event]) := by
  intro name key mapped
  by_cases moves : event.key? = some name
  · rw [lastMove?_concat_of_eq moves]
    cases event with
    | keyDown =>
      cases moves
      rw [press_keyDown keypad mapped, Keypad.held_set, if_pos rfl]
      exact iff_of_true rfl rfl
    | keyUp =>
      cases moves
      rw [press_keyUp keypad mapped, Keypad.held_set, if_pos rfl]
      exact iff_of_false Bool.false_ne_true nofun
    | _ => contradiction
  · rw [held_press_of_ne keypad mapped moves, lastMove?_concat_of_ne moves]
    exact mirrored name key mapped

theorem Mirrored.foldl_press {keypad : Keypad} {past : List Event}
    (mirrored : Mirrored keypad past) (events : List Event) :
    Mirrored (events.foldl Window.press keypad) (past ++ events) := by
  induction events generalizing keypad past with
  | nil => rwa [List.append_nil]
  | cons event rest ih =>
    rw [List.foldl_cons, List.append_cons]
    exact ih (mirrored.press event)

/-- The events of a number of frames of a script. After the script the window is asked to close. -/
def eventsUpTo (script : List Moment) (count : Nat) : List Event :=
  ((script ++ [Moment.last]).take count).flatMap Moment.events

theorem eventsUpTo_cons (moment : Moment) (rest : List Moment) (count : Nat) :
    eventsUpTo (moment :: rest) (count + 1) = moment.events ++ eventsUpTo rest count := rfl

theorem eventsUpTo_zero (script : List Moment) : eventsUpTo script 0 = [] := rfl

section Stages

variable {settings : Settings} {palette : Palette} {around : Surroundings}

theorem Mirrored.held {stage : Stage} {past : List Event} (mirrored : Mirrored stage.keypad past) :
    Mirrored stage.held (past ++ stage.moment.events) :=
  mirrored.foldl_press stage.moment.events

/-- The induction is on the script: the next frame takes over the keys that a frame leaves held. -/
theorem mirrored_stages {machine : Machine} {keypad : Keypad} {past : List Event}
    (mirrored : Mirrored keypad past) {script : List Moment} {earlier : List Stage} {stage : Stage}
    {later : List Stage}
    (worked : stages settings palette around machine keypad script = earlier ++ stage :: later) :
    Mirrored stage.held (past ++ eventsUpTo script (earlier.length + 1)) := by
  induction script generalizing around machine keypad past earlier with
  | nil =>
    -- the only frame is the one that closes the window
    rcases List.cons_eq_append_iff.mp worked with ⟨rfl, same⟩ | ⟨_, -, none⟩
    · obtain ⟨rfl, -⟩ := List.cons.inj same
      exact @Mirrored.held ⟨Moment.last, around, machine, keypad⟩ past mirrored
    · simp at none
  | cons moment rest ih =>
    have first := @Mirrored.held ⟨moment, around, machine, keypad⟩ past mirrored
    rcases Stage.of_leadingTo worked with ⟨rfl, rfl⟩ | ⟨-, more, rfl, further⟩
    · rwa [List.length_nil, eventsUpTo_cons, eventsUpTo_zero, List.append_nil]
    · rw [List.length_cons, eventsUpTo_cons, ← List.append_assoc]
      refine ih ?_ further
      exact (keypad_frame settings palette _ machine keypad moment.events).symm ▸ first

end Stages

/-! ## Runs -/

theorem keypad_steps (count : Nat) (state : State) :
    (State.steps count state).keypad = state.keypad :=
  @State.steps_preserves (fun later => later.keypad = state.keypad)
    (fun later same => later.keypad_step.trans same) count state rfl

section Refresh

variable (machine : Machine) (around : Surroundings) (scale : Int) (palette : Palette)

theorem keypad_updateTimers :
    (machine.updateTimers around).machine.state.keypad = machine.state.keypad :=
  Machine.updateTimers_preserves (fun after => after.state.keypad = machine.state.keypad)
    (fun before same => (congrArg State.keypad before.state_tick).trans same)
    (fun _ _ same => same) rfl around

theorem keypad_present :
    (present machine scale palette).machine.state.keypad = machine.state.keypad := by
  have taken : machine.takeFrame.machine.state.keypad = machine.state.keypad := by
    simp only [Machine.takeFrame, State.takeFrame]
    split <;> rfl
  refine Outcome.machine_andThen (fun after => after.state.keypad = machine.state.keypad) taken
    fun shown => ?_
  cases shown <;> exact taken

theorem keypad_refresh :
    (refresh machine around scale palette).machine.state.keypad = machine.state.keypad := by
  have updated := keypad_updateTimers machine around
  exact Outcome.machine_andThen (fun after => after.state.keypad = machine.state.keypad) updated
    fun _ => (keypad_present _ scale palette).trans updated

/-- However a frame ends, its machine has the keys that its cycles ended with. -/
theorem keypad_settle (settings : Settings) (keypad : Keypad) (events : List Event)
    (ran : Outcome Unit) :
    (settle settings palette around keypad events ran).machine.state.keypad =
      ran.machine.state.keypad := by
  have shown := keypad_refresh ran.machine around settings.scale palette
  simp only [settle]
  split
  · rfl
  · rfl
  · split <;> exact shown

end Refresh

theorem Stage.keypad_outcome (settings : Settings) (palette : Palette) (stage : Stage) :
    (stage.outcome settings palette).machine.state.keypad = stage.held := by
  rw [outcome_eq_settle, keypad_settle, state_runCycles, keypad_steps]
  rfl

section Run

variable {settings : Settings} {around : Surroundings} {script : List Moment}
  {earlier : List Stage} {stage : Stage} {later : List Stage}

/-- A run makes the calls of its frames in order, and leaves the machine of the last one. -/
theorem run_of_stages (worked : stagesOf settings around script = earlier ++ stage :: later) :
    ∃ palette report further, Palette.ofName settings.scheme = .ok palette ∧
      run settings around script = .ok report ∧
      report.calls = opening settings ++
        (earlier ++ [stage]).flatMap (fun each => (each.outcome settings palette).calls) ++
        further ∧
      (later = [] → report.machine = (stage.outcome settings palette).machine) := by
  cases opens : opened? settings around with
  | none => simp [stagesOf, opens] at worked
  | some both =>
    obtain ⟨machine, palette⟩ := both
    obtain ⟨_, -, named, -⟩ := loaded_of_opened opens
    obtain ⟨report, before, final, ran, split, comprises⟩ := run_comprises opens script
    obtain ⟨closing, calls⟩ := comprises.calls_eq
    simp only [stagesOf, opens] at worked
    simp only [framesOf, opens, frames_eq_map, worked] at split
    refine ⟨palette, report,
      later.flatMap (fun each => (each.outcome settings palette).calls) ++ closing, named, ran, ?_,
      ?_⟩
    · rw [calls, ← split, List.flatMap_map]
      simp only [List.flatMap_append, List.flatMap_cons, List.flatMap_nil, List.append_nil,
        List.append_assoc]
    · rintro rfl
      rw [List.map_append, List.map_singleton] at split
      obtain ⟨-, same⟩ := List.append_inj' split rfl
      obtain ⟨rfl, -⟩ := List.cons.inj same
      exact comprises.machine

/-- **The keypad mirrors the keyboard.** Each frame that a run works through makes its calls in the
run, and runs its ten cycles on the keys that its events leave held. In all of these cycles a key is
held exactly if its keyboard key was moved by the events so far and went down last. These are all
events of the frames up to this one, whatever was asked in between. The machine that the run leaves
is that of the last frame, with the keys of that frame. The sixteen keyboard keys stand for the keys
of the keypad one to one, and an event that moves none of them changes nothing. -/
theorem keypad_mirrors_keyboard
    (worked : stagesOf settings around script = earlier ++ stage :: later) :
    (∃ palette report further, Palette.ofName settings.scheme = .ok palette ∧
      run settings around script = .ok report ∧
      report.calls = opening settings ++
        (earlier ++ [stage]).flatMap (fun each => (each.outcome settings palette).calls) ++
        further ∧
      stage.outcome settings palette =
        settle settings palette stage.around stage.held stage.moment.events
          (runCycles (withKeys stage.machine stage.held) stage.around) ∧
      (later = [] → report.machine = (stage.outcome settings palette).machine ∧
        report.machine.state.keypad = stage.held)) ∧
    ((runCycles (withKeys stage.machine stage.held) stage.around).machine.state =
        State.steps 10 (stage.machine.state.setKeys stage.held) ∧
      ∀ cycle ≤ 10, ∀ name key, keypadKey? name = some key →
        ((State.steps cycle (stage.machine.state.setKeys stage.held)).keypad.held key = true ↔
          lastMove? name (eventsUpTo script (earlier.length + 1)) = some (.keyDown name))) ∧
    (∀ key, ∃! name, keypadKey? name = some key) ∧
    (∀ name, (keypadKey? name).isSome = true ↔ name ∈
      ["1", "2", "3", "4", "q", "w", "e", "r", "a", "s", "d", "f", "z", "x", "c", "v"]) ∧
    ∀ keypad event, (∀ name, event.key? = some name → keypadKey? name = none) →
      press keypad event = keypad := by
  obtain ⟨palette, report, further, named, ran, calls, last⟩ := run_of_stages worked
  refine ⟨⟨palette, report, further, named, ran, calls,
    stage.outcome_eq_settle settings palette, ?_⟩,
    ⟨state_runCycles _ _, fun cycle _ => ?_⟩, existsUnique_keypadKey?,
    fun _ => isSome_keypadKey?_iff, fun keypad _ => press_of_unmapped keypad⟩
  · intro ends
    have same := last ends
    exact ⟨same, same ▸ stage.keypad_outcome settings palette⟩
  · rw [keypad_steps]
    unfold stagesOf at worked
    split at worked
    · exact mirrored_stages mirrored_released worked
    · simp at worked

end Run

/-- The window is asked to close in the second frame, and after that one key comes up and another
goes down: the cycles of the frame still run on that, and so the machine is left. -/
theorem keypad_mirrors_keyboard_after_close :
    let settings : Settings := { program := "a" }
    let around : Surroundings := ⟨0, fun _ => .ok [0x12, 0x00]⟩
    let script : List Moment := [⟨none, [.keyDown "q", .keyDown "p", .keyDown "v"]⟩,
      ⟨none, [.close, .keyUp "q", .other, .keyDown "x"]⟩, ⟨none, [.keyUp "x"]⟩]
    ∃ first second report, stagesOf settings around script = [first] ++ second :: [] ∧
      run settings around script = .ok report ∧ report.machine.state.keypad = second.held ∧
      ∀ cycle ≤ 10,
        let keypad := (State.steps cycle (second.machine.state.setKeys second.held)).keypad
        keypad.held 0x4 = false ∧ keypad.held 0xF = true ∧ keypad.held 0x0 = true := by
  intro settings around script
  have plain : settings.program.contains (Char.ofNat 0) = false := by simp [settings]
  obtain ⟨first, second, pair⟩ : ∃ first second,
      stagesOf settings around script = [first, second] := by
    rw [← List.length_eq_two]
    simp only [stagesOf, opened?, Machine.load, Program.load, Program.read, plain,
      Bool.false_eq_true, if_false]
    decide +kernel
  obtain ⟨⟨palette, report, further, -, ran, -, -, last⟩, ⟨-, mirrors⟩, -⟩ :=
    @keypad_mirrors_keyboard settings around script [first] second [] pair
  rw [List.length_singleton] at mirrors
  refine ⟨first, second, report, pair, ran, (last rfl).2, fun cycle inside => ⟨?_, ?_, ?_⟩⟩
  · rw [Bool.eq_false_iff, Ne, mirrors cycle inside "q" 0x4 (by decide)]
    decide
  · exact (mirrors cycle inside "v" 0xF (by decide)).mpr (by decide)
  · exact (mirrors cycle inside "x" 0x0 (by decide)).mpr (by decide)

end Chip8.Window
