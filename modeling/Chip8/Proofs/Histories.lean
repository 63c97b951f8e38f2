import Chip8.Request

/-!
# Histories of a machine state

A request either runs cycles, or it is the host's and changes nothing but memory, timers, the beep,
the keypad and the mark of a changed screen, or it goes behind the instructions' back: it executes a
word out of turn or uses the call stack itself. `after_preserves` says what holds along a history
without requests of the last kind: what every cycle and every change by the host keeps.
-/

namespace Chip8

namespace Request

/-! ## Kinds of requests -/

/-- Whether a request leaves the instructions and the call stack alone. -/
def isHost : Request → Bool
  | execute _ | step | run _ | runWithProgress _ | push _ | pop => false
  | _ => true

/-- Whether a request does not execute a word out of turn or use the call stack itself. -/
def isOrdinary : Request → Bool
  | execute _ | push _ | pop => false
  | _ => true

/-- Whether an ordinary request runs one cycle at most. -/
def isSingle : Request → Bool
  | step => true
  | request => request.isHost

theorem step_or_isHost {request : Request} (single : request.isSingle = true) :
    request = step ∨ request.isHost = true := by
  unfold isSingle at single
  split at single
  · exact .inl rfl
  · exact .inr single

/-- An ordinary request that is not the host's runs cycles. -/
theorem isHost_or_cycles {request : Request} (ordinary : request.isOrdinary = true) :
    request.isHost = true ∨ request = step ∨ (∃ count, request = run count) ∨
      ∃ count, request = runWithProgress count := by
  cases request <;> simp [isHost, isOrdinary] at ordinary ⊢

end Request

namespace State

/-! ## Requests that run cycles -/

theorem foldl_step (items : List Int32) (state : State) :
    items.foldl (fun state _ => state.step) state = steps items.length state := by
  induction items generalizing state with
  | nil => rfl
  | cons item rest ih => exact ih state.step

theorem steps_succ_last (count : Nat) (state : State) :
    steps (count + 1) state = (steps count state).step :=
  steps_add count 1 state

/-- The words that so many cycles execute, in order. -/
def executedWords (state : State) (count : Nat) : List UInt16 :=
  (List.range count).filterMap fun cycle => (steps cycle state).pendingWord?

theorem executedWords_succ (state : State) (count : Nat) :
    state.executedWords (count + 1) =
      state.executedWords count ++ (steps count state).pendingWord?.toList := by
  rw [executedWords, List.range_succ, List.filterMap_append]
  cases pending : (steps count state).pendingWord? <;> simp [executedWords, pending]

/-- A count that a bar can show is run as without the bar. -/
theorem runWithProgress_of_countable {ω : Type} (state : State) {count : Int}
    (countable : Progress.Countable count) :
    ∃ events : List (BarEvent ω), state.runWithProgress count = .ok (state.run count, events) := by
  have first : Progress.Countable 0 := by decide
  simp only [runWithProgress, Progress.scanFrom, Progress.announce, countable, first, and_self,
    if_true, Except.map, Except.ok.injEq, Prod.mk.injEq, Progress.scan_fst, foldl_step, run,
    Progress.numbersFrom, List.length_map, List.length_range, true_and]
  exact ⟨_, rfl⟩

theorem runWithProgress_of_not_countable {ω : Type} (state : State) {count : Int}
    (uncountable : ¬ Progress.Countable count) :
    state.runWithProgress (ω := ω) count = .error .overflow := by
  simp [runWithProgress, Progress.scanFrom, Progress.announce, uncountable, Except.map]

/-! ## What a host changes -/

/-- The second state is the first with some of what a host may change changed. -/
def HostChange (before after : State) : Prop :=
  ∃ memory delayTimer soundTimer beep keypad dirty,
    after = { before with memory, delayTimer, soundTimer, beep, keypad, dirty }

theorem HostChange.refl (state : State) : state.HostChange state :=
  ⟨_, _, _, _, _, _, rfl⟩

theorem HostChange.trans {before after later : State} (change : before.HostChange after)
    (further : after.HostChange later) : before.HostChange later := by
  obtain ⟨_, _, _, _, _, _, rfl⟩ := change
  obtain ⟨_, _, _, _, _, _, rfl⟩ := further
  exact ⟨_, _, _, _, _, _, rfl⟩

/-- The second state is the first with some of that changed, but not the mark of a changed
screen. -/
def QuietChange (before after : State) : Prop :=
  ∃ memory delayTimer soundTimer beep keypad,
    after = { before with memory, delayTimer, soundTimer, beep, keypad }

theorem QuietChange.refl (state : State) : state.QuietChange state :=
  ⟨_, _, _, _, _, rfl⟩

theorem QuietChange.trans {before after later : State} (change : before.QuietChange after)
    (further : after.QuietChange later) : before.QuietChange later := by
  obtain ⟨_, _, _, _, _, rfl⟩ := change
  obtain ⟨_, _, _, _, _, rfl⟩ := further
  exact ⟨_, _, _, _, _, rfl⟩

theorem QuietChange.hostChange {before after : State} (change : before.QuietChange after) :
    before.HostChange after := by
  obtain ⟨_, _, _, _, _, rfl⟩ := change
  exact ⟨_, _, _, _, _, _, rfl⟩

/-- A change that may be refused is the host's if it is quiet when it is made. -/
theorem hostChange_orRefuse {state : State} {change : Except Failure State}
    (made : ∀ changed, change = .ok changed → state.QuietChange changed) :
    state.HostChange (state.orRefuse change).1 := by
  cases change with
  | ok changed => exact (made changed rfl).hostChange
  | error => exact .refl state

theorem quietChange_setKeypad {state changed : State} {keys : Nested Bool}
    (set : state.setKeypad keys = .ok changed) : state.QuietChange changed := by
  unfold setKeypad at set
  simp only at set
  split at set
  · split at set
    · cases set
      exact ⟨_, _, _, _, _, rfl⟩
    · split at set <;> contradiction
  · split at set <;> contradiction

theorem memory_of_writeBytes {state changed : State} {address : Int} {data : List UInt8}
    (written : state.writeBytes address data = .ok changed) :
    ∃ memory, changed = { state with memory } := by
  unfold writeBytes checkRange at written
  split at written
  · contradiction
  · cases written
    exact ⟨_, rfl⟩

theorem memory_of_writeByte {state changed : State} {address value : Int}
    (written : state.writeByte address value = .ok changed) :
    ∃ memory, changed = { state with memory } := by
  unfold writeByte checkRange at written
  split at written
  · contradiction
  · cases written
    exact ⟨_, rfl⟩

/-- Loading a program changes nothing but memory. -/
theorem memory_of_loadProgram {state changed : State} {program : List UInt8}
    (loaded : state.loadProgram program = .ok changed) :
    ∃ memory, changed = { state with memory } := by
  unfold loadProgram at loaded
  split at loaded
  · contradiction
  · split at loaded
    · contradiction
    · exact memory_of_writeBytes loaded

theorem quietChange_of_memory {before after : State}
    (change : ∃ memory, after = { before with memory }) : before.QuietChange after := by
  obtain ⟨_, rfl⟩ := change
  exact ⟨_, _, _, _, _, rfl⟩

/-- A request of the host makes a change that a host may make. -/
theorem hostChange_serve (state : State) {request : Request} (host : request.isHost = true) :
    state.HostChange (state.serve request).1 := by
  cases request with
  | execute | step | run | runWithProgress | push | pop => contradiction
  | fetch | readByte | checkFault | stackEnds => exact .refl state
  | tick | takeBeep => exact ⟨_, _, _, _, _, _, rfl⟩
  | takeFrame =>
    simp only [serve, takeFrame]
    split
    · exact ⟨_, _, _, _, _, _, rfl⟩
    · exact .refl state
  | setKeypad keys => exact hostChange_orRefuse fun _ => quietChange_setKeypad
  | loadProgram program =>
    exact hostChange_orRefuse fun _ made => quietChange_of_memory (memory_of_loadProgram made)
  | writeByte address value =>
    exact hostChange_orRefuse fun _ made => quietChange_of_memory (memory_of_writeByte made)
  | writeBytes address data =>
    exact hostChange_orRefuse fun _ made => quietChange_of_memory (memory_of_writeBytes made)

/-! ## Along a history -/

theorem after_concat (state : State) (earlier : List Request) (request : Request) :
    state.after (earlier ++ [request]) = ((state.after earlier).serve request).1 := by
  simp [after]

section Preservation

variable {Keeps : State → Prop} (step : ∀ state : State, Keeps state → Keeps state.step)

include step in
/-- What a cycle keeps, any number of cycles keep. -/
theorem steps_preserves (count : Nat) {state : State} (start : Keeps state) :
    Keeps (steps count state) := by
  induction count generalizing state with
  | zero => exact start
  | succ count ih => exact ih (step state start)

variable (host : ∀ before after : State, before.HostChange after → Keeps before → Keeps after)

include step host in
/-- An ordinary request keeps what cycles and the host keep. -/
theorem serve_preserves {state : State} {request : Request} (ordinary : request.isOrdinary = true)
    (start : Keeps state) : Keeps (state.serve request).1 := by
  rcases Request.isHost_or_cycles ordinary with hosts | rfl | ⟨count, rfl⟩ | ⟨count, rfl⟩
  · exact host state _ (hostChange_serve state hosts) start
  · exact step state start
  · exact steps_preserves step count.toNat start
  · by_cases countable : Progress.Countable count
    · obtain ⟨events, ran⟩ := runWithProgress_of_countable (ω := Unit) state countable
      simp only [serve, ran]
      exact steps_preserves step count.toNat start
    · simp only [serve, runWithProgress_of_not_countable state countable]
      exact start

include step host in
/-- A history of ordinary requests keeps what cycles and the host keep. -/
theorem after_preserves {history : List Request}
    (ordinary : ∀ request ∈ history, request.isOrdinary = true) {state : State}
    (start : Keeps state) : Keeps (state.after history) := by
  induction history generalizing state with
  | nil => exact start
  | cons request rest ih =>
    have first := serve_preserves step host (ordinary request List.mem_cons_self) start
    exact ih (fun later among => ordinary later (List.mem_cons_of_mem _ among)) first

end Preservation

end State

end Chip8
