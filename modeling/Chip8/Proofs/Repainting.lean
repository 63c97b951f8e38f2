import Chip8.Proofs.CycleCases
import Chip8.Proofs.Operations

/-!
# Repainting

A host asks for frames and paints those it is handed, over a canvas that is off at first. The canvas
is up to date if it shows the current screen or the machine will hand out the screen when it is
asked next (`State.UpToDate`). Instructions keep it up to date, since those that touch the screen
mark it as changed, and so does all that happens to a machine but a reset: a reset turns the screen
off without a mark. `repainted_current_iff` says when a canvas shows the current screen all the
same.
-/

namespace Chip8

/-- The frame that a reply hands out. -/
def Reply.frame? (reply : Reply) : Option Frame :=
  match reply.result with
  | .ok (.frame shown) => shown
  | _ => none

/-- The canvas of a host that paints every frame it is handed. -/
def painted (canvas : Frame) (replies : List Reply) : Frame :=
  replies.foldl (fun canvas reply => reply.frame?.getD canvas) canvas

/-- The frame of a screen that is off everywhere. -/
abbrev Frame.blank : Frame := Screen.blank.cells

/-! ## The mark of a changed screen -/

namespace State

/-- A canvas shows the screen, or the screen is marked as changed. -/
def UpToDate (state : State) (canvas : Frame) : Prop :=
  state.dirty = true ∨ state.screen.cells = canvas

variable {state : State} {canvas : Frame}

/-- A canvas that is up to date shows an unmarked screen. -/
theorem UpToDate.cells_eq (current : state.UpToDate canvas) (unmarked : state.dirty = false) :
    state.screen.cells = canvas :=
  current.resolve_left (by simp [unmarked])

theorem upToDate_fresh (random : Random.Pair) : (fresh random).UpToDate Frame.blank :=
  .inr rfl

/-- An instruction that touches the screen marks it. -/
theorem upToDate_effect (form : Form) (operands : Operands) (current : state.UpToDate canvas) :
    (form.effect operands state).UpToDate canvas := by
  cases form with
  | clearScreen | draw => exact .inl rfl
  | _ => exact current

theorem upToDate_step (state : State) (current : state.UpToDate canvas) :
    state.step.UpToDate canvas := by
  cases state.cycleCases with
  | stopped _ same => rwa [same]
  | pressed _ _ _ _ resolved => rwa [resolved]
  | unpressed _ _ _ looked => rwa [looked]
  | outside _ _ _ halts => rwa [halts]
  | blocked _ _ _ halts => rwa [halts]
  | executed form _ _ _ runs =>
    rw [runs]
    exact upToDate_effect form _ current

/-- A cycle that draws a sprite flips the pixels that the sprite lights. -/
theorem pixel_step_of_draw {word : UInt16} (pending : state.pendingWord? = some word)
    (found : Form.ofWord? word = some .draw)
    (safe : Form.draw.hazard? (Operands.ofWord word) state = none) (x : Fin 64) (y : Fin 32) :
    state.step.screen.pixel x y = (state.screen.pixel x y ^^
      Sprite.lights state.memory state.index.toNat (Operands.ofWord word).n
        (state.registers.get (Operands.ofWord word).x).toNat
        (state.registers.get (Operands.ofWord word).y).toNat x y) := by
  rw [step_of_pendingWord? pending, execute_of_form found safe]
  exact (Screen.pixel_flip _ _ x y).trans (congrArg _ (Sprite.pixel_mask _ _ _ _ _ x y))

theorem upToDate_steps (count : Nat) (current : state.UpToDate canvas) :
    (steps count state).UpToDate canvas :=
  steps_preserves upToDate_step count current

theorem upToDate_quietChange {after : State} (change : state.QuietChange after)
    (current : state.UpToDate canvas) : after.UpToDate canvas := by
  obtain ⟨_, _, _, _, _, rfl⟩ := change
  exact current

theorem takeFrame_eq_none_iff : state.takeFrame.2 = none ↔ state.dirty = false := by
  cases marked : state.dirty <;> simp [takeFrame, marked]

/-- When the screen is handed out if it is marked, a host that paints it is up to date. -/
theorem upToDate_takeFrame (current : state.UpToDate canvas) :
    state.takeFrame.1.UpToDate (state.takeFrame.2.getD canvas) := by
  cases marked : state.dirty with
  | true =>
    simp only [takeFrame, marked, if_true]
    exact .inr rfl
  | false =>
    simp only [takeFrame, marked, Bool.false_eq_true, if_false]
    exact current

end State

/-! ## Hosts that paint -/

theorem painted_append (canvas : Frame) (earlier later : List Reply) :
    painted canvas (earlier ++ later) = painted (painted canvas earlier) later :=
  List.foldl_append

/-- Without a frame there is nothing to paint. -/
theorem painted_of_none {canvas : Frame} {replies : List Reply}
    (none : ∀ reply ∈ replies, reply.frame? = none) : painted canvas replies = canvas := by
  induction replies with
  | nil => rfl
  | cons reply rest ih =>
    have first := none reply List.mem_cons_self
    rw [painted, List.foldl_cons, first]
    exact ih fun later among => none later (List.mem_cons_of_mem _ among)

/-- What is painted over does not show. -/
theorem painted_of_some (canvas other : Frame) {replies : List Reply} {reply : Reply}
    {frame : Frame} (among : reply ∈ replies) (some : reply.frame? = some frame) :
    painted canvas replies = painted other replies := by
  obtain ⟨earlier, later, rfl⟩ := List.append_of_mem among
  have here (before : Frame) : painted before (reply :: later) = painted frame later := by
    rw [painted, List.foldl_cons, some]
    rfl
  rw [painted_append, painted_append, here, here]

namespace Session

variable {session : Session} {canvas : Frame}

theorem frame?_takeFrame (session : Session) :
    (session.perform .takeFrame).frame? = session.machine.state.takeFrame.2 := rfl

theorem frame?_of_dirty (marked : session.machine.state.dirty = true) :
    (session.perform .takeFrame).frame? = some session.machine.state.screen.cells := by
  rw [frame?_takeFrame, State.takeFrame, if_pos marked]

/-- No frame is handed out exactly if the screen is not marked. -/
theorem result_takeFrame_iff (session : Session) :
    (session.perform .takeFrame).result = .ok (.frame none) ↔
      session.machine.state.dirty = false := by
  rw [← State.takeFrame_eq_none_iff]
  constructor
  · intro unasked
    simpa only [Reply.frame?, unasked] using (frame?_takeFrame session).symm
  · intro kept
    change Except.ok (Response.frame session.machine.state.takeFrame.2) = _
    rw [kept]

/-- Only a question for the frame is answered with one. -/
theorem frame?_perform {happening : Happening} (other : happening ≠ .takeFrame) :
    (session.perform happening).frame? = none := by
  have absorbed {α : Type} (outcome : Outcome α) (answer : α → Response)
      (plain : ∀ value shown, answer value ≠ .frame shown) :
      (session.absorb outcome answer).frame? = none := by
    cases result : outcome.result with
    | error failure => simp only [Reply.frame?, absorb, result, Except.map]
    | ok value =>
      simp only [Reply.frame?, absorb, result, Except.map]
      split
      · next shown same => exact absurd (Except.ok.inj same) (plain value shown)
      · rfl
  cases happening with
  | takeFrame => contradiction
  | clockReads | fileAppears | fileVanishes => rfl
  | _ => exact absorbed _ _ fun _ _ => nofun

/-- All that happens to a machine but a reset keeps a host up to date that paints what it is
handed. -/
theorem upToDate_perform {happening : Happening} (goesOn : happening ≠ .reset)
    (current : session.machine.state.UpToDate canvas) :
    (session.perform happening).session.machine.state.UpToDate
      ((session.perform happening).frame?.getD canvas) := by
  by_cases asked : happening = .takeFrame
  · subst asked
    exact State.upToDate_takeFrame current
  · rw [frame?_perform asked]
    cases session.performCases happening with
    | cycles count ran =>
      rw [ran]
      exact State.upToDate_steps count current
    | quiet change => exact State.upToDate_quietChange change current
    | reset isReset _ => exact absurd isReset goesOn
    | takeFrame isTakeFrame _ => exact absurd isTakeFrame asked

theorem upToDate_after {history : List Happening} (goesOn : .reset ∉ history)
    (current : session.machine.state.UpToDate canvas) :
    (session.after history).machine.state.UpToDate
      (painted canvas (session.replies history)) := by
  induction history generalizing session canvas with
  | nil => exact current
  | cons happening rest ih =>
    have first : happening ≠ .reset := fun same => goesOn (same ▸ List.mem_cons_self)
    exact ih (fun later => goesOn (List.mem_cons_of_mem _ later)) (upToDate_perform first current)

/-- A machine that was just made or reset has its screen off and unmarked. -/
theorem upToDate_begun {seed : Random.Pair} {logger : Logger} {onBeep : BeepHandler} {now : Float}
    {files : Files} {before : List Happening}
    (begun : before = [] ∨ ∃ earlier, before = earlier ++ [.reset]) :
    (Session.after ⟨Machine.create seed logger onBeep, now, files⟩ before).machine.state.UpToDate
      Frame.blank := by
  rcases begun with rfl | ⟨earlier, rfl⟩
  · exact State.upToDate_fresh seed
  · rw [after_append]
    generalize Session.after _ earlier = session
    exact State.upToDate_quietChange (session.machine.quietChange_reset session.around)
      (State.upToDate_fresh session.machine.seed)

/-- **Repainting.** Let a host paint every frame it is handed, from the making of the machine on,
and then ask once more and get none. Whatever happened since the last reset or since the making,
also in vain, the screen is as painted since then over a canvas that is off. So the canvas that the
host has shows the screen if no frame had lit it before that reset, or if a frame was handed out
since; and else it does not. -/
theorem repainted_current_iff (seed : Random.Pair) (logger : Logger) (onBeep : BeepHandler)
    (now : Float) (files : Files) {before since : List Happening}
    (begun : before = [] ∨ ∃ earlier, before = earlier ++ [.reset]) (goesOn : .reset ∉ since) :
    let start : Session := ⟨Machine.create seed logger onBeep, now, files⟩
    let session := start.after (before ++ since)
    let replies := (start.after before).replies since
    (session.perform .takeFrame).result = .ok (.frame none) →
      session.machine.state.screen.cells = painted Frame.blank replies ∧
      (session.machine.state.screen.cells =
          painted Frame.blank (start.replies (before ++ since)) ↔
        painted Frame.blank (start.replies before) = Frame.blank ∨
          ∃ reply ∈ replies, ∃ frame, reply.frame? = some frame) := by
  intro start session replies unasked
  have current : session.machine.state.UpToDate (painted Frame.blank replies) := by
    rw [show session = (start.after before).after since from after_append _ _ _]
    exact upToDate_after goesOn (upToDate_begun begun)
  have unmarked := (result_takeFrame_iff session).mp unasked
  have shown : session.machine.state.screen.cells = painted Frame.blank replies :=
    current.cells_eq unmarked
  refine ⟨shown, ?_⟩
  rw [shown, replies_append, painted_append]
  rcases Classical.em (∃ reply ∈ replies, ∃ frame, reply.frame? = some frame) with
    ⟨reply, among, frame, some⟩ | handed
  · exact ⟨fun _ => .inr ⟨reply, among, frame, some⟩, fun _ => painted_of_some _ _ among some⟩
  · have none : ∀ reply ∈ replies, reply.frame? = Option.none := by
      intro reply among
      rw [Option.eq_none_iff_forall_ne_some]
      exact fun frame some => handed ⟨reply, among, frame, some⟩
    rw [painted_of_none none, painted_of_none none]
    exact ⟨fun same => .inl same.symm, fun either => (either.resolve_right handed).symm⟩

/-- A digit is drawn and painted, the machine is reset, and the same digit is drawn and painted
again. -/
theorem repainted_current_iff_after_redrawing :
    let logger : Logger := ⟨"Chip8", "INFO", false, false, false, 0⟩
    let start : Session := ⟨Machine.create ⟨0, 0⟩ logger .absent, 0, Files.empty⟩
    let drawing : List Happening :=
      [.load (.bytes [0xA0, 0x50, 0xD0, 0x15]), .cycles 2, .takeFrame]
    let since : List Happening := [.cycles 2, .takeFrame, .tick]
    let session := start.after (drawing ++ [.reset] ++ since)
    (session.perform .takeFrame).result = .ok (.frame none) ∧
      session.machine.state.screen.cells =
        painted Frame.blank (start.replies (drawing ++ [.reset] ++ since)) := by
  intro logger start drawing since session
  obtain ⟨drawn, unmarked⟩ :
      ((start.after (drawing ++ [.reset])).perform (.cycles 2)).session.machine.state.dirty = true ∧
        session.machine.state.dirty = false := by decide +kernel
  have unasked := (result_takeFrame_iff session).mpr unmarked
  have goesOn : .reset ∉ since := by simp [since]
  obtain ⟨-, current⟩ := repainted_current_iff ⟨0, 0⟩ logger .absent 0 Files.empty
    (.inr ⟨drawing, rfl⟩) goesOn unasked
  exact ⟨unasked, current.mpr (.inr ⟨_, .tail _ (.head _), _, frame?_of_dirty drawn⟩)⟩

/-- A digit is drawn and painted, and the machine is reset. The screen is off, no frame is handed
out, and the digit stays on the canvas. -/
theorem stale_canvas_after_reset :
    let logger : Logger := ⟨"Chip8", "INFO", false, false, false, 0⟩
    let start : Session := ⟨Machine.create ⟨0, 0⟩ logger .absent, 0, Files.empty⟩
    let loading : List Happening := [.load (.bytes [0xA0, 0x50, 0xD0, 0x15]), .cycles 1]
    let history := loading ++ [.cycles 1] ++ [.takeFrame, .reset]
    let session := start.after history
    (session.perform .takeFrame).result = .ok (.frame none) ∧
      session.machine.state.screen.cells ≠ painted Frame.blank (start.replies history) := by
  intro logger start loading history session
  obtain ⟨marked, unmarked, off⟩ :
      (start.after (loading ++ [.cycles 1])).machine.state.dirty = true ∧
        session.machine.state.dirty = false ∧
        session.machine.state.screen.pixel 0 0 = false := by decide +kernel
  have lit : (start.after (loading ++ [.cycles 1])).machine.state.screen.pixel 0 0 = true := by
    obtain ⟨pending, safe⟩ : (start.after loading).machine.state.pendingWord? = some 0xD015 ∧
        Form.draw.hazard? (Operands.ofWord 0xD015) (start.after loading).machine.state = none := by
      decide +kernel
    have stepped : ((start.after loading).after [.cycles 1]).machine.state =
      (start.after loading).machine.state.step := Machine.state_cycles _ _ 1
    rw [after_append, stepped, State.pixel_step_of_draw pending (by decide) safe]
    decide +kernel
  have canvas : painted Frame.blank (start.replies history) =
      (start.after (loading ++ [.cycles 1])).machine.state.screen.cells := by
    have apart : Happening.reset ≠ .takeFrame := nofun
    rw [replies_append, painted_append]
    simp only [painted, Session.replies, List.foldl_cons, List.foldl_nil, frame?_of_dirty marked,
      frame?_perform apart, Option.getD_some, Option.getD_none]
  refine ⟨(result_takeFrame_iff session).mpr unmarked, fun same => ?_⟩
  have pixels := congrArg (fun cells => Screen.pixel ⟨cells⟩ 0 0) (same.trans canvas)
  exact absurd (off.symm.trans (pixels.trans lit)) (by decide)

end Session

end Chip8
