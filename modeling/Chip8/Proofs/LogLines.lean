import Chip8.Note

/-!
# Telling log lines apart

A line begins with the time, its level and the name of the logger, and the message follows. The
levels look different and are equally wide, so the level of a line can be told from its beginning,
whatever the message is.
-/

namespace Chip8

theorem Level.mem_all (level : Level) : level ∈ all := by
  cases level <;> decide

namespace Logger

variable (logger : Logger) (now : Float)

/-- What stands in front of the messages of a level. -/
def heading (level : Level) : String :=
  logger.timestamp now ++ logger.tag level.name ++ "[" ++ logger.name ++ "] "

theorem format_eq_heading (level : Level) (message : String) :
    logger.format now level.name message = logger.heading now level ++ message := rfl

theorem log_of_enabled {level : Level} (enabled : logger.isEnabledFor level.name = true)
    (message : String) :
    logger.log now level.name message = logger.heading now level ++ message ++ "\n" := by
  rw [log, if_pos enabled, format_eq_heading]

/-- The levels of lines look different and are equally wide. -/
theorem tag_apart {level other : Level} (apart : level ≠ other) :
    (logger.tag level.name).toList.length = (logger.tag other.name).toList.length ∧
      logger.tag level.name ≠ logger.tag other.name := by
  have each : ∀ colours terminal, ∀ level ∈ Level.all, ∀ other ∈ Level.all, level ≠ other →
      let plain : Logger := ⟨"", "", colours, false, terminal, 0⟩
      (plain.tag level.name).toList.length = (plain.tag other.name).toList.length ∧
        plain.tag level.name ≠ plain.tag other.name := by
    decide +kernel
  exact each logger.colours logger.terminal level level.mem_all other other.mem_all apart

/-- No line begins with the heading of another level. -/
theorem heading_not_prefix {level other : Level} (apart : level ≠ other) (message : String) :
    ¬ (logger.heading now other).toList <+: (logger.heading now level ++ message).toList := by
  rintro ⟨rest, same⟩
  obtain ⟨wide, differ⟩ := logger.tag_apart apart
  simp only [heading, String.toList_append, List.append_assoc] at same
  have tagged := List.append_cancel_left same
  exact differ (String.toList_inj.mp (List.append_inj tagged wide.symm).1.symm)

theorem format_injective (level : String) {first second : String}
    (same : logger.format now level first = logger.format now level second) : first = second :=
  (String.append_right_inj _).mp same

theorem format_apart {level other : Level} (apart : level ≠ other) (first second : String) :
    logger.format now level.name first ≠ logger.format now other.name second := by
  intro same
  rw [format_eq_heading, format_eq_heading] at same
  refine logger.heading_not_prefix now apart first ?_
  rw [same, String.toList_append]
  exact List.prefix_append _ _

end Logger

end Chip8
