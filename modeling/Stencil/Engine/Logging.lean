import Stencil.Render.Notice

set_option autoImplicit false

/-! # Loggers

Two loggers let notices through: that of the engine, and that of the whole library, whose threshold
counts where the engine's logger has none of its own. A collector is attached to the engine's logger
for a while, among other handlers that may be there, and then taken off again. -/

namespace Stencil

/-- The settings of the loggers. Thresholds are numbers of levels, where zero is none. -/
structure Logging where
  /-- The threshold that counts where neither the library nor the engine has one. -/
  outer : Nat
  /-- The threshold of the library, or zero if it has none. -/
  library : Nat
  /-- The engine's own threshold, or zero if it has none. -/
  engine : Nat
  /-- The handlers attached to the engine's logger, in their order. Numbers tell them apart. -/
  handlers : List Nat
  deriving DecidableEq, Repr

namespace Logging

/-- The loggers with a threshold for the library only. -/
def ofLevel (l : Level) : Logging := ⟨Level.warning.number, l.number, 0, []⟩

/-- The threshold that counts for the engine. -/
def threshold (l : Logging) : Nat :=
  if l.engine ≠ 0 then l.engine
  else if l.library ≠ 0 then l.library
  else l.outer

/-- Whether a notice of the engine gets through. -/
def lets (l : Logging) (n : Notice) : Bool :=
  l.threshold ≤ n.level.number

/-- The notices that get through. -/
def filter (l : Logging) (log : List Notice) : List Notice :=
  log.filter l.lets

/-- A handler that is not attached yet. -/
def newHandler (l : Logging) : Nat := l.handlers.max?.getD 0 + 1

/-- The loggers with a collector attached, open to warnings. -/
def collecting (l : Logging) : Logging :=
  { l with
    engine := if Level.warning.number < l.threshold then Level.warning.number else l.engine
    handlers := l.handlers ++ [l.newHandler] }

/-- The loggers with a collector taken off and the engine's threshold set back. -/
def restored (l : Logging) (engine collector : Nat) : Logging :=
  { l with engine := engine, handlers := l.handlers.erase collector }

/-- Runs a computation while a collector is attached. -/
def whileCollecting {α : Type} (l : Logging) (run : Logging → Logging × α) : Logging × α :=
  let (after, a) := run l.collecting
  (after.restored l.engine l.newHandler, a)

/-- Warnings get through while a collector is attached. -/
theorem threshold_collecting (l : Logging) : l.collecting.threshold ≤ Level.warning.number := by
  by_cases h : Level.warning.number < l.threshold
  · have hengine : l.collecting.engine = Level.warning.number := if_pos h
    have hopen : l.collecting.threshold = Level.warning.number := by
      rw [threshold, hengine, if_pos (by decide)]
    exact Nat.le_of_eq hopen
  · have hengine : l.collecting.engine = l.engine := if_neg h
    have hsame : l.collecting.threshold = l.threshold := by
      rw [threshold, hengine]
      rfl
    rw [hsame]
    exact Nat.le_of_not_lt h

theorem newHandler_not_mem (l : Logging) : l.newHandler ∉ l.handlers := by
  intro h
  have hle : l.newHandler ≤ l.handlers.max?.getD 0 := List.le_max?_getD_of_mem h
  exact absurd hle (Nat.not_succ_le_self _)

/-- Attaching a collector and taking it off changes nothing. -/
theorem restored_collecting (l : Logging) :
    l.collecting.restored l.engine l.newHandler = l := by
  have hhandlers : (l.handlers ++ [l.newHandler]).erase l.newHandler = l.handlers := by
    rw [List.erase_append_right _ l.newHandler_not_mem, List.erase_cons_head, List.append_nil]
  rw [restored, collecting, hhandlers]

/-- A computation that leaves the loggers as they are finds the collector attached, and leaves
    nothing behind. -/
theorem whileCollecting_eq {α : Type} (l : Logging) (run : Logging → α) :
    (l.whileCollecting fun inside => (inside, run inside)) = (l, run l.collecting) := by
  simp only [whileCollecting, restored_collecting]

end Logging

end Stencil
