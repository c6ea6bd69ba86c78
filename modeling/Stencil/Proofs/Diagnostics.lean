import Stencil.Proofs.Batch

set_option autoImplicit false

/-! # A batch does not depend on the loggers

While a batch is rendered, a collector is attached that is open to warnings, whatever the thresholds
of the loggers are. So it gets the same about each page (`addPage_filter`), and the batch comes to
the same report or the same fault (`renderPages_logging`). The collector is taken off and the
threshold set back however the batch ends (`logging_renderBatch`). `renderBatch_logging` says both of
any two settings. -/

namespace Stencil

namespace BatchRun

/-- About a page, loggers that are open to warnings let the same through to a collector. -/
theorem addPage_filter {l : Logging} (h : l.threshold ≤ Level.warning.number) (run : BatchRun)
    (engine : Engine) (i : Nat) (text : String) (log : List Notice) :
    run.addPage engine i text (l.filter log) = run.addPage engine i text log := by
  unfold addPage
  rw [Logging.filter_reaches_filter h]

end BatchRun

namespace Engine

/-- Pages are rendered to the same end under all loggers that are open to warnings: a page that
    fails or a listener that does ends both batches, and else both have the same page more. -/
theorem renderPages_logging [Attributes] {l l' : Logging} (h : l.threshold ≤ Level.warning.number)
    (h' : l'.threshold ≤ Level.warning.number) (template options : Value)
    (listener : Option ProgressListener) (pages : List Value) : ∀ (i : Nat) (run : BatchRun),
    let done := renderPages template options listener l i run pages
    let done' := renderPages template options listener l' i run pages
    done.1 = done'.1 ∧ done.2.outcome = done'.2.outcome := by
  induction pages with
  | nil =>
      intro i run
      exact ⟨rfl, rfl⟩
  | cons data pages ih =>
      intro i run
      simp only [renderPages]
      cases (run.engine.render template data options).2.outcome with
      | error fault => exact ⟨rfl, rfl⟩
      | ok text =>
          simp only [BatchRun.addPage_filter h, BatchRun.addPage_filter h']
          rcases reportIf _ listener _ with ⟨after, fault | u⟩
          · exact ⟨rfl, rfl⟩
          · exact ih (i + 1) after

/-- The end of a batch depends on what was told about it in nothing but what gets through. -/
theorem finishBatch_logging (l l' : Logging) (listener : Option ProgressListener) (total : Nat)
    (run : BatchRun) {t t' : Traced Unit} (h : t.outcome = t'.outcome) :
    let result := finishBatch l listener total run t
    let result' := finishBatch l' listener total run t'
    result.outcome = result'.outcome ∧ result.engine = result'.engine ∧
      result.calls = result'.calls := by
  simp only [finishBatch, h]
  cases t'.outcome with
  | error fault => exact ⟨rfl, rfl, rfl⟩
  | ok u => exact ⟨rfl, rfl, rfl⟩

theorem logging_finishBatch (l : Logging) (listener : Option ProgressListener) (total : Nat)
    (run : BatchRun) (t : Traced Unit) : (finishBatch l listener total run t).logging = l := by
  unfold finishBatch
  cases t.outcome with
  | error fault => rfl
  | ok u => rfl

/-- However a batch ends, the loggers are what they were before it. -/
theorem logging_renderBatch [Attributes] (e : Engine) (l : Logging) (template : Value)
    (pages : List Value) (options : Value) (listener : Option ProgressListener) :
    (e.renderBatch l template pages options listener).logging = l := by
  unfold renderBatch
  rcases e.batchFault? template with fault | _ | fault
  · rfl
  · simp only [Logging.whileCollecting_eq, logging_finishBatch]
  · rfl

/-- **A batch does not depend on the loggers and leaves them as it found them.** Whatever thresholds
    the library and the engine's logger have, and whatever handlers are attached, a batch comes to the
    same pages, counts and errors, or to the same fault of a page or of the listener; it fills the
    engine's cache alike and makes the same reports of progress. After it, however it ended, the
    thresholds are the old ones and the handlers too, in their order. -/
theorem renderBatch_logging [Attributes] (e : Engine) (template : Value) (pages : List Value)
    (options : Value) (listener : Option ProgressListener) (l l' : Logging) :
    let result := e.renderBatch l template pages options listener
    let result' := e.renderBatch l' template pages options listener
    result.outcome = result'.outcome ∧ result.engine = result'.engine ∧
      result.calls = result'.calls ∧ result.logging = l ∧ result'.logging = l' := by
  intro result result'
  have hlogging : result.logging = l := e.logging_renderBatch l template pages options listener
  have hlogging' : result'.logging = l' := e.logging_renderBatch l' template pages options listener
  suffices hsame : result.outcome = result'.outcome ∧ result.engine = result'.engine ∧
      result.calls = result'.calls from
    ⟨hsame.1, hsame.2.1, hsame.2.2, hlogging, hlogging'⟩
  simp only [result, result', renderBatch]
  rcases e.batchFault? template with fault | _ | fault
  · exact ⟨rfl, rfl, rfl⟩
  · simp only [Logging.whileCollecting_eq]
    obtain ⟨hrun, hend⟩ := renderPages_logging l.threshold_collecting l'.threshold_collecting
      template options listener pages 0 ⟨e, [], [], 0, []⟩
    rw [hrun]
    exact finishBatch_logging l l' listener pages.length _ hend
  · exact ⟨rfl, rfl, rfl⟩

end Engine

end Stencil
