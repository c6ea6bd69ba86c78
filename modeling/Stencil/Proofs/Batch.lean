import Mathlib.Data.Finset.Card
import Stencil.Proofs.Balance
import Stencil.Proofs.Caching

set_option autoImplicit false

/-! # A batch is its pages, one by one

The pages of a batch share an engine, whose cache fills, and a collector, and progress is counted
over all of them. `BatchRun.Covers` and `BatchRun.Reports` say what the state is after some of the
pages: each page is the one that its data get on their own, whatever is cached then, and what was
told has the places of the pages that told it. One more page keeps this (`Covers.addPage`,
`Reports.report`), and so it holds of a whole batch (`renderBatch_eq_pages`). -/

namespace Stencil

/-! ## What a batch tells -/

/-- The warnings and errors in what was told about a page, each with the place of the page. -/
def placed (place : Nat) (log : List Notice) : List (Nat × String) :=
  (log.filter (·.reaches .warning)).map fun notice => (place, notice.message)

/-- The reports of progress on so many pages: one for each full step, and one for what is left. -/
def progressReports (total : Nat) : List Nat :=
  List.replicate (total / progressStep) progressStep ++
    if total % progressStep = 0 then [] else [total % progressStep]

/-- A collector that is open to warnings gets all of them. -/
theorem Logging.filter_reaches_filter {l : Logging} (h : l.threshold ≤ Level.warning.number)
    (log : List Notice) :
    (l.filter log).filter (·.reaches .warning) = log.filter (·.reaches .warning) := by
  rw [Logging.filter, List.filter_filter]
  refine List.filter_congr fun notice _ => ?_
  cases hreaches : notice.reaches .warning with
  | false => rfl
  | true =>
      rw [Bool.true_and, lets, decide_eq_true_eq]
      exact h.trans (of_decide_eq_true hreaches)

/-- Counting what is left without duplicates is counting different places. -/
theorem length_eraseDups (places : List Nat) :
    places.eraseDups.length = places.toFinset.card := by
  rw [← List.toFinset_card_of_nodup (nodup_eraseDups places)]
  congr 1
  ext place
  rw [List.mem_toFinset, List.mem_toFinset, List.mem_eraseDups]

theorem step_mem_progressReports {total : Nat} (h : progressStep ≤ total) :
    progressStep ∈ progressReports total := by
  refine List.mem_append_left _ (List.mem_replicate.2 ⟨?_, rfl⟩)
  exact Nat.ne_of_gt (Nat.div_pos h (by decide))

theorem rest_mem_progressReports {total : Nat} (h : total % progressStep ≠ 0) :
    total % progressStep ∈ progressReports total := by
  refine List.mem_append_right _ ?_
  rw [if_neg h]
  exact List.mem_singleton_self _

/-- A page on its own. -/
def Engine.page [Attributes] (e : Engine) (template data options : Value) : Traced String :=
  (e.render template data options).2

theorem Engine.page_withCache [Attributes] (e : Engine) (c : Cache)
    (template data options : Value) :
    (e.withCache c).page template data options = e.page template data options :=
  congrArg (·.2) (e.render_withCache c template data options)

namespace BatchRun

open Engine

variable {e : Engine} {template options : Value} {run : BatchRun} {pages : List Value}

/-! ## Pages -/

section

variable [Attributes]

/-- The batch has rendered some pages, and what it has is what they are on their own. -/
structure Covers (e : Engine) (template options : Value) (run : BatchRun) (pages : List Value) :
    Prop where
  engine : ∃ c, run.engine = e.withCache c
  rendered : List.Forall₂ (fun data page => (e.page template data options).outcome = .ok page) pages
    run.rendered
  errors : run.errors
    = pages.zipIdx.flatMap fun (data, i) => placed i (e.page template data options).log

theorem covers_start : Covers e template options ⟨e, [], [], 0, []⟩ [] :=
  ⟨⟨e.cache, rfl⟩, .nil, rfl⟩

/-- Reporting progress changes no page. -/
theorem Covers.report (h : run.Covers e template options pages) (due : Nat → Bool)
    (listener : Option ProgressListener) :
    (reportIf due listener run).1.Covers e template options pages := by
  cases listener with
  | none => exact h
  | some f =>
      rw [reportIf]
      split
      · exact ⟨h.engine, h.rendered, h.errors⟩
      · exact h

/-- The next page is the one that its data get on their own. -/
theorem Covers.page_eq (h : run.Covers e template options pages) (data : Value) :
    run.engine.page template data options = e.page template data options := by
  obtain ⟨c, hc⟩ := h.engine
  rw [hc, page_withCache]

theorem Covers.addPage (h : run.Covers e template options pages) {data : Value} {text : String}
    (htext : (e.page template data options).outcome = .ok text) {logging : Logging}
    (hlogging : logging.threshold ≤ Level.warning.number) :
    (run.addPage (run.engine.render template data options).1 pages.length text
      (logging.filter (e.page template data options).log)).Covers e template options
        (pages ++ [data]) where
  engine := by
    obtain ⟨c, hc⟩ := h.engine
    exact ⟨_, by rw [BatchRun.addPage, hc, render_withCache]⟩
  rendered := List.rel_append h.rendered (.cons htext .nil)
  errors := by
    rw [BatchRun.addPage, h.errors, Logging.filter_reaches_filter hlogging, List.zipIdx_append,
      List.flatMap_append]
    simp [placed]

/-- Each error has the place of a page. -/
theorem Covers.place_lt (h : run.Covers e template options pages) :
    ∀ error ∈ run.errors, error.1 < pages.length := by
  intro error herror
  rw [h.errors] at herror
  obtain ⟨⟨data, i⟩, hi, herror⟩ := List.mem_flatMap.1 herror
  obtain ⟨notice, -, rfl⟩ := List.mem_map.1 herror
  exact List.snd_lt_of_mem_zipIdx hi

/-- No more pages fail than there are. -/
theorem Covers.failed_le (h : run.Covers e template options pages) :
    (run.errors.map (·.1)).toFinset.card ≤ pages.length := by
  have hsubset : (run.errors.map (·.1)).toFinset ⊆ Finset.range pages.length := by
    intro place hplace
    obtain ⟨error, herror, rfl⟩ := List.mem_map.1 (List.mem_toFinset.1 hplace)
    exact Finset.mem_range.2 (h.place_lt error herror)
  simpa using Finset.card_le_card hsubset

end

/-! ## Progress -/

/-- After so many pages, each full step has been reported if somebody listens, and what is left is
    pending. -/
structure Reports (listener : Option ProgressListener) (run : BatchRun) (total : Nat) : Prop where
  pending : listener.isSome → run.pending = total % progressStep
  calls : run.calls
    = if listener.isSome then List.replicate (total / progressStep) progressStep else []

variable {listener : Option ProgressListener} {total : Nat}

theorem reports_start : Reports listener ⟨e, [], [], 0, []⟩ 0 :=
  ⟨fun _ => rfl, (ite_self _).symm⟩

theorem succ_of_full (h : total % progressStep + 1 = progressStep) :
    (total + 1) % progressStep = 0 ∧ (total + 1) / progressStep = total / progressStep + 1 := by
  unfold progressStep at *
  omega

theorem succ_of_part (h : total % progressStep + 1 ≠ progressStep) :
    (total + 1) % progressStep = total % progressStep + 1 ∧
      (total + 1) / progressStep = total / progressStep := by
  unfold progressStep at *
  omega

/-- The report after one more page. -/
theorem Reports.addPage (h : run.Reports listener total) (engine : Engine) (i : Nat) (text : String)
    (told : List Notice) :
    (reportIf (· = progressStep) listener (run.addPage engine i text told)).1.Reports listener
      (total + 1) := by
  cases listener with
  | none => exact ⟨nofun, h.calls⟩
  | some f =>
      have hpending : run.pending = total % progressStep := h.pending rfl
      have hcalls : run.calls = List.replicate (total / progressStep) progressStep := h.calls
      rw [reportIf]
      split
      · rename_i hdue
        have hfull : run.pending + 1 = progressStep := of_decide_eq_true hdue
        obtain ⟨hmod, hdiv⟩ := succ_of_full (hpending ▸ hfull)
        refine ⟨fun _ => hmod.symm, ?_⟩
        rw [Option.isSome_some, if_pos rfl, hdiv, List.replicate_succ', ← hcalls, ← hfull]
        rfl
      · rename_i hdue
        have hpart : run.pending + 1 ≠ progressStep := fun h => hdue (decide_eq_true h)
        obtain ⟨hmod, hdiv⟩ := succ_of_part (hpending ▸ hpart)
        refine ⟨fun _ => ?_, ?_⟩
        · rw [hmod, ← hpending]
          rfl
        · rw [Option.isSome_some, if_pos rfl, hdiv, ← hcalls]
          rfl

/-- The reports at the end. -/
theorem Reports.finish (h : run.Reports listener total) :
    (reportIf (0 < ·) listener run).1.calls
      = if listener.isSome then progressReports total else [] := by
  cases listener with
  | none => exact h.calls
  | some f =>
      have hpending : run.pending = total % progressStep := h.pending rfl
      have hcalls : run.calls = List.replicate (total / progressStep) progressStep := h.calls
      rw [reportIf, Option.isSome_some, if_pos rfl, progressReports, hpending]
      split
      · rename_i hdue
        have hleft : total % progressStep ≠ 0 := Nat.ne_of_gt (of_decide_eq_true hdue)
        rw [if_neg hleft, ← hcalls]
      · rename_i hdue
        have hnone : total % progressStep = 0 := by simpa using hdue
        rw [if_pos hnone, List.append_nil, ← hcalls]

/-- A listener that takes the reports of full steps does so after one more page. -/
theorem Reports.addPage_ok (h : run.Reports listener total)
    (hlistener : ∀ f ∈ listener, progressStep ≤ total + 1 → f progressStep = .ok ())
    (engine : Engine) (i : Nat) (text : String) (told : List Notice) :
    (reportIf (· = progressStep) listener (run.addPage engine i text told)).2 = .ok () := by
  cases listener with
  | none => rfl
  | some f =>
      have hpending : run.pending = total % progressStep := h.pending rfl
      rw [reportIf]
      split
      · rename_i hdue
        have hfull : run.pending + 1 = progressStep := of_decide_eq_true hdue
        have hle : progressStep ≤ total + 1 := by
          rw [← hfull, hpending]
          exact Nat.succ_le_succ (Nat.mod_le _ _)
        exact (congrArg f hfull).trans (hlistener f rfl hle)
      · rfl

/-- A listener that takes the report of what is left does so at the end. -/
theorem Reports.finish_ok (h : run.Reports listener total)
    (hlistener : ∀ f ∈ listener, total % progressStep ≠ 0 → f (total % progressStep) = .ok ()) :
    (reportIf (0 < ·) listener run).2 = .ok () := by
  cases listener with
  | none => rfl
  | some f =>
      have hpending : run.pending = total % progressStep := h.pending rfl
      rw [reportIf, hpending]
      split
      · rename_i hdue
        exact hlistener f rfl (Nat.ne_of_gt (of_decide_eq_true hdue))
      · rfl

/-! ## All pages -/

variable [Attributes]

section

variable {logging : Logging} (hlogging : logging.threshold ≤ Level.warning.number)
  {before : List Value} (hcovers : run.Covers e template options before)
  (hreports : run.Reports listener before.length)
include hlogging hcovers hreports

/-- The batch ends with the next page, because there is none or the listener fails, or it goes on
    with a page more. -/
theorem renderPages_cons_cases (data : Value) (pages : List Value) :
    let whole := renderPages template options listener logging before.length run (data :: pages)
    ((∃ fault, whole.2.outcome = .error fault) ∧
      ((∃ page, (e.page template data options).outcome = .ok page) →
        ¬ ∀ f ∈ listener, progressStep ≤ before.length + 1 → f progressStep = .ok ())) ∨
    ∃ after : BatchRun,
      let rest := renderPages template options listener logging (before.length + 1) after pages
      after.Covers e template options (before ++ [data]) ∧
      after.Reports listener (before.length + 1) ∧
      whole.1 = rest.1 ∧ whole.2.outcome = rest.2.outcome := by
  have hpage : (run.engine.render template data options).2 = e.page template data options :=
    hcovers.page_eq data
  rw [renderPages]
  -- The engine of the batch may have cached more than `e` has, which changes no page.
  rcases hrender : run.engine.render template data options with ⟨engine, page⟩
  rw [hrender] at hpage
  subst hpage
  dsimp only
  cases hout : (e.page template data options).outcome with
  | error fault =>
      refine Or.inl ⟨⟨fault, rfl⟩, ?_⟩
      rintro ⟨page, hpage⟩
      cases hpage
  | ok text =>
      have hcovers' := (hcovers.addPage hout hlogging).report (· = progressStep) listener
      rw [hrender] at hcovers'
      have hreports' := hreports.addPage engine before.length text
        (logging.filter (e.page template data options).log)
      have hok := fun hlistener => hreports.addPage_ok hlistener engine before.length text
        (logging.filter (e.page template data options).log)
      dsimp only
      -- There is a page; what comes next is up to the listener.
      rcases hafter : reportIf _ listener _ with ⟨after, fault | ⟨⟩⟩
      · rw [hafter] at hok
        refine Or.inl ⟨⟨fault, rfl⟩, fun _ hlistener => ?_⟩
        cases hok hlistener
      · rw [hafter] at hcovers' hreports'
        exact Or.inr ⟨after, hcovers', hreports', rfl, rfl⟩

end

section

variable {logging : Logging} (hlogging : logging.threshold ≤ Level.warning.number)
include hlogging

/-- After the last page, all pages are rendered and reported. -/
theorem covers_of_renderPages : ∀ {pages before : List Value} {run : BatchRun},
    run.Covers e template options before → run.Reports listener before.length →
    (renderPages template options listener logging before.length run pages).2.outcome = .ok () →
      (renderPages template options listener logging before.length run pages).1.Covers e template
        options (before ++ pages) ∧
      (renderPages template options listener logging before.length run pages).1.Reports listener
        (before ++ pages).length := by
  intro pages
  induction pages with
  | nil =>
      intro before run hcovers hreports _
      rw [List.append_nil]
      exact ⟨hcovers, hreports⟩
  | cons data pages ih =>
      intro before run hcovers hreports hok
      rcases renderPages_cons_cases hlogging hcovers hreports data pages with
        ⟨⟨fault, hfault⟩, -⟩ | ⟨after, hcovers', hreports', hrun, hout⟩
      · rw [hfault] at hok
        cases hok
      · have hlength : before.length + 1 = (before ++ [data]).length := by simp
        rw [hout, hlength] at hok
        rw [hlength] at hreports' hrun
        rw [hrun, List.append_cons before data pages]
        exact ih hcovers' hreports' hok

/-- The last page is reached if there are all pages and the listener takes the full steps. -/
theorem renderPages_ok : ∀ {pages before : List Value} {run : BatchRun},
    run.Covers e template options before → run.Reports listener before.length →
    (∀ data ∈ pages, ∃ page, (e.page template data options).outcome = .ok page) →
    (∀ f ∈ listener, progressStep ≤ (before ++ pages).length → f progressStep = .ok ()) →
      (renderPages template options listener logging before.length run pages).2.outcome = .ok () := by
  intro pages
  induction pages with
  | nil => exact fun _ _ _ _ => rfl
  | cons data pages ih =>
      intro before run hcovers hreports hpages hlistener
      obtain ⟨hpage, hpages⟩ := List.forall_mem_cons.1 hpages
      have hlength : (before ++ [data]).length = before.length + 1 := by simp
      rw [List.append_cons] at hlistener
      rcases renderPages_cons_cases hlogging hcovers hreports data pages with
        ⟨-, hfails⟩ | ⟨after, hcovers', hreports', -, hout⟩
      · refine absurd (fun f hf hle => hlistener f hf ?_) (hfails hpage)
        rw [List.length_append, hlength]
        exact hle.trans (Nat.le_add_right _ _)
      · rw [← hlength] at hreports' hout
        rw [hout]
        exact ih hcovers' hreports' hpages hlistener

end

/-- The report on pages that are all rendered. -/
theorem of_finishBatch {logging : Logging} (hcovers : run.Covers e template options pages)
    (hreports : run.Reports listener pages.length) {t : Traced Unit} (ht : t.outcome = .ok ()) :
    let result := finishBatch logging listener pages.length run t
    result.calls = (if listener.isSome then progressReports pages.length else []) ∧
    (∀ report, result.outcome = .ok report →
      ∃ after : BatchRun, after.Covers e template options pages ∧
        report = after.report pages.length) ∧
    ((∀ f ∈ listener, pages.length % progressStep ≠ 0 →
      f (pages.length % progressStep) = .ok ()) → ∃ report, result.outcome = .ok report) := by
  have hcovers' := hcovers.report (0 < ·) listener
  have hcalls := hreports.finish
  have hok := fun hlistener => hreports.finish_ok hlistener
  rw [finishBatch, ht]
  rcases hafter : reportIf _ listener run with ⟨after, outcome⟩
  rw [hafter] at hcovers' hcalls hok
  refine ⟨hcalls, fun report h => ?_, fun hlistener => ⟨after.report pages.length, ?_⟩⟩
  · cases outcome with
    | error fault => cases h
    | ok u =>
        cases h
        exact ⟨after, hcovers', rfl⟩
  · rw [show outcome = .ok () from hok hlistener]
    rfl

end BatchRun

namespace Engine

section

variable [Attributes]

/-- A template without faults is rendered from the start of a batch on. -/
theorem renderBatch_of_fault?_eq_none {e : Engine} {template : String}
    (h : Template.fault? (e.batchSource template) = none) (logging : Logging) (pages : List Value)
    (options : Value) (listener : Option ProgressListener) :
    e.renderBatch logging (.str template) pages options listener
      = let done := renderPages (.str template) options listener logging.collecting 0
          ⟨e, [], [], 0, []⟩ pages
        finishBatch logging listener pages.length done.1 done.2 := by
  simp only [renderBatch, batchFault?, h, Logging.whileCollecting_eq]

variable {e : Engine} {logging : Logging} {template : String} {pages : List Value} {options : Value}
  {listener : Option ProgressListener}

/-- What is reported on a batch that comes to its end. -/
theorem of_renderBatch (hfault : Template.fault? (e.batchSource template) = none)
    {report : BatchReport}
    (h : (e.renderBatch logging (.str template) pages options listener).outcome = .ok report) :
    (∃ after : BatchRun, after.Covers e (.str template) options pages ∧
      report = after.report pages.length) ∧
    (e.renderBatch logging (.str template) pages options listener).calls
      = if listener.isSome then progressReports pages.length else [] := by
  rw [renderBatch_of_fault?_eq_none hfault] at h ⊢
  dsimp only at h ⊢
  cases hout : (renderPages (.str template) options listener logging.collecting 0
    ⟨e, [], [], 0, []⟩ pages).2.outcome with
  | error fault =>
      rw [finishBatch, hout] at h
      cases h
  | ok u =>
      obtain ⟨hcovers, hreports⟩ := BatchRun.covers_of_renderPages logging.threshold_collecting
        BatchRun.covers_start BatchRun.reports_start hout
      obtain ⟨hcalls, hreport, -⟩ := BatchRun.of_finishBatch hcovers hreports hout
      exact ⟨hreport report h, hcalls⟩

/-- A batch comes to its end if there are all pages and the listener takes all reports. -/
theorem renderBatch_ok (hfault : Template.fault? (e.batchSource template) = none)
    (hpages : ∀ data ∈ pages, ∃ page, (e.page (.str template) data options).outcome = .ok page)
    (hlistener : ∀ f ∈ listener, ∀ n ∈ progressReports pages.length, f n = .ok ()) :
    ∃ report, (e.renderBatch logging (.str template) pages options listener).outcome
      = .ok report := by
  rw [renderBatch_of_fault?_eq_none hfault]
  dsimp only
  have hopen := logging.threshold_collecting
  have hout := BatchRun.renderPages_ok hopen BatchRun.covers_start BatchRun.reports_start hpages
    fun f hf hle => hlistener f hf _ (step_mem_progressReports hle)
  obtain ⟨hcovers, hreports⟩ := BatchRun.covers_of_renderPages hopen
    BatchRun.covers_start BatchRun.reports_start hout
  obtain ⟨-, -, hend⟩ := BatchRun.of_finishBatch hcovers hreports hout
  exact hend fun f hf hrest => hlistener f hf _ (rest_mem_progressReports hrest)

/-- **A batch is its pages, one by one.** A batch that is not refused has, in the order of the data,
    the page that each of the data get on their own, from an engine that differs at most in what it
    has cached. Its errors are the warnings and errors that these pages tell, each with the place of
    its page; a page counts as failed if it has one, and else as a success. A listener is told of
    progress once for every ten pages, and once more if some are left. A template without faults is
    not refused, and the batch comes to its end if all its pages can be rendered and the listener
    takes these reports. -/
theorem renderBatch_eq_pages (e : Engine) (logging : Logging) (template : String)
    (pages : List Value) (options : Value) (listener : Option ProgressListener) :
    let result := e.renderBatch logging (.str template) pages options listener
    (∀ report, result.outcome = .ok report → report.refused = false →
      (∀ c : Cache, List.Forall₂ (fun data page =>
          ((e.withCache c).page (.str template) data options).outcome = .ok page)
          pages report.rendered ∧
        report.errors = pages.zipIdx.flatMap fun (data, i) =>
          placed i ((e.withCache c).page (.str template) data options).log) ∧
      report.errorCount = (report.errors.map (·.1)).toFinset.card ∧
      report.successCount + report.errorCount = pages.length ∧
      result.calls = if listener.isSome then progressReports pages.length else []) ∧
    (Template.fault? (e.batchSource template) = none →
      (∀ data ∈ pages, ∃ page, (e.page (.str template) data options).outcome = .ok page) →
      (∀ f ∈ listener, ∀ n ∈ progressReports pages.length, f n = .ok ()) →
        ∃ report, result.outcome = .ok report ∧ report.refused = false) := by
  intro result
  refine ⟨fun report h hrefused => ?_, fun hfault hpages hlistener => ?_⟩
  · have hfault : Template.fault? (e.batchSource template) = none := by
      by_contra hsome
      obtain ⟨fault, hfault⟩ := Option.ne_none_iff_exists'.1 hsome
      simp only [result, renderBatch, batchFault?, hfault] at h
      cases h
      cases hrefused
    obtain ⟨⟨after, hafter, rfl⟩, hcalls⟩ := of_renderBatch hfault h
    have hcount : (after.errors.map (·.1)).eraseDups.length
        = (after.errors.map (·.1)).toFinset.card := length_eraseDups _
    refine ⟨fun c => ?_, hcount, ?_, hcalls⟩
    · simp only [page_withCache]
      exact ⟨hafter.rendered, hafter.errors⟩
    · exact Nat.sub_add_cancel (hcount.trans_le hafter.failed_le)
  · obtain ⟨report, h⟩ := renderBatch_ok hfault hpages hlistener
    obtain ⟨⟨after, -, rfl⟩, -⟩ := of_renderBatch hfault h
    exact ⟨_, h, rfl⟩

end

/-- Twelve pages, of which those at an even place tell of an unknown helper, in loggers that let
    errors through only. -/
theorem renderBatch_eq_pages_twelve :
    let e := standard 1 []
    let template := String.ofList (Template.printed [
      .block .conditional "odd" 1 [.variable "shout n" 1], .variable "n" 1])
    let pages := (List.range 12).map fun n : Nat =>
      Value.map (Entries.ofFields [("n", .int n), ("odd", .bool (n % 2 = 0))])
    let result := e.renderBatch (.ofLevel .error) (.str template) pages .null (some fun _ => .ok ())
    Template.fault? (e.batchSource template) = none ∧
    ∃ report, result.outcome = .ok report ∧ report.refused = false ∧ report.errorCount = 6 ∧
      report.successCount = 6 ∧ result.calls = [10, 2] := by
  intro e template pages result
  have hfault : Template.fault? (e.batchSource template) = none := by decide +kernel
  have hpages : ∀ data ∈ pages, ∃ page, (e.page (.str template) data .null).outcome = .ok page := by
    have hok : ∀ data ∈ pages, (e.page (.str template) data .null).outcome.isOk = true := by
      decide +kernel
    exact fun data hdata => exists_eq_ok_of_isOk (hok data hdata)
  obtain ⟨hreport, hend⟩ :=
    renderBatch_eq_pages e (.ofLevel .error) template pages .null (some fun _ => .ok ())
  obtain ⟨report, h, hrefused⟩ := hend hfault hpages (by simp)
  obtain ⟨hall, hcount, hsum, hcalls⟩ := hreport report h hrefused
  have hsix : report.errorCount = 6 := by
    rw [hcount, (hall e.cache).2]
    decide +kernel
  rw [hsix] at hsum
  have hlength : progressReports pages.length = [10, 2] := by decide
  exact ⟨hfault, report, h, hrefused, hsix, Nat.add_right_cancel hsum, hcalls.trans hlength⟩

end Engine

end Stencil
