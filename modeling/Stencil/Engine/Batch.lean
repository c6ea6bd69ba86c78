import Stencil.Engine.Basic
import Stencil.Engine.Logging

set_option autoImplicit false

/-! # Batches

One template rendered with many data. A page counts as failed if rendering it told a warning or an
error; its text is kept either way. -/

namespace Stencil

/-- The number of pages after which progress is reported. -/
def progressStep : Nat := 10

/-- What came out of a batch. -/
structure BatchReport where
  /-- The pages, in the order of their data. -/
  rendered : List String
  successCount : Nat
  errorCount : Nat
  /-- What was told, each with the place of its page. -/
  errors : List (Nat × String)
  /-- Whether the template was refused. -/
  refused : Bool
  deriving DecidableEq, Repr

namespace BatchReport

/-- The number of pages that were asked for. -/
def total (r : BatchReport) : Nat := r.successCount + r.errorCount

/-- The percentage of pages without a warning or an error. -/
def successRate (r : BatchReport) : Double :=
  if r.total = 0 then .zero
  else (Double.ofRatio false r.successCount r.total).mul (.ofInt 100)

end BatchReport

/-- A batch on its way. -/
structure BatchRun where
  engine : Engine
  /-- The pages so far. -/
  rendered : List String
  /-- What was told about them. -/
  errors : List (Nat × String)
  /-- The pages since progress was last reported. -/
  pending : Nat
  /-- The reports of progress so far. -/
  calls : List Nat

namespace BatchRun

/-- The batch with one more page, the one at place `i`, and with what got through about it. -/
def addPage (run : BatchRun) (engine : Engine) (i : Nat) (text : String) (told : List Notice) :
    BatchRun :=
  { engine := engine
    rendered := run.rendered ++ [text]
    errors := run.errors ++ (told.filter (·.reaches .warning)).map fun n => (i, n.message)
    pending := run.pending + 1
    calls := run.calls }

/-- The report on a batch whose pages are all rendered. -/
def report (run : BatchRun) (total : Nat) : BatchReport :=
  let failed := (run.errors.map (·.1)).eraseDups.length
  ⟨run.rendered, total - failed, failed, run.errors, false⟩

end BatchRun

/-- What a batch leaves behind. -/
structure BatchResult where
  engine : Engine
  logging : Logging
  /-- The notices that got through. -/
  log : List Notice
  /-- The reports of progress that were made. -/
  calls : List Nat
  outcome : Outcome BatchReport

/-- A listener to progress, which may fail. -/
abbrev ProgressListener := Nat → Outcome Unit

namespace Engine

/-- What is checked before a batch: the registered template, unless that is empty, or else the
    text. -/
def batchSource (e : Engine) (template : String) : String :=
  match e.templates.get? template with
  | some text => if text.isEmpty then template else text
  | none => template

/-- What keeps a value from being the template of a batch, if anything does. -/
def batchFault? (e : Engine) : Value → Outcome (Option TemplateFault)
  | .str s => .ok (Template.fault? (e.batchSource s))
  | v =>
    match v.unhashable? with
    | some t => .error (.unhashable t)
    | none =>
      if !v.holds then .ok (some .blank)
      else
        match v with
        | .bytes b =>
          if b.all fun c => Text.isBlank (Char.ofNat c.toNat) && c < 128 && !(28 ≤ c && c < 32) then
            .ok (some .blank)
          else .error .bytesNotText
        | v => .error (.noAttribute v.qualifiedTypeName "strip")

/-- Reports the pending pages to the listener, if there is one and their number is one to report. -/
def reportIf (due : Nat → Bool) (listener : Option ProgressListener) (run : BatchRun) :
    BatchRun × Outcome Unit :=
  match listener with
  | some f =>
    if due run.pending then
      ({ run with calls := run.calls ++ [run.pending], pending := 0 }, f run.pending)
    else (run, .ok ())
  | none => (run, .ok ())

/-- Renders the pages from place `i` on, one after the other. -/
def renderPages [Attributes] (template options : Value) (listener : Option ProgressListener)
    (logging : Logging) (i : Nat) (run : BatchRun) : List Value → BatchRun × Traced Unit
  | [] => (run, ⟨[], .ok ()⟩)
  | data :: rest =>
    let (engine, page) := run.engine.render template data options
    let told := logging.filter page.log
    match page.outcome with
    | .error fault => ({ run with engine := engine }, ⟨told, .error fault⟩)
    | .ok text =>
      match reportIf (· = progressStep) listener (run.addPage engine i text told) with
      | (run, .error fault) => (run, ⟨told, .error fault⟩)
      | (run, .ok ()) =>
        let (run, t) := renderPages template options listener logging (i + 1) run rest
        (run, ⟨told ++ t.log, t.outcome⟩)

/-- What a batch leaves behind that ends with `t`, for so many pages. -/
def finishBatch (logging : Logging) (listener : Option ProgressListener) (total : Nat)
    (run : BatchRun) (t : Traced Unit) : BatchResult :=
  match t.outcome with
  | .error fault => ⟨run.engine, logging, t.log, run.calls, .error fault⟩
  | .ok () =>
    let (run, reported) := reportIf (0 < ·) listener run
    ⟨run.engine, logging, t.log, run.calls, reported.map fun () => run.report total⟩

/-- Renders a template with many data, with a collector attached for as long. -/
def renderBatch [Attributes] (e : Engine) (logging : Logging) (template : Value)
    (pages : List Value) (options : Value) (listener : Option ProgressListener) : BatchResult :=
  match e.batchFault? template with
  | .error fault => ⟨e, logging, [], [], .error fault⟩
  | .ok (some fault) =>
    ⟨e, logging, [], [], .ok ⟨[], 0, 1, [(0, fault.message)], true⟩⟩
  | .ok none =>
    let (logging, run, t) := logging.whileCollecting fun inside =>
      (inside, renderPages template options listener inside 0 ⟨e, [], [], 0, []⟩ pages)
    finishBatch logging listener pages.length run t

end Engine

end Stencil
