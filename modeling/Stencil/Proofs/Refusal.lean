import Stencil.Engine.Batch

set_option autoImplicit false

/-! # What a batch is refused for

A batch is refused before its first page if the text that is checked has a fault, and for that fault
only (`renderBatch_refused_iff`). The text that is checked is the one that would be rendered, except
under a name with an empty template: there the name itself is checked (`batchSource_eq`). So
`renderBatch_refused_iff` also says when a batch is refused exactly for the faults of the text that
it renders: unless an empty template is registered under a name that is not blank. -/

namespace Stencil

/-! ## Faults -/

/-- A text is no template for being blank if it is. -/
theorem Template.fault?_eq_blank {text : String} :
    fault? text = some .blank ↔ Text.trim text.toList = [] := by
  unfold fault?
  split
  · rename_i h
    simp [h]
  · rename_i h
    split <;> simp [h]

/-- The words tell a blank template from one whose tags do not match. -/
theorem TemplateFault.eq_blank_of_message {fault : TemplateFault}
    (h : fault.message = TemplateFault.blank.message) : fault = .blank := by
  cases fault with
  | blank => rfl
  | imbalance i =>
      have hwords : "Syntax error at line " ++ toString i.line ++ ": " ++ i.detail
          = "Template cannot be empty" := h
      have hsyntax : "Syntax error at line ".toList = 'S' :: "yntax error at line ".toList := rfl
      have hblank : "Template cannot be empty".toList = 'T' :: "emplate cannot be empty".toList := rfl
      have hchars := congrArg String.toList hwords
      rw [hblank, String.toList_append, String.toList_append, String.toList_append, hsyntax,
        List.cons_append, List.cons_append, List.cons_append] at hchars
      exact absurd (List.cons.inj hchars).1 (by decide)

/-! ## Reports -/

/-- The report on a batch that is refused for a fault of its template. -/
def BatchReport.refusal (fault : TemplateFault) : BatchReport :=
  ⟨[], 0, 1, [(0, fault.message)], true⟩

/-- A batch is refused exactly for the faults of a text: it is if the text has one, and then reports
    this one alone. -/
def RefusedFor (text : String) (outcome : Outcome BatchReport) : Prop :=
  ∀ report, outcome = .ok report ∧ report.refused = true ↔
    ∃ fault, Template.fault? text = some fault ∧ report = .refusal fault

theorem RefusedFor.congr {text other : String} (h : Template.fault? text = Template.fault? other)
    {outcome : Outcome BatchReport} (hrefused : RefusedFor text outcome) :
    RefusedFor other outcome := by
  intro report
  rw [hrefused report, h]

/-- A text that is refused for the same fault as a blank one is blank. -/
theorem RefusedFor.blank {text other : String} {outcome : Outcome BatchReport}
    (htext : RefusedFor text outcome) (hother : RefusedFor other outcome)
    (hblank : Template.fault? other = some .blank) : Template.fault? text = some .blank := by
  obtain ⟨fault, hfault, hreport⟩ :=
    (htext _).1 ((hother (.refusal .blank)).2 ⟨.blank, hblank, rfl⟩)
  simp only [BatchReport.refusal, BatchReport.mk.injEq, List.cons.injEq, Prod.mk.injEq] at hreport
  rw [hfault, TemplateFault.eq_blank_of_message hreport.2.2.2.1.1.2.symm]

namespace Engine

/-- The text that is checked is the one that is rendered, but the name of an empty template is
    checked in its place. -/
theorem batchSource_eq (e : Engine) (template : String) :
    e.batchSource template
      = if e.templates.get? template = some "" then template else e.source template := by
  unfold batchSource source
  cases e.templates.get? template with
  | none => rfl
  | some text =>
      by_cases h : text = ""
      · simp [h]
      · simp [h]

/-- A batch with all its pages is not refused. -/
theorem refused_of_finishBatch {logging : Logging} {listener : Option ProgressListener}
    {total : Nat} {run : BatchRun} {t : Traced Unit} {report : BatchReport}
    (h : (finishBatch logging listener total run t).outcome = .ok report) :
    report.refused = false := by
  unfold finishBatch at h
  cases ht : t.outcome with
  | error fault =>
      rw [ht] at h
      cases h
  | ok u =>
      rw [ht] at h
      dsimp only at h
      rcases hlast : reportIf (0 < ·) listener run with ⟨after, fault | u⟩
      · rw [hlast] at h
        cases h
      · rw [hlast] at h
        cases h
        rfl

/-- A batch is refused exactly for the faults of the text that is checked. -/
theorem refusedFor_batchSource [Attributes] (e : Engine) (logging : Logging) (template : String)
    (pages : List Value) (options : Value) (listener : Option ProgressListener) :
    RefusedFor (e.batchSource template)
      (e.renderBatch logging (.str template) pages options listener).outcome := by
  intro report
  cases hfault : Template.fault? (e.batchSource template) with
  | none =>
      simp only [renderBatch, batchFault?, hfault]
      constructor
      · rintro ⟨h, hrefused⟩
        rw [refused_of_finishBatch h] at hrefused
        cases hrefused
      · rintro ⟨fault, h, -⟩
        cases h
  | some fault =>
      simp only [renderBatch, batchFault?, hfault]
      constructor
      · rintro ⟨h, -⟩
        cases h
        exact ⟨fault, rfl, rfl⟩
      · rintro ⟨fault', h, rfl⟩
        cases h
        exact ⟨rfl, rfl⟩

/-- **A batch is refused for what is wrong with the text that is checked.** It is refused if that text
    has a fault, and then reports this fault alone, for the first page. The text that is checked is
    the one that is rendered, except that the name of an empty template is checked in its place; so a
    batch is refused exactly for the faults of the text that it renders unless there is an empty
    template under a name that is not blank. -/
theorem renderBatch_refused_iff [Attributes] (e : Engine) (logging : Logging) (template : String)
    (pages : List Value) (options : Value) (listener : Option ProgressListener) :
    let outcome := (e.renderBatch logging (.str template) pages options listener).outcome
    RefusedFor (if e.templates.get? template = some "" then template else e.source template)
      outcome ∧
    (RefusedFor (e.source template) outcome ↔
      (e.templates.get? template = some "" → Text.trim template.toList = [])) := by
  intro outcome
  have hchecked : RefusedFor (e.batchSource template) outcome :=
    e.refusedFor_batchSource logging template pages options listener
  rw [batchSource_eq] at hchecked
  refine ⟨hchecked, ?_⟩
  by_cases hempty : e.templates.get? template = some ""
  · have hsource : e.source template = "" := by simp [source, hempty]
    have hblank : Template.fault? "" = some .blank := Template.fault?_eq_blank.2 rfl
    rw [if_pos hempty] at hchecked
    rw [hsource]
    constructor
    · intro h _
      exact Template.fault?_eq_blank.1 (hchecked.blank h hblank)
    · intro h
      exact hchecked.congr ((Template.fault?_eq_blank.2 (h hempty)).trans hblank.symm)
  · rw [if_neg hempty] at hchecked
    exact ⟨fun _ h => absurd h hempty, fun _ => hchecked⟩

/-- An empty template makes an empty page without a word, although it is no template. -/
theorem renderBatch_empty_template :
    let e := (standard 1 []).registerTemplate "page" ""
    Template.fault? (e.source "page") = some .blank ∧
    (e.renderBatch (.ofLevel .warning) (.str "page") [.map []] .null none).outcome.toOption
      = some ⟨[""], 1, 0, [], false⟩ := by
  decide +kernel

end Engine

end Stencil
