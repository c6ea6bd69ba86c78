import Stencil.CommandLine.Response
import Stencil.Proofs.Outcome

set_option autoImplicit false

/-! # Pages of files

A template that is asked for on the command line and has no registered name is the path of a file.
The text of the file is then rendered as whatever is asked for by a text is: as the template that is
registered under it, if there is one, and as a template itself if there is none
(`response_render_file`). -/

namespace Stencil

namespace Engine

variable [Attributes] {e : Engine} {data options : Value} {scope : Scope}

/-- In a scope that is found for the data and the options, a page is the text of what is asked for. -/
theorem outcome_renderText (hscope : (e.scope data options).outcome = .ok scope)
    (template : String) :
    (e.renderText template data options).2.outcome
      = (e.process (e.source template) scope).2.outcome := by
  simp only [renderText, hscope]

end Engine

namespace CommandLine

/-! ## Responses -/

/-- A response delivers a page: it prints the page and a line break or, where a file is asked for,
    writes the page to it if that can be. For a fault it tells the fault and writes nothing. -/
def Response.Delivers (a : Response) (t : FileTree) (output : Option Location) :
    Outcome String → Prop
  | .ok page =>
    match output with
    | none => a.exitCode = 0 ∧ a.output = page ++ "\n" ∧ a.written = none
    | some l =>
      if canWrite t l then a.exitCode = 0 ∧ a.written = some (l.resolved, page)
      else a.exitCode = 1 ∧ a.written = none
  | .error fault =>
    a.exitCode = 1 ∧ a.output = Console.markedLine ("❌ Error: " ++ fault.message) ∧
      a.written = none

theorem TaskFault.message_page (fault : Fault) : (TaskFault.page fault).message = fault.message :=
  rfl

/-- A step that comes to a page gets a response that delivers the page. -/
theorem delivers_respond {s : Step String} {outcome : Outcome String} (t : FileTree)
    (output : Option Location) (h : s.outcome = outcome.mapError .page) :
    (respond s (pageResponse t output)).Delivers t output outcome := by
  cases outcome with
  | error fault =>
      have hfault : s.outcome = .error (.page fault) := h
      simp only [respond, hfault, Response.Delivers, TaskFault.message_page, and_self]
  | ok page =>
      have hpage : s.outcome = .ok page := h
      simp only [respond, hpage]
      cases output with
      | none => simp [Response.Delivers, pageResponse, Response.printing]
      | some l =>
          by_cases hwrite : canWrite t l
          · simp [Response.Delivers, pageResponse, hwrite]
          · simp [Response.Delivers, pageResponse, hwrite, Response.printing]

/-! ## Tasks -/

variable {t : FileTree} {env : Environment} {least : Option Level} {r : RenderRequest}
  {e : Engine} {level : Level} {raw : String} {data options : Value} {scope : Scope}

/-- The text that a file is read as: its line ends are line breaks. -/
def fileText (raw : String) : String :=
  String.ofList (Text.unifiedLines raw.toList)

theorem textOf_file {l : Location} (h : t.find? l = some (.file raw)) :
    textOf t l = .ok (fileText raw) := by
  simp only [textOf, FileTree.readText, h, fileText]

/-- What has no registered name stands for the text of the file that it leads to. -/
theorem sourceOf_file {template : String} (hname : e.templates.get? template = none)
    (hfile : t.find? (.ofText template) = some (.file raw)) :
    sourceOf t e template = .ok (fileText raw) := by
  simp [sourceOf, hname, hfile, textOf_file hfile]

section

variable [Attributes] [Coercions]

/-- The text of the file is taken for the name of a template once more. -/
theorem outcome_page_file
    (hengine : (engineFor t env least r.config).outcome = .ok (e, level))
    (hname : e.templates.get? r.template = none)
    (hfile : t.find? (.ofText r.template) = some (.file raw))
    (hdata : dataOf t r.data = .ok data) (hoptions : readJson r.options = .ok options)
    (hscope : (e.scope data options).outcome = .ok scope) :
    (r.page t env least).outcome
      = (e.process (e.source (fileText raw)) scope).2.outcome.mapError .page := by
  have hsource : sourceOf t e r.template = .ok (fileText raw) := sourceOf_file hname hfile
  rw [RenderRequest.page, Telling.outcome_bind, hengine]
  show (Telling.ofOutcome (sourceOf t e r.template) >>= _).outcome = _
  rw [Telling.outcome_bind, Telling.ofOutcome, hsource]
  show (Telling.ofOutcome (dataOf t r.data) >>= _).outcome = _
  rw [Telling.outcome_bind, Telling.ofOutcome, hdata]
  show (Telling.ofOutcome (readJson r.options) >>= _).outcome = _
  rw [Telling.outcome_bind, Telling.ofOutcome, hoptions]
  show (e.renderText (fileText raw) data options).2.outcome.mapError TaskFault.page = _
  rw [Engine.outcome_renderText hscope]

/-! ## Command lines -/

/-- **The page of a file is that of the template that its text stands for.** A file that is asked for
    is read, and its text is looked up among the registered templates like any other that is to be
    rendered. So what is printed or written is the text, rendered as a template in the scope of the
    data and the options, unless there is a template registered under the text itself: then it is
    that one. -/
theorem response_render_file {ws : List String}
    (hread : Request.read t ws = .ok (.perform least (.render r)))
    (hengine : (engineFor t env least r.config).outcome = .ok (e, level))
    (hname : e.templates.get? r.template = none)
    (hfile : t.find? (.ofText r.template) = some (.file raw))
    (hdata : dataOf t r.data = .ok data) (hoptions : readJson r.options = .ok options)
    (hscope : (e.scope data options).outcome = .ok scope) :
    (response t env ws).Delivers t r.output
        (e.process (e.source (fileText raw)) scope).2.outcome ∧
      (e.templates.get? (fileText raw) = none →
        (response t env ws).Delivers t r.output (e.process (fileText raw) scope).2.outcome) := by
  have hdelivers : (response t env ws).Delivers t r.output
      (e.process (e.source (fileText raw)) scope).2.outcome := by
    rw [response, hread]
    exact delivers_respond t r.output
      (outcome_page_file hengine hname hfile hdata hoptions hscope)
  refine ⟨hdelivers, fun htext => ?_⟩
  rw [← Engine.source_of_get?_eq_none htext]
  exact hdelivers

/-- A template that calls a helper. -/
def heading : String := "<h1>\x7b\x7bupper 'menu'\x7d\x7d</h1>"

/-- Two files beside settings in which a template is registered under the text of one of them. -/
def footerTree : FileTree :=
  { files := [
      (.ofText "site.yaml", "templates:\n  footer: <p>bye</p>\n"),
      (.ofText "name.html", "footer"),
      (.ofText "page.html", heading ++ "\r\n")]
    directories := [] }

/-- The words for a file to be rendered with the settings. -/
def footerWords (file : String) : List String :=
  ["template", "render", file, "--config", "site.yaml"]

/-- What these words ask for. -/
def footerRequest (file : String) : RenderRequest :=
  { template := file
    data := none
    config := some (.ofText "site.yaml")
    output := none
    options := none }

end

/-- The settings register one template, and a text that is its name has itself for its page. -/
theorem engineFor_footerTree (file : String) :
    ∃ e level,
      (engineFor footerTree [] none (footerRequest file).config).outcome = .ok (e, level) ∧
      e.templates = [("footer", "<p>bye</p>")] ∧
      (e.process "footer" (e.pageScope [] [])).2.outcome = .ok "footer" := by
  have heval :
      ((engineFor footerTree [] none (some (.ofText "site.yaml"))).outcome.toOption.map fun p =>
        (p.1.templates, (p.1.process "footer" (p.1.pageScope [] [])).2.outcome.toOption))
        = some ([("footer", "<p>bye</p>")], some "footer") := by
    decide +kernel
  obtain ⟨⟨e, level⟩, hengine, hfound⟩ := Option.map_eq_some_iff.1 heval
  obtain ⟨htemplates, hpage⟩ := Prod.mk.inj hfound
  exact ⟨e, level, toOption_eq_some_iff.1 hengine, htemplates, toOption_eq_some_iff.1 hpage⟩

/-- A file whose text is no name is rendered from its text, with the helpers of the settings. -/
theorem response_render_heading :
    ∃ e level,
      (engineFor footerTree [] none (footerRequest "page.html").config).outcome = .ok (e, level) ∧
      Request.read footerTree (footerWords "page.html")
        = .ok (.perform none (.render (footerRequest "page.html"))) ∧
      e.templates.get? "page.html" = none ∧
      footerTree.find? (.ofText "page.html") = some (.file (heading ++ "\r\n")) ∧
      e.templates.get? (heading ++ "\n") = none ∧
      (response footerTree [] (footerWords "page.html")).Delivers footerTree none
        (e.process (heading ++ "\n") (e.pageScope [] [])).2.outcome := by
  obtain ⟨e, level, hengine, htemplates, -⟩ := engineFor_footerTree "page.html"
  have hread : Request.read footerTree (footerWords "page.html")
      = .ok (.perform none (.render (footerRequest "page.html"))) :=
    toOption_eq_some_iff.1 (by decide +kernel)
  have hname : e.templates.get? "page.html" = none := by
    rw [htemplates]
    decide +kernel
  have hfile : footerTree.find? (.ofText "page.html") = some (.file (heading ++ "\r\n")) := by
    decide +kernel
  have htext : e.templates.get? (heading ++ "\n") = none := by
    rw [htemplates]
    decide +kernel
  have hunified : fileText (heading ++ "\r\n") = heading ++ "\n" := by decide +kernel
  refine ⟨e, level, hengine, hread, hname, hfile, htext, ?_⟩
  rw [← hunified] at htext ⊢
  exact (response_render_file hread hengine hname hfile rfl rfl rfl).2 htext

/-- A file whose text is the name of a template is not rendered from its text: the template of that
    name is. -/
theorem response_render_name :
    ∃ e level,
      (engineFor footerTree [] none (footerRequest "name.html").config).outcome = .ok (e, level) ∧
      e.templates.get? "name.html" = none ∧
      footerTree.find? (.ofText "name.html") = some (.file "footer") ∧
      (e.process "footer" (e.pageScope [] [])).2.outcome = .ok "footer" ∧
      (response footerTree [] (footerWords "name.html")).output = "<p>bye</p>\n" ∧
      ¬ (response footerTree [] (footerWords "name.html")).Delivers footerTree none
        (e.process "footer" (e.pageScope [] [])).2.outcome := by
  obtain ⟨e, level, hengine, htemplates, hpage⟩ := engineFor_footerTree "name.html"
  have houtput : (response footerTree [] (footerWords "name.html")).output = "<p>bye</p>\n" := by
    decide +kernel
  refine ⟨e, level, hengine, by rw [htemplates]; decide +kernel, by decide +kernel, hpage, houtput, ?_⟩
  rw [hpage]
  rintro ⟨-, hprinted, -⟩
  rw [houtput] at hprinted
  exact absurd hprinted (by decide)

end CommandLine

end Stencil
