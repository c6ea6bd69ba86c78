import Mathlib.Data.List.Basic
import Stencil.Validation.Basic

set_option autoImplicit false

/-! # What a check finds

A check finds the same problems whatever its strictness is, and a stricter one has all the concerns
of a laxer one: each kind of concern is raised from a strictness on (`Concern.least`), so the
concerns at one strictness are those of the strictest check that are raised there
(`check_strictness`).

A check compares the variables of a template with the expected ones and finds those that are missing,
unless no names are expected at all (`check_expected_iff`). -/

namespace Stencil

/-! ## Concerns by strictness -/

/-- The least strictness at which a kind of concern is raised. -/
def Concern.least : Concern → Strictness
  | .unusedVariables _ => .strict
  | .unknownComponent _ _ => .standard
  | .unknownHelper _ _ => .standard
  | .deepNesting _ => .strict
  | .risky _ => .standard
  | .longLine _ _ => .strict
  | .controlCharacters _ => .permissive
  | .tagInOutput => .permissive

/-- Whether a concern is raised at a strictness. -/
def Concern.isRaised (strictness : Strictness) (c : Concern) : Bool :=
  c.least.rank ≤ strictness.rank

theorem Strictness.rank_le_strict (s : Strictness) : s.rank ≤ Strictness.strict.rank := by
  cases s <;> decide

/-- What is raised at a strictness is raised at a higher one. -/
theorem Concern.isRaised_of_rank_le {s t : Strictness} (h : s.rank ≤ t.rank) {c : Concern}
    (hc : c.isRaised s = true) : c.isRaised t = true := by
  simp only [isRaised, decide_eq_true_eq] at hc ⊢
  exact Nat.le_trans hc h

theorem least_of_mem_unusedVariables {used expected : List String} {c : Concern}
    (h : c ∈ Engine.unusedVariables used expected) : c.least = .strict := by
  unfold Engine.unusedVariables at h
  split at h
  · cases h
  · rw [List.mem_singleton.1 h]
    rfl

theorem Functions.least_of_mem_unknownHelper {f : Functions} {e : String} {line : Nat} {c : Concern}
    (h : c ∈ unknownIn.unknownHelper f e line) : c.least = .standard := by
  unfold unknownIn.unknownHelper at h
  split at h
  · dsimp only at h
    split at h
    · cases h
    · rw [List.mem_singleton.1 h]
      rfl
  · cases h

theorem Functions.least_of_mem_unknownIn {f : Functions} {n : Node} {c : Concern}
    (h : c ∈ f.unknownIn n) : c.least = .standard := by
  rcases n with s | ⟨e, line⟩ | ⟨name, arguments, line⟩ | ⟨_ | _, subject, line, body⟩
  · cases h
  · exact least_of_mem_unknownHelper h
  · simp only [unknownIn] at h
    split at h
    · cases h
    · rw [List.mem_singleton.1 h]
      rfl
  · exact least_of_mem_unknownHelper h
  · cases h

theorem least_of_mem_deepNesting {depth : Nat} {c : Concern}
    (h : c ∈ if deepestNesting < depth then [Concern.deepNesting depth] else []) :
    c.least = .strict := by
  split at h
  · rw [List.mem_singleton.1 h]
    rfl
  · cases h

theorem least_of_mem_longLines {text : List Char} {c : Concern} (h : c ∈ longLines text) :
    c.least = .strict := by
  obtain ⟨⟨l, i⟩, -, hc⟩ := List.mem_filterMap.1 h
  dsimp only at hc
  split at hc
  · cases hc
    rfl
  · cases hc

theorem least_of_mem_controlConcern {text : List Char} {c : Concern} (h : c ∈ controlConcern text) :
    c.least = .permissive := by
  unfold controlConcern at h
  split at h
  · cases h
  · rw [List.mem_singleton.1 h]
    rfl

namespace Engine

/-- Concerns that are raised from a strictness on are those of the strictest check that are raised. -/
theorem whenAtLeast_eq_filter {least : Strictness} {concerns : List Concern}
    (h : ∀ c ∈ concerns, c.least = least) (strictness : Strictness) :
    whenAtLeast strictness least concerns
      = (whenAtLeast .strict least concerns).filter (Concern.isRaised strictness) := by
  rw [whenAtLeast, whenAtLeast, if_pos least.rank_le_strict]
  by_cases hleast : least.rank ≤ strictness.rank
  · rw [if_pos hleast, List.filter_eq_self.2]
    intro c hc
    simp [Concern.isRaised, h c hc, hleast]
  · rw [if_neg hleast, List.filter_eq_nil_iff.2]
    intro c hc
    simp [Concern.isRaised, h c hc, hleast]

/-- The concerns that a check can have, in groups, each with the strictness that it is raised from. -/
def concernGroups (e : Engine) (text : String) (expected : List String) :
    List (Strictness × List Concern) :=
  let nodes := Template.parse text
  let depth := Template.depth nodes
  let structural :=
    if (syntaxProblems text).isEmpty then
      [(.strict, unusedVariables (Template.dataNames nodes) expected),
        (.standard, (Template.walk nodes).flatMap e.functions.unknownIn),
        (.strict, if deepestNesting < depth then [.deepNesting depth] else [])]
    else []
  if text.isEmpty then []
  else
    structural ++
      [(.standard, (RiskyPlace.foundIn text.toList).map .risky),
        (.strict, longLines text.toList),
        (.permissive, controlConcern text.toList)]

theorem least_of_mem_concernGroups {e : Engine} {text : String} {expected : List String}
    {group : Strictness × List Concern} (hgroup : group ∈ e.concernGroups text expected)
    {c : Concern} (hc : c ∈ group.2) : c.least = group.1 := by
  unfold concernGroups at hgroup
  by_cases hempty : text.isEmpty
  · simp [hempty] at hgroup
  · rw [if_neg hempty] at hgroup
    rcases List.mem_append.1 hgroup with hgroup | hgroup
    · by_cases hsound : (syntaxProblems text).isEmpty
      · rw [if_pos hsound] at hgroup
        simp only [List.mem_cons, List.not_mem_nil, or_false] at hgroup
        rcases hgroup with rfl | rfl | rfl
        · exact least_of_mem_unusedVariables hc
        · obtain ⟨n, -, hc⟩ := List.mem_flatMap.1 hc
          exact Functions.least_of_mem_unknownIn hc
        · exact least_of_mem_deepNesting hc
      · simp [hsound] at hgroup
    · simp only [List.mem_cons, List.not_mem_nil, or_false] at hgroup
      rcases hgroup with rfl | rfl | rfl
      · obtain ⟨place, -, rfl⟩ := List.mem_map.1 hc
        rfl
      · exact least_of_mem_longLines hc
      · exact least_of_mem_controlConcern hc

/-- A check has the concerns of its groups, as far as they are raised. -/
theorem concerns_check (e : Engine) (strictness : Strictness) (text : String)
    (expected : List String) (limit : Option Int) :
    (e.check strictness text expected limit).concerns
      = (e.concernGroups text expected).flatMap fun group =>
          whenAtLeast strictness group.1 group.2 := by
  unfold check concernGroups
  by_cases hempty : text.isEmpty
  · simp [hempty]
  · have hlast : whenAtLeast strictness .permissive (controlConcern text.toList)
        = controlConcern text.toList := if_pos (Nat.zero_le _)
    by_cases hsound : (syntaxProblems text).isEmpty
    · simp [hempty, hsound, hlast]
    · simp [hempty, hsound, hlast]

/-- The concerns of a check are those of the strictest one that are raised. -/
theorem concerns_check_eq_filter (e : Engine) (strictness : Strictness) (text : String)
    (expected : List String) (limit : Option Int) :
    (e.check strictness text expected limit).concerns
      = (e.check .strict text expected limit).concerns.filter (Concern.isRaised strictness) := by
  rw [concerns_check, concerns_check, List.filter_flatMap]
  refine List.flatMap_congr fun group hgroup => ?_
  exact whenAtLeast_eq_filter (fun c hc => least_of_mem_concernGroups hgroup hc) strictness

/-- Each concern at a strictness is one at a higher strictness, in the same order. -/
theorem concerns_check_sublist (e : Engine) {s t : Strictness} (h : s.rank ≤ t.rank) (text : String)
    (expected : List String) (limit : Option Int) :
    (e.check s text expected limit).concerns.Sublist (e.check t text expected limit).concerns := by
  have hraised : (Concern.isRaised s) = fun c => Concern.isRaised s c && Concern.isRaised t c := by
    funext c
    cases hs : c.isRaised s with
    | false => rfl
    | true => rw [Concern.isRaised_of_rank_le h hs, Bool.and_self]
  rw [concerns_check_eq_filter e s, concerns_check_eq_filter e t, hraised, ← List.filter_filter]
  exact List.filter_sublist

/-- **A stricter check only adds concerns.** Whatever its strictness is, a check finds the same
    problems, variables and measures, so it accepts the same templates. Its concerns are those of the
    strictest check that are raised at its strictness, in the same order. -/
theorem check_strictness (e : Engine) (text : String) (expected : List String)
    (limit : Option Int) :
    let report (s : Strictness) := e.check s text expected limit
    (∀ s t, (report s).problems = (report t).problems ∧ (report s).isValid = (report t).isValid ∧
      (report s).dataNames = (report t).dataNames ∧ (report s).measures = (report t).measures) ∧
    (∀ s, (report s).concerns = (report .strict).concerns.filter (Concern.isRaised s)) ∧
    (report .permissive).concerns.Sublist (report .standard).concerns ∧
    (report .standard).concerns.Sublist (report .strict).concerns := by
  intro report
  refine ⟨fun s t => ?_, fun s => e.concerns_check_eq_filter s text expected limit,
    e.concerns_check_sublist (by decide) text expected limit,
    e.concerns_check_sublist (by decide) text expected limit⟩
  simp only [report, check, Report.isValid]
  split <;> exact ⟨rfl, rfl, rfl, rfl⟩

/-! ## Expected variables -/

/-- Variables that are looked up in ascending order are found as they are. -/
theorem extractVariables_eq {text : String} {names : List String}
    (h : (((Template.walk (Template.parse text)).flatMap Node.paths).map Path.root).filter
      Template.isDataName = names) (hsorted : names.Pairwise (· < ·)) :
    extractVariables text = names := by
  rw [extractVariables, Template.dataNames, h, sortedDistinct_eq_self hsorted]

/-- The variables of a template that are not among some names, in ascending order. -/
def missing (text : String) (expected : List String) : List String :=
  (extractVariables text).filter fun name => !expected.contains name

theorem mem_missing {text : String} {expected : List String} {name : String} :
    name ∈ missing text expected ↔ name ∈ extractVariables text ∧ name ∉ expected := by
  simp [missing]

theorem pairwise_missing (text : String) (expected : List String) :
    (missing text expected).Pairwise (· < ·) :=
  (pairwise_sortedDistinct _).filter _

theorem missing_eq_nil {text : String} {expected : List String} :
    missing text expected = [] ↔ ∀ name ∈ extractVariables text, name ∈ expected := by
  simp [missing]

/-- The problem of undefined variables is raised for the missing ones, unless no names are
    expected. -/
theorem undefinedVariables_eq (text : String) (expected : List String) :
    undefinedVariables (extractVariables text) expected
      = if expected = [] ∨ missing text expected = [] then []
        else [.undefinedVariables (missing text expected)] := by
  have hsorted := sortedDistinct_eq_self (pairwise_missing text expected)
  rw [missing] at hsorted
  rw [undefinedVariables, hsorted, ← missing]
  cases expected with
  | nil => simp
  | cons name names =>
      cases hmissing : missing text (name :: names) with
      | nil => simp
      | cons first rest => simp

/-- The problems of a template whose tags match. -/
theorem problems_check {text : String} (hsound : syntaxProblems text = []) (e : Engine)
    (strictness : Strictness) (expected : List String) (limit : Option Int) :
    (e.check strictness text expected limit).problems
      = (exceeds text.toList.length limit).toList.map (Problem.templateTooLong text.toList.length) ++
        undefinedVariables (extractVariables text) expected := by
  have hnonempty : ¬ text.isEmpty := by
    rw [String.isEmpty_iff]
    rintro rfl
    cases hsound
  rw [check, if_neg hnonempty]
  simp [hsound, extractVariables]

/-- A check compares the variables of a template with some names: if there are missing ones, it finds
    them and refuses the template, and if there are none and nothing else is wrong, it accepts it. -/
structure Compares (report : Report) (text : String) (expected : List String) : Prop where
  undefined (names : List String) : .undefinedVariables names ∈ report.problems ↔
    names = missing text expected ∧ names ≠ []
  valid : (∀ p ∈ report.problems, ∃ names, p = .undefinedVariables names) →
    (report.isValid = true ↔ ∀ name ∈ extractVariables text, name ∈ expected)

/-- If the missing variables are found, the template is accepted when there are none. -/
theorem compares_of_undefined {report : Report} {text : String} {expected : List String}
    (h : ∀ names, .undefinedVariables names ∈ report.problems ↔
      names = missing text expected ∧ names ≠ []) : Compares report text expected where
  undefined := h
  valid := by
    intro honly
    rw [Report.isValid, List.isEmpty_iff, ← missing_eq_nil]
    constructor
    · intro hnone
      by_contra hmissing
      have hfound := (h (missing text expected)).2 ⟨rfl, hmissing⟩
      rw [hnone] at hfound
      cases hfound
    · intro hmissing
      rw [List.eq_nil_iff_forall_not_mem]
      intro p hp
      obtain ⟨names, rfl⟩ := honly p hp
      obtain ⟨hnames, hne⟩ := (h names).1 hp
      exact hne (hnames.trans hmissing)

theorem mem_problems_check {text : String} (hsound : syntaxProblems text = []) (e : Engine)
    (strictness : Strictness) (expected : List String) (limit : Option Int) (names : List String) :
    .undefinedVariables names ∈ (e.check strictness text expected limit).problems ↔
      (names = missing text expected ∧ names ≠ []) ∧ expected ≠ [] := by
  have hlength : .undefinedVariables names ∉ (exceeds text.toList.length limit).toList.map
      (Problem.templateTooLong text.toList.length) := by
    simp
  rw [problems_check hsound, List.mem_append, or_iff_right hlength, undefinedVariables_eq]
  by_cases hexpected : expected = []
  · simp [hexpected]
  · by_cases hmissing : missing text expected = []
    · simp [hmissing]
    · have hnames : names = missing text expected → names ≠ [] := fun h => h ▸ hmissing
      simpa [hexpected, hmissing] using hnames

/-- **A check compares the variables of a template with the expected ones**, whatever its strictness
    is, but not if no names are expected: then a template with variables is accepted as well. What is
    missing are the variables that are not expected, each once and in ascending order. -/
theorem check_expected_iff (e : Engine) (strictness : Strictness) (text : String)
    (expected : List String) (limit : Option Int) (hsound : syntaxProblems text = []) :
    (missing text expected).Pairwise (· < ·) ∧
    (∀ name, name ∈ missing text expected ↔ name ∈ extractVariables text ∧ name ∉ expected) ∧
    (Compares (e.check strictness text expected limit) text expected ↔
      (expected = [] → extractVariables text = [])) := by
  have hproblems := mem_problems_check hsound e strictness expected limit
  refine ⟨pairwise_missing text expected, fun name => mem_missing, ?_⟩
  constructor
  · rintro h rfl
    by_contra hvariables
    have hmissing : missing text [] ≠ [] := by simpa [missing] using hvariables
    have hfound := (h.undefined (missing text [])).2 ⟨rfl, hmissing⟩
    exact ((hproblems _).1 hfound).2 rfl
  · intro h
    refine compares_of_undefined fun names => (hproblems names).trans (and_iff_left_of_imp ?_)
    rintro ⟨rfl, hmissing⟩ rfl
    exact hmissing (by simp [missing, h rfl])

/-- Of two variables one is expected. -/
theorem check_expected_iff_two :
    let text := String.ofList (Template.printed [.variable "upper a" 1, .variable "b" 1])
    let report := (standard 1 []).check .permissive text ["a"] none
    syntaxProblems text = [] ∧ (["a"] = [] → extractVariables text = []) ∧
    .undefinedVariables ["b"] ∈ report.problems := by
  intro text report
  have hsound : syntaxProblems text = [] := by decide +kernel
  have hvariables : extractVariables text = ["a", "b"] :=
    extractVariables_eq (by decide +kernel) (by decide)
  have hmissing : missing text ["a"] = ["b"] := by
    rw [missing, hvariables]
    rfl
  obtain ⟨-, -, hcompares⟩ := check_expected_iff (standard 1 []) .permissive text ["a"] none hsound
  have hfound := ((hcompares.2 nofun).undefined ["b"]).2 ⟨hmissing.symm, by simp⟩
  exact ⟨hsound, nofun, hfound⟩

/-- A template with a variable is accepted where no names are expected. -/
theorem check_nothing_expected :
    let text := String.ofList (Template.printed [.variable "name" 1])
    let report := (standard 1 []).check .standard text [] none
    syntaxProblems text = [] ∧ missing text [] = ["name"] ∧ report.problems = [] := by
  intro text report
  have hvariables : extractVariables text = ["name"] :=
    extractVariables_eq (by decide +kernel) (by decide)
  have hmissing : missing text [] = ["name"] := by
    rw [missing, hvariables]
    rfl
  exact ⟨by decide +kernel, hmissing, by decide +kernel⟩

end Engine

end Stencil
