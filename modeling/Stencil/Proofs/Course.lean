import Stencil.Proofs.Stages
import Stencil.Proofs.Trim
import Stencil.Proofs.Walk
import Stencil.Render.Course

set_option autoImplicit false

/-! # What a page is made of

A page has the texts of the visits of its course, one after the other, and what is told is what the
visits tell (`renderInOrder_eq_course`). This holds for templates whose expressions can be read, and
every text is such a template (`readable_parse`): a tag is trimmed before it is read, so that no
expression is blank. -/

namespace Stencil

open Telling

/-! ## Doing the same with many things -/

namespace Telling

variable {ε α β : Type} {t : α → Telling ε β} {xs : List α}

/-- What gives something for each thing gives something for all. -/
theorem mapM_ok (h : ∀ x ∈ xs, ∃ y, (t x).outcome = .ok y) :
    ∃ ys, (xs.mapM t).outcome = .ok ys := by
  induction xs with
  | nil => exact ⟨[], rfl⟩
  | cons x xs ih =>
      obtain ⟨⟨y, hy⟩, hxs⟩ := List.forall_mem_cons.1 h
      obtain ⟨ys, hys⟩ := ih hxs
      refine ⟨y :: ys, ?_⟩
      rw [List.mapM_cons]
      exact bind_outcome_ok.2 ⟨y, hy, bind_outcome_ok.2 ⟨ys, hys, rfl⟩⟩

/-- If there is something for all, then for each, and each tells its part. -/
theorem of_mapM_ok : ∀ {ys : List β}, (xs.mapM t).outcome = .ok ys →
    List.Forall₂ (fun x y => (t x).outcome = .ok y) xs ys ∧
      (xs.mapM t).log = xs.flatMap fun x => (t x).log := by
  induction xs with
  | nil =>
      intro ys h
      cases h
      exact ⟨.nil, rfl⟩
  | cons x xs ih =>
      intro ys h
      rw [List.mapM_cons] at h ⊢
      obtain ⟨y, hy, h⟩ := bind_outcome_ok.1 h
      obtain ⟨ys, hys, h⟩ := bind_outcome_ok.1 h
      cases h
      obtain ⟨hall, hlog⟩ := ih hys
      refine ⟨.cons hy hall, ?_⟩
      rw [bind_log_of_ok hy, bind_log_of_ok hys, hlog, List.flatMap_cons]
      simp

/-- A step that tells nothing adds nothing to what was told. -/
theorem bind_log_of_quiet {t : Telling ε α} {next : α → Telling ε β}
    (h : ∀ x, (next x).log = []) : (t >>= next).log = t.log := by
  rcases t with ⟨log, e | x⟩
  · rfl
  · rw [ok_bind, h, List.append_nil]

end Telling

/-! ## Expressions that can be read -/

/-- The expression of a tag, if it has one. -/
def Node.expression? : Node → Option (List Char)
  | .variable e _ => some e.toList
  | .block .conditional subject _ _ => some subject.toList
  | _ => none

/-- The expression of a tag in a text, if it has one. -/
def Piece.expression? : Piece → Option (List Char)
  | .tag (.variable e) _ => some e
  | .tag (.opening .conditional subject) _ => some subject
  | _ => none

/-- The expression of the node, if it has one, is not blank. -/
def Node.Readable (n : Node) : Prop :=
  ∀ e ∈ n.expression?, Expression.read e ≠ .blank

namespace Expression

theorem isBlank_of_tokens_eq_nil {cs : List Char} (h : tokens cs = []) :
    ∀ c ∈ cs, Text.isBlank c = true := by
  fun_induction tokens cs with
  | case1 => exact fun c hc => nomatch hc
  | case2 c cs hc ih => exact List.forall_mem_cons.2 ⟨hc, ih h⟩
  | case3 => cases h
  | case4 => cases h

/-- A trimmed expression has something in it or no blanks. -/
theorem read_trim_ne_blank (cs : List Char) : read (Text.trim cs) ≠ .blank := by
  intro h
  unfold read at h
  split at h
  · rename_i hany
    split at h
    · rename_i htokens
      have hne : Text.trim cs ≠ [] := by
        rintro hnil
        rw [hnil] at hany
        cases hany
      obtain ⟨c, hc, hblank⟩ := Text.exists_not_isBlank hne
      rw [isBlank_of_tokens_eq_nil htokens c hc] at hblank
      cases hblank
    · cases h
  · cases h

end Expression

theorem Tag.trim_of_subject? {kind : BlockKind} {body subject : List Char}
    (h : subject? kind body = some subject) : ∃ cs, subject = Text.trim cs := by
  unfold subject? at h
  split at h
  · split at h
    · cases h
      exact ⟨_, rfl⟩
    · cases h
  · cases h

/-- The expression of a tag is trimmed. -/
theorem Piece.trim_of_expression? {body e : List Char} {line : Nat}
    (h : e ∈ (tag (Tag.read body) line).expression?) : ∃ cs, e = Text.trim cs := by
  unfold Tag.read Tag.ofTrimmed at h
  split at h
  · rename_i subject hsubject
    cases h
    exact Tag.trim_of_subject? hsubject
  · cases h
  · split at h
    · cases h
    · split at h
      · cases h
      · split at h
        · cases h
        · cases h
          exact ⟨body, rfl⟩

theorem Piece.exists_of_mem_ofSegments {p : Piece} {ss : List Segment} : ∀ {line : Nat},
    p ∈ ofSegments line ss → (∃ cs, p = .text cs) ∨ ∃ body l, p = .tag (Tag.read body) l := by
  induction ss with
  | nil => exact fun h => nomatch h
  | cons s ss ih =>
      intro line h
      cases s with
      | text cs =>
          rcases List.mem_cons.1 h with rfl | h
          · exact Or.inl ⟨cs, rfl⟩
          · exact ih h
      | tag body =>
          rcases List.mem_cons.1 h with rfl | h
          · exact Or.inr ⟨body, line, rfl⟩
          · exact ih h

theorem Template.sees_expression? :
    Sees (fun n => n.expression?.toList) (fun p => p.expression?.toList) where
  ofJoined _ _ := rfl
  ofText _ := rfl
  ofVariable e line := by simp [Node.expression?, Piece.expression?]
  ofComponent _ _ _ := rfl
  ofBlock kind subject line body := by
    cases kind
    · simp [Node.expression?, Piece.expression?]
    · rfl
  ofClosing _ _ := rfl

/-- The expressions of a text that is read as a template are not blank. -/
theorem Template.readable_parse (s : String) : ∀ n ∈ walk (parse s), n.Readable := by
  intro n hn e he
  have hmem : e ∈ (walk (parse s)).flatMap fun n => n.expression?.toList :=
    List.mem_flatMap.2 ⟨n, hn, Option.mem_toList.2 he⟩
  rw [parse, walk_ofPieces sees_expression?] at hmem
  obtain ⟨p, hp, hep⟩ := List.mem_flatMap.1 hmem
  rcases Piece.exists_of_mem_ofSegments ((Piece.keepTags_sublist _ _ 0).subset hp)
    with ⟨cs, rfl⟩ | ⟨body, line, rfl⟩
  · cases hep
  · obtain ⟨cs, rfl⟩ := Piece.trim_of_expression? (Option.mem_toList.1 hep)
    exact Expression.read_trim_ne_blank cs

/-! ## One visit -/

variable [Attributes]

section

variable {f : Functions} {scope : Scope}

/-- An expression that is not blank has a value. -/
theorem Functions.evaluate_outcome {e : List Char} (h : Expression.read e ≠ .blank) :
    (f.evaluate scope e).outcome = .ok (f.valueOf scope e) := by
  rw [valueOf]
  unfold evaluate
  cases hread : Expression.read e with
  | path cs => rfl
  | blank => exact absurd hread h
  | call helper arguments =>
      dsimp only
      cases f.helpers.get? (String.ofList helper) with
      | none => rfl
      | some run =>
          dsimp only
          cases run (arguments.map (Argument.evaluate scope.value)) scope <;> rfl

/-- Whether a condition is met is known before it is evaluated. -/
theorem Functions.decides_bind {α : Type} {e : List Char} (h : Expression.read e ≠ .blank)
    (next : Bool → Traced α) :
    f.decides scope e >>= next
      = f.decides scope e >>= fun _ => next (f.valueOf scope e).isTruthy := by
  refine bind_congr_of_ok fun met hmet => ?_
  obtain ⟨v, hv, hmet⟩ := bind_outcome_ok.1 hmet
  rw [evaluate_outcome h] at hv
  cases hv
  cases hmet
  rfl

end

/-! ## The page -/

namespace Template

variable {f : Functions}

theorem join_mapM_cons (v : Visit) (vs : List Visit) :
    String.join <$> (v :: vs).mapM (Visit.render f) = do
      let s ← v.render f
      let rest ← String.join <$> vs.mapM (Visit.render f)
      return s ++ rest := by
  simp only [List.mapM_cons, map_eq_pure_bind, bind_assoc, pure_bind, String.join_cons]

theorem join_mapM_singleton (v : Visit) :
    String.join <$> [v].mapM (Visit.render f) = v.render f := by
  simp only [join_mapM_cons, List.mapM_nil, map_pure, pure_bind, String.join_nil,
    String.append_empty, bind_pure]

/-- The texts of the items of a loop are those of the visits for each of them. -/
theorem forItems_eq_course {text : Nat → Value → Traced String} {visits : Nat → Value → List Visit}
    (h : ∀ i item, text i item = String.join <$> (visits i item).mapM (Visit.render f))
    (items : List Value) : ∀ i, forItems text i items
      = String.join <$>
          ((items.zipIdx i).flatMap fun (item, i) => visits i item).mapM (Visit.render f) := by
  induction items with
  | nil => exact fun i => rfl
  | cons item items ih =>
      intro i
      rw [forItems, h, ih, List.zipIdx_cons, List.flatMap_cons, List.mapM_append]
      simp only [map_eq_pure_bind, bind_assoc, pure_bind, String.join_append]

mutual

theorem renderNodeInOrder_eq_course : ∀ (n : Node), (∀ m ∈ walkNode n, m.Readable) →
    ∀ scope, renderNodeInOrder f n scope
      = String.join <$> (courseOf f n scope).mapM (Visit.render f)
  | .text s, _, scope => by rw [renderNodeInOrder, courseOf, join_mapM_singleton, Visit.render]
  | .variable e line, _, scope => by
      rw [renderNodeInOrder_variable, courseOf, join_mapM_singleton, Visit.render]
  | .component name arguments line, _, scope => by
      rw [renderNodeInOrder_component, courseOf, join_mapM_singleton, Visit.render]
  | .block .conditional subject line body, h, scope => by
      have hsubject : Expression.read subject.toList ≠ .blank :=
        h _ (mem_walkNode_self _) _ rfl
      have hbody := renderInOrder_eq_course body (forall_mem_body h) scope
      rw [renderNodeInOrder_conditional, Functions.decides_bind hsubject, courseOf, join_mapM_cons,
        Visit.render, bind_assoc]
      refine bind_congr fun _ => ?_
      -- What is left to do is the same on both sides, the body or nothing.
      rw [pure_bind]
      cases (f.valueOf scope subject.toList).isTruthy with
      | false => rfl
      | true => simp only [if_true, hbody, String.empty_append, bind_pure]
  | .block .loop subject line body, h, scope => by
      have hbody (s : Scope) := renderInOrder_eq_course body (forall_mem_body h) s
      rw [renderNodeInOrder_loop, courseOf, join_mapM_cons, Visit.render, pure_bind]
      simp only [String.empty_append, bind_pure]
      exact forItems_eq_course (fun i item => hbody _) _ 0

/-- The text of a page has the texts of all visits, one after the other. -/
theorem renderInOrder_eq_course : ∀ (nodes : List Node), (∀ n ∈ walk nodes, n.Readable) →
    ∀ scope, renderInOrder f nodes scope
      = String.join <$> (course f nodes scope).mapM (Visit.render f)
  | [], _, scope => rfl
  | n :: ns, h, scope => by
      rw [walk, List.forall_mem_append] at h
      rw [renderInOrder, renderNodeInOrder_eq_course n h.1, renderInOrder_eq_course ns h.2, course,
        List.mapM_append]
      simp only [map_eq_pure_bind, bind_assoc, pure_bind, String.join_append]

end

theorem course_append (a b : Template) (scope : Scope) :
    course f (a ++ b) scope = course f a scope ++ course f b scope := by
  induction a with
  | nil => rfl
  | cons n a ih => rw [List.cons_append, course, ih, course, List.append_assoc]

mutual

theorem mem_walkNode_of_mem_courseOf : ∀ (n : Node) (scope : Scope),
    ∀ v ∈ courseOf f n scope, v.node ∈ walkNode n
  | .text s, scope => fun v hv => by
      obtain rfl := List.mem_singleton.1 hv
      exact mem_walkNode_self _
  | .variable e line, scope => fun v hv => by
      obtain rfl := List.mem_singleton.1 hv
      exact mem_walkNode_self _
  | .component name arguments line, scope => fun v hv => by
      obtain rfl := List.mem_singleton.1 hv
      exact mem_walkNode_self _
  | .block .conditional subject line body, scope => fun v hv => by
      rw [courseOf] at hv
      rw [walkNode]
      rcases List.mem_cons.1 hv with rfl | hv
      · exact List.mem_cons_self
      · split at hv
        · exact List.mem_cons_of_mem _ (mem_walk_of_mem_course body scope v hv)
        · cases hv
  | .block .loop subject line body, scope => fun v hv => by
      rw [courseOf] at hv
      rw [walkNode]
      rcases List.mem_cons.1 hv with rfl | hv
      · exact List.mem_cons_self
      · obtain ⟨⟨item, i⟩, -, hv⟩ := List.mem_flatMap.1 hv
        exact List.mem_cons_of_mem _ (mem_walk_of_mem_course body _ v hv)

/-- Only nodes of the template are visited. -/
theorem mem_walk_of_mem_course : ∀ (nodes : List Node) (scope : Scope),
    ∀ v ∈ course f nodes scope, v.node ∈ walk nodes
  | [], scope => fun v hv => nomatch hv
  | n :: ns, scope => fun v hv => by
      rw [course] at hv
      rw [walk]
      rcases List.mem_append.1 hv with hv | hv
      · exact List.mem_append_left _ (mem_walkNode_of_mem_courseOf n scope v hv)
      · exact List.mem_append_right _ (mem_walk_of_mem_course ns scope v hv)

end

end Template

/-! ## Texts and errors of one visit -/

namespace Functions

variable (f : Functions) (scope : Scope)

/-- Evaluating an expression tells an error just if it calls a helper that fails. -/
theorem filter_error_evaluate (e : List Char) :
    (f.evaluate scope e).log.filter (·.level = .error)
      = ((f.helperCall? scope e).bind Call.failure?).toList := by
  unfold evaluate helperCall?
  cases Expression.read e with
  | path cs => rfl
  | blank => rfl
  | call helper arguments =>
      dsimp only
      cases f.helpers.get? (String.ofList helper) with
      | none => rfl
      | some run =>
          simp only [Option.pure_def, Option.bind_eq_bind, Option.bind_some]
          cases run (arguments.map (Argument.evaluate scope.value)) scope <;> rfl

/-- A component tag tells an error just if it calls a component that fails. -/
theorem filter_error_expand (name : String) (arguments : List Char) :
    (f.expand scope name arguments).log.filter (·.level = .error)
      = ((f.componentCall? scope name arguments).bind Call.failure?).toList := by
  unfold expand componentCall?
  cases f.components.get? name with
  | none => rfl
  | some run =>
      simp only [Option.pure_def, Option.bind_eq_bind, Option.bind_some]
      cases run f.helpers (Argument.keywordValues scope.value arguments) scope <;> rfl

/-- The text of a component tag is that of the result, or empty. -/
theorem expand_outcome (name : String) (arguments : List Char) :
    (f.expand scope name arguments).outcome
      = match (f.componentCall? scope name arguments).bind (·.result.toOption) with
        | some v => v.display
        | none => .ok "" := by
  unfold expand componentCall?
  cases f.components.get? name with
  | none => rfl
  | some run =>
      simp only [Option.pure_def, Option.bind_eq_bind, Option.bind_some]
      cases run f.helpers (Argument.keywordValues scope.value arguments) scope <;> rfl

end Functions

namespace Visit

variable {f : Functions} {v : Visit}

/-- A visit gives a text unless the value that it shows is too long. -/
theorem render_ok (hread : v.node.Readable) (hshown : ∀ x ∈ v.shown? f, x.isTooLong = false) :
    ∃ s, (v.render f).outcome = .ok s := by
  obtain ⟨n, scope⟩ := v
  rcases n with s | ⟨e, line⟩ | ⟨name, arguments, line⟩ | ⟨_ | _, subject, line, body⟩
  · exact ⟨s, rfl⟩
  · have hvalue := @Functions.evaluate_outcome _ f scope _ (hread _ rfl)
    have hdisplay : (f.valueOf scope e.toList).display = .ok _ :=
      Value.display_eq_ok_iff.2 ⟨hshown _ rfl, rfl⟩
    exact ⟨_, bind_outcome_ok.2 ⟨_, hvalue, bind_outcome_ok.2 ⟨_, hdisplay, rfl⟩⟩⟩
  · rw [render, Functions.expand_outcome]
    split
    · rename_i x hx
      exact ⟨_, Value.display_eq_ok_iff.2 ⟨hshown x hx, rfl⟩⟩
    · exact ⟨"", rfl⟩
  · have hvalue := @Functions.evaluate_outcome _ f scope _ (hread _ rfl)
    exact ⟨"", bind_outcome_ok.2 ⟨_, bind_outcome_ok.2 ⟨_, hvalue, rfl⟩, rfl⟩⟩
  · exact ⟨"", rfl⟩

/-- The text of a visit is that of a text node, or that of the value which it shows, or empty. -/
theorem text_of_render_ok {s : String} (h : (v.render f).outcome = .ok s) :
    v.node = .text s ∨ s = "" ∨
      ∃ x ∈ v.shown? f, ∃ d, x.display = .ok d ∧ (s = d ∨ s = Html.escape d) := by
  obtain ⟨n, scope⟩ := v
  rcases n with t | ⟨e, line⟩ | ⟨name, arguments, line⟩ | ⟨_ | _, subject, line, body⟩
  · cases h
    exact Or.inl rfl
  · obtain ⟨x, hx, h⟩ := bind_outcome_ok.1 h
    obtain ⟨d, hd, h⟩ := bind_outcome_ok.1 h
    cases h
    have hvalue : f.valueOf scope e.toList = x := by rw [Functions.valueOf, hx]
    exact Or.inr (Or.inr ⟨_, rfl, d, by rwa [hvalue], Or.inr rfl⟩)
  · rw [render, Functions.expand_outcome] at h
    split at h
    · rename_i x hx
      exact Or.inr (Or.inr ⟨x, hx, s, h, Or.inl rfl⟩)
    · cases h
      exact Or.inr (Or.inl rfl)
  · obtain ⟨_, -, h⟩ := bind_outcome_ok.1 h
    cases h
    exact Or.inr (Or.inl rfl)
  · cases h
    exact Or.inr (Or.inl rfl)

/-- A visit tells what is told when its expression is evaluated or its component is called. -/
theorem log_render (f : Functions) (v : Visit) :
    (v.render f).log = match v.node with
      | .variable e _ => (f.evaluate v.scope e.toList).log
      | .component name arguments _ => (f.expand v.scope name arguments.toList).log
      | .block .conditional subject _ _ => (f.evaluate v.scope subject.toList).log
      | _ => [] := by
  obtain ⟨n, scope⟩ := v
  rcases n with t | ⟨e, line⟩ | ⟨name, arguments, line⟩ | ⟨_ | _, subject, line, body⟩
  · rfl
  · exact bind_log_of_quiet fun x => bind_log_of_quiet fun s => rfl
  · rfl
  · exact (bind_log_of_quiet fun _ => rfl).trans (bind_log_of_quiet fun x => rfl)
  · rfl

/-- The errors that a visit tells: that its call has failed, if it has. -/
theorem filter_error_log (f : Functions) (v : Visit) :
    (v.render f).log.filter (·.level = .error) = ((v.call? f).bind Call.failure?).toList := by
  rw [log_render]
  obtain ⟨n, scope⟩ := v
  rcases n with t | ⟨e, line⟩ | ⟨name, arguments, line⟩ | ⟨_ | _, subject, line, body⟩
  · rfl
  · exact f.filter_error_evaluate scope e.toList
  · exact f.filter_error_expand scope name arguments.toList
  · exact f.filter_error_evaluate scope subject.toList
  · rfl

end Visit

namespace Template

variable {f : Functions} {nodes : Template} {scope : Scope}

/-- There is a page unless a value that it shows is too long. -/
theorem render_ok (hread : ∀ n ∈ walk nodes, n.Readable)
    (hshown : ∀ x ∈ shownValues f nodes scope, x.isTooLong = false) :
    ∃ page, (render f nodes scope).outcome = .ok page := by
  have hvisits : ∀ v ∈ course f nodes scope, ∃ s, (v.render f).outcome = .ok s := by
    intro v hv
    refine Visit.render_ok (hread _ (mem_walk_of_mem_course nodes scope v hv)) fun x hx => ?_
    exact hshown x (List.mem_filterMap.2 ⟨v, hv, hx⟩)
  obtain ⟨texts, htexts⟩ := mapM_ok hvisits
  refine ⟨String.join texts, ((render_agrees_inOrder f nodes scope).gives _).2 ?_⟩
  rw [renderInOrder_eq_course nodes hread, map_eq_pure_bind]
  exact bind_outcome_ok.2 ⟨texts, htexts, rfl⟩

/-- A page has the texts of all visits, one after the other, and what is told is what they tell. -/
theorem of_render_ok (hread : ∀ n ∈ walk nodes, n.Readable) {page : String}
    (h : (render f nodes scope).outcome = .ok page) :
    (∃ texts, page = String.join texts ∧
      List.Forall₂ (fun v s => (v.render f).outcome = .ok s) (course f nodes scope) texts) ∧
    (render f nodes scope).log.Perm ((course f nodes scope).flatMap fun v => (v.render f).log) := by
  have hagrees := render_agrees_inOrder f nodes scope
  have hlog := hagrees.tells page h
  have hpage := (hagrees.gives page).1 h
  rw [renderInOrder_eq_course nodes hread, map_eq_pure_bind] at hlog hpage
  obtain ⟨texts, htexts, hpage⟩ := bind_outcome_ok.1 hpage
  obtain ⟨hall, hlogs⟩ := of_mapM_ok htexts
  cases hpage
  rw [bind_log_of_ok htexts, hlogs] at hlog
  exact ⟨⟨texts, rfl, hall⟩, by simpa using hlog⟩

/-- The errors that a page tells are one for each call that fails. -/
theorem failures_of_render_ok (hread : ∀ n ∈ walk nodes, n.Readable) {page : String}
    (h : (render f nodes scope).outcome = .ok page) :
    ((render f nodes scope).log.filter (·.level = .error)).Perm
      ((calls f nodes scope).filterMap Call.failure?) := by
  refine ((of_render_ok hread h).2.filter _).trans (.of_eq ?_)
  rw [List.filter_flatMap]
  simp only [Visit.filter_error_log]
  rw [calls, List.filterMap_filterMap, ← List.filterMap_eq_flatMap_toList]

end Template

end Stencil
