import Stencil.Fault

set_option autoImplicit false

/-! # Notices

What is worth telling whoever runs a site: gaps in pages, and what was loaded. A notice is kept as
its cause, its level and its wording follow from it. -/

namespace Stencil

/-- How serious a notice is. -/
inductive Level where
  | debug
  | info
  | warning
  | error
  | critical
  deriving DecidableEq, Repr, Inhabited

namespace Level

/-- The levels, from the least serious on. -/
def all : List Level := [.debug, .info, .warning, .error, .critical]

/-- The name of a level. -/
def name : Level → String
  | .debug => "DEBUG"
  | .info => "INFO"
  | .warning => "WARNING"
  | .error => "ERROR"
  | .critical => "CRITICAL"

/-- The number of a level; more serious levels have greater numbers. -/
def number : Level → Nat
  | .debug => 10
  | .info => 20
  | .warning => 30
  | .error => 40
  | .critical => 50

/-- The level with a name. -/
def ofName? (name : String) : Option Level :=
  all.find? (·.name = name)

end Level

/-- Something to tell. -/
inductive Notice where
  | unknownHelper (name : String)
  | unknownComponent (name : String)
  | helperFailed (name : String) (fault : Fault)
  | componentFailed (name : String) (fault : Fault)
  /-- A value of this type was given as the data of a page. -/
  | dataIgnored (typeName : String)
  | configurationLoaded (path : String)
  | templatesRegistered (count : Nat) (directory : String)
  deriving DecidableEq, Repr

namespace Notice

/-- How serious a notice is: unknown names and ignored data are warnings, failures are errors. -/
def level : Notice → Level
  | .unknownHelper _ => .warning
  | .unknownComponent _ => .warning
  | .helperFailed _ _ => .error
  | .componentFailed _ _ => .error
  | .dataIgnored _ => .warning
  | .configurationLoaded _ => .info
  | .templatesRegistered _ _ => .info

/-- The words of a notice. -/
def message : Notice → String
  | .unknownHelper n => "Helper not found: " ++ n
  | .unknownComponent n => "Component not found: " ++ n
  | .helperFailed n f => "Error executing helper " ++ n ++ ": " ++ f.message
  | .componentFailed n f => "Error rendering component " ++ n ++ ": " ++ f.message
  | .dataIgnored t => "Ignoring render data of type " ++ t ++ "; expected a mapping"
  | .configurationLoaded p => "Loaded configuration " ++ p
  | .templatesRegistered c d => "Registered " ++ toString c ++ " template(s) from " ++ d

/-- Whether a notice is told where `threshold` is the least level that is. -/
def reaches (threshold : Level) (n : Notice) : Bool :=
  threshold.number ≤ n.level.number

end Notice

/-! ## Computations that tell -/

/-- What a computation gave and what it told on the way, where `ε` says how it can fail. A failure
    ends it, but what it told up to then stands. -/
structure Telling (ε α : Type) where
  log : List Notice
  outcome : Except ε α

namespace Telling

variable {ε α β : Type}

/-- Tells one thing. -/
def tell (n : Notice) : Telling ε Unit := ⟨[n], .ok ()⟩

/-- Fails. -/
def fail (f : ε) : Telling ε α := ⟨[], .error f⟩

/-- Gives an outcome and tells nothing. -/
def ofOutcome (o : Except ε α) : Telling ε α := ⟨[], o⟩

/-- Does one thing, and then, unless it failed, another one with what the first gave. -/
def andThen (t : Telling ε α) (next : α → Telling ε β) : Telling ε β :=
  match t.outcome with
  | .ok a => ⟨t.log ++ (next a).log, (next a).outcome⟩
  | .error f => ⟨t.log, .error f⟩

instance : Monad (Telling ε) where
  pure a := ⟨[], .ok a⟩
  bind := andThen

@[simp] theorem pure_def (a : α) : (pure a : Telling ε α) = ⟨[], .ok a⟩ := rfl

@[simp] theorem ok_bind (log : List Notice) (a : α) (next : α → Telling ε β) :
    (⟨log, .ok a⟩ : Telling ε α) >>= next = ⟨log ++ (next a).log, (next a).outcome⟩ := rfl

@[simp] theorem error_bind (log : List Notice) (f : ε) (next : α → Telling ε β) :
    (⟨log, .error f⟩ : Telling ε α) >>= next = ⟨log, .error f⟩ := rfl

/-- What is told has no part in what comes out. -/
theorem outcome_bind (t : Telling ε α) (next : α → Telling ε β) :
    (t >>= next).outcome = t.outcome >>= fun a => (next a).outcome := by
  rcases t with ⟨log, fault | a⟩ <;> rfl

/-- Doing nothing first or last changes nothing, and grouping does not matter. -/
instance : LawfulMonad (Telling ε) :=
  LawfulMonad.mk' (Telling ε)
    (by
      rintro α ⟨log, _ | a⟩
      · rfl
      · simp [Functor.map, andThen])
    (by intros; simp)
    (by
      rintro α β γ ⟨log, _ | a⟩ f g
      · rfl
      · simp only [ok_bind]
        rcases f a with ⟨log', _ | b⟩
        · rfl
        · simp [List.append_assoc])

end Telling

/-- A computation of an engine. -/
abbrev Traced := Telling Fault

end Stencil
