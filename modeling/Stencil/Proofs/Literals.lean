import Stencil.Proofs.Equality
import Stencil.Proofs.Paths
import Stencil.Proofs.Quotation
import Stencil.Proofs.Rounding

set_option autoImplicit false

/-! # Integers in templates

An integer that is written in a template is read through a double: it stands for the integer that is
nearest to it among the doubles, or for an infinity, wherever it is written. So it stands for itself
exactly if it is a double, and a condition that compares it with an equal integer of the data holds
in that case only. -/

namespace Stencil

-- A power is the one of the numbers themselves, whatever other structure they are given.
attribute [local instance (2000)] instPowNat

/-! ## Written integers -/

/-- An integer as it is written: a sign, if there is one, and decimal digits. -/
structure WrittenInteger where
  sign : Option Char
  digits : List Char
  sign_cases : ∀ c ∈ sign, c = '+' ∨ c = '-'
  digits_ne_nil : digits ≠ []
  isDigit : ∀ c ∈ digits, c.isDigit = true

namespace WrittenInteger

open Text Expression

variable (t : WrittenInteger)

/-- The text of the integer. -/
def chars : List Char := t.sign.toList ++ t.digits

/-- Whether the integer is written with a minus. -/
def isNegative : Bool := t.sign = some '-'

/-- The natural number that the digits denote. -/
def size : Nat := Nat.ofDigitChars 10 t.digits 0

/-- The integer that is written. -/
def value : Int := if t.isNegative then -t.size else t.size

/-- No digit is a sign, a quote or a blank. -/
theorem isWord_of_isDigit {c : Char} (h : c.isDigit = true) : isWord c = true := by
  have hsmall : c.toNat < 128 := by
    have := (Char.isDigit_iff_toNat.1 h).2
    have hnine : '9'.toNat = 57 := rfl
    omega
  simp [isWord, hsmall, Char.isAlphanum, h]

theorem exists_chars_eq_cons : ∃ c cs, t.chars = c :: cs ∧ isQuote c = false := by
  obtain ⟨d, ds, hdigits⟩ := List.exists_cons_of_ne_nil t.digits_ne_nil
  unfold chars
  cases hsign : t.sign with
  | none =>
      refine ⟨d, ds, hdigits, isQuote_of_isWord (isWord_of_isDigit (t.isDigit d ?_))⟩
      rw [hdigits]
      exact List.mem_cons_self
  | some c =>
      refine ⟨c, t.digits, rfl, ?_⟩
      rcases t.sign_cases c hsign with rfl | rfl <;> rfl

theorem isBlank_of_mem_chars {c : Char} (h : c ∈ t.chars) : isBlank c = false := by
  rcases List.mem_append.1 h with hsign | hdigit
  · rcases t.sign_cases c (by simpa using hsign) with rfl | rfl <;> decide
  · by_contra hblank
    have hword := isWord_of_isDigit (t.isDigit c hdigit)
    rw [isWord_of_isBlank (eq_true_of_ne_false hblank)] at hword
    cases hword

theorem getLast?_chars : ∃ d, t.chars.getLast? = some d ∧ d.isDigit = true := by
  obtain ⟨ds, d, hdigits⟩ := List.eq_nil_or_concat t.digits |>.resolve_left t.digits_ne_nil
  refine ⟨d, ?_, t.isDigit d (by simp [hdigits])⟩
  rw [chars, hdigits]
  simp

/-! ## Reading -/

theorem sign_chars : Numeral.sign t.chars = (t.isNegative, t.digits) := by
  obtain ⟨d, ds, hdigits⟩ := List.exists_cons_of_ne_nil t.digits_ne_nil
  have hd : d.isDigit = true := t.isDigit d (by simp [hdigits])
  unfold chars isNegative
  cases hsign : t.sign with
  | none =>
      have hplus : d ≠ '+' := by
        rintro rfl
        revert hd
        decide
      have hminus : d ≠ '-' := by
        rintro rfl
        revert hd
        decide
      simp [hdigits, Numeral.sign, hplus, hminus]
  | some c =>
      rcases t.sign_cases c hsign with rfl | rfl <;> simp [Numeral.sign]

/-- The digits of a written integer are taken apart from its sign and nothing else. -/
theorem read?_chars : Numeral.read? t.chars = some ⟨t.isNegative, t.size, 0, false⟩ := by
  have hdigits : ∀ c ∈ t.digits, Text.isDigit c = true :=
    fun c hc => isDigit_of_isDigit (t.isDigit c hc)
  have hwhole : t.digits.takeWhile Text.isDigit = t.digits := List.takeWhile_eq_self_iff.2 hdigits
  have hrest : t.digits.dropWhile Text.isDigit = [] := List.dropWhile_eq_nil_iff.2 hdigits
  simp [Numeral.read?, t.sign_chars, hwhole, hrest, t.digits_ne_nil, digitsValue, size,
    digitsValue_eq_ofDigitChars t.isDigit]

/-- The number that a written integer is read as. -/
def numeral : Numeral := ⟨t.isNegative, t.size, 0, false⟩

theorem read_chars : Argument.read t.chars = .number t.numeral := by
  obtain ⟨d, hlast, hd⟩ := t.getLast?_chars
  obtain ⟨c, cs, hchars, hquote⟩ := t.exists_chars_eq_cons
  have hunquoted : Argument.unquoted? t.chars = none := by
    rw [hchars, Argument.unquoted?, hquote]
    rfl
  have hbreak : t.chars.getLast? ≠ some '\n' := by
    rw [hlast]
    rintro ⟨⟩
    revert hd
    decide
  rw [Argument.read, hunquoted, Numeral.readToken?, if_neg hbreak, t.read?_chars]
  rfl

theorem evaluate_chars [Attributes] (scope : Value) :
    Argument.evaluate scope t.chars = t.numeral.value := by
  rw [Argument.evaluate, t.read_chars]
  rfl

/-- A written integer stands for the nearest one among the doubles, or for an infinity. -/
theorem value_numeral_cases :
    t.numeral.value = .int (Double.signed t.isNegative (Double.nearestNat t.size)) ∧
        Double.nearestNat t.size < 2 ^ (1024 : Nat) ∨
      t.numeral.value = .float (.infinite t.isNegative) ∧
        2 ^ (1024 : Nat) ≤ Double.nearestNat t.size := by
  have hnearest : Double.IsNearest t.numeral.toDouble t.isNegative t.size :=
    Double.isNearest_ofDecimal t.isNegative t.size
  rcases hnearest with ⟨hint, hsmall⟩ | ⟨hinfinite, hlarge⟩
  · left
    refine ⟨?_, hsmall⟩
    rw [Numeral.value, hint]
    rfl
  · right
    refine ⟨?_, hlarge⟩
    rw [Numeral.value, hinfinite]
    rfl

/-- A written integer stands for itself exactly if it is a double. -/
theorem value_numeral_eq_iff : t.numeral.value = .int t.value ↔ Double.IsExact t.size := by
  rw [Double.isExact_iff]
  rcases t.value_numeral_cases with ⟨h, hsmall⟩ | ⟨h, hlarge⟩
  · rw [h, Value.int.injEq]
    unfold Double.signed value
    constructor
    · intro heq
      have hself : Double.nearestNat t.size = t.size := by split at heq <;> omega
      exact ⟨hself, hself ▸ hsmall⟩
    · rintro ⟨hself, -⟩
      rw [hself]
  · rw [h]
    constructor
    · rintro ⟨⟩
    · rintro ⟨hself, hlt⟩
      omega

/-! ## Comparing -/

/-- The condition that a name stands for the integer that is written. -/
def condition (x : Word) : List Char :=
  "eq".toList ++ ' ' :: (x.chars ++ ' ' :: t.chars)

theorem read_condition (x : Word) :
    Expression.read (t.condition x) = .call "eq".toList [x.chars, t.chars] := by
  obtain ⟨c, cs, hchars, hquote⟩ := t.exists_chars_eq_cons
  have hblank : isBlank ' ' = true := by decide
  have hhead : ∀ rest : List Char, ∀ d ∈ (' ' :: rest).head?, isBlank d = true := by
    rintro rest d ⟨⟩
    exact hblank
  have hlast : tokens t.chars = [t.chars] := by
    have hinside : ∀ d ∈ c :: cs, isBlank d = false := fun d hd =>
      t.isBlank_of_mem_chars (hchars ▸ hd)
    have htokens : tokens (c :: cs ++ []) = (c :: cs) :: tokens [] :=
      tokens_append_of_not_quoted hinside hquote (by simp)
    rwa [List.append_nil, ← hchars, tokens] at htokens
  have hspace : ∀ rest, tokens (' ' :: rest) = tokens rest := fun rest =>
    tokens_blank_append Tag.blank_space rest
  have heq := tokens_word_append ⟨"eq".toList, by decide, List.all_eq_true.1 (by decide)⟩
    (hhead (x.chars ++ ' ' :: t.chars))
  rw [hspace, tokens_word_append x (hhead t.chars), hspace, hlast] at heq
  rw [Expression.read, if_pos (by simp [condition, hblank])]
  rw [condition, heq]

end WrittenInteger

namespace Value

theorem equal_int (a b : Int) : (Value.int a).equal (.int b) = decide (a = b) := by
  rw [equal_of_content? rfl (.int b)]
  simp [content?]

/-- No integer is equal to an infinity. -/
theorem equal_int_infinite (a : Int) (negative : Bool) :
    (Value.int a).equal (.float (.infinite negative)) = false := by
  cases negative <;>
    simp [equal, scalarEqual, number?, Number.same, Number.compare?, Number.place, Double.place,
      Double.Place.compare?]

end Value

namespace WrittenInteger

open Text

variable (t : WrittenInteger)

/-- An integer is equal to what it stands for where it is written exactly if it is a double. -/
theorem strictlyEqual_numeral :
    Helper.strictlyEqual (.int t.value) t.numeral.value = decide (Double.IsExact t.size) := by
  rw [Bool.eq_iff_iff, decide_eq_true_iff, ← t.value_numeral_eq_iff]
  rcases t.value_numeral_cases with ⟨h, -⟩ | ⟨h, -⟩
  · rw [h]
    simp [Helper.strictlyEqual, Helper.isTruthValue, Value.equal_int, eq_comm]
  · rw [h]
    simp [Helper.strictlyEqual, Helper.isTruthValue, Value.equal_int_infinite]

theorem decides_condition [Attributes] {f : Functions} {scope : Scope} {x : Word}
    (heq : f.helpers.get? "eq" = Builtin.registry.get? "eq")
    (hx : Argument.evaluate scope.value x.chars = .int t.value) :
    f.decides scope (t.condition x) = pure (decide (Double.IsExact t.size)) := by
  have hhelper : f.helpers.get? "eq" = some (Builtin.ofTest "eq" Helper.strictlyEqual).helper := heq
  have hcall : (Builtin.ofTest "eq" Helper.strictlyEqual).helper
      [.int t.value, t.numeral.value] scope = .ok (.bool (decide (Double.IsExact t.size))) := by
    rw [← t.strictlyEqual_numeral]
    rfl
  simp only [Functions.decides, Functions.evaluate, t.read_condition, String.ofList_toList, hhelper,
    List.map_cons, List.map_nil, hx, t.evaluate_chars, hcall]
  rfl

/-- No integer among the doubles is nearer to a written integer than what it stands for. -/
theorem natAbs_sub_le {k : Int} (hk : Double.IsExact k.natAbs) :
    (Double.signed t.isNegative (Double.nearestNat t.size) - t.value).natAbs
      ≤ (k - t.value).natAbs := by
  have hdistance := Double.distance_nearestNat_le hk t.size
  unfold Double.distance at hdistance
  unfold Double.signed value
  split <;> omega

/-- **A written integer is read through a double.** It stands for the same value wherever it is
    written: for itself exactly if it is a double, as all integers up to `2 ^ 53` are, else for an
    integer that is nearest to it among the doubles, and beyond these for an infinity. So the
    condition that a name stands for the integer that is written holds of that integer exactly if it
    is a double. -/
theorem evaluate_written [Attributes] :
    ∃ v : Value, (∀ scope, Argument.evaluate scope t.chars = v) ∧
      (v = .int t.value ↔ Double.IsExact t.size) ∧
      (t.size ≤ 2 ^ (53 : Nat) → v = .int t.value) ∧
      (t.size < 2 ^ (1024 : Nat) - 2 ^ (970 : Nat) →
        ∃ n : Int, v = .int n ∧ Double.IsExact n.natAbs ∧
          ∀ k : Int, Double.IsExact k.natAbs → (n - t.value).natAbs ≤ (k - t.value).natAbs) ∧
      (2 ^ (1024 : Nat) - 2 ^ (970 : Nat) ≤ t.size → v = .float (.infinite t.isNegative)) ∧
      ∀ (f : Functions) (scope : Scope) (x : Word),
        f.helpers.get? "eq" = Builtin.registry.get? "eq" →
        Argument.evaluate scope.value x.chars = .int t.value →
        f.decides scope (t.condition x) = pure (decide (Double.IsExact t.size)) := by
  have hlarge := Double.le_nearestNat_iff t.size (show 970 + 54 = 1024 from rfl)
  refine ⟨t.numeral.value, t.evaluate_chars, t.value_numeral_eq_iff, ?small, ?nearest, ?infinite,
    fun f scope x => t.decides_condition⟩
  case small =>
    intro h
    exact t.value_numeral_eq_iff.2 (Double.isExact_of_le h)
  case nearest =>
    intro h
    rcases t.value_numeral_cases with ⟨hvalue, hsmall⟩ | ⟨-, hbeyond⟩
    · refine ⟨_, hvalue, ?_, fun k => t.natAbs_sub_le⟩
      have hsize : (Double.signed t.isNegative (Double.nearestNat t.size)).natAbs
          = Double.nearestNat t.size := by
        unfold Double.signed
        split <;> omega
      rw [hsize]
      exact Double.isExact_nearestNat hsmall
    · exact absurd (hlarge.1 hbeyond) (Nat.not_le_of_lt h)
  case infinite =>
    intro h
    rcases t.value_numeral_cases with ⟨-, hsmall⟩ | ⟨hvalue, -⟩
    · exact absurd (hlarge.2 h) (Nat.not_le_of_lt hsmall)
    · exact hvalue

/-- The greatest of the integers that are all doubles, written. -/
def lastExact : WrittenInteger :=
  ⟨none, "9007199254740992".toList, by simp, by decide, List.all_eq_true.1 (by decide)⟩

/-- The integer after it, written. -/
def firstInexact : WrittenInteger :=
  ⟨none, "9007199254740993".toList, by simp, by decide, List.all_eq_true.1 (by decide)⟩

/-- The name `x`. -/
def nameX : Word := ⟨['x'], by decide, List.all_eq_true.1 (by decide)⟩

/-- The scope of a page with an integer under the name `x`. -/
def scopeWith (n : Int) : Scope := (Engine.standard 1 []).pageScope [(.str "x", .int n)] []

theorem evaluate_nameX [Attributes] (n : Int) :
    Argument.evaluate (scopeWith n).value nameX.chars = .int n := by
  have hread : Argument.read ['x'] = .path ['x'] := by rfl
  have hname : ∀ name ∈ Scope.reservedNames ++ Scope.loopNames, Value.str "x" ≠ .str name := by
    have hne : ∀ name ∈ Scope.reservedNames ++ Scope.loopNames, "x" ≠ name := by decide
    exact fun name hmem heq => hne name hmem (Value.str.inj heq)
  have hbound := Scope.bound_pageScope (Engine.standard 1 []) [(.str "x", .int n)] []
  have hfound : (scopeWith n).get? (.str "x") = some (.int n) :=
    (hbound.other _ hname).trans (Entries.field?_cons_self "x" (.int n) [])
  rw [Argument.evaluate, nameX, hread]
  show ((scopeWith n).get? (.str "x")).getD .null = .int n
  rw [hfound]
  rfl

/-- A condition that compares the last of the integers that are all doubles with itself holds. -/
theorem evaluate_lastExact :
    Argument.evaluate .null "9007199254740992".toList = .int 9007199254740992 ∧
    (Engine.standard 1 []).functions.decides (scopeWith 9007199254740992)
      "eq x 9007199254740992".toList = pure true := by
  have hdouble : Double.IsExact lastExact.size := by decide +kernel
  obtain ⟨v, hvalue, hexact, -, -, -, hcondition⟩ := evaluate_written lastExact
  have hholds := hcondition (Engine.standard 1 []).functions _ nameX rfl (evaluate_nameX _)
  rw [decide_eq_true hdouble] at hholds
  exact ⟨(hvalue .null).trans (hexact.2 hdouble), hholds⟩

/-- The first integer that is no double does not stand for itself, and a condition that compares it
    with itself does not hold. -/
theorem evaluate_firstInexact :
    Argument.evaluate .null "9007199254740993".toList ≠ .int 9007199254740993 ∧
    (Engine.standard 1 []).functions.decides (scopeWith 9007199254740993)
      "eq x 9007199254740993".toList = pure false := by
  have hinexact : ¬ Double.IsExact firstInexact.size := by decide +kernel
  have hfails := decides_condition firstInexact (f := (Engine.standard 1 []).functions) rfl
    (evaluate_nameX _)
  rw [decide_eq_false hinexact] at hfails
  refine ⟨fun h => hinexact ?_, hfails⟩
  rw [← value_numeral_eq_iff, ← firstInexact.evaluate_chars .null]
  exact h

end WrittenInteger

end Stencil
