import Stencil.Helper.Texts
import Stencil.Proofs.DateReaders

set_option autoImplicit false

/-! # Dates shown again

A shown date is shown no differently the second time (`formatDate_formatDate`). The short form is
read back, as the start of its day, if the year has four digits (`read?_show_short`); the other
forms are no dates to be read, because a weekday stands in front or a time of day follows
(`read?_show_long`, `read?_show_time`). -/

namespace Stencil

open Text WrittenDate

/-! ## The texts -/

namespace Date

theorem monthName_mem {d : Date} (h : d.isValid = true) : d.monthName ∈ monthNames := by
  obtain ⟨-, ⟨hlow, hhigh⟩, -⟩ := isValid_iff.1 h
  have hlt : d.month - 1 < monthNames.length := by
    show d.month - 1 < 12
    omega
  rw [monthName, List.getD_eq_getElem?_getD, List.getElem?_eq_getElem hlt, Option.getD_some]
  exact List.getElem_mem hlt

theorem weekdayName_mem (d : Date) : d.weekdayName ∈ weekdayNames := by
  have hlt : d.weekday < weekdayNames.length := Nat.mod_lt _ (by decide)
  rw [weekdayName, List.getD_eq_getElem?_getD, List.getElem?_eq_getElem hlt, Option.getD_some]
  exact List.getElem_mem hlt

end Date

namespace Moment

theorem show_short (m : Moment) :
    m.show .short = String.ofList (m.date.monthName.toList.take 3 ++ dayAndYear m.date) := by
  rw [← String.toList_inj]
  simp [Moment.show, dayAndYear]

theorem show_long (m : Moment) :
    m.show .long = String.ofList (m.date.weekdayName.toList ++
      ',' :: ' ' :: (m.date.monthName.toList ++ dayAndYear m.date)) := by
  rw [← String.toList_inj]
  simp [Moment.show, dayAndYear]

theorem show_time (m : Moment) :
    ∃ rest, ',' ∈ rest ∧ rest.getLast? = some 'M' ∧
      m.show .time = String.ofList (Nat.toDigits 10 m.date.month ++ '/' :: rest) := by
  let hour := if m.hour % 12 = 0 then 12 else m.hour % 12
  let half := if m.hour < 12 then 'A' else 'P'
  refine ⟨Nat.toDigits 10 m.date.day ++ '/' :: (Nat.toDigits 10 m.date.year ++ ',' :: ' ' ::
    (Nat.toDigits 10 hour ++ ':' :: ((padded 2 m.minute).toList ++ [' ', half, 'M']))),
    by simp, by simp [List.getLast?_cons], ?_⟩
  have hhalf : (if m.hour < 12 then " AM" else " PM") = String.ofList [' ', half, 'M'] := by
    simp only [half]
    split <;> rfl
  rw [← String.toList_inj, Moment.show, hhalf]
  simp [hour]

end Moment

/-! ## Reading them -/

namespace Moment

/-- A text that is trimmed, not in universal time and not in ISO 8601 is read as a written date. -/
theorem read?_ofList {cs : List Char} (htrim : trim cs = cs) (hlast : cs.getLast? ≠ some 'Z')
    (hiso : Iso.moment? (String.ofList cs) = none) :
    read? (String.ofList cs) = (WrittenDate.read? cs).map midnight := by
  simp only [read?, String.toList_ofList, htrim, if_neg hlast, hiso, Option.none_or]

/-- A text that starts with a capital and ends with a digit is read as a written date. -/
theorem read?_of_isUpper {first last : Char} {cs : List Char} (hhead : cs.head? = some first)
    (hfirst : first.isUpper = true) (hend : cs.getLast? = some last)
    (hlast : last.isDigit = true) :
    read? (String.ofList cs) = (WrittenDate.read? cs).map midnight := by
  have hletter : 65 ≤ first.toNat ∧ first.toNat ≤ 90 := of_decide_eq_true hfirst
  have hfirstBlank : isBlank first = false := by
    simp [isBlank]
    omega
  have hfirstDigit : first.isDigit = false := by
    rw [← Bool.not_eq_true, Char.isDigit_iff_toNat]
    have hnine : '9'.toNat = 57 := rfl
    omega
  refine read?_ofList (trim_eq_self_iff.2 ⟨?_, ?_⟩) ?_ ?_
  · rw [hhead]
    rintro c ⟨⟩
    exact hfirstBlank
  · rw [hend]
    rintro c ⟨⟩
    exact isBlank_of_isDigit hlast
  · rw [hend]
    rintro ⟨⟩
    cases hlast
  · obtain ⟨cs, rfl⟩ := List.head?_eq_some_iff.1 hhead
    have hiso : Iso.moment? (String.ofList ([] ++ first :: cs)) = none :=
      Iso.moment?_eq_none (by decide) (List.forall_mem_nil _) (by omega) hfirstDigit
    exact hiso

end Moment

namespace WrittenDate

theorem getLast?_dayAndYear (cs : List Char) (d : Date) :
    ∃ last, (cs ++ dayAndYear d).getLast? = some last ∧ last.isDigit = true := by
  have hne := Nat.toDigits_ne_nil (n := d.year) (b := 10)
  refine ⟨(Nat.toDigits 10 d.year).getLast hne, ?_, ?_⟩
  · have hform : cs ++ dayAndYear d
        = (cs ++ ' ' :: (Nat.toDigits 10 d.day ++ [',', ' '])) ++ Nat.toDigits 10 d.year := by
      simp [dayAndYear]
    rw [hform, List.getLast?_append_of_ne_nil _ hne, List.getLast?_eq_some_getLast hne]
  · exact Nat.isDigit_of_mem_toDigits (by decide) (by decide) (List.getLast_mem hne)

/-- A name has three letters or more, no space, and a capital in front. -/
def isName (n : String) : Bool :=
  3 ≤ n.length && !(n.toList.map Char.toLower).contains ' ' &&
    n.toList.head?.any fun c => c.isUpper

theorem isName_of_mem : ∀ n ∈ monthNames ++ monthAbbreviations ++ weekdayNames, isName n = true :=
  List.all_eq_true.1 (by decide +kernel)

theorem isName_iff {n : String} : isName n = true ↔
    3 ≤ n.length ∧ ' ' ∉ n.toList.map Char.toLower ∧
      ∃ c, n.toList.head? = some c ∧ c.isUpper = true := by
  rw [isName, Bool.and_eq_true, Bool.and_eq_true, Option.any_eq_true, decide_eq_true_eq, and_assoc,
    Bool.not_eq_true', List.contains_eq_mem, decide_eq_false_iff_not]

/-- The first letters of a name are looked for as a name of their own. -/
theorem name_shortened {names : List String} (hnames : ∀ n ∈ names, isName n = true) (n : String)
    (rest : List Char) : name names (n.toList.take 3 ++ ' ' :: rest) =
      (names.findIdx? fun m =>
        (n.toList.take 3).map Char.toLower == m.toList.map Char.toLower).toList.map
          fun i => (i + 1, ' ' :: rest) := by
  refine name_before_space fun m hm => ?_
  obtain ⟨hlength, hspace, -⟩ := isName_iff.1 (hnames m hm)
  refine ⟨?_, hspace⟩
  rw [List.length_take]
  omega

variable {d : Date}

theorem month_mem_range (h : d.isValid = true) : d.month - 1 ∈ List.range 12 := by
  obtain ⟨-, ⟨hlow, hhigh⟩, -⟩ := Date.isValid_iff.1 h
  rw [List.mem_range]
  omega

/-- Which of the names the first three letters of the name of a month are, is known month by
    month. -/
theorem name_shortMonth {names : List String} (hnames : ∀ n ∈ names, isName n = true)
    (h : d.isValid = true) {found : Nat → Option Nat}
    (hfound : ∀ i ∈ List.range 12, (names.findIdx? fun n =>
      ((monthNames.getD i "").toList.take 3).map Char.toLower == n.toList.map Char.toLower)
        == found i) :
    name names (d.monthName.toList.take 3 ++ dayAndYear d)
      = (found (d.month - 1)).toList.map fun i => (i + 1, dayAndYear d) := by
  rw [dayAndYear, name_shortened hnames, Date.monthName, eq_of_beq (hfound _ (month_mem_range h))]

/-- The first three letters of the name of a month are its abbreviation. -/
theorem name_monthAbbreviations (h : d.isValid = true) :
    name monthAbbreviations (d.monthName.toList.take 3 ++ dayAndYear d)
      = [(d.month, dayAndYear d)] := by
  have hfound : ∀ i ∈ List.range 12, (monthAbbreviations.findIdx? fun n =>
      ((monthNames.getD i "").toList.take 3).map Char.toLower == n.toList.map Char.toLower)
        == some i :=
    List.all_eq_true.1 (by decide +kernel)
  rw [name_shortMonth (fun n hn => isName_of_mem n (by simp [hn])) h hfound]
  show [(d.month - 1 + 1, _)] = _
  rw [Nat.sub_add_cancel (Date.isValid_iff.1 h).2.1.1]

/-- The first three letters of the name of a month are all of a name in May only. -/
theorem name_monthNames (h : d.isValid = true) :
    name monthNames (d.monthName.toList.take 3 ++ dayAndYear d) = [] ∨
      name monthNames (d.monthName.toList.take 3 ++ dayAndYear d) = [(d.month, dayAndYear d)] := by
  have hfound : ∀ i ∈ List.range 12, (monthNames.findIdx? fun n =>
      ((monthNames.getD i "").toList.take 3).map Char.toLower == n.toList.map Char.toLower)
        == if i = 4 then some 4 else none :=
    List.all_eq_true.1 (by decide +kernel)
  rw [name_shortMonth (fun n hn => isName_of_mem n (by simp [hn])) h hfound]
  split
  · -- May is its own abbreviation.
    rename_i hmay
    have hmonth : d.month = 5 := by omega
    rw [hmonth]
    exact .inr rfl
  · exact .inl rfl

theorem readWith?_named_of_nil {months : List String} {cs : List Char}
    (h : name months cs = []) : readWith? (named months) cs = none := by
  rw [readWith?, named, Reader.andThen, h]
  rfl

/-- A date before a year of four digits cannot be read back. -/
theorem readWith?_named_of_name {months : List String} {cs : List Char} (h : d.isValid = true)
    (hname : name months cs = [(d.month, dayAndYear d)]) :
    readWith? (named months) cs = if 1000 ≤ d.year then some d else none := by
  rw [readWith?, named_of_name h hname]
  by_cases hyear : 1000 ≤ d.year
  · rw [if_pos hyear, if_pos hyear]
    show (if d.isValid = true then some d else none) = some d
    rw [if_pos h]
  · rw [if_neg hyear, if_neg hyear]

theorem comma_mem_dayAndYear (d : Date) : ',' ∈ dayAndYear d := by
  simp [dayAndYear]

/-- The abbreviated name of a month, the day and the year are read back. -/
theorem read?_abbreviated (h : d.isValid = true) :
    read? (d.monthName.toList.take 3 ++ dayAndYear d) = if 1000 ≤ d.year then some d else none := by
  have hcomma := List.mem_append_right (d.monthName.toList.take 3) (comma_mem_dayAndYear d)
  rw [read?_of_comma hcomma, readWith?_named_of_name h (name_monthAbbreviations h)]
  rcases name_monthNames h with hname | hname
  · rw [readWith?_named_of_nil hname, Option.none_or]
  · rw [readWith?_named_of_name h hname, Option.or_self]

/-- A text with a comma that starts as no name of a month does is no written date. -/
theorem read?_eq_none (size : Nat) {cs : List Char} (hcomma : ',' ∈ cs)
    (h : ∀ n ∈ monthNames ++ monthAbbreviations, size ≤ n.length ∧
      (n.toList.take size).map Char.toLower ≠ (cs.take size).map Char.toLower) :
    read? cs = none := by
  have hnames := List.forall_mem_append.1 h
  rw [read?_of_comma hcomma, readWith?_named_of_nil (name_eq_nil size hnames.1),
    readWith?_named_of_nil (name_eq_nil size hnames.2), Option.none_or]

theorem read?_weekdayName (d : Date) {rest : List Char} (hcomma : ',' ∈ rest) :
    read? (d.weekdayName.toList ++ rest) = none := by
  have hdiffer : ∀ w ∈ weekdayNames, (monthNames ++ monthAbbreviations).all fun n =>
      (n.toList.take 3).map Char.toLower != (w.toList.take 3).map Char.toLower :=
    List.all_eq_true.1 (by decide +kernel)
  have hweekday := d.weekdayName_mem
  refine read?_eq_none 3 (List.mem_append_right _ hcomma) fun n hn => ⟨?_, ?_⟩
  · exact (isName_iff.1 (isName_of_mem n (List.mem_append_left _ hn))).1
  · have hlength := (isName_iff.1 (isName_of_mem _ (List.mem_append_right _ hweekday))).1
    rw [List.take_append_of_le_length (by rwa [String.length_toList])]
    exact bne_iff_ne.1 (List.all_eq_true.1 (hdiffer _ hweekday) n hn)

theorem read?_of_isDigit {c : Char} {cs : List Char} (hc : c.isDigit = true) (hcomma : ',' ∈ cs) :
    read? (c :: cs) = none := by
  have hletters : ∀ n ∈ monthNames ++ monthAbbreviations,
      ((n.toList.take 1).map Char.toLower).all fun c => !c.isDigit :=
    List.all_eq_true.1 (by decide +kernel)
  have hlower : c.toLower = c := by
    obtain ⟨-, hhigh⟩ := Char.isDigit_iff_toNat.1 hc
    have hnine : '9'.toNat = 57 := rfl
    refine dif_neg ?_
    rintro ⟨hlow, -⟩
    have hlow : 65 ≤ c.toNat := hlow
    omega
  refine read?_eq_none 1 (List.mem_cons_of_mem _ hcomma) fun n hn => ⟨?_, fun heq => ?_⟩
  · have := (isName_iff.1 (isName_of_mem n (List.mem_append_left _ hn))).1
    omega
  · have hnone := List.all_eq_true.1 (hletters n hn) c (by rw [heq]; simp [hlower])
    simp [hc] at hnone

end WrittenDate

namespace Moment

variable {m : Moment}

/-- The short form is read back as the start of its day if the year has four digits. -/
theorem read?_show_short (h : m.date.isValid = true) :
    read? (m.show .short) = if 1000 ≤ m.date.year then some (midnight m.date) else none := by
  obtain ⟨last, hend, hlast⟩ := getLast?_dayAndYear (m.date.monthName.toList.take 3) m.date
  have hname := isName_of_mem m.date.monthName (by simp [Date.monthName_mem h])
  obtain ⟨-, -, first, hhead, hfirst⟩ := isName_iff.1 hname
  have hhead : (m.date.monthName.toList.take 3 ++ dayAndYear m.date).head? = some first := by
    obtain ⟨cs, hcs⟩ := List.head?_eq_some_iff.1 hhead
    rw [hcs]
    rfl
  rw [show_short, read?_of_isUpper hhead hfirst hend hlast, read?_abbreviated h]
  split <;> rfl

/-- The long form is no date to be read, because the weekday stands in front. -/
theorem read?_show_long (m : Moment) : read? (m.show .long) = none := by
  obtain ⟨last, hend, hlast⟩ := getLast?_dayAndYear
    (m.date.weekdayName.toList ++ ',' :: ' ' :: m.date.monthName.toList) m.date
  have hname := isName_of_mem m.date.weekdayName (by simp [m.date.weekdayName_mem])
  obtain ⟨-, -, first, hhead, hfirst⟩ := isName_iff.1 hname
  have hhead : (m.date.weekdayName.toList ++
      ',' :: ' ' :: (m.date.monthName.toList ++ dayAndYear m.date)).head? = some first := by
    rw [List.head?_append, hhead]
    rfl
  rw [List.append_assoc] at hend
  rw [show_long, read?_of_isUpper hhead hfirst hend hlast,
    read?_weekdayName m.date List.mem_cons_self]
  rfl

/-- The time form is no date to be read, because the time of day follows the date. -/
theorem read?_show_time (h : m.date.isValid = true) : read? (m.show .time) = none := by
  obtain ⟨rest, hcomma, hlast, hshow⟩ := show_time m
  have hdigit : ∀ c ∈ Nat.toDigits 10 m.date.month, c.isDigit = true := fun c hc =>
    Nat.isDigit_of_mem_toDigits (by decide) (by decide) hc
  have hlength : (Nat.toDigits 10 m.date.month).length ≤ 2 :=
    (Nat.length_toDigits_le_iff (by decide) (by decide)).2
      (Nat.lt_of_le_of_lt (Date.isValid_iff.1 h).2.1.2 (by decide))
  have hend : (Nat.toDigits 10 m.date.month ++ '/' :: rest).getLast? = some 'M' := by
    simp [List.getLast?_cons, hlast]
  have hiso : Iso.moment?
      (String.ofList (Nat.toDigits 10 m.date.month ++ '/' :: rest)) = none := by
    refine Iso.moment?_eq_none (by omega) (fun c hc => ?_) (by decide) (by decide)
    have hnine : '9'.toNat = 57 := rfl
    have := (Char.isDigit_iff_toNat.1 (hdigit c hc)).2
    omega
  have hne := Nat.toDigits_ne_nil (n := m.date.month) (b := 10)
  obtain ⟨c, cs, hcs⟩ := List.exists_cons_of_ne_nil hne
  have hc : c.isDigit = true := hdigit c (hcs ▸ List.mem_cons_self)
  have htrim : trim (Nat.toDigits 10 m.date.month ++ '/' :: rest)
      = Nat.toDigits 10 m.date.month ++ '/' :: rest := by
    refine trim_eq_self_iff.2 ⟨?_, ?_⟩
    · rw [hcs]
      rintro c ⟨⟩
      exact isBlank_of_isDigit hc
    · rw [hend]
      rintro c ⟨⟩
      rfl
  rw [hshow, read?_ofList htrim (by rw [hend]; decide) hiso, hcs, List.cons_append,
    read?_of_isDigit hc (by simp [hcomma])]
  rfl

end Moment

/-! ## Showing them again -/

namespace Value

/-- Whether a value that is a day or a moment is on a day that the calendar has. -/
def onCalendar : Value → Bool
  | .date d => d.isValid
  | .moment m => m.date.isValid
  | _ => true

theorem isValid_of_moment? {v : Value} {m : Moment} (hv : v.onCalendar = true)
    (h : v.moment? = some m) : m.date.isValid = true := by
  cases v with
  | date d =>
      cases h
      exact hv
  | moment =>
      cases h
      exact hv
  | int n =>
      rw [moment?] at h
      split at h
      · exact Moment.isValid_of_ofEpochSeconds? h
      · cases h
  | float x =>
      rw [moment?, Moment.ofEpochMillis?] at h
      exact Moment.isValid_of_ofEpochSeconds? h
  | str s =>
      rw [moment?] at h
      exact Moment.isValid_of_read? h
  | _ => cases h

end Value

namespace Helper

variable {v : Value} {m : Moment}

theorem formatDate_of_moment? (hv : v.holds = true) (hm : v.moment? = some m) (preset : Value) :
    formatDate v preset = .str (m.show preset.datePreset) := by
  rw [formatDate, if_pos hv, hm]

theorem formatDate_of_moment?_eq_none (hv : v.holds = true) (hm : v.moment? = none)
    (preset : Value) : formatDate v preset = v := by
  rw [formatDate, if_pos hv, hm]

theorem formatDate_of_not_holds (hv : v.holds = false) (preset : Value) :
    formatDate v preset = .str "" := by
  rw [formatDate, hv]
  rfl

theorem holds_show (m : Moment) (preset : DatePreset) :
    (Value.str (m.show preset)).holds = true := by
  have hcomma : ',' ∈ (m.show preset).toList := by
    cases preset <;> simp [Moment.show]
  have hne : m.show preset ≠ "" := by
    intro hempty
    rw [hempty] at hcomma
    cases hcomma
  simpa [Value.holds] using hne

/-- What a form shows stays as it is in that form. -/
theorem formatDate_show (h : m.date.isValid = true) (preset : Value) :
    formatDate (.str (m.show preset.datePreset)) preset = .str (m.show preset.datePreset) := by
  have hholds := holds_show m preset.datePreset
  have hread : (Value.str (m.show preset.datePreset)).moment?
      = Moment.read? (m.show preset.datePreset) := rfl
  -- The short form is read back and shown again; the other forms are no dates to be read.
  cases hform : preset.datePreset with
  | short =>
      rw [hform] at hholds hread
      by_cases hyear : 1000 ≤ m.date.year
      · rw [Moment.read?_show_short h, if_pos hyear] at hread
        rw [formatDate_of_moment? hholds hread, hform]
        rfl
      · rw [Moment.read?_show_short h, if_neg hyear] at hread
        rw [formatDate_of_moment?_eq_none hholds hread]
  | long =>
      rw [hform, Moment.read?_show_long] at hread
      rw [formatDate_of_moment?_eq_none (hform ▸ hholds) hread]
  | time =>
      rw [hform, Moment.read?_show_time h] at hread
      rw [formatDate_of_moment?_eq_none (hform ▸ hholds) hread]

/-- **A shown date stays as it is**, and from its short form all but the time of day can be read
    back if the year has four digits. -/
theorem formatDate_formatDate (hv : v.onCalendar = true) :
    (∀ preset, formatDate (formatDate v preset) preset = formatDate v preset) ∧
      ∀ m, v.holds = true → v.moment? = some m → 1000 ≤ m.date.year →
        (formatDate v (.str "short")).moment? = some (.midnight m.date) ∧
        formatDate (formatDate v (.str "short")) (.str "long") = formatDate v (.str "long") := by
  refine ⟨fun preset => ?_, fun m hholds hm hyear => ?_⟩
  · cases hholds : v.holds with
    | false =>
        rw [formatDate_of_not_holds hholds]
        exact formatDate_of_not_holds rfl preset
    | true =>
        cases hm : v.moment? with
        | none => rw [formatDate_of_moment?_eq_none hholds hm,
            formatDate_of_moment?_eq_none hholds hm]
        | some m =>
            rw [formatDate_of_moment? hholds hm]
            exact formatDate_show (Value.isValid_of_moment? hv hm) preset
  · have hvalid := Value.isValid_of_moment? hv hm
    have hread : (Value.str (m.show .short)).moment? = some (.midnight m.date) := by
      rw [Value.moment?, Moment.read?_show_short hvalid, if_pos hyear]
    have hshort : formatDate v (.str "short") = .str (m.show .short) :=
      formatDate_of_moment? hholds hm _
    rw [hshort]
    refine ⟨hread, ?_⟩
    rw [formatDate_of_moment? (holds_show m .short) hread, formatDate_of_moment? hholds hm]
    rfl

/-- The last hour of a leap year, on a clock behind universal time. -/
theorem formatDate_lastHour :
    let m : Moment := ⟨⟨2024, 12, 31⟩, 23, 5, 0, 0, some ⟨-18000000000⟩⟩
    let v : Value := .moment m
    let time : Value := .str "12/31/2024, 11:05 PM"
    v.onCalendar = true ∧ formatDate v (.str "time") = time ∧
      formatDate time (.str "time") = time ∧
      (formatDate v (.str "short")).moment? = some (.midnight m.date) ∧
      formatDate (formatDate v (.str "short")) (.str "long") = formatDate v (.str "long") := by
  intro m v time
  have hv : v.onCalendar = true := by decide +kernel
  have htime : formatDate v (.str "time") = time :=
    (formatDate_of_moment? rfl rfl _).trans (congrArg Value.str (by decide +kernel))
  obtain ⟨hsame, hread⟩ := formatDate_formatDate hv
  have hagain := hsame (.str "time")
  rw [htime] at hagain
  exact ⟨hv, htime, hagain, hread m rfl rfl (by decide)⟩

end Helper

end Stencil
