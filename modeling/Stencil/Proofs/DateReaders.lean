import Mathlib.Tactic.IntervalCases
import Stencil.Calendar.Written
import Stencil.Proofs.Trim

set_option autoImplicit false

/-! # Which texts are dates

A moment in ISO 8601 starts with the four digits of its year (`Iso.moment?_eq_none`). A written date
with a name for its month starts with the first three letters of one (`name_eq_nil`), and where a
blank follows them they are all of the name (`name_before_space`); the other written dates have no
comma (`read?_of_comma`). Whatever is read is a day of the calendar. -/

namespace Stencil

theorem Text.isBlank_of_isDigit {c : Char} (h : c.isDigit = true) : isBlank c = false := by
  obtain ⟨hlow, hhigh⟩ := Char.isDigit_iff_toNat.1 h
  have hzero : '0'.toNat = 48 := rfl
  have hnine : '9'.toNat = 57 := rfl
  simp [isBlank]
  omega

/-! ## Texts that are not in ISO 8601 -/

namespace Iso

theorem digitsAt?_eq_none {b : Array UInt8} {i j acc count : Nat} (hj : j < count)
    (h : digit? (byteAt b (i + j)) = none) : digitsAt? b i acc count = none := by
  -- With each digit the byte that is none comes nearer, so it is met among the `count` bytes.
  induction count generalizing i j acc with
  | zero => omega
  | succ count ih =>
      rw [digitsAt?]
      cases j with
      | zero =>
          rw [Nat.add_zero] at h
          rw [h]
          rfl
      | succ j =>
          have hnext : digit? (byteAt b (i + 1 + j)) = none := by
            rwa [Nat.add_assoc, Nat.add_comm 1]
          cases digit? (byteAt b i) with
          | none => rfl
          | some d => exact ih (by omega) hnext

theorem utf8EncodeChar_of_lt {c : Char} (h : c.toNat < 128) :
    String.utf8EncodeChar c = [c.toNat.toUInt8] := by
  have hle : c.val.toNat ≤ 127 := Nat.le_of_lt_succ h
  rw [String.utf8EncodeChar, if_pos hle]
  rfl

/-- After characters of ASCII, another one stands at its place as a byte. -/
theorem byteAt_append {front rest : List Char} {c : Char} (hfront : ∀ d ∈ front, d.toNat < 128)
    (hc : c.toNat < 128) :
    byteAt (String.ofList (front ++ c :: rest)).toUTF8.data front.length = c.toNat.toUInt8 := by
  have hbytes : front.flatMap String.utf8EncodeChar = front.map (·.toNat.toUInt8) := by
    rw [List.map_eq_flatMap]
    exact List.flatMap_congr fun d hd => utf8EncodeChar_of_lt (hfront d hd)
  have hdata : (String.ofList (front ++ c :: rest)).toUTF8.data
      = (front.map (·.toNat.toUInt8) ++
          c.toNat.toUInt8 :: rest.flatMap String.utf8EncodeChar).toArray := by
    show (List.utf8Encode (front ++ c :: rest)).data = _
    rw [List.utf8Encode, List.data_toByteArray, List.flatMap_append, List.flatMap_cons, hbytes,
      utf8EncodeChar_of_lt hc]
    rfl
  rw [byteAt, hdata]
  simp

theorem digit?_of_not_isDigit {c : Char} (hc : c.toNat < 128) (h : c.isDigit = false) :
    digit? c.toNat.toUInt8 = none := by
  have hbyte : c.toNat.toUInt8.toNat = c.toNat := Nat.mod_eq_of_lt (by omega)
  have hnot : ¬ (48 ≤ c.toNat ∧ c.toNat ≤ 57) := by
    intro hdigit
    rw [Char.isDigit_iff_toNat.2 hdigit] at h
    cases h
  rw [digit?, if_neg]
  simpa [UInt8.le_iff_toNat_le, hbyte] using hnot

/-- A text with something else than a digit among its first four characters is no moment. -/
theorem moment?_eq_none {front rest : List Char} {c : Char} (hlength : front.length < 4)
    (hfront : ∀ d ∈ front, d.toNat < 128) (hc : c.toNat < 128) (h : c.isDigit = false) :
    moment? (String.ofList (front ++ c :: rest)) = none := by
  have hyear : digitsAt? (String.ofList (front ++ c :: rest)).toUTF8.data 0 0 4 = none := by
    refine digitsAt?_eq_none hlength ?_
    rw [Nat.zero_add, byteAt_append hfront hc, digit?_of_not_isDigit hc h]
  have hday : ∀ stop, day? (String.ofList (front ++ c :: rest)).toUTF8.data stop = none := by
    intro stop
    rw [day?, hyear]
    rfl
  simp only [moment?, hday]
  split <;> rfl

end Iso

namespace WrittenDate

open Text

theorem andThen_of_eq {α β : Type} {r : Reader α} {a : α} {cs rest : List Char}
    (h : r cs = [(a, rest)]) (next : α → Reader β) : r.andThen next cs = next a rest := by
  rw [Reader.andThen, h]
  exact List.append_nil _

/-! ## Characters that a reader leaves alone -/

/-- A reader that never takes a character. -/
def Reader.Spares {α : Type} (r : Reader α) (c : Char) : Prop :=
  ∀ cs, c ∈ cs → ∀ x ∈ r cs, c ∈ x.2

variable {α β : Type} {c : Char}

theorem Reader.Spares.andThen {r : Reader α} {next : α → Reader β} (hr : r.Spares c)
    (hnext : ∀ a, (next a).Spares c) : (r.andThen next).Spares c := by
  intro cs hc x hx
  obtain ⟨y, hy, hx⟩ := List.mem_flatMap.1 hx
  exact hnext y.1 y.2 (hr cs hc y hy) x hx

theorem Reader.Spares.yield {r : Reader α} (hr : r.Spares c) (make : α → β) :
    (r.yield make).Spares c := by
  intro cs hc x hx
  obtain ⟨y, hy, rfl⟩ := List.mem_map.1 hx
  exact hr cs hc y hy

theorem spares_character {d : Char} (h : c ≠ d) : (character d).Spares c := by
  intro cs hc x hx
  cases cs with
  | nil => cases hc
  | cons e cs =>
      rw [character] at hx
      split at hx
      · rename_i heq
        rw [List.mem_singleton.1 hx]
        exact (List.mem_cons.1 hc).resolve_left (heq ▸ h)
      · cases hx

theorem spares_digitBetween {low high : Nat} (hhigh : high ≤ 9) (h : c.isDigit = false) :
    (digitBetween low high).Spares c := by
  intro cs hc x hx
  cases cs with
  | nil => cases hc
  | cons e cs =>
      rw [digitBetween] at hx
      split at hx
      · rename_i hdigit
        have hne : c ≠ e := by
          rintro rfl
          simp only [Bool.and_eq_true, decide_eq_true_eq] at hdigit
          have hnine : '9'.toNat = 57 := rfl
          have hzero : '0'.toNat = 48 := rfl
          rw [Char.isDigit_iff_toNat.2 ⟨by omega, by omega⟩] at h
          cases h
        rw [List.mem_singleton.1 hx]
        exact (List.mem_cons.1 hc).resolve_left hne
      · cases hx

theorem spares_anyDigit (h : Text.isDigit c = false) : anyDigit.Spares c := by
  intro cs hc x hx
  cases cs with
  | nil => cases hc
  | cons e cs =>
      obtain ⟨d, hd, rfl⟩ := Option.map_eq_some_iff.1 (Option.mem_toList.1 hx)
      refine (List.mem_cons.1 hc).resolve_left ?_
      rintro rfl
      rw [Text.isDigit, hd] at h
      cases h

theorem spares_twoDigits {low high : Nat} {units : Reader Nat} (hhigh : high ≤ 9)
    (h : c.isDigit = false) (hunits : units.Spares c) : (twoDigits low high units).Spares c := by
  have hdigits : (Reader.andThen (digitBetween low high) fun t =>
      units.yield fun u => 10 * t + u).Spares c :=
    (spares_digitBetween hhigh h).andThen fun _ => hunits.yield _
  exact hdigits

/-- No part of a date but the separators takes a comma. -/
theorem spares_day : day.Spares ',' := by
  have hdigit {low high : Nat} (h : high ≤ 9) : (digitBetween low high).Spares ',' :=
    spares_digitBetween h (by decide)
  have hspace : ((character ' ').andThen fun _ => digitBetween 1 9).Spares ',' :=
    (spares_character (by decide)).andThen fun _ => hdigit (by decide)
  have hany : anyDigit.Spares ',' := spares_anyDigit (by decide +kernel)
  intro cs hc x hx
  simp only [day, List.mem_append] at hx
  rcases hx with (((hx | hx) | hx) | hx) | hx
  · exact spares_twoDigits (by decide) (by decide) (hdigit (by decide)) cs hc x hx
  · exact spares_twoDigits (by decide) (by decide) hany cs hc x hx
  · exact spares_twoDigits (by decide) (by decide) (hdigit (by decide)) cs hc x hx
  · exact hdigit (by decide) cs hc x hx
  · exact hspace cs hc x hx

theorem spares_month : month.Spares ',' := by
  have hdigit {low high : Nat} (h : high ≤ 9) : (digitBetween low high).Spares ',' :=
    spares_digitBetween h (by decide)
  intro cs hc x hx
  simp only [month, List.mem_append] at hx
  rcases hx with (hx | hx) | hx
  · exact spares_twoDigits (by decide) (by decide) (hdigit (by decide)) cs hc x hx
  · exact spares_twoDigits (by decide) (by decide) (hdigit (by decide)) cs hc x hx
  · exact hdigit (by decide) cs hc x hx

theorem spares_year : year.Spares ',' := by
  intro cs hc x hx
  simp only [year] at hx
  split at hx
  · rename_i hdigits
    rw [List.mem_singleton.1 hx]
    rw [← List.take_append_drop 4 cs] at hc
    refine (List.mem_append.1 hc).resolve_left fun hmem => ?_
    have hcomma := List.all_eq_true.1 (Bool.and_eq_true_iff.1 hdigits).2 ',' hmem
    revert hcomma
    decide +kernel
  · cases hx

theorem spares_yearFirst : yearFirst.Spares ',' :=
  spares_year.andThen fun _ => (spares_character (by decide)).andThen fun _ =>
    spares_month.andThen fun _ => (spares_character (by decide)).andThen fun _ =>
      spares_day.yield _

theorem spares_monthFirst : monthFirst.Spares ',' :=
  spares_month.andThen fun _ => (spares_character (by decide)).andThen fun _ =>
    spares_day.andThen fun _ => (spares_character (by decide)).andThen fun _ =>
      spares_year.yield _

/-- A form that leaves a character alone is not all of a text with it. -/
theorem readWith?_of_spares {form : Reader Date} (h : form.Spares c) {cs : List Char}
    (hc : c ∈ cs) : readWith? form cs = none := by
  have hleft := h cs hc
  rw [readWith?]
  split
  · rename_i hform
    have hmem := hleft _ (hform ▸ List.mem_cons_self)
    cases hmem
  · rfl

/-- The first three letters of the names of the months. -/
def monthAbbreviations : List String :=
  monthNames.map fun n => String.ofList (n.toList.take 3)

/-- A written date with a comma is one with a name for its month. -/
theorem read?_of_comma {cs : List Char} (h : ',' ∈ cs) :
    read? cs = (readWith? (named monthNames) cs).or (readWith? (named monthAbbreviations) cs) := by
  simp only [read?, forms, monthAbbreviations, List.findSome?_cons, List.findSome?_nil,
    readWith?_of_spares spares_yearFirst h, readWith?_of_spares spares_monthFirst h]
  split
  · rename_i hread
    rw [hread]
    rfl
  · rename_i hread
    rw [hread, Option.none_or]
    split
    · rename_i hread
      rw [hread]
    · rename_i hread
      rw [hread]

/-! ## Names of months -/

/-- A text that starts as none of the names does has none. -/
theorem name_eq_nil {names : List String} {cs : List Char} (size : Nat)
    (h : ∀ n ∈ names, size ≤ n.length ∧
      (n.toList.take size).map Char.toLower ≠ (cs.take size).map Char.toLower) :
    name names cs = [] := by
  have hnone : (names.findIdx? fun n =>
      (cs.take n.length).map Char.toLower == n.toList.map Char.toLower) = none := by
    rw [List.findIdx?_eq_none_iff]
    intro n hn
    obtain ⟨hsize, hne⟩ := h n hn
    rw [beq_eq_false_iff_ne]
    intro heq
    have hstart := congrArg (List.take size) heq
    rw [← List.map_take, ← List.map_take, List.take_take, Nat.min_eq_left hsize] at hstart
    exact hne hstart.symm
  simp only [name, hnone]

/-- Where a space follows, the letters before it are all of a name or none. -/
theorem take_eq_iff_of_space {front lower : List Char} (hlength : front.length ≤ lower.length)
    (hspace : ' ' ∉ lower) (rest : List Char) :
    ((front ++ ' ' :: rest).take lower.length).map Char.toLower = lower ↔
      front.map Char.toLower = lower := by
  refine ⟨fun h => ?_, fun h => ?_⟩
  · rcases Nat.eq_or_lt_of_le hlength with heq | hlt
    · rwa [← heq, List.take_left] at h
    · -- A longer name would go on with the space.
      refine absurd (h ▸ List.mem_map.2 ⟨' ', ?_, rfl⟩) hspace
      obtain ⟨k, hk⟩ := Nat.exists_eq_add_of_lt hlt
      rw [hk, Nat.add_assoc, List.take_length_add_append, List.take_succ_cons]
      exact List.mem_append_right _ List.mem_cons_self
  · have hsame : front.length = lower.length := by rw [← h, List.length_map]
    rw [← hsame, List.take_left, h]

theorem name_before_space {names : List String} {front rest : List Char}
    (h : ∀ n ∈ names, front.length ≤ n.length ∧ ' ' ∉ n.toList.map Char.toLower) :
    name names (front ++ ' ' :: rest) =
      (names.findIdx? fun n => front.map Char.toLower == n.toList.map Char.toLower).toList.map
        fun i => (i + 1, ' ' :: rest) := by
  have hsame : ∀ n ∈ names,
      (((front ++ ' ' :: rest).take n.length).map Char.toLower == n.toList.map Char.toLower)
        = (front.map Char.toLower == n.toList.map Char.toLower) := by
    intro n hn
    obtain ⟨hlength, hspace⟩ := h n hn
    have hlower : (n.toList.map Char.toLower).length = n.length := by
      rw [List.length_map, String.length_toList]
    have hiff := take_eq_iff_of_space (hlower ▸ hlength) hspace rest
    rw [hlower] at hiff
    rw [Bool.eq_iff_iff, beq_iff_eq, beq_iff_eq, hiff]
  have hfound : (names.findIdx? fun n =>
      ((front ++ ' ' :: rest).take n.length).map Char.toLower == n.toList.map Char.toLower)
        = names.findIdx? fun n => front.map Char.toLower == n.toList.map Char.toLower := by
    induction names with
    | nil => rfl
    | cons n names ih =>
        rw [List.findIdx?_cons, List.findIdx?_cons, hsame n List.mem_cons_self,
          ih (fun m hm => h m (List.mem_cons_of_mem _ hm))
            fun m hm => hsame m (List.mem_cons_of_mem _ hm)]
  simp only [name, hfound]
  -- The name that is found is as long as what stands before the space.
  cases hi : names.findIdx? fun n => front.map Char.toLower == n.toList.map Char.toLower with
  | none => rfl
  | some i =>
      obtain ⟨hlt, heq, -⟩ := List.findIdx?_eq_some_iff_getElem.1 hi
      have hlength : (names.getD i "").length = front.length := by
        rw [List.getD_eq_getElem?_getD, List.getElem?_eq_getElem hlt, Option.getD_some,
          ← String.length_toList, ← List.length_map Char.toLower,
          ← eq_of_beq heq, List.length_map]
      show [(i + 1, (front ++ ' ' :: rest).drop (names.getD i "").length)] = _
      rw [hlength, List.drop_left]
      rfl

/-! ## Days and years -/

/-- A day in decimal may also be read as its first digit. -/
theorem day_toDigits {d : Nat} (hlow : 1 ≤ d) (hhigh : d ≤ 31) (rest : List Char) :
    day (Nat.toDigits 10 d ++ ',' :: rest) =
      (d, ',' :: rest) ::
        if d < 10 then [] else [(d / 10, Nat.digitChar (d % 10) :: ',' :: rest)] := by
  interval_cases d <;> rfl

theorem day_before_comma {α : Type} {d : Nat} (hlow : 1 ≤ d) (hhigh : d ≤ 31)
    (next : Nat → Unit → Reader α) (rest : List Char) :
    (day.andThen fun n => (character ',').andThen (next n)) (Nat.toDigits 10 d ++ ',' :: rest)
      = next d () rest := by
  have hcomma : (character ',') (',' :: rest) = [((), rest)] := rfl
  have hdigit : character ',' (Nat.digitChar (d % 10) :: ',' :: rest) = [] := by
    rw [character, if_neg]
    intro heq
    have hisDigit : (Nat.digitChar (d % 10)).isDigit = true := by
      rw [Nat.isDigit_digitChar, decide_eq_true_iff]
      exact Nat.mod_lt d (by decide)
    rw [← heq] at hisDigit
    cases hisDigit
  rw [Reader.andThen, day_toDigits hlow hhigh]
  split <;> simp [Reader.andThen, hcomma, hdigit]

theorem year_toDigits {y : Nat} (h : y ≤ 9999) :
    year (Nat.toDigits 10 y) = if 1000 ≤ y then [(y, [])] else [] := by
  have hdigits : ∀ c ∈ Nat.toDigits 10 y, c.isDigit = true := fun c hc =>
    Nat.isDigit_of_mem_toDigits (by decide) (by decide) hc
  have hall : (Nat.toDigits 10 y).all isDigit = true :=
    List.all_eq_true.2 fun c hc => isDigit_of_isDigit (hdigits c hc)
  have hfour : (Nat.toDigits 10 y).length ≤ 4 :=
    (Nat.length_toDigits_le_iff (by decide) (by decide)).2 (by omega)
  have hthree : (Nat.toDigits 10 y).length ≤ 3 ↔ y < 10 ^ (3 : Nat) :=
    Nat.length_toDigits_le_iff (by decide) (by decide)
  have hvalue : digitsValue 0 (Nat.toDigits 10 y) = y := by
    rw [digitsValue_eq_ofDigitChars hdigits, Nat.ofDigitChars_ten_toDigits]
  rw [year, List.take_of_length_le hfour, List.drop_eq_nil_of_le hfour, hvalue, hall]
  simp only [Bool.and_true, decide_eq_true_eq]
  refine if_congr ?_ rfl rfl
  omega

theorem blanks_toDigits (n : Nat) (rest : List Char) :
    blanks (' ' :: (Nat.toDigits 10 n ++ rest)) = [((), Nat.toDigits 10 n ++ rest)] := by
  have hblank : isBlank ' ' = true := rfl
  have hdigits : blanks (Nat.toDigits 10 n ++ rest) = [] := by
    obtain ⟨c, cs, hcs⟩ := List.exists_cons_of_ne_nil (Nat.toDigits_ne_nil (n := n) (b := 10))
    have hdigit : c.isDigit = true :=
      Nat.isDigit_of_mem_toDigits (by decide) (by decide) (hcs ▸ List.mem_cons_self)
    rw [hcs, List.cons_append, blanks, isBlank_of_isDigit hdigit]
    rfl
  rw [blanks, if_pos hblank, hdigits]
  rfl

/-- The day and the year of a date, as they follow the name of its month. -/
def dayAndYear (d : Date) : List Char :=
  ' ' :: (Nat.toDigits 10 d.day ++ ',' :: ' ' :: Nat.toDigits 10 d.year)

/-- After the name of its month a date is read if its year has four digits. -/
theorem named_of_name {months : List String} {cs : List Char} {d : Date}
    (hvalid : d.isValid = true) (hname : name months cs = [(d.month, dayAndYear d)]) :
    named months cs = if 1000 ≤ d.year then [(d, [])] else [] := by
  have hyear : d.year ≤ 9999 := (Date.isValid_iff.1 hvalid).1.2
  have hday : 1 ≤ d.day := (Date.isValid_iff.1 hvalid).2.2.1
  have hblanks : blanks (' ' :: Nat.toDigits 10 d.year) = [((), Nat.toDigits 10 d.year)] := by
    have h := blanks_toDigits d.year []
    rwa [List.append_nil] at h
  rw [named, andThen_of_eq hname, dayAndYear, andThen_of_eq (blanks_toDigits _ _),
    day_before_comma hday (Date.day_le_of_isValid hvalid), andThen_of_eq hblanks, Reader.yield,
    year_toDigits hyear]
  split <;> rfl

end WrittenDate

/-! ## What is read is on the calendar -/

theorem Date.isValid_of_ofDayNumber? {n : Int} {d : Date} (h : ofDayNumber? n = some d) :
    d.isValid = true := by
  rw [ofDayNumber?] at h
  split at h
  · cases h
  · exact isValid_of_ofNumbers? h

namespace Iso

theorem isValid_of_ofWeek? {year week weekday : Nat} {d : Date}
    (h : ofWeek? year week weekday = some d) : d.isValid = true := by
  rw [ofWeek?] at h
  split at h
  · cases h
  · exact Date.isValid_of_ofDayNumber? h

theorem isValid_of_day? {b : Array UInt8} {stop : Nat} {d : Date} (h : day? b stop = some d) :
    d.isValid = true := by
  obtain ⟨year, -, h⟩ := Option.bind_eq_some_iff.1 h
  extract_lets separated i at h
  split at h
  · obtain ⟨week, -, h⟩ := Option.bind_eq_some_iff.1 h
    split at h
    · split at h
      · cases h
      · obtain ⟨weekday, -, h⟩ := Option.bind_eq_some_iff.1 h
        exact isValid_of_ofWeek? h
    · exact isValid_of_ofWeek? h
  · obtain ⟨month, -, h⟩ := Option.bind_eq_some_iff.1 h
    split at h
    · cases h
    · obtain ⟨day, -, h⟩ := Option.bind_eq_some_iff.1 h
      split at h
      · exact Date.isValid_of_ofNumbers? h
      · cases h

theorem isValid_of_moment? {text : String} {m : Moment} (h : moment? text = some m) :
    m.date.isValid = true := by
  simp only [moment?] at h
  split at h
  · cases h
  · obtain ⟨d, hd, h⟩ := Option.bind_eq_some_iff.1 h
    have hvalid := isValid_of_day? hd
    split at h
    · cases h
      exact hvalid
    · obtain ⟨c, -, h⟩ := Option.bind_eq_some_iff.1 h
      have hbuilt {offset : Option Offset}
          (h : (if (Moment.mk d c.hour c.minute c.second c.microsecond offset).isValid = true then
            some (Moment.mk d c.hour c.minute c.second c.microsecond offset) else none) = some m) :
          m.date.isValid = true := by
        split at h
        · cases h
          exact hvalid
        · cases h
      split at h
      · split at h
        · cases h
        · exact hbuilt h
      · obtain ⟨offset, -, h⟩ := Option.bind_eq_some_iff.1 h
        exact hbuilt h

end Iso

theorem WrittenDate.isValid_of_read? {cs : List Char} {d : Date} (h : read? cs = some d) :
    d.isValid = true := by
  obtain ⟨form, -, h⟩ := List.exists_of_findSome?_eq_some h
  rw [readWith?] at h
  split at h
  · split at h
    · cases h
      assumption
    · cases h
  · cases h

namespace Moment

theorem isValid_of_read? {text : String} {m : Moment} (h : read? text = some m) :
    m.date.isValid = true := by
  rcases Option.or_eq_some_iff.1 h with h | ⟨-, h⟩
  · exact Iso.isValid_of_moment? h
  · obtain ⟨d, hd, rfl⟩ := Option.map_eq_some_iff.1 h
    exact WrittenDate.isValid_of_read? hd

theorem isValid_of_ofEpochMicros? {micros : Int} {m : Moment} (h : ofEpochMicros? micros = some m) :
    m.date.isValid = true := by
  obtain ⟨d, hd, h⟩ := Option.bind_eq_some_iff.1 h
  cases h
  exact Date.isValid_of_ofDayNumber? hd

theorem isValid_of_ofEpochSeconds? {x : Double} {m : Moment} (h : ofEpochSeconds? x = some m) :
    m.date.isValid = true := by
  obtain ⟨whole, -, h⟩ := Option.bind_eq_some_iff.1 h
  dsimp only at h
  split at h
  · exact isValid_of_ofEpochMicros? h
  · cases h

end Moment

end Stencil
