import Daybook.Proofs.Grammar.Token
import Daybook.Proofs.Text.Words
import Daybook.Query

set_option relaxedAutoImplicit false
set_option autoImplicit false

/-!
# What a query asks for

A booking passes a query if it passes each of its texts and its date lies in the period that the
last year and the last month of the query select. Where the words stand makes no difference beyond
that, and the months of a year make up the year.

## Main definitions

* `QueryWord.IsYear`, `QueryWord.IsMonth`, `QueryWord.IsText` — the kinds of words.
* `IsLast` — the last of some words that is of a kind.
* `Date.InPeriod` — a date lies in the period that a year and a month select.

## Main results

* `QueryWord.ofString_eq_year_iff`, `QueryWord.ofString_eq_month_iff`,
  `QueryWord.ofString_eq_other_iff` — what a word means.
* `isLast_iff_getLast?` — how the last word of a kind is found.
* `Filter.matchesBooking_period_iff` — the dates of a period.
* `Booking.passes_ofQuery_iff` — which bookings pass a query.
* `Booking.query_meaning` — that, the order of words, and the months of a year.
-/

namespace Daybook

/-! ## Kinds of words -/

namespace QueryWord

/-- The name of a month. -/
def monthName (i : Fin 12) : String :=
  monthNames.get i

/-- A word is the digits of a year from 1900 to 2099. -/
structure IsYear (word : String) (y : Int) : Prop where
  first : 1900 ≤ y
  last : y < 2100
  digits : word = toString y

/-- A word is the name of a month or the first three letters of it, in any case. -/
def IsMonth (word : String) (m : Nat) : Prop :=
  ∃ i : Fin 12, m = i + 1 ∧ (Unicode.lowerCase word = monthName i ∨
    Unicode.lowerCase word = abbreviation (monthName i))

/-- A word is neither a year nor a month. -/
structure IsText (word : String) : Prop where
  noYear : ∀ y, ¬ IsYear word y
  noMonth : ∀ m, ¬ IsMonth word m

variable {word : String}

/-- A year is a natural number. -/
theorem IsYear.exists_nat {y : Int} (h : IsYear word y) : ∃ n : Nat, y = n :=
  Int.eq_ofNat_of_zero_le (by have := h.first; omega)

/-- A year is a run of digits. -/
theorem IsYear.isDigits {y : Int} (h : IsYear word y) : Decimal.IsDigits word.toList := by
  obtain ⟨n, rfl⟩ := h.exists_nat
  have htext : word.toList = Nat.toDigits 10 n := by
    rw [h.digits]
    exact Nat.toList_repr
  rw [htext]
  exact Decimal.isDigits_toDigits n

/-- The years from 1900 to 2099 have four digits. -/
theorem length_toDigits_year {n : Nat} (hge : 1900 ≤ n) (hlt : n < 2100) :
    (Nat.toDigits 10 n).length = 4 := by
  have hle : (Nat.toDigits 10 n).length ≤ 4 :=
    (Nat.length_toDigits_le_iff (by decide) (by decide)).mpr (by omega)
  have hgt : ¬ (Nat.toDigits 10 n).length ≤ 3 := fun h => by
    have := (Nat.length_toDigits_le_iff (by decide) (by decide)).mp h
    omega
  omega

/-- The years that words mean. A number has only one run of digits of a given length. -/
theorem year?_eq_some_iff {n : Nat} : year? word = some n ↔ IsYear word n := by
  have hdigits := Decimal.isDigits_toDigits n
  have hvalue := Decimal.natOfDigits_toDigits n
  constructor
  · intro h
    simp only [year?, Option.ite_none_right_eq_some, Bool.and_eq_true, decide_eq_true_eq,
      List.all_eq_true, Option.some.injEq] at h
    obtain ⟨⟨hlength, hall⟩, ⟨hge, hlt⟩, rfl⟩ := h
    have hfour := length_toDigits_year hge hlt
    have hsame : word.toList = Nat.toDigits 10 (Decimal.natOfDigits word.toList) :=
      Decimal.eq_of_natOfDigits_eq hall hdigits.2 (hlength.trans hfour.symm) hvalue.symm
    refine ⟨by omega, by omega, String.toList_inj.mp ?_⟩
    rw [hsame, hvalue]
    exact Nat.toList_repr.symm
  · rintro ⟨hge, hlt, rfl⟩
    have htext : (toString (n : Int)).toList = Nat.toDigits 10 n := Nat.toList_repr
    have hlength : (Nat.toDigits 10 n).length = 4 := length_toDigits_year (by omega) (by omega)
    have hrange : 1900 ≤ n ∧ n < 2100 := by omega
    simp only [year?, htext, hlength, hvalue, hrange, List.all_eq_true.mpr hdigits.2,
      decide_true, Bool.and_self, if_true]

/-- The months that words mean. No two months have a name or its first letters in common. -/
theorem month?_eq_some_iff {m : Nat} : month? word = some m ↔ IsMonth word m := by
  have hunique : ∀ i j : Fin 12,
      (monthName i = monthName j ∨ monthName i = abbreviation (monthName j) ∨
        abbreviation (monthName i) = monthName j ∨
        abbreviation (monthName i) = abbreviation (monthName j)) → i = j := by decide +kernel
  rw [month?, Option.map_eq_some_iff]
  simp only [List.findIdx?_eq_some_iff_getElem, Bool.or_eq_true, beq_iff_eq]
  constructor
  · rintro ⟨i, ⟨hi, hname, -⟩, rfl⟩
    exact ⟨⟨i, hi⟩, rfl, hname.imp Eq.symm Eq.symm⟩
  · rintro ⟨i, rfl, hname⟩
    refine ⟨i, ⟨i.isLt, hname.imp Eq.symm Eq.symm, fun j hj hother => ?_⟩, rfl⟩
    have hsame := hunique ⟨j, hj.trans i.isLt⟩ i ?_
    · exact absurd (congrArg Fin.val hsame) hj.ne
    · rcases hname with hname | hname <;> rcases hother with hother | hother
      · exact .inl (hother.trans hname)
      · exact .inr (.inr (.inl (hother.trans hname)))
      · exact .inr (.inl (hother.trans hname))
      · exact .inr (.inr (.inr (hother.trans hname)))

/-- A text that begins with a digit begins with it in lower case too. -/
theorem head?_lowerCase {c : Char} {rest : List Char} (hc : Unicode.isDigit c = true)
    (hword : word.toList = c :: rest) : (Unicode.lowerCase word).toList.head? = some c := by
  have hdigits : ∀ n < 58, 48 ≤ n →
      Char.ofNat n ≠ 'Σ' ∧ Unicode.lowerCaseOf (Char.ofNat n) = [Char.ofNat n] := by
    decide +kernel
  obtain ⟨hge, hle⟩ := toNat_of_isDigit hc
  have hdigit := hdigits c.toNat (by omega) hge
  rw [Char.ofNat_toNat] at hdigit
  rw [Unicode.lowerCase, String.toList_ofList, hword, Unicode.lowerCaseAfter, if_neg hdigit.1,
    hdigit.2]
  rfl

/-- No year is a month: it begins with a digit. -/
theorem IsYear.noMonth {y : Int} (h : IsYear word y) (m : Nat) : ¬ IsMonth word m := by
  have hletter : ∀ i : Fin 12, (monthName i).toList.head?.all (fun c => !Unicode.isDigit c) = true ∧
      (abbreviation (monthName i)).toList.head?.all (fun c => !Unicode.isDigit c) = true := by
    decide +kernel
  obtain ⟨hne, hdigits⟩ := h.isDigits
  obtain ⟨c, rest, hword⟩ := List.exists_cons_of_ne_nil hne
  have hc : Unicode.isDigit c = true := hdigits c (by simp [hword])
  have hhead := head?_lowerCase hc hword
  rintro ⟨i, -, hname | hname⟩ <;> rw [hname] at hhead
  · simpa [hhead, hc] using (hletter i).1
  · simpa [hhead, hc] using (hletter i).2

/-- The words that mean a year. -/
theorem ofString_eq_year_iff {y : Int} : ofString word = year y ↔ IsYear word y := by
  unfold ofString
  constructor
  · intro h
    split at h
    · rename_i n hn
      cases h
      exact year?_eq_some_iff.mp hn
    · split at h <;> cases h
  · intro h
    obtain ⟨n, rfl⟩ := h.exists_nat
    rw [year?_eq_some_iff.mpr h]

/-- The words that mean a month. -/
theorem ofString_eq_month_iff {m : Nat} : ofString word = month m ↔ IsMonth word m := by
  unfold ofString
  constructor
  · intro h
    split at h
    · cases h
    · split at h
      · rename_i n hn
        cases h
        exact month?_eq_some_iff.mp hn
      · cases h
  · intro h
    cases hyear : year? word with
    | some n => exact absurd h ((year?_eq_some_iff.mp hyear).noMonth m)
    | none => rw [month?_eq_some_iff.mpr h]

/-- A word that means a text means itself. -/
theorem eq_of_ofString {text : String} (h : ofString word = other text) : text = word := by
  unfold ofString at h
  split at h
  · cases h
  · split at h
    · cases h
    · exact (other.inj h).symm

/-- All other words mean themselves. -/
theorem ofString_eq_other_iff {text : String} :
    ofString word = other text ↔ text = word ∧ IsText word := by
  constructor
  · intro h
    refine ⟨eq_of_ofString h, fun y hy => ?_, fun m hm => ?_⟩
    · rw [ofString_eq_year_iff.mpr hy] at h
      cases h
    · rw [ofString_eq_month_iff.mpr hm] at h
      cases h
  · rintro ⟨rfl, htext⟩
    cases h : ofString text with
    | year y => exact absurd (ofString_eq_year_iff.mp h) (htext.noYear y)
    | month m => exact absurd (ofString_eq_month_iff.mp h) (htext.noMonth m)
    | other t => rw [eq_of_ofString h]

/-- The year of a word. -/
theorem asYear_eq_some_iff {w : QueryWord} {y : Int} : w.asYear = some y ↔ w = year y := by
  cases w <;> simp [asYear]

/-- The month of a word. -/
theorem asMonth_eq_some_iff {w : QueryWord} {m : Nat} : w.asMonth = some m ↔ w = month m := by
  cases w <;> simp [asMonth]

/-- The text of a word. -/
theorem asText_eq_some_iff {w : QueryWord} {text : String} :
    w.asText = some text ↔ w = other text := by
  cases w <;> simp [asText]

end QueryWord

/-! ## The last word of a kind -/

/-- What the last of some words is that is of a kind, which `R` says for every word; nothing if no
word is of that kind. -/
def IsLast {α : Type} (R : String → α → Prop) (words : List String) : Option α → Prop
  | none => ∀ word ∈ words, ∀ a, ¬ R word a
  | some a => ∃ front word back, words = front ++ word :: back ∧ R word a ∧
      ∀ later ∈ back, ∀ b, ¬ R later b

/-- A further word that is not of the kind changes nothing. -/
theorem IsLast.concat {α : Type} {R : String → α → Prop} {words : List String} {a? : Option α}
    (h : IsLast R words a?) {word : String} (hword : ∀ a, ¬ R word a) :
    IsLast R (words ++ [word]) a? := by
  cases a? with
  | none => exact List.forall_mem_append.mpr ⟨h, List.forall_mem_singleton.mpr hword⟩
  | some a =>
    obtain ⟨front, last, back, rfl, hlast, hback⟩ := h
    exact ⟨front, last, back ++ [word], by simp, hlast,
      List.forall_mem_append.mpr ⟨hback, List.forall_mem_singleton.mpr hword⟩⟩

/-- The last value that a function gives for a word belongs to the last word of the kind. -/
theorem isLast_getLast? {α : Type} {f : String → Option α} {R : String → α → Prop}
    (h : ∀ word a, f word = some a ↔ R word a) (words : List String) :
    IsLast R words (words.filterMap f).getLast? := by
  induction words using List.reverseRecOn with
  | nil => exact fun _ hword => absurd hword List.not_mem_nil
  | append_singleton words word ih =>
    rw [List.filterMap_append]
    cases hword : f word with
    | some a =>
      have hlast : [word].filterMap f = [a] := by simp [hword]
      rw [hlast, List.getLast?_append, List.getLast?_singleton, Option.some_or]
      exact ⟨words, word, [], rfl, (h word a).mp hword, nofun⟩
    | none =>
      have hnone : [word].filterMap f = [] := by simp [hword]
      rw [hnone, List.append_nil]
      refine ih.concat fun a ha => ?_
      rw [(h word a).mpr ha] at hword
      cases hword

/-- A value that a function gives for every word of a kind, and for no other, is given last for the
last word of the kind. -/
theorem isLast_iff_getLast? {α : Type} {f : String → Option α} {R : String → α → Prop}
    (h : ∀ word a, f word = some a ↔ R word a) (words : List String) {a? : Option α} :
    IsLast R words a? ↔ (words.filterMap f).getLast? = a? := by
  have hnone {words : List String} (hwords : ∀ word ∈ words, ∀ a, ¬ R word a) :
      words.filterMap f = [] := List.filterMap_eq_nil_iff.mpr fun word hword =>
    Option.eq_none_iff_forall_ne_some.mpr fun a ha => hwords word hword a ((h word a).mp ha)
  constructor
  · cases a? with
    | none =>
      intro hwords
      rw [hnone hwords, List.getLast?_nil]
    | some a =>
      rintro ⟨front, word, back, rfl, hword, hback⟩
      rw [List.filterMap_append, List.filterMap_cons_some ((h word a).mpr hword), hnone hback,
        List.getLast?_concat]
  · rintro rfl
    exact isLast_getLast? h words

/-! ## Periods -/

namespace Date

/-- A date lies in a month of some year, on one of its days from the first to the 31st. -/
structure InMonth (d : Date) (m : Nat) : Prop where
  month : d.month = m
  first : 1 ≤ d.day
  last : d.day ≤ 31

/-- A date lies between the first of January and the 31st of December of some year. -/
structure InMonths (d : Date) : Prop where
  firstMonth : 1 ≤ d.month
  firstDay : d.month = 1 → 1 ≤ d.day
  lastMonth : d.month ≤ 12
  lastDay : d.month = 12 → d.day ≤ 31

/-- A date lies in the period that a year and a month select: in that month of that year, in the
whole year, or in that month of the current year. Every date does if neither is given. -/
def InPeriod (currentYear : Int) : Option Int → Option Nat → Date → Prop
  | none, none, _ => True
  | some y, none, d => d.year = y ∧ d.InMonths
  | some y, some m, d => d.year = y ∧ d.InMonth m
  | none, some m, d => d.year = currentYear ∧ d.InMonth m

/-- Dates are ordered by year, by month and by day. -/
theorem isLE_compare_iff {a b : Date} : (compare a b).isLE = true ↔
    a.year < b.year ∨ a.year = b.year ∧
      (a.month < b.month ∨ a.month = b.month ∧ a.day ≤ b.day) := by
  have hcompare : compare a b = (compare a.year b.year).then
      ((compare a.month b.month).then (compare a.day b.day)) := rfl
  rw [hcompare, Ordering.isLE_then_iff_or, Ordering.isLE_then_iff_or, Nat.isLE_compare,
    compare_lt_iff_lt, compare_eq_iff_eq, compare_lt_iff_lt, compare_eq_iff_eq]

end Date

namespace Filter

variable {b : Booking}

/-- The dates that pass the filters of a period are those that lie in it. -/
theorem matchesBooking_period_iff {currentYear : Int} {y? : Option Int} {m? : Option Nat} :
    (∀ f ∈ periodOf currentYear y? m?, f.matchesBooking b = true) ↔
      b.date.InPeriod currentYear y? m? := by
  have hmonth (y : Int) (m : Nat) :
      (period ⟨y, m, 1⟩ ⟨y, m, lastDay⟩).matchesBooking b = true ↔
        b.date.year = y ∧ b.date.InMonth m := by
    rw [matchesBooking, Bool.and_eq_true, Date.isLE_compare_iff, Date.isLE_compare_iff, lastDay]
    dsimp only
    exact ⟨fun h => ⟨by omega, by omega, by omega, by omega⟩,
      fun ⟨hyear, hmonth, hfirst, hlast⟩ => by omega⟩
  have hyear (y : Int) : (period ⟨y, 1, 1⟩ ⟨y, 12, lastDay⟩).matchesBooking b = true ↔
      b.date.year = y ∧ b.date.InMonths := by
    rw [matchesBooking, Bool.and_eq_true, Date.isLE_compare_iff, Date.isLE_compare_iff, lastDay]
    dsimp only
    exact ⟨fun h => ⟨by omega, by omega, by omega, by omega, by omega⟩,
      fun ⟨hyear, hfirst, hday, hlast, hlastDay⟩ => by omega⟩
  cases y? <;> cases m? <;>
    simp [periodOf, Date.InPeriod, hmonth, hyear]

end Filter

/-! ## Queries -/

namespace Booking

variable {b : Booking} {query : String} {currentYear : Int}

/-- A booking passes a query if it passes its texts and the period that the last year and the last
month select. -/
theorem passes_ofQuery_iff : b.passes (Filter.ofQuery query currentYear) = true ↔
    (∀ word ∈ Text.words query, QueryWord.IsText word →
      (Filter.text word).matchesBooking b = true) ∧
    b.date.InPeriod currentYear ((QueryWord.ofQuery query).filterMap QueryWord.asYear).getLast?
      ((QueryWord.ofQuery query).filterMap QueryWord.asMonth).getLast? := by
  rw [passes, Filter.ofQuery, Filter.ofWords, List.all_append, Bool.and_eq_true,
    ← Filter.matchesBooking_period_iff]
  refine and_congr ?_ ?_
  · simp only [List.all_map, List.all_eq_true, List.mem_filterMap, QueryWord.asText_eq_some_iff,
      QueryWord.ofQuery, List.mem_map, Function.comp_apply]
    constructor
    · exact fun h word hword htext =>
        h word ⟨_, ⟨word, hword, rfl⟩, QueryWord.ofString_eq_other_iff.mpr ⟨rfl, htext⟩⟩
    · rintro h text ⟨_, ⟨word, hword, rfl⟩, htext⟩
      obtain ⟨rfl, htext⟩ := QueryWord.ofString_eq_other_iff.mp htext
      exact h text hword htext
  · simp [List.all_eq_true]

/-- The query for a month of a year. -/
def monthQuery (i : Fin 12) (y : Int) : String :=
  QueryWord.monthName i ++ " " ++ toString y

/-- A year is one word. -/
theorem words_year {word : String} {y : Int} (h : QueryWord.IsYear word y) :
    Text.words word = [word] := by
  obtain ⟨hne, hdigits⟩ := h.isDigits
  exact Text.words_of_noBlank (mt String.toList_eq_nil_iff.mpr hne) fun c hc =>
    Grammar.isBlank_of_isDigit (hdigits c hc)

/-- Such a query has two words. -/
theorem words_monthQuery (i : Fin 12) {y : Int} (h : QueryWord.IsYear (toString y) y) :
    Text.words (monthQuery i y) = [QueryWord.monthName i, toString y] := by
  have hname : ∀ i : Fin 12, QueryWord.monthName i ≠ "" ∧
      (QueryWord.monthName i).toList.all (fun c => !Unicode.isBlank c) = true := by
    decide +kernel
  have hnoBlank : ∀ c ∈ (QueryWord.monthName i).toList, Unicode.isBlank c = false := fun c hc => by
    simpa using List.all_eq_true.mp (hname i).2 c hc
  have hblank : Unicode.isBlank ' ' = true := by decide +kernel
  have happend := Text.words_append hblank (QueryWord.monthName i) (toString y)
  rw [Text.words_of_noBlank (hname i).1 hnoBlank, words_year h] at happend
  exact happend

/-- The name of a month means the month. -/
theorem isMonth_monthName (i : Fin 12) : QueryWord.IsMonth (QueryWord.monthName i) (i + 1) := by
  have hlower : ∀ i : Fin 12,
      Unicode.lowerCase (QueryWord.monthName i) = QueryWord.monthName i := by decide +kernel
  exact ⟨i, rfl, .inl (hlower i)⟩

/-- Which bookings pass a query that is a year. -/
theorem passes_year_iff {y : Int} (h : QueryWord.IsYear (toString y) y) :
    b.passes (Filter.ofQuery (toString y) currentYear) = true ↔
      b.date.year = y ∧ b.date.InMonths := by
  have hyear := QueryWord.ofString_eq_year_iff.mpr h
  rw [passes_ofQuery_iff, QueryWord.ofQuery, words_year h, List.map_singleton, hyear,
    List.forall_mem_singleton]
  exact and_iff_right fun htext => absurd h (htext.noYear y)

/-- Which bookings pass a query that is a month and a year. -/
theorem passes_monthQuery_iff (i : Fin 12) {y : Int} (h : QueryWord.IsYear (toString y) y) :
    b.passes (Filter.ofQuery (monthQuery i y) currentYear) = true ↔
      b.date.year = y ∧ b.date.InMonth (i + 1) := by
  have hmonth := isMonth_monthName i
  have hyear := QueryWord.ofString_eq_year_iff.mpr h
  rw [passes_ofQuery_iff, QueryWord.ofQuery, words_monthQuery i h, List.map_cons,
    List.map_singleton, hyear, QueryWord.ofString_eq_month_iff.mpr hmonth, List.forall_mem_cons,
    List.forall_mem_singleton]
  exact and_iff_right ⟨fun htext => absurd hmonth (htext.noMonth _),
    fun htext => absurd h (htext.noYear y)⟩

/-- Queries with the same words select the same bookings if their years come in the same order, and
their months do. -/
theorem passes_eq_of_perm {query' : String} (h : (Text.words query).Perm (Text.words query'))
    (hyears : (QueryWord.ofQuery query).filterMap QueryWord.asYear =
      (QueryWord.ofQuery query').filterMap QueryWord.asYear)
    (hmonths : (QueryWord.ofQuery query).filterMap QueryWord.asMonth =
      (QueryWord.ofQuery query').filterMap QueryWord.asMonth) :
    b.passes (Filter.ofQuery query currentYear) = b.passes (Filter.ofQuery query' currentYear) := by
  rw [Bool.eq_iff_iff, passes_ofQuery_iff, passes_ofQuery_iff, hyears, hmonths]
  simp only [h.mem_iff]

/-- A date that might be one of a calendar lies in one month of its year, and in no other. -/
theorem passes_year_iff_existsUnique {y : Int} (h : QueryWord.IsYear (toString y) y)
    (hmonth : 1 ≤ b.date.month ∧ b.date.month ≤ 12) (hday : 1 ≤ b.date.day ∧ b.date.day ≤ 31) :
    b.passes (Filter.ofQuery (toString y) currentYear) = true ↔
      ∃! i : Fin 12, b.passes (Filter.ofQuery (monthQuery i y) currentYear) = true := by
  simp only [passes_year_iff h, passes_monthQuery_iff _ h]
  constructor
  · rintro ⟨hyear, -⟩
    refine ⟨⟨b.date.month - 1, by omega⟩, ⟨hyear, ?_, hday.1, hday.2⟩, ?_⟩
    · exact (Nat.sub_add_cancel hmonth.1).symm
    · rintro i ⟨-, hi⟩
      exact Fin.ext (Nat.eq_sub_of_add_eq hi.month.symm)
  · rintro ⟨i, ⟨hyear, -⟩, -⟩
    exact ⟨hyear, hmonth.1, fun _ => hday.1, hmonth.2, fun _ => hday.2⟩

/-- What a query asks for. A booking passes it if it passes every word that is neither a year nor a
month as a text, and its date lies in the period that the last year and the last month select. So
the words may stand in any order as long as the years stay in theirs and the months in theirs. On a
date that might be one of a calendar, a year is passed exactly if one of its months is, and then no
other month is. -/
theorem query_meaning (b : Booking) (currentYear : Int) :
    (∀ query, b.passes (Filter.ofQuery query currentYear) = true ↔
      (∀ word ∈ Text.words query, QueryWord.IsText word →
        (Filter.text word).matchesBooking b = true) ∧
      ∃ y? m?, IsLast QueryWord.IsYear (Text.words query) y? ∧
        IsLast QueryWord.IsMonth (Text.words query) m? ∧
        b.date.InPeriod currentYear y? m?) ∧
    (∀ query query', (Text.words query).Perm (Text.words query') →
      (QueryWord.ofQuery query).filterMap QueryWord.asYear =
        (QueryWord.ofQuery query').filterMap QueryWord.asYear →
      (QueryWord.ofQuery query).filterMap QueryWord.asMonth =
        (QueryWord.ofQuery query').filterMap QueryWord.asMonth →
      b.passes (Filter.ofQuery query currentYear) =
        b.passes (Filter.ofQuery query' currentYear)) ∧
    ∀ y : Int, 1900 ≤ y → y < 2100 → 1 ≤ b.date.month → b.date.month ≤ 12 → 1 ≤ b.date.day →
      b.date.day ≤ 31 →
      (b.passes (Filter.ofQuery (toString y) currentYear) = true ↔
        ∃! i : Fin 12, b.passes (Filter.ofQuery (monthQuery i y) currentYear) = true) := by
  refine ⟨fun query => ?_, fun query query' => passes_eq_of_perm, ?_⟩
  · rw [passes_ofQuery_iff]
    have hyear (word : String) (y : Int) :
        (QueryWord.ofString word).asYear = some y ↔ QueryWord.IsYear word y := by
      rw [QueryWord.asYear_eq_some_iff, QueryWord.ofString_eq_year_iff]
    have hmonth (word : String) (m : Nat) :
        (QueryWord.ofString word).asMonth = some m ↔ QueryWord.IsMonth word m := by
      rw [QueryWord.asMonth_eq_some_iff, QueryWord.ofString_eq_month_iff]
    simp [QueryWord.ofQuery, List.filterMap_map, isLast_iff_getLast? hyear,
      isLast_iff_getLast? hmonth]
  · exact fun y hfirst hlast hmonth hmonth' hday hday' =>
      passes_year_iff_existsUnique ⟨hfirst, hlast, rfl⟩ ⟨hmonth, hmonth'⟩ ⟨hday, hday'⟩

/-- A coffee in January is found by its words in either order, and its month is one of 2016. -/
theorem query_meaning_coffee :
    let b : Booking := ⟨"Coffee", ⟨2016, 1, 31⟩, none, []⟩
    b.passes (Filter.ofQuery "coffee 2015 Jan 2016" 2020) =
      b.passes (Filter.ofQuery "Jan 2015 2016 coffee" 2020) ∧
    ∃! i : Fin 12, b.passes (Filter.ofQuery (monthQuery i 2016) 2020) = true := by
  intro b
  have h := query_meaning b 2020
  have hyear : b.passes (Filter.ofQuery (toString (2016 : Int)) 2020) = true := by decide +kernel
  have hmonths := h.2.2 2016 (by decide) (by decide) (by decide) (by decide) (by decide) (by decide)
  exact ⟨h.2.1 _ _ (by decide +kernel) (by decide +kernel) (by decide +kernel), hmonths.mp hyear⟩

end Booking

end Daybook
