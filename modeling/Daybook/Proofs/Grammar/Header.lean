import Daybook.Grammar.Statement
import Daybook.Statement.Text
import Daybook.Proofs.Grammar.Token

set_option relaxedAutoImplicit false
set_option autoImplicit false

/-!
# What the first lines of transactions are read

The first line of a transaction, with its date, its status and its title, is read from its text. A
title ends where a note could begin, and it does not begin like a status.

## Main definitions

* `WrittenDate.InSource`, `Grammar.IsTitle`, `Grammar.Header.InSource` — the form of dates, titles
  and first lines.
* `Grammar.Header.line` — a first line as it is written.

## Main results

* `Grammar.date_text`, `Grammar.title_append`, `Grammar.header_line` — the first line is read from
  its text.
* `Grammar.date_eq_done`, `Grammar.title_eq_done`, `Grammar.header_eq_done` — what has been read as
  a first line.
-/

namespace Daybook

open Grammar Grammar.Parser

/-! ## Dates -/

/-- The dates that can be read. -/
structure WrittenDate.InSource (d : WrittenDate) : Prop where
  month : d.month ≤ greatestNatural
  day : d.day ≤ greatestNatural
  year : ∀ y ∈ d.year, ∃ n : Nat, y = n ∧ n ≤ greatestYear

namespace Grammar

/-- The text of a date without a year. -/
theorem toList_text_monthAndDay (month day : Nat) :
    (WrittenDate.text ⟨none, month, day⟩).toList =
      Decimal.paddedDigits 2 month ++ '/' :: Decimal.paddedDigits 2 day := by
  simp [WrittenDate.text, WrittenDate.twoDigits]

/-- The text of a date with a year. -/
theorem toList_text_fullDate (year month day : Nat) :
    (WrittenDate.text ⟨some year, month, day⟩).toList = Nat.toDigits 10 year ++
      '/' :: (Decimal.paddedDigits 2 month ++ '/' :: Decimal.paddedDigits 2 day) := by
  have hyear : (year : Int).repr.toList = Nat.toDigits 10 year := Nat.toList_repr
  have htext : WrittenDate.text ⟨some year, month, day⟩ = (year : Int).repr ++ "/" ++
      (WrittenDate.twoDigits month ++ "/" ++ WrittenDate.twoDigits day) := rfl
  simp [htext, WrittenDate.twoDigits, hyear]

/-- The text of a date begins with a digit. -/
theorem exists_dateText_eq_cons {d : WrittenDate} (hsource : d.InSource) :
    ∃ c cs, d.text.toList = c :: cs ∧ Unicode.isDigit c = true := by
  obtain ⟨year, month, day⟩ := d
  have hfirst {digits : List Char} (h : Decimal.IsDigits digits) (t : List Char) :
      ∃ c cs, digits ++ t = c :: cs ∧ Unicode.isDigit c = true := by
    obtain ⟨c, cs, rfl⟩ := List.exists_cons_of_ne_nil h.1
    exact ⟨c, cs ++ t, rfl, h.2 c List.mem_cons_self⟩
  cases year with
  | none =>
    rw [toList_text_monthAndDay]
    exact hfirst (Decimal.isDigits_paddedDigits 2 month) _
  | some y =>
    obtain ⟨n, rfl, -⟩ := hsource.year y rfl
    rw [toList_text_fullDate]
    exact hfirst (Decimal.isDigits_toDigits n) _

/-- The part of a date behind its first number. -/
theorem datePart_text {second : Nat} {seconds : List Char} {third? : Option Nat}
    {thirds rest : List Char} (hseconds : Decimal.IsDigits seconds)
    (hsecond : Decimal.natOfDigits seconds = second) (hle : second ≤ greatestNatural)
    (hthirds : ∀ third ∈ third?, Decimal.IsDigits thirds ∧ Decimal.natOfDigits thirds = third ∧
      third ≤ greatestNatural)
    (hrest : ∀ c, rest.head? = some c → Unicode.isDigit c = false ∧ c ≠ '/') :
    datePart '/' ('/' :: (seconds ++ ((third?.elim [] fun _ => '/' :: thirds) ++ rest))) =
      .done (second, third?) rest := by
  have hsecond' : ∀ r, (∀ c, r.head? = some c → Unicode.isDigit c = false) →
      natural (seconds ++ r) = .done second r := by
    intro r hr
    rw [natural_append hseconds (hsecond ▸ hle) hr, hsecond]
  cases third? with
  | none =>
    have hnone : optional (do let _ ← char '/'; natural) rest = .done none rest :=
      optional_of_fails ((fails_char fun hc => (hrest _ hc).2 rfl).bind _)
    rw [datePart, bind_of_done (char_cons_self '/' _), Option.elim_none, List.nil_append,
      bind_of_done (hsecond' rest fun c hc => (hrest c hc).1), bind_of_done hnone, pure_apply]
  | some third =>
    obtain ⟨hdigits, hthird, hle'⟩ := hthirds third rfl
    have hsome : optional (do let _ ← char '/'; natural) ('/' :: (thirds ++ rest)) =
        .done (some third) rest := by
      refine optional_of_done ?_
      rw [bind_of_done (char_cons_self '/' _), natural_append hdigits (hthird ▸ hle')
        fun c hc => (hrest c hc).1, hthird]
    have hslash : ∀ c, ('/' :: (thirds ++ rest)).head? = some c → Unicode.isDigit c = false := by
      intro c hc
      cases hc
      decide
    rw [datePart, bind_of_done (char_cons_self '/' _), Option.elim_some, List.cons_append,
      bind_of_done (hsecond' _ hslash), bind_of_done hsome, pure_apply]

/-- A part of a date in two digits or more. -/
theorem paddedDigits_two (n : Nat) : Decimal.IsDigits (Decimal.paddedDigits 2 n) ∧
    Decimal.natOfDigits (Decimal.paddedDigits 2 n) = n :=
  ⟨Decimal.isDigits_paddedDigits 2 n, Decimal.natOfDigits_paddedDigits 2 n⟩

/-- A number in front of the rest of a date. -/
theorem natural_slash {digits : List Char} (hdigits : Decimal.IsDigits digits)
    (hle : Decimal.natOfDigits digits ≤ greatestNatural) (s : List Char) :
    natural (digits ++ '/' :: s) = .done (Decimal.natOfDigits digits) ('/' :: s) :=
  natural_append hdigits hle fun c hc => by cases hc; decide

/-- A date without a year is read from its text. -/
theorem date_monthAndDay {month day : Nat} (hmonth : month ≤ greatestNatural)
    (hday : day ≤ greatestNatural) {rest : List Char}
    (hrest : ∀ c, rest.head? = some c → Unicode.isDigit c = false ∧ c ≠ '/') :
    date ((WrittenDate.text ⟨none, month, day⟩).toList ++ rest) =
      .done ⟨none, month, day⟩ rest := by
  obtain ⟨hmonths, hmonth'⟩ := paddedDigits_two month
  obtain ⟨hdays, hday'⟩ := paddedDigits_two day
  have hfirst := natural_slash hmonths (hmonth'.symm ▸ hmonth) (Decimal.paddedDigits 2 day ++ rest)
  have hpart : (datePart '/' <|> datePart '-') ('/' :: (Decimal.paddedDigits 2 day ++ rest)) =
      .done (day, none) rest :=
    orElse_of_done (@datePart_text _ _ none [] _ hdays hday' hday (by simp) hrest)
  rw [hmonth'] at hfirst
  refine checked_eq_done.mpr ⟨(month, day, none), ?_, rfl⟩
  rw [toList_text_monthAndDay, List.append_assoc, List.cons_append, bind_of_done hfirst,
    bind_of_done hpart]
  rfl

/-- A date with a year is read from its text. -/
theorem date_fullDate {year month day : Nat} (hyear : year ≤ greatestYear)
    (hmonth : month ≤ greatestNatural) (hday : day ≤ greatestNatural) {rest : List Char}
    (hrest : ∀ c, rest.head? = some c → Unicode.isDigit c = false ∧ c ≠ '/') :
    date ((WrittenDate.text ⟨some year, month, day⟩).toList ++ rest) =
      .done ⟨some year, month, day⟩ rest := by
  obtain ⟨hmonths, hmonth'⟩ := paddedDigits_two month
  obtain ⟨hdays, hday'⟩ := paddedDigits_two day
  have hyear' := Decimal.natOfDigits_toDigits year
  have hle : Decimal.natOfDigits (Nat.toDigits 10 year) ≤ greatestNatural := by
    rw [hyear']
    exact hyear.trans (by decide)
  have hfirst := natural_slash (Decimal.isDigits_toDigits year) hle
    (Decimal.paddedDigits 2 month ++ '/' :: (Decimal.paddedDigits 2 day ++ rest))
  have hpart : (datePart '/' <|> datePart '-') ('/' :: (Decimal.paddedDigits 2 month ++
      '/' :: (Decimal.paddedDigits 2 day ++ rest))) = .done (month, some day) rest := by
    refine orElse_of_done (@datePart_text _ _ (some day) _ _ hmonths hmonth' hmonth
      (fun third hthird => ?_) hrest)
    cases hthird
    exact ⟨hdays, hday', hday⟩
  rw [hyear'] at hfirst
  refine checked_eq_done.mpr ⟨(year, month, some day), ?_, if_pos hyear⟩
  simp only [toList_text_fullDate, List.append_assoc, List.cons_append]
  rw [bind_of_done hfirst, bind_of_done hpart]
  rfl

/-- A date is read from its text. -/
theorem date_text {d : WrittenDate} (hsource : d.InSource) {rest : List Char}
    (hrest : ∀ c, rest.head? = some c → Unicode.isDigit c = false ∧ c ≠ '/') :
    date (d.text.toList ++ rest) = .done d rest := by
  obtain ⟨year, month, day⟩ := d
  cases year with
  | none => exact date_monthAndDay hsource.month hsource.day hrest
  | some y =>
    obtain ⟨n, rfl, hn⟩ := hsource.year y rfl
    exact date_fullDate hn hsource.month hsource.day hrest

/-- Where no digit stands, no date can be read. -/
theorem fails_date {s : List Char} (h : ∀ c, s.head? = some c → Unicode.isDigit c = false) :
    Fails date s :=
  ((fails_natural h).bind _).checked _

/-- What has been read as a part of a date. -/
theorem datePart_eq_done {c : Char} (hc : isMark c = false) {s rest : List Char}
    {second : Nat} {third? : Option Nat} (h : datePart c s = .done (second, third?) rest) :
    second ≤ greatestNatural ∧ (∀ third ∈ third?, third ≤ greatestNatural) ∧
      marks s = marks rest := by
  obtain ⟨d, r₁, hd, h⟩ := bind_eq_done.mp h
  obtain ⟨n, r₂, hsecond, h⟩ := bind_eq_done.mp h
  obtain ⟨n?, r₃, hthird, hvalue⟩ := bind_eq_done.mp h
  cases hvalue
  obtain ⟨rfl, -⟩ := char_eq_done.mp hd
  have hle := natural_le hsecond
  rw [marks_cons hc, marks_natural hsecond]
  obtain ⟨third, hdone, rfl⟩ | ⟨-, rfl, rfl⟩ := optional_eq_done.mp hthird
  · obtain ⟨e, r, he, hnatural⟩ := bind_eq_done.mp hdone
    obtain ⟨rfl, -⟩ := char_eq_done.mp he
    refine ⟨hle, fun m hm => ?_, ?_⟩
    · cases hm
      exact natural_le hnatural
    · rw [marks_cons hc, marks_natural hnatural]
  · exact ⟨hle, by simp, rfl⟩

/-- What has been read as a date. -/
theorem date_eq_done {s rest : List Char} {d : WrittenDate} (h : date s = .done d rest) :
    d.InSource ∧ marks s = marks rest := by
  obtain ⟨numbers, h, hdate⟩ := checked_eq_done.mp h
  obtain ⟨first, r₁, hfirst, h⟩ := bind_eq_done.mp h
  obtain ⟨⟨second, third?⟩, r₂, hpart, hvalue⟩ := bind_eq_done.mp h
  cases hvalue
  obtain ⟨hsecond, hthird, hmarks⟩ : second ≤ greatestNatural ∧
      (∀ third ∈ third?, third ≤ greatestNatural) ∧ marks r₁ = marks rest := by
    obtain hpart | ⟨-, hpart⟩ := orElse_eq_done.mp hpart
    · exact datePart_eq_done rfl hpart
    · exact datePart_eq_done rfl hpart
  have hle := natural_le hfirst
  rw [marks_natural hfirst]
  refine ⟨?_, hmarks⟩
  cases third? with
  | none =>
    cases hdate
    exact ⟨hle, hsecond, by simp⟩
  | some third =>
    rw [dateOfNumbers] at hdate
    split_ifs at hdate with hyear
    cases hdate
    exact ⟨hsecond, hthird third rfl, by simpa using hyear⟩

/-! ## Titles -/

/-- The characters of a title: it does not end before its end. -/
def IsTitle (cs : List Char) : Prop :=
  ∀ b, b <:+ cs → b ≠ [] → endsTitle b = false

/-- Where a note begins behind a title. -/
theorem startsTrailingNote_iff {s : List Char} :
    startsTrailingNote s = true ↔
      (∃ t, s = '\t' :: ';' :: t) ∨ ∃ c t, s = ' ' :: c :: ';' :: t ∧ isSpace c = true := by
  constructor
  · intro h
    unfold startsTrailingNote at h
    split at h
    · exact .inl ⟨_, rfl⟩
    · exact .inr ⟨_, _, rfl, h⟩
    · cases h
  · rintro (⟨t, rfl⟩ | ⟨c, t, rfl, hc⟩)
    · rfl
    · exact hc

/-- Where a title ends, the line ends or a note begins. -/
theorem endsTitle_eq_false {c : Char} {s : List Char} :
    endsTitle (c :: s) = false ↔ startsTrailingNote (c :: s) = false ∧ isLineBreak c = false := by
  simp [endsTitle]

/-- A title that goes on in front of some text goes on by itself. -/
theorem endsTitle_of_append {b rest : List Char} (hne : b ≠ [])
    (h : endsTitle (b ++ rest) = false) : endsTitle b = false := by
  obtain ⟨c, b, rfl⟩ := List.exists_cons_of_ne_nil hne
  rw [List.cons_append, endsTitle_eq_false] at h
  refine endsTitle_eq_false.mpr ⟨?_, h.2⟩
  by_contra hnote
  rw [Bool.not_eq_false, startsTrailingNote_iff] at hnote
  have hmore : startsTrailingNote (c :: (b ++ rest)) = true := by
    rw [startsTrailingNote_iff]
    obtain ⟨t, ht⟩ | ⟨d, t, ht, hd⟩ := hnote
    · exact .inl ⟨t ++ rest, congrArg (· ++ rest) ht⟩
    · exact .inr ⟨d, t ++ rest, congrArg (· ++ rest) ht, hd⟩
  rw [h.1] at hmore
  cases hmore

/-- A title that goes on by itself goes on in front of the end of a line. -/
theorem endsTitle_append {b : List Char} (hne : b ≠ []) (h : endsTitle b = false)
    (s : List Char) : endsTitle (b ++ '\n' :: s) = false := by
  obtain ⟨c, b, rfl⟩ := List.exists_cons_of_ne_nil hne
  rw [endsTitle_eq_false] at h
  rw [List.cons_append]
  refine endsTitle_eq_false.mpr ⟨?_, h.2⟩
  by_contra hnote
  rw [Bool.not_eq_false, startsTrailingNote_iff] at hnote
  -- The note would have to begin in front of the line feed, and so would be seen without it.
  have hless : startsTrailingNote (c :: b) = true := by
    rw [startsTrailingNote_iff]
    obtain ⟨t, ht⟩ | ⟨d, t, ht, hd⟩ := hnote
    · cases b with
      | nil => simp at ht
      | cons e b =>
        simp only [List.cons_append, List.cons.injEq] at ht
        obtain ⟨rfl, rfl, -⟩ := ht
        exact .inl ⟨b, rfl⟩
    · rcases b with _ | ⟨e, _ | ⟨f, b⟩⟩
      · simp only [List.nil_append, List.cons.injEq] at ht
        obtain ⟨-, rfl, -⟩ := ht
        cases hd
      · simp at ht
      · simp only [List.cons_append, List.cons.injEq] at ht
        obtain ⟨rfl, rfl, rfl, -⟩ := ht
        exact .inr ⟨_, b, rfl, hd⟩
  rw [h.1] at hless
  cases hless

/-- A title is read up to the end of the line. -/
theorem title_append {text : String} (h : IsTitle text.toList) (s : List Char) :
    title (text.toList ++ '\n' :: s) = .done text ('\n' :: s) := by
  have hread : takeUntil endsTitle (text.toList ++ '\n' :: s) = .done text.toList ('\n' :: s) :=
    takeUntil_eq_done.mpr (splitWhere_eq_iff.mpr
      ⟨rfl, fun b hb hne => endsTitle_append hne (h b hb hne) s, .inr rfl⟩)
  rw [title, bind_of_done hread, pure_apply, String.ofList_toList]

/-- What a title has been read from. -/
theorem title_eq_done {s rest : List Char} {text : String} (h : title s = .done text rest) :
    IsTitle text.toList ∧ s = text.toList ++ rest := by
  obtain ⟨cs, r, hread, hvalue⟩ := bind_eq_done.mp h
  cases hvalue
  obtain ⟨hsplit, hgoes, -⟩ := splitWhere_eq_iff.mp (takeUntil_eq_done.mp hread)
  rw [String.toList_ofList]
  exact ⟨fun b hb hne => endsTitle_of_append hne (hgoes b hb hne), hsplit⟩

/-! ## First lines -/

/-- A status is read from its sign. -/
theorem status_symbol (status? : Status) (s : List Char) :
    status (status?.symbol.toList ++ s) = .done status? s := by
  cases status? <;> rfl

/-- No status can be read where no sign of one is. -/
theorem fails_status {s : List Char} (h : ∀ c, s.head? = some c → c ≠ '*' ∧ c ≠ '!') :
    Fails status s :=
  ((fails_char fun hc => (h _ hc).1 rfl).bind _).orElse
    ((fails_char fun hc => (h _ hc).2 rfl).bind _)

/-- What a status has been read from. -/
theorem status_eq_done {s rest : List Char} {found : Status} (h : status s = .done found rest) :
    s = found.symbol.toList ++ rest := by
  obtain h | ⟨-, h⟩ := orElse_eq_done.mp h
  · obtain ⟨c, r, hc, hvalue⟩ := bind_eq_done.mp h
    cases hvalue
    exact (char_eq_done.mp hc).1
  · obtain ⟨c, r, hc, hvalue⟩ := bind_eq_done.mp h
    cases hvalue
    exact (char_eq_done.mp hc).1

/-- The first lines that can be read. Where there is no status, the title does not begin like
one. -/
structure Header.InSource (h : Header) : Prop where
  date : h.date.InSource
  title : IsTitle h.title.toList
  noSpace : ∀ c, h.title.toList.head? = some c → isSpace c = false
  noStatus : h.status = none → ∀ c, h.title.toList.head? = some c → c ≠ '*' ∧ c ≠ '!'
  note : ∀ note ∈ h.note, IsLineText note.toList

/-- A title as it is written, with the blank in front. -/
def titleText (text : List Char) : List Char :=
  if text = [] then [] else ' ' :: text

/-- A first line as it is written, without its note. -/
def Header.line (h : Header) : List Char :=
  h.date.text.toList ++ ((h.status.elim [] fun found => ' ' :: found.symbol.toList) ++
    titleText h.title.toList)

/-- A title in front of the end of a line begins with a blank, or there is none. -/
theorem head?_titleText {text s : List Char} {c : Char}
    (h : (titleText text ++ '\n' :: s).head? = some c) : c = ' ' ∨ c = '\n' := by
  unfold titleText at h
  split_ifs at h <;> cases h
  · exact .inr rfl
  · exact .inl rfl

/-- A title behind its blank. -/
theorem trimmed_titleText {text : List Char} (h : ∀ c, text.head? = some c → isSpace c = false)
    (s : List Char) : trimmed (titleText text ++ '\n' :: s) = text ++ '\n' :: s := by
  unfold titleText
  split_ifs with hnil
  · rw [hnil]
    rfl
  · rw [List.cons_append, trimmed_space, trimmed_run hnil h]

/-- A status, if there is one, is read in front of the title. -/
theorem optional_status {h : Header} (hsource : h.InSource) (s : List Char) :
    lexeme (optional status) (trimmed ((h.status.elim [] fun found => ' ' :: found.symbol.toList) ++
      (titleText h.title.toList ++ '\n' :: s))) =
        .done h.status (h.title.toList ++ '\n' :: s) := by
  have htrim := trimmed_titleText hsource.noSpace s
  set back := titleText h.title.toList ++ '\n' :: s
  cases hstatus : h.status with
  | none =>
    have hnone : optional status (trimmed back) = .done none (trimmed back) := by
      refine optional_of_fails (fails_status fun c hc => ?_)
      rw [htrim] at hc
      by_cases hnil : h.title.toList = []
      · rw [hnil] at hc
        cases hc
        decide
      · rw [List.head?_append_of_ne_nil _ hnil] at hc
        exact hsource.noStatus hstatus c hc
    rw [Option.elim_none, List.nil_append, lexeme_of_done hnone, trimmed_trimmed, htrim]
  | some found =>
    have hsign : trimmed (' ' :: (found.symbol.toList ++ back)) = found.symbol.toList ++ back := by
      cases found <;> rfl
    rw [Option.elim_some, List.cons_append, hsign,
      lexeme_of_done (optional_of_done (status_symbol found back)), htrim]

/-- A first line is read from its text. -/
theorem header_line {h : Header} (hsource : h.InSource) (hnote : h.note = none) (s : List Char) :
    header (h.line ++ '\n' :: s) = .done h ('\n' :: s) := by
  have hdate : lexeme date (h.line ++ '\n' :: s) =
      .done h.date (trimmed ((h.status.elim [] fun found => ' ' :: found.symbol.toList) ++
        (titleText h.title.toList ++ '\n' :: s))) := by
    rw [Header.line, List.append_assoc, List.append_assoc]
    refine lexeme_of_done (date_text hsource.date fun c hc => ?_)
    cases hstatus : h.status with
    | none =>
      rw [hstatus] at hc
      rcases head?_titleText hc with rfl | rfl <;> decide
    | some found =>
      rw [hstatus] at hc
      cases hc
      decide
  have hspacer : Fails spacer ('\n' :: s) := ⟨_, rfl⟩
  have hnone : optional (do spacer; noteBody) ('\n' :: s) = .done none ('\n' :: s) :=
    optional_of_fails (hspacer.bind _)
  rw [header, bind_of_done hdate, bind_of_done (optional_status hsource s),
    bind_of_done (title_append hsource.title s), bind_of_done hnone, pure_apply, ← hnote]

/-- What separates two fields has no marks. -/
theorem marks_spacer {s rest : List Char} {u : Unit} (h : spacer s = .done u rest) :
    marks s = marks rest := by
  unfold spacer at h
  split at h
  · cases h
    exact marks_cons rfl _
  · split_ifs at h with hspace
    cases h
    rw [marks_cons rfl, marks_cons (isMark_of_isSpace hspace)]
  · cases h
  · cases h

/-- What has been read as a first line. -/
theorem header_eq_done {s rest : List Char} {h : Header} (hread : header s = .done h rest) :
    h.InSource ∧ marks s = marks h.title.toList +
      (h.note.toList.map fun note => marks note.toList).sum + marks rest := by
  obtain ⟨date, r₁, hdate, hread⟩ := bind_eq_done.mp hread
  obtain ⟨found, r₂, hstatus, hread⟩ := bind_eq_done.mp hread
  obtain ⟨text, r₃, htitle, hread⟩ := bind_eq_done.mp hread
  obtain ⟨note, r₄, hnote, hvalue⟩ := bind_eq_done.mp hread
  cases hvalue
  obtain ⟨d, hdone, rfl⟩ := lexeme_eq_done.mp hdate
  obtain ⟨f, hfound, rfl⟩ := lexeme_eq_done.mp hstatus
  obtain ⟨hsource, hmarks⟩ := date_eq_done hdone
  obtain ⟨htext, hsplit⟩ := title_eq_done htitle
  have hhead (c : Char) (hc : text.toList.head? = some c) : (trimmed f).head? = some c := by
    rw [hsplit, List.head?_append, hc]
    rfl
  obtain ⟨hnone, hsign⟩ : (found = none → trimmed f = trimmed d ∧ Fails status (trimmed d)) ∧
      marks (trimmed d) = marks f := by
    obtain ⟨st, hst, rfl⟩ | ⟨hfails, rfl, rfl⟩ := optional_eq_done.mp hfound
    · have hsymbol : marks st.symbol.toList = 0 := by cases st <;> rfl
      refine ⟨fun h => (Option.some_ne_none _ h).elim, ?_⟩
      rw [status_eq_done hst, marks_append, hsymbol, Nat.zero_add]
    · exact ⟨fun _ => ⟨trimmed_trimmed d, hfails⟩, rfl⟩
  have hbody : (∀ n ∈ note, IsLineText n.toList) ∧
      marks r₃ = (note.toList.map fun note => marks note.toList).sum + marks rest := by
    obtain ⟨n, hn, rfl⟩ | ⟨-, rfl, rfl⟩ := optional_eq_done.mp hnote
    · obtain ⟨u, r, hspacer, hn⟩ := bind_eq_done.mp hn
      obtain ⟨hline, hmarks⟩ := noteBody_eq_done hn
      exact ⟨by simpa using hline, by simpa [marks_spacer hspacer] using hmarks⟩
    · exact ⟨by simp, by simp⟩
  refine ⟨⟨hsource, htext, fun c hc => isSpace_head?_trimmed (hhead c hc), fun h c hc => ?_,
    hbody.1⟩, ?_⟩
  · obtain ⟨htrim, hfails⟩ := hnone h
    have hc' := hhead c hc
    rw [htrim] at hc'
    rw [fails_iff] at hfails
    cases hd : trimmed d with
    | nil =>
      rw [hd] at hc'
      cases hc'
    | cons e t =>
      rw [hd] at hc' hfails
      cases hc'
      constructor
      · rintro rfl
        exact hfails _ _ (status_symbol .cleared t)
      · rintro rfl
        exact hfails _ _ (status_symbol .pending t)
  · rw [hmarks, ← marks_trimmed d, hsign, ← marks_trimmed f, hsplit, marks_append, hbody.2]
    dsimp only
    omega

end Grammar

end Daybook
