import Daybook.Proofs.Grammar.Source

set_option relaxedAutoImplicit false
set_option autoImplicit false

/-!
# Statements that are read from their own text

Statements need not have been read from a source to be written. Whether those that are written are
read again as they were depends on the texts and the numbers in them alone, whatever the indent is
and whatever symbols made of letters are known besides the standard ones.

## Main definitions

* `IsAccountName`, `IsTitleText`, `IsIdentifier` — the form of account names, titles and names.
* `Expression.WellFormed`, `Posting.WellFormed`, `Transaction.WellFormed`, `Rule.WellFormed`,
  `Statement.WellFormed` — what the parts of a statement have to look like.

## Main results

* `isAccountName_iff`, `accountWellFormed_iff`, `isTitleText_iff` — the forms are those that the
  grammar asks for.
* `Statement.wellFormed_iff` — a well-formed statement can be read, and its text says all of it.
* `parse_sourceText_eq_iff` — which statements are read from their own text.
-/

namespace Daybook

open Grammar Grammar.Parser

/-! ## The form of the parts -/

/-- The characters of an account name. There is one at least, and all blanks among them are single
spaces between two characters that are no blanks. -/
structure IsAccountName (name : List Char) : Prop where
  ne_nil : name ≠ []
  singleSpaces : ∀ before c after, name = before ++ c :: after → Unicode.isBlank c = true →
    c = ' ' ∧ (∃ front d, before = front ++ [d] ∧ Unicode.isBlank d = false) ∧
      ∃ d back, after = d :: back ∧ Unicode.isBlank d = false

/-- The characters of a title, which stand in one line: it does not begin with a blank, and it has
no semicolon behind a tab, nor behind a space and a further blank. -/
structure IsTitleText (title : List Char) : Prop where
  lineText : IsLineText title
  noTab : ∀ before after, title ≠ before ++ '\t' :: ';' :: after
  noBlanks : ∀ before c after, isSpace c = true → title ≠ before ++ ' ' :: c :: ';' :: after

/-- The characters of a name. -/
structure IsIdentifier (name : List Char) : Prop where
  ne_nil : name ≠ []
  identifier : ∀ c ∈ name, isIdentifierChar c = true

instance (name : List Char) : Decidable (IsIdentifier name) :=
  decidable_of_iff (name.isEmpty = false ∧ name.all isIdentifierChar = true)
    ⟨fun h => ⟨List.isEmpty_eq_false_iff.mp h.1, List.all_eq_true.mp h.2⟩,
      fun h => ⟨List.isEmpty_eq_false_iff.mpr h.ne_nil, List.all_eq_true.mpr h.identifier⟩⟩

/-- A date whose year has at most 31 bits, and whose month and day have at most 32. -/
structure WrittenDate.WellFormed (d : WrittenDate) : Prop where
  year : ∀ y ∈ d.year, 0 ≤ y ∧ y ≤ greatestYear
  month : d.month ≤ greatestNatural
  day : d.day ≤ greatestNatural

/-- A finite number of a commodity of the lexicon, or of none. -/
structure Amount.WellFormed (lexicon : Lexicon) (a : Amount) : Prop where
  finite : a.number.isFinite = true
  symbol : ∀ symbol, a.commodity = .known symbol → symbol ∈ lexicon.symbols

/-- Every literal can be told from what is around it, and every name from a literal. -/
def Expression.WellFormed (lexicon : Lexicon) : Expression → Prop
  | .amount value => value.WellFormed lexicon
  | .bool _ => True
  | .string text => '"' ∉ text.toList
  | .regex pattern => '/' ∉ pattern.toList
  | .name identifier => IsName lexicon identifier.toList
  | .binary _ left right => left.WellFormed lexicon ∧ right.WellFormed lexicon

/-- An account as it is written, and not in brackets of its own. -/
structure AccountWellFormed (account : String) (isVirtual : Bool) : Prop where
  name : IsAccountName (accountText account isVirtual).toList
  noBrackets : isVirtual = false → ∀ inner, account.toList ≠ '[' :: (inner ++ [']'])

/-- The parts of a posting are well-formed, its account does not look like a note, and there is a
value if there is a cost or a balance. -/
structure Posting.WellFormed (lexicon : Lexicon) (p : Posting) : Prop where
  account : AccountWellFormed p.account p.isVirtual
  noNote : p.isVirtual = false → p.account.toList.head? ≠ some ';'
  value : ∀ e ∈ p.value, e.WellFormed lexicon
  cost : ∀ c ∈ p.cost, c.amount.WellFormed lexicon
  balance : ∀ a ∈ p.balance, a.WellFormed lexicon
  hasValue : p.value = none → p.cost = none ∧ p.balance = none
  notes : ∀ note ∈ p.notes, IsLineText note.toList

/-- The parts of a transaction are well-formed, its title does not look like a status where there is
none, and there is a note or a posting. -/
structure Transaction.WellFormed (lexicon : Lexicon) (t : Transaction) : Prop where
  date : t.date.WellFormed
  title : IsTitleText t.title.toList
  noStatus : t.status = none → ∀ c, t.title.toList.head? = some c → c ≠ '*' ∧ c ≠ '!'
  notes : ∀ note ∈ t.notes, IsLineText note.toList
  postings : ∀ p ∈ t.postings, p.WellFormed lexicon
  hasLines : t.notes ≠ [] ∨ t.postings ≠ []

/-- The account and the value of a template are well-formed. -/
structure Template.WellFormed (lexicon : Lexicon) (t : Template) : Prop where
  account : AccountWellFormed t.account t.isVirtual
  value : t.value.WellFormed lexicon

/-- The condition and the templates of a rule are well-formed, and there is a template. -/
structure Rule.WellFormed (lexicon : Lexicon) (r : Rule) : Prop where
  condition : r.condition.WellFormed lexicon
  templates : ∀ t ∈ r.templates, t.WellFormed lexicon
  hasTemplates : r.templates ≠ []

/-- The parts of a statement are well-formed. -/
def Statement.WellFormed (lexicon : Lexicon) : Statement → Prop
  | .year y => 0 ≤ y ∧ y ≤ greatestYear
  | .definition name e => IsIdentifier name.toList ∧ e.WellFormed lexicon
  | .account name => IsAccountName name.toList
  | .commodity name => name.toList ≠ [] ∧ ∀ c ∈ name.toList, Unicode.isBlank c = false
  | .tag name => IsIdentifier name.toList
  | .comment text => IsLineText text.toList
  | .transaction t => t.WellFormed lexicon
  | .rule r => r.WellFormed lexicon

/-! ## Account names -/

/-- An account name goes on at a character that is no blank, and at a space in front of one. -/
theorem Grammar.endsAccount_cons_eq_false {c : Char} {s : List Char} :
    endsAccount (c :: s) = false ↔ Unicode.isBlank c = true →
      c = ' ' ∧ ∃ d back, s = d :: back ∧ Unicode.isBlank d = false := by
  cases s with
  | nil => simp [endsAccount]
  | cons d s => cases hc : Unicode.isBlank c <;> simp [endsAccount, hc]

/-- An account name goes on wherever it is followed to exactly if its blanks are single spaces. -/
theorem isAccountName_iff {name : List Char} : IsAccountName name ↔ IsAccount name := by
  constructor
  · rintro ⟨hne, hsingle⟩
    refine ⟨hne, fun c hc => ?_, fun b hb hne' rest => ?_⟩
    · by_contra hblank
      obtain ⟨back, rfl⟩ := List.head?_eq_some_iff.mp hc
      obtain ⟨-, ⟨front, d, hnil, -⟩, -⟩ :=
        hsingle [] c back rfl (Bool.not_eq_false _ ▸ hblank)
      simp at hnil
    · obtain ⟨before, rfl⟩ := hb
      obtain ⟨c, after, rfl⟩ := List.exists_cons_of_ne_nil hne'
      refine endsAccount_cons_eq_false.mpr fun hblank => ?_
      obtain ⟨hspace, -, d, back, rfl, hd⟩ := hsingle before c after rfl hblank
      exact ⟨hspace, d, back ++ rest, rfl, hd⟩
  · intro h
    refine ⟨h.ne_nil, ?_⟩
    rintro before c after rfl hblank
    have hgoesOn := h.goesOn (c :: after) (List.suffix_append _ _) (by simp) []
    rw [List.append_nil] at hgoesOn
    obtain ⟨hspace, hback⟩ := endsAccount_cons_eq_false.mp hgoesOn hblank
    refine ⟨hspace, ?_, hback⟩
    -- The character in front is no blank, since it would end the name in front of this one.
    obtain rfl | ⟨front, d, rfl⟩ := List.eq_nil_or_concat' before
    · rw [h.noBlank c rfl] at hblank
      cases hblank
    · refine ⟨front, d, rfl, ?_⟩
      by_contra hd
      have hfront := h.goesOn (d :: c :: after) ⟨front, by simp⟩ (by simp) []
      rw [List.append_nil] at hfront
      obtain ⟨-, e, back, he, hnot⟩ :=
        endsAccount_cons_eq_false.mp hfront (Bool.not_eq_false _ ▸ hd)
      cases he
      rw [hnot] at hblank
      cases hblank

/-- A virtual account is told by its brackets. Any other is told by not having both. -/
theorem bracketed_accountText_iff {account : String} {isVirtual : Bool} :
    bracketed (accountText account isVirtual).toList = (account, isVirtual) ↔
      (isVirtual = false → ∀ inner, account.toList ≠ '[' :: (inner ++ [']'])) := by
  cases isVirtual with
  | true =>
    have htext : (accountText account true).toList = '[' :: (account.toList ++ [']']) := by
      simp [accountText]
    simp [htext, bracketed]
  | false =>
    have htext : (accountText account false).toList = account.toList := rfl
    rw [htext]
    constructor
    · rintro h - inner hinner
      rw [hinner] at h
      simp [bracketed] at h
    · intro h
      unfold bracketed
      split
      · rename_i inner hinner
        split_ifs with hlast
        · obtain ⟨front, rfl⟩ := List.getLast?_eq_some_iff.mp hlast
          exact absurd hinner (h rfl front)
        · rw [← hinner, String.ofList_toList]
      · rw [String.ofList_toList]

/-- The accounts that can be read are the well-formed ones. -/
theorem accountWellFormed_iff {account : String} {isVirtual : Bool} :
    AccountWellFormed account isVirtual ↔ AccountInSource account isVirtual := by
  rw [AccountInSource, ← isAccountName_iff, bracketed_accountText_iff]
  exact ⟨fun h => ⟨h.name, h.noBrackets⟩, fun h => ⟨h.1, h.2⟩⟩

/-- A virtual account does not look like a note, since its brackets come first. -/
theorem head?_accountText_iff {account : String} {isVirtual : Bool} :
    (accountText account isVirtual).toList.head? ≠ some ';' ↔
      (isVirtual = false → account.toList.head? ≠ some ';') := by
  cases isVirtual with
  | true => simp [accountText]
  | false => exact ⟨fun h _ => h, fun h => h rfl⟩

/-! ## First lines -/

/-- A title goes on wherever it is followed to, and does not begin with a blank, exactly if it is in
one line and no note begins within it. -/
theorem isTitleText_iff {title : List Char} : IsTitleText title ↔
    IsTitle title ∧ ∀ c, title.head? = some c → isSpace c = false := by
  constructor
  · rintro ⟨hline, htab, hblanks⟩
    refine ⟨fun b hb hne => ?_, hline.noSpace⟩
    obtain ⟨before, rfl⟩ := hb
    obtain ⟨c, after, rfl⟩ := List.exists_cons_of_ne_nil hne
    refine endsTitle_eq_false.mpr ⟨?_, hline.noLineBreak c (by simp)⟩
    by_contra hnote
    rw [Bool.not_eq_false, startsTrailingNote_iff] at hnote
    obtain ⟨t, ht⟩ | ⟨d, t, ht, hd⟩ := hnote
    · exact htab before t (by rw [ht])
    · exact hblanks before d t hd (by rw [ht])
  · rintro ⟨htitle, hspace⟩
    refine ⟨⟨fun c hc => ?_, hspace⟩, ?_, ?_⟩
    · obtain ⟨before, after, rfl⟩ := List.append_of_mem hc
      exact (endsTitle_eq_false.mp (htitle _ (List.suffix_append _ _) (by simp))).2
    · rintro before after rfl
      have hends := htitle _ (List.suffix_append _ _) (by simp)
      exact absurd (endsTitle_eq_false.mp hends).1 (by simp [startsTrailingNote])
    · rintro before c after hc rfl
      have hends := htitle _ (List.suffix_append _ _) (by simp)
      exact absurd (endsTitle_eq_false.mp hends).1 (by simp [startsTrailingNote, hc])

/-- A year that is not negative is a natural number. -/
theorem year_iff {y : Int} : 0 ≤ y ∧ y ≤ greatestYear ↔ ∃ n : Nat, y = n ∧ n ≤ greatestYear := by
  constructor
  · rintro ⟨hpositive, hle⟩
    obtain ⟨n, rfl⟩ := Int.eq_ofNat_of_zero_le hpositive
    exact ⟨n, rfl, Int.ofNat_le.mp hle⟩
  · rintro ⟨n, rfl, hle⟩
    exact ⟨Int.natCast_nonneg n, Int.ofNat_le.mpr hle⟩

/-- The dates that can be read are the well-formed ones. -/
theorem WrittenDate.wellFormed_iff {d : WrittenDate} : d.WellFormed ↔ d.InSource :=
  ⟨fun h => ⟨h.month, h.day, fun y hy => year_iff.mp (h.year y hy)⟩,
    fun h => ⟨fun y hy => year_iff.mpr (h.year y hy), h.month, h.day⟩⟩

/-! ## Expressions -/

variable {lexicon : Lexicon}

/-- A well-formed amount can be read, and its number is finite. -/
theorem Amount.wellFormed_iff {a : Amount} :
    a.WellFormed lexicon ↔ a.InSource lexicon ∧ a.number.isFinite = true :=
  ⟨fun h => ⟨h.symbol, h.finite⟩, fun h => ⟨h.2, h.1⟩⟩

/-- A well-formed expression can be read, and its text says all of it. -/
theorem Expression.wellFormed_iff {e : Expression} :
    e.WellFormed lexicon ↔ e.InSource lexicon ∧ e.Writable := by
  induction e with
  | amount value => exact Amount.wellFormed_iff
  | bool value => exact ⟨fun _ => ⟨trivial, trivial⟩, fun _ => trivial⟩
  | string text => exact ⟨fun h => ⟨trivial, h⟩, fun h => h.2⟩
  | regex pattern => exact ⟨fun h => ⟨h, trivial⟩, fun h => h.1⟩
  | name identifier => exact ⟨fun h => ⟨h, trivial⟩, fun h => h.1⟩
  | binary o left right ihleft ihright =>
    rw [WellFormed, InSource, Writable, ihleft, ihright]
    exact and_and_and_comm

/-! ## Transactions and rules -/

/-- A well-formed posting can be read, and its text says all of it. -/
theorem Posting.wellFormed_iff {p : Posting} :
    p.WellFormed lexicon ↔ p.InSource lexicon ∧ p.Writable ∧ p.Separable := by
  constructor
  · intro h
    refine ⟨⟨accountWellFormed_iff.mp h.account, head?_accountText_iff.mpr h.noNote,
      fun e he => (Expression.wellFormed_iff.mp (h.value e he)).1, fun c hc => (h.cost c hc).symbol,
      fun a ha => (h.balance a ha).symbol, h.notes⟩, ?_, h.hasValue⟩
    exact ⟨fun e he => (Expression.wellFormed_iff.mp (h.value e he)).2,
      fun c hc => (h.cost c hc).finite, fun a ha => (h.balance a ha).finite⟩
  · rintro ⟨hsource, hwritable, hseparable⟩
    exact
      { account := accountWellFormed_iff.mpr hsource.account
        noNote := head?_accountText_iff.mp hsource.noNote
        value := fun e he =>
          Expression.wellFormed_iff.mpr ⟨hsource.value e he, hwritable.value e he⟩
        cost := fun c hc => ⟨hwritable.cost c hc, hsource.cost c hc⟩
        balance := fun a ha => ⟨hwritable.balance a ha, hsource.balance a ha⟩
        hasValue := hseparable
        notes := hsource.notes }

/-- A well-formed transaction can be read, and its text says all of it. -/
theorem Transaction.wellFormed_iff {t : Transaction} : t.WellFormed lexicon ↔
    t.InSource lexicon ∧ t.Writable ∧ ∀ p ∈ t.postings, p.Separable := by
  constructor
  · intro h
    obtain ⟨htitle, hspace⟩ := isTitleText_iff.mp h.title
    have hpostings (p : Posting) (hp : p ∈ t.postings) :=
      Posting.wellFormed_iff.mp (h.postings p hp)
    have hheader : t.header.InSource :=
      ⟨WrittenDate.wellFormed_iff.mp h.date, htitle, hspace, h.noStatus, by simp [header]⟩
    exact ⟨⟨hheader, h.notes, fun p hp => (hpostings p hp).1, h.hasLines⟩,
      fun p hp => (hpostings p hp).2.1, fun p hp => (hpostings p hp).2.2⟩
  · rintro ⟨hsource, hwritable, hseparable⟩
    exact
      { date := WrittenDate.wellFormed_iff.mpr hsource.header.date
        title := isTitleText_iff.mpr ⟨hsource.header.title, hsource.header.noSpace⟩
        noStatus := hsource.header.noStatus
        notes := hsource.notes
        postings := fun p hp => Posting.wellFormed_iff.mpr
          ⟨hsource.postings p hp, hwritable p hp, hseparable p hp⟩
        hasLines := hsource.hasLines }

/-- A well-formed rule can be read, and its text says all of it. -/
theorem Rule.wellFormed_iff {r : Rule} :
    r.WellFormed lexicon ↔ r.InSource lexicon ∧ r.Writable := by
  constructor
  · intro h
    obtain ⟨hcondition, hcondition'⟩ := Expression.wellFormed_iff.mp h.condition
    have htemplates (t : Template) (ht : t ∈ r.templates) :=
      Expression.wellFormed_iff.mp (h.templates t ht).value
    exact ⟨⟨hcondition, fun t ht => ⟨accountWellFormed_iff.mp (h.templates t ht).account,
      (htemplates t ht).1⟩, h.hasTemplates⟩, hcondition', fun t ht => (htemplates t ht).2⟩
  · rintro ⟨hsource, hwritable⟩
    refine ⟨Expression.wellFormed_iff.mpr ⟨hsource.condition, hwritable.condition⟩,
      fun t ht => ?_, hsource.hasTemplates⟩
    exact ⟨accountWellFormed_iff.mpr (hsource.templates t ht).account,
      Expression.wellFormed_iff.mpr ⟨(hsource.templates t ht).value, hwritable.templates t ht⟩⟩

/-! ## Statements -/

/-- A well-formed statement can be read, and its text says all of it. -/
theorem Statement.wellFormed_iff {st : Statement} :
    st.WellFormed lexicon ↔ st.InSource lexicon ∧ st.Faithful := by
  have hplain {P : Prop} : P ↔ P ∧ True ∧ True := by simp
  have hwritable {P Q : Prop} : P ∧ Q ↔ P ∧ Q ∧ True := by simp
  cases st with
  | year y => exact year_iff.trans hplain
  | definition name e =>
    have hname : IsIdentifier name.toList ↔
        name.toList ≠ [] ∧ ∀ c ∈ name.toList, isIdentifierChar c = true :=
      ⟨fun h => ⟨h.1, h.2⟩, fun h => ⟨h.1, h.2⟩⟩
    rw [WellFormed, Expression.wellFormed_iff, hname]
    exact and_assoc.symm.trans hwritable
  | account name => exact isAccountName_iff.trans hplain
  | commodity name => exact hplain
  | tag name => exact Iff.trans ⟨fun h => ⟨h.1, h.2⟩, fun h => ⟨h.1, h.2⟩⟩ hplain
  | comment text => exact hplain
  | transaction t => exact Transaction.wellFormed_iff
  | rule r => exact Rule.wellFormed_iff.trans hwritable

variable {indent : String} {sts : List Statement}

/-- Statements are read from their own text exactly if all of them are well-formed. -/
theorem parse_sourceText_eq_iff [lexicon.Alphabetic] (hne : indent.toList ≠ [])
    (hindent : ∀ c ∈ indent.toList, isSpace c = true) :
    parse lexicon (sourceText indent sts) = .ok sts ↔ ∀ st ∈ sts, st.WellFormed lexicon := by
  constructor
  · intro hparse
    obtain ⟨hsource, -⟩ := statements_eq (parse_eq_ok_iff.mp hparse)
    have hwritable := writable_of_weight hindent hparse (Nat.le_refl _)
    have hreread := hparse
    rw [parse_sourceText hne hindent hsource hwritable] at hreread
    intro st hst
    have hsame : st.reread = st :=
      List.map_inj_left.mp ((Except.ok.inj hreread).trans (List.map_id sts).symm) st hst
    refine Statement.wellFormed_iff.mpr ⟨hsource st hst, hwritable st hst,
      Statement.separable_of_beq ?_⟩
    rw [hsame]
    exact Statement.beq_self (hwritable st hst)
  · intro h
    have hall (st : Statement) (hst : st ∈ sts) := Statement.wellFormed_iff.mp (h st hst)
    rw [parse_sourceText hne hindent (fun st hst => (hall st hst).1) fun st hst =>
      (hall st hst).2.1]
    refine congrArg _ ((List.map_congr_left fun st hst => ?_).trans (List.map_id _))
    exact Statement.reread_of_separable (hall st hst).1 (hall st hst).2.2

/-- Well-formed statements with the same text are the same. -/
theorem eq_of_sourceText_eq [lexicon.Alphabetic] (hne : indent.toList ≠ [])
    (hindent : ∀ c ∈ indent.toList, isSpace c = true) {sts' : List Statement}
    (h : ∀ st ∈ sts, st.WellFormed lexicon) (h' : ∀ st ∈ sts', st.WellFormed lexicon)
    (htext : sourceText indent sts = sourceText indent sts') : sts = sts' := by
  have hread := (parse_sourceText_eq_iff hne hindent).mpr h
  rw [htext, (parse_sourceText_eq_iff hne hindent).mpr h'] at hread
  exact (Except.ok.inj hread).symm

/-- Where the standard symbols and some more that are made of letters are known, statements are read
from their own text exactly if all of them are well-formed. -/
theorem parse_sourceText_ofSymbols_iff {symbols : List String}
    (hsymbols : ∀ symbol ∈ symbols, ∀ c ∈ symbol.toList, c.isAlpha = true)
    (hne : indent.toList ≠ []) (hindent : ∀ c ∈ indent.toList, isSpace c = true) :
    parse (.ofSymbols symbols) (sourceText indent sts) = .ok sts ↔
      ∀ st ∈ sts, st.WellFormed (.ofSymbols symbols) := by
  have halphabetic := Lexicon.alphabetic_ofSymbols hsymbols
  exact parse_sourceText_eq_iff hne hindent

/-- Hours of work with a price, on account of a customer in brackets, and a rule that books every
long day. -/
def timesheet : List Statement :=
  [.rule
    { condition := .binary .and
        (.binary .matching (.name "account") (.regex "^Work"))
        (.binary .greater (.name "amount") (.amount ⟨8, .known "h"⟩)),
      templates := [⟨"Long days", .string "it's late", false⟩] },
   .transaction
    { date := ⟨none, 1, 31⟩, status := some .pending, title := "* Review; urgent",
      notes := ["evening"],
      postings :=
       [{ account := "Work:Client A", value := some (.amount ⟨-9.5, .known "h"⟩),
          cost := some ⟨.perUnit, ⟨60, .known "EUR"⟩⟩, balance := none, isVirtual := false,
          notes := [] },
        { account := " Client A ", value := none, cost := none, balance := none,
          isVirtual := true, notes := ["due"] }] }]

/-- The statements of `timesheet` are well-formed and are read from their own text. -/
theorem parse_sourceText_ofSymbols_iff_timesheet :
    (∀ st ∈ timesheet, st.WellFormed (.ofSymbols ["h", "hours"])) ∧
      parse (.ofSymbols ["h", "hours"]) (sourceText " \t" timesheet) = .ok timesheet := by
  have hread : parse (.ofSymbols ["h", "hours"]) (sourceText " \t" timesheet) = .ok timesheet := by
    decide +kernel
  have hsymbols : ∀ symbol ∈ ["h", "hours"], symbol.toList.all Char.isAlpha = true := by decide
  have hletters : ∀ symbol ∈ ["h", "hours"], ∀ c ∈ symbol.toList, c.isAlpha = true :=
    fun symbol hsymbol => List.all_eq_true.mp (hsymbols symbol hsymbol)
  exact ⟨(parse_sourceText_ofSymbols_iff hletters (by decide)
    (List.all_iff_forall_prop.mp (by decide))).mp hread, hread⟩

end Daybook
