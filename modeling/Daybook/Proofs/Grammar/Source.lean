import Daybook.Grammar.Source
import Daybook.Proofs.Grammar.Comparison
import Daybook.Proofs.Grammar.Progress

set_option relaxedAutoImplicit false
set_option autoImplicit false

/-!
# Sources that are written and read again

Writing the statements of a source and reading the text gives the same statements, unless one of
three things is among them: a number that is not finite, a string with a double quote, or a posting
that has a cost or a balance but no value. Each of them is read from some source, and none of them
from the text that is written for it.

## Main definitions

* `Posting.Separable` — whether the account name can be told from what follows it.
* `Statement.Faithful` — none of the three things is in a statement.

## Main results

* `Grammar.statements_eq` — what has been read as a source.
* `parse_sourceText` — what is read from the text of statements with finite numbers and without
  double quotes.
* `parse_sourceText_iff` — the statements that are read again as they were.

## Design

One direction follows the grammar through the text. For the other one marks are counted: the text
of a number that is not finite or of a string with a double quote has marks that are not passed over
for any equal statement, and so nothing that equals all the statements can have been read from it.
-/

namespace Daybook

open Grammar Grammar.Parser

variable {lexicon : Lexicon}

/-! ## Faithful statements -/

namespace Posting

/-- A posting without a value has neither a cost nor a balance, which would be taken for a part of
the account name. -/
def Separable (p : Posting) : Prop :=
  p.value = none → p.cost = none ∧ p.balance = none

instance : DecidablePred Separable := fun p =>
  inferInstanceAs (Decidable (p.value = none → p.cost = none ∧ p.balance = none))

/-- A separable posting is read from its line. -/
theorem reread_of_separable {p : Posting} (hsource : p.InSource lexicon) (h : p.Separable) :
    p.reread = p := by
  obtain ⟨account, value, cost, balance, isVirtual, notes⟩ := p
  cases value with
  | some e => rfl
  | none =>
    obtain ⟨rfl, rfl⟩ : cost = none ∧ balance = none := h rfl
    have hline : (Posting.mk account none none none isVirtual notes).line =
        (accountText account isVirtual).toList := by
      rw [line, tail]
      exact List.append_nil _
    have hbracketed : bracketed (accountText account isVirtual).toList = (account, isVirtual) :=
      hsource.account.2
    rw [reread]
    dsimp only
    rw [hline, hbracketed]

/-- A posting that equals what is read from its line is separable. -/
theorem separable_of_beq {p : Posting} (h : (p.reread == p) = true) : p.Separable := by
  intro hvalue
  obtain ⟨-, -, hcost, hbalance, -, -⟩ := beq_iff.mp h
  rw [reread, hvalue] at hcost hbalance
  constructor
  · cases hp : p.cost with
    | none => rfl
    | some c =>
      rw [hp] at hcost
      cases hcost
  · cases hp : p.balance with
    | none => rfl
    | some a =>
      rw [hp] at hbalance
      cases hbalance

end Posting

namespace Statement

/-- All postings of a statement are separable. -/
def Separable : Statement → Prop
  | transaction t => ∀ p ∈ t.postings, p.Separable
  | _ => True

instance : DecidablePred Separable
  | transaction t => inferInstanceAs (Decidable (∀ p ∈ t.postings, p.Separable))
  | year _ | definition _ _ | account _ | commodity _ | tag _ | comment _ | rule _ =>
    inferInstanceAs (Decidable True)

/-- Every number of a statement is finite, no string has a double quote, and no posting has a cost
or a balance without a value. -/
def Faithful (st : Statement) : Prop :=
  st.Writable ∧ st.Separable

instance : DecidablePred Faithful := fun st =>
  inferInstanceAs (Decidable (st.Writable ∧ st.Separable))

/-- A separable statement is read from its text. -/
theorem reread_of_separable {st : Statement} (hsource : st.InSource lexicon) (h : st.Separable) :
    st.reread = st := by
  cases st with
  | transaction t =>
    have hpostings : t.postings.map Posting.reread = t.postings :=
      (List.map_congr_left fun p hp =>
        Posting.reread_of_separable (hsource.postings p hp) (h p hp)).trans (List.map_id _)
    rw [reread, Transaction.reread, hpostings]
  | _ => rfl

/-- A statement that equals what is read from its text is separable. -/
theorem separable_of_beq {st : Statement} (h : (st.reread == st) = true) : st.Separable := by
  cases st with
  | transaction t =>
    have h : (t.reread == t) = true := h
    obtain ⟨-, -, -, -, hpostings⟩ := Transaction.beq_iff.mp h
    rw [Transaction.reread, beq_list_iff, List.forall₂_map_left_iff, List.forall₂_same] at hpostings
    exact fun p hp => Posting.separable_of_beq (hpostings p hp)
  | _ => trivial

end Statement

namespace Grammar

/-! ## Statements one after another -/

/-- A statement is read up to the end of its line. -/
theorem statementLine_of_done {s rest : List Char} {st : Statement}
    (h : statement lexicon s = .done st ('\n' :: rest)) :
    statementLine lexicon s = .done st rest := by
  have hspaces : spaces ('\n' :: rest) = .done () ('\n' :: rest) := by
    rw [spaces_apply, trimmed_cons rfl]
  have hend : lineEnd ('\n' :: rest) = .done () rest := orElse_of_done rfl
  rw [statementLine, bind_of_done h, bind_of_done hspaces, bind_of_done hend, pure_apply]

/-- What has been read as a statement with the end of its line. -/
theorem yields_statementLine [lexicon.Alphabetic] :
    Yields (statementLine lexicon) (Statement.InSource lexicon) Statement.weight := by
  intro s st rest h
  obtain ⟨st', r₁, hstatement, h⟩ := bind_eq_done.mp h
  obtain ⟨u, r₂, hspaces, h⟩ := bind_eq_done.mp h
  obtain ⟨v, r₃, hend, hvalue⟩ := bind_eq_done.mp h
  cases hvalue
  cases hspaces
  obtain ⟨hsource, hmarks⟩ := yields_statement _ _ _ hstatement
  have hrest : marks (trimmed r₁) = marks rest := marks_lineEnd hend
  rw [marks_trimmed] at hrest
  exact ⟨hsource, hrest ▸ hmarks⟩

/-- What is read from the texts of statements behind blank lines. -/
theorem statements_text [lexicon.Alphabetic] {indent : String} (hne : indent.toList ≠ [])
    (hindent : ∀ c ∈ indent.toList, isSpace c = true) {sts : List Statement}
    (hsource : ∀ st ∈ sts, st.InSource lexicon) (hwritable : ∀ st ∈ sts, st.Writable)
    {blank : List Char} (hblank : ∀ c ∈ blank, isBlankLineChar c = true) :
    statements lexicon (blank ++ sts.flatMap fun st => (st.text indent).toList) =
      (sts.map Statement.reread, none) := by
  induction sts generalizing blank with
  | nil =>
    have hnil : blank.dropWhile isBlankLineChar = [] := List.dropWhile_eq_nil_iff.mpr hblank
    rw [statements, List.flatMap_nil, List.append_nil, hnil]
    rfl
  | cons st sts ih =>
    rw [List.forall_mem_cons] at hsource hwritable
    set rest := sts.flatMap fun st => (st.text indent).toList with hrest
    obtain ⟨c, cs, hcs, hc⟩ := exists_text_eq_cons indent hsource.1
    have hhead : isBlankLineChar c = false := by
      rcases hc with hc | hc
      · rw [isBlankLineChar, isSpace_of_isIdentifierChar (isIdentifierChar_of_isDigit hc)]
        by_contra hbreak
        simp only [isLineBreak, Bool.false_or, Bool.not_eq_false, Bool.or_eq_true, beq_iff_eq]
          at hbreak
        rcases hbreak with rfl | rfl <;> exact absurd hc (by decide)
      · have hkinds : ∀ d ∈ ['y', 'c', ';', 'a', 'd', 't', '='], isBlankLineChar d = false :=
          List.all_iff_forall_prop.mp (by decide)
        exact hkinds c hc
    have hdrop : (blank ++ ((st.text indent).toList ++ rest)).dropWhile isBlankLineChar =
        c :: (cs ++ rest) := by
      rw [List.dropWhile_append_of_pos hblank, hcs]
      exact List.dropWhile_cons_of_neg (by simp [hhead])
    have hread : statementLine lexicon (c :: (cs ++ rest)) =
        .done st.reread (st.gap ++ rest) := by
      have h := statement_text hne hindent hsource.1 hwritable.1 rest
      rw [hcs] at h
      exact statementLine_of_done h
    have hgap : ∀ d ∈ st.gap, isBlankLineChar d = true := by
      cases st <;> simp [Statement.gap, isBlankLineChar, isLineBreak]
    rw [List.flatMap_cons, ← hrest, statements_of_done hdrop hread,
      ih hsource.2 hwritable.2 hgap]
    rfl

/-- There are no marks in blank lines. -/
theorem marks_dropWhile_blanks (s : List Char) :
    marks (s.dropWhile isBlankLineChar) = marks s := by
  have hnone : marks (s.takeWhile isBlankLineChar) = 0 := marks_eq_zero fun c hc => by
    have hc := List.mem_takeWhile_imp hc
    simp only [isBlankLineChar, isSpace, isLineBreak, Bool.or_eq_true, beq_iff_eq] at hc
    rcases hc with (rfl | rfl) | rfl | rfl <;> rfl
  conv_rhs => rw [← List.takeWhile_append_dropWhile (p := isBlankLineChar) (l := s)]
  rw [marks_append, hnone, Nat.zero_add]

/-- What has been read as a source. -/
theorem statements_eq [lexicon.Alphabetic] {s : List Char} {sts : List Statement}
    (h : statements lexicon s = (sts, none)) :
    (∀ st ∈ sts, st.InSource lexicon) ∧ marks s ≤ (sts.map Statement.weight).sum := by
  induction s using statements_induction lexicon generalizing sts with
  | blank s hs =>
    rw [statements_of_nil hs] at h
    cases h
    rw [← marks_dropWhile_blanks, hs]
    exact ⟨by simp, le_rfl⟩
  | stuck s c cs place hs hdrop hread =>
    rw [statements_of_stuck hs hread] at h
    cases h
  | done s c cs st rest hs hdrop hread hrest ih =>
    obtain ⟨hsource, hmarks⟩ := yields_statementLine _ _ _ hread
    rw [statements_of_done hs hread] at h
    obtain ⟨rfl, hnone⟩ := Prod.mk.inj h
    have hbehind : statements lexicon rest = ((statements lexicon rest).1, none) :=
      Prod.ext rfl hnone
    obtain ⟨hothers, hsum⟩ := ih hbehind
    refine ⟨List.forall_mem_cons.mpr ⟨hsource, hothers⟩, ?_⟩
    rw [← marks_dropWhile_blanks, hs]
    simp only [List.map_cons, List.sum_cons]
    omega

end Grammar

/-! ## Sources -/

variable {source indent : String} {sts : List Statement}

/-- The text of a source is that of its statements one after another. -/
theorem toList_sourceText (indent : String) (sts : List Statement) :
    (sourceText indent sts).toList = sts.flatMap fun st => (st.text indent).toList := by
  rw [sourceText, String.toList_join, List.flatMap_map]

/-- What is read from the text of statements whose numbers are finite and whose strings have no
double quote. -/
theorem parse_sourceText [lexicon.Alphabetic] (hne : indent.toList ≠ [])
    (hindent : ∀ c ∈ indent.toList, isSpace c = true) (hsource : ∀ st ∈ sts, st.InSource lexicon)
    (hwritable : ∀ st ∈ sts, st.Writable) :
    parse lexicon (sourceText indent sts) = .ok (sts.map Statement.reread) := by
  rw [parse_eq_ok_iff, toList_sourceText]
  exact @statements_text _ _ _ hne hindent _ hsource hwritable [] (List.forall_mem_nil _)

/-- Statements that weigh no less than what is read from their text are writable. -/
theorem writable_of_weight [lexicon.Alphabetic] (hindent : ∀ c ∈ indent.toList, isSpace c = true)
    {sts' : List Statement} (hparse : parse lexicon (sourceText indent sts) = .ok sts')
    (hweight : (sts'.map Statement.weight).sum ≤ (sts.map Statement.weight).sum) :
    ∀ st ∈ sts, st.Writable := by
  obtain ⟨-, hmarks⟩ := statements_eq (parse_eq_ok_iff.mp hparse)
  rw [toList_sourceText, marks_flatMap] at hmarks
  have hle := le_of_sum_le (fun st _ => st.weight_le hindent) (hmarks.trans hweight)
  exact fun st hst => Statement.writable_of_marks_le hindent (hle st hst)

/-- Statements that equal what is read from their text are writable. -/
theorem writable_of_parse [lexicon.Alphabetic] (hindent : ∀ c ∈ indent.toList, isSpace c = true)
    {sts' : List Statement} (hparse : parse lexicon (sourceText indent sts) = .ok sts')
    (heq : (sts' == sts) = true) : ∀ st ∈ sts, st.Writable :=
  writable_of_weight hindent hparse
    (sum_eq_of_beq (fun _ _ h => Statement.weight_eq_of_beq h) heq).le

/-- The statements of a source that is accepted, written with any indent of blanks, are accepted
again as equal statements exactly if all of them are faithful: every number is finite, no string has
a double quote, and no posting without a value has a cost or a balance. -/
theorem parse_sourceText_iff (hparse : parse .standard source = .ok sts)
    (hne : indent.toList ≠ []) (hindent : ∀ c ∈ indent.toList, isSpace c = true) :
    (∃ sts', parse .standard (sourceText indent sts) = .ok sts' ∧ (sts' == sts) = true) ↔
      ∀ st ∈ sts, st.Faithful := by
  obtain ⟨hsource, -⟩ := statements_eq (parse_eq_ok_iff.mp hparse)
  constructor
  · rintro ⟨sts', hparse', heq⟩
    have hwritable := writable_of_parse hindent hparse' heq
    rw [parse_sourceText hne hindent hsource hwritable] at hparse'
    obtain rfl := Except.ok.inj hparse'
    rw [beq_list_iff, List.forall₂_map_left_iff, List.forall₂_same] at heq
    exact fun st hst => ⟨hwritable st hst, Statement.separable_of_beq (heq st hst)⟩
  · intro hfaithful
    have hsame : sts.map Statement.reread = sts :=
      (List.map_congr_left fun st hst => Statement.reread_of_separable (hsource st hst)
        (hfaithful st hst).2).trans (List.map_id _)
    refine ⟨sts, ?_, beq_list_self fun st hst => Statement.beq_self (hfaithful st hst).1⟩
    rw [parse_sourceText hne hindent hsource fun st hst => (hfaithful st hst).1, hsame]

/-- A rule on purchases of food, and a purchase with a price, a note and a claimed balance. -/
def purchaseSource : String :=
  "= /Food/\n Budget  -1\n\n" ++
  "2016/1/31 * Shop ; weekly\n Food  (2 * 5 EUR) = 12 EUR\n\t; paid\n Cash  -10 EUR @@ 12 USD\n"

/-- The statements of `purchaseSource`. -/
def purchase : List Statement :=
  [.rule
    { condition := .binary .matching (.name "account") (.regex "Food"),
      templates := [⟨"Budget", .amount ⟨-1, .unknown⟩, false⟩] },
   .transaction
    { date := ⟨some 2016, 1, 31⟩, status := some .cleared, title := "Shop ; weekly", notes := [],
      postings :=
       [{ account := "Food",
          value := some (.binary .multiply (.amount ⟨2, .unknown⟩) (.amount ⟨5, .known "EUR"⟩)),
          cost := none, balance := some ⟨12, .known "EUR"⟩, isVirtual := false,
          notes := ["paid"] },
        { account := "Cash", value := some (.amount ⟨-10, .known "EUR"⟩),
          cost := some ⟨.total, ⟨12, .known "USD"⟩⟩, balance := none, isVirtual := false,
          notes := [] }] }]

/-- The statements of `purchaseSource` are read again as they were. -/
theorem parse_sourceText_iff_purchase :
    parse .standard purchaseSource = .ok purchase ∧
      ∃ sts', parse .standard (sourceText "\t" purchase) = .ok sts' ∧ (sts' == purchase) = true :=
  ⟨by decide +kernel,
    (parse_sourceText_iff (show parse .standard purchaseSource = .ok purchase by decide +kernel)
      (by decide) (List.all_iff_forall_prop.mp (by decide))).mpr (by decide +kernel)⟩

/-- A price for a posting without a value, which is written as a part of the account name. -/
theorem barePrice_misread :
    ¬ ∀ (source indent : String) (sts : List Statement), parse .standard source = .ok sts →
      indent.toList ≠ [] → (∀ c ∈ indent.toList, isSpace c = true) →
        ∃ sts', parse .standard (sourceText indent sts) = .ok sts' ∧ (sts' == sts) = true := by
  intro hlaw
  let payment : Posting := ⟨"B", some (.amount ⟨1, .known "EUR"⟩), none, none, false, []⟩
  let priced : Posting := ⟨"A", none, some ⟨.perUnit, ⟨5, .known "EUR"⟩⟩, none, false, []⟩
  let merged : Posting := ⟨"A @ 5 EUR", none, none, none, false, []⟩
  let transfer (p : Posting) : List Statement :=
    [.transaction ⟨⟨some 2016, 1, 31⟩, none, "T", [], [p, payment]⟩]
  have hread : parse .standard "2016/01/31 T\n A  @ 5 EUR\n B  1 EUR\n" =
      .ok (transfer priced) := by
    decide +kernel
  obtain ⟨sts', hreread, heq⟩ :=
    hlaw _ "  " _ hread (by decide) (List.all_iff_forall_prop.mp (by decide))
  have hmerged : parse .standard (sourceText "  " (transfer priced)) = .ok (transfer merged) := by
    decide +kernel
  obtain rfl : transfer merged = sts' := Except.ok.inj (hmerged.symm.trans hreread)
  exact absurd heq (by decide +kernel)

end Daybook
