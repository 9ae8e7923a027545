import Daybook.Grammar.Statement
import Daybook.Statement.Text
import Daybook.Proofs.Grammar.Expression

set_option relaxedAutoImplicit false
set_option autoImplicit false

/-!
# What postings are read

A posting is read from its line. There is one exception: where the value is left out, a cost and a
balance behind the account name are taken for a part of it, since one blank does not end a name.

## Main definitions

* `Grammar.IsAccount` — the form of account names.
* `Posting.InSource`, `Posting.Writable`, `Posting.weight` — as for expressions.
* `Posting.line` — the first line of a posting.
* `Posting.reread` — what is read from that line.

## Main results

* `Grammar.account_eq_done`, `Grammar.account_append` — account names.
* `Grammar.postingValue_text` — the value of a posting is read from its text.
* `Grammar.posting_line` — what is read from the line of a posting.
* `Grammar.template_text` — a template is read from its text.
-/

namespace Daybook

open Grammar Grammar.Parser

variable {lexicon : Lexicon}

namespace Grammar

/-! ## Account names -/

/-- The characters of an account name: it begins with no blank, and it does not end earlier,
whatever follows it. -/
structure IsAccount (cs : List Char) : Prop where
  ne_nil : cs ≠ []
  noBlank : ∀ c, cs.head? = some c → Unicode.isBlank c = false
  goesOn : ∀ b, b <:+ cs → b ≠ [] → ∀ rest, endsAccount (b ++ rest) = false

/-- What is no blank of any kind is none within a line. -/
theorem isSpace_of_isBlank {c : Char} (h : Unicode.isBlank c = false) : isSpace c = false := by
  by_contra hspace
  simp only [isSpace, Bool.not_eq_false, Bool.or_eq_true, beq_iff_eq] at hspace
  rcases hspace with rfl | rfl <;> exact absurd h (by decide +kernel)

/-- An account name does not end in front of a character that is no blank. -/
theorem endsAccount_cons {c : Char} (h : Unicode.isBlank c = false) (s : List Char) :
    endsAccount (c :: s) = false := by
  cases s <;> simp [endsAccount, h]

/-- An account name does not end at a single space. -/
theorem endsAccount_space {c : Char} (h : Unicode.isBlank c = false) (s : List Char) :
    endsAccount (' ' :: c :: s) = false := by
  simp [endsAccount, h]

/-- An account name is read where it ends. -/
theorem account_append {cs rest : List Char} (h : IsAccount cs) (hend : endsAccount rest = true) :
    account (cs ++ rest) = .done cs rest := by
  obtain ⟨c, cs, rfl⟩ := List.exists_cons_of_ne_nil h.ne_nil
  rw [List.cons_append, account, if_neg (by simp [h.noBlank c rfl])]
  refine takeUntil_eq_done.mpr (splitWhere_eq_iff.mpr ⟨rfl, fun b hb hne => ?_, .inr hend⟩)
  exact h.goesOn b hb hne rest

/-- What an account name has been read from. -/
theorem account_eq_done {s cs rest : List Char} (h : account s = .done cs rest) :
    IsAccount cs ∧ s = cs ++ rest := by
  cases s with
  | nil => cases h
  | cons c s =>
    rw [account] at h
    split_ifs at h with hblank
    obtain ⟨hsplit, hgoes, hend⟩ := splitWhere_eq_iff.mp (takeUntil_eq_done.mp h)
    have hend' : ∀ d t, rest = d :: t → Unicode.isBlank d = true := by
      rintro d t rfl
      by_contra hd
      rw [endsAccount_cons (Bool.not_eq_true _ ▸ hd)] at hend
      simp at hend
    have hne : cs ≠ [] := by
      rintro rfl
      exact hblank (hend' c s hsplit.symm)
    obtain ⟨d, ds, rfl⟩ := List.exists_cons_of_ne_nil hne
    refine ⟨⟨hne, fun e he => ?_, fun b hb hb' rest' => ?_⟩, hsplit⟩
    · cases he
      cases hsplit
      simpa using hblank
    · match b, hb, hb' with
      | [e], hb, hb' =>
        -- The last character is no blank: a space in front of a further blank would end the name.
        have := hgoes [e] hb hb'
        refine endsAccount_cons ?_ rest'
        cases rest with
        | nil => simpa [endsAccount] using this
        | cons d' t =>
          have hd' := hend' d' t rfl
          simpa [endsAccount, hd'] using this
      | e :: e' :: b, hb, hb' => exact hgoes _ hb hb'

/-- A run of characters without blanks is an account name. -/
theorem isAccount_of_forall {cs : List Char} (hne : cs ≠ [])
    (h : ∀ c ∈ cs, Unicode.isBlank c = false) : IsAccount cs := by
  refine ⟨hne, fun c hc => h c (List.mem_of_head? hc), fun b hb hb' rest => ?_⟩
  obtain ⟨c, b, rfl⟩ := List.exists_cons_of_ne_nil hb'
  exact endsAccount_cons (h c (hb.subset List.mem_cons_self)) _

/-- Two account names with a single space between them are one. -/
theorem IsAccount.append {cs ds : List Char} (hcs : IsAccount cs) (hds : IsAccount ds) :
    IsAccount (cs ++ ' ' :: ds) := by
  obtain ⟨d, ds', hd⟩ := List.exists_cons_of_ne_nil hds.ne_nil
  have hspace (rest : List Char) : endsAccount (' ' :: ds ++ rest) = false := by
    rw [hd]
    exact endsAccount_space (hds.noBlank d (by rw [hd]; rfl)) _
  refine ⟨by simp, fun c hc => ?_, fun b hb hb' rest => ?_⟩
  · rw [List.head?_append_of_ne_nil _ hcs.ne_nil] at hc
    exact hcs.noBlank c hc
  · obtain ⟨t, ht⟩ := hb
    obtain ⟨m, hm, rfl⟩ | ⟨m, -, hm⟩ := List.append_eq_append_iff.mp ht
    · cases m with
      | nil => exact hspace rest
      | cons e m =>
        rw [List.append_assoc]
        exact hcs.goesOn _ ⟨t, hm.symm⟩ (by simp) _
    · cases m with
      | nil =>
        rw [List.nil_append] at hm
        rw [← hm]
        exact hspace rest
      | cons e m =>
        have hb : b <:+ ds := ⟨m, (List.cons.inj hm).2.symm⟩
        exact hds.goesOn b hb hb' rest

end Grammar

/-- The name of an account, in brackets or not, as it can be read. -/
def AccountInSource (account : String) (isVirtual : Bool) : Prop :=
  IsAccount (accountText account isVirtual).toList ∧
    bracketed (accountText account isVirtual).toList = (account, isVirtual)

namespace Grammar

/-- No blank is in front of an account name. -/
theorem exists_accountText_eq_cons {account : String} {isVirtual : Bool}
    (h : AccountInSource account isVirtual) :
    ∃ c cs, (accountText account isVirtual).toList = c :: cs ∧ isSpace c = false := by
  obtain ⟨c, cs, hcs⟩ := List.exists_cons_of_ne_nil h.1.ne_nil
  exact ⟨c, cs, hcs, isSpace_of_isBlank (h.1.noBlank c (by rw [hcs]; rfl))⟩

/-- An account name is written as it has been read. -/
theorem toList_accountText_bracketed (cs : List Char) :
    (accountText (bracketed cs).1 (bracketed cs).2).toList = cs := by
  unfold bracketed
  split
  · rename_i inner
    split_ifs with hlast
    · have hsplit := List.dropLast_append_getLast? _ hlast
      simp [accountText, hsplit]
    · simp [accountText]
  · simp [accountText]

/-- An account name that has been read is one that can be read. -/
theorem accountInSource_bracketed {cs : List Char} (h : IsAccount cs) :
    AccountInSource (bracketed cs).1 (bracketed cs).2 := by
  unfold AccountInSource
  rw [toList_accountText_bracketed]
  exact ⟨h, rfl⟩

/-- Brackets are no marks. -/
theorem marks_accountText (account : String) (isVirtual : Bool) :
    marks (accountText account isVirtual).toList = marks account.toList := by
  cases isVirtual with
  | false => rfl
  | true =>
    have htext : (accountText account true).toList = '[' :: (account.toList ++ [']']) := by
      simp [accountText]
    rw [htext, marks_cons rfl, marks_append]
    rfl

/-- Brackets are no marks where they have been read. -/
theorem marks_bracketed (cs : List Char) : marks (bracketed cs).1.toList = marks cs := by
  rw [← marks_accountText (bracketed cs).1 (bracketed cs).2, toList_accountText_bracketed]

/-! ## Values -/

/-- The value of a posting is read from its text. -/
theorem postingValue_text [lexicon.Alphabetic] {e : Expression} (hsource : e.InSource lexicon)
    (hwritable : e.Writable) {rest : List Char} (hrest : Boundary rest) :
    Reads (postingValue lexicon) (e.valueText.toList ++ rest) e rest := by
  have hopen (s : List Char) : Fails (Expression.amount <$> amount lexicon) ('(' :: s) :=
    (fails_amount fun c hc => by cases hc; decide).map _
  have hother (t : List Char) (ht : t = '(' :: (e.text.toList ++ ')' :: rest)) :
      Reads (postingValue lexicon) t e rest := by
    rw [ht]
    refine .orElse_right (hopen _) ⟨trimmed rest, ?_, trimmed_trimmed rest⟩
    exact parenthesized_text hsource hwritable rest
  cases e with
  | amount value => exact ((amount_text hwritable hsource hrest).map _).orElse_left
  | binary o left right =>
    have hread := parenthesized_binary hsource hwritable rest
    have hfails : Fails (Expression.amount <$> amount lexicon)
        ((Expression.binary o left right).text.toList ++ rest) := by
      rw [toList_text_binary]
      exact hopen _
    exact .orElse_right hfails ⟨trimmed rest, hread, trimmed_trimmed rest⟩
  | _ => exact hother _ (by simp [Expression.valueText])

/-- No blank is in front of the value of a posting. -/
theorem trimmed_valueText {e : Expression} (hsource : e.InSource lexicon) (hwritable : e.Writable)
    (rest : List Char) : trimmed (e.valueText.toList ++ rest) = e.valueText.toList ++ rest := by
  cases e with
  | amount value => exact trimmed_text hsource hwritable rest
  | binary o left right => exact trimmed_text hsource hwritable rest
  | _ =>
    simp only [Expression.valueText, String.toList_append, List.append_assoc]
    exact trimmed_cons rfl _

/-- No value of a posting can be read at the end of a line, or where a cost or a balance is. -/
theorem fails_postingValue [lexicon.Alphabetic] {c : Char} (h : c = '\n' ∨ c = '@' ∨ c = '=')
    (s : List Char) : Fails (postingValue lexicon) (c :: s) := by
  refine ((fails_amount fun d hd => ?_).map _).orElse (fails_betweenParentheses fun hd => ?_)
  · cases hd
    rcases h with rfl | rfl | rfl <;> decide
  · cases hd
    exact absurd h (by decide)

/-- The values of postings. -/
theorem yields_postingValue [lexicon.Alphabetic] :
    Yields (postingValue lexicon) (Expression.InSource lexicon) Expression.weight :=
  yields_amount.orElse yields_expression.betweenParentheses

/-! ## Costs and balances -/

/-- No blank but the one in front of it is passed over in front of an amount. -/
theorem trimmed_amountText {a : Amount} (hsource : a.InSource lexicon)
    (hwritable : a.number.isFinite = true) (rest : List Char) :
    trimmed (' ' :: (a.text.toList ++ rest)) = a.text.toList ++ rest :=
  @trimmed_text lexicon (.amount a) hsource hwritable rest

/-- A cost is read from its text. -/
theorem cost_text [lexicon.Alphabetic] {c : Cost} (hsource : c.amount.InSource lexicon)
    (hwritable : c.amount.number.isFinite = true) {rest : List Char} (hrest : Boundary rest) :
    Reads (cost lexicon) (c.text.toList ++ rest) c rest := by
  obtain ⟨kind, a⟩ := c
  obtain ⟨r, hamount, hr⟩ := amount_text hwritable hsource hrest
  have hkind : lexeme costKind ((Cost.text ⟨kind, a⟩).toList ++ rest) =
      .done kind (a.text.toList ++ rest) := by
    have hsign : costKind ((Cost.text ⟨kind, a⟩).toList ++ rest) =
        .done kind (' ' :: (a.text.toList ++ rest)) := by
      have htext : (Cost.text ⟨kind, a⟩).toList ++ rest =
          kind.symbol.toList ++ ' ' :: (a.text.toList ++ rest) := by
        simp [Cost.text]
      rw [htext]
      cases kind <;> rfl
    rw [lexeme_of_done hsign, trimmed_amountText hsource hwritable]
  refine ⟨r, ?_, hr⟩
  rw [cost, bind_of_done hkind, bind_of_done hamount, pure_apply]

/-- No cost can be read where no sign of one is. -/
theorem fails_cost {c : Char} (h : c = '\n' ∨ c = '=') (s : List Char) :
    Fails (cost lexicon) (c :: s) := by
  refine (lexeme_fails ?_).bind _
  rcases h with rfl | rfl <;> exact ⟨_, rfl⟩

/-- The costs of postings. -/
theorem yields_cost :
    Yields (cost lexicon) (fun c => c.amount.InSource lexicon) fun c => c.amount.weight := by
  intro s c rest h
  obtain ⟨kind, r, hkind, h⟩ := bind_eq_done.mp h
  obtain ⟨a, r', hamount, hvalue⟩ := bind_eq_done.mp h
  cases hvalue
  obtain ⟨t, hsign, rfl⟩ := lexeme_eq_done.mp hkind
  obtain ⟨hsource, hmarks⟩ := amount_eq_done hamount
  have hnone : marks s = marks t := by
    obtain hsign | ⟨-, hsign⟩ := orElse_eq_done.mp hsign
    · obtain ⟨w, t', hword, hsign⟩ := bind_eq_done.mp hsign
      cases hsign
      exact (marks_word hword).trans (Nat.zero_add _)
    · obtain ⟨w, t', hword, hsign⟩ := bind_eq_done.mp hsign
      cases hsign
      exact (marks_word hword).trans (Nat.zero_add _)
  rw [marks_trimmed] at hmarks
  exact ⟨hsource, by dsimp only; omega⟩

/-- A balance is read behind its sign. -/
theorem claimedBalance_text [lexicon.Alphabetic] {a : Amount} (hsource : a.InSource lexicon)
    (hwritable : a.number.isFinite = true) {rest : List Char} (hrest : Boundary rest) :
    Reads (claimedBalance lexicon) ('=' :: ' ' :: (a.text.toList ++ rest)) a rest := by
  obtain ⟨r, hamount, hr⟩ := amount_text hwritable hsource hrest
  refine ⟨r, ?_, hr⟩
  rw [claimedBalance, bind_of_done (lexeme_of_done (char_cons_self '=' _)),
    trimmed_amountText hsource hwritable, hamount]

/-- No balance can be read where no sign of one is. -/
theorem fails_claimedBalance (s : List Char) : Fails (claimedBalance lexicon) ('\n' :: s) :=
  (lexeme_fails (fails_char (by simp))).bind _

/-- The balances of postings. -/
theorem yields_claimedBalance :
    Yields (claimedBalance lexicon) (Amount.InSource lexicon) Amount.weight := by
  intro s a rest h
  obtain ⟨c, r, hsign, hamount⟩ := bind_eq_done.mp h
  obtain ⟨t, hc, rfl⟩ := lexeme_eq_done.mp hsign
  obtain ⟨rfl, -⟩ := char_eq_done.mp hc
  obtain ⟨hsource, hmarks⟩ := amount_eq_done hamount
  rw [marks_trimmed] at hmarks
  rw [marks_cons rfl]
  exact ⟨hsource, by omega⟩

end Grammar

/-! ## Postings -/

namespace Posting

/-- The postings that can be read. A semicolon in front would make the line a note. -/
structure InSource (lexicon : Lexicon) (p : Posting) : Prop where
  account : AccountInSource p.account p.isVirtual
  noNote : (accountText p.account p.isVirtual).toList.head? ≠ some ';'
  value : ∀ e ∈ p.value, e.InSource lexicon
  cost : ∀ c ∈ p.cost, c.amount.InSource lexicon
  balance : ∀ a ∈ p.balance, a.InSource lexicon
  notes : ∀ note ∈ p.notes, IsLineText note.toList

/-- Whether every literal is read again from its text. -/
structure Writable (p : Posting) : Prop where
  value : ∀ e ∈ p.value, e.Writable
  cost : ∀ c ∈ p.cost, c.amount.number.isFinite = true
  balance : ∀ a ∈ p.balance, a.number.isFinite = true

instance : DecidablePred Writable := fun p =>
  decidable_of_iff ((∀ e ∈ p.value, e.Writable) ∧
      (∀ c ∈ p.cost, c.amount.number.isFinite = true) ∧ ∀ a ∈ p.balance, a.number.isFinite = true)
    ⟨fun h => ⟨h.1, h.2.1, h.2.2⟩, fun h => ⟨h.value, h.cost, h.balance⟩⟩

/-- How many marks reading the value, the cost and the balance of a posting passes over at most. -/
def lineWeight (p : Posting) : Nat :=
  p.value.elim 0 Expression.weight + (p.cost.elim 0 fun c => c.amount.weight) +
    p.balance.elim 0 Amount.weight

/-- How many marks reading a posting and its notes passes over at most. -/
def weight (p : Posting) : Nat :=
  marks p.account.toList + p.lineWeight + (p.notes.map fun note => marks note.toList).sum

/-- What is written behind the value. -/
def tail (p : Posting) : List Char :=
  (p.cost.elim [] fun c => ' ' :: c.text.toList) ++
    p.balance.elim [] fun a => ' ' :: '=' :: ' ' :: a.text.toList

/-- The first line of a posting, which its notes follow. -/
def line (p : Posting) : List Char :=
  (accountText p.account p.isVirtual).toList ++
    ((p.value.elim [] fun e => ' ' :: ' ' :: e.valueText.toList) ++ p.tail)

/-- What is read from the line of a posting: where the value is left out, the whole line is the name
of the account. -/
def reread (p : Posting) : Posting :=
  match p.value with
  | some _ => p
  | none =>
    { p with
      account := (bracketed p.line).1
      isVirtual := (bracketed p.line).2
      cost := none
      balance := none }

/-- A posting with a value is read from its line. -/
theorem reread_of_value {p : Posting} {e : Expression} (h : p.value = some e) : p.reread = p := by
  rw [reread, h]

end Posting

namespace Grammar

/-- The text of an amount is an account name. -/
theorem isAccount_amountText [lexicon.Alphabetic] {a : Amount} (hsource : a.InSource lexicon)
    (hfinite : a.number.isFinite = true) : IsAccount a.text.toList := by
  have hnumber : IsAccount (numberText a.number).toList := by
    obtain ⟨negative, m, e, hparts⟩ := Binary64.isFinite_iff.mp hfinite
    obtain ⟨whole, fraction, htext, hwhole, hfraction, -⟩ := numberText_eq hparts
    have hsign : Unicode.isBlank '-' = false ∧ Unicode.isBlank '.' = false := by decide +kernel
    obtain ⟨d, ds, rfl⟩ := List.exists_cons_of_ne_nil hwhole.1
    rw [htext, Decimal.positional]
    refine isAccount_of_forall (by simp) fun c hc => ?_
    rcases List.mem_append.mp hc with hc | hc
    · split_ifs at hc
      · rw [List.mem_singleton.mp hc]
        exact hsign.1
      · cases hc
    rcases List.mem_append.mp hc with hc | hc
    · exact isBlank_of_isDigit (hwhole.2 c hc)
    · split_ifs at hc with hnil
      · cases hc
      · rcases List.mem_cons.mp hc with rfl | hc
        · exact hsign.2
        · exact isBlank_of_isDigit ((hfraction hnil).2 c hc)
  unfold Amount.text
  cases hcommodity : a.commodity with
  | unknown => exact hnumber
  | known symbol =>
    have hsymbol : IsAccount symbol.toList := by
      obtain ⟨c, cs, hcs, -⟩ := Lexicon.exists_eq_cons (hsource symbol hcommodity)
      refine isAccount_of_forall (by simp [hcs]) fun d hd => ?_
      rcases Lexicon.Alphabetic.letters symbol (hsource symbol hcommodity) with rfl | ⟨-, hletters⟩
      · rw [List.mem_singleton.mp hd]
        decide +kernel
      · exact isBlank_of_isAlpha (hletters d hd)
    have htext : (numberText a.number ++ " " ++ symbol).toList =
        (numberText a.number).toList ++ ' ' :: symbol.toList := by simp
    show IsAccount (numberText a.number ++ " " ++ symbol).toList
    rw [htext]
    exact hnumber.append hsymbol

/-- The text of a cost begins with its sign. -/
theorem toList_text_cost (c : Cost) :
    c.text.toList = c.kind.symbol.toList ++ ' ' :: c.amount.text.toList := by
  simp [Cost.text]

/-- No blank is in front of a cost. -/
theorem trimmed_text_cost (c : Cost) (rest : List Char) :
    trimmed (c.text.toList ++ rest) = c.text.toList ++ rest := by
  rw [toList_text_cost]
  cases c.kind <;> rfl

/-- Where the value of a posting is left out, its line is an account name. -/
theorem isAccount_line [lexicon.Alphabetic] {p : Posting} (hsource : p.InSource lexicon)
    (hwritable : p.Writable) (hvalue : p.value = none) : IsAccount p.line := by
  have hcost : ∀ cs, IsAccount cs →
      IsAccount (cs ++ p.cost.elim [] fun c => ' ' :: c.text.toList) := by
    intro cs hcs
    cases hcost : p.cost with
    | none => simpa using hcs
    | some c =>
      have hsign : IsAccount c.kind.symbol.toList := by
        cases c.kind <;> exact isAccount_of_forall (by decide)
          (List.all_iff_forall_prop.mp (by decide +kernel))
      have hamount := isAccount_amountText (hsource.cost c hcost) (hwritable.cost c hcost)
      rw [Option.elim_some, toList_text_cost]
      exact hcs.append (hsign.append hamount)
  have hbalance : ∀ cs, IsAccount cs →
      IsAccount (cs ++ p.balance.elim [] fun a => ' ' :: '=' :: ' ' :: a.text.toList) := by
    intro cs hcs
    cases hbalance : p.balance with
    | none => simpa using hcs
    | some a =>
      have hsign : IsAccount ['='] :=
        isAccount_of_forall (by decide) (List.all_iff_forall_prop.mp (by decide +kernel))
      have hamount := isAccount_amountText (hsource.balance a hbalance)
        (hwritable.balance a hbalance)
      exact hcs.append (hsign.append hamount)
  rw [Posting.line, Posting.tail, hvalue, Option.elim_none, List.nil_append, ← List.append_assoc]
  exact hbalance _ (hcost _ hsource.account.1)

/-- What may be left out is read where it is written, and passed over where it is not. -/
theorem optional_elim {β : Type} {p : Parser β} {b? : Option β} {text : β → List Char}
    {rest : List Char} (hread : ∀ b ∈ b?, Reads p (trimmed (text b ++ rest)) b rest)
    (hfails : Fails p (trimmed rest)) :
    optional (lexeme p) (trimmed (b?.elim [] text ++ rest)) = .done b? (trimmed rest) := by
  cases b? with
  | none => exact optional_of_fails (lexeme_fails hfails)
  | some b => exact optional_of_done (hread b rfl).lexeme

/-- Two spaces end an account name. -/
theorem endsAccount_spaces (s : List Char) : endsAccount (' ' :: ' ' :: s) = true := by
  have hblank : Unicode.isBlank ' ' = true := by decide +kernel
  simp [endsAccount, hblank]

/-- What follows the value or the cost of a posting is a boundary. -/
theorem boundary_balance (a? : Option Amount) (rest : List Char) :
    Boundary ((a?.elim [] fun a => ' ' :: '=' :: ' ' :: a.text.toList) ++ '\n' :: rest) := by
  cases a? with
  | none => exact (closing_cons (.inr (.inr rfl)) rest).boundary
  | some a => exact (boundary_cons (by decide +kernel) rfl (by decide) _).space

/-- What follows the value of a posting is a boundary. -/
theorem boundary_tail (p : Posting) (rest : List Char) : Boundary (p.tail ++ '\n' :: rest) := by
  rw [Posting.tail, List.append_assoc]
  cases p.cost with
  | none => exact boundary_balance p.balance rest
  | some c =>
    obtain ⟨cs, hcs⟩ : ∃ cs, c.text.toList = '@' :: cs := by
      rw [toList_text_cost]
      cases c.kind <;> exact ⟨_, rfl⟩
    rw [Option.elim_some, hcs]
    exact (boundary_cons (by decide +kernel) rfl (by decide) _).space

/-- No note is read at the end of a line. -/
theorem optional_noteBody_newline (rest : List Char) :
    optional noteBody ('\n' :: rest) = .done none ('\n' :: rest) :=
  optional_of_fails (fails_noteBody (by simp))

/-- What is read from the line of a posting without a value: the whole line is the account name. -/
theorem posting_line_of_none [lexicon.Alphabetic] {p : Posting} (hsource : p.InSource lexicon)
    (hwritable : p.Writable) (hvalue : p.value = none) (rest : List Char) :
    posting lexicon (p.line ++ '\n' :: rest) =
      .done { p.reread with notes := [] } ('\n' :: rest) := by
  have hname : lexeme account (p.line ++ '\n' :: rest) = .done p.line ('\n' :: rest) := by
    rw [lexeme_of_done (account_append (isAccount_line hsource hwritable hvalue)
      (endsAccount_newline rest)), trimmed_newline]
  have hnone : optional (lexeme (postingValue lexicon)) ('\n' :: rest) =
      .done none ('\n' :: rest) :=
    optional_of_fails (lexeme_fails (fails_postingValue (.inl rfl) rest))
  have hcost : optional (lexeme (cost lexicon)) ('\n' :: rest) = .done none ('\n' :: rest) :=
    optional_of_fails (lexeme_fails (fails_cost (.inl rfl) rest))
  have hbalance : optional (lexeme (claimedBalance lexicon)) ('\n' :: rest) =
      .done none ('\n' :: rest) :=
    optional_of_fails (lexeme_fails (fails_claimedBalance rest))
  rw [posting, bind_of_done hname, bind_of_done hnone, bind_of_done hcost, bind_of_done hbalance,
    bind_of_done (optional_noteBody_newline rest), Posting.reread, hvalue]
  rfl

/-- A posting with a value is read from its line, without the notes that follow it. -/
theorem posting_line_of_some [lexicon.Alphabetic] {p : Posting} (hsource : p.InSource lexicon)
    (hwritable : p.Writable) {e : Expression} (hvalue : p.value = some e) (rest : List Char) :
    posting lexicon (p.line ++ '\n' :: rest) =
      .done { p.reread with notes := [] } ('\n' :: rest) := by
  have he := hsource.value e hvalue
  have he' := hwritable.value e hvalue
  have hline : p.line ++ '\n' :: rest = (accountText p.account p.isVirtual).toList ++
      ' ' :: ' ' :: (e.valueText.toList ++ (p.tail ++ '\n' :: rest)) := by
    rw [Posting.line, hvalue, Option.elim_some]
    simp
  have hname : lexeme account (p.line ++ '\n' :: rest) =
      .done (accountText p.account p.isVirtual).toList
        (e.valueText.toList ++ (p.tail ++ '\n' :: rest)) := by
    rw [hline, lexeme_of_done (account_append hsource.account.1 (endsAccount_spaces _)),
      trimmed_space, trimmed_space, trimmed_valueText he he']
  have hread : optional (lexeme (postingValue lexicon))
      (e.valueText.toList ++ (p.tail ++ '\n' :: rest)) =
        .done (some e) (trimmed (p.tail ++ '\n' :: rest)) :=
    optional_of_done (postingValue_text he he' (boundary_tail p rest)).lexeme
  have hcost : optional (lexeme (cost lexicon)) (trimmed (p.tail ++ '\n' :: rest)) =
      .done p.cost (trimmed ((p.balance.elim [] fun a => ' ' :: '=' :: ' ' :: a.text.toList) ++
        '\n' :: rest)) := by
    rw [Posting.tail, List.append_assoc]
    refine optional_elim (fun c hc => ?_) ?_
    · rw [List.cons_append, trimmed_space, trimmed_text_cost]
      exact cost_text (hsource.cost c hc) (hwritable.cost c hc) (boundary_balance p.balance rest)
    · cases p.balance with
      | none => exact fails_cost (.inl rfl) rest
      | some a => exact fails_cost (.inr rfl) _
  have hbalance : optional (lexeme (claimedBalance lexicon))
      (trimmed ((p.balance.elim [] fun a => ' ' :: '=' :: ' ' :: a.text.toList) ++
        '\n' :: rest)) = .done p.balance ('\n' :: rest) := by
    conv_rhs => rw [← trimmed_newline]
    refine optional_elim (fun a ha => ?_) (fails_claimedBalance rest)
    exact claimedBalance_text (hsource.balance a ha) (hwritable.balance a ha)
      (boundary_balance none rest)
  rw [posting, bind_of_done hname, bind_of_done hread, bind_of_done hcost, bind_of_done hbalance,
    bind_of_done (optional_noteBody_newline rest), hsource.account.2,
    Posting.reread_of_value hvalue, ← hvalue]
  rfl

/-- What is read from the line of a posting, without the notes that follow it. -/
theorem posting_line [lexicon.Alphabetic] {p : Posting} (hsource : p.InSource lexicon)
    (hwritable : p.Writable) (rest : List Char) :
    posting lexicon (p.line ++ '\n' :: rest) =
      .done { p.reread with notes := [] } ('\n' :: rest) := by
  cases hvalue : p.value with
  | none => exact posting_line_of_none hsource hwritable hvalue rest
  | some e => exact posting_line_of_some hsource hwritable hvalue rest

/-- What a posting has been read from, where no note is. -/
theorem posting_eq_done [lexicon.Alphabetic] {s rest : List Char} {p : Posting}
    (hnote : s.head? ≠ some ';') (h : posting lexicon s = .done p rest) :
    p.InSource lexicon ∧ marks s ≤ p.weight + marks rest := by
  obtain ⟨written, r₁, hwritten, h⟩ := bind_eq_done.mp h
  obtain ⟨value, r₂, hvalue, h⟩ := bind_eq_done.mp h
  obtain ⟨cost, r₃, hcost, h⟩ := bind_eq_done.mp h
  obtain ⟨balance, r₄, hbalance, h⟩ := bind_eq_done.mp h
  obtain ⟨note, r₅, hnotes, hposting⟩ := bind_eq_done.mp h
  have hposting : Outcome.done (Posting.mk (bracketed written).1 value cost balance
      (bracketed written).2 note.toList) r₅ = .done p rest := hposting
  obtain ⟨rfl, rfl⟩ := Outcome.done.inj hposting
  obtain ⟨r, hname, rfl⟩ := lexeme_eq_done.mp hwritten
  obtain ⟨haccount, rfl⟩ := account_eq_done hname
  obtain ⟨hv, hvmarks⟩ := yields_postingValue.lexeme.optional _ _ _ hvalue
  obtain ⟨hc, hcmarks⟩ := yields_cost.lexeme.optional _ _ _ hcost
  obtain ⟨hb, hbmarks⟩ := yields_claimedBalance.lexeme.optional _ _ _ hbalance
  have hn : (∀ text ∈ note.toList, IsLineText text.toList) ∧
      marks r₄ = (note.toList.map fun text => marks text.toList).sum + marks r₅ := by
    obtain ⟨text, hbody, rfl⟩ | ⟨-, rfl, rfl⟩ := optional_eq_done.mp hnotes
    · obtain ⟨hline, hmarks⟩ := noteBody_eq_done hbody
      exact ⟨by simpa using hline, by simpa using hmarks⟩
    · exact ⟨by simp, by simp⟩
  constructor
  · refine ⟨accountInSource_bracketed haccount, fun hsemicolon => hnote ?_, hv, hc, hb, hn.1⟩
    rw [toList_accountText_bracketed] at hsemicolon
    rw [List.head?_append, hsemicolon]
    rfl
  · dsimp only at hvmarks hcmarks hbmarks
    rw [marks_trimmed] at hvmarks
    rw [marks_append, Posting.weight, Posting.lineWeight, marks_bracketed]
    dsimp only
    omega

end Grammar

/-! ## Templates -/

namespace Template

/-- The templates that can be read. -/
structure InSource (lexicon : Lexicon) (t : Template) : Prop where
  account : AccountInSource t.account t.isVirtual
  value : t.value.InSource lexicon

/-- How many marks reading a template passes over at most. -/
def weight (t : Template) : Nat :=
  marks t.account.toList + t.value.weight

end Template

namespace Grammar

/-- The text of a template. -/
theorem toList_text_template (t : Template) (rest : List Char) :
    t.text.toList ++ rest = (accountText t.account t.isVirtual).toList ++
      ' ' :: ' ' :: (t.value.valueText.toList ++ rest) := by
  simp [Template.text]

/-- A template is read from its text. -/
theorem template_text [lexicon.Alphabetic] {t : Template} (hsource : t.InSource lexicon)
    (hwritable : t.value.Writable) (rest : List Char) :
    lexeme (template lexicon) (t.text.toList ++ '\n' :: rest) = .done t ('\n' :: rest) := by
  have hboundary : Boundary ('\n' :: rest) := (closing_cons (.inr (.inr rfl)) rest).boundary
  obtain ⟨r, hvalue, hr⟩ := postingValue_text hsource.value hwritable hboundary
  have hname : lexeme account (t.text.toList ++ '\n' :: rest) =
      .done (accountText t.account t.isVirtual).toList
        (t.value.valueText.toList ++ '\n' :: rest) := by
    rw [toList_text_template, lexeme_of_done (account_append hsource.account.1
      (endsAccount_spaces _)), trimmed_space, trimmed_space,
      trimmed_valueText hsource.value hwritable]
  have hread : Reads (template lexicon) (t.text.toList ++ '\n' :: rest) t ('\n' :: rest) := by
    refine ⟨r, ?_, hr⟩
    rw [template, bind_of_done hname, bind_of_done hvalue, hsource.account.2]
    rfl
  rw [hread.lexeme, trimmed_newline]

/-- The templates of rules. -/
theorem yields_template [lexicon.Alphabetic] :
    Yields (template lexicon) (Template.InSource lexicon) Template.weight := by
  intro s t rest h
  obtain ⟨written, r₁, hwritten, h⟩ := bind_eq_done.mp h
  obtain ⟨value, r₂, hvalue, htemplate⟩ := bind_eq_done.mp h
  have htemplate : Outcome.done (Template.mk (bracketed written).1 value (bracketed written).2) r₂ =
      .done t rest := htemplate
  obtain ⟨rfl, rfl⟩ := Outcome.done.inj htemplate
  obtain ⟨r, hname, rfl⟩ := lexeme_eq_done.mp hwritten
  obtain ⟨haccount, rfl⟩ := account_eq_done hname
  obtain ⟨hv, hvmarks⟩ := yields_postingValue _ _ _ hvalue
  rw [marks_trimmed] at hvmarks
  refine ⟨⟨accountInSource_bracketed haccount, hv⟩, ?_⟩
  rw [marks_append, Template.weight, marks_bracketed]
  dsimp only
  omega

end Grammar

/-! ## Marks of texts -/

/-- Parentheses are no marks. -/
theorem Expression.marks_valueText (e : Expression) :
    marks e.valueText.toList = marks e.text.toList := by
  have hother : marks ("(" ++ e.text ++ ")").toList = marks e.text.toList := by
    have htext : ("(" ++ e.text ++ ")").toList = '(' :: (e.text.toList ++ [')']) := by simp
    rw [htext, marks_cons rfl, marks_append]
    rfl
  cases e with
  | amount value => rfl
  | binary o left right => rfl
  | _ => exact hother

/-- The marks of the text of a template. -/
theorem Template.marks_text (t : Template) :
    marks t.text.toList = marks t.account.toList + marks t.value.text.toList := by
  have htext := congrArg marks (toList_text_template t [])
  rw [List.append_nil, List.append_nil, marks_append, marks_cons rfl, marks_cons rfl,
    marks_accountText, Expression.marks_valueText] at htext
  exact htext

/-- What may be left out weighs no more than its text has marks. -/
theorem Grammar.elim_le_elim {β : Type} {f g : β → Nat} (h : ∀ b, f b ≤ g b) (b? : Option β) :
    b?.elim 0 f ≤ b?.elim 0 g := by
  cases b? with
  | none => exact Nat.le_refl _
  | some b => exact h b

namespace Posting

/-- The marks of the line of a posting. -/
theorem marks_line (p : Posting) :
    marks p.line = marks p.account.toList + (p.value.elim 0 fun e => marks e.text.toList) +
      (p.cost.elim 0 fun c => marks c.amount.text.toList) +
      p.balance.elim 0 fun a => marks a.text.toList := by
  have hvalue : marks (p.value.elim [] fun e => ' ' :: ' ' :: e.valueText.toList) =
      p.value.elim 0 fun e => marks e.text.toList := by
    cases p.value with
    | none => rfl
    | some e =>
      rw [Option.elim_some, Option.elim_some, marks_cons rfl, marks_cons rfl,
        Expression.marks_valueText]
  have hcost : marks (p.cost.elim [] fun c => ' ' :: c.text.toList) =
      p.cost.elim 0 fun c => marks c.amount.text.toList := by
    cases p.cost with
    | none => rfl
    | some c =>
      have hsign : marks c.kind.symbol.toList = 0 := by cases c.kind <;> rfl
      rw [Option.elim_some, Option.elim_some, marks_cons rfl, toList_text_cost, marks_append, hsign,
        marks_cons rfl, Nat.zero_add]
  have hbalance : marks (p.balance.elim [] fun a => ' ' :: '=' :: ' ' :: a.text.toList) =
      p.balance.elim 0 fun a => marks a.text.toList := by
    cases p.balance with
    | none => rfl
    | some a =>
      rw [Option.elim_some, Option.elim_some, marks_cons rfl, marks_cons rfl, marks_cons rfl]
  rw [line, tail, marks_append, marks_append, marks_append, marks_accountText, hvalue, hcost,
    hbalance]
  omega

/-- What is written behind the account weighs no more than its text has marks. -/
theorem lineWeight_le (p : Posting) :
    (p.value.elim 0 Expression.weight ≤ p.value.elim 0 fun e => marks e.text.toList) ∧
      ((p.cost.elim 0 fun c => c.amount.weight) ≤
        p.cost.elim 0 fun c => marks c.amount.text.toList) ∧
      p.balance.elim 0 Amount.weight ≤ p.balance.elim 0 fun a => marks a.text.toList :=
  ⟨elim_le_elim Expression.weight_le _, elim_le_elim (fun c => c.amount.weight_le) _,
    elim_le_elim Amount.weight_le _⟩

/-- A posting whose line has no more marks than reading it passes over is writable. -/
theorem writable_of_marks_le {p : Posting}
    (h : marks p.line ≤ marks p.account.toList + p.lineWeight) : p.Writable := by
  obtain ⟨hvalue, hcost, hbalance⟩ := p.lineWeight_le
  rw [marks_line, lineWeight] at h
  refine ⟨fun e he => ?_, fun c hc => ?_, fun a ha => ?_⟩
  · have he : p.value = some e := he
    simp only [he, Option.elim_some] at h hvalue
    exact Expression.writable_of_marks_le (by omega)
  · have hc : p.cost = some c := hc
    simp only [hc, Option.elim_some] at h hcost
    exact isFinite_of_marks_amountText (by omega)
  · have ha : p.balance = some a := ha
    simp only [ha, Option.elim_some] at h hbalance
    exact isFinite_of_marks_amountText (by omega)

end Posting

end Daybook
