import Daybook.Grammar.Expression
import Daybook.Proofs.Grammar.Amount

set_option relaxedAutoImplicit false
set_option autoImplicit false

/-!
# What literals and names are read

Literals and names are read from their texts, except for two kinds of literals: doubles that are
not finite, and strings with a double quote.

## Main definitions

* `Grammar.IsWord`, `Grammar.IsName` — the form of truth values and names.
* `Expression.InSource` — the expressions that can be read.
* `Expression.Writable` — no literal is of the two kinds.
* `Grammar.IsToken` — the texts that a literal or a name can be written as.
* `Expression.weight` — how many marks reading an expression passes over at most.

## Main results

* `Grammar.IsToken.reads` — a literal or a name is read from each of its texts.
* `Grammar.isToken_text` — one of them is the text that it is written as.
* `Grammar.yields_primitive` — what has been read as a literal or a name.
-/

namespace Daybook

open Grammar Grammar.Parser

/-! ## Forms and weights -/

/-- A run of identifier characters that cannot be read as an amount. -/
structure Grammar.IsWord (lexicon : Lexicon) (cs : List Char) : Prop where
  ne_nil : cs ≠ []
  identifier : ∀ c ∈ cs, isIdentifierChar c = true
  noNumber : ∀ c, cs.head? = some c → Unicode.isDigit c = false
  noAmount : ∀ found ∈ lexicon.symbols, ∀ d rest, cs = found.toList ++ d :: rest →
    Unicode.isDigit d = false

/-- A run of identifier characters that is neither a truth value nor can be read as an amount. -/
structure Grammar.IsName (lexicon : Lexicon) (cs : List Char) : Prop
    extends IsWord lexicon cs where
  noBoolean : cs ≠ "true".toList ∧ cs ≠ "false".toList

namespace Expression

/-- The expressions that can be read. -/
def InSource (lexicon : Lexicon) : Expression → Prop
  | amount value => value.InSource lexicon
  | bool _ => True
  | string _ => True
  | regex pattern => '/' ∉ pattern.toList
  | name identifier => IsName lexicon identifier.toList
  | binary _ left right => left.InSource lexicon ∧ right.InSource lexicon

/-- Whether every literal is read again from its text. -/
def Writable : Expression → Prop
  | amount value => value.number.isFinite = true
  | string text => '"' ∉ text.toList
  | binary _ left right => left.Writable ∧ right.Writable
  | _ => True

/-- Whether an expression is writable is decided literal by literal. -/
def decidableWritable : (e : Expression) → Decidable e.Writable
  | amount value => inferInstanceAs (Decidable (value.number.isFinite = true))
  | bool _ => inferInstanceAs (Decidable True)
  | string text => inferInstanceAs (Decidable ('"' ∉ text.toList))
  | regex _ => inferInstanceAs (Decidable True)
  | name _ => inferInstanceAs (Decidable True)
  | binary _ left right =>
    @instDecidableAnd _ _ (decidableWritable left) (decidableWritable right)

instance : DecidablePred Writable :=
  decidableWritable

/-- How many marks reading an expression passes over at most. A string with a double quote can only
have been read between single quotes, which are no marks. -/
def weight : Expression → Nat
  | amount value => value.weight
  | bool _ => 0
  | string text => marks text.toList + if '"' ∈ text.toList then 0 else 2
  | regex pattern => marks pattern.toList
  | name identifier => marks identifier.toList
  | binary _ left right => left.weight + right.weight

end Expression

namespace Grammar

variable {lexicon : Lexicon}

/-! ## Truth values and names -/

/-- A word of identifier characters in front of a text stands in front of the identifier that the
text begins with. -/
theorem prefix_of_append {word cs rest : List Char}
    (hword : ∀ c ∈ word, isIdentifierChar c = true)
    (hrest : ∀ c, rest.head? = some c → isIdentifierChar c = false) {t : List Char}
    (h : word ++ t = cs ++ rest) : ∃ m, cs = word ++ m ∧ t = m ++ rest := by
  obtain ⟨m, rfl, rfl⟩ | ⟨m, rfl, rfl⟩ := List.append_eq_append_iff.mp h
  · exact ⟨m, rfl, rfl⟩
  · cases m with
    | nil => exact ⟨[], by simp, rfl⟩
    | cons c m =>
      have hc := hword c (by simp)
      rw [hrest c rfl] at hc
      cases hc

/-- The characters of the two truth values. -/
theorem isIdentifierChar_boolean {c : Char} (h : c ∈ "true".toList ∨ c ∈ "false".toList) :
    isIdentifierChar c = true := by
  have hall : ∀ c ∈ "true".toList ++ "false".toList, isIdentifierChar c = true :=
    List.all_iff_forall_prop.mp (by decide +kernel)
  exact hall c (List.mem_append.mpr h)

/-- A truth value is read where no identifier goes on behind it. -/
theorem boolean_text (b : Bool) {rest : List Char}
    (hrest : ∀ c, rest.head? = some c → isIdentifierChar c = false) :
    boolean ((Expression.bool b).text.toList ++ rest) = .done (.bool b) rest := by
  obtain ⟨place, hstuck⟩ := fails_satisfy hrest
  have hend : notFollowedBy (satisfy isIdentifierChar) rest = .done () rest := by
    rw [notFollowedBy, hstuck]
  cases b with
  | true =>
    have hword : (word "true" <|> word "false") ("true".toList ++ rest) = .done "true" rest :=
      orElse_of_done (word_append "true" rest)
    show boolean ("true".toList ++ rest) = _
    rw [boolean, bind_of_done hword, bind_of_done hend]
    rfl
  | false =>
    have hword : (word "true" <|> word "false") ("false".toList ++ rest) = .done "false" rest :=
      orElse_of_fails (fails_word rfl) (word_append "false" rest)
    show boolean ("false".toList ++ rest) = _
    rw [boolean, bind_of_done hword, bind_of_done hend]
    rfl

/-- What a truth value has been read from. -/
theorem boolean_eq_done {s rest : List Char} {e : Expression} (h : boolean s = .done e rest) :
    ∃ b, e = .bool b ∧ s = e.text.toList ++ rest ∧
      ∀ c, rest.head? = some c → isIdentifierChar c = false := by
  obtain ⟨w, r, hword, h⟩ := bind_eq_done.mp h
  obtain ⟨u, r', hend, hvalue⟩ := bind_eq_done.mp h
  cases hvalue
  have hnext : r = rest ∧ ∀ c, rest.head? = some c → isIdentifierChar c = false := by
    unfold notFollowedBy at hend
    split at hend
    · cases hend
    · rename_i place hstuck
      cases hend
      refine ⟨rfl, fun c hc => ?_⟩
      by_contra hidentifier
      cases rest with
      | nil => cases hc
      | cons d rest =>
        cases hc
        rw [satisfy_of_true (Bool.not_eq_false _ ▸ hidentifier)] at hstuck
        cases hstuck
  obtain ⟨rfl, hnext⟩ := hnext
  obtain hword | ⟨-, hword⟩ := orElse_eq_done.mp hword
  · obtain ⟨rfl, rfl⟩ := word_eq_done.mp hword
    exact ⟨true, rfl, rfl, hnext⟩
  · obtain ⟨rfl, rfl⟩ := word_eq_done.mp hword
    exact ⟨false, rfl, rfl, hnext⟩

/-- A run of identifier characters without digits is not read as an amount. -/
theorem isWord_of_all {cs : List Char} (hne : cs ≠ [])
    (hall : cs.all (fun c => isIdentifierChar c && !Unicode.isDigit c) = true) :
    IsWord lexicon cs := by
  have h (c : Char) (hc : c ∈ cs) : isIdentifierChar c = true ∧ Unicode.isDigit c = false := by
    simpa using List.all_eq_true.mp hall c hc
  refine ⟨hne, fun c hc => (h c hc).1, fun c hc => (h c (List.mem_of_head? hc)).2, ?_⟩
  rintro found - d rest rfl
  exact (h d (by simp)).2

/-- The truth values are words. -/
theorem isWord_boolean (b : Bool) : IsWord lexicon (Expression.bool b).text.toList := by
  cases b <;> exact isWord_of_all (by decide) (by decide +kernel)

/-- A word is not read as an amount. -/
theorem IsWord.fails_amount [lexicon.Alphabetic] {cs : List Char} (h : IsWord lexicon cs)
    {rest : List Char} (hrest : Boundary rest) : Fails (amount lexicon) (cs ++ rest) := by
  have hchar (c : Char) (hc : c ∈ cs) : c ≠ '-' ∧ c ≠ '$' := by
    constructor <;> rintro rfl <;> exact absurd (h.identifier _ hc) (by decide +kernel)
  obtain ⟨c, m, rfl⟩ := List.exists_cons_of_ne_nil h.ne_nil
  have hc := hchar c List.mem_cons_self
  have hnumber : Fails number (c :: m ++ rest) := fails_number fun d hd => by
    cases hd
    exact ⟨h.noNumber c rfl, hc.1⟩
  have hminus : (c :: m ++ rest).head? ≠ some '-' := fun h => hc.1 (Option.some.inj h)
  refine (fails_amount_iff hminus).mpr ⟨hnumber, fun found r hfound => ?_⟩
  obtain ⟨hmem, hsplit⟩ := symbol_eq_done hfound
  have hword : ∀ d ∈ found.toList, isIdentifierChar d = true := by
    rcases Lexicon.Alphabetic.letters found hmem with rfl | ⟨-, hletters⟩
    · exact absurd (List.cons.inj hsplit).1 hc.2
    · exact fun d hd => isIdentifierChar_of_isAlpha (hletters d hd)
  -- The symbol is a part of the word, and what is left of the word does not begin a number.
  obtain ⟨n, hcs, rfl⟩ := prefix_of_append hword (fun d hd => (hrest.ends d hd).1) hsplit.symm
  cases n with
  | nil => exact hrest.noNumber
  | cons d n =>
    have hd : d ∈ c :: m := by simp [hcs]
    have htrim : trimmed (d :: n ++ rest) = d :: n ++ rest :=
      trimmed_cons (isSpace_of_isIdentifierChar (h.identifier d hd)) _
    rw [htrim]
    refine fails_number fun e he => ?_
    cases he
    exact ⟨h.noAmount found hmem d n hcs, (hchar d hd).1⟩

/-- A name is not read as a truth value. -/
theorem IsName.fails_boolean {cs : List Char} (h : IsName lexicon cs) {rest : List Char}
    (hrest : ∀ c, rest.head? = some c → isIdentifierChar c = false) :
    Fails boolean (cs ++ rest) := by
  rw [fails_iff]
  intro e r hdone
  obtain ⟨b, rfl, hsplit, hnext⟩ := boolean_eq_done hdone
  have hword : ∀ c ∈ (Expression.bool b).text.toList, isIdentifierChar c = true := by
    intro c hc
    cases b with
    | true => exact isIdentifierChar_boolean (.inl hc)
    | false => exact isIdentifierChar_boolean (.inr hc)
  obtain ⟨m, hcs, rfl⟩ := prefix_of_append hword hrest hsplit.symm
  cases m with
  | nil =>
    rw [List.append_nil] at hcs
    cases b with
    | true => exact h.noBoolean.1 hcs
    | false => exact h.noBoolean.2 hcs
  | cons d m =>
    have hd := h.identifier d (by simp [hcs])
    rw [hnext d rfl] at hd
    cases hd

/-- A run of identifier characters that is not read as an amount is a word. -/
theorem isWord_of_fails [lexicon.Alphabetic] {cs rest : List Char} (hne : cs ≠ [])
    (hidentifier : ∀ c ∈ cs, isIdentifierChar c = true)
    (hamount : Fails (amount lexicon) (cs ++ rest)) : IsWord lexicon cs := by
  obtain ⟨c, m, rfl⟩ := List.exists_cons_of_ne_nil hne
  have hminus : (c :: m ++ rest).head? ≠ some '-' := by
    rintro h
    cases h
    exact absurd (hidentifier '-' List.mem_cons_self) (by decide +kernel)
  obtain ⟨hnumber, hsymbol⟩ := (fails_amount_iff hminus).mp hamount
  refine ⟨hne, hidentifier, fun d hd => ?_, fun found hmem d n hcs => ?_⟩
  · cases hd
    by_contra hdigit
    exact number_of_isDigit (Bool.not_eq_false _ ▸ hdigit) _ hnumber
  · by_contra hdigit
    rw [Bool.not_eq_false] at hdigit
    have hfails : Fails number (trimmed (d :: n ++ rest)) := by
      refine hsymbol found _ ?_
      rw [hcs, List.append_assoc]
      refine symbol_append hmem fun e he => ?_
      cases he
      exact isAlpha_of_isDigit hdigit
    have htrim : trimmed (d :: n ++ rest) = d :: n ++ rest :=
      trimmed_cons (isSpace_of_isIdentifierChar (isIdentifierChar_of_isDigit hdigit)) _
    rw [htrim] at hfails
    exact number_of_isDigit hdigit _ hfails

/-- What is not read as a truth value is none. -/
theorem ne_boolean_of_fails {cs rest : List Char}
    (hrest : ∀ c, rest.head? = some c → isIdentifierChar c = false)
    (hboolean : Fails boolean (cs ++ rest)) : cs ≠ "true".toList ∧ cs ≠ "false".toList := by
  rw [fails_iff] at hboolean
  constructor
  · rintro rfl
    exact hboolean _ _ (boolean_text true hrest)
  · rintro rfl
    exact hboolean _ _ (boolean_text false hrest)

/-! ## Literals -/

/-- The text of an amount begins with that of its number. -/
theorem exists_amountText_eq_append (a : Amount) :
    ∃ t, a.text.toList = (numberText a.number).toList ++ t := by
  unfold Amount.text
  split
  · exact ⟨[], by simp⟩
  · exact ⟨_, by rw [String.append_assoc, String.toList_append]⟩

/-- The text of a string stands between double quotes. -/
theorem toList_text_string (text : String) :
    (Expression.string text).text.toList = '"' :: (text.toList ++ ['"']) := by
  simp [Expression.text]

/-- The text of a pattern stands between slashes. -/
theorem toList_text_regex (pattern : String) :
    (Expression.regex pattern).text.toList = '/' :: (pattern.toList ++ ['/']) := by
  simp [Expression.text]

/-- The text of an expression does not begin with a blank, and with a parenthesis only where an
operator brings it. -/
theorem text_cons {e : Expression} (hsource : e.InSource lexicon) (hwritable : e.Writable) :
    ∃ c cs, e.text.toList = c :: cs ∧ isSpace c = false ∧
      (c = '(' → ∃ o left right, e = .binary o left right) := by
  cases e with
  | amount value =>
    obtain ⟨negative, d, ds, htext, hd⟩ := numberText_cons hwritable
    obtain ⟨t, ht⟩ := exists_amountText_eq_append value
    have hdigit : isSpace d = false ∧ d ≠ '(' := by
      refine ⟨isSpace_of_isIdentifierChar (isIdentifierChar_of_isDigit hd), ?_⟩
      rintro rfl
      exact absurd hd (by decide)
    rw [Expression.text, ht, htext]
    cases negative with
    | true => exact ⟨'-', _, rfl, rfl, fun h => absurd h (by decide)⟩
    | false => exact ⟨d, _, rfl, hdigit.1, fun h => absurd h hdigit.2⟩
  | bool b => cases b <;> exact ⟨_, _, rfl, rfl, fun h => absurd h (by decide)⟩
  | string text =>
    exact ⟨'"', _, toList_text_string text, rfl, fun h => absurd h (by decide)⟩
  | regex pattern =>
    exact ⟨'/', _, toList_text_regex pattern, rfl, fun h => absurd h (by decide)⟩
  | name identifier =>
    obtain ⟨c, cs, hcs⟩ := List.exists_cons_of_ne_nil hsource.ne_nil
    have hc := hsource.identifier c (by rw [hcs]; exact List.mem_cons_self)
    refine ⟨c, cs, hcs, isSpace_of_isIdentifierChar hc, ?_⟩
    rintro rfl
    exact absurd hc (by decide +kernel)
  | binary o left right =>
    refine ⟨'(',
      left.text.toList ++ ' ' :: (o.symbol.toList ++ ' ' :: (right.text.toList ++ [')'])),
      ?_, rfl, fun _ => ⟨o, left, right, rfl⟩⟩
    simp [Expression.text]

/-- No blank is in front of an expression. -/
theorem trimmed_text {e : Expression} (hsource : e.InSource lexicon) (hwritable : e.Writable)
    (rest : List Char) : trimmed (e.text.toList ++ rest) = e.text.toList ++ rest := by
  obtain ⟨c, cs, htext, hspace, -⟩ := text_cons hsource hwritable
  rw [htext]
  exact trimmed_cons hspace _

/-- The texts that a literal or a name can be written as. A string stands between quotes of either
kind that do not occur in it, a pattern without slashes between slashes, and a name is neither a
truth value nor begins with what is read as an amount. -/
inductive IsToken (lexicon : Lexicon) : Expression → List Char → Prop
  | amount {a : Amount} {t : List Char} (ht : IsAmountText lexicon a t) :
    IsToken lexicon (.amount a) t
  | bool (b : Bool) : IsToken lexicon (.bool b) (if b then "true" else "false").toList
  | string {d : Char} {text : String} (hd : d = '"' ∨ d = '\'') (htext : d ∉ text.toList) :
    IsToken lexicon (.string text) (d :: (text.toList ++ [d]))
  | regex {pattern : String} (hpattern : '/' ∉ pattern.toList) :
    IsToken lexicon (.regex pattern) ('/' :: (pattern.toList ++ ['/']))
  | name {name : String} (hne : name.toList ≠ [])
    (hidentifier : ∀ c ∈ name.toList, isIdentifierChar c = true)
    (hboolean : name.toList ≠ "true".toList ∧ name.toList ≠ "false".toList)
    (hamount : Fails (amount lexicon) name.toList) : IsToken lexicon (.name name) name.toList

/-- A character that belongs to a name is neither a blank nor a parenthesis. -/
theorem ne_of_isIdentifierChar {c : Char} (h : isIdentifierChar c = true) :
    isSpace c = false ∧ c ≠ '(' := by
  refine ⟨isSpace_of_isIdentifierChar h, ?_⟩
  rintro rfl
  exact absurd h (by decide +kernel)

/-- No blank and no parenthesis is in front of an amount. -/
theorem IsAmountText.exists_cons [lexicon.Alphabetic] {a : Amount} {t : List Char}
    (h : IsAmountText lexicon a t) : ∃ c cs, t = c :: cs ∧ isSpace c = false ∧ c ≠ '(' := by
  have hnumber {x : Float} (hx : x.isFinite = true) (s : List Char) :
      ∃ c cs, (numberText x).toList ++ s = c :: cs ∧ isSpace c = false ∧ c ≠ '(' := by
    obtain ⟨negative, d, ds, htext, hd⟩ := numberText_cons hx
    rw [htext]
    cases negative with
    | true => exact ⟨'-', _, rfl, by decide⟩
    | false => exact ⟨d, _, rfl, ne_of_isIdentifierChar (isIdentifierChar_of_isDigit hd)⟩
  cases h with
  | number hx => simpa using hnumber hx []
  | symbolBehind hx => exact hnumber hx _
  | symbolInFront _ hfound =>
    obtain ⟨c, cs, hcs, hc⟩ := Lexicon.exists_eq_cons hfound
    rw [hcs]
    refine ⟨c, _, rfl, ?_⟩
    rcases hc with rfl | hc
    · decide
    · exact ne_of_isIdentifierChar (isIdentifierChar_of_isAlpha hc)
  | signInFront => exact ⟨'-', _, rfl, by decide⟩

/-- No blank and no parenthesis is in front of a literal or a name. -/
theorem IsToken.exists_cons [lexicon.Alphabetic] {e : Expression} {t : List Char}
    (h : IsToken lexicon e t) : ∃ c cs, t = c :: cs ∧ isSpace c = false ∧ c ≠ '(' := by
  cases h with
  | amount ht => exact ht.exists_cons
  | bool b => cases b <;> exact ⟨_, _, rfl, by decide⟩
  | string hd => exact ⟨_, _, rfl, by rcases hd with rfl | rfl <;> decide⟩
  | regex => exact ⟨'/', _, rfl, by decide⟩
  | @name name hne hidentifier =>
    obtain ⟨c, cs, hcs⟩ := List.exists_cons_of_ne_nil hne
    exact ⟨c, cs, hcs, ne_of_isIdentifierChar (hidentifier c (by rw [hcs]; simp))⟩

/-- A literal or a name is read from each of its texts. -/
theorem IsToken.reads [lexicon.Alphabetic] {e : Expression} {t : List Char}
    (h : IsToken lexicon e t) {rest : List Char} (hrest : Boundary rest) :
    Reads (primitive lexicon) (t ++ rest) e rest := by
  have hend : ∀ c, rest.head? = some c → isIdentifierChar c = false := fun c hc =>
    (hrest.ends c hc).1
  cases h with
  | amount ht => exact ((ht.reads hrest).map _).orElse_left
  | @regex pattern hpattern =>
    have htext : '/' :: (pattern.toList ++ ['/']) ++ rest =
        '/' :: (pattern.toList ++ '/' :: rest) := by simp
    rw [htext]
    refine .of_done (orElse_of_fails ((fails_amount fun c hc => ?_).map _)
      (orElse_of_done (map_of_done _ (delimitedBy_eq_done.mpr ⟨rfl, hpattern⟩))))
    cases hc
    decide
  | @string d text hd hnot =>
    have htext : d :: (text.toList ++ [d]) ++ rest = d :: (text.toList ++ d :: rest) := by simp
    have hread : (delimitedBy '"' <|> delimitedBy '\'') (d :: (text.toList ++ d :: rest)) =
        .done text rest := by
      rcases hd with rfl | rfl
      · exact orElse_of_done (delimitedBy_eq_done.mpr ⟨rfl, hnot⟩)
      · exact orElse_of_fails (fails_delimitedBy (by simp)) (delimitedBy_eq_done.mpr ⟨rfl, hnot⟩)
    rw [htext]
    refine .of_done (orElse_of_fails ((fails_amount fun c hc => ?_).map _)
      (orElse_of_fails ((fails_delimitedBy ?_).map _) (orElse_of_done (map_of_done _ hread))))
    · cases hc
      rcases hd with rfl | rfl <;> decide
    · rcases hd with rfl | rfl <;> simp
  | bool b =>
    have hhead : ∀ c, ((if b then "true" else "false").toList ++ rest).head? = some c →
        c = 't' ∨ c = 'f' := by
      intro c hc
      cases b <;> cases hc
      · exact .inr rfl
      · exact .inl rfl
    have hnot (d : Char) (hd : d ≠ 't' ∧ d ≠ 'f') :
        ((if b then "true" else "false").toList ++ rest).head? ≠ some d := fun hc =>
      (hhead d hc).elim hd.1 hd.2
    exact .of_done (orElse_of_fails (((isWord_boolean b).fails_amount hrest).map _)
      (orElse_of_fails ((fails_delimitedBy (hnot _ (by decide))).map _)
        (orElse_of_fails (((fails_delimitedBy (hnot _ (by decide))).orElse
          (fails_delimitedBy (hnot _ (by decide)))).map _)
          (orElse_of_done (boolean_text b hend)))))
  | @name identifier hne hidentifier hboolean hamount =>
    rw [← List.append_nil identifier.toList] at hamount
    have hname : IsName lexicon identifier.toList :=
      ⟨isWord_of_fails hne hidentifier hamount, hboolean⟩
    have hnot (d : Char) (hd : isIdentifierChar d = false) :
        (identifier.toList ++ rest).head? ≠ some d := by
      obtain ⟨c, cs, hcs⟩ := List.exists_cons_of_ne_nil hne
      have hword := hidentifier c (by rw [hcs]; exact List.mem_cons_self)
      intro hc
      rw [hcs] at hc
      rw [Option.some.inj hc, hd] at hword
      cases hword
    exact .of_done (orElse_of_fails ((hname.fails_amount hrest).map _)
      (orElse_of_fails ((fails_delimitedBy (hnot _ (by decide +kernel))).map _)
        (orElse_of_fails (((fails_delimitedBy (hnot _ (by decide +kernel))).orElse
          (fails_delimitedBy (hnot _ (by decide +kernel)))).map _)
          (orElse_of_fails (hname.fails_boolean hend)
            (map_of_done _ (identifier_append hne hidentifier hend))))))

/-- The text of a literal or a name that can be read is one of those that it can be written as. -/
theorem isToken_text [lexicon.Alphabetic] {e : Expression} (hsource : e.InSource lexicon)
    (hwritable : e.Writable) (hatom : ∀ o left right, e ≠ .binary o left right) :
    IsToken lexicon e e.text.toList := by
  cases e with
  | amount value => exact .amount (isAmountText_text hwritable hsource)
  | bool b => exact .bool b
  | string text =>
    rw [toList_text_string]
    exact .string (.inl rfl) hwritable
  | regex pattern =>
    rw [toList_text_regex]
    exact .regex hsource
  | name identifier =>
    have hamount := hsource.fails_amount boundary_nil
    rw [List.append_nil] at hamount
    exact .name hsource.ne_nil hsource.identifier hsource.noBoolean hamount
  | binary o left right => exact absurd rfl (hatom o left right)

/-- Amounts. -/
theorem yields_amount : Yields (Expression.amount <$> amount lexicon)
    (Expression.InSource lexicon) Expression.weight := by
  intro s e rest h
  obtain ⟨a, hread, rfl⟩ := map_eq_done.mp h
  obtain ⟨hsource, hmarks⟩ := amount_eq_done hread
  exact ⟨hsource, hmarks.le⟩

/-- Literals and names. -/
theorem yields_primitive [lexicon.Alphabetic] :
    Yields (primitive lexicon) (Expression.InSource lexicon) Expression.weight := by
  intro s e rest h
  obtain h | ⟨hamount, h⟩ := orElse_eq_done.mp h
  · exact yields_amount s e rest h
  obtain h | ⟨-, h⟩ := orElse_eq_done.mp h
  · obtain ⟨pattern, hread, rfl⟩ := map_eq_done.mp h
    obtain ⟨rfl, hnot⟩ := delimitedBy_eq_done.mp hread
    refine ⟨hnot, ?_⟩
    rw [marks_cons rfl, marks_append, marks_cons rfl, Expression.weight]
  obtain h | ⟨-, h⟩ := orElse_eq_done.mp h
  · obtain ⟨text, hread, rfl⟩ := map_eq_done.mp h
    refine ⟨trivial, ?_⟩
    obtain hread | ⟨-, hread⟩ := orElse_eq_done.mp hread
    · obtain ⟨rfl, hnot⟩ := delimitedBy_eq_done.mp hread
      rw [marks_quote, marks_append, marks_quote, Expression.weight, if_neg hnot]
      omega
    · obtain ⟨rfl, -⟩ := delimitedBy_eq_done.mp hread
      rw [marks_cons rfl, marks_append, marks_cons rfl, Expression.weight]
      omega
  obtain h | ⟨hboolean, h⟩ := orElse_eq_done.mp h
  · obtain ⟨b, rfl, rfl, -⟩ := boolean_eq_done h
    refine ⟨trivial, ?_⟩
    have hnone : marks (Expression.bool b).text.toList = 0 := by cases b <;> rfl
    rw [marks_append, hnone, Expression.weight]
  · obtain ⟨identifier, hread, rfl⟩ := map_eq_done.mp h
    obtain ⟨rfl, hne, hall, hrest⟩ := identifier_eq_done hread
    have hamount' : Fails (amount lexicon) (identifier.toList ++ rest) := by
      rw [fails_iff] at hamount ⊢
      exact fun a r ha => hamount _ r (map_of_done _ ha)
    refine ⟨⟨isWord_of_fails hne hall hamount', ne_boolean_of_fails hrest hboolean⟩, ?_⟩
    rw [marks_append, Expression.weight]

end Grammar

end Daybook
