import Daybook.Proofs.Grammar.Token
import Daybook.Proofs.Lexicon

set_option relaxedAutoImplicit false
set_option autoImplicit false

/-!
# What amounts are read

An amount is written as a number and a symbol on either side of it, and read from that if nothing
follows that could go on with the number or be taken for a symbol. The symbols are those of a
lexicon, which are dollar signs and runs of letters.

## Main definitions

* `Grammar.Boundary` — what may follow an amount or a name.
* `Grammar.IsAmountText` — the texts that an amount can be written as.
* `Amount.InSource` — the amounts that can be read.
* `Amount.weight` — how many marks the symbol of an amount has.

## Main results

* `Grammar.IsAmountText.reads` — an amount is read from each of its texts.
* `Grammar.amount_text` — one of them is the text that it is written as.
* `Grammar.amount_eq_done` — what has been read as an amount.
* `Grammar.fails_amount_iff` — where no amount can be read.
-/

namespace Daybook

namespace Amount

/-- An amount of a commodity of the lexicon, or without one. -/
def InSource (lexicon : Lexicon) (a : Amount) : Prop :=
  ∀ symbol, a.commodity = .known symbol → symbol ∈ lexicon.symbols

/-- How many marks the symbol of an amount has. -/
def weight (a : Amount) : Nat :=
  Grammar.marks a.commodity.symbolText.toList

end Amount

namespace Grammar

open Grammar.Parser

variable {lexicon : Lexicon}

/-! ## Symbols -/

/-- A symbol that has been read is one of the lexicon. -/
theorem symbol_eq_done {s rest : List Char} {found : String}
    (h : symbol lexicon s = .done found rest) :
    found ∈ lexicon.symbols ∧ s = found.toList ++ rest := by
  unfold symbol at h
  split at h
  · rename_i lead hlead
    cases h
    obtain ⟨hmem, t, rfl⟩ := Lexicon.leading?_eq_some hlead
    rw [← String.length_toList, List.drop_left]
    exact ⟨hmem, rfl⟩
  · cases h

/-- A symbol is read where it stands, unless a letter follows it. -/
theorem symbol_append [lexicon.Alphabetic] {found : String} (h : found ∈ lexicon.symbols)
    {s : List Char} (hs : ∀ c, s.head? = some c → c.isAlpha = false) :
    symbol lexicon (found.toList ++ s) = .done found s := by
  rw [symbol, Lexicon.leading?_append h hs]
  dsimp only
  rw [← String.length_toList, List.drop_left]

/-- No symbol can be read where neither a letter nor a dollar sign stands. -/
theorem fails_symbol [lexicon.Alphabetic] {s : List Char}
    (h : ∀ c, s.head? = some c → c.isAlpha = false ∧ c ≠ '$') : Fails (symbol lexicon) s :=
  ⟨s, by rw [symbol, Lexicon.leading?_eq_none h]⟩

/-- A symbol does not begin with a blank. -/
theorem trimmed_symbol [lexicon.Alphabetic] {found : String} (h : found ∈ lexicon.symbols)
    (s : List Char) : trimmed (found.toList ++ s) = found.toList ++ s := by
  obtain ⟨c, cs, hcs, hc⟩ := Lexicon.exists_eq_cons h
  rw [hcs]
  refine trimmed_cons ?_ _
  rcases hc with rfl | hc
  · rfl
  · exact isSpace_of_isIdentifierChar (isIdentifierChar_of_isAlpha hc)

/-- A symbol begins with no character of a number. -/
theorem ne_of_head?_symbol [lexicon.Alphabetic] {found : String} (h : found ∈ lexicon.symbols)
    {s : List Char} {c : Char} (hc : (found.toList ++ s).head? = some c) :
    Unicode.isDigit c = false ∧ c ≠ ',' ∧ c ≠ '.' ∧ c ≠ '-' := by
  obtain ⟨d, ds, hd, hfirst⟩ := Lexicon.exists_eq_cons h
  rw [hd] at hc
  cases hc
  rcases hfirst with rfl | hletter
  · decide
  · refine ⟨?_, ?_, ?_, ?_⟩
    · by_contra hdigit
      rw [isAlpha_of_isDigit (Bool.not_eq_false _ ▸ hdigit)] at hletter
      cases hletter
    all_goals
      rintro rfl
      exact absurd hletter (by decide)

/-! ## Boundaries -/

/-- What may follow an amount or a name: no character that would go on with it, and behind blanks
neither the beginning of a symbol, which would belong to the number in front, nor a number, which
would belong to the symbol in front. -/
structure Boundary (rest : List Char) : Prop where
  ends : ∀ c, rest.head? = some c → isIdentifierChar c = false ∧ c ≠ ',' ∧ c ≠ '.'
  noSymbol : ∀ c, (trimmed rest).head? = some c → c.isAlpha = false ∧ c ≠ '$'
  noNumber : Fails number (trimmed rest)

/-- No number goes on at a boundary. -/
theorem Boundary.noDigit {rest : List Char} (h : Boundary rest) {c : Char}
    (hc : rest.head? = some c) : Unicode.isDigit c = false ∧ c ≠ ',' ∧ c ≠ '.' :=
  ⟨isDigit_of_isIdentifierChar (h.ends c hc).1, (h.ends c hc).2⟩

/-- No symbol goes on at a boundary. -/
theorem Boundary.noLetter {rest : List Char} (h : Boundary rest) {c : Char}
    (hc : rest.head? = some c) : c.isAlpha = false :=
  isAlpha_of_isIdentifierChar (h.ends c hc).1

/-- A character that belongs neither to a name nor to an amount makes a boundary. -/
theorem boundary_cons {c : Char} (hword : isIdentifierChar c = false) (hspace : isSpace c = false)
    (hother : c ≠ ',' ∧ c ≠ '.' ∧ c ≠ '-' ∧ c ≠ '$') (s : List Char) : Boundary (c :: s) := by
  have htrim : trimmed (c :: s) = c :: s := trimmed_cons hspace s
  refine ⟨fun d hd => ?_, ?_, ?_⟩
  · cases hd
    exact ⟨hword, hother.1, hother.2.1⟩
  · rw [htrim]
    intro d hd
    cases hd
    exact ⟨isAlpha_of_isIdentifierChar hword, hother.2.2.2⟩
  · rw [htrim]
    refine fails_number fun d hd => ?_
    cases hd
    exact ⟨isDigit_of_isIdentifierChar hword, hother.2.2.1⟩

/-- Blanks make a boundary in front of what neither a symbol nor a number begins with. -/
theorem boundary_blanks {blanks s : List Char} (hne : blanks ≠ [])
    (hblanks : ∀ c ∈ blanks, isSpace c = true)
    (hsymbol : ∀ c, (trimmed s).head? = some c → c.isAlpha = false ∧ c ≠ '$')
    (hnumber : Fails number (trimmed s)) : Boundary (blanks ++ s) := by
  have htrim : trimmed (blanks ++ s) = trimmed s := trimmed_append hblanks
  refine ⟨fun c hc => ?_, ?_, ?_⟩
  · rw [List.head?_append_of_ne_nil _ hne] at hc
    have hspace := hblanks c (List.mem_of_head? hc)
    refine ⟨isIdentifierChar_of_isSpace hspace, ?_, ?_⟩ <;> rintro rfl <;> cases hspace
  · rwa [htrim]
  · rwa [htrim]

/-- Blanks in front of a boundary make one. -/
theorem Boundary.blanks {blanks rest : List Char} (h : Boundary rest)
    (hblanks : ∀ c ∈ blanks, isSpace c = true) : Boundary (blanks ++ rest) := by
  by_cases hne : blanks = []
  · rwa [hne]
  · exact boundary_blanks hne hblanks h.noSymbol h.noNumber

/-- A space in front of a boundary makes one. -/
theorem Boundary.space {rest : List Char} (h : Boundary rest) : Boundary (' ' :: rest) := by
  have hblank : ∀ c ∈ [' '], isSpace c = true := by simp [isSpace]
  exact h.blanks hblank

/-- The end of the text is a boundary. -/
theorem boundary_nil : Boundary [] :=
  ⟨nofun, nofun, fails_number nofun⟩

/-! ## Amounts -/

/-- The text of a finite double begins with a digit, in front of which a minus sign may stand. -/
theorem numberText_cons {x : Float} (hx : x.isFinite = true) :
    ∃ negative d ds, (numberText x).toList = (if negative = true then ['-'] else []) ++ d :: ds ∧
      Unicode.isDigit d = true := by
  obtain ⟨negative, m, e, hparts⟩ := Binary64.isFinite_iff.mp hx
  obtain ⟨whole, fraction, htext, hwhole, -⟩ := numberText_eq hparts
  obtain ⟨d, ds, rfl⟩ := List.exists_cons_of_ne_nil hwhole.1
  exact ⟨negative, d, ds ++ if fraction = [] then [] else '.' :: fraction, htext,
    hwhole.2 d List.mem_cons_self⟩

/-- The text of a finite double begins with neither a blank nor a letter. -/
theorem head?_numberText {x : Float} (hx : x.isFinite = true) {s : List Char} {c : Char}
    (hc : ((numberText x).toList ++ s).head? = some c) : isSpace c = false ∧ c.isAlpha = false := by
  obtain ⟨negative, d, ds, htext, hd⟩ := numberText_cons hx
  rw [htext] at hc
  cases negative with
  | true =>
    cases hc
    decide
  | false =>
    cases hc
    exact ⟨isSpace_of_isIdentifierChar (isIdentifierChar_of_isDigit hd), isAlpha_of_isDigit hd⟩

/-- No blank is in front of the text of a finite double. -/
theorem trimmed_numberText {x : Float} (hx : x.isFinite = true) (s : List Char) :
    trimmed ((numberText x).toList ++ s) = (numberText x).toList ++ s :=
  trimmed_of_head fun _ hc => (head?_numberText hx hc).1

/-- No symbol is in front of the text of a finite double. -/
theorem fails_amountAfterSymbol_numberText [lexicon.Alphabetic] {x : Float}
    (hx : x.isFinite = true) (s : List Char) :
    Fails (amountAfterSymbol lexicon) ((numberText x).toList ++ s) := by
  obtain ⟨negative, d, ds, htext, hd⟩ := numberText_cons hx
  have htrim : trimmed (d :: (ds ++ s)) = d :: (ds ++ s) :=
    trimmed_cons (isSpace_of_isIdentifierChar (isIdentifierChar_of_isDigit hd)) _
  have hminus : optional (lexeme (char '-')) ((numberText x).toList ++ s) =
      .done (if negative then some '-' else none) (d :: (ds ++ s)) := by
    rw [htext]
    cases negative with
    | false =>
      refine optional_of_fails (lexeme_fails (fails_char ?_))
      simpa using (ne_of_isDigit hd).1
    | true =>
      refine optional_of_done ?_
      rw [← htrim]
      exact lexeme_of_done (char_cons_self '-' _)
  rw [amountAfterSymbol]
  refine fails_bind_of_done hminus ((lexeme_fails (fails_symbol fun c hc => ?_)).bind _)
  cases hc
  refine ⟨isAlpha_of_isDigit hd, ?_⟩
  rintro rfl
  exact absurd hd (by decide)

/-- The texts that an amount can be written as: a number by itself, or a number and a symbol on
either side of it. In front of a symbol that comes first, a minus sign may stand for the opposite
amount. There may be blanks between all of them. -/
inductive IsAmountText (lexicon : Lexicon) : Amount → List Char → Prop
  | number {x : Float} (hx : x.isFinite = true) :
    IsAmountText lexicon ⟨x, .unknown⟩ (numberText x).toList
  | symbolBehind {x : Float} {found : String} {blanks : List Char} (hx : x.isFinite = true)
    (hfound : found ∈ lexicon.symbols) (hblanks : ∀ c ∈ blanks, isSpace c = true) :
    IsAmountText lexicon ⟨x, .known found⟩ ((numberText x).toList ++ (blanks ++ found.toList))
  | symbolInFront {x : Float} {found : String} {blanks : List Char} (hx : x.isFinite = true)
    (hfound : found ∈ lexicon.symbols) (hblanks : ∀ c ∈ blanks, isSpace c = true) :
    IsAmountText lexicon ⟨x, .known found⟩ (found.toList ++ (blanks ++ (numberText x).toList))
  | signInFront {x : Float} {found : String} {before blanks : List Char} (hx : x.isFinite = true)
    (hfound : found ∈ lexicon.symbols) (hbefore : ∀ c ∈ before, isSpace c = true)
    (hblanks : ∀ c ∈ blanks, isSpace c = true) :
    IsAmountText lexicon (Amount.negate ⟨x, .known found⟩)
      ('-' :: (before ++ (found.toList ++ (blanks ++ (numberText x).toList))))

/-- A number is read in front of a symbol, or where none is. -/
theorem amountBeforeSymbol_number {x : Float} (hx : x.isFinite = true) {rest r : List Char}
    {found : Option String}
    (hrest : ∀ c, rest.head? = some c → Unicode.isDigit c = false ∧ c ≠ ',' ∧ c ≠ '.')
    (hfound : optional (symbol lexicon) (trimmed rest) = .done found r) :
    amountBeforeSymbol lexicon ((numberText x).toList ++ rest) = .done ⟨x, .ofSymbol? found⟩ r := by
  have hnumber : lexeme number ((numberText x).toList ++ rest) = .done x (trimmed rest) :=
    lexeme_of_done (number_numberText hx hrest)
  rw [amountBeforeSymbol, bind_of_done hnumber, bind_of_done hfound, pure_apply]

/-- A symbol is read in front of a number. -/
theorem symbol_number [lexicon.Alphabetic] {x : Float} (hx : x.isFinite = true) {found : String}
    (hfound : found ∈ lexicon.symbols) {blanks : List Char}
    (hblanks : ∀ c ∈ blanks, isSpace c = true) (rest : List Char) :
    lexeme (symbol lexicon) (found.toList ++ (blanks ++ ((numberText x).toList ++ rest))) =
      .done found ((numberText x).toList ++ rest) := by
  have hsymbol : symbol lexicon (found.toList ++ (blanks ++ ((numberText x).toList ++ rest))) =
      .done found (blanks ++ ((numberText x).toList ++ rest)) := by
    refine symbol_append hfound fun c hc => ?_
    by_cases hne : blanks = []
    · rw [hne] at hc
      exact (head?_numberText hx hc).2
    · rw [List.head?_append_of_ne_nil _ hne] at hc
      exact isAlpha_of_isIdentifierChar
        (isIdentifierChar_of_isSpace (hblanks c (List.mem_of_head? hc)))
  rw [lexeme_of_done hsymbol, trimmed_append hblanks, trimmed_numberText hx]

/-- An amount is read from each of its texts. -/
theorem IsAmountText.reads [lexicon.Alphabetic] {a : Amount} {t : List Char}
    (h : IsAmountText lexicon a t) {rest : List Char} (hrest : Boundary rest) :
    Reads (amount lexicon) (t ++ rest) a rest := by
  have hend (c : Char) (hc : rest.head? = some c) := hrest.noDigit hc
  cases h with
  | number hx =>
    have hnone : optional (symbol lexicon) (trimmed rest) = .done none (trimmed rest) :=
      optional_of_fails (fails_symbol hrest.noSymbol)
    exact ⟨trimmed rest, orElse_of_fails (fails_amountAfterSymbol_numberText hx _)
      (amountBeforeSymbol_number hx hend hnone), trimmed_trimmed rest⟩
  | @symbolBehind x found blanks hx hfound hblanks =>
    have hsymbol : optional (symbol lexicon) (trimmed (blanks ++ (found.toList ++ rest))) =
        .done (some found) rest := by
      rw [trimmed_append hblanks, trimmed_symbol hfound]
      exact optional_of_done (symbol_append hfound fun c hc => hrest.noLetter hc)
    rw [List.append_assoc, List.append_assoc]
    refine .of_done (orElse_of_fails (fails_amountAfterSymbol_numberText hx _)
      (amountBeforeSymbol_number hx (fun c hc => ?_) hsymbol))
    by_cases hne : blanks = []
    · rw [hne] at hc
      obtain ⟨hdigit, hcomma, hpoint, -⟩ := ne_of_head?_symbol hfound hc
      exact ⟨hdigit, hcomma, hpoint⟩
    · rw [List.head?_append_of_ne_nil _ hne] at hc
      have hspace := hblanks c (List.mem_of_head? hc)
      refine ⟨isDigit_of_isIdentifierChar (isIdentifierChar_of_isSpace hspace), ?_, ?_⟩ <;>
        rintro rfl <;> cases hspace
  | @symbolInFront x found blanks hx hfound hblanks =>
    have hnone : optional (lexeme (char '-')) (found.toList ++ (blanks ++ ((numberText x).toList ++
        rest))) = .done none (found.toList ++ (blanks ++ ((numberText x).toList ++ rest))) := by
      refine optional_of_fails (lexeme_fails (fails_char fun hc => ?_))
      exact (ne_of_head?_symbol hfound hc).2.2.2 rfl
    rw [List.append_assoc, List.append_assoc]
    refine .of_done (orElse_of_done ?_)
    rw [amountAfterSymbol, bind_of_done hnone, bind_of_done (symbol_number hx hfound hblanks rest),
      bind_of_done (number_numberText hx hend), pure_apply]
    rfl
  | @signInFront x found before blanks hx hfound hbefore hblanks =>
    have hminus : optional (lexeme (char '-')) ('-' :: (before ++ (found.toList ++ (blanks ++
        ((numberText x).toList ++ rest))))) =
          .done (some '-') (found.toList ++ (blanks ++ ((numberText x).toList ++ rest))) := by
      refine optional_of_done ?_
      rw [lexeme_of_done (char_cons_self '-' _), trimmed_append hbefore, trimmed_symbol hfound]
    rw [List.cons_append, List.append_assoc, List.append_assoc, List.append_assoc]
    refine .of_done (orElse_of_done ?_)
    rw [amountAfterSymbol, bind_of_done hminus, bind_of_done (symbol_number hx hfound hblanks rest),
      bind_of_done (number_numberText hx hend), pure_apply]
    rfl

/-- The text of an amount that can be read is one of those that it can be written as. -/
theorem isAmountText_text {a : Amount} (hfinite : a.number.isFinite = true)
    (hsource : a.InSource lexicon) : IsAmountText lexicon a a.text.toList := by
  obtain ⟨x, commodity⟩ := a
  cases commodity with
  | unknown => exact .number hfinite
  | known found =>
    have htext : (Amount.text ⟨x, .known found⟩).toList =
        (numberText x).toList ++ ([' '] ++ found.toList) := by
      simp [Amount.text]
    rw [htext]
    exact .symbolBehind hfinite (hsource found rfl) (by simp [isSpace])

/-- An amount is read from its text. -/
theorem amount_text [lexicon.Alphabetic] {a : Amount} (hfinite : a.number.isFinite = true)
    (hsource : a.InSource lexicon) {rest : List Char} (hrest : Boundary rest) :
    Reads (amount lexicon) (a.text.toList ++ rest) a rest :=
  (isAmountText_text hfinite hsource).reads hrest

/-- An amount that has been read has a symbol of the lexicon or none, and no marks but those of the
symbol. -/
theorem amount_eq_done {s rest : List Char} {a : Amount} (h : amount lexicon s = .done a rest) :
    a.InSource lexicon ∧ marks s = a.weight + marks rest := by
  obtain h | ⟨-, h⟩ := orElse_eq_done.mp h
  · obtain ⟨minus, r₁, hminus, h⟩ := bind_eq_done.mp h
    obtain ⟨found, r₂, hfound, h⟩ := bind_eq_done.mp h
    obtain ⟨x, r₃, hnumber, hvalue⟩ := bind_eq_done.mp h
    cases hvalue
    obtain ⟨r, hsymbol, rfl⟩ := lexeme_eq_done.mp hfound
    obtain ⟨hmem, rfl⟩ := symbol_eq_done hsymbol
    constructor
    · intro symbol hsymbol
      split_ifs at hsymbol <;> cases hsymbol <;> exact hmem
    · have hsign : marks s = marks (found.toList ++ r) := by
        obtain ⟨c, hc, -⟩ | ⟨-, -, rfl⟩ := optional_eq_done.mp hminus
        · obtain ⟨r', hc, htrim⟩ := lexeme_eq_done.mp hc
          obtain ⟨rfl, -⟩ := char_eq_done.mp hc
          rw [htrim, marks_cons rfl, marks_trimmed]
        · rfl
      rw [hsign, marks_append, ← marks_number hnumber, marks_trimmed]
      split_ifs <;> rfl
  · obtain ⟨x, r₁, hnumber, h⟩ := bind_eq_done.mp h
    obtain ⟨found, r₂, hfound, hvalue⟩ := bind_eq_done.mp h
    cases hvalue
    obtain ⟨r, hdigits, rfl⟩ := lexeme_eq_done.mp hnumber
    rw [marks_number hdigits]
    obtain ⟨sym, hsym, rfl⟩ | ⟨-, rfl, rfl⟩ := optional_eq_done.mp hfound
    · obtain ⟨hmem, hsplit⟩ := symbol_eq_done hsym
      refine ⟨fun symbol hsymbol => ?_, ?_⟩
      · cases hsymbol
        exact hmem
      · rw [← marks_trimmed, hsplit, marks_append]
        rfl
    · refine ⟨fun symbol hsymbol => ?_, (marks_trimmed r).symm.trans (Nat.zero_add _).symm⟩
      cases hsymbol

/-- Where no minus sign stands, an amount can be read exactly if a number can, or a symbol and a
number behind it. -/
theorem fails_amount_iff {s : List Char} (hminus : s.head? ≠ some '-') :
    Fails (amount lexicon) s ↔ Fails number s ∧
      ∀ found r, symbol lexicon s = .done found r → Fails number (trimmed r) := by
  have hnone : optional (lexeme (char '-')) s = .done none s :=
    optional_of_fails (lexeme_fails (fails_char hminus))
  constructor
  · intro h
    rw [fails_iff] at h
    constructor
    · rw [fails_iff]
      intro x r hnumber
      obtain ⟨found, r', hfound⟩ := exists_optional_eq_done (symbol lexicon) (trimmed r)
      have hbefore : amountBeforeSymbol lexicon s = .done ⟨x, .ofSymbol? found⟩ r' := by
        rw [amountBeforeSymbol, bind_of_done (lexeme_of_done hnumber), bind_of_done hfound,
          pure_apply]
      cases hafter : amountAfterSymbol lexicon s with
      | done a rest => exact h a rest (orElse_of_done hafter)
      | stuck place => exact h _ r' (orElse_of_fails ⟨place, hafter⟩ hbefore)
    · intro found r hfound
      rw [fails_iff]
      intro x r' hnumber
      refine h ⟨x, .known found⟩ r' (orElse_of_done ?_)
      rw [amountAfterSymbol, bind_of_done hnone, bind_of_done (lexeme_of_done hfound),
        bind_of_done hnumber, pure_apply]
      rfl
  · rintro ⟨hnumber, hsymbol⟩
    refine Fails.orElse ?_ ((lexeme_fails hnumber).bind _)
    rw [amountAfterSymbol]
    refine fails_bind_of_done hnone ?_
    cases hfound : symbol lexicon s with
    | done found r =>
      exact fails_bind_of_done (lexeme_of_done hfound) ((hsymbol found r hfound).bind _)
    | stuck place => exact (lexeme_fails ⟨place, hfound⟩).bind _

/-- No amount begins with a character that neither a number nor a symbol begins with. -/
theorem fails_amount [lexicon.Alphabetic] {s : List Char} (h : ∀ c, s.head? = some c →
    (Unicode.isDigit c = false ∧ c ≠ '-') ∧ c.isAlpha = false ∧ c ≠ '$') :
    Fails (amount lexicon) s := by
  refine (fails_amount_iff fun hminus => (h _ hminus).1.2 rfl).mpr
    ⟨fails_number fun c hc => (h c hc).1, fun found r hfound => ?_⟩
  obtain ⟨place, hstuck⟩ : Fails (symbol lexicon) s := fails_symbol fun c hc => (h c hc).2
  rw [hfound] at hstuck
  cases hstuck

end Grammar

end Daybook
