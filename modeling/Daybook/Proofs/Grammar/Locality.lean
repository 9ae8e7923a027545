import Daybook.Proofs.Grammar.Expression

set_option relaxedAutoImplicit false
set_option autoImplicit false

/-!
# What parsers do not look at

A further line behind a text changes nothing in what is read from the text. For most parsers it
changes nothing in what cannot be read either. Texts between delimiters are the exception: they run
over line ends, and so a further line may complete one that could not be read.

## Main definitions

* `Parser.Carries` — what one parser reads from a text, another reads from the text with more
  behind it.
* `Parser.Stable` — neither what is read nor what cannot be read depends on what stands behind.
* `Lexicon.HasPlainSymbols` — no symbol has a line feed or begins with a parenthesis.

## Main results

* `Parser.Stable.bind`, `Parser.Stable.orElse`, `Parser.Carries.orElse`, `Parser.repeated_append` —
  parsers made of others.
* `Grammar.stable_amount`, `Grammar.stable_date`, `Grammar.stable_account` — tokens.
* `Grammar.carries_expression` — expressions.

## Design

Expressions are read within a depth that is bounded by the length of the text, and so the parser of
the longer text is another one. This is why a property of two parsers stands in front.
-/

namespace Daybook

/-- No symbol of a lexicon has a line feed or begins with a parenthesis. -/
structure Lexicon.HasPlainSymbols (lexicon : Lexicon) : Prop where
  noLineFeed : ∀ symbol ∈ lexicon.symbols, '\n' ∉ symbol.toList
  noParenthesis : ∀ symbol ∈ lexicon.symbols, symbol.toList.head? ≠ some '('

namespace Grammar

namespace Parser

variable {α β : Type} {t : List Char}

/-- What `p` reads from a text, `q` reads from the text with `t` behind it. -/
def Carries (t : List Char) (p q : Parser α) : Prop :=
  ∀ ⦃s rest : List Char⦄ ⦃a : α⦄, p s = .done a rest → q (s ++ t) = .done a (rest ++ t)

/-- What a parser reads, and what it cannot read, is the same with `t` behind the text. -/
structure Stable (t : List Char) (p : Parser α) : Prop where
  carries : Carries t p p
  fails : ∀ ⦃s : List Char⦄, Fails p s → Fails p (s ++ t)

/-- What cannot be read with more behind it cannot be read without it. -/
theorem Carries.fails {p q : Parser α} (h : Carries t p q) {s : List Char}
    (hs : Fails q (s ++ t)) : Fails p s :=
  fails_iff.mpr fun _ _ hread => fails_iff.mp hs _ _ (h hread)

/-! ## Sequence -/

/-- Reading nothing. -/
theorem stable_pure (a : α) : Stable t (pure a : Parser α) := by
  refine ⟨fun s rest b h => ?_, fun s ⟨place, h⟩ => by cases h⟩
  cases h
  rfl

/-- Two parsers one after the other. -/
theorem Carries.bind {p p' : Parser α} {f f' : α → Parser β} (hp : Carries t p p')
    (hf : ∀ a, Carries t (f a) (f' a)) : Carries t (p >>= f) (p' >>= f') := by
  intro s rest b h
  obtain ⟨a, r, ha, hb⟩ := bind_eq_done.mp h
  rw [bind_of_done (hp ha)]
  exact hf a hb

/-- Two parsers one after the other. -/
theorem Stable.bind {p : Parser α} {f : α → Parser β} (hp : Stable t p)
    (hf : ∀ a, Stable t (f a)) : Stable t (p >>= f) := by
  refine ⟨hp.carries.bind fun a => (hf a).carries, fun s h => ?_⟩
  cases hs : p s with
  | stuck place => exact (hp.fails ⟨place, hs⟩).bind f
  | done a r =>
    rw [Fails, bind_of_done hs] at h
    exact fails_bind_of_done (hp.carries hs) ((hf a).fails h)

/-- A mapped parser. -/
theorem Carries.map {p p' : Parser α} (hp : Carries t p p') (f : α → β) :
    Carries t (f <$> p) (f <$> p') :=
  hp.bind fun _ => (stable_pure _).carries

/-- A mapped parser. -/
theorem Stable.map {p : Parser α} (hp : Stable t p) (f : α → β) : Stable t (f <$> p) :=
  hp.bind fun _ => stable_pure _

/-! ## Choice -/

/-- A choice, where the first alternative goes on failing on what the second one reads. -/
theorem Carries.orElse {p p' q q' : Parser α} (hp : Carries t p p') (hq : Carries t q q')
    (h : ∀ s a rest, Fails p s → q s = .done a rest → Fails p' (s ++ t)) :
    Carries t (p <|> q) (p' <|> q') := by
  intro s rest a hs
  obtain hs | ⟨hfails, hs⟩ := orElse_eq_done.mp hs
  · exact orElse_of_done (hp hs)
  · exact orElse_of_fails (h s a rest hfails hs) (hq hs)

/-- What a choice cannot read, none of its alternatives can. -/
theorem fails_of_fails_orElse {p q : Parser α} {s : List Char} (h : Fails (p <|> q) s) :
    Fails p s ∧ Fails q s := by
  rw [fails_iff, fails_iff, ← forall_and]
  refine fun a => forall_and.mp fun rest => not_or.mp fun hdone => ?_
  refine fails_iff.mp h a rest (orElse_eq_done.mpr ?_)
  by_cases hp : p s = .done a rest
  · exact .inl hp
  · cases hs : p s with
    | done b r => exact absurd (orElse_of_done hs) (fails_iff.mp h b r)
    | stuck place => exact .inr ⟨⟨place, hs⟩, hdone.resolve_left hp⟩

/-- A choice. -/
theorem Stable.orElse {p q : Parser α} (hp : Stable t p) (hq : Stable t q) :
    Stable t (p <|> q) := by
  refine ⟨hp.carries.orElse hq.carries fun s a rest hs _ => hp.fails hs, fun s h => ?_⟩
  obtain ⟨hfirst, hsecond⟩ := fails_of_fails_orElse h
  exact (hp.fails hfirst).orElse (hq.fails hsecond)

/-- The first alternative of a choice is settled, and the second one goes on reading. -/
theorem Stable.orElse_append {p q : Parser α} (hp : Stable t p) {s rest : List Char} {a : α}
    (h : (p <|> q) s = .done a rest) (hq : q s = .done a rest → q (s ++ t) = .done a (rest ++ t)) :
    (p <|> q) (s ++ t) = .done a (rest ++ t) := by
  obtain h | ⟨hfails, h⟩ := orElse_eq_done.mp h
  · exact orElse_of_done (hp.carries h)
  · exact orElse_of_fails (hp.fails hfails) (hq h)

/-- What may be left out. -/
theorem Stable.optional {p : Parser α} (hp : Stable t p) : Stable t (optional p) := by
  constructor
  · intro s rest a? h
    obtain ⟨a, hread, rfl⟩ | ⟨hfails, rfl, rfl⟩ := optional_eq_done.mp h
    · exact optional_of_done (hp.carries hread)
    · exact optional_of_fails (hp.fails hfails)
  · rintro s ⟨place, h⟩
    obtain ⟨a?, rest, h'⟩ := exists_optional_eq_done p s
    rw [h] at h'
    cases h'

/-- What must not follow. -/
theorem Stable.notFollowedBy {p : Parser α} (hp : Stable t p) : Stable t (notFollowedBy p) := by
  constructor
  · intro s rest u h
    unfold Parser.notFollowedBy at h
    split at h
    · cases h
    · rename_i place hs
      cases h
      obtain ⟨place', hs'⟩ := hp.fails ⟨place, hs⟩
      rw [Parser.notFollowedBy, hs']
  · rintro s ⟨place, h⟩
    unfold Parser.notFollowedBy at h
    split at h
    · rename_i a rest hs
      exact ⟨s ++ t, by rw [Parser.notFollowedBy, hp.carries hs]⟩
    · cases h

/-- A condition on the value. -/
theorem Stable.checked {p : Parser α} (hp : Stable t p) (f : α → Option β) :
    Stable t (checked p f) := by
  constructor
  · intro s rest b h
    obtain ⟨a, h, hf⟩ := checked_eq_done.mp h
    exact checked_eq_done.mpr ⟨a, hp.carries h, hf⟩
  · rintro s ⟨place, h⟩
    rw [Parser.checked] at h
    cases hs : p s with
    | stuck place' => exact (hp.fails ⟨place', hs⟩).checked f
    | done a rest =>
      rw [hs] at h
      dsimp only at h
      cases hf : f a with
      | none => exact ⟨s ++ t, by rw [Parser.checked, hp.carries hs]; simp only [hf]⟩
      | some b =>
        rw [hf] at h
        cases h

/-! ## Single characters and runs of them -/

/-- One character. -/
theorem carries_satisfy (test : Char → Bool) : Carries t (satisfy test) (satisfy test) := by
  intro s rest c h
  obtain ⟨rfl, hc⟩ := satisfy_eq_done.mp h
  exact satisfy_of_true hc _

/-- The characters up to a place, where `stop` looks no further than to the end of the text. -/
theorem stable_takeUntil {stop : List Char → Bool} (hend : stop t = true)
    (hstop : ∀ s, s ≠ [] → stop (s ++ t) = stop s) : Stable t (takeUntil stop) := by
  refine ⟨fun s rest front h => ?_, fun s ⟨place, h⟩ => by cases h⟩
  obtain ⟨rfl, hfront, hrest⟩ := splitWhere_eq_iff.mp (takeUntil_eq_done.mp h)
  refine takeUntil_eq_done.mpr (splitWhere_eq_iff.mpr
    ⟨List.append_assoc _ _ _, fun b hb hne => ?_, .inr ?_⟩)
  · rw [← List.append_assoc, hstop _ (by simp [hne]), hfront b hb hne]
  · rcases rest with _ | ⟨c, rest⟩
    · exact hend
    · rw [hstop _ (by simp)]
      exact hrest.resolve_left (by simp)

section Newline

variable {b : List Char} {test : Char → Bool}

/-- One character, which is not a line feed. -/
theorem stable_satisfy (h : test '\n' = false) : Stable ('\n' :: b) (satisfy test) := by
  refine ⟨carries_satisfy test, fun s hs => ?_⟩
  cases s with
  | nil => exact fails_satisfy fun c hc => Option.some.inj hc ▸ h
  | cons c s =>
    obtain ⟨place, hs⟩ := hs
    rw [satisfy] at hs
    split_ifs at hs with hc
    exact fails_satisfy fun d hd => Option.some.inj hd ▸ Bool.eq_false_of_not_eq_true hc

/-- A given character, which is not a line feed. -/
theorem stable_char {c : Char} (h : c ≠ '\n') : Stable ('\n' :: b) (char c) :=
  stable_satisfy (beq_eq_false_iff_ne.mpr h.symm)

/-- A run of characters other than line feeds. -/
theorem stable_takeWhile (h : test '\n' = false) : Stable ('\n' :: b) (takeWhile test) := by
  refine ⟨fun s rest front hs => ?_, fun s ⟨place, hs⟩ => by cases hs⟩
  obtain ⟨rfl, hfront, hrest⟩ := takeWhile_eq_done.mp hs
  refine takeWhile_eq_done.mpr ⟨List.append_assoc _ _ _, hfront, fun c hc => ?_⟩
  cases rest with
  | nil => exact Option.some.inj hc ▸ h
  | cons d rest => exact hrest c hc

/-- A run of characters other than line feeds, at least one. -/
theorem stable_takeWhile1 (h : test '\n' = false) : Stable ('\n' :: b) (takeWhile1 test) :=
  (stable_satisfy h).bind fun _ => (stable_takeWhile h).bind fun _ => stable_pure _

/-- A word without line feeds stands at the beginning of a text whatever the further lines are. -/
theorem isPrefixOf_append {w : List Char} (h : '\n' ∉ w) (s : List Char) :
    w.isPrefixOf (s ++ '\n' :: b) = w.isPrefixOf s := by
  rw [Bool.eq_iff_iff, List.isPrefixOf_iff_prefix, List.isPrefixOf_iff_prefix]
  refine ⟨fun hw => ?_, fun hw => hw.trans (List.prefix_append _ _)⟩
  obtain hw' | hw' := List.prefix_or_prefix_of_prefix hw (List.prefix_append s _)
  · exact hw'
  · obtain ⟨u, rfl⟩ := hw'
    cases u with
    | nil => simp
    | cons c u =>
      rw [List.prefix_append_right_inj, List.cons_prefix_cons] at hw
      exact absurd (by simp [hw.1]) h

/-- A word without line feeds. -/
theorem stable_word {w : String} (h : '\n' ∉ w.toList) : Stable ('\n' :: b) (word w) := by
  constructor
  · intro s rest w' hs
    obtain ⟨rfl, rfl⟩ := word_eq_done.mp hs
    rw [List.append_assoc]
    exact word_append w' _
  · rintro s ⟨place, hs⟩
    refine fails_word ?_
    rw [isPrefixOf_append h]
    rw [word] at hs
    split_ifs at hs with hw
    exact Bool.eq_false_of_not_eq_true hw

/-- The first of several words without line feeds that a text begins with. -/
theorem stable_of_find? {p : Parser α} {words : List α} {text : α → String}
    (hdone : ∀ s w, words.find? (fun w => (text w).toList.isPrefixOf s) = some w →
      p s = .done w (s.drop (text w).length))
    (hstuck : ∀ s, words.find? (fun w => (text w).toList.isPrefixOf s) = none → p s = .stuck s)
    (h : ∀ w ∈ words, '\n' ∉ (text w).toList) : Stable ('\n' :: b) p := by
  have hfind (s : List Char) :
      words.find? (fun w => (text w).toList.isPrefixOf (s ++ '\n' :: b)) =
        words.find? fun w => (text w).toList.isPrefixOf s :=
    List.find?_congr fun w hw => isPrefixOf_append (h w hw) s
  constructor
  · intro s rest w hs
    cases hw : words.find? (fun w => (text w).toList.isPrefixOf s) with
    | none =>
      rw [hstuck s hw] at hs
      cases hs
    | some found =>
      rw [hdone s found hw] at hs
      cases hs
      have hprefix := List.find?_some hw
      have hle := (List.isPrefixOf_iff_prefix.mp hprefix).length_le
      rw [String.length_toList] at hle
      rw [hdone _ w ((hfind s).trans hw), List.drop_append_of_le_length hle]
  · rintro s ⟨place, hs⟩
    cases hw : words.find? (fun w => (text w).toList.isPrefixOf s) with
    | none => exact ⟨s ++ '\n' :: b, hstuck _ ((hfind s).trans hw)⟩
    | some found =>
      rw [hdone s found hw] at hs
      cases hs

end Newline

/-! ## Repetition -/

/-- A repetition goes on in the same way with more behind the text, if single readings do as long as
what they leave has a property, if this is a property of all texts that can be read and of what is
left in the end, and if nothing more can be read there. -/
theorem repeated_append {p : Parser α} {P : List Char → Prop}
    (hdone : ∀ s a rest, p s = .done a rest → P s ∧ (P rest → p (s ++ t) = .done a (rest ++ t)))
    {s back : List Char} {items : List α} (h : repeated p s = (items, back)) (hback : P back)
    (hend : Fails p (back ++ t)) : P s ∧ repeated p (s ++ t) = (items, back ++ t) := by
  induction s using repeated_induction p generalizing items with
  | stop s _ hs =>
    rw [hs] at h
    cases h
    exact ⟨hback, repeated_of_fails hend⟩
  | step s a rest hs hlt ih =>
    rw [repeated_of_done hs hlt] at h
    obtain ⟨rfl, hrest⟩ := Prod.mk.inj h
    obtain ⟨hP, hread⟩ := hdone s a rest hs
    obtain ⟨hPrest, hmore⟩ := ih (Prod.ext rfl hrest)
    refine ⟨hP, ?_⟩
    rw [repeated_of_done (hread hPrest) (by simpa using hlt), hmore]

/-- A repetition, at least once, goes on in the same way. -/
theorem many1_append {p : Parser α} {P : List Char → Prop}
    (hshorter : ∀ s a rest, p s = .done a rest → rest.length < s.length)
    (hdone : ∀ s a rest, p s = .done a rest → P s ∧ (P rest → p (s ++ t) = .done a (rest ++ t)))
    {s back : List Char} {items : List α} (h : many1 p s = .done items back) (hback : P back)
    (hend : Fails p (back ++ t)) : many1 p (s ++ t) = .done items (back ++ t) := by
  obtain ⟨item, r, items', hitem, hitems, rfl⟩ := many1_eq_done.mp h
  have hall : repeated p s = (item :: items', back) := by
    rw [repeated_of_done hitem (hshorter s item r hitem), hitems]
  exact many1_of_repeated (repeated_append hdone hall hback hend).2 (by simp)

end Parser

open Grammar.Parser

variable {b : List Char}

/-! ## Tokens -/

/-- Blanks. -/
theorem stable_spaces : Stable ('\n' :: b) spaces :=
  (stable_takeWhile rfl).bind fun _ => stable_pure _

/-- Blanks, at least one. -/
theorem stable_spaces1 : Stable ('\n' :: b) spaces1 :=
  (stable_takeWhile1 rfl).bind fun _ => stable_pure _

/-- A token and the blanks behind it. -/
theorem Parser.Carries.lexeme {α : Type} {p p' : Parser α} (hp : Carries ('\n' :: b) p p') :
    Carries ('\n' :: b) (lexeme p) (lexeme p') :=
  hp.bind fun _ => stable_spaces.carries.bind fun _ => (stable_pure _).carries

/-- A token and the blanks behind it. -/
theorem Parser.Stable.lexeme {α : Type} {p : Parser α} (hp : Stable ('\n' :: b) p) :
    Stable ('\n' :: b) (lexeme p) :=
  hp.bind fun _ => stable_spaces.bind fun _ => stable_pure _

/-- What separates two fields: a tab, or a space and another blank. -/
theorem spacer_eq_done {s rest : List Char} {u : Unit} :
    spacer s = .done u rest ↔ s = '\t' :: rest ∨ ∃ c, isSpace c = true ∧ s = ' ' :: c :: rest := by
  unfold spacer
  split
  · simp
  · rename_i c r
    by_cases hc : isSpace c = true
    · rw [if_pos hc]
      simp [hc]
    · rw [if_neg hc]
      simp [hc]
  · simp
  · rename_i htab hspace hlast
    simp only [reduceCtorEq, false_iff, not_or, not_exists, not_and]
    exact ⟨fun h => htab _ h, fun c _ h => hspace c _ h⟩

/-- What separates two fields. -/
theorem stable_spacer : Stable ('\n' :: b) spacer := by
  constructor
  · intro s rest u h
    obtain rfl | ⟨c, hc, rfl⟩ := spacer_eq_done.mp h
    · exact spacer_eq_done.mpr (.inl rfl)
    · exact spacer_eq_done.mpr (.inr ⟨c, hc, rfl⟩)
  · intro s h
    rw [fails_iff] at h ⊢
    intro u rest hread
    rcases s with _ | ⟨c, _ | ⟨d, s⟩⟩
    · cases hread
    · obtain hread | ⟨d, hd, hread⟩ := spacer_eq_done.mp hread
      · obtain ⟨rfl, -⟩ := List.cons_eq_cons.mp hread
        exact h () [] rfl
      · obtain ⟨-, hread⟩ := List.cons_eq_cons.mp hread
        obtain ⟨rfl, -⟩ := List.cons_eq_cons.mp hread
        cases hd
    · obtain hread | ⟨e, he, hread⟩ := spacer_eq_done.mp hread
      · obtain ⟨rfl, -⟩ := List.cons_eq_cons.mp hread
        exact h () (d :: s) rfl
      · obtain ⟨hspace, hread⟩ := List.cons_eq_cons.mp hread
        obtain ⟨rfl, -⟩ := List.cons_eq_cons.mp hread
        exact h () s (spacer_eq_done.mpr (.inr ⟨d, he, hspace ▸ rfl⟩))

/-- The rest of a line. -/
theorem stable_restOfLine : Stable ('\n' :: b) restOfLine :=
  (stable_takeWhile rfl).bind fun _ => stable_pure _

/-- Identifiers. -/
theorem stable_identifier : Stable ('\n' :: b) identifier :=
  (stable_takeWhile1 (by decide +kernel)).bind fun _ => stable_pure _

/-- Whole numbers. -/
theorem stable_natural : Stable ('\n' :: b) natural :=
  (stable_takeWhile1 (by decide)).checked _

/-- Numbers. -/
theorem stable_number : Stable ('\n' :: b) number :=
  (stable_char (by decide)).optional.bind fun _ => (stable_takeWhile1 (by decide)).bind fun _ =>
    (stable_takeWhile (by decide)).bind fun _ =>
      ((stable_char (by decide)).bind fun _ => stable_takeWhile1 (by decide)).optional.bind
        fun _ => stable_pure _

/-- Texts between delimiters, once they are complete. -/
theorem carries_delimitedBy (d : Char) {t : List Char} :
    Carries t (delimitedBy d) (delimitedBy d) := by
  intro s rest text h
  obtain ⟨rfl, hnot⟩ := delimitedBy_eq_done.mp h
  exact delimitedBy_eq_done.mpr ⟨by simp, hnot⟩

/-- Notes. -/
theorem stable_noteBody : Stable ('\n' :: b) noteBody :=
  (stable_char (by decide)).lexeme.bind fun _ => stable_restOfLine

/-- Parts of dates. -/
theorem stable_datePart {c : Char} (h : c ≠ '\n') : Stable ('\n' :: b) (datePart c) :=
  (stable_char h).bind fun _ => stable_natural.bind fun _ =>
    ((stable_char h).bind fun _ => stable_natural).optional.bind fun _ => stable_pure _

/-- Dates. -/
theorem stable_date : Stable ('\n' :: b) date :=
  (stable_natural.bind fun _ =>
    ((stable_datePart (by decide)).orElse (stable_datePart (by decide))).bind fun _ =>
      stable_pure _).checked _

/-- Account names. -/
theorem stable_account : Stable ('\n' :: b) account := by
  have hend (s : List Char) (hne : s ≠ []) : endsAccount (s ++ '\n' :: b) = endsAccount s := by
    rcases s with _ | ⟨c, _ | ⟨d, s⟩⟩
    · exact absurd rfl hne
    · simp [endsAccount, isBlank_lineBreak.2]
    · rfl
  have hrun := stable_takeUntil (endsAccount_newline b) hend
  constructor
  · intro s rest cs h
    cases s with
    | nil => cases h
    | cons c s =>
      rw [account] at h
      split_ifs at h with hc
      rw [List.cons_append, account, if_neg hc]
      exact hrun.carries h
  · intro s h
    cases s with
    | nil =>
      refine ⟨'\n' :: b, ?_⟩
      rw [List.nil_append, account, if_pos isBlank_lineBreak.2]
    | cons c s =>
      obtain ⟨place, h⟩ := h
      rw [account] at h
      split_ifs at h with hc
      · exact ⟨_, if_pos hc⟩
      · cases h

/-! ## Amounts -/

variable {lexicon : Lexicon}

/-- Symbols without line feeds. -/
theorem stable_symbol (h : ∀ symbol ∈ lexicon.symbols, '\n' ∉ symbol.toList) :
    Stable ('\n' :: b) (symbol lexicon) :=
  @stable_of_find? _ _ _ lexicon.symbols id
    (fun s w (hw : lexicon.leading? s = some w) => by rw [symbol, hw]; rfl)
    (fun s (hw : lexicon.leading? s = none) => by rw [symbol, hw]) h

/-- Amounts with symbols without line feeds. -/
theorem stable_amount (h : ∀ symbol ∈ lexicon.symbols, '\n' ∉ symbol.toList) :
    Stable ('\n' :: b) (amount lexicon) :=
  ((stable_char (by decide)).lexeme.optional.bind fun _ => (stable_symbol h).lexeme.bind fun _ =>
    stable_number.bind fun _ => stable_pure _).orElse
  (stable_number.lexeme.bind fun _ => (stable_symbol h).optional.bind fun _ => stable_pure _)

/-! ## Expressions -/

/-- Operators. -/
theorem stable_operatorOf (level : Precedence) :
    Stable ('\n' :: b) (operatorOf level.operators) := by
  refine @stable_of_find? _ _ _ level.operators Operator.symbol
    (fun s o ho => by rw [operatorOf, ho]) (fun s ho => by rw [operatorOf, ho]) fun o _ => ?_
  cases o <;> decide

/-- Further operands. The chain ends where no operator follows, and none begins with a line feed. -/
theorem carries_chainFrom {operand operand' : Parser Expression}
    (h : Carries ('\n' :: b) operand operand') (level : Precedence) (left : Expression) :
    Carries ('\n' :: b) (chainFrom level operand left) (chainFrom level operand' left) := by
  intro s rest e hread
  have hoperator := (stable_operatorOf (b := b) level).lexeme
  fun_induction chainFrom level operand left s with
  | case1 left s place hstop =>
    cases hread
    obtain ⟨place', hstop⟩ := hoperator.fails ⟨place, hstop⟩
    rw [chainFrom, hstop]
  | case2 left s o r hsymbol place hright => cases hread
  | case3 left s o r hsymbol right r' hright hlt ih =>
    rw [chainFrom, hoperator.carries hsymbol]
    simp only [h hright]
    rw [if_pos (by simpa using hlt)]
    exact ih hread
  | case4 left s o r hsymbol right r' hright hlt =>
    cases hread
    rw [chainFrom, hoperator.carries hsymbol]
    simp only [h hright]
    rw [if_neg (by simpa using hlt)]

/-- Operands joined by the operators of a level. -/
theorem Parser.Carries.chain {operand operand' : Parser Expression}
    (h : Carries ('\n' :: b) operand operand') (level : Precedence) :
    Carries ('\n' :: b) (chain level operand) (chain level operand') :=
  h.bind fun left => carries_chainFrom h level left

/-- Truth values. -/
theorem stable_boolean : Stable ('\n' :: b) boolean :=
  ((stable_word (by decide)).orElse (stable_word (by decide))).bind fun _ =>
    (stable_satisfy (by decide +kernel)).notFollowedBy.bind fun _ => stable_pure _

/-- A text between delimiters cannot be read where something else can, which does not begin with
the delimiter. -/
theorem fails_delimitedBy_append {α : Type} {q : Parser α} {d : Char} (hd : d ≠ '\n')
    (hq : ∀ s, Fails q (d :: s)) {s rest : List Char} {a : α} (h : q s = .done a rest) :
    Fails (delimitedBy d) (s ++ '\n' :: b) := by
  refine fails_delimitedBy ?_
  cases s with
  | nil => simpa using hd.symm
  | cons c s =>
    rintro hc
    obtain rfl : c = d := Option.some.inj hc
    exact fails_iff.mp (hq s) a rest h

/-- Literals and names. Nothing else begins with the delimiter of a literal, and so a literal that a
further line would complete is not read as something else. -/
theorem carries_primitive (h : ∀ symbol ∈ lexicon.symbols, '\n' ∉ symbol.toList) :
    Carries ('\n' :: b) (primitive lexicon) (primitive lexicon) := by
  have hnoName : ∀ c ∈ ['/', '"', '\''], isIdentifierChar c = false :=
    List.all_iff_forall_prop.mp (by decide +kernel)
  have hword {d : Char} (hd : d ∈ ['/', '"', '\'']) (s : List Char) :
      Fails (boolean <|> (Expression.name <$> identifier)) (d :: s) := by
    have hname : Fails identifier (d :: s) :=
      (fails_takeWhile1 fun c hc => Option.some.inj hc ▸ hnoName d hd).bind _
    refine Fails.orElse (((fails_word ?_).orElse (fails_word ?_)).bind _) (hname.map _)
    · obtain rfl | rfl | rfl : d = '/' ∨ d = '"' ∨ d = '\'' := by simpa using hd
      all_goals rfl
    · obtain rfl | rfl | rfl : d = '/' ∨ d = '"' ∨ d = '\'' := by simpa using hd
      all_goals rfl
  have hquoted {d : Char} (hd : d ≠ '"' ∧ d ≠ '\'') (s : List Char) :
      Fails (Expression.string <$> (delimitedBy '"' <|> delimitedBy '\'')) (d :: s) :=
    ((fails_delimitedBy (by simpa using hd.1)).orElse (fails_delimitedBy (by simpa using hd.2))).map
      _
  refine ((stable_amount h).map _).carries.orElse (((carries_delimitedBy _).map _).orElse
    ((((carries_delimitedBy _).orElse (carries_delimitedBy _) fun s a rest _ hs => ?_).map _).orElse
      (stable_boolean.orElse (stable_identifier.map _)).carries fun s a rest _ hs => ?_)
      fun s a rest _ hs => ?_) fun s a rest hs _ => ((stable_amount h).map _).fails hs
  · exact fails_delimitedBy_append (by decide) (fun s => fails_delimitedBy (by simp)) hs
  · exact ((fails_delimitedBy_append (by decide) (hword (by simp)) hs).orElse
      (fails_delimitedBy_append (by decide) (hword (by simp)) hs)).map _
  · exact (fails_delimitedBy_append (by decide)
      (fun s => (hquoted (by decide) s).orElse (hword (by simp) s)) hs).map _

/-- No literal and no name begins with a parenthesis, if no symbol does. -/
theorem fails_primitive_parenthesis
    (h : ∀ symbol ∈ lexicon.symbols, symbol.toList.head? ≠ some '(') (s : List Char) :
    Fails (primitive lexicon) ('(' :: s) := by
  have hnumber : Fails number ('(' :: s) := fails_number fun c hc => by
    obtain rfl := Option.some.inj hc
    decide
  have hsymbol : Fails (amountAfterSymbol lexicon) ('(' :: s) := by
    have hminus : optional (lexeme (char '-')) ('(' :: s) = .done none ('(' :: s) :=
      optional_of_fails (lexeme_fails (fails_char (by simp)))
    refine fails_bind_of_done hminus ?_
    cases hlead : lexicon.leading? ('(' :: s) with
    | none => exact (lexeme_fails ⟨_, by rw [symbol, hlead]⟩).bind _
    | some found =>
      -- only the empty symbol can be read, and no number follows it
      have hmem := List.mem_of_find?_eq_some hlead
      have hprefix := List.find?_some hlead
      rw [List.isPrefixOf_iff_prefix] at hprefix
      have hempty : found.length = 0 := by
        cases hcs : found.toList with
        | nil => rw [← String.length_toList, hcs, List.length_nil]
        | cons c cs =>
          rw [hcs, List.cons_prefix_cons] at hprefix
          exact absurd (by rw [hcs, hprefix.1]; rfl) (h found hmem)
      have hread : symbol lexicon ('(' :: s) = .done found ('(' :: s) := by
        rw [symbol, hlead]
        dsimp only
        rw [hempty, List.drop_zero]
      exact fails_bind_of_done (lexeme_of_done hread) (hnumber.bind _)
  have hword : Fails boolean ('(' :: s) :=
    ((fails_word rfl).orElse (fails_word rfl)).bind _
  have hname : Fails identifier ('(' :: s) := (fails_takeWhile1 fun c hc => by
    obtain rfl := Option.some.inj hc
    decide +kernel).bind _
  exact ((hsymbol.orElse ((lexeme_fails hnumber).bind _)).map _).orElse <|
    ((fails_delimitedBy (by simp)).map _).orElse <|
      (((fails_delimitedBy (by simp)).orElse (fails_delimitedBy (by simp))).map _).orElse <|
        hword.orElse (hname.map _)

/-- What stands between parentheses. -/
theorem Parser.Carries.betweenParentheses {inner inner' : Parser Expression}
    (hinner : Carries ('\n' :: b) inner inner') :
    Carries ('\n' :: b) (betweenParentheses inner) (betweenParentheses inner') :=
  (stable_char (by decide)).lexeme.carries.bind fun _ => hinner.bind fun _ =>
    (stable_char (by decide)).lexeme.carries.bind fun _ => (stable_pure _).carries

/-- Operands. What an expression in parentheses leaves unread is not read as a literal. -/
theorem carries_operandOf (h : lexicon.HasPlainSymbols) {inner inner' : Parser Expression}
    (hinner : Carries ('\n' :: b) inner inner') :
    Carries ('\n' :: b) (operandOf lexicon inner) (operandOf lexicon inner') := by
  refine hinner.betweenParentheses.orElse (carries_primitive h.noLineFeed).lexeme
    fun s e rest _ hs => ?_
  refine fails_betweenParentheses ?_
  cases s with
  | nil => simp
  | cons c s =>
    intro hc
    obtain rfl : c = '(' := Option.some.inj hc
    exact fails_iff.mp (lexeme_fails (fails_primitive_parenthesis h.noParenthesis s)) e rest hs

/-- Expressions within a depth are read within a greater one. -/
theorem carries_expressionWithin (h : lexicon.HasPlainSymbols) {depth depth' : Nat}
    (hle : depth ≤ depth') :
    Carries ('\n' :: b) (expressionWithin lexicon depth) (expressionWithin lexicon depth') := by
  induction depth generalizing depth' with
  | zero => exact fun s rest e hs => by cases hs
  | succ depth ih =>
    obtain ⟨depth', rfl⟩ : ∃ d, depth' = d + 1 := ⟨depth' - 1, by omega⟩
    have hoperand := carries_operandOf h (ih (by omega : depth ≤ depth'))
    exact ((((hoperand.chain _).chain _).chain _).chain _).chain _

/-- Expressions. -/
theorem carries_expression (h : lexicon.HasPlainSymbols) :
    Carries ('\n' :: b) (expression lexicon) (expression lexicon) := by
  intro s rest e hs
  exact carries_expressionWithin h (by simp) hs

/-- Expressions in parentheses. -/
theorem carries_parenthesized (h : lexicon.HasPlainSymbols) :
    Carries ('\n' :: b) (parenthesized lexicon) (parenthesized lexicon) :=
  (carries_expression h).betweenParentheses

end Grammar

end Daybook
