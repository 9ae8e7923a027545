import Daybook.Grammar.Token
import Daybook.Proofs.Grammar.Parser

set_option relaxedAutoImplicit false
set_option autoImplicit false

/-!
# Blanks, lines and marks

Tokens are read with the blanks behind them, and so what is left is known up to blanks only. On the
way certain characters are counted.

## Main definitions

* `Grammar.marks` — how many quotes and letters of a certain kind a text has.
* `Grammar.trimmed` — a text without the blanks in front.
* `Grammar.Reads` — a value is read, up to the blanks behind it.
* `Grammar.Yields` — what all values that a parser reads have in common.

## Main results

* `Grammar.Reads.lexeme`, `Grammar.lexeme_eq_done` — a token and the blanks behind it.
* `Grammar.indented_lines` — further lines are read up to an empty line.
* `Grammar.Yields.orElse`, `Grammar.Yields.lexeme`, `Grammar.Yields.indented` — what the parsers
  that are made of others read.

## Design

Every lemma about what has been read also says how many marks have been passed over. In the end
this tells a text that is read as what it was written for from one that is not: the marks that
the writer has added cannot all be taken away again.
-/

namespace Daybook.Grammar

open Grammar.Parser

variable {α : Type}

/-! ## Marks -/

/-- The double quote, and two letters one of which is in the text of every double that is not
finite. -/
def isMark (c : Char) : Bool :=
  c == '"' || c == 'i' || c == 'N'

/-- How many marks a text has. -/
def marks (s : List Char) : Nat :=
  s.countP isMark

/-- The marks of two texts one after the other. -/
@[simp] theorem marks_append (s t : List Char) : marks (s ++ t) = marks s + marks t :=
  List.countP_append

/-- A further character in front that is no mark. -/
theorem marks_cons {c : Char} (h : isMark c = false) (s : List Char) : marks (c :: s) = marks s :=
  List.countP_cons_of_neg (by simp [h])

/-- A double quote in front is one mark more. -/
theorem marks_quote (s : List Char) : marks ('"' :: s) = marks s + 1 :=
  List.countP_cons_of_pos rfl

/-- A text without marks. -/
theorem marks_eq_zero {s : List Char} (h : ∀ c ∈ s, isMark c = false) : marks s = 0 :=
  List.countP_eq_zero.mpr fun c hc => by simp [h c hc]

/-- A digit is no mark. -/
theorem isMark_of_isDigit {c : Char} (h : Unicode.isDigit c = true) : isMark c = false := by
  by_contra hmark
  simp only [isMark, Bool.not_eq_false, Bool.or_eq_true, beq_iff_eq] at hmark
  rcases hmark with (rfl | rfl) | rfl <;> exact absurd h (by decide)

/-- A blank is no mark. -/
theorem isMark_of_isSpace {c : Char} (h : isSpace c = true) : isMark c = false := by
  simp only [isSpace, Bool.or_eq_true, beq_iff_eq] at h
  rcases h with rfl | rfl <;> rfl

/-- Blanks have no marks. -/
theorem marks_blanks {s : List Char} (h : ∀ c ∈ s, isSpace c = true) : marks s = 0 :=
  marks_eq_zero fun c hc => isMark_of_isSpace (h c hc)

/-- The marks of texts that are put together. -/
theorem marks_flatMap (f : α → List Char) (xs : List α) :
    marks (xs.flatMap f) = (xs.map fun x => marks (f x)).sum :=
  List.countP_flatMap

/-- A word and what is left behind it have the marks of the text. -/
theorem marks_word {w found : String} {s rest : List Char} (h : word w s = .done found rest) :
    marks s = marks w.toList + marks rest := by
  obtain ⟨rfl, rfl⟩ := word_eq_done.mp h
  exact marks_append _ _

/-! ## Blanks and line ends -/

/-- A text without the blanks in front. -/
def trimmed (s : List Char) : List Char :=
  s.dropWhile isSpace

/-- A text that begins with a blank. -/
@[simp] theorem trimmed_space (s : List Char) : trimmed (' ' :: s) = trimmed s := rfl

/-- A text that does not begin with a blank. -/
theorem trimmed_of_head {s : List Char} (h : ∀ c, s.head? = some c → isSpace c = false) :
    trimmed s = s := by
  cases s with
  | nil => rfl
  | cons c s => rw [trimmed, List.dropWhile_cons_of_neg (by simp [h c rfl])]

/-- A text with a character in front that is no blank. -/
theorem trimmed_cons {c : Char} (h : isSpace c = false) (s : List Char) :
    trimmed (c :: s) = c :: s :=
  List.dropWhile_cons_of_neg (by simp [h])

/-- The end of a line is no blank. -/
@[simp] theorem trimmed_newline (s : List Char) : trimmed ('\n' :: s) = '\n' :: s := rfl

/-- A text with a run of characters in front that does not begin with a blank. -/
theorem trimmed_run {cs : List Char} (hne : cs ≠ [])
    (h : ∀ c, cs.head? = some c → isSpace c = false) (s : List Char) :
    trimmed (cs ++ s) = cs ++ s :=
  trimmed_of_head fun c hc => h c (List.head?_append_of_ne_nil cs hne ▸ hc)

/-- No blank is left in front. -/
theorem isSpace_head?_trimmed {s : List Char} {c : Char} (h : (trimmed s).head? = some c) :
    isSpace c = false := by
  have hnot := List.head?_dropWhile_not isSpace s
  rw [trimmed] at h
  rw [h] at hnot
  exact hnot

/-- Blanks are taken away once. -/
@[simp] theorem trimmed_trimmed (s : List Char) : trimmed (trimmed s) = trimmed s :=
  trimmed_of_head fun _ => isSpace_head?_trimmed

/-- Blanks in front of a text do not count. -/
theorem trimmed_append {blanks s : List Char} (h : ∀ c ∈ blanks, isSpace c = true) :
    trimmed (blanks ++ s) = trimmed s :=
  List.dropWhile_append_of_pos h

/-- Blanks in front of a text have no marks. -/
@[simp] theorem marks_trimmed (s : List Char) : marks (trimmed s) = marks s := by
  have hfront : marks (s.takeWhile isSpace) = 0 :=
    marks_blanks fun c hc => List.mem_takeWhile_imp hc
  conv_rhs => rw [← List.takeWhile_append_dropWhile (p := isSpace) (l := s)]
  rw [marks_append, hfront, Nat.zero_add, trimmed]

/-- Blanks are passed over. -/
@[simp] theorem spaces_apply (s : List Char) : spaces s = .done () (trimmed s) := rfl

/-- At least one blank is passed over. -/
theorem spaces1_append {blanks s : List Char} (hne : blanks ≠ [])
    (h : ∀ c ∈ blanks, isSpace c = true) : spaces1 (blanks ++ s) = .done () (trimmed s) := by
  have hfront : ∀ c ∈ blanks ++ s.takeWhile isSpace, isSpace c = true := fun c hc =>
    (List.mem_append.mp hc).elim (h c) List.mem_takeWhile_imp
  have hback : ∀ c, (trimmed s).head? = some c → isSpace c = false := fun _ => isSpace_head?_trimmed
  have hsplit : blanks ++ s = blanks ++ s.takeWhile isSpace ++ trimmed s := by
    rw [List.append_assoc, trimmed, List.takeWhile_append_dropWhile]
  have := takeWhile1_append (by simp [hne]) hfront hback
  rw [spaces1, hsplit, bind_of_done this, pure_apply]

/-- What is left behind blanks, of which there is at least one. -/
theorem spaces1_eq_done {s rest : List Char} {u : Unit} (h : spaces1 s = .done u rest) :
    rest = trimmed s := by
  obtain ⟨blanks, r, hblanks, h⟩ := bind_eq_done.mp h
  cases h
  obtain ⟨rfl, -, hall, hback⟩ := takeWhile1_eq_done.mp hblanks
  rw [trimmed_append hall, trimmed_of_head hback]

/-- A value is read from a text, and what is left is `rest` up to blanks in front. -/
def Reads (p : Parser α) (s : List Char) (a : α) (rest : List Char) : Prop :=
  ∃ r, p s = .done a r ∧ trimmed r = trimmed rest

/-- What is left exactly is left up to blanks. -/
theorem Reads.of_done {p : Parser α} {s rest : List Char} {a : α} (h : p s = .done a rest) :
    Reads p s a rest :=
  ⟨rest, h, rfl⟩

/-- A token and the blanks after it. -/
theorem Reads.lexeme {p : Parser α} {s rest : List Char} {a : α} (h : Reads p s a rest) :
    lexeme p s = .done a (trimmed rest) := by
  obtain ⟨r, h, hr⟩ := h
  rw [Grammar.lexeme, bind_of_done h, bind_of_done (spaces_apply r), pure_apply, hr]

/-- A token and the blanks after it, where the rest is known exactly. -/
theorem lexeme_of_done {p : Parser α} {s rest : List Char} {a : α} (h : p s = .done a rest) :
    lexeme p s = .done a (trimmed rest) :=
  (Reads.of_done h).lexeme

/-- What has been read as a token and the blanks after it. -/
theorem lexeme_eq_done {p : Parser α} {s rest : List Char} {a : α} :
    lexeme p s = .done a rest ↔ ∃ r, p s = .done a r ∧ rest = trimmed r := by
  constructor
  · intro h
    obtain ⟨a', r, ha, h⟩ := bind_eq_done.mp h
    obtain ⟨u, r', hu, h⟩ := bind_eq_done.mp h
    cases hu
    cases h
    exact ⟨r, ha, rfl⟩
  · rintro ⟨r, h, rfl⟩
    exact lexeme_of_done h

/-- A token and the blanks after it cannot be read where the token cannot. -/
theorem lexeme_fails {p : Parser α} {s : List Char} (h : Fails p s) : Fails (lexeme p) s :=
  h.bind _

/-- A mapped parser reads up to blanks what the parser does. -/
theorem Reads.map {β : Type} {p : Parser α} {s rest : List Char} {a : α} (h : Reads p s a rest)
    (f : α → β) : Reads (f <$> p) s (f a) rest := by
  obtain ⟨r, h, hr⟩ := h
  exact ⟨r, map_of_done f h, hr⟩

/-- The first alternative, up to blanks. -/
theorem Reads.orElse_left {p q : Parser α} {s rest : List Char} {a : α} (h : Reads p s a rest) :
    Reads (p <|> q) s a rest := by
  obtain ⟨r, h, hr⟩ := h
  exact ⟨r, orElse_of_done h, hr⟩

/-- The second alternative, up to blanks. -/
theorem Reads.orElse_right {p q : Parser α} {s rest : List Char} {a : α} (hp : Fails p s)
    (h : Reads q s a rest) : Reads (p <|> q) s a rest := by
  obtain ⟨r, h, hr⟩ := h
  exact ⟨r, orElse_of_fails hp h, hr⟩

/-- A further line is read after the line feed and the blanks that begin it. -/
theorem indented_line {p : Parser α} {indent s : List Char} (hne : indent ≠ [])
    (hindent : ∀ c ∈ indent, isSpace c = true) (hs : ∀ c, s.head? = some c → isSpace c = false) :
    indented p ('\n' :: (indent ++ s)) = p s := by
  have h : lineEnding ('\n' :: (indent ++ s)) = .done () (indent ++ s) := rfl
  rw [indented, bind_of_done h, bind_of_done (spaces1_append hne hindent), trimmed_of_head hs]

/-- There is no further line where a line has no blank in front. -/
theorem fails_indented {p : Parser α} {s : List Char}
    (h : ∀ c, s.head? = some c → isSpace c = false) : Fails (indented p) ('\n' :: s) := by
  have hend : lineEnding ('\n' :: s) = .done () s := rfl
  rw [indented]
  exact fails_bind_of_done hend (((fails_takeWhile1 h).bind _).bind _)

/-- Further lines are read one after another up to an empty line. -/
theorem indented_lines {β : Type} {p : Parser β} {text : α → List Char} {value : α → β}
    {items : List α} (hne : items ≠ []) (htext : ∀ x ∈ items, ∃ cs, text x = '\n' :: cs)
    (hread : ∀ x ∈ items, ∀ r, indented p (text x ++ '\n' :: r) = .done (value x) ('\n' :: r))
    (s : List Char) :
    many1 (indented p) (items.flatMap text ++ '\n' :: '\n' :: s) =
      .done (items.map value) ('\n' :: '\n' :: s) := by
  have hend : repeated (indented p) ('\n' :: '\n' :: s) = ([], '\n' :: '\n' :: s) :=
    repeated_of_fails (fails_indented fun c hc => by cases hc; rfl)
  have hitems := @repeated_flatMap_append _ _ (indented p) text value
    (fun r => ∃ r', r = '\n' :: r') items ('\n' :: '\n' :: s) ⟨_, rfl⟩
    (fun x hx r hr => by
      obtain ⟨r', rfl⟩ := hr
      exact hread x hx r')
    (fun x hx r => by
      obtain ⟨cs, hcs⟩ := htext x hx
      exact ⟨cs ++ r, by rw [hcs, List.cons_append]⟩)
    (fun x hx hnil => by
      obtain ⟨cs, hcs⟩ := htext x hx
      rw [hnil] at hcs
      cases hcs)
  rw [hend, List.append_nil] at hitems
  exact many1_of_repeated hitems fun h => hne (List.map_eq_nil_iff.mp h)

/-- The end of a line has no marks. -/
theorem marks_lineEnding {s rest : List Char} {u : Unit} (h : lineEnding s = .done u rest) :
    marks s = marks rest := by
  unfold lineEnding at h
  split at h
  · cases h
    exact marks_cons rfl _
  · cases h
    exact (marks_cons rfl _).trans (marks_cons rfl _)
  · cases h

/-- The end of a line or of the text has no marks. -/
theorem marks_lineEnd {s rest : List Char} {u : Unit} (h : lineEnd s = .done u rest) :
    marks s = marks rest := by
  obtain h | ⟨-, h⟩ := orElse_eq_done.mp h
  · exact marks_lineEnding h
  · unfold endOfText at h
    split at h <;> cases h
    rfl

/-- What has been read on a further line has been read by the parser of the line. -/
theorem indented_eq_done {p : Parser α} {s rest : List Char} {a : α}
    (h : indented p s = .done a rest) : ∃ r, p (trimmed r) = .done a rest ∧ marks s = marks r := by
  obtain ⟨u, r, hend, h⟩ := bind_eq_done.mp h
  obtain ⟨v, r', hr', h⟩ := bind_eq_done.mp h
  exact ⟨r, spaces1_eq_done hr' ▸ h, marks_lineEnding hend⟩

/-! ## What has been read -/

/-- A parser reads only values that have a property, and passes over no more marks than they
weigh. -/
def Yields (p : Parser α) (P : α → Prop) (weight : α → Nat) : Prop :=
  ∀ s a rest, p s = .done a rest → P a ∧ marks s ≤ weight a + marks rest

/-- A choice reads what its alternatives do. -/
theorem Yields.orElse {p q : Parser α} {P : α → Prop} {weight : α → Nat} (hp : Yields p P weight)
    (hq : Yields q P weight) : Yields (p <|> q) P weight := by
  intro s a rest h
  obtain h | ⟨-, h⟩ := orElse_eq_done.mp h
  · exact hp s a rest h
  · exact hq s a rest h

/-- What is read and mapped has what the map makes of the property. -/
theorem Yields.map {β : Type} {p : Parser α} {P : α → Prop} {weight : α → Nat}
    (hp : Yields p P weight) {f : α → β} {Q : β → Prop} {weight' : β → Nat}
    (hQ : ∀ a, P a → Q (f a)) (hweight : ∀ a, weight a ≤ weight' (f a)) :
    Yields (f <$> p) Q weight' := by
  intro s b rest h
  obtain ⟨a, hread, rfl⟩ := map_eq_done.mp h
  obtain ⟨hP, hmarks⟩ := hp s a rest hread
  have := hweight a
  exact ⟨hQ a hP, by omega⟩

/-- Blanks behind a token have no marks. -/
theorem Yields.lexeme {p : Parser α} {P : α → Prop} {weight : α → Nat} (hp : Yields p P weight) :
    Yields (lexeme p) P weight := by
  intro s a rest h
  obtain ⟨r, hread, rfl⟩ := lexeme_eq_done.mp h
  rw [marks_trimmed]
  exact hp s a r hread

/-- What may be left out weighs nothing if it is. -/
theorem Yields.optional {p : Parser α} {P : α → Prop} {weight : α → Nat} (hp : Yields p P weight) :
    Yields (optional p) (fun a? => ∀ a ∈ a?, P a) (fun a? => a?.elim 0 weight) := by
  intro s a? rest h
  obtain ⟨a, hread, rfl⟩ | ⟨-, rfl, rfl⟩ := optional_eq_done.mp h
  · obtain ⟨hP, hmarks⟩ := hp s a rest hread
    refine ⟨fun b hb => ?_, hmarks⟩
    cases hb
    exact hP
  · exact ⟨by simp, by simp⟩

/-- What is read on a further line. -/
theorem Yields.indented {p : Parser α} {P : α → Prop} {weight : α → Nat} (hp : Yields p P weight) :
    Yields (indented p) P weight := by
  intro s a rest h
  obtain ⟨r, hread, hmarks⟩ := indented_eq_done h
  rw [hmarks, ← marks_trimmed r]
  exact hp _ a rest hread

end Daybook.Grammar
