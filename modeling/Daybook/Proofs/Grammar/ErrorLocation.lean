import Daybook.Proofs.Grammar.Truncation

set_option relaxedAutoImplicit false
set_option autoImplicit false

/-!
# Where the error of a source is

Reading a source stops in front of a statement that cannot be read. What is in front of it can be
read by itself, to the statements that have been read. The error points at a place in the statement,
or at the end of the source, where the first line of a transaction or of a rule has no line behind
it.

## Main definitions

* `Position.IsBehind` — the line and the column of a place, given by the text in front of it.
* `IsRestOfLine` — the rest of a line, without its end.
* `IsBareHeader` — a first line with nothing but blanks behind it.
* `EndsLine` — a text with only blank lines behind its last line feed.
* `SyntaxError.IsFor` — what an error says about a source.

## Main results

* `lacksLines_iff` — when lines are missing.
* `statements_cut` — the statements of a source that is cut off where reading stops.
* `Failure.isFor_error` — the error of a statement that cannot be read.
* `parse_error_location` — the error of a source.

## Design

A source is cut off behind the last line feed in front of the statement that cannot be read. Cut off
in front of this line feed, every statement is read as before; and since only blank lines come back
with the line feed, so it is behind it. Symbols that begin with a parenthesis are left out, because
a string in the part that is cut off may decide whether a parenthesis is one.
-/

namespace Daybook

namespace Grammar

open Grammar.Parser

variable {lexicon : Lexicon} {s rest : List Char}

/-! ## Positions -/

/-- A position is that of a place with `front` in front of it: the line is one more than the line
feeds in front, and the column one more than the characters behind the last of them. -/
def Position.IsBehind (p : Position) (front : List Char) : Prop :=
  p.line = front.count '\n' + 1 ∧ ∃ above line, front = above ++ line ∧
    (∀ c, above.getLast? = some c → c = '\n') ∧ '\n' ∉ line ∧ p.column = line.length + 1

/-- The position behind a text. -/
theorem Position.isBehind_after (front : List Char) : (Position.after front).IsBehind front := by
  refine ⟨rfl, (front.reverse.dropWhile (· != '\n')).reverse,
    (front.reverse.takeWhile (· != '\n')).reverse, ?_, fun c hc => ?_, fun hmem => ?_, ?_⟩
  · rw [← List.reverse_append, List.takeWhile_append_dropWhile, List.reverse_reverse]
  · rw [List.getLast?_reverse] at hc
    have hstop := List.head?_dropWhile_not (· != '\n') front.reverse
    rw [hc] at hstop
    simpa using hstop
  · have hline := List.mem_takeWhile_imp (List.mem_reverse.mp hmem)
    simp at hline
  · rw [List.length_reverse]
    rfl

/-! ## Lines -/

/-- The rest of a line from a place on, without the line feed that ends it, and without a carriage
return in front of that. -/
def IsRestOfLine (place found : List Char) : Prop :=
  '\n' ∉ found ∧ (place = found ∨ ∃ below, place = found ++ '\r' :: '\n' :: below ∨
    place = found ++ '\n' :: below ∧ found.getLast? ≠ some '\r')

/-- The first line of a text is the rest of the line. -/
theorem isRestOfLine_firstLine (place : List Char) : IsRestOfLine place (firstLine place) := by
  obtain ⟨hsplit, hline, hbehind⟩ :=
    takeWhile_eq_done.mp (rfl : takeWhile (· != '\n') place = .done _ _)
  rw [firstLine]
  generalize place.takeWhile (· != '\n') = line at hsplit hline
  generalize place.dropWhile (· != '\n') = behind at hsplit hbehind
  subst hsplit
  have hnone : '\n' ∉ line := fun hmem => by simpa using hline _ hmem
  rcases behind with _ | ⟨c, below⟩
  · exact ⟨by simpa using hnone, .inl (by simp)⟩
  obtain rfl : c = '\n' := by simpa using hbehind c rfl
  by_cases hreturn : line.getLast? = some '\r'
  · obtain ⟨found, rfl⟩ := List.getLast?_eq_some_iff.mp hreturn
    have hfound : '\n' ∉ found := fun hmem => hnone (List.mem_append_left _ hmem)
    simp [IsRestOfLine, hfound]
  · simp [IsRestOfLine, hnone, hreturn]

/-- The end of a line, or of the text. -/
theorem lineEnd_eq_done {u : Unit} :
    lineEnd s = .done u rest ↔
      s = '\n' :: rest ∨ s = '\r' :: '\n' :: rest ∨ s = [] ∧ rest = [] := by
  rw [lineEnd, orElse_eq_done]
  constructor
  · rintro (h | ⟨-, h⟩)
    · unfold lineEnding at h
      split at h <;> cases h <;> simp
    · unfold endOfText at h
      split at h <;> cases h
      exact .inr (.inr ⟨rfl, rfl⟩)
  · rintro (rfl | rfl | ⟨rfl, rfl⟩)
    · exact .inl rfl
    · exact .inl rfl
    · exact .inr ⟨⟨[], rfl⟩, rfl⟩

/-- Behind blanks, if there are any, a line ends. -/
theorem lineEnd_trimmed_iff {u : Unit} :
    lineEnd (trimmed s) = .done u rest ↔ ∃ blanks ending, s = blanks ++ ending ++ rest ∧
      (∀ c ∈ blanks, isSpace c = true) ∧
      (ending = ['\n'] ∨ ending = ['\r', '\n'] ∨ ending = [] ∧ rest = []) := by
  rw [lineEnd_eq_done]
  constructor
  · intro h
    have hsplit : s = s.takeWhile isSpace ++ trimmed s := List.takeWhile_append_dropWhile.symm
    have hblanks : ∀ c ∈ s.takeWhile isSpace, isSpace c = true := fun c => List.mem_takeWhile_imp
    rcases h with h | h | ⟨h, rfl⟩ <;> rw [h] at hsplit
    · exact ⟨_, ['\n'], by simpa using hsplit, hblanks, .inl rfl⟩
    · exact ⟨_, ['\r', '\n'], by simpa using hsplit, hblanks, .inr (.inl rfl)⟩
    · exact ⟨_, [], by simpa using hsplit, hblanks, .inr (.inr ⟨rfl, rfl⟩)⟩
  · rintro ⟨blanks, ending, rfl, hblanks, hending⟩
    rw [List.append_assoc, trimmed_append hblanks]
    rcases hending with rfl | rfl | ⟨rfl, rfl⟩
    · exact .inl rfl
    · exact .inr (.inl rfl)
    · exact .inr (.inr ⟨rfl, rfl⟩)

/-! ## First lines with nothing behind them -/

/-- A text is the first line of a transaction or of a rule, blanks, if any, the end of the line or
of the text, and nothing but blanks behind it. -/
def IsBareHeader (lexicon : Lexicon) (s : List Char) : Prop :=
  ∃ rest blanks ending behind,
    ((∃ h, header s = .done h rest) ∨ ∃ c, ruleHeader lexicon s = .done c rest) ∧
    rest = blanks ++ ending ++ behind ∧ (∀ c ∈ blanks, isSpace c = true) ∧
    (ending = ['\n'] ∨ ending = ['\r', '\n'] ∨ ending = [] ∧ behind = []) ∧
    ∀ c ∈ behind, Unicode.isBlank c = true

/-- Nothing is the first line of a transaction and that of a rule. -/
theorem fails_header_of_ruleHeader {c : Expression} (h : ruleHeader lexicon s = .done c rest) :
    Fails header s := by
  obtain ⟨sign, r, hsign, -⟩ := bind_eq_done.mp h
  obtain ⟨r', hsign, -⟩ := lexeme_eq_done.mp hsign
  obtain ⟨rfl, -⟩ := char_eq_done.mp hsign
  refine (lexeme_fails (fails_date fun d hd => ?_)).bind _
  obtain rfl := Option.some.inj hd
  decide

/-- Lines are missing exactly where there is a first line with nothing but blanks behind it. -/
theorem lacksLines_iff : lacksLines lexicon s = true ↔ IsBareHeader lexicon s := by
  unfold lacksLines
  dsimp only
  set either : Parser Unit :=
    (do let _ ← header; return ()) <|> (do let _ ← ruleHeader lexicon; return ()) with hdef
  have heither {rest : List Char} : either s = .done () rest ↔
      (∃ h, header s = .done h rest) ∨ ∃ c, ruleHeader lexicon s = .done c rest := by
    rw [hdef, orElse_eq_done]
    constructor
    · rintro (h | ⟨-, h⟩)
      · obtain ⟨first, h, -⟩ := map_eq_done.mp h
        exact .inl ⟨first, h⟩
      · obtain ⟨condition, h, -⟩ := map_eq_done.mp h
        exact .inr ⟨condition, h⟩
    · rintro (⟨first, h⟩ | ⟨condition, h⟩)
      · exact .inl (map_of_done _ h)
      · exact .inr ⟨(fails_header_of_ruleHeader h).map _, map_of_done _ h⟩
  have hline {behind : List Char} :
      (do either; spaces; lineEnd : Parser Unit) s = .done () behind ↔
        ∃ rest, either s = .done () rest ∧ lineEnd (trimmed rest) = .done () behind := by
    rw [bind_eq_done]
    constructor
    · rintro ⟨_, rest, h, hend⟩
      exact ⟨rest, h, hend⟩
    · rintro ⟨rest, h, hend⟩
      exact ⟨(), rest, h, hend⟩
  have hall : (∃ behind, (do either; spaces; lineEnd : Parser Unit) s = .done () behind ∧
      ∀ c ∈ behind, Unicode.isBlank c = true) ↔ IsBareHeader lexicon s := by
    simp only [hline, heither, lineEnd_trimmed_iff, IsBareHeader]
    constructor
    · rintro ⟨behind, ⟨rest, hfirst, blanks, ending, hrest, hblanks, hending⟩, hbehind⟩
      exact ⟨rest, blanks, ending, behind, hfirst, hrest, hblanks, hending, hbehind⟩
    · rintro ⟨rest, blanks, ending, behind, hfirst, hrest, hblanks, hending, hbehind⟩
      exact ⟨behind, ⟨rest, hfirst, blanks, ending, hrest, hblanks, hending⟩, hbehind⟩
  rw [← hall]
  split
  next u behind h => simp [h]
  next place h => simp [h]

/-! ## Statements -/

/-- The end of a line, not of the text, is a line feed, and the same whatever stands behind it. -/
theorem exists_front_of_lineEnd {r : List Char} {u : Unit}
    (h : lineEnd (trimmed r) = .done u rest) (hne : rest ≠ []) :
    ∃ front, r = front ++ '\n' :: rest ∧ front.head? ≠ some '(' ∧
      ∀ behind, lineEnd (trimmed (front ++ '\n' :: behind)) = .done () behind := by
  obtain ⟨blanks, ending, rfl, hblanks, hending⟩ := lineEnd_trimmed_iff.mp h
  have hopen : blanks.head? ≠ some '(' := fun hc => by
    have hspace := hblanks _ (List.mem_of_mem_head? hc)
    cases hspace
  rcases hending with rfl | rfl | ⟨-, hnil⟩
  · refine ⟨blanks, by simp, hopen, fun behind => ?_⟩
    exact lineEnd_trimmed_iff.mpr ⟨blanks, ['\n'], by simp, hblanks, .inl rfl⟩
  · refine ⟨blanks ++ ['\r'], by simp, ?_, fun behind => ?_⟩
    · cases blanks with
      | nil => simp
      | cons c blanks => exact hopen
    · exact lineEnd_trimmed_iff.mpr ⟨blanks, ['\r', '\n'], by simp, hblanks, .inr (.inl rfl)⟩
  · exact absurd hnil hne

/-- Behind the last line feed of a text there are only blank lines. -/
def EndsLine (s : List Char) : Prop :=
  ∃ front blanks, s = front ++ '\n' :: blanks ∧ ∀ c ∈ blanks, isBlankLineChar c = true

/-- What ends a line does so with more in front of it. -/
theorem EndsLine.append (h : EndsLine s) (front : List Char) : EndsLine (front ++ s) := by
  obtain ⟨front', blanks, rfl, hblanks⟩ := h
  exact ⟨front ++ front', blanks, by simp, hblanks⟩

/-- Reading stops behind blank lines, at a statement that cannot be read up to the end of its
line. -/
theorem failure_stuck {f : Failure} (h : (statements lexicon s).2 = some f) :
    ∃ c cs, f.start = c :: cs ∧ isBlankLineChar c = false ∧
      statementLine lexicon (c :: cs) = .stuck f.place := by
  induction s using statements_induction lexicon with
  | blank s hs =>
    rw [statements_of_nil hs] at h
    cases h
  | stuck s c cs place hs hdrop hline =>
    rw [statements_of_stuck hs hline] at h
    obtain rfl := Option.some.inj h
    have hc := List.head?_dropWhile_not isBlankLineChar s
    rw [hs] at hc
    exact ⟨c, cs, rfl, hc, hline⟩
  | done s c cs st rest hs hdrop hline hrest ih =>
    rw [statements_of_done hs hline] at h
    exact ih h

section Symbols

variable (hsymbols : lexicon.HasPlainSymbols)

include hsymbols

/-- A statement with the end of its line is read as well where the text is cut off further down, if
only blank lines are in front of the cut behind some line feed. -/
theorem statementLine_cut {start : List Char} {st : Statement} (hstart : start ≠ [])
    (hends : EndsLine ('\n' :: rest))
    (hread : statementLine lexicon (s ++ start) = .done st (rest ++ start)) :
    EndsLine s ∧ statementLine lexicon s = .done st rest := by
  obtain ⟨r, hstatement, hend⟩ := statementLine_eq_done.mp hread
  obtain ⟨front, rfl, hopen, hsame⟩ :=
    exists_front_of_lineEnd hend (List.append_ne_nil_of_right_ne_nil rest hstart)
  -- the text of the statement, what is left of it in front of the line feed, and the next ones
  obtain ⟨text, htext⟩ := (advances_statement lexicon).shortens.done hstatement
  have hsplit : text ++ (front ++ '\n' :: rest) ++ start = s ++ start := by simpa using htext
  obtain rfl := List.append_cancel_right hsplit
  obtain ⟨above, blanks, habove, hblanks⟩ := hends
  refine ⟨⟨text ++ front ++ above, blanks, by simp [habove], hblanks⟩, ?_⟩
  have hbehind : '\n' :: (rest ++ start) = above ++ '\n' :: (blanks ++ start) := by
    rw [← List.cons_append, habove, List.append_assoc, List.cons_append]
  have hopen' : (front ++ above).head? ≠ some '(' := by
    rcases front with _ | ⟨c, front⟩
    · rcases above with _ | ⟨c, above⟩
      · simp
      · obtain ⟨rfl, -⟩ := List.cons_eq_cons.mp habove
        simp
    · exact hopen
  have hlong : statement lexicon (text ++ front ++ above ++ '\n' :: (blanks ++ start)) =
      .done st (front ++ above ++ '\n' :: (blanks ++ start)) := by
    simpa [hbehind] using hstatement
  have hcut := statement_cut hsymbols hblanks hopen' hlong
  refine statementLine_eq_done.mpr ⟨front ++ '\n' :: rest, ?_, hsame rest⟩
  simpa [habove] using hcut

/-- The statements in front of one that cannot be read are those of the source that is cut off
there. -/
theorem statements_cut {start place : List Char} {sts : List Statement}
    (hread : statements lexicon (s ++ start) = (sts, some ⟨start, place⟩)) :
    EndsLine ('\n' :: s) ∧ statements lexicon s = (sts, none) := by
  induction hn : s.length using Nat.strong_induction_on generalizing s sts with
  | _ n ih =>
    have hdrop : (s ++ start).dropWhile isBlankLineChar =
        if (s.dropWhile isBlankLineChar).isEmpty then start.dropWhile isBlankLineChar
        else s.dropWhile isBlankLineChar ++ start := List.dropWhile_append
    obtain ⟨c, cs, rfl, hc, hstuck⟩ := failure_stuck (congrArg Prod.snd hread)
    cases hs : s.dropWhile isBlankLineChar with
    | nil =>
      -- the statement that cannot be read is the first one
      rw [hs, List.isEmpty_nil, if_pos rfl, List.dropWhile_cons_of_neg (by simp [hc])] at hdrop
      rw [statements_of_stuck hdrop hstuck] at hread
      refine ⟨⟨[], s, rfl, List.dropWhile_eq_nil_iff.mp hs⟩, ?_⟩
      rw [statements_of_nil hs, (Prod.mk.inj hread).1]
    | cons d ds =>
      rw [hs, List.isEmpty_cons, if_neg Bool.false_ne_true, List.cons_append] at hdrop
      have hle := List.length_dropWhile_le isBlankLineChar s
      rw [hs] at hle
      cases hline : statementLine lexicon (d :: (ds ++ c :: cs)) with
      | stuck place' =>
        rw [statements_of_stuck hdrop hline, Prod.mk.injEq, Option.some.injEq,
          Failure.mk.injEq] at hread
        have hlength := congrArg List.length hread.2.1
        simp only [List.length_cons, List.length_append] at hlength
        omega
      | done st rest =>
        rw [statements_of_done hdrop hline, Prod.mk.injEq] at hread
        obtain ⟨rfl, hfailure⟩ := hread
        have hlt := (advances_statementLine lexicon).length_lt hline
        obtain ⟨rest, rfl⟩ := (failure_suffix hfailure).1
        simp only [List.length_cons, List.length_append] at hlt hle
        obtain ⟨hends, hrest⟩ := ih rest.length (by omega) (Prod.ext rfl hfailure) rfl
        obtain ⟨hends, hline⟩ := @statementLine_cut _ (d :: ds) rest hsymbols _ st
          (List.cons_ne_nil c cs) hends hline
        refine ⟨?_, ?_⟩
        · have hsplit : '\n' :: s = '\n' :: s.takeWhile isBlankLineChar ++ d :: ds := by
            rw [← hs, List.cons_append, List.takeWhile_append_dropWhile]
          rw [hsplit]
          exact hends.append _
        · rw [statements_of_done hs hline, hrest]

end Symbols

/-! ## Errors -/

/-- What an error says about the source `front ++ start`, where a statement begins at `start` that
cannot be read, and the furthest attempt at it fails at `place`. -/
structure SyntaxError.IsFor (lexicon : Lexicon) (front start place : List Char)
    (e : SyntaxError) : Prop where
  /-- Unexpected input is not in front of the statement, and the rest of its line is shown. -/
  input : ∀ p found, e = .unexpectedInput p found → ∃ passed, start = passed ++ place ∧
    p.IsBehind (front ++ passed) ∧ IsRestOfLine place found.toList
  /-- An unexpected end is at the end of the source. -/
  ending : ∀ p, e = .unexpectedEnd p → p.IsBehind (front ++ start)
  /-- The end is unexpected behind a first line with nothing but blanks behind it. -/
  bareHeader : (∃ p, e = .unexpectedEnd p) ↔ IsBareHeader lexicon start

/-- The error of a statement that cannot be read. -/
theorem Failure.isFor_error {f : Failure} (h : f.place <:+ f.start) (front : List Char) :
    (f.error lexicon (front ++ f.start)).IsFor lexicon front f.start f.place := by
  unfold Failure.error
  split_ifs with hlacks
  · refine ⟨nofun, fun p hp => ?_, iff_of_true ⟨_, rfl⟩ (lacksLines_iff.mp hlacks)⟩
    have hposition := Position.of_append (front ++ f.start) []
    rw [List.append_nil] at hposition
    rw [← SyntaxError.unexpectedEnd.inj hp, hposition]
    exact Position.isBehind_after _
  · refine ⟨fun p found hp => ?_, nofun, iff_of_false nofun (mt lacksLines_iff.mpr hlacks)⟩
    obtain ⟨hposition, rfl⟩ := SyntaxError.unexpectedInput.inj hp
    obtain ⟨passed, hpassed⟩ := h
    refine ⟨passed, hpassed.symm, ?_, ?_⟩
    · rw [← hposition, ← hpassed, ← List.append_assoc, Position.of_append]
      exact Position.isBehind_after _
    · rw [String.toList_ofList]
      exact isRestOfLine_firstLine f.place

end Grammar

open Grammar

/-- Where the error of a source is. Reading stops at a statement that cannot be read. The source is
split there, and the error is the one for this statement: it points at unexpected input in it, or at
the end of the source, if and only if the statement is no more than the first line of a transaction
or of a rule. If no symbol has a line feed or begins with a parenthesis, what stands in front of the
statement is read by itself, to the statements that have been read. -/
theorem parse_error_location {lexicon : Lexicon} {source : String} {e : SyntaxError}
    (herror : parse lexicon source = .error e) :
    ∃ sts front start place, source.toList = front ++ start ∧
      statements lexicon source.toList = (sts, some ⟨start, place⟩) ∧
      e.IsFor lexicon front start place ∧
      (lexicon.HasPlainSymbols → parse lexicon (String.ofList front) = .ok sts) := by
  obtain ⟨f, hf, rfl⟩ := parse_eq_error_iff.mp herror
  obtain ⟨hstart, hplace⟩ := failure_suffix hf
  obtain ⟨front, hfront⟩ := hstart
  have hread : statements lexicon (front ++ f.start) =
      ((statements lexicon source.toList).1, some ⟨f.start, f.place⟩) := by
    rw [hfront]
    exact Prod.ext rfl hf
  refine ⟨_, front, f.start, f.place, hfront.symm, hfront ▸ hread, ?_, fun hsymbols => ?_⟩
  · rw [← hfront]
    exact Failure.isFor_error hplace front
  · rw [parse_eq_ok_iff, String.toList_ofList]
    exact (statements_cut hsymbols hread).2

/-- A tag, and a rule with a stray word behind the value of its template. -/
def strayWord : String :=
  "tag food\n= /Food/\n Budget  -1 x\r\n"

/-- A tag, and a rule without templates. -/
def bareRule : String :=
  "tag food\n= /Food/ \n \n"

/-- The word is found to be unexpected, and the rule without templates to be incomplete. Without the
rule, the tag is read. -/
theorem parse_error_location_tag :
    (∃ front start place, strayWord.toList = front ++ start ∧
      (SyntaxError.unexpectedInput ⟨3, 13⟩ "x").IsFor .standard front start place ∧
      parse .standard (String.ofList front) = .ok [.tag "food"]) ∧
    ∃ front start place, bareRule.toList = front ++ start ∧
      (SyntaxError.unexpectedEnd ⟨4, 1⟩).IsFor .standard front start place ∧
      parse .standard (String.ofList front) = .ok [.tag "food"] := by
  have hsymbols : Lexicon.standard.HasPlainSymbols := ⟨by decide, by decide⟩
  constructor
  · have hsts : (statements .standard strayWord.toList).1 = [.tag "food"] := by decide +kernel
    obtain ⟨sts, front, start, place, hsplit, hread, herror, hfront⟩ :=
      parse_error_location (by decide +kernel :
        parse .standard strayWord = .error (.unexpectedInput ⟨3, 13⟩ "x"))
    rw [hread] at hsts
    exact ⟨front, start, place, hsplit, herror, hsts ▸ hfront hsymbols⟩
  · have hsts : (statements .standard bareRule.toList).1 = [.tag "food"] := by decide +kernel
    obtain ⟨sts, front, start, place, hsplit, hread, herror, hfront⟩ :=
      parse_error_location (by decide +kernel :
        parse .standard bareRule = .error (.unexpectedEnd ⟨4, 1⟩))
    rw [hread] at hsts
    exact ⟨front, start, place, hsplit, herror, hsts ▸ hfront hsymbols⟩

/-- Two symbols that begin with a parenthesis and have a quote: what is an expression in parentheses
in the longer text, where a second line closes the string, is an amount with a stray number behind
it in the text that is cut off in front of the second line. -/
theorem openAmount_cut :
    ¬ ∀ (lexicon : Lexicon) (source : String) (e : SyntaxError),
      (∀ symbol ∈ lexicon.symbols, '\n' ∉ symbol.toList) → parse lexicon source = .error e →
      ∃ sts front start place, source.toList = front ++ start ∧
        statements lexicon source.toList = (sts, some ⟨start, place⟩) ∧
        e.IsFor lexicon front start place ∧ parse lexicon (String.ofList front) = .ok sts := by
  intro hlaw
  let lexicon : Lexicon := .ofSymbols ["('", "(('5)"]
  let source : String := "define x = (('5)7\n')"
  have hstuck : parse lexicon source = .error (.unexpectedInput ⟨2, 1⟩ "')") := by
    decide +kernel
  have hstart : (statements lexicon source.toList).2 = some ⟨['\'', ')'], ['\'', ')']⟩ := by
    decide +kernel
  obtain ⟨sts, front, start, place, hsplit, hread, -, hfront⟩ :=
    hlaw lexicon source _ (by decide +kernel) hstuck
  rw [hread] at hstart
  obtain ⟨rfl, -⟩ := Failure.mk.inj (Option.some.inj hstart)
  have hsource : source.toList = "define x = (('5)7\n".toList ++ ['\'', ')'] := by decide +kernel
  obtain rfl := List.append_cancel_right (hsplit.symm.trans hsource)
  have hcut : parse lexicon (String.ofList "define x = (('5)7\n".toList) =
      .error (.unexpectedInput ⟨1, 17⟩ "7") := by
    decide +kernel
  rw [hcut] at hfront
  cases hfront

end Daybook
