import Mathlib.Data.List.Basic
import Daybook.Text.Words

set_option relaxedAutoImplicit false
set_option autoImplicit false

/-!
# Pieces, words and parts of texts

Cutting a text at separators is the library's function, and what holds for it holds for the words
of a text: a blank ends one word and lets another one begin, wherever it stands.

## Main results

* `Text.pieces_eq_splitOnP` — the pieces of a text are those that the library's function finds.
* `Text.words_append`, `Text.words_of_noBlank` — the words on both sides of a blank, and a single
  word.
* `Text.containsText_iff` — a text contains the texts that stand somewhere in it.
-/

namespace Daybook.Text

/-! ## Pieces and words -/

/-- The pieces of a text are what splitting it at the separators gives. -/
theorem pieces_eq_splitOnP (separates : Char → Bool) (cs : List Char) :
    pieces separates cs = cs.splitOnP separates := by
  induction cs with
  | nil => rfl
  | cons c cs ih =>
    rw [pieces, ih, List.splitOnP_cons_eq_if_modifyHead]
    cases h : cs.splitOnP separates with
    | nil => exact absurd h (List.splitOnP_ne_nil separates cs)
    | cons first others => rfl

/-- The words of a text are those in front of a blank and those behind it. -/
theorem words_append {c : Char} (hc : Unicode.isBlank c = true) (front back : String) :
    words (front ++ String.singleton c ++ back) = words front ++ words back := by
  have htext : (front ++ String.singleton c ++ back).toList =
      front.toList ++ c :: back.toList := by simp
  rw [words, words, words, htext]
  simp only [pieces_eq_splitOnP]
  rw [List.splitOnP_append_cons _ _ hc, List.filter_append, List.map_append]

/-- A text without blanks is a word, if it is not empty. -/
theorem words_of_noBlank {word : String} (hne : word ≠ "")
    (h : ∀ c ∈ word.toList, Unicode.isBlank c = false) : words word = [word] := by
  have hnil : word.toList.isEmpty = false := by
    rw [List.isEmpty_eq_false_iff]
    exact mt String.toList_eq_nil_iff.mp hne
  rw [words, pieces_eq_splitOnP, List.splitOnP_eq_singleton h]
  simp [hnil]

/-! ## Parts of a text -/

/-- The lists that occur in a list. -/
theorem occursIn_iff {part cs : List Char} : occursIn part cs = true ↔ part <:+: cs := by
  induction cs with
  | nil => rw [occursIn, List.isEmpty_iff, List.infix_nil]
  | cons c cs ih =>
    rw [occursIn, Bool.or_eq_true, ih, List.isPrefixOf_iff_prefix, List.infix_cons_iff]

/-- A text contains the texts that stand somewhere in it. -/
theorem containsText_iff {text part : String} :
    containsText text part = true ↔ part.toList <:+: text.toList :=
  occursIn_iff

end Daybook.Text
