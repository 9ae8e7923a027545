import Daybook.Proofs.Grammar.WellFormed

set_option relaxedAutoImplicit false
set_option autoImplicit false

/-!
# How far an account name goes

An account name is read as far as it can go. What is read is the longest beginning of the text that
has the form of an account name, and so two blanks in a row, a tab or the end of a line close it,
and a single space within it does not.

## Main results

* `Grammar.endsAccount_of_done` — a name ends where it has been read.
* `Grammar.exists_account_eq_done_iff` — the texts that begin with an account name.
* `Grammar.length_le_of_done` — no other name in front of the text is longer.
* `Grammar.account_longest` — what is read from a text, if anything.
-/

namespace Daybook.Grammar

open Grammar.Parser

variable {s name rest : List Char}

/-- A name that has been read ends in front of the rest. -/
theorem endsAccount_of_done (h : account s = .done name rest) : endsAccount rest = true := by
  cases s with
  | nil => cases h
  | cons c s =>
    rw [account] at h
    split_ifs at h with hblank
    obtain ⟨-, -, rfl | hend⟩ := splitWhere_eq_iff.mp (takeUntil_eq_done.mp h)
    · rfl
    · exact hend

/-- An account name is read from the texts that do not begin with a blank. -/
theorem exists_account_eq_done_iff :
    (∃ name rest, account s = .done name rest) ↔ ∃ c ∈ s.head?, Unicode.isBlank c = false := by
  cases s with
  | nil => simp [account]
  | cons c s =>
    rw [account]
    cases hblank : Unicode.isBlank c with
    | true => simp [hblank]
    | false => simp [hblank, takeUntil]

/-- No account name in front of a text is longer than the one that is read. -/
theorem length_le_of_done (h : account s = .done name rest) {other : List Char}
    (hbegins : other <+: s) (hother : IsAccount other) : other.length ≤ name.length := by
  obtain ⟨-, rfl⟩ := account_eq_done h
  by_contra hlt
  -- A longer name would go on in front of the rest, where the name that is read ends.
  obtain ⟨more, rfl⟩ : name <+: other :=
    List.prefix_of_prefix_length_le (List.prefix_append _ _) hbegins (by omega)
  obtain ⟨back, rfl⟩ := (List.prefix_append_right_inj name).mp hbegins
  have hne : more ≠ [] := by
    rintro rfl
    simp at hlt
  have hgoesOn := hother.goesOn more (List.suffix_append _ _) hne back
  rw [endsAccount_of_done h] at hgoesOn
  cases hgoesOn

/-- What is read from a text, if anything: a name is read exactly if the text does not begin with a
blank of any kind. It is then the longest beginning of the text in which every blank is a single
space between two characters that are no blanks, and the rest is what remains of the text. -/
theorem account_longest (s : List Char) :
    ((∃ name rest, account s = .done name rest) ↔
      ∃ c ∈ s.head?, Unicode.isBlank c = false) ∧
    ∀ name rest, account s = .done name rest ↔ s = name ++ rest ∧ IsAccountName name ∧
      ∀ other, other <+: s → IsAccountName other → other.length ≤ name.length := by
  have hread (name rest) (h : account s = .done name rest) : s = name ++ rest ∧
      IsAccountName name ∧
      ∀ other, other <+: s → IsAccountName other → other.length ≤ name.length := by
    obtain ⟨hname, hsplit⟩ := account_eq_done h
    exact ⟨hsplit, isAccountName_iff.mpr hname, fun other hbegins hother =>
      length_le_of_done h hbegins (isAccountName_iff.mp hother)⟩
  refine ⟨exists_account_eq_done_iff, fun name rest => ⟨hread name rest, ?_⟩⟩
  rintro ⟨hsplit, hname, hlongest⟩
  obtain ⟨c, cs, rfl⟩ := List.exists_cons_of_ne_nil hname.ne_nil
  have hblank : Unicode.isBlank c = false := (isAccountName_iff.mp hname).noBlank c rfl
  have hhead : c ∈ s.head? := by
    rw [hsplit]
    rfl
  obtain ⟨found, back, hfound⟩ := exists_account_eq_done_iff.mpr ⟨c, hhead, hblank⟩
  obtain ⟨hsplit', hname', hlongest'⟩ := hread found back hfound
  -- Both names are beginnings of one text, and neither is longer than the other.
  have hlength : found.length = (c :: cs).length :=
    le_antisymm (hlongest found ⟨back, hsplit'.symm⟩ hname')
      (hlongest' _ ⟨rest, hsplit.symm⟩ hname)
  obtain ⟨rfl, rfl⟩ := List.append_inj (hsplit'.symm.trans hsplit) hlength
  exact hfound

/-- The longest name in front of a word, a single space, a word, two spaces and a number. -/
theorem account_longest_savings :
    account "Bank: Savings  5".toList = .done "Bank: Savings".toList "  5".toList ∧
      ∀ other, other <+: "Bank: Savings  5".toList → IsAccountName other → other.length ≤ 13 := by
  have hread : account "Bank: Savings  5".toList = .done "Bank: Savings".toList "  5".toList := by
    rfl
  exact ⟨hread, (((account_longest _).2 _ _).mp hread).2.2⟩

end Daybook.Grammar
