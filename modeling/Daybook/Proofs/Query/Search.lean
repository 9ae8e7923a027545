import Daybook.Proofs.Text.Words
import Daybook.Proofs.Unicode.LetterCase
import Daybook.Query

set_option relaxedAutoImplicit false
set_option autoImplicit false

/-!
# What a search finds

A text is searched for in lower case, and what is searched is put in lower case by itself. A text
that is written in a title, an account or an amount is found there if it decides about its capital
sigmas, and other texts are not always found.

## Main definitions

* `Entry.Shows`, `Booking.Shows` — a text is written in an entry or a booking.

## Main results

* `Filter.occursInAnyCase_iff_isSettled` — the texts that are found in every text they are written
  in.
* `Filter.finds_iff_isSettled` — the same for entries and bookings.
-/

namespace Daybook

/-! ## What is written -/

/-- A text is written in the account or the amount of an entry. -/
def Entry.Shows (e : Entry) (part : String) : Prop :=
  part.toList <:+: e.account.toList ∨ part.toList <:+: e.amount.text.toList

/-- A text is written in the title or an entry of a booking. -/
def Booking.Shows (b : Booking) (part : String) : Prop :=
  part.toList <:+: b.title.toList ∨ ∃ e ∈ b.entries, e.Shows part

namespace Filter

variable {part : String}

/-! ## What is found -/

/-- Finding a text in lower case. -/
theorem occursInAnyCase_iff {text : String} : occursInAnyCase part text = true ↔
    (Unicode.lowerCase part).toList <:+: (Unicode.lowerCase text).toList :=
  Text.containsText_iff

/-- The texts that are found in every text they are written in. -/
theorem occursInAnyCase_iff_isSettled :
    (∀ text : String, part.toList <:+: text.toList → occursInAnyCase part text = true) ↔
      Unicode.IsSettled part := by
  simp only [occursInAnyCase_iff]
  exact Unicode.infix_lowerCase_iff part

/-- A text that leaves a sigma open does not occur in the amount zero. -/
theorem not_occursInAnyCase_zero (h : ¬ Unicode.IsSettled part) :
    occursInAnyCase part (Amount.bare 0).text = false := by
  have hzero : (Unicode.lowerCase (Amount.bare 0).text).toList = ['0'] := by decide +kernel
  have hsigma : 'Σ' ∈ part.toList := by
    by_contra hnone
    exact h (Unicode.isSettled_of_notMem hnone)
  rw [Bool.eq_false_iff, Ne, occursInAnyCase_iff, hzero, Unicode.toList_lowerCase]
  intro hoccurs
  obtain hsmall | hfinal := Unicode.sigma_mem_lowerCaseBetween hsigma
  · exact absurd (hoccurs.subset hsmall) (by decide)
  · exact absurd (hoccurs.subset hfinal) (by decide)

/-- An entry is found by what is written in it. -/
theorem matchesEntry_of_shows {e : Entry} (h : Unicode.IsSettled part) (hshows : e.Shows part) :
    (text part).matchesEntry e = true := by
  have hfound := occursInAnyCase_iff_isSettled.mpr h
  rw [matchesEntry, Bool.or_eq_true]
  exact hshows.imp (hfound _) (hfound _)

/-- A booking is found by what is written in it. -/
theorem matchesBooking_of_shows {b : Booking} (h : Unicode.IsSettled part)
    (hshows : b.Shows part) : (text part).matchesBooking b = true := by
  rw [matchesBooking, Bool.or_eq_true, List.any_eq_true]
  refine hshows.imp (occursInAnyCase_iff_isSettled.mpr h _) ?_
  exact fun ⟨e, he, hentry⟩ => ⟨e, he, matchesEntry_of_shows h hentry⟩

/-- The texts by which every booking that shows them is found are those that decide about all of
their capital sigmas, and so it is for entries. -/
theorem finds_iff_isSettled (part : String) :
    ((∀ b : Booking, b.Shows part → (text part).matchesBooking b = true) ↔
      Unicode.IsSettled part) ∧
    ((∀ e : Entry, e.Shows part → (text part).matchesEntry e = true) ↔
      Unicode.IsSettled part) := by
  refine ⟨⟨fun h => ?_, fun h b => matchesBooking_of_shows h⟩,
    ⟨fun h => ?_, fun h e => matchesEntry_of_shows h⟩⟩
  · refine occursInAnyCase_iff_isSettled.mp fun title htitle => ?_
    simpa [matchesBooking] using h ⟨title, ⟨2016, 1, 31⟩, none, []⟩ (.inl htitle)
  · by_contra hopen
    refine hopen (occursInAnyCase_iff_isSettled.mp fun account haccount => ?_)
    simpa [matchesEntry, not_occursInAnyCase_zero hopen] using
      h ⟨account, .bare 0, none, false⟩ (.inl haccount)

/-- A text without sigmas is found within a word. -/
theorem finds_iff_isSettled_coffee :
    let b : Booking := ⟨"COFFEE", ⟨2016, 1, 31⟩, none, []⟩
    b.Shows "OFF" ∧ (text "OFF").matchesBooking b = true := by
  intro b
  have hsettled : Unicode.IsSettled "OFF" := Unicode.isSettled_of_notMem (by decide)
  have hshows : b.Shows "OFF" := .inl (by decide +kernel)
  exact ⟨hshows, (finds_iff_isSettled "OFF").1.mpr hsettled b hshows⟩

/-- Within the word, the sigma of the title is not the final one that the search looks for. -/
theorem innerSigma_notFound :
    let b : Booking := ⟨"ΑΣΑ", ⟨2016, 1, 31⟩, none, []⟩
    b.Shows "ΑΣ" ∧ (text "ΑΣ").matchesBooking b = false :=
  ⟨.inl (by decide +kernel), by decide +kernel⟩

end Filter

end Daybook
