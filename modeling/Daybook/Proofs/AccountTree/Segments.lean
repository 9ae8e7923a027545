import Mathlib.Tactic.SplitIfs
import Daybook.AccountTree
import Daybook.Proofs.Text.Words

set_option relaxedAutoImplicit false
set_option autoImplicit false

/-!
# The segments of account names

An account name is its segments with colons between them. A run of segments is had back from its
name if no segment holds a colon, as no segment of a name does.

## Main results

* `not_mem_of_mem_splitOn` — no piece of a list holds the element at which it is split.
* `intercalate_segments`, `segments_intercalate` — names and runs of segments are one to one.
* `head?_eq_colon_iff` — the names that begin with a colon.
-/

namespace Daybook

/-! ## Pieces -/

/-- No piece of a list holds the element at which it is split. -/
theorem not_mem_of_mem_splitOn {α : Type} [BEq α] [LawfulBEq α] {x : α} {xs piece : List α}
    (h : piece ∈ xs.splitOn x) : x ∉ piece := by
  induction xs generalizing piece with
  | nil =>
    rw [List.splitOn_nil, List.mem_singleton] at h
    rw [h]
    exact List.not_mem_nil
  | cons y xs ih =>
    rw [List.splitOn_cons_eq_if_modifyHead] at h
    split_ifs at h with hy
    · rcases List.mem_cons.mp h with rfl | h
      · exact List.not_mem_nil
      · exact ih h
    · obtain ⟨first, others, hsplit⟩ :=
        List.exists_cons_of_ne_nil (List.splitOn_ne_nil x xs)
      rw [hsplit] at h ih
      rcases List.mem_cons.mp h with rfl | h
      · rw [List.mem_cons, not_or]
        exact ⟨fun hx => hy (by simp [hx]), ih List.mem_cons_self⟩
      · exact ih (List.mem_cons_of_mem first h)

/-! ## Segments -/

/-- The characters of the segments of a name. -/
theorem map_toList_segments (account : String) :
    (segments account).map String.toList = account.toList.splitOn ':' := by
  rw [segments, Text.pieces_eq_splitOnP, List.map_map, List.splitOn_eq_splitOnP]
  exact (List.map_congr_left fun cs _ => String.toList_ofList).trans (List.map_id _)

/-- A name has segments. -/
theorem segments_ne_nil (account : String) : segments account ≠ [] := by
  intro h
  have hmap := map_toList_segments account
  rw [h] at hmap
  exact List.splitOn_ne_nil ':' account.toList hmap.symm

/-- The last segment of a name, and those in front of it. -/
theorem exists_segments_eq_append (account : String) : ∃ q s, segments account = q ++ [s] :=
  ⟨_, _, (List.dropLast_append_getLast (segments_ne_nil account)).symm⟩

/-- No segment of a name holds a colon. -/
theorem colon_not_mem_of_mem_segments {account s : String} (h : s ∈ segments account) :
    ':' ∉ s.toList := by
  have hpiece := List.mem_map_of_mem (f := String.toList) h
  rw [map_toList_segments] at hpiece
  exact not_mem_of_mem_splitOn hpiece

/-- A name is its segments with colons between them. -/
theorem intercalate_segments (account : String) : ":".intercalate (segments account) = account := by
  apply String.toList_injective
  rw [String.toList_intercalate, map_toList_segments]
  exact List.intercalate_splitOn ':'

/-- Segments without colons are had back from their name. -/
theorem segments_intercalate {q : List String} (hq : q ≠ []) (hcolon : ∀ s ∈ q, ':' ∉ s.toList) :
    segments (":".intercalate q) = q := by
  have hpieces : ∀ piece ∈ q.map String.toList, ':' ∉ piece := by
    simpa using hcolon
  apply List.map_injective_iff.mpr fun _ _ => String.toList_injective
  rw [map_toList_segments, String.toList_intercalate]
  exact List.splitOn_intercalate ':' hpieces (by simpa using hq)

/-- A name begins with a colon if its first segment is empty and another one follows. -/
theorem head?_eq_colon_iff (account : String) :
    account.toList.head? = some ':' ↔ ∃ s q, segments account = "" :: s :: q := by
  have hname := intercalate_segments account
  have hcolon (s : String) (hs : s ∈ segments account) : s.toList.head? ≠ some ':' := fun h =>
    colon_not_mem_of_mem_segments hs (List.mem_of_mem_head? h)
  cases hsegments : segments account with
  | nil => exact absurd hsegments (segments_ne_nil account)
  | cons first q =>
    rw [hsegments] at hname hcolon
    have hfirst := hcolon first List.mem_cons_self
    cases q with
    | nil =>
      rw [String.intercalate_singleton] at hname
      rw [← hname]
      exact iff_of_false hfirst (by simp)
    | cons s q =>
      rw [String.intercalate_cons_cons] at hname
      rw [← hname, String.toList_append, String.toList_append]
      by_cases hempty : first = ""
      · simp [hempty]
      · obtain ⟨c, cs, hcs⟩ := List.exists_cons_of_ne_nil fun h =>
          hempty (String.toList_eq_nil_iff.mp h)
        rw [hcs] at hfirst ⊢
        exact iff_of_false hfirst (by simp [hempty])

end Daybook
