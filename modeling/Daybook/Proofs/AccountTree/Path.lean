import Daybook.Grammar.Source
import Daybook.Proofs.AccountTree.Summary
import Daybook.Proofs.Grammar.Comparison
import Daybook.Proofs.Ledger.Run

set_option relaxedAutoImplicit false
set_option autoImplicit false

/-!
# The paths of the tree of accounts

A node keeps its full path, the segments from the top down to it. The path grows segment by segment,
and a colon is put in front of a segment unless nothing has been written yet. Nothing has been
written either behind empty segments at the beginning of a name, and so these leave no trace in the
path. This file shows that the paths of a tree are what they have to be exactly if no account begins
with a colon, and that then they tell the nodes apart.

## Main definitions

* `AccountNode.Named` — every path is the segments from the top down, with colons between them.

## Main results

* `AccountNode.path_eq` — the path of a node.
* `AccountNode.named_forest_iff` — the balances whose tree has the right paths.
* `AccountNode.find?_path`, `AccountNode.index_eq_of_path_eq` — what right paths are good for.
* `AccountNode.path_forest` — all of it.
-/

namespace Daybook.AccountNode

/-- Every node of a tree has the segments from the top down to it, with colons between them, as its
path. -/
def Named (nodes : List AccountNode) : Prop :=
  ∀ q siblings n, Level nodes q siblings → n ∈ siblings →
    n.path = ":".intercalate (q ++ [n.segment])

/-! ## Paths written -/

/-- Behind a path that is not empty every segment is written with a colon. -/
theorem foldl_extendPath_of_ne {path : String} (hpath : path ≠ "") (q : List String) :
    q.foldl extendPath path = ":".intercalate (path :: q) := by
  induction q generalizing path with
  | nil => exact String.intercalate_singleton.symm
  | cons s q ih =>
    have hextend : extendPath path s = path ++ ":" ++ s := by
      rw [extendPath, if_neg (by simpa using hpath)]
    have hne : path ++ ":" ++ s ≠ "" := by simp
    rw [List.foldl_cons, hextend, ih hne, String.intercalate_cons_cons]
    cases q with
    | nil => rw [String.intercalate_singleton, String.intercalate_singleton]
    | cons t q =>
      rw [String.intercalate_cons_cons, String.intercalate_cons_cons]
      simp only [String.append_assoc]

/-- What is written of segments, from the first one that is not empty. -/
theorem foldl_extendPath (q : List String) :
    q.foldl extendPath "" = ":".intercalate (q.dropWhile String.isEmpty) := by
  induction q with
  | nil => rfl
  | cons s q ih =>
    have hextend : extendPath "" s = s := if_pos rfl
    rw [List.foldl_cons, hextend]
    by_cases hs : s = ""
    · rw [hs, ih, List.dropWhile_cons_of_pos rfl]
    · rw [foldl_extendPath_of_ne hs, List.dropWhile_cons_of_neg (by simpa using hs)]

/-- Empty segments at the beginning make a name longer. -/
theorem length_intercalate_dropWhile_le (q : List String) :
    (":".intercalate (q.dropWhile String.isEmpty)).length ≤ (":".intercalate q).length := by
  induction q with
  | nil => exact le_rfl
  | cons s q ih =>
    by_cases hs : s = ""
    · rw [hs, List.dropWhile_cons_of_pos rfl]
      refine ih.trans ?_
      cases q with
      | nil => exact Nat.zero_le _
      | cons t q =>
        rw [String.intercalate_cons_cons, String.length_append]
        exact Nat.le_add_left _ _
    · rw [List.dropWhile_cons_of_neg (by simpa using hs)]

/-- Nothing of a run of segments is lost, unless it begins with an empty one and goes on. -/
theorem intercalate_dropWhile_eq_iff (q : List String) :
    ":".intercalate (q.dropWhile String.isEmpty) = ":".intercalate q ↔
      ∀ s rest, q ≠ "" :: s :: rest := by
  constructor
  · rintro heq s rest rfl
    have hle := length_intercalate_dropWhile_le (s :: rest)
    have hlength := congrArg String.length heq
    rw [List.dropWhile_cons_of_pos rfl, String.intercalate_cons_cons, String.length_append] at hlength
    have hcolon : ("" ++ ":").length = 1 := rfl
    omega
  · intro h
    cases q with
    | nil => rfl
    | cons s q =>
      by_cases hs : s = ""
      · cases q with
        | nil => rw [hs]; rfl
        | cons t q => exact absurd (by rw [hs]) (h t q)
      · rw [List.dropWhile_cons_of_neg (by simpa using hs)]

/-! ## Nodes and accounts -/

variable {balance : Std.TreeMap String Balance} {q : List String} {siblings : List AccountNode}
  {n : AccountNode} {s : String}

/-- The nodes below a run of segments are those of the segments that continue it. -/
theorem mem_level (h : Level (forest balance) q siblings) :
    n ∈ siblings ↔ ∃ s ∈ heads (inside q (bySegments balance)),
      n = nodeOf (q.foldl extendPath "") (inside q (bySegments balance)) s := by
  rw [forest_eq_build, level_build] at h
  rw [h.1, build_eq_map, List.mem_map]
  exact exists_congr fun s => and_congr_right fun _ => eq_comm

/-- The path of a node is what is written of its segments. -/
theorem path_eq (h : Level (forest balance) q siblings) (hn : n ∈ siblings) :
    n.path = ":".intercalate ((q ++ [n.segment]).dropWhile String.isEmpty) := by
  obtain ⟨s, -, rfl⟩ := (mem_level h).mp hn
  rw [← foldl_extendPath, List.foldl_append]
  rfl

/-- Below the segments of a node there are accounts. -/
theorem nonempty_namesBelow (h : Level (forest balance) q siblings) (hn : n ∈ siblings) :
    (namesBelow balance (q ++ [n.segment])).Nonempty := by
  obtain ⟨s, hs, rfl⟩ := (mem_level h).mp hn
  exact mem_heads_inside.mp hs

/-- There is a node for every beginning of an account. -/
theorem exists_mem_level (h : (namesBelow balance (q ++ [s])).Nonempty) :
    ∃ siblings n, Level (forest balance) q siblings ∧ n ∈ siblings ∧ n.segment = s := by
  have hs := mem_heads_inside.mpr h
  have hne : inside q (bySegments balance) ≠ [] := by
    intro hnone
    rw [hnone] at hs
    cases hs
  have hlevel : Level (forest balance) q
      (build (q.foldl extendPath "") (inside q (bySegments balance))) := by
    rw [forest_eq_build, level_build]
    exact ⟨rfl, .inr hne⟩
  exact ⟨_, _, hlevel, (mem_level hlevel).mpr ⟨s, hs, rfl⟩, rfl⟩

/-- The paths of a tree are right exactly if no account begins with a colon. -/
theorem named_forest_iff :
    Named (forest balance) ↔ ∀ account ∈ balance, account.toList.head? ≠ some ':' := by
  constructor
  · intro hnamed account haccount hcolon
    obtain ⟨s, rest, hsegments⟩ := (head?_eq_colon_iff account).mp hcolon
    have hbelow : (namesBelow balance ([""] ++ [s])).Nonempty :=
      ⟨account, haccount, rest, by rw [hsegments]; rfl⟩
    obtain ⟨siblings, n, hlevel, hn, rfl⟩ := exists_mem_level hbelow
    have hpath := (path_eq hlevel hn).symm.trans (hnamed _ _ _ hlevel hn)
    exact (intercalate_dropWhile_eq_iff _).mp hpath _ _ rfl
  · intro hcolon q siblings n hlevel hn
    rw [path_eq hlevel hn, intercalate_dropWhile_eq_iff]
    intro s rest hq
    obtain ⟨account, haccount, more, hmore⟩ := nonempty_namesBelow hlevel hn
    refine hcolon account haccount ((head?_eq_colon_iff account).mpr ⟨s, rest ++ more, ?_⟩)
    rw [← hmore, hq]
    rfl

/-! ## Nodes told apart -/

/-- The segments of a node are had back from its path. -/
theorem segments_path (hnamed : Named (forest balance)) (h : Level (forest balance) q siblings)
    (hn : n ∈ siblings) : segments n.path = q ++ [n.segment] := by
  obtain ⟨account, -, hbegins⟩ := nonempty_namesBelow h hn
  rw [hnamed q siblings n h hn]
  exact segments_intercalate (by simp) fun s hs =>
    colon_not_mem_of_mem_segments (hbegins.subset hs)

/-- A node is found by its path. -/
theorem find?_path (hnamed : Named (forest balance)) (h : Level (forest balance) q siblings)
    (hn : n ∈ siblings) : find? (forest balance) n.path = some n := by
  rw [find?, segments_path hnamed h hn]
  obtain ⟨s, hs, rfl⟩ := (mem_level h).mp hn
  exact (findSegments_forest balance q s).trans (if_pos hs)

/-- Two nodes of the same path are at the same place. -/
theorem index_eq_of_path_eq (hnamed : Named (forest balance)) {q' : List String}
    {siblings' : List AccountNode} {i j : Nat} {n' : AccountNode}
    (h : Level (forest balance) q siblings) (h' : Level (forest balance) q' siblings')
    (hn : siblings[i]? = some n) (hn' : siblings'[j]? = some n') (hpath : n.path = n'.path) :
    q = q' ∧ i = j := by
  have hsegments := segments_path hnamed h (List.mem_of_getElem? hn)
  rw [hpath, segments_path hnamed h' (List.mem_of_getElem? hn')] at hsegments
  obtain ⟨rfl, hsegment⟩ := List.append_inj' hsegments rfl
  refine ⟨rfl, ?_⟩
  -- there is only one list of siblings below a run of segments, and its segments are different
  obtain rfl : siblings = siblings' := by
    rw [forest_eq_build, level_build] at h h'
    rw [h.1, h'.1]
  have hnodup : (siblings.map AccountNode.segment).Nodup :=
    List.pairwise_map.mpr ((pairwise_siblings h).imp And.left)
  have hi : i < (siblings.map AccountNode.segment).length := by
    rw [List.length_map]
    exact (List.getElem?_eq_some_iff.mp hn).1
  refine (List.getElem?_inj hi hnodup).mp ?_
  rw [List.getElem?_map, List.getElem?_map, hn, hn']
  simpa using hsegment.symm

/-- The paths of the tree of a balance. The path of a node is what follows the empty segments at the
beginning, from the top down to the node, with colons between the segments. All paths are complete
exactly if no account begins with a colon. Every node is then found by its path, and no two nodes,
wherever they stand, have the same path. -/
theorem path_forest (balance : Std.TreeMap String Balance) :
    (∀ q siblings n, Level (forest balance) q siblings → n ∈ siblings →
      n.path = ":".intercalate ((q ++ [n.segment]).dropWhile String.isEmpty)) ∧
    (Named (forest balance) ↔ ∀ account ∈ balance, account.toList.head? ≠ some ':') ∧
    (Named (forest balance) →
      (∀ q siblings n, Level (forest balance) q siblings → n ∈ siblings →
        find? (forest balance) n.path = some n) ∧
      ∀ (q q' : List String) (siblings siblings' : List AccountNode) (i j : Nat)
        (n n' : AccountNode), Level (forest balance) q siblings →
        Level (forest balance) q' siblings' → siblings[i]? = some n → siblings'[j]? = some n' →
        n.path = n'.path → q = q' ∧ i = j) :=
  ⟨fun _ _ _ => path_eq, named_forest_iff, fun hnamed =>
    ⟨fun _ _ _ => find?_path hnamed, fun _ _ _ _ _ _ _ _ => index_eq_of_path_eq hnamed⟩⟩

/-- A transaction that posts to an account whose name begins with a colon. -/
def leadingColon : List Statement :=
  [.transaction ⟨⟨some 2016, 1, 31⟩, none, "T", [],
    [⟨":A", some (.amount ⟨5, .known "EUR"⟩), none, none, false, []⟩,
      ⟨"B", some (.amount ⟨-5, .known "EUR"⟩), none, none, false, []⟩]⟩]

/-- Not every ledger that is made from a source has a tree with complete paths. -/
theorem leadingColon_unnamed :
    ¬ ∀ (source : String) (statements : List Statement), parse .standard source = .ok statements →
      Named (forest (Ledger.empty.run statements).balance) := by
  intro hlaw
  have hread : parse .standard "2016/01/31 T\n :A  5 EUR\n B  -5 EUR\n" = .ok leadingColon := by
    decide +kernel
  have hposted : (Ledger.empty.run leadingColon).balance.contains ":A" = true := by
    decide +kernel
  have hcolon := named_forest_iff.mp (hlaw _ _ hread) ":A" hposted
  exact hcolon (by decide)

end Daybook.AccountNode
