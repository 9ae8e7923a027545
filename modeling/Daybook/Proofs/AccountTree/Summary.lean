import Mathlib.Data.List.Induction
import Mathlib.Data.Set.Basic
import Mathlib.Data.String.Basic
import Mathlib.Order.Bounds.Defs
import Daybook.Proofs.AccountTree.Segments
import Daybook.Proofs.Balance

set_option relaxedAutoImplicit false
set_option autoImplicit false

/-!
# What the tree of accounts holds

The tree is made by inserting accounts one after another, and every insertion changes the nodes
along a path. This file says what comes out in the end: below a run of segments there is one node
for each segment that continues it, the nodes stand in the order in which their accounts were
inserted first, and each of them holds the sums of its accounts and, below it, the tree that the
rest of their names makes.

## Main definitions

* `AccountNode.Level` — the nodes that stand side by side below a run of segments.
* `AccountNode.build` — the tree of accounts whose names are given by their segments.
* `AccountNode.nodeOf` — the node of a segment.
* `AccountNode.namesBelow`, `AccountNode.numbersBelow` — the accounts of a balance below a run of
  segments, and the numbers that they have of a commodity.
* `AccountNode.Summary` — what a node says about the accounts below its segments.

## Main results

* `AccountNode.build_eq_map` — a tree consists of the nodes of its first segments.
* `AccountNode.findSegments_build`, `AccountNode.level_build` — what stands below a run of segments.
* `AccountNode.pairwise_siblings` — siblings stand in the order of the least names below them.
* `AccountNode.find?_forest` — the nodes that are found, their content, and the order of siblings.
-/

namespace Daybook.AccountNode

/-! ## Levels -/

/-- The nodes that stand side by side in a tree, below the segments from the top down to them. -/
inductive Level : List AccountNode → List String → List AccountNode → Prop
  | top (nodes : List AccountNode) : Level nodes [] nodes
  | under {nodes siblings : List AccountNode} {n : AccountNode} {q : List String}
      (hn : n ∈ nodes) (h : Level n.children q siblings) : Level nodes (n.segment :: q) siblings

/-! ## Accounts by their segments -/

/-- The tree of accounts whose names, which continue a path, are given by their segments. -/
def build (path : String) (accounts : List (List String × Balance)) : List AccountNode :=
  accounts.foldl (fun nodes a => insert a.2 path a.1 nodes) []

/-- The accounts whose names begin with given segments, each with the segments that remain. -/
def inside (q : List String) (accounts : List (List String × Balance)) :
    List (List String × Balance) :=
  accounts.filterMap fun a => (q.isPrefixOf? a.1).map fun rest => (rest, a.2)

/-- The first segments of accounts, each one where it occurs first. -/
def heads (accounts : List (List String × Balance)) : List String :=
  (accounts.filterMap fun a => a.1.head?).eraseDups

/-- The node of a segment in the tree of accounts. -/
def nodeOf (path : String) (accounts : List (List String × Balance)) (s : String) : AccountNode :=
  ⟨s, extendPath path s, ((inside [s] accounts).map Prod.snd).foldl Balance.add ∅,
    build (extendPath path s) (inside [s] accounts)⟩

variable {s : String} {q : List String} {accounts : List (List String × Balance)}

/-- What remains of a name that begins with several segments, found segment by segment. -/
theorem isPrefixOf?_cons (s : String) (q names : List String) :
    (s :: q).isPrefixOf? names = ([s].isPrefixOf? names).bind fun rest => q.isPrefixOf? rest := by
  cases names with
  | nil => rfl
  | cons t names =>
    simp only [List.isPrefixOf?]
    split <;> rfl

/-- The accounts below several segments are found segment by segment. -/
theorem inside_cons (s : String) (q : List String) (accounts : List (List String × Balance)) :
    inside (s :: q) accounts = inside q (inside [s] accounts) := by
  rw [inside, inside, inside, List.filterMap_filterMap]
  refine List.filterMap_congr fun a _ => ?_
  rw [isPrefixOf?_cons]
  cases [s].isPrefixOf? a.1 <;> rfl

/-- All accounts are below no segments. -/
theorem inside_nil (accounts : List (List String × Balance)) : inside [] accounts = accounts := by
  rw [inside]
  exact (List.filterMap_congr fun a _ => by rfl).trans List.filterMap_some

/-- The accounts below a longer run of segments are found among those below a shorter one. -/
theorem inside_append_segments (q r : List String) (accounts : List (List String × Balance)) :
    inside (q ++ r) accounts = inside r (inside q accounts) := by
  induction q generalizing accounts with
  | nil => rw [List.nil_append, inside_nil]
  | cons s q ih => rw [List.cons_append, inside_cons, ih, ← inside_cons]

/-- A segment is among the first ones exactly if there are accounts below it. -/
theorem mem_heads : s ∈ heads accounts ↔ inside [s] accounts ≠ [] := by
  rw [heads, List.mem_eraseDups, ne_eq, inside, List.filterMap_eq_nil_iff, List.mem_filterMap,
    not_forall]
  simp only [not_forall, exists_prop]
  refine exists_congr fun a => and_congr_right fun _ => ?_
  cases a.1 with
  | nil => simp [List.isPrefixOf?]
  | cons t rest =>
    by_cases h : s = t
    · simp [List.isPrefixOf?, h]
    · simp [List.isPrefixOf?, h, Ne.symm h]

/-- No account is below a segment that is not among the first ones. -/
theorem inside_eq_nil (hs : s ∉ heads accounts) : inside [s] accounts = [] :=
  of_not_not fun hne => hs (mem_heads.mpr hne)

/-! ## The order of segments -/

/-- The last element of a list is kept unless it occurs in front. -/
theorem eraseDups_concat {α : Type} [DecidableEq α] (l : List α) (a : α) :
    (l ++ [a]).eraseDups = if a ∈ l then l.eraseDups else l.eraseDups ++ [a] := by
  rw [List.eraseDups_append, List.removeAll]
  split_ifs with h
  · simp [h]
  · simp [h, List.eraseDups_cons]

/-- One more account makes its first segment one of the first segments. -/
theorem heads_concat (accounts : List (List String × Balance)) (s : String) (rest : List String)
    (amount : Balance) :
    heads (accounts ++ [(s :: rest, amount)]) =
      if s ∈ heads accounts then heads accounts else heads accounts ++ [s] := by
  simp only [heads, List.filterMap_append, List.mem_eraseDups]
  exact eraseDups_concat _ s

/-- The first segments are different. -/
theorem nodup_heads (accounts : List (List String × Balance)) : (heads accounts).Nodup := by
  rw [heads]
  generalize accounts.filterMap (fun a => a.1.head?) = segments
  induction segments using List.reverseRecOn with
  | nil => exact List.nodup_nil
  | append_singleton segments s ih =>
    rw [eraseDups_concat]
    split_ifs with h
    · exact ih
    · rw [List.nodup_append]
      refine ⟨ih, List.pairwise_singleton _ s, fun t ht u hu htu => h ?_⟩
      rw [← List.mem_singleton.mp hu, ← htu]
      exact List.mem_eraseDups.mp ht

/-! ## Insertion -/

/-- Accounts that are put one behind another are put so below any segments. -/
theorem inside_append (q : List String) (before after : List (List String × Balance)) :
    inside q (before ++ after) = inside q before ++ inside q after :=
  List.filterMap_append

/-- The tree of one more account is the tree of the others with that account inserted. -/
theorem build_concat (path : String) (accounts : List (List String × Balance))
    (a : List String × Balance) :
    build path (accounts ++ [a]) = insert a.2 path a.1 (build path accounts) := by
  rw [build, List.foldl_append]
  rfl

/-- A segment that no account begins with has a node without content. -/
theorem nodeOf_of_not_mem (hs : s ∉ heads accounts) (path : String) :
    nodeOf path accounts s = ⟨s, extendPath path s, ∅, []⟩ := by
  rw [nodeOf, inside_eq_nil hs]
  rfl

/-- An account that begins with a segment adds its balance to the node of the segment, and the rest
of its name to the tree below. -/
theorem nodeOf_concat_self (path : String) (accounts : List (List String × Balance)) (s : String)
    (rest : List String) (amount : Balance) :
    nodeOf path (accounts ++ [(s :: rest, amount)]) s =
      { nodeOf path accounts s with
        amount := (nodeOf path accounts s).amount.add amount
        children := insert amount (extendPath path s) rest (nodeOf path accounts s).children } := by
  have hinside : inside [s] (accounts ++ [(s :: rest, amount)]) =
      inside [s] accounts ++ [(rest, amount)] := by
    rw [inside_append]
    simp [inside, List.isPrefixOf?]
  rw [nodeOf, hinside, build_concat, List.map_append, List.foldl_append]
  rfl

/-- An account that does not begin with a segment leaves the node of the segment as it is. -/
theorem nodeOf_concat_of_ne {a : List String × Balance} (ha : a.1.head? ≠ some s) (path : String)
    (accounts : List (List String × Balance)) :
    nodeOf path (accounts ++ [a]) s = nodeOf path accounts s := by
  have hinside : inside [s] (accounts ++ [a]) = inside [s] accounts := by
    have hnone : inside [s] [a] = [] := by
      obtain ⟨_ | ⟨t, rest⟩, amount⟩ := a
      · rfl
      · have hne : s ≠ t := fun h => ha (congrArg some h.symm)
        simp [inside, List.isPrefixOf?, hne]
    rw [inside_append, hnone, List.append_nil]
  rw [nodeOf, nodeOf, hinside]

/-- A change of the first node with a segment, among nodes of different segments. -/
theorem alterFirst_map {segments : List String} {f : String → AccountNode}
    (hsegment : ∀ s, (f s).segment = s) (hnodup : segments.Nodup) (fresh : AccountNode)
    (change : AccountNode → AccountNode) :
    alterFirst fresh change (segments.map f) =
      if fresh.segment ∈ segments then
        segments.map fun s => if s = fresh.segment then change (f s) else f s
      else segments.map f ++ [change fresh] := by
  induction segments with
  | nil => rfl
  | cons s segments ih =>
    obtain ⟨hs, hnodup⟩ := List.nodup_cons.mp hnodup
    rw [List.map_cons, alterFirst, hsegment, ih hnodup]
    by_cases heq : s = fresh.segment
    · have hsame : (segments.map fun t => if t = fresh.segment then change (f t) else f t) =
          segments.map f := by
        refine List.map_congr_left fun t ht => if_neg fun h => hs ?_
        rwa [heq, ← h]
      rw [if_pos heq, if_pos (heq ▸ List.mem_cons_self), List.map_cons, if_pos heq, hsame]
    · rw [if_neg heq]
      by_cases hmem : fresh.segment ∈ segments
      · rw [if_pos hmem, if_pos (List.mem_cons_of_mem s hmem), List.map_cons, if_neg heq]
      · have hnot : fresh.segment ∉ s :: segments := by simp [hmem, Ne.symm heq]
        rw [if_neg hmem, if_neg hnot, List.cons_append]

/-- A tree consists of the nodes of its first segments. -/
theorem build_eq_map (path : String) (accounts : List (List String × Balance)) :
    build path accounts = (heads accounts).map (nodeOf path accounts) := by
  induction accounts using List.reverseRecOn with
  | nil => rfl
  | append_singleton accounts a ih =>
    rw [build_concat, ih]
    obtain ⟨_ | ⟨s, rest⟩, amount⟩ := a
    · -- an account without segments changes nothing
      have hheads : heads (accounts ++ [([], amount)]) = heads accounts := by
        rw [heads, List.filterMap_append]
        exact congrArg List.eraseDups (List.append_nil _)
      rw [hheads]
      exact List.map_congr_left fun t _ => (nodeOf_concat_of_ne (by simp) path accounts).symm
    · have hother (t : String) (ht : t ≠ s) : nodeOf path accounts t =
          nodeOf path (accounts ++ [(s :: rest, amount)]) t :=
        (nodeOf_concat_of_ne (by simpa using Ne.symm ht) path accounts).symm
      rw [insert, alterFirst_map (fun _ => rfl) (nodup_heads accounts), heads_concat]
      split_ifs with hs
      · refine List.map_congr_left fun t _ => ?_
        split_ifs with ht
        · rw [ht, nodeOf_concat_self]
        · exact hother t ht
      · rw [List.map_append, List.map_singleton, nodeOf_concat_self, nodeOf_of_not_mem hs]
        refine congrArg (· ++ _) (List.map_congr_left fun t ht => hother t ?_)
        rintro rfl
        exact hs ht

/-! ## Below a run of segments -/

/-- The first node with a segment, among the nodes of given segments. -/
theorem find?_map {segments : List String} {f : String → AccountNode}
    (hsegment : ∀ s, (f s).segment = s) (s : String) :
    (segments.map f).find? (fun n => n.segment == s) = if s ∈ segments then some (f s) else none := by
  induction segments with
  | nil => rfl
  | cons t segments ih =>
    rw [List.map_cons]
    by_cases heq : t = s
    · rw [List.find?_cons_of_pos (by simp [hsegment, heq]), if_pos (by simp [heq]), heq]
    · rw [List.find?_cons_of_neg (by simp [hsegment, heq]), ih]
      simp [Ne.symm heq]

/-- Segments lead to a node if an account begins with them. -/
theorem findSegments_build (path : String) (accounts : List (List String × Balance))
    (q : List String) (s : String) :
    findSegments (q ++ [s]) (build path accounts) =
      if s ∈ heads (inside q accounts) then
        some (nodeOf (q.foldl extendPath path) (inside q accounts) s)
      else none := by
  induction q generalizing path accounts with
  | nil =>
    rw [List.nil_append, findSegments, build_eq_map, find?_map fun _ => rfl, inside_nil]
    by_cases hs : s ∈ heads accounts
    · rw [if_pos hs, if_pos hs]
      rfl
    · rw [if_neg hs, if_neg hs]
  | cons t q ih =>
    have hmore : ¬ (q ++ [s]).isEmpty = true := by simp
    rw [List.cons_append, findSegments, build_eq_map, find?_map fun _ => rfl, inside_cons t q]
    by_cases ht : t ∈ heads accounts
    · rw [if_pos ht]
      exact (if_neg hmore).trans (ih (extendPath path t) (inside [t] accounts))
    · rw [if_neg ht, inside_eq_nil ht]
      rfl

/-- The nodes below a run of segments are the tree that the rest of the names makes, if an account
begins with these segments. -/
theorem level_build (path : String) (accounts : List (List String × Balance)) (q : List String)
    (siblings : List AccountNode) :
    Level (build path accounts) q siblings ↔
      siblings = build (q.foldl extendPath path) (inside q accounts) ∧
        (q = [] ∨ inside q accounts ≠ []) := by
  induction q generalizing path accounts with
  | nil =>
    rw [inside_nil]
    constructor
    · rintro ⟨⟩
      exact ⟨rfl, .inl rfl⟩
    · rintro ⟨rfl, -⟩
      exact .top _
  | cons s q ih =>
    have hnode : Level (build path accounts) (s :: q) siblings ↔ s ∈ heads accounts ∧
        Level (build (extendPath path s) (inside [s] accounts)) q siblings := by
      rw [build_eq_map path accounts]
      constructor
      · intro h
        cases h with
        | under hn h =>
          obtain ⟨t, ht, rfl⟩ := List.mem_map.mp hn
          exact ⟨ht, h⟩
      · rintro ⟨hs, h⟩
        exact .under (List.mem_map_of_mem hs) h
    rw [hnode, ih, inside_cons s q, mem_heads]
    constructor
    · rintro ⟨hs, heq, hq⟩
      refine ⟨heq, .inr ?_⟩
      rcases hq with rfl | hq
      · rwa [inside_nil]
      · exact hq
    · rintro ⟨heq, hq⟩
      have hne : inside q (inside [s] accounts) ≠ [] := hq.resolve_left (List.cons_ne_nil s q)
      refine ⟨fun hnone => hne ?_, heq, .inr hne⟩
      rw [hnone]
      rfl

/-! ## First accounts -/

/-- Elements of an ascending list that are marked with keys: the keys, each where it occurs first,
are in the order of the first elements that are marked with them. -/
theorem pairwise_eraseDups_filterMap {α β : Type} [DecidableEq β] {R : α → α → Prop} {l : List α}
    (hl : l.Pairwise R) (key : α → Option β) :
    (l.filterMap key).eraseDups.Pairwise fun s t => ∃ x y,
      l.find? (fun a => key a = some s) = some x ∧ l.find? (fun a => key a = some t) = some y ∧
      R x y := by
  induction l using List.reverseRecOn with
  | nil => exact .nil
  | append_singleton l a ih =>
    obtain ⟨hl, -, hlast⟩ := List.pairwise_append.mp hl
    have hlonger {s : β} {x : α} (hx : l.find? (fun a => key a = some s) = some x) :
        (l ++ [a]).find? (fun a => key a = some s) = some x := by
      rw [List.find?_append, hx, Option.some_or]
    have hold : (l.filterMap key).eraseDups.Pairwise fun s t => ∃ x y,
        (l ++ [a]).find? (fun a => key a = some s) = some x ∧
        (l ++ [a]).find? (fun a => key a = some t) = some y ∧ R x y :=
      (ih hl).imp fun ⟨x, y, hx, hy, hxy⟩ => ⟨x, y, hlonger hx, hlonger hy, hxy⟩
    cases hkey : key a with
    | none => simpa [hkey] using hold
    | some b =>
      rw [List.filterMap_append, List.filterMap_cons_some hkey, List.filterMap_nil,
        eraseDups_concat]
      split_ifs with hb
      · exact hold
      · refine List.pairwise_append.mpr ⟨hold, List.pairwise_singleton _ b, fun s hs t ht => ?_⟩
        obtain rfl := List.mem_singleton.mp ht
        -- the new key is behind all others, because its first element is the last of the list
        obtain ⟨x', hx', hkey'⟩ := List.mem_filterMap.mp (List.mem_eraseDups.mp hs)
        have hfound : (l.find? fun a => key a = some s).isSome :=
          List.find?_isSome.mpr ⟨x', hx', by simpa using hkey'⟩
        obtain ⟨x, hx⟩ := Option.isSome_iff_exists.mp hfound
        have hnone : l.find? (fun a => key a = some t) = none := by
          refine List.find?_eq_none.mpr fun y hy hyt => hb ?_
          exact List.mem_filterMap.mpr ⟨y, hy, by simpa using hyt⟩
        refine ⟨x, a, hlonger hx, ?_, hlast x (List.mem_of_find?_eq_some hx) a
          (List.mem_singleton_self a)⟩
        rw [List.find?_append, hnone, Option.none_or]
        simp [hkey]

/-! ## The accounts of a balance -/

/-- The names of a balance that begin with given segments. -/
def namesBelow (balance : Std.TreeMap String Balance) (q : List String) : Set String :=
  {account | account ∈ balance ∧ q <+: segments account}

/-- The accounts of a balance whose names begin with given segments, in the order of names. -/
def accountsBelow (balance : Std.TreeMap String Balance) (q : List String) :
    List (String × Balance) :=
  balance.toList.filter fun a => q.isPrefixOf (segments a.1)

/-- The numbers of a commodity that these accounts have, in the order of their names. -/
def numbersBelow (balance : Std.TreeMap String Balance) (q : List String) (c : Commodity) :
    List Float :=
  (accountsBelow balance q).filterMap fun a => a.2[c]?

/-- The accounts of a balance by their segments. -/
def bySegments (balance : Std.TreeMap String Balance) : List (List String × Balance) :=
  balance.toList.map fun a => (segments a.1, a.2)

variable {balance : Std.TreeMap String Balance}

/-- The tree of all accounts is made of their segments. -/
theorem forest_eq_build (balance : Std.TreeMap String Balance) :
    forest balance = build "" (bySegments balance) := by
  rw [build, bySegments, List.foldl_map]
  rfl

/-- An account is below the segments that its name begins with. -/
theorem mem_accountsBelow {a : String × Balance} :
    a ∈ accountsBelow balance q ↔ balance[a.1]? = some a.2 ∧ q <+: segments a.1 := by
  rw [accountsBelow, List.mem_filter, List.isPrefixOf_iff_prefix,
    ← Std.TreeMap.mem_toList_iff_getElem?_eq_some]

/-- A name is below given segments if there is such an account. -/
theorem mem_namesBelow {account : String} :
    account ∈ namesBelow balance q ↔ ∃ sums, (account, sums) ∈ accountsBelow balance q := by
  rw [namesBelow, Set.mem_ofPred_eq, Std.TreeMap.mem_iff_isSome_getElem?,
    Option.isSome_iff_exists, ← exists_and_right]
  exact exists_congr fun sums => (mem_accountsBelow (a := (account, sums))).symm

/-- The accounts below given segments are in ascending order. -/
theorem pairwise_accountsBelow (balance : Std.TreeMap String Balance) (q : List String) :
    (accountsBelow balance q).Pairwise fun a b => a.1 < b.1 :=
  (Std.TreeMap.ordered_keys_toList.imp compare_lt_iff_lt.mp).filter _

/-- The accounts below given segments, by the segments that remain. -/
theorem inside_bySegments (balance : Std.TreeMap String Balance) (q : List String) :
    inside q (bySegments balance) =
      (accountsBelow balance q).map fun a => ((segments a.1).drop q.length, a.2) := by
  rw [bySegments, inside, accountsBelow, List.filterMap_map]
  induction balance.toList with
  | nil => rfl
  | cons a accounts ih =>
    rw [List.filterMap_cons, ih]
    by_cases h : q.isPrefixOf (segments a.1) = true
    · obtain ⟨rest, hrest⟩ := List.isPrefixOf_iff_prefix.mp h
      have hremain := List.isPrefixOf?_eq_some_iff_append_eq.mpr hrest
      rw [List.filter_cons_of_pos (by simpa using h), List.map_cons]
      simp only [Function.comp_apply, hremain, Option.map_some]
      rw [← hrest, List.drop_left]
    · have hremain : q.isPrefixOf? (segments a.1) = none := by
        rwa [← Option.not_isSome_iff_eq_none, List.isSome_isPrefixOf?_eq_isPrefixOf]
      rw [List.filter_cons_of_neg (by simpa using h)]
      simp only [Function.comp_apply, hremain, Option.map_none]

/-- The segment that follows given segments in a name. -/
theorem head?_drop_eq_some {names : List String} (h : q <+: names) :
    (names.drop q.length).head? = some s ↔ q ++ [s] <+: names := by
  obtain ⟨rest, rfl⟩ := h
  rw [List.drop_left, List.prefix_append_right_inj]
  cases rest with
  | nil => simp
  | cons t rest => simp [eq_comm]

/-- Given segments are continued by those that follow them in the name of an account. -/
theorem mem_heads_inside :
    s ∈ heads (inside q (bySegments balance)) ↔ (namesBelow balance (q ++ [s])).Nonempty := by
  rw [mem_heads, ← inside_append_segments, inside_bySegments, ne_eq, List.map_eq_nil_iff,
    List.eq_nil_iff_forall_not_mem, not_forall, Set.nonempty_def]
  simp only [mem_namesBelow, not_not, Prod.exists]

/-- The first of the accounts below given segments that goes on with a segment is the least one. -/
theorem isLeast_of_find? {a : String × Balance}
    (h : (accountsBelow balance q).find?
      (fun a => ((segments a.1).drop q.length).head? = some s) = some a) :
    IsLeast (namesBelow balance (q ++ [s])) a.1 := by
  obtain ⟨hhead, before, after, hsplit, hbefore⟩ := List.find?_eq_some_iff_append.mp h
  have hmem := mem_accountsBelow.mp (List.mem_of_find?_eq_some h)
  have hlonger := (head?_drop_eq_some hmem.2).mp (by simpa using hhead)
  refine ⟨mem_namesBelow.mpr ⟨a.2, mem_accountsBelow.mpr ⟨hmem.1, hlonger⟩⟩, ?_⟩
  intro account haccount
  obtain ⟨sums, hsums⟩ := mem_namesBelow.mp haccount
  obtain ⟨hsums, hlonger⟩ := mem_accountsBelow.mp hsums
  have hq := (List.prefix_append q [s]).trans hlonger
  have hmem : (account, sums) ∈ accountsBelow balance q := mem_accountsBelow.mpr ⟨hsums, hq⟩
  have hascending := pairwise_accountsBelow balance q
  rw [hsplit] at hmem hascending
  rcases List.mem_append.mp hmem with hmem | hmem
  · have hne := hbefore _ hmem
    simp [(head?_drop_eq_some hq).mpr hlonger] at hne
  · rcases List.mem_cons.mp hmem with rfl | hmem
    · exact le_rfl
    · exact ((List.pairwise_cons.mp (List.pairwise_append.mp hascending).2.1).1 _ hmem).le

/-! ## The content of the tree -/

/-- What a node says about the accounts of a balance whose names begin with given segments. -/
structure Summary (balance : Std.TreeMap String Balance) (q : List String) (n : AccountNode) :
    Prop where
  /-- The segment of the node is the last of them. -/
  segment : q.getLast? = some n.segment
  /-- A commodity has a sum if one of the accounts has it. -/
  commodity : ∀ c : Commodity, (∃ x, n.amount[c]? = some x) ↔ ∃ account sums,
    balance[account]? = some sums ∧ q <+: segments account ∧ ∃ x, sums[c]? = some x
  /-- The sum of a commodity is that of its numbers, from left to right. -/
  sum : ∀ (c : Commodity) (x : Float), n.amount[c]? = some x →
    x = (numbersBelow balance q c).foldl (· + ·) 0
  /-- Nothing stands below the node if no name goes on. -/
  leaf : n.isLeaf = true ↔ ∀ account ∈ namesBelow balance q, segments account = q

/-- The sums of a node are those of the accounts below its segments. -/
theorem getElem?_amount_nodeOf (path : String) (c : Commodity) :
    (nodeOf path (inside q (bySegments balance)) s).amount[c]? =
      Balance.plus none (numbersBelow balance (q ++ [s]) c) := by
  rw [nodeOf, Balance.getElem?_foldl_add, ← inside_append_segments, inside_bySegments,
    List.map_map, List.filterMap_map, Std.TreeMap.getElem?_emptyc]
  rfl

/-- A node of the tree says what it has to about the accounts below its segments. -/
theorem summary_nodeOf (path s : String) (q : List String) :
    Summary balance (q ++ [s]) (nodeOf path (inside q (bySegments balance)) s) where
  segment := List.getLast?_concat
  commodity c := by
    have hnumbers : numbersBelow balance (q ++ [s]) c ≠ [] ↔ ∃ account sums,
        balance[account]? = some sums ∧ q ++ [s] <+: segments account ∧ ∃ x, sums[c]? = some x := by
      rw [numbersBelow, ne_eq, List.filterMap_eq_nil_iff, not_forall]
      simp only [mem_accountsBelow, Prod.exists, not_forall, exists_prop, and_assoc,
        Option.eq_none_iff_forall_ne_some, not_not]
    rw [getElem?_amount_nodeOf, Balance.plus_eq, ← hnumbers]
    split_ifs with h <;> simp [h]
  sum c x hx := by
    rw [getElem?_amount_nodeOf, Balance.plus_eq] at hx
    split_ifs at hx
    exact (Option.some.inj hx).symm
  leaf := by
    rw [isLeaf, List.isEmpty_iff, nodeOf, build_eq_map, List.map_eq_nil_iff,
      ← inside_append_segments, List.eq_nil_iff_forall_not_mem]
    simp only [mem_heads_inside, Set.nonempty_def, not_exists]
    constructor
    · rintro h account ⟨haccount, rest, hrest⟩
      cases rest with
      | nil => rw [← hrest, List.append_nil]
      | cons t rest =>
        refine absurd ⟨haccount, rest, ?_⟩ (h t account)
        rw [← hrest, List.append_assoc (q ++ [s])]
        rfl
    · rintro h t account ⟨haccount, hlonger⟩
      have heq := h account ⟨haccount, (List.prefix_append _ [t]).trans hlonger⟩
      have hlength := hlonger.length_le
      rw [heq, List.length_append] at hlength
      simp at hlength

/-- Siblings have different segments and stand in the order of the least names below them. -/
theorem pairwise_siblings {siblings : List AccountNode} (h : Level (forest balance) q siblings) :
    siblings.Pairwise fun m n => m.segment ≠ n.segment ∧ ∃ a b,
      IsLeast (namesBelow balance (q ++ [m.segment])) a ∧
      IsLeast (namesBelow balance (q ++ [n.segment])) b ∧ a < b := by
  rw [forest_eq_build, level_build] at h
  rw [h.1, build_eq_map, List.pairwise_map]
  refine (nodup_heads _).and ?_
  rw [heads, inside_bySegments, List.filterMap_map]
  refine (pairwise_eraseDups_filterMap (pairwise_accountsBelow balance q) _).imp ?_
  rintro s t ⟨a, b, ha, hb, hab⟩
  exact ⟨a.1, b.1, isLeast_of_find? ha, isLeast_of_find? hb, hab⟩

/-- What is found in the tree of a balance by the segments of a path. -/
theorem findSegments_forest (balance : Std.TreeMap String Balance) (q : List String) (s : String) :
    findSegments (q ++ [s]) (forest balance) =
      if s ∈ heads (inside q (bySegments balance)) then
        some (nodeOf (q.foldl extendPath "") (inside q (bySegments balance)) s)
      else none := by
  rw [forest_eq_build, findSegments_build]

/-- What the tree of a balance holds. A path leads to a node if its segments begin the name of an
account. The node then has the last of them as its segment, the sums of all these accounts, taken
from left to right in the order of names, and no nodes below it if none of the names goes on. On
every level of the tree siblings have different segments and stand in the order of the least names
at or below them. -/
theorem find?_forest (balance : Std.TreeMap String Balance) :
    (∀ path, (∃ n, find? (forest balance) path = some n) ↔
      (namesBelow balance (segments path)).Nonempty) ∧
    (∀ path n, find? (forest balance) path = some n → Summary balance (segments path) n) ∧
    (∀ q, (accountsBelow balance q).Pairwise fun a b => a.1 < b.1) ∧
    ∀ q siblings, Level (forest balance) q siblings →
      siblings.Pairwise fun m n => m.segment ≠ n.segment ∧ ∃ a b,
        IsLeast (namesBelow balance (q ++ [m.segment])) a ∧
        IsLeast (namesBelow balance (q ++ [n.segment])) b ∧ a < b := by
  refine ⟨fun path => ?_, fun path n hn => ?_, pairwise_accountsBelow balance,
    fun q siblings => pairwise_siblings⟩ <;>
    obtain ⟨q, s, hpath⟩ := exists_segments_eq_append path
  · rw [find?, hpath, findSegments_forest, ← mem_heads_inside]
    split_ifs with hs <;> simp [hs]
  · rw [find?, hpath, findSegments_forest] at hn
    split_ifs at hn
    obtain rfl := Option.some.inj hn
    rw [hpath]
    exact summary_nodeOf _ s q

end Daybook.AccountNode
