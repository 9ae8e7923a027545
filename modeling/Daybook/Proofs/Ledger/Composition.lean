import Daybook.Proofs.Ledger.Run

set_option relaxedAutoImplicit false
set_option autoImplicit false

/-!
# What a booking is made of

The entries of a booking are those of the postings with a value, then those that stand for the
posting without one, then those that the rules add. This file says for each of the three which
entries they are, and that a run puts exactly these on the books.

## Main definitions

* `Ledger.IsValued` — an entry of a posting with a value.
* `Ledger.Synthesized` — the entries of the postings without one.
* `Ledger.fires` — whether a rule applies to an entry.
* `Ledger.occurrences` — every entry with every template of the rules that apply to it.
* `Ledger.IsInstance` — the entry that a template adds at another entry.
* `Ledger.Composition` — the three parts of a booking.

## Main results

* `Ledger.book_composition` — what is booked has these parts.
* `Ledger.rules_run` — the rules after a run are those among its statements.
* `Ledger.run_composition` — what a run commits is booked with the rules in front of it.
-/

namespace Daybook

/-- The rule that a statement adds, if it adds one. -/
def Statement.rule? : Statement → Option Rule
  | .rule r => some r
  | _ => none

namespace Ledger

/-! ## Parts of a booking -/

/-- The entry of a posting with a value: the value is looked up in the posting, then in the
transaction, then in the ledger, and is an amount. -/
def IsValued (l : Ledger) (date : Date) (p : Posting) (e : Entry) : Prop :=
  ∃ value a, p.value = some value ∧
    value.evaluate (Lookup.layers [p.lookup, date.lookup, l.lookup]) = .ok (.amount a) ∧
    e = ⟨p.account, a, p.cost.bind (Cost.counted a), p.isVirtual⟩

/-- The entries of the postings without a value, of which there is one at most: in ascending order
of commodities, one for each sum of the other entries that is not negligible. -/
def Synthesized (valued : List Entry) : List Posting → List Entry → Prop
  | [], es => es = []
  | [p], es =>
    es.Pairwise (fun e f => compare e.amount.commodity f.amount.commodity = .lt) ∧
      ∀ e, e ∈ es ↔ ∃ c x, (c, x) ∈ (Balance.ofEntries valued).toList ∧
        Balance.isNegligible x = false ∧ e = ⟨p.account, ⟨-x, c⟩, none, p.isVirtual⟩
  | _, _ => False

/-- Whether the condition of a rule is true for an entry, its names looked up in the entry, then in
the transaction, then in the ledger. -/
def fires (l : Ledger) (date : Date) (e : Entry) (r : Rule) : Bool :=
  match r.condition.evaluate (Lookup.layers [e.lookup, date.lookup, l.lookup]) with
  | .ok (.bool answer) => answer
  | _ => false

/-- Every entry, with every rule that applies to it, with every template of the rule. -/
def occurrences (l : Ledger) (date : Date) (es : List Entry) : List (Entry × Template) :=
  es.flatMap fun e => (l.rules.filter (l.fires date e)).flatMap fun r =>
    r.templates.map fun t => (e, t)

/-- The entry that a template adds at the entry `o.1`. The value of the template is looked up in the
transaction, then in the ledger. It is taken as it is if it has a commodity, and else multiplies
the amount of the entry. -/
def IsInstance (l : Ledger) (date : Date) (o : Entry × Template) (added : Entry) : Prop :=
  ∃ a, o.2.value.evaluate (Lookup.layers [date.lookup, l.lookup]) = .ok (.amount a) ∧
    added.account = o.2.account ∧ added.isVirtual = o.2.isVirtual ∧ added.cost = none ∧
    added.amount = if a.commodity.isKnown then a
      else ⟨a.number * o.1.amount.number, o.1.amount.commodity⟩

/-- The three parts of the booking of a transaction. -/
structure Composition (l : Ledger) (date : Date) (t : Transaction)
    (valued synthesized added : List Entry) : Prop where
  /-- One entry for every posting with a value, in their order. -/
  valuedPostings : List.Forall₂ (l.IsValued date) (t.postings.filter fun p => p.value.isSome) valued
  /-- The entries of the posting without a value. -/
  openPosting : Synthesized valued (t.postings.filter fun p => p.value.isNone) synthesized
  /-- Every condition is true or false for every entry of the first two parts. -/
  conditions : ∀ e ∈ valued ++ synthesized, ∀ r ∈ l.rules, ∃ answer,
    r.condition.evaluate (Lookup.layers [e.lookup, date.lookup, l.lookup]) = .ok (.bool answer)
  /-- One entry for every template of every rule that applies to an entry of the first two parts. -/
  templates : List.Forall₂ (l.IsInstance date) (l.occurrences date (valued ++ synthesized)) added

/-! ## Values -/

/-- An amount is had exactly if the expression evaluates to one. -/
theorem evaluateAmount_eq_ok {lookup : Lookup} {account : String} {e : Expression} {a : Amount} :
    evaluateAmount lookup account e = .ok a ↔ e.evaluate lookup = .ok (.amount a) := by
  unfold evaluateAmount
  split
  next h => simp [h]
  next h => simp [h]
  next hne h =>
    rw [h]
    refine iff_of_false nofun fun heq => ?_
    exact hne _ (Except.ok.inj heq)

/-- The entry of a posting with a value is had exactly if the value is an amount. -/
theorem entryOf_eq_ok_iff {l : Ledger} {date : Date} {p : Posting} {value : Expression}
    {e : Entry} (hvalue : p.value = some value) :
    l.entryOf date p value = .ok e ↔ l.IsValued date p e := by
  rw [entryOf, except_bind_eq_ok]
  constructor
  · rintro ⟨a, ha, he⟩
    exact ⟨value, a, hvalue, evaluateAmount_eq_ok.mp ha, (Except.ok.inj he).symm⟩
  · rintro ⟨value', a, hvalue', ha, rfl⟩
    obtain rfl := Option.some.inj (hvalue.symm.trans hvalue')
    exact ⟨a, evaluateAmount_eq_ok.mpr ha, rfl⟩

/-- The entries of the postings with a value. -/
theorem valuedEntries_eq_ok_iff {l : Ledger} {date : Date} {postings : List Posting}
    {es : List Entry} :
    l.valuedEntries date postings = .ok es ↔
      List.Forall₂ (l.IsValued date) (postings.filter fun p => p.value.isSome) es := by
  induction postings generalizing es with
  | nil =>
    rw [List.filter_nil, List.forall₂_nil_left_iff]
    exact ⟨fun h => (Except.ok.inj h).symm, fun h => congrArg Except.ok h.symm⟩
  | cons p postings ih =>
    rw [valuedEntries_cons]
    cases hvalue : p.value with
    | none =>
      rw [List.filter_cons_of_neg (by simp [hvalue])]
      exact ih
    | some value =>
      rw [List.filter_cons_of_pos (by simp [hvalue]), List.forall₂_cons_left_iff,
        except_bind_eq_ok]
      refine exists_congr fun e => ?_
      rw [entryOf_eq_ok_iff hvalue, except_bind_eq_ok, ← exists_and_left]
      refine exists_congr fun es' => and_congr_right fun _ => ?_
      exact and_congr ih ⟨fun h => (Except.ok.inj h).symm, fun h => congrArg Except.ok h.symm⟩

/-! ## The posting without a value -/

/-- The entries with which a posting balances others are in ascending order of commodities. -/
theorem pairwise_balancing (valued : List Entry) (p : Posting) :
    (balancing valued p).Pairwise
      fun e f => compare e.amount.commodity f.amount.commodity = .lt := by
  rw [balancing, List.pairwise_map]
  exact (Std.TreeMap.ordered_keys_toList (t := Balance.ofEntries valued)).filter _

/-- The entries with which a posting balances others. -/
theorem mem_balancing {valued : List Entry} {p : Posting} {e : Entry} :
    e ∈ balancing valued p ↔ ∃ c x, (c, x) ∈ (Balance.ofEntries valued).toList ∧
      Balance.isNegligible x = false ∧ e = ⟨p.account, ⟨-x, c⟩, none, p.isVirtual⟩ := by
  simp only [balancing, List.mem_map, List.mem_filter, Bool.not_eq_true', Prod.exists, and_assoc]
  exact exists₂_congr fun c x => and_congr_right fun _ => and_congr_right fun _ => eq_comm

/-- The entries of a transaction itself. -/
theorem baseEntries_eq_ok {l : Ledger} {date : Date} {t : Transaction} {base : List Entry}
    (h : l.baseEntries date t = .ok base) :
    ∃ valued synthesized, l.valuedEntries date t.postings = .ok valued ∧
      Synthesized valued (t.postings.filter fun p => p.value.isNone) synthesized ∧
      base = valued ++ synthesized := by
  obtain ⟨open?, ho, h⟩ := except_bind_eq_ok.mp h
  obtain ⟨valued, hv, h⟩ := except_bind_eq_ok.mp h
  refine ⟨valued, open?.elim [] (balancing valued), hv, ?_, (Except.ok.inj h).symm⟩
  unfold withoutValue at ho
  split at ho
  next hnil =>
    obtain rfl := Except.ok.inj ho
    rw [hnil]
    rfl
  next p hone =>
    obtain rfl := Except.ok.inj ho
    rw [hone]
    exact ⟨pairwise_balancing valued p, fun e => mem_balancing⟩
  next => cases ho

/-! ## Rules -/

/-- A condition is put to an entry exactly if it is true or false, and then it is known which. -/
theorem holds_eq_ok {l : Ledger} {date : Date} {r : Rule} {e : Entry} {answer : Bool} :
    l.holds date r e = .ok answer ↔
      r.condition.evaluate (Lookup.layers [e.lookup, date.lookup, l.lookup]) =
        .ok (.bool answer) := by
  unfold holds
  split
  next h => simp [h]
  next h => simp [h]
  next hne h =>
    rw [h]
    refine iff_of_false nofun fun heq => ?_
    exact hne _ (Except.ok.inj heq)

/-- A rule applies to an entry if its condition is true. -/
theorem fires_of_holds {l : Ledger} {date : Date} {r : Rule} {e : Entry} {answer : Bool}
    (h : l.holds date r e = .ok answer) : l.fires date e r = answer := by
  rw [fires, holds_eq_ok.mp h]

/-- The entry of a template at an entry. -/
theorem isInstance_of_instanceOf {l : Ledger} {date : Date} {e added : Entry} {t : Template}
    (h : l.instanceOf date e t = .ok added) : l.IsInstance date (e, t) added := by
  obtain ⟨a, ha, h⟩ := except_bind_eq_ok.mp h
  obtain rfl := Except.ok.inj h
  refine ⟨a, evaluateAmount_eq_ok.mp ha, rfl, rfl, rfl, ?_⟩
  rw [scaled]
  cases a.commodity <;> simp [Commodity.isKnown, Commodity.symbol?]

/-- What a rule adds at an entry: one entry for each of its templates if it applies, else none. -/
theorem additionsOf_eq_ok {l : Ledger} {date : Date} {e : Entry} {r : Rule} {added : List Entry}
    (h : l.additionsOf date e r = .ok added) :
    (∃ answer, l.holds date r e = .ok answer) ∧
      List.Forall₂ (l.IsInstance date)
        (if l.fires date e r then r.templates.map fun t => (e, t) else []) added := by
  obtain ⟨answer, hholds, h⟩ := except_bind_eq_ok.mp h
  refine ⟨⟨answer, hholds⟩, ?_⟩
  rw [fires_of_holds hholds]
  cases answer with
  | false =>
    obtain rfl := Except.ok.inj h
    exact .nil
  | true =>
    rw [if_pos rfl, List.forall₂_map_left_iff]
    exact (except_mapM_eq_ok.mp h).imp fun _ _ => isInstance_of_instanceOf

/-- The occurrences are found entry by entry and rule by rule, in the order of occasions. -/
theorem occurrences_eq (l : Ledger) (date : Date) (es : List Entry) :
    l.occurrences date es = (l.occasions es).flatMap fun o =>
      if l.fires date o.1 o.2 then o.2.templates.map fun t => (o.1, t) else [] := by
  rw [occasions, List.flatMap_assoc, occurrences]
  refine congrArg (List.flatMap · es) (funext fun e => ?_)
  rw [List.flatMap_map]
  induction l.rules with
  | nil => rfl
  | cons r rules ih =>
    rw [List.flatMap_cons, ← ih]
    cases h : l.fires date e r with
    | false =>
      rw [List.filter_cons_of_neg (by simp [h]), if_neg Bool.false_ne_true, List.nil_append]
    | true => rw [List.filter_cons_of_pos h, List.flatMap_cons, if_pos rfl]

/-- What the rules add to the entries of a transaction. -/
theorem additions_eq_ok {l : Ledger} {date : Date} {es added : List Entry}
    (h : l.additions date es = .ok added) :
    (∀ e ∈ es, ∀ r ∈ l.rules, ∃ answer, l.holds date r e = .ok answer) ∧
      List.Forall₂ (l.IsInstance date) (l.occurrences date es) added := by
  obtain ⟨lists, hlists, h⟩ := except_bind_eq_ok.mp h
  obtain rfl := Except.ok.inj h
  have hall := (except_mapM_eq_ok.mp hlists).imp fun _ _ => additionsOf_eq_ok
  constructor
  · intro e he r hr
    have hmem : (e, r) ∈ l.occasions es :=
      List.mem_flatMap.mpr ⟨e, he, List.mem_map.mpr ⟨r, hr, rfl⟩⟩
    obtain ⟨_, -, hholds, -⟩ := forall₂_exists_of_mem hall hmem
    exact hholds
  · rw [occurrences_eq, List.flatMap_def]
    refine List.rel_flatten (List.forall₂_map_left_iff.mpr ?_)
    exact hall.imp fun _ _ h => h.2

/-! ## Bookings -/

/-- The entries of a transaction itself and those that the rules add are the three parts. -/
theorem composition_of_additions {l : Ledger} {date : Date} {t : Transaction}
    {base added : List Entry} (hb : l.baseEntries date t = .ok base)
    (ha : l.additions date base = .ok added) :
    ∃ valued synthesized, base = valued ++ synthesized ∧
      l.Composition date t valued synthesized added := by
  obtain ⟨valued, synthesized, hv, hs, rfl⟩ := baseEntries_eq_ok hb
  obtain ⟨hdecided, hadded⟩ := additions_eq_ok ha
  refine ⟨valued, synthesized, rfl, ⟨valuedEntries_eq_ok_iff.mp hv, hs, ?_, hadded⟩⟩
  intro e he r hr
  obtain ⟨answer, hanswer⟩ := hdecided e he r hr
  exact ⟨answer, holds_eq_ok.mp hanswer⟩

/-- What is booked has its three parts. -/
theorem book_composition {l : Ledger} {t : Transaction} {b : Booking} (h : l.book t = .ok b) :
    ∃ date valued synthesized added, l.dateOf t = .ok date ∧
      l.Composition date t valued synthesized added ∧
      b = ⟨t.title, date, t.status, valued ++ synthesized ++ added⟩ := by
  obtain ⟨date, base, added, hd, hb, -, ha, rfl⟩ := book_eq_ok_iff.mp h
  obtain ⟨valued, synthesized, rfl, hcomposition⟩ := composition_of_additions hb ha
  exact ⟨date, valued, synthesized, added, hd, hcomposition, rfl⟩

/-! ## Runs -/

/-- A step puts the rule of its statement behind the earlier ones. -/
theorem rules_step (l : Ledger) (s : Statement) :
    (l.step s).rules = l.rules ++ s.rule?.toList := by
  obtain ⟨-, -, hrules, hne⟩ | ⟨r, rfl, h⟩ | ⟨t, b, rfl, -, h⟩ := step_cases l s
  · cases s with
    | rule r => exact absurd rfl (hne r)
    | _ => simpa [Statement.rule?] using hrules
  · rw [h]
    rfl
  · rw [h]
    exact (List.append_nil _).symm

/-- The rules after a run are those among its statements, in their order, behind the earlier
ones. -/
theorem rules_run (l : Ledger) (statements : List Statement) :
    (l.run statements).rules = l.rules ++ statements.filterMap Statement.rule? := by
  induction statements generalizing l with
  | nil => exact (List.append_nil _).symm
  | cons s rest ih =>
    rw [run_cons, ih, rules_step, List.append_assoc, List.filterMap_cons]
    cases s.rule? <;> rfl

/-- A run keeps the earlier bookings and puts others behind them. -/
theorem bookings_run (l : Ledger) (statements : List Statement) :
    ∃ later, (l.run statements).bookings = l.bookings ++ later := by
  induction statements generalizing l with
  | nil => exact ⟨[], (List.append_nil _).symm⟩
  | cons s rest ih =>
    obtain ⟨later, hlater⟩ := ih (l.step s)
    rw [run_cons, hlater]
    obtain ⟨-, h, -⟩ | ⟨r, -, h⟩ | ⟨t, b, -, -, h⟩ := step_cases l s
    · exact ⟨later, by rw [h]⟩
    · exact ⟨later, by rw [h]⟩
    · exact ⟨b :: later, by rw [h, commit, List.append_assoc]; rfl⟩

/-- Every booking after a run was there before it, or is that of one of its transactions, booked
with the ledger in front of it. -/
theorem mem_bookings_run {l : Ledger} {statements : List Statement} {b : Booking}
    (hb : b ∈ (l.run statements).bookings) :
    b ∈ l.bookings ∨ ∃ before t after, statements = before ++ .transaction t :: after ∧
      (l.run before).book t = .ok b := by
  induction statements generalizing l with
  | nil => exact .inl hb
  | cons s rest ih =>
    rw [run_cons] at hb
    rcases ih hb with hb | ⟨before, t, after, rfl, hbook⟩
    · obtain ⟨-, h, -⟩ | ⟨r, -, h⟩ | ⟨t, b', rfl, hbook, h⟩ := step_cases l s
      · exact .inl (h ▸ hb)
      · rw [h] at hb
        exact .inl hb
      · rw [h, commit, List.mem_append, List.mem_singleton] at hb
        rcases hb with hb | rfl
        · exact .inl hb
        · exact .inr ⟨[], t, rest, rfl, hbook⟩
    · exact .inr ⟨s :: before, t, after, rfl, by rwa [run_cons]⟩

/-- What a run commits: the booking of a transaction stands behind those that were there when its
turn came, it has its three parts, and the rules that add to it are those in front of it. -/
theorem run_composition {statements before after : List Statement} {t : Transaction} {b : Booking}
    (hsplit : statements = before ++ .transaction t :: after)
    (hbook : (empty.run before).book t = .ok b) :
    let l := empty.run before
    (empty.run statements).bookings[l.bookings.length]? = some b ∧
    l.rules = before.filterMap Statement.rule? ∧
    ∃ date valued synthesized added, l.dateOf t = .ok date ∧
      l.Composition date t valued synthesized added ∧
      b = ⟨t.title, date, t.status, valued ++ synthesized ++ added⟩ := by
  intro l
  refine ⟨?_, rules_run empty before, book_composition hbook⟩
  have hstep : l.step (.transaction t) = l.commit b :=
    step_eq_of_apply (apply_transaction_eq_ok.mpr ⟨b, hbook, rfl⟩)
  obtain ⟨later, hlater⟩ := bookings_run (l.commit b) after
  rw [hsplit, run_append, run_cons, hstep, hlater, commit]
  simp

/-- A rule that adds half of every amount in euros, and a sale that it applies to. -/
def halfAgain : Rule × Transaction :=
  (⟨.binary .equal (.name "commodity") (.string "EUR"), [⟨"Tax", .amount (.bare 0.5), true⟩]⟩,
    ⟨⟨some 2016, 1, 31⟩, none, "Shop", [],
      [⟨"Cash", none, none, none, false, []⟩,
        ⟨"Sale", some (.amount ⟨10, .known "EUR"⟩), none, none, false, []⟩]⟩)

/-- The sale is booked with an entry for the open posting and two entries of the rule. -/
theorem run_composition_halfAgain :
    ∃ b : Booking, b.entries =
      [⟨"Sale", ⟨10, .known "EUR"⟩, none, false⟩, ⟨"Cash", ⟨-10, .known "EUR"⟩, none, false⟩,
        ⟨"Tax", ⟨0.5 * 10, .known "EUR"⟩, none, true⟩,
        ⟨"Tax", ⟨0.5 * -10, .known "EUR"⟩, none, true⟩] ∧
      let l := empty.run [.rule halfAgain.1]
      (empty.run [.rule halfAgain.1, .transaction halfAgain.2]).bookings[l.bookings.length]? =
        some b ∧
      l.rules = [Statement.rule halfAgain.1].filterMap Statement.rule? ∧
      ∃ date valued synthesized added, l.dateOf halfAgain.2 = .ok date ∧
        l.Composition date halfAgain.2 valued synthesized added ∧
        b = ⟨halfAgain.2.title, date, halfAgain.2.status, valued ++ synthesized ++ added⟩ :=
  ⟨⟨"Shop", ⟨2016, 1, 31⟩, none, _⟩, rfl, @run_composition _ [.rule halfAgain.1] [] _ _ rfl rfl⟩

end Ledger

end Daybook
