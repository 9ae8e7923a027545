import Daybook.Proofs.Ledger.OpenPosting

set_option relaxedAutoImplicit false
set_option autoImplicit false

/-!
# Why a transaction is refused

A transaction that cannot be booked is refused for one reason, even if several things are wrong with
it: first the date is looked at, then the number of postings without a value, then the values of the
others one after another, then the sums, and last what the rules are asked about the entries. This
file lists the reasons, each with what has to be right for it to be given.

## Main definitions

* `Ledger.Unfit` — what is wrong with a value or a condition.
* `Ledger.Question`, `Ledger.questions` — what the rules are asked, in the order of asking.
* `Balance.IsFirstOff` — the first commodity whose sum is wrong.
* `Ledger.Refuses` — the reasons.

## Main results

* `Ledger.valuedEntries_eq_error_iff`, `Ledger.verify_eq_error_iff`,
  `Ledger.additions_eq_error_iff` — the error of each part of a booking.
* `Ledger.baseEntries_eq_ok_iff` — the entries of the transaction itself.
* `Ledger.book_refusal` — the error of a transaction, and when there is none.
-/

namespace Daybook

/-- The postings without a value. -/
def Transaction.openPostings (t : Transaction) : List Posting :=
  t.postings.filter fun p => p.value.isNone

/-- The sum of a commodity is not a number or reaches the tolerance, and no commodity before it has
such a sum. -/
def Balance.IsFirstOff (b : Balance) (c : Commodity) (r : Float) : Prop :=
  b[c]? = some r ∧ (r.isNaN = true ∨ tolerance ≤ r.abs) ∧
    ∀ (d : Commodity) (y : Float), b[d]? = some y → y.isNaN = true ∨ tolerance ≤ y.abs →
      c = d ∨ c.Precedes d

namespace Ledger

open Balance

/-! ## Reasons -/

/-- The date of a transaction has the year that is written, or else the one that is declared. -/
def IsDated (l : Ledger) (t : Transaction) (date : Date) : Prop :=
  t.date.year.or l.year = some date.year ∧ date.month = t.date.month ∧ date.day = t.date.day

/-- What is wrong with an expression whose value ought to be of a kind: it cannot be evaluated, or
its value is of another kind, for which there is an error of its own. -/
inductive Unfit (lookup : Lookup) (kind : Kind) (wrongKind : LedgerError) (e : Expression) :
    LedgerError → Prop
  | unevaluated {error : EvalError} (h : e.evaluate lookup = .error error) :
    Unfit lookup kind wrongKind e (.evaluation error)
  | otherKind {v : Value} (h : e.evaluate lookup = .ok v) (hkind : v.kind ≠ kind) :
    Unfit lookup kind wrongKind e wrongKind

/-- What is wrong with the value of a posting that has one. -/
def ValueFails (l : Ledger) (date : Date) (p : Posting) (error : LedgerError) : Prop :=
  ∃ e, p.value = some e ∧ Unfit (Lookup.layers [p.lookup, date.lookup, l.lookup]) .amount
    (.notAnAmount p.account) e error

/-- What is asked of the rules: whether the condition of a rule holds for an entry, and what the
value of a template is. -/
inductive Question where
  | condition (e : Entry) (r : Rule)
  | value (t : Template)

/-- What is wrong with the answer to a question. -/
def Question.Fails (l : Ledger) (date : Date) : Question → LedgerError → Prop
  | condition e r =>
    Unfit (Lookup.layers [e.lookup, date.lookup, l.lookup]) .bool .notABoolean r.condition
  | value t =>
    Unfit (Lookup.layers [date.lookup, l.lookup]) .amount (.notAnAmount t.account) t.value

/-- What a rule is asked at an entry: its condition, and the values of its templates if it applies
to the entry. -/
def questionsAt (l : Ledger) (date : Date) (e : Entry) (r : Rule) : List Question :=
  .condition e r :: if l.fires date e r then r.templates.map .value else []

/-- What the rules are asked: at every entry every rule in turn. -/
def questions (l : Ledger) (date : Date) (es : List Entry) : List Question :=
  es.flatMap fun e => l.rules.flatMap (l.questionsAt date e)

/-- The entries of a transaction itself: those of the postings with a value, and those of the
posting without one, of which there is one at most. -/
def OwnEntries (l : Ledger) (date : Date) (t : Transaction) (es : List Entry) : Prop :=
  ∃ valued synthesized,
    List.Forall₂ (l.IsValued date) (t.postings.filter fun p => p.value.isSome) valued ∧
      Synthesized valued t.openPostings synthesized ∧ es = valued ++ synthesized

/-- Why a transaction is refused. What has to be right for a reason to be given stands in front of
it. -/
inductive Refuses (l : Ledger) (t : Transaction) : LedgerError → Prop
  /-- The year is neither written nor declared. -/
  | noYear (hdate : t.date.year = none) (hledger : l.year = none) :
    Refuses l t (.noYear t.date)
  /-- More than one posting has no value. -/
  | severalWithoutValue {date : Date} (hdate : l.IsDated t date)
    (hopen : 1 < t.openPostings.length) :
    Refuses l t (.severalWithoutValue t.openPostings.length)
  /-- The first value that is wrong. -/
  | value {date : Date} {error : LedgerError} (hdate : l.IsDated t date)
    (hopen : t.openPostings.length ≤ 1)
    (hfirst : FirstFailure (l.ValueFails date) t.postings error) : Refuses l t error
  /-- The first sum that is wrong, where the sums are not accepted. -/
  | unbalanced {date : Date} {es : List Entry} {c : Commodity} {residual : Float}
    (hdate : l.IsDated t date) (hes : l.OwnEntries date t es)
    (hverify : verify (Balance.ofEntries es) ≠ .ok ())
    (hfirst : (Balance.ofEntries es).IsFirstOff c residual) : Refuses l t (.unbalanced c residual)
  /-- The first answer of the rules that is wrong. -/
  | rules {date : Date} {es : List Entry} {error : LedgerError} (hdate : l.IsDated t date)
    (hes : l.OwnEntries date t es) (hverify : verify (Balance.ofEntries es) = .ok ())
    (hfirst : FirstFailure (Question.Fails l date) (l.questions date es) error) :
    Refuses l t error

variable {l : Ledger} {t : Transaction} {date : Date} {error : LedgerError}

/-! ## The date -/

/-- The date of a transaction is had if its year is written or declared. -/
theorem dateOf_eq_ok_iff : l.dateOf t = .ok date ↔ l.IsDated t date := by
  rw [dateOf, WrittenDate.resolve, IsDated]
  cases t.date.year.or l.year with
  | none => simp
  | some year =>
    obtain ⟨year', month, day⟩ := date
    simp [eq_comm]

/-- The date of a transaction is not had if its year is neither written nor declared. -/
theorem dateOf_eq_error_iff :
    l.dateOf t = .error error ↔
      (t.date.year = none ∧ l.year = none) ∧ error = .noYear t.date := by
  rw [dateOf, WrittenDate.resolve, ← Option.or_eq_none_iff]
  cases t.date.year.or l.year <;> simp [eq_comm]

/-! ## Values -/

section Unfit

variable {lookup : Lookup} {kind : Kind} {wrongKind : LedgerError} {e : Expression}

/-- What cannot be evaluated is unfit for that reason. -/
theorem unfit_iff_of_error {cause : EvalError} (h : e.evaluate lookup = .error cause) :
    Unfit lookup kind wrongKind e error ↔ error = .evaluation cause := by
  constructor
  · rintro (⟨h'⟩ | ⟨h', -⟩)
    · rw [Except.error.inj (h'.symm.trans h)]
    · rw [h] at h'
      cases h'
  · rintro rfl
    exact .unevaluated h

/-- What can be evaluated is unfit if the value is of another kind. -/
theorem unfit_iff_of_ok {v : Value} (h : e.evaluate lookup = .ok v) :
    Unfit lookup kind wrongKind e error ↔ v.kind ≠ kind ∧ error = wrongKind := by
  constructor
  · rintro (⟨h'⟩ | ⟨h', hkind⟩)
    · rw [h] at h'
      cases h'
    · rw [Except.ok.inj (h.symm.trans h')]
      exact ⟨hkind, rfl⟩
  · rintro ⟨hkind, rfl⟩
    exact .otherKind h hkind

/-- An amount is not had if there is another value or none. -/
theorem evaluateAmount_eq_error_iff {account : String} :
    evaluateAmount lookup account e = .error error ↔
      Unfit lookup .amount (.notAnAmount account) e error := by
  cases h : e.evaluate lookup with
  | error cause => rw [unfit_iff_of_error h, evaluateAmount, h, Except.error.injEq, eq_comm]
  | ok v =>
    rw [unfit_iff_of_ok h, evaluateAmount, h]
    cases v <;> simp [Value.kind, eq_comm]

end Unfit

/-- What is wrong with an entry that is not had is wrong with its value. -/
theorem entryOf_eq_error_iff {p : Posting} {e : Expression} :
    l.entryOf date p e = .error error ↔
      Unfit (Lookup.layers [p.lookup, date.lookup, l.lookup]) .amount (.notAnAmount p.account) e
        error := by
  rw [entryOf, except_bind_eq_error, evaluateAmount_eq_error_iff]
  exact or_iff_left (by rintro ⟨a, -, ⟨⟩⟩)

/-- The entries of the postings with a value fail with the first value that is wrong. -/
theorem valuedEntries_eq_error_iff {postings : List Posting} :
    l.valuedEntries date postings = .error error ↔
      FirstFailure (l.ValueFails date) postings error := by
  induction postings with
  | nil => exact iff_of_false nofun not_firstFailure_nil
  | cons p postings ih =>
    rw [valuedEntries_cons, firstFailure_cons, ← ih]
    cases hvalue : p.value with
    | none => simp [ValueFails, hvalue]
    | some e =>
      have hfails (error : LedgerError) :
          l.ValueFails date p error ↔ l.entryOf date p e = .error error := by
        simp [ValueFails, hvalue, entryOf_eq_error_iff]
      simp only [hfails, ← ne_eq, ← exists_ok_iff_forall_ne_error, ← exists_and_right]
      rw [except_bind_eq_error]
      refine or_congr_right (exists_congr fun entry => and_congr_right fun _ => ?_)
      rw [except_bind_eq_error]
      exact or_iff_left (by rintro ⟨es, -, ⟨⟩⟩)

/-! ## The entries of the transaction itself -/

/-- A posting without a value is found if there is no second one. -/
theorem withoutValue_eq_ok_iff {open? : Option Posting} :
    withoutValue t = .ok open? ↔ t.openPostings = open?.toList := by
  rw [withoutValue, ← Transaction.openPostings]
  rcases t.openPostings with _ | ⟨p, _ | ⟨q, several⟩⟩ <;> cases open? <;> simp

/-- Several postings without a value are refused. -/
theorem withoutValue_eq_error_iff :
    withoutValue t = .error error ↔
      1 < t.openPostings.length ∧ error = .severalWithoutValue t.openPostings.length := by
  rw [withoutValue, ← Transaction.openPostings]
  rcases t.openPostings with _ | ⟨p, _ | ⟨q, several⟩⟩
  · simp
  · simp
  · simp [eq_comm]

/-- The entries that balance others are determined by which they are, as they are in order. -/
theorem eq_balancing {valued es : List Entry} {p : Posting} (h : Synthesized valued [p] es) :
    es = balancing valued p := by
  refine List.Perm.eq_of_pairwise ?_ h.1 (pairwise_balancing valued p) ?_
  · intro e f _ _ hef hfe
    exact absurd hfe (Std.OrientedCmp.not_lt_of_lt hef)
  · have hnodup (es : List Entry) (hes : es.Pairwise fun e f =>
        compare e.amount.commodity f.amount.commodity = .lt) : es.Nodup := by
      refine hes.imp fun {e f} hlt heq => ?_
      subst heq
      simp at hlt
    exact (List.perm_ext_iff_of_nodup (hnodup es h.1) (hnodup _ (pairwise_balancing valued p))).mpr
      fun e => (h.2 e).trans mem_balancing.symm

/-- The entries of a transaction itself are had exactly if there are such entries. -/
theorem baseEntries_eq_ok_iff {es : List Entry} :
    l.baseEntries date t = .ok es ↔ l.OwnEntries date t es := by
  constructor
  · intro h
    obtain ⟨valued, synthesized, hvalued, hsynthesized, rfl⟩ := baseEntries_eq_ok h
    exact ⟨valued, synthesized, valuedEntries_eq_ok_iff.mp hvalued, hsynthesized, rfl⟩
  · rintro ⟨valued, synthesized, hvalued, hsynthesized, rfl⟩
    have hvalued := valuedEntries_eq_ok_iff.mpr hvalued
    have hbase (open? : Option Posting) (hopen : t.openPostings = open?.toList) :
        l.baseEntries date t = .ok (valued ++ open?.elim [] (balancing valued)) :=
      except_bind_eq_ok.mpr ⟨open?, withoutValue_eq_ok_iff.mpr hopen,
        except_bind_eq_ok.mpr ⟨valued, hvalued, rfl⟩⟩
    rcases hopen : t.openPostings with _ | ⟨p, _ | ⟨q, several⟩⟩ <;> rw [hopen] at hsynthesized
    · rw [hbase none hopen, show synthesized = [] from hsynthesized]
      rfl
    · rw [hbase (some p) hopen, eq_balancing hsynthesized]
      rfl
    · cases hsynthesized

/-- The entries of a transaction itself are not had if several postings have no value, or else a
value is wrong. -/
theorem baseEntries_eq_error_iff :
    l.baseEntries date t = .error error ↔
      1 < t.openPostings.length ∧ error = .severalWithoutValue t.openPostings.length ∨
      t.openPostings.length ≤ 1 ∧ FirstFailure (l.ValueFails date) t.postings error := by
  have hopen : (∃ open?, withoutValue t = .ok open?) ↔ t.openPostings.length ≤ 1 := by
    simp only [exists_ok_iff_forall_ne_error, ne_eq, withoutValue_eq_error_iff, not_and, ← not_lt]
    exact ⟨fun h hlt => h _ hlt rfl, fun h _ hlt => absurd hlt h⟩
  rw [baseEntries, except_bind_eq_error, withoutValue_eq_error_iff, ← hopen,
    ← valuedEntries_eq_error_iff, ← exists_and_right]
  refine or_congr_right (exists_congr fun open? => and_congr_right fun _ => ?_)
  rw [except_bind_eq_error]
  exact or_iff_left (by rintro ⟨es, -, ⟨⟩⟩)

/-! ## Verification -/

/-- A sum is wrong where zero is wanted if it is not a number or reaches the tolerance. -/
theorem isOff_iff {x : Float} : Balance.isOff x = true ↔ x.isNaN = true ∨ tolerance ≤ x.abs := by
  rw [Balance.isOff, Bool.or_eq_true, decide_eq_true_iff]

/-- Among wrong sums there is only one first. -/
theorem isFirstOff_unique {b : Balance} {c d : Commodity} {r y : Float} (hc : b.IsFirstOff c r)
    (hd : b.IsFirstOff d y) : c = d ∧ r = y := by
  have heq : c = d := by
    rcases hc.2.2 d y hd.1 hd.2.1 with heq | hlt
    · exact heq
    rcases hd.2.2 c r hc.1 hc.2.1 with heq | hgt
    · exact heq.symm
    · exact absurd (Commodity.compare_eq_lt_iff.mpr hgt)
        (Std.OrientedCmp.not_lt_of_lt (Commodity.compare_eq_lt_iff.mpr hlt))
  subst heq
  exact ⟨rfl, Option.some.inj (hc.1.symm.trans hd.1)⟩

/-- Sums that are not accepted are refused because of the first wrong one. -/
theorem verify_eq_error_iff {b : Balance} :
    verify b = .error error ↔
      verify b ≠ .ok () ∧ ∃ c r, b.IsFirstOff c r ∧ error = .unbalanced c r := by
  have hsome {e : LedgerError} (h : verify b = .error e) :
      ∃ c r, b.IsFirstOff c r ∧ e = .unbalanced c r := by
    unfold verify at h
    split at h
    · cases h
    split at h
    next c r hwrong =>
      obtain ⟨hr, hoff, hfirst⟩ := Balance.unbalanced?_eq_some hwrong
      exact ⟨c, r, ⟨hr, isOff_iff.mp hoff, fun d y hy hy' => hfirst d y hy (isOff_iff.mpr hy')⟩,
        (Except.error.inj h).symm⟩
    next => cases h
  constructor
  · intro h
    exact ⟨by rw [h]; nofun, hsome h⟩
  · rintro ⟨hne, c, r, hfirst, rfl⟩
    cases h : verify b with
    | ok u => exact absurd h hne
    | error e =>
      obtain ⟨d, y, hfirst', rfl⟩ := hsome h
      obtain ⟨rfl, rfl⟩ := isFirstOff_unique hfirst hfirst'
      rfl

/-! ## Rules -/

/-- A condition is neither true nor false if there is another value or none. -/
theorem holds_eq_error_iff {r : Rule} {e : Entry} :
    l.holds date r e = .error error ↔
      Unfit (Lookup.layers [e.lookup, date.lookup, l.lookup]) .bool .notABoolean r.condition
        error := by
  cases h : r.condition.evaluate (Lookup.layers [e.lookup, date.lookup, l.lookup]) with
  | error cause => rw [unfit_iff_of_error h, holds, h, Except.error.injEq, eq_comm]
  | ok v =>
    rw [unfit_iff_of_ok h, holds, h]
    cases v <;> simp [Value.kind, eq_comm]

/-- What is wrong with an entry of a template that is not had is wrong with the value of the
template. -/
theorem instanceOf_eq_error_iff {e : Entry} {t : Template} :
    l.instanceOf date e t = .error error ↔
      Unfit (Lookup.layers [date.lookup, l.lookup]) .amount (.notAnAmount t.account) t.value
        error := by
  rw [instanceOf, except_bind_eq_error, evaluateAmount_eq_error_iff]
  exact or_iff_left (by rintro ⟨a, -, ⟨⟩⟩)

/-- A rule fails at an entry with the first wrong answer. The templates of a rule that does not
apply are not asked. -/
theorem additionsOf_eq_error_iff {e : Entry} {r : Rule} :
    l.additionsOf date e r = .error error ↔
      FirstFailure (Question.Fails l date) (l.questionsAt date e r) error := by
  rw [additionsOf, except_bind_eq_error, questionsAt, firstFailure_cons, holds_eq_error_iff]
  refine or_congr Iff.rfl ?_
  have hanswer : (∀ error, ¬ Question.Fails l date (.condition e r) error) ↔
      ∃ answer, l.holds date r e = .ok answer := by
    simp only [exists_ok_iff_forall_ne_error, ne_eq, holds_eq_error_iff, Question.Fails]
  rw [hanswer, ← exists_and_right]
  refine exists_congr fun answer => and_congr_right fun hholds => ?_
  rw [fires_of_holds hholds]
  cases answer with
  | false => exact iff_of_false nofun not_firstFailure_nil
  | true =>
    rw [if_pos rfl, if_pos rfl, firstFailure_map, except_mapM_eq_error]
    simp only [instanceOf_eq_error_iff, Question.Fails]

/-- The rules fail with the first wrong answer. -/
theorem additions_eq_error_iff {es : List Entry} :
    l.additions date es = .error error ↔
      FirstFailure (Question.Fails l date) (l.questions date es) error := by
  have hquestions : l.questions date es =
      (l.occasions es).flatMap fun o => l.questionsAt date o.1 o.2 := by
    rw [questions, occasions, List.flatMap_assoc]
    simp only [List.flatMap_map]
  rw [additions, except_bind_eq_error, hquestions, firstFailure_flatMap, except_mapM_eq_error]
  simp only [additionsOf_eq_error_iff]
  exact or_iff_left (by rintro ⟨lists, -, ⟨⟩⟩)

/-! ## Transactions -/

/-- The parts of a booking are made in turn, and the first that fails is the reason. -/
theorem book_eq_error_iff :
    l.book t = .error error ↔ l.dateOf t = .error error ∨ ∃ date, l.dateOf t = .ok date ∧
      (l.baseEntries date t = .error error ∨ ∃ es, l.baseEntries date t = .ok es ∧
        (verify (Balance.ofEntries es) = .error error ∨ verify (Balance.ofEntries es) = .ok () ∧
          l.additions date es = .error error)) := by
  rw [book, except_bind_eq_error]
  refine or_congr_right (exists_congr fun date => and_congr_right fun _ => ?_)
  rw [except_bind_eq_error]
  refine or_congr_right (exists_congr fun es => and_congr_right fun _ => ?_)
  rw [except_bind_eq_error]
  refine or_congr_right ?_
  constructor
  · rintro ⟨⟨⟩, hverify, h⟩
    rcases except_bind_eq_error.mp h with h | ⟨added, -, ⟨⟩⟩
    exact ⟨hverify, h⟩
  · rintro ⟨hverify, h⟩
    exact ⟨(), hverify, except_bind_eq_error.mpr (.inl h)⟩

/-- A transaction is refused for the reason that there is by `Refuses`, and booked if there is
none. -/
theorem book_refusal (l : Ledger) (t : Transaction) :
    (∀ error, l.book t = .error error ↔ l.Refuses t error) ∧
    ((∃ b, l.book t = .ok b) ↔ ∀ error, ¬ l.Refuses t error) := by
  have hrefusal (error : LedgerError) : l.book t = .error error ↔ l.Refuses t error := by
    simp only [book_eq_error_iff, dateOf_eq_error_iff, dateOf_eq_ok_iff, baseEntries_eq_error_iff,
      baseEntries_eq_ok_iff, additions_eq_error_iff]
    constructor
    · rintro (⟨⟨hdate, hledger⟩, rfl⟩ | ⟨date, hdate, (⟨hopen, rfl⟩ | ⟨hopen, hfirst⟩) |
        ⟨es, hes, herror | ⟨hverify, hfirst⟩⟩⟩)
      · exact .noYear hdate hledger
      · exact .severalWithoutValue hdate hopen
      · exact .value hdate hopen hfirst
      · obtain ⟨hverify, c, r, hfirst, rfl⟩ := verify_eq_error_iff.mp herror
        exact .unbalanced hdate hes hverify hfirst
      · exact .rules hdate hes hverify hfirst
    · intro h
      cases h with
      | noYear hdate hledger => exact .inl ⟨⟨hdate, hledger⟩, rfl⟩
      | severalWithoutValue hdate hopen => exact .inr ⟨_, hdate, .inl (.inl ⟨hopen, rfl⟩)⟩
      | value hdate hopen hfirst => exact .inr ⟨_, hdate, .inl (.inr ⟨hopen, hfirst⟩)⟩
      | unbalanced hdate hes hverify hfirst =>
        exact .inr ⟨_, hdate, .inr ⟨_, hes, .inl (verify_eq_error_iff.mpr
          ⟨hverify, _, _, hfirst, rfl⟩)⟩⟩
      | rules hdate hes hverify hfirst =>
        exact .inr ⟨_, hdate, .inr ⟨_, hes, .inr ⟨hverify, hfirst⟩⟩⟩
  refine ⟨hrefusal, ?_⟩
  simp only [exists_ok_iff_forall_ne_error, ne_eq, hrefusal]

end Ledger

end Daybook
