import Daybook.Proofs.Ledger.Run

set_option relaxedAutoImplicit false
set_option autoImplicit false

/-!
# What a booking depends on

A transaction is booked by the rules of the ledger, by the definitions of its names, and by the
declared year if the transaction leaves its own open. Definitions of the names that stand for the
date and its parts are never looked up, since the transaction gives values to these names itself.
Notes, claimed balances and prices per unit take no part, nor does the place of the posting without
a value.

## Main definitions

* `Date.names` — the names that the date of a transaction gives values to.
* `Ledger.AgreesFor` — two ledgers look the same to a transaction.
* `Posting.essence`, `Transaction.essence` — without the parts that do not matter.

## Main results

* `Lookup.layers_eq_of_agree` — no layered lookup tells two such ledgers apart.
* `Ledger.book_eq_of_agreesFor` — nor does the booking of the transaction.
* `Ledger.book_essence`, `Ledger.book_middle` — the parts of a transaction that do not matter.
* `Ledger.book_dependence` — all of this together.
-/

namespace Daybook

/-! ## Ledgers that look the same -/

/-- The names that the date of a transaction gives values to. -/
def Date.names : List String :=
  ["date", "year", "month", "day"]

/-- The date gives a value to each of its names. -/
theorem Date.isSome_lookup (d : Date) {name : String} (h : name ∈ Date.names) :
    (d.lookup name).isSome := by
  simp only [Date.names, List.mem_cons, List.not_mem_nil, or_false] at h
  rcases h with rfl | rfl | rfl | rfl <;> rfl

/-- Two ledgers look the same to a transaction: they have the same rules, they define every name
alike that the date does not give a value to, and they declare the same year if the transaction has
none of its own. -/
structure Ledger.AgreesFor (t : Transaction) (l l' : Ledger) : Prop where
  rules : l.rules = l'.rules
  definitions : ∀ name ∉ Date.names, l.definitions[name]? = l'.definitions[name]?
  year : t.date.year = none → l.year = l'.year

/-- Behind the names of a date two ledgers are looked up alike if they define all other names
alike. Before the date, there may be any other lookups. -/
theorem Lookup.layers_eq_of_agree {l l' : Ledger}
    (h : ∀ name ∉ Date.names, l.definitions[name]? = l'.definitions[name]?) (date : Date)
    (above : List Lookup) :
    Lookup.layers (above ++ [date.lookup, l.lookup]) =
      Lookup.layers (above ++ [date.lookup, l'.lookup]) := by
  funext name
  rw [Lookup.layers, Lookup.layers, List.findSome?_append, List.findSome?_append]
  refine congrArg (Option.or _) ?_
  by_cases hname : name ∈ Date.names
  · obtain ⟨value, hvalue⟩ := Option.isSome_iff_exists.mp (date.isSome_lookup hname)
    simp only [List.findSome?_cons, hvalue]
  · have hyear : name ≠ "year" := by
      rintro rfl
      exact hname (by decide)
    have hlookup : l.lookup name = l'.lookup name := by
      simp only [Ledger.lookup, h name hname, if_neg hyear]
    simp only [List.findSome?_cons, hlookup]

namespace Ledger

variable {l l' : Ledger} {t : Transaction}

/-- The date of a transaction is resolved alike. -/
theorem dateOf_eq_of_agreesFor (h : AgreesFor t l l') : l.dateOf t = l'.dateOf t := by
  have hresolve : t.date.resolve l.year = t.date.resolve l'.year := by
    cases hyear : t.date.year with
    | none => rw [h.year hyear]
    | some year => simp [WrittenDate.resolve, hyear]
  rw [dateOf, dateOf, hresolve]

/-- The entries of the transaction itself are the same. -/
theorem baseEntries_eq_of_agreesFor (h : AgreesFor t l l') (date : Date) :
    l.baseEntries date t = l'.baseEntries date t := by
  have hentry : l.entryOf date = l'.entryOf date := by
    funext p e
    have hlookup := Lookup.layers_eq_of_agree h.definitions date [p.lookup]
    simp only [List.singleton_append] at hlookup
    rw [entryOf, entryOf, hlookup]
  rw [baseEntries, baseEntries, valuedEntries, valuedEntries, hentry]

/-- The rules add the same entries. -/
theorem additions_eq_of_agreesFor (h : AgreesFor t l l') (date : Date) :
    l.additions date = l'.additions date := by
  have hholds : l.holds date = l'.holds date := by
    funext r e
    have hlookup := Lookup.layers_eq_of_agree h.definitions date [e.lookup]
    simp only [List.singleton_append] at hlookup
    rw [holds, holds, hlookup]
  have hinstance : l.instanceOf date = l'.instanceOf date := by
    funext e template
    have hlookup := Lookup.layers_eq_of_agree h.definitions date []
    simp only [List.nil_append] at hlookup
    rw [instanceOf, instanceOf, hlookup]
  have hadditions : l.additionsOf date = l'.additionsOf date := by
    funext e r
    rw [additionsOf, additionsOf, hholds, hinstance]
  funext es
  rw [additions, additions, occasions, occasions, h.rules, hadditions]

/-- A transaction is booked alike, or refused for the same reason, on ledgers that look the same to
it. -/
theorem book_eq_of_agreesFor (h : AgreesFor t l l') : l.book t = l'.book t := by
  rw [book, book, dateOf_eq_of_agreesFor h]
  simp only [baseEntries_eq_of_agreesFor h, additions_eq_of_agreesFor h]

/-- A booking changes nothing that the transaction can see. -/
theorem agreesFor_commit (t : Transaction) (l : Ledger) (b : Booking) :
    AgreesFor t (l.commit b) l :=
  ⟨rfl, fun _ _ => rfl, fun _ => rfl⟩

end Ledger

/-! ## Parts that do not matter -/

/-- A posting without its notes, its claimed balance and a price per unit. -/
def Posting.essence (p : Posting) : Posting :=
  { p with notes := [], balance := none, cost := p.cost.filter fun c => c.kind = .total }

/-- A transaction without notes, claimed balances and prices per unit. -/
def Transaction.essence (t : Transaction) : Transaction :=
  { t with notes := [], postings := t.postings.map Posting.essence }

namespace Ledger

/-- A price per unit does not count in the balance, and so it is not missed. -/
theorem bind_counted_essence (a : Amount) (p : Posting) :
    p.essence.cost.bind (Cost.counted a) = p.cost.bind (Cost.counted a) := by
  rw [Posting.essence]
  cases p.cost with
  | none => rfl
  | some c => cases hkind : c.kind <;> simp [Option.filter, Cost.counted, hkind]

/-- The parts that do not matter are missed in no entry. -/
theorem valuedEntries_essence (l : Ledger) (date : Date) (ps : List Posting) :
    l.valuedEntries date (ps.map Posting.essence) = l.valuedEntries date ps := by
  induction ps with
  | nil => rfl
  | cons p ps ih =>
    have hentry (e : Expression) : l.entryOf date p.essence e = l.entryOf date p e := by
      simp only [entryOf, bind_counted_essence]
      rfl
    rw [List.map_cons, valuedEntries_cons, valuedEntries_cons, ih]
    simp only [hentry]
    rfl

/-- The posting without a value is found again without the parts that do not matter. -/
theorem withoutValue_essence (t : Transaction) :
    withoutValue t.essence = (withoutValue t).map (Option.map Posting.essence) := by
  have hfilter : t.essence.postings.filter (fun p => p.value.isNone) =
      (t.postings.filter fun p => p.value.isNone).map Posting.essence := by
    rw [Transaction.essence, List.filter_map]
    rfl
  rw [withoutValue, withoutValue, hfilter]
  generalize t.postings.filter (fun p => p.value.isNone) = several
  rcases several with _ | ⟨p, _ | ⟨q, rest⟩⟩
  · rfl
  · rfl
  · simp [Except.map]

/-- A transaction is booked as it is without the parts that do not matter. -/
theorem book_essence (l : Ledger) (t : Transaction) : l.book t.essence = l.book t := by
  have hbase (date : Date) : l.baseEntries date t.essence = l.baseEntries date t := by
    have hvalued : l.valuedEntries date t.essence.postings = l.valuedEntries date t.postings :=
      valuedEntries_essence l date t.postings
    rw [baseEntries, baseEntries, withoutValue_essence, hvalued]
    rcases withoutValue t with error | _ | p <;> rfl
  simp only [book, hbase]
  rfl

/-- The posting without a value may stand anywhere among the others. -/
theorem book_middle (l : Ledger) (t : Transaction) {p : Posting} (hp : p.value = none)
    {before after before' after' : List Posting} (h : before ++ after = before' ++ after') :
    l.book { t with postings := before ++ p :: after } =
      l.book { t with postings := before' ++ p :: after' } := by
  have hvalued (date : Date) (before after : List Posting) :
      l.valuedEntries date (before ++ p :: after) = l.valuedEntries date (before ++ after) := by
    rw [valuedEntries, valuedEntries, List.filterMap_append, List.filterMap_append,
      List.filterMap_cons_none (by rw [hp]; rfl)]
  have hopen (before after : List Posting) :
      withoutValue { t with postings := before ++ p :: after } =
        if ((before ++ after).filter fun q => q.value.isNone).isEmpty then .ok (some p)
        else .error (.severalWithoutValue
          (((before ++ after).filter fun q => q.value.isNone).length + 1)) := by
    rw [withoutValue]
    simp only [List.filter_append, List.filter_cons, hp, Option.isNone_none, if_true]
    generalize before.filter (fun q => q.value.isNone) = front
    generalize after.filter (fun q => q.value.isNone) = back
    rcases front with _ | ⟨q, _ | ⟨q', front⟩⟩
    · cases back <;> rfl
    · simp
    · simp only [List.cons_append, List.length_append, List.length_cons]
      rfl
  have hbase (date : Date) : l.baseEntries date { t with postings := before ++ p :: after } =
      l.baseEntries date { t with postings := before' ++ p :: after' } := by
    rw [baseEntries, baseEntries, hopen, hopen, h]
    simp only [hvalued, h]
  simp only [book, hbase]
  rfl

/-! ## Dependence -/

/-- What the booking of a transaction depends on. Ledgers that look the same to it book it alike or
refuse it for the same reason. A transaction that has been applied is booked again as the first
time. It is booked as it is without its notes, claimed balances and prices per unit, or any of them,
and wherever the posting without a value stands. -/
theorem book_dependence (t : Transaction) :
    (∀ l l' : Ledger, AgreesFor t l l' → l.book t = l'.book t) ∧
    (∀ l l' : Ledger, l.apply (.transaction t) = .ok l' → ∃ b, l.book t = .ok b ∧
      l' = l.commit b ∧ l'.book t = .ok b ∧ l'.apply (.transaction t) = .ok (l'.commit b)) ∧
    (∀ l : Ledger, l.book t.essence = l.book t) ∧
    (∀ (l : Ledger) (t' : Transaction), t'.essence = t.essence → l.book t' = l.book t) ∧
    ∀ (l : Ledger) (p : Posting) (before after before' after' : List Posting),
      p.value = none → t.postings = before ++ p :: after → before ++ after = before' ++ after' →
      l.book { t with postings := before' ++ p :: after' } = l.book t := by
  refine ⟨fun l l' => book_eq_of_agreesFor, fun l l' happly => ?_, fun l => book_essence l t,
    fun l t' h => ?_, fun l p before after before' after' hp hpostings hothers => ?_⟩
  · obtain ⟨b, hbook, rfl⟩ := apply_transaction_eq_ok.mp happly
    have hagain : (l.commit b).book t = .ok b := by
      rw [book_eq_of_agreesFor (agreesFor_commit t l b), hbook]
    exact ⟨b, hbook, rfl, hagain, apply_transaction_eq_ok.mpr ⟨b, hagain, rfl⟩⟩
  · rw [← book_essence l t', h, book_essence]
  · have ht : t = { t with postings := before ++ p :: after } := by rw [← hpostings]
    conv_rhs => rw [ht]
    exact (book_middle l t hp hothers).symm

/-- A rent that depends on a definition and on the day. -/
def rent : Transaction :=
  let payment : Posting := ⟨"Cash", none, none, none, false, ["by card"]⟩
  let share : Posting :=
    ⟨"Rent", some (.binary .multiply (.name "rate") (.name "day")),
      some ⟨.perUnit, ⟨3, .known "USD"⟩⟩, some ⟨70, .known "EUR"⟩, true, []⟩
  ⟨⟨some 2016, 1, 31⟩, some .cleared, "Rent", ["monthly"], [payment, share]⟩

/-- A ledger that defines the rate, and the same with another year, a declaration, a booking and a
definition of the day. -/
def rates : Ledger × Ledger :=
  let rate : Value := .amount ⟨2, .known "EUR"⟩
  let l := { empty with definitions := (∅ : Std.TreeMap String Value).insert "rate" rate }
  (l, { l with
    year := some 1999, accounts := l.accounts.insert "Cash", bookings := [default],
    definitions := l.definitions.insert "day" (.bool true) })

/-- The rent is booked on both ledgers alike, and again, without the price, and the other way
round. -/
theorem book_dependence_rent :
    AgreesFor rent rates.1 rates.2 ∧ rates.1.book rent = rates.2.book rent ∧
      (∃ b, rates.1.book rent = .ok b ∧ (rates.1.commit b).book rent = .ok b ∧
        b.entries.map Entry.account = ["Rent", "Cash"]) ∧
      rates.1.book rent.essence = rates.1.book rent ∧
      rates.1.book { rent with postings := rent.postings.reverse } = rates.1.book rent := by
  have hagrees : AgreesFor rent rates.1 rates.2 := by
    refine ⟨rfl, fun name hname => ?_, nofun⟩
    have hday : name ≠ "day" := by
      rintro rfl
      exact hname (by decide)
    simp [rates, Std.TreeMap.getElem?_insert, hday.symm]
  obtain ⟨hsame, hagain, hessence, -, hmoved⟩ := book_dependence rent
  have hbooked : (rates.1.book rent).toOption.map (fun b => b.entries.map Entry.account) =
      some ["Rent", "Cash"] := by
    decide +kernel
  obtain ⟨b, hb⟩ : ∃ b, rates.1.book rent = .ok b := by
    cases h : rates.1.book rent with
    | ok b => exact ⟨b, rfl⟩
    | error => simp [h, Except.toOption] at hbooked
  rw [hb] at hbooked
  obtain ⟨b', hb', -, hbook, -⟩ := hagain _ _ (apply_transaction_eq_ok.mpr ⟨b, hb, rfl⟩)
  obtain rfl : b = b' := Except.ok.inj (hb.symm.trans hb')
  exact ⟨hagrees, hsame _ _ hagrees, ⟨b, hb, hbook, Option.some.inj hbooked⟩, hessence _,
    hmoved _ _ [] _ [_] [] rfl rfl rfl⟩

end Ledger

end Daybook
