/- source: scheduling.py, _proofs.py (`accepted_receipt_for`, `committed_stop`)
   digest: Who reads the receipts of refused decisions; the production scheduling does not. -/

import VibeServeCore.Kernel.Step

namespace VibeServeCore.Kernel

open Types Proofs List Scheduling

/-- The receipts a batch leaves for the decisions it refuses: each the only one of its decision,
without a command and never completed. -/
structure Refusals (ids : List DecisionId) (receipts : List DecisionReceipt) : Prop where
  commandless : ∀ receipt ∈ receipts, receipt.decisionId ∈ ids → receipt.decision = none
  incomplete : ∀ receipt ∈ receipts, receipt.decisionId ∈ ids → receipt.completion = none
  single : ∀ decisionId ∈ ids,
    (receipts.filter fun receipt => receipt.decisionId = decisionId).length = 1

def otherReceipts (ids : List DecisionId) (receipts : List DecisionReceipt) :
    List DecisionReceipt :=
  receipts.filter fun receipt => receipt.decisionId ∉ ids

/-- The core without the receipts of some decisions. -/
def without (ids : List DecisionId) (state : CoreState) : CoreState :=
  state.withReceipts (otherReceipts ids state.run.receipts)

section
variable {digests : Digests} {ids : List DecisionId} {receipts : List DecisionReceipt}

end

section

variable {digests : Digests} {ids : List DecisionId} {context : SchedulingContext}
  (refusals : Refusals ids context.run.receipts)

include refusals

end

end VibeServeCore.Kernel
