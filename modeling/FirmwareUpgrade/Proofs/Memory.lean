import FirmwareUpgrade.Proofs.Contract
import FirmwareUpgrade.Proofs.Storage
import Mathlib.Data.List.DropRight

/-!
# What the accelerator stores and gives back

The memory of an accelerator is read off the operations that it has accepted (`contents`): it is the
payloads of the blocks that were put there, from the last one on that had number zero. A download
without data ends the download, and from there on the memory is given back from its beginning, in
pieces of any length (`GivesBack`). Together the pieces are the beginning of the memory, except for
the byte that the planted flaw is in.

Anybody may ask for anything in any order, so block numbers need not follow each other, and what is
read need not be cut as it was written.
-/
namespace FirmwareUpgrade

namespace Accelerator

variable {α : Type}

/-! ## Operations and what they tell -/

/-- An operation that was accepted, with the reply that its completion reports. -/
structure Job where
  request : ClassCall
  reply : Reply
deriving DecidableEq

namespace Job

/-- The block that is put into memory, with its number. A download that stalls puts none there, nor
does one without data. -/
def block? : Job → Option (UInt16 × Bytes)
  | ⟨.dnload _ _, .error .stall⟩ => none
  | ⟨.dnload number data, _⟩ => if data.isEmpty then none else some (number, data)
  | _ => none

end Job

/-- The last block that has number zero and those behind it, or all if none has this number. -/
def sinceZero (blocks : List (UInt16 × Bytes)) : List (UInt16 × Bytes) :=
  (blocks.rdropWhile (·.1 ≠ 0)).getLast?.toList ++ blocks.rtakeWhile (·.1 ≠ 0)

/-- What is in memory behind some operations, if nothing was before them. -/
def contents (jobs : List Job) : List UInt8 :=
  (sinceZero (jobs.filterMap Job.block?)).flatMap (·.2.toList)

/-- The operation that is accepted at a demand, if any is. -/
def job? (a : Accelerator α) : Demand α → Option Job
  | .submit target request x =>
    match (a.submit target request x).2.result with
    | .ok () => some ⟨request, (a.respond request).2.1⟩
    | .error _ => none
  | _ => none

/-- The operations that are accepted at some demands, in their order. -/
def jobs (a : Accelerator α) : List (Demand α) → List Job
  | [] => []
  | d :: ds => (a.job? d).toList ++ jobs (a.meet d) ds

/-! ## One operation -/

section
variable (a : Accelerator α) (request : ClassCall)

end

end Accelerator

end FirmwareUpgrade
