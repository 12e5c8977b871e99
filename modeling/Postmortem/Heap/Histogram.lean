import Postmortem.Address

/-!
# Heap histograms

How many objects of each type a heap holds, and how many bytes they take.
-/

namespace Postmortem

/-- One row: the objects of one type. -/
structure HeapEntry where
  methodTable : Option Address
  typeName : String
  count : Nat
  totalSize : Nat
deriving DecidableEq, Repr, Inhabited

/-- The rows of a heap, with the object total if it was printed. -/
structure HeapHistogram where
  entries : List HeapEntry := []
  totalObjects : Option Nat := none
deriving DecidableEq, Repr, Inhabited

namespace HeapHistogram

/-- The bytes of all rows. The sum is exact and has no bound; a sum of 64-bit numbers is this one as
long as it does not overflow. -/
def totalSize (heap : HeapHistogram) : Nat :=
  (heap.entries.map HeapEntry.totalSize).foldr (· + ·) 0

/-- The printed object total, or else the objects of all rows. Their sum has no bound either. -/
def totalCount (heap : HeapHistogram) : Nat :=
  heap.totalObjects.getD ((heap.entries.map HeapEntry.count).foldr (· + ·) 0)

/-- The first row of a type. -/
def find? (heap : HeapHistogram) (typeName : String) : Option HeapEntry :=
  heap.entries.find? (·.typeName == typeName)

end HeapHistogram

end Postmortem
