/-! # Serial texts

Two things that are drawn count as the same when their serial texts agree. -/

namespace PagedTable

class Serial (α : Type) where
  serial : α → String

export Serial (serial)

/-- A value with a mark of its origin, which its serial text leaves out. -/
structure Stamped (α : Type) where
  stamp : Nat
  value : α
deriving DecidableEq, Repr

instance {α : Type} [Serial α] : Serial (Stamped α) where
  serial stamped := serial stamped.value

end PagedTable
