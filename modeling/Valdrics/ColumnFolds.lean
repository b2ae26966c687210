import Mathlib.Order.Lattice
import Mathlib.Data.List.Induction

/-! The columns of a row over a run of events: one that keeps the first value it is
given, and one that keeps the greatest. -/
namespace Valdrics.ColumnFolds

universe u v w

variable {ε : Type u} {α : Type v} {κ : Type w}

/-- `COALESCE(column, value)`. -/
def coalesce (column value : Option α) : Option α := column <|> value

def first (given : ε → Option α) (run : List ε) : Option α := run.findSome? given

section

variable [LinearOrder κ] (rank : α → κ)

def greater (column value : α) : α := if rank value ≤ rank column then column else value

def greatest (given : ε → α) (start : α) (run : List ε) : α :=
  run.foldl (fun column e => greater rank column (given e)) start

end

end Valdrics.ColumnFolds
