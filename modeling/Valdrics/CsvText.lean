import Mathlib.Data.List.Basic

/-! Comma-separated text: records of cells, written with quotes around the cells that need them, and
read back. -/
namespace Valdrics.Csv

def special (c : Char) : Bool := c = ',' || c = '"' || c = '\r' || c = '\n'

def doubled (c : Char) : List Char := if c = '"' then ['"','"'] else [c]

def writeCell (cell : List Char) : List Char :=
  if cell.any special then '"' :: (cell.flatMap doubled ++ ['"']) else cell

/-- A record of one empty cell is quoted, so that it is not the blank line of no cells. -/
def writeRow (row : List (List Char)) : List Char :=
  if row = [[]] then ['"','"','\r','\n']
  else [','].intercalate (row.map writeCell) ++ ['\r','\n']

def write (rows : List (List (List Char))) : List Char := rows.flatMap writeRow

/-- Where a reader stands: outside quotes, inside them, or behind a quote met inside. -/
inductive Mode where
  | plain | quoted | closing
  deriving DecidableEq

def blank (mode : Mode) (cell : List Char) (row : List (List Char)) : Bool :=
  mode = .plain && cell.isEmpty && row.isEmpty

/-- Reads on with the cell and the record begun. -/
def read : Mode → List Char → List (List Char) → List Char → List (List (List Char))
  | mode, cell, row, [] => if blank mode cell row then [] else [row ++ [cell]]
  | .quoted, cell, row, c :: rest =>
    if c = '"' then read .closing cell row rest else read .quoted (cell ++ [c]) row rest
  | mode, cell, row, c :: rest =>
    if c = ',' then read .plain [] (row ++ [cell]) rest
    else if c = '\n' then
      (if blank mode cell row then [] else row ++ [cell]) :: read .plain [] [] rest
    else if c = '\r' then read mode cell row rest
    else if c = '"' ∧ mode = .closing then read .quoted (cell ++ [c]) row rest
    else if c = '"' ∧ cell = [] then read .quoted [] row rest
    else read .plain (cell ++ [c]) row rest

def parse (text : List Char) : List (List (List Char)) := read .plain [] [] text

variable {mode : Mode} {cell rest : List Char} {row : List (List Char)}

theorem read_plain (begun : List Char) (ordinary : ∀ c ∈ cell, special c = false) :
    read .plain begun row (cell ++ rest) = read .plain (begun ++ cell) row rest := by
  induction cell generalizing begun with
  | nil => simp
  | cons c cell ih =>
    have own := ordinary c List.mem_cons_self
    simp only [special,Bool.or_eq_false_iff,decide_eq_false_iff_not] at own
    obtain ⟨⟨⟨comma,quote⟩,carriage⟩,line⟩ := own
    have later := ih (begun ++ [c]) fun d listed => ordinary d (List.mem_cons_of_mem _ listed)
    simpa [read,comma,quote,carriage,line] using later

theorem read_quoted (begun : List Char) :
    read .quoted begun row (cell.flatMap doubled ++ rest) = read .quoted (begun ++ cell) row rest := by
  induction cell generalizing begun with
  | nil => simp
  | cons c cell ih =>
    have later := ih (begun ++ [c])
    by_cases quote : c = '"'
    · subst quote
      simpa [doubled,read] using later
    · simpa [doubled,read,quote] using later

/-- A written cell is read whole, and what follows it is not inside quotes. -/
theorem read_cell : ∃ mode, mode ≠ .quoted ∧
    read .plain [] row (writeCell cell ++ rest) = read mode cell row rest := by
  by_cases needs : cell.any special = true
  · refine ⟨.closing,by decide,?_⟩
    have whole := @read_quoted cell ('"' :: rest) row []
    simpa [writeCell,needs,read] using whole
  · refine ⟨.plain,by decide,?_⟩
    rw [writeCell,if_neg needs]
    simpa using read_plain [] (by simpa using needs)

theorem read_comma (outside : mode ≠ .quoted) :
    read mode cell row (',' :: rest) = read .plain [] (row ++ [cell]) rest := by
  cases mode with
  | quoted => contradiction
  | plain => simp [read]
  | closing => simp [read]

theorem read_line (outside : mode ≠ .quoted) : read mode cell row ('\r' :: '\n' :: rest) =
    (if blank mode cell row then [] else row ++ [cell]) :: read .plain [] [] rest := by
  cases mode with
  | quoted => contradiction
  | plain => simp [read]
  | closing => simp [read]

/-- The rest of a record, behind the cells that are read. -/
theorem read_cells (cells : List (List Char)) (some_ : cells ≠ []) (more : row ++ cells ≠ [[]]) :
    read .plain [] row ([','].intercalate (cells.map writeCell) ++ '\r' :: '\n' :: rest) =
      (row ++ cells) :: read .plain [] [] rest := by
  induction cells generalizing row with
  | nil => contradiction
  | cons cell cells ih =>
    cases cells with
    | nil =>
      obtain ⟨mode,outside,reads⟩ := @read_cell cell ('\r' :: '\n' :: rest) row
      have written : blank mode cell row = false := by
        cases row with
        | cons => simp [blank]
        | nil =>
          have full : cell ≠ [] := by simpa using more
          simp [blank,full]
      simpa [written] using reads.trans (read_line outside)
    | cons next cells =>
      have later := @ih (row ++ [cell]) (by simp) (by simpa using more)
      obtain ⟨mode,outside,reads⟩ := @read_cell cell
        (',' :: ([','].intercalate ((next :: cells).map writeCell) ++ '\r' :: '\n' :: rest)) row
      have reads := reads.trans (read_comma outside)
      simpa [List.intercalate_cons_cons] using reads.trans later

theorem read_row : read .plain [] [] (writeRow row ++ rest) = row :: read .plain [] [] rest := by
  by_cases empty : row = [[]]
  · subst empty
    simp [writeRow,read,blank]
  · rw [writeRow,if_neg empty]
    cases row with
    | nil => simp [read,blank]
    | cons cell cells =>
      have reads := @read_cells rest [] (cell :: cells) (by simp) (by simpa using empty)
      simpa using reads

/-- What is written is read back, whatever its cells hold. -/
theorem parse_write (rows : List (List (List Char))) : parse (write rows) = rows := by
  induction rows with
  | nil => rfl
  | cons row rows ih =>
    rw [write,List.flatMap_cons,parse,read_row]
    exact congrArg _ ih

end Valdrics.Csv
