import DataMatch.Format.Basic

/-! CSV: the first record names the columns, and every other one becomes an object of strings. -/
namespace DataMatch.Csv

open Text (isByte)

inductive Place where
  | recordStart
  | cellStart
  | bare
  | quoted
  /-- After a quote inside quotes: the end of them, or the first half of a doubled one. -/
  | afterQuote
deriving DecidableEq, Repr

def isLineEnd (b : UInt8) : Bool := isByte b '\n' || isByte b '\r'

/-- What one byte does: it leads to the next place, kept in the cell or not, or it ends the cell or
the record. -/
inductive Move where
  | to (place : Place) (kept : Bool)
  | endCell
  | endRow
deriving DecidableEq, Repr

def bareMove (b : UInt8) : Move :=
  if isByte b ',' then .endCell else if isLineEnd b then .endRow else .to .bare true

def move (place : Place) (b : UInt8) : Move :=
  match place with
  | .recordStart =>
    if isLineEnd b then .to .recordStart false
    else if isByte b '"' then .to .quoted false
    else bareMove b
  | .cellStart => if isByte b '"' then .to .quoted false else bareMove b
  | .bare => bareMove b
  | .quoted => if isByte b '"' then .to .afterQuote false else .to .quoted true
  | .afterQuote => if isByte b '"' then .to .quoted true else bareMove b

abbrev Row := List Bytes

/-- The records of a text. `cell` holds the bytes of the open cell and `row` its finished cells,
both in reverse. -/
def rowsFrom (place : Place) (cell : Bytes) (row : Row) : Bytes → List Row
  | [] => if place = .recordStart then [] else [(cell.reverse :: row).reverse]
  | b :: rest =>
    match move place b with
    | .to next kept => rowsFrom next (if kept then b :: cell else cell) row rest
    | .endCell => rowsFrom .cellStart [] (cell.reverse :: row) rest
    | .endRow => (cell.reverse :: row).reverse :: rowsFrom .recordStart [] [] rest

def withoutMark : Bytes → Bytes
  | 0xEF :: 0xBB :: 0xBF :: rest => rest
  | bytes => bytes

def rows (bytes : Bytes) : List Row := rowsFrom .recordStart [] [] (withoutMark bytes)

def cells (row : Row) : Except ReadError (List String) :=
  match row.mapM Text.ofBytes? with
  | some cells => .ok cells
  | none => .error .recordNotText

/-- The name of a column; one beyond the header is numbered. -/
def columnName (header : List String) (column : Nat) : String :=
  header[column]?.getD s!"col_{column}"

/-- A record as an object. Of columns with one name, the last gives the value. -/
def object (header cells : List String) : Value :=
  .object (Members.ofList (cells.zipIdx.map fun (cell, column) =>
    (columnName header column, .string cell)))

def readRow (width : Nat) (header : List String) (row : Row) : Except ReadError Value := do
  if row.length ≠ width then
    .error (.unequalLengths width row.length)
  else
    (cells row).map (object header)

def read (bytes : Bytes) : Except ReadError (List Value) :=
  match rows bytes with
  | [] => .ok []
  | first :: rest => do
    let header ← cells first
    rest.mapM (readRow first.length header)

end DataMatch.Csv
