import ClusterDashboard.Text.Basic
/-!
A table as it stands on the screen: the rows of the last fetch, the filter typed over them, and
the highlighted row and column. Row indices count the rows that pass the filter.
-/
namespace ClusterDashboard

/-- One row of a listing. -/
structure Row where
  name : String
  space : Option String
  cells : List String
  deriving DecidableEq, Repr

namespace Row

/-- The texts a filter looks into. -/
def texts (row : Row) : List String := row.name :: (row.space.toList ++ row.cells)

/-- The query is trimmed and its case ignored; an empty query passes every row. -/
def passes (query : String) (row : Row) : Bool :=
  let needle := Text.lowerChars (Text.trimChars query.toList)
  needle.isEmpty || row.texts.any (fun text => Text.occursIn needle (Text.lowerChars text.toList))

end Row

/-- The local time at which a listing was taken. -/
structure TimeOfDay where
  hour : Nat
  minute : Nat
  second : Nat
  deriving DecidableEq, Repr

def twoDigits (n : Nat) : String := if n < 10 then "0" ++ toString n else toString n

def TimeOfDay.text (t : TimeOfDay) : String :=
  twoDigits t.hour ++ ":" ++ twoDigits t.minute ++ ":" ++ twoDigits t.second

/-- An index is kept in a 64-bit word and read as a signed number when something is added. -/
def signedWord (n : Nat) : Int := Int.bmod n (Nat.pow 2 64)

/-- The index nearest to `i` among `0, …, len - 1`; 0 when there is none. -/
def nearestIndex (i : Int) (len : Nat) : Nat := (min i (len - 1)).toNat

structure TableView where
  headers : List String := []
  rows : List Row := []
  stamp : Option TimeOfDay := none
  selected : Nat := 0
  column : Nat := 0
  filter : String := ""
  deriving DecidableEq, Repr

namespace TableView

def visibleRows (view : TableView) : List Row := view.rows.filter (Row.passes view.filter)

def selectedRow? (view : TableView) : Option Row := view.visibleRows[view.selected]?

def clampSelection (view : TableView) : TableView :=
  { view with selected := min view.selected (view.visibleRows.length - 1) }

def setRows (view : TableView) (headers : List String) (rows : List Row) (stamp : TimeOfDay) :
    TableView :=
  clampSelection { view with headers, rows, stamp := some stamp }

/-- Takes over the content of a fetch; selection and filter stay as the user left them. -/
def absorb (view fresh : TableView) : TableView :=
  clampSelection { view with headers := fresh.headers, rows := fresh.rows, stamp := fresh.stamp }

def setFilter (view : TableView) (filter : String) : TableView :=
  { view with filter, selected := 0 }

def moveSelection (view : TableView) (delta : Int) : TableView :=
  { view with
    selected := nearestIndex (signedWord view.selected + delta) view.visibleRows.length }

def moveColumn (view : TableView) (delta : Int) : TableView :=
  { view with column := nearestIndex (signedWord view.column + delta) view.headers.length }

def selectFirst (view : TableView) : TableView := { view with selected := 0 }

def selectLast (view : TableView) : TableView :=
  { view with selected := view.visibleRows.length - 1 }

def restore (view : TableView) (row column : Nat) : TableView :=
  { view with selected := row, column }

end TableView
end ClusterDashboard
