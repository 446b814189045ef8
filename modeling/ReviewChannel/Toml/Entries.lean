import ReviewChannel.Toml.Value

/-!
What may be added to a TOML table. A key is given once. A header opens a table that no other header
opened and no key went through; a dotted key goes through tables that no header opened, and they
are then tables of dotted keys; a table between braces is closed for good.

* `openTable` and `openElement` carry out a header with single and double brackets.
* `assign` carries out a key with its value.
* `within` does so in the table that a header opened.
-/

namespace ReviewChannel.Toml

namespace Entries

def put (key : String) (v : Value) (entries : Entries) : Entries :=
  match entries with
  | [] => [(key, v)]
  | (k, w) :: rest => if k = key then (k, v) :: rest else (k, w) :: put key v rest

/-- Changes the table that a value is, or the last table of an array of tables. -/
def throughTable (f : TableForm → Entries → Option Entries) : Value → Option Value
  | .table form entries => (f form entries).map (.table form)
  | .array .tables items =>
      match items.reverse with
      | .table form entries :: before =>
          (f form entries).map fun entries =>
            .array .tables (before.reverse ++ [.table form entries])
      | _ => none
  | _ => none

/-- Whether a header may go through a table of the form. -/
def isOpen (form : TableForm) : Bool :=
  form != .inline

/-- Goes down the path to the table that holds its last key, making tables on the way, and changes
that table. -/
def onWay (change : String → Entries → Option Entries) : List String → Entries → Option Entries
  | [], _ => none
  | [key], entries => change key entries
  | key :: rest, entries =>
      match entries.lookup key with
      | none => (onWay change rest []).map fun inner => put key (.table .implied inner) entries
      | some v =>
          (throughTable (fun form inner =>
            if isOpen form then onWay change rest inner else none) v).map fun v =>
              put key v entries

def openTable (path : List String) (entries : Entries) : Option Entries :=
  onWay (fun key entries =>
    match entries.lookup key with
    | none => some (put key (.table .defined []) entries)
    | some (.table .implied inner) => some (put key (.table .defined inner) entries)
    | some _ => none) path entries

/-- Opens the next table of an array of tables. -/
def openElement (path : List String) (entries : Entries) : Option Entries :=
  onWay (fun key entries =>
    match entries.lookup key with
    | none => some (put key (.array .tables [.table .defined []]) entries)
    | some (.array .tables items) =>
        some (put key (.array .tables (items ++ [.table .defined []])) entries)
    | some _ => none) path entries

/-- Gives the value to the key in a table of the form that dotted keys have reached, or, if none
has been gone through, in any table. Every table gone through becomes one of dotted keys. -/
def assignIn (form : TableForm) (v : Value) (reached : Bool) :
    List String → Entries → Option Entries
  | [], _ => none
  | [key], entries =>
      if reached && form != .dotted then none
      else match entries.lookup key with
        | none => some (put key v entries)
        | some _ => none
  | key :: rest, entries =>
      match entries.lookup key with
      | none =>
          (assignIn .dotted v true rest []).map fun inner => put key (.table .dotted inner) entries
      | some (.table form inner) =>
          if form = .implied || form = .dotted then
            (assignIn .dotted v true rest inner).map fun inner =>
              put key (.table .dotted inner) entries
          else none
      | some w =>
          (throughTable (fun form inner => assignIn form v true rest inner) w).map fun w =>
            put key w entries

/-- Gives the value to the key, which may be dotted. -/
def assign (path : List String) (v : Value) (entries : Entries) : Option Entries :=
  assignIn .defined v false path entries

/-- Changes the table that a header opened. -/
def within (change : Entries → Option Entries) : List String → Entries → Option Entries
  | [], entries => change entries
  | key :: rest, entries =>
      match entries.lookup key with
      | none => none
      | some v => (throughTable (fun _ inner => within change rest inner) v).map fun v =>
          put key v entries

end Entries

end ReviewChannel.Toml
