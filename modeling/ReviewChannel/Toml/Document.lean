import ReviewChannel.Toml.Reader

/-!
TOML documents. A document is read line by line: a header opens a table, and a key gives a value in
the table that was opened last.
-/

namespace ReviewChannel.Toml

/-- A document as far as it has been read. -/
structure Draft where
  entries : Entries := []
  /-- The path of the table that was opened last. -/
  here : List String := []

/-- A key in a header, and what follows the closing brackets. -/
def header (closing : List Char) (cs : List Char) : Option (List String × List Char) := do
  let (path, cs) ← key cs
  if closing.isPrefixOf cs then some (path, cs.drop closing.length) else none

/-- Reads one expression: a header, or a key with its value. -/
def expression (draft : Draft) (cs : List Char) : Option (Draft × List Char) := do
  match cs with
  | '[' :: '[' :: rest =>
      let (path, rest) ← header [']', ']'] rest
      return ({ entries := ← draft.entries.openElement path, here := path }, rest)
  | '[' :: rest =>
      let (path, rest) ← header [']'] rest
      return ({ entries := ← draft.entries.openTable path, here := path }, rest)
  | cs =>
      let (path, cs) ← key cs
      match cs with
      | '=' :: rest =>
          let (v, rest) ← value nestingLimit (skipBlanks rest)
          let entries ← draft.entries.within (Entries.assign path v) draft.here
          return ({ draft with entries }, rest)
      | _ => none

/-- Reads the expressions of a document. Each takes at least one character, so the number of
characters bounds them. -/
def expressions : Nat → Draft → List Char → Option Draft
  | 0, _, _ => none
  | more + 1, draft, cs => do
      match ← skipLines cs with
      | [] => return draft
      | cs =>
          let (draft, rest) ← expression draft cs
          expressions more draft (← endLine rest)

/-- The entries of a document. A byte order mark at the front does not count. -/
def document (text : String) : Option Entries :=
  let cs := text.toList
  let cs := if cs.head? = some '\uFEFF' then cs.drop 1 else cs
  (expressions (cs.length + 1) {} cs).map (·.entries)

end ReviewChannel.Toml
