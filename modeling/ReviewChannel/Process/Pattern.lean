import ReviewChannel.FileTree.Moves
import ReviewChannel.Process.World

/-!
Patterns for words and names: a star for any text, a question mark for any character, and brackets
for one of several. A quoted character stands for itself.

* `Pattern.ofMarked` reads a pattern, and `Pattern.fits` applies it to a whole text.
* `expandPath` replaces a pattern by the paths that match it.
-/

namespace ReviewChannel.Process

/-- A character of a word, and whether it may have a meaning in a pattern. -/
abbrev Marked := Char × Bool

namespace Pattern

/-- What brackets can list. -/
inductive Item where
  | range (first last : Char)
  | named (name : String)
deriving DecidableEq, Repr

inductive Part where
  | char (c : Char)
  | any
  | star
  | oneOf (negated : Bool) (items : List Item)
deriving DecidableEq, Repr

def inClass (name : String) (c : Char) : Bool :=
  match name with
  | "alpha" => c.isAlpha
  | "digit" => c.isDigit
  | "alnum" => c.isAlphanum
  | "upper" => c.isUpper
  | "lower" => c.isLower
  | "space" => " \t\n\x0b\x0c\r".toList.contains c
  | "blank" => c = ' ' || c = '\t'
  | "punct" => '!' ≤ c && c ≤ '~' && !c.isAlphanum
  | "print" => ' ' ≤ c && c ≤ '~'
  | "graph" => '!' ≤ c && c ≤ '~'
  | "cntrl" => c < ' ' || c = '\x7f'
  | "xdigit" => c.isDigit || ('a' ≤ c && c ≤ 'f') || ('A' ≤ c && c ≤ 'F')
  | _ => false

def Item.holds (c : Char) : Item → Bool
  | .range first last => first ≤ c && c ≤ last
  | .named name => inClass name c

/-- Whether the brackets with the items take a character. -/
def takes (negated : Bool) (items : List Item) (c : Char) : Bool :=
  items.any (·.holds c) != negated

/-- The items up to the closing bracket, and what follows it. A bracket right at the start is an
item. -/
def itemsFrom : Nat → Bool → List Marked → Option (List Item × List Marked)
  | 0, _, _ => none
  | _, _, [] => none
  | count + 1, first, (c, active) :: rest =>
      if c = ']' && active && !first then some ([], rest)
      else
        let name := (rest.drop 1).takeWhile fun m => m.1 != ':'
        let after := (rest.drop 1).drop name.length
        match c, rest.head?, after with
        | '[', some (':', _), (_, _) :: (']', _) :: after =>
            (itemsFrom count false after).map fun (items, rest) =>
              (.named (String.ofList (name.map (·.1))) :: items, rest)
        | _, _, _ =>
            match rest with
            | ('-', true) :: (last, lastActive) :: after =>
                if last = ']' && lastActive then
                  (itemsFrom count false rest).map fun (items, rest) => (.range c c :: items, rest)
                else
                  (itemsFrom count false after).map fun (items, rest) =>
                    (.range c last :: items, rest)
            | _ => (itemsFrom count false rest).map fun (items, rest) => (.range c c :: items, rest)

/-- The brackets after an opening one, and what follows them. -/
def brackets? (cs : List Marked) : Option (Part × List Marked) :=
  let (negated, cs) := match cs with
    | ('!', true) :: rest | ('^', true) :: rest => (true, rest)
    | cs => (false, cs)
  (itemsFrom (cs.length + 1) true cs).map fun (items, rest) => (.oneOf negated items, rest)

/-- The parts of a pattern of at most `count` characters. -/
def partsFrom : Nat → List Marked → List Part
  | 0, _ => []
  | _, [] => []
  | count + 1, ('*', true) :: rest => .star :: partsFrom count rest
  | count + 1, ('?', true) :: rest => .any :: partsFrom count rest
  | count + 1, ('[', true) :: rest =>
      match brackets? rest with
      | some (part, rest) => part :: partsFrom count rest
      | none => .char '[' :: partsFrom count rest
  | count + 1, (c, _) :: rest => .char c :: partsFrom count rest

def ofMarked (cs : List Marked) : List Part :=
  partsFrom (cs.length + 1) cs

/-- Whether the parts match the whole text. -/
def fits : List Part → List Char → Bool
  | [], cs => cs.isEmpty
  | .star :: parts, [] => fits parts []
  | .star :: parts, c :: cs => fits parts (c :: cs) || fits (.star :: parts) cs
  | .char d :: parts, c :: cs => c == d && fits parts cs
  | .any :: parts, _ :: cs => fits parts cs
  | .oneOf negated items :: parts, c :: cs => takes negated items c && fits parts cs
  | _ :: _, [] => false
termination_by parts cs => parts.length + cs.length

/-- Whether a word has characters with a meaning. -/
def isActive (cs : List Marked) : Bool :=
  cs.any fun (c, active) => active && (c = '*' || c = '?' || c = '[')

def text (cs : List Marked) : String :=
  String.ofList (cs.map (·.1))

end Pattern

/-! ### Paths -/

/-- The parts of a word between slashes. -/
def componentsOf : List Marked → List (List Marked)
  | [] => [[]]
  | (c, active) :: rest =>
      if c = '/' then [] :: componentsOf rest
      else match componentsOf rest with
        | [] => [[(c, active)]]
        | first :: more => ((c, active) :: first) :: more

def namesAt (w : World) (dir : String) : List String :=
  let dir := if dir.isEmpty then "." else dir
  match w.tree.locate w.cwd true (World.pathOf dir) with
  | .ok loc =>
      if w.tree.entryAt loc.place = some .dir then (w.tree.namesIn loc.place).map Octets.toText else []
  | .error _ => []

/-- The paths that match components, after a path that leads to them. -/
def expandComponents (w : World) : String → List (List Marked) → List String
  | path, [] => [path]
  | path, component :: rest =>
      let found :=
        if Pattern.isActive component then
          let parts := Pattern.ofMarked component
          let isHidden := (component.head?.map (·.1)) = some '.'
          let names := if isHidden then "." :: ".." :: namesAt w path
            else (namesAt w path).filter fun name => name.toList.head? != some '.'
          names.filter fun name => Pattern.fits parts name.toList
        else [Pattern.text component]
      found.flatMap fun name =>
        if rest.isEmpty then [path ++ name] else expandComponents w (path ++ name ++ "/") rest

/-- The paths that match a word; the word itself if there are none. -/
def expandPath (w : World) (cs : List Marked) : List String :=
  if Pattern.isActive cs then
    let found := (expandComponents w "" (componentsOf cs)).filter fun path =>
      match w.tree.linkStatus w.cwd (World.pathOf path) with
      | .ok _ => true
      | .error _ => false
    if found.isEmpty then [Pattern.text cs] else found
  else [Pattern.text cs]

end ReviewChannel.Process
