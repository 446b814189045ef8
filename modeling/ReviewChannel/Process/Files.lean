import ReviewChannel.Process.Filter
import ReviewChannel.Process.Output

/-!
Programs that change the tree of files, or show it: `touch`, `mkdir`, `rmdir`, `rm`, `cp`, `mv`,
`ln`, `ls`, `chmod`, `readlink`, `realpath`, `mktemp`, `truncate`, `cmp`, `diff` and `find`.
-/

namespace ReviewChannel.Process.Programs

/-! ### Helpers -/

/-- Does something for each path in turn: the status, and the text that is written at the end. -/
def forEach (program : String) (paths : List String)
    (act : String → World → Except String (World × String)) (w : World) : Nat × World :=
  let (good, text, w) := paths.foldl (fun (good, text, w) path =>
    match act path w with
    | .ok (w, more) => (good, text ++ more, w)
    | .error fault => (false, text, w.blame program fault)) (true, "", w)
  w.emit program text (statusOf good)

/-- The world with a changed tree, or the text of why it did not change. -/
def changed (w : World) (describe : String) (result : Except SystemError FileTree) :
    Except String World :=
  match result with
  | .ok tree => .ok { w with tree }
  | .error e => .error s!"{describe}: {e.bareMessage}"

/-- The path of a name in a directory. -/
def within (dir name : String) : String :=
  if dir.endsWith "/" then dir ++ name else dir ++ "/" ++ name

/-- The text that says what was done, if that is asked for. -/
def report (g : Given) (text : String) : String :=
  if g.has 'v' then text ++ "\n" else ""

/-- What stands at a path itself, links not being followed. -/
def entryOf? (w : World) (path : String) : Option Entry :=
  match w.tree.linkStatus w.cwd (World.pathOf path) with
  | .ok entry => some entry
  | .error _ => none

/-- The place that a path means, links being followed, if anything stands there. -/
def placeOf? (w : World) (path : String) : Option Place :=
  match w.tree.locate w.cwd true (World.pathOf path) with
  | .ok loc => if (w.tree.entryAt loc.place).isSome then some loc.place else none
  | .error _ => none

/-! ### Making and removing -/

def touch : Plain :=
  withOptions "touch" { plain := "acmfh", valued := "drt", long := [("no-create", 'c')] } 1 fun g w =>
    if g.operands.isEmpty then misused "touch" "missing file operand" 1 w
    else forEach "touch" g.operands (fun path w =>
      if g.has 'c' && (placeOf? w path).isNone then .ok (w, "")
      else if w.isDir path then .ok (w, "")
      else match w.tree.openToAppend w.cwd (World.pathOf path) with
        | .ok (_, tree) => .ok ({ w with tree }, "")
        | .error .isDirectory =>
            .error s!"setting times of '{path}': No such file or directory"
        | .error e => .error s!"cannot touch '{path}': {e.bareMessage}") w

def mkdir : Plain :=
  withOptions "mkdir" { plain := "pv", valued := "m", long := [("parents", 'p'), ("verbose", 'v'),
      ("mode", 'm')] } 1 fun g w =>
    if g.operands.isEmpty then misused "mkdir" "missing operand" 1 w
    else forEach "mkdir" g.operands (fun path w => do
      let describe := s!"cannot create directory '{path}'"
      let w ←
        if g.has 'p' then
          match w.tree.makeDirs w.cwd (World.pathOf path) with
          | (.ok (), tree) => pure { w with tree }
          | (.error e, _) => .error s!"{describe}: {e.bareMessage}"
        else changed w describe (FileTree.makeDir w.cwd (World.pathOf path) w.tree)
      return (w, report g s!"mkdir: created directory '{path}'")) w

def rmdir : Plain :=
  withOptions "rmdir" { plain := "pv", long := [("parents", 'p'), ("verbose", 'v')] } 1 fun g w =>
    if g.operands.isEmpty then misused "rmdir" "missing operand" 1 w
    else forEach "rmdir" g.operands (fun path w => do
      let w ← changed w s!"failed to remove '{path}'"
        (FileTree.removeDir w.cwd (World.pathOf path) w.tree)
      return (w, report g s!"rmdir: removing directory, '{path}'")) w

/-- Whether the last component of a path is a dot or two. -/
def endsInDots (path : String) : Bool :=
  let name := lastComponent path
  name = "." || name = ".."

/-- Removes files, and directories with all that is in them. -/
def rm : Plain :=
  withOptions "rm"
    { plain := "frRdiIv"
      long := [("force", 'f'), ("recursive", 'r'), ("verbose", 'v'), ("dir", 'd')] } 1 fun g w =>
    let recursive := g.has 'r' || g.has 'R'
    if g.operands.isEmpty then
      if g.has 'f' then (0, w) else misused "rm" "missing operand" 1 w
    else forEach "rm" g.operands (fun path w =>
      let describe := s!"cannot remove '{path}'"
      match w.tree.locate w.cwd false (World.pathOf path) with
      | .error e =>
          if g.has 'f' && (e = .noEntry || e = .notDirectory) then .ok (w, "")
          else .error s!"{describe}: {e.bareMessage}"
      | .ok loc =>
          match w.tree.entryAt loc.place with
          | none => if g.has 'f' then .ok (w, "") else .error s!"{describe}: No such file or directory"
          | some .dir =>
              if recursive then
                if endsInDots path then
                  .error s!"refusing to remove '.' or '..' directory: skipping '{path}'"
                else if loc.place.isEmpty then
                  .error "it is dangerous to operate recursively on '/'"
                else .ok ({ w with tree := w.tree.removeAll loc.place },
                  report g s!"removed directory '{path}'")
              else if g.has 'd' then do
                return (← changed w describe
                  (FileTree.removeDir w.cwd (World.pathOf path) w.tree), "")
              else .error s!"{describe}: Is a directory"
          | some _ =>
              .ok ({ w with tree := w.tree.set loc.place none }, report g s!"removed '{path}'")) w

def unlink : Plain := fun words w =>
  match words with
  | [path] => forEach "unlink" [path] (fun path w => do
      return (← changed w s!"cannot unlink '{path}'"
        (FileTree.remove w.cwd (World.pathOf path) w.tree), "")) w
  | [] => misused "unlink" "missing operand" 1 w
  | _ => misused "unlink" "extra operand" 1 w

/-! ### Copying, moving and linking -/

/-- Copies what an entry is to a place: a file, or a directory with at most `depth` levels. -/
def copyTo (source target : Place) : Nat → FileTree → FileTree
  | 0, t => t
  | depth + 1, t =>
      match t.entryAt source with
      | some (.file number) => (t.newFile target (t.file number)).2
      | some (.program _) => (t.newFile target { executable := true }).2
      | some .dir =>
          let names := t.namesIn source
          let t := match t.entryAt target with
            | some .dir => t
            | _ => t.set target (some .dir)
          names.foldl (fun t name => copyTo (name :: source) (name :: target) depth t) t
      | some entry => t.set target (some entry)
      | none => t

def copyDepth : Nat := 64

/-- The path at which a file lands that goes to a target: in it, if it is a directory. -/
def landing (w : World) (source target : String) : String :=
  if w.isDir target then within target (lastComponent source) else target

def copyOne (g : Given) (source target : String) (w : World) : Except String (World × String) :=
  let recursive := g.has 'r' || g.has 'R' || g.has 'a'
  let path := landing w source target
  let follow := !recursive || g.has 'L'
  match w.tree.locate w.cwd follow (World.pathOf source) with
  | .error e => .error s!"cannot stat '{source}': {e.bareMessage}"
  | .ok loc =>
      match w.tree.entryAt loc.place with
      | none => .error s!"cannot stat '{source}': No such file or directory"
      | some .dir =>
          if !recursive then .error s!"-r not specified; omitting directory '{source}'"
          else match w.tree.locateNew w.cwd (World.pathOf path) with
            | .error e => .error s!"cannot create directory '{path}': {e.bareMessage}"
            | .ok new =>
                if FileTree.isWithin loc.place new.place then
                  .error s!"cannot copy a directory, '{source}', into itself, '{path}'"
                else .ok ({ w with tree := copyTo loc.place new.place copyDepth w.tree },
                  report g s!"'{source}' -> '{path}'")
      | some (.symlink link) =>
          match w.tree.create w.cwd (World.pathOf path) (.symlink link) with
          | .ok tree => .ok ({ w with tree }, report g s!"'{source}' -> '{path}'")
          | .error e => .error s!"cannot create symbolic link '{path}': {e.bareMessage}"
      | some entry =>
          if placeOf? w path = some loc.place then
            .error s!"'{source}' and '{path}' are the same file"
          else if g.has 'n' && (placeOf? w path).isSome then .ok (w, "")
          else
            let (content, executable) := match entry with
              | .file number => ((w.tree.file number).content, (w.tree.file number).executable)
              | .program _ => ([], true)
              | _ => ([], false)
            let isNew := (placeOf? w path).isNone
            match w.writeFile .truncate path content with
            | .ok after =>
                let tree := match isNew, after.status path with
                  | true, .ok (.file number) =>
                      after.tree.setFile number { after.tree.file number with executable }
                  | _, _ => after.tree
                .ok ({ after with tree }, report g s!"'{source}' -> '{path}'")
            | .error e =>
                let e := if path.endsWith "/" then SystemError.notDirectory else e
                .error s!"cannot create regular file '{path}': {e.bareMessage}"

def moveOne (g : Given) (source target : String) (w : World) : Except String (World × String) :=
  let path := landing w source target
  match entryOf? w source with
  | none =>
      match w.tree.linkStatus w.cwd (World.pathOf source) with
      | .error e => .error s!"cannot stat '{source}': {e.bareMessage}"
      | .ok _ => .ok (w, "")
  | some entry =>
      if g.has 'n' && (entryOf? w path).isSome then .ok (w, "")
      else if (placeOf? w source).isSome && placeOf? w source = placeOf? w path then
        .error s!"'{source}' and '{path}' are the same file"
      else match FileTree.rename w.cwd (World.pathOf source) (World.pathOf path) w.tree with
        | .ok tree => .ok ({ w with tree }, report g s!"renamed '{source}' -> '{path}'")
        | .error e =>
            if entry = .dir && e = .notDirectory then
              .error s!"cannot overwrite non-directory '{path}' with directory '{source}'"
            else if e = .invalid then
              .error s!"cannot move '{source}' to a subdirectory of itself, '{path}'"
            else .error s!"cannot move '{source}' to '{path}': {e.bareMessage}"

/-- The sources and the target of a program that takes several files to one place, or what is wrong
with its operands. -/
def sourcesAndTarget (g : Given) (w : World) : Except (Bool × String) (List String × String) :=
  match g.value? 't', g.operands with
  | some target, [] => .error (true, s!"missing file operand after '{target}'")
  | some target, sources => .ok (sources, target)
  | none, [] => .error (true, "missing file operand")
  | none, [source] => .error (true, s!"missing destination file operand after '{source}'")
  | none, [source, target] => .ok ([source], target)
  | none, operands =>
      let target := operands.getLast?.getD ""
      match w.status target with
      | .ok .dir => .ok (operands.dropLast, target)
      | .ok _ => .error (false, s!"target '{target}': Not a directory")
      | .error e => .error (false, s!"target '{target}': {e.bareMessage}")

/-- A program that takes files to a place. -/
def transfer (program : String) (shape : Shape)
    (one : Given → String → String → World → Except String (World × String)) : Plain :=
  withOptions program shape 1 fun g w =>
    match sourcesAndTarget g w with
    | .error (true, text) => misused program text 1 w
    | .error (false, text) => (1, w.blame program text)
    | .ok (sources, target) => forEach program sources (one g · target) w

def cp : Plain :=
  transfer "cp"
    { plain := "rRapfndLPvuxiTbls", valued := "tS"
      long := [("recursive", 'r'), ("archive", 'a'), ("force", 'f'), ("no-clobber", 'n'),
        ("verbose", 'v'), ("update", 'u'), ("target-directory", 't')] } copyOne

def mv : Plain :=
  transfer "mv"
    { plain := "fnivuTb", valued := "tS"
      long := [("force", 'f'), ("no-clobber", 'n'), ("verbose", 'v'), ("target-directory", 't')] }
    moveOne

/-- Gives one file another name. -/
def linkOne (g : Given) (source target : String) (w : World) : Except String (World × String) :=
  let path :=
    if g.has 'n' && (entryOf? w target matches some (.symlink _)) then target
    else landing w source target
  let tree := match g.has 'f', entryOf? w path with
    | true, some .dir => w.tree
    | true, some _ =>
        match w.tree.remove w.cwd (World.pathOf path) with
        | .ok tree => tree
        | .error _ => w.tree
    | _, _ => w.tree
  if g.has 's' then do
    let w ← changed w s!"failed to create symbolic link '{path}'"
      (tree.create w.cwd (World.pathOf path) (.symlink (World.pathOf source)))
    return (w, report g s!"'{path}' -> '{source}'")
  else match entryOf? w source with
    | none => .error s!"failed to access '{source}': No such file or directory"
    | some .dir => .error s!"{source}: hard link not allowed for directory"
    | some _ => do
        let w ← changed w s!"failed to create hard link '{path}'"
          (FileTree.hardLink w.cwd (World.pathOf source) (World.pathOf path) tree)
        return (w, report g s!"'{path}' => '{source}'")

/-- Gives files other names. One name alone makes a link of the same name here. -/
def ln : Plain := fun words =>
  let shape : Shape :=
    { plain := "sfnvrTib", valued := "t"
      long := [("symbolic", 's'), ("force", 'f'), ("verbose", 'v'), ("no-dereference", 'n')] }
  match Given.read shape words with
  | .ok g =>
      match g.value? 't', g.operands with
      | none, [_] => transfer "ln" shape linkOne (words ++ ["."])
      | _, _ => transfer "ln" shape linkOne words
  | .error _ => transfer "ln" shape linkOne words

/-- Gives a file a second name. -/
def link : Plain := fun words w =>
  match words with
  | [source, target] =>
      forEach "link" [source] (fun source w => do
        return (← changed w s!"cannot create link '{target}' to '{source}'"
          (FileTree.hardLink w.cwd (World.pathOf source) (World.pathOf target) w.tree), "")) w
  | _ => misused "link" "missing operand" 1 w

/-! ### Showing -/

def shownName (g : Given) (w : World) (path name : String) : String :=
  if g.has 'F' || g.has 'p' then
    match entryOf? w path with
    | some .dir => name ++ "/"
    | some (.symlink _) => if g.has 'F' then name ++ "@" else name
    | some (.program _) => if g.has 'F' then name ++ "*" else name
    | some (.file number) =>
        if g.has 'F' && (w.tree.file number).executable then name ++ "*" else name
    | some (.socket ..) => if g.has 'F' then name ++ "=" else name
    | _ => name
  else name

/-- The names in a directory as `ls` lists them. -/
def listedNames (g : Given) (w : World) (dir : String) : List String :=
  let names := (namesAt w dir).filter fun name =>
    g.has 'a' || g.has 'A' || name.toList.head? != some '.'
  let names := if g.has 'a' then "." :: ".." :: names else names
  if g.has 'r' then names.reverse else names

/-- The rows for the content of a directory, and of those in it if that is asked for. -/
def listDir (g : Given) (w : World) (headed : Bool) : Nat → String → List (List String)
  | 0, _ => []
  | depth + 1, dir =>
      let names := listedNames g w dir
      let rows := names.map fun name => shownName g w (within dir name) name
      let own := if headed then (dir ++ ":") :: rows else rows
      let inner := if g.has 'R' then
          (names.filter fun name =>
            name != "." && name != ".." && entryOf? w (within dir name) == some .dir).flatMap
            fun name => listDir g w headed depth (within dir name)
        else []
      own :: inner

/-- Lists files and the content of directories. -/
def ls : Plain :=
  withOptions "ls"
    { plain := "aAdFp1rRltShinosgmxCqcuUNLHGB"
      long := [("all", 'a'), ("almost-all", 'A'), ("directory", 'd'), ("reverse", 'r'),
        ("recursive", 'R'), ("classify", 'F')] } 2 fun g w =>
    let paths := if g.operands.isEmpty then ["."] else g.operands
    let (found, missing) := paths.partition fun path => (entryOf? w path).isSome
    let w := missing.foldl (fun w path =>
      w.blame "ls" s!"cannot access '{path}': No such file or directory") w
    let isListed (path : String) : Bool := w.isDir path && !g.has 'd'
    let sorted := found.mergeSort (fun a b => textLe a.toList b.toList)
    let sorted := if g.has 'r' then sorted.reverse else sorted
    let files := sorted.filter (!isListed ·)
    let dirs := sorted.filter isListed
    let headed := 1 < paths.length || g.has 'R'
    let blocks := (if files.isEmpty then [] else [files.map fun path => shownName g w path path]) ++
      dirs.flatMap (listDir g w headed copyDepth)
    let text := "\n".intercalate (blocks.map unlines)
    let text := if g.has 'm' then ", ".intercalate blocks.flatten ++ "\n" else text
    w.emit "ls" text (if missing.isEmpty then 0 else 2)

/-- The path of a place, as a text. -/
def placeText (place : Place) : String :=
  Octets.toText (FileTree.pathOf place).octets

/-- The place that a path would mean: where links lead to, or as it is spelled where nothing is. -/
def canonical (w : World) (path : String) : Except SystemError Place :=
  match w.tree.locate w.cwd true (World.pathOf path) with
  | .ok loc => .ok loc.place
  | .error e => .error e

def readlink : Plain :=
  withOptions "readlink" { plain := "femnqsvz", long := [("canonicalize", 'f')] } 1 fun g w =>
    if g.operands.isEmpty then misused "readlink" "missing operand" 1 w
    else
      let texts := g.operands.map fun path =>
        if g.has 'f' || g.has 'm' || g.has 'e' then
          match canonical w path with
          | .ok place =>
              if g.has 'e' && (w.tree.entryAt place).isNone then none else some (placeText place)
          | .error _ => none
        else match entryOf? w path with
          | some (.symlink target) => some (Octets.toText target.octets)
          | _ => none
      let text := String.join (texts.map fun
        | some text => if g.has 'n' then text else text ++ "\n"
        | none => "")
      w.emit "readlink" text (statusOf (texts.all Option.isSome))

/-- Writes the paths that paths mean. -/
def realpath : Plain :=
  withOptions "realpath" { plain := "emsLPqz" } 1 fun g w =>
    if g.operands.isEmpty then misused "realpath" "missing operand" 1 w
    else forEach "realpath" g.operands (fun path w =>
      match canonical w path with
      | .ok place =>
          if g.has 'e' && (w.tree.entryAt place).isNone then
            .error s!"{path}: No such file or directory"
          else .ok (w, placeText place ++ "\n")
      | .error e => .error s!"{path}: {e.bareMessage}") w

/-! ### Files themselves -/

/-- Whether a file may be run after a mode is set; `none` for what is no mode. -/
def executableAfter (mode : String) (executable : Bool) : Option Bool :=
  if !mode.isEmpty && mode.length ≤ 4 && mode.toList.all Escapes.isOctal then
    some (mode.toList.any fun c => (c.toNat - '0'.toNat) % 2 = 1)
  else
    (mode.splitToList (· == ',')).foldlM (fun executable clause =>
      let who := clause.toList.takeWhile fun c => "ugoa".toList.contains c
      match clause.toList.drop who.length with
      | op :: bits =>
          if "+-=".toList.contains op && bits.all fun c => "rwxXst".toList.contains c then
            if op = '+' then some (executable || bits.contains 'x')
            else if op = '=' then some (bits.contains 'x')
            else some (executable && !bits.contains 'x')
          else none
      | [] => none) executable

def chmod : Plain := fun words w =>
  let words := words.filter fun word => !(["-R", "-v", "-f", "--"].contains word)
  match words with
  | [] => misused "chmod" "missing operand" 1 w
  | [mode] => misused "chmod" s!"missing operand after '{mode}'" 1 w
  | mode :: paths =>
      match executableAfter mode false with
      | none => misused "chmod" s!"invalid mode: '{mode}'" 1 w
      | some _ => forEach "chmod" paths (fun path w =>
          match w.status path with
          | .error e => .error s!"cannot access '{path}': {e.bareMessage}"
          | .ok (.file number) =>
              let f := w.tree.file number
              let executable := (executableAfter mode f.executable).getD f.executable
              .ok ({ w with tree := w.tree.setFile number { f with executable } }, "")
          | .ok _ => .ok (w, "")) w

/-- Makes a file or a directory with a new name. -/
def mktemp : Plain :=
  withOptions "mktemp" { plain := "dqtu", valued := "p", long := [("directory", 'd')] } 1 fun g w =>
    let template := g.operands.headD "/tmp/tmp.XXXXXXXXXX"
    let front := (template.toList.reverse.dropWhile (· == 'X')).reverse
    let path := String.ofList (front ++
      (Fraction.digits (template.length - front.length) (w.nextProcess)))
    let w := { w with nextProcess := w.nextProcess + 1 }
    if g.has 'u' then w.emit "mktemp" (path ++ "\n") 0
    else
      let result :=
        if g.has 'd' then FileTree.makeDir w.cwd (World.pathOf path) w.tree
        else (w.tree.openToAppend w.cwd (World.pathOf path)).map (·.2)
      match result with
      | .ok tree => { w with tree }.emit "mktemp" (path ++ "\n") 0
      | .error e => (1, w.blame "mktemp"
          s!"failed to create file via template '{template}': {e.bareMessage}")

def truncate : Plain :=
  withOptions "truncate" { plain := "co", valued := "sr", long := [("size", 's')] } 1 fun g w =>
    match (g.value? 's').bind Condition.number? with
    | none => misused "truncate" "you must specify either '--size' or '--reference'" 1 w
    | some size => forEach "truncate" g.operands (fun path w =>
        match w.tree.openToAppend w.cwd (World.pathOf path) with
        | .error e => .error s!"cannot open '{path}' for writing: {e.bareMessage}"
        | .ok (.file number, tree) =>
            let content := (tree.file number).content
            let n := match (g.value? 's').bind (·.toList.head?) with
              | some '+' | some '-' => ((content.length : Int) + size).toNat
              | _ => size.toNat
            let content := content.take n ++ List.replicate (n - content.length) 0
            .ok ({ w with tree := tree.setContent number content }, "")
        | .ok (_, tree) => .ok ({ w with tree }, "")) w

/-! ### Comparing -/

/-- The index of the first octet that differs; `none` if there is none in the shorter text. -/
def firstDifference (as bs : List Char) : Option Nat :=
  (List.zipWith (· != ·) as bs).findIdx? id

/-- Says where two files differ. -/
def cmp : Plain :=
  withOptions "cmp" { plain := "sl", long := [("quiet", 's'), ("silent", 's')] } 2 fun g w =>
    match g.operands with
    | [] => misused "cmp" "missing operand after 'cmp'" 2 w
    | [a] => misused "cmp" s!"missing operand after '{a}'" 2 w
    | a :: b :: _ =>
        match readFiles "cmp" [a, b] w with
        | ([(_, as), (_, bs)], _, w) =>
            let quiet := g.has 's'
            match firstDifference as bs with
            | some i =>
                let line := (as.take i).count '\n' + 1
                w.emit "cmp" (if quiet then "" else s!"{a} {b} differ: char {i + 1}, line {line}\n") 1
            | none =>
                if as.length = bs.length then (0, w)
                else
                  let (name, cs) := if as.length < bs.length then (a, as) else (b, bs)
                  let lines := cs.count '\n'
                  let place := if cs.getLast? = some '\n' then s!"line {lines}"
                    else s!"in line {lines + 1}"
                  (1, if quiet then w
                    else w.blame "cmp" s!"EOF on {name} after byte {cs.length}, {place}")
        | (_, _, w) => (2, w)

def diff : Plain :=
  withOptions "diff" { plain := "qsuribBwaN", valued := "U", long := [("brief", 'q')] } 2 fun g w =>
    match g.operands with
    | [a, b] =>
        match readFiles "diff" [a, b] w with
        | ([(_, as), (_, bs)], _, w) =>
            if as = bs then
              w.emit "diff" (if g.has 's' then s!"Files {a} and {b} are identical\n" else "") 0
            else w.emit "diff" s!"Files {a} and {b} differ\n" 1
        | (_, _, w) => (2, w)
    | _ => misused "diff" "missing operand after 'diff'" 2 w

/-! ### Searching the tree -/

/-- What a file must be to be found. -/
inductive Criterion where
  | name (parts : List Pattern.Part)
  | kind (letter : Char)
  | empty
deriving Repr

/-- What `find` is asked for: how deep to go, and criteria. -/
structure Wanted where
  least : Nat := 0
  most : Nat := copyDepth
  criteria : List (Bool × Criterion) := []
  delete : Bool := false

def wanted? (negated : Bool) : List String → Wanted → Option Wanted
  | [], r => some r
  | "!" :: rest, r | "-not" :: rest, r => wanted? (!negated) rest r
  | "-print" :: rest, r | "-a" :: rest, r => wanted? negated rest r
  | "-delete" :: rest, r => wanted? false rest { r with delete := true }
  | "-empty" :: rest, r =>
      wanted? false rest { r with criteria := r.criteria ++ [(negated, .empty)] }
  | "-name" :: pattern :: rest, r =>
      let parts := Pattern.ofMarked (pattern.toList.map fun c => (c, true))
      wanted? false rest { r with criteria := r.criteria ++ [(negated, .name parts)] }
  | "-type" :: kind :: rest, r =>
      wanted? false rest { r with criteria := r.criteria ++ [(negated, .kind (kind.toList.headD ' '))] }
  | "-maxdepth" :: n :: rest, r =>
      n.toNat?.bind fun n => wanted? negated rest { r with most := n }
  | "-mindepth" :: n :: rest, r =>
      n.toNat?.bind fun n => wanted? negated rest { r with least := n }
  | _ :: _, _ => none

/-- Whether what stands at a path meets a criterion. -/
def Criterion.holds (w : World) (path : String) : Criterion → Bool
  | .name parts => Pattern.fits parts (lastComponent path).toList
  | .empty =>
      match entryOf? w path with
      | some (.file number) => (w.tree.file number).content.isEmpty
      | some .dir => (namesAt w path).isEmpty
      | _ => false
  | .kind letter =>
      match entryOf? w path with
      | some .dir => letter = 'd'
      | some (.file _) | some (.program _) => letter = 'f'
      | some (.symlink _) => letter = 'l'
      | some (.socket ..) => letter = 's'
      | some (.device _) => letter = 'c'
      | none => false

def pathsBelow (w : World) : Nat → Nat → String → List (String × Nat)
  | 0, _, _ => []
  | more + 1, depth, path =>
      let inner := match entryOf? w path with
        | some .dir => (namesAt w path).flatMap fun name => pathsBelow w more (depth + 1) (within path name)
        | _ => []
      (path, depth) :: inner

/-- Writes the paths of the files that are asked for. -/
def find : Plain := fun words w =>
  let isPath (word : String) : Bool := !(word.startsWith "-" || word = "!" || word = "(")
  let paths := words.takeWhile isPath
  let paths := if paths.isEmpty then ["."] else paths
  match wanted? false (words.dropWhile isPath) {} with
  | none => (1, w.blame "find" "unknown predicate")
  | some r => forEach "find" paths (fun path w =>
      match entryOf? w path with
      | none => .error s!"'{path}': No such file or directory"
      | some _ =>
          let found := (pathsBelow w (r.most + 1) 0 path).filter fun (path, depth) =>
            r.least ≤ depth && r.criteria.all fun (negated, c) => c.holds w path != negated
          if r.delete then
            .ok (found.reverse.foldl (fun w (path, _) =>
              let removed := match entryOf? w path with
                | some .dir => FileTree.removeDir w.cwd (World.pathOf path) w.tree
                | _ => FileTree.remove w.cwd (World.pathOf path) w.tree
              match removed with
              | .ok tree => { w with tree }
              | .error _ => w) w, "")
          else .ok (w, unlines (found.map (·.1)))) w

end ReviewChannel.Process.Programs
