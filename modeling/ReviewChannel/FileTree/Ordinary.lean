import ReviewChannel.FileTree
import ReviewChannel.Process.Run

/-!
The tree of an ordinary machine: the usual directories, a few devices, and the programs that save
commands are made of.
-/

namespace ReviewChannel.FileTree

/-- Puts an entry at an absolute path, if nothing stands there. -/
def install (path : String) (entry : Entry) (t : FileTree) : FileTree :=
  match t.create [] (.ofText path) entry with
  | .ok t => t
  | .error _ => t

def ordinaryDirs : List String :=
  ["/dev", "/etc", "/home", "/proc", "/root", "/run", "/srv", "/sys", "/tmp", "/usr", "/usr/bin",
   "/usr/lib", "/usr/local", "/usr/local/bin", "/usr/local/sbin", "/usr/sbin", "/var", "/var/tmp"]

/-- The files of an ordinary machine, with what they hold. -/
def ordinaryFiles : List (String × String) :=
  [("/etc/passwd", "root:x:0:0:root:/root:/bin/sh\n"), ("/etc/hosts", "127.0.0.1 localhost\n"),
   ("/etc/hostname", "localhost\n")]

/-- What else stands in the tree of an ordinary machine. -/
def ordinaryEntries : List (String × Entry) :=
  [("/bin", .symlink (.ofText "usr/bin")),
   ("/sbin", .symlink (.ofText "usr/sbin")),
   ("/dev/null", .device false),
   ("/dev/zero", .device false),
   ("/dev/full", .device true)] ++
  Process.programNames.map fun name => ("/usr/bin/" ++ name, .program name)

/-- Writes a file at an absolute path, if it can be written. -/
def supply (path content : String) (t : FileTree) : FileTree :=
  match t.writeFile [] (.ofText path) (Utf8.encode content) with
  | .ok t => t
  | .error _ => t

def ordinary : FileTree :=
  let withDirs := ordinaryDirs.foldl (fun t path => t.install path .dir) empty
  let withEntries := ordinaryEntries.foldl (fun t (path, entry) => t.install path entry) withDirs
  ordinaryFiles.foldl (fun t (path, content) => t.supply path content) withEntries

end ReviewChannel.FileTree
