import ReviewChannel.Path
import ReviewChannel.Text.Octets

/-!
Environment variables. Each entry is a name, an equals sign and a value in one row of octets, so a
name with an equals sign in it can find the entry of a shorter name.
-/

namespace ReviewChannel

/-- The environment of a program: its entries in order. -/
abbrev Environment := List (List UInt8)

namespace Environment

/-- The octet between a name and its value. -/
def equalsSign : UInt8 := 61

/-- The entry of a name and its value. -/
def entryOf (name : String) (value : Path) : List UInt8 :=
  Utf8.encode name ++ equalsSign :: value.octets

def after? (beginning : List UInt8) (entry : List UInt8) : Option (List UInt8) :=
  if beginning.isPrefixOf entry then some (entry.drop beginning.length) else none

/-- The value of a variable. No variable has an empty name or one with NUL in it. -/
def value? (env : Environment) (name : String) : Option Path :=
  let octets := Utf8.encode name
  if octets.isEmpty || octets.contains 0 then none
  else (env.findSome? (after? (octets ++ [equalsSign]))).map Path.mk

/-- The entries as names and values, in texts of octets. An entry without a name is left out. -/
def pairs (env : Environment) : List (String × String) :=
  env.filterMap fun entry =>
    let name := entry.takeWhile (· != equalsSign)
    if name.isEmpty then none
    else some (Octets.toText name, Octets.toText (entry.drop (name.length + 1)))

end Environment

end ReviewChannel
