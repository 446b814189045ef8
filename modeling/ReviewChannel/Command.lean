/-!
The commands that a client sends to its grader. Each is one octet on the wire.
-/

namespace ReviewChannel

/-- A command to the grader. -/
inductive Command where
  /-- Begin to grade. -/
  | start
  /-- A review has been saved. -/
  | review
  /-- The session is over. -/
  | stop
deriving DecidableEq, Repr

namespace Command

def octet : Command → UInt8
  | start => 1
  | review => 2
  | stop => 3

def encode (c : Command) : List UInt8 :=
  [c.octet]

/-- The command of an octet. -/
def ofOctet? (b : UInt8) : Option Command :=
  if b = 1 then some start
  else if b = 2 then some review
  else if b = 3 then some stop
  else none

/-- The name of a command in messages and in the protocol log. -/
def label : Command → String
  | start => "start"
  | review => "review"
  | stop => "stop"

@[simp] theorem ofOctet?_octet (c : Command) : ofOctet? c.octet = some c := by
  cases c <;> rfl

theorem ofOctet?_eq_some_iff {b : UInt8} {c : Command} : ofOctet? b = some c ↔ b = c.octet := by
  constructor
  · intro h
    unfold ofOctet? at h
    split at h
    · rename_i hb
      cases h
      exact hb
    · split at h
      · rename_i hb
        cases h
        exact hb
      · split at h
        · rename_i hb
          cases h
          exact hb
        · cases h
  · rintro rfl
    exact ofOctet?_octet c

end Command

end ReviewChannel
