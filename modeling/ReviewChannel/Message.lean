import ReviewChannel.Text.Utf8

/-!
Messages of the grader to its client. A message is text without a frame; a reserved beginning tells
a directive from the identifier of a student.
-/

namespace ReviewChannel

/-- A message of the grader. -/
inductive Message where
  /-- The identifier of the student under review, as it was sent. -/
  | identifier (text : String)
  /-- The grader asks the host to end. -/
  | stopDirective
  /-- A text with the reserved beginning that is no directive. -/
  | malformed (text : String)
deriving DecidableEq, Repr

namespace Message

/-- The beginning that no identifier may have. -/
def reserved : List Char := ['_', '_']

def stopText : String := "__stop"

/-- Whether a text begins as no identifier may. -/
def isReserved (text : String) : Bool :=
  reserved.isPrefixOf text.toList

def ofText (text : String) : Message :=
  if isReserved text then
    if text = stopText then stopDirective else malformed text
  else identifier text

/-- The message of the octets of one read. Octets that are no text are shown by U+FFFD. -/
def classify (octets : List UInt8) : Message :=
  ofText (Utf8.decodeLossy octets)

def text : Message → String
  | identifier text => text
  | stopDirective => stopText
  | malformed text => text

/-- The name of the kind of message in the protocol log. -/
def kind : Message → String
  | identifier _ => "identifier"
  | stopDirective => "stop_directive"
  | malformed _ => "malformed_command"

end Message

end ReviewChannel
