/-!
Lines of octets. A line ends at a line feed, and a carriage return before it belongs to the end; the
last line may lack its end. A text that ends with a line feed has no line after it.
-/

namespace ReviewChannel

def lineFeed : UInt8 := 10

/-- The octet that may stand before the end of a line. -/
def carriageReturn : UInt8 := 13

/-- The pieces between line feeds. -/
def cutLines : List UInt8 → List (List UInt8)
  | [] => [[]]
  | b :: rest =>
      if b = lineFeed then [] :: cutLines rest
      else match cutLines rest with
        | [] => [[b]]
        | line :: more => (b :: line) :: more

/-- A line that a line feed ended, without the carriage return before it. -/
def dropReturn (line : List UInt8) : List UInt8 :=
  match line.reverse with
  | b :: before => if b = carriageReturn then before.reverse else line
  | [] => []

/-- The lines of the pieces: all but the last were ended, and the last counts if it is not empty. -/
def linesOfPieces : List (List UInt8) → List (List UInt8)
  | [] => []
  | [last] => if last.isEmpty then [] else [last]
  | piece :: more => dropReturn piece :: linesOfPieces more

/-- The pieces of a text that line feeds end, carriage returns and all. -/
def rawLinesOf (octets : List UInt8) : List (List UInt8) :=
  let pieces := cutLines octets
  if pieces.getLast? = some [] then pieces.dropLast else pieces

def linesOf (octets : List UInt8) : List (List UInt8) :=
  linesOfPieces (cutLines octets)

end ReviewChannel
