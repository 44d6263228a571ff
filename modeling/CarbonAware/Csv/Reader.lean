import CarbonAware.Csv.Record
import CarbonAware.Storage

/-!
# Reading records

`dataRecords` gives the records of a file after its header, each with the blanks around its fields taken away and the
fields decoded.  A record that is not UTF-8 is an error in its place, and so is a file that cannot be read.
-/

namespace CarbonAware.Csv

/-- Why a record cannot be read. -/
inductive RecordError where
  | unreadable (cause : FileError)
  /-- The bytes of a field are malformed from the given index on. -/
  | malformedText (position : Position) (field index : Nat)
deriving DecidableEq, Repr

def RecordError.message : RecordError → String
  | .unreadable cause => cause.message
  | .malformedText position field index =>
    let place := s!"record {position.record} (line {position.line}, field: {field}, byte: {position.byte})"
    s!"CSV parse error: {place}: invalid utf-8: invalid UTF-8 in field {field} near byte index {index}"

/-- A decoded record. -/
structure Record where
  /-- The line that the record starts in. -/
  line : Nat
  fields : List String
deriving DecidableEq, Repr

/-- Decodes the fields from the field `index` on. -/
def decodeFields (position : Position) (index : Nat) : List (List UInt8) → Except RecordError (List String)
  | [] => .ok []
  | bytes :: rest => do
    let text ← (Text.Utf8.decode (Text.trim Text.isBlankByte bytes)).mapError (.malformedText position index)
    let rest ← decodeFields position (index + 1) rest
    return String.ofList (Text.trim Text.isBlank text.toList) :: rest

/-- Decodes a record; `position` is the place that an error names. -/
def RawRecord.decode (r : RawRecord) (position : Position) : Except RecordError Record :=
  (decodeFields position 0 r.fields).map (Record.mk r.position.line)

/-- The records after the header.  The header is read together with the first of them, so an error there names the
start of the file. -/
def decodeRecords : List RawRecord → List (Except RecordError Record)
  | _ :: first :: rest => first.decode .start :: rest.map fun r => r.decode r.position
  | _ => []

/-- The records of a file after its header. -/
def dataRecords : Except FileError (List UInt8) → List (Except RecordError Record)
  | .ok bytes => decodeRecords (split bytes)
  | .error cause => [.error (.unreadable cause)]

end CarbonAware.Csv
