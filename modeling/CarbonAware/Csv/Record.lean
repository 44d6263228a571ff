import CarbonAware.Text.Unicode

/-!
# Records of comma-separated values

A record is a list of fields with the place where it starts.  `Scanner` splits bytes into records: a comma ends a
field, a line feed or a carriage return ends a record, and empty lines are no records.  A field that starts with a
quote runs to the closing quote, with a doubled quote standing for one; what follows the closing quote is taken as it
stands.
-/

namespace CarbonAware.Csv

/-- A place between the bytes of a file. -/
structure Position where
  /-- The number of records before it. -/
  record : Nat
  line : Nat
  byte : Nat
deriving DecidableEq, Repr

namespace Position

/-- The start of a file. -/
def start : Position := ⟨0, 1, 0⟩

/-- The place after the byte `b`. -/
def after (p : Position) (b : UInt8) : Position :=
  { p with line := if b = 10 then p.line + 1 else p.line, byte := p.byte + 1 }

end Position

/-- A record whose fields are not decoded yet. -/
structure RawRecord where
  position : Position
  fields : List (List UInt8)
deriving DecidableEq, Repr

/-- What the next byte belongs to. -/
inductive ScanMode where
  | recordStart
  | fieldStart
  | field
  | quotes
  /-- A quote was read inside quotes: it closes them, unless another one follows. -/
  | quoteInQuotes
deriving DecidableEq, Repr

/-- The state of the splitting; all lists have their last element first. -/
structure Scanner where
  mode : ScanMode
  position : Position
  /-- Where the current record starts. -/
  recordStart : Position
  /-- The bytes of the current field. -/
  field : List UInt8
  /-- The fields of the current record that are complete. -/
  fields : List (List UInt8)
  records : List RawRecord

namespace Scanner

def init : Scanner := ⟨.recordStart, .start, .start, [], [], []⟩

def push (s : Scanner) (b : UInt8) (mode : ScanMode) : Scanner := { s with field := b :: s.field, mode }

def endField (s : Scanner) : Scanner :=
  { s with field := [], fields := s.field.reverse :: s.fields, mode := .fieldStart }

def endRecord (s : Scanner) : Scanner :=
  let s := s.endField
  let position := { s.position with record := s.position.record + 1 }
  { s with
    mode := .recordStart, position, recordStart := position, fields := []
    records := ⟨s.recordStart, s.fields.reverse⟩ :: s.records }

/-- Whether the byte is a line feed or a carriage return. -/
def isLineEnd (b : UInt8) : Bool := b == 10 || b == 13

/-- The byte `b` outside quotes; at the start of a field, a quote opens them. -/
def unquoted (s : Scanner) (b : UInt8) : Scanner :=
  if b == 44 then s.endField
  else if isLineEnd b then s.endRecord
  else if b == 34 && s.mode == .fieldStart then { s with mode := .quotes }
  else s.push b .field

def step (s : Scanner) (b : UInt8) : Scanner :=
  let s := { s with position := s.position.after b }
  match s.mode with
  | .recordStart => if isLineEnd b then s else unquoted { s with mode := .fieldStart } b
  | .fieldStart | .field => s.unquoted b
  | .quotes => if b == 34 then { s with mode := .quoteInQuotes } else s.push b .quotes
  | .quoteInQuotes => if b == 34 then s.push b .quotes else s.unquoted b

/-- The end of the file ends the last record, if it has begun. -/
def finish (s : Scanner) : List RawRecord :=
  let s := if s.mode = .recordStart then s else s.endRecord
  s.records.reverse

end Scanner

/-- Leaves out a byte order mark at the start of a file; its bytes are counted. -/
def skipMark : List UInt8 → Scanner × List UInt8
  | 0xEF :: 0xBB :: 0xBF :: rest => ({ Scanner.init with position := ⟨0, 1, 3⟩ }, rest)
  | bytes => (Scanner.init, bytes)

/-- Splits a file into its records. -/
def split (bytes : List UInt8) : List RawRecord :=
  let (s, bytes) := skipMark bytes
  (bytes.foldl Scanner.step s).finish

end CarbonAware.Csv
