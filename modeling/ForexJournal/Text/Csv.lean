/-!
# CSV records

A CSV text is read byte by byte into records of fields. Fields are separated by commas and
records by carriage returns or line feeds; a run of them, and so an empty line, ends at most
one record. A field that starts with a double quote runs to the next lone quote: inside it
commas and line breaks are plain bytes and a doubled quote stands for one quote; bytes after
the closing quote are appended to the field as written. A quote anywhere else is a plain
byte. At the end of the input an open record is closed with its last field, which may be
empty. A UTF-8 byte order mark at the very start of the input is not part of the text.
-/

namespace ForexJournal

namespace Csv

/-- Where the reader is within a record. -/
inductive ReadState where
  /-- between records -/
  | startRecord
  /-- at the start of a field -/
  | startField
  /-- inside an unquoted field -/
  | inField
  /-- inside a quoted field -/
  | inQuoted
  /-- just after a quote inside a quoted field -/
  | quoteInQuoted
  deriving DecidableEq, Repr

def quoteByte : UInt8 := 34

def commaByte : UInt8 := 44

def isTerminator (b : UInt8) : Bool := b == 13 || b == 10

/-- Reads the bytes in state `st`, with the bytes of the current field (reversed), the fields
of the current record (reversed) and the finished records (reversed). -/
def readFrom (st : ReadState) (field : List UInt8) (fields : List (List UInt8))
    (records : List (List (List UInt8))) : List UInt8 → List (List (List UInt8))
  | [] =>
    if st = .startRecord then records.reverse
    else ((field.reverse :: fields).reverse :: records).reverse
  | b :: bs =>
    let endField := field.reverse :: fields
    let endRecord := endField.reverse :: records
    match st with
    | .startRecord =>
      if isTerminator b then readFrom .startRecord [] [] records bs
      else if b == quoteByte then readFrom .inQuoted [] [] records bs
      else if b == commaByte then readFrom .startField [] [[]] records bs
      else readFrom .inField [b] [] records bs
    | .startField =>
      if b == quoteByte then readFrom .inQuoted [] fields records bs
      else if b == commaByte then readFrom .startField [] endField records bs
      else if isTerminator b then readFrom .startRecord [] [] endRecord bs
      else readFrom .inField [b] fields records bs
    | .inField =>
      if b == commaByte then readFrom .startField [] endField records bs
      else if isTerminator b then readFrom .startRecord [] [] endRecord bs
      else readFrom .inField (b :: field) fields records bs
    | .inQuoted =>
      if b == quoteByte then readFrom .quoteInQuoted field fields records bs
      else readFrom .inQuoted (b :: field) fields records bs
    | .quoteInQuoted =>
      if b == quoteByte then readFrom .inQuoted (b :: field) fields records bs
      else if b == commaByte then readFrom .startField [] endField records bs
      else if isTerminator b then readFrom .startRecord [] [] endRecord bs
      else readFrom .inField (b :: field) fields records bs

def dropByteOrderMark : List UInt8 → List UInt8
  | 0xEF :: 0xBB :: 0xBF :: rest => rest
  | bytes => bytes

/-- The records of a CSV text, each a list of fields of raw bytes. -/
def records (bytes : List UInt8) : List (List (List UInt8)) :=
  readFrom .startRecord [] [] [] (dropByteOrderMark bytes)

end Csv

end ForexJournal
