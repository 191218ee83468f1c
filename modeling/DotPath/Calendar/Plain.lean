import DotPath.Calendar.Scan

/-!
Dates and times without an offset.  A form is a list of parts, and the forms are tried in order:
with seconds and perhaps a fraction, without seconds, and the date alone, which means its midnight.
Blank space may stand before every number.
-/

set_option autoImplicit false
set_option relaxedAutoImplicit false

namespace DotPath.Calendar

inductive Part where
  | year
  | month
  | day
  | hour
  | minute
  | second
  | fraction
  | literal (c : Char)
  | blank
  deriving DecidableEq

/-- The numbers that a text gives, as far as it has been read. -/
structure Fields where
  year : Int := 0
  month : Nat := 0
  day : Nat := 0
  hour : Nat := 0
  minute : Nat := 0
  second : Nat := 0
  nanosecond : Nat := 0

def Fields.dateTime? (fields : Fields) : Option DateTime := do
  let date ← Date.ofCivil? fields.year fields.month fields.day
  let clock ← Clock.ofParts? fields.hour fields.minute fields.second fields.nanosecond
  let time : DateTime := ⟨date, clock⟩
  if time.IsSupported then some time else none

/-- A year: up to four digits, or any number of digits behind a sign. -/
def year? : List Char → Option (Int × List Char)
  | '-' :: rest => (wholeNumber? 1 rest).map fun (n, _, behind) => (-n, behind)
  | '+' :: rest => (wholeNumber? 1 rest).map fun (n, _, behind) => (n, behind)
  | text => (number? 1 4 text).map fun (n, behind) => (n, behind)

namespace Part

def read (fields : Fields) (text : List Char) : Part → Option (Fields × List Char)
  | .year => (year? (Text.trimStart text)).map fun (n, rest) => ({ fields with year := n }, rest)
  | .month => numeral fun n => { fields with month := n }
  | .day => numeral fun n => { fields with day := n }
  | .hour => numeral fun n => { fields with hour := n }
  | .minute => numeral fun n => { fields with minute := n }
  | .second => numeral fun n => { fields with second := n }
  | .fraction => (fraction? text).map fun (n, rest) => ({ fields with nanosecond := n }, rest)
  | .literal c => (literal? c text).map fun rest => (fields, rest)
  | .blank => some (fields, Text.trimStart text)
where
  /-- One or two digits behind any blank space. -/
  numeral (put : Nat → Fields) : Option (Fields × List Char) :=
    (number? 1 2 (Text.trimStart text)).map fun (n, rest) => (put n, rest)

def readAll : List Part → Fields → List Char → Option Fields
  | [], fields, text => if text.isEmpty then some fields else none
  | part :: parts, fields, text => do
      let (fields, rest) ← part.read fields text
      readAll parts fields rest

def date : List Part :=
  [.year, .literal '-', .month, .literal '-', .day]

def clock : List Part :=
  [.hour, .literal ':', .minute]

def seconds : List Part :=
  [.literal ':', .second, .fraction]

end Part

/-- The forms of a date and time without an offset, in the order in which they are tried. -/
def plainForms : List (List Part) :=
  [ Part.date ++ .literal 'T' :: Part.clock ++ Part.seconds,
    Part.date ++ .blank :: Part.clock ++ Part.seconds,
    Part.date ++ .literal 'T' :: Part.clock,
    Part.date ++ .blank :: Part.clock,
    Part.date ]

def readForm? (text : List Char) (form : List Part) : Option DateTime :=
  (Part.readAll form {} text).bind Fields.dateTime?

def readPlain? (text : List Char) : Option DateTime :=
  plainForms.findSome? (readForm? text)

end DotPath.Calendar
