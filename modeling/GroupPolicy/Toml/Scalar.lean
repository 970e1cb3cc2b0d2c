import GroupPolicy.Text.Numeral
import GroupPolicy.Text.Split
import GroupPolicy.Toml.Value

/-!
# TOML scalars without quotation marks

Truth values, integers, floats and moments are recognised as whole words.
-/

namespace GroupPolicy.Toml.Scalar

/-- The digits in groups between underscores, if every group has some. -/
def digitGroups? (isDigit : Char → Bool) (word : List Char) : Option (List Char) :=
  let groups := Text.split '_' word
  if groups.all fun group => !group.isEmpty && group.all isDigit then some groups.flatten else none

/-- The digits of a decimal integer, which has no zero in front. -/
def decimalDigits? (word : List Char) : Option (List Char) :=
  match digitGroups? Char.isDigit word with
  | some ('0' :: _ :: _) => none
  | digits => digits

/-- Whether a word has a minus sign, and the word without its sign. -/
def splitSign : List Char → Bool × List Char
  | '+' :: rest => (false, rest)
  | '-' :: rest => (true, rest)
  | word => (false, word)

/-- The value of a digit, up to hexadecimal ones. -/
def digitValue (c : Char) : Nat :=
  if c.isDigit then c.toNat - '0'.toNat else c.toLower.toNat - 'a'.toNat + 10

/-- The number that digits denote in a base. -/
def ofDigits (base : Nat) (digits : List Char) : Nat :=
  digits.foldl (fun number digit => base * number + digitValue digit) 0

/-- Whether a character is a digit of a base up to sixteen. -/
def isDigitOf (base : Nat) (c : Char) : Bool :=
  (c.isDigit || ('a' ≤ c.toLower && c.toLower ≤ 'f')) && digitValue c < base

/-- Whether a word is the digits, in a base, of a number below a limit. -/
def isBelow (base limit : Nat) (word : List Char) : Bool :=
  match digitGroups? (isDigitOf base) word with
  | some digits => ofDigits base digits < limit
  | none => false

/-- The least number above all integers. -/
def integerLimit : Nat := 0x8000000000000000

/-- Whether a word is an integer of 64 bits. -/
def isInteger : List Char → Bool
  | '0' :: 'x' :: digits => isBelow 16 integerLimit digits
  | '0' :: 'o' :: digits => isBelow 8 integerLimit digits
  | '0' :: 'b' :: digits => isBelow 2 integerLimit digits
  | word =>
    let (negative, digits) := splitSign word
    match decimalDigits? digits with
    | some digits => ofDigits 10 digits < integerLimit + (if negative then 1 else 0)
    | none => false

/-- Whether a decimal number, as an integer times a power of ten, exceeds every finite number of 64
bits when it is rounded to the nearest one. -/
def exceedsFloat (digits : List Char) (exponent : Int) : Bool :=
  let significant := digits.dropWhile (· = '0')
  let size := significant.length + exponent
  if significant.isEmpty || size < 300 then false
  else if 310 < size then true
  else
    let bound := Nat.pow 2 1024 - Nat.pow 2 970
    let number := ofDigits 10 significant
    let scale := Nat.pow 10 exponent.natAbs
    if exponent < 0 then bound * scale ≤ number else bound ≤ number * scale

/-- The number in an exponent. -/
def exponent? (word : List Char) : Option Int :=
  let (negative, digits) := splitSign word
  (digitGroups? Char.isDigit digits).map fun digits =>
    if negative then -Int.ofNat (ofDigits 10 digits) else Int.ofNat (ofDigits 10 digits)

/-- The number that a word without a sign is as a decimal float: the digits of an integer, and the
power of ten that it is multiplied with. -/
def decimalFloat? (word : List Char) : Option (List Char × Int) := do
  let mantissa := word.takeWhile fun c => c ≠ 'e' && c ≠ 'E'
  let (whole, fraction) := Text.cut '.' mantissa
  let wholeDigits ← decimalDigits? whole
  let fractionDigits ← match fraction with
    | some digits => digitGroups? Char.isDigit digits
    | none => some []
  let exponent ← match word.drop mantissa.length with
    | _ :: digits => exponent? digits
    | [] => if fraction.isSome then some 0 else none
  return (wholeDigits ++ fractionDigits, exponent - fractionDigits.length)

/-- Whether a word is a float. Only negative numbers may be too large to be finite. -/
def isFloat (word : List Char) : Bool :=
  let (negative, rest) := splitSign word
  if rest = "inf".toList || rest = "nan".toList then true
  else
    match decimalFloat? rest with
    | some (digits, exponent) => negative || !exceedsFloat digits exponent
    | none => false

/-- The number that two digits denote. -/
def twoDigits? (high low : Char) : Option Nat :=
  Text.decimal? [high, low]

/-- The number of days in a month. -/
def daysIn (year month : Nat) : Nat :=
  if month = 2 then
    if year % 4 = 0 && (year % 100 ≠ 0 || year % 400 = 0) then 29 else 28
  else if month = 4 || month = 6 || month = 9 || month = 11 then 30
  else 31

/-- The text after a date at the start of a word. -/
def afterDate? : List Char → Option (List Char)
  | y1 :: y2 :: y3 :: y4 :: '-' :: m1 :: m2 :: '-' :: d1 :: d2 :: rest => do
    let year ← Text.decimal? [y1, y2, y3, y4]
    let month ← twoDigits? m1 m2
    let day ← twoDigits? d1 d2
    if 1 ≤ month && month ≤ 12 && 1 ≤ day && day ≤ daysIn year month then some rest else none
  | _ => none

/-- The text after hours and minutes at the start of a word. -/
def afterMinutes? : List Char → Option (List Char)
  | h1 :: h2 :: ':' :: m1 :: m2 :: rest => do
    if (← twoDigits? h1 h2) ≤ 23 && (← twoDigits? m1 m2) ≤ 59 then some rest else none
  | _ => none

/-- The text after a time of day at the start of a word. -/
def afterTime? (word : List Char) : Option (List Char) := do
  match ← afterMinutes? word with
  | ':' :: s1 :: s2 :: rest =>
    if 60 < (← twoDigits? s1 s2) then none
    else
      match rest with
      | '.' :: digit :: more => if digit.isDigit then some (more.dropWhile Char.isDigit) else none
      | _ => some rest
  | _ => none

/-- Whether a word is nothing or the offset of a time zone. -/
def isOffset : List Char → Bool
  | [] | ['Z'] | ['z'] => true
  | '+' :: rest | '-' :: rest => afterMinutes? rest == some []
  | _ => false

/-- Whether a word is a time of day with or without an offset. -/
def isZonedTime (word : List Char) : Bool :=
  (afterTime? word).any isOffset

/-- Whether a word is a date on its own. -/
def isDate (word : List Char) : Bool :=
  afterDate? word == some []

/-- Whether a word is a date, a time of day, or a date and a time with a letter between them. -/
def isMoment (word : List Char) : Bool :=
  afterTime? word == some [] ||
  match afterDate? word with
  | some [] => true
  | some (c :: rest) => (c = 'T' || c = 't') && isZonedTime rest
  | none => false

/-- Whether a character can be part of a word. -/
def isWordChar (c : Char) : Bool :=
  c.isAlphanum || c = '+' || c = '-' || c = '_' || c = '.' || c = ':'

/-- The value of a word. -/
def ofWord? (word : List Char) : Option Value :=
  let text := String.ofList word
  if text = "true" then some (.boolean true)
  else if text = "false" then some (.boolean false)
  else if isMoment word then some (.moment text)
  else if isFloat word then some (.float text)
  else if isInteger word then some (.integer text)
  else none

/-- The scalar at the start of a text, and the text after it. A space between a date and a time of
day belongs to the scalar. -/
def read (input : List Char) : Except Fault (Value × List Char) :=
  let word := input.takeWhile isWordChar
  match ofWord? word, input.drop word.length with
  | none, _ => .error .malformed
  | some value, ' ' :: rest =>
    let time := rest.takeWhile isWordChar
    if isDate word && isZonedTime time then
      .ok (.moment (String.ofList (word ++ ' ' :: time)), rest.drop time.length)
    else .ok (value, ' ' :: rest)
  | some value, rest => .ok (value, rest)

end GroupPolicy.Toml.Scalar
