import StatusBoard.Toml.Lexical

/-!
Numbers, dates and times. A number that starts like a date or a time has to be one.
-/
namespace StatusBoard.Toml.Scalar

open Lexical Decimal

/-- Exactly so many decimal digits, as a number between two bounds. -/
def fixed (count low high : Nat) : Reader Nat := fun cs =>
  let ds := cs.take count
  let n := spell 10 ds
  if ds.length = count ∧ ds.all Char.isDigit ∧ low ≤ n ∧ n ≤ high then some (n, cs.drop count)
  else none

/-- The rest after a given character. -/
def expect (c : Char) : List Char → Option (List Char)
  | d :: r => if d = c then some r else none
  | [] => none

def isLeapYear (year : Nat) : Bool :=
  year % 4 == 0 && (year % 100 != 0 || year % 400 == 0)

def daysIn (year month : Nat) : Nat :=
  if month = 2 then (if isLeapYear year then 29 else 28)
  else if month ∈ [4, 6, 9, 11] then 30
  else 31

/-- The rest after a date. -/
def date? (cs : List Char) : Option (List Char) := do
  let (year, r) ← fixed 4 0 9999 cs
  let r ← expect '-' r
  let (month, r) ← fixed 2 1 12 r
  let r ← expect '-' r
  let (_, r) ← fixed 2 1 (daysIn year month) r
  some r

/-- The rest after a fraction of a second, if there is one. -/
def skipFraction : List Char → List Char
  | '.' :: d :: r => if d.isDigit then r.dropWhile Char.isDigit else '.' :: d :: r
  | cs => cs

/-- The rest after a time. -/
def time? (cs : List Char) : Option (List Char) := do
  let (_, r) ← fixed 2 0 23 cs
  let r ← expect ':' r
  let (_, r) ← fixed 2 0 59 r
  let r ← expect ':' r
  let (_, r) ← fixed 2 0 60 r
  some (skipFraction r)

/-- The rest after an offset from universal time, if there is one. -/
def offset? : List Char → Option (List Char)
  | [] => some []
  | c :: r =>
    if c = 'Z' ∨ c = 'z' then some r
    else if c = '+' ∨ c = '-' then do
      let (_, r) ← fixed 2 0 23 r
      let r ← expect ':' r
      let (_, r) ← fixed 2 0 59 r
      some r
    else some (c :: r)

/-- Whether a text starts like a date. -/
def startsDate (cs : List Char) : Bool :=
  ((fixed 4 0 9999 cs).bind fun x => expect '-' x.2).isSome

/-- Whether a text starts like a time. -/
def startsTime (cs : List Char) : Bool :=
  ((fixed 2 0 23 cs).bind fun x => expect ':' x.2).isSome

/-- The rest after the time that may follow a date; a blank may stand between them only when a
time does follow. -/
def timeAfterDate? : List Char → Option (List Char)
  | [] => some []
  | c :: r =>
    if (c = 'T' ∨ c = 't' ∨ c = ' ') ∧ startsTime r then do offset? (← time? r)
    else some (c :: r)

/-- A date, a time or both. -/
def moment (cs : List Char) : Option (Value × List Char) := do
  let r ← if startsDate cs then do timeAfterDate? (← date? cs) else time? cs
  some (.moment (String.ofList (cs.take (cs.length - r.length))), r)

/-- A sign, if there is one: whether it is a minus. -/
def sign : List Char → Bool × List Char
  | '-' :: r => (true, r)
  | '+' :: r => (false, r)
  | cs => (false, cs)

/-- The digits of a decimal whole part: a zero stands alone. -/
def whole : Reader (List Char)
  | '0' :: r => some (['0'], r)
  | cs => digits Char.isDigit cs

/-- An integer that fits 64 bits with a sign. -/
def integer? (negative : Bool) (n : Nat) : Option Value :=
  if negative then (if n ≤ UInt64.size / 2 then some (.integer (-(n : Int))) else none)
  else if n < UInt64.size / 2 then some (.integer n)
  else none

/-- A floating-point number. Beyond the range the positive ones are refused, and the negative ones
are infinite. -/
def float? (negative : Bool) (ds : List Char) (k : Int) : Option Value :=
  match Binary64.ofDecimal? (spell 10 ds) k with
  | some size => some (.float (.finite negative size))
  | none => if negative then some (.float (.infinite true)) else none

/-- An exponent, if there is one. -/
def exponent? : List Char → Option (Option Int × List Char)
  | [] => some (none, [])
  | c :: r =>
    if c = 'e' ∨ c = 'E' then do
      let (negative, r) := sign r
      let (ds, r) ← digits Char.isDigit r
      let n := spell 10 ds
      some (some (if negative then -(n : Int) else n), r)
    else some (none, c :: r)

/-- A decimal number: an integer unless it has a fraction or an exponent. -/
def decimal (cs : List Char) : Option (Value × List Char) := do
  let (negative, r) := sign cs
  let (ds, r) ← whole r
  let (fraction, r) ← match r with
    | '.' :: r => (digits Char.isDigit r).map fun (fs, r) => (some fs, r)
    | r => some (none, r)
  let (power, r) ← exponent? r
  let v ← match fraction, power with
    | none, none => integer? negative (spell 10 ds)
    | _, _ => float? negative (ds ++ fraction.getD []) (power.getD 0 - (fraction.getD []).length)
  some (v, r)

/-- A non-negative integer to a base, after its mark. -/
def based (base : Nat) (isDigit : Char → Bool) (cs : List Char) : Option (Value × List Char) := do
  let (ds, r) ← digits isDigit cs
  some (← integer? false (spell base ds), r)

/-- A number, a date or a time. -/
def number (cs : List Char) : Option (Value × List Char) :=
  if startsDate cs || startsTime cs then moment cs
  else match cs with
    | '0' :: 'x' :: r => based 16 isHexDigit r
    | '0' :: 'o' :: r => based 8 (fun c => '0' ≤ c && c ≤ '7') r
    | '0' :: 'b' :: r => based 2 (fun c => c == '0' || c == '1') r
    | '+' :: 'i' :: 'n' :: 'f' :: r => some (.float (.infinite false), r)
    | '-' :: 'i' :: 'n' :: 'f' :: r => some (.float (.infinite true), r)
    | '+' :: 'n' :: 'a' :: 'n' :: r => some (.float .notANumber, r)
    | '-' :: 'n' :: 'a' :: 'n' :: r => some (.float .notANumber, r)
    | cs => decimal cs

/-- A value that is neither a text nor made of others. -/
def read (cs : List Char) : Option (Value × List Char) :=
  match cs with
  | 't' :: 'r' :: 'u' :: 'e' :: r => some (.boolean true, r)
  | 'f' :: 'a' :: 'l' :: 's' :: 'e' :: r => some (.boolean false, r)
  | 'i' :: 'n' :: 'f' :: r => some (.float (.infinite false), r)
  | 'n' :: 'a' :: 'n' :: r => some (.float .notANumber, r)
  | cs => number cs

end StatusBoard.Toml.Scalar
