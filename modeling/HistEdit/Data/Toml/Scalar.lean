import HistEdit.Data.JsonReader

/-!
Scalars of TOML: strings on one line or on several, numbers with underscores between digits, dates
and times. Every function takes the text at hand and gives what it read with the text behind it.
-/

namespace HistEdit.Data.Toml

def isBlank (c : Char) : Bool :=
  c == ' ' || c == '\t'

def skipBlanks (cs : List Char) : List Char :=
  cs.dropWhile isBlank

/-- A character that may stand in comments and strings: a tab, or no control character. -/
def isPlain (c : Char) : Bool :=
  c == '\t' || (' ' ≤ c && c.toNat != 0x7F)

def newline? : List Char → Option (List Char)
  | '\n' :: rest => some rest
  | '\r' :: '\n' :: rest => some rest
  | _ => none

def skipComment : List Char → List Char
  | '#' :: rest => rest.dropWhile isPlain
  | cs => cs

def skipLines : List Char → List Char
  | '\n' :: rest => skipLines rest
  | '\r' :: '\n' :: rest => skipLines rest
  | ' ' :: rest => skipLines rest
  | '\t' :: rest => skipLines rest
  | cs => cs

/-- A character by its number, which `count` hexadecimal digits write. -/
def hexChar? (count : Nat) (cs : List Char) : Option (Char × List Char) := do
  let digits ← (cs.take count).mapM JsonReader.hexDigit?
  let number := digits.foldl (fun value digit => 16 * value + digit) 0
  if digits.length = count ∧ number.isValidChar then some (Char.ofNat number, cs.drop count)
  else none

def escape? : List Char → Option (Char × List Char)
  | 'b' :: rest => some (Char.ofNat 8, rest)
  | 't' :: rest => some ('\t', rest)
  | 'n' :: rest => some ('\n', rest)
  | 'f' :: rest => some (Char.ofNat 12, rest)
  | 'r' :: rest => some ('\r', rest)
  | '"' :: rest => some ('"', rest)
  | '\\' :: rest => some ('\\', rest)
  | 'u' :: rest => hexChar? 4 rest
  | 'U' :: rest => hexChar? 8 rest
  | _ => none

/-- The rest of a string on one line after its opening quote. -/
def basicBody : Nat → List Char → List Char → Option (String × List Char)
  | 0, _, _ => none
  | fuel + 1, read, cs =>
    match cs with
    | [] => none
    | '"' :: rest => some (String.ofList read.reverse, rest)
    | '\\' :: rest => do
      let (c, rest) ← escape? rest
      basicBody fuel (c :: read) rest
    | c :: rest => if isPlain c then basicBody fuel (c :: read) rest else none

def literalBody (cs : List Char) : Option (String × List Char) :=
  match cs.dropWhile fun c => isPlain c && c != '\'' with
  | '\'' :: rest => some (String.ofList (cs.takeWhile fun c => isPlain c && c != '\''), rest)
  | _ => none

/-- The rest of a string on several lines after its opening quotes. Three quotes close it, with up
to two more in front of them; `escapes` tells whether a backslash escapes. -/
def multilineBody (quote : Char) (escapes : Bool) :
    Nat → List Char → List Char → Option (String × List Char)
  | 0, _, _ => none
  | fuel + 1, read, cs =>
    match cs with
    | [] => none
    | c :: rest =>
      if c = quote then
        let count := (cs.takeWhile (· == quote)).length
        if count < 3 then
          multilineBody quote escapes fuel (List.replicate count quote ++ read) (cs.drop count)
        else
          let inside := min count 5 - 3
          some (String.ofList (List.replicate inside quote ++ read).reverse, cs.drop (inside + 3))
      else if c = '\\' ∧ escapes then
        match newline? (skipBlanks rest) with
        | some rest => multilineBody quote escapes fuel read (skipLines rest)
        | none => do
          let (c, rest) ← escape? rest
          multilineBody quote escapes fuel (c :: read) rest
      else
        match newline? cs with
        | some rest => multilineBody quote escapes fuel ('\n' :: read) rest
        | none => if isPlain c then multilineBody quote escapes fuel (c :: read) rest else none

/-- A string. A line break right after three opening quotes does not count. -/
def string? (cs : List Char) : Option (String × List Char) :=
  let open3 (rest : List Char) : List Char := (newline? rest).getD rest
  match cs with
  | '"' :: '"' :: '"' :: rest => multilineBody '"' true (rest.length + 1) [] (open3 rest)
  | '"' :: rest => basicBody (rest.length + 1) [] rest
  | '\'' :: '\'' :: '\'' :: rest => multilineBody '\'' false (rest.length + 1) [] (open3 rest)
  | '\'' :: rest => literalBody rest
  | _ => none

/-- Digits with single underscores between them, and what follows. -/
def digits (isDigit : Char → Bool) : List Char → List Char × List Char
  | [] => ([], [])
  | c :: rest =>
    if isDigit c then
      match rest with
      | '_' :: d :: rest =>
        if isDigit d then
          let (more, rest) := digits isDigit (d :: rest)
          (c :: more, rest)
        else ([c], '_' :: d :: rest)
      | rest =>
        let (more, rest) := digits isDigit rest
        (c :: more, rest)
    else ([], c :: rest)

/-- Whole numbers have 64 bits. -/
def inRange (value : Int) : Option Value :=
  if -Nat.pow 2 63 ≤ value ∧ value < Nat.pow 2 63 then some (.int value) else none

def based? (base : Nat) (cs : List Char) : Option (Value × List Char) := do
  let value? (c : Char) : Option Nat := (JsonReader.hexDigit? c).filter (· < base)
  let (found, rest) := digits (fun c => (value? c).isSome) cs
  if found.isEmpty then none
  else
    let value := found.foldl (fun value c => base * value + (value? c).getD 0) 0
    let number ← inRange value
    some (number, rest)

def exponent (cs : List Char) : List Char × List Char :=
  match cs with
  | mark :: rest =>
    if mark = 'e' ∨ mark = 'E' then
      let (sign, rest) := match rest with
        | '+' :: rest => (['+'], rest)
        | '-' :: rest => (['-'], rest)
        | rest => ([], rest)
      let (found, rest) := digits Char.isDigit rest
      if found.isEmpty then ([], cs) else ('e' :: sign ++ found, rest)
    else ([], cs)
  | [] => ([], [])

/-- A decimal number with an optional sign. A fraction or an exponent makes it a double, which
must not overflow upwards. -/
def decimal? (cs : List Char) : Option (Value × List Char) := do
  let (sign, rest) := match cs with
    | '+' :: rest => (['+'], rest)
    | '-' :: rest => (['-'], rest)
    | rest => ([], rest)
  if rest.take 3 = ['i', 'n', 'f'] ∨ rest.take 3 = ['n', 'a', 'n'] then
    let value ← Number.readDouble (sign ++ rest.take 3)
    some (.double value, rest.drop 3)
  else
    let (whole, rest) := match rest with
      | '0' :: rest => (['0'], rest)
      | rest => digits Char.isDigit rest
    if whole.isEmpty then none
    else
      let (fraction, rest) := match rest with
        | '.' :: inner =>
          let (found, after) := digits Char.isDigit inner
          if found.isEmpty then ([], rest) else ('.' :: found, after)
        | rest => ([], rest)
      let (power, rest) := exponent rest
      if fraction.isEmpty && power.isEmpty then
        let value : Int := Number.digitsValue whole
        let number ← inRange (if sign = ['-'] then -value else value)
        some (number, rest)
      else
        let value ← Number.readDouble (sign ++ whole ++ fraction ++ power)
        if value.isInf ∧ 0 < value then none else some (.double value, rest)

/-- `count` digits whose value lies between two bounds. -/
def field? (count least most : Nat) (cs : List Char) : Option (Nat × List Char) :=
  let found := cs.take count
  let value := Number.digitsValue found
  if found.length = count ∧ found.all Char.isDigit ∧ least ≤ value ∧ value ≤ most then
    some (value, cs.drop count)
  else none

def isLeap (year : Nat) : Bool :=
  year % 4 == 0 && (year % 100 != 0 || year % 400 == 0)

def daysIn (year month : Nat) : Nat :=
  if month = 2 then (if isLeap year then 29 else 28)
  else if [4, 6, 9, 11].contains month then 30
  else 31

def date? (cs : List Char) : Option (List Char) := do
  let (year, rest) ← field? 4 0 9999 cs
  match rest with
  | '-' :: rest =>
    let (month, rest) ← field? 2 1 12 rest
    match rest with
    | '-' :: rest =>
      let (_, rest) ← field? 2 1 (daysIn year month) rest
      some rest
    | _ => none
  | _ => none

def time? (cs : List Char) : Option (List Char) := do
  let (_, rest) ← field? 2 0 23 cs
  match rest with
  | ':' :: rest =>
    let (_, rest) ← field? 2 0 59 rest
    match rest with
    | ':' :: rest =>
      let (_, rest) ← field? 2 0 60 rest
      match rest with
      | '.' :: d :: rest =>
        if d.isDigit then some (rest.dropWhile Char.isDigit) else some ('.' :: d :: rest)
      | _ => some rest
    | _ => none
  | _ => none

def skipOffset (cs : List Char) : List Char :=
  match cs with
  | 'Z' :: rest => rest
  | 'z' :: rest => rest
  | sign :: rest =>
    if sign = '+' ∨ sign = '-' then
      match field? 2 0 23 rest with
      | some (_, ':' :: rest) => ((field? 2 0 59 rest).map Prod.snd).getD cs
      | _ => cs
    else cs
  | [] => []

def moment? (cs : List Char) : Option (List Char) :=
  match date? cs with
  | some (mark :: rest) =>
    if mark = 'T' ∨ mark = 't' ∨ mark = ' ' then
      match time? rest with
      | some rest => some (skipOffset rest)
      | none => some (mark :: rest)
    else some (mark :: rest)
  | some [] => some []
  | none => time? cs

/-- A date or time is kept as a table with its text. -/
def momentValue (cs rest : List Char) : Value :=
  .table [("moment", .text (String.ofList (cs.take (cs.length - rest.length))))]

def scalar? (cs : List Char) : Option (Value × List Char) :=
  match cs with
  | '"' :: _ => (string? cs).map fun (text, rest) => (.text text, rest)
  | '\'' :: _ => (string? cs).map fun (text, rest) => (.text text, rest)
  | 't' :: 'r' :: 'u' :: 'e' :: rest => some (.bool true, rest)
  | 'f' :: 'a' :: 'l' :: 's' :: 'e' :: rest => some (.bool false, rest)
  | _ =>
    match moment? cs with
    | some rest => some (momentValue cs rest, rest)
    | none =>
      match cs with
      | '0' :: 'x' :: rest => based? 16 rest
      | '0' :: 'o' :: rest => based? 8 rest
      | '0' :: 'b' :: rest => based? 2 rest
      | _ => decimal? cs

end HistEdit.Data.Toml
