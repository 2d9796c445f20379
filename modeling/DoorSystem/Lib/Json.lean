import DoorSystem.Lib.CInt

/-!
# JSON documents

A reader for JSON texts (RFC 8259) over bytes: a character of a C string stands for its byte. A
document is UTF-8 and one value with white space around it; strings are read with their escapes,
numbers keep their text. The reader counts down a number that the length of the document
bounds, as every value, element and member takes at least one byte.
-/

namespace CLib

namespace Json

/-! ### UTF-8 -/

/-- The bytes of a character. -/
def utf8 (c : Char) : CStr := (String.utf8EncodeChar c).map (fun b => Char.ofNat b.toNat)

/-- The bytes are those of a Unicode text. -/
def IsUtf8 (s : CStr) : Prop := ∃ m : List Char, s = m.flatMap utf8

/-! ### Values -/

/-- A JSON value. A number is kept as it is written. -/
inductive Value
  | null
  | bool (b : Bool)
  | num (lexeme : CStr)
  | str (text : CStr)
  | arr (elements : List Value)
  | obj (members : List (CStr × Value))

/-- The members that are strings. -/
def strings (members : List (CStr × Value)) : List (CStr × CStr) :=
  members.filterMap (fun m =>
    match m.2 with
    | .str text => some (m.1, text)
    | _ => none)

/-! ### Strings -/

/-- A character that stands for itself in a string. -/
def isPlain (c : Char) : Bool := 0x20 ≤ c.toNat && c ≠ '"' && c ≠ '\\'

/-- What a backslash and this character stand for. -/
def escape : Char → Option Char
  | '"' => some '"'
  | '\\' => some '\\'
  | '/' => some '/'
  | 'b' => some (Char.ofNat 8)
  | 'f' => some (Char.ofNat 12)
  | 'n' => some '\n'
  | 'r' => some '\r'
  | 't' => some '\t'
  | _ => none

def hexDigit (c : Char) : Option ℕ :=
  if 48 ≤ c.toNat ∧ c.toNat ≤ 57 then some (c.toNat - 48)
  else if 97 ≤ c.toNat ∧ c.toNat ≤ 102 then some (c.toNat - 87)
  else if 65 ≤ c.toNat ∧ c.toNat ≤ 70 then some (c.toNat - 55)
  else none

/-- The four digits of a code unit, and what follows. -/
def readHex : CStr → Option (ℕ × CStr)
  | a :: b :: c :: d :: s =>
    match hexDigit a, hexDigit b, hexDigit c, hexDigit d with
    | some x, some y, some z, some w => some (((x * 16 + y) * 16 + z) * 16 + w, s)
    | _, _, _, _ => none
  | _ => none

def isHigh (n : ℕ) : Bool := 0xD800 ≤ n && n ≤ 0xDBFF

def isLow (n : ℕ) : Bool := 0xDC00 ≤ n && n ≤ 0xDFFF

/-- The rest of an escape behind its `u`: a code unit, or a pair of surrogates. -/
def readUnicode (s : CStr) : Option (CStr × CStr) :=
  match readHex s with
  | none => none
  | some (n, s) =>
    if isHigh n then
      match s with
      | '\\' :: 'u' :: s =>
        match readHex s with
        | some (m, s) =>
          if isLow m then
            some (utf8 (Char.ofNat (0x10000 + (n - 0xD800) * 0x400 + (m - 0xDC00))), s)
          else none
        | none => none
      | _ => none
    else if isLow n then none
    else some (utf8 (Char.ofNat n), s)

/-- One character of a string, written as it is or escaped: its bytes, and what follows. -/
def readItem : CStr → Option (CStr × CStr)
  | '\\' :: 'u' :: s => readUnicode s
  | '\\' :: e :: s => (escape e).map (fun c => ([c], s))
  | c :: s => if isPlain c then some ([c], s) else none
  | [] => none

/-- The text of a string behind its opening quote, and what follows the closing one. -/
def readChars : ℕ → CStr → Option (CStr × CStr)
  | 0, _ => none
  | n + 1, s =>
    match s with
    | '"' :: s => some ([], s)
    | s =>
      match readItem s with
      | some (u, s) => (readChars n s).map (fun p => (u ++ p.1, p.2))
      | none => none

/-! ### Numbers -/

/-- At least one digit, and what follows the digits. -/
def skipDigits (s : CStr) : Option CStr :=
  if (s.takeWhile Char.isDigit) = [] then none else some (s.dropWhile Char.isDigit)

/-- The integer part: no digit follows a leading zero. -/
def skipInt : CStr → Option CStr
  | '0' :: s => some s
  | s => skipDigits s

def skipFraction : CStr → Option CStr
  | '.' :: s => skipDigits s
  | s => some s

def skipSign : CStr → CStr
  | '+' :: s => s
  | '-' :: s => s
  | s => s

def skipExponent : CStr → Option CStr
  | c :: s => if c = 'e' ∨ c = 'E' then skipDigits (skipSign s) else some (c :: s)
  | [] => some []

/-- What follows a number. -/
def skipNumber (s : CStr) : Option CStr :=
  let s := match s with
    | '-' :: s => s
    | s => s
  (skipInt s).bind (fun s => (skipFraction s).bind skipExponent)

/-! ### Documents -/

def isWs (c : Char) : Bool := c = ' ' || c = '\t' || c = '\n' || c = '\r'

def skipWs (s : CStr) : CStr := s.dropWhile isWs

/-- What follows a colon. -/
def readColon : CStr → Option CStr
  | ':' :: s => some (skipWs s)
  | _ => none

/-- The key of a member with its colon, and the start of the value. -/
def readKey (n : ℕ) : CStr → Option (CStr × CStr)
  | '"' :: s => (readChars n s).bind (fun p => (readColon (skipWs p.2)).map (fun s => (p.1, s)))
  | _ => none

mutual

/-- A value, and what follows. -/
def readValue : ℕ → CStr → Option (Value × CStr)
  | 0, _ => none
  | n + 1, s =>
    match s with
    | '"' :: s => (readChars n s).map (fun p => (.str p.1, p.2))
    | '\x7b' :: s =>
      match skipWs s with
      | '\x7d' :: s => some (.obj [], s)
      | s => (readMembers n s).map (fun p => (.obj p.1, p.2))
    | '[' :: s =>
      match skipWs s with
      | ']' :: s => some (.arr [], s)
      | s => (readElements n s).map (fun p => (.arr p.1, p.2))
    | 't' :: 'r' :: 'u' :: 'e' :: s => some (.bool true, s)
    | 'f' :: 'a' :: 'l' :: 's' :: 'e' :: s => some (.bool false, s)
    | 'n' :: 'u' :: 'l' :: 'l' :: s => some (.null, s)
    | s => (skipNumber s).map (fun r => (.num (s.take (s.length - r.length)), r))

/-- The members of an object, and what follows its closing brace. -/
def readMembers : ℕ → CStr → Option (List (CStr × Value) × CStr)
  | 0, _ => none
  | n + 1, s =>
    match readKey n s with
    | none => none
    | some (key, s) =>
      match readValue n s with
      | none => none
      | some (v, s) =>
        match skipWs s with
        | ',' :: s => (readMembers n (skipWs s)).map (fun p => ((key, v) :: p.1, p.2))
        | '\x7d' :: s => some ([(key, v)], s)
        | _ => none

/-- The elements of an array, and what follows its closing bracket. -/
def readElements : ℕ → CStr → Option (List Value × CStr)
  | 0, _ => none
  | n + 1, s =>
    match readValue n s with
    | none => none
    | some (v, s) =>
      match skipWs s with
      | ',' :: s => (readElements n (skipWs s)).map (fun p => (v :: p.1, p.2))
      | ']' :: s => some ([v], s)
      | _ => none

end

/-- The value of a text that is one value with white space around it. -/
def readText (s : CStr) : Option Value :=
  match readValue (s.length + 1) (skipWs s) with
  | some (v, rest) => if skipWs rest = [] then some v else none
  | none => none

/-- The bytes are a JSON document for the object with these members. -/
def IsObject (s : CStr) (members : List (CStr × Value)) : Prop :=
  IsUtf8 s ∧ readText s = some (.obj members)

end Json

end CLib
