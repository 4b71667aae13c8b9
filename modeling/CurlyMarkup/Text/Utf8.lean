import CurlyMarkup.Text.Printable
set_option autoImplicit false

namespace CurlyMarkup

abbrev Bytes := List UInt8

inductive DecodeFault where
  | start | continuation | truncated
  deriving DecidableEq, Repr

def DecodeFault.reason : DecodeFault → Text
  | .start => "invalid start byte"
  | .continuation => "invalid continuation byte"
  | .truncated => "unexpected end of data"

/-- The bytes from `first` to `last` are no character; `byte` is the first of them. -/
structure DecodeError where
  byte : Nat
  first : Nat
  last : Nat
  fault : DecodeFault
  deriving DecidableEq, Repr

def DecodeError.message (e : DecodeError) : Text :=
  if e.first = e.last then
    ([ "'utf-8' codec can't decode byte 0x", hexDigits 2 e.byte, " in position ",
      Text.ofNat e.first, ": ", e.fault.reason ] : List Text).flatten
  else
    ([ "'utf-8' codec can't decode bytes in position ", Text.ofNat e.first, "-",
      Text.ofNat e.last, ": ", e.fault.reason ] : List Text).flatten

/-- A character of several bytes, read in part: its value and its length so far, the range of its
next byte, and how many come after that one. -/
structure PartialChar where
  value : Nat
  first : Nat
  length : Nat
  low : Nat
  high : Nat
  more : Nat
  deriving DecidableEq, Repr

/-- A character of several bytes after its first. -/
def PartialChar.begin? (b : Nat) : Option PartialChar :=
  if b < 0xc2 then none
  else if b < 0xe0 then some ⟨b % 0x20, b, 1, 0x80, 0xbf, 0⟩
  else if b = 0xe0 then some ⟨b % 0x10, b, 1, 0xa0, 0xbf, 1⟩
  else if b = 0xed then some ⟨b % 0x10, b, 1, 0x80, 0x9f, 1⟩
  else if b < 0xf0 then some ⟨b % 0x10, b, 1, 0x80, 0xbf, 1⟩
  else if b = 0xf0 then some ⟨b % 8, b, 1, 0x90, 0xbf, 2⟩
  else if b < 0xf4 then some ⟨b % 8, b, 1, 0x80, 0xbf, 2⟩
  else if b = 0xf4 then some ⟨b % 8, b, 1, 0x80, 0x8f, 2⟩
  else none

/-- The value after another byte. -/
def PartialChar.next (p : PartialChar) (b : Nat) : Nat := 0x40*p.value+b%0x40

/-- Decodes from the position `k`, which may be inside a character. Bytes that are no character are
found out at the first one that cannot go on, and those before it count as the error. -/
def decodeFrom (k : Nat) (part : Option PartialChar) : Bytes → Except DecodeError Text
  | [] =>
    match part with
    | none => .ok []
    | some p => .error ⟨p.first, k-p.length, k-1, .truncated⟩
  | x :: bs =>
    let b := x.toNat
    match part with
    | none =>
      if b < 0x80 then (decodeFrom (k+1) none bs).map (Char.ofNat b :: ·)
      else match PartialChar.begin? b with
        | none => .error ⟨b, k, k, .start⟩
        | some p => decodeFrom (k+1) (some p) bs
    | some p =>
      if b < p.low || p.high < b then .error ⟨p.first, k-p.length, k-1, .continuation⟩
      else match p.more with
        | 0 => (decodeFrom (k+1) none bs).map (Char.ofNat (p.next b) :: ·)
        | more+1 => decodeFrom (k+1) (some ⟨p.next b, p.first, p.length+1, 0x80, 0xbf, more⟩) bs

def decodeUtf8 (bs : Bytes) : Except DecodeError Text := decodeFrom 0 none bs

/-- Every way to end a line becomes a line feed. -/
def normalizeLines : Text → Text
  | '\r' :: '\n' :: t => '\n' :: normalizeLines t
  | '\r' :: t => '\n' :: normalizeLines t
  | c :: t => c :: normalizeLines t
  | [] => []

/-- Reads bytes as a text file. -/
def readUtf8 (bs : Bytes) : Except DecodeError Text := (decodeUtf8 bs).map normalizeLines

end CurlyMarkup
