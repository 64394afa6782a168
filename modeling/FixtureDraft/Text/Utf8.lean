/-!
# Reading UTF-8

A byte text is read one character at a time. Where no character stands, the fault says which
bytes form the longest beginning of one, and what is wrong with them. A text is read strictly
(`decode`), where the first fault ends the reading, or with a replacement character for each
fault (`decodeLossy`).
-/

namespace FixtureDraft.Text

/-- The bytes of a file or of a source text. -/
abbrev Bytes := List UInt8

/-- The bytes that write `s`. -/
def encode (s : String) : Bytes :=
  s.toUTF8.toList

/-- What is wrong with bytes that begin no character. -/
inductive Utf8Flaw
  | invalidStart
  | invalidContinuation
  | unexpectedEnd
deriving DecidableEq, Repr

/-- The first thing in a byte text. -/
inductive Utf8Item
  | char (c : Char) (width : Nat)
  | flaw (f : Utf8Flaw) (width : Nat)
deriving Repr

/-- The number of bytes that a character starting with `b` takes, if one can start so. -/
def Utf8Item.width? (b : UInt8) : Option Nat :=
  if b < 0x80 then some 1
  else if b < 0xC2 then none
  else if b < 0xE0 then some 2
  else if b < 0xF0 then some 3
  else if b < 0xF5 then some 4
  else none

/-- Whether `b` may follow the start byte `lead`. Overlong forms, surrogates and code points
beyond the last plane are ruled out here. -/
def mayFollow (lead b : UInt8) : Bool :=
  (if lead = 0xE0 then 0xA0 else if lead = 0xF0 then 0x90 else 0x80) ≤ b
    && b ≤ (if lead = 0xED then 0x9F else if lead = 0xF4 then 0x8F else 0xBF)

/-- How many of the bytes `bs` continue a character of start byte `lead`. -/
def continued (lead : UInt8) : Bytes → Nat
  | [] => 0
  | b :: bs =>
    if mayFollow lead b then 1 + (bs.takeWhile fun c => 0x80 ≤ c && c ≤ 0xBF).length else 0

/-- The code point written by a start byte and its continuation bytes. -/
def codePoint (width : Nat) (lead : UInt8) (more : Bytes) : Nat :=
  more.foldl (fun n b => n * 64 + b.toNat % 64)
    (lead.toNat % (if width = 2 then 32 else if width = 3 then 16 else 8))

/-- The first character of `b :: bs`, or the flaw there. -/
def firstItem (b : UInt8) (bs : Bytes) : Utf8Item :=
  match Utf8Item.width? b with
  | none => .flaw .invalidStart 1
  | some 1 => .char (Char.ofNat b.toNat) 1
  | some w =>
    let more := bs.take (w - 1)
    let good := continued b more
    if good = w - 1 then .char (Char.ofNat (codePoint w b more)) w
    else if good < more.length then .flaw .invalidContinuation (good + 1)
    else .flaw .unexpectedEnd (good + 1)

/-- Bytes that are no UTF-8: where the flaw is, and the value of its first byte. -/
structure Utf8Fault where
  byte : UInt8
  position : Nat
  width : Nat
  flaw : Utf8Flaw
deriving DecidableEq, Repr

/-- Reads on from the byte at `position`, past `skip` bytes of the character read last. -/
def decodeFrom (skip position : Nat) (read : List Char) : Bytes → Except Utf8Fault (List Char)
  | [] => .ok read.reverse
  | b :: bs =>
    match skip with
    | k + 1 => decodeFrom k (position + 1) read bs
    | 0 =>
      match firstItem b bs with
      | .char c w => decodeFrom (w - 1) (position + 1) (c :: read) bs
      | .flaw f w => .error ⟨b, position, w, f⟩

/-- The text that `bs` writes, or the first fault in it. -/
def decode (bs : Bytes) : Except Utf8Fault (List Char) :=
  decodeFrom 0 0 [] bs

/-- Reads on past `skip` bytes, with U+FFFD in the place of each flaw. -/
def decodeLossyFrom (skip : Nat) (read : List Char) : Bytes → List Char
  | [] => read.reverse
  | b :: bs =>
    match skip with
    | k + 1 => decodeLossyFrom k read bs
    | 0 =>
      match firstItem b bs with
      | .char c w => decodeLossyFrom (w - 1) (c :: read) bs
      | .flaw _ w => decodeLossyFrom (w - 1) ('\uFFFD' :: read) bs

/-- The text that `bs` writes, each flaw read as one U+FFFD. -/
def decodeLossy (bs : Bytes) : String :=
  String.ofList (decodeLossyFrom 0 [] bs)

/-- The same flaws end the strict reading and are replaced in the other: without one, both
read the same text. -/
theorem decodeLossyFrom_eq_of_decodeFrom {bs : Bytes} {cs read : List Char} {skip position : Nat}
    (h : decodeFrom skip position read bs = .ok cs) : decodeLossyFrom skip read bs = cs := by
  induction bs generalizing skip position read with
  | nil => cases skip <;> simpa [decodeFrom, decodeLossyFrom] using h
  | cons b bs ih =>
    cases skip with
    | succ k => exact ih (by simpa [decodeFrom] using h)
    | zero =>
      simp only [decodeFrom] at h
      simp only [decodeLossyFrom]
      split at h
      · exact ih h
      · cases h

/-- Line ends read in every form: `\r\n` and a lone `\r` become `\n`. -/
def joinLineEnds (cs : List Char) : List Char :=
  (cs.foldl (fun (out, afterReturn) c =>
    if c = '\r' then ('\n' :: out, true)
    else if c = '\n' && afterReturn then (out, false)
    else (c :: out, false)) (([] : List Char), false)).1.reverse

end FixtureDraft.Text
