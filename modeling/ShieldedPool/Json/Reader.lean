import ShieldedPool.Text.Hex
import ShieldedPool.Text.Utf8

/-!
Reading JSON text straight into records. Text that is no JSON is told apart from JSON of the
wrong shape, and of two faults the one that stands first in the text is reported. A record may
be written as an object, whose unknown fields are skipped, or as an array of its fields in
order.
-/

namespace ShieldedPool.Json

inductive Fault where
  | malformed
  | wrongShape
  deriving DecidableEq, Repr

abbrev Reader (α : Type) := Bytes → Except Fault (α × Bytes)

def isSpace (b : UInt8) : Bool := b == 0x20 || b == 0x0a || b == 0x09 || b == 0x0d

def skipSpace (bs : Bytes) : Bytes := bs.dropWhile isSpace

def isDigit (b : UInt8) : Bool := 48 ≤ b && b ≤ 57

def hexValue (ds : Bytes) : Option Nat :=
  ds.foldl
    (fun n d => match n, Text.Hex.digitValue? d with
      | some n, some v => some (16 * n + v.toNat)
      | _, _ => none)
    (some 0)

def escapedByte (b : UInt8) : Option UInt8 :=
  match b.toNat with
  | 0x22 => some 0x22
  | 0x5c => some 0x5c
  | 0x2f => some 0x2f
  | 0x62 => some 0x08
  | 0x66 => some 0x0c
  | 0x6e => some 0x0a
  | 0x72 => some 0x0d
  | 0x74 => some 0x09
  | _ => none

def isHighSurrogate (n : Nat) : Bool := 0xd800 ≤ n && n < 0xdc00

def isLowSurrogate (n : Nat) : Bool := 0xdc00 ≤ n && n < 0xe000

def pushChar (n : Nat) (acc : Bytes) : Bytes :=
  (String.utf8EncodeChar (Char.ofNat n)).reverse ++ acc

def scanString (acc : Bytes) : Bytes → Except Fault (Bytes × Bytes)
  | [] => .error .malformed
  | b :: rest =>
    if b == 0x22 then .ok (acc.reverse, rest)
    else if b == 0x5c then
      match rest with
      | [] => .error .malformed
      | e :: rest =>
        if e == 0x75 then
          match rest with
          | h1 :: h2 :: h3 :: h4 :: rest =>
            match hexValue [h1, h2, h3, h4] with
            | none => .error .malformed
            | some high =>
              if isLowSurrogate high then .error .malformed
              else if isHighSurrogate high then
                match rest with
                | s :: u :: l1 :: l2 :: l3 :: l4 :: rest =>
                  match hexValue [l1, l2, l3, l4] with
                  | none => .error .malformed
                  | some low =>
                    if s == 0x5c && u == 0x75 && isLowSurrogate low then
                      scanString
                        (pushChar (0x10000 + (high - 0xd800) * 0x400 + (low - 0xdc00)) acc) rest
                    else .error .malformed
                | _ => .error .malformed
              else scanString (pushChar high acc) rest
          | _ => .error .malformed
        else
          match escapedByte e with
          | none => .error .malformed
          | some c => scanString (c :: acc) rest
    else if b < 0x20 then .error .malformed
    else scanString (b :: acc) rest

def skipString : Bytes → Except Fault Bytes
  | [] => .error .malformed
  | b :: rest =>
    if b == 0x22 then .ok rest
    else if b == 0x5c then
      match rest with
      | [] => .error .malformed
      | e :: rest =>
        if e == 0x75 then
          match rest with
          | h1 :: h2 :: h3 :: h4 :: rest =>
            match hexValue [h1, h2, h3, h4] with
            | none => .error .malformed
            | some _ => skipString rest
          | _ => .error .malformed
        else
          match escapedByte e with
          | none => .error .malformed
          | some _ => skipString rest
    else if b < 0x20 then .error .malformed
    else skipString rest

def stringBody (bs : Bytes) : Except Fault (String × Bytes) :=
  match scanString [] bs with
  | .error e => .error e
  | .ok (raw, rest) =>
    match Text.ofUtf8? raw with
    | none => .error .malformed
    | some s => .ok (s, rest)

def word (name : String) (bs : Bytes) : Except Fault Bytes :=
  let w := Text.utf8 name
  if w.isPrefixOf bs then .ok (bs.drop w.length) else .error .malformed

structure Numeral where
  negative : Bool
  whole : Bytes
  fraction : Option Bytes
  exponent : Option (Bool × Bytes)

def digits (bs : Bytes) : Bytes × Bytes := (bs.takeWhile isDigit, bs.dropWhile isDigit)

def fractionPart (bs : Bytes) : Except Fault (Option Bytes × Bytes) :=
  match bs with
  | b :: rest =>
    if b == 0x2e then
      match digits rest with
      | ([], _) => .error .malformed
      | (ds, rest) => .ok (some ds, rest)
    else .ok (none, bs)
  | [] => .ok (none, [])

def exponentPart (bs : Bytes) : Except Fault (Option (Bool × Bytes) × Bytes) :=
  match bs with
  | b :: rest =>
    if b == 0x65 || b == 0x45 then
      let (negative, rest) := match rest with
        | s :: r => if s == 0x2d then (true, r) else if s == 0x2b then (false, r) else (false, rest)
        | [] => (false, [])
      match digits rest with
      | ([], _) => .error .malformed
      | (ds, rest) => .ok (some (negative, ds), rest)
    else .ok (none, bs)
  | [] => .ok (none, [])

def wholePart (bs : Bytes) : Except Fault (Bytes × Bytes) :=
  match digits bs with
  | ([], _) => .error .malformed
  | (d :: ds, rest) =>
    if d == 0x30 && !ds.isEmpty then .error .malformed else .ok (d :: ds, rest)

def numeral (bs : Bytes) : Except Fault (Numeral × Bytes) := do
  let (negative, bs) := match bs with
    | b :: rest => if b == 0x2d then (true, rest) else (false, bs)
    | [] => (false, [])
  let (whole, bs) ← wholePart bs
  let (fraction, bs) ← fractionPart bs
  let (exponent, bs) ← exponentPart bs
  return (⟨negative, whole, fraction, exponent⟩, bs)

def digitOf (b : UInt8) : Nat := b.toNat - 48

def appendDigits (n : Nat) : Bytes → Nat × Bytes
  | [] => (n, [])
  | d :: ds =>
    if n * 10 + digitOf d < UInt64.size then appendDigits (n * 10 + digitOf d) ds
    else (n, d :: ds)

def exponentLimit : Nat := 0x80000000

def exponentValue (ds : Bytes) : Nat :=
  ds.foldl (fun n d => min (n * 10 + digitOf d) exponentLimit) 0

def roundToDouble (n : Nat) : Nat :=
  let extra := n.log2 - 52
  let unit := 1 <<< extra
  let q := n / unit
  let twice := 2 * (n % unit)
  (if unit < twice || (twice = unit && q % 2 = 1) then q + 1 else q) * unit

def doubleLimit : Nat := (1 <<< 1024) - (1 <<< 970)

/-- Whether a numeral lies within the range of double precision, when its significand is what
fits in a word and is scaled by its power of ten in one step. -/
def Numeral.isFinite (n : Numeral) : Bool :=
  let fraction := n.fraction.getD []
  let (m, dropped) := appendDigits 0 n.whole
  let (m, unused) := appendDigits m fraction
  let written : Int := match n.exponent with
    | none => 0
    | some (true, ds) => -(exponentValue ds : Int)
    | some (false, ds) => exponentValue ds
  let power := written + dropped.length + unused.length - fraction.length
  if m = 0 || power < 0 then true
  else if 308 < power then false
  else roundToDouble m * roundToDouble (Text.Decimal.scale power.toNat) < doubleLimit

def Numeral.isInteger (n : Numeral) : Bool := n.fraction.isNone && n.exponent.isNone

def Numeral.uint64? (n : Numeral) : Option UInt64 :=
  match appendDigits 0 n.whole with
  | (v, []) => if n.isInteger && !n.negative then some (UInt64.ofNat v) else none
  | _ => none

def mismatch (bs : Bytes) : Fault :=
  let outcome {α : Type} : Except Fault α → Fault
    | .ok _ => .wrongShape
    | .error e => e
  match bs with
  | [] => .malformed
  | b :: rest =>
    if b == 0x6e then outcome (word "null" bs)
    else if b == 0x74 then outcome (word "true" bs)
    else if b == 0x66 then outcome (word "false" bs)
    else if b == 0x22 then outcome (stringBody rest)
    else if b == 0x5b || b == 0x7b then .wrongShape
    else if b == 0x2d || isDigit b then
      match numeral bs with
      | .error e => e
      | .ok (n, _) => if n.isFinite then .wrongShape else .malformed
    else .malformed

def readText : Reader String := fun bs =>
  match skipSpace bs with
  | [] => .error .malformed
  | b :: rest => if b == 0x22 then stringBody rest else .error (mismatch (b :: rest))

def readUInt64 : Reader UInt64 := fun bs =>
  match skipSpace bs with
  | [] => .error .malformed
  | b :: rest =>
    if b == 0x2d || isDigit b then
      match numeral (b :: rest) with
      | .error e => .error e
      | .ok (n, after) =>
        match n.uint64? with
        | some v => .ok (v, after)
        | none => .error (if n.isFinite then .wrongShape else .malformed)
    else .error (mismatch (b :: rest))

def readOptional {α : Type} (item : Reader α) : Reader (Option α) := fun bs =>
  match skipSpace bs with
  | b :: rest =>
    if b == 0x6e then (word "null" (b :: rest)).map fun after => (none, after)
    else (item (b :: rest)).map fun (x, after) => (some x, after)
  | [] => .error .malformed

def nextItem (first : Bool) (bs : Bytes) : Except Fault (Option Bytes × Bytes) :=
  match skipSpace bs with
  | [] => .error .malformed
  | b :: rest =>
    if b == 0x5d then .ok (none, rest)
    else if first then .ok (some (b :: rest), [])
    else if b == 0x2c then
      match skipSpace rest with
      | [] => .error .malformed
      | c :: rest => if c == 0x5d then .error .malformed else .ok (some (c :: rest), [])
    else .error .malformed

def readItems {α : Type} (item : Reader α) : Nat → Bool → Bytes →
    Except Fault (List α × Bytes)
  | 0, _, _ => .error .malformed
  | fuel + 1, first, bs =>
    match nextItem first bs with
    | .error e => .error e
    | .ok (none, rest) => .ok ([], rest)
    | .ok (some bs, _) =>
      match item bs with
      | .error e => .error e
      | .ok (x, rest) =>
        match readItems item fuel false rest with
        | .error e => .error e
        | .ok (xs, rest) => .ok (x :: xs, rest)

def readList {α : Type} (item : Reader α) : Reader (List α) := fun bs =>
  match skipSpace bs with
  | [] => .error .malformed
  | b :: rest =>
    if b == 0x5b then readItems item (rest.length + 1) true rest
    else .error (mismatch (b :: rest))

def skipKey (bs : Bytes) : Except Fault Bytes :=
  match skipSpace bs with
  | [] => .error .malformed
  | b :: rest =>
    if b == 0x22 then
      match skipString rest with
      | .error e => .error e
      | .ok rest =>
        match skipSpace rest with
        | [] => .error .malformed
        | c :: rest => if c == 0x3a then .ok rest else .error .malformed
    else .error .malformed

inductive Frame where
  | array
  | object

def Frame.close : Frame → UInt8
  | .array => 0x5d
  | .object => 0x7d

def skipScalar (bs : Bytes) : Except Fault Bytes :=
  match bs with
  | [] => .error .malformed
  | b :: rest =>
    if b == 0x6e then word "null" bs
    else if b == 0x74 then word "true" bs
    else if b == 0x66 then word "false" bs
    else if b == 0x22 then skipString rest
    else if b == 0x2d || isDigit b then (numeral bs).map Prod.snd
    else .error .malformed

def leaveFrames : Nat → List Frame → Bytes → Except Fault (List Frame × Bytes)
  | _, [], bs => .ok ([], bs)
  | 0, _ :: _, _ => .error .malformed
  | fuel + 1, frame :: frames, bs =>
    match skipSpace bs with
    | [] => .error .malformed
    | b :: rest =>
      if b == frame.close then leaveFrames fuel frames rest
      else if b == 0x2c then
        match frame with
        | .array => .ok (frame :: frames, rest)
        | .object =>
          match skipKey rest with
          | .error e => .error e
          | .ok rest => .ok (frame :: frames, rest)
      else .error .malformed

def skipValues : Nat → List Frame → Bytes → Except Fault Bytes
  | 0, _, _ => .error .malformed
  | fuel + 1, frames, bs =>
    let after (frames : List Frame) (bs : Bytes) : Except Fault Bytes :=
      match leaveFrames (bs.length + 1) frames bs with
      | .error e => .error e
      | .ok ([], rest) => .ok rest
      | .ok (frames, rest) => skipValues fuel frames rest
    match skipSpace bs with
    | [] => .error .malformed
    | b :: rest =>
      if b == 0x5b then
        match skipSpace rest with
        | [] => .error .malformed
        | c :: inner =>
          if c == 0x5d then after frames inner
          else skipValues fuel (.array :: frames) (c :: inner)
      else if b == 0x7b then
        match skipSpace rest with
        | [] => .error .malformed
        | c :: inner =>
          if c == 0x7d then after frames inner
          else
            match skipKey (c :: inner) with
            | .error e => .error e
            | .ok rest => skipValues fuel (.object :: frames) rest
      else
        match skipScalar (b :: rest) with
        | .error e => .error e
        | .ok rest => after frames rest

def skipValue (bs : Bytes) : Except Fault Bytes := skipValues (bs.length + 1) [] bs

structure Field (α : Type) where
  name : String
  read : Reader α
  default : Option α := none

def complete {α : Type} (fields : List (Field α)) (found : List (String × α)) :
    Except Fault (List (String × α)) :=
  fields.mapM fun f =>
    match found.lookup f.name, f.default with
    | some x, _ => .ok (f.name, x)
    | none, some x => .ok (f.name, x)
    | none, none => .error .wrongShape

def colon (bs : Bytes) : Except Fault Bytes :=
  match skipSpace bs with
  | b :: rest => if b == 0x3a then .ok rest else .error .malformed
  | [] => .error .malformed

def nextKey (first : Bool) (bs : Bytes) : Except Fault (Option Bytes × Bytes) :=
  let key (bs : Bytes) : Except Fault (Option Bytes × Bytes) :=
    match bs with
    | b :: rest => if b == 0x22 then .ok (some rest, []) else .error .malformed
    | [] => .error .malformed
  match skipSpace bs with
  | [] => .error .malformed
  | b :: rest =>
    if b == 0x7d then .ok (none, rest)
    else if first then key (b :: rest)
    else if b == 0x2c then key (skipSpace rest)
    else .error .malformed

def readEntries {α : Type} (fields : List (Field α)) : Nat → Bool → List (String × α) → Bytes →
    Except Fault (List (String × α) × Bytes)
  | 0, _, _, _ => .error .malformed
  | fuel + 1, first, found, bs =>
    match nextKey first bs with
    | .error e => .error e
    | .ok (none, rest) => (complete fields found).map fun fs => (fs, rest)
    | .ok (some bs, _) =>
      match stringBody bs with
      | .error e => .error e
      | .ok (name, rest) =>
        match fields.find? (·.name == name) with
        | none =>
          match colon rest with
          | .error e => .error e
          | .ok rest =>
            match skipValue rest with
            | .error e => .error e
            | .ok rest => readEntries fields fuel false found rest
        | some f =>
          if found.any (·.1 == name) then .error .wrongShape
          else
            match colon rest with
            | .error e => .error e
            | .ok rest =>
              match f.read rest with
              | .error e => .error e
              | .ok (x, rest) => readEntries fields fuel false ((name, x) :: found) rest

def readPlaces {α : Type} : List (Field α) → Bool → Bytes →
    Except Fault (List (String × α) × Bytes)
  | [], first, bs =>
    match nextItem first bs with
    | .ok (none, rest) => .ok ([], rest)
    | _ => .error .malformed
  | f :: fields, first, bs =>
    match nextItem first bs with
    | .error e => .error e
    | .ok (none, rest) => (complete (f :: fields) []).map fun fs => (fs, rest)
    | .ok (some bs, _) =>
      match f.read bs with
      | .error e => .error e
      | .ok (x, rest) =>
        match readPlaces fields false rest with
        | .error e => .error e
        | .ok (xs, rest) => .ok ((f.name, x) :: xs, rest)

def readRecord {α : Type} (fields : List (Field α)) : Reader (List (String × α)) := fun bs =>
  match skipSpace bs with
  | [] => .error .malformed
  | b :: rest =>
    if b == 0x7b then readEntries fields (rest.length + 1) true [] rest
    else if b == 0x5b then readPlaces fields true rest
    else .error (mismatch (b :: rest))

def parse {α : Type} (r : Reader α) (bs : Bytes) : Except Fault α :=
  match r bs with
  | .error e => .error e
  | .ok (x, rest) => if (skipSpace rest).isEmpty then .ok x else .error .malformed

inductive Item where
  | absent
  | number (n : UInt64)
  | text (s : String)
  | texts (ss : List String)
  deriving DecidableEq, Repr

def Reader.map {α β : Type} (f : α → β) (r : Reader α) : Reader β := fun bs =>
  match r bs with
  | .error e => .error e
  | .ok (x, rest) => .ok (f x, rest)

def readNumber : Reader Item := Reader.map Item.number readUInt64

def readString : Reader Item := Reader.map Item.text readText

def readStrings : Reader Item := Reader.map Item.texts (readList readText)

def readNullable (item : Reader Item) : Reader Item :=
  Reader.map (fun x => x.getD .absent) (readOptional item)

abbrev Record := List (String × Item)

def Record.number (r : Record) (name : String) : Option UInt64 :=
  match r.lookup name with
  | some (.number n) => some n
  | _ => none

def Record.text (r : Record) (name : String) : String :=
  match r.lookup name with
  | some (.text s) => s
  | _ => ""

def Record.texts (r : Record) (name : String) : List String :=
  match r.lookup name with
  | some (.texts ss) => ss
  | _ => []

def readTexts (names : List String) : Reader (List (String × String)) :=
  readRecord (names.map fun name => { name, read := readText })

end ShieldedPool.Json
