import ShieldedPool.Text.Chars
import ShieldedPool.Text.Hex

namespace ShieldedPool.Http

inductive HostName where
  | name (text : List Char)
  | address (n : Nat)
  deriving DecidableEq, Repr

namespace HostName

def variants : List (Nat × Nat × Char) := [
    (0xaa, 0xaa, 'a'), (0xb2, 0xb3, '2'), (0xb9, 0xb9, '1'), (0xba, 0xba, 'o'),
    (0x17f, 0x17f, 's'), (0x2b0, 0x2b0, 'h'), (0x2b2, 0x2b2, 'j'), (0x2b3, 0x2b3, 'r'),
    (0x2b7, 0x2b7, 'w'), (0x2b8, 0x2b8, 'y'), (0x2e1, 0x2e1, 'l'), (0x2e2, 0x2e2, 's'),
    (0x2e3, 0x2e3, 'x'), (0x1d2c, 0x1d2c, 'a'), (0x1d2e, 0x1d2e, 'b'), (0x1d30, 0x1d31, 'd'),
    (0x1d33, 0x1d3a, 'g'), (0x1d3c, 0x1d3c, 'o'), (0x1d3e, 0x1d3e, 'p'), (0x1d3f, 0x1d3f, 'r'),
    (0x1d40, 0x1d41, 't'), (0x1d42, 0x1d42, 'w'), (0x1d43, 0x1d43, 'a'), (0x1d47, 0x1d47, 'b'),
    (0x1d48, 0x1d49, 'd'), (0x1d4d, 0x1d4d, 'g'), (0x1d4f, 0x1d4f, 'k'), (0x1d50, 0x1d50, 'm'),
    (0x1d52, 0x1d52, 'o'), (0x1d56, 0x1d56, 'p'), (0x1d57, 0x1d58, 't'), (0x1d5b, 0x1d5b, 'v'),
    (0x1d62, 0x1d62, 'i'), (0x1d63, 0x1d63, 'r'), (0x1d64, 0x1d65, 'u'), (0x1d9c, 0x1d9c, 'c'),
    (0x1da0, 0x1da0, 'f'), (0x1dbb, 0x1dbb, 'z'), (0x2070, 0x2070, '0'), (0x2071, 0x2071, 'i'),
    (0x2074, 0x2079, '4'), (0x207f, 0x207f, 'n'), (0x2080, 0x2089, '0'), (0x2090, 0x2090, 'a'),
    (0x2091, 0x2091, 'e'), (0x2092, 0x2092, 'o'), (0x2093, 0x2093, 'x'), (0x2095, 0x2095, 'h'),
    (0x2096, 0x2099, 'k'), (0x209a, 0x209a, 'p'), (0x209b, 0x209c, 's'), (0x2102, 0x2102, 'c'),
    (0x210a, 0x210b, 'g'), (0x210c, 0x210c, 'h'), (0x210d, 0x210d, 'h'), (0x210e, 0x210e, 'h'),
    (0x2110, 0x2110, 'i'), (0x2111, 0x2111, 'i'), (0x2112, 0x2112, 'l'), (0x2113, 0x2113, 'l'),
    (0x2115, 0x2115, 'n'), (0x2119, 0x211b, 'p'), (0x211c, 0x211c, 'r'), (0x211d, 0x211d, 'r'),
    (0x2124, 0x2124, 'z'), (0x2128, 0x2128, 'z'), (0x212a, 0x212a, 'k'), (0x212c, 0x212d, 'b'),
    (0x212f, 0x212f, 'e'), (0x2130, 0x2131, 'e'), (0x2133, 0x2133, 'm'), (0x2134, 0x2134, 'o'),
    (0x2139, 0x2139, 'i'), (0x2145, 0x2145, 'd'), (0x2146, 0x2147, 'd'), (0x2148, 0x2149, 'i'),
    (0x2160, 0x2160, 'i'), (0x2164, 0x2164, 'v'), (0x2169, 0x2169, 'x'), (0x216c, 0x216c, 'l'),
    (0x216d, 0x216e, 'c'), (0x216f, 0x216f, 'm'), (0x2170, 0x2170, 'i'), (0x2174, 0x2174, 'v'),
    (0x2179, 0x2179, 'x'), (0x217c, 0x217c, 'l'), (0x217d, 0x217e, 'c'), (0x217f, 0x217f, 'm'),
    (0x2460, 0x2468, '1'), (0x24b6, 0x24cf, 'a'), (0x24d0, 0x24e9, 'a'), (0x24ea, 0x24ea, '0'),
    (0x2c7c, 0x2c7c, 'j'), (0x2c7d, 0x2c7d, 'v'), (0xa7f2, 0xa7f2, 'c'), (0xa7f3, 0xa7f3, 'f'),
    (0xa7f4, 0xa7f4, 'q'), (0xff10, 0xff19, '0'), (0xff21, 0xff3a, 'a'), (0xff41, 0xff5a, 'a'),
    (0x107a5, 0x107a5, 'q'), (0x1ccd6, 0x1ccef, 'a'), (0x1ccf0, 0x1ccf9, '0'),
    (0x1d400, 0x1d419, 'a'), (0x1d41a, 0x1d433, 'a'), (0x1d434, 0x1d44d, 'a'),
    (0x1d44e, 0x1d454, 'a'), (0x1d456, 0x1d467, 'i'), (0x1d468, 0x1d481, 'a'),
    (0x1d482, 0x1d49b, 'a'), (0x1d49c, 0x1d49c, 'a'), (0x1d49e, 0x1d49f, 'c'),
    (0x1d4a2, 0x1d4a2, 'g'), (0x1d4a5, 0x1d4a6, 'j'), (0x1d4a9, 0x1d4ac, 'n'),
    (0x1d4ae, 0x1d4b5, 's'), (0x1d4b6, 0x1d4b9, 'a'), (0x1d4bb, 0x1d4bb, 'f'),
    (0x1d4bd, 0x1d4c3, 'h'), (0x1d4c5, 0x1d4cf, 'p'), (0x1d4d0, 0x1d4e9, 'a'),
    (0x1d4ea, 0x1d503, 'a'), (0x1d504, 0x1d505, 'a'), (0x1d507, 0x1d50a, 'd'),
    (0x1d50d, 0x1d514, 'j'), (0x1d516, 0x1d51c, 's'), (0x1d51e, 0x1d537, 'a'),
    (0x1d538, 0x1d539, 'a'), (0x1d53b, 0x1d53e, 'd'), (0x1d540, 0x1d544, 'i'),
    (0x1d546, 0x1d546, 'o'), (0x1d54a, 0x1d550, 's'), (0x1d552, 0x1d56b, 'a'),
    (0x1d56c, 0x1d585, 'a'), (0x1d586, 0x1d59f, 'a'), (0x1d5a0, 0x1d5b9, 'a'),
    (0x1d5ba, 0x1d5d3, 'a'), (0x1d5d4, 0x1d5ed, 'a'), (0x1d5ee, 0x1d607, 'a'),
    (0x1d608, 0x1d621, 'a'), (0x1d622, 0x1d63b, 'a'), (0x1d63c, 0x1d655, 'a'),
    (0x1d656, 0x1d66f, 'a'), (0x1d670, 0x1d689, 'a'), (0x1d68a, 0x1d6a3, 'a'),
    (0x1d7ce, 0x1d7d7, '0'), (0x1d7d8, 0x1d7e1, '0'), (0x1d7e2, 0x1d7eb, '0'),
    (0x1d7ec, 0x1d7f5, '0'), (0x1d7f6, 0x1d7ff, '0'), (0x1f12b, 0x1f12b, 'c'),
    (0x1f12c, 0x1f12c, 'r'), (0x1f130, 0x1f149, 'a'), (0x1fbf0, 0x1fbf9, '0')]

def numerals : List (Nat × Nat × Nat) := [
    (0x2469, 0x2473, 10), (0x3251, 0x325f, 21), (0x32b1, 0x32bf, 36)]

def ligatures : List (Nat × String) := [
    (0x3388, "cal"), (0xfb00, "ff"), (0xfb01, "fi"), (0xfb02, "fl"), (0xfb03, "ffi"),
    (0xfb04, "ffl"), (0xfb05, "st"), (0xfb06, "st")]

def ignored : List (Nat × Nat) := [
    (0xad, 0xad), (0x34f, 0x34f), (0x180b, 0x180d), (0x180f, 0x180f), (0x200b, 0x200b),
    (0x2060, 0x2060), (0x2064, 0x2064), (0xfe00, 0xfe0f), (0xfeff, 0xfeff), (0x1bca0, 0x1bca3),
    (0xe0100, 0xe01ef)]

def dots : List Nat := [0x3002, 0xff0e, 0xff61]

def forbidden : List Char := " \"#%/:<>?@[\\]^|".toList

def plain? (c : Char) : Option (List Char) :=
  let n := c.toNat
  let within (least greatest : Nat) : Bool := least ≤ n && n ≤ greatest
  if n < 0x80 then
    if n ≤ 0x20 ∨ n = 0x7f ∨ forbidden.contains c then none else some [c.toLower]
  else if ignored.any fun r => within r.1 r.2 then some []
  else if dots.contains n then some ['.']
  else
    match variants.find? fun r => within r.1 r.2.1 with
    | some (least, _, first) => some [Char.ofNat (first.toNat + (n - least))]
    | none =>
      match numerals.find? fun r => within r.1 r.2.1 with
      | some (least, _, first) => some (Text.Decimal.render (first + (n - least)))
      | none => (ligatures.lookup n).map String.toList

def plainName? (written : List Char) : Option (List Char) := do
  let text ← Text.ofUtf8? (Text.Percent.decode (Text.utf8 (String.ofList written)))
  let parts ← text.toList.mapM plain?
  return parts.flatten

def number? (cs : List Char) : Option Nat :=
  let value (base : Nat) (ds : List Char) : Option Nat :=
    ds.foldlM (fun n c =>
      match Text.Hex.digitValue? (UInt8.ofNat c.toNat) with
      | some d => if d.toNat < base then some (n * base + d.toNat) else none
      | none => none) 0
  match cs with
  | [] => none
  | '0' :: 'x' :: rest => value 16 rest
  | '0' :: d :: rest => value 8 (d :: rest)
  | cs => value 10 cs

def labels (cs : List Char) : List (List Char) :=
  let parts := Text.splitAt '.' cs
  if 1 < parts.length ∧ parts.getLast? = some [] then parts.dropLast else parts

def endsInNumber (cs : List Char) : Bool :=
  match (labels cs).getLast? with
  | none => false
  | some label => (!label.isEmpty && label.all Text.Decimal.isDigit) || (number? label).isSome

def address? (cs : List Char) : Option Nat := do
  let numbers ← (labels cs).mapM number?
  let last ← numbers.getLast?
  let leading := numbers.dropLast
  let rest := 4 - leading.length
  if 3 < leading.length ∨ leading.any (255 < ·) ∨ Bytes.capacity rest ≤ last then none
  else
    let high := leading.foldl (fun n b => n * 256 + b) 0
    return high * Bytes.capacity rest + last

def parse? (written : List Char) : Option HostName := do
  let name ← plainName? written
  if name.isEmpty then none
  else if endsInNumber name then (address? name).map .address
  else return .name name

def addressOf (a b c d : Nat) : Nat := ((a * 256 + b) * 256 + c) * 256 + d

def isOwn (h : HostName) : Bool :=
  h = .name "localhost".toList || h = .address (addressOf 127 0 0 1)

end HostName

end ShieldedPool.Http
