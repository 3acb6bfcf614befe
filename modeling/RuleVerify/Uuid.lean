namespace RuleVerify

/-- A universally unique identifier. -/
structure Uuid where
  bits : BitVec 128
deriving DecidableEq, Repr

namespace Uuid

/-- The identifier of version four with the given sixteen bytes, of which six bits are fixed. -/
def ofRandom (bytes : List Nat) : Uuid :=
  let n := BitVec.ofNat 128 (bytes.foldl (fun n b => 256 * n + b) 0)
  let version := n &&& ~~~(0xF#128 <<< 76) ||| (0x4#128 <<< 76)
  ⟨version &&& ~~~(0x3#128 <<< 62) ||| (0x2#128 <<< 62)⟩

/-- The lengths of the groups that hyphens separate. -/
def groups : List Nat := [8, 4, 4, 4, 12]

/-- Cuts a text into pieces of the given lengths and drops the rest. -/
def cut : List Nat → List Char → List (List Char)
  | [], _ => []
  | n :: ns, cs => cs.take n :: cut ns (cs.drop n)

/-- Lower-case digits in groups. -/
def render (id : Uuid) : String :=
  let digits := Nat.toDigits 16 id.bits.toNat
  let padded := List.replicate (32 - digits.length) '0' ++ digits
  String.ofList (List.intercalate ['-'] (cut groups padded))

def digit? (c : Char) : Option Nat :=
  if '0' ≤ c && c ≤ '9' then some (c.toNat - '0'.toNat)
  else if 'a' ≤ c && c ≤ 'f' then some (c.toNat - 'a'.toNat + 10)
  else if 'A' ≤ c && c ≤ 'F' then some (c.toNat - 'A'.toNat + 10)
  else none

def ofDigits? (cs : List Char) : Option Uuid :=
  (cs.foldlM (fun n c => (digit? c).map (16 * n + ·)) 0).map fun n => ⟨BitVec.ofNat 128 n⟩

/-- The digits of a text in groups. -/
def ungroup? (cs : List Char) : Option (List Char) :=
  let pieces := cs.splitOn '-'
  if pieces.map List.length = groups then some pieces.flatten else none

/-- Reads 32 digits of either case, alone or in groups. Groups may stand in braces or behind the
    name of their kind. -/
def ofText? (text : String) : Option Uuid :=
  let cs := text.toList
  let kind := "urn:uuid:".toList
  if cs.length = 32 then ofDigits? cs
  else if cs.head? = some '\x7b' && cs.getLast? = some '\x7d' then
    ungroup? ((cs.drop 1).dropLast) >>= ofDigits?
  else if kind.isPrefixOf cs then ungroup? (cs.drop kind.length) >>= ofDigits?
  else ungroup? cs >>= ofDigits?

end Uuid

end RuleVerify
