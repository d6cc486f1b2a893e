import TcpSessions.Address.Inet
/-!
# Colon-separated addresses

Sixteen bytes as eight groups of sixteen bits. Writing shortens the first longest run of at
least two zero groups to a double colon and shows the last four bytes as a dotted quad when the
address embeds one. Reading accepts groups of one to four hexadecimal digits, at most one double
colon standing for at least one group, and a dotted quad in place of the last two groups.
-/
namespace TcpSessions.Address

/-- Sixteen-bit groups of packed bytes; a last odd byte is dropped. -/
def groupsOf : Bytes → List Nat
  | hi :: lo :: r => (hi.toNat * 256 + lo.toNat) :: groupsOf r
  | _ => []

def bytesOf : List Nat → Bytes
  | [] => []
  | g :: r => UInt8.ofNat (g / 256) :: UInt8.ofNat (g % 256) :: bytesOf r

def zeroRun : List Nat → Nat
  | 0 :: r => zeroRun r + 1
  | _ => 0

/-- Start and length of the first longest run of zero groups; `start` is the place of the head. -/
def longestZeros (start : Nat) : List Nat → Nat × Nat
  | [] => (start, 0)
  | g :: r =>
    let rest := longestZeros (start + 1) r
    if rest.2 ≤ zeroRun (g :: r) then (start, zeroRun (g :: r)) else rest

def groupsText (groups : List Nat) : List Char :=
  Text.join ':' (groups.map Text.hexDigits)

/-- The groups that stand before a dotted quad, when an address embeds one: six zero groups, or
five zero groups and one of ones, as the first longest run of zeros says. -/
def embedsQuad (groups : List Nat) (run : Nat × Nat) : Bool :=
  decide (run.1 = 0 ∧ (run.2 = 6 ∨ (run.2 = 5 ∧ groups[5]? = some 0xffff)))

def colonText (bytes : Bytes) : List Char :=
  let groups := groupsOf bytes
  let run := longestZeros 0 groups
  if run.2 < 2 then groupsText groups
  else if embedsQuad groups run then
    [':', ':'] ++ ((groups.take 6).drop run.2).flatMap (fun g => Text.hexDigits g ++ [':'])
      ++ quadText (bytes.drop 12)
  else
    groupsText (groups.take run.1) ++ [':', ':'] ++ groupsText (groups.drop (run.1 + run.2))

def readGroup? (s : List Char) : Option Nat :=
  if s.length ≤ 4 then Text.readHex? s else none

/-- Groups between colons; the last field may be a dotted quad, which makes two groups. -/
def readTail? : List (List Char) → Option (List Nat)
  | [] => some []
  | [f] =>
    match readGroup? f with
    | some g => some [g]
    | none => (readQuad? f).map groupsOf
  | f :: g :: fs => do
    let head ← readGroup? f
    let rest ← readTail? (g :: fs)
    return head :: rest

/-- The fields on one side of a double colon; an empty side has none. -/
def sideFields (s : List Char) : List (List Char) :=
  if s.isEmpty then [] else Text.fields ':' s

def readColon? (s : List Char) : Option Bytes :=
  match Text.cutAtDouble ':' s with
  | none => do
    let groups ← readTail? (Text.fields ':' s)
    if groups.length = 8 then some (bytesOf groups) else none
  | some (left, right) => do
    let before ← (sideFields left).mapM readGroup?
    let after ← readTail? (sideFields right)
    if before.length + after.length < 8 then
      some (bytesOf (before ++ List.replicate (8 - (before.length + after.length)) 0 ++ after))
    else none

end TcpSessions.Address
