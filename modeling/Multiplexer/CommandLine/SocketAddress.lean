/-!
Socket addresses in text: a host by number, in version 4 or 6 of the internet protocol, and a
port. Many texts can name an address of version 6; it is printed in one way, with the first of
its longest runs of zeros left out.
-/

namespace Multiplexer

/-- The address of a socket. -/
inductive SocketAddress where
  | v4 (octets : List Nat) (port : Nat)
  | v6 (groups : List Nat) (scope port : Nat)
deriving DecidableEq

/-- Reads digits: the number, how many there are, and the rest. -/
def readDigits (radix : Nat) : List Char → Nat → Nat → Nat × Nat × List Char
  | [], n, count => (n, count, [])
  | c :: cs, n, count =>
    let digit := if c.isDigit then some (c.toNat - '0'.toNat)
      else if 'a' ≤ c ∧ c ≤ 'f' then some (c.toNat - 'a'.toNat + 10)
      else if 'A' ≤ c ∧ c ≤ 'F' then some (c.toNat - 'A'.toNat + 10)
      else none
    match digit with
    | some d =>
      if d < radix then readDigits radix cs (n * radix + d) (count + 1) else (n, count, c :: cs)
    | none => (n, count, c :: cs)

/-- Reads a number below `bound`. -/
def readBounded (radix bound : Nat) (cs : List Char) : Option (Nat × List Char) :=
  let (n, count, rest) := readDigits radix cs 0 0
  if count = 0 ∨ bound ≤ n then none else some (n, rest)

/-- Reads an octet: at most three digits, the first of several not zero. -/
def readOctet (cs : List Char) : Option (Nat × List Char) :=
  let (n, count, rest) := readDigits 10 cs 0 0
  if count = 0 ∨ 3 < count ∨ 256 ≤ n ∨ (1 < count ∧ cs.head? = some '0') then none
  else some (n, rest)

/-- Reads a group of at most four hexadecimal digits. -/
def readGroup (cs : List Char) : Option (Nat × List Char) :=
  let (n, count, rest) := readDigits 16 cs 0 0
  if count = 0 ∨ 4 < count then none else some (n, rest)

/-- Reads one character. -/
def readChar (c : Char) : List Char → Option (List Char)
  | d :: cs => if c = d then some cs else none
  | [] => none

/-- Reads four octets with points between. -/
def readOctets (cs : List Char) : Option (List Nat × List Char) := do
  let (a, cs) ← readOctet cs
  let (b, cs) ← readOctet (← readChar '.' cs)
  let (c, cs) ← readOctet (← readChar '.' cs)
  let (d, cs) ← readOctet (← readChar '.' cs)
  some ([a, b, c, d], cs)

/-- What stands before a group: a colon, unless the group is the first. -/
def readSeparator (first : Bool) (cs : List Char) : Option (List Char) :=
  if first then some cs else readChar ':' cs

/-- Reads up to `limit` groups, the last two of which may be written as octets: the groups, whether
octets were among them, and the rest. -/
def readGroups : Nat → Bool → List Char → List Nat × Bool × List Char
  | 0, _, cs => ([], false, cs)
  | limit + 1, first, cs =>
    let octets := if limit = 0 then none else (readSeparator first cs).bind readOctets
    match octets with
    | some ([a, b, c, d], rest) => ([a * 256 + b, c * 256 + d], true, rest)
    | _ =>
      match (readSeparator first cs).bind readGroup with
      | some (group, rest) =>
        let (groups, embedded, rest) := readGroups limit false rest
        (group :: groups, embedded, rest)
      | none => ([], false, cs)

/-- Reads the eight groups of an address of version 6, of which a double colon stands for one or
more zeros. -/
def readHost6 (cs : List Char) : Option (List Nat × List Char) :=
  let (front, embedded, rest) := readGroups 8 true cs
  if front.length = 8 then some (front, rest)
  else if embedded then none
  else do
    let rest ← readChar ':' (← readChar ':' rest)
    let (back, _, rest) := readGroups (7 - front.length) true rest
    some (front ++ List.replicate (8 - front.length - back.length) 0 ++ back, rest)

/-- Reads the port to the end of the text. -/
def readPort (cs : List Char) : Option Nat := do
  let (port, rest) ← readBounded 10 65536 (← readChar ':' cs)
  if rest.isEmpty then some port else none

/-- Reads the scope of an address of version 6, if there is one. -/
def readScope (cs : List Char) : Option (Nat × List Char) :=
  match cs with
  | '%' :: rest => readBounded 10 UInt32.size rest
  | _ => some (0, cs)

def readSocket4 (cs : List Char) : Option SocketAddress := do
  let (octets, rest) ← readOctets cs
  some (.v4 octets (← readPort rest))

def readSocket6 (cs : List Char) : Option SocketAddress := do
  let (groups, rest) ← readHost6 (← readChar '[' cs)
  let (scope, rest) ← readScope rest
  some (.v6 groups scope (← readPort (← readChar ']' rest)))

/-- The socket address that a text names. -/
def SocketAddress.parse? (text : String) : Option SocketAddress :=
  (readSocket4 text.toList).or (readSocket6 text.toList)

def octetsText (octets : List Nat) : String := ".".intercalate (octets.map toString)

/-- A number in lower-case hexadecimal. -/
def groupText (n : Nat) : String := String.ofList (Nat.toDigits 16 n)

def groupsText (groups : List Nat) : String := ":".intercalate (groups.map groupText)

/-- The length of the run of zeros at the front. -/
def leadingZeros (groups : List Nat) : Nat := (groups.takeWhile (· = 0)).length

/-- The start and length of the first of the longest runs of zeros. -/
def longestZeros : List Nat → Nat × Nat
  | [] => (0, 0)
  | g :: gs =>
    let here := leadingZeros (g :: gs)
    let (start, length) := longestZeros gs
    if length ≤ here then (0, here) else (start + 1, length)

/-- The host of version 6 in its one printed form. -/
def hostText6 (groups : List Nat) : String :=
  match groups with
  | [0, 0, 0, 0, 0, 0xffff, a, b] =>
    s!"::ffff:{octetsText [a / 256, a % 256, b / 256, b % 256]}"
  | _ =>
    let (start, length) := longestZeros groups
    if length < 2 then groupsText groups
    else s!"{groupsText (groups.take start)}::{groupsText (groups.drop (start + length))}"

def SocketAddress.text : SocketAddress → String
  | .v4 octets port => s!"{octetsText octets}:{port}"
  | .v6 groups scope port =>
    if scope = 0 then s!"[{hostText6 groups}]:{port}" else s!"[{hostText6 groups}%{scope}]:{port}"

end Multiplexer
