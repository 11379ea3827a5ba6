import InstanceIdentity.Url.Basic

/-!
# Numeric hosts

A host whose last label is a number must be an IPv4 address, written with one to four numbers in
decimal, octal or hexadecimal; a host in brackets must be an IPv6 address.
-/

namespace InstanceIdentity.Host

/-! ## IPv4 -/

/-- The value of a digit in a base of at most sixteen. -/
def digit? (base : Nat) (c : Char) : Option Nat :=
  (Url.hexValue? c).filter (· < base)

/-- A run of digits in a base; empty runs are zero. -/
def digits? (base : Nat) (cs : List Char) : Option Nat :=
  cs.foldlM (fun acc c => (digit? base c).map (acc * base + ·)) 0

/-- One number of an address: hexadecimal after `0x`, octal after another leading zero. -/
def number? : List Char → Option Nat
  | [] => none
  | '0' :: 'x' :: rest => digits? 16 rest
  | '0' :: 'X' :: rest => digits? 16 rest
  | '0' :: c :: rest => digits? 8 (c :: rest)
  | cs => digits? 10 cs

/-- The parts of a text between points. -/
def labels (cs : List Char) : List (List Char) := cs.splitOn '.'

/-- The last label, apart from an empty one after a final point, is a number. -/
def endsInNumber (cs : List Char) : Bool :=
  let last :=
    match (labels cs).reverse with
    | [] :: label :: _ => label
    | label :: _ => label
    | [] => []
  !last.isEmpty && (last.all Char.isDigit || (number? last).isSome)

/-- The address of one to four numbers: all but the last are bytes, the last fills the rest. -/
def address? (numbers : List Nat) : Option Nat :=
  match numbers.reverse with
  | [] => none
  | last :: leading =>
    let leading := leading.reverse
    if leading.length ≤ 3 ∧ last < Nat.pow 256 (4 - leading.length) ∧ leading.all (· < 256) then
      some (leading.zipIdx.foldl (fun acc (n, i) => acc + n * Nat.pow 256 (3 - i)) last)
    else none

/-- Reads an IPv4 address. -/
def readIpv4? (cs : List Char) : Option Nat :=
  let parts :=
    match (labels cs).reverse with
    | [] :: rest => rest.reverse
    | _ => labels cs
  if 4 < parts.length then none else (parts.mapM number?).bind address?

/-! ## IPv6 -/

/-- The groups read so far: those before the gap, and those after it once it has been seen. -/
structure Groups where
  before : List Nat := []
  after : Option (List Nat) := none

namespace Groups

/-- The number of groups, with one for the gap. -/
def count (groups : Groups) : Nat :=
  groups.before.length + (groups.after.map (·.length + 1)).getD 0

/-- Appends a group. -/
def push (groups : Groups) (group : Nat) : Groups :=
  match groups.after with
  | none => { groups with before := groups.before ++ [group] }
  | some after => { groups with after := some (after ++ [group]) }

/-- Eight groups: written out, or with zeros in the place of the gap. -/
def complete? (groups : Groups) : Option (List Nat) :=
  match groups.after with
  | none => if groups.before.length = 8 then some groups.before else none
  | some after =>
    some (groups.before ++ List.replicate (8 - groups.before.length - after.length) 0 ++ after)

end Groups

/-- Takes up to four hexadecimal digits. -/
def takeGroup : Nat → Nat → List Char → Nat × List Char
  | 0, value, rest => (value, rest)
  | left + 1, value, c :: rest =>
    match digit? 16 c with
    | some d => takeGroup left (value * 16 + d) rest
    | none => (value, c :: rest)
  | _ + 1, value, [] => (value, [])

/-- A decimal byte without a leading zero. -/
def byte? (cs : List Char) : Option Nat :=
  match cs with
  | [] => none
  | ['0'] => some 0
  | '0' :: _ => none
  | cs => (digits? 10 cs).filter (· ≤ 255)

/-- The last two groups, written as four decimal bytes. -/
def embeddedIpv4? (cs : List Char) : Option (Nat × Nat) := do
  match ← (labels cs).mapM byte? with
  | [a, b, c, d] => some (a * 256 + b, c * 256 + d)
  | _ => none

/-- Reads groups up to the end of an address. -/
def readGroups? : Nat → Groups → List Char → Option Groups
  | 0, _, _ => none
  | _ + 1, groups, [] => some groups
  | fuel + 1, groups, c :: rest =>
    if 8 ≤ groups.count then none
    else if c = ':' then
      if groups.after.isSome then none
      else readGroups? fuel { groups with after := some [] } rest
    else
      let (value, tail) := takeGroup 4 0 (c :: rest)
      match tail with
      | [] => some (groups.push value)
      | ':' :: next => if next.isEmpty then none else readGroups? fuel (groups.push value) next
      | '.' :: _ =>
        if tail.length = (c :: rest).length ∨ 6 < groups.count then none
        else (embeddedIpv4? (c :: rest)).map fun (high, low) => (groups.push high).push low
      | _ => none

/-- Reads an IPv6 address, without its brackets. -/
def readIpv6? (cs : List Char) : Option (List Nat) :=
  match cs with
  | ':' :: ':' :: rest => (readGroups? (cs.length + 1) { after := some [] } rest).bind (·.complete?)
  | ':' :: _ => none
  | [] | [_] => none
  | cs => (readGroups? (cs.length + 1) {} cs).bind (·.complete?)

end InstanceIdentity.Host
