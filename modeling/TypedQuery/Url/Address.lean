import TypedQuery.Text.Digit
import TypedQuery.Text.Split

/-!
# Addresses of hosts

A host can be named by its address instead of a domain name.

* `Address.isFour`: four decimal numbers with dots between them.
* `Address.isSix`: eight groups of hexadecimal digits with colons between them. Two colons stand for
  groups of zeros, the last two groups may be written as four decimal numbers, and a scope may
  follow behind a percent sign.
-/

namespace TypedQuery.Address

/-! ## Four numbers -/

/-- The lengths of the runs of digits, and how many other characters stand between them. -/
def runs (cs : List Char) : List Nat × Nat :=
  let parts := Text.splitWhere (!·.isDigit) cs
  (parts.map List.length, parts.length - 1)

/-- Whether a host is taken for four numbers: three of its characters, whatever they are, have only
digits around them. -/
def looksLikeFour (cs : List Char) : Bool :=
  let (lengths, others) := runs cs
  lengths.all (0 < ·) && others ≤ 3 &&
    3 ≤ lengths.foldl (fun n length => n + (length - 1) / 2) others

/-- Whether a text is a number below 256, without zeros in front. -/
def isOctet (cs : List Char) : Bool :=
  cs.length ≤ 3 && cs.all Char.isDigit && (cs == ['0'] || cs.head?.any (· != '0')) &&
    cs.foldl (fun n c => 10 * n + (c.toNat - 48)) 0 ≤ 255

/-- Whether a host is an address of four numbers. -/
def isFour (cs : List Char) : Bool :=
  let parts := Text.splitWhere (· == '.') cs
  parts.length = 4 && parts.all isOctet

/-! ## Eight groups -/

/-- Whether a text is a group of an address. -/
def isGroup (cs : List Char) : Bool :=
  0 < cs.length && cs.length ≤ 4 && cs.all fun c => (Text.hexDigit? c).isSome

/-- The groups of an address, with the four numbers at its end as two groups. -/
def groups? (cs : List Char) : Option (List (List Char)) :=
  let parts := Text.splitWhere (· == ':') cs
  let final := parts.getLastD []
  if parts.length < 3 then none
  else if final.contains '.' then
    if isFour final then some (parts.dropLast ++ [['0'], ['0']]) else none
  else some parts

/-- The places of empty groups that are neither first nor last. -/
def gaps (groups : List (List Char)) : List Nat :=
  (List.range groups.length).filter fun i =>
    0 < i && i + 1 < groups.length && (groups[i]?.any List.isEmpty)

/-- Whether groups before or behind the two colons are right. An empty group at the outer end is
right only if it is alone there. -/
def isSide (groups : List (List Char)) : Bool := groups == [[]] || groups.all isGroup

/-- How many groups are written out on a side. -/
def written (groups : List (List Char)) : Nat := if groups == [[]] then 0 else groups.length

/-- Whether groups make an address. -/
def areGroups (groups : List (List Char)) : Bool :=
  if 9 < groups.length then false
  else
    match gaps groups with
    | [] => groups.length = 8 && groups.all isGroup
    | [i] =>
      let before := groups.take i
      let behind := groups.drop (i + 1)
      isSide before && isSide behind && written before + written behind < 8
    | _ => false

/-- Whether a text is an address of eight groups. -/
def isSix (cs : List Char) : Bool :=
  let address := cs.takeWhile (· != '%')
  let rest := cs.drop address.length
  let hasScope := match rest with
    | [] => true
    | _ :: scope => !scope.isEmpty && !scope.contains '%'
  hasScope && !cs.contains '/' && (groups? address).any areGroups

end TypedQuery.Address
