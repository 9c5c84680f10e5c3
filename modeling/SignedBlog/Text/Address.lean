import SignedBlog.Text.CodePoint
import SignedBlog.Text.Digit

/-!
Internet addresses in text: four decimal octets, or eight hexadecimal groups of which one run may be
left out.

* `Address.isIpv4` and `Address.isIpv6` tell such texts. The latter lets a zone follow the groups, and
  `Address.isGroups` does not.
-/

namespace SignedBlog.Address

set_option autoImplicit false

/-- A number up to 255 in ASCII digits without a leading zero. -/
def isOctet (t : Text) : Bool :=
  !t.isEmpty && t.all CodePoint.isAsciiDigit && t.length ≤ 3
    && (t.length == 1 || t.head? != some ('0' : CodePoint))
    && t.foldl (fun n c => n * 10 + (c.val - 0x30)) 0 ≤ 255

/-- Four octets between points. -/
def isIpv4 (t : Text) : Bool :=
  let octets := Text.pieces '.' t
  octets.length == 4 && octets.all isOctet

/-- One to four hexadecimal digits. -/
def isGroup (t : Text) : Bool :=
  !t.isEmpty && t.length ≤ 4 && t.all fun c => c.hexDigit?.isSome

/-- The address and the zone behind `%`, where a zone has to be one name. -/
def splitZone? (t : Text) : Option Text :=
  match Text.cutFirst? (· == ('%' : CodePoint)) t with
  | none => some t
  | some (address, zone) =>
    if zone.isEmpty || zone.contains ('%' : CodePoint) then none else some address

/-- The groups of an address, where four octets at the end count as two groups. -/
def groups? (address : Text) : Option (List Text) :=
  let parts := Text.pieces ':' address
  if parts.length < 3 then none
  else match parts.getLast? with
    | some last =>
      if last.contains ('.' : CodePoint) then
        if isIpv4 last then some (parts.dropLast ++ [("0" : Text), ("0" : Text)]) else none
      else some parts
    | none => none

/-- Whether groups before and behind a gap are an address: at either end one empty group belongs to
the gap, and the gap stands for one group at least. -/
def fitsAroundGap (before behind : List Text) : Bool :=
  let front := if before.head? = some [] then before.drop 1 else before
  let back := if behind.getLast? = some [] then behind.dropLast else behind
  (before.head? != some [] || front.isEmpty) && (behind.getLast? != some [] || back.isEmpty)
    && front.length + back.length ≤ 7 && front.all isGroup && back.all isGroup

/-- Whether groups are an address: eight of them, or fewer around one gap. -/
def fitGroups (groups : List Text) : Bool :=
  let inner := (groups.drop 1).dropLast
  if 9 < groups.length || 1 < inner.countP List.isEmpty then false
  else
    let before := inner.takeWhile fun group => !group.isEmpty
    if before.length == inner.length then groups.length == 8 && groups.all isGroup
    else
      let place := before.length + 1
      fitsAroundGap (groups.take place) (groups.drop (place + 1))

/-- Groups of an address. -/
def isGroups (t : Text) : Bool := ((groups? t).map fitGroups).getD false

/-- Groups of an address with an optional zone. -/
def isIpv6 (t : Text) : Bool :=
  match splitZone? t with
  | none => false
  | some address => !t.contains ('/' : CodePoint) && isGroups address

/-- The front of an address of a later version: `v` and hexadecimal digits. What follows the point
behind it is given. -/
def laterPart? (t : Text) : Option Text :=
  match Text.dropStart? "v" t with
  | none => none
  | some t =>
    match Text.cutFirst? (· == ('.' : CodePoint)) t with
    | none => none
    | some (version, rest) =>
      if !version.isEmpty && version.all fun c => c.hexDigit?.isSome then some rest else none

end SignedBlog.Address
