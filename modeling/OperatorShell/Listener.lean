import OperatorShell.Host

/-!
# Listening at an address

A server listens at an address: a host and a port with a colon between them. A host of eight groups
may stand in brackets. No name server is at hand, so the only name with a host is `localhost`.

* `Listener.fault?`: why nothing can listen at an address.
-/

namespace OperatorShell

/-- Why nothing can listen at an address. -/
inductive ListenError where
  | badAddress
  | badPort
  | unknownName
  | noNameServer
  | notHere
  | badHost
  | noInterface
  deriving DecidableEq, Repr

/-- The wording of an address's fault. -/
def ListenError.message : ListenError → Text
  | .badAddress => "invalid socket address".toList
  | .badPort => "invalid port value".toList
  | .unknownName =>
    "failed to lookup address information: Name or service not known".toList
  | .noNameServer =>
    "failed to lookup address information: Temporary failure in name resolution".toList
  | .notHere => "Cannot assign requested address (os error 99)".toList
  | .badHost => "Invalid argument (os error 22)".toList
  | .noInterface => "No such device (os error 19)".toList

namespace Listener

/-! ## Hosts -/

/-- The number of the interface by which a machine reaches itself. -/
def loopScope : Nat := 1

/-- Whether a host of four bytes is the machine itself, every host or a group of hosts. -/
def isHere (address : Nat) : Bool :=
  let first := address / 0x1000000
  address = 0 || first = 127 || (224 ≤ first && first < 240) || address = 0xFFFFFFFF

/-- The fault of a host of four bytes. -/
def shortFault? (address : Nat) : Option ListenError :=
  if isHere address then none else some .notHere

/-- The fault of a host of eight groups. Five zeros and all ones in the sixth group stand before a
host of four bytes. Hosts of a link need an interface. -/
def longFault? (scope : Nat) : List Nat → Option ListenError
  | [0, 0, 0, 0, 0, 0xFFFF, a, b] => shortFault? (0x10000 * a + b)
  | groups =>
    if groups = List.replicate 8 0 ∨ groups = List.replicate 7 0 ++ [1] then none
    else
      let first := groups.headD 0
      if 0xFF00 ≤ first then some .badHost
      else if 0xFE80 ≤ first ∧ first < 0xFEC0 then
        if scope = 0 then some .badHost
        else if scope = loopScope then some .notHere
        else some .noInterface
      else some .notHere

/-- The fault of a host. -/
def hostFault? : Host → Option ListenError
  | .short address => shortFault? address
  | .long groups scope => longFault? scope groups

/-- The name by which a machine knows itself. -/
def ownName : Text := "localhost".toList

/-- The fault of a host by address or name. Letter case makes no difference to a name. -/
def namedFault? (host : Text) : Option ListenError :=
  match Host.ofText? host with
  | some h => hostFault? h
  | none =>
    if host.map Char.toLower = ownName then none
    else if Host.isName host then some .noNameServer
    else some .unknownName

/-! ## Addresses -/

/-- An address cut at its last colon. -/
def cutPort? (address : Text) : Option (Text × Text) :=
  match address.reverse.dropWhile (· ≠ ':') with
  | [] => none
  | _ :: host => some (host.reverse, (address.reverse.takeWhile (· ≠ ':')).reverse)

/-- The host in brackets. -/
def bracketed? (host : Text) : Option Host :=
  match host with
  | '[' :: t => if t.getLast? = some ']' then Host.fromColons? t.dropLast else none
  | _ => none

/-- The largest port. -/
def maxPort : Nat := 0xFFFF

/-- The fault of an address to listen at. A sign before the port is no part of an address with
brackets. -/
def fault? (address : Text) : Option ListenError :=
  match cutPort? address with
  | none => some .badAddress
  | some (host, port) =>
    match Text.readBounded maxPort port with
    | .error _ => some .badPort
    | .ok _ =>
      match bracketed? host with
      | some h => if port.head? = some '+' then some .unknownName else hostFault? h
      | none => namedFault? host

end Listener

end OperatorShell
