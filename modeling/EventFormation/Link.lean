import EventFormation.Intake

/-!
# Datagram links

A link carries datagrams to their destination or refuses them. A host that has
no route to the destination refuses every one.
-/

namespace EventFormation

inductive LinkFault where
  | unreachable
  deriving DecidableEq

def LinkFault.message : LinkFault → String
  | .unreachable => "Network is unreachable (os error 101)"

/-- Carries datagrams, or says why not. -/
structure Link where
  carry : Bytes → Option LinkFault

namespace Link

/-- A link without a route. -/
def unreachable : Link where
  carry _ := some .unreachable

/-- Sends datagrams up to the first refusal. Gives those that were carried. -/
def send (link : Link) : List Bytes → List Bytes × Option LinkFault
  | [] => ([], none)
  | datagram :: rest =>
    match link.carry datagram with
    | some fault => ([], some fault)
    | none =>
      let (carried, fault) := link.send rest
      (datagram :: carried, fault)

/-- An input queue after datagrams were sent to it, unless one was refused. -/
def fill (link : Link) (capacity : Nat) (datagrams : List Bytes) : Except LinkFault Intake :=
  match link.send datagrams with
  | (_, some fault) => .error fault
  | (carried, none) => .ok (carried.foldl Intake.arrive (.create capacity))

end Link

end EventFormation
