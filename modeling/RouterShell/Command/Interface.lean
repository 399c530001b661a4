import RouterShell.Command.Action

/-!
# Commands that change interfaces

`ip` enables and disables an interface; `ethtool` resets a physical one, restarts its negotiation or
makes it blink.
-/

namespace RouterShell.Interface

/-- Enable or disable an interface. -/
def setState (up : Bool) : Command :=
  let description :=
    if up then "enable (no shutdown) an interface" else "disable (shutdown) an interface"
  .simple description 1 (some 1) .links fun env inv =>
    env.runTool "ip" (["link", "set", "dev"] ++ inv.args ++ [if up then "up" else "down"])

/-- The parts of a device that can be reset. -/
def resetParts : List String :=
  ["flags", "mgmt", "irq", "dma", "filter", "offload", "mac", "phy", "ram", "dedicated", "all"]

/-- Hand the arguments to `ethtool`, after an option. -/
def ethtool (description option : String) (minArgs : Nat) (maxArgs : Option Nat)
    (completer : Completer) : Command :=
  .simple description minArgs maxArgs completer fun env inv =>
    env.runTool "ethtool" (option :: inv.args)

/-- Reset parts of a physical interface. -/
def reset : Command :=
  ethtool "reset an interface" "--reset" 2 none
    (.peer .physicalLinks (.peer (.suggesting resetParts) .free))

/-- Restart the negotiation of a physical interface. -/
def renegotiate : Command :=
  ethtool "restart auto-negotiation on an interface" "--negotiate" 1 (some 1) .physicalLinks

/-- Make a physical interface blink, for some seconds if a number is given. -/
def identify : Command :=
  ethtool "initiate the adapter identify by sight procedure" "--identify" 1 (some 2)
    (.peer .physicalLinks .free)

end RouterShell.Interface
