import Toolwire.Tool
/-!
# Calls

A call is a tool with all that an invocation of it meets. Its record is made when the outcome
is there and goes to whoever keeps records; that a record is refused is logged, and nothing
else comes of it.
-/
namespace Toolwire

/-- A call of a tool: what the tool runs with, what it is given, and when it ends. -/
structure Call where
  tool : Tool
  registry : Registry
  resolver : Resolver
  arguments : Json
  stamp : Stamp := {}

namespace Call

/-- The invocation that a call is. -/
def invocation (c : Call) : Invocation := c.tool.invoke c.registry c.resolver c.arguments

/-- Makes a call and hands its record to a keeper, if there is one. -/
def make (keeper : Option (Keeper σ)) (held : σ) (c : Call) : σ × Invocation :=
  let i := c.invocation
  let (held, entries) := c.tool.file keeper held (c.tool.record c.arguments i.outcome c.stamp)
  (held, { i with events := i.events ++ entries.map .log })

/-- Makes calls one after another with the same keeper. -/
def makeAll (keeper : Option (Keeper σ)) (held : σ) : List Call → σ × List Invocation
  | [] => (held, [])
  | c :: rest =>
    let (held, i) := c.make keeper held
    let (held, is) := makeAll keeper held rest
    (held, i :: is)

end Call
end Toolwire
