import Toolwire.Execution.Trace
import Toolwire.Outcome
/-!
# Executing publishes

The message is built once and published through the adapter of its provider. In shadow mode
it is described instead, with the credentials in it left as references.
-/
namespace Toolwire.Queue

/-- The adapter of a provider: what each of its publishes comes to, which is the id of the
message if the broker gives one. -/
abbrev Adapter := Nat → Attempt (Option String)

/-- The adapters by provider. -/
abbrev Adapters := List (Provider × Adapter)

/-- The providers in the order of their names. -/
def allProviders : List Provider := [.kafka, .rabbitmq, .redis]

/-- The providers that have an adapter. -/
def Adapters.providers (as : Adapters) : List Provider :=
  allProviders.filter fun p => (as.lookup p).isSome

/-- The outcome that describes a message instead of publishing it. -/
def shadowOutcome (q : QueueBinding) (args : Members) : Trace Outcome := do
  let m ← Trace.ofExcept (message q args .redact)
  Trace.emit (.log { level := .info, message := "Shadow mode: publish intercepted",
                     fields := [("provider", q.provider.name), ("topic", m.topic)] })
  return ((((Outcome.intercepted).withExtra "_provider" (.str q.provider.name)).withExtra
    "_topic" (.str m.topic)).withExtra "_message" (payloadValue q.format m.payload)).withExtra
    "_headers" (.strings (Members.keys q.headers))

/-- The outcome of a published message. -/
def publishedOutcome (id : Option String) : Outcome :=
  match id with
  | some id => Outcome.withExtra { status := .success } "message_id" (.str id)
  | none => { status := .success }

/-- The failure of a provider without adapter. -/
def noAdapter (p : Provider) : Failure :=
  .execution ("no queue adapter registered for provider '" ++ p.name ++ "'")

/-- Executes a publish. -/
def execute (adapters : Adapters) (b : Binding) (q : QueueBinding) (args : Members)
    (r : Resolver) : Trace Outcome :=
  if b.isShadow then shadowOutcome q args
  else
    match adapters.lookup q.provider with
    | none => Trace.fail (noAdapter q.provider)
    | some adapter => do
      let connection ← Trace.ofCredential (r.resolveCredential "connection" q.connection)
      let m ← Trace.ofExcept (message q args (.resolve r))
      let id ← Trace.retried b "queue.publish" (.publish q.provider connection m) adapter
      return publishedOutcome id

end Toolwire.Queue
