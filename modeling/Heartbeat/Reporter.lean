import Heartbeat.Delivery.Client
import Heartbeat.Delivery.Resource
import Heartbeat.Settings

/-!
# Reporters

A reporter is the fan-out that the settings ask for: the metrics file first, then
the standard output, then the collector.  Without telemetry it has no members.

A metrics file that the system does not let be opened is logged and left out.
What is opened here, the file and the session, is registered with the caller's
resources if there are any; a stream and a client that the caller lends stay the
caller's own.
-/

namespace Heartbeat

set_option autoImplicit false

/-- What a caller lends to a reporter. -/
structure Lending where
  /-- A stream in place of the standard output. -/
  stream : Option Label
  /-- A client in place of a new session. -/
  client : Option Label
  /-- Whether the caller keeps resources and closes them. -/
  keepsResources : Bool

namespace Lending

/-- A caller who lends nothing and closes everything. -/
def onlyResources : Lending := ⟨none, none, true⟩

end Lending

namespace Reporter

open Delivery

/-- Registers a resource if the caller keeps resources. -/
def keep (lending : Lending) (resource : Resource) : Delivery Unit :=
  if lending.keepsResources then register resource else return ()

/-- The sink for the metrics file, unless the system does not let it be opened. -/
def fileSink? (homes : Homes) (lending : Lending) (path : Value) : Delivery (Option Sink) := do
  let (result, files) := FileTree.openMetricsFile homes (← get).files path
  modify fun world => { world with files }
  match result with
  | .ok handle =>
    modify fun world => world.setDestination .metricsFile (.file handle)
    keep lending (.file .metricsFile)
    return some (.stream .metricsFile LoggerName.stream)
  | .error failure =>
    if failure.isSystem then do
      log LoggerName.reporter (.fileUnavailable path failure)
      return none
    else throw failure

/-- The sink for the stream that was lent, or for the standard output. -/
def streamSink (lending : Lending) : Delivery Sink := do
  match lending.stream with
  | some label => return .stream label LoggerName.stream
  | none =>
    modify fun world => world.setDestination .console .console
    return .stream .console LoggerName.stream

/-- The sink for the client that was lent, or for a new session. -/
def collectorSink (network : Network) (lending : Lending) (timeout : Value) :
    Delivery Sink := do
  match lending.client with
  | some label => return .http label LoggerName.http
  | none =>
    let client ← ofExcept (Client.build timeout network)
    modify fun world => world.setClient .session client
    note (.clientBuilt timeout)
    keep lending (.session .session)
    return .http .session LoggerName.http

/-- The members that the settings ask for, in their order. -/
def members (homes : Homes) (network : Network) (settings : Settings) (lending : Lending) :
    Delivery (List Sink) := do
  let file ←
    if settings.metricsFile.isTruthy then fileSink? homes lending settings.metricsFile
    else pure none
  let stream ← if settings.stdout.isTruthy then some <$> streamSink lending else pure none
  let collector ←
    if settings.httpEnabled.isTruthy then
      some <$> collectorSink network lending settings.httpTimeout
    else pure none
  return file.toList ++ stream.toList ++ collector.toList

/-- The reporter that the settings ask for. -/
def build (homes : Homes) (network : Network) (settings : Settings) (lending : Lending) :
    Delivery Sink := do
  let members ←
    if settings.telemetryEnabled then members homes network settings lending else pure []
  return .fanout members LoggerName.fanout

end Reporter

end Heartbeat
