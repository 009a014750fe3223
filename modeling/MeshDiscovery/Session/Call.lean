import MeshDiscovery.Session.Basic

namespace MeshDiscovery.Session

/-- Reports a request of a kind that has no handler. -/
def reportUnhandled (session : Session) (kind : ResourceType) : Session :=
  if session.handled.get kind then session
  else session.report (.unhandledTypeRequested kind.url)

/-- Sends a request of a known kind as far as the phase allows: the first one opens the stream, and
while there is no stream it stays recorded only. -/
def sendRequest (session : Session) (kind : ResourceType) (request : Request) : Session :=
  match session.phase with
  | .idle => session.openStream 0 [(kind, request)]
  | .active generation _ => session.queue generation kind request
  | .recovering _ | .closed => session

/-- Requests resources. The request carries the session's node, and it is recorded as the current
subscription for its kind, in place of any earlier one. A type that is none of the four is
refused. -/
def request (session : Session) (request : Request) : Session :=
  match ResourceType.ofUrl? request.typeUrl with
  | none => session.report (.unknownTypeRequested request.typeUrl)
  | some kind =>
    let own := { request with node := some session.node }
    let noted := session.reportUnhandled kind
    let recorded : Session := { noted with recorded := noted.recorded.set kind (some own) }
    recorded.sendRequest kind own

/-- Closes the session for good. Closing it again changes nothing. -/
def close (session : Session) : Session :=
  match session.phase with
  | .closed => session
  | .idle | .active .. | .recovering _ =>
    let closed : Session := { session with phase := .closed }
    closed.report (.sessionClosed session.node.id)

end MeshDiscovery.Session
