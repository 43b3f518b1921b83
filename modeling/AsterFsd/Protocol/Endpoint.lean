import AsterFsd.Protocol.Framable

/-! # The word for the server

The texts of destinations have a word for the server, and what the server says comes from that word.
A client may log in under it, and then nobody can address the client, and what the client says reads as
the server's. Nothing else shares an address with the server.
-/

namespace AsterFsd

open Network ClassicProtocol

variable {config : CoreConfig} {w w' : World} {action : Action}

namespace Sample

def server : Callsign := ⟨"SERVER", by decide⟩

end Sample

end AsterFsd
