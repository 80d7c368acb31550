import Southbound.Network.Basic

/-!
# News

What has happened between two moments of a network: what reached the peers, which listeners were
called, and what work for datapaths has ended.
-/

namespace Southbound

/-- What reached a peer. -/
structure Sighting where
  link : LinkId
  frames : List Frame := []
  /-- The controller closed the stream. -/
  closes : Bool := false
deriving DecidableEq

structure News where
  sightings : List Sighting
  deliveries : List Delivery
  outcomes : List (DatapathId × TaskOutcome)

namespace Network

/-- What reached a peer since `old`. Whoever is gone sees nothing. -/
def sighting (old new : Network) (l : LinkId) : Sighting :=
  match new.peer? l with
  | none => { link := l }
  | some p =>
    if p.isGone then { link := l }
    else
      let before := (old.peer? l).getD {}
      { link := l, frames := p.received.drop before.received.length
        closes := p.isShut && !before.isShut }

/-- What has happened since `old`. -/
def newsSince (old new : Network) : News where
  sightings := new.links.map (sighting old new)
  deliveries := new.deliveries.drop old.deliveries.length
  outcomes := new.outcomes.drop old.outcomes.length

end Network

end Southbound
