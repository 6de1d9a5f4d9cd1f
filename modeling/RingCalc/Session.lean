import RingCalc.Ring.Registry
import RingCalc.Settings.Load

/-!
# Sessions

In a session rings are made known by names, taken by their names and listed, and settings are loaded,
which may name a ring.  All these look at one registry, which only a registration changes.

What is registered under a name is no ring but a factory.  Whoever takes a ring is given what the
factory makes at that moment, so the ring is nobody else's unless the factory wants it to be.  A
factory may look at the world around it and change it, as one does that counts its rings.
-/

namespace RingCalc

universe u

/-- Makes something in a world, and may change that. -/
abbrev Factory (ω : Type) (β : Type u) : Type u := ω → β × ω

/-- The factories known by name, and the world in which they work. -/
structure Session (ω : Type) (β : Type u) where
  registry : Registry (Factory ω β)
  world : ω

inductive SessionRequest (ω : Type) (β : Type u) where
  | register (name : String) (factory : Factory ω β)
  | take (name : String)
  | names
  | load (surroundings : Surroundings) (path : Option String)

inductive SessionAnswer (β : Type u) where
  | registered
  | ring (ring : β)
  /-- Nothing is known by the name, and this is said about it. -/
  | unknown (message : String)
  | names (names : List String)
  | settings (outcome : Except LoadFailure Settings)

namespace Session

variable {ω : Type} {β : Type u}

/-- A session in which one ring is known. -/
def start (standard : Factory ω β) (world : ω) : Session ω β :=
  ⟨Registry.empty.register "int" standard, world⟩

def serve (session : Session ω β) : SessionRequest ω β → SessionAnswer β × Session ω β
  | .register name factory =>
    (.registered, { session with registry := session.registry.register name factory })
  | .take name =>
    match session.registry.get? name with
    | none => (.unknown (session.registry.unknownMessage name), session)
    | some factory =>
      let (ring, world) := factory session.world
      (.ring ring, { session with world })
  | .names => (.names session.registry.names, session)
  | .load surroundings path =>
    (.settings (Settings.load session.registry.contains surroundings path), session)

/-- The session after some requests. -/
def after (session : Session ω β) (requests : List (SessionRequest ω β)) : Session ω β :=
  requests.foldl (fun session request => (session.serve request).2) session

/-- The rings as they would be taken at this moment. -/
def rings (session : Session ω β) : Registry β :=
  session.registry.map fun factory => (factory session.world).1

end Session

end RingCalc
