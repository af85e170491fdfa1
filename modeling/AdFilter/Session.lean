import AdFilter.Engine

/-!
Engines that take turns: one is current, a new one may replace it, and whoever holds an older one
keeps using that. A held engine and the current one are one and the same until they are exchanged,
so each remembers what the other was asked.
-/

namespace AdFilter

/-- The engines that were ever current, with the place of the current one and of those held. -/
structure Session where
  engines : Array Engine
  current : Nat
  held : List Nat

namespace Session

/-- A session that starts with one engine. -/
def start (engine : Engine) : Session := ⟨#[engine], 0, []⟩

/-- The place of the engine with a handle, or of the current one. -/
def place? (session : Session) : Option Nat → Option Nat
  | none => some session.current
  | some handle => session.held[handle]?

/-- The engine with a handle, or the current one. -/
def engine? (session : Session) (handle : Option Nat) : Option Engine :=
  (session.place? handle).bind (session.engines[·]?)

/-- The session after the engine with a handle, or the current one, has changed. -/
def put (session : Session) (handle : Option Nat) (engine : Engine) : Session :=
  match session.place? handle with
  | some place => { session with engines := session.engines.setIfInBounds place engine }
  | none => session

/-- The current engine is held under the next handle. -/
def hold (session : Session) : Session :=
  { session with held := session.held ++ [session.current] }

/-- A new engine becomes the current one. -/
def swap (session : Session) (engine : Engine) : Session :=
  -- The one before stays where it is, for those who hold it.
  { session with engines := session.engines.push engine, current := session.engines.size }

/-- What becomes of a request to the engine with a handle, or the current one. -/
def answer? (session : Session) (handle : Option Nat) (request : Request) :
    Option (Verdict × Session) :=
  (session.engine? handle).map fun engine =>
    let (verdict, engine) := engine.answer request
    (verdict, session.put handle engine)

/-- All answers of the engine with a handle, or the current one, are forgotten. -/
def forget? (session : Session) (handle : Option Nat) : Option Session :=
  (session.engine? handle).map fun engine => session.put handle engine.forget

end Session

end AdFilter
