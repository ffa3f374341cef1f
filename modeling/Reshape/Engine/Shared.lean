import Reshape.Engine

namespace Reshape

abbrev SharedEngine := Option Engine

namespace SharedEngine

def install (shared : SharedEngine) (engine : Engine) : Except Error SharedEngine :=
  match shared with
  | some _ => .error (.configuration "A global engine is already installed")
  | none => .ok (some engine)

def get (shared : SharedEngine) : Except Error Engine :=
  match shared with
  | some engine => .ok engine
  | none => .error (.configuration "Global engine is not installed")

def clearCache : SharedEngine → Bool × SharedEngine
  | some engine => (true, some engine.clearCache)
  | none => (false, none)

def invalidate (shared : SharedEngine) (id : String) : Nat × SharedEngine :=
  match shared with
  | some engine =>
    let (removed, engine) := engine.invalidate id
    (removed, some engine)
  | none => (0, none)

end SharedEngine

end Reshape
