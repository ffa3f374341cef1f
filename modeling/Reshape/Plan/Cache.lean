import Reshape.Plan

namespace Reshape.Plan

structure Key where
  typeId : String
  fingerprint : String
  deriving DecidableEq

/-- What building a plan came to; a failure is kept like a plan. -/
abbrev Outcome := Except BuildError Plan

structure Cache where
  enabled : Bool := true
  entries : List (Key × Outcome) := []
  hits : Nat := 0
  misses : Nat := 0

namespace Cache

structure Stats where
  size : Nat
  hits : Nat
  misses : Nat
  deriving DecidableEq

/-- The share of look-ups that found an entry, zero when there were none. -/
def Stats.hitRate (s : Stats) : Binary64 :=
  if s.hits + s.misses = 0 then .zero false
  else .ofRatio false s.hits (s.hits + s.misses)

def stats (c : Cache) : Stats := ⟨c.entries.length, c.hits, c.misses⟩

def contains (c : Cache) (key : Key) : Bool := c.entries.any (·.1 == key)

/-- The entry of a key, unless the cache is off. -/
def find? (c : Cache) (key : Key) : Option Outcome :=
  if c.enabled then c.entries.lookup key else none

/-- The entry of a key, built and kept if there is none. -/
def getOrBuild (c : Cache) (key : Key) (build : Unit → Outcome) : Outcome × Cache :=
  match c.find? key with
  | some outcome => (outcome, { c with hits := c.hits + 1 })
  | none =>
    let outcome := build ()
    -- a cache that is off counts its misses all the same
    let entries := if c.enabled then (key, outcome) :: c.entries else c.entries
    (outcome, { c with entries, misses := c.misses + 1 })

def invalidate (c : Cache) (typeId : String) : Nat × Cache :=
  let kept := c.entries.filter fun entry => entry.1.typeId ≠ typeId
  (c.entries.length - kept.length, { c with entries := kept })

/-- Drops all entries; the counts stay. -/
def clear (c : Cache) : Cache := { c with entries := [] }

def resetCounts (c : Cache) : Cache := { c with hits := 0, misses := 0 }

end Cache

end Reshape.Plan
