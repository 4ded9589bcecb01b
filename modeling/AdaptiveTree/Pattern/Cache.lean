import AdaptiveTree.Handle
import AdaptiveTree.Pattern.Basic

/-!
# Pattern cache

A store of compiled patterns that keeps those asked for last. A request for a pattern that is kept
gives the same handle again and makes it the latest; any other request compiles the pattern under a
new handle, which pushes out the one asked for longest ago when the store is full. A request that
fails leaves the store as it was.
-/

set_option autoImplicit false

namespace AdaptiveTree.Pattern

/-- The two texts that a pattern is compiled from. -/
abbrev Request := String × String

/-- Kept patterns, latest first, with a limit on their number. -/
structure Cache where
  capacity : Nat
  entries : List (Request × Handle Pattern)

namespace Cache

/-- An empty store. It keeps one pattern at least. -/
def empty (capacity : Nat) : Cache :=
  ⟨max capacity 1, []⟩

/-- The handle kept for a request. -/
def find? (c : Cache) (request : Request) : Option (Handle Pattern) :=
  c.entries.lookup request

/-- Makes a kept entry the latest. -/
def promote (c : Cache) (request : Request) (handle : Handle Pattern) : Cache :=
  { c with entries := (request, handle) :: c.entries.filter (·.1 != request) }

/-- Adds an entry as the latest and drops what exceeds the capacity. -/
def insert (c : Cache) (request : Request) (handle : Handle Pattern) : Cache :=
  { c with entries := ((request, handle) :: c.entries.filter (·.1 != request)).take c.capacity }

/-- Number of kept patterns. -/
def size (c : Cache) : Nat :=
  c.entries.length

end Cache

/-- Compiles patterns and hands out handles, with a cache or without. -/
structure Engine where
  cache : Option Cache
  fresh : Nat := 0

namespace Engine

/-- An engine that keeps `capacity` patterns. -/
def caching (capacity : Nat) : Engine :=
  { cache := some (.empty capacity) }

/-- An engine that keeps none. -/
def plain : Engine :=
  { cache := none }

/-- Compiles a pattern under a new handle and keeps it if there is a cache. -/
def compileFresh (e : Engine) (request : Request) : Except Refusal (Handle Pattern) × Engine :=
  match Pattern.compile request.1 request.2 with
  | .error r => (.error r, e)
  | .ok p =>
    let handle := ⟨e.fresh, p⟩
    (.ok handle, { cache := e.cache.map (·.insert request handle), fresh := e.fresh + 1 })

/-- The handle of a pattern: the kept one, or a new one. -/
def compile (e : Engine) (request : Request) : Except Refusal (Handle Pattern) × Engine :=
  match e.cache with
  | none => e.compileFresh request
  | some c =>
    match c.find? request with
    | some handle => (.ok handle, { e with cache := some (c.promote request handle) })
    | none => e.compileFresh request

/-- Number of kept patterns. -/
def cached (e : Engine) : Nat :=
  (e.cache.map (·.size)).getD 0

/-- The engine as a listing for developers. -/
def listing (e : Engine) : String :=
  "CachingPatternEngine \x7b cached: " ++ Nat.repr e.cached ++ " \x7d"

end Engine

end AdaptiveTree.Pattern
