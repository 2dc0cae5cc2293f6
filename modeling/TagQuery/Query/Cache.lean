import TagQuery.Query.Scan

/-!
A parser that remembers. The key is the query as typed, so two spellings of one
query take two entries. Nothing is ever dropped but by `clear`, which keeps the
counts of hits and misses. The counts have no bound; a counter of 64 bits shows
the same for fewer than 2^64 calls.
-/

namespace TagQuery

structure Cache where
  entries : List (String × List Component) := []
  hits : Nat := 0
  misses : Nat := 0

namespace Cache

/-- What a cache tells of itself. -/
structure Stats where
  hits : Nat
  misses : Nat
  entries : Nat
  deriving DecidableEq, Repr

def find? (cache : Cache) (query : String) : Option (List Component) :=
  cache.entries.lookup query

/-- Does the cache hold the query already? -/
def holds (cache : Cache) (query : String) : Bool := (cache.find? query).isSome

/-- The entry of a query, made if there is none. Only the one who makes it misses. -/
def enter (cache : Cache) (query : String) : List Component × Cache :=
  match cache.find? query with
  | some cs => (cs, { cache with hits := cache.hits + 1 })
  | none =>
    let cs := TagQuery.parse query
    (cs, { cache with entries := (query, cs) :: cache.entries, misses := cache.misses + 1 })

/-- The components of a query, and the cache after the question. A query that is
not found is looked for again when it is entered. -/
def parse (cache : Cache) (query : String) : List Component × Cache :=
  match cache.find? query with
  | some cs => (cs, { cache with hits := cache.hits + 1 })
  | none => cache.enter query

def clear (cache : Cache) : Cache := { cache with entries := [] }

def size (cache : Cache) : Nat := cache.entries.length

def stats (cache : Cache) : Stats := ⟨cache.hits, cache.misses, cache.size⟩

end Cache

end TagQuery
