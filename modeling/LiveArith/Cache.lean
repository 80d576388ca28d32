import LiveArith.Module
import LiveArith.Expr.Basic
import LiveArith.Number.Word

/-!
The cache of compiled expressions, keyed by structural hash. An entry records when it was created
and last used and how often it was found. A lookup that finds an entry marks it used now; an insert
keeps an entry already under the key.
-/

set_option autoImplicit false

namespace LiveArith

/-- A cached compiled expression. -/
structure Entry (R : Type) where
  callable : Callable R
  expr : Expr
  created : Int
  lastUsed : Int
  hits : Nat := 0

/-- Counters of a cache. -/
structure CacheStats where
  size : Nat
  hits : Nat
  misses : Nat
  evictions : Nat
  sweeps : Nat
deriving Repr, Inhabited

/-- A cache of entries in insertion order. -/
structure Cache (R : Type) where
  entries : List (UInt64 × Entry R) := []
  size : Nat := 0
  retention : Int
  maxEntries : Nat
  hits : Nat := 0
  misses : Nat := 0
  evictions : Nat := 0
  sweeps : Nat := 0

namespace Cache

variable {R : Type}

def stats (c : Cache R) : CacheStats := ⟨c.size, c.hits, c.misses, c.evictions, c.sweeps⟩

def peek? (c : Cache R) (key : UInt64) : Option (Entry R) := c.entries.lookup key

def lookup (c : Cache R) (key : UInt64) (now : Int) : Option (Entry R) × Cache R :=
  match c.entries.lookup key with
  | none => (none, { c with misses := c.misses + 1 })
  | some e =>
    let e := { e with lastUsed := now, hits := e.hits + 1 }
    (some e, { c with entries := c.entries.map fun (k, x) => if k == key then (k, e) else (k, x),
                      hits := c.hits + 1 })

def insert (c : Cache R) (key : UInt64) (fn : Callable R) (expr : Expr) (now : Int) :
    (Entry R × Bool) × Cache R :=
  match c.entries.lookup key with
  | some e => ((e, false), c)
  | none =>
    let e : Entry R := { callable := fn, expr, created := now, lastUsed := now }
    ((e, true), { c with entries := c.entries ++ [(key, e)], size := c.size + 1 })

def oldest (entries : List (UInt64 × Entry R)) (k : Nat) : List UInt64 :=
  ((entries.mergeSort fun a b => a.2.lastUsed ≤ b.2.lastUsed).take k).map (·.1)

def sweep (c : Cache R) (now : Int) : List (Entry R) × Cache R :=
  let cutoff := Word.wrap (now - c.retention)
  let (stale, live) := c.entries.partition fun (_, e) => e.lastUsed < cutoff
  let excess := if c.maxEntries > 0 && live.length > c.maxEntries then
      oldest live (live.length - c.maxEntries) else []
  let (lru, kept) := live.partition fun (k, _) => excess.contains k
  let gone := stale ++ lru
  (gone.map (·.2), { c with entries := kept, size := c.size - gone.length,
                            evictions := c.evictions + gone.length, sweeps := c.sweeps + 1 })

end Cache

end LiveArith
