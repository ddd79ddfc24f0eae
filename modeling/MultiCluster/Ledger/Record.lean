import MultiCluster.Failure
import MultiCluster.Net.Network

/-!
# The allocation record

The record says which blocks of the global address space belong to which cluster of a broker domain. A record is
valid if no cluster has two entries, every block lies in the supernet, and blocks of different clusters share no
address.
-/

namespace MultiCluster

/-- The blocks of one cluster. -/
structure Entry where
  cluster : String
  /-- The network plugin that the cluster had when the entry was last written. -/
  plugin : Option String
  /-- The assigned blocks, normally one. -/
  blocks : List Network
  deriving DecidableEq

/-- The block on which decisions are based. -/
def Entry.primary? (e : Entry) : Option Network :=
  e.blocks.head?

/-- The assignments of a broker domain. -/
structure Record where
  /-- Whether global addressing is in use. -/
  enabled : Bool
  /-- The address space that the clusters share. -/
  supernet : Network
  /-- The number of addresses a cluster gets if it asks for no other number. -/
  defaultBlockSize : UInt64
  /-- The entries, in the order of first assignment. -/
  entries : List Entry
  deriving DecidableEq

namespace Record

/-- The record without entries. -/
def empty (supernet : Network) (defaultBlockSize : UInt64) (enabled : Bool) : Record where
  enabled := enabled
  supernet := supernet
  defaultBlockSize := defaultBlockSize
  entries := []

/-- The entry of a cluster. -/
def entryFor? (r : Record) (cluster : String) : Option Entry :=
  r.entries.find? fun e => e.cluster == cluster

/-- The primary block of a cluster. -/
def primary? (r : Record) (cluster : String) : Option Network :=
  (r.entryFor? cluster).bind Entry.primary?

/-- Every block of the other clusters, with its owner. -/
def blocksExcluding (r : Record) (cluster : String) : List (String × Network) :=
  (r.entries.filter fun e => e.cluster != cluster).flatMap fun e => e.blocks.map fun b => (e.cluster, b)

/-- Gives a cluster one block, in the first entry that is its own or else in a new last one. The plugin of an
entry is kept if none is named. -/
def assignEntry (cluster : String) (block : Network) (plugin : Option String) : List Entry → List Entry
  | [] => [{ cluster, plugin, blocks := [block] }]
  | e :: es =>
    if e.cluster = cluster then { e with plugin := plugin <|> e.plugin, blocks := [block] } :: es
    else e :: assignEntry cluster block plugin es

/-- Gives a cluster one block in place of the ones it had. -/
def assign (r : Record) (cluster : String) (block : Network) (plugin : Option String) : Record :=
  { r with entries := assignEntry cluster block plugin r.entries }

/-- The first block of the given entries that shares an address with a block, and its owner. -/
def collision? (entries : List Entry) (block : Network) : Option (String × Network) :=
  entries.findSome? fun e => (e.blocks.find? fun b => b.overlaps block).map fun b => (e.cluster, b)

/-- Checks a block against the supernet and the entries before its own. -/
def checkBlock (supernet : Network) (earlier : List Entry) (block : Network) : Except Failure Unit :=
  if !supernet.contains block then .error (.outOfBounds block.toText supernet.toText)
  else match collision? earlier block with
    | some (owner, existing) => .error (.overlap block.toText existing.toText owner)
    | none => .ok ()

/-- Checks a list of blocks, in order. -/
def checkBlocks (supernet : Network) (earlier : List Entry) : List Network → Except Failure Unit
  | [] => .ok ()
  | b :: bs => do
    checkBlock supernet earlier b
    checkBlocks supernet earlier bs

/-- Checks a list of entries, in order, against the entries before them. -/
def checkEntries (supernet : Network) (earlier : List Entry) : List Entry → Except Failure Unit
  | [] => .ok ()
  | e :: es => do
    if earlier.any fun p => p.cluster == e.cluster then
      throw (.malformed "clusterinfo" ("cluster " ++ e.cluster ++ " appears more than once"))
    checkBlocks supernet earlier e.blocks
    checkEntries supernet (earlier ++ [e]) es

/-- Checks that clusters have one entry each, that every block is inside the supernet, and that blocks of
different clusters are disjoint. -/
def validate (r : Record) : Except Failure Unit :=
  checkEntries r.supernet [] r.entries

/-! ### Lookups after an assignment -/

private theorem find?_assignEntry_self (cluster : String) (block : Network) (plugin : Option String)
    (es : List Entry) :
    ((assignEntry cluster block plugin es).find? fun e => e.cluster == cluster).bind Entry.primary? =
      some block := by
  induction es with
  | nil => simp [assignEntry, Entry.primary?]
  | cons e es ih =>
    by_cases h : e.cluster = cluster
    · simp [assignEntry, h, Entry.primary?]
    · simp only [assignEntry, h, ↓reduceIte]
      rw [List.find?_cons_of_neg (by simpa using h)]
      exact ih

private theorem find?_assignEntry_of_ne {cluster other : String} (h : other ≠ cluster) (block : Network)
    (plugin : Option String) (es : List Entry) :
    (assignEntry cluster block plugin es).find? (fun e => e.cluster == other) =
      es.find? fun e => e.cluster == other := by
  induction es with
  | nil => simp [assignEntry, Ne.symm h]
  | cons e es ih =>
    by_cases he : e.cluster = cluster
    · have hne : e.cluster ≠ other := fun h' => h (h' ▸ he)
      simp only [assignEntry, he, ↓reduceIte]
      rw [List.find?_cons_of_neg (by simpa using Ne.symm h), List.find?_cons_of_neg (by simpa using hne)]
    · simp only [assignEntry, he, ↓reduceIte, List.find?_cons, ih]

/-- A cluster's primary block is the one it was last assigned. -/
theorem primary?_assign (r : Record) (cluster : String) (block : Network) (plugin : Option String) :
    (r.assign cluster block plugin).primary? cluster = some block :=
  find?_assignEntry_self cluster block plugin r.entries

/-- An assignment leaves the entry of every other cluster as it was. -/
theorem entryFor?_assign_of_ne {cluster other : String} (h : other ≠ cluster) (r : Record) (block : Network)
    (plugin : Option String) : (r.assign cluster block plugin).entryFor? other = r.entryFor? other :=
  find?_assignEntry_of_ne h block plugin r.entries

end Record

end MultiCluster
