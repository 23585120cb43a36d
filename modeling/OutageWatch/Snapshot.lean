import OutageWatch.Kind
import OutageWatch.Listing

/-!
# Snapshots

A snapshot is what one round of queries saw: the namespaces, and for each kind the workloads found,
if the kind was asked for.  The readiness of every workload seen is indexed by kind, namespace and
name when the snapshot is made; a later entry of one key overwrites an earlier one.

## Main definitions

* `Record`, `Record.readiness` : a workload as it was seen.
* `Snapshot`, `Snapshot.ofListings` : a snapshot, made from listings of which the last one of a
  kind counts.
* `Snapshot.isConclusiveFor`, `Snapshot.failures` : which kinds it tells anything about.
* `Snapshot.observe` : what it tells about one workload.

## Main results

* `Index.find?_insert` : looking up a key after an entry was made for a key.
-/

namespace OutageWatch

/-- Whether a workload is up, as far as an observation tells. -/
inductive Readiness where
  | ready
  | unready
  /-- The observation tells nothing. -/
  | unknown
  deriving DecidableEq, Repr

/-- A workload as it was seen.  A count that could not be read is missing. -/
structure Record where
  name : String
  home : String
  ready : Option Int
  desired : Option Int
  deriving DecidableEq, Repr

/-- A workload is up if at least one of its replicas is ready. -/
def Record.readiness (r : Record) : Readiness :=
  match r.ready with
  | none => .unknown
  | some count => if count ≤ 0 then .unready else .ready

/-! ### The index -/

/-- What a workload is known by: its kind, its namespace and its name. -/
abbrev WorkloadKey := Kind × String × String

/-- Readiness by workload; of one key only the last entry is kept. -/
abbrev Index := List (WorkloadKey × Readiness)

namespace Index

/-- Makes an entry, in the place of the one of the same key if there is one. -/
def insert (key : WorkloadKey) (r : Readiness) : Index → Index
  | [] => [(key, r)]
  | (k, s) :: rest => if k = key then (key, r) :: rest else (k, s) :: insert key r rest

/-- The entry of a key. -/
def find? (key : WorkloadKey) : Index → Option Readiness
  | [] => none
  | (k, r) :: rest => if k = key then some r else find? key rest

/-- The index of entries of which the last one of a key counts. -/
def ofEntries (entries : List (WorkloadKey × Readiness)) : Index :=
  entries.foldl (fun index e => insert e.1 e.2 index) []

theorem find?_insert (key k : WorkloadKey) (r : Readiness) (index : Index) :
    find? k (insert key r index) = if key = k then some r else find? k index := by
  induction index with
  | nil => simp [insert, find?]
  | cons e rest ih =>
    obtain ⟨l, s⟩ := e
    by_cases h : l = key
    · subst h
      by_cases hk : l = k <;> simp [insert, find?, hk]
    · by_cases hk : l = k
      · subst hk
        simp [insert, find?, h, Ne.symm h]
      · simp [insert, find?, h, hk, ih]

end Index

/-! ### Snapshots -/

/-- What one round of queries saw. -/
structure Snapshot where
  namespaces : Listing String
  listings : PerKind (Option (Listing Record))
  index : Index
  deriving DecidableEq, Repr

namespace Snapshot

/-- The listings by kind, the last one of a kind. -/
def lastListings (pairs : List (Kind × Listing Record)) : PerKind (Option (Listing Record)) :=
  pairs.foldl (fun p pair => p.set pair.1 (some pair.2)) (.const none)

/-- The index entries of the records of one kind. -/
def entries (listings : PerKind (Option (Listing Record))) (k : Kind) :
    List (WorkloadKey × Readiness) :=
  ((listings.get k).elim [] Listing.items).map fun r => ((k, r.home, r.name), r.readiness)

/-- The snapshot of a namespace listing and listings of workloads. -/
def ofListings (namespaces : Listing String) (pairs : List (Kind × Listing Record)) : Snapshot :=
  let listings := lastListings pairs
  ⟨namespaces, listings, Index.ofEntries (Kind.all.flatMap (entries listings))⟩

/-- The records of one kind. -/
def records (s : Snapshot) (k : Kind) : List Record := (s.listings.get k).elim [] Listing.items

/-- Whether the snapshot tells anything about a kind: it was asked for, and the query did not
fail. -/
def isConclusiveFor (s : Snapshot) (k : Kind) : Bool :=
  (s.listings.get k).any fun listing => !listing.isFailed

/-- The reason given for a kind that was not asked for. -/
def notQueried : String := "not queried"

/-- Why the snapshot tells nothing about a kind. -/
def failure? (s : Snapshot) (k : Kind) : Option String :=
  match s.listings.get k with
  | some (.failed reason) => some reason
  | none => some notQueried
  | _ => none

/-- The kinds that the snapshot tells nothing about, with the reasons. -/
def failures (s : Snapshot) : List (Kind × String) :=
  Kind.all.filterMap fun k => (s.failure? k).map (k, ·)

/-- What the snapshot tells about a workload.  One that is missing from a conclusive listing is
gone, and so counts as down. -/
def observe (s : Snapshot) (k : Kind) (home name : String) : Readiness :=
  if s.isConclusiveFor k then (s.index.find? (k, home, name)).getD .unready else .unknown

end Snapshot

end OutageWatch
