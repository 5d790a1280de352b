import ServiceGraph.Graph.Basic

/-!
# Pairing records of two snapshots

Records of an earlier and a later snapshot are paired greedily by a match predicate: each earlier
record, in order, takes the first later record it matches that no earlier record has taken
(`partners`). Unpaired earlier records are subtractions, unpaired later records additions (in
later order), and the later partners of the paired ones, in earlier order, are unmodified.

Requests match when verb, destination URL, source method, destination class, caller class and
return type agree (`Request.sameAs`; the argument and the calling function are ignored, and an
absent verb differs from an empty one); nodes match on name, type and path (`Node.sameAs`).
-/

namespace ServiceGraph

/-- The index of the first later record, not among `taken`, that `x` matches. -/
def firstFree {α : Type} (m : α → α → Bool) (x : α) (later : List α) (taken : List Nat) :
    Option Nat :=
  ((later.zipIdx).find? fun yj => !taken.contains yj.2 && m x yj.1).map (·.2)

/-- The partner index of each earlier record, or none, taking partners greedily in order. -/
def partners {α : Type} (m : α → α → Bool) (early later : List α) : List (Option Nat) :=
  (early.foldl (fun (acc : List (Option Nat) × List Nat) x =>
    match firstFree m x later acc.2 with
    | some j => (acc.1 ++ [some j], acc.2 ++ [j])
    | none => (acc.1 ++ [none], acc.2)) ([], [])).1

/-- A pairing by positions: later positions added, earlier positions removed, and the later
positions of the pairs in earlier order. -/
structure IndexSplit where
  additions : List Nat
  subtractions : List Nat
  unmodified : List Nat

/-- The pairing of two record lists by positions. -/
def pairIndices {α : Type} (m : α → α → Bool) (early later : List α) : IndexSplit :=
  let ps := partners m early later
  let taken := ps.filterMap id
  { additions := (List.range later.length).filter (!taken.contains ·)
    subtractions := ((ps.zipIdx).filter (·.1.isNone)).map (·.2)
    unmodified := taken }

/-- A pairing by records. -/
structure RecordSplit (α : Type) where
  additions : List α
  subtractions : List α
  unmodified : List α

/-- Whether a record was added or removed. -/
def RecordSplit.hasChanges {α : Type} (s : RecordSplit α) : Bool :=
  !s.additions.isEmpty || !s.subtractions.isEmpty

/-- The pairing of two record lists, as records. -/
def pairRecords {α : Type} (m : α → α → Bool) (early later : List α) : RecordSplit α :=
  let s := pairIndices m early later
  { additions := s.additions.filterMap (later[·]?)
    subtractions := s.subtractions.filterMap (early[·]?)
    unmodified := s.unmodified.filterMap (later[·]?) }

/-- Whether two requests are the same call across snapshots. -/
def Request.sameAs (a b : Request) : Bool :=
  a.verb == b.verb && a.destinationUrl == b.destinationUrl && a.sourceMethod == b.sourceMethod &&
    a.destinationClassName == b.destinationClassName && a.className == b.className &&
    a.msReturn == b.msReturn

/-- Whether two nodes are the same microservice across snapshots. -/
def Node.sameAs (a b : Node) : Bool :=
  a.name == b.name && a.kind == b.kind && a.path == b.path

end ServiceGraph
