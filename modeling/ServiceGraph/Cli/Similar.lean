import ServiceGraph.Binary64.Round

/-!
# Names close to a mistyped one

When a word on the command line names nothing, names that look like it are offered instead. Two
names look alike when their Jaro similarity is above `0.7`. The similarity of `a` and `b` counts
the characters `m` of `a` that match an unmatched equal character of `b` at most
`max |a| |b| / 2 - 1` places away, and half the number `t` of matched pairs that stand in a different
order; it is `(m/|a| + m/|b| + (m - t)/m) / 3`, and `0` when nothing matches.

The similarity is computed in binary64 arithmetic, each division and addition rounded in turn
(`jaro`), and compared with the binary64 number nearest `0.7`. The rounding matters: a similarity of
exactly `7/10`, such as that of `aniwg` and `config`, comes out just above that number, so the two
names look alike.
-/

namespace ServiceGraph.Cli

open Binary64

/-- The matched characters of `a`, in order, and the flags of the characters of `b` they took. -/
def matchChars (window : Nat) (b : Array Char) : List (Char × Nat) → List Char → Array Bool →
    List Char × Array Bool
  | [], acc, taken => (acc.reverse, taken)
  | (c, i) :: rest, acc, taken =>
    let hi := min b.size (i + window + 1)
    let lo := i - window
    match (List.range' lo (hi - lo)).find? (fun j => b[j]? == some c && !(taken.getD j false)) with
    | some j => matchChars window b rest (c :: acc) (taken.set! j true)
    | none => matchChars window b rest acc taken

/-- The Jaro similarity of two names, as a binary64 pattern. -/
def jaro (a b : String) : UInt64 :=
  let as := a.toList
  let bs := b.toList
  let la := as.length
  let lb := bs.length
  if la = 0 ∧ lb = 0 then ofNat 1
  else if la = 0 ∨ lb = 0 then ofNat 0
  else
    let window := max la lb / 2 - 1
    let (fromA, taken) := matchChars window bs.toArray as.zipIdx [] (Array.replicate lb false)
    let fromB := (bs.zip taken.toList).filterMap fun (c, f) => if f then some c else none
    let m := fromA.length
    let t := ((fromA.zip fromB).filter fun (x, y) => x != y).length / 2
    if m = 0 then ofNat 0
    else div (add (add (nearest m la) (nearest m lb)) (nearest (m - t) m)) (ofNat 3)

/-- Whether two names look alike: their similarity is above `0.7`. Non-negative binary64
numbers are ordered as their patterns are. -/
def close (similarity : UInt64) : Bool := nearest 7 10 < similarity

/-- The names that look like `word`, least alike first; names equally alike keep their order. -/
def similarNames (word : String) (names : List String) : List String :=
  let scored := (names.map fun n => (jaro word n, n)).filter (close ·.1)
  (scored.mergeSort fun x y => x.1 ≤ y.1).map (·.2)

/-- The name most like `word`, if any looks like it. -/
def closestName (word : String) (names : List String) : Option String :=
  (similarNames word names).getLast?

end ServiceGraph.Cli
