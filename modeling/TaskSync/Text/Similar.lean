/-!
# Similar words

Words that a misspelt word may have meant. The distance of two words counts the
letters that are added, dropped, replaced, or swapped with their neighbour.
-/

namespace TaskSync.Text

/-- The units of sixteen bits that a text has: two for a character beyond the first plane. -/
def units (s : String) : List Nat :=
  s.toList.flatMap fun c =>
    if c.toNat < 0x10000 then [c.toNat]
    else [0xD800 + (c.toNat - 0x10000) / 0x400, 0xDC00 + (c.toNat - 0x10000) % 0x400]

/-- The distances of the part of a word that ends with the letter `x` from every first part of `b`.
`above` are those of the part without `x`, and `twoAbove` those without the letter before as well. -/
def distanceRow (b : List Nat) (x : Nat) (before : Option Nat) (twoAbove above : List Nat) :
    List Nat :=
  (List.range b.length).foldl (fun row j =>
    let replaced := above.getD j 0 + if b[j]? = some x then 0 else 1
    let edited := min (min (above.getD (j + 1) 0) (row.getD j 0) + 1) replaced
    let isSwap := before.isSome && before = b[j]? && 0 < j && b[j - 1]? = some x
    row ++ [if isSwap then min edited (twoAbove.getD (j - 1) 0 + 1) else edited])
    [above.headD 0 + 1]

def distanceFrom (b : List Nat) (before : Option Nat) (twoAbove above : List Nat) : List Nat → Nat
  | [] => above.getD b.length 0
  | x :: rest => distanceFrom b (some x) above (distanceRow b x before twoAbove above) rest

def distance (a b : List Nat) : Nat := distanceFrom b none [] (List.range (b.length + 1)) a

/-- The distance if it may be small enough: words whose lengths differ by more than three share
nothing. -/
def nearness (a b : List Nat) : Nat :=
  if a.length + 3 < b.length || b.length + 3 < a.length then max a.length b.length
  else distance a b

/-- The candidates nearest to a word, in order. They are at most three away, and more than two
fifths of the longer word is shared. -/
def similar (word : String) (candidates : List String) : List String :=
  let near := candidates.filterMap fun candidate =>
    let a := units word
    let b := units candidate
    let length := max a.length b.length
    let away := nearness a b
    if 1 < b.length && away ≤ 3 && 2 * length < 5 * (length - away) then some (away, candidate)
    else none
  let best := (near.map (·.1)).min?
  ((near.filter fun entry => some entry.1 = best).map (·.2)).mergeSort fun x y => x ≤ y

end TaskSync.Text
