/-!
# Ranges of characters

The character classes of this library are given by tables of ranges, each table named for the
property that its characters share. A table covers the characters beyond ASCII only; a class decides
the ASCII ones by itself, so that the common case needs no search and can be reasoned about without
the table.
-/

namespace RecordStore.Text

/-- Whether a character is in one of the ranges, each given by its first and last member. -/
def inRanges (ranges : List (Nat × Nat)) (c : Char) : Bool :=
  ranges.any fun (first, last) => first ≤ c.toNat && c.toNat ≤ last

/-- Whether a character is in one of the runs, each given by first member, last member and stride.
-/
def inRuns (runs : List (Nat × Nat × Nat)) (c : Char) : Bool :=
  runs.any fun (first, last, stride) =>
    first ≤ c.toNat && c.toNat ≤ last && (c.toNat - first) % stride == 0

end RecordStore.Text
