import PlotPipe.Table.Packed
/-!
# Machine

What readers and writers of files take from the machine they run on. How
deep a text may be nested is a matter of the stack, of which every level
takes a part, and the calls that stand below a reader have taken theirs.
How a packed file is unpacked is a matter of the libraries that are there.

The plain machine has the stack that is usual, and looks at packed files
as far as it takes for files whose content is a text.
-/

namespace PlotPipe

/-- What a machine offers. -/
structure Machine where
  /-- The levels that a line of the journal may open where it is read by
  itself. -/
  levels : Nat := 988
  /-- The levels that the values of a document may open. What the
  innermost value takes depends on its kind, so the number is one of the
  document. -/
  documentLevels : String → Nat := fun _ => 985
  /-- What comes out of a packed file. -/
  unpack : Packing → ByteArray → Unpacked := Packing.unpack

namespace Machine

/-- The levels that a line may open where it is read for a summary or for
pruning, from one call further away. -/
def innerReadLevels (m : Machine) : Nat := m.levels - 1

theorem innerReadLevels_le (m : Machine) : m.innerReadLevels ≤ m.levels := Nat.sub_le ..

/-- The levels that an entry may open to be written. -/
def writeLevels (m : Machine) : Nat := m.levels - 1

theorem writeLevels_le (m : Machine) : m.writeLevels ≤ m.levels := Nat.sub_le ..

/-- The levels that an object may open that pruning writes again. -/
def rewriteLevels (m : Machine) : Nat := m.levels - 3

theorem rewriteLevels_le (m : Machine) : m.rewriteLevels ≤ m.levels := Nat.sub_le ..

end Machine

end PlotPipe
