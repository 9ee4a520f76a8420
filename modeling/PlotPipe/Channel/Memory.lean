import PlotPipe.Channel.Basic
/-!
# Channels — in memory

A channel that keeps what is written to it. It can be told to complain,
and then refuses every write until it is told otherwise; once closed, it
refuses everything. A second channel passes the next complaint on as it
is, as a channel of another make would.
-/

namespace PlotPipe

/-- A channel that keeps its chunks. -/
structure MemoryChannel where
  chunks : List String := []
  closed : Bool := false
  closeCalls : Nat := 0
  complaint : Option Failure := none

namespace MemoryChannel

/-- Keep a chunk. -/
def write (data : String) (c : MemoryChannel) : Except Failure Unit × MemoryChannel :=
  if c.closed then (.error (.write .memoryClosed), c)
  else
    match c.complaint with
    | some complaint => (.error (.write (.memory complaint.message)), c)
    | none => (.ok (), { c with chunks := c.chunks ++ [data] })

/-- Close the channel; every call is counted. -/
def close (c : MemoryChannel) : MemoryChannel :=
  { c with closed := true, closeCalls := c.closeCalls + 1 }

/-- All chunks as one text. -/
def text (c : MemoryChannel) : String := String.join c.chunks

end MemoryChannel

instance : Channel MemoryChannel where
  write := MemoryChannel.write
  close c := (.ok [], c.close)

/-- A channel in memory whose next write can be made to fail. -/
structure FaultyChannel where
  memory : MemoryChannel := {}
  pending : Option Failure := none

namespace FaultyChannel

/-- Keep a chunk, or fail as it is pending, once. -/
def write (data : String) (c : FaultyChannel) : Except Failure Unit × FaultyChannel :=
  match c.pending with
  | some failure => (.error failure, { c with pending := none })
  | none =>
    let (result, memory) := c.memory.write data
    (result, { c with memory })

/-- Close the channel. -/
def close (c : FaultyChannel) : FaultyChannel :=
  { c with memory := c.memory.close }

end FaultyChannel

instance : Channel FaultyChannel where
  write := FaultyChannel.write
  close c := (.ok [], c.close)

end PlotPipe
