import PlotPipe.Failure.Message
import PlotPipe.Notice
/-!
# Channels

A channel takes whole scripts and can be closed. Both can fail with any
failure; the state that a channel is left in is returned in either case,
since a failed write may have changed it. Closing may also have something
to say.
-/

namespace PlotPipe

/-- States of a channel to a plotting program. -/
class Channel (σ : Type) where
  /-- Send a script, as one piece. -/
  write : String → σ → Except Failure Unit × σ
  /-- Close the channel. -/
  close : σ → Except Failure (List Notice) × σ

end PlotPipe
