import PlotPipe.Channel.Memory
import PlotPipe.Journal.Basic
import PlotPipe.Proofs.Session.Calls
/-!
# Sessions — the account of a run

A session shows its work in five places: the channel, the script last
sent, the recorder, the echo and the axis mode. `Ledger` says what a run
has sent and shown, from the actions and their results alone, and
`Account` that all places agree with it. They are brought up to date at
different points of a request, and stay in agreement because a request
changes either none of them or all, except for the echo: a script is shown
before it is encoded and sent. So the one script that is refused is shown
as well, and every script that cannot be encoded is, as often as it is
asked for.
-/

namespace PlotPipe

namespace Event

variable {ε : Type}

/-- **What an event sends and what it shows**, with the axis mode that the
last plot has left before it and after it. A request that comes to a
regular end sends its script and shows it, unless there is nothing in it.
A request whose script is refused, or cannot be encoded, shows it;
nothing else shows anything. -/
inductive Sends (alphabet : Alphabet) (time : Bool) (e : Event ε) :
    List (Request × String) → List String → Bool → Prop
  | script {r : Request} {script : String} : e.action = .request r → e.isOk →
      r.script time = .ok script → script ≠ "" → e.echoed = script →
      Sends alphabet time e [(r, script)] [script] (r.axisAfter time)
  | empty {r : Request} : e.action = .request r → e.isOk →
      r.script time = .ok "" → e.echoed = "" → Sends alphabet time e [] [] (r.axisAfter time)
  | refused {r : Request} {script : String} : e.action = .request r → e.isOk = false →
      r.script time = .ok script → e.refused = [script] → e.echoed = script →
      Sends alphabet time e [] [script] time
  | unencodable {r : Request} {script : String} {f : Failure} : e.action = .request r →
      r.script time = .ok script → alphabet.encode script = .error f → e.result = .error f →
      e.calls = [] → e.echoed = script → Sends alphabet time e [] [script] time
  | failed : e.isOk = false → e.calls = [] → e.echoed = "" → Sends alphabet time e [] [] time
  | idle : (∀ r, e.action ≠ .request r) → e.echoed = "" → Sends alphabet time e [] [] time

/-- **What a run sends and shows**, event by event. -/
inductive Ledger (alphabet : Alphabet) :
    Bool → List (Event ε) → List (Request × String) → List String → Prop
  | nil {time : Bool} : Ledger alphabet time [] [] []
  | cons {time time' : Bool} {e : Event ε} {t : List (Event ε)}
      {sent rest : List (Request × String)} {shown others : List String} :
      Sends alphabet time e sent shown time' → Ledger alphabet time' t rest others →
      Ledger alphabet time (e :: t) (sent ++ rest) (shown ++ others)

end Event

namespace Session

variable {σ ρ ε : Type}

/-- **The account of a run**: what the session shows, against what was
sent and shown. -/
structure Account (s s' : Session σ ρ) (t : List (Event ε)) (sent : List (Request × String))
    (shown : List String) : Prop where
  accepted : t.flatMap Event.accepted = sent.map Prod.snd
  lastScript : s'.lastScript = (sent.map Prod.snd).getLast?.or s.lastScript
  entries : t.flatMap Event.entries = sent.map fun (r, script) => s.entry r.name script
  echo : s'.echo = s.echo ++ String.join shown
  /-- What can be encoded of what is shown has been written. -/
  written : shown.filter s.alphabet.encodes =
    (t.flatMap Event.calls).filterMap ChannelCall.written?

/-- A session that shows its scripts and has a recorder. -/
structure Shows (s : Session σ ρ) : Prop where
  verbose : s.verbose = true
  recorder : s.recorder.isSome

variable {s s₁ s' : Session σ ρ} {e : Event ε} {t : List (Event ε)}
  {sent rest : List (Request × String)} {shown others : List String}

/-- What is shown of a script by a session that shows its scripts. -/
theorem Shows.shown_eq (h : s.Shows) (script : String) : s.shown script = script := by
  rw [Session.shown, if_pos h.verbose]

/-- An event that showed nothing leaves the account as it is. -/
theorem account_nil (hcalls : e.calls.filterMap ChannelCall.written? = [])
    (haccepted : e.accepted = []) (hentries : e.entries = [])
    (hlast : s'.lastScript = s.lastScript) (hecho : s'.echo = s.echo) :
    Account s s' [e] [] [] where
  accepted := by simp [haccepted]
  lastScript := by simp [hlast]
  entries := by simp [hentries]
  echo := by simp [hecho]
  written := by simp [hcalls]

/-- **Accounts add up.** -/
theorem Account.cons (hclock : s₁.clock = s.clock) (halphabet : s₁.alphabet = s.alphabet)
    (he : Account s s₁ [e] sent shown) (ht : Account s₁ s' t rest others) :
    Account s s' (e :: t) (sent ++ rest) (shown ++ others) := by
  constructor
  · rw [List.map_append, ← he.accepted, ← ht.accepted]
    simp
  · rw [List.map_append, ht.lastScript, he.lastScript, List.getLast?_append, Option.or_assoc]
  · -- An entry depends on the session by its clock only.
    have hentry : ∀ operation script, s₁.entry operation script = s.entry operation script := by
      simp [entry, hclock]
    have hrest := ht.entries
    simp only [hentry] at hrest
    rw [List.map_append, ← he.entries, ← hrest]
    simp
  · rw [ht.echo, he.echo, String.append_assoc, ← String.join_append]
  · rw [List.filter_append, he.written, ← halphabet, ht.written, ← List.filterMap_append]
    simp

variable [Channel σ] [Recorder ρ] {env : ε → σ → σ}

/-- **One step keeps the account**, where the recorder takes every
entry. -/
theorem Step.account (hkeeper : ∀ entry (keeper : ρ), (Recorder.record entry keeper).1 = .ok ())
    (hshows : s.Shows) (h : Step env s e s') :
    ∃ sent shown, e.Sends s.alphabet s.timeAxis sent shown s'.timeAxis ∧
      Account s s' [e] sent shown ∧ s'.Shows ∧ s'.clock = s.clock ∧ s'.alphabet = s.alphabet := by
  have hshown := hshows.shown_eq
  obtain ⟨hverbose, hrecorder⟩ := hshows
  cases h with
  | turnedDown =>
    exact ⟨[], [], .failed rfl rfl rfl, account_nil rfl rfl rfl rfl rfl, ⟨hverbose, hrecorder⟩,
      rfl, rfl⟩
  | silent hprep =>
    exact ⟨[], [], .empty rfl rfl (script_of_prepare hprep) rfl,
      account_nil rfl rfl rfl rfl rfl, ⟨hverbose, hrecorder⟩, rfl, rfl⟩
  | @unencodable r script f hprep hne henc =>
    refine ⟨[], [script], .unencodable rfl (script_of_prepare hprep) henc rfl rfl (hshown script),
      ⟨rfl, rfl, rfl, ?_, ?_⟩, ⟨hverbose, hrecorder⟩, rfl, rfl⟩
    · simp [hshown]
    · simp [Alphabet.encodes_of_eq_error henc]
  | @refused r script data f channel notices hprep hne henc hw =>
    refine ⟨[], [script], .refused rfl rfl (script_of_prepare hprep) rfl (hshown script),
      ⟨rfl, rfl, rfl, ?_, ?_⟩, ⟨hverbose, hrecorder⟩, rfl, rfl⟩
    · simp [hshown]
    · simp [Alphabet.encodes_of_eq_ok henc]
  -- There is a recorder, so no script is sent without one.
  | sent _ _ _ _ hnone => simp [hnone] at hrecorder
  | @recorded r script data channel notices keeper keeper' result hprep hne henc hw hr hk =>
    obtain rfl : result = .ok () := by
      rw [← hkeeper (s.entry r.name script) keeper, hk]
    refine ⟨[(r, script)], [script],
      .script rfl rfl (script_of_prepare hprep) hne (hshown script), ⟨rfl, rfl, rfl, ?_, ?_⟩,
      ⟨hverbose, rfl⟩, rfl, rfl⟩
    · simp [hshown]
    · simp [Alphabet.encodes_of_eq_ok henc]
  | closedBefore =>
    exact ⟨[], [], .idle (by simp) rfl, account_nil rfl rfl rfl rfl rfl, ⟨hverbose, hrecorder⟩,
      rfl, rfl⟩
  | closing =>
    exact ⟨[], [], .idle (by simp) rfl, account_nil rfl rfl rfl rfl rfl, ⟨hverbose, hrecorder⟩,
      rfl, rfl⟩
  | disturbed =>
    exact ⟨[], [], .idle (by simp) rfl, account_nil rfl rfl rfl rfl rfl, ⟨hverbose, hrecorder⟩,
      rfl, rfl⟩

/-- **A run keeps the account.** -/
theorem Runs.account (hkeeper : ∀ entry (keeper : ρ), (Recorder.record entry keeper).1 = .ok ())
    (hshows : s.Shows) (h : Runs env s t s') :
    ∃ sent shown, Event.Ledger s.alphabet s.timeAxis t sent shown ∧
      Account s s' t sent shown := by
  induction h with
  | nil => exact ⟨[], [], .nil, rfl, rfl, rfl, (String.append_empty ..).symm, rfl⟩
  | cons hstep _ ih =>
    obtain ⟨sent, shown, hsends, haccount, hshows', hclock, halphabet⟩ :=
      hstep.account hkeeper hshows
    obtain ⟨rest, others, hledger, hrest⟩ := ih hshows'
    rw [halphabet] at hledger
    exact ⟨sent ++ rest, shown ++ others, .cons hsends hledger,
      haccount.cons hclock halphabet hrest⟩

end Session

/-! ## Over a channel in memory -/

namespace MemoryChannel

/-- Set or clear the complaint of a channel. -/
def complain (complaint : Option Failure) (c : MemoryChannel) : MemoryChannel :=
  { c with complaint }

/-- Everything that a channel in memory refuses is a failed write. -/
theorem refusesAsWrite : Channel.RefusesAsWrite complain fun _ => True where
  refused {script c c' f} _ h := by
    have hwrite : c.write script = (.error f, c') := h
    unfold write at hwrite
    split at hwrite
    · cases hwrite
      rfl
    · split at hwrite
      · cases hwrite
        rfl
      · cases hwrite
  write _ _ := trivial
  close _ _ := trivial
  disturbed _ := trivial

/-- What a write leaves of the chunks. -/
theorem chunks_of_write {script : String} {c c' : MemoryChannel} {result : Except Failure Unit}
    (h : Channel.write script c = (result, c')) :
    c'.chunks = c.chunks ++ (ChannelCall.write script result).accepted?.toList := by
  have hwrite : c.write script = (result, c') := h
  unfold write at hwrite
  split at hwrite
  · cases hwrite
    simp
  · split at hwrite
    · cases hwrite
      simp
    · cases hwrite
      simp

end MemoryChannel

namespace Session

variable {ρ : Type} [Recorder ρ] {s s' : Session MemoryChannel ρ}
  {e : Event (Option Failure)} {t : List (Event (Option Failure))}

/-- The chunks of the channel are the scripts it accepted. -/
theorem Step.chunks (h : Step MemoryChannel.complain s e s') :
    s'.channel.chunks = s.channel.chunks ++ e.accepted := by
  cases h with
  | refused _ _ _ hw => exact MemoryChannel.chunks_of_write hw
  | sent _ _ _ hw => exact MemoryChannel.chunks_of_write hw
  | recorded _ _ _ hw => exact MemoryChannel.chunks_of_write hw
  | closing _ hc =>
    cases hc
    simp [Event.accepted, MemoryChannel.close]
  | _ => simp [Event.accepted, MemoryChannel.complain]

theorem Runs.chunks (h : Runs MemoryChannel.complain s t s') :
    s'.channel.chunks = s.channel.chunks ++ t.flatMap Event.accepted := by
  induction h with
  | nil => simp
  | cons hstep _ ih => rw [ih, hstep.chunks, List.flatMap_cons, List.append_assoc]

/-- A verbose session over a channel in memory, with a recorder, as it is
opened. -/
def verboseOver (channel : MemoryChannel) (keeper : ρ) (strict : Bool) (clock : Int)
    (alphabet : Alphabet := {}) : Session MemoryChannel ρ :=
  { channel, recorder := some keeper, verbose := true, strict, clock, alphabet }

/-- **The trace of a session**: its channel, its last script, its entries
and its echo, against what it has sent and shown. -/
structure Traced (s s' : Session MemoryChannel ρ) (t : List (Event (Option Failure)))
    (sent : List (Request × String)) (shown : List String) : Prop where
  chunks : s'.channel.chunks = sent.map Prod.snd
  lastScript : s'.lastScript = s'.channel.chunks.getLast?
  entries : t.flatMap Event.entries = sent.map fun (r, script) => s.entry r.name script
  echo : s'.echo = String.join shown
  /-- What can be encoded of what is shown are the chunks and, behind
  them, what was refused. -/
  encodable : shown.filter s.alphabet.encodes = s'.channel.chunks ++ t.flatMap Event.refused
  refusedOnce : (t.flatMap Event.refused).length ≤ 1

omit [Recorder ρ] in
/-- Where everything can be encoded, the echo is made of the chunks and
of what was refused. -/
theorem Traced.echo_of_encodes {sent : List (Request × String)} {shown : List String}
    (h : Traced s s' t sent shown) (hshown : ∀ script ∈ shown, s.alphabet.encodes script) :
    s'.echo = String.join (s'.channel.chunks ++ t.flatMap Event.refused) := by
  rw [h.echo, ← h.encodable, List.filter_eq_self.2 hshown]

/-- **Every run of a session in memory is traced.** With a recorder that
takes every entry, and with complaints of the channel set and cleared at
any time, there is one chunk for each request that came to a regular end
with something to send, and nothing else; the script last sent is the
last chunk; there is one entry for each chunk; and the echo is made of
the chunks, followed by the one script that was refused, if there is
one, and between them, each at its place, of the scripts that could not be
encoded. Where there are none of these, it is made of the chunks and what
was refused alone. -/
theorem exists_ledger_traced (channel : MemoryChannel) (keeper : ρ) (strict : Bool) (clock : Int)
    (alphabet : Alphabet) (actions : List (Action (Option Failure)))
    (hchunks : channel.chunks = [])
    (hkeeper : ∀ entry (keeper : ρ), (Recorder.record entry keeper).1 = .ok ()) :
    let s := verboseOver channel keeper strict clock alphabet
    let t := s.trace MemoryChannel.complain actions
    let s' := s.run MemoryChannel.complain actions
    ∃ sent shown, Event.Ledger alphabet false t sent shown ∧ Traced s s' t sent shown ∧
      ((∀ script ∈ shown, alphabet.encodes script) →
        s'.echo = String.join (s'.channel.chunks ++ t.flatMap Event.refused)) := by
  intro s t s'
  have hruns : Runs MemoryChannel.complain s t (s.run MemoryChannel.complain actions) :=
    runs_trace MemoryChannel.complain s actions
  obtain ⟨sent, shown, hledger, haccount⟩ := hruns.account hkeeper ⟨rfl, rfl⟩
  obtain ⟨scripts, refusal, closing, hcalls⟩ :=
    hruns.orderly_calls MemoryChannel.refusesAsWrite trivial
  have hchannel := hruns.chunks
  rw [show s.channel.chunks = [] from hchunks, List.nil_append] at hchannel
  have htraced : Traced s s' t sent shown := by
    refine ⟨hchannel.trans haccount.accepted, ?_, haccount.entries, ?_, ?_, ?_⟩
    · rw [hchannel, haccount.accepted, haccount.lastScript]
      exact Option.or_none
    · exact haccount.echo.trans String.empty_append
    · -- What can be encoded was written, and the calls are in order.
      rw [haccount.written, hchannel, flatMap_accepted, flatMap_refused, hcalls,
        ChannelCall.written_inOrder, ChannelCall.accepted_inOrder, ChannelCall.refused_inOrder]
    · rw [flatMap_refused, hcalls, ChannelCall.refused_inOrder]
      cases refusal <;> simp
  exact ⟨sent, shown, hledger, htraced, htraced.echo_of_encodes⟩

/-- A plot that is sent and one that is refused; the complaint is gone
before the session is closed. -/
def interrupted : List (Action (Option Failure)) :=
  [.request plainPlot, .disturb (some (.system .brokenPipe (.said "gone"))), .request plainPlot,
    .disturb none, .request plainPlot, .close]

/-- An alphabet with one surrogate. -/
def oneSurrogate : Alphabet where
  surrogate? c := if c = '\ue000' then some ⟨0, by decide⟩ else none

/-- A title that cannot be encoded in that alphabet, before and after a
plot, and before what is interrupted. -/
def garbled : List (Action (Option Failure)) :=
  .request (.set { title := .text "\ue000" }) :: .request plainPlot ::
    .request (.set { title := .text "\ue000" }) :: interrupted

/-- The garbled run has sent two scripts, and what is interrupted without
a title shows no others than were sent and refused. -/
theorem traced_garbled :
    let s := verboseOver {} ({} : EntryList) false 0 oneSurrogate
    let s' := s.run MemoryChannel.complain garbled
    let t := s.trace MemoryChannel.complain garbled
    let plain := verboseOver {} ({} : EntryList) false 0
    (∃ sent shown, Event.Ledger oneSurrogate false t sent shown ∧ Traced s s' t sent shown ∧
      sent.map Prod.snd = ["plot x with lines notitle\n", "plot x with lines notitle\n"] ∧
      t.map Event.isOk = [false, true, false, true, true, false, true, false, true]) ∧
    (plain.run MemoryChannel.complain interrupted).echo =
      String.join ((plain.run MemoryChannel.complain interrupted).channel.chunks ++
        (plain.trace MemoryChannel.complain interrupted).flatMap Event.refused) := by
  refine ⟨?_, ?_⟩
  · obtain ⟨sent, shown, hledger, htraced, -⟩ :=
      exists_ledger_traced {} ({} : EntryList) false 0 oneSurrogate garbled rfl fun _ _ => rfl
    refine ⟨sent, shown, hledger, htraced, ?_, by decide +kernel⟩
    rw [← htraced.chunks]
    decide +kernel
  · obtain ⟨-, shown, -, -, hecho⟩ :=
      exists_ledger_traced {} ({} : EntryList) false 0 {} interrupted rfl fun _ _ => rfl
    refine hecho fun script _ => ?_
    exact Alphabet.encodes_of_eq_ok (Alphabet.encode_plain script)

/-- **A script that cannot be encoded has been shown**, so that the echo
of the garbled run is not made of the chunks and what was refused. -/
theorem echo_ne_garbled :
    let s := verboseOver {} ({} : EntryList) false 0 oneSurrogate
    let s' := s.run MemoryChannel.complain garbled
    s'.echo ≠ String.join
      (s'.channel.chunks ++ (s.trace MemoryChannel.complain garbled).flatMap Event.refused) := by
  decide +kernel

end Session

end PlotPipe
