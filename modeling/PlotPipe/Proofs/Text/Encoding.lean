import PlotPipe.Text.Alphabet
/-!
# Text — what can be encoded

A text can be encoded when it has no surrogates (`encode_eq_ok_iff`), so
in the plain alphabet always (`encode_plain`). What is wrong with any
other text is its first run of surrogates (`spoiled_of_encode`).
-/

namespace PlotPipe

namespace Alphabet

variable {a : Alphabet} {cs : List Char} {text : String}

/-- **What is wrong with characters that cannot be encoded**: their first
run of surrogates, which goes on as long as there are any. -/
inductive Spoiled (a : Alphabet) : List Char → EncodingFault → Prop
  | run {before run after : List Char} {c : Char} {distance : Fin Surrogate.count} :
      (∀ b ∈ before, a.isSurrogate b = false) → a.surrogate? c = some distance →
      (∀ b ∈ run, a.isSurrogate b = true) → (∀ b ∈ after.head?, a.isSurrogate b = false) →
      Spoiled a (before ++ c :: (run ++ after))
        ⟨Surrogate.first + distance, before.length, run.length + 1⟩

theorem faultFrom?_eq_none_iff (position : Nat) :
    a.faultFrom? position cs = none ↔ ∀ c ∈ cs, a.isSurrogate c = false := by
  induction cs generalizing position with
  | nil => exact iff_of_true rfl nofun
  | cons c rest ih =>
    rw [List.forall_mem_cons, faultFrom?, isSurrogate]
    cases a.surrogate? c with
    | none => exact (ih (position + 1)).trans (and_iff_right rfl).symm
    | some distance => exact iff_of_false nofun fun h => nomatch h.1

/-- A text without surrogates can be encoded, and no other. -/
theorem encode_eq_ok_iff {data : ByteArray} :
    a.encode text = .ok data ↔
      (∀ c ∈ text.toList, a.isSurrogate c = false) ∧ data = text.toUTF8 := by
  rw [encode, ← faultFrom?_eq_none_iff 0]
  cases a.faultFrom? 0 text.toList with
  | none =>
    rw [Except.ok.injEq, eq_comm]
    exact (and_iff_right rfl).symm
  | some fault => exact iff_of_false nofun fun h => nomatch h.1

theorem encodes_of_eq_ok {data : ByteArray} (h : a.encode text = .ok data) :
    a.encodes text = true := by
  rw [encodes, h]
  rfl

theorem encodes_of_eq_error {f : Failure} (h : a.encode text = .error f) :
    a.encodes text = false := by
  rw [encodes, h]
  rfl

/-- In the plain alphabet every text can be encoded. -/
theorem encode_plain (text : String) : ({} : Alphabet).encode text = .ok text.toUTF8 :=
  encode_eq_ok_iff.2 ⟨fun _ _ => rfl, rfl⟩

/-- One more character in front moves the run. -/
theorem Spoiled.cons {c : Char} {fault : EncodingFault} (h : a.Spoiled cs fault)
    (hc : a.isSurrogate c = false) :
    a.Spoiled (c :: cs) { fault with position := fault.position + 1 } := by
  cases h with
  | run hbefore hfirst hrun hafter =>
    exact .run (List.forall_mem_cons.2 ⟨hc, hbefore⟩) hfirst hrun hafter

/-- The run that is looked for from a position on. -/
theorem spoiled_of_faultFrom? {position : Nat} {fault : EncodingFault}
    (h : a.faultFrom? position cs = some fault) :
    ∃ inside, a.Spoiled cs inside ∧
      fault = { inside with position := position + inside.position } := by
  induction cs generalizing position with
  | nil => cases h
  | cons c rest ih =>
    rw [faultFrom?] at h
    split at h
    · rename_i distance hdistance
      cases h
      have hrun : ∀ b ∈ rest.takeWhile a.isSurrogate, a.isSurrogate b = true :=
        fun b hb => List.all_eq_true.1 List.all_takeWhile b hb
      have hafter : ∀ b ∈ (rest.dropWhile a.isSurrogate).head?, a.isSurrogate b = false := by
        intro b hb
        have hhead := List.head?_dropWhile_not a.isSurrogate rest
        rw [hb] at hhead
        exact hhead
      have hspoiled := Spoiled.run (List.forall_mem_nil _) hdistance hrun hafter
      rw [List.takeWhile_append_dropWhile] at hspoiled
      exact ⟨_, hspoiled, rfl⟩
    · rename_i hnone
      obtain ⟨inside, hinside, rfl⟩ := ih h
      have hc : a.isSurrogate c = false := by rw [isSurrogate, hnone]; rfl
      exact ⟨_, hinside.cons hc, congrArg (EncodingFault.mk _ · _) (by dsimp only; omega)⟩

/-- **A text that cannot be encoded** fails for its first run of
surrogates. -/
theorem spoiled_of_encode {f : Failure} (h : a.encode text = .error f) :
    ∃ fault, a.Spoiled text.toList fault ∧ f = .unencodable fault := by
  unfold encode at h
  split at h
  · rename_i fault hfault
    obtain ⟨inside, hinside, rfl⟩ := spoiled_of_faultFrom? hfault
    cases h
    exact ⟨inside, hinside, by rw [Nat.zero_add]⟩
  · cases h

end Alphabet

end PlotPipe
