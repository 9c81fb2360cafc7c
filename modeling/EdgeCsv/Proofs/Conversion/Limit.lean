import EdgeCsv.Proofs.Conversion.Rows

/-!
# Writers that run full

A writer is handed bytes call by call. One call may take only some of them, at whatever pace; once
there is no room left, a call with bytes in it fails or takes none of them (`Refusal`). Before it is
answered, a call may also be interrupted any number of times. Bytes are handed over in as many calls
as it takes (`offerAll`): a call that was interrupted is made again, and any other failure is final.

* `offer_cases`: what one call can come to.
* `piecemeal_eq_limited`: neither the pace nor the interruptions make a difference, all there is to
  such a writer is its room and its reason to refuse.
* `carryOut_limited`: such a writer takes what it has room for of all that is written, and refuses
  exactly if that is not everything.
* `writeRows_piecemeal`: so a conversion is cut off behind its first bytes, and ends as if it had
  not been cut off, or with a failure to write.
-/

namespace EdgeCsv.Conversion

/-- What a full writer does when it is called with more bytes. -/
inductive Refusal
  /-- It fails. The reason is not that the call was interrupted: then nothing is settled yet, and a
  writer that never got further would be called for ever. -/
  | fails (reason : IoError) (lasting : reason ≠ .interrupted)
  /-- It takes none of them, and does not say why. -/
  | takesNone
  deriving DecidableEq, Repr

/-- The reason for which a full writer is given up. -/
def Refusal.reason : Refusal → IoError
  | .fails reason _ => reason
  | .takesNone => .nothingWritten

namespace Writer

variable (pace delay : Bytes → Bytes → Nat) (full : Refusal)

/-- One call of a writer of limited room, after `tries` calls with the same bytes that were
interrupted: how many of the bytes it takes, or why it fails. It is interrupted as often as `delay`
says. Then, if there are bytes and there is room, it takes at least one; `pace` says how many more
it would take. Both may depend on what it has taken before. -/
def offer (tries : Nat) (s : Limited) (bytes : Bytes) : Except IoError Nat × Limited :=
  if tries < delay s.taken bytes then (.error .interrupted, s)
  else if bytes ≠ [] ∧ s.room = 0 then
    match full with
    | .fails reason _ => (.error reason, s)
    | .takesNone => (.ok 0, s)
  else
    let k := min (pace s.taken bytes + 1) (min s.room bytes.length)
    (.ok k, ⟨s.taken ++ bytes.take k, s.room - k⟩)

/-- **What a call with bytes can come to**: it is interrupted, or there is no room and it is
refused, or it takes one byte or more. -/
theorem offer_cases {tries : Nat} {s s' : Limited} {bytes : Bytes} {answer : Except IoError Nat}
    (hb : bytes ≠ []) (h : offer pace delay full tries s bytes = (answer, s')) :
    (answer = .error .interrupted ∧ s' = s ∧ tries < delay s.taken bytes) ∨
      (s.room = 0 ∧ s' = s ∧ (answer = .error full.reason ∧ full.reason ≠ .interrupted ∨
        answer = .ok 0 ∧ full.reason = .nothingWritten)) ∨
      ∃ k, answer = .ok (k + 1) ∧ s' = ⟨s.taken ++ bytes.take (k + 1), s.room - (k + 1)⟩ ∧
        k + 1 ≤ s.room ∧ k + 1 ≤ bytes.length := by
  unfold offer at h
  by_cases hdelay : tries < delay s.taken bytes
  · rw [if_pos hdelay] at h
    cases h
    exact .inl ⟨rfl, rfl, hdelay⟩
  rw [if_neg hdelay] at h
  by_cases hs : s.room = 0
  · rw [if_pos ⟨hb, hs⟩] at h
    cases full with
    | fails reason lasting =>
      cases h
      exact .inr (.inl ⟨hs, rfl, .inl ⟨rfl, lasting⟩⟩)
    | takesNone =>
      cases h
      exact .inr (.inl ⟨hs, rfl, .inr ⟨rfl, rfl⟩⟩)
  · have hlen := List.length_pos_of_ne_nil hb
    obtain ⟨k, hk⟩ : ∃ k, min (pace s.taken bytes + 1) (min s.room bytes.length) = k + 1 :=
      Nat.exists_eq_succ_of_ne_zero (by omega)
    rw [if_neg fun h => hs h.2, hk] at h
    cases h
    exact .inr (.inr ⟨k, rfl, rfl, by omega, by omega⟩)

/-- A call that was interrupted changed nothing, and there are fewer such calls to come. -/
theorem offer_interrupted {tries : Nat} {s s' : Limited} {bytes : Bytes} (hb : bytes ≠ [])
    (h : offer pace delay full tries s bytes = (.error .interrupted, s')) :
    s' = s ∧ tries < delay s.taken bytes := by
  rcases offer_cases pace delay full hb h with
    ⟨-, hheld, hdelay⟩ | ⟨-, -, ⟨hreason, hlasting⟩ | ⟨⟨⟩, -⟩⟩ | ⟨k, ⟨⟩, -⟩
  · exact ⟨hheld, hdelay⟩
  · exact absurd (Except.error.inj hreason).symm hlasting

/-- Calls the writer until it has taken all of the bytes. A call that was interrupted is made again;
any other failure is final, and a call that takes none of the bytes is a failure too. -/
def offerAll (tries : Nat) (s : Limited) (bytes : Bytes) : Option IoError × Limited :=
  if bytes = [] then (none, s)
  else
    match h : offer pace delay full tries s bytes with
    | (.error e, s') => if e = .interrupted then offerAll (tries + 1) s' bytes else (some e, s')
    | (.ok 0, s') => (some .nothingWritten, s')
    | (.ok (k + 1), s') => offerAll 0 s' (bytes.drop (k + 1))
termination_by (bytes.length, delay s.taken bytes - tries)
decreasing_by
  -- interrupted: as many bytes as before, and fewer interruptions to come
  · subst_vars
    obtain ⟨rfl, hdelay⟩ := offer_interrupted pace delay full ‹_› h
    exact Prod.Lex.right _ (by omega)
  -- taken: fewer bytes, however often the next call is interrupted
  · have := List.length_pos_of_ne_nil ‹_›
    exact Prod.Lex.left _ _ (by rw [List.length_drop]; omega)

/-- A writer of limited room that is called until it has taken everything. -/
def piecemeal : Writer Limited where
  accept := offerAll pace delay full 0

theorem accept_full {reason : IoError} {s : Limited} {bytes : Bytes} (hb : bytes ≠ [])
    (hs : s.room = 0) : (limited reason).accept s bytes = (some reason, s) := by
  have hlen := List.length_pos_of_ne_nil hb
  obtain ⟨taken, room⟩ := s
  obtain rfl : room = 0 := hs
  simp only [limited]
  rw [if_neg (by omega), List.take_zero, List.append_nil]

/-- Bytes that there is room for can be handed over first, and the others then. -/
theorem accept_drop {reason : IoError} {s : Limited} {bytes : Bytes} {k : Nat} (hk : k ≤ s.room)
    (hlen : k ≤ bytes.length) :
    (limited reason).accept ⟨s.taken ++ bytes.take k, s.room - k⟩ (bytes.drop k) =
      (limited reason).accept s bytes := by
  have hdrop : (bytes.drop k).length = bytes.length - k := List.length_drop
  simp only [limited, hdrop]
  by_cases hfit : bytes.length ≤ s.room
  · rw [if_pos (by omega), if_pos hfit, List.append_assoc, List.take_append_drop]
    congr 2
    omega
  · rw [if_neg (by omega), if_neg hfit, List.append_assoc, ← List.take_add,
      Nat.add_sub_cancel' hk]

/-- **Neither the pace nor the interruptions make a difference.** -/
theorem offerAll_eq (tries : Nat) (s : Limited) (bytes : Bytes) :
    offerAll pace delay full tries s bytes = (limited full.reason).accept s bytes := by
  fun_induction offerAll pace delay full tries s bytes with
  | case1 tries s => simp [limited]
  | case2 tries s bytes hb s' h ih =>
    -- interrupted: the writer still holds the same
    obtain ⟨rfl, -⟩ := offer_interrupted pace delay full hb h
    exact ih
  | case3 tries s bytes hb e s' h he =>
    -- the only other way to fail is to be full
    rcases offer_cases pace delay full hb h with
      ⟨hanswer, -⟩ | ⟨hs, rfl, ⟨hanswer, -⟩ | ⟨⟨⟩, -⟩⟩ | ⟨k, ⟨⟩, -⟩
    · exact absurd (Except.error.inj hanswer) he
    · rw [accept_full hb hs, Except.error.inj hanswer]
  | case4 tries s bytes hb s' h =>
    rcases offer_cases pace delay full hb h with
      ⟨⟨⟩, -⟩ | ⟨hs, rfl, ⟨⟨⟩, -⟩ | ⟨-, hreason⟩⟩ | ⟨k, ⟨⟩, -⟩
    rw [accept_full hb hs, hreason]
  | case5 tries s bytes hb k s' h ih =>
    rcases offer_cases pace delay full hb h with
      ⟨⟨⟩, -⟩ | ⟨-, -, ⟨⟨⟩, -⟩ | ⟨⟨⟩, -⟩⟩ | ⟨k', ⟨⟩, rfl, hroom, hlen⟩
    rw [ih, accept_drop hroom hlen]

theorem piecemeal_eq_limited : piecemeal pace delay full = limited full.reason := by
  unfold piecemeal limited
  congr 1
  funext s bytes
  exact offerAll_eq pace delay full 0 s bytes

end Writer

/-- **A writer of limited room takes a first part of what is written**, and refuses exactly if that
is not all of it. -/
theorem carryOut_limited (reason : IoError) (s : Writer.Limited) (steps : List Step) :
    ((Writer.limited reason).carryOut s steps).1 =
        (if (steps.flatMap Step.written).length ≤ s.room then none else some reason) ∧
      ((Writer.limited reason).carryOut s steps).2.1.taken =
        s.taken ++ (steps.flatMap Step.written).take s.room := by
  induction steps generalizing s with
  | nil => simp [Writer.carryOut]
  | cons step steps ih =>
    cases step with
    | say event => simpa [Writer.carryOut, Step.written] using ih s
    | write bytes =>
      rw [List.flatMap_cons, Step.written, List.length_append, List.take_append]
      by_cases hfit : bytes.length ≤ s.room
      · obtain ⟨h1, h2⟩ := ih ⟨s.taken ++ bytes, s.room - bytes.length⟩
        simp only [Writer.carryOut, Writer.limited, if_pos hfit] at h1 h2 ⊢
        rw [h1, h2, List.take_of_length_le hfit, List.append_assoc]
        refine ⟨?_, rfl⟩
        congr 1
        exact propext ⟨by omega, by omega⟩
      · simp only [Writer.carryOut, Writer.limited, if_neg hfit]
        rw [if_neg (by omega), Nat.sub_eq_zero_of_le (by omega), List.take_zero, List.append_nil]
        exact ⟨rfl, rfl⟩

/-- What a conversion onto a writer of limited room ends in, and what the writer then holds. -/
theorem writeRows_limited (reason : IoError) (room : Nat) (dump : Bytes) (output : Path) :
    (writeRows (.limited reason) ⟨[], room⟩ dump output).1 =
        (if (Rows.ofDump dump).written.length ≤ room then
          (Rows.ofDump dump).result.mapError .malformedRecord
        else .error (.writeOutput output reason)) ∧
      (writeRows (.limited reason) ⟨[], room⟩ dump output).2.1.taken =
        (Rows.ofDump dump).written.take room := by
  obtain ⟨h1, h2⟩ := carryOut_limited reason ⟨[], room⟩ (Rows.ofDump dump).steps
  refine ⟨result_writeRows_of_ite h1 output, ?_⟩
  rw [writeRows_eq]
  exact h2

/-- **A conversion onto a writer that runs full.** The writer takes a first part of the bytes of the
unhindered conversion, as many as it has room for, whatever its pace, however often it is
interrupted, and however it refuses. With room for all of them the conversion ends as the unhindered
one does, otherwise with a failure to write. So a malformed line is reported exactly if everything
before that line fitted. -/
theorem writeRows_piecemeal (pace delay : Bytes → Bytes → Nat) (full : Refusal) (room : Nat)
    (dump : Bytes) (output : Path) :
    (writeRows (.piecemeal pace delay full) ⟨[], room⟩ dump output).2.1.taken =
        (writeRows .unlimited [] dump output).2.1.take
          (min room (writeRows .unlimited [] dump output).2.1.length) ∧
      ((writeRows .unlimited [] dump output).2.1.length ≤ room →
        (writeRows (.piecemeal pace delay full) ⟨[], room⟩ dump output).1 =
          (writeRows .unlimited [] dump output).1) ∧
      (room < (writeRows .unlimited [] dump output).2.1.length →
        (writeRows (.piecemeal pace delay full) ⟨[], room⟩ dump output).1 =
          .error (.writeOutput output full.reason)) ∧
      ∀ before line after rows missing, lines dump = before ++ line :: after →
        HaveRows before rows → Row.ofLine line = .error missing →
        ((∃ m, (writeRows (.piecemeal pace delay full) ⟨[], room⟩ dump output).1 =
            .error (.malformedRecord m)) ↔
          (header ++ [lineFeed] ++ rowText rows).length ≤ room) := by
  obtain ⟨hresult, hwritten⟩ := writeRows_unlimited [] dump output
  obtain ⟨hend, htaken⟩ := writeRows_limited full.reason room dump output
  rw [Writer.piecemeal_eq_limited, hend, htaken, hresult, hwritten, List.nil_append]
  refine ⟨?_, ?_, ?_, ?_⟩
  · rw [← List.take_take, List.take_length]
  · intro hfit; exact if_pos hfit
  · intro hfull; exact if_neg (by omega)
  · intro before line after rows missing hls h hl
    obtain ⟨hr, hw⟩ := writeRows_of_first hls h hl output
    rw [hresult] at hr
    rw [hwritten, List.nil_append] at hw
    rw [hr, hw]
    by_cases hfit : (header ++ [lineFeed] ++ rowText rows).length ≤ room
    · rw [if_pos hfit]; exact ⟨fun _ => hfit, fun _ => ⟨_, rfl⟩⟩
    · rw [if_neg hfit]
      constructor
      · rintro ⟨m, hm⟩; cases hm
      · intro h; exact absurd h hfit

/-- A dump that is one malformed line: the header and its line feed take twelve bytes. Handed over
byte by byte, each of them interrupted more often than the one before, the line is reported with
room for twelve, and the writer with room for eleven. -/
theorem writeRows_piecemeal_header :
    let one : Bytes → Bytes → Nat := fun _ _ => 0
    let delay : Bytes → Bytes → Nat := fun taken _ => taken.length
    let full : Refusal := .fails .noSpace (by decide)
    (∃ m, (writeRows (.piecemeal one delay full) ⟨[], 12⟩ (Bytes.ofString "a_i")
        (.ofString "o")).1 = .error (.malformedRecord m)) ∧
      (writeRows (.piecemeal one delay full) ⟨[], 11⟩ (Bytes.ofString "a_i")
        (.ofString "o")).1 = .error (.writeOutput (.ofString "o") .noSpace) := by
  intro one delay full
  have hline : lines (Bytes.ofString "a_i") = [] ++ Bytes.ofString "a_i" :: [] := by decide
  have hnone : HaveRows [] [] := rfl
  have hbad : Row.ofLine (Bytes.ofString "a_i") = .error ⟨1⟩ := by decide
  obtain ⟨-, -, -, hreport⟩ := writeRows_piecemeal one delay full 12 (Bytes.ofString "a_i")
    (.ofString "o")
  obtain ⟨-, -, hfull, -⟩ := writeRows_piecemeal one delay full 11 (Bytes.ofString "a_i")
    (.ofString "o")
  refine ⟨(hreport [] _ [] [] ⟨1⟩ hline hnone hbad).2 (by decide), hfull ?_⟩
  rw [(writeRows_of_first hline hnone hbad (.ofString "o")).2]
  decide

end EdgeCsv.Conversion
