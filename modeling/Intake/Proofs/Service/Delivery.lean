import Intake.Service.Channel

/-!
# Delivery through a channel

While its consumer stays, a channel loses nothing and keeps the order: what was received, what is
buffered, what waits and what is still to come are together the results of the stream. Main
statements: when no move but leaving is possible, the consumer has received all results, whatever
the order of the moves was, and a consumer that takes turns with the task gets there.
-/

namespace Intake

theorem Stream.length_evaluateAll {α : Type} (s : Stream) (handler : Handler α)
    (raws : List RawRequest) : (s.evaluateAll handler raws).length = raws.length := by
  induction raws generalizing s with
  | nil => rfl
  | cons raw rest ih => exact congrArg (· + 1) (ih _)

namespace Channel

variable {α : Type} {handler : Handler α} {results : List (Except Error α)} {c d : Channel α}

/-! ## Moves -/

/-- The channel after the task evaluated a request. -/
def evaluated (handler : Handler α) (c : Channel α) (raw : RawRequest) (rest : List RawRequest) :
    Channel α :=
  { c with
    stream := (c.stream.evaluate raw handler).stream
    pending := rest
    waiting := some (c.stream.evaluate raw handler).result
    reported := c.reported ++ (c.stream.evaluate raw handler).reported }

/-- A move that can be made, and the channel after it. -/
inductive Moves (handler : Handler α) (c : Channel α) : Move → Channel α → Prop where
  | evaluate {raw : RawRequest} {rest : List RawRequest} (pending : c.pending = raw :: rest)
      (waiting : c.waiting = none) (finished : c.finished = false) :
      Moves handler c .evaluate (c.evaluated handler raw rest)
  | send {result : Except Error α} (waiting : c.waiting = some result)
      (finished : c.finished = false) (dropped : c.dropped = false)
      (room : c.buffer.length < c.capacity) :
      Moves handler c .send { c with waiting := none, buffer := c.buffer ++ [result] }
  /-- There is nobody to send the result to. -/
  | lose {result : Except Error α} (waiting : c.waiting = some result)
      (finished : c.finished = false) (dropped : c.dropped = true) :
      Moves handler c .send { c with waiting := none, finished := true }
  | finish (waiting : c.waiting = none) (finished : c.finished = false)
      (ended : c.dropped = true ∨ c.pending = [] ∧ c.inputEnds = true) :
      Moves handler c .finish { c with finished := true }
  | receive {result : Except Error α} {rest : List (Except Error α)}
      (buffer : c.buffer = result :: rest) (dropped : c.dropped = false) :
      Moves handler c .receive { c with buffer := rest, received := c.received ++ [result] }
  | drop (dropped : c.dropped = false) :
      Moves handler c .drop { c with dropped := true, buffer := [] }

/-- Everything that a move can do. -/
theorem moves_of_step? {m : Move} (h : c.step? handler m = some d) : Moves handler c m d := by
  cases m with
  | evaluate =>
      simp only [step?] at h
      split at h
      · rename_i raw rest hp hw hf
        cases h
        exact .evaluate hp hw hf
      · cases h
  | send =>
      simp only [step?] at h
      split at h
      · rename_i result hw hf
        split at h
        · rename_i hc
          cases h
          exact .lose hw hf hc
        · rename_i hc
          split at h
          · rename_i hl
            cases h
            exact .send hw hf (Bool.eq_false_iff.mpr hc) hl
          · cases h
      · cases h
  | finish =>
      obtain ⟨hcan, hd⟩ := Option.ite_none_right_eq_some.mp h
      simp only [Bool.and_eq_true, Bool.or_eq_true, Option.isNone_iff_eq_none,
        Bool.not_eq_true', List.isEmpty_iff] at hcan
      obtain ⟨⟨hw, hf⟩, hover⟩ := hcan
      cases hd
      exact .finish hw hf hover
  | receive =>
      simp only [step?] at h
      split at h
      · rename_i result rest hb hc
        cases h
        exact .receive hb hc
      · cases h
  | drop =>
      simp only [step?] at h
      split at h
      · cases h
      · rename_i hc
        cases h
        exact .drop (Bool.eq_false_iff.mpr hc)

theorem Moves.step?_eq {m : Move} (h : Moves handler c m d) : c.step? handler m = some d := by
  cases h with
  | evaluate hp hw hf => simp only [step?, evaluated, hp, hw, hf]
  | send hw hf hc hl => simp only [step?, hw, hf, hc, hl, Bool.false_eq_true, ↓reduceIte]
  | lose hw hf hc => simp only [step?, hw, hf, hc, ↓reduceIte]
  | finish hw hf hover =>
      refine Option.ite_none_right_eq_some.mpr ⟨?_, rfl⟩
      simpa [hw, hf] using hover
  | receive hb hc => simp only [step?, hb, hc]
  | drop hc => simp only [step?, hc, Bool.false_eq_true, ↓reduceIte]

theorem attempt_of_some {m : Move} (h : c.step? handler m = some d) : c.attempt handler m = d := by
  rw [attempt, h]
  rfl

theorem attempt_of_none {m : Move} (h : c.step? handler m = none) : c.attempt handler m = c := by
  rw [attempt, h]
  rfl

/-! ## What moves keep -/

/-- The consumer has not left, the task has not ended early, and nothing is lost of the results of
an input that ends. -/
structure Delivers (handler : Handler α) (results : List (Except Error α)) (c : Channel α) :
    Prop where
  capacity_pos : 0 < c.capacity
  inputEnds_eq : c.inputEnds = true
  results_eq : c.received ++ c.buffer ++ c.waiting.toList ++
    (c.stream.evaluateAll handler c.pending).map Evaluation.result = results
  dropped_eq : c.dropped = false
  ended : c.finished = true → c.waiting = none ∧ c.pending = []

theorem Delivers.start (v : Service) (requests : List RawRequest) :
    Delivers handler ((v.session.evaluateAll handler requests).map Evaluation.result)
      (Channel.start v requests true) :=
  ⟨v.capacity_pos, rfl, rfl, rfl, nofun⟩

/-- The step lemma. -/
theorem Delivers.step {m : Move} (h : Delivers handler results c) (hm : m ≠ .drop)
    (hd : c.step? handler m = some d) : Delivers handler results d := by
  obtain ⟨hcap, hi, hr, hc, he⟩ := h
  cases moves_of_step? hd with
  | evaluate hp hw hf =>
      refine ⟨hcap, hi, ?_, hc, fun hend => absurd (hf.symm.trans hend) nofun⟩
      rw [← hr, hp, hw]
      simp [evaluated, Stream.evaluateAll]
  | send hw hf _ _ =>
      refine ⟨hcap, hi, ?_, hc, fun hend => absurd (hf.symm.trans hend) nofun⟩
      rw [← hr, hw]
      simp
  | lose _ _ hdropped => exact absurd (hc.symm.trans hdropped) nofun
  | finish hw _ hover =>
      obtain ⟨hp, _⟩ := hover.resolve_left (Bool.eq_false_iff.mp hc)
      exact ⟨hcap, hi, hr, hc, fun _ => ⟨hw, hp⟩⟩
  | receive hb _ =>
      refine ⟨hcap, hi, ?_, hc, he⟩
      rw [← hr, hb]
      simp
  | drop _ => exact absurd rfl hm

theorem Delivers.attempt {m : Move} (h : Delivers handler results c) (hm : m ≠ .drop) :
    Delivers handler results (c.attempt handler m) := by
  cases hd : c.step? handler m with
  | none =>
      rw [attempt_of_none hd]
      exact h
  | some d =>
      rw [attempt_of_some hd]
      exact h.step hm hd

/-- The run lemma for any order of moves. -/
theorem Delivers.attempts {moves : List Move} (h : Delivers handler results c)
    (hm : .drop ∉ moves) : Delivers handler results (moves.foldl (Channel.attempt handler) c) := by
  induction moves generalizing c with
  | nil => exact h
  | cons m rest ih =>
      rw [List.mem_cons, not_or] at hm
      exact ih (h.attempt (Ne.symm hm.1)) hm.2

/-- The run lemma for a strategy. -/
theorem Delivers.run {strategy : Channel α → Move} (hs : ∀ c, strategy c ≠ .drop)
    (h : Delivers handler results c) (moves : Nat) :
    Delivers handler results (Channel.run handler strategy moves c) := by
  induction moves generalizing c with
  | zero => exact h
  | succ moves ih =>
      rw [Channel.run]
      split
      · rename_i d hd
        exact ih (h.step (hs c) hd)
      · exact h

/-- What a task has sent that has ended. -/
theorem Delivers.sent_eq (h : Delivers handler results c) (hf : c.finished = true) :
    c.received ++ c.buffer = results := by
  obtain ⟨hw, hp⟩ := h.ended hf
  simpa [hw, hp, Stream.evaluateAll] using h.results_eq

/-- What was received of a channel that holds nothing back. -/
theorem Delivers.received_eq (h : Delivers handler results c) (hf : c.finished = true)
    (hb : c.buffer = []) : c.received = results := by
  simpa [hb] using h.sent_eq hf

theorem Delivers.length_eq (h : Delivers handler results c) :
    c.received.length + c.buffer.length ≤ results.length := by
  rw [← h.results_eq]
  simp only [List.length_append]
  omega

/-! ## Where moves lead -/

/-- The task goes on until it has ended or its result does not fit into the channel. -/
theorem blocked_of_taskMove (hc : c.dropped = false) (hi : c.inputEnds = true)
    (h : c.step? handler c.taskMove = none) :
    c.finished = true ∨ (c.waiting.isSome = true ∧ c.capacity ≤ c.buffer.length) := by
  cases hf : c.finished with
  | true => exact .inl rfl
  | false =>
      refine .inr ?_
      cases hw : c.waiting with
      | some result =>
          simp only [taskMove, hw, Option.isSome_some, ↓reduceIte, step?, hf, hc,
            Bool.false_eq_true, ite_eq_right_iff, reduceCtorEq, imp_false] at h
          exact ⟨rfl, Nat.not_lt.mp h⟩
      | none =>
          cases hp : c.pending with
          | nil => simp [taskMove, hw, hp, hi, step?, hf] at h
          | cons raw rest => simp [taskMove, hw, hp, hc, step?, hf] at h

theorem taskMove_ne (c : Channel α) : c.taskMove ≠ .drop ∧ c.taskMove ≠ .receive := by
  unfold taskMove
  split
  · exact ⟨nofun, nofun⟩
  · split
    · exact ⟨nofun, nofun⟩
    · exact ⟨nofun, nofun⟩

theorem run_of_some {strategy : Channel α → Move} (h : c.step? handler (strategy c) = some d)
    (moves : Nat) : run handler strategy (moves + 1) c = run handler strategy moves d := by
  rw [run, h]

theorem run_of_none {strategy : Channel α → Move} (h : c.step? handler (strategy c) = none)
    (moves : Nat) : run handler strategy (moves + 1) c = c := by
  rw [run, h]

/-- How many moves the task can still make. -/
def toil (c : Channel α) : Nat :=
  2 * c.pending.length + c.waiting.toList.length + (!c.finished).toNat

theorem toil_le (c : Channel α) : c.toil ≤ 2 * c.pending.length + 3 := by
  have hw : c.waiting.toList.length ≤ 1 := by cases c.waiting <;> simp
  have hf := Bool.toNat_le (!c.finished)
  unfold toil
  omega

/-- A move of the task takes nothing from the channel and leaves it less to do. -/
theorem step?_taskMove (hc : c.dropped = false) (h : c.step? handler c.taskMove = some d) :
    d.toil < c.toil ∧ d.received = c.received := by
  obtain ⟨hnotDrop, hnotReceive⟩ := taskMove_ne c
  generalize c.taskMove = m at h hnotDrop hnotReceive
  cases moves_of_step? h with
  | evaluate hp hw hf =>
      refine ⟨?_, rfl⟩
      simp only [toil, evaluated, hp, hw, hf, List.length_cons, Option.toList_some,
        Option.toList_none, List.length_nil]
      omega
  | send hw _ _ _ =>
      refine ⟨?_, rfl⟩
      simp [toil, hw]
  | lose _ _ hdropped => exact absurd (hc.symm.trans hdropped) nofun
  | finish _ hf _ =>
      refine ⟨?_, rfl⟩
      simp [toil, hf]
  | receive _ _ => exact absurd rfl hnotReceive
  | drop _ => exact absurd rfl hnotDrop

/-- A turn of the task leads to its end or fills the channel, and takes nothing from it. -/
theorem Delivers.run_taskMove {moves : Nat} (h : Delivers handler results c)
    (hm : c.toil ≤ moves) (hd : Channel.run handler taskMove moves c = d) :
    (d.finished = true ∨ d.capacity ≤ d.buffer.length) ∧ d.received = c.received := by
  induction moves generalizing c with
  | zero =>
      obtain rfl : c = d := hd
      refine ⟨.inl ?_, rfl⟩
      cases hf : c.finished with
      | true => rfl
      | false => simp [toil, hf] at hm
  | succ moves ih =>
      cases hs : c.step? handler c.taskMove with
      | none =>
          obtain rfl : c = d := (run_of_none hs moves).symm.trans hd
          have hblocked := blocked_of_taskMove h.dropped_eq h.inputEnds_eq hs
          exact ⟨hblocked.imp_right And.right, rfl⟩
      | some c' =>
          obtain ⟨hless, hrec⟩ := step?_taskMove h.dropped_eq hs
          obtain ⟨hblocked, hrec'⟩ := ih (h.step (taskMove_ne c).1 hs) (by omega)
            ((run_of_some hs moves).symm.trans hd)
          exact ⟨hblocked, hrec'.trans hrec⟩

theorem run_receive (hc : c.dropped = false) (count : Nat) :
    run handler (fun _ => .receive) count c =
      { c with
        buffer := c.buffer.drop count
        received := c.received ++ c.buffer.take count } := by
  induction count generalizing c with
  | zero => simp [run]
  | succ count ih =>
      cases hb : c.buffer with
      | nil =>
          rw [run_of_none (by simp only [step?, hb]), List.drop_nil, List.take_nil,
            List.append_nil, ← hb]
      | cons result rest =>
          have hstep : c.step? handler .receive =
              some { c with buffer := rest, received := c.received ++ [result] } := by
            simp only [step?, hb, hc]
          rw [run_of_some hstep]
          refine (ih ?_).trans ?_
          · exact hc
          · simp

/-- The channel after the consumer took all it holds. -/
def emptied (c : Channel α) : Channel α :=
  { c with buffer := [], received := c.received ++ c.buffer }

theorem receive_all (hc : c.dropped = false) :
    c.receive handler c.buffer.length = c.emptied := by
  rw [receive, run_receive hc, List.drop_length, List.take_length]
  rfl

theorem Delivers.emptied (h : Delivers handler results c) :
    Delivers handler results c.emptied := by
  have hr : c.receive handler c.buffer.length = c.emptied := receive_all h.dropped_eq
  rw [← hr]
  refine h.run ?_ c.buffer.length
  intro _
  decide

theorem Delivers.advance (h : Delivers handler results c) :
    Delivers handler results (c.advance handler) :=
  h.run (fun c => (taskMove_ne c).1) _

/-- Turns enough come to all results: each turn of the consumer takes one, but for the first. -/
theorem Delivers.alternate {turns : Nat} (h : Delivers handler results c)
    (ht : results.length < c.received.length + turns)
    (hfirst : c.finished = false → c.buffer = [] →
      results.length + 1 < c.received.length + turns) :
    (Channel.alternate handler turns c).received = results := by
  induction turns generalizing c with
  | zero =>
      have hlen := h.length_eq
      omega
  | succ turns ih =>
      rw [Channel.alternate, receive_all h.dropped_eq]
      split
      · rename_i hf
        exact h.emptied.received_eq hf rfl
      · rename_i hf
        have hnext := h.emptied.advance
        obtain ⟨hblocked, hrec⟩ := h.emptied.run_taskMove c.emptied.toil_le rfl
        refine ih hnext ?_ ?_
        · rw [Channel.advance, hrec]
          show results.length < (c.received ++ c.buffer).length + turns
          rw [List.length_append]
          cases hb : c.buffer with
          | nil =>
              have hturn := hfirst (Bool.eq_false_iff.mpr hf) hb
              simp only [List.length_nil]
              omega
          | cons result rest =>
              simp only [List.length_cons]
              omega
        · intro hf' hb'
          rw [← Channel.advance, hf', hb'] at hblocked
          exact absurd (hblocked.resolve_left nofun) (Nat.not_le.mpr hnext.capacity_pos)

end Channel

end Intake
