import Intake.Proofs.Endpoint.Registry
import Intake.Proofs.Service.Delivery
import Intake.Proofs.Stream.Reachable

/-!
# Order and backpressure

A channel may be watched after any moves of its task and its consumer, who may leave at any time.
Main statement: whatever was received is a beginning of the results of the stream, what was
evaluated but not yet received is in the channel or waits for it, and a task whose consumer has left
evaluates at most one more request.
-/

namespace Intake.Channel

variable {α : Type} {handler : Handler α} {s : Stream} {capacity : Nat}
  {requests : List RawRequest} {inputEnds : Bool} {past : List (Evaluation α)} {c d : Channel α}

/-- A stream that is driven from where it stands. The channel holds at least one result. -/
def opened (s : Stream) (capacity : Nat) (requests : List RawRequest) (inputEnds : Bool) :
    Channel α :=
  { capacity := max capacity 1, stream := s, pending := requests, inputEnds }

theorem start_eq_opened (v : Service) (requests : List RawRequest) (inputEnds : Bool) :
    (start v requests inputEnds : Channel α) =
      opened v.session v.capacity requests inputEnds := by
  unfold start opened
  rw [Nat.max_eq_left v.capacity_pos]

/-! ## While moves are made -/

/-- How many results the task can hold that the consumer will never take: the one that waits, or the
one that was lost when the task ended. -/
def unsent (c : Channel α) : Nat :=
  if c.finished then 1 else c.waiting.toList.length

theorem waiting_le_unsent (h : c.finished = true → c.waiting = none) :
    c.waiting.toList.length ≤ c.unsent := by
  unfold unsent
  split
  · rename_i hf
    rw [h hf]
    exact Nat.zero_le _
  · exact Nat.le_refl _

/-- What holds of a channel after any moves, when `past` are the evaluations so far. -/
structure Driven (handler : Handler α) (s : Stream) (capacity : Nat) (requests : List RawRequest)
    (inputEnds : Bool) (past : List (Evaluation α)) (c : Channel α) : Prop where
  capacity_eq : c.capacity = max capacity 1
  inputEnds_eq : c.inputEnds = inputEnds
  evaluations_eq : past ++ c.stream.evaluateAll handler c.pending = s.evaluateAll handler requests
  received_eq : c.stream.received = s.received + past.length
  buffer_le : c.buffer.length ≤ c.capacity
  results_eq : c.dropped = false →
    c.received ++ c.buffer ++ c.waiting.toList = past.map Evaluation.result
  received_prefix : c.received <+: past.map Evaluation.result
  /-- Once the consumer has left, what the channel held is lost, and one result more at most. -/
  lost_le : c.dropped = true → past.length ≤ c.received.length + c.capacity + c.unsent
  ended : c.finished = true →
    c.waiting = none ∧ (c.dropped = false → c.pending = [] ∧ inputEnds = true)

theorem Driven.opened (handler : Handler α) (s : Stream) (capacity : Nat)
    (requests : List RawRequest) (inputEnds : Bool) :
    Driven handler s capacity requests inputEnds [] (opened s capacity requests inputEnds) where
  capacity_eq := rfl
  inputEnds_eq := rfl
  evaluations_eq := rfl
  received_eq := rfl
  buffer_le := Nat.zero_le _
  results_eq := fun _ => rfl
  received_prefix := List.nil_prefix
  lost_le := nofun
  ended := nofun

theorem Driven.length_eq (h : Driven handler s capacity requests inputEnds past c)
    (hc : c.dropped = false) :
    past.length = c.received.length + c.buffer.length + c.waiting.toList.length := by
  have hresults := congrArg List.length (h.results_eq hc)
  rw [List.length_append, List.length_append, List.length_map] at hresults
  exact hresults.symm

/-- The step lemma. Only an evaluation adds to what was evaluated. -/
theorem Driven.step {m : Move} (h : Driven handler s capacity requests inputEnds past c)
    (hd : c.step? handler m = some d) :
    ∃ past', Driven handler s capacity requests inputEnds past' d := by
  cases moves_of_step? hd with
  | @evaluate raw rest hp hw hf =>
      refine ⟨past ++ [c.stream.evaluate raw handler], { h with
        evaluations_eq := ?_, received_eq := ?_, results_eq := fun hc => ?_
        received_prefix := ?_, lost_le := fun hc => ?_, ended := fun hend => ?_ }⟩
      · rw [← h.evaluations_eq, hp, List.append_assoc]
        rfl
      · rw [List.length_append, ← Nat.add_assoc, ← h.received_eq]
        exact c.stream.received_evaluate raw handler
      · rw [List.map_append, ← h.results_eq hc, hw]
        simp [evaluated]
      · rw [List.map_append]
        exact h.received_prefix.trans (List.prefix_append _ _)
      · have hlost := h.lost_le hc
        simp only [unsent, evaluated, hf, hw, List.length_append] at hlost ⊢
        simpa using hlost
      · exact absurd (hf.symm.trans hend) Bool.false_ne_true
  | send hw hf hc hl =>
      refine ⟨past, { h with
        buffer_le := ?_, results_eq := fun _ => ?_
        lost_le := fun hleft => absurd (hc.symm.trans hleft) Bool.false_ne_true
        ended := fun hend => absurd (hf.symm.trans hend) Bool.false_ne_true }⟩
      · rw [List.length_append]
        exact hl
      · rw [← h.results_eq hc, hw]
        simp
  | lose hw hf hc =>
      refine ⟨past, { h with
        results_eq := fun hstays => absurd (hstays.symm.trans hc) Bool.false_ne_true
        lost_le := fun _ => ?_
        ended := fun _ => ⟨rfl, fun hstays => absurd (hstays.symm.trans hc) Bool.false_ne_true⟩ }⟩
      have hlost := h.lost_le hc
      simp only [unsent, hf, hw] at hlost ⊢
      exact hlost
  | finish hw hf hover =>
      refine ⟨past, { h with lost_le := fun hc => ?_, ended := fun _ => ⟨hw, fun hc => ?_⟩ }⟩
      · have hlost := h.lost_le hc
        simp only [unsent, hf, hw] at hlost ⊢
        exact Nat.le_succ_of_le hlost
      · obtain ⟨hp, hends⟩ := hover.resolve_left (Bool.eq_false_iff.mp hc)
        exact ⟨hp, h.inputEnds_eq.symm.trans hends⟩
  | receive hb hc =>
      have hresults := h.results_eq hc
      have hbuffer := h.buffer_le
      rw [hb] at hresults hbuffer
      refine ⟨past, { h with
        buffer_le := Nat.le_of_succ_le hbuffer, results_eq := fun _ => ?_, received_prefix := ?_
        lost_le := fun hleft => absurd (hc.symm.trans hleft) Bool.false_ne_true }⟩
      · rw [← hresults]
        simp
      · rw [← hresults]
        simp
  | drop hc =>
      refine ⟨past, { h with
        buffer_le := Nat.zero_le _
        results_eq := fun hstays => absurd hstays.symm Bool.false_ne_true
        lost_le := fun _ => ?_
        ended := fun hend =>
          ⟨(h.ended hend).1, fun hstays => absurd hstays.symm Bool.false_ne_true⟩ }⟩
      -- the channel held no more than its capacity, and one result waits at most
      have hwaiting := waiting_le_unsent fun hf => (h.ended hf).1
      have hbuffer := h.buffer_le
      show past.length ≤ c.received.length + c.capacity + c.unsent
      rw [h.length_eq hc]
      omega

theorem Driven.attempts (h : Driven handler s capacity requests inputEnds past c)
    (moves : List Move) :
    ∃ past', Driven handler s capacity requests inputEnds past'
      (moves.foldl (attempt handler) c) := by
  induction moves generalizing past c with
  | nil => exact ⟨past, h⟩
  | cons m rest ih =>
      rw [List.foldl_cons]
      cases hd : c.step? handler m with
      | none =>
          rw [attempt_of_none hd]
          exact ih h
      | some d =>
          obtain ⟨past', hnext⟩ := h.step hd
          rw [attempt_of_some hd]
          exact ih hnext

theorem Driven.length_add_length (h : Driven handler s capacity requests inputEnds past c) :
    past.length + c.pending.length = requests.length := by
  have hlength := congrArg List.length h.evaluations_eq
  rw [List.length_append, Stream.length_evaluateAll, Stream.length_evaluateAll] at hlength
  exact hlength

theorem Driven.length_le (h : Driven handler s capacity requests inputEnds past c) :
    past.length ≤ c.received.length + max capacity 1 + 1 := by
  have hunsent : c.unsent ≤ 1 := by
    unfold unsent
    split
    · exact Nat.le_refl _
    · cases c.waiting <;> simp
  rw [← h.capacity_eq]
  cases hc : c.dropped with
  | true =>
      have hlost := h.lost_le hc
      omega
  | false =>
      have hlength := h.length_eq hc
      have hwaiting := waiting_le_unsent fun hf => (h.ended hf).1
      have hbuffer := h.buffer_le
      omega

theorem Driven.prefix_results (h : Driven handler s capacity requests inputEnds past c) :
    c.received <+: (s.evaluateAll handler requests).map Evaluation.result := by
  refine h.received_prefix.trans ?_
  rw [← h.evaluations_eq, List.map_append]
  exact List.prefix_append _ _

/-! ## After the consumer has left -/

/-- How many requests a task may still evaluate whose consumer has left. -/
def spare (c : Channel α) : Nat :=
  if c.finished || c.waiting.isSome then 0 else 1

theorem step?_of_dropped {m : Move} (hc : c.dropped = true) (hd : c.step? handler m = some d) :
    d.dropped = true ∧ d.received = c.received ∧
      c.pending.length + d.spare ≤ d.pending.length + c.spare := by
  cases moves_of_step? hd with
  | evaluate hp hw hf =>
      refine ⟨hc, rfl, ?_⟩
      simp [spare, evaluated, hp, hw, hf]
  | send _ _ hdropped _ => exact absurd (hdropped.symm.trans hc) Bool.false_ne_true
  | lose hw hf _ =>
      refine ⟨hc, rfl, ?_⟩
      simp [spare, hw]
  | finish hw hf _ =>
      refine ⟨hc, rfl, ?_⟩
      simp [spare, hw]
  | receive _ hdropped => exact absurd (hdropped.symm.trans hc) Bool.false_ne_true
  | drop hdropped => exact absurd (hdropped.symm.trans hc) Bool.false_ne_true

theorem attempts_of_dropped (handler : Handler α) (hc : c.dropped = true) (moves : List Move) :
    (moves.foldl (attempt handler) c).dropped = true ∧
      (moves.foldl (attempt handler) c).received = c.received ∧
      c.pending.length + (moves.foldl (attempt handler) c).spare ≤
        (moves.foldl (attempt handler) c).pending.length + c.spare := by
  induction moves generalizing c with
  | nil => exact ⟨hc, rfl, Nat.le_refl _⟩
  | cons m rest ih =>
      rw [List.foldl_cons]
      cases hd : c.step? handler m with
      | none =>
          rw [attempt_of_none hd]
          exact ih hc
      | some d =>
          obtain ⟨hdropped, hreceived, hspare⟩ := step?_of_dropped hc hd
          obtain ⟨hlast, hkept, hleft⟩ := ih hdropped
          rw [attempt_of_some hd]
          exact ⟨hlast, hkept.trans hreceived, by omega⟩

theorem finished_of_step? {m : Move} (hf : c.finished = true) (hd : c.step? handler m = some d) :
    d.finished = true := by
  cases moves_of_step? hd with
  | evaluate _ _ hrunning => exact absurd (hrunning.symm.trans hf) Bool.false_ne_true
  | send _ hrunning _ _ => exact absurd (hrunning.symm.trans hf) Bool.false_ne_true
  | lose _ _ _ => rfl
  | finish _ _ _ => rfl
  | receive _ _ => exact hf
  | drop _ => exact hf

/-- A task whose consumer has left can end with its next move. -/
theorem finished_of_dropped (hc : c.dropped = true) :
    (c.attempt handler c.taskMove).finished = true := by
  cases hf : c.finished with
  | true =>
      cases hd : c.step? handler c.taskMove with
      | none =>
          rw [attempt_of_none hd]
          exact hf
      | some d =>
          rw [attempt_of_some hd]
          exact finished_of_step? hf hd
  | false =>
      cases hw : c.waiting with
      | some result => simp [attempt, taskMove, step?, hw, hf, hc]
      | none => simp [attempt, taskMove, step?, hw, hf, hc]

theorem attempt_drop (handler : Handler α) (c : Channel α) :
    (c.attempt handler .drop).dropped = true ∧ (c.attempt handler .drop).received = c.received ∧
      (c.attempt handler .drop).pending = c.pending ∧
      (c.attempt handler .drop).spare = c.spare := by
  cases hc : c.dropped with
  | true =>
      have hd : c.step? handler .drop = none := if_pos hc
      rw [attempt_of_none hd]
      exact ⟨hc, rfl, rfl, rfl⟩
  | false =>
      have hd : c.step? handler .drop = some { c with dropped := true, buffer := [] } :=
        if_neg (Bool.eq_false_iff.mp hc)
      rw [attempt_of_some hd]
      exact ⟨rfl, rfl, rfl, rfl⟩

theorem spare_le (c : Channel α) : c.spare ≤ 1 := by
  unfold spare
  split
  · exact Nat.zero_le _
  · exact Nat.le_refl _

theorem spare_of_waiting (hw : c.waiting.isSome = true) : c.spare = 0 := by
  rw [spare, hw, Bool.or_true]
  rfl

/-- Whatever the moves were, what was received is a beginning of the results of the stream. What
was evaluated has been received, is in the channel or waits for it, as long as the consumer stays,
and never is more than the channel holds and one result ahead of the consumer. A task whose consumer
stays ends after sending every result. One whose consumer leaves evaluates one more request at most,
and none if a result waits; nothing more is received, and the task can end. -/
theorem delivery_of_moves (handler : Handler α) (s : Stream) (capacity : Nat)
    (requests : List RawRequest) (inputEnds : Bool) (moves : List Move)
    (hc : moves.foldl (attempt handler) (opened s capacity requests inputEnds) = c) :
    c.received <+: (s.evaluateAll handler requests).map Evaluation.result ∧
    c.buffer.length ≤ max capacity 1 ∧
    (∃ past : List (Evaluation α),
      past ++ c.stream.evaluateAll handler c.pending = s.evaluateAll handler requests ∧
      c.stream.received = s.received + past.length ∧
      past.length + c.pending.length = requests.length ∧
      (c.dropped = false →
        c.received ++ c.buffer ++ c.waiting.toList = past.map Evaluation.result) ∧
      past.length ≤ c.received.length + max capacity 1 + 1) ∧
    (c.dropped = false → c.finished = true →
      inputEnds = true ∧
        c.received ++ c.buffer = (s.evaluateAll handler requests).map Evaluation.result) ∧
    ∀ (more : List Move) (d : Channel α),
      more.foldl (attempt handler) (c.attempt handler .drop) = d →
        d.received = c.received ∧ c.pending.length ≤ d.pending.length + 1 ∧
        (c.waiting.isSome = true → c.pending.length ≤ d.pending.length) ∧
        (d.attempt handler d.taskMove).finished = true := by
  obtain ⟨past, h⟩ := (Driven.opened handler s capacity requests inputEnds).attempts moves
  rw [hc] at h
  refine ⟨h.prefix_results, h.capacity_eq ▸ h.buffer_le,
    ⟨past, h.evaluations_eq, h.received_eq, h.length_add_length, h.results_eq, h.length_le⟩,
    ?_, ?_⟩
  · intro hstays hends
    obtain ⟨hw, hover⟩ := h.ended hends
    obtain ⟨hp, hinput⟩ := hover hstays
    refine ⟨hinput, ?_⟩
    have hsent := h.results_eq hstays
    have hall := h.evaluations_eq
    rw [hw, Option.toList_none, List.append_nil] at hsent
    rw [hp, Stream.evaluateAll, List.append_nil] at hall
    rw [hsent, hall]
  · intro more d hd
    obtain ⟨hleft, hreceived, hpending, hspare⟩ := c.attempt_drop handler
    obtain ⟨hdropped, hkept, hmore⟩ := attempts_of_dropped handler hleft more
    rw [hd] at hdropped hkept hmore
    rw [hpending, hspare] at hmore
    refine ⟨hkept.trans hreceived, ?_, ?_, finished_of_dropped hdropped⟩
    · have hone := c.spare_le
      omega
    · intro hw
      have hnone := spare_of_waiting hw
      omega

/-- The consumer takes one result and leaves when the channel is full and one more result waits. -/
def hasty : List Move := [.evaluate, .send, .receive, .evaluate, .send, .evaluate, .drop]

/-- The task is as far ahead as it can be, and goes no further. -/
theorem hasty_ahead :
    ∃ c : Channel (Dictionary Json),
      hasty.foldl (attempt Element.resolveAll)
        (start (Service.withCapacity { endpoint := .search, capacity := 9 } 0)
          (List.replicate 5 (JsonRequest.raw { body := [] })) true) = c ∧
      c.received.length = 1 ∧ c.pending.length = 2 ∧
      ∀ (more : List Move) (d : Channel (Dictionary Json)),
        more.foldl (attempt Element.resolveAll) (c.attempt Element.resolveAll .drop) = d →
          d.received = c.received ∧ 2 ≤ d.pending.length := by
  rw [start_eq_opened]
  obtain ⟨_, _, _, _, hleft⟩ := delivery_of_moves Element.resolveAll { endpoint := .search } 1
    (List.replicate 5 (JsonRequest.raw { body := [] })) true hasty rfl
  refine ⟨_, rfl, rfl, rfl, fun more d hd => ?_⟩
  obtain ⟨hreceived, _, hpending, _⟩ := hleft more d hd
  exact ⟨hreceived, hpending rfl⟩

end Intake.Channel
