import Intake.Proofs.Service.Backpressure
import Intake.Proofs.Stream.Own
import Intake.Proofs.Stream.Renaming
import Intake.Service.Schedule

/-!
# Schedules of channels

A schedule lets the tasks of several streams and their consumer move in a certain order. Between two
moves of one channel other streams of the service may use defaults. Main statements: a schedule only
makes moves of its channels, and a consumer that wants everything leaves none of them; where each
default gives one value, each channel is where these moves alone lead, so what holds of a channel
after any moves holds under a schedule.
-/

namespace Intake

variable {α : Type} {handler : Handler α}

/-! ## Moves among those of others -/

namespace Channel

/-- The channel when these defaults have given a value, to this stream or to others. -/
def share (c : Channel α) (supplied : List ParameterId) : Channel α :=
  { c with stream := { c.stream with supplied } }

/-- Where moves lead between which other streams may use defaults. The consumer leaves only if it
may. -/
inductive Leads (handler : Handler α) (mayLeave : Prop) (c : Channel α) : Channel α → Prop where
  | refl : Leads handler mayLeave c c
  | move {d e : Channel α} {m : Move} (may : m = .drop → mayLeave) :
      Leads handler mayLeave c d → Moves handler d m e → Leads handler mayLeave c e
  | share {d : Channel α} (supplied : List ParameterId) :
      Leads handler mayLeave c d → Leads handler mayLeave c (d.share supplied)

namespace Leads

variable {mayLeave : Prop} {c d e : Channel α}

theorem trans (h : Leads handler mayLeave c d) (h' : Leads handler mayLeave d e) :
    Leads handler mayLeave c e := by
  induction h' with
  | refl => exact h
  | move may _ hmoves ih => exact .move may ih hmoves
  | share supplied _ ih => exact .share supplied ih

theorem attempt (h : Leads handler mayLeave c d) (m : Move) (may : m = .drop → mayLeave) :
    Leads handler mayLeave c (d.attempt handler m) := by
  cases hd : d.step? handler m with
  | none =>
      rw [attempt_of_none hd]
      exact h
  | some e =>
      rw [attempt_of_some hd]
      exact .move may h (moves_of_step? hd)

theorem run {strategy : Channel α → Move} (hs : ∀ c, strategy c ≠ .drop) (moves : Nat)
    (h : Leads handler mayLeave c d) :
    Leads handler mayLeave c (Channel.run handler strategy moves d) := by
  induction moves generalizing d with
  | zero => exact h
  | succ moves ih =>
      rw [Channel.run]
      split
      · rename_i e he
        exact ih (.move (fun hm => absurd hm (hs d)) h (moves_of_step? he))
      · exact h

theorem receive (h : Leads handler mayLeave c d) (count : Nat) :
    Leads handler mayLeave c (d.receive handler count) :=
  h.run (fun _ => by decide) count

end Leads

end Channel

open Channel

/-! ## Schedules -/

theorem Worker.leads_work {mayLeave : Prop} (left : Nat) {c d : Channel α}
    (h : Leads handler mayLeave c d) : Leads handler mayLeave c (work handler left d).1 := by
  have hmove {d : Channel α} (m : Move) (hm : m ≠ .drop) (h : Leads handler mayLeave c d) :
      Leads handler mayLeave c (d.attempt handler m) := h.attempt m fun he => absurd he hm
  induction left generalizing d with
  | zero =>
      have hsent := hmove .send nofun h
      unfold work
      dsimp only
      split
      · exact hsent
      · split
        · exact hmove .finish nofun hsent
        · exact hsent
  | succ left ih =>
      have hsent := hmove .send nofun h
      unfold work
      dsimp only
      split
      · exact hsent
      · split
        · exact hmove .finish nofun hsent
        · exact ih (hmove .evaluate nofun hsent)

theorem Worker.leads_turn {mayLeave : Prop} (supplied : List ParameterId) (w : Worker α) :
    Leads handler mayLeave w.channel (w.turn handler supplied).1.channel :=
  leads_work w.left (.share supplied .refl)

/-- Tasks before and after, each of whose channels is where moves lead. -/
def Worker.AllLead (handler : Handler α) (mayLeave : Prop) :
    List (Worker α) → List (Worker α) → Prop :=
  List.Forall₂ fun w w' => Leads handler mayLeave w.channel w'.channel

namespace Worker.AllLead

variable {mayLeave : Prop} {ws ws' ws'' : List (Worker α)}

theorem refl (ws : List (Worker α)) : AllLead handler mayLeave ws ws :=
  List.forall₂_same.mpr fun _ _ => .refl

theorem trans (h : AllLead handler mayLeave ws ws') (h' : AllLead handler mayLeave ws' ws'') :
    AllLead handler mayLeave ws ws'' := by
  induction h generalizing ws'' with
  | nil => exact h'
  | cons hw _ ih =>
      cases h' with
      | cons hw' hrest => exact .cons (hw.trans hw') (ih hrest)

theorem set {k : Nat} {w w' : Worker α} (hk : ws[k]? = some w)
    (hw : Leads handler mayLeave w.channel w'.channel) :
    AllLead handler mayLeave ws (ws.set k w') := by
  induction ws generalizing k with
  | nil => cases hk
  | cons v rest ih =>
      cases k with
      | zero =>
          cases hk
          exact .cons hw (refl rest)
      | succ k => exact .cons .refl (ih hk)

end Worker.AllLead

theorem Go.allLead_along (handler : Handler α) (wanted : Option Nat) (left k : Nat)
    (ws : List (Worker α)) :
    Worker.AllLead handler (wanted ≠ none) ws (along handler wanted left k ws).workers := by
  induction ws generalizing left k with
  | nil => exact .nil
  | cons w rest ih =>
      have hreceived : Leads handler (wanted ≠ none) w.channel
          (w.channel.receive handler (takeable wanted left w.channel)) := .receive .refl _
      unfold along
      dsimp only
      split
      · rename_i hwanted
        refine .cons (hreceived.attempt .drop fun _ => ?_) (ih _ _)
        rw [hwanted]
        nofun
      · split
        · exact .cons hreceived (Worker.AllLead.refl rest)
        · split
          · exact .cons hreceived (ih _ _)
          · exact .cons hreceived (Worker.AllLead.refl rest)

namespace Schedule

variable {wanted : Option Nat} (s : Schedule α)

theorem allLead_turn (mayLeave : Prop) :
    Worker.AllLead handler mayLeave s.workers (s.turn handler).workers := by
  unfold turn
  split
  · exact .refl _
  · split
    · exact .refl _
    · rename_i k _ _ w hw
      exact .set hw (w.leads_turn s.supplied)

theorem allLead_go :
    Worker.AllLead handler (wanted ≠ none) s.workers (s.go handler wanted).workers := by
  have halong := Go.allLead_along handler wanted Go.reach s.position (s.workers.drop s.position)
  have hall : Worker.AllLead handler (wanted ≠ none)
      (s.workers.take s.position ++ s.workers.drop s.position) (s.go handler wanted).workers :=
    List.rel_append (Worker.AllLead.refl _) halong
  rwa [List.take_append_drop] at hall

theorem allLead_turns (mayLeave : Prop) (n : Nat) :
    Worker.AllLead handler mayLeave s.workers (Nat.repeat (turn handler) n s).workers := by
  induction n with
  | zero => exact .refl _
  | succ n ih => exact ih.trans (allLead_turn _ mayLeave)

theorem allLead_cycle :
    Worker.AllLead handler (wanted ≠ none) s.workers (s.cycle handler wanted).workers := by
  have hturns (t : Schedule α) (h : Worker.AllLead handler (wanted ≠ none) s.workers t.workers) :
      Worker.AllLead handler (wanted ≠ none) s.workers
        (if t.isOver then t else Nat.repeat (turn handler) interval t).workers := by
    split
    · exact h
    · exact h.trans (t.allLead_turns _ interval)
  refine hturns _ ?_
  split
  · exact s.allLead_go
  · exact .refl _

theorem allLead_run :
    Worker.AllLead handler (wanted ≠ none) s.workers (s.run handler wanted).workers := by
  unfold run
  induction s.cyclesNeeded with
  | zero => exact .refl _
  | succ n ih => exact ih.trans (allLead_cycle _)

end Schedule

/-- A schedule only makes moves of the channels of its streams, and lets a consumer that wants
everything leave none of them. -/
theorem Service.leads_consume (v : Service) (handler : Handler α) (wanted : Option Nat)
    (streams : List (List RawRequest)) :
    List.Forall₂
      (fun requests c => Leads handler (wanted ≠ none) (start v requests wanted.isNone) c) streams
      (v.consume handler wanted streams) := by
  have hrun : Worker.AllLead handler (wanted ≠ none) (Schedule.start v wanted streams).workers
      ((Schedule.start v wanted streams).run handler wanted).workers := Schedule.allLead_run _
  rw [Schedule.start, Worker.AllLead, List.forall₂_map_left_iff] at hrun
  exact List.forall₂_map_right_iff.mpr hrun

/-! ## Where each default gives one value -/

namespace Channel

variable {c d : Channel α} {mayLeave : Prop}

/-- A channel without the list of defaults that gave a value. -/
def own (c : Channel α) : Channel α := c.share []

theorem eq_share (h : c.own = d.own) : d = c.share d.stream.supplied := by
  obtain ⟨_, stream, _, _, _, _, _, _, _, _⟩ := c
  obtain ⟨_, stream', _, _, _, _, _, _, _, _⟩ := d
  cases stream
  cases stream'
  cases h
  rfl

/-- A move does not look at the list of defaults that gave a value. -/
theorem Moves.share {m : Move} (h : Moves handler c m d)
    (hd : c.stream.endpoint.ConstantDefaults) (hblind : handler.Blind)
    (supplied : List ParameterId) :
    ∃ d', Moves handler (c.share supplied) m d' ∧ d'.own = d.own := by
  cases h with
  | @evaluate raw rest hp hw hf =>
      refine ⟨_, .evaluate hp hw hf, ?_⟩
      have hown : (c.share supplied).stream.own = c.stream.own := rfl
      have hv := Stream.evaluate_own hown hd hblind raw
      have hevaluated (x : Channel α) : (x.evaluated handler raw rest).own =
          { x.own with
            stream := (x.stream.evaluate raw handler).own.stream
            pending := rest
            waiting := some (x.stream.evaluate raw handler).own.result
            reported := x.reported ++ (x.stream.evaluate raw handler).own.reported } := by
        rw [Evaluation.reported_own]
        rfl
      rw [hevaluated, hevaluated, hv]
      rfl
  | send hw hf hc hl => exact ⟨_, .send hw hf hc hl, rfl⟩
  | lose hw hf hc => exact ⟨_, .lose hw hf hc, rfl⟩
  | finish hw hf hover => exact ⟨_, .finish hw hf hover, rfl⟩
  | receive hb hc => exact ⟨_, .receive hb hc, rfl⟩
  | drop hc => exact ⟨_, .drop hc, rfl⟩

theorem Moves.endpoint_eq {m : Move} (h : Moves handler c m d) :
    d.stream.endpoint = c.stream.endpoint := by
  cases h with
  | evaluate _ _ _ => exact c.stream.endpoint_visit _ _
  | _ => rfl

theorem Leads.endpoint_eq (h : Leads handler mayLeave c d) :
    d.stream.endpoint = c.stream.endpoint := by
  induction h with
  | refl => rfl
  | move _ _ hmoves ih => exact hmoves.endpoint_eq.trans ih
  | share _ _ ih => exact ih

/-- Where each default gives one value, moves alone lead there: what others do between them does not
show. -/
theorem Leads.exists_moves (h : Leads handler mayLeave c d)
    (hd : c.stream.endpoint.ConstantDefaults) (hblind : handler.Blind) :
    ∃ moves : List Move, (.drop ∈ moves → mayLeave) ∧
      (moves.foldl (Channel.attempt handler) c).own = d.own := by
  induction h with
  | refl => exact ⟨[], nofun, rfl⟩
  | @move d e m may hleads hmoves ih =>
      obtain ⟨moves, hmay, hown⟩ := ih
      obtain ⟨e', he', hown'⟩ := hmoves.share (hleads.endpoint_eq ▸ hd) hblind
        (moves.foldl (Channel.attempt handler) c).stream.supplied
      rw [← eq_share hown.symm] at he'
      refine ⟨moves ++ [m], fun hdrop => ?_, ?_⟩
      · rcases List.mem_append.mp hdrop with hdrop | hdrop
        · exact hmay hdrop
        · exact may (List.mem_singleton.mp hdrop).symm
      · rw [List.foldl_append, List.foldl_cons, List.foldl_nil, attempt_of_some he'.step?_eq]
        exact hown'
  | share supplied _ ih => exact ih

end Channel

namespace Service

variable (v : Service) (hd : v.endpoint.ConstantDefaults) (hblind : handler.Blind)
  (wanted : Option Nat) (streams : List (List RawRequest))

include hd hblind

/-- Each channel of a schedule is where some moves of it alone lead from its start, but for the list
of defaults that gave a value. -/
theorem moves_of_consume :
    List.Forall₂
      (fun requests c => ∃ moves : List Move, (.drop ∈ moves → wanted ≠ none) ∧
        (moves.foldl (Channel.attempt handler) (start v requests wanted.isNone)).own = c.own)
      streams (v.consume handler wanted streams) :=
  (v.leads_consume handler wanted streams).imp fun _ _ h => h.exists_moves hd hblind

/-- What a consumer receives is a beginning of the results of the stream, and the end of the task
means that all of them were sent, unless the consumer may leave. -/
theorem received_of_consume :
    List.Forall₂
      (fun requests c =>
        c.received <+: (v.session.evaluateAll handler requests).map Evaluation.result ∧
        (wanted = none → c.finished = true →
          c.received ++ c.buffer = (v.session.evaluateAll handler requests).map Evaluation.result))
      streams (v.consume handler wanted streams) := by
  refine (v.moves_of_consume hd hblind wanted streams).imp fun requests c h => ?_
  obtain ⟨moves, hmay, hown⟩ := h
  obtain ⟨supplied, rfl⟩ : ∃ supplied, c = Channel.share _ supplied := ⟨_, eq_share hown⟩
  refine ⟨?_, ?_⟩
  · rw [start_eq_opened]
    obtain ⟨past, hdriven⟩ := (Driven.opened handler v.session v.capacity requests
      wanted.isNone).attempts moves
    exact hdriven.prefix_results
  · rintro rfl hf
    have hstays : .drop ∉ moves := fun hdrop => hmay hdrop rfl
    exact ((Delivers.start v requests).attempts hstays).sent_eq hf

end Service

/-- In particular where a service of a described endpoint reads all parameters of each request. -/
theorem Service.received_of_description {d : Description} {ids : Nat → ParameterId} {v : Service}
    (he : d.toEndpoint ids = .ok v.endpoint) (wanted : Option Nat)
    (streams : List (List RawRequest)) :
    List.Forall₂
      (fun requests c =>
        c.received <+:
          (v.session.evaluateAll Element.resolveAll requests).map Evaluation.result ∧
        (wanted = none → c.finished = true → c.received ++ c.buffer =
          (v.session.evaluateAll Element.resolveAll requests).map Evaluation.result))
      streams (v.consume Element.resolveAll wanted streams) :=
  v.received_of_consume (Description.toEndpoint_constantDefaults he) .resolveAll wanted streams

end Intake
