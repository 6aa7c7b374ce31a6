import Intake.Proofs.Element.Occurrence

/-!
# Reachable streams

A stream is driven from request to request. Each request is evaluated, or else taken and let go, or
taken and given up. Between two requests other streams of the service may have used defaults. Main
statement: what an accepted request leaves of the check for constancy.
-/

namespace Intake

inductive Drive where
  /-- The failure of the handler is one of the element. -/
  | evaluate
  /-- The handler's result has no further consequence; the element may be given up in the end. -/
  | take (abandoned : Bool)

/-- The handler that gives the element up in the end, if it is to. -/
def Handler.letGo {α : Type} (handler : Handler α) (abandoned : Bool) : Handler α := fun x =>
  match handler x with
  | (result, x) => (result, if abandoned then x.abandon else x)

namespace Stream

def drive (s : Stream) (raw : RawRequest) (steps : List Step) : Drive → Evaluation Unit
  | .evaluate => s.evaluate raw (Handler.ofSteps steps)
  | .take abandoned => s.visit raw ((Handler.ofSteps steps).letGo abandoned)

inductive Reachable (e : Endpoint) : Stream → Prop where
  | new : Reachable e { endpoint := e }
  | drive {s : Stream} (raw : RawRequest) (steps : List Step) (mode : Drive) :
      Reachable e s → Reachable e (s.drive raw steps mode).stream
  /-- Other streams of the service have used defaults. -/
  | share {s : Stream} (supplied : List ParameterId) :
      Reachable e s → Reachable e { s with supplied }

/-! ## Taking requests -/

theorem next_ok_iff {s : Stream} {raw : RawRequest} {x : Element} :
    (s.next raw).1 = .ok x ↔ s.isOpen = true ∧ x = s.element raw := by
  unfold next
  dsimp only
  split
  · rename_i h
    simp [h, eq_comm]
  · rename_i h
    simp [h]

theorem visit_of_ok {α : Type} {s : Stream} {raw : RawRequest} {x : Element}
    (h : (s.next raw).1 = .ok x) (handler : Handler α) :
    s.visit raw handler =
      ⟨(handler x).1, some (handler x).2, (s.next raw).2.leave (handler x).2⟩ := by
  unfold visit
  cases hn : s.next raw with
  | mk result after =>
      rw [hn] at h
      dsimp only at h
      subst h
      rfl

theorem visit_of_error {α : Type} {s : Stream} {raw : RawRequest} {err : Error}
    (h : (s.next raw).1 = .error err) (handler : Handler α) :
    s.visit raw handler = ⟨.error err, none, (s.next raw).2⟩ := by
  unfold visit
  cases hn : s.next raw with
  | mk result after =>
      rw [hn] at h
      dsimp only at h
      subst h
      rfl

theorem visit_of_open {α : Type} {s : Stream} (ho : s.isOpen = true) (raw : RawRequest)
    (handler : Handler α) :
    s.visit raw handler = ⟨(handler (s.element raw)).1, some (handler (s.element raw)).2,
      (s.next raw).2.leave (handler (s.element raw)).2⟩ :=
  visit_of_ok (next_ok_iff.mpr ⟨ho, rfl⟩) handler

/-- A refused request is counted, whatever it is, and that is all. -/
theorem visit_of_closed {α : Type} {s : Stream} (ho : s.isOpen = false) (raw : RawRequest)
    (handler : Handler α) :
    s.visit raw handler = ⟨.error s.refusal, none, { s with received := s.received + 1 }⟩ := by
  have hn : (s.next raw).1 = .error s.refusal := by
    rw [next, ho]
    rfl
  exact visit_of_error hn handler

theorem received_visit {α : Type} (s : Stream) (raw : RawRequest) (handler : Handler α) :
    (s.visit raw handler).stream.received = s.received + 1 := by
  cases hn : (s.next raw).1 with
  | error err =>
      rw [visit_of_error hn]
      rfl
  | ok x =>
      rw [visit_of_ok hn]
      rfl

theorem endpoint_visit {α : Type} (s : Stream) (raw : RawRequest) (handler : Handler α) :
    (s.visit raw handler).stream.endpoint = s.endpoint := by
  cases hn : (s.next raw).1 with
  | error err =>
      rw [visit_of_error hn]
      rfl
  | ok x =>
      rw [visit_of_ok hn]
      rfl

theorem received_evaluate {α : Type} (s : Stream) (raw : RawRequest) (handler : Handler α) :
    (s.evaluate raw handler).stream.received = s.received + 1 :=
  s.received_visit raw _

end Stream

theorem Handler.ofSteps_snd (steps : List Step) (x : Element) :
    (Handler.ofSteps steps x).2 = (x.run steps).2 := by
  unfold Handler.ofSteps
  cases x.run steps with
  | mk t y =>
      obtain ⟨results, failure⟩ := t
      cases failure <;> rfl

theorem Handler.settled_fst {α : Type} (handler : Handler α) (index : Nat) (x : Element) :
    (handler.settled index x).1 = (handler x).1.mapError (·.withIndexIfNone index) := by
  unfold Handler.settled
  cases handler x with
  | mk result y => cases result <;> rfl

/-- A failing handler counts as one more failure. -/
theorem Develops.settled {α : Type} {handler : Handler α} {x : Element} {c : Constancy}
    {history : List Occurrence} (h : Develops c history (handler x).2.constancy) (index : Nat) :
    Develops c (history ++ if (handler.settled index x).1.isOk then [] else [.noted])
      (handler.settled index x).2.constancy := by
  unfold Handler.settled
  cases hr : handler x with
  | mk result y =>
      rw [hr] at h
      cases result with
      | ok a => exact h.append (.nil _)
      | error err =>
          have hf := h.append (.fail _ .noted (fun _ => rfl))
          simp only [Except.isOk, Except.toBool, Bool.false_eq_true, ↓reduceIte]
          split <;> exact hf

namespace Stream

/-- What makes an element fail apart from what happens to it: its handler's failure, when it is
evaluated, or being given up. -/
def GivenUp (mode : Drive) (v : Evaluation Unit) : Prop :=
  (mode = .evaluate ∧ ∃ err, v.result = .error err) ∨ mode = .take true

/-- An accepted request becomes one development of the check, in which giving up counts as one more
failure at the end. -/
theorem drive_of_ok {s : Stream} {raw : RawRequest} {x : Element} (h : (s.next raw).1 = .ok x)
    (steps : List Step) (mode : Drive) :
    ∃ y ending, (s.drive raw steps mode).element = some y ∧
      (s.drive raw steps mode).stream = (s.next raw).2.leave y ∧
      (GivenUp mode (s.drive raw steps mode) ∧ ending = [.noted] ∨
        ¬GivenUp mode (s.drive raw steps mode) ∧ ending = []) ∧
      Develops s.constancy.begin (x.history steps ++ ending) y.constancy := by
  have hdev := Develops.of_passes (x.passes_run steps)
  rw [(next_ok_iff.mp h).2, ← Handler.ofSteps_snd, ← (next_ok_iff.mp h).2] at hdev
  have hstart : x.constancy = s.constancy.begin := by rw [(next_ok_iff.mp h).2]; rfl
  rw [hstart] at hdev
  cases mode with
  | evaluate =>
      have hset := hdev.settled s.received
      simp only [drive, evaluate]
      rw [visit_of_ok h]
      refine ⟨_, _, rfl, rfl, ?_, hset⟩
      cases ((Handler.ofSteps steps).settled s.received x).1 with
      | ok a =>
          refine Or.inr ⟨?_, rfl⟩
          rintro (⟨_, err, herr⟩ | hm)
          · cases herr
          · cases hm
      | error err => exact Or.inl ⟨Or.inl ⟨rfl, err, rfl⟩, rfl⟩
  | take abandoned =>
      simp only [drive]
      rw [visit_of_ok h]
      cases abandoned with
      | true => exact ⟨_, _, rfl, rfl, Or.inl ⟨Or.inr rfl, rfl⟩,
          hdev.append (.fail _ .noted (fun _ => rfl))⟩
      | false =>
          refine ⟨_, _, rfl, rfl, Or.inr ⟨?_, rfl⟩, hdev.append (.nil _)⟩
          rintro (⟨hm, _⟩ | hm)
          · cases hm
          · cases hm

theorem drive_of_error {s : Stream} {raw : RawRequest} {err : Error}
    (h : (s.next raw).1 = .error err) (steps : List Step) (mode : Drive) :
    s.drive raw steps mode = ⟨.error err, none, (s.next raw).2⟩ := by
  cases mode with
  | evaluate => exact visit_of_error h ((Handler.ofSteps steps).settled s.received)
  | take abandoned => exact visit_of_error h ((Handler.ofSteps steps).letGo abandoned)

theorem Reachable.orderly {e : Endpoint} {s : Stream} (h : Reachable e s) :
    s.constancy.Orderly := by
  induction h with
  | new => exact .new
  | share supplied _ ih => exact ih
  | @drive s raw steps mode _ ih =>
      cases hn : (s.next raw).1 with
      | error err =>
          rw [drive_of_error hn]
          exact ih
      | ok x =>
          obtain ⟨y, ending, _, hs, _, hdev⟩ := drive_of_ok hn steps mode
          rw [hs]
          exact hdev.orderly

end Stream

end Intake
