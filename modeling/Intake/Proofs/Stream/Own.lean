import Intake.Proofs.Stream.Jobs

/-!
# What a stream has of its own

Streams of one service share the list of defaults that gave a value; everything else a stream has of
its own. Main statement: where each default gives one value, what a stream has of its own develops
without regard to the list.
-/

namespace Intake

variable {α : Type}

def Substituted.own {σ : Type} (s : Substituted σ) : Substituted σ := { s with supplied := [] }

/-- An element without the list of defaults that gave a value. -/
def Element.own (x : Element) : Element := { x with request := x.request.own }

def Stream.own (s : Stream) : Stream := { s with supplied := [] }

def Evaluation.own (v : Evaluation α) : Evaluation α :=
  ⟨v.result, v.element.map Element.own, v.stream.own⟩

/-- A plan that does not look at the list of defaults that gave a value: no handler sees it. -/
def Plan.Blind (plan : Plan α) : Prop :=
  ∀ x, ∀ c ∈ plan.calls x, c.action.Ignores fun y z => y.own = z.own

/-! ## Retrievals -/

/-- A default of one value gives it whatever was given before. -/
theorem Endpoint.substitute_eq_nil {e : Endpoint} (hd : e.ConstantDefaults)
    (supplied : List ParameterId) (p : Parameter) (absence : DecodeFailure) :
    e.substitute supplied p absence =
      (e.substitute [] p absence).map fun w => (w.1, w.2 ++ supplied) := by
  unfold substitute
  cases hp : e.parameter? p.id with
  | none => rfl
  | some q =>
      dsimp only
      split
      · cases hq : q.default with
        | none => rfl
        | some d =>
            obtain ⟨v, rfl⟩ := hd q (mem_of_parameter? hp).1 d hq
            rfl
      · rfl

theorem Substituted.retrieve_own {σ : Type} [Decoder σ] {e : Endpoint} (hd : e.ConstantDefaults)
    (s : Substituted σ) (p : Parameter) :
    (s.own.retrieve e p).1 = (s.retrieve e p).1 ∧
      (s.own.retrieve e p).2.own = (s.retrieve e p).2.own := by
  unfold retrieve
  rw [show s.own.resolved = s.resolved from rfl, show s.own.inner = s.inner from rfl]
  cases s.resolved.get? p.id with
  | some v => exact ⟨rfl, rfl⟩
  | none =>
      cases Decoder.decode s.inner p with
      | mk result inner =>
          cases result with
          | ok v => exact ⟨rfl, rfl⟩
          | error d =>
              dsimp only
              split
              · rw [show s.own.supplied = [] from rfl, Endpoint.substitute_eq_nil hd s.supplied]
                cases e.substitute [] p d <;> exact ⟨rfl, rfl⟩
              · exact ⟨rfl, rfl⟩

namespace Element

theorem fetch_own {x : Element} (hd : x.endpoint.ConstantDefaults) (p : Parameter) :
    Same (fun y z => y.own = z.own) (x.own.fetch p) (x.fetch p) := by
  obtain ⟨hresult, hafter⟩ := x.request.retrieve_own hd p
  unfold fetch
  rw [show x.own.request = x.request.own from rfl, show x.own.endpoint = x.endpoint from rfl,
    show x.own.constancy = x.constancy from rfl]
  cases hx : x.request.retrieve x.endpoint p with
  | mk result request =>
      cases hy : x.request.own.retrieve x.endpoint p with
      | mk result' request' =>
          rw [hx, hy] at hresult hafter
          dsimp only at hresult hafter ⊢
          subst hresult
          cases x.constancy.observe p result' with
          | mk observed constancy =>
              cases observed with
              | ok v =>
                  exact ⟨rfl, congrArg
                    ({ x with request := ·, constancy, log := x.log.record p.name v }) hafter⟩
              | error e => exact ⟨rfl, congrArg ({ x with request := ·, constancy }) hafter⟩

/-- Elements of an endpoint with constant defaults that have the same of their own. -/
def Akin (x y : Element) : Prop := x.own = y.own ∧ x.endpoint.ConstantDefaults

theorem Akin.endpoint_eq {x y : Element} (h : Akin x y) : x.endpoint = y.endpoint :=
  (congrArg Element.endpoint h.1 :)

theorem likeness_akin : Likeness (fun _ => True) Akin where
  endpoint_eq := Akin.endpoint_eq
  index_eq := fun h => (congrArg Element.index h.1 :)
  declared := fun _ _ _ => trivial
  fetch := by
    rintro x y p - ⟨hown, hd⟩
    obtain ⟨hresult, hafter⟩ := fetch_own hd p
    obtain ⟨hresult', hafter'⟩ := fetch_own (Akin.endpoint_eq ⟨hown, hd⟩ ▸ hd) p
    rw [hown] at hresult hafter
    refine ⟨hresult.symm.trans hresult', hafter.symm.trans hafter', ?_⟩
    rw [fetch_endpoint]
    exact hd
  report := fun e ⟨hown, hd⟩ => ⟨congrArg (Element.report · e) hown, hd⟩
  noteFailure := fun ⟨hown, hd⟩ => ⟨congrArg Element.noteFailure hown, hd⟩

end Element

theorem Plan.Blind.respects {plan : Plan α} (h : plan.Blind) (x : Element) :
    ∀ c ∈ plan.calls x, c.action.Respects (fun _ => True) Element.Akin := by
  intro c hc
  exact ⟨c.action.reads_all, (h x c hc).mono fun _ _ hyz => hyz.1⟩

/-- A handler that does not look at the list of defaults that gave a value. -/
def Handler.Blind (handler : Handler α) : Prop :=
  ∀ x y, Element.Akin x y → Element.Same Element.Akin (handler x) (handler y)

namespace Handler.Blind

theorem resolveAll : Handler.Blind Element.resolveAll :=
  fun _ _ hxy => Element.matching_eq_iff.mp (Element.likeness_akin.correspondence.resolveAll hxy)

theorem settled {handler : Handler α} (h : handler.Blind) (index : Nat) :
    (handler.settled index).Blind :=
  fun x y hxy => Element.matching_eq_iff.mp (Element.likeness_akin.correspondence.settled
    (fun index he => congrArg (Error.withIndexIfNone · index) he)
    (fun hxy => (congrArg Element.isReported hxy.1 :)) (Element.matching_eq_iff.mpr (h x y hxy))
    index)

end Handler.Blind

/-! ## Requests -/

theorem Evaluation.reported_own (v : Evaluation α) : v.own.reported = v.reported := by
  obtain ⟨result, element, stream⟩ := v
  cases element <;> rfl

namespace Stream

variable {s t : Stream}

/-- A handler to which their elements look the same does the same to streams that have the same of
their own. -/
theorem visit_own (h : s.own = t.own) {raw : RawRequest} {handler : Handler α}
    (hsame : Element.Same Element.Akin (handler (s.element raw)) (handler (t.element raw))) :
    (s.visit raw handler).own = (t.visit raw handler).own := by
  have hopen : s.isOpen = t.isOpen := (congrArg Stream.isOpen h :)
  cases ho : s.isOpen with
  | false =>
      rw [visit_of_closed ho, visit_of_closed (hopen ▸ ho)]
      exact congrArg (fun u : Stream =>
        (⟨.error u.refusal, none, { u with received := u.received + 1 }⟩ : Evaluation α)) h
  | true =>
      obtain ⟨hresult, hafter, _⟩ := hsame
      have hleave : ∀ (u : Stream) (y : Element), ((u.next raw).2.leave y).own =
          { u.own with received := u.received + 1, constancy := y.own.constancy } :=
        fun _ _ => rfl
      have hreceived : s.received = t.received := (congrArg Stream.received h :)
      rw [visit_of_open ho, visit_of_open (hopen ▸ ho)]
      unfold Evaluation.own
      rw [hresult, Option.map_some, Option.map_some, hleave, hleave, h, hafter, hreceived]

theorem akin_element (h : s.own = t.own) (hd : s.endpoint.ConstantDefaults) (raw : RawRequest) :
    Element.Akin (s.element raw) (t.element raw) :=
  ⟨(congrArg (fun u => (Stream.element u raw).own) h :), hd⟩

theorem work_own (h : s.own = t.own) (hd : s.endpoint.ConstantDefaults) {job : Job α}
    (hblind : job.plan.Blind) : (s.work job).own = (t.work job).own := by
  have hreceived : s.received = t.received := (congrArg Stream.received h :)
  rw [work_eq_visit, work_eq_visit, ← hreceived]
  exact visit_own h (Element.likeness_akin.job (fun hxy => (congrArg Element.isReported hxy.1 :))
    (akin_element h hd job.raw) job (hblind.respects _) s.received)

theorem evaluate_own (h : s.own = t.own) (hd : s.endpoint.ConstantDefaults) {handler : Handler α}
    (hblind : handler.Blind) (raw : RawRequest) :
    (s.evaluate raw handler).own = (t.evaluate raw handler).own := by
  have hreceived : s.received = t.received := (congrArg Stream.received h :)
  rw [evaluate, evaluate, ← hreceived]
  exact visit_own h (hblind.settled s.received _ _ (akin_element h hd raw))

theorem workAll_own (h : s.own = t.own) (hd : s.endpoint.ConstantDefaults) {jobs : List (Job α)}
    (hblind : ∀ job ∈ jobs, job.plan.Blind) :
    (s.workAll jobs).map Evaluation.own = (t.workAll jobs).map Evaluation.own ∧
      (s.after jobs).own = (t.after jobs).own := by
  induction jobs generalizing s t with
  | nil => exact ⟨rfl, h⟩
  | cons job rest ih =>
      rw [List.forall_mem_cons] at hblind
      have hwork := work_own h hd hblind.1
      obtain ⟨hrest, hafter⟩ := ih (congrArg Evaluation.stream hwork :)
        ((s.endpoint_work job).symm ▸ hd) hblind.2
      refine ⟨?_, hafter⟩
      rw [workAll, workAll, List.map_cons, List.map_cons, hwork, hrest]

end Stream

end Intake
