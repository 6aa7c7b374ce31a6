import Intake.Proofs.Endpoint.Registry
import Intake.Table

/-!
# Registering parameters

Parameters are registered one after the other, each tested against those before it. Main statement:
names that are not blank and parameters without repetitions make an endpoint, which finds exactly
these; otherwise the fault of the first parameter with one is told. An index of the ids that is
filled on the way comes to the same.
-/

namespace Intake.Endpoint

variable {name : String} {pattern : Pattern} {earlier ps : List Parameter} {p : Parameter}
  {fault : Fault} {e : Endpoint}

/-! ## The first fault -/

/-- What is wrong with a parameter that comes after others: the tests in their order. -/
inductive Faulty (earlier : List Parameter) (p : Parameter) : Fault → Prop
  | blank (blank : Text.trim p.name = "") : Faulty earlier p (.blankParameter earlier.length)
  | repeatsName (named : Text.trim p.name ≠ "") (taken : ∃ q ∈ earlier, q.name = p.name) :
      Faulty earlier p (.repeatedName p.name)
  | repeatsId (named : Text.trim p.name ≠ "") (free : ∀ q ∈ earlier, q.name ≠ p.name)
      (taken : ∃ q ∈ earlier, q.id = p.id) : Faulty earlier p (.repeatedId p.id p.name)

/-- Parameters of which none has a blank name and none repeats a name or an id. -/
structure Registrable (ps : List Parameter) : Prop where
  named : ∀ p ∈ ps, Text.trim p.name ≠ ""
  names_distinct : (ps.map Parameter.name).Nodup
  ids_distinct : (ps.map Parameter.id).Nodup

theorem isBlank_eq_false_iff (s : String) : Text.isBlank s = false ↔ Text.trim s ≠ "" := by
  rw [Ne, Text.trim_eq_empty_iff, Bool.not_eq_true]

theorem wellFormed_iff : WellFormed name ps ↔ Text.trim name ≠ "" ∧ Registrable ps := by
  constructor
  · intro h
    refine ⟨(isBlank_eq_false_iff _).mp h.name_not_blank, ?_, h.names_distinct, h.ids_distinct⟩
    exact fun p hp => (isBlank_eq_false_iff _).mp (h.parameter_not_blank p hp)
  · rintro ⟨hname, h⟩
    refine ⟨(isBlank_eq_false_iff _).mpr hname, ?_, h.names_distinct, h.ids_distinct⟩
    exact fun p hp => (isBlank_eq_false_iff _).mpr (h.named p hp)

theorem parameterFault_nil_eq_none_iff : parameterFault [] ps = none ↔ Registrable ps := by
  rw [parameterFault_eq_none_iff]
  simp only [isBlank_eq_false_iff]
  constructor
  · rintro ⟨hnamed, hnames, hids, -, -⟩
    exact ⟨hnamed, hnames, hids⟩
  · intro h
    exact ⟨h.named, h.names_distinct, h.ids_distinct, by simp, by simp⟩

/-- One parameter is tested, and the others after it. -/
theorem parameterFault_cons (earlier : List Parameter) (p : Parameter) (rest : List Parameter) :
    parameterFault earlier (p :: rest) =
      (parameterFault earlier [p]).or (parameterFault (earlier ++ [p]) rest) := by
  simp only [parameterFault]
  split
  · rfl
  · split
    · rfl
    · split
      · rfl
      · rfl

theorem parameterFault_singleton_eq_some_iff :
    parameterFault earlier [p] = some fault ↔ Faulty earlier p fault := by
  simp only [parameterFault, ← Text.trim_eq_empty_iff, List.mem_map]
  constructor
  · intro h
    split at h
    · cases h
      exact .blank ‹_›
    · split at h
      · cases h
        exact .repeatsName ‹_› ‹_›
      · rename_i hfree
        split at h
        · cases h
          exact .repeatsId ‹_› (fun q hq hn => hfree ⟨q, hq, hn⟩) ‹_›
        · cases h
  · intro h
    cases h with
    | blank blank => rw [if_pos blank]
    | repeatsName named taken => rw [if_neg named, if_pos taken]
    | repeatsId named free taken =>
        rw [if_neg named, if_neg (by simpa using free), if_pos taken]

/-- The fault in a list is that of the first parameter with one. -/
theorem parameterFault_eq_some_iff :
    parameterFault earlier ps = some fault ↔
      ∃ sound p later, ps = sound ++ p :: later ∧ parameterFault earlier sound = none ∧
        Faulty (earlier ++ sound) p fault := by
  -- those that pass the tests go over to the earlier ones
  induction ps generalizing earlier with
  | nil => simp [parameterFault]
  | cons p rest ih =>
      rw [parameterFault_cons, Option.or_eq_some_iff, parameterFault_singleton_eq_some_iff, ih]
      constructor
      · rintro (h | ⟨hnone, sound, q, later, rfl, hsound, h⟩)
        · exact ⟨[], p, rest, rfl, rfl, by simpa using h⟩
        · refine ⟨p :: sound, q, later, rfl, ?_, by simpa using h⟩
          rw [parameterFault_cons, hnone, hsound]
          rfl
      · rintro ⟨sound, q, later, hps, hsound, h⟩
        cases sound with
        | nil =>
            cases hps
            exact .inl (by simpa using h)
        | cons first sound =>
            cases hps
            rw [parameterFault_cons, Option.or_eq_none_iff] at hsound
            exact .inr ⟨hsound.1, sound, q, later, rfl, hsound.2, by simpa using h⟩

/-! ## Making endpoints -/

theorem make_of_wellFormed (h : WellFormed name ps) :
    make name pattern ps = .ok ⟨name, pattern, ps, h⟩ := by
  unfold make
  split
  · rename_i fault hfault
    rw [(fault?_eq_none_iff name ps).mpr h] at hfault
    cases hfault
  · rfl

theorem make_eq_ok_iff :
    make name pattern ps = .ok e ↔ e.name = name ∧ e.pattern = pattern ∧ e.parameters = ps := by
  constructor
  · intro h
    unfold make at h
    split at h
    · cases h
    · cases h
      exact ⟨rfl, rfl, rfl⟩
  · rintro ⟨rfl, rfl, rfl⟩
    exact make_of_wellFormed e.wellFormed

theorem exists_make_iff (pattern : Pattern) :
    (∃ e, make name pattern ps = .ok e) ↔ WellFormed name ps := by
  constructor
  · rintro ⟨e, he⟩
    obtain ⟨rfl, -, rfl⟩ := make_eq_ok_iff.mp he
    exact e.wellFormed
  · intro h
    exact ⟨_, make_of_wellFormed h⟩

theorem make_eq_error_iff : make name pattern ps = .error fault ↔ fault? name ps = some fault := by
  unfold make
  split
  · rename_i other hother
    rw [hother, Except.error.injEq, Option.some.injEq]
  · rename_i hnone
    simp [hnone]

theorem fault?_eq_some_iff :
    fault? name ps = some fault ↔
      Text.trim name = "" ∧ fault = .blankName ∨
        Text.trim name ≠ "" ∧ parameterFault [] ps = some fault := by
  simp only [fault?, ← Text.trim_eq_empty_iff]
  split
  · rename_i hblank
    simp [hblank, eq_comm]
  · rename_i hname
    simp [hname]

/-! ## Looking up -/

/-- What is found in an endpoint, by ids and by names, is exactly what is in a list. -/
structure Finds (e : Endpoint) (ps : List Parameter) : Prop where
  parameter?_iff : ∀ id p, e.parameter? id = some p ↔ p ∈ ps ∧ p.id = id
  named?_iff : ∀ name p, e.named? name = some p ↔ p ∈ ps ∧ p.name = name
  handle_ok_iff : ∀ name p, e.handle name = .ok p ↔ p ∈ ps ∧ p.name = name
  handle_error_iff : ∀ name err, e.handle name = .error err ↔
    (∀ p ∈ ps, p.name ≠ name) ∧ err = e.undeclared name
  agree : ∀ p ∈ ps, e.parameter? p.id = e.named? p.name

theorem finds (e : Endpoint) : e.Finds e.parameters := by
  refine ⟨fun _ _ => parameter?_eq_some_iff, fun _ _ => named?_eq_some_iff, fun name p => ?_,
    fun name err => ?_, fun p hp => ?_⟩
  · rw [← named?_eq_some_iff, handle]
    cases e.named? name <;> simp
  · have hnone : (∀ p ∈ e.parameters, p.name ≠ name) ↔ e.named? name = none := by
      simp [named?, List.find?_eq_none]
    rw [hnone, handle]
    cases e.named? name <;> simp [eq_comm]
  · rw [parameter?_of_mem hp, named?_of_mem hp]

/-! ## An index that is filled on the way -/

/-- Registers parameters after `earlier` ones, the places of which an index lists by their ids. -/
def register (earlier : List Parameter) (index : Table ParameterId Nat) :
    List Parameter → Except Fault (Table ParameterId Nat)
  | [] => .ok index
  | p :: rest =>
      if Text.trim p.name = "" then .error (.blankParameter earlier.length)
      else if earlier.any (·.name = p.name) then .error (.repeatedName p.name)
      else
        -- the id is entered before it is known whether another parameter has it
        match index.get? p.id, index.put p.id earlier.length with
        | some _, _ => .error (.repeatedId p.id p.name)
        | none, entered => register (earlier ++ [p]) entered rest

/-- An index that lists just the ids of some parameters, each with its place. -/
def Indexes (index : Table ParameterId Nat) (ps : List Parameter) : Prop :=
  ∀ id k, index.get? id = some k ↔ (ps.map Parameter.id)[k]? = some id

variable {index : Table ParameterId Nat}

theorem Indexes.nil : Indexes [] [] := by
  intro id k
  simp

theorem Indexes.get?_eq_none_iff (h : Indexes index ps) (id : ParameterId) :
    index.get? id = none ↔ ∀ p ∈ ps, p.id ≠ id := by
  rw [Option.eq_none_iff_forall_ne_some]
  constructor
  · rintro hnone p hp rfl
    obtain ⟨k, hk⟩ := List.mem_iff_getElem?.mp (List.mem_map_of_mem (f := Parameter.id) hp)
    exact hnone k ((h p.id k).mpr hk)
  · intro hnone k hk
    obtain ⟨p, hp, hid⟩ := List.mem_map.mp (List.mem_of_getElem? ((h id k).mp hk))
    exact hnone p hp hid

theorem getElem?_append_singleton_eq_some_iff {α : Type} {l : List α} {a b : α} {k : Nat} :
    (l ++ [a])[k]? = some b ↔ l[k]? = some b ∨ l.length = k ∧ a = b := by
  rcases Nat.lt_trichotomy k l.length with hlt | rfl | hgt
  · rw [List.getElem?_append_left hlt]
    simp [Nat.ne_of_gt hlt]
  · simp
  · rw [List.getElem?_eq_none (by simpa using Nat.succ_le_of_lt hgt),
      List.getElem?_eq_none (Nat.le_of_lt hgt)]
    simp [Nat.ne_of_lt hgt]

theorem Indexes.put (h : Indexes index ps) (hfree : index.get? p.id = none) :
    Indexes (index.put p.id ps.length) (ps ++ [p]) := by
  intro id k
  rw [Table.get?_put, List.map_append, List.map_singleton, getElem?_append_singleton_eq_some_iff,
    ← h id k, List.length_map]
  by_cases hid : id = p.id
  · subst hid
    simp [hfree]
  · simp [hid, Ne.symm hid]

/-- Registering one parameter after others. -/
theorem register_cons (h : Indexes index earlier) (p : Parameter) (rest : List Parameter) :
    register earlier index (p :: rest) =
      match parameterFault earlier [p] with
      | some fault => .error fault
      | none => register (earlier ++ [p]) (index.put p.id earlier.length) rest := by
  have hname : earlier.any (·.name = p.name) = true ↔ p.name ∈ earlier.map Parameter.name := by
    simp
  have hid : index.get? p.id = none ↔ p.id ∉ earlier.map Parameter.id := by
    rw [h.get?_eq_none_iff]
    simp
  simp only [register, parameterFault, ← Text.trim_eq_empty_iff, hname]
  split
  · rfl
  · split
    · rfl
    · by_cases hfree : index.get? p.id = none
      · rw [hfree, if_neg (hid.mp hfree)]
      · obtain ⟨k, hk⟩ := Option.ne_none_iff_exists'.mp hfree
        rw [hk, if_pos (Classical.not_not.mp (mt hid.mpr hfree))]

/-- Registration fails as the parameters are faulty, and otherwise it has indexed them all. -/
theorem register_cases (h : Indexes index earlier) (ps : List Parameter) :
    (∃ fault, parameterFault earlier ps = some fault ∧ register earlier index ps = .error fault) ∨
      parameterFault earlier ps = none ∧
        ∃ filled, register earlier index ps = .ok filled ∧ Indexes filled (earlier ++ ps) := by
  induction ps generalizing earlier index with
  | nil => exact .inr ⟨rfl, index, rfl, by simpa using h⟩
  | cons p rest ih =>
      rw [register_cons h, parameterFault_cons]
      cases hp : parameterFault earlier [p] with
      | some fault => exact .inl ⟨fault, rfl, rfl⟩
      | none =>
          have hfree : index.get? p.id = none := by
            rw [h.get?_eq_none_iff]
            intro q hq hid
            obtain ⟨-, -, -, -, hfresh⟩ := (parameterFault_eq_none_iff _ _).mp hp
            exact hfresh p (List.mem_singleton_self p) (List.mem_map.mpr ⟨q, hq, hid⟩)
          simpa using ih (h.put hfree)

theorem register_eq_error_iff :
    register [] [] ps = .error fault ↔ parameterFault [] ps = some fault := by
  rcases register_cases .nil ps with ⟨told, hfault, hregister⟩ | ⟨hnone, index, hregister, -⟩
  · rw [hregister, hfault, Except.error.injEq, Option.some.injEq]
  · rw [hregister, hnone]
    simp

theorem exists_index (e : Endpoint) :
    ∃ index, register [] [] e.parameters = .ok index ∧ Indexes index e.parameters := by
  have hsound := parameterFault_nil_eq_none_iff.mpr (wellFormed_iff.mp e.wellFormed).2
  rcases register_cases .nil e.parameters with ⟨told, hfault, -⟩ | ⟨-, index, hindex, h⟩
  · rw [hsound] at hfault
    cases hfault
  · exact ⟨index, hindex, h⟩

/-- An index of its ids leads to what an endpoint finds by looking through its parameters. -/
theorem Indexes.bind_eq (h : Indexes index e.parameters) (id : ParameterId) :
    (index.get? id).bind (e.parameters[·]?) = e.parameter? id := by
  ext p
  rw [parameter?_eq_some_iff, Option.bind_eq_some_iff]
  constructor
  · rintro ⟨k, hk, hp⟩
    refine ⟨List.mem_of_getElem? hp, ?_⟩
    simpa [hp] using (h id k).mp hk
  · rintro ⟨hp, rfl⟩
    obtain ⟨k, hk⟩ := List.mem_iff_getElem?.mp hp
    exact ⟨k, (h p.id k).mpr (by simp [hk]), hk⟩

/-! ## What is made, and what is found in it -/

theorem Fault.kind_error (fault : Fault) :
    fault.error.kind = match fault with
      | .repeatedId _ _ => .internal
      | .blankName | .blankParameter _ | .repeatedName _ => .usage := by
  cases fault <;> rfl

theorem not_nodup_of_repeatedId {id : ParameterId} {repeated : String}
    (h : make name pattern ps = .error (.repeatedId id repeated)) :
    ¬ (ps.map Parameter.id).Nodup := by
  rw [make_eq_error_iff, fault?_eq_some_iff, parameterFault_eq_some_iff] at h
  rcases h with ⟨-, ⟨⟩⟩ | ⟨-, sound, p, later, rfl, -, hp⟩
  cases hp with
  | repeatsId _ _ taken =>
      obtain ⟨q, hq, hid⟩ := taken
      rw [List.map_append, List.nodup_append]
      intro hids
      exact hids.2.2 q.id (List.mem_map_of_mem (by simpa using hq)) p.id (by simp) hid

/-- Endpoints are made of exactly the parts that are named and distinct. Otherwise the name is
blank, or the first parameter that cannot follow those before it is told; registering with an index
tells the same. -/
theorem make_exact (name : String) (pattern : Pattern) (ps : List Parameter) :
    ((∃ e, make name pattern ps = .ok e) ↔
      Text.trim name ≠ "" ∧ (∀ p ∈ ps, Text.trim p.name ≠ "") ∧
        (ps.map Parameter.name).Nodup ∧ (ps.map Parameter.id).Nodup) ∧
    (∀ fault, make name pattern ps = .error fault ↔
      Text.trim name = "" ∧ fault = .blankName ∨
        Text.trim name ≠ "" ∧ ∃ sound p later, ps = sound ++ p :: later ∧ Registrable sound ∧
          Faulty sound p fault) ∧
    (∀ fault : Fault, fault.error.kind = match fault with
      | .repeatedId _ _ => .internal
      | .blankName | .blankParameter _ | .repeatedName _ => .usage) ∧
    (Text.trim name ≠ "" → ∀ fault,
      make name pattern ps = .error fault ↔ register [] [] ps = .error fault) ∧
    ∀ e, make name pattern ps = .ok e →
      e.name = name ∧ e.pattern = pattern ∧ e.parameters = ps ∧ e.Finds ps ∧
        (∀ n, (e.undeclared n).kind = .notFound) ∧
        ∃ index, register [] [] ps = .ok index ∧
          ∀ id, (index.get? id).bind (ps[·]?) = e.parameter? id := by
  refine ⟨?_, fun fault => ?_, Fault.kind_error, fun hname fault => ?_, ?_⟩
  · rw [exists_make_iff, wellFormed_iff]
    constructor
    · rintro ⟨hname, h⟩
      exact ⟨hname, h.named, h.names_distinct, h.ids_distinct⟩
    · rintro ⟨hname, hnamed, hnames, hids⟩
      exact ⟨hname, hnamed, hnames, hids⟩
  · rw [make_eq_error_iff, fault?_eq_some_iff, parameterFault_eq_some_iff]
    simp only [parameterFault_nil_eq_none_iff, List.nil_append]
  · rw [make_eq_error_iff, fault?_eq_some_iff, register_eq_error_iff]
    simp [hname]
  · intro e he
    obtain ⟨rfl, rfl, rfl⟩ := make_eq_ok_iff.mp he
    obtain ⟨index, hindex, h⟩ := e.exists_index
    exact ⟨rfl, rfl, rfl, e.finds, fun _ => rfl, index, hindex, h.bind_eq⟩

/-- A label under the id of the limit, and then a parameter with a blank name. -/
def misdeclared : List Parameter :=
  [.limit, { Parameter.label with id := ⟨1⟩ }, { id := ⟨4⟩, name := " " }]

/-- Of a repeated id and a blank name after it the first is told. What was never declared is not
found. -/
theorem misdeclared_repeats :
    make "search" .clientStream misdeclared = .error (.repeatedId ⟨1⟩ "label") ∧
      search.parameter? ⟨3⟩ = some .label ∧
      search.handle "lable" = .error (search.undeclared "lable") := by
  obtain ⟨-, hfaults, -, -, -⟩ := make_exact "search" .clientStream misdeclared
  obtain ⟨-, -, -, -, hmade⟩ := make_exact "search" .clientStream [.limit, .order, .label]
  obtain ⟨-, -, -, hfinds, -, -⟩ := hmade search rfl
  refine ⟨(hfaults _).mpr (.inr ⟨by decide, [.limit], _, _, rfl, ?_, ?_⟩), ?_, ?_⟩
  · exact ⟨by decide, by decide, by decide⟩
  · exact .repeatsId (by decide) (by decide) (by decide)
  · exact (hfinds.parameter?_iff _ _).mpr ⟨by simp, rfl⟩
  · exact (hfinds.handle_error_iff _ _).mpr ⟨by decide, rfl⟩

end Intake.Endpoint
