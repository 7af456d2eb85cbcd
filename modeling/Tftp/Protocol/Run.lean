import Mathlib.Data.List.Induction

/-!
# Runs of a step function, with their history

A reactive component is a state and a function `step` from a state and an event
to the next state. The properties of such a component are mostly properties of
the *whole past*: what has been delivered so far, what has been sent so far. So a
run (`Protocol.Run`) carries its history, the list of its transitions in the order
in which they happened, and the induction principle of that inductive predicate is
the invariant rule with the history at hand.

Two ways to constrain a run come with it. `Protocol.Along` says that every
transition meets a condition that may look at the past of that transition, and
`Protocol.trace` collects what the transitions put out. Two components are compared by
`Protocol.replay_agree`: related states that put out the same on every pair of events, and
stay related, put out the same on whole runs.
-/

namespace Protocol

variable {σ ε α : Type*}

/-- One transition of a run: the state before, the event, the state after. -/
structure Transition (σ ε : Type*) where
  /-- The state before the event. -/
  pre : σ
  /-- The event. -/
  event : ε
  /-- The state after the event. -/
  post : σ

/-- **The runs of a step function** from the state `init`: the history so far
and the state reached. -/
inductive Run (step : σ → ε → σ) (init : σ) : List (Transition σ ε) → σ → Prop
  /-- Nothing has happened yet. -/
  | start : Run step init [] init
  /-- One more event. -/
  | next {history : List (Transition σ ε)} {s : σ} (e : ε) :
      Run step init history s → Run step init (history ++ [⟨s, e, step s e⟩]) (step s e)

/-- A condition on every transition of a history, which may look at the part of
the history before that transition. -/
def Along (Q : List (Transition σ ε) → Transition σ ε → Prop)
    (history : List (Transition σ ε)) : Prop :=
  ∀ before t after, history = before ++ t :: after → Q before t

/-- What a component has put out: what it put out at its start, and what each
transition put out. -/
def trace (out : σ → List α) (init : σ) (history : List (Transition σ ε)) : List α :=
  out init ++ history.flatMap fun t => out t.post

/-- The run on the given events, with the state it reaches. -/
def replay (step : σ → ε → σ) (init : σ) (es : List ε) : List (Transition σ ε) × σ :=
  es.foldl (fun run e => (run.1 ++ [⟨run.2, e, step run.2 e⟩], step run.2 e)) ([], init)

section Along

variable {Q : List (Transition σ ε) → Transition σ ε → Prop}
  {history : List (Transition σ ε)} {t : Transition σ ε}

@[simp] theorem along_nil : Along Q ([] : List (Transition σ ε)) := by
  intro before t after h
  simp at h

/-- A condition along a history holds along the past of each of its transitions. -/
theorem Along.past {past after : List (Transition σ ε)} (h : Along Q history)
    (heq : history = past ++ t :: after) : Along Q past := fun before u rest hu =>
  h before u (rest ++ t :: after) (by simp [heq, hu])

/-- A condition along a history is the condition along its past and at its last
transition. -/
@[simp] theorem along_concat : Along Q (history ++ [t]) ↔ Along Q history ∧ Q history t := by
  constructor
  · intro h
    exact ⟨fun before u after hu => h before u (after ++ [t]) (by simp [hu]), h history t [] rfl⟩
  · rintro ⟨hpast, hlast⟩ before u after h
    rcases List.eq_nil_or_concat after with rfl | ⟨after', v, rfl⟩
    · obtain ⟨rfl, hu⟩ := List.append_inj' h rfl
      obtain rfl : t = u := by simpa using hu
      exact hlast
    · have h' : history ++ [t] = (before ++ u :: after') ++ [v] := by simpa using h
      exact hpast before u after' (List.append_inj' h' rfl).1

end Along

section Trace

variable {out : σ → List α} {init : σ}

@[simp] theorem trace_nil : trace out init ([] : List (Transition σ ε)) = out init := by
  simp [trace]

@[simp] theorem trace_concat (history : List (Transition σ ε)) (t : Transition σ ε) :
    trace out init (history ++ [t]) = trace out init history ++ out t.post := by
  simp [trace]

end Trace

namespace Run

variable {step : σ → ε → σ} {init s : σ} {history : List (Transition σ ε)}

/-- **The invariant rule**: what holds at the start and is kept by every step
holds after every run. -/
theorem invariant {P : σ → Prop} (hstart : P init) (hstep : ∀ s e, P s → P (step s e))
    (hrun : Run step init history s) : P s := by
  induction hrun with
  | start => exact hstart
  | next e _ ih => exact hstep _ e ih

/-- The state after a transition is the step of the state before it. -/
theorem post_eq (hrun : Run step init history s) :
    ∀ t ∈ history, t.post = step t.pre t.event := by
  induction hrun with
  | start => simp
  | next e _ ih =>
    intro t ht
    rcases List.mem_append.mp ht with ht | ht
    · exact ih t ht
    · obtain rfl := List.mem_singleton.mp ht
      rfl

/-- **Every part of a run is a run**: the past of a transition reaches the state
before it. -/
theorem before (hrun : Run step init history s) :
    ∀ past t after, history = past ++ t :: after → Run step init past t.pre := by
  induction hrun with
  | start =>
    intro past t after h
    simp at h
  | @next history s e hrun ih =>
    intro past t after h
    rcases List.eq_nil_or_concat after with rfl | ⟨after', v, rfl⟩
    · obtain ⟨rfl, hu⟩ := List.append_inj' h rfl
      obtain rfl : (⟨s, e, step s e⟩ : Transition σ ε) = t := by simpa using hu
      exact hrun
    · have h' : history ++ [⟨s, e, step s e⟩] = (past ++ t :: after') ++ [v] := by simpa using h
      exact ih past t after' (List.append_inj' h' rfl).1

/-- **The invariant rule from a transition on**: what holds after it and is kept by all later
ones holds before each of them, and at the end. -/
theorem since {P : σ → Prop} (hrun : Run step init history s) :
    ∀ before t after, history = before ++ t :: after → P t.post →
      (∀ u ∈ after, P u.pre → P u.post) → P s ∧ ∀ u ∈ after, P u.pre := by
  induction hrun with
  | start =>
    intro before t after h
    simp at h
  | @next history s e hrun ih =>
    intro before t after h hpost hkeep
    rcases List.eq_nil_or_concat after with rfl | ⟨after', v, rfl⟩
    · obtain ⟨rfl, hu⟩ := List.append_inj' h rfl
      obtain rfl : (⟨s, e, step s e⟩ : Transition σ ε) = t := by simpa using hu
      exact ⟨hpost, by simp⟩
    · have h' : history ++ [⟨s, e, step s e⟩] = (before ++ t :: after') ++ [v] := by simpa using h
      obtain ⟨hpast, hv⟩ := List.append_inj' h' rfl
      obtain rfl : (⟨s, e, step s e⟩ : Transition σ ε) = v := by simpa using hv
      have hkeep' : ∀ u ∈ after', P u.pre → P u.post := fun u hu =>
        hkeep u (by simp [hu])
      obtain ⟨hs, hafter⟩ := ih before t after' hpast hpost hkeep'
      refine ⟨hkeep ⟨s, e, step s e⟩ (by simp) hs, fun u hu => ?_⟩
      have hmem : u ∈ after' ∨ u = ⟨s, e, step s e⟩ := by simpa using hu
      rcases hmem with hu | rfl
      · exact hafter u hu
      · exact hs

theorem replay_concat (step : σ → ε → σ) (init : σ) (es : List ε) (e : ε) :
    replay step init (es ++ [e]) =
      ((replay step init es).1 ++ [⟨(replay step init es).2, e, step (replay step init es).2 e⟩],
        step (replay step init es).2 e) := by
  rw [replay, List.foldl_append]
  rfl

/-- **Every sequence of events is a run**, the one that is replayed. -/
theorem of_replay (step : σ → ε → σ) (init : σ) (es : List ε) :
    Run step init (replay step init es).1 (replay step init es).2 := by
  induction es using List.reverseRecOn with
  | nil => exact Run.start
  | append_singleton es e ih =>
    rw [replay_concat]
    exact ih.next e

/-- The events of a replayed run are the ones that it was replayed with. -/
theorem replay_events (step : σ → ε → σ) (init : σ) (es : List ε) :
    (replay step init es).1.map Transition.event = es := by
  induction es using List.reverseRecOn with
  | nil => rfl
  | append_singleton es e ih => rw [replay_concat, List.map_append, ih, List.map_singleton]

/-- What holds of the events holds along the run. -/
theorem forall_replay {Q : ε → Prop} {es : List ε} (h : ∀ e ∈ es, Q e) :
    ∀ t ∈ (replay step init es).1, Q t.event := by
  intro t ht
  have hmem := List.mem_map_of_mem (f := Transition.event) ht
  rw [replay_events] at hmem
  exact h _ hmem

/-- **The potential rule**: if no step raises a potential, and each step that counts lowers it,
then no more steps count than the potential was worth at the start. -/
theorem countP_le {P : σ → Prop} {admitted : ε → Prop} {counts : σ → ε → Prop}
    [∀ s e, Decidable (counts s e)] {potential : σ → ℕ} (hstart : P init)
    (hstep : ∀ s e, P s → admitted e → P (step s e) ∧
      potential (step s e) + (if counts s e then 1 else 0) ≤ potential s)
    (hrun : Run step init history s) (hadmitted : ∀ t ∈ history, admitted t.event) :
    P s ∧ potential s + history.countP (fun t => decide (counts t.pre t.event)) ≤
      potential init := by
  induction hrun with
  | start => exact ⟨hstart, by simp⟩
  | @next history s e hrun ih =>
    obtain ⟨hP, hle⟩ := ih fun t ht => hadmitted t (List.mem_append_left _ ht)
    obtain ⟨hP', hcost⟩ := hstep s e hP (hadmitted ⟨s, e, step s e⟩ (by simp))
    refine ⟨hP', ?_⟩
    rw [List.countP_append, List.countP_singleton]
    simp only [decide_eq_true_eq]
    omega

/-- A renaming of states and events that the steps keep renames whole runs. -/
theorem map {σ' ε' : Type*} {step' : σ' → ε' → σ'} {f : σ → σ'} {g : ε → ε'}
    (hstep : ∀ s e, f (step s e) = step' (f s) (g e)) (hrun : Run step init history s) :
    Run step' (f init) (history.map fun t => ⟨f t.pre, g t.event, f t.post⟩) (f s) := by
  induction hrun with
  | start => exact .start
  | @next history s e hrun ih =>
    rw [List.map_append, List.map_singleton, hstep]
    exact ih.next (g e)

/-- **The simulation rule**: a relation that every event keeps relates the end of each run to the
end of one of the other component. -/
theorem simulate {σ' : Type*} {step' : σ' → ε → σ'} {init' : σ'} {R : σ → σ' → Prop}
    (hinit : R init init') (hstep : ∀ s s' e, R s s' → R (step s e) (step' s' e))
    (hrun : Run step init history s) :
    ∃ history' s', Run step' init' history' s' ∧ R s s' := by
  induction hrun with
  | start => exact ⟨[], init', .start, hinit⟩
  | next e _ ih =>
    obtain ⟨history', s', hrun', hR⟩ := ih
    exact ⟨_, _, hrun'.next e, hstep _ s' e hR⟩

end Run

/-- **Two components in step**: a relation between their states that every pair of
corresponding events keeps, with equal outputs, gives equal outputs of whole runs. -/
theorem replay_agree {σ' ε' ι : Type*} {step : σ → ε → σ} {step' : σ' → ε' → σ'}
    {out : σ → List α} {out' : σ' → List α} {event : ι → ε} {event' : ι → ε'} {admitted : ι → Prop}
    {R : σ → σ' → Prop} {init : σ} {init' : σ'} (hinit : R init init')
    (hstep : ∀ s s' i, R s s' → admitted i →
      R (step s (event i)) (step' s' (event' i)) ∧
        out (step s (event i)) = out' (step' s' (event' i)))
    (is : List ι) (his : ∀ i ∈ is, admitted i) :
    R (replay step init (is.map event)).2 (replay step' init' (is.map event')).2 ∧
      ((replay step init (is.map event)).1.flatMap fun t => out t.post) =
        (replay step' init' (is.map event')).1.flatMap fun t => out' t.post := by
  induction is using List.reverseRecOn with
  | nil => exact ⟨hinit, rfl⟩
  | append_singleton is i ih =>
    obtain ⟨hR, hout⟩ := ih fun j hj => his j (List.mem_append_left _ hj)
    obtain ⟨hR', hout'⟩ := hstep _ _ i hR (his i (by simp))
    simp only [List.map_append, List.map_cons, List.map_nil, Run.replay_concat]
    refine ⟨hR', ?_⟩
    rw [List.flatMap_append, List.flatMap_append, hout, List.flatMap_singleton,
      List.flatMap_singleton, hout']

end Protocol
