import DualQuery.Proofs.RunOutcome

/-!
# The value of a run

`Run.Gives pre run ms value post` says all there is to say of a run from the states with `pre`:
unless time runs out within `ms` milliseconds, it takes just as long, gives `value` and leaves a
state with `post`. A run that fails takes no longer than until it fails.

There is one rule for each way to make a run of others, so that a run is never carried out in a
proof; a call comes in through `Call.Answers`.

## Key results

- `Run.Gives.bind`: one run after the other
- `Run.gives_call`, `Run.gives_both`, `Run.gives_all`, `Run.gives_attempt`: calls of a backend
- `Run.Gives.within`: what is given within a time
-/

namespace DualQuery

namespace Timed

variable {σ : Type}

/-- Some milliseconds later, in another state. -/
def after (timed : Timed σ) (ms : Nat) (s : σ) : Timed σ :=
  { timed with state := s, now := timed.now + ms }

/-- Times follow each other, and the later state stays. -/
theorem after_after (timed : Timed σ) (ms ms' : Nat) (s s' : σ) :
    (timed.after ms s).after ms' s' = timed.after (ms + ms') s' := by
  simp [after, Nat.add_assoc]

/-- What has passed counts against the deadline. -/
theorem expires_after (timed : Timed σ) (ms ms' : Nat) (s : σ) :
    (timed.after ms s).expires ms' = timed.expires (ms + ms') := by
  obtain ⟨_, now, deadline⟩ := timed
  -- without a deadline no time runs out
  cases deadline <;> simp [after, expires, Nat.add_assoc]

/-- Time that has run out stays so. -/
theorem expires_of_le {timed : Timed σ} {ms ms' : Nat} (hle : ms ≤ ms') (h : timed.expires ms) :
    timed.expires ms' := by
  obtain ⟨_, now, deadline⟩ := timed
  cases deadline with
  | none => cases h
  | some deadline =>
    simp only [expires, decide_eq_true_eq] at h ⊢
    omega

end Timed

/-- What a call answers in the states with `pre`, where it leaves a state with `post`. -/
def Call.Answers {σ α : Type} (pre : σ → Prop) (c : Call σ α) (value : Except ExecuteError α)
    (post : σ → Prop) : Prop :=
  ∀ s, pre s → (c.answer s).1 = value ∧ post (c.answer s).2

namespace Run

variable {σ α β : Type} {pre mid post : σ → Prop} {ms ms' : Nat}

/-- What a run gives from the states with `pre`, the time it takes and what it leaves. -/
def Gives (pre : σ → Prop) (run : Run σ α) (ms : Nat) (value : Except ExecuteError α)
    (post : σ → Prop) : Prop :=
  ∀ timed : Timed σ, pre timed.state → timed.expires 0 = false →
    if timed.expires ms then (exec run timed).1 = .error .outOfTime
    else ∃ s, post s ∧ exec run timed = (value.mapError .failed, timed.after ms s)

/-- The time for what comes next, which a failure spares. -/
def nextMs (value : Except ExecuteError α) (ms : Nat) : Nat :=
  match value with
  | .ok _ => ms
  | .error _ => 0

/-! ## Rules -/

/-- A value takes no time. -/
theorem gives_pure (a : α) : Gives pre (pure a) 0 (.ok a) pre := by
  intro timed hpre hnow
  rw [hnow]
  exact ⟨timed.state, hpre, rfl⟩

/-- One run after the other. -/
theorem Gives.bind {run : Run σ α} {next : α → Run σ β} {value : Except ExecuteError α}
    {value' : α → Except ExecuteError β} (h : Gives pre run ms value mid)
    (hnext : ∀ a, value = .ok a → Gives mid (next a) ms' (value' a) post)
    (hfail : ∀ e, value = .error e → ∀ s, mid s → post s) :
    Gives pre (run >>= next) (ms + nextMs value ms') (value.bind value') post := by
  intro timed hpre hnow
  have hrun := h timed hpre hnow
  rw [exec_bind]
  cases hms : timed.expires ms with
  | true =>
    -- time runs out in the first run, so it would in both together
    rw [hms] at hrun
    rw [Timed.expires_of_le (Nat.le_add_right ms _) hms]
    rcases hexec : exec run timed with ⟨result, timed'⟩
    rw [hexec] at hrun
    simp only [if_true] at hrun ⊢
    rw [hrun]
  | false =>
    rw [hms] at hrun
    obtain ⟨s, hmid, hexec⟩ := hrun
    rw [hexec]
    cases value with
    | error e =>
      simp only [nextMs, Nat.add_zero, hms, Bool.false_eq_true, if_false]
      exact ⟨s, hfail e rfl s hmid, rfl⟩
    | ok a =>
      -- the second run starts when the first ends, before time runs out
      have hlater : (timed.after ms s).expires 0 = false := by
        rw [Timed.expires_after, Nat.add_zero, hms]
      have hrest := hnext a rfl (timed.after ms s) hmid hlater
      simp only [Timed.expires_after, Timed.after_after] at hrest
      exact hrest

/-- A run after one that does not fail. -/
theorem Gives.andThen {run : Run σ α} {next : α → Run σ β} {a : α}
    {value : Except ExecuteError β} (h : Gives pre run ms (.ok a) mid)
    (hnext : Gives mid (next a) ms' value post) :
    Gives pre (run >>= next) (ms + ms') value post := by
  have hgiven : ∀ a', Except.ok (ε := ExecuteError) a = .ok a' →
      Gives mid (next a') ms' value post := by
    intro a' ha
    cases ha
    exact hnext
  exact h.bind hgiven nofun

/-- A run after one that takes no time and does not fail. -/
theorem Gives.first {run : Run σ α} {next : α → Run σ β} {a : α}
    {value : Except ExecuteError β} (h : Gives pre run 0 (.ok a) mid)
    (hnext : Gives mid (next a) ms value post) : Gives pre (run >>= next) ms value post := by
  have hboth := h.andThen hnext
  rwa [Nat.zero_add] at hboth

/-- A run that takes no time after another. -/
theorem Gives.last {run : Run σ α} {next : α → Run σ β} {value : Except ExecuteError α}
    {value' : α → Except ExecuteError β} (h : Gives pre run ms value mid)
    (hnext : ∀ a, Gives mid (next a) 0 (value' a) post)
    (hfail : ∀ e, value = .error e → ∀ s, mid s → post s) :
    Gives pre (run >>= next) ms (value.bind value') post := by
  have hboth := h.bind (fun a _ => hnext a) hfail
  have hms : ms + nextMs value 0 = ms := by cases value <;> rfl
  rwa [hms] at hboth

/-- A run whose result is made of the result of another. -/
theorem Gives.map {run : Run σ α} {value : Except ExecuteError α} (f : α → β)
    (h : Gives pre run ms value post) :
    Gives pre (run >>= fun a => pure (f a)) ms (value.map f) post := by
  have hvalue : (value.bind fun a => .ok (f a)) = value.map f := by cases value <;> rfl
  rw [← hvalue]
  exact h.last (fun a => gives_pure (f a)) fun _ _ _ hs => hs

/-- A run that begins by looking at the state. -/
theorem gives_state {next : σ → Run σ α} {value : Except ExecuteError α}
    (h : ∀ s, pre s → Gives pre (next s) ms value post) :
    Gives pre (state >>= next) ms value post := by
  intro timed hpre hnow
  rw [exec_bind, exec_state]
  exact h timed.state hpre timed hpre hnow

/-- A change takes no time and does not fail. -/
theorem gives_change {f : σ → σ} (h : ∀ s, pre s → post (f s)) :
    Gives pre (change f) 0 (.ok ()) post := by
  intro timed hpre hnow
  rw [hnow, exec_change]
  exact ⟨f timed.state, h _ hpre, rfl⟩

/-- A wait takes its time and leaves the state. -/
theorem gives_wait : Gives pre (wait ms) ms (.ok ()) pre := by
  intro timed hpre _
  rw [exec_wait]
  cases timed.expires ms with
  | true => rfl
  | false => exact ⟨timed.state, hpre, rfl⟩

/-- What takes no time after a wait. -/
theorem gives_after_wait {run : Run σ α} {value : Except ExecuteError α}
    (h : Gives pre run 0 value post) : Gives pre (wait ms >>= fun _ => run) ms value post := by
  have hboth : Gives pre (wait ms >>= fun _ => run) (ms + 0) value post := gives_wait.andThen h
  exact hboth

/-- An answer takes no time. -/
theorem gives_answer {c : Call σ α} {value : Except ExecuteError α}
    (h : c.Answers pre value post) : Gives pre (answer c) 0 value post := by
  intro timed hpre hnow
  obtain ⟨hvalue, hpost⟩ := h timed.state hpre
  rw [hnow, exec_answer, hvalue]
  exact ⟨_, hpost, rfl⟩

/-! ## Calls -/

/-- A call is started, waited for and answered. -/
theorem gives_call {c : Call σ α} {value : Except ExecuteError α}
    (hstart : ∀ s, pre s → mid (c.start s)) (h : c.Answers mid value post) :
    Gives pre (call ms c) ms value post := by
  have hwait : Gives mid (wait ms >>= fun _ => answer c) ms value post :=
    gives_after_wait (gives_answer h)
  exact (gives_change hstart).first hwait

/-- Two calls made together, whichever way their starts and answers follow each other. -/
theorem gives_both {first : Call σ α} {second : Call σ β} {value : Except ExecuteError α}
    {value' : Except ExecuteError β} (hstart : ∀ s, pre s → pre (first.start s))
    (hstart' : ∀ s, pre s → pre (second.start s)) (hbetween : ∀ s, mid s → mid (second.start s))
    (h : first.Answers pre value mid) (h' : second.Answers mid value' post)
    (hfail : ∀ e, value = .error e → ∀ s, mid s → post s) :
    Gives pre (both ms first second) ms
      (value.bind fun a => value'.map fun b => (a, b)) post := by
  unfold both
  split
  next hms =>
    -- without waiting the second call starts when the first is answered
    subst hms
    have hsecond : ∀ a : α, Gives mid (call 0 second >>= fun b => pure (a, b)) 0
        (value'.map fun b => (a, b)) post := fun a =>
      (gives_call hbetween h').map fun b => (a, b)
    exact (gives_call hstart h).last hsecond hfail
  next hms =>
    have hsecond : ∀ a : α, Gives mid (answer second >>= fun b => pure (a, b)) 0
        (value'.map fun b => (a, b)) post := fun a => (gives_answer h').map fun b => (a, b)
    have hanswers := (gives_answer h).last hsecond hfail
    exact (gives_change hstart).first ((gives_change hstart').first (gives_after_wait hanswers))

/-- Steps that take no time, one after the other. -/
theorem gives_mapM {step : α → Run σ β} {known : α → Except ExecuteError β} {as : List α}
    (h : ∀ a ∈ as, Gives pre (step a) 0 (known a) pre) :
    Gives pre (as.mapM step) 0 (as.mapM known) pre := by
  induction as with
  | nil => exact gives_pure []
  | cons a as ih =>
    rw [List.forall_mem_cons] at h
    have hrest : ∀ b, Gives pre (as.mapM step >>= fun bs => pure (b :: bs)) 0
        ((as.mapM known).map fun bs => b :: bs) pre := fun b => (ih h.2).map fun bs => b :: bs
    -- a failure of the first step is the failure of all
    have hvalue : (a :: as).mapM known =
        (known a).bind fun b => (as.mapM known).map fun bs => b :: bs := by
      rw [List.mapM_cons]
      cases known a with
      | error e => rfl
      | ok b => cases hknown : as.mapM known <;> rfl
    rw [List.mapM_cons, hvalue]
    exact h.1.last hrest fun _ _ _ hs => hs

/-- The starts of several calls take no time and do not fail. -/
private theorem gives_forM_change {c : α → Call σ β} {as : List α}
    (h : ∀ a ∈ as, ∀ s, pre s → pre ((c a).start s)) :
    Gives pre ((as.map c).forM fun c => change c.start) 0 (.ok ()) pre := by
  induction as with
  | nil => exact gives_pure ()
  | cons a as ih =>
    rw [List.forall_mem_cons] at h
    exact (gives_change h.1).first (ih h.2)

/-- Calls made together. -/
theorem gives_all {c : α → Call σ β} {known : α → Except ExecuteError β} {as : List α}
    (hstart : ∀ a ∈ as, ∀ s, pre s → pre ((c a).start s))
    (h : ∀ a ∈ as, (c a).Answers pre (known a) pre) :
    Gives pre (all ms (as.map c)) ms (as.mapM known) pre := by
  unfold all
  -- without latency each call is started and answered in front of the next one
  split
  next hms =>
    subst hms
    rw [List.mapM_map]
    exact gives_mapM fun a ha => gives_call (hstart a ha) (h a ha)
  next hms =>
    have hanswers : Gives pre ((as.map c).mapM answer) 0 (as.mapM known) pre := by
      rw [List.mapM_map]
      exact gives_mapM fun a ha => gives_answer (h a ha)
    exact (gives_forM_change hstart).first (gives_after_wait hanswers)

/-- A call that is given up after a time never fails. -/
theorem gives_attempt {patience : Nat} {c : Call σ α} {value : Except ExecuteError α}
    (hstart : ∀ s, pre s → pre (c.start s)) (h : c.Answers pre value pre) :
    Gives pre (attempt ms patience c) (min ms patience)
      (.ok (if patience < ms then none else value.toOption)) pre := by
  unfold attempt
  by_cases hms : patience < ms
  · have hmin : min ms patience = patience := by omega
    rw [hmin, if_pos hms, if_pos hms]
    exact (gives_change hstart).first (gives_after_wait (gives_pure none))
  · have hmin : min ms patience = ms := by omega
    -- the answer is looked at, whether it is a failure or not
    have hlook : Gives pre (do
        let timed ← get
        set { timed with state := (c.answer timed.state).2 }
        return (c.answer timed.state).1.toOption) 0 (.ok value.toOption) pre := by
      intro timed hpre hnow
      obtain ⟨hvalue, hpost⟩ := h timed.state hpre
      rw [hnow]
      refine ⟨(c.answer timed.state).2, hpost, ?_⟩
      rw [← hvalue]
      rfl
    rw [hmin, if_neg hms, if_neg hms]
    exact (gives_change hstart).first (gives_after_wait hlook)

/-! ## Within a time -/

/-- What is given within a time: the value, unless time runs out. -/
theorem Gives.within {run : Run σ α} {value : Except ExecuteError α}
    (h : Gives pre run ms value post) {s : σ} (hpre : pre s) (entity : String)
    (timeout : Option Nat) :
    if Timed.expires { state := s, deadline := timeout } ms then
      (run.within entity timeout s).1 = .error (.timeout entity)
    else (run.within entity timeout s).1 = value ∧ post (run.within entity timeout s).2 := by
  have hrun := h { state := s, deadline := timeout } hpre
    (by cases timeout <;> simp [Timed.expires])
  rw [fst_within, snd_within]
  -- either time runs out, or the run ends by itself and its value is the outcome
  split
  next hms =>
    rw [if_pos hms] at hrun
    rw [hrun]
    rfl
  next hms =>
    rw [if_neg hms] at hrun
    obtain ⟨s', hpost, hexec⟩ := hrun
    rw [hexec]
    exact ⟨by cases value <;> rfl, hpost⟩

end Run

end DualQuery
