import DualQuery.Engine.Document
import DualQuery.Proofs.KeyedOrder

/-!
# What runs give

`Run.exec` is what a run gives at a time, and the time and state it leaves. The steps of a run are
read off one by one; calls made together, one after the other or after one wait, give their answers
in order as long as what they are answered from stays as it is.

## Key results

- `Run.exec_bind`, `Run.exec_wait`, `Run.exec_answer`: single steps
- `Run.exec_all`: calls made together
- `MemoryBackend.answer_aggregate`: what a store answers when no fault is set
-/

namespace DualQuery

/-- Whether time runs out within some milliseconds. -/
def Timed.expires {σ : Type} (timed : Timed σ) (ms : Nat) : Bool :=
  match timed.deadline with
  | some deadline => decide (deadline < timed.now + ms)
  | none => false

namespace Run

variable {σ α β : Type}

/-- What a run gives at a time, and what it leaves. -/
def exec (run : Run σ α) (timed : Timed σ) : Except Interrupt α × Timed σ :=
  (ExceptT.run run).run timed

/-! ## Steps -/

/-- What comes next starts where a run ends, unless the run fails. -/
theorem exec_bind (run : Run σ α) (next : α → Run σ β) (timed : Timed σ) :
    exec (run >>= next) timed =
      match exec run timed with
      | (.ok a, timed) => exec (next a) timed
      | (.error e, timed) => (.error e, timed) := by
  have hbind : exec (run >>= next) timed =
      ExceptT.bindCont next (exec run timed).1 (exec run timed).2 := rfl
  rw [hbind]
  rcases exec run timed with ⟨e | a, timed⟩ <;> rfl

/-- Looking at the state leaves it. -/
theorem exec_state (timed : Timed σ) : exec state timed = (.ok timed.state, timed) := rfl

/-- A change is made to the state alone and takes no time. -/
theorem exec_change (f : σ → σ) (timed : Timed σ) :
    exec (change f) timed = (.ok (), { timed with state := f timed.state }) := rfl

/-- A wait ends where time runs out, or leaves its milliseconds behind. -/
theorem exec_wait (ms : Nat) (timed : Timed σ) :
    exec (wait ms) timed =
      if timed.expires ms then (.error .outOfTime, timed)
      else (.ok (), { timed with now := timed.now + ms }) := by
  obtain ⟨s, now, deadline⟩ := timed
  cases deadline with
  | none => rfl
  | some deadline =>
    have hwait : exec (wait ms) ⟨s, now, some deadline⟩ =
        exec (if deadline < now + ms then throw .outOfTime
          else set (⟨s, now + ms, some deadline⟩ : Timed σ)) ⟨s, now, some deadline⟩ := rfl
    rw [hwait]
    -- the end of the wait is compared with the deadline before any time passes
    by_cases h : deadline < now + ms
    · simp only [Timed.expires, h, decide_true, if_true]
      rfl
    · simp only [Timed.expires, h, decide_false, if_false, Bool.false_eq_true]
      rfl

/-- A call is answered from the state as it is, and an answer that fails ends the run. -/
theorem exec_answer (call : Call σ α) (timed : Timed σ) :
    exec (answer call) timed =
      ((call.answer timed.state).1.mapError .failed,
        { timed with state := (call.answer timed.state).2 }) := by
  rw [answer, exec_bind]
  -- the state that the call leaves is there before its answer is looked at
  change exec _ { timed with state := (call.answer timed.state).2 } = _
  cases (call.answer timed.state).1 <;> rfl

/-- A call is answered from what its start leaves, unless time runs out. -/
theorem exec_call (ms : Nat) (c : Call σ α) (timed : Timed σ) :
    exec (call ms c) timed =
      if timed.expires ms then (.error .outOfTime, { timed with state := c.start timed.state })
      else ((c.answer (c.start timed.state)).1.mapError .failed,
        { timed with
          state := (c.answer (c.start timed.state)).2
          now := timed.now + ms }) := by
  rw [call, exec_bind, exec_change]
  simp only
  rw [exec_bind, exec_wait]
  have hexpires : Timed.expires { timed with state := c.start timed.state } ms =
      timed.expires ms := rfl
  rw [hexpires]
  cases timed.expires ms with
  | true => rfl
  | false =>
    simp only [Bool.false_eq_true, if_false]
    rw [exec_answer]

/-! ## Several calls -/

/-- Steps that each give what is known of them give all of it, or the first failure. What this hangs
on has to be kept by steps that do not fail. -/
theorem exec_mapM {step : α → Run σ β} {known : α → Except ExecuteError β}
    (Keeps : Timed σ → Prop) {as : List α}
    (hstep : ∀ a ∈ as, ∀ timed, Keeps timed →
      (exec (step a) timed).1 = (known a).mapError .failed ∧
        ∀ b, known a = .ok b → Keeps (exec (step a) timed).2)
    {timed : Timed σ} (h : Keeps timed) :
    (exec (as.mapM step) timed).1 = (as.mapM known).mapError .failed := by
  -- the state moves on while the list is taken apart, so what is kept is generalized with it
  induction as generalizing timed with
  | nil => rfl
  | cons a as ih =>
    rw [List.forall_mem_cons] at hstep
    obtain ⟨hfirst, hkeeps⟩ := hstep.1 timed h
    rw [List.mapM_cons, List.mapM_cons, exec_bind]
    rcases hexec : exec (step a) timed with ⟨result, next⟩
    rw [hexec] at hfirst hkeeps
    simp only at hfirst hkeeps
    -- the first failure ends both runs
    cases hknown : known a with
    | error e =>
      rw [hfirst, hknown]
      rfl
    | ok b =>
      have hresult : result = .ok b := by
        rw [hfirst, hknown]
        rfl
      have hrest := ih hstep.2 (hkeeps b hknown)
      rw [hresult]
      simp only
      rw [exec_bind]
      rcases hexec' : exec (as.mapM step) next with ⟨rest, last⟩
      rw [hexec'] at hrest
      simp only at hrest
      rw [hrest]
      cases as.mapM known <;> rfl

/-- The starts of calls are made one after the other. -/
theorem exec_forM_change (calls : List (Call σ α)) (timed : Timed σ) :
    exec (calls.forM fun c => change c.start) timed =
      (.ok (), { timed with state := calls.foldl (fun s c => c.start s) timed.state }) := by
  induction calls generalizing timed with
  | nil => rfl
  | cons c calls ih =>
    have hcons : exec ((c :: calls).forM fun c => change c.start) timed =
        exec (change c.start >>= fun _ => calls.forM fun c => change c.start) timed := rfl
    rw [hcons, exec_bind, exec_change]
    exact ih _

/-- Calls made together give their answers in order, unless time runs out while they are waited
for. -/
theorem exec_all {calls : List (Call σ α)} (known : Call σ α → Except ExecuteError α)
    (Keeps : σ → Prop) (hstart : ∀ c ∈ calls, ∀ s, Keeps s → Keeps (c.start s))
    (hanswer : ∀ c ∈ calls, ∀ s, Keeps s →
      (c.answer s).1 = known c ∧ ∀ a, known c = .ok a → Keeps (c.answer s).2)
    (timed : Timed σ) (h : Keeps timed.state) (hnow : timed.expires 0 = false) (ms : Nat) :
    (exec (all ms calls) timed).1 =
      if timed.expires ms then .error .outOfTime else (calls.mapM known).mapError .failed := by
  unfold all
  split
  next hms =>
    -- without waiting each call starts when the one before it is answered, at the same time
    subst hms
    rw [hnow]
    refine exec_mapM (fun t => Keeps t.state ∧ t.expires 0 = false) (fun c hc t ht => ?_) ⟨h, hnow⟩
    obtain ⟨hresult, hkeeps⟩ := hanswer c hc _ (hstart c hc _ ht.1)
    rw [exec_call, ht.2]
    simp only [Bool.false_eq_true, if_false]
    exact ⟨by rw [hresult], fun a ha => ⟨hkeeps a ha, ht.2⟩⟩
  next hms =>
    -- all calls start before time passes, and are answered after it has
    have hstarted : ∀ (calls' : List (Call σ α)), (∀ c ∈ calls', c ∈ calls) → ∀ s, Keeps s →
        Keeps (calls'.foldl (fun s c => c.start s) s) := by
      intro calls'
      induction calls' with
      | nil => exact fun _ _ hs => hs
      | cons c calls' ih =>
        intro hsub s hs
        rw [List.forall_mem_cons] at hsub
        exact ih hsub.2 _ (hstart c hsub.1 s hs)
    rw [exec_bind, exec_forM_change]
    simp only
    rw [exec_bind, exec_wait]
    have hexpires : Timed.expires
        { timed with state := calls.foldl (fun s c => c.start s) timed.state } ms =
          timed.expires ms := rfl
    rw [hexpires]
    cases timed.expires ms with
    | true => rfl
    | false =>
      simp only [Bool.false_eq_true, if_false]
      refine exec_mapM (fun t => Keeps t.state) (fun c hc t ht => ?_)
        (hstarted calls (fun _ hc => hc) _ h)
      obtain ⟨hresult, hkeeps⟩ := hanswer c hc _ ht
      rw [exec_answer]
      exact ⟨by rw [hresult], hkeeps⟩

/-! ## Runs within a time -/

/-- The answer of a run that may end early. -/
def outcome (entity : String) : Except Interrupt α → Except ExecuteError α
  | .ok a => .ok a
  | .error .outOfTime => .error (.timeout entity)
  | .error (.failed e) => .error e

/-- A run within a time is carried out with that deadline, from time zero. -/
theorem within_eq (entity : String) (timeout : Option Nat) (run : Run σ α) (s : σ) :
    run.within entity timeout s =
      (outcome entity (exec run { state := s, deadline := timeout }).1,
        (exec run { state := s, deadline := timeout }).2.state) := by
  unfold within exec
  rcases (ExceptT.run run).run { state := s, deadline := timeout } with ⟨(_ | e) | a, timed⟩ <;> rfl

/-- What a run gives within a time. -/
theorem fst_within (entity : String) (timeout : Option Nat) (run : Run σ α) (s : σ) :
    (run.within entity timeout s).1 =
      outcome entity (exec run { state := s, deadline := timeout }).1 := by
  rw [within_eq]

/-- What a run leaves of the state within a time. -/
theorem snd_within (entity : String) (timeout : Option Nat) (run : Run σ α) (s : σ) :
    (run.within entity timeout s).2 = (exec run { state := s, deadline := timeout }).2.state := by
  rw [within_eq]

end Run

/-! ## Calls of a store -/

/-- A call of an operation for which no fault is set leaves the store as it is. -/
theorem Store.takeFault_of_get?_eq_none {store : Store} {operation : String}
    (h : Keyed.get? store.faults operation = none) : store.takeFault operation = (none, store) := by
  have herase : Keyed.erase store.faults operation = store.faults := by
    rw [Keyed.erase, List.filter_eq_self]
    exact fun entry hentry => decide_eq_true (Keyed.get?_eq_none_iff.1 h entry hentry)
  rw [takeFault, h, herase]

namespace MemoryBackend

variable [Hashing]

/-- The answer to a pipeline hangs on the store alone. -/
theorem fst_answer_aggregate_congr (collection : String) (pipeline : Document.Pipeline)
    {backend backend' : MemoryBackend} (h : backend.store = backend'.store) :
    ((aggregate collection pipeline).answer backend).1 =
      ((aggregate collection pipeline).answer backend').1 := by
  simp only [aggregate, call, h]
  split <;> rfl

/-- Where no fault is set a pipeline is answered by its run, and the store stays as it is. -/
theorem answer_aggregate {backend : MemoryBackend}
    (hfault : Keyed.get? backend.store.faults "aggregate" = none) (collection : String)
    (pipeline : Document.Pipeline) :
    (aggregate collection pipeline).answer backend =
      ((pipeline.run backend.store collection).mapError fun e =>
        .backend ((e.toBackend "aggregate" collection).withContext pipeline.toJson.text),
        backend) := by
  simp only [aggregate, call, Store.readWith, Store.read, Store.answer,
    Store.takeFault_of_get?_eq_none hfault]
  cases pipeline.run backend.store collection <;> rfl

/-- A fault that is set is the answer to any pipeline. -/
theorem answer_aggregate_of_fault {backend : MemoryBackend} {fault : Fault}
    (hfault : Keyed.get? backend.store.faults "aggregate" = some fault) (collection : String)
    (pipeline : Document.Pipeline) :
    ((aggregate collection pipeline).answer backend).1 =
      .error (.backend
        { operation := "aggregate", entity := collection, kind := fault.kind,
          message := fault.message }) := by
  simp only [aggregate, call, Store.readWith, Store.read, Store.answer, Store.takeFault, hfault]

/-- One pipeline, read as page and total. -/
theorem fst_within_runFaceted (backend : MemoryBackend) (collection entity : String)
    (pipeline : Document.Pipeline) (options : Document.PipelineOptions) (timeout : Option Nat) :
    ((documents.runFaceted collection pipeline options).within entity timeout backend).1 =
      if Timed.expires { state := backend, deadline := timeout } backend.store.latency then
        .error (.timeout entity)
      else ((aggregate collection pipeline).answer backend).1.bind
        (RowPage.readAnswer pipeline) := by
  rw [Run.fst_within, DocumentBackend.runFaceted, Run.exec_bind, Run.exec_state]
  simp only
  rw [Run.exec_call]
  have hlatency : documents.latency backend = backend.store.latency := rfl
  rw [hlatency]
  split
  · rfl
  · -- starting a call only counts it, which its answer does not see
    have hstart : ((aggregate collection pipeline).answer backend).1 =
        ((aggregate collection pipeline).answer
          ((aggregate collection pipeline).start backend)).1 :=
      fst_answer_aggregate_congr collection pipeline rfl
    rw [hstart]
    -- reading the answer is done on top of the call and leaves the state as the call does
    have hread : (DocumentBackend.reading (documents.aggregate collection pipeline options)
          (RowPage.readAnswer pipeline)).answer ((DocumentBackend.reading
            (documents.aggregate collection pipeline options)
              (RowPage.readAnswer pipeline)).start backend) =
        ((((aggregate collection pipeline).answer
            ((aggregate collection pipeline).start backend)).1.bind (RowPage.readAnswer pipeline)),
          ((aggregate collection pipeline).answer
            ((aggregate collection pipeline).start backend)).2) := rfl
    rw [hread]
    cases ((aggregate collection pipeline).answer
      ((aggregate collection pipeline).start backend)).1.bind (RowPage.readAnswer pipeline) <;> rfl

/-- Pipelines that are called together are answered as each of them would be alone. -/
theorem fst_exec_all_aggregate (backend : MemoryBackend) (collection : String)
    (pipelines : List Document.Pipeline) (timeout : Option Nat) :
    (Run.exec (Run.all backend.store.latency
        (pipelines.map fun pipeline => aggregate collection pipeline))
          { state := backend, deadline := timeout }).1 =
      if Timed.expires { state := backend, deadline := timeout } backend.store.latency then
        .error .outOfTime
      else (pipelines.mapM fun pipeline =>
        ((aggregate collection pipeline).answer backend).1).mapError .failed := by
  have hanswer : ∀ c ∈ pipelines.map fun pipeline => aggregate collection pipeline,
      ∀ s : MemoryBackend, s.store = backend.store →
        (c.answer s).1 = (c.answer backend).1 ∧
          ∀ rows, (c.answer backend).1 = .ok rows → (c.answer s).2.store = backend.store := by
    intro c hc s hs
    obtain ⟨pipeline, -, rfl⟩ := List.mem_map.1 hc
    refine ⟨fst_answer_aggregate_congr collection pipeline hs, fun rows hrows => ?_⟩
    cases hfault : Keyed.get? backend.store.faults "aggregate" with
    | none =>
      rw [← hs] at hfault
      rw [answer_aggregate hfault]
      exact hs
    | some fault =>
      -- a fault is taken by the call it fails, which ends the run
      rw [answer_aggregate_of_fault hfault] at hrows
      cases hrows
  have hstart : ∀ c ∈ pipelines.map fun pipeline => aggregate collection pipeline,
      ∀ s : MemoryBackend, s.store = backend.store → (c.start s).store = backend.store := by
    intro c hc s hs
    obtain ⟨pipeline, -, rfl⟩ := List.mem_map.1 hc
    exact hs
  -- a call counts itself but leaves the tables, so all pipelines read the same store
  have hall := Run.exec_all (fun c => (c.answer backend).1) (fun s => s.store = backend.store)
    hstart hanswer { state := backend, deadline := timeout } rfl
    (by cases timeout <;> simp [Timed.expires]) backend.store.latency
  rw [hall, List.mapM_map]
  rfl

/-- The pipelines of all partitions, answered in order and merged. -/
theorem fst_within_runDistributed (backend : MemoryBackend) (collection entity : String)
    (pipelines : List Document.Pipeline) (options : Document.PipelineOptions)
    (pagination : Option Pagination) (timeout : Option Nat) :
    ((documents.runDistributed collection pipelines options pagination).within entity timeout
        backend).1 =
      if Timed.expires { state := backend, deadline := timeout } backend.store.latency then
        .error (.timeout entity)
      else (pipelines.mapM fun pipeline => ((aggregate collection pipeline).answer backend).1).map
        (RowPage.merge ((pipelines.head?.map Document.Pipeline.sortKeys).getD []) pagination) := by
  rw [Run.fst_within, DocumentBackend.runDistributed, Run.exec_bind, Run.exec_state]
  simp only
  rw [Run.exec_bind]
  have hcalls : (pipelines.map fun pipeline => documents.aggregate collection pipeline options) =
      pipelines.map fun pipeline => aggregate collection pipeline := rfl
  have hlatency : documents.latency backend = backend.store.latency := rfl
  rw [hcalls, hlatency]
  -- all partitions are called together and answered in order
  have hall := fst_exec_all_aggregate backend collection pipelines timeout
  rcases hexec : Run.exec (Run.all backend.store.latency
    (pipelines.map fun pipeline => aggregate collection pipeline))
      { state := backend, deadline := timeout } with ⟨result, timed⟩
  rw [hexec] at hall
  simp only at hall
  rw [hall]
  by_cases hexpires : Timed.expires { state := backend, deadline := timeout } backend.store.latency
  · rw [if_pos hexpires, if_pos hexpires]
    rfl
  · rw [if_neg hexpires, if_neg hexpires]
    cases pipelines.mapM fun pipeline => ((aggregate collection pipeline).answer backend).1 <;> rfl

end MemoryBackend

end DualQuery
