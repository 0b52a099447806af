import BlobstoreS3.Effects

/-!
The provider at run time. `serve` spawns every handler as a task of its own, so the tasks and the
host's link commands interleave, and the store answers one request at a time. A task's step runs
its handler up to and including its next request: the handlers of `move_object` and
`clear_container` send two requests, and any other task's request can be answered between them;
every other handler is one step. The client is looked up in the step of the first request (link
commands touch only the actor table, so nothing observable tells the two moments apart). Run with
nothing between its steps, a task is its handler.
-/

namespace BlobstoreS3

/-- The rest of a handler that sends two requests, after its first. -/
inductive Pending
  /-- `serve_move_object` after the copy: the delete of the source. -/
  | deleteSource (client : StorageClient) (src : ObjectId)
  /-- `serve_clear_container` after the listing: the delete of the listed keys. -/
  | deleteListed (client : StorageClient) (bucket : String) (objects : List String)

/-- An accepted invocation of one of the fourteen functions, with the function it invokes. -/
def Invocation : Type := (op : Operation) × AcceptedInvocation op.Params

/-- A spawned handler: not started, or between its two requests, with the invocation it answers. -/
inductive Task
  | start (op : Operation) (inv : AcceptedInvocation op.Params)
  | pending (origin : Invocation) (k : Pending)

/-- The function whose handler a task runs. -/
def Task.op : Task → Operation
  | .start op _ => op
  | .pending _ (.deleteSource ..) => .moveObject
  | .pending _ (.deleteListed ..) => .clearContainer

/-- The invocation a task answers: its result goes to that invocation's result subject. -/
def Task.origin : Task → Invocation
  | .start op inv => ⟨op, inv⟩
  | .pending origin _ => origin

/-- Where a step of a task leads: to the rest of its handler, or to the end, with what the handler
transmits. -/
inductive Progress
  | next (k : Pending)
  | done (r : Except Error Transmission)

variable {σ : Type} (B : Backend σ)

/-- The second request of a handler, and what it transmits. -/
def Pending.finish : Pending → S3M σ Transmission
  | .deleteSource client src =>
      transmit (fun () => .unit) ((client.deleteObject B (client.unalias src.container)
        src.object).context "failed to delete source object")
  | .deleteListed client bucket objects =>
      transmit (fun () => .unit) (client.deleteObjects B bucket objects)

namespace Provider

variable (self : Provider)

/-- `serve_move_object` up to and including its copy. -/
def beginMove (inv : AcceptedInvocation (ObjectId × ObjectId)) : S3M σ Pending := do
  let client ← liftExcept (self.client inv.context)
  (client.copyObject B (client.unalias inv.params.1.container) inv.params.1.object
    (client.unalias inv.params.2.container) inv.params.2.object).context "failed to copy object"
  pure (.deleteSource client inv.params.1)

/-- `serve_clear_container` up to and including its listing. -/
def beginClear (inv : AcceptedInvocation String) : S3M σ Pending := do
  let client ← liftExcept (self.client inv.context)
  let bucket := client.unalias inv.params
  let objects ← (client.listContainerObjects B bucket none none).context
    "failed to list container objects"
  pure (.deleteListed client bucket objects)

end Provider

/-- The first step of a two-request handler: on to its second request, or the failure it
transmits. -/
def Progress.ofBegin : Except Error Pending × World σ → Progress × World σ
  | (.ok k, w) => (.next k, w)
  | (.error e, w) => (.done (.ok (.result (.error e))), w)

/-- One step of a task, against the actor table of `p`. -/
def Task.step (p : Provider) : Task → World σ → Progress × World σ
  | .start .clearContainer inv, w => Progress.ofBegin (exec (p.beginClear B inv) w)
  | .start .moveObject inv, w => Progress.ofBegin (exec (p.beginMove B inv) w)
  | .start op inv, w => (.done (exec (p.serve B op inv) w).1, (exec (p.serve B op inv) w).2)
  | .pending _ k, w => (.done (exec (k.finish B) w).1, (exec (k.finish B) w).2)

/-- A task run with nothing between its steps. -/
def Task.runAlone (p : Provider) (t : Task) (w : World σ) : Except Error Transmission × World σ :=
  match t.step B p w with
  | (.next k, w') => exec (k.finish B) w'
  | (.done r, w') => (r, w')

theorem exec_transmit_bind {α β : Type} (v : α → Value) (x : S3M σ β) (g : β → S3M σ α)
    (w : World σ) :
    exec (transmit v (x >>= g)) w = match exec x w with
      | (.ok b, w') => exec (transmit v (g b)) w'
      | (.error e, w') => (.ok (.result (.error e)), w') := by
  simp only [exec_transmit, exec_bind]
  rcases exec x w with ⟨_ | b, w'⟩ <;> rfl

namespace Provider

variable (self : Provider)

theorem serveMoveObject_eq_begin (inv : AcceptedInvocation (ObjectId × ObjectId))
    (w : World σ) :
    exec (self.serveMoveObject B inv) w = match exec (self.beginMove B inv) w with
      | (.ok k, w') => exec (k.finish B) w'
      | (.error e, w') => (.ok (.result (.error e)), w') := by
  simp only [serveMoveObject, beginMove, exec_transmit_bind]
  cases self.client inv.context with
  | error e => rfl
  | ok client =>
      simp only [exec_liftExcept, exec_bind, exec_transmit_bind]
      rcases exec ((client.copyObject B (client.unalias inv.params.1.container) inv.params.1.object
        (client.unalias inv.params.2.container) inv.params.2.object).context
          "failed to copy object") w with ⟨_ | _, _⟩ <;> rfl

theorem serveClearContainer_eq_begin (inv : AcceptedInvocation String) (w : World σ) :
    exec (self.serveClearContainer B inv) w = match exec (self.beginClear B inv) w with
      | (.ok k, w') => exec (k.finish B) w'
      | (.error e, w') => (.ok (.result (.error e)), w') := by
  simp only [serveClearContainer, beginClear, exec_transmit_bind]
  cases self.client inv.context with
  | error e => rfl
  | ok client =>
      simp only [exec_liftExcept, exec_bind, exec_transmit_bind]
      rcases exec ((client.listContainerObjects B (client.unalias inv.params) none none).context
        "failed to list container objects") w with ⟨_ | _, _⟩ <;> rfl

end Provider

theorem Task.runAlone_start (p : Provider) (op : Operation) (inv : AcceptedInvocation op.Params)
    (w : World σ) : (Task.start op inv).runAlone B p w = exec (p.serve B op inv) w := by
  cases op
  case clearContainer =>
    simp only [runAlone, step, Provider.serve, p.serveClearContainer_eq_begin]
    rcases exec (p.beginClear B inv) w with ⟨_ | _, _⟩ <;> rfl
  case moveObject =>
    simp only [runAlone, step, Provider.serve, p.serveMoveObject_eq_begin]
    rcases exec (p.beginMove B inv) w with ⟨_ | _, _⟩ <;> rfl
  all_goals rfl

theorem Task.step_congr (p q : Provider) (t : Task)
    (h : ∀ op inv, t = .start op inv →
      ∀ a, inv.context.bind Context.actor = some a → p.actors.get a = q.actors.get a) :
    t.step B p = t.step B q := by
  cases t with
  | pending _ k => rfl
  | start op inv =>
      have hc := Provider.client_congr p q inv.context (h op inv rfl)
      funext w
      cases op
      case clearContainer => simp only [step, Provider.beginClear, hc]
      case moveObject => simp only [step, Provider.beginMove, hc]
      all_goals simp only [step, Provider.serve_congr B p q _ inv (h _ inv rfl)]

theorem Operation.Permits.of_write {op : Operation} {r : Request} (hop : op.readOnly = false)
    (hr : r.changesBuckets = false) : op.Permits r :=
  ⟨fun h => absurd (hop.symm.trans h) Bool.false_ne_true,
    fun h => absurd (hr.symm.trans h) Bool.false_ne_true⟩

theorem Pending.finish_sendsOnly (origin : Invocation) (k : Pending) :
    SendsOnly B (fun call => (Task.pending origin k).op.Permits call.request) (k.finish B) := by
  cases k with
  | deleteSource client src =>
      exact .transmit _ (.context ((client.deleteObject_sendsOnly B _ _).mono fun _ h =>
        h ▸ .of_write rfl rfl) _)
  | deleteListed client bucket objects =>
      exact .transmit _ ((client.deleteObjects_sendsOnly B _ _).mono fun _ h =>
        h ▸ .of_write rfl rfl)

theorem Provider.beginMove_sendsOnly (p : Provider) (inv : AcceptedInvocation (ObjectId × ObjectId)) :
    SendsOnly B (fun call => Operation.moveObject.Permits call.request) (p.beginMove B inv) :=
  .liftExcept_bind fun client _ => .bind (.context ((client.copyObject_sendsOnly B _ _ _ _).mono
    fun _ h => h ▸ .of_write rfl rfl) _) fun _ => .pure _

theorem Provider.beginClear_sendsOnly (p : Provider) (inv : AcceptedInvocation String) :
    SendsOnly B (fun call => Operation.clearContainer.Permits call.request) (p.beginClear B inv) :=
  .liftExcept_bind fun client _ => .bind (.context ((client.listContainerObjects_sendsOnly B _ _ _).mono
    fun _ h => h ▸ .of_write rfl rfl) _) fun _ => .pure _

@[simp] theorem Progress.ofBegin_snd (r : Except Error Pending × World σ) :
    (Progress.ofBegin r).2 = r.2 := by
  rcases r with ⟨_ | _, _⟩ <;> rfl

theorem Task.step_sendsOnly (p : Provider) (t : Task) (w : World σ) :
    ∃ new, (t.step B p w).2 = ⟨replay B new w.store, w.calls ++ new⟩ ∧
      ∀ call ∈ new, t.op.Permits call.request := by
  cases t with
  | pending origin k => exact k.finish_sendsOnly B origin w
  | start op inv =>
      cases op
      case clearContainer => simpa [step] using p.beginClear_sendsOnly B inv w
      case moveObject => simpa [step] using p.beginMove_sendsOnly B inv w
      all_goals exact (p.serve_sendsOnly B _ inv).mono (fun _ ⟨_, _, hallows⟩ =>
        hallows.toPermits) w

theorem Provider.beginMove_eq_ok (p : Provider) {inv : AcceptedInvocation (ObjectId × ObjectId)}
    {w w' : World σ} {k : Pending} (h : exec (p.beginMove B inv) w = (.ok k, w')) :
    ∃ client, k = .deleteSource client inv.params.1 := by
  simp only [beginMove, exec_liftExcept_bind_eq_ok, exec_bind_eq_ok, exec_pure,
    Prod.mk.injEq, Except.ok.injEq] at h
  obtain ⟨client, _, -, _, _, -, rfl, -⟩ := h
  exact ⟨client, rfl⟩

theorem Provider.beginClear_eq_ok (p : Provider) {inv : AcceptedInvocation String}
    {w w' : World σ} {k : Pending} (h : exec (p.beginClear B inv) w = (.ok k, w')) :
    ∃ client bucket objects, k = .deleteListed client bucket objects := by
  simp only [beginClear, exec_liftExcept_bind_eq_ok, exec_bind_eq_ok, exec_pure,
    Prod.mk.injEq, Except.ok.injEq] at h
  obtain ⟨client, _, -, objects, _, -, rfl, -⟩ := h
  exact ⟨client, _, objects, rfl⟩

theorem Task.op_of_step_next (p : Provider) {t : Task} {w : World σ} {k : Pending}
    (h : (t.step B p w).1 = .next k) : (Task.pending t.origin k).op = t.op := by
  cases t with
  | pending _ k' => cases h
  | start op inv =>
      cases op <;> simp only [step] at h <;> try cases h
      case clearContainer =>
        rcases hb : exec (p.beginClear B inv) w with ⟨_ | k', w'⟩ <;>
          simp only [hb, Progress.ofBegin, Progress.next.injEq, reduceCtorEq] at h
        obtain ⟨client, bucket, objects, rfl⟩ := p.beginClear_eq_ok B (h ▸ hb)
        rfl
      case moveObject =>
        rcases hb : exec (p.beginMove B inv) w with ⟨_ | k', w'⟩ <;>
          simp only [hb, Progress.ofBegin, Progress.next.injEq, reduceCtorEq] at h
        obtain ⟨client, rfl⟩ := p.beginMove_eq_ok B (h ▸ hb)
        rfl

/-- The provider at run time: its actor table, the backend, the spawned tasks still running, and
the replies of the finished ones in order, each with the invocation whose result subject it went
to. -/
structure Runtime (σ : Type) where
  provider : Provider
  world : World σ
  tasks : List Task
  replies : List (Invocation × Except Error Transmission)

/-- What the finished tasks transmitted, in order. -/
def Runtime.transmitted {σ : Type} (s : Runtime σ) : List (Except Error Transmission) :=
  s.replies.map Prod.snd

/-- A move of the host (a link command), of the `select!` loop (spawning a handler), or of the
running task at a position. -/
inductive RuntimeEvent
  | link (e : LinkEvent)
  | spawn (op : Operation) (inv : AcceptedInvocation op.Params)
  | advance (i : Nat)

/-- Whether a move spawns a handler. -/
def RuntimeEvent.isSpawn : RuntimeEvent → Bool
  | .spawn .. => true
  | _ => false

/-- Whether a move is a step of a task. -/
def RuntimeEvent.isAdvance : RuntimeEvent → Bool
  | .advance _ => true
  | _ => false

namespace Runtime

variable (fromValues : ConfigValues → Except Error StorageConfig)

/-- One move; `none` when there is no task at the position to advance. -/
def step (s : Runtime σ) : RuntimeEvent → Option (Runtime σ)
  | .link e => some { s with provider := s.provider.handle fromValues e }
  | .spawn op inv => some { s with tasks := s.tasks ++ [.start op inv] }
  | .advance i =>
      match s.tasks[i]? with
      | none => none
      | some t =>
          match t.step B s.provider s.world with
          | (.next k, w) =>
              some { s with world := w, tasks := s.tasks.set i (.pending t.origin k) }
          | (.done r, w) =>
              some { s with
                world := w
                tasks := s.tasks.eraseIdx i
                replies := s.replies ++ [(t.origin, r)] }

/-- A run over a sequence of moves; `none` if one of them cannot be made. -/
def run : Runtime σ → List RuntimeEvent → Option (Runtime σ)
  | s, [] => some s
  | s, e :: events => (s.step B fromValues e).bind fun s' => run s' events

theorem step_advance_eq {s s' : Runtime σ} {i : Nat} (h : s.step B fromValues (.advance i) = some s') :
    ∃ t, s.tasks[i]? = some t ∧
      ((∃ k, (t.step B s.provider s.world).1 = .next k ∧
        s' = { s with
          world := (t.step B s.provider s.world).2
          tasks := s.tasks.set i (.pending t.origin k) }) ∨
      (∃ r, (t.step B s.provider s.world).1 = .done r ∧
        s' = { s with
          world := (t.step B s.provider s.world).2
          tasks := s.tasks.eraseIdx i
          replies := s.replies ++ [(t.origin, r)] })) := by
  simp only [step] at h
  split at h
  · cases h
  rename_i t ht
  refine ⟨t, ht, ?_⟩
  revert h
  rcases t.step B s.provider s.world with ⟨k | r, w⟩ <;> intro h <;> cases h
  exacts [.inl ⟨k, rfl, rfl⟩, .inr ⟨r, rfl, rfl⟩]

section Invariant

variable {B} {P : Operation → Prop} {I : σ → Prop}
  (hI : ∀ op, P op → ∀ call : Call, op.Permits call.request → ∀ st, I st →
    I (B.respond call.client call.request st).2)
include hI

theorem step_preserves {s s' : Runtime σ} {e : RuntimeEvent}
    (h : s.step B fromValues e = some s') (hspawn : ∀ op inv, e = .spawn op inv → P op)
    (htasks : ∀ t ∈ s.tasks, P t.op) (hs : I s.world.store) :
    (∀ t ∈ s'.tasks, P t.op) ∧ I s'.world.store := by
  cases e with
  | link e =>
      cases h
      exact ⟨htasks, hs⟩
  | spawn op inv =>
      cases h
      refine ⟨fun t ht => ?_, hs⟩
      rcases List.mem_append.mp ht with ht | ht
      · exact htasks t ht
      · rw [List.mem_singleton.mp ht]
        exact hspawn op inv rfl
  | advance i =>
      obtain ⟨t, ht, hs'⟩ := step_advance_eq _ fromValues h
      have hop := htasks t (List.getElem?_mem ht)
      obtain ⟨new, hnew, hP⟩ := t.step_sendsOnly B s.provider s.world
      have hw : I (t.step B s.provider s.world).2.store := by
        rw [hnew]
        exact replay_preserves (fun call hc => hI _ hop call (hP call hc)) hs
      rcases hs' with ⟨k, hk, rfl⟩ | ⟨r, -, rfl⟩
      · refine ⟨fun t' ht' => ?_, hw⟩
        rcases List.mem_or_eq_of_mem_set ht' with ht' | rfl
        · exact htasks t' ht'
        · rw [t.op_of_step_next B s.provider hk]
          exact hop
      · exact ⟨fun t' ht' => htasks t' (List.mem_of_mem_eraseIdx ht'), hw⟩

theorem run_preserves {s s' : Runtime σ} {events : List RuntimeEvent}
    (h : run B fromValues s events = some s')
    (hspawn : ∀ op inv, RuntimeEvent.spawn op inv ∈ events → P op)
    (htasks : ∀ t ∈ s.tasks, P t.op) (hs : I s.world.store) : I s'.world.store := by
  induction events generalizing s with
  | nil =>
      cases h
      exact hs
  | cons e events ih =>
      obtain ⟨s₁, h₁, hrun⟩ := Option.bind_eq_some.mp h
      obtain ⟨htasks₁, hs₁⟩ := step_preserves fromValues hI h₁
        (fun op inv he => hspawn op inv (he ▸ List.mem_cons_self _ _)) htasks hs
      exact ih hrun (fun op inv he => hspawn op inv (List.mem_cons_of_mem _ he)) htasks₁ hs₁

end Invariant

end Runtime

end BlobstoreS3
