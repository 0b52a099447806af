import BlobstoreS3.Dispatcher
import BlobstoreS3.Progress

/-!
The provider as one process: the `serve` loop of `BlobstoreS3Provider` together with the handlers
it spawns, which run interleaved with one another and with link commands. At every point of every
run, each invocation the transport has delivered is exactly one of: buffered in its subscription,
lost with a subscription the loop dropped, being handled, or answered by one reply on its own
result subject.
-/

namespace BlobstoreS3

section Backlog

variable {ι : Type}

/-- The invocations a move delivers, whichever operation it delivers them for. -/
def Event.delivers : Event ι → List ι
  | .deliver _ (.ok x) => [x]
  | _ => []

/-- The invocations whose handlers the effects spawn, in order, whichever their operation. -/
def spawnedInvocations (effects : List (Effect ι)) : List ι :=
  effects.filterMap fun
    | .spawn _ x => some x
    | _ => none

/-- The invocations the effects lose with the subscriptions they drop. -/
def lostInvocations (effects : List (Effect ι)) : List ι :=
  effects.filterMap fun
    | .discard _ (.ok x) => some x
    | _ => none

/-- The invocations the subscriptions of a phase buffer, over all operations. -/
def Phase.backlog (p : Phase ι) : List ι := Operation.all.flatMap fun op => oks (buffered p op)

@[simp] theorem spawnedInvocations_append (effects effects' : List (Effect ι)) :
    spawnedInvocations (effects ++ effects') =
      spawnedInvocations effects ++ spawnedInvocations effects' :=
  List.filterMap_append _ _ _

@[simp] theorem lostInvocations_append (effects effects' : List (Effect ι)) :
    lostInvocations (effects ++ effects') = lostInvocations effects ++ lostInvocations effects' :=
  List.filterMap_append _ _ _

variable [DecidableEq ι]

theorem Operation.sum_all_ite (o : Operation) (c : Nat) :
    (Operation.all.map fun op => if o = op then c else 0).sum = c := by
  cases o <;> simp [Operation.all]

theorem sum_count_delivered (e : Event ι) (x : ι) :
    (Operation.all.map fun op => (oks (delivered [e] op)).count x).sum = e.delivers.count x := by
  rcases e with _ | _ | ⟨o, item⟩ | _ | _ | _
  case deliver =>
    have h : ∀ op, (oks (delivered [.deliver o item] op)).count x =
        if o = op then (oks [item]).count x else 0 := fun op => by
      by_cases h : o = op <;> simp [delivered, h]
    simp only [h, Operation.sum_all_ite]
    cases item <;> rfl
  all_goals simp [delivered, Event.delivers]

theorem sum_count_accounted_singleton (e : Effect ι) (x : ι) :
    (Operation.all.map fun op => (accounted [e] op).count x).sum =
      (spawnedInvocations [e]).count x + (lostInvocations [e]).count x := by
  have hnil : ∀ op, accounted ([] : List (Effect ι)) op = [] := fun _ => rfl
  rcases e with ⟨o, a⟩ | _ | ⟨o, item⟩
  case spawn =>
    have h : ∀ op, (accounted [.spawn o a] op).count x = if o = op then [a].count x else 0 :=
      fun op => by by_cases h : o = op <;> simp [hnil, h]
    simp only [h, Operation.sum_all_ite]
    rfl
  case log => simp [hnil, spawnedInvocations, lostInvocations]
  case discard =>
    have h : ∀ op, (accounted [.discard o item] op).count x =
        if o = op then (oks [item]).count x else 0 := fun op => by
      by_cases h : o = op <;> simp [hnil, h]
    simp only [h, Operation.sum_all_ite]
    cases item <;> simp [spawnedInvocations, lostInvocations]

theorem sum_count_accounted (effects : List (Effect ι)) (x : ι) :
    (Operation.all.map fun op => (accounted effects op).count x).sum =
      (spawnedInvocations effects).count x + (lostInvocations effects).count x := by
  induction effects with
  | nil => simp [accounted, spawnedInvocations, lostInvocations]
  | cons e effects ih =>
      rw [show e :: effects = [e] ++ effects from rfl]
      simp only [accounted_append, List.count_append, List.sum_map_add, ih,
        sum_count_accounted_singleton, spawnedInvocations_append, lostInvocations_append]
      omega

theorem step_backlog {p p' : Phase ι} {e : Event ι} {effects : List (Effect ι)}
    (h : step p e = some (p', effects)) :
    (p'.backlog ++ spawnedInvocations effects ++ lostInvocations effects).Perm
      (p.backlog ++ e.delivers) := by
  refine List.perm_iff_count.mpr fun x => ?_
  have hop : ∀ op ∈ Operation.all,
      (oks (buffered p op)).count x + (oks (delivered [e] op)).count x =
        (accounted effects op).count x + (oks (buffered p' op)).count x := fun op _ => by
    simpa only [List.count_append] using congrArg (List.count x) (step_accounted h op)
  have hsum := congrArg List.sum (List.map_congr_left hop)
  rw [List.sum_map_add, List.sum_map_add, sum_count_delivered, sum_count_accounted] at hsum
  simp only [Phase.backlog, List.count_append, List.count_flatMap, Function.comp_def]
  omega

end Backlog

/-- The subscription of an operation only yields invocations of that operation. -/
def Event.Typed : Event Invocation → Prop
  | .deliver op (.ok x) => x.1 = op
  | _ => True

/-- The provider process: where `serve` is, the runtime of the handlers it spawned, and the
invocations lost with the subscriptions `serve` dropped. -/
structure Service (σ : Type) where
  phase : Phase Invocation
  runtime : Runtime σ
  lost : List Invocation

/-- A move of the transport or of the loop, typed as the subscriptions are; a link command; or a
step of the running handler at a position. -/
inductive ServiceEvent
  | serve (e : Event Invocation) (typed : e.Typed)
  | link (e : LinkEvent)
  | advance (i : Nat)

/-- The invocations a move delivers. -/
def ServiceEvent.delivers : ServiceEvent → List Invocation
  | .serve e _ => e.delivers
  | _ => []

theorem Runtime.run_spawn {σ : Type} (B : Backend σ)
    (fromValues : ConfigValues → Except Error StorageConfig) (rt : Runtime σ) (xs : List Invocation) :
    rt.run B fromValues (xs.map fun x => .spawn x.1 x.2) =
      some { rt with tasks := rt.tasks ++ xs.map fun x => .start x.1 x.2 } := by
  induction xs generalizing rt with
  | nil => simp [Runtime.run]
  | cons x xs ih => simp [Runtime.run, Runtime.step, ih]

namespace Service

variable {σ : Type} (B : Backend σ) (fromValues : ConfigValues → Except Error StorageConfig)

/-- One move. A step of the loop spawns, in order, the handler of each invocation it takes. -/
def step (s : Service σ) : ServiceEvent → Option (Service σ)
  | .serve e _ =>
      (BlobstoreS3.step s.phase e).bind fun r =>
        (s.runtime.run B fromValues ((spawnedInvocations r.2).map fun x => .spawn x.1 x.2)).map
          fun rt => ⟨r.1, rt, s.lost ++ lostInvocations r.2⟩
  | .link e => (s.runtime.step B fromValues (.link e)).map fun rt => { s with runtime := rt }
  | .advance i => (s.runtime.step B fromValues (.advance i)).map fun rt => { s with runtime := rt }

/-- A run over a sequence of moves; `none` if one of them cannot be made. -/
def run : Service σ → List ServiceEvent → Option (Service σ)
  | s, [] => some s
  | s, e :: events => (s.step B fromValues e).bind fun s' => run s' events

/-- The invocations the process holds: buffered, lost, or being handled. -/
def held (s : Service σ) : List Invocation :=
  s.phase.backlog ++ s.lost ++ s.runtime.tasks.map Task.origin

theorem step_held {s s' : Service σ} {e : ServiceEvent} (h : s.step B fromValues e = some s') :
    ∃ new, s'.runtime.replies = s.runtime.replies ++ new ∧
      (s'.held ++ new.map Prod.fst).Perm (s.held ++ e.delivers) := by
  classical
  cases e with
  | serve e typed =>
      obtain ⟨⟨p, effects⟩, hstep, hrun⟩ := Option.bind_eq_some.mp h
      simp only [Runtime.run_spawn, Option.map_some', Option.some.injEq] at hrun
      subst hrun
      refine ⟨[], by simp, List.perm_iff_count.mpr fun x => ?_⟩
      have hmap : ((spawnedInvocations effects).map fun x => Task.start x.1 x.2).map Task.origin =
          spawnedInvocations effects := by
        simp only [List.map_map]
        exact List.map_id' _
      have := (step_backlog hstep).count_eq x
      simp only [List.count_append] at this
      simp only [held, ServiceEvent.delivers, List.map_append, hmap, List.count_append,
        List.map_nil, List.count_nil]
      omega
  | link e | advance i =>
      unfold step at h
      obtain ⟨rt, hrt, rfl⟩ := Option.map_eq_some'.mp h
      obtain ⟨new, hr, hp⟩ := Runtime.step_answers B fromValues hrt
      refine ⟨new, hr, List.perm_iff_count.mpr fun x => ?_⟩
      have := hp.count_eq x
      simp only [List.count_append, RuntimeEvent.spawned, List.count_nil] at this
      simp only [held, ServiceEvent.delivers, List.count_append, List.count_nil]
      omega

theorem run_conserves {s s' : Service σ} {events : List ServiceEvent}
    (h : s.run B fromValues events = some s') :
    ∃ new, s'.runtime.replies = s.runtime.replies ++ new ∧
      (s'.phase.backlog ++ s'.lost ++ s'.runtime.tasks.map Task.origin ++ new.map Prod.fst).Perm
        (s.phase.backlog ++ s.lost ++ s.runtime.tasks.map Task.origin ++
          events.flatMap ServiceEvent.delivers) := by
  classical
  induction events generalizing s with
  | nil =>
      cases h
      exact ⟨[], by simp, by simp⟩
  | cons e events ih =>
      obtain ⟨s₁, h₁, hrun⟩ := Option.bind_eq_some.mp h
      obtain ⟨new₁, hr₁, hp₁⟩ := step_held B fromValues h₁
      obtain ⟨new₂, hr₂, hp₂⟩ := ih hrun
      refine ⟨new₁ ++ new₂, by rw [hr₂, hr₁, List.append_assoc], ?_⟩
      refine List.perm_iff_count.mpr fun x => ?_
      have h₁ := hp₁.count_eq x
      have h₂ := hp₂.count_eq x
      simp only [held, List.count_append] at h₁ h₂ ⊢
      simp only [List.map_append, List.flatMap_cons, List.count_append]
      omega

/-- The process over one bucket, about to subscribe. -/
def startService : Service Store :=
  ⟨.initial, Runtime.runtimeOf [("b", Runtime.lockedPair)], []⟩

/-- A has-object invocation delivered once its subscription is made, taken and answered. -/
def hasObjectRun : List ServiceEvent :=
  List.replicate 14 (.serve .subscribe trivial) ++
    [.serve (.deliver .hasObject (.ok ⟨.hasObject, ⟨actorContext, ⟨"b", "k"⟩⟩⟩)) rfl,
      .serve (.select .hasObject) trivial, .advance 0]

theorem run_conserves_hasObjectRun :
    ∃ s', startService.run (objectStore s3PageSize) Runtime.refuseConfig hasObjectRun = some s' ∧
      ∃ new, s'.runtime.replies = startService.runtime.replies ++ new ∧
        (s'.phase.backlog ++ s'.lost ++ s'.runtime.tasks.map Task.origin ++ new.map Prod.fst).Perm
          (startService.phase.backlog ++ startService.lost ++
            startService.runtime.tasks.map Task.origin ++ hasObjectRun.flatMap ServiceEvent.delivers) :=
  ⟨_, rfl, run_conserves (objectStore s3PageSize) Runtime.refuseConfig rfl⟩

end Service

end BlobstoreS3
