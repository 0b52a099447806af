import BlobstoreS3.Handlers

/-!
The `serve` loop of `BlobstoreS3Provider`: it subscribes to the fourteen functions one after
another and returns as soon as one subscription fails; then a `select!` takes one ready branch at
a time, spawning the handler of each invocation, and when any stream ends it drops every
subscription and subscribes again (`continue 'outer`). The transport's deliveries and stream ends
and the loop's choices are events of one step function.
-/

namespace BlobstoreS3

/-- The interface function of each operation. -/
def Operation.function : Operation → String
  | .clearContainer => "wrpc:blobstore/blobstore.clear-container"
  | .containerExists => "wrpc:blobstore/blobstore.container-exists"
  | .createContainer => "wrpc:blobstore/blobstore.create-container"
  | .deleteContainer => "wrpc:blobstore/blobstore.delete-container"
  | .getContainerInfo => "wrpc:blobstore/blobstore.get-container-info"
  | .listContainerObjects => "wrpc:blobstore/blobstore.list-container-objects"
  | .copyObject => "wrpc:blobstore/blobstore.copy-object"
  | .deleteObject => "wrpc:blobstore/blobstore.delete-object"
  | .deleteObjects => "wrpc:blobstore/blobstore.delete-objects"
  | .getContainerData => "wrpc:blobstore/blobstore.get-container-data"
  | .getObjectInfo => "wrpc:blobstore/blobstore.get-object-info"
  | .hasObject => "wrpc:blobstore/blobstore.has-object"
  | .moveObject => "wrpc:blobstore/blobstore.move-object"
  | .writeContainerData => "wrpc:blobstore/blobstore.write-container-data"

/-- Every operation, in the order `serve` subscribes to them. -/
def Operation.all : List Operation :=
  [.clearContainer, .containerExists, .createContainer, .deleteContainer, .getContainerInfo,
    .listContainerObjects, .copyObject, .deleteObject, .deleteObjects, .getContainerData,
    .getObjectInfo, .hasObject, .moveObject, .writeContainerData]

theorem Operation.mem_all (op : Operation) : op ∈ Operation.all := by
  cases op <;> decide

theorem Operation.nodup_all : Operation.all.Nodup := by decide

/-- The log lines of one branch of the `select!`, by the function the branch names in them. -/
structure Arm where
  acceptError : String
  finishedWarning : String
  deriving DecidableEq, Repr

/-- The log lines of a branch that names `function`. -/
def arm (function : String) : Arm where
  acceptError := "failed to accept `" ++ function ++ "` invocation"
  finishedWarning := "`" ++ function ++ "` stream unexpectedly finished, resubscribe"

/-- The branch of the `select!` for each operation, with the function its log lines name. -/
def Operation.arm : Operation → Arm
  | .clearContainer => BlobstoreS3.arm "wrpc:blobstore/blobstore.clear-container"
  | .containerExists => BlobstoreS3.arm "wrpc:blobstore/blobstore.container-exists"
  | .createContainer => BlobstoreS3.arm "wrpc:blobstore/blobstore.container-exists"
  | .deleteContainer => BlobstoreS3.arm "wrpc:blobstore/blobstore.delete-container"
  | .getContainerInfo => BlobstoreS3.arm "wrpc:blobstore/blobstore.get-container-info"
  | .listContainerObjects => BlobstoreS3.arm "wrpc:blobstore/blobstore.list-container-objects"
  | .copyObject => BlobstoreS3.arm "wrpc:blobstore/blobstore.copy-object"
  | .deleteObject => BlobstoreS3.arm "wrpc:blobstore/blobstore.delete-object"
  | .deleteObjects => BlobstoreS3.arm "wrpc:blobstore/blobstore.delete-objects"
  | .getContainerData => BlobstoreS3.arm "wrpc:blobstore/blobstore.get-container-data"
  | .getObjectInfo => BlobstoreS3.arm "wrpc:blobstore/blobstore.get-object-info"
  | .hasObject => BlobstoreS3.arm "wrpc:blobstore/blobstore.has-object"
  | .moveObject => BlobstoreS3.arm "wrpc:blobstore/blobstore.move-object"
  | .writeContainerData => BlobstoreS3.arm "wrpc:blobstore/blobstore.write-container-data"

variable {ι : Type}

/-- One subscription of the `select!` loop: what the transport has delivered to it that the loop
has not taken yet, and whether its stream has ended. -/
structure Subscription (ι : Type) where
  buffered : List (Except Error ι)
  ended : Bool

/-- Where `serve` is: in the outer loop, with the subscriptions made so far and the functions it
has still to subscribe to, in order (the `select!` loop runs once none is left); or returned. -/
inductive Phase (ι : Type)
  | active (subscriptions : Operation → Subscription ι) (unsubscribed : List Operation)
  | returned (result : Except Error Unit)

/-- A subscription that has delivered nothing. -/
def Subscription.fresh : Subscription ι := ⟨[], false⟩

/-- The head of the outer loop: no subscription made yet. -/
def Phase.initial : Phase ι := .active (fun _ => .fresh) Operation.all

/-- What a step of `serve` does: spawn the handler of an operation on an invocation, write a log
line, or lose an item together with the subscription that buffered it. -/
inductive Effect (ι : Type)
  | spawn (op : Operation) (invocation : ι)
  | log (line : String)
  | discard (op : Operation) (item : Except Error ι)

/-- A move of the transport, of the host or of the loop: the next subscription of the outer loop
succeeds or fails, the transport delivers an item or ends a stream, the `select!` loop takes a
branch. -/
inductive Event (ι : Type)
  | subscribe
  | subscribeFailed (err : Error)
  | deliver (op : Operation) (item : Except Error ι)
  | finish (op : Operation)
  | select (op : Operation)
  | shutdown

/-- Dropping every subscription loses what each still buffers. -/
def dropAll (subscriptions : Operation → Subscription ι) : List (Effect ι) :=
  Operation.all.flatMap fun op => (subscriptions op).buffered.map (.discard op)

/-- The branch of `op` taking one item: `Some(Ok(invocation))` spawns the handler,
`Some(Err(err))` is logged. -/
def takeItem (op : Operation) : Except Error ι → Effect ι
  | .ok invocation => .spawn op invocation
  | .error _ => .log op.arm.acceptError

/-- One step of `serve`, or `none` when the event cannot happen in this phase. A failed
subscription returns the error, dropping the subscriptions made before it; the transport reaches
only subscriptions already made; `select!` and the shutdown branch run once all fourteen are. -/
def step : Phase ι → Event ι → Option (Phase ι × List (Effect ι))
  | .active subs (_ :: rest), .subscribe => some (.active subs rest, [])
  | .active subs (op :: _), .subscribeFailed err =>
      some (.returned (.error (err.context ("failed to serve `" ++ op.function ++
        "` invocations"))), dropAll subs)
  | .active subs unsubscribed, .deliver op item =>
      if op ∈ unsubscribed ∨ (subs op).ended = true then none
      else some (.active (Function.update subs op ⟨(subs op).buffered ++ [item], false⟩)
        unsubscribed, [])
  | .active subs unsubscribed, .finish op =>
      if op ∈ unsubscribed ∨ (subs op).ended = true then none
      else some (.active (Function.update subs op ⟨(subs op).buffered, true⟩) unsubscribed, [])
  | .active subs [], .select op =>
      match (subs op).buffered with
      | item :: rest =>
          some (.active (Function.update subs op ⟨rest, (subs op).ended⟩) [], [takeItem op item])
      | [] =>
          if (subs op).ended then
            some (.initial, .log op.arm.finishedWarning :: dropAll subs)
          else none
  | .active subs [], .shutdown =>
      some (.returned (.ok ()), .log "shutdown command received" :: dropAll subs)
  | _, _ => none

/-- A run of `serve` over a sequence of events, with the effects of its steps in order; `none` if
an event cannot happen. -/
def run : Phase ι → List (Event ι) → Option (Phase ι × List (Effect ι))
  | p, [] => some (p, [])
  | p, e :: events =>
      match step p e with
      | some (p', effects) => (run p' events).map fun r => (r.1, effects ++ r.2)
      | none => none

/-- The items the transport delivered to the subscriptions of `op`. -/
def delivered (events : List (Event ι)) (op : Operation) : List (Except Error ι) :=
  events.filterMap fun
    | .deliver o item => if o = op then some item else none
    | _ => none

/-- The invocations the loop spawned the handler of `op` on. -/
def spawned (effects : List (Effect ι)) (op : Operation) : List ι :=
  effects.filterMap fun
    | .spawn o invocation => if o = op then some invocation else none
    | _ => none

/-- The items of `op` lost with their subscription. -/
def discarded (effects : List (Effect ι)) (op : Operation) : List (Except Error ι) :=
  effects.filterMap fun
    | .discard o item => if o = op then some item else none
    | _ => none

/-- The invocations of `op` the effects account for, in order: spawned or lost. -/
def accounted (effects : List (Effect ι)) (op : Operation) : List ι :=
  effects.filterMap fun
    | .spawn o invocation => if o = op then some invocation else none
    | .discard o (.ok invocation) => if o = op then some invocation else none
    | _ => none

/-- What the current subscription of `op` buffers. -/
def buffered : Phase ι → Operation → List (Except Error ι)
  | .active subs _, op => (subs op).buffered
  | .returned _, _ => []

/-- Whether a step drops every subscription: the loop takes the end of a stream, the shutdown
branch is taken, or a subscription of the outer loop fails. -/
def drops : Phase ι → Event ι → Bool
  | .active _ (_ :: _), .subscribeFailed _ => true
  | .active subs [], .select op => (subs op).buffered.isEmpty && (subs op).ended
  | .active _ [], .shutdown => true
  | _, _ => false

/-- The invocations among stream items. -/
def oks (items : List (Except Error ι)) : List ι := items.filterMap Except.toOption

@[simp] theorem oks_nil : oks ([] : List (Except Error ι)) = [] := rfl

@[simp] theorem oks_append (l l' : List (Except Error ι)) : oks (l ++ l') = oks l ++ oks l' :=
  List.filterMap_append _ _ _

@[simp] theorem oks_cons_ok (a : ι) (l : List (Except Error ι)) : oks (.ok a :: l) = a :: oks l :=
  rfl

@[simp] theorem oks_cons_error (e : Error) (l : List (Except Error ι)) :
    oks (.error e :: l) = oks l := rfl

@[simp] theorem accounted_append (effects effects' : List (Effect ι)) (op : Operation) :
    accounted (effects ++ effects') op = accounted effects op ++ accounted effects' op :=
  List.filterMap_append _ _ _

theorem delivered_cons (e : Event ι) (events : List (Event ι)) (op : Operation) :
    delivered (e :: events) op = delivered [e] op ++ delivered events op :=
  List.filterMap_append [e] events _

@[simp] theorem accounted_cons_log (line : String) (effects : List (Effect ι)) (op : Operation) :
    accounted (.log line :: effects) op = accounted effects op := rfl

@[simp] theorem accounted_cons_spawn (o : Operation) (a : ι) (effects : List (Effect ι))
    (op : Operation) : accounted (.spawn o a :: effects) op =
      if o = op then a :: accounted effects op else accounted effects op := by
  by_cases h : o = op <;> simp [accounted, h]

@[simp] theorem accounted_cons_discard (o : Operation) (item : Except Error ι)
    (effects : List (Effect ι)) (op : Operation) : accounted (.discard o item :: effects) op =
      if o = op then oks [item] ++ accounted effects op else accounted effects op := by
  rcases item with e | a <;> by_cases h : o = op <;> simp [accounted, h]

@[simp] theorem spawned_cons (e : Effect ι) (effects : List (Effect ι)) (op : Operation) :
    spawned (e :: effects) op = spawned [e] op ++ spawned effects op :=
  List.filterMap_append [e] effects _

@[simp] theorem discarded_cons (e : Effect ι) (effects : List (Effect ι)) (op : Operation) :
    discarded (e :: effects) op = discarded [e] op ++ discarded effects op :=
  List.filterMap_append [e] effects _

theorem discarded_append (effects effects' : List (Effect ι)) (op : Operation) :
    discarded (effects ++ effects') op = discarded effects op ++ discarded effects' op :=
  List.filterMap_append _ _ _

theorem accounted_flatMap {β : Type} (l : List β) (g : β → List (Effect ι)) (op : Operation) :
    accounted (l.flatMap g) op = l.flatMap fun b => accounted (g b) op :=
  List.filterMap_flatMap _ _ _

theorem accounted_map_discard (o op : Operation) (items : List (Except Error ι)) :
    accounted (items.map (.discard o)) op = if o = op then oks items else [] := by
  induction items with
  | nil => split <;> rfl
  | cons item items ih =>
      rcases item with e | a <;> by_cases h : o = op <;>
        simp_all [accounted, List.filterMap_cons]

theorem flatMap_ite_eq {β : Type} (l : List Operation) (hl : l.Nodup) (op : Operation)
    (f : Operation → List β) :
    l.flatMap (fun o => if o = op then f o else []) = if op ∈ l then f op else [] := by
  induction l with
  | nil => simp
  | cons o l ih =>
      obtain ⟨hol, hl⟩ := List.nodup_cons.mp hl
      by_cases h : o = op
      · subst h
        simp [hol, ih hl]
      · simp [h, Ne.symm h, ih hl]

theorem accounted_dropAll (subs : Operation → Subscription ι) (op : Operation) :
    accounted (dropAll subs) op = oks (subs op).buffered := by
  simp only [dropAll, accounted_flatMap, accounted_map_discard]
  rw [flatMap_ite_eq _ Operation.nodup_all, if_pos (Operation.mem_all op)]

theorem discarded_map_discard (o op : Operation) (items : List (Except Error ι)) :
    discarded (items.map (.discard o)) op = if o = op then items else [] := by
  induction items with
  | nil => split <;> rfl
  | cons item items ih => by_cases h : o = op <;> simp_all [discarded, List.filterMap_cons]

theorem discarded_flatMap {β : Type} (l : List β) (g : β → List (Effect ι)) (op : Operation) :
    discarded (l.flatMap g) op = l.flatMap fun b => discarded (g b) op :=
  List.filterMap_flatMap _ _ _

theorem discarded_cons_log (line : String) (effects : List (Effect ι)) (op : Operation) :
    discarded (.log line :: effects) op = discarded effects op := rfl

theorem discarded_dropAll (subs : Operation → Subscription ι) (op : Operation) :
    discarded (dropAll subs) op = (subs op).buffered := by
  simp only [dropAll, discarded_flatMap, discarded_map_discard]
  rw [flatMap_ite_eq _ Operation.nodup_all, if_pos (Operation.mem_all op)]

theorem step_deliver_eq {subs : Operation → Subscription ι} {unsubscribed : List Operation}
    {o : Operation} {item : Except Error ι} {p' : Phase ι} {effects : List (Effect ι)}
    (h : step (.active subs unsubscribed) (.deliver o item) = some (p', effects)) :
    (subs o).ended = false ∧ effects = [] ∧
      p' = .active (Function.update subs o ⟨(subs o).buffered ++ [item], false⟩) unsubscribed := by
  simp only [step] at h
  split at h
  · cases h
  · cases h
    exact ⟨by simp_all, rfl, rfl⟩

theorem step_finish_eq {subs : Operation → Subscription ι} {unsubscribed : List Operation}
    {o : Operation} {p' : Phase ι} {effects : List (Effect ι)}
    (h : step (.active subs unsubscribed) (.finish o) = some (p', effects)) :
    (subs o).ended = false ∧ effects = [] ∧
      p' = .active (Function.update subs o ⟨(subs o).buffered, true⟩) unsubscribed := by
  simp only [step] at h
  split at h
  · cases h
  · cases h
    exact ⟨by simp_all, rfl, rfl⟩

theorem step_select_eq {subs : Operation → Subscription ι} {o : Operation} {p' : Phase ι}
    {effects : List (Effect ι)} (h : step (.active subs []) (.select o) = some (p', effects)) :
    (∃ item rest, (subs o).buffered = item :: rest ∧ effects = [takeItem o item] ∧
      p' = .active (Function.update subs o ⟨rest, (subs o).ended⟩) []) ∨
    ((subs o).buffered = [] ∧ (subs o).ended = true ∧ p' = .initial ∧
      effects = .log o.arm.finishedWarning :: dropAll subs) := by
  simp only [step] at h
  split at h
  · rename_i item rest hbuf
    cases h
    exact .inl ⟨item, rest, hbuf, rfl, rfl⟩
  · rename_i hbuf
    split at h
    · cases h
      exact .inr ⟨hbuf, by assumption, rfl, rfl⟩
    · cases h

theorem step_accounted {p p' : Phase ι} {e : Event ι} {effects : List (Effect ι)}
    (h : step p e = some (p', effects)) (op : Operation) :
    oks (buffered p op) ++ oks (delivered [e] op) = accounted effects op ++ oks (buffered p' op) := by
  rcases p with ⟨subs, unsubscribed⟩ | r
  · cases e with
    | subscribe =>
        rcases unsubscribed with _ | ⟨o, rest⟩ <;> cases h
        simp [buffered, delivered, accounted]
    | subscribeFailed err =>
        rcases unsubscribed with _ | ⟨o, rest⟩ <;> cases h
        simp [buffered, delivered, accounted_dropAll]
    | deliver o item =>
        obtain ⟨-, rfl, rfl⟩ := step_deliver_eq h
        by_cases ho : o = op
        · subst ho
          simp [buffered, delivered, accounted]
        · simp [buffered, delivered, accounted, ho, Function.update_noteq (Ne.symm ho)]
    | finish o =>
        obtain ⟨-, rfl, rfl⟩ := step_finish_eq h
        by_cases ho : o = op
        · subst ho
          simp [buffered, delivered, accounted]
        · simp [buffered, delivered, accounted, ho, Function.update_noteq (Ne.symm ho)]
    | select o =>
        rcases unsubscribed with _ | _
        · rcases step_select_eq h with ⟨item, rest, hbuf, rfl, rfl⟩ | ⟨-, -, rfl, rfl⟩
          · by_cases ho : o = op
            · subst ho
              rcases item with e | a <;> simp [buffered, delivered, accounted, takeItem, hbuf]
            · rcases item with e | a <;>
                simp [buffered, delivered, accounted, takeItem, ho, Function.update_noteq (Ne.symm ho)]
          · simp [buffered, delivered, accounted_dropAll, Phase.initial, Subscription.fresh]
        · cases h
    | shutdown =>
        rcases unsubscribed with _ | _ <;> cases h
        simp [buffered, delivered, accounted_dropAll]
  · cases e <;> cases h

theorem step_discarded {p p' : Phase ι} {e : Event ι} {effects : List (Effect ι)}
    (h : step p e = some (p', effects)) (op : Operation) :
    discarded effects op = if drops p e then buffered p op else [] := by
  rcases p with ⟨subs, unsubscribed⟩ | r
  · cases e with
    | subscribe => rcases unsubscribed with _ | _ <;> cases h; rfl
    | subscribeFailed err =>
        rcases unsubscribed with _ | _ <;> cases h
        simp [drops, buffered, discarded_dropAll]
    | deliver o item =>
        obtain ⟨-, rfl, rfl⟩ := step_deliver_eq h
        cases unsubscribed <;> rfl
    | finish o =>
        obtain ⟨-, rfl, rfl⟩ := step_finish_eq h
        cases unsubscribed <;> rfl
    | select o =>
        rcases unsubscribed with _ | _
        · rcases step_select_eq h with ⟨item, rest, hbuf, rfl, rfl⟩ | ⟨hbuf, hend, rfl, rfl⟩
          · simp only [drops, hbuf, List.isEmpty_cons, Bool.false_and, if_false]
            cases item <;> rfl
          · rw [discarded_cons_log, discarded_dropAll]
            simp [drops, hbuf, hend, buffered]
        · cases h
    | shutdown =>
        rcases unsubscribed with _ | _ <;> cases h
        rw [discarded_cons_log, discarded_dropAll]
        rfl
  · cases e <;> cases h

theorem run_cons_eq_some {p p' : Phase ι} {e : Event ι} {events : List (Event ι)}
    {effects : List (Effect ι)} (h : run p (e :: events) = some (p', effects)) :
    ∃ p₁ effects₁ effects₂, step p e = some (p₁, effects₁) ∧
      run p₁ events = some (p', effects₂) ∧ effects = effects₁ ++ effects₂ := by
  simp only [run] at h
  split at h
  · rename_i p₁ effects₁ hstep
    obtain ⟨⟨p₂, effects₂⟩, hrun, hr⟩ := Option.map_eq_some'.mp h
    obtain ⟨rfl, rfl⟩ := Prod.mk.inj hr
    exact ⟨p₁, effects₁, effects₂, hstep, hrun, rfl⟩
  · cases h

theorem run_accounted {p p' : Phase ι} {events : List (Event ι)} {effects : List (Effect ι)}
    (h : run p events = some (p', effects)) (op : Operation) :
    oks (buffered p op) ++ oks (delivered events op) =
      accounted effects op ++ oks (buffered p' op) := by
  induction events generalizing p effects with
  | nil =>
      obtain ⟨rfl, rfl⟩ := Prod.mk.inj (Option.some.inj h)
      simp [delivered, accounted]
  | cons e events ih =>
      obtain ⟨p₁, effects₁, effects₂, hstep, hrun, rfl⟩ := run_cons_eq_some h
      rw [delivered_cons, oks_append, ← List.append_assoc, step_accounted hstep,
        List.append_assoc, ih hrun, accounted_append, List.append_assoc]

theorem accounted_perm (effects : List (Effect ι)) (op : Operation) :
    (accounted effects op).Perm (spawned effects op ++ oks (discarded effects op)) := by
  induction effects with
  | nil => rfl
  | cons e effects ih =>
      cases e with
      | spawn o a =>
          by_cases ho : o = op
          · subst ho
            simpa [spawned, discarded] using ih
          · simpa [spawned, discarded, ho] using ih
      | log line => simpa [spawned, discarded] using ih
      | discard o item =>
          by_cases ho : o = op
          · subst ho
            rcases item with e | a
            · simpa [spawned, discarded] using ih
            · simpa [spawned, discarded] using ih.cons a |>.trans List.perm_middle.symm
          · simpa [spawned, discarded, ho] using ih

/-- No subscription has ended. -/
def Live : Phase ι → Prop
  | .active subs _ => ∀ o, (subs o).ended = false
  | .returned _ => True

theorem live_update {subs : Operation → Subscription ι} {unsubscribed : List Operation}
    (hp : Live (.active subs unsubscribed)) (o : Operation) {s : Subscription ι}
    (hs : s.ended = false) : Live (.active (Function.update subs o s) unsubscribed) := by
  intro o'
  rw [Function.update_apply]
  split
  exacts [hs, hp o']

theorem step_live {p p' : Phase ι} {e : Event ι} {effects : List (Effect ι)}
    (h : step p e = some (p', effects)) (hp : Live p) (hfinish : ∀ o, e ≠ .finish o) :
    Live p' := by
  rcases p with ⟨subs, unsubscribed⟩ | r
  · cases e with
    | subscribe => rcases unsubscribed with _ | _ <;> cases h; exact hp
    | subscribeFailed err => rcases unsubscribed with _ | _ <;> cases h; trivial
    | deliver o item =>
        obtain ⟨-, -, rfl⟩ := step_deliver_eq h
        exact live_update hp o rfl
    | finish o => exact absurd rfl (hfinish o)
    | select o =>
        rcases unsubscribed with _ | _
        · rcases step_select_eq h with ⟨-, -, -, -, rfl⟩ | ⟨-, hend, -⟩
          · exact live_update hp o (hp o)
          · exact absurd (hp o) (by simp [hend])
        · cases h
    | shutdown => rcases unsubscribed with _ | _ <;> cases h; trivial
  · cases e <;> cases h

theorem drops_of_live {p : Phase ι} {e : Event ι} (hp : Live p) (hshutdown : e ≠ .shutdown)
    (hfail : ∀ err, e ≠ .subscribeFailed err) : drops p e = false := by
  rcases p with ⟨subs, _ | _⟩ | r <;> cases e <;> simp_all [drops, Live]

/-- What `op`'s subscription buffers at each step of a run that drops every subscription, in
order: the invocations such a run should lose. -/
def bufferedAtDrops : Phase ι → List (Event ι) → Operation → List (Except Error ι)
  | _, [], _ => []
  | p, e :: events, op =>
      match step p e with
      | some (p', _) => (if drops p e then buffered p op else []) ++ bufferedAtDrops p' events op
      | none => []

theorem run_discarded {p p' : Phase ι} {events : List (Event ι)} {effects : List (Effect ι)}
    (h : run p events = some (p', effects)) (op : Operation) :
    discarded effects op = bufferedAtDrops p events op := by
  induction events generalizing p effects with
  | nil =>
      obtain ⟨rfl, rfl⟩ := Prod.mk.inj (Option.some.inj h)
      rfl
  | cons e events ih =>
      obtain ⟨p₁, effects₁, effects₂, hstep, hrun, rfl⟩ := run_cons_eq_some h
      rw [discarded_append, step_discarded hstep, ih hrun, bufferedAtDrops, hstep]

theorem run_discarded_nil {p p' : Phase ι} {events : List (Event ι)}
    {effects : List (Effect ι)} (h : run p events = some (p', effects)) (hp : Live p)
    (hfinish : ∀ o, Event.finish o ∉ events) (hshutdown : Event.shutdown ∉ events)
    (hfail : ∀ err, Event.subscribeFailed err ∉ events) (op : Operation) :
    discarded effects op = [] := by
  induction events generalizing p effects with
  | nil =>
      obtain ⟨rfl, rfl⟩ := Prod.mk.inj (Option.some.inj h)
      rfl
  | cons e events ih =>
      simp only [List.mem_cons, not_or, forall_and] at hfinish hshutdown hfail
      obtain ⟨p₁, effects₁, effects₂, hstep, hrun, rfl⟩ := run_cons_eq_some h
      rw [discarded_append, step_discarded hstep,
        drops_of_live hp (Ne.symm hshutdown.1) fun err => Ne.symm (hfail.1 err),
        ih hrun (step_live hstep hp fun o => Ne.symm (hfinish.1 o)) hfinish.2 hshutdown.2 hfail.2]
      rfl

/-- A run in which an invocation of container-exists is delivered after two subscriptions, and
the third subscription fails. -/
def failedRun : List (Event Nat) :=
  [.subscribe, .subscribe, .deliver .containerExists (.ok 7), .subscribeFailed (Error.msg "refused")]

/-- A run in which an invocation of container-exists is still buffered when the loop takes the end
of the clear-container stream. -/
def lostRun : List (Event Nat) :=
  List.replicate 14 .subscribe ++
    [.deliver .containerExists (.ok 7), .finish .clearContainer, .select .clearContainer]

theorem arm_eq_iff (op : Operation) : op.arm = arm op.function ↔ op ≠ .createContainer := by
  cases op <;> decide

end BlobstoreS3
