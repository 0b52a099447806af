import BlobstoreS3.Progress

namespace BlobstoreS3

variable {σ α β : Type}

/-- `m` sends at most `n` requests: a run keeps the log of earlier requests and appends at most
`n` to it. -/
def SendsAtMost (n : Nat) (m : S3M σ α) : Prop :=
  ∀ w, ∃ new, (exec m w).2.calls = w.calls ++ new ∧ new.length ≤ n

namespace SendsAtMost

theorem pure (a : α) : SendsAtMost 0 (Pure.pure a : S3M σ α) :=
  fun _ => ⟨[], by simp, le_rfl⟩

theorem throw (e : Error) : SendsAtMost 0 (MonadExcept.throw e : S3M σ α) :=
  fun _ => ⟨[], by simp, le_rfl⟩

theorem send (B : Backend σ) (client : S3Client) (r : Request) :
    SendsAtMost 1 (BlobstoreS3.send B client r) :=
  fun _ => ⟨[⟨client, r⟩], rfl, le_rfl⟩

theorem orContext (r : Except SdkError α) (msg : String) :
    SendsAtMost 0 (BlobstoreS3.orContext r msg : S3M σ α) := by
  cases r
  · exact throw _
  · exact pure _

theorem bind {a c n : Nat} {x : S3M σ α} {f : α → S3M σ β} (hx : SendsAtMost a x)
    (hf : ∀ b, SendsAtMost c (f b)) (h : a + c ≤ n) : SendsAtMost n (x >>= f) := by
  intro w
  obtain ⟨new, hnew, hlen⟩ := hx w
  rw [exec_bind]
  rcases hexec : exec x w with ⟨_ | b, w'⟩
  · rw [hexec] at hnew
    exact ⟨new, hnew, by omega⟩
  · rw [hexec] at hnew
    obtain ⟨new', hnew', hlen'⟩ := hf b w'
    refine ⟨new ++ new', by rw [hnew', hnew, List.append_assoc], ?_⟩
    rw [List.length_append]
    omega

theorem send_bind {B : Backend σ} {client : S3Client} {r : Request}
    {k : Except SdkError r.Output → S3M σ α} (hk : ∀ x, SendsAtMost 0 (k x)) :
    SendsAtMost 1 (BlobstoreS3.send B client r >>= k) :=
  bind (send B client r) hk le_rfl

theorem context {n : Nat} {m : S3M σ α} (hm : SendsAtMost n m) (msg : String) :
    SendsAtMost n (m.context msg) := by
  intro w
  obtain ⟨new, hnew, hlen⟩ := hm w
  refine ⟨new, ?_, hlen⟩
  rw [exec_context]
  rcases hexec : exec m w with ⟨_ | _, _⟩ <;> simpa [hexec] using hnew

theorem liftExcept_bind {n : Nat} {r : Except Error α} {f : α → S3M σ β}
    (hf : ∀ a, r = .ok a → SendsAtMost n (f a)) :
    SendsAtMost n (BlobstoreS3.liftExcept r >>= f) := by
  cases r with
  | error e => exact fun w => ⟨[], by simp, Nat.zero_le _⟩
  | ok a => simpa using hf a rfl

theorem mono {n n' : Nat} {m : S3M σ α} (h : SendsAtMost n m) (hn : n ≤ n') :
    SendsAtMost n' m :=
  fun w => let ⟨new, hnew, hlen⟩ := h w; ⟨new, hnew, hlen.trans hn⟩

theorem transmit {n : Nat} (v : α → Value) {body : S3M σ α} (h : SendsAtMost n body) :
    SendsAtMost n (BlobstoreS3.transmit v body) :=
  h

end SendsAtMost

namespace StorageClient

variable (B : Backend σ) (self : StorageClient)

theorem containerExists_sendsAtMost (bucket : String) :
    SendsAtMost 1 (self.containerExists B bucket) :=
  .send_bind fun _ => by split <;> first | exact .pure _ | exact .throw _

theorem createContainer_sendsAtMost (bucket : String) :
    SendsAtMost 1 (self.createContainer B bucket) :=
  .send_bind fun _ => by split <;> first | exact .pure _ | exact .throw _

theorem getContainerInfo_sendsAtMost (bucket : String) :
    SendsAtMost 1 (self.getContainerInfo B bucket) :=
  .send_bind fun _ => by split <;> first | exact .pure _ | exact .throw _

theorem listContainerObjects_sendsAtMost (bucket : String) (limit offset : Option UInt64) :
    SendsAtMost 1 (self.listContainerObjects B bucket limit offset) :=
  .send_bind fun _ => by split <;> first | exact .pure _ | exact .throw _

theorem copyObject_sendsAtMost (srcBucket srcKey destBucket destKey : String) :
    SendsAtMost 1 (self.copyObject B srcBucket srcKey destBucket destKey) :=
  .send_bind fun _ => .bind (.orContext _ _) (fun _ => .pure _) le_rfl

theorem deleteObject_sendsAtMost (container object : String) :
    SendsAtMost 1 (self.deleteObject B container object) :=
  .send_bind fun _ => .bind (.orContext _ _) (fun _ => .pure _) le_rfl

theorem deleteObjects_sendsAtMost (container : String) (objects : List String) :
    SendsAtMost 1 (self.deleteObjects B container objects) := by
  unfold deleteObjects
  split
  · exact (SendsAtMost.pure _).mono (Nat.zero_le _)
  · exact .send_bind fun _ => .bind (.orContext _ _)
      (fun _ => by split <;> first | exact .pure _ | exact .throw _) le_rfl

theorem deleteContainer_sendsAtMost (bucket : String) :
    SendsAtMost 1 (self.deleteContainer B bucket) :=
  .send_bind fun _ => by split <;> first | exact .pure _ | exact .throw _

theorem hasObject_sendsAtMost (bucket key : String) :
    SendsAtMost 1 (self.hasObject B bucket key) :=
  .send_bind fun _ => by split <;> first | exact .pure _ | exact .throw _

theorem getObjectInfo_sendsAtMost (bucket key : String) :
    SendsAtMost 1 (self.getObjectInfo B bucket key) :=
  .send_bind fun _ => by split <;> first | exact .pure _ | exact .throw _

end StorageClient

namespace Provider

variable (B : Backend σ) (self : Provider)

theorem serve_sendsAtMost (op : Operation) (inv : AcceptedInvocation op.Params)
    (hop : op ≠ .clearContainer ∧ op ≠ .moveObject) : SendsAtMost 1 (self.serve B op inv) := by
  obtain ⟨context, params⟩ := inv
  cases op <;> simp at hop
  case containerExists =>
    exact .transmit _ (.liftExcept_bind fun client _ => client.containerExists_sendsAtMost B _)
  case createContainer =>
    exact .transmit _ (.liftExcept_bind fun client _ => client.createContainer_sendsAtMost B _)
  case deleteContainer =>
    exact .transmit _ (.liftExcept_bind fun client _ => client.deleteContainer_sendsAtMost B _)
  case getContainerInfo =>
    exact .transmit _ (.liftExcept_bind fun client _ => client.getContainerInfo_sendsAtMost B _)
  case listContainerObjects =>
    exact .transmit _ (.liftExcept_bind fun client _ =>
      client.listContainerObjects_sendsAtMost B _ _ _)
  case copyObject =>
    exact .transmit _ (.liftExcept_bind fun client _ => client.copyObject_sendsAtMost B _ _ _ _)
  case deleteObject =>
    exact .transmit _ (.liftExcept_bind fun client _ => client.deleteObject_sendsAtMost B _ _)
  case deleteObjects =>
    exact .transmit _ (.liftExcept_bind fun client _ => client.deleteObjects_sendsAtMost B _ _)
  case getContainerData =>
    exact .transmit _ (.liftExcept_bind fun _ _ => .liftExcept_bind fun _ _ =>
      .send_bind fun _ => .bind (.orContext _ _) (fun _ => .pure _) le_rfl)
  case getObjectInfo =>
    exact .transmit _ (.liftExcept_bind fun client _ => client.getObjectInfo_sendsAtMost B _ _)
  case hasObject =>
    exact .transmit _ (.liftExcept_bind fun client _ => client.hasObject_sendsAtMost B _ _)
  case writeContainerData =>
    obtain ⟨id, data⟩ := params
    simp only [serve, serveWriteContainerData]
    split
    · exact (SendsAtMost.pure _).mono (Nat.zero_le _)
    · exact .transmit _ (.liftExcept_bind fun _ _ =>
        .send_bind fun _ => .bind (.orContext _ _) (fun _ => .pure _) le_rfl)

theorem beginMove_sendsAtMost (inv : AcceptedInvocation (ObjectId × ObjectId)) :
    SendsAtMost 1 (self.beginMove B inv) :=
  .liftExcept_bind fun client _ =>
    .bind (.context (client.copyObject_sendsAtMost B _ _ _ _) _) (fun _ => .pure _) le_rfl

theorem beginClear_sendsAtMost (inv : AcceptedInvocation String) :
    SendsAtMost 1 (self.beginClear B inv) :=
  .liftExcept_bind fun client _ =>
    .bind (.context (client.listContainerObjects_sendsAtMost B _ _ _) _) (fun _ => .pure _) le_rfl

end Provider

theorem Pending.finish_sendsAtMost (B : Backend σ) (k : Pending) : SendsAtMost 1 (k.finish B) := by
  cases k with
  | deleteSource client src =>
      exact .transmit _ (.context (client.deleteObject_sendsAtMost B _ _) _)
  | deleteListed client bucket objects =>
      exact .transmit _ (client.deleteObjects_sendsAtMost B _ _)

theorem Task.step_calls (B : Backend σ) (p : Provider) (t : Task) (w : World σ) :
    ∃ new, (t.step B p w).2.calls = w.calls ++ new ∧ new.length ≤ 1 := by
  cases t with
  | pending _ k => exact k.finish_sendsAtMost B w
  | start op inv =>
      cases op
      case clearContainer => simpa [Task.step] using p.beginClear_sendsAtMost B inv w
      case moveObject => simpa [Task.step] using p.beginMove_sendsAtMost B inv w
      all_goals exact p.serve_sendsAtMost B _ inv (by decide) w

namespace Runtime

variable (B : Backend σ) (fromValues : ConfigValues → Except Error StorageConfig)

theorem step_calls {s s' : Runtime σ} {e : RuntimeEvent} (h : s.step B fromValues e = some s') :
    ∃ new, s'.world.calls = s.world.calls ++ new ∧ new.length ≤ if e.isAdvance then 1 else 0 := by
  cases e with
  | link e =>
      cases h
      exact ⟨[], by simp, by simp⟩
  | spawn op inv =>
      cases h
      exact ⟨[], by simp, by simp⟩
  | advance i =>
      obtain ⟨t, -, ⟨k, -, rfl⟩ | ⟨r, -, rfl⟩⟩ := step_advance_eq B fromValues h <;>
        simpa [RuntimeEvent.isAdvance] using t.step_calls B s.provider s.world

theorem run_calls {s s' : Runtime σ} {events : List RuntimeEvent}
    (h : run B fromValues s events = some s') :
    ∃ new, s'.world.calls = s.world.calls ++ new ∧
      new.length ≤ events.countP RuntimeEvent.isAdvance := by
  induction events generalizing s with
  | nil =>
      cases h
      exact ⟨[], by simp, by simp⟩
  | cons e events ih =>
      obtain ⟨s₁, h₁, hrun⟩ := Option.bind_eq_some.mp h
      obtain ⟨new₁, hc₁, hl₁⟩ := step_calls B fromValues h₁
      obtain ⟨new₂, hc₂, hl₂⟩ := ih hrun
      refine ⟨new₁ ++ new₂, by rw [hc₂, hc₁, List.append_assoc], ?_⟩
      rw [List.countP_cons, List.length_append]
      omega

theorem run_requests_le {s s' : Runtime σ} {events : List RuntimeEvent}
    (h : run B fromValues s events = some s') :
    ∃ new, s'.world.calls = s.world.calls ++ new ∧
      new.length ≤ events.countP RuntimeEvent.isAdvance ∧
      new.length ≤ 2 * (s.tasks.length + events.countP RuntimeEvent.isSpawn) := by
  obtain ⟨new, hcalls, hlen⟩ := run_calls B fromValues h
  have hmoves := run_movesLeft B fromValues h
  have hle := movesLeft_le s
  exact ⟨new, hcalls, hlen, by omega⟩

theorem run_requests_le_moveRun :
    ∃ s', run (objectStore s3PageSize) refuseConfig (runtimeOf [("b", lockedPair)]) moveRun =
        some s' ∧
      ∃ new, s'.world.calls = (runtimeOf [("b", lockedPair)]).world.calls ++ new ∧
        new.length ≤ moveRun.countP RuntimeEvent.isAdvance ∧
        new.length ≤ 2 * ((runtimeOf [("b", lockedPair)]).tasks.length +
          moveRun.countP RuntimeEvent.isSpawn) :=
  ⟨_, rfl, run_requests_le (objectStore s3PageSize) refuseConfig rfl⟩

end Runtime

end BlobstoreS3
