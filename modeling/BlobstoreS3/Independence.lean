import BlobstoreS3.Tasks

/-!
Invocations on different buckets do not interfere. A request reads and writes only the buckets it
touches: the one it is addressed to and, for a copy, the bucket the store reads its source from.
So what a handler returns and what it does to the store depend only on the buckets its invocation
names, and two task steps whose buckets are disjoint give the same results and leave the same
store in either order: a race such as a write lost to a concurrent move needs two invocations on
one bucket.
-/

namespace BlobstoreS3

/-- The buckets a request reads or writes: the one it is addressed to, and for a copy the bucket
the store reads its source from. -/
def Request.touches : Request → List String
  | .copyObject source bucket _ => bucket :: ((decodeCopySource source).map (·.1)).toList
  | .headBucket b | .createBucket b | .deleteBucket b | .listObjectsV2 b _ | .deleteObject b _
  | .deleteObjects b _ | .headObject b _ | .getObject b _ _ | .putObject b _ _ => [b]

theorem Request.bucket_mem_touches (r : Request) : r.bucket ∈ r.touches := by
  cases r <;> simp [touches, bucket]

namespace Store

/-- Two stores that hold the same bucket under every name in `F`, and see the same names held
by other accounts. -/
def AgreeOn (F : List String) (s₁ s₂ : Store) : Prop :=
  s₁.foreign = s₂.foreign ∧ ∀ b ∈ F, s₁.buckets.get b = s₂.buckets.get b

variable {F : List String} {s₁ s₂ : Store}

theorem AgreeOn.setBucket (h : AgreeOn F s₁ s₂) (bucket : String) (x : Bucket) :
    AgreeOn F (s₁.setBucket bucket x) (s₂.setBucket bucket x) :=
  ⟨h.1, fun b hb => by simp only [setBucket_get, h.2 b hb]⟩

theorem AgreeOn.remove (h : AgreeOn F s₁ s₂) (bucket : String) :
    AgreeOn F { s₁ with buckets := s₁.buckets.remove bucket }
      { s₂ with buckets := s₂.buckets.remove bucket } :=
  ⟨h.1, fun b hb => by simp only [Table.get_remove, h.2 b hb]⟩

theorem putObject_agreeOn (h : AgreeOn F s₁ s₂) {bucket : String} (hb : bucket ∈ F)
    (key : String) (data : Bytes) :
    (s₁.putObject bucket key data).1 = (s₂.putObject bucket key data).1 ∧
      AgreeOn F (s₁.putObject bucket key data).2 (s₂.putObject bucket key data).2 := by
  unfold putObject
  rw [h.2 bucket hb]
  split
  · exact ⟨rfl, h⟩
  · split
    · exact ⟨rfl, h⟩
    · exact ⟨rfl, h.setBucket _ _⟩

theorem respond_agreeOn (pageSize : Nat) (r : Request) (hr : ∀ b ∈ r.touches, b ∈ F)
    (h : AgreeOn F s₁ s₂) :
    (respond pageSize r s₁).1 = (respond pageSize r s₂).1 ∧
      AgreeOn F (respond pageSize r s₁).2 (respond pageSize r s₂).2 := by
  have hb := h.2 _ (hr _ r.bucket_mem_touches)
  cases r
  case copyObject source bucket key =>
    simp only [respond]
    split
    · rename_i srcBucket srcKey hdec
      rw [find?, find?, h.2 srcBucket (hr _ (by simp [Request.touches, hdec]))]
      split
      · exact putObject_agreeOn h (hr _ (by simp [Request.touches])) _ _
      · exact ⟨rfl, h⟩
    all_goals exact ⟨rfl, h⟩
  case putObject bucket key body =>
    exact putObject_agreeOn h (hr _ (by simp [Request.touches])) _ _
  all_goals
    simp only [Request.bucket] at hb
    simp only [respond, find?, hb, h.1]
    repeat' split
    all_goals
      first | exact ⟨rfl, h⟩ | exact ⟨rfl, h.setBucket _ _⟩ | exact ⟨rfl, rfl, (h.remove _).2⟩

end Store

variable {α β : Type}

/-- A function of the world that reads and writes only the buckets in `F`: it leaves every other
bucket and the names other accounts hold as they were, and from two worlds whose stores agree on
`F` it gives the same result and stores that still agree on `F`. -/
structure Local (F : List String) (f : World Store → α × World Store) : Prop where
  frame : ∀ w, ∀ b ∉ F, (f w).2.store.buckets.get b = w.store.buckets.get b
  foreign : ∀ w, (f w).2.store.foreign = w.store.foreign
  agree : ∀ w₁ w₂, Store.AgreeOn F w₁.store w₂.store →
    (f w₁).1 = (f w₂).1 ∧ Store.AgreeOn F (f w₁).2.store (f w₂).2.store

namespace Local

variable {F G : List String}

theorem comm {F₁ F₂ : List String} {f₁ : World Store → α × World Store}
    {f₂ : World Store → β × World Store} (h₁ : Local F₁ f₁) (h₂ : Local F₂ f₂)
    (hdisj : ∀ b ∈ F₁, b ∉ F₂) (w : World Store) :
    (f₂ (f₁ w).2).1 = (f₂ w).1 ∧ (f₁ (f₂ w).2).1 = (f₁ w).1 ∧
      (f₂ (f₁ w).2).2.store = (f₁ (f₂ w).2).2.store := by
  have a₁ : Store.AgreeOn F₂ (f₁ w).2.store w.store :=
    ⟨h₁.foreign w, fun b hb => h₁.frame w b fun hb₁ => hdisj b hb₁ hb⟩
  have a₂ : Store.AgreeOn F₁ (f₂ w).2.store w.store :=
    ⟨h₂.foreign w, fun b hb₁ => h₂.frame w b (hdisj b hb₁)⟩
  obtain ⟨r₂, s₂⟩ := h₂.agree _ _ a₁
  obtain ⟨r₁, s₁⟩ := h₁.agree _ _ a₂
  have hforeign : (f₂ (f₁ w).2).2.store.foreign = (f₁ (f₂ w).2).2.store.foreign := by
    rw [h₂.foreign, h₁.foreign, h₁.foreign, h₂.foreign]
  refine ⟨r₂, r₁, Store.ext_get hforeign fun b => ?_⟩
  by_cases hb₁ : b ∈ F₁
  · calc (f₂ (f₁ w).2).2.store.buckets.get b = (f₁ w).2.store.buckets.get b :=
          h₂.frame _ b (hdisj b hb₁)
      _ = (f₁ (f₂ w).2).2.store.buckets.get b := (s₁.2 b hb₁).symm
  by_cases hb₂ : b ∈ F₂
  · calc (f₂ (f₁ w).2).2.store.buckets.get b = (f₂ w).2.store.buckets.get b := s₂.2 b hb₂
      _ = (f₁ (f₂ w).2).2.store.buckets.get b := (h₁.frame _ b hb₁).symm
  rw [h₂.frame _ b hb₂, h₁.frame w b hb₁, h₁.frame _ b hb₁, h₂.frame w b hb₂]

theorem mono {f : World Store → α × World Store} (hf : Local F f) (hFG : ∀ b ∈ F, b ∈ G) :
    Local G f := by
  refine ⟨fun w b hb => hf.frame w b fun h => hb (hFG b h), hf.foreign, fun w₁ w₂ h => ?_⟩
  obtain ⟨hr, hs⟩ := hf.agree w₁ w₂ ⟨h.1, fun b hb => h.2 b (hFG b hb)⟩
  refine ⟨hr, hs.1, fun b hb => ?_⟩
  by_cases hbF : b ∈ F
  · exact hs.2 b hbF
  · rw [hf.frame w₁ b hbF, hf.frame w₂ b hbF, h.2 b hb]

theorem map {γ : Type} {f : World Store → α × World Store} (hf : Local F f) (g : α → γ) :
    Local F fun w => (g (f w).1, (f w).2) :=
  ⟨hf.frame, hf.foreign, fun w₁ w₂ h =>
    let ⟨hr, hs⟩ := hf.agree w₁ w₂ h
    ⟨congrArg g hr, hs⟩⟩

theorem pure (a : α) : Local F (exec (Pure.pure a : S3M Store α)) :=
  ⟨fun _ _ _ => rfl, fun _ => rfl, fun _ _ h => ⟨rfl, h⟩⟩

theorem throw (e : Error) : Local F (exec (MonadExcept.throw e : S3M Store α)) :=
  ⟨fun _ _ _ => rfl, fun _ => rfl, fun _ _ h => ⟨rfl, h⟩⟩

theorem send (pageSize : Nat) {client : S3Client} {r : Request}
    (hr : ∀ b ∈ r.touches, b ∈ F) :
    Local F (exec (BlobstoreS3.send (objectStore pageSize) client r)) := by
  refine ⟨fun w b hb => Store.respond_get_of_ne pageSize r w.store fun h =>
    hb (h ▸ hr _ r.bucket_mem_touches),
    fun w => by simp only [exec_send, objectStore_respond, Store.respond_foreign],
    fun w₁ w₂ h => ?_⟩
  obtain ⟨hr', hs⟩ := Store.respond_agreeOn pageSize r hr h
  exact ⟨by simp only [exec_send, objectStore_respond, hr'], hs⟩

theorem orContext (r : Except SdkError α) (msg : String) :
    Local F (exec (BlobstoreS3.orContext r msg : S3M Store α)) := by
  cases r
  · exact throw _
  · exact pure _

theorem bind {x : S3M Store α} {f : α → S3M Store β} (hx : Local F (exec x))
    (hf : ∀ a, Local F (exec (f a))) : Local F (exec (x >>= f)) := by
  refine ⟨fun w b hb => ?_, fun w => ?_, fun w₁ w₂ h => ?_⟩
  · have hxw := hx.frame w b hb
    rw [exec_bind]
    revert hxw
    rcases exec x w with ⟨_ | a, w'⟩ <;> intro hxw
    · exact hxw
    · exact ((hf a).frame w' b hb).trans hxw
  · have hxw := hx.foreign w
    rw [exec_bind]
    revert hxw
    rcases exec x w with ⟨_ | a, w'⟩ <;> intro hxw
    · exact hxw
    · exact ((hf a).foreign w').trans hxw
  · obtain ⟨hr, hs⟩ := hx.agree w₁ w₂ h
    rw [exec_bind, exec_bind]
    revert hr hs
    rcases exec x w₁ with ⟨_ | a, w₁'⟩ <;> rcases exec x w₂ with ⟨_ | a', w₂'⟩ <;>
      intro hr hs <;> cases hr
    · exact ⟨rfl, hs⟩
    · exact (hf a).agree w₁' w₂' hs

theorem context {m : S3M Store α} (hm : Local F (exec m)) (msg : String) :
    Local F (exec (m.context msg)) := by
  have : exec (m.context msg) = fun w =>
      ((exec m w).1.mapError (·.context msg), (exec m w).2) := by
    funext w
    rw [exec_context]
    rcases exec m w with ⟨_ | _, _⟩ <;> rfl
  rw [this]
  exact hm.map _

theorem liftExcept_bind {r : Except Error α} {f : α → S3M Store β}
    (hf : ∀ a, r = .ok a → Local F (exec (f a))) :
    Local F (exec (BlobstoreS3.liftExcept r >>= f)) := by
  cases r with
  | error e => exact throw e
  | ok a => simpa using hf a rfl

theorem transmit (v : α → Value) {body : S3M Store α} (h : Local F (exec body)) :
    Local F (exec (BlobstoreS3.transmit v body)) := by
  have : exec (BlobstoreS3.transmit v body) =
      fun w => (.ok (.result ((exec body w).1.map v)), (exec body w).2) := by
    funext w
    exact exec_transmit v body w
  rw [this]
  exact h.map fun r => (Except.ok (.result (r.map v)) : Except Error Transmission)

end Local

namespace StorageClient

variable (pageSize : Nat) (self : StorageClient)

theorem containerExists_local (bucket : String) :
    Local [bucket] (exec (self.containerExists (objectStore pageSize) bucket)) :=
  .bind (.send pageSize (by simp [Request.touches])) fun _ => by
    split <;> first | exact .pure _ | exact .throw _

theorem createContainer_local (bucket : String) :
    Local [bucket] (exec (self.createContainer (objectStore pageSize) bucket)) :=
  .bind (.send pageSize (by simp [Request.touches])) fun _ => by
    split <;> first | exact .pure _ | exact .throw _

theorem getContainerInfo_local (bucket : String) :
    Local [bucket] (exec (self.getContainerInfo (objectStore pageSize) bucket)) :=
  .bind (.send pageSize (by simp [Request.touches])) fun _ => by
    split <;> first | exact .pure _ | exact .throw _

theorem listContainerObjects_local (bucket : String) (limit offset : Option UInt64) :
    Local [bucket] (exec (self.listContainerObjects (objectStore pageSize) bucket limit offset)) :=
  .bind (.send pageSize (by simp [Request.touches])) fun _ => by
    split <;> first | exact .pure _ | exact .throw _

theorem copyObject_local (srcBucket srcKey destBucket destKey : String) :
    Local (Request.copyObject (copySource srcBucket srcKey) destBucket destKey).touches
      (exec (self.copyObject (objectStore pageSize) srcBucket srcKey destBucket destKey)) :=
  .bind (.send pageSize fun _ => id) fun _ => .bind (.orContext _ _) fun _ => .pure _

theorem deleteObject_local (container object : String) :
    Local [container] (exec (self.deleteObject (objectStore pageSize) container object)) :=
  .bind (.send pageSize (by simp [Request.touches])) fun _ =>
    .bind (.orContext _ _) fun _ => .pure _

theorem deleteObjects_local (container : String) (objects : List String) :
    Local [container] (exec (self.deleteObjects (objectStore pageSize) container objects)) := by
  unfold deleteObjects
  split
  · exact .pure _
  · exact .bind (.send pageSize (by simp [Request.touches])) fun _ =>
      .bind (.orContext _ _) fun _ => by split <;> first | exact .pure _ | exact .throw _

theorem deleteContainer_local (bucket : String) :
    Local [bucket] (exec (self.deleteContainer (objectStore pageSize) bucket)) :=
  .bind (.send pageSize (by simp [Request.touches])) fun _ => by
    split <;> first | exact .pure _ | exact .throw _

theorem hasObject_local (bucket key : String) :
    Local [bucket] (exec (self.hasObject (objectStore pageSize) bucket key)) :=
  .bind (.send pageSize (by simp [Request.touches])) fun _ => by
    split <;> first | exact .pure _ | exact .throw _

theorem getObjectInfo_local (bucket key : String) :
    Local [bucket] (exec (self.getObjectInfo (objectStore pageSize) bucket key)) :=
  .bind (.send pageSize (by simp [Request.touches])) fun _ => by
    split <;> first | exact .pure _ | exact .throw _

end StorageClient

/-- The buckets an invocation of `op` through `client` reads or writes: the containers it names,
resolved through the client's aliases, and for a copy or a move the bucket the store reads the
source from. -/
def Operation.footprint (client : StorageClient) (op : Operation) (params : op.Params) :
    List String :=
  (op.containers params).map client.unalias ++ match op, params with
    | .copyObject, params | .moveObject, params =>
        ((decodeCopySource (copySource (client.unalias params.1.container)
          params.1.object)).map (·.1)).toList
    | _, _ => []

namespace Provider

/-- The buckets an invocation reads or writes, through the client of its caller; none when the
caller has no link, since the handler then sends no request. -/
def footprint (self : Provider) (op : Operation) (inv : AcceptedInvocation op.Params) :
    List String :=
  match self.client inv.context with
  | .ok client => op.footprint client inv.params
  | .error _ => []

theorem serve_local (pageSize : Nat) (self : Provider) (op : Operation)
    (inv : AcceptedInvocation op.Params) :
    Local (self.footprint op inv) (exec (self.serve (objectStore pageSize) op inv)) := by
  obtain ⟨context, params⟩ := inv
  cases op
  case' clearContainer =>
    refine .transmit _ (.liftExcept_bind fun client' hc' =>
      .bind (.context ((client'.listContainerObjects_local pageSize _ _ _).mono ?_) _) fun _ =>
        (client'.deleteObjects_local pageSize _ _).mono ?_)
  case' containerExists =>
    refine .transmit _ (.liftExcept_bind fun client' hc' =>
      (client'.containerExists_local pageSize _).mono ?_)
  case' createContainer =>
    refine .transmit _ (.liftExcept_bind fun client' hc' =>
      (client'.createContainer_local pageSize _).mono ?_)
  case' deleteContainer =>
    refine .transmit _ (.liftExcept_bind fun client' hc' =>
      (client'.deleteContainer_local pageSize _).mono ?_)
  case' getContainerInfo =>
    refine .transmit _ (.liftExcept_bind fun client' hc' =>
      (client'.getContainerInfo_local pageSize _).mono ?_)
  case' listContainerObjects =>
    refine .transmit _ (.liftExcept_bind fun client' hc' =>
      (client'.listContainerObjects_local pageSize _ _ _).mono ?_)
  case' copyObject =>
    refine .transmit _ (.liftExcept_bind fun client' hc' =>
      (client'.copyObject_local pageSize _ _ _ _).mono ?_)
  case' deleteObject =>
    refine .transmit _ (.liftExcept_bind fun client' hc' =>
      (client'.deleteObject_local pageSize _ _).mono ?_)
  case' deleteObjects =>
    refine .transmit _ (.liftExcept_bind fun client' hc' =>
      (client'.deleteObjects_local pageSize _ _).mono ?_)
  case' getContainerData =>
    refine .transmit _ (.liftExcept_bind fun _ _ => .liftExcept_bind fun client' hc' =>
      .bind (.send pageSize ?_) fun _ => .bind (.orContext _ _) fun _ => .pure _)
  case' getObjectInfo =>
    refine .transmit _ (.liftExcept_bind fun client' hc' =>
      (client'.getObjectInfo_local pageSize _ _).mono ?_)
  case' hasObject =>
    refine .transmit _ (.liftExcept_bind fun client' hc' =>
      (client'.hasObject_local pageSize _ _).mono ?_)
  case' moveObject =>
    refine .transmit _ (.liftExcept_bind fun client' hc' =>
      .bind (.context ((client'.copyObject_local pageSize _ _ _ _).mono ?_) _) fun _ =>
        .context ((client'.deleteObject_local pageSize _ _).mono ?_) _)
  case' writeContainerData =>
    obtain ⟨id, data⟩ := params
    simp only [serve, serveWriteContainerData]
    split
    exact .pure _
    refine .transmit _ (.liftExcept_bind fun client' hc' =>
      .bind (.send pageSize ?_) fun _ => .bind (.orContext _ _) fun _ => .pure _)
  all_goals
    intro b hb
    simp_all [footprint, Operation.footprint, Operation.containers, Request.touches]

theorem beginMove_local (pageSize : Nat) (self : Provider)
    (inv : AcceptedInvocation (ObjectId × ObjectId)) :
    Local (self.footprint .moveObject inv) (exec (self.beginMove (objectStore pageSize) inv)) :=
  .liftExcept_bind fun client hc => .bind (.context ((client.copyObject_local pageSize _ _ _ _).mono
    fun b hb => by simp_all [footprint, Operation.footprint, Operation.containers,
      Request.touches]) _) fun _ => .pure _

theorem beginClear_local (pageSize : Nat) (self : Provider) (inv : AcceptedInvocation String) :
    Local (self.footprint .clearContainer inv)
      (exec (self.beginClear (objectStore pageSize) inv)) :=
  .liftExcept_bind fun client hc => .bind (.context ((client.listContainerObjects_local pageSize
    _ _ _).mono fun b hb => by simp_all [footprint, Operation.footprint, Operation.containers]) _)
    fun _ => .pure _

end Provider

/-- The bucket the second request of a handler reads or writes. -/
def Pending.footprint : Pending → List String
  | .deleteSource client src => [client.unalias src.container]
  | .deleteListed _ bucket _ => [bucket]

/-- The buckets the next step of a task reads or writes. -/
def Task.footprint (p : Provider) : Task → List String
  | .start op inv => p.footprint op inv
  | .pending _ k => k.footprint

theorem Pending.finish_local (pageSize : Nat) (k : Pending) :
    Local k.footprint (exec (k.finish (objectStore pageSize))) := by
  cases k with
  | deleteSource client src =>
      exact .transmit _ (.context (client.deleteObject_local pageSize _ _) _)
  | deleteListed client bucket objects =>
      exact .transmit _ (client.deleteObjects_local pageSize _ _)

theorem Local.ofBegin {F : List String} {m : S3M Store Pending} (hm : Local F (exec m)) :
    Local F fun w => Progress.ofBegin (exec m w) := by
  refine ⟨fun w b hb => by simpa only [Progress.ofBegin_snd] using hm.frame w b hb,
    fun w => by simpa only [Progress.ofBegin_snd] using hm.foreign w, fun w₁ w₂ h => ?_⟩
  obtain ⟨hr, hs⟩ := hm.agree w₁ w₂ h
  simp only [Progress.ofBegin_snd]
  refine ⟨?_, hs⟩
  revert hr
  rcases exec m w₁ with ⟨_ | _, _⟩ <;> rcases exec m w₂ with ⟨_ | _, _⟩ <;> intro hr <;>
    cases hr <;> rfl

theorem Task.step_local (pageSize : Nat) (p : Provider) (t : Task) :
    Local (t.footprint p) (t.step (objectStore pageSize) p) := by
  cases t with
  | pending _ k => exact (k.finish_local pageSize).map Progress.done
  | start op inv =>
      cases op
      case clearContainer => exact (p.beginClear_local pageSize inv).ofBegin
      case moveObject => exact (p.beginMove_local pageSize inv).ofBegin
      all_goals exact (p.serve_local pageSize _ inv).map Progress.done

theorem Task.step_comm (pageSize : Nat) (p : Provider) (t₁ t₂ : Task) (w : World Store)
    (hdisj : ∀ b ∈ t₁.footprint p, b ∉ t₂.footprint p) :
    (t₂.step (objectStore pageSize) p (t₁.step (objectStore pageSize) p w).2).1 =
        (t₂.step (objectStore pageSize) p w).1 ∧
      (t₁.step (objectStore pageSize) p (t₂.step (objectStore pageSize) p w).2).1 =
        (t₁.step (objectStore pageSize) p w).1 ∧
      (t₂.step (objectStore pageSize) p (t₁.step (objectStore pageSize) p w).2).2.store =
        (t₁.step (objectStore pageSize) p (t₂.step (objectStore pageSize) p w).2).2.store :=
  Local.comm (t₁.step_local pageSize p) (t₂.step_local pageSize p) hdisj w

/-- A write to one bucket, spawned and not started. -/
def writeTask : Task := .start .writeContainerData ⟨actorContext, (⟨"a", "k"⟩, [.ok [1]])⟩

/-- A delete in another bucket, spawned and not started. -/
def deleteTask : Task := .start .deleteObject ⟨actorContext, ⟨"b", "k"⟩⟩

/-- A world with the two buckets, both empty. -/
def twoBuckets : World Store := worldOf [("a", .empty), ("b", .empty)]

theorem step_comm_writeDelete :
    (∀ b ∈ writeTask.footprint plainProvider, b ∉ deleteTask.footprint plainProvider) ∧
    (deleteTask.step (objectStore s3PageSize) plainProvider
        (writeTask.step (objectStore s3PageSize) plainProvider twoBuckets).2).1 =
        (deleteTask.step (objectStore s3PageSize) plainProvider twoBuckets).1 ∧
      (writeTask.step (objectStore s3PageSize) plainProvider
        (deleteTask.step (objectStore s3PageSize) plainProvider twoBuckets).2).1 =
        (writeTask.step (objectStore s3PageSize) plainProvider twoBuckets).1 ∧
      (deleteTask.step (objectStore s3PageSize) plainProvider
        (writeTask.step (objectStore s3PageSize) plainProvider twoBuckets).2).2.store =
        (writeTask.step (objectStore s3PageSize) plainProvider
          (deleteTask.step (objectStore s3PageSize) plainProvider twoBuckets).2).2.store :=
  ⟨by decide, Task.step_comm s3PageSize plainProvider writeTask deleteTask twoBuckets
    (by decide)⟩

end BlobstoreS3
