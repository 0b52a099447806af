import BlobstoreS3.Storage

namespace BlobstoreS3

/-- `invocation_context` of an invocation's headers, by the field the code reads. -/
structure Context where
  actor : Option String
  deriving DecidableEq, Repr

/-- `AcceptedInvocation`, by its context and parameters. -/
structure AcceptedInvocation (P : Type) where
  context : Option Context
  params : P

/-- The functions of `wrpc:blobstore/blobstore` the provider serves, in the order `serve`
subscribes to them. -/
inductive Operation
  | clearContainer
  | containerExists
  | createContainer
  | deleteContainer
  | getContainerInfo
  | listContainerObjects
  | copyObject
  | deleteObject
  | deleteObjects
  | getContainerData
  | getObjectInfo
  | hasObject
  | moveObject
  | writeContainerData
  deriving DecidableEq, Repr

/-- The parameters of an invocation of each function. -/
def Operation.Params : Operation → Type
  | .clearContainer | .containerExists | .createContainer | .deleteContainer
  | .getContainerInfo => String
  | .listContainerObjects => String × Option UInt64 × Option UInt64
  | .copyObject | .moveObject => ObjectId × ObjectId
  | .deleteObject | .getObjectInfo | .hasObject => ObjectId
  | .deleteObjects => String × List String
  | .getContainerData => ObjectId × UInt64 × UInt64
  | .writeContainerData => ObjectId × List (Except Error Bytes)

/-- A value a handler transmits. -/
inductive Value
  | unit
  | bool (b : Bool)
  | containerMetadata (metadata : ContainerMetadata)
  | names (names : Option (List String))
  | objectMetadata (metadata : ObjectMetadata)
  | stream (chunks : List Bytes)
  deriving DecidableEq, Repr

/-- What a handler transmits: a result on the result subject, or an error message on the error
subject. -/
inductive Transmission
  | result (r : Except Error Value)
  | error (message : String)
  deriving Repr

/-- Whether a transmission reports a failure. -/
def Transmission.IsError : Transmission → Prop
  | .result (.ok _) => False
  | .result (.error _) => True
  | .error _ => True

/-- `BlobstoreS3Provider`: the storage client of each linked actor. -/
structure Provider where
  actors : Table StorageClient

/-- `BlobstoreS3Provider::client`: the entry of the actor the invocation context names. -/
def Provider.client (self : Provider) (context : Option Context) : Except Error StorageClient :=
  match context.bind Context.actor with
  | some sourceId =>
      match self.actors.get sourceId with
      | some client => .ok client
      | none => .error (Error.msg ("failed to lookup " ++ sourceId ++ " configuration"))
  | none => .error (Error.msg "failed to lookup invocation source ID")

/-- The buffer capacity of `ReaderStream::new`. -/
def readerCapacity : Nat := 4096

/-- `ReaderStream::new` over a reader of `data`: chunks of at most `readerCapacity` bytes. -/
def readerStream (data : Bytes) : List Bytes :=
  if data = [] then [] else data.take readerCapacity :: readerStream (data.drop readerCapacity)
termination_by data.length
decreasing_by
  have := List.length_pos.mpr ‹_›
  simp only [List.length_drop, readerCapacity]
  omega

theorem flatten_readerStream (data : Bytes) : (readerStream data).flatten = data := by
  induction data using readerStream.induct with
  | case1 => simp [readerStream]
  | case2 data h ih => rw [readerStream, if_neg h, List.flatten_cons, ih, List.take_append_drop]

/-- `data.try_collect::<BytesMut>()`: the chunks of the inbound stream in order, or its first
error. -/
def tryCollect : List (Except Error Bytes) → Except Error Bytes
  | [] => .ok []
  | .ok chunk :: rest => (tryCollect rest).map (chunk ++ ·)
  | .error e :: _ => .error e

/-- `end.checked_sub(start)`. -/
def checkedSub (end_ start : UInt64) : Option UInt64 :=
  if start ≤ end_ then some (end_ - start) else none

variable {σ α : Type}

/-- `?` on an `anyhow::Result` computed without the backend. -/
def liftExcept (r : Except Error α) : S3M σ α :=
  match r with
  | .ok a => pure a
  | .error e => throw e

/-- `transmitter.transmit_static(result_subject, async { .. }.await)`. -/
def transmit (v : α → Value) (body : S3M σ α) : S3M σ Transmission :=
  ExceptT.lift do
    let r ← body.run
    pure (.result (r.map v))

@[simp] theorem exec_liftExcept (r : Except Error α) (w : World σ) :
    exec (liftExcept r : S3M σ α) w = (r, w) := by
  cases r <;> rfl

@[simp] theorem liftExcept_ok_bind {β : Type} (a : α) (f : α → S3M σ β) :
    liftExcept (.ok a) >>= f = f a := pure_bind a f

@[simp] theorem exec_transmit (v : α → Value) (body : S3M σ α) (w : World σ) :
    exec (transmit v body) w = (.ok (.result ((exec body w).1.map v)), (exec body w).2) := rfl

theorem exec_liftExcept_eq_ok {r : Except Error α} {w w' : World σ} {a : α} :
    exec (liftExcept r : S3M σ α) w = (.ok a, w') ↔ r = .ok a ∧ w' = w := by
  cases r <;> simp [eq_comm]

theorem exec_liftExcept_bind_eq_ok {β : Type} {r : Except Error α} {f : α → S3M σ β}
    {w w' : World σ} {b : β} :
    exec (liftExcept r >>= f) w = (.ok b, w') ↔ ∃ a, r = .ok a ∧ exec (f a) w = (.ok b, w') := by
  cases r <;> simp

theorem exec_transmit_eq_ok {v : α → Value} {body : S3M σ α} {w w' : World σ} {val : Value} :
    exec (transmit v body) w = (.ok (.result (.ok val)), w') ↔
      ∃ a, exec body w = (.ok a, w') ∧ v a = val := by
  rw [exec_transmit]
  rcases exec body w with ⟨_ | a, w''⟩ <;> simp [Except.map, and_assoc, and_comm (a := v _ = val)]

theorem SendsOnly.liftExcept {B : Backend σ} {P : Call → Prop} (r : Except Error α) :
    SendsOnly B P (BlobstoreS3.liftExcept r : S3M σ α) := by
  cases r
  · exact .throw _
  · exact .pure _

theorem SendsOnly.liftExcept_bind {β : Type} {B : Backend σ} {P : Call → Prop}
    {r : Except Error α} {f : α → S3M σ β} (hf : ∀ a, r = .ok a → SendsOnly B P (f a)) :
    SendsOnly B P (BlobstoreS3.liftExcept r >>= f) := by
  cases r with
  | error e => exact fun w => ⟨[], by simp, by simp⟩
  | ok a => simpa using hf a rfl

theorem SendsOnly.transmit {B : Backend σ} {P : Call → Prop} (v : α → Value) {body : S3M σ α}
    (h : SendsOnly B P body) : SendsOnly B P (BlobstoreS3.transmit v body) := by
  intro w
  obtain ⟨new, hnew, hP⟩ := h w
  exact ⟨new, hnew, hP⟩

namespace Provider

variable (B : Backend σ) (self : Provider)

/-- `serve_clear_container`: list every object of the container, then delete them. -/
def serveClearContainer (inv : AcceptedInvocation String) : S3M σ Transmission :=
  transmit (fun () => .unit) do
    let client ← liftExcept (self.client inv.context)
    let bucket := client.unalias inv.params
    let objects ← (client.listContainerObjects B bucket none none).context
      "failed to list container objects"
    client.deleteObjects B bucket objects

/-- `serve_container_exists`. -/
def serveContainerExists (inv : AcceptedInvocation String) : S3M σ Transmission :=
  transmit .bool do
    let client ← liftExcept (self.client inv.context)
    client.containerExists B (client.unalias inv.params)

/-- `serve_create_container`. -/
def serveCreateContainer (inv : AcceptedInvocation String) : S3M σ Transmission :=
  transmit (fun () => .unit) do
    let client ← liftExcept (self.client inv.context)
    client.createContainer B (client.unalias inv.params)

/-- `serve_delete_container`. -/
def serveDeleteContainer (inv : AcceptedInvocation String) : S3M σ Transmission :=
  transmit (fun () => .unit) do
    let client ← liftExcept (self.client inv.context)
    client.deleteContainer B (client.unalias inv.params)

/-- `serve_get_container_info`. -/
def serveGetContainerInfo (inv : AcceptedInvocation String) : S3M σ Transmission :=
  transmit .containerMetadata do
    let client ← liftExcept (self.client inv.context)
    client.getContainerInfo B (client.unalias inv.params)

/-- `serve_list_container_objects`. -/
def serveListContainerObjects
    (inv : AcceptedInvocation (String × Option UInt64 × Option UInt64)) :
    S3M σ Transmission :=
  transmit (fun names => .names (some names)) do
    let client ← liftExcept (self.client inv.context)
    client.listContainerObjects B (client.unalias inv.params.1) inv.params.2.1 inv.params.2.2

/-- `serve_copy_object`. -/
def serveCopyObject (inv : AcceptedInvocation (ObjectId × ObjectId)) : S3M σ Transmission :=
  transmit (fun () => .unit) do
    let client ← liftExcept (self.client inv.context)
    let srcBucket := client.unalias inv.params.1.container
    let destBucket := client.unalias inv.params.2.container
    client.copyObject B srcBucket inv.params.1.object destBucket inv.params.2.object

/-- `serve_delete_object`. -/
def serveDeleteObject (inv : AcceptedInvocation ObjectId) : S3M σ Transmission :=
  transmit (fun () => .unit) do
    let client ← liftExcept (self.client inv.context)
    client.deleteObject B (client.unalias inv.params.container) inv.params.object

/-- `serve_delete_objects`. -/
def serveDeleteObjects (inv : AcceptedInvocation (String × List String)) :
    S3M σ Transmission :=
  transmit (fun () => .unit) do
    let client ← liftExcept (self.client inv.context)
    client.deleteObjects B (client.unalias inv.params.1) inv.params.2

/-- `serve_get_container_data`: the range is checked before the lookup, and the object's body,
fetched with the header `bytes={start}-{end}`, is cut to `end - start` bytes. -/
def serveGetContainerData (inv : AcceptedInvocation (ObjectId × UInt64 × UInt64)) :
    S3M σ Transmission :=
  let (id, start, end_) := inv.params
  transmit .stream do
    let limit ← liftExcept ((checkedSub end_ start).elim
      (.error (Error.msg "`end` must be greater than `start`")) .ok)
    let client ← liftExcept (self.client inv.context)
    let bucket := client.unalias id.container
    let out ← orContext (← send B client.s3Client
      (.getObject bucket id.object ⟨start.toNat, end_.toNat⟩)) "failed to get object"
    pure (readerStream (out.body.take limit.toNat))

/-- `serve_get_object_info`. -/
def serveGetObjectInfo (inv : AcceptedInvocation ObjectId) : S3M σ Transmission :=
  transmit .objectMetadata do
    let client ← liftExcept (self.client inv.context)
    client.getObjectInfo B (client.unalias inv.params.container) inv.params.object

/-- `serve_has_object`. -/
def serveHasObject (inv : AcceptedInvocation ObjectId) : S3M σ Transmission :=
  transmit .bool do
    let client ← liftExcept (self.client inv.context)
    client.hasObject B (client.unalias inv.params.container) inv.params.object

/-- `serve_move_object`: a copy, then a delete of the source. -/
def serveMoveObject (inv : AcceptedInvocation (ObjectId × ObjectId)) : S3M σ Transmission :=
  let (src, dest) := inv.params
  transmit (fun () => .unit) do
    let client ← liftExcept (self.client inv.context)
    let srcBucket := client.unalias src.container
    let destBucket := client.unalias dest.container
    (client.copyObject B srcBucket src.object destBucket dest.object).context
      "failed to copy object"
    (client.deleteObject B srcBucket src.object).context "failed to delete source object"

/-- `serve_write_container_data`: the inbound stream is collected first; a stream error is sent
on the error subject, and the data is written with one `PutObject`. -/
def serveWriteContainerData (inv : AcceptedInvocation (ObjectId × List (Except Error Bytes))) :
    S3M σ Transmission :=
  let (id, data) := inv.params
  match tryCollect data with
  | .error err => pure (.error err.toString)
  | .ok data =>
      transmit (fun () => .unit) do
        let client ← liftExcept (self.client inv.context)
        let _ ← orContext (← send B client.s3Client
          (.putObject (client.unalias id.container) id.object data)) "failed to put object"
        pure ()

/-- The handler `serve` spawns for an invocation of each function. -/
def serve : (op : Operation) → AcceptedInvocation op.Params → S3M σ Transmission
  | .clearContainer => self.serveClearContainer B
  | .containerExists => self.serveContainerExists B
  | .createContainer => self.serveCreateContainer B
  | .deleteContainer => self.serveDeleteContainer B
  | .getContainerInfo => self.serveGetContainerInfo B
  | .listContainerObjects => self.serveListContainerObjects B
  | .copyObject => self.serveCopyObject B
  | .deleteObject => self.serveDeleteObject B
  | .deleteObjects => self.serveDeleteObjects B
  | .getContainerData => self.serveGetContainerData B
  | .getObjectInfo => self.serveGetObjectInfo B
  | .hasObject => self.serveHasObject B
  | .moveObject => self.serveMoveObject B
  | .writeContainerData => self.serveWriteContainerData B

theorem serveClearContainer_eq_ok {context : Option Context} {container : String}
    {w w' : World σ} {v : Value} :
    exec (self.serveClearContainer B ⟨context, container⟩) w = (.ok (.result (.ok v)), w') ↔
      ∃ client, self.client context = .ok client ∧ ∃ names w₁,
        exec (client.listContainerObjects B (client.unalias container) none none) w =
          (.ok names, w₁) ∧
        exec (client.deleteObjects B (client.unalias container) names) w₁ = (.ok (), w') ∧
        v = .unit := by
  simp only [serveClearContainer, exec_transmit_eq_ok, exec_bind_eq_ok, exec_liftExcept_eq_ok,
    exec_context_eq_ok]
  constructor
  · rintro ⟨_, ⟨client, _, ⟨hclient, rfl⟩, names, w₁, hlist, hdelete⟩, rfl⟩
    exact ⟨client, hclient, names, w₁, hlist, hdelete, rfl⟩
  · rintro ⟨client, hclient, names, w₁, hlist, hdelete, rfl⟩
    exact ⟨(), ⟨client, _, ⟨hclient, rfl⟩, names, w₁, hlist, hdelete⟩, rfl⟩

theorem serveWriteContainerData_eq_ok {context : Option Context} {id : ObjectId}
    {data : List (Except Error Bytes)} {w w' : World σ} {v : Value} :
    exec (self.serveWriteContainerData B ⟨context, (id, data)⟩) w = (.ok (.result (.ok v)), w') ↔
      ∃ bytes, tryCollect data = .ok bytes ∧ ∃ client, self.client context = .ok client ∧
        (∃ o, B.respond client.s3Client (.putObject (client.unalias id.container) id.object bytes)
          w.store = (.ok o, w'.store) ∧
        w'.calls = w.calls ++
          [⟨client.s3Client, .putObject (client.unalias id.container) id.object bytes⟩]) ∧
        v = .unit := by
  simp only [serveWriteContainerData]
  cases tryCollect data with
  | error e => simp
  | ok bytes =>
      simp only [exec_transmit_eq_ok, exec_liftExcept_bind_eq_ok, exec_sendContext_eq_ok]
      constructor
      · rintro ⟨_, ⟨client, hclient, hput⟩, rfl⟩
        exact ⟨bytes, rfl, client, hclient, hput, rfl⟩
      · rintro ⟨_, ⟨⟩, client, hclient, hput, rfl⟩
        exact ⟨(), ⟨client, hclient, hput⟩, rfl⟩

theorem serveMoveObject_eq_ok {context : Option Context} {src dest : ObjectId} {w w' : World σ}
    {v : Value} :
    exec (self.serveMoveObject B ⟨context, (src, dest)⟩) w = (.ok (.result (.ok v)), w') ↔
      ∃ client, self.client context = .ok client ∧ ∃ w₁,
        exec (client.copyObject B (client.unalias src.container) src.object
          (client.unalias dest.container) dest.object) w = (.ok (), w₁) ∧
        exec (client.deleteObject B (client.unalias src.container) src.object) w₁ = (.ok (), w') ∧
        v = .unit := by
  simp only [serveMoveObject, exec_transmit_eq_ok, exec_bind_eq_ok, exec_liftExcept_eq_ok,
    exec_context_eq_ok]
  constructor
  · rintro ⟨_, ⟨client, _, ⟨hclient, rfl⟩, _, w₁, hcopy, hdelete⟩, rfl⟩
    exact ⟨client, hclient, w₁, hcopy, hdelete, rfl⟩
  · rintro ⟨client, hclient, w₁, hcopy, hdelete, rfl⟩
    exact ⟨(), ⟨client, _, ⟨hclient, rfl⟩, (), w₁, hcopy, hdelete⟩, rfl⟩

end Provider

end BlobstoreS3
