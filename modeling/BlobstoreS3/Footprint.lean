import BlobstoreS3.Handlers

namespace BlobstoreS3

/-- The bucket a request is addressed to; a copy is addressed to its destination. -/
def Request.bucket : Request → String
  | .headBucket b | .createBucket b | .deleteBucket b | .listObjectsV2 b _ | .copyObject _ b _
  | .deleteObject b _ | .deleteObjects b _ | .headObject b _ | .getObject b _ _
  | .putObject b _ _ => b

/-- Whether a request only reads. -/
def Request.isRead : Request → Bool
  | .headBucket _ | .listObjectsV2 _ _ | .headObject _ _ | .getObject _ _ _ => true
  | _ => false

/-- Whether a request creates or removes a bucket. -/
def Request.changesBuckets : Request → Bool
  | .createBucket _ | .deleteBucket _ => true
  | _ => false

/-- The containers an invocation names, before alias resolution. -/
def Operation.containers : (op : Operation) → op.Params → List String
  | .clearContainer, container => [container]
  | .containerExists, container => [container]
  | .createContainer, container => [container]
  | .deleteContainer, container => [container]
  | .getContainerInfo, container => [container]
  | .listContainerObjects, params => [params.1]
  | .copyObject, params => [params.1.container, params.2.container]
  | .deleteObject, id => [id.container]
  | .deleteObjects, params => [params.1]
  | .getContainerData, params => [params.1.container]
  | .getObjectInfo, id => [id.container]
  | .hasObject, id => [id.container]
  | .moveObject, params => [params.1.container, params.2.container]
  | .writeContainerData, params => [params.1.container]

/-- The functions that only query. -/
def Operation.readOnly : Operation → Bool
  | .containerExists | .getContainerInfo | .listContainerObjects | .getContainerData
  | .getObjectInfo | .hasObject => true
  | _ => false

/-- The functions that create or remove containers. -/
def Operation.managesContainers : Operation → Bool
  | .createContainer | .deleteContainer => true
  | _ => false

/-- The kind of request an invocation of `op` may send, whatever its parameters. -/
structure Operation.Permits (op : Operation) (r : Request) : Prop where
  read : op.readOnly = true → r.isRead = true
  buckets : r.changesBuckets = true → op.managesContainers = true

/-- What a request of an invocation of `op` with `params`, resolved to `client`, may be. -/
structure Operation.Allows (op : Operation) (client : StorageClient) (params : op.Params)
    (call : Call) extends Operation.Permits op call.request : Prop where
  through : call.client = client.s3Client
  named : call.request.bucket ∈ (op.containers params).map client.unalias

namespace Provider

variable {σ : Type} (B : Backend σ)

theorem serve_sendsOnly (self : Provider) (op : Operation) (inv : AcceptedInvocation op.Params) :
    SendsOnly B (fun call => ∃ client, self.client inv.context = .ok client ∧
      op.Allows client inv.params call) (self.serve B op inv) := by
  obtain ⟨context, params⟩ := inv
  cases op
  case' clearContainer =>
    refine .transmit _ (.liftExcept_bind fun client hc =>
      .bind (.context ((client.listContainerObjects_sendsOnly B _ _ _).mono
        fun call h => ⟨client, hc, ?_⟩) _) fun _ =>
      (client.deleteObjects_sendsOnly B _ _).mono fun call h => ⟨client, hc, ?_⟩)
  case' containerExists =>
    refine .transmit _ (.liftExcept_bind fun client hc =>
      (client.containerExists_sendsOnly B _).mono fun call h => ⟨client, hc, ?_⟩)
  case' createContainer =>
    refine .transmit _ (.liftExcept_bind fun client hc =>
      (client.createContainer_sendsOnly B _).mono fun call h => ⟨client, hc, ?_⟩)
  case' deleteContainer =>
    refine .transmit _ (.liftExcept_bind fun client hc =>
      (client.deleteContainer_sendsOnly B _).mono fun call h => ⟨client, hc, ?_⟩)
  case' getContainerInfo =>
    refine .transmit _ (.liftExcept_bind fun client hc =>
      (client.getContainerInfo_sendsOnly B _).mono fun call h => ⟨client, hc, ?_⟩)
  case' listContainerObjects =>
    refine .transmit _ (.liftExcept_bind fun client hc =>
      (client.listContainerObjects_sendsOnly B _ _ _).mono fun call h => ⟨client, hc, ?_⟩)
  case' copyObject =>
    refine .transmit _ (.liftExcept_bind fun client hc =>
      (client.copyObject_sendsOnly B _ _ _ _).mono fun call h => ⟨client, hc, ?_⟩)
  case' deleteObject =>
    refine .transmit _ (.liftExcept_bind fun client hc =>
      (client.deleteObject_sendsOnly B _ _).mono fun call h => ⟨client, hc, ?_⟩)
  case' deleteObjects =>
    refine .transmit _ (.liftExcept_bind fun client hc =>
      (client.deleteObjects_sendsOnly B _ _).mono fun call h => ⟨client, hc, ?_⟩)
  case' getContainerData =>
    refine .transmit _ (.liftExcept_bind fun _ _ => .liftExcept_bind fun client hc =>
      .bind (.send ⟨client, hc, ?_⟩) fun _ => .bind (.orContext _ _) fun _ => .pure _)
  case' getObjectInfo =>
    refine .transmit _ (.liftExcept_bind fun client hc =>
      (client.getObjectInfo_sendsOnly B _ _).mono fun call h => ⟨client, hc, ?_⟩)
  case' hasObject =>
    refine .transmit _ (.liftExcept_bind fun client hc =>
      (client.hasObject_sendsOnly B _ _).mono fun call h => ⟨client, hc, ?_⟩)
  case' moveObject =>
    refine .transmit _ (.liftExcept_bind fun client hc =>
      .bind (.context ((client.copyObject_sendsOnly B _ _ _ _).mono
        fun call h => ⟨client, hc, ?_⟩) _) fun _ =>
      .context ((client.deleteObject_sendsOnly B _ _).mono fun call h => ⟨client, hc, ?_⟩) _)
  case' writeContainerData =>
    obtain ⟨id, data⟩ := params
    simp only [serve, serveWriteContainerData]
    split
    exact .pure _
    refine .transmit _ (.liftExcept_bind fun client hc =>
      .bind (.send ⟨client, hc, ?_⟩) fun _ => .bind (.orContext _ _) fun _ => .pure _)
  all_goals
    try subst_vars
    exact ⟨⟨by simp [Operation.readOnly, Request.isRead], by simp [Request.changesBuckets,
      Operation.managesContainers]⟩, rfl, by simp [Operation.containers, Request.bucket]⟩

end Provider

end BlobstoreS3
