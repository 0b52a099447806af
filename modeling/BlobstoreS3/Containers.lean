import BlobstoreS3.ObjectData

namespace BlobstoreS3

namespace StorageClient
variable (pageSize : Nat) (self : StorageClient) (w : World Store)

theorem containerExists_objectStore (bucket : String) (hown : bucket ∉ w.store.foreign) :
    exec (self.containerExists (objectStore pageSize) bucket) w =
      (.ok (w.store.buckets.get bucket).isSome,
        ⟨w.store, w.calls ++ [⟨self.s3Client, .headBucket bucket⟩]⟩) := by
  cases h : w.store.buckets.get bucket <;> simp [containerExists, Store.respond, h, hown]

theorem createContainer_objectStore (bucket : String) (hvalid : validBucketName bucket = true)
    (hown : bucket ∉ w.store.foreign) :
    exec (self.createContainer (objectStore pageSize) bucket) w =
      (.ok (), ⟨if (w.store.buckets.get bucket).isSome then w.store
          else w.store.setBucket bucket .empty,
        w.calls ++ [⟨self.s3Client, .createBucket bucket⟩]⟩) := by
  cases h : w.store.buckets.get bucket <;>
    simp [createContainer, Store.respond, h, hvalid, hown]

theorem createContainer_objectStore_refused {bucket : String}
    (h : validBucketName bucket = false ∨
      (w.store.buckets.get bucket = none ∧ bucket ∈ w.store.foreign)) :
    ∃ e : Error, exec (self.createContainer (objectStore pageSize) bucket) w =
      (.error (e.context "failed to create bucket"),
        ⟨w.store, w.calls ++ [⟨self.s3Client, .createBucket bucket⟩]⟩) := by
  rcases h with hvalid | ⟨habsent, hforeign⟩
  · exact ⟨.msg (SdkError.serviceError (.other "InvalidBucketName")).describe,
      by simp [createContainer, Store.respond, hvalid]⟩
  · cases hvalid : validBucketName bucket
    · exact ⟨.msg (SdkError.serviceError (.other "InvalidBucketName")).describe,
        by simp [createContainer, Store.respond, hvalid]⟩
    · exact ⟨.msg (SdkError.serviceError (.other "BucketAlreadyExists")).describe,
        by simp [createContainer, Store.respond, hvalid, habsent, hforeign]⟩

theorem hasObject_objectStore (bucket key : String) :
    exec (self.hasObject (objectStore pageSize) bucket key) w =
      (.ok (w.store.find? bucket key).isSome,
        ⟨w.store, w.calls ++ [⟨self.s3Client, .headObject bucket key⟩]⟩) := by
  cases h : w.store.find? bucket key <;> simp [hasObject, Store.respond, h]

theorem deleteObject_objectStore {bucket : String} (key : String) {b : Bucket}
    (hb : w.store.buckets.get bucket = some b) (hunlocked : (b.find? key).any (·.locked) = false) :
    exec (self.deleteObject (objectStore pageSize) bucket key) w =
      (.ok (), ⟨w.store.setBucket bucket (b.erase key),
        w.calls ++ [⟨self.s3Client, .deleteObject bucket key⟩]⟩) := by
  simp [deleteObject, Store.respond, hb, hunlocked, Except.map]

end StorageClient

theorem serveCreateContainer_idempotent (pageSize : Nat) (p : Provider)
    (context : Option Context) (name : String) (client : StorageClient) (w : World Store)
    (hclient : p.client context = .ok client)
    (hvalid : validBucketName (client.unalias name) = true)
    (hown : client.unalias name ∉ w.store.foreign) :
    (exec (p.serveCreateContainer (objectStore pageSize) ⟨context, name⟩) w).1 =
      .ok (.result (.ok .unit)) ∧
    ((exec (p.serveCreateContainer (objectStore pageSize) ⟨context, name⟩) w).2.store.buckets.get
      (client.unalias name)).isSome ∧
    (exec (p.serveCreateContainer (objectStore pageSize) ⟨context, name⟩)
      (exec (p.serveCreateContainer (objectStore pageSize) ⟨context, name⟩) w).2).1 =
      .ok (.result (.ok .unit)) ∧
    (exec (p.serveCreateContainer (objectStore pageSize) ⟨context, name⟩)
      (exec (p.serveCreateContainer (objectStore pageSize) ⟨context, name⟩) w).2).2.store =
      (exec (p.serveCreateContainer (objectStore pageSize) ⟨context, name⟩) w).2.store := by
  have hcreate := client.createContainer_objectStore pageSize w _ hvalid hown
  cases h : w.store.buckets.get (client.unalias name) <;>
    simp_all [Provider.serveCreateContainer, StorageClient.createContainer_objectStore,
      Except.map, Store.setBucket]

theorem serveCreateContainer_refused (pageSize : Nat) (p : Provider)
    (context : Option Context) (name : String) (client : StorageClient) (w : World Store)
    (hclient : p.client context = .ok client)
    (h : validBucketName (client.unalias name) = false ∨
      (w.store.buckets.get (client.unalias name) = none ∧ client.unalias name ∈ w.store.foreign)) :
    ∃ e : Error, (exec (p.serveCreateContainer (objectStore pageSize) ⟨context, name⟩) w).1 =
        .ok (.result (.error e)) ∧
      (exec (p.serveCreateContainer (objectStore pageSize) ⟨context, name⟩) w).2.store = w.store := by
  obtain ⟨e, he⟩ := client.createContainer_objectStore_refused pageSize w h
  exact ⟨e.context "failed to create bucket",
    by simp [Provider.serveCreateContainer, hclient, he, Except.map]⟩

theorem serveCreateContainer_deleteContainer (pageSize : Nat) (p : Provider)
    (context : Option Context) (name : String) (client : StorageClient) (w : World Store)
    (hclient : p.client context = .ok client)
    (hvalid : validBucketName (client.unalias name) = true)
    (hown : client.unalias name ∉ w.store.foreign)
    (habsent : w.store.buckets.get (client.unalias name) = none) :
    (exec (p.serveDeleteContainer (objectStore pageSize) ⟨context, name⟩)
      (exec (p.serveCreateContainer (objectStore pageSize) ⟨context, name⟩) w).2).1 =
      .ok (.result (.ok .unit)) ∧
    (exec (p.serveDeleteContainer (objectStore pageSize) ⟨context, name⟩)
      (exec (p.serveCreateContainer (objectStore pageSize) ⟨context, name⟩) w).2).2.store =
      w.store := by
  have hcreate : (exec (p.serveCreateContainer (objectStore pageSize) ⟨context, name⟩) w).2.store =
      w.store.setBucket (client.unalias name) .empty := by
    simp [Provider.serveCreateContainer, hclient,
      StorageClient.createContainer_objectStore _ _ _ _ hvalid hown, habsent]
  simp only [Provider.serveDeleteContainer, hclient, StorageClient.deleteContainer, exec_transmit,
    liftExcept_ok_bind, exec_bind, exec_send, objectStore_respond, hcreate, Store.respond,
    Store.setBucket_get, Bucket.empty]
  refine ⟨rfl, Store.ext_get rfl fun b => ?_⟩
  change ((w.store.setBucket (client.unalias name) .empty).buckets.remove
    (client.unalias name)).get b = w.store.buckets.get b
  rw [Table.get_remove]
  by_cases hb : b = client.unalias name
  · simp only [hb, habsent, if_true]
  · simp only [Store.setBucket_get, if_neg hb]

theorem serveContainerExists_objectStore (pageSize : Nat) (p : Provider)
    (context : Option Context) (name : String) (client : StorageClient) (w : World Store)
    (hclient : p.client context = .ok client) (hown : client.unalias name ∉ w.store.foreign) :
    exec (p.serveContainerExists (objectStore pageSize) ⟨context, name⟩) w =
      (.ok (.result (.ok (.bool (w.store.buckets.get (client.unalias name)).isSome))),
        ⟨w.store, w.calls ++ [⟨client.s3Client, .headBucket (client.unalias name)⟩]⟩) := by
  simp [Provider.serveContainerExists, hclient,
    StorageClient.containerExists_objectStore _ _ _ _ hown, Except.map]

theorem serveGetContainerInfo_containerExists (pageSize : Nat) (p : Provider)
    (context : Option Context) (name : String) (client : StorageClient) (w : World Store)
    (hclient : p.client context = .ok client) :
    ((exec (p.serveGetContainerInfo (objectStore pageSize) ⟨context, name⟩) w).1 =
        .ok (.result (.ok (.containerMetadata ⟨0⟩))) ↔
      (exec (p.serveContainerExists (objectStore pageSize) ⟨context, name⟩) w).1 =
        .ok (.result (.ok (.bool true)))) ∧
    ((exec (p.serveContainerExists (objectStore pageSize) ⟨context, name⟩) w).1 =
        .ok (.result (.ok (.bool false))) →
      (exec (p.serveGetContainerInfo (objectStore pageSize) ⟨context, name⟩) w).1 =
        .ok (.result (.error (Error.msg ("bucket [" ++ client.unalias name ++ "] not found"))))) ∧
    (exec (p.serveGetContainerInfo (objectStore pageSize) ⟨context, name⟩) w).2.store = w.store := by
  cases h : w.store.buckets.get (client.unalias name) <;>
    by_cases hown : client.unalias name ∈ w.store.foreign <;>
    simp [Provider.serveGetContainerInfo, Provider.serveContainerExists, hclient,
      StorageClient.getContainerInfo, StorageClient.containerExists, Store.respond, h, hown,
      Except.map]
  all_goals rfl

theorem serveHasObject_getObjectInfo (pageSize : Nat) (p : Provider)
    (context : Option Context) (id : ObjectId) (client : StorageClient) (w : World Store)
    (hclient : p.client context = .ok client) :
    (exec (p.serveHasObject (objectStore pageSize) ⟨context, id⟩) w).1 =
      .ok (.result (.ok (.bool (w.store.find? (client.unalias id.container) id.object).isSome))) ∧
    (exec (p.serveGetObjectInfo (objectStore pageSize) ⟨context, id⟩) w).1 =
      match w.store.find? (client.unalias id.container) id.object with
      | some o => .ok (.result (.ok (.objectMetadata ⟨0, o.data.length.toUInt64⟩)))
      | none => .ok (.result (.error (Error.msg
          ("object [" ++ client.unalias id.container ++ "/" ++ id.object ++ "] not found")))) := by
  constructor
  · simp [Provider.serveHasObject, hclient, StorageClient.hasObject_objectStore, Except.map]
  · cases h : w.store.find? (client.unalias id.container) id.object with
    | none =>
        simp [Provider.serveGetObjectInfo, hclient, StorageClient.getObjectInfo, Store.respond, h,
          Except.map]
        rfl
    | some o =>
        simp [Provider.serveGetObjectInfo, hclient, StorageClient.getObjectInfo, Store.respond, h,
          Except.map]

theorem serveDeleteObject_idempotent (pageSize : Nat) (p : Provider) (context : Option Context)
    (id : ObjectId) (client : StorageClient) (w : World Store) (b : Bucket)
    (hclient : p.client context = .ok client)
    (hb : w.store.buckets.get (client.unalias id.container) = some b)
    (hunlocked : (b.find? id.object).any (·.locked) = false) :
    (exec (p.serveDeleteObject (objectStore pageSize) ⟨context, id⟩) w).1 =
      .ok (.result (.ok .unit)) ∧
    (exec (p.serveHasObject (objectStore pageSize) ⟨context, id⟩)
      (exec (p.serveDeleteObject (objectStore pageSize) ⟨context, id⟩) w).2).1 =
      .ok (.result (.ok (.bool false))) ∧
    (exec (p.serveDeleteObject (objectStore pageSize) ⟨context, id⟩)
      (exec (p.serveDeleteObject (objectStore pageSize) ⟨context, id⟩) w).2).1 =
      .ok (.result (.ok .unit)) ∧
    (exec (p.serveDeleteObject (objectStore pageSize) ⟨context, id⟩)
      (exec (p.serveDeleteObject (objectStore pageSize) ⟨context, id⟩) w).2).2.store =
      (exec (p.serveDeleteObject (objectStore pageSize) ⟨context, id⟩) w).2.store := by
  have hdel := client.deleteObject_objectStore pageSize w id.object hb hunlocked
  -- after the first delete the bucket holds no object under the key
  have hb₁ : (w.store.setBucket (client.unalias id.container) (b.erase id.object)).buckets.get
      (client.unalias id.container) = some (b.erase id.object) := by simp
  have hgone : ((b.erase id.object).find? id.object).any (·.locked) = false := by simp
  have hdel₂ := client.deleteObject_objectStore pageSize
    ⟨w.store.setBucket (client.unalias id.container) (b.erase id.object), w.calls ++
      [⟨client.s3Client, .deleteObject (client.unalias id.container) id.object⟩]⟩ id.object hb₁ hgone
  simp [Provider.serveDeleteObject, Provider.serveHasObject, hclient, hdel, hdel₂,
    StorageClient.hasObject_objectStore, Store.find?, Except.map]

end BlobstoreS3
