import BlobstoreS3.S3

namespace BlobstoreS3

/-- `wrpc_interface_blobstore::ContainerMetadata`. -/
structure ContainerMetadata where
  createdAt : UInt64
  deriving DecidableEq, Repr

/-- `wrpc_interface_blobstore::ObjectMetadata`. -/
structure ObjectMetadata where
  createdAt : UInt64
  size : UInt64
  deriving DecidableEq, Repr

/-- `limit.try_into().unwrap_or(i32::MAX)`: a `u64` limit as the `i32` `max_keys`. -/
def maxKeysOf (limit : UInt64) : Nat := min limit.toNat 2147483647

/-- `u64::MAX`, the bound `take` gets when no limit is given (`usize` is 64 bits wide). -/
def u64Max : UInt64 := 18446744073709551615

/-- `x-amz-copy-source` as `copy_object` writes it: `format!("{src_bucket}/{src_key}")`. -/
def copySource (srcBucket srcKey : String) : String := srcBucket ++ "/" ++ srcKey

/-- `content_length.and_then(|v| v.try_into().ok()).unwrap_or_default()`. -/
def sizeOf (contentLength : Option Int) : UInt64 :=
  match contentLength with
  | some n => if 0 ≤ n then n.toNat.toUInt64 else 0
  | none => 0

@[simp] theorem sizeOf_natCast (n : Nat) : sizeOf (some (n : Int)) = n.toUInt64 := by
  simp only [sizeOf, if_pos (Int.ofNat_zero_le n), Int.toNat_ofNat]

namespace StorageClient

variable {σ : Type} (B : Backend σ)

/-- `StorageClient::container_exists`. -/
def containerExists (self : StorageClient) (bucket : String) : S3M σ Bool := do
  match ← send B self.s3Client (.headBucket bucket) with
  | .ok _ => pure true
  | .error (.serviceError .notFound) => pure false
  | .error err => throw ((Error.msg err.describe).context "failed to `head` bucket")

/-- `StorageClient::create_container`: a bucket the caller already owns counts as created. -/
def createContainer (self : StorageClient) (bucket : String) : S3M σ Unit := do
  match ← send B self.s3Client (.createBucket bucket) with
  | .ok _ => pure ()
  | .error (.serviceError .bucketAlreadyOwnedByYou) => pure ()
  | .error err => throw ((Error.msg err.describe).context "failed to create bucket")

/-- `StorageClient::get_container_info`. -/
def getContainerInfo (self : StorageClient) (bucket : String) : S3M σ ContainerMetadata := do
  match ← send B self.s3Client (.headBucket bucket) with
  | .ok _ => pure { createdAt := 0 }
  | .error (.serviceError .notFound) => throw (Error.msg s!"bucket [{bucket}] not found")
  | .error e => throw (Error.msg ("unexpected error: " ++ e.describe))

/-- `StorageClient::list_container_objects`: one `ListObjectsV2` request with `max_keys` set to
the limit, whose keys are then skipped by the offset and cut to the limit. -/
def listContainerObjects (self : StorageClient) (bucket : String)
    (limit offset : Option UInt64) : S3M σ (List String) := do
  match ← send B self.s3Client (.listObjectsV2 bucket (limit.map maxKeysOf)) with
  | .ok out =>
      pure ((((out.contents.getD []).filterMap S3Object.key).drop (offset.getD 0).toNat).take
        (limit.getD u64Max).toNat)
  | .error (.serviceError err) =>
      throw ((Error.msg (SdkError.serviceError err).describe).context "service error")
  | .error err => throw ((Error.msg err.describe).context "unexpected error")

/-- `StorageClient::copy_object`. -/
def copyObject (self : StorageClient) (srcBucket srcKey destBucket destKey : String) :
    S3M σ Unit := do
  let _ ← orContext (← send B self.s3Client
    (.copyObject (copySource srcBucket srcKey) destBucket destKey)) "failed to copy object"
  pure ()

/-- `StorageClient::delete_object`. -/
def deleteObject (self : StorageClient) (container object : String) : S3M σ Unit := do
  let _ ← orContext (← send B self.s3Client (.deleteObject container object))
    "failed to delete object"
  pure ()

/-- `StorageClient::delete_objects`: no request for an empty list, otherwise one
`DeleteObjects` request with every key, failing if the service reports any key it could not
delete. -/
def deleteObjects (self : StorageClient) (container : String) (objects : List String) :
    S3M σ Unit :=
  if objects.isEmpty then
    pure ()
  else do
    let out ← orContext (← send B self.s3Client (.deleteObjects container objects))
      "failed to delete objects"
    if out.errors.isEmpty then pure ()
    else throw (Error.msg ("failed with errors " ++ reprStr out.errors))

/-- `StorageClient::delete_container`. -/
def deleteContainer (self : StorageClient) (bucket : String) : S3M σ Unit := do
  match ← send B self.s3Client (.deleteBucket bucket) with
  | .ok _ => pure ()
  | .error (.serviceError err) => throw (Error.msg (SdkError.serviceError err).describe)
  | .error err => throw (Error.msg err.describe)

/-- `StorageClient::has_object`. -/
def hasObject (self : StorageClient) (bucket key : String) : S3M σ Bool := do
  match ← send B self.s3Client (.headObject bucket key) with
  | .ok _ => pure true
  | .error (.serviceError .notFound) => pure false
  | .error err => throw ((Error.msg err.describe).context "unexpected error for object_exists")

/-- `StorageClient::get_object_info`. -/
def getObjectInfo (self : StorageClient) (bucket key : String) : S3M σ ObjectMetadata := do
  match ← send B self.s3Client (.headObject bucket key) with
  | .ok out => pure { createdAt := 0, size := sizeOf out.contentLength }
  | .error (.serviceError .notFound) => throw (Error.msg s!"object [{bucket}/{key}] not found")
  | .error err => throw ((Error.msg err.describe).context
      s!"get_object_metadata failed for object [{bucket}/{key}]")

theorem copyObject_eq_ok (self : StorageClient) (srcBucket srcKey destBucket destKey : String)
    {w w' : World σ} :
    exec (self.copyObject B srcBucket srcKey destBucket destKey) w = (.ok (), w') ↔
      ∃ o, B.respond self.s3Client (.copyObject (copySource srcBucket srcKey) destBucket destKey)
          w.store = (.ok o, w'.store) ∧
        w'.calls = w.calls ++
          [⟨self.s3Client, .copyObject (copySource srcBucket srcKey) destBucket destKey⟩] :=
  exec_sendContext_eq_ok

theorem deleteObject_eq_ok (self : StorageClient) (container object : String) {w w' : World σ} :
    exec (self.deleteObject B container object) w = (.ok (), w') ↔
      ∃ o, B.respond self.s3Client (.deleteObject container object) w.store = (.ok o, w'.store) ∧
        w'.calls = w.calls ++ [⟨self.s3Client, .deleteObject container object⟩] :=
  exec_sendContext_eq_ok

variable (self : StorageClient)

theorem containerExists_sendsOnly (bucket : String) :
    SendsOnly B (· = ⟨self.s3Client, .headBucket bucket⟩) (self.containerExists B bucket) :=
  .bind (.send rfl) fun _ => by split <;> first | exact .pure _ | exact .throw _

theorem createContainer_sendsOnly (bucket : String) :
    SendsOnly B (· = ⟨self.s3Client, .createBucket bucket⟩) (self.createContainer B bucket) :=
  .bind (.send rfl) fun _ => by split <;> first | exact .pure _ | exact .throw _

theorem getContainerInfo_sendsOnly (bucket : String) :
    SendsOnly B (· = ⟨self.s3Client, .headBucket bucket⟩) (self.getContainerInfo B bucket) :=
  .bind (.send rfl) fun _ => by split <;> first | exact .pure _ | exact .throw _

theorem listContainerObjects_sendsOnly (bucket : String) (limit offset : Option UInt64) :
    SendsOnly B (· = ⟨self.s3Client, .listObjectsV2 bucket (limit.map maxKeysOf)⟩)
      (self.listContainerObjects B bucket limit offset) :=
  .bind (.send rfl) fun _ => by split <;> first | exact .pure _ | exact .throw _

theorem copyObject_sendsOnly (srcBucket srcKey destBucket destKey : String) :
    SendsOnly B (· = ⟨self.s3Client, .copyObject (copySource srcBucket srcKey) destBucket destKey⟩)
      (self.copyObject B srcBucket srcKey destBucket destKey) :=
  .bind (.send rfl) fun _ => .bind (.orContext _ _) fun _ => .pure _

theorem deleteObject_sendsOnly (container object : String) :
    SendsOnly B (· = ⟨self.s3Client, .deleteObject container object⟩)
      (self.deleteObject B container object) :=
  .bind (.send rfl) fun _ => .bind (.orContext _ _) fun _ => .pure _

theorem deleteObjects_sendsOnly (container : String) (objects : List String) :
    SendsOnly B (· = ⟨self.s3Client, .deleteObjects container objects⟩)
      (self.deleteObjects B container objects) := by
  unfold deleteObjects
  split
  · exact .pure _
  · exact .bind (.send rfl) fun _ => .bind (.orContext _ _) fun _ => by
      split <;> first | exact .pure _ | exact .throw _

theorem deleteContainer_sendsOnly (bucket : String) :
    SendsOnly B (· = ⟨self.s3Client, .deleteBucket bucket⟩) (self.deleteContainer B bucket) :=
  .bind (.send rfl) fun _ => by split <;> first | exact .pure _ | exact .throw _

theorem hasObject_sendsOnly (bucket key : String) :
    SendsOnly B (· = ⟨self.s3Client, .headObject bucket key⟩) (self.hasObject B bucket key) :=
  .bind (.send rfl) fun _ => by split <;> first | exact .pure _ | exact .throw _

theorem getObjectInfo_sendsOnly (bucket key : String) :
    SendsOnly B (· = ⟨self.s3Client, .headObject bucket key⟩) (self.getObjectInfo B bucket key) :=
  .bind (.send rfl) fun _ => by split <;> first | exact .pure _ | exact .throw _

end StorageClient

end BlobstoreS3
