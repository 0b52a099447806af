import BlobstoreS3.ObjectStore
import Mathlib.Data.List.Infix

namespace BlobstoreS3

variable {σ : Type}

/-- The client of a link with no aliases. -/
def plainClient : StorageClient :=
  StorageClient.new ⟨⟨none, none, none⟩, none, Table.empty⟩ ⟨[], List.nodup_nil⟩

/-- A provider with one linked actor, `"actor"`, whose client is `plainClient`. -/
def plainProvider : Provider := ⟨Table.empty.insert "actor" plainClient⟩

/-- The context of an invocation by `"actor"`. -/
def actorContext : Option Context := some ⟨some "actor"⟩

/-- A world whose store holds the given buckets and where no request has been sent yet. -/
def worldOf (buckets : List (String × Bucket)) : World Store := ⟨⟨⟨buckets.lookup⟩, []⟩, []⟩

theorem tryCollect_map_ok (chunks : List Bytes) :
    tryCollect (chunks.map .ok) = .ok chunks.flatten := by
  induction chunks with
  | nil => rfl
  | cons chunk chunks ih => simp [tryCollect, ih, Except.map]

theorem take_inclusiveRange (d : Bytes) {start end_ : Nat} (hle : start ≤ end_) :
    ((d.drop start).take (end_ + 1 - start)).take (end_ - start) = (d.take end_).drop start := by
  rw [List.take_take, List.drop_take, min_eq_left (by omega)]

theorem serveGetContainerData_objectStore (pageSize : Nat) (p : Provider)
    (context : Option Context) (id : ObjectId) (start end_ : UInt64) (client : StorageClient)
    (w : World Store) (o : StoredObject) (hclient : p.client context = .ok client)
    (hobj : w.store.find? (client.unalias id.container) id.object = some o)
    (hle : start ≤ end_) (hlt : start.toNat < o.data.length) :
    (exec (p.serveGetContainerData (objectStore pageSize) ⟨context, (id, start, end_)⟩) w).1 =
      .ok (.result (.ok (.stream (readerStream ((o.data.take end_.toNat).drop start.toNat))))) := by
  have hle' : start.toNat ≤ end_.toNat := UInt64.le_def.trans BitVec.le_def |>.mp hle
  simp [Provider.serveGetContainerData, checkedSub, hle, hclient, Store.respond, hobj, byteRange,
    Nat.not_lt.mpr hle', Nat.not_le.mpr hlt, UInt64.toNat_sub_of_le _ _ hle, Except.map,
    take_inclusiveRange _ hle']

theorem serveGetContainerData_slice (pageSize : Nat) (p : Provider) (context : Option Context)
    (id : ObjectId) (start end_ : UInt64) (client : StorageClient) (w : World Store)
    (o : StoredObject) (hclient : p.client context = .ok client)
    (hobj : w.store.find? (client.unalias id.container) id.object = some o)
    (hle : start ≤ end_) (hlt : start.toNat < o.data.length) :
    ∃ chunks, (exec (p.serveGetContainerData (objectStore pageSize)
        ⟨context, (id, start, end_)⟩) w).1 = .ok (.result (.ok (.stream chunks))) ∧
      chunks.flatten = (o.data.take end_.toNat).drop start.toNat :=
  ⟨_, serveGetContainerData_objectStore pageSize p context id start end_ client w o hclient hobj
    hle hlt, flatten_readerStream _⟩

theorem serveGetContainerData_slice_sample :
    ∃ chunks, (exec (plainProvider.serveGetContainerData (objectStore s3PageSize)
        ⟨actorContext, (⟨"b", "k"⟩, 1, 3)⟩)
        (worldOf [("b", ⟨[("k", ⟨[1, 2, 3, 4, 5], false⟩)], by decide⟩)])).1 =
        .ok (.result (.ok (.stream chunks))) ∧ chunks.flatten = [2, 3] :=
  serveGetContainerData_slice s3PageSize plainProvider actorContext ⟨"b", "k"⟩ 1 3 plainClient _
    ⟨[1, 2, 3, 4, 5], false⟩ rfl (by decide) (by decide) (by decide)

theorem serveGetContainerData_rejects_range (B : Backend σ) (p : Provider)
    (context : Option Context) (id : ObjectId) (start end_ : UInt64) (w : World σ)
    (h : end_ < start) :
    exec (p.serveGetContainerData B ⟨context, (id, start, end_)⟩) w =
      (.ok (.result (.error (Error.msg "`end` must be greater than `start`"))), w) := by
  simp [Provider.serveGetContainerData, checkedSub, UInt64.not_le.mpr h, Except.map]

theorem serveGetContainerData_past_end (pageSize : Nat) (p : Provider) (context : Option Context)
    (id : ObjectId) (start end_ : UInt64) (client : StorageClient) (w : World Store)
    (o : StoredObject) (hclient : p.client context = .ok client)
    (hobj : w.store.find? (client.unalias id.container) id.object = some o)
    (hle : start ≤ end_) (hge : o.data.length ≤ start.toNat) :
    (exec (p.serveGetContainerData (objectStore pageSize) ⟨context, (id, start, end_)⟩) w).1 =
      .ok (.result (.error ((Error.msg (SdkError.serviceError (.other "InvalidRange")).describe).context
        "failed to get object"))) := by
  have hle' : start.toNat ≤ end_.toNat := UInt64.le_def.trans BitVec.le_def |>.mp hle
  simp [Provider.serveGetContainerData, checkedSub, hle, hclient, Store.respond, hobj, byteRange,
    Nat.not_lt.mpr hle', hge, Except.map]

theorem tryCollect_append_error (chunks : List Bytes) (e : Error) (rest : List (Except Error Bytes)) :
    tryCollect (chunks.map .ok ++ .error e :: rest) = .error e := by
  induction chunks with
  | nil => rfl
  | cons chunk chunks ih => simp [tryCollect, ih, Except.map]

theorem serveWriteContainerData_stream_error (B : Backend σ) (p : Provider)
    (context : Option Context) (id : ObjectId) (chunks : List Bytes) (e : Error)
    (rest : List (Except Error Bytes)) (w : World σ) :
    exec (p.serveWriteContainerData B ⟨context, (id, chunks.map .ok ++ .error e :: rest)⟩) w =
      (.ok (.error e.toString), w) := by
  simp [Provider.serveWriteContainerData, tryCollect_append_error]

theorem splitFirst_slash (bucket key : List Char) (h : '/' ∉ bucket) :
    splitFirst ['/'] (bucket ++ '/' :: key) = some (bucket, key) := by
  induction bucket with
  | nil => simp [splitFirst]
  | cons c bucket ih =>
      have hc : '/' ≠ c := fun hc => h (hc ▸ List.mem_cons_self _ _)
      simp [splitFirst, hc, ih (fun hm => h (List.mem_cons_of_mem _ hm))]

theorem splitFirst_eq_none (sep l : List Char) (h : ¬ sep <:+: l) : splitFirst sep l = none := by
  induction l with
  | nil =>
      have hs : sep ≠ [] := by
        rintro rfl
        exact h List.nil_infix
      simp [splitFirst, hs]
  | cons c l ih =>
      have hpre : sep.isPrefixOf (c :: l) = false :=
        Bool.eq_false_iff.mpr fun hp => h (List.isPrefixOf_iff_prefix.mp hp).isInfix
      simp [splitFirst, hpre, ih (fun hi => h (List.infix_cons hi))]

theorem percentDecode_of_not_mem (l : List Char) (h : '%' ∉ l) : percentDecode l = some l := by
  induction l with
  | nil => rfl
  | cons c l ih =>
      have hc : c ≠ '%' := fun hc => h (hc ▸ List.mem_cons_self _ _)
      rw [percentDecode.eq_4 c l (fun _ _ _ hc' _ => hc hc') hc,
        ih (fun hm => h (List.mem_cons_of_mem _ hm))]
      rfl

theorem decodeCopySource_copySource (bucket key : String) (hbucket : '/' ∉ bucket.data)
    (hpercent : '%' ∉ key.data) (hversion : ¬ "?versionId=".data <:+: key.data) :
    decodeCopySource (copySource bucket key) = some (bucket, key, none) := by
  have hdata : (copySource bucket key).data = bucket.data ++ '/' :: key.data := by
    simp [copySource, String.data_append]
  simp [decodeCopySource, hdata, splitFirst_slash _ _ hbucket, splitFirst_eq_none _ _ hversion,
    percentDecode_of_not_mem _ hpercent]

theorem decodeCopySource_copySource_plain :
    ('/' ∉ "bucket".data ∧ '%' ∉ "dir/file.txt".data ∧
      ¬ "?versionId=".data <:+: "dir/file.txt".data) ∧
    decodeCopySource (copySource "bucket" "dir/file.txt") = some ("bucket", "dir/file.txt", none) :=
  ⟨⟨by decide, by decide, by decide⟩,
    decodeCopySource_copySource _ _ (by decide) (by decide) (by decide)⟩

theorem serveCopyObject_decodes_key :
    decodeCopySource (copySource "b" "a%20b") = some ("b", "a b", none) ∧
    (exec (plainProvider.serveCopyObject (objectStore s3PageSize)
      ⟨actorContext, (⟨"b", "a%20b"⟩, ⟨"b", "c"⟩)⟩)
      (worldOf [("b", ⟨[("a%20b", ⟨[1], false⟩), ("a b", ⟨[2], false⟩)], by decide⟩)])).1 =
      .ok (.result (.ok .unit)) ∧
    (exec (plainProvider.serveCopyObject (objectStore s3PageSize)
      ⟨actorContext, (⟨"b", "a%20b"⟩, ⟨"b", "c"⟩)⟩)
      (worldOf [("b", ⟨[("a%20b", ⟨[1], false⟩), ("a b", ⟨[2], false⟩)], by decide⟩)])).2.store.find?
      "b" "c" = some ⟨[2], false⟩ :=
  ⟨by decide, rfl, by decide⟩

theorem serveMoveObject_moves (pageSize : Nat) (p : Provider) (context : Option Context)
    (src dest : ObjectId) (client : StorageClient) (w w' : World Store) (x : Bytes)
    (hclient : p.client context = .ok client)
    (hsrc : (w.store.find? (client.unalias src.container) src.object).map StoredObject.data =
      some x)
    (hsource : decodeCopySource (copySource (client.unalias src.container) src.object) =
      some (client.unalias src.container, src.object, none))
    (hne : (client.unalias src.container, src.object) ≠
      (client.unalias dest.container, dest.object))
    (hok : exec (p.serveMoveObject (objectStore pageSize) ⟨context, (src, dest)⟩) w =
      (.ok (.result (.ok .unit)), w')) :
    (w'.store.find? (client.unalias dest.container) dest.object).map StoredObject.data = some x ∧
      w'.store.find? (client.unalias src.container) src.object = none := by
  obtain ⟨client', hclient', w₁, hcopy, hdelete, -⟩ := (p.serveMoveObject_eq_ok _).mp hok
  obtain rfl := Except.ok.inj (hclient.symm.trans hclient')
  obtain ⟨_, hcopy, -⟩ := (StorageClient.copyObject_eq_ok _ client _ _ _ _).mp hcopy
  obtain ⟨_, hdelete, -⟩ := (StorageClient.deleteObject_eq_ok _ client _ _).mp hdelete
  rw [objectStore_respond] at hcopy hdelete
  obtain ⟨sb, sk, obj, hdecode, hfind, hput⟩ := Store.putObject_of_respond_copyObject hcopy
  obtain ⟨rfl, rfl⟩ : client.unalias src.container = sb ∧ src.object = sk := by
    simpa [hsource] using hdecode
  have hx : obj.data = x := by simpa [hfind] using hsrc
  have hdest : ¬ (client.unalias dest.container = client.unalias src.container ∧
      dest.object = src.object) := fun ⟨h1, h2⟩ => hne (by rw [h1, h2])
  rw [Store.find?_of_respond_deleteObject hdelete, Store.find?_of_respond_deleteObject hdelete,
    Store.find?_of_putObject hput]
  exact ⟨by simp [hdest, hx], by simp⟩

theorem serveMoveObject_moves_sample :
    ((exec (plainProvider.serveMoveObject (objectStore s3PageSize)
      ⟨actorContext, (⟨"a", "k"⟩, ⟨"b", "k"⟩)⟩)
      (worldOf [("a", ⟨[("k", ⟨[7], false⟩)], by decide⟩), ("b", Bucket.empty)])).2.store.find?
      "b" "k").map StoredObject.data = some [7] ∧
    (exec (plainProvider.serveMoveObject (objectStore s3PageSize)
      ⟨actorContext, (⟨"a", "k"⟩, ⟨"b", "k"⟩)⟩)
      (worldOf [("a", ⟨[("k", ⟨[7], false⟩)], by decide⟩), ("b", Bucket.empty)])).2.store.find?
      "a" "k" = none :=
  serveMoveObject_moves s3PageSize plainProvider actorContext ⟨"a", "k"⟩ ⟨"b", "k"⟩ plainClient
    (worldOf [("a", ⟨[("k", ⟨[7], false⟩)], by decide⟩), ("b", Bucket.empty)]) _ [7] rfl
    (by decide) (by decide) (by decide) rfl

theorem serveMoveObject_locked_source (pageSize : Nat) (p : Provider) (context : Option Context)
    (src dest : ObjectId) (client : StorageClient) (w : World Store) (x : Bytes) (db : Bucket)
    (hclient : p.client context = .ok client)
    (hsrc : w.store.find? (client.unalias src.container) src.object = some ⟨x, true⟩)
    (hsource : decodeCopySource (copySource (client.unalias src.container) src.object) =
      some (client.unalias src.container, src.object, none))
    (hne : (client.unalias src.container, src.object) ≠
      (client.unalias dest.container, dest.object))
    (hdb : w.store.buckets.get (client.unalias dest.container) = some db)
    (hdest : (db.find? dest.object).any (·.locked) = false) :
    (exec (p.serveMoveObject (objectStore pageSize) ⟨context, (src, dest)⟩) w).1 =
      .ok (.result (.error (((Error.msg accessDenied.describe).context "failed to delete object").context
        "failed to delete source object"))) ∧
    (exec (p.serveMoveObject (objectStore pageSize) ⟨context, (src, dest)⟩) w).2.store.find?
      (client.unalias dest.container) dest.object = some ⟨x, false⟩ ∧
    (exec (p.serveMoveObject (objectStore pageSize) ⟨context, (src, dest)⟩) w).2.store.find?
      (client.unalias src.container) src.object = some ⟨x, true⟩ := by
  have hput : w.store.putObject (client.unalias dest.container) dest.object x =
      (.ok (), w.store.setBucket (client.unalias dest.container) (db.put dest.object ⟨x, false⟩)) := by
    simp [Store.putObject, hdb, hdest]
  have hsrc' := Store.find?_of_putObject hput (client.unalias src.container) src.object
  rw [if_neg (fun h => hne (by rw [h.1, h.2])), hsrc] at hsrc'
  have hdest' := Store.find?_of_putObject hput (client.unalias dest.container) dest.object
  rw [if_pos ⟨rfl, rfl⟩] at hdest'
  have hcopy : Store.respond pageSize (.copyObject (copySource (client.unalias src.container)
      src.object) (client.unalias dest.container) dest.object) w.store =
      (.ok (), w.store.setBucket (client.unalias dest.container) (db.put dest.object ⟨x, false⟩)) := by
    simp only [Store.respond, hsource, hsrc, hput]
  simp [Provider.serveMoveObject, hclient, StorageClient.copyObject, StorageClient.deleteObject,
    hcopy, Store.respond_deleteObject_of_locked hsrc' rfl, Except.map, hdest', hsrc']

theorem serveMoveObject_locked_source_sample :
    (exec (plainProvider.serveMoveObject (objectStore s3PageSize)
      ⟨actorContext, (⟨"a", "k"⟩, ⟨"b", "k"⟩)⟩)
      (worldOf [("a", ⟨[("k", ⟨[7], true⟩)], by decide⟩), ("b", Bucket.empty)])).1 =
      .ok (.result (.error (((Error.msg accessDenied.describe).context "failed to delete object").context
        "failed to delete source object"))) ∧
    (exec (plainProvider.serveMoveObject (objectStore s3PageSize)
      ⟨actorContext, (⟨"a", "k"⟩, ⟨"b", "k"⟩)⟩)
      (worldOf [("a", ⟨[("k", ⟨[7], true⟩)], by decide⟩), ("b", Bucket.empty)])).2.store.find?
      "b" "k" = some ⟨[7], false⟩ ∧
    (exec (plainProvider.serveMoveObject (objectStore s3PageSize)
      ⟨actorContext, (⟨"a", "k"⟩, ⟨"b", "k"⟩)⟩)
      (worldOf [("a", ⟨[("k", ⟨[7], true⟩)], by decide⟩), ("b", Bucket.empty)])).2.store.find?
      "a" "k" = some ⟨[7], true⟩ :=
  serveMoveObject_locked_source s3PageSize plainProvider actorContext ⟨"a", "k"⟩ ⟨"b", "k"⟩
    plainClient (worldOf [("a", ⟨[("k", ⟨[7], true⟩)], by decide⟩), ("b", Bucket.empty)]) [7]
    Bucket.empty rfl (by decide) (by decide) (by decide) rfl rfl

theorem serveMoveObject_onto_alias_loses_object :
    plainClient.unalias "alias_foo" = plainClient.unalias "foo" ∧
    (exec (plainProvider.serveMoveObject (objectStore s3PageSize)
      ⟨actorContext, (⟨"foo", "k"⟩, ⟨"alias_foo", "k"⟩)⟩)
      (worldOf [("foo", ⟨[("k", ⟨[7], false⟩)], by decide⟩)])).1 = .ok (.result (.ok .unit)) ∧
    (exec (plainProvider.serveMoveObject (objectStore s3PageSize)
      ⟨actorContext, (⟨"foo", "k"⟩, ⟨"alias_foo", "k"⟩)⟩)
      (worldOf [("foo", ⟨[("k", ⟨[7], false⟩)], by decide⟩)])).2.store.find? "foo" "k" = none :=
  ⟨by decide, rfl, by decide⟩

end BlobstoreS3
