import BlobstoreS3.ObjectData

namespace BlobstoreS3

theorem listContainerObjects_objectStore (pageSize : Nat) (client : StorageClient)
    (bucket : String) (b : Bucket) (w : World Store) (hb : w.store.buckets.get bucket = some b)
    (limit offset : Option UInt64) :
    exec (client.listContainerObjects (objectStore pageSize) bucket limit offset) w =
      (.ok (((b.keys.take (min ((limit.map maxKeysOf).getD pageSize) pageSize)).drop
          (offset.getD 0).toNat).take (limit.getD u64Max).toNat),
        ⟨w.store, w.calls ++ [⟨client.s3Client, .listObjectsV2 bucket (limit.map maxKeysOf)⟩]⟩) := by
  simp [StorageClient.listContainerObjects, Store.respond, hb, List.filterMap_map,
    Function.comp_def, ← List.map_take]

theorem take_u64Max (l : List String) (h : l.length ≤ 2147483647) : l.take u64Max.toNat = l :=
  List.take_of_length_le (by rw [show u64Max.toNat = 18446744073709551615 from rfl]; omega)

theorem listContainerObjects_firstPage (pageSize : Nat) (hP : pageSize ≤ 2147483647)
    (client : StorageClient) (bucket : String) (b : Bucket) (w : World Store)
    (hb : w.store.buckets.get bucket = some b) (limit offset : Option UInt64) :
    ∃ names, exec (client.listContainerObjects (objectStore pageSize) bucket limit offset) w =
        (.ok names,
          ⟨w.store, w.calls ++ [⟨client.s3Client, .listObjectsV2 bucket (limit.map maxKeysOf)⟩]⟩) ∧
      names.Sublist (b.keys.take pageSize) ∧
      (limit = none → names = (b.keys.take pageSize).drop (offset.getD 0).toNat) ∧
      (offset.getD 0 = 0 →
        names = b.keys.take (min ((limit.map UInt64.toNat).getD pageSize) pageSize)) := by
  have hmax : u64Max.toNat = 18446744073709551615 := rfl
  refine ⟨_, listContainerObjects_objectStore pageSize client bucket b w hb limit offset, ?_, ?_, ?_⟩
  · exact ((List.take_sublist _ _).trans (List.drop_sublist _ _)).trans
      (List.take_sublist_take_left _ (min_le_right _ _))
  · rintro rfl
    simp only [Option.map_none', Option.getD_none, min_self]
    exact take_u64Max _ (by simp only [List.length_drop, List.length_take]; omega)
  · intro hoff
    simp only [hoff, UInt64.toNat_zero, List.drop_zero, List.take_take]
    cases limit with
    | none => simp only [Option.map_none', Option.getD_none, hmax]; congr 1; omega
    | some l => simp only [Option.map_some', Option.getD_some, maxKeysOf]; congr 1; omega

/-- A bucket of two objects. -/
def pairBucket : Bucket := ⟨[("x", ⟨[1], false⟩), ("y", ⟨[2], false⟩)], by decide⟩

theorem listContainerObjects_firstPage_sample :
    (s3PageSize ≤ 2147483647 ∧
      (worldOf [("b", pairBucket)]).store.buckets.get "b" = some pairBucket) ∧
    ∃ names, exec (plainClient.listContainerObjects (objectStore s3PageSize) "b" (some 1) none)
        (worldOf [("b", pairBucket)]) =
        (.ok names, ⟨(worldOf [("b", pairBucket)]).store, (worldOf [("b", pairBucket)]).calls ++
          [⟨plainClient.s3Client, .listObjectsV2 "b" ((some 1).map maxKeysOf)⟩]⟩) ∧
      names.Sublist (pairBucket.keys.take s3PageSize) ∧
      ((some 1 : Option UInt64) = none →
        names = (pairBucket.keys.take s3PageSize).drop ((none : Option UInt64).getD 0).toNat) ∧
      ((none : Option UInt64).getD 0 = 0 →
        names = pairBucket.keys.take
          (min (((some 1 : Option UInt64).map UInt64.toNat).getD s3PageSize) s3PageSize)) :=
  ⟨⟨by decide, rfl⟩, listContainerObjects_firstPage s3PageSize (by decide) plainClient "b"
    pairBucket _ rfl (some 1) none⟩

/-- The keys `""`, `"a"`, `"aa"`, ... of `n` objects. -/
def manyKeys (n : Nat) : List String := (List.range n).map fun i => ⟨List.replicate i 'a'⟩

theorem mem_manyKeys {n : Nat} {key : String} :
    key ∈ manyKeys n ↔ ∃ i < n, key = ⟨List.replicate i 'a'⟩ := by
  simp [manyKeys, eq_comm]

theorem manyKeys_nodup (n : Nat) : (manyKeys n).Nodup :=
  (List.nodup_range n).map fun i j h => by
    simpa using congrArg (fun s => s.data.length) h

theorem take_manyKeys (m n : Nat) : (manyKeys n).take m = manyKeys (min m n) := by
  simp [manyKeys, ← List.map_take, List.take_range]

/-- A bucket of `n` empty, unlocked objects under `manyKeys n`. -/
def manyBucket (n : Nat) : Bucket :=
  ⟨(manyKeys n).map fun key => (key, ⟨[], false⟩), by
    simpa [List.map_map, Function.comp_def] using manyKeys_nodup n⟩

theorem manyBucket_keys (n : Nat) : (manyBucket n).keys = manyKeys n := by
  simp [manyBucket, Bucket.keys, List.map_map, Function.comp_def]

theorem lookup_map_pair (l : List String) (o : StoredObject) (key : String) :
    (l.map fun k => (k, o)).lookup key = if key ∈ l then some o else none := by
  induction l with
  | nil => simp
  | cons k l ih => by_cases h : key = k <;> simp [h, ih]

theorem manyBucket_find? (n : Nat) (key : String) :
    (manyBucket n).find? key = if key ∈ manyKeys n then some ⟨[], false⟩ else none :=
  lookup_map_pair _ _ _

theorem manyBucket_unlocked (n : Nat) (key : String) (o : StoredObject)
    (h : (manyBucket n).find? key = some o) : o.locked = false := by
  rw [manyBucket_find?] at h
  split at h <;> cases h
  rfl

theorem listContainerObjects_misses_second_page :
    (exec (plainClient.listContainerObjects (objectStore s3PageSize) "b" none none)
      (worldOf [("b", manyBucket 1001)])).1 = .ok (manyKeys 1000) ∧
    manyKeys 1000 ≠ manyKeys 1001 := by
  refine ⟨?_, fun h => by simpa [manyKeys] using congrArg List.length h⟩
  rw [listContainerObjects_objectStore s3PageSize plainClient "b" (manyBucket 1001) _ rfl]
  simp [manyBucket_keys, take_manyKeys, s3PageSize, u64Max]

theorem Bucket.find?_eq_none_of_not_mem (b : Bucket) {key : String} (h : key ∉ b.keys) :
    b.find? key = none :=
  lookup_eq_none_of_not_mem fun _ hv => h (List.mem_map_of_mem Prod.fst hv)

theorem deleteObjects_objectStore (pageSize : Nat) (client : StorageClient) (bucket : String)
    (b : Bucket) (w : World Store) (hb : w.store.buckets.get bucket = some b) (keys : List String)
    (hne : keys ≠ []) (hlen : keys.length ≤ maxDeleteKeys) :
    exec (client.deleteObjects (objectStore pageSize) bucket keys) w =
      (if (b.deleteKeys keys).1.isEmpty then .ok ()
        else .error (Error.msg ("failed with errors " ++ reprStr (b.deleteKeys keys).1)),
        ⟨w.store.setBucket bucket (b.deleteKeys keys).2,
          w.calls ++ [⟨client.s3Client, .deleteObjects bucket keys⟩]⟩) := by
  simp [StorageClient.deleteObjects, hne, Store.respond, hb, Nat.not_lt.mpr hlen]
  split <;> simp [*]

theorem find?_of_deleteObjects_ok {pageSize : Nat} {client : StorageClient} {bucket : String}
    {keys : List String} {w w' : World Store}
    (h : exec (client.deleteObjects (objectStore pageSize) bucket keys) w = (.ok (), w'))
    (bucket' key : String) :
    w'.store.find? bucket' key =
      if bucket' = bucket ∧ key ∈ keys then none else w.store.find? bucket' key := by
  unfold StorageClient.deleteObjects at h
  split at h
  · rename_i hks
    obtain rfl : keys = [] := List.isEmpty_iff.mp hks
    obtain rfl : w = w' := (Prod.mk.inj h).2
    simp
  · obtain ⟨r, w₁, hsend, h⟩ := exec_bind_eq_ok.mp h
    obtain ⟨out, _, hctx, hcheck⟩ := exec_bind_eq_ok.mp h
    obtain ⟨rfl, rfl⟩ := exec_orContext_eq_ok.mp hctx
    rw [exec_send, Prod.mk.injEq, Except.ok.injEq] at hsend
    obtain ⟨hout, rfl⟩ := hsend
    split at hcheck
    · rename_i herr
      obtain rfl : _ = w' := (Prod.mk.inj hcheck).2
      exact Store.find?_of_respond_deleteObjects (Prod.ext hout rfl) (List.isEmpty_iff.mp herr) _ _
    · cases hcheck

theorem deleteObjects_batch (pageSize : Nat) (client : StorageClient) (container : String)
    (keys : List String) (w : World Store) :
    (keys = [] →
      exec (client.deleteObjects (objectStore pageSize) container keys) w = (.ok (), w)) ∧
    (∀ w', exec (client.deleteObjects (objectStore pageSize) container keys) w = (.ok (), w') →
      ∀ key ∈ keys, w'.store.find? container key = none) ∧
    (∀ b, w.store.buckets.get container = some b →
      (∀ key ∈ keys, ∀ o, b.find? key = some o → o.locked = false) →
      keys.length ≤ maxDeleteKeys →
      (exec (client.deleteObjects (objectStore pageSize) container keys) w).1 = .ok ()) := by
  refine ⟨?_, fun w' h key hkey => ?_, fun b hb hunlocked hlen => ?_⟩
  · rintro rfl
    rfl
  · simpa [hkey] using find?_of_deleteObjects_ok h container key
  · rcases List.eq_nil_or_concat keys with rfl | ⟨_, _, rfl⟩
    · rfl
    · rw [deleteObjects_objectStore pageSize client container b w hb _ (by simp) hlen,
        Bucket.deleteKeys_errors_nil b hunlocked]
      rfl

theorem deleteObjects_reportsLocked (pageSize : Nat) (client : StorageClient) (bucket : String)
    (b : Bucket) (w : World Store) (hb : w.store.buckets.get bucket = some b) (keys : List String)
    (hne : keys ≠ []) (hlen : keys.length ≤ maxDeleteKeys) :
    (exec (client.deleteObjects (objectStore pageSize) bucket keys) w).2.calls =
      w.calls ++ [⟨client.s3Client, .deleteObjects bucket keys⟩] ∧
    (exec (client.deleteObjects (objectStore pageSize) bucket keys) w).1 =
      (if keys.filter (fun k => (b.find? k).any (·.locked)) = [] then .ok ()
        else .error (Error.msg ("failed with errors " ++ reprStr
          ((keys.filter fun k => (b.find? k).any (·.locked)).map
            fun k => (⟨some k, some "AccessDenied"⟩ : DeleteError))))) ∧
    ∀ key, (exec (client.deleteObjects (objectStore pageSize) bucket keys) w).2.store.find?
      bucket key = if key ∈ keys ∧ (b.find? key).any (·.locked) = false then none
        else b.find? key := by
  rw [deleteObjects_objectStore pageSize client bucket b w hb keys hne hlen]
  refine ⟨rfl, ?_, fun key => ?_⟩
  · simp only [Bucket.deleteKeys_errors, List.isEmpty_iff, List.map_eq_nil_iff]
  · simp [Bucket.find?_deleteKeys]

/-- A bucket whose object `x` is locked and whose object `y` is not. -/
def lockedBucket : Bucket := ⟨[("x", ⟨[1], true⟩), ("y", ⟨[2], false⟩)], by decide⟩

theorem deleteObjects_reportsLocked_sample :
    (exec (plainClient.deleteObjects (objectStore s3PageSize) "b" ["x", "y"])
      (worldOf [("b", lockedBucket)])).2.calls =
      [⟨plainClient.s3Client, .deleteObjects "b" ["x", "y"]⟩] ∧
    (exec (plainClient.deleteObjects (objectStore s3PageSize) "b" ["x", "y"])
      (worldOf [("b", lockedBucket)])).1 =
      .error (Error.msg ("failed with errors " ++ reprStr
        [(⟨some "x", some "AccessDenied"⟩ : DeleteError)])) ∧
    ∀ key, (exec (plainClient.deleteObjects (objectStore s3PageSize) "b" ["x", "y"])
      (worldOf [("b", lockedBucket)])).2.store.find? "b" key =
      if key ∈ ["x", "y"] ∧ (lockedBucket.find? key).any (·.locked) = false then none
      else lockedBucket.find? key := by
  obtain ⟨hcalls, herr, hfind⟩ := deleteObjects_reportsLocked s3PageSize plainClient "b"
    lockedBucket (worldOf [("b", lockedBucket)]) rfl ["x", "y"] (by decide) (by decide)
  exact ⟨hcalls, herr.trans rfl, hfind⟩

theorem deleteObjects_rejects_long_list :
    (∀ key ∈ manyKeys 1001, ∀ o, (manyBucket 1001).find? key = some o → o.locked = false) ∧
    (exec (plainClient.deleteObjects (objectStore s3PageSize) "b" (manyKeys 1001))
      (worldOf [("b", manyBucket 1001)])).1 =
      .error ((Error.msg (SdkError.serviceError (.other "MalformedXML")).describe).context
        "failed to delete objects") := by
  refine ⟨fun key _ => manyBucket_unlocked 1001 key, ?_⟩
  simp [StorageClient.deleteObjects, Store.respond, worldOf, manyKeys, maxDeleteKeys]

theorem serveClearContainer_clearsFirstPage (pageSize : Nat) (hP : pageSize ≤ 2147483647)
    (p : Provider) (context : Option Context) (container : String) (client : StorageClient)
    (b : Bucket) (w w' : World Store) (hclient : p.client context = .ok client)
    (hb : w.store.buckets.get (client.unalias container) = some b)
    (hok : exec (p.serveClearContainer (objectStore pageSize) ⟨context, container⟩) w =
      (.ok (.result (.ok .unit)), w')) :
    (∀ bucket key, w'.store.find? bucket key =
      if bucket = client.unalias container ∧ key ∈ b.keys.take pageSize then none
      else w.store.find? bucket key) ∧
    (b.keys.length ≤ pageSize → ∀ key, w'.store.find? (client.unalias container) key = none) := by
  obtain ⟨client', hclient', names, w₁, hlist, hdelete, -⟩ := (p.serveClearContainer_eq_ok _).mp hok
  obtain rfl := Except.ok.inj (hclient.symm.trans hclient')
  rw [listContainerObjects_objectStore pageSize client _ b w hb, Prod.mk.injEq, Except.ok.injEq]
    at hlist
  obtain ⟨rfl, rfl⟩ := hlist
  simp only [Option.map_none', Option.getD_none, min_self, UInt64.toNat_zero, List.drop_zero,
    take_u64Max _ ((List.length_take_le _ _).trans hP)] at hdelete
  have hframe := find?_of_deleteObjects_ok hdelete
  refine ⟨hframe, fun hlen key => ?_⟩
  rw [hframe, List.take_of_length_le hlen]
  by_cases hkey : key ∈ b.keys
  · simp [hkey]
  · simp [hkey, Store.find?_of_get hb, b.find?_eq_none_of_not_mem hkey]

theorem serveClearContainer_clearsFirstPage_sample :
    (s3PageSize ≤ 2147483647 ∧ plainProvider.client actorContext = .ok plainClient ∧
      (worldOf [("b", pairBucket)]).store.buckets.get (plainClient.unalias "b") = some pairBucket ∧
      exec (plainProvider.serveClearContainer (objectStore s3PageSize) ⟨actorContext, "b"⟩)
        (worldOf [("b", pairBucket)]) =
        (.ok (.result (.ok .unit)), (exec (plainProvider.serveClearContainer
          (objectStore s3PageSize) ⟨actorContext, "b"⟩) (worldOf [("b", pairBucket)])).2)) ∧
    (∀ bucket key, (exec (plainProvider.serveClearContainer (objectStore s3PageSize)
        ⟨actorContext, "b"⟩) (worldOf [("b", pairBucket)])).2.store.find? bucket key =
      if bucket = plainClient.unalias "b" ∧ key ∈ pairBucket.keys.take s3PageSize then none
      else (worldOf [("b", pairBucket)]).store.find? bucket key) ∧
    (pairBucket.keys.length ≤ s3PageSize → ∀ key, (exec (plainProvider.serveClearContainer
        (objectStore s3PageSize) ⟨actorContext, "b"⟩) (worldOf [("b", pairBucket)])).2.store.find?
        (plainClient.unalias "b") key = none) :=
  ⟨⟨by decide, rfl, rfl, rfl⟩, serveClearContainer_clearsFirstPage s3PageSize (by decide)
    plainProvider actorContext "b" plainClient pairBucket _ _ rfl rfl rfl⟩

theorem serveClearContainer_leaves_second_page :
    (exec (plainProvider.serveClearContainer (objectStore s3PageSize) ⟨actorContext, "b"⟩)
      (worldOf [("b", manyBucket 1001)])).1 = .ok (.result (.ok .unit)) ∧
    (exec (plainProvider.serveClearContainer (objectStore s3PageSize) ⟨actorContext, "b"⟩)
      (worldOf [("b", manyBucket 1001)])).2.store.find? "b" ⟨List.replicate 1000 'a'⟩ =
      some ⟨[], false⟩ := by
  have hunalias : plainClient.unalias "b" = "b" := by decide
  have hlist := listContainerObjects_objectStore s3PageSize plainClient "b" (manyBucket 1001)
    (worldOf [("b", manyBucket 1001)]) rfl none none
  simp only [Option.map_none', Option.getD_none, min_self, UInt64.toNat_zero, List.drop_zero,
    manyBucket_keys, take_manyKeys, s3PageSize] at hlist
  rw [show u64Max.toNat ⊓ (1000 ⊓ 1001) = 1000 by decide] at hlist
  have hunlocked : ∀ key ∈ manyKeys 1000, ∀ o, (manyBucket 1001).find? key = some o →
      o.locked = false := fun key _ => manyBucket_unlocked 1001 key
  have hdelete := deleteObjects_objectStore s3PageSize plainClient "b" (manyBucket 1001)
    ⟨(worldOf [("b", manyBucket 1001)]).store, (worldOf [("b", manyBucket 1001)]).calls ++
      [⟨plainClient.s3Client, .listObjectsV2 "b" none⟩]⟩ rfl
    (manyKeys 1000) (by simp [manyKeys]) (by simp [manyKeys, maxDeleteKeys])
  rw [Bucket.deleteKeys_errors_nil _ hunlocked, List.isEmpty_nil, if_pos rfl] at hdelete
  have hclear : exec (plainProvider.serveClearContainer (objectStore s3PageSize)
      ⟨actorContext, "b"⟩) (worldOf [("b", manyBucket 1001)]) = (.ok (.result (.ok .unit)), _) :=
    (plainProvider.serveClearContainer_eq_ok _).mpr
      ⟨plainClient, rfl, _, _, hunalias ▸ hlist, hunalias ▸ hdelete, rfl⟩
  have hlast : (⟨List.replicate 1000 'a'⟩ : String) ∉ manyKeys 1000 := by
    rw [mem_manyKeys]
    rintro ⟨i, hi, h⟩
    have := congrArg (fun s => s.data.length) h
    simp only [List.length_replicate] at this
    omega
  rw [hclear]
  refine ⟨rfl, ?_⟩
  simp only [hunalias, Store.find?_setBucket, if_pos]
  rw [Bucket.find?_deleteKeys, if_neg (fun h => hlast h.1), manyBucket_find?,
    if_pos (mem_manyKeys.mpr ⟨1000, by omega, rfl⟩)]

end BlobstoreS3
