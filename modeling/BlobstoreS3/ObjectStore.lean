import BlobstoreS3.Footprint

/-!
An S3 object store: buckets of objects in listing order, ranged reads with HTTP range semantics,
a page limit on `ListObjectsV2`, a key limit on `DeleteObjects`, and copy sources decoded as S3
decodes `x-amz-copy-source`. An object may be under a retention lock, which makes deleting or
overwriting it fail. Bucket names are global, so a name may be held by another account.
-/

namespace BlobstoreS3

/-- A stored object: its bytes, and whether a retention lock protects it. -/
structure StoredObject where
  data : Bytes
  locked : Bool
  deriving DecidableEq, Repr

/-- A bucket: its objects in the order `ListObjectsV2` lists them, under distinct keys. -/
structure Bucket where
  objects : List (String × StoredObject)
  nodup : (objects.map Prod.fst).Nodup

namespace Bucket

/-- A bucket with no objects. -/
def empty : Bucket := ⟨[], List.nodup_nil⟩

/-- The keys of a bucket, in listing order. -/
def keys (b : Bucket) : List String := b.objects.map Prod.fst

/-- The object under a key. -/
def find? (b : Bucket) (key : String) : Option StoredObject := b.objects.lookup key

/-- The bucket without the object under `key`. -/
def erase (b : Bucket) (key : String) : Bucket :=
  ⟨b.objects.filter (·.1 ≠ key), b.nodup.sublist ((List.filter_sublist _).map _)⟩

/-- The bucket with `o` stored under `key`, listed last. -/
def put (b : Bucket) (key : String) (o : StoredObject) : Bucket :=
  ⟨(b.erase key).objects ++ [(key, o)], by
    rw [List.map_append]
    refine List.nodup_append.mpr ⟨(b.erase key).nodup, List.nodup_singleton _, ?_⟩
    simp [List.Disjoint, erase]⟩

/-- `DeleteObjects` on the keys in order: a locked object is reported and kept, any other is
deleted, and an absent key counts as deleted. -/
def deleteKeys (b : Bucket) : List String → List DeleteError × Bucket
  | [] => ([], b)
  | key :: keys =>
      match b.find? key with
      | some o =>
          if o.locked then
            let r := b.deleteKeys keys
            (⟨some key, some "AccessDenied"⟩ :: r.1, r.2)
          else (b.erase key).deleteKeys keys
      | none => b.deleteKeys keys

end Bucket

/-- The buckets of the store, by name, and the names other accounts' buckets hold: bucket names
are global. -/
structure Store where
  buckets : Table Bucket
  foreign : List String

namespace Store

/-- The object under a key of a bucket. -/
def find? (s : Store) (bucket key : String) : Option StoredObject :=
  (s.buckets.get bucket).bind (·.find? key)

/-- The store with a bucket replaced. -/
def setBucket (s : Store) (bucket : String) (b : Bucket) : Store :=
  { s with buckets := s.buckets.insert bucket b }

end Store

/-- The error of a request on a bucket that does not exist. -/
def noSuchBucket : SdkError := .serviceError (.other "NoSuchBucket")

/-- The error of a read of a key that does not exist. -/
def noSuchKey : SdkError := .serviceError (.other "NoSuchKey")

/-- The error of a delete or overwrite of a locked object. -/
def accessDenied : SdkError := .serviceError (.other "AccessDenied")

/-- Whether S3 accepts a bucket name: 3 to 63 lowercase letters, digits, dots and hyphens,
beginning and ending with a letter or a digit, with no two dots in a row. -/
def validBucketName (name : String) : Bool :=
  let alnum (c : Char) := c.isLower || c.isDigit
  3 ≤ name.length && name.length ≤ 63 &&
    name.data.all (fun c => alnum c || c == '.' || c == '-') &&
    name.data.head?.any alnum && name.data.getLast?.any alnum &&
    !(name.data.zip name.data.tail).any (fun p => p.1 == '.' && p.2 == '.')

/-- The most keys a `DeleteObjects` request may carry. -/
def maxDeleteKeys : Nat := 1000

/-- The page size of `ListObjectsV2` on S3. -/
def s3PageSize : Nat := 1000

/-- The body of a read with the header `bytes=first-last` (RFC 9110): the range is inclusive and
cut at the object's last byte, and it cannot be satisfied when `first` is not below the object's
length; a range that ends before it starts is ignored and the whole object is sent. -/
def byteRange (data : Bytes) (r : ByteRange) : Option Bytes :=
  if r.last < r.first then some data
  else if data.length ≤ r.first then none
  else some ((data.drop r.first).take (r.last + 1 - r.first))

/-- The value of a hexadecimal digit. -/
def hexValue (c : Char) : Option Nat :=
  if '0' ≤ c ∧ c ≤ '9' then some (c.toNat - '0'.toNat)
  else if 'A' ≤ c ∧ c ≤ 'F' then some (c.toNat - 'A'.toNat + 10)
  else if 'a' ≤ c ∧ c ≤ 'f' then some (c.toNat - 'a'.toNat + 10)
  else none

/-- Percent-decoding: `%XY` stands for the character of code `XY`, and a `%` not followed by two
hexadecimal digits is malformed. -/
def percentDecode : List Char → Option (List Char)
  | [] => some []
  | '%' :: h :: l :: rest =>
      match hexValue h, hexValue l with
      | some a, some b => (percentDecode rest).map (Char.ofNat (16 * a + b) :: ·)
      | _, _ => none
  | '%' :: _ => none
  | c :: rest => (percentDecode rest).map (c :: ·)

/-- The characters before and after the first occurrence of `sep`. -/
def splitFirst (sep : List Char) : List Char → Option (List Char × List Char)
  | [] => if sep = [] then some ([], []) else none
  | c :: rest =>
      if sep.isPrefixOf (c :: rest) then some ([], (c :: rest).drop sep.length)
      else (splitFirst sep rest).map fun r => (c :: r.1, r.2)

/-- How S3 reads `x-amz-copy-source`: the bucket up to the first `/`, then the percent-decoded
key, and a version after `?versionId=`. -/
def decodeCopySource (source : String) : Option (String × String × Option String) :=
  match splitFirst ['/'] source.data with
  | none => none
  | some (bucket, rest) =>
      let (keyPart, version) :=
        match splitFirst "?versionId=".data rest with
        | some (k, v) => (k, some v)
        | none => (rest, none)
      (percentDecode keyPart).map fun key => (⟨bucket⟩, ⟨key⟩, version.map String.mk)

namespace Store

/-- `PutObject` of `data` under a key. -/
def putObject (s : Store) (bucket key : String) (data : Bytes) : Except SdkError Unit × Store :=
  match s.buckets.get bucket with
  | none => (.error noSuchBucket, s)
  | some b =>
      if (b.find? key).any (·.locked) then (.error accessDenied, s)
      else (.ok (), s.setBucket bucket (b.put key ⟨data, false⟩))

/-- The store's answer to each request, with `ListObjectsV2` pages of at most `pageSize` keys.
Buckets are not versioned, so a copy source naming a version is not found. -/
def respond (pageSize : Nat) : (r : Request) → Store → Except SdkError r.Output × Store
  | .headBucket bucket, s =>
      match s.buckets.get bucket with
      | some _ => (.ok (), s)
      | none =>
          if bucket ∈ s.foreign then (.error (.serviceError (.other "Forbidden")), s)
          else (.error (.serviceError .notFound), s)
  | .createBucket bucket, s =>
      if validBucketName bucket then
        match s.buckets.get bucket with
        | some _ => (.error (.serviceError .bucketAlreadyOwnedByYou), s)
        | none =>
            if bucket ∈ s.foreign then (.error (.serviceError (.other "BucketAlreadyExists")), s)
            else (.ok (), s.setBucket bucket .empty)
      else (.error (.serviceError (.other "InvalidBucketName")), s)
  | .deleteBucket bucket, s =>
      match s.buckets.get bucket with
      | none => (.error noSuchBucket, s)
      | some b =>
          if b.objects = [] then (.ok (), { s with buckets := s.buckets.remove bucket })
          else (.error (.serviceError (.other "BucketNotEmpty")), s)
  | .listObjectsV2 bucket maxKeys, s =>
      match s.buckets.get bucket with
      | none => (.error noSuchBucket, s)
      | some b =>
          (.ok ⟨some ((b.keys.take (min (maxKeys.getD pageSize) pageSize)).map
            fun k => ⟨some k⟩)⟩, s)
  | .copyObject source bucket key, s =>
      match decodeCopySource source with
      | some (srcBucket, srcKey, none) =>
          match s.find? srcBucket srcKey with
          | some o => s.putObject bucket key o.data
          | none => (.error noSuchKey, s)
      | some (_, _, some _) => (.error noSuchKey, s)
      | none => (.error (.serviceError (.other "InvalidArgument")), s)
  | .deleteObject bucket key, s =>
      match s.buckets.get bucket with
      | none => (.error noSuchBucket, s)
      | some b =>
          if (b.find? key).any (·.locked) then (.error accessDenied, s)
          else (.ok (), s.setBucket bucket (b.erase key))
  | .deleteObjects bucket keys, s =>
      match s.buckets.get bucket with
      | none => (.error noSuchBucket, s)
      | some b =>
          if keys = [] ∨ maxDeleteKeys < keys.length then
            (.error (.serviceError (.other "MalformedXML")), s)
          else
            let r := b.deleteKeys keys
            (.ok ⟨r.1⟩, s.setBucket bucket r.2)
  | .headObject bucket key, s =>
      match s.find? bucket key with
      | some o => (.ok ⟨some o.data.length⟩, s)
      | none => (.error (.serviceError .notFound), s)
  | .getObject bucket key range, s =>
      match s.find? bucket key with
      | none => (.error noSuchKey, s)
      | some o =>
          match byteRange o.data range with
          | some body => (.ok ⟨body⟩, s)
          | none => (.error (.serviceError (.other "InvalidRange")), s)
  | .putObject bucket key body, s => s.putObject bucket key body

end Store

theorem lookup_filter_ne (l : List (String × StoredObject)) (k k' : String) :
    (l.filter (·.1 ≠ k)).lookup k' = if k' = k then none else l.lookup k' := by
  induction l with
  | nil => simp
  | cons kv l ih =>
      obtain ⟨k'', o⟩ := kv
      by_cases h : k'' = k
      · subst h
        rw [List.filter_cons_of_neg (by simp), ih]
        by_cases h' : k' = k'' <;> simp [h']
      · rw [List.filter_cons_of_pos (by simpa using h), lookup_cons_ite, lookup_cons_ite, ih]
        by_cases h' : k' = k''
        · subst h'
          simp [h]
        · simp [h']

theorem lookup_append_singleton (l : List (String × StoredObject)) (k k' : String)
    (o : StoredObject) (hk : l.lookup k = none) :
    (l ++ [(k, o)]).lookup k' = if k' = k then some o else l.lookup k' := by
  induction l with
  | nil => simp
  | cons kv l ih =>
      obtain ⟨k'', o'⟩ := kv
      rw [lookup_cons_ite] at hk
      have hne : k ≠ k'' := fun h => by simp [h] at hk
      rw [if_neg hne] at hk
      rw [List.cons_append, lookup_cons_ite, lookup_cons_ite, ih hk]
      by_cases h' : k' = k''
      · subst h'
        simp [Ne.symm hne]
      · simp [h']

namespace Bucket

@[simp] theorem find?_erase (b : Bucket) (k k' : String) :
    (b.erase k).find? k' = if k' = k then none else b.find? k' :=
  lookup_filter_ne _ _ _

@[simp] theorem erase_erase (b : Bucket) (k : String) : (b.erase k).erase k = b.erase k := by
  simp [erase, List.filter_filter]

@[simp] theorem find?_put (b : Bucket) (k k' : String) (o : StoredObject) :
    (b.put k o).find? k' = if k' = k then some o else b.find? k' := by
  have hk : (b.erase k).objects.lookup k = none := by simpa [find?] using find?_erase b k k
  show ((b.erase k).objects ++ [(k, o)]).lookup k' = _
  rw [lookup_append_singleton _ _ _ _ hk]
  by_cases h : k' = k
  · simp [h]
  · simp only [if_neg h]
    exact (find?_erase b k k').trans (if_neg h)

theorem find?_deleteKeys (b : Bucket) (keys : List String) (k : String) :
    (b.deleteKeys keys).2.find? k =
      if k ∈ keys ∧ (b.find? k).any (·.locked) = false then none else b.find? k := by
  induction keys generalizing b with
  | nil => simp [deleteKeys]
  | cons key keys ih =>
      simp only [deleteKeys]
      split
      · rename_i o hfind
        split
        · rename_i hlock
          rw [ih]
          by_cases hk : k = key
          · subst hk; simp [hfind, hlock]
          · simp [hk]
        · rename_i hlock
          rw [ih, find?_erase]
          by_cases hk : k = key
          · subst hk; simp [hfind, hlock]
          · simp [hk]
      · rename_i hfind
        rw [ih]
        by_cases hk : k = key
        · subst hk; simp [hfind]
        · simp [hk]

theorem deleteKeys_errors (b : Bucket) (keys : List String) :
    (b.deleteKeys keys).1 = (keys.filter fun k => (b.find? k).any (·.locked)).map
      fun k => ⟨some k, some "AccessDenied"⟩ := by
  induction keys generalizing b with
  | nil => rfl
  | cons key keys ih =>
      simp only [deleteKeys]
      split
      · rename_i o hfind
        split
        · rename_i hlock
          simp [ih, hfind, hlock]
        · rename_i hlock
          rw [ih, List.filter_cons_of_neg (by simp [hfind, hlock])]
          congr 1
          refine List.filter_congr fun k _ => ?_
          by_cases hk : k = key
          · subst hk; simp [hfind, hlock]
          · simp [hk]
      · rename_i hfind
        simp [ih, hfind]

theorem deleteKeys_errors_nil (b : Bucket) {keys : List String}
    (h : ∀ k ∈ keys, ∀ o, b.find? k = some o → o.locked = false) :
    (b.deleteKeys keys).1 = [] := by
  rw [deleteKeys_errors, List.map_eq_nil_iff, List.filter_eq_nil_iff]
  intro k hk
  cases hfind : b.find? k with
  | none => simp
  | some o => simp [h k hk o hfind]

end Bucket

namespace Store

@[simp] theorem find?_setBucket (s : Store) (bucket bucket' key : String) (b : Bucket) :
    (s.setBucket bucket b).find? bucket' key =
      if bucket' = bucket then b.find? key else s.find? bucket' key := by
  by_cases h : bucket' = bucket <;> simp [find?, setBucket, h]

theorem find?_of_get {s : Store} {bucket : String} {b : Bucket} (h : s.buckets.get bucket = some b)
    (key : String) : s.find? bucket key = b.find? key := by
  simp [find?, h]

theorem find?_of_putObject {s s' : Store} {bucket key : String} {data : Bytes}
    (h : s.putObject bucket key data = (.ok (), s')) (bucket' key' : String) :
    s'.find? bucket' key' =
      if bucket' = bucket ∧ key' = key then some ⟨data, false⟩ else s.find? bucket' key' := by
  unfold putObject at h
  split at h
  · cases h
  · rename_i b hb
    split at h
    · cases h
    · cases h
      by_cases hbk : bucket' = bucket
      · subst hbk
        by_cases hk : key' = key <;> simp [hk, find?_of_get hb]
      · simp [hbk]

theorem putObject_of_respond_copyObject {pageSize : Nat} {s s' : Store}
    {source bucket key : String} {o : Unit}
    (h : respond pageSize (.copyObject source bucket key) s = (.ok o, s')) :
    ∃ srcBucket srcKey obj, decodeCopySource source = some (srcBucket, srcKey, none) ∧
      s.find? srcBucket srcKey = some obj ∧ s.putObject bucket key obj.data = (.ok (), s') := by
  simp only [respond] at h
  split at h
  · rename_i srcBucket srcKey hdecode
    split at h
    · exact ⟨srcBucket, srcKey, _, hdecode, ‹_›, h⟩
    · cases h
  · cases h
  · cases h

theorem find?_of_respond_deleteObject {pageSize : Nat} {s s' : Store} {bucket key : String}
    {o : Unit} (h : respond pageSize (.deleteObject bucket key) s = (.ok o, s'))
    (bucket' key' : String) :
    s'.find? bucket' key' = if bucket' = bucket ∧ key' = key then none else s.find? bucket' key' := by
  simp only [respond] at h
  split at h
  · cases h
  · rename_i b hb
    split at h
    · cases h
    · cases h
      by_cases hbk : bucket' = bucket
      · subst hbk
        by_cases hk : key' = key <;> simp [hk, find?_of_get hb]
      · simp [hbk]

theorem respond_deleteObject_of_locked {pageSize : Nat} {s : Store} {bucket key : String}
    {o : StoredObject} (h : s.find? bucket key = some o) (hlock : o.locked = true) :
    respond pageSize (.deleteObject bucket key) s = (.error accessDenied, s) := by
  cases hb : s.buckets.get bucket with
  | none => simp [find?, hb] at h
  | some b =>
      rw [find?_of_get hb] at h
      simp [respond, hb, h, hlock]

theorem find?_of_respond_deleteObjects {pageSize : Nat} {s s' : Store} {bucket : String}
    {keys : List String} {out : DeleteObjectsOutput}
    (h : respond pageSize (.deleteObjects bucket keys) s = (.ok out, s')) (herr : out.errors = [])
    (bucket' key : String) :
    s'.find? bucket' key = if bucket' = bucket ∧ key ∈ keys then none else s.find? bucket' key := by
  simp only [respond] at h
  split at h
  · cases h
  · rename_i b hb
    split at h
    · cases h
    · cases h
      by_cases hbk : bucket' = bucket
      · subst hbk
        by_cases hk : key ∈ keys
        · rw [Bucket.deleteKeys_errors, List.map_eq_nil_iff, List.filter_eq_nil_iff] at herr
          have hunlocked : (b.find? key).any (·.locked) = false := by simpa using herr key hk
          simp [hk, Bucket.find?_deleteKeys, hunlocked]
        · simp [hk, Bucket.find?_deleteKeys, find?_of_get hb]
      · simp [hbk]

@[simp] theorem setBucket_get (s : Store) (bucket bucket' : String) (b : Bucket) :
    (s.setBucket bucket b).buckets.get bucket' =
      if bucket' = bucket then some b else s.buckets.get bucket' := rfl

@[simp] theorem setBucket_setBucket (s : Store) (bucket : String) (b b' : Bucket) :
    (s.setBucket bucket b).setBucket bucket b' = s.setBucket bucket b' := by
  simp only [setBucket, Store.mk.injEq, and_true]
  exact Table.ext (funext fun k => by by_cases h : k = bucket <;> simp [h])

theorem ext_get {s₁ s₂ : Store} (hf : s₁.foreign = s₂.foreign)
    (h : ∀ b, s₁.buckets.get b = s₂.buckets.get b) : s₁ = s₂ := by
  cases s₁
  cases s₂
  simp only [Store.mk.injEq] at hf ⊢
  exact ⟨Table.ext (funext h), hf⟩

@[simp] theorem setBucket_foreign (s : Store) (bucket : String) (b : Bucket) :
    (s.setBucket bucket b).foreign = s.foreign := rfl

theorem putObject_foreign (s : Store) (bucket key : String) (data : Bytes) :
    (s.putObject bucket key data).2.foreign = s.foreign := by
  unfold putObject
  repeat' split
  all_goals rfl

@[simp] theorem respond_foreign (pageSize : Nat) (r : Request) (s : Store) :
    (respond pageSize r s).2.foreign = s.foreign := by
  cases r <;> simp only [respond] <;> (repeat' split) <;> simp [putObject_foreign]

theorem putObject_get_of_ne (s : Store) {bucket bucket' key : String} {data : Bytes}
    (h : bucket' ≠ bucket) :
    (s.putObject bucket key data).2.buckets.get bucket' = s.buckets.get bucket' := by
  unfold putObject
  split
  · rfl
  · split <;> simp [h]

theorem respond_get_of_ne (pageSize : Nat) (r : Request) (s : Store) {bucket : String}
    (h : bucket ≠ r.bucket) :
    (respond pageSize r s).2.buckets.get bucket = s.buckets.get bucket := by
  cases r <;> simp only [Request.bucket] at h <;> simp only [respond] <;> (repeat' split) <;>
    simp [h, putObject_get_of_ne]

theorem respond_of_isRead (pageSize : Nat) {r : Request} (hr : r.isRead = true) (s : Store) :
    (respond pageSize r s).2 = s := by
  cases r <;> simp only [Request.isRead, reduceCtorEq] at hr <;> simp only [respond] <;>
    (repeat' split) <;> rfl

theorem respond_of_error (pageSize : Nat) {r : Request} {s : Store} {e : SdkError}
    (h : (respond pageSize r s).1 = .error e) : (respond pageSize r s).2 = s := by
  revert h
  cases r <;> simp only [respond] <;> (repeat' split) <;> simp [putObject] <;> (repeat' split) <;>
    simp

theorem respond_get_isSome (pageSize : Nat) {r : Request} (hr : r.changesBuckets = false)
    (s : Store) (bucket : String) :
    ((respond pageSize r s).2.buckets.get bucket).isSome = (s.buckets.get bucket).isSome := by
  cases r <;> simp only [Request.changesBuckets, reduceCtorEq] at hr <;> simp only [respond] <;>
    (repeat' split) <;> simp [putObject] <;> (repeat' split) <;> simp_all <;> split <;> simp_all

theorem putObject_find?_of_locked (s : Store) {bucket key bucket' key' : String}
    {data data' : Bytes} (h : s.find? bucket' key' = some ⟨data', true⟩) :
    (s.putObject bucket key data).2.find? bucket' key' = some ⟨data', true⟩ := by
  unfold putObject
  split
  · exact h
  · rename_i b hb
    split
    · exact h
    · rename_i hlock
      rw [find?_setBucket]
      split
      · obtain rfl := ‹bucket' = bucket›
        rw [find?_of_get hb] at h
        rw [Bucket.find?_put, if_neg fun hk => by rw [← hk, h] at hlock; simp at hlock, h]
      · exact h

theorem respond_find?_of_locked (pageSize : Nat) (r : Request) {s : Store} {bucket key : String}
    {data : Bytes} (h : s.find? bucket key = some ⟨data, true⟩) :
    (respond pageSize r s).2.find? bucket key = some ⟨data, true⟩ := by
  cases r <;> simp only [respond] <;> (repeat' split) <;>
    first | exact h | exact putObject_find?_of_locked s h | skip
  case createBucket.isTrue.h_2.isFalse b _ _ hb _ =>
    rw [find?_setBucket, if_neg (by rintro rfl; simp [find?, hb] at h)]
    exact h
  case deleteBucket.h_2.isTrue b _ bk hb hempty =>
    have hne : bucket ≠ b := by rintro rfl; simp [find?_of_get hb, Bucket.find?, hempty] at h
    simpa [find?, hne] using h
  case deleteObject.h_2.isFalse b k _ bk hb hlock =>
    rw [find?_setBucket]
    split
    · subst_vars
      rw [find?_of_get hb] at h
      rw [Bucket.find?_erase, if_neg (by rintro rfl; simp [h] at hlock), h]
    · exact h
  case deleteObjects.h_2.isFalse b keys _ bk hb _ =>
    rw [find?_setBucket]
    split
    · subst_vars
      rw [find?_of_get hb] at h
      simp [Bucket.find?_deleteKeys, h]
    · exact h

end Store

/-- The object store as a backend; it answers every client alike. -/
def objectStore (pageSize : Nat) : Backend Store := ⟨fun _ r s => Store.respond pageSize r s⟩

@[simp] theorem objectStore_respond (pageSize : Nat) (client : S3Client) (r : Request) (s : Store) :
    (objectStore pageSize).respond client r s = Store.respond pageSize r s := rfl

end BlobstoreS3
