import BlobstoreS3.Client

namespace BlobstoreS3

/-- The range of a ranged `GetObject`, sent as the header `bytes={first}-{last}`. -/
structure ByteRange where
  first : Nat
  last : Nat
  deriving DecidableEq, Repr

/-- A request sent through an `aws_sdk_s3::Client`. -/
inductive Request
  | headBucket (bucket : String)
  | createBucket (bucket : String)
  | deleteBucket (bucket : String)
  | listObjectsV2 (bucket : String) (maxKeys : Option Nat)
  | copyObject (copySource bucket key : String)
  | deleteObject (bucket key : String)
  | deleteObjects (bucket : String) (keys : List String)
  | headObject (bucket key : String)
  | getObject (bucket key : String) (range : ByteRange)
  | putObject (bucket key : String) (body : Bytes)
  deriving DecidableEq, Repr

/-- `aws_sdk_s3::types::Object`, by the field the code reads. -/
structure S3Object where
  key : Option String
  deriving DecidableEq, Repr

/-- `ListObjectsV2Output`, by the field the code reads: it reads neither `is_truncated` nor the
continuation token. -/
structure ListObjectsV2Output where
  contents : Option (List S3Object)
  deriving DecidableEq, Repr

/-- `aws_sdk_s3::types::Error`: a key a `DeleteObjects` request could not delete. -/
structure DeleteError where
  key : Option String
  code : Option String
  deriving DecidableEq, Repr

/-- `DeleteObjectsOutput`, by `errors()`. -/
structure DeleteObjectsOutput where
  errors : List DeleteError
  deriving DecidableEq, Repr

/-- `HeadObjectOutput`, by `content_length`. -/
structure HeadObjectOutput where
  contentLength : Option Int
  deriving DecidableEq, Repr

/-- `GetObjectOutput`, by its body. -/
structure GetObjectOutput where
  body : Bytes
  deriving DecidableEq, Repr

/-- The output of a request, by the fields the code reads; `Unit` where it reads none. -/
def Request.Output : Request → Type
  | .listObjectsV2 .. => ListObjectsV2Output
  | .deleteObjects .. => DeleteObjectsOutput
  | .headObject .. => HeadObjectOutput
  | .getObject .. => GetObjectOutput
  | _ => Unit

/-- The service errors the code tells apart: `NotFound` of `HeadBucket` and `HeadObject`,
`BucketAlreadyOwnedByYou` of `CreateBucket`, and any other by its code. -/
inductive ServiceError
  | notFound
  | bucketAlreadyOwnedByYou
  | other (code : String)
  deriving DecidableEq, Repr

/-- `SdkError`: an error the service returned, or a failure to reach it. -/
inductive SdkError
  | serviceError (err : ServiceError)
  | other (message : String)
  deriving DecidableEq, Repr

/-- What the SDK prints for an error. -/
def SdkError.describe : SdkError → String
  | .serviceError .notFound => "NotFound"
  | .serviceError .bucketAlreadyOwnedByYou => "BucketAlreadyOwnedByYou"
  | .serviceError (.other code) => code
  | .other message => message

/-- An S3 service: its answer to a request arriving through a client, and its next state. -/
structure Backend (σ : Type) where
  respond : S3Client → (r : Request) → σ → Except SdkError r.Output × σ

/-- One request, with the client it was sent through. -/
structure Call where
  client : S3Client
  request : Request
  deriving DecidableEq, Repr

/-- The backend's state and the log of the requests sent so far. -/
structure World (σ : Type) where
  store : σ
  calls : List Call

/-- An `async` block returning `anyhow::Result`, run against the backend. -/
abbrev S3M (σ : Type) := ExceptT Error (StateM (World σ))

variable {σ α β : Type}

/-- Run a computation from a world. -/
def exec (m : S3M σ α) (w : World σ) : Except Error α × World σ := m.run.run w

/-- `.send().await`: the request is answered by the backend and logged. -/
def send (B : Backend σ) (client : S3Client) (r : Request) :
    S3M σ (Except SdkError r.Output) :=
  modifyGet fun w =>
    let (out, store) := B.respond client r w.store
    (out, { store, calls := w.calls ++ [⟨client, r⟩] })

/-- `.context(msg)?` on the result of a request. -/
def orContext (r : Except SdkError α) (msg : String) : S3M σ α :=
  match r with
  | .ok a => pure a
  | .error e => throw ((Error.msg e.describe).context msg)

/-- `.context(msg)` on the result of an awaited computation. -/
def S3M.context (m : S3M σ α) (msg : String) : S3M σ α :=
  ExceptT.adapt (fun e => e.context msg) m

@[simp] theorem exec_pure (a : α) (w : World σ) : exec (pure a : S3M σ α) w = (.ok a, w) := rfl

@[simp] theorem exec_throw (e : Error) (w : World σ) :
    exec (throw e : S3M σ α) w = (.error e, w) := rfl

@[simp] theorem exec_bind (x : S3M σ α) (f : α → S3M σ β) (w : World σ) :
    exec (x >>= f) w = match exec x w with
      | (.ok a, w') => exec (f a) w'
      | (.error e, w') => (.error e, w') := by
  simp only [exec, ExceptT.run_bind, StateT.run_bind]
  generalize StateT.run (ExceptT.run x) w = p
  rcases p with ⟨_ | _, _⟩ <;> rfl

@[simp] theorem exec_map (f : α → β) (x : S3M σ α) (w : World σ) :
    exec (f <$> x) w = ((exec x w).1.map f, (exec x w).2) := by
  simp only [exec, ExceptT.run_map, StateT.run_map]
  rfl

@[simp] theorem exec_send (B : Backend σ) (client : S3Client) (r : Request) (w : World σ) :
    exec (send B client r) w =
      (.ok (B.respond client r w.store).1,
        { store := (B.respond client r w.store).2, calls := w.calls ++ [⟨client, r⟩] }) := rfl

@[simp] theorem exec_orContext_ok (a : α) (msg : String) (w : World σ) :
    exec (orContext (.ok a) msg) w = (.ok a, w) := rfl

@[simp] theorem exec_orContext_error (e : SdkError) (msg : String) (w : World σ) :
    exec (orContext (.error e : Except SdkError α) msg) w =
      (.error ((Error.msg e.describe).context msg), w) := rfl

@[simp] theorem exec_context (m : S3M σ α) (msg : String) (w : World σ) :
    exec (m.context msg) w = match exec m w with
      | (.ok a, w') => (.ok a, w')
      | (.error e, w') => (.error (e.context msg), w') := by
  simp only [exec, S3M.context, ExceptT.adapt, ExceptT.run, ExceptT.mk, StateT.run,
    Functor.map, StateT.map]
  generalize m w = p
  rcases p with ⟨_ | _, _⟩ <;> rfl

theorem exec_bind_eq_ok {x : S3M σ α} {f : α → S3M σ β} {w w'' : World σ} {b : β} :
    exec (x >>= f) w = (.ok b, w'') ↔
      ∃ a w', exec x w = (.ok a, w') ∧ exec (f a) w' = (.ok b, w'') := by
  rw [exec_bind]
  rcases exec x w with ⟨_ | a, w'⟩ <;> simp [and_assoc]

theorem exec_orContext_eq_ok {r : Except SdkError α} {msg : String} {w w' : World σ} {a : α} :
    exec (orContext r msg) w = (.ok a, w') ↔ r = .ok a ∧ w' = w := by
  cases r <;> simp [eq_comm]

theorem exec_context_eq_ok {m : S3M σ α} {msg : String} {w w' : World σ} {a : α} :
    exec (m.context msg) w = (.ok a, w') ↔ exec m w = (.ok a, w') := by
  rw [exec_context]
  rcases exec m w with ⟨_ | a, w'⟩ <;> simp

theorem exec_sendContext_eq_ok {B : Backend σ} {c : S3Client} {r : Request} {msg : String}
    {w w' : World σ} {u : Unit} :
    exec (send B c r >>= fun x => orContext x msg >>= fun _ => pure ()) w = (.ok u, w') ↔
      ∃ o, B.respond c r w.store = (.ok o, w'.store) ∧ w'.calls = w.calls ++ [⟨c, r⟩] := by
  simp only [exec_bind_eq_ok, exec_send, exec_orContext_eq_ok, exec_pure, Prod.mk.injEq]
  rcases w' with ⟨s', calls'⟩
  rcases B.respond c r w.store with ⟨_ | o, s⟩ <;> simp [and_assoc, eq_comm]

/-- The backend's state after it answers `calls` in order. -/
def replay (B : Backend σ) (calls : List Call) (s : σ) : σ :=
  calls.foldl (fun s call => (B.respond call.client call.request s).2) s

@[simp] theorem replay_nil (B : Backend σ) (s : σ) : replay B [] s = s := rfl

@[simp] theorem replay_append (B : Backend σ) (calls calls' : List Call) (s : σ) :
    replay B (calls ++ calls') s = replay B calls' (replay B calls s) :=
  List.foldl_append _ _ _ _

@[simp] theorem replay_cons (B : Backend σ) (call : Call) (calls : List Call) (s : σ) :
    replay B (call :: calls) s = replay B calls (B.respond call.client call.request s).2 := rfl

theorem replay_preserves {B : Backend σ} {I : σ → Prop} {calls : List Call}
    (h : ∀ call ∈ calls, ∀ s, I s → I (B.respond call.client call.request s).2) {s : σ}
    (hs : I s) : I (replay B calls s) := by
  induction calls generalizing s with
  | nil => exact hs
  | cons call calls ih =>
      exact ih (fun c hc => h c (List.mem_cons_of_mem _ hc)) (h call (List.mem_cons_self _ _) s hs)

/-- `m` reaches the backend only through requests that satisfy `P`: each run appends the requests
it sends to the log, and leaves the backend where answering them in order leaves it. -/
def SendsOnly (B : Backend σ) (P : Call → Prop) (m : S3M σ α) : Prop :=
  ∀ w, ∃ new, (exec m w).2 = ⟨replay B new w.store, w.calls ++ new⟩ ∧ ∀ call ∈ new, P call

/-- Every request `m` sends goes through `client`, and the log of earlier requests is kept. -/
def SendsThrough (client : S3Client) (m : S3M σ α) : Prop :=
  ∀ w, ∃ new, (exec m w).2.calls = w.calls ++ new ∧ ∀ call ∈ new, call.client = client

namespace SendsOnly

variable {B : Backend σ} {P Q : Call → Prop}

theorem pure (a : α) : SendsOnly B P (Pure.pure a : S3M σ α) :=
  fun w => ⟨[], by simp, by simp⟩

theorem throw (e : Error) : SendsOnly B P (MonadExcept.throw e : S3M σ α) :=
  fun w => ⟨[], by simp, by simp⟩

theorem send {client : S3Client} {r : Request} (h : P ⟨client, r⟩) :
    SendsOnly B P (BlobstoreS3.send B client r) :=
  fun w => ⟨[⟨client, r⟩], rfl, by simpa using h⟩

theorem orContext (r : Except SdkError α) (msg : String) :
    SendsOnly B P (BlobstoreS3.orContext r msg : S3M σ α) := by
  cases r
  · exact throw _
  · exact pure _

theorem bind {x : S3M σ α} {f : α → S3M σ β} (hx : SendsOnly B P x)
    (hf : ∀ a, SendsOnly B P (f a)) : SendsOnly B P (x >>= f) := by
  intro w
  obtain ⟨new, hnew, hP⟩ := hx w
  rw [exec_bind]
  rcases hexec : exec x w with ⟨_ | a, w'⟩
  · rw [hexec] at hnew
    exact ⟨new, hnew, hP⟩
  · rw [hexec] at hnew
    obtain rfl : w' = _ := hnew
    obtain ⟨new', hnew', hP'⟩ := hf a ⟨replay B new w.store, w.calls ++ new⟩
    refine ⟨new ++ new', by simpa using hnew', ?_⟩
    simp only [List.mem_append]
    rintro call (h | h)
    exacts [hP call h, hP' call h]

theorem context {m : S3M σ α} (hm : SendsOnly B P m) (msg : String) :
    SendsOnly B P (m.context msg) := by
  intro w
  obtain ⟨new, hnew, hP⟩ := hm w
  refine ⟨new, ?_, hP⟩
  rw [exec_context]
  rcases hexec : exec m w with ⟨_ | _, _⟩ <;> simpa [hexec] using hnew

theorem mono {m : S3M σ α} (hm : SendsOnly B P m) (hPQ : ∀ call, P call → Q call) :
    SendsOnly B Q m :=
  fun w => let ⟨new, hnew, hP⟩ := hm w; ⟨new, hnew, fun call h => hPQ call (hP call h)⟩

theorem preserves {m : S3M σ α} (hm : SendsOnly B P m) {I : σ → Prop}
    (hI : ∀ call, P call → ∀ s, I s → I (B.respond call.client call.request s).2) (w : World σ)
    (hw : I w.store) : I (exec m w).2.store := by
  obtain ⟨new, hnew, hP⟩ := hm w
  rw [hnew]
  exact replay_preserves (fun call hc => hI call (hP call hc)) hw

theorem sendsThrough {m : S3M σ α} {client : S3Client} (hm : SendsOnly B P m)
    (hP : ∀ call, P call → call.client = client) : SendsThrough client m :=
  fun w => let ⟨new, hnew, hc⟩ := hm w; ⟨new, by rw [hnew], fun call h => hP call (hc call h)⟩

end SendsOnly

end BlobstoreS3
