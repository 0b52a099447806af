import BlobstoreS3.Tasks

namespace BlobstoreS3

namespace Runtime

/-- A runtime of `plainProvider` over a store of the given buckets, with no task spawned yet. -/
def runtimeOf (buckets : List (String × Bucket)) : Runtime Store :=
  ⟨plainProvider, worldOf buckets, [], []⟩

/-- A host that refuses every link configuration; the runs below send no link command. -/
def refuseConfig (_ : ConfigValues) : Except Error StorageConfig := .error (Error.msg "refused")

theorem run_invariants (pageSize : Nat) (fromValues : ConfigValues → Except Error StorageConfig)
    {s s' : Runtime Store} {events : List RuntimeEvent}
    (h : run (objectStore pageSize) fromValues s events = some s') :
    (∀ bucket key data, s.world.store.find? bucket key = some ⟨data, true⟩ →
      s'.world.store.find? bucket key = some ⟨data, true⟩) ∧
    ((∀ op inv, RuntimeEvent.spawn op inv ∈ events → op.readOnly = true) →
      (∀ t ∈ s.tasks, t.op.readOnly = true) → s'.world.store = s.world.store) ∧
    ((∀ op inv, RuntimeEvent.spawn op inv ∈ events → op.managesContainers = false) →
      (∀ t ∈ s.tasks, t.op.managesContainers = false) →
      ∀ bucket, (s'.world.store.buckets.get bucket).isSome =
        (s.world.store.buckets.get bucket).isSome) := by
  refine ⟨fun bucket key data hlock => ?_, fun hspawn htasks => ?_, fun hspawn htasks => ?_⟩
  · exact run_preserves (P := fun _ => True)
      (I := fun st => st.find? bucket key = some ⟨data, true⟩) fromValues
      (fun _ _ call _ _ hst => Store.respond_find?_of_locked pageSize call.request hst) h
      (fun _ _ _ => trivial) (fun _ _ => trivial) hlock
  · refine run_preserves (I := (· = s.world.store)) fromValues ?_ h hspawn htasks rfl
    rintro op hop call hperm _ rfl
    exact Store.respond_of_isRead pageSize (hperm.read hop) _
  · refine run_preserves (I := fun st => ∀ bucket, (st.buckets.get bucket).isSome =
      (s.world.store.buckets.get bucket).isSome) fromValues ?_ h hspawn htasks fun _ => rfl
    intro op hop call hperm st hst bucket
    have hr : call.request.changesBuckets = false := by
      cases hc : call.request.changesBuckets
      · rfl
      · exact absurd (hperm.buckets hc) (by simp [hop])
    rw [objectStore_respond, Store.respond_get_isSome pageSize hr, hst]

/-- A bucket with one object under a retention lock. -/
def lockedPair : Bucket := ⟨[("k", ⟨[1], true⟩), ("j", ⟨[2], false⟩)], by decide⟩

/-- An attempt to delete the locked object. -/
def deleteLockedRun : List RuntimeEvent :=
  [.spawn .deleteObject ⟨actorContext, ⟨"b", "k"⟩⟩, .advance 0]

theorem run_invariants_deleteLocked :
    ∃ s', run (objectStore s3PageSize) refuseConfig (runtimeOf [("b", lockedPair)])
        deleteLockedRun = some s' ∧
      (∀ bucket key data, (runtimeOf [("b", lockedPair)]).world.store.find? bucket key =
          some ⟨data, true⟩ → s'.world.store.find? bucket key = some ⟨data, true⟩) ∧
      ((∀ op inv, RuntimeEvent.spawn op inv ∈ deleteLockedRun → op.readOnly = true) →
        (∀ t ∈ (runtimeOf [("b", lockedPair)]).tasks, t.op.readOnly = true) →
        s'.world.store = (runtimeOf [("b", lockedPair)]).world.store) ∧
      ((∀ op inv, RuntimeEvent.spawn op inv ∈ deleteLockedRun →
          op.managesContainers = false) →
        (∀ t ∈ (runtimeOf [("b", lockedPair)]).tasks, t.op.managesContainers = false) →
        ∀ bucket, (s'.world.store.buckets.get bucket).isSome =
          ((runtimeOf [("b", lockedPair)]).world.store.buckets.get bucket).isSome) :=
  ⟨_, rfl, run_invariants s3PageSize refuseConfig rfl⟩

theorem move_loses_concurrent_write (pageSize : Nat)
    (fromValues : ConfigValues → Except Error StorageConfig) (s : Runtime Store)
    (moveContext writeContext : Option Context) (src dest : ObjectId) (data x : Bytes)
    (client writer : StorageClient) (db : Bucket)
    (hclient : s.provider.client moveContext = .ok client)
    (hwriter : s.provider.client writeContext = .ok writer)
    (hsame : writer.unalias src.container = client.unalias src.container)
    (hsrc : s.world.store.find? (client.unalias src.container) src.object = some ⟨x, false⟩)
    (hsource : decodeCopySource (copySource (client.unalias src.container) src.object) =
      some (client.unalias src.container, src.object, none))
    (hne : (client.unalias src.container, src.object) ≠
      (client.unalias dest.container, dest.object))
    (hdb : s.world.store.buckets.get (client.unalias dest.container) = some db)
    (hdest : (db.find? dest.object).any (·.locked) = false) (htasks : s.tasks = []) :
    ∃ s', run (objectStore pageSize) fromValues s
        [.spawn .moveObject ⟨moveContext, (src, dest)⟩,
          .spawn .writeContainerData ⟨writeContext, (src, [.ok data])⟩,
          .advance 0, .advance 1, .advance 0] = some s' ∧
      s'.transmitted = s.transmitted ++ [.ok (.result (.ok .unit)), .ok (.result (.ok .unit))] ∧
      s'.world.store.find? (client.unalias src.container) src.object = none ∧
      s'.world.store.find? (client.unalias dest.container) dest.object = some ⟨x, false⟩ := by
  have hkey : ¬ (client.unalias src.container = client.unalias dest.container ∧
      src.object = dest.object) := fun ⟨h1, h2⟩ => hne (by rw [h1, h2])
  -- the copy puts the source's data under the destination
  have hput₁ : s.world.store.putObject (client.unalias dest.container) dest.object x =
      (.ok (), s.world.store.setBucket (client.unalias dest.container)
        (db.put dest.object ⟨x, false⟩)) := by
    simp [Store.putObject, hdb, hdest]
  generalize hS₁ : s.world.store.setBucket (client.unalias dest.container)
    (db.put dest.object ⟨x, false⟩) = S₁ at hput₁
  have hfind₁ := Store.find?_of_putObject hput₁
  have hsrc₁ : S₁.find? (client.unalias src.container) src.object = some ⟨x, false⟩ := by
    rw [hfind₁, if_neg hkey, hsrc]
  -- the write puts its data under the source
  obtain ⟨b₁, hb₁, hf₁⟩ := Option.bind_eq_some.mp hsrc₁
  have hput₂ : S₁.putObject (client.unalias src.container) src.object data =
      (.ok (), S₁.setBucket (client.unalias src.container) (b₁.put src.object ⟨data, false⟩)) := by
    simp [Store.putObject, hb₁, hf₁]
  -- the move's delete then removes the source
  have hdel : Store.respond pageSize (.deleteObject (client.unalias src.container) src.object)
      (S₁.setBucket (client.unalias src.container) (b₁.put src.object ⟨data, false⟩)) =
      (.ok (), (S₁.setBucket (client.unalias src.container) (b₁.put src.object ⟨data, false⟩)).setBucket
        (client.unalias src.container) ((b₁.put src.object ⟨data, false⟩).erase src.object)) := by
    simp [Store.respond]
  generalize S₁.setBucket (client.unalias src.container) (b₁.put src.object ⟨data, false⟩) = S₂
    at hput₂ hdel
  generalize hS₃ : S₂.setBucket (client.unalias src.container)
    ((b₁.put src.object ⟨data, false⟩).erase src.object) = S₃ at hdel
  have hA : exec (s.provider.beginMove (objectStore pageSize) ⟨moveContext, (src, dest)⟩) s.world =
      (.ok (.deleteSource client src), ⟨S₁, s.world.calls ++ [⟨client.s3Client,
        .copyObject (copySource (client.unalias src.container) src.object)
          (client.unalias dest.container) dest.object⟩]⟩) := by
    simp [Provider.beginMove, hclient, StorageClient.copyObject, Store.respond, hsource, hsrc, hput₁,
      Except.map]
  have hB : ∀ calls, exec (s.provider.serve (objectStore pageSize) .writeContainerData
      ⟨writeContext, (src, [.ok data])⟩) ⟨S₁, calls⟩ = (.ok (.result (.ok .unit)), ⟨S₂, calls ++
        [⟨writer.s3Client, .putObject (client.unalias src.container) src.object data⟩]⟩) := by
    simp [Provider.serve, Provider.serveWriteContainerData, tryCollect, hwriter, hsame,
      Store.respond, hput₂, Except.map]
  have hC : ∀ calls, exec ((Pending.deleteSource client src).finish (objectStore pageSize))
      ⟨S₂, calls⟩ = (.ok (.result (.ok .unit)), ⟨S₃, calls ++
        [⟨client.s3Client, .deleteObject (client.unalias src.container) src.object⟩]⟩) := by
    simp [Pending.finish, StorageClient.deleteObject, hdel, Except.map]
  refine ⟨⟨s.provider, ⟨S₃, s.world.calls ++ [⟨client.s3Client,
      .copyObject (copySource (client.unalias src.container) src.object)
        (client.unalias dest.container) dest.object⟩] ++
      [⟨writer.s3Client, .putObject (client.unalias src.container) src.object data⟩] ++
      [⟨client.s3Client, .deleteObject (client.unalias src.container) src.object⟩]⟩, [],
      s.replies ++ [(⟨.writeContainerData, ⟨writeContext, (src, [.ok data])⟩⟩, .ok (.result (.ok .unit))),
        (⟨.moveObject, ⟨moveContext, (src, dest)⟩⟩, .ok (.result (.ok .unit)))]⟩, ?_,
      by simp [Runtime.transmitted], ?_, ?_⟩
  · simp [run, step, htasks, Task.step, Task.origin, hA, hB, hC, Progress.ofBegin]
  · exact (Store.find?_of_respond_deleteObject hdel _ _).trans (if_pos ⟨rfl, rfl⟩)
  · have hdest' : ¬ (client.unalias dest.container = client.unalias src.container ∧
        dest.object = src.object) := fun h => hkey ⟨h.1.symm, h.2.symm⟩
    rw [Store.find?_of_respond_deleteObject hdel, if_neg hdest', Store.find?_of_putObject hput₂,
      if_neg hdest', hfind₁, if_pos ⟨rfl, rfl⟩]

theorem move_loses_concurrent_write_sample :
    ∃ s', run (objectStore s3PageSize) refuseConfig
        (runtimeOf [("a", ⟨[("k", ⟨[7], false⟩)], by decide⟩), ("b", Bucket.empty)])
        [.spawn .moveObject ⟨actorContext, (⟨"a", "k"⟩, ⟨"b", "k"⟩)⟩,
          .spawn .writeContainerData ⟨actorContext, (⟨"a", "k"⟩, [.ok [9]])⟩,
          .advance 0, .advance 1, .advance 0] = some s' ∧
      s'.transmitted = [] ++ [.ok (.result (.ok .unit)), .ok (.result (.ok .unit))] ∧
      s'.world.store.find? (plainClient.unalias "a") "k" = none ∧
      s'.world.store.find? (plainClient.unalias "b") "k" = some ⟨[7], false⟩ :=
  move_loses_concurrent_write s3PageSize refuseConfig _ actorContext actorContext ⟨"a", "k"⟩
    ⟨"b", "k"⟩ [9] [7] plainClient plainClient Bucket.empty rfl rfl rfl rfl (by decide) (by decide)
    rfl rfl rfl

theorem link_comm_advance {σ : Type} (B : Backend σ)
    (fromValues : ConfigValues → Except Error StorageConfig) (s : Runtime σ) (e : LinkEvent)
    {i : Nat} {t : Task} (hi : s.tasks[i]? = some t)
    (ht : ∀ op inv, t = .start op inv →
      ∀ a, inv.context.bind Context.actor = some a → ¬ Provider.Affects fromValues a e) :
    run B fromValues s [.link e, .advance i] = run B fromValues s [.advance i, .link e] := by
  have hstep : t.step B (s.provider.handle fromValues e) = t.step B s.provider :=
    Task.step_congr B _ _ t fun op inv h a ha =>
      s.provider.handle_get_of_not_affects fromValues (ht op inv h a ha)
  simp only [run, step, Option.bind, hi, hstep]
  rcases t.step B s.provider s.world with ⟨_ | _, _⟩ <;> rfl

/-- A move between its copy and its delete. -/
def pendingMove : Runtime Store :=
  ⟨plainProvider, worldOf [("b", lockedPair)],
    [.pending ⟨.moveObject, ⟨actorContext, (⟨"b", "j"⟩, ⟨"b", "m"⟩)⟩⟩
      (.deleteSource plainClient ⟨"b", "j"⟩)], []⟩

theorem link_comm_advance_pendingMove :
    run (objectStore s3PageSize) refuseConfig pendingMove
        [.link (.deleteLink "actor"), .advance 0] =
      run (objectStore s3PageSize) refuseConfig pendingMove
        [.advance 0, .link (.deleteLink "actor")] :=
  link_comm_advance (objectStore s3PageSize) refuseConfig pendingMove (.deleteLink "actor") rfl
    fun _ _ h => nomatch h

end Runtime

end BlobstoreS3
