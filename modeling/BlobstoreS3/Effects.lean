import BlobstoreS3.ObjectData
import BlobstoreS3.Registry

namespace BlobstoreS3

namespace Store

theorem respond_ok_or_unchanged (pageSize : Nat) (r : Request) (s : Store) :
    (∃ o, (respond pageSize r s).1 = .ok o) ∨ (respond pageSize r s).2 = s := by
  rcases h : (respond pageSize r s).1 with e | o
  · exact .inr (respond_of_error pageSize h)
  · exact .inl ⟨o, rfl⟩

end Store

variable {α : Type}

theorem exec_send_bind_ok_or_unchanged (pageSize : Nat) {c : S3Client} {r : Request}
    {g : Except SdkError r.Output → S3M Store α} (hg : ∀ o w, ∃ a, exec (g (.ok o)) w = (.ok a, w))
    (hw : ∀ x w, (exec (g x) w).2 = w) (w : World Store) :
    (∃ a, (exec (send (objectStore pageSize) c r >>= g) w).1 = .ok a) ∨
      (exec (send (objectStore pageSize) c r >>= g) w).2.store = w.store := by
  rw [exec_bind, exec_send]
  rcases Store.respond_ok_or_unchanged pageSize r w.store with ⟨o, ho⟩ | hs
  · obtain ⟨a, ha⟩ := hg o ⟨(Store.respond pageSize r w.store).2, w.calls ++ [⟨c, r⟩]⟩
    exact .inl ⟨a, by simp only [objectStore_respond, ho, ha]⟩
  · exact .inr (by simp only [hw, objectStore_respond, hs])

theorem exec_transmit_ok_or_unchanged {v : α → Value} {body : S3M Store α} {w : World Store}
    (h : (∃ a, (exec body w).1 = .ok a) ∨ (exec body w).2.store = w.store) :
    (∃ val, (exec (transmit v body) w).1 = .ok (.result (.ok val))) ∨
      (exec (transmit v body) w).2.store = w.store := by
  rw [exec_transmit]
  rcases h with ⟨a, ha⟩ | h
  · exact .inl ⟨v a, by rw [ha]; rfl⟩
  · exact .inr h

namespace Provider

theorem serve_store_of_readOnly (pageSize : Nat) (self : Provider) {op : Operation}
    (hro : op.readOnly = true) (inv : AcceptedInvocation op.Params) (w : World Store) :
    (exec (self.serve (objectStore pageSize) op inv) w).2.store = w.store := by
  refine (self.serve_sendsOnly (objectStore pageSize) op inv).preserves (I := (· = w.store)) ?_ w rfl
  rintro call ⟨client, hc, hallows⟩ _ rfl
  exact Store.respond_of_isRead pageSize (hallows.read hro) w.store

theorem serve_frame (pageSize : Nat) (self : Provider) (op : Operation)
    (inv : AcceptedInvocation op.Params) (w : World Store) :
    (∀ bucket, (∀ client, self.client inv.context = .ok client →
        bucket ∉ (op.containers inv.params).map client.unalias) →
      (exec (self.serve (objectStore pageSize) op inv) w).2.store.buckets.get bucket =
        w.store.buckets.get bucket) ∧
    (op.readOnly = true → (exec (self.serve (objectStore pageSize) op inv) w).2.store = w.store) := by
  refine ⟨fun bucket hb => (self.serve_sendsOnly (objectStore pageSize) op inv).preserves
    (I := fun s => s.buckets.get bucket = w.store.buckets.get bucket) ?_ w rfl,
    fun hro => serve_store_of_readOnly pageSize self hro inv w⟩
  rintro call ⟨client, hc, hallows⟩ s hs
  rw [objectStore_respond, Store.respond_get_of_ne pageSize _ s fun h =>
    hb client hc (by rw [h]; exact hallows.named), hs]

theorem serve_ok_or_unchanged (pageSize : Nat) (self : Provider) (op : Operation)
    (inv : AcceptedInvocation op.Params) (w : World Store)
    (hop : op ≠ .clearContainer ∧ op ≠ .deleteObjects ∧ op ≠ .moveObject) :
    (∃ v, (exec (self.serve (objectStore pageSize) op inv) w).1 = .ok (.result (.ok v))) ∨
      (exec (self.serve (objectStore pageSize) op inv) w).2.store = w.store := by
  cases hro : op.readOnly
  case true => exact .inr (serve_store_of_readOnly pageSize self hro inv w)
  rcases hc : self.client inv.context with err | client
  · exact .inr (by rw [(serve_of_client_error (objectStore pageSize) self op inv hc w).1])
  obtain ⟨context, params⟩ := inv
  cases op <;> simp only [Operation.readOnly, reduceCtorEq] at hro <;> simp at hop <;>
    simp only [serve, serveCreateContainer, serveDeleteContainer, serveCopyObject,
      serveDeleteObject, hc, liftExcept_ok_bind]
  case createContainer | deleteContainer =>
    refine exec_transmit_ok_or_unchanged (exec_send_bind_ok_or_unchanged pageSize ?_ ?_ w)
    · exact fun _ _ => ⟨(), rfl⟩
    · exact fun _ _ => by split <;> rfl
  case copyObject | deleteObject =>
    refine exec_transmit_ok_or_unchanged (exec_send_bind_ok_or_unchanged pageSize ?_ ?_ w)
    · exact fun _ _ => ⟨(), rfl⟩
    · exact fun x _ => by cases x <;> rfl
  case writeContainerData =>
    obtain ⟨id, data⟩ := params
    simp only [serveWriteContainerData]
    split
    · exact .inr rfl
    · simp only [hc, liftExcept_ok_bind]
      refine exec_transmit_ok_or_unchanged (exec_send_bind_ok_or_unchanged pageSize ?_ ?_ w)
      · exact fun _ _ => ⟨(), rfl⟩
      · exact fun x _ => by cases x <;> rfl

theorem serve_ok_or_unchanged_createContainer :
    (Operation.createContainer ≠ .clearContainer ∧ Operation.createContainer ≠ .deleteObjects ∧
      Operation.createContainer ≠ .moveObject) ∧
    ((∃ v, (exec (plainProvider.serve (objectStore s3PageSize) .createContainer
        ⟨actorContext, "b"⟩) (worldOf [])).1 = .ok (.result (.ok v))) ∨
      (exec (plainProvider.serve (objectStore s3PageSize) .createContainer ⟨actorContext, "b"⟩)
        (worldOf [])).2.store = (worldOf []).store) :=
  ⟨by decide, serve_ok_or_unchanged s3PageSize plainProvider .createContainer ⟨actorContext, "b"⟩
    (worldOf []) (by decide)⟩

end Provider

end BlobstoreS3
