import BlobstoreS3.Footprint

namespace BlobstoreS3

/-- A link command of the host. -/
inductive LinkEvent
  | receiveLinkConfigAsTarget (sourceId : String) (values : ConfigValues)
  | deleteLink (sourceId : String)
  | shutdown

namespace Provider

/-- `BlobstoreS3Provider::default()`. -/
def default : Provider := ⟨Table.empty⟩

section Lifecycle

variable (fromValues : ConfigValues → Except Error StorageConfig)

/-- `ProviderHandler::receive_link_config_as_target`: a configuration that does not build is
refused and the table is left as it was. -/
def receiveLinkConfigAsTarget (self : Provider) (sourceId : String) (values : ConfigValues) :
    Except Error Provider :=
  match fromValues values with
  | .error e => .error (e.context "failed to build source config")
  | .ok config => .ok ⟨self.actors.insert sourceId (StorageClient.new config values)⟩

/-- `ProviderHandler::delete_link`. -/
def deleteLink (self : Provider) (sourceId : String) : Provider :=
  ⟨self.actors.remove sourceId⟩

/-- `ProviderHandler::shutdown`: the table is drained. -/
def shutdown (_self : Provider) : Provider := ⟨Table.empty⟩

/-- The provider after one link command. -/
def handle (self : Provider) : LinkEvent → Provider
  | .receiveLinkConfigAsTarget sourceId values =>
      match self.receiveLinkConfigAsTarget fromValues sourceId values with
      | .ok p => p
      | .error _ => self
  | .deleteLink sourceId => self.deleteLink sourceId
  | .shutdown => self.shutdown

/-- The provider after a sequence of link commands. -/
def run (self : Provider) (events : List LinkEvent) : Provider :=
  events.foldl (handle fromValues) self

/-- Whether a command takes effect on the entry of actor `a`: a link of `a` whose configuration
builds, a delete of `a`, or a shutdown. -/
def Affects (a : String) : LinkEvent → Prop
  | .receiveLinkConfigAsTarget sourceId values =>
      sourceId = a ∧ ∃ config, fromValues values = .ok config
  | .deleteLink sourceId => sourceId = a
  | .shutdown => True

/-- The entry a command that affects `a` leaves for `a`. -/
def entryAfter (a : String) : LinkEvent → Option StorageClient
  | .receiveLinkConfigAsTarget sourceId values =>
      match fromValues values with
      | .ok config => if sourceId = a then some (StorageClient.new config values) else none
      | .error _ => none
  | _ => none

theorem handle_get_of_not_affects (self : Provider) {a : String} {e : LinkEvent}
    (h : ¬ Affects fromValues a e) :
    (self.handle fromValues e).actors.get a = self.actors.get a := by
  cases e with
  | receiveLinkConfigAsTarget sourceId values =>
      simp only [handle, receiveLinkConfigAsTarget]
      cases hv : fromValues values with
      | error => rfl
      | ok config =>
          have : a ≠ sourceId := fun ha => h ⟨ha.symm, config, hv⟩
          simp [this]
  | deleteLink sourceId =>
      have : a ≠ sourceId := fun ha => h ha.symm
      simp [handle, deleteLink, this]
  | shutdown => exact absurd trivial h

theorem handle_get_of_affects (self : Provider) {a : String} {e : LinkEvent}
    (h : Affects fromValues a e) :
    (self.handle fromValues e).actors.get a = entryAfter fromValues a e := by
  cases e with
  | receiveLinkConfigAsTarget sourceId values =>
      obtain ⟨rfl, config, hv⟩ := h
      simp [handle, receiveLinkConfigAsTarget, entryAfter, hv]
  | deleteLink sourceId =>
      cases h
      simp [handle, deleteLink, entryAfter]
  | shutdown => rfl

theorem run_append_singleton (self : Provider) (events : List LinkEvent) (e : LinkEvent) :
    self.run fromValues (events ++ [e]) = (self.run fromValues events).handle fromValues e := by
  simp [run]

theorem append_cons_eq_append_singleton {pre post events : List LinkEvent} {x e : LinkEvent}
    (h : pre ++ x :: post = events ++ [e]) :
    (post = [] ∧ pre = events ∧ x = e) ∨ ∃ post', post = post' ++ [e] ∧ pre ++ x :: post' = events := by
  rcases List.eq_nil_or_concat post with rfl | ⟨post', e', rfl⟩
  · obtain ⟨hpre, hx⟩ := List.append_inj' h rfl
    cases hx
    exact .inl ⟨rfl, hpre, rfl⟩
  · rw [List.concat_eq_append, ← List.cons_append, ← List.append_assoc] at h
    obtain ⟨hpre, he⟩ := List.append_inj' h rfl
    cases he
    exact .inr ⟨post', List.concat_eq_append _ _, hpre⟩

theorem run_get_eq_some_iff (events : List LinkEvent) (a : String) (client : StorageClient) :
    (default.run fromValues events).actors.get a = some client ↔
      ∃ pre values config post,
        events = pre ++ .receiveLinkConfigAsTarget a values :: post ∧
        fromValues values = .ok config ∧ client = StorageClient.new config values ∧
        ∀ e ∈ post, ¬ Affects fromValues a e := by
  induction events using List.reverseRecOn with
  | nil => simp [run, default]
  | append_singleton events e ih =>
      rw [run_append_singleton]
      by_cases he : Affects fromValues a e
      · rw [handle_get_of_affects _ _ he]
        constructor
        · intro hentry
          cases e with
          | receiveLinkConfigAsTarget sourceId values =>
              obtain ⟨rfl, -⟩ := he
              simp only [entryAfter, if_pos rfl] at hentry
              split at hentry
              · rename_i config hv
                exact ⟨events, values, config, [], by simp, hv, (Option.some.inj hentry).symm,
                  by simp⟩
              · cases hentry
          | deleteLink => simp [entryAfter] at hentry
          | shutdown => simp [entryAfter] at hentry
        · rintro ⟨pre, values, config, post, hev, hv, rfl, hpost⟩
          rcases append_cons_eq_append_singleton hev.symm with ⟨-, -, rfl⟩ | ⟨post', rfl, -⟩
          · simp [entryAfter, hv]
          · exact absurd he (hpost e (by simp))
      · rw [handle_get_of_not_affects _ _ he, ih]
        constructor
        · rintro ⟨pre, values, config, post, rfl, hv, hc, hpost⟩
          refine ⟨pre, values, config, post ++ [e], by simp, hv, hc, ?_⟩
          simpa [or_imp, forall_and] using And.intro hpost he
        · rintro ⟨pre, values, config, post, hev, hv, hc, hpost⟩
          rcases append_cons_eq_append_singleton hev.symm with ⟨-, -, rfl⟩ | ⟨post', rfl, rfl⟩
          · exact absurd ⟨rfl, config, hv⟩ he
          · exact ⟨pre, values, config, post', rfl, hv, hc, fun e' he' => hpost e' (by simp [he'])⟩

end Lifecycle

section Isolation

variable {σ : Type} (B : Backend σ)

theorem client_eq_error_iff (self : Provider) (context : Option Context) :
    (∃ err, self.client context = .error err) ↔
      context.bind Context.actor = none ∨
        ∃ a, context.bind Context.actor = some a ∧ self.actors.get a = none := by
  unfold client
  split
  · rename_i a ha
    cases hget : self.actors.get a <;> simp [ha, hget]
  · simp_all

theorem client_congr (p q : Provider) (context : Option Context)
    (h : ∀ a, context.bind Context.actor = some a → p.actors.get a = q.actors.get a) :
    p.client context = q.client context := by
  unfold client
  split
  · rename_i a ha
    rw [h a ha]
  · rfl

theorem serve_of_client_error (self : Provider) (op : Operation)
    (inv : AcceptedInvocation op.Params) {err : Error}
    (h : self.client inv.context = .error err) (w : World σ) :
    (exec (self.serve B op inv) w).2 = w ∧
      ∃ t, (exec (self.serve B op inv) w).1 = .ok t ∧ t.IsError := by
  obtain ⟨context, params⟩ := inv
  cases op <;> simp only at params h ⊢
  case getContainerData =>
    obtain ⟨id, start, end_⟩ := params
    simp only [serve, serveGetContainerData, exec_transmit, exec_bind, exec_liftExcept]
    cases checkedSub end_ start <;> simp [h, Transmission.IsError, Except.map]
  case writeContainerData =>
    obtain ⟨id, data⟩ := params
    simp only [serve, serveWriteContainerData]
    split <;> simp [h, Transmission.IsError, Except.map]
  case moveObject =>
    obtain ⟨src, dest⟩ := params
    simp [serve, serveMoveObject, h, Transmission.IsError, Except.map]
  all_goals
    simp [serve, serveClearContainer, serveContainerExists, serveCreateContainer,
      serveDeleteContainer, serveGetContainerInfo, serveListContainerObjects, serveCopyObject,
      serveDeleteObject, serveDeleteObjects, serveGetObjectInfo, serveHasObject,
      h, Transmission.IsError, Except.map]

theorem serve_sendsThrough (self : Provider) (op : Operation)
    (inv : AcceptedInvocation op.Params) {client : StorageClient}
    (h : self.client inv.context = .ok client) :
    SendsThrough client.s3Client (self.serve B op inv) :=
  (serve_sendsOnly B self op inv).sendsThrough fun _ ⟨client', hc, hallows⟩ => by
    obtain rfl := Except.ok.inj (h.symm.trans hc)
    exact hallows.through

theorem serve_congr (p q : Provider) (op : Operation) (inv : AcceptedInvocation op.Params)
    (h : ∀ a, inv.context.bind Context.actor = some a → p.actors.get a = q.actors.get a) :
    p.serve B op inv = q.serve B op inv := by
  have hc := client_congr p q inv.context h
  cases op <;> simp only [serve, serveClearContainer, serveContainerExists, serveCreateContainer,
    serveDeleteContainer, serveGetContainerInfo, serveListContainerObjects, serveCopyObject,
    serveDeleteObject, serveDeleteObjects, serveGetContainerData, serveGetObjectInfo,
    serveHasObject, serveMoveObject, serveWriteContainerData, hc]

theorem registry_isolation (fromValues : ConfigValues → Except Error StorageConfig) :
    (∀ events a client, (default.run fromValues events).actors.get a = some client ↔
      ∃ pre values config post,
        events = pre ++ .receiveLinkConfigAsTarget a values :: post ∧
        fromValues values = .ok config ∧ client = StorageClient.new config values ∧
        ∀ e ∈ post, ¬ Affects fromValues a e) ∧
    (∀ (self : Provider) (op : Operation) (inv : AcceptedInvocation op.Params) (w : World σ),
      (inv.context.bind Context.actor = none ∨
        ∃ a, inv.context.bind Context.actor = some a ∧ self.actors.get a = none) →
      (exec (self.serve B op inv) w).2 = w ∧
        ∃ t, (exec (self.serve B op inv) w).1 = .ok t ∧ t.IsError) ∧
    (∀ (self : Provider) (op : Operation) (inv : AcceptedInvocation op.Params) a client,
      inv.context.bind Context.actor = some a → self.actors.get a = some client →
      SendsThrough client.s3Client (self.serve B op inv)) ∧
    (∀ (p q : Provider) (op : Operation) (inv : AcceptedInvocation op.Params),
      (∀ a, inv.context.bind Context.actor = some a → p.actors.get a = q.actors.get a) →
      p.serve B op inv = q.serve B op inv) := by
  refine ⟨run_get_eq_some_iff fromValues, fun self op inv w hnone => ?_,
    fun self op inv a client ha hget => serve_sendsThrough B self op inv ?_, serve_congr B⟩
  · obtain ⟨err, herr⟩ := (client_eq_error_iff self inv.context).mpr hnone
    exact serve_of_client_error B self op inv herr w
  · simp [Provider.client, ha, hget]

end Isolation

end Provider

end BlobstoreS3
