import BlobstoreS3.Basic
import Mathlib.Data.List.Perm.Basic
import Mathlib.Data.List.Nodup

namespace BlobstoreS3

/-- Modelled from the spec: the backend account, region and endpoint settings that
`StorageConfig::configure_aws` turns into the SDK configuration (config.rs is not among the
sources). -/
structure AwsSettings where
  region : Option String
  endpoint : Option String
  accessKeyId : Option String
  deriving DecidableEq, Repr

/-- Modelled from the spec: `config::StorageConfig`, with the fields `StorageClient::new` reads. -/
structure StorageConfig where
  aws : AwsSettings
  tlsUseWebpkiRoots : Option Bool
  aliases : Table String

/-- The HTTP client an `aws_sdk_s3::Client` sends through. -/
inductive HttpClient
  | native
  | webpkiRoots
  deriving DecidableEq, Repr

/-- An `aws_sdk_s3::Client`, by the configuration it was built from. -/
structure S3Client where
  aws : AwsSettings
  forcePathStyle : Bool
  httpClient : HttpClient
  deriving DecidableEq, Repr

/-- `StorageClient`: the S3 client of one link and its alias table. -/
structure StorageClient where
  s3Client : S3Client
  aliases : Table String

/-- A link's configuration map (`&HashMap<String, String>`), as its entries in the order the map
iterates them. The keys are distinct. -/
structure ConfigValues where
  entries : List (String × String)
  nodup : (entries.map Prod.fst).Nodup

/-- `ALIAS_PREFIX`. -/
def aliasPrefix : String := "alias_"

/-- One turn of the alias loop of `StorageClient::new`: an `alias_` key with a non-empty name and
value is inserted, a malformed one is logged and skipped, any other key is ignored. -/
def insertAlias (aliases : Table String) (kv : String × String) : Table String :=
  match stripPrefix kv.1 aliasPrefix with
  | some name => if name.isEmpty || kv.2.isEmpty then aliases else aliases.insert name kv.2
  | none => aliases

/-- `StorageClient::new`. -/
def StorageClient.new (config : StorageConfig) (configValues : ConfigValues) : StorageClient where
  s3Client :=
    { aws := config.aws
      forcePathStyle := true
      httpClient := if config.tlsUseWebpkiRoots = some true then .webpkiRoots else .native }
  aliases := configValues.entries.foldl insertAlias config.aliases

/-- `StorageClient::unalias`: one leading `alias_` is stripped, and the rest is looked up in
the alias table, or returned as it is. -/
def StorageClient.unalias (self : StorageClient) (bucketOrAlias : String) : String :=
  let name := (stripPrefix bucketOrAlias aliasPrefix).getD bucketOrAlias
  (self.aliases.get name).getD name

/-- The alias table of the spec's merge rule: the base table overridden by every well-formed
`alias_` entry of the link's configuration. -/
def overrideAliases (base : Table String) (values : ConfigValues) : Table String :=
  ⟨fun a => match values.entries.lookup (aliasPrefix ++ a) with
    | some v => if a ≠ "" ∧ v ≠ "" then some v else base.get a
    | none => base.get a⟩

theorem get_insertAlias (aliases : Table String) (k v a : String) :
    (insertAlias aliases (k, v)).get a =
      if k = aliasPrefix ++ a ∧ a ≠ "" ∧ v ≠ "" then some v else aliases.get a := by
  unfold insertAlias
  cases h : stripPrefix k aliasPrefix with
  | none =>
      have hk : k ≠ aliasPrefix ++ a := fun hk => by simp [hk] at h
      simp [hk]
  | some name =>
      obtain rfl := (stripPrefix_eq_some_iff _ _ _).mp h
      by_cases ha : name = a
      · subst ha
        by_cases hn : name = "" <;> by_cases hv : v = "" <;> simp [hn, hv]
      · have hne : aliasPrefix ++ name ≠ aliasPrefix ++ a := by simpa [String.ext_iff] using ha
        simp only [hne, false_and, if_false]
        split <;> simp [Ne.symm ha]

theorem lookup_eq_some_of_mem {l : List (String × String)} (hl : (l.map Prod.fst).Nodup)
    {k v : String} (h : (k, v) ∈ l) : l.lookup k = some v := by
  induction l with
  | nil => simp at h
  | cons kv l ih =>
      obtain ⟨k', v'⟩ := kv
      simp only [List.map_cons, List.nodup_cons, List.mem_map] at hl
      rcases List.mem_cons.mp h with hhead | hmem
      · cases hhead
        simp
      · have hk : k ≠ k' := by
          rintro rfl
          exact hl.1 ⟨(k, v), hmem, rfl⟩
        rw [lookup_cons_ite, if_neg hk, ih hl.2 hmem]

theorem lookup_eq_none_of_not_mem {β : Type} {l : List (String × β)} {k : String}
    (h : ∀ v, (k, v) ∉ l) : l.lookup k = none := by
  induction l with
  | nil => rfl
  | cons kv l ih =>
      obtain ⟨k', v'⟩ := kv
      have hk : k ≠ k' := fun e => h v' (by simp [e])
      rw [lookup_cons_ite, if_neg hk, ih fun v hv => h v (List.mem_cons_of_mem _ hv)]

theorem foldl_insertAlias (base : Table String) (l : List (String × String))
    (hl : (l.map Prod.fst).Nodup) :
    l.foldl insertAlias base = overrideAliases base ⟨l.reverse, by simpa using hl⟩ := by
  induction l using List.reverseRecOn generalizing base with
  | nil => exact Table.ext (funext fun a => by simp [overrideAliases])
  | append_singleton l kv ih =>
      obtain ⟨k, v⟩ := kv
      have hl' : (l.map Prod.fst).Nodup := (List.nodup_append.mp (by simpa using hl)).1
      have hk : ∀ v', (k, v') ∉ l := fun v' hv => by
        simp only [List.map_append, List.map_cons, List.map_nil] at hl
        exact (List.nodup_append.mp hl).2.2 (List.mem_map_of_mem Prod.fst hv) (by simp)
      rw [List.foldl_append, ih base hl']
      refine Table.ext (funext fun a => ?_)
      simp only [List.foldl_cons, List.foldl_nil, get_insertAlias, overrideAliases,
        List.reverse_append, List.reverse_cons, List.reverse_nil, List.nil_append,
        List.singleton_append]
      by_cases hka : k = aliasPrefix ++ a
      · subst hka
        simp [lookup_eq_none_of_not_mem (l := l.reverse) (by simpa using hk)]
      · simp [Ne.symm hka, hka]

theorem lookup_eq_of_perm {l l' : List (String × String)} (hl : (l.map Prod.fst).Nodup)
    (hl' : (l'.map Prod.fst).Nodup) (h : l.Perm l') (k : String) :
    l.lookup k = l'.lookup k := by
  by_cases hk : ∃ v, (k, v) ∈ l
  · obtain ⟨v, hv⟩ := hk
    rw [lookup_eq_some_of_mem hl hv, lookup_eq_some_of_mem hl' (h.subset hv)]
  · push_neg at hk
    rw [lookup_eq_none_of_not_mem hk,
      lookup_eq_none_of_not_mem fun v hv => hk v (h.symm.subset hv)]

theorem overrideAliases_perm (base : Table String) {values values' : ConfigValues}
    (h : values.entries.Perm values'.entries) :
    overrideAliases base values = overrideAliases base values' :=
  Table.ext (funext fun a => by
    simp only [overrideAliases, lookup_eq_of_perm values.nodup values'.nodup h])

theorem new_aliases (config : StorageConfig) (values : ConfigValues) :
    (StorageClient.new config values).aliases = overrideAliases config.aliases values :=
  (foldl_insertAlias _ _ values.nodup).trans (overrideAliases_perm _ (List.reverse_perm _))

theorem unalias_of_eq_append (client : StorageClient) {n m : String}
    (h : n = aliasPrefix ++ m) : client.unalias n = (client.aliases.get m).getD m := by
  subst h
  simp [StorageClient.unalias]

theorem unalias_of_not_alias (client : StorageClient) {n : String}
    (h : ∀ m, n ≠ aliasPrefix ++ m) : client.unalias n = (client.aliases.get n).getD n := by
  have hn : stripPrefix n aliasPrefix = none :=
    Option.eq_none_iff_forall_not_mem.mpr fun m hm => h m ((stripPrefix_eq_some_iff _ _ _).mp hm)
  simp [StorageClient.unalias, hn]

theorem new_aliases_merge (config : StorageConfig) (values : ConfigValues) :
    (StorageClient.new config values).aliases = overrideAliases config.aliases values ∧
    (∀ values' : ConfigValues, values'.entries.Perm values.entries →
      (StorageClient.new config values').aliases = (StorageClient.new config values).aliases) ∧
    ∀ n, (∀ m, n = aliasPrefix ++ m → (StorageClient.new config values).unalias n =
        ((overrideAliases config.aliases values).get m).getD m) ∧
      ((∀ m, n ≠ aliasPrefix ++ m) → (StorageClient.new config values).unalias n =
        ((overrideAliases config.aliases values).get n).getD n) := by
  refine ⟨new_aliases config values, fun values' h => ?_, fun n => ⟨fun m hm => ?_, fun hn => ?_⟩⟩
  · rw [new_aliases, new_aliases, overrideAliases_perm _ h]
  · rw [unalias_of_eq_append _ hm, new_aliases]
  · rw [unalias_of_not_alias _ hn, new_aliases]

example :
    let client := StorageClient.new ⟨⟨none, none, none⟩, none, Table.empty⟩
      ⟨[("alias_foo", "bar")], by decide⟩
    [client.unalias "boo", client.unalias "foo", client.unalias "alias_foo",
      client.unalias "alias_baz"] = ["boo", "bar", "bar", "baz"] := by
  decide

end BlobstoreS3
