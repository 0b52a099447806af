import Mathlib.Data.List.Basic

namespace BlobstoreS3

/-- An `anyhow::Error`, by its chain of messages, outermost context first. -/
structure Error where
  chain : List String
  deriving DecidableEq, Repr

/-- `anyhow!(msg)`, as `bail!(msg)` returns it. -/
def Error.msg (m : String) : Error := ⟨[m]⟩

/-- `Context::context`: one more message around an error. -/
def Error.context (e : Error) (m : String) : Error := ⟨m :: e.chain⟩

/-- `err.to_string()`: the `Display` of an `anyhow::Error` is its outermost message. -/
def Error.toString (e : Error) : String := e.chain.headD ""

/-- A `HashMap<String, α>`, by its lookup function. -/
@[ext] structure Table (α : Type) where
  get : String → Option α

namespace Table

variable {α : Type}

/-- `HashMap::new`. -/
def empty : Table α := ⟨fun _ => none⟩

/-- `HashMap::insert`: the new value replaces any previous one. -/
def insert (t : Table α) (k : String) (v : α) : Table α :=
  ⟨fun k' => if k' = k then some v else t.get k'⟩

/-- `HashMap::remove`. -/
def remove (t : Table α) (k : String) : Table α :=
  ⟨fun k' => if k' = k then none else t.get k'⟩

@[simp] theorem get_empty (k : String) : (empty : Table α).get k = none := rfl

@[simp] theorem get_insert (t : Table α) (k k' : String) (v : α) :
    (t.insert k v).get k' = if k' = k then some v else t.get k' := rfl

@[simp] theorem get_remove (t : Table α) (k k' : String) :
    (t.remove k).get k' = if k' = k then none else t.get k' := rfl

end Table

/-- `str::strip_prefix` on the characters of the two strings. -/
def stripChars : List Char → List Char → Option (List Char)
  | [], s => some s
  | _ :: _, [] => none
  | p :: ps, c :: cs => if p = c then stripChars ps cs else none

/-- `s.strip_prefix(pre)`. -/
def stripPrefix (s pre : String) : Option String :=
  (stripChars pre.data s.data).map String.mk

theorem stripChars_eq_some_iff (pre s rest : List Char) :
    stripChars pre s = some rest ↔ s = pre ++ rest := by
  induction pre generalizing s with
  | nil => simp [stripChars, eq_comm]
  | cons p ps ih =>
      cases s with
      | nil => simp [stripChars]
      | cons c cs =>
          by_cases h : p = c
          · subst h
            simp [stripChars, ih]
          · simp [stripChars, h, Ne.symm h]

theorem stripPrefix_eq_some_iff (s pre rest : String) :
    stripPrefix s pre = some rest ↔ s = pre ++ rest := by
  obtain ⟨s⟩ := s
  obtain ⟨rest⟩ := rest
  simp [stripPrefix, stripChars_eq_some_iff, String.ext_iff]

@[simp] theorem stripPrefix_append (pre rest : String) :
    stripPrefix (pre ++ rest) pre = some rest :=
  (stripPrefix_eq_some_iff _ _ _).mpr rfl

@[simp] theorem isEmpty_eq_true_iff (s : String) : s.isEmpty = true ↔ s = "" := by
  obtain ⟨cs⟩ := s
  cases cs with
  | nil => decide
  | cons c cs =>
      have := Char.utf8Size_pos c
      simp only [String.isEmpty, String.endPos, String.utf8ByteSize, String.utf8ByteSize.go,
        beq_iff_eq, String.Pos.ext_iff, String.ext_iff]
      simp
      omega

@[simp] theorem lookup_cons_ite {β : Type} (k k' : String) (v : β) (l : List (String × β)) :
    ((k, v) :: l).lookup k' = if k' = k then some v else l.lookup k' := by
  by_cases h : k' = k
  · subst h
    simp [List.lookup_cons]
  · simp [List.lookup_cons, beq_false_of_ne h, h]

/-- `wrpc_interface_blobstore::ObjectId`. -/
structure ObjectId where
  container : String
  object : String
  deriving DecidableEq, Repr

/-- The bytes of an object, a chunk or a request body. -/
abbrev Bytes := List UInt8

end BlobstoreS3
