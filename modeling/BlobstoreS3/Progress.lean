import Mathlib.Algebra.BigOperators.Group.List
import Mathlib.Algebra.Order.Ring.Nat
import BlobstoreS3.Interleaving

namespace BlobstoreS3

/-- The task steps a task can still make: two for a handler that sends two requests and has not
started, one otherwise. -/
def Task.movesLeft : Task → Nat
  | .start .clearContainer _ | .start .moveObject _ => 2
  | _ => 1

theorem Task.movesLeft_pos_le (t : Task) : 0 < t.movesLeft ∧ t.movesLeft ≤ 2 := by
  unfold movesLeft
  split <;> decide

theorem sum_map_set_add {α : Type} (f : α → Nat) :
    ∀ (l : List α) (i : Nat) {t : α} (x : α), l[i]? = some t →
      ((l.set i x).map f).sum + f t = (l.map f).sum + f x
  | [], _, _, _, h => nomatch h
  | a :: l, 0, _, x, h => by
      obtain rfl := Option.some.inj (List.getElem?_cons_zero.symm.trans h)
      simp only [List.set_cons_zero, List.map_cons, List.sum_cons]
      omega
  | a :: l, i + 1, _, x, h => by
      have := sum_map_set_add f l i x (List.getElem?_cons_succ.symm.trans h)
      simp only [List.set_cons_succ, List.map_cons, List.sum_cons]
      omega

theorem sum_map_eraseIdx_add {α : Type} (f : α → Nat) :
    ∀ (l : List α) (i : Nat) {t : α}, l[i]? = some t →
      ((l.eraseIdx i).map f).sum + f t = (l.map f).sum
  | [], _, _, h => nomatch h
  | a :: l, 0, _, h => by
      obtain rfl := Option.some.inj (List.getElem?_cons_zero.symm.trans h)
      simp only [List.eraseIdx_cons_zero, List.map_cons, List.sum_cons]
      omega
  | a :: l, i + 1, _, h => by
      have := sum_map_eraseIdx_add f l i (List.getElem?_cons_succ.symm.trans h)
      simp only [List.eraseIdx_cons_succ, List.map_cons, List.sum_cons]
      omega

theorem map_set_of_eq {α β : Type} (f : α → β) :
    ∀ (l : List α) (i : Nat) {t x : α}, l[i]? = some t → f x = f t → (l.set i x).map f = l.map f
  | [], _, _, _, h, _ => nomatch h
  | a :: l, 0, _, x, h, hx => by
      obtain rfl := Option.some.inj (List.getElem?_cons_zero.symm.trans h)
      simp [hx]
  | a :: l, i + 1, _, x, h, hx => by
      simp [map_set_of_eq f l i (List.getElem?_cons_succ.symm.trans h) hx]

theorem perm_map_eraseIdx {α β : Type} (f : α → β) :
    ∀ (l : List α) (i : Nat) {t : α}, l[i]? = some t →
      ((l.eraseIdx i).map f ++ [f t]).Perm (l.map f)
  | [], _, _, h => nomatch h
  | a :: l, 0, _, h => by
      obtain rfl := Option.some.inj (List.getElem?_cons_zero.symm.trans h)
      exact List.perm_append_singleton _ _
  | a :: l, i + 1, _, h =>
      (perm_map_eraseIdx f l i (List.getElem?_cons_succ.symm.trans h)).cons (f a)

variable {σ : Type} (B : Backend σ)

@[simp] theorem Task.step_pending (p : Provider) (o : Invocation) (k : Pending) (w : World σ) :
    (Task.pending o k).step B p w = (.done (exec (k.finish B) w).1, (exec (k.finish B) w).2) := rfl

theorem Task.movesLeft_of_step_next (p : Provider) {t : Task} {w : World σ} {k : Pending}
    (h : (t.step B p w).1 = .next k) : t.movesLeft = 2 := by
  cases t with
  | pending => cases h
  | start op inv => cases op <;> first | rfl | cases h

/-- The invocation a move spawns a handler for. -/
def RuntimeEvent.spawned : RuntimeEvent → List Invocation
  | .spawn op inv => [⟨op, inv⟩]
  | _ => []

namespace Runtime

variable (fromValues : ConfigValues → Except Error StorageConfig)

/-- The task steps the running tasks can still make. -/
def movesLeft (s : Runtime σ) : Nat := (s.tasks.map Task.movesLeft).sum

theorem step_answers {s s' : Runtime σ} {e : RuntimeEvent}
    (h : s.step B fromValues e = some s') :
    ∃ new, s'.replies = s.replies ++ new ∧
      (s'.tasks.map Task.origin ++ new.map Prod.fst).Perm (s.tasks.map Task.origin ++ e.spawned) := by
  cases e with
  | link e =>
      cases h
      exact ⟨[], by simp, by simp [RuntimeEvent.spawned]⟩
  | spawn op inv =>
      cases h
      exact ⟨[], by simp, by simp [RuntimeEvent.spawned, Task.origin]⟩
  | advance i =>
      obtain ⟨t, ht, ⟨k, -, rfl⟩ | ⟨r, -, rfl⟩⟩ := step_advance_eq B fromValues h
      · refine ⟨[], by simp, ?_⟩
        dsimp only
        rw [map_set_of_eq Task.origin s.tasks i (x := .pending t.origin k) ht rfl]
        simp [RuntimeEvent.spawned]
      · exact ⟨[(t.origin, r)], rfl, by
          simpa [RuntimeEvent.spawned] using perm_map_eraseIdx Task.origin s.tasks i ht⟩

theorem step_movesLeft {s s' : Runtime σ} {e : RuntimeEvent}
    (h : s.step B fromValues e = some s') :
    (if e.isAdvance then 1 else 0) + s'.movesLeft ≤
      s.movesLeft + 2 * if e.isSpawn then 1 else 0 := by
  cases e with
  | link e =>
      cases h
      simp [RuntimeEvent.isAdvance, RuntimeEvent.isSpawn, movesLeft]
  | spawn op inv =>
      cases h
      have := (Task.start op inv).movesLeft_pos_le.2
      simp only [RuntimeEvent.isAdvance, RuntimeEvent.isSpawn, movesLeft, List.map_append,
        List.sum_append, List.map_cons, List.map_nil, List.sum_cons, List.sum_nil,
        Bool.false_eq_true, if_false, if_true]
      omega
  | advance i =>
      obtain ⟨t, ht, ⟨k, hk, rfl⟩ | ⟨r, -, rfl⟩⟩ := step_advance_eq B fromValues h
      · have := sum_map_set_add Task.movesLeft s.tasks i (.pending t.origin k) ht
        rw [t.movesLeft_of_step_next B s.provider hk] at this
        simp only [RuntimeEvent.isAdvance, RuntimeEvent.isSpawn, movesLeft, Task.movesLeft,
          Bool.false_eq_true, if_false, if_true] at this ⊢
        omega
      · have := sum_map_eraseIdx_add Task.movesLeft s.tasks i ht
        have := t.movesLeft_pos_le.1
        simp only [RuntimeEvent.isAdvance, RuntimeEvent.isSpawn, movesLeft, Bool.false_eq_true,
          if_false, if_true]
        omega

theorem run_movesLeft {s s' : Runtime σ} {events : List RuntimeEvent}
    (h : run B fromValues s events = some s') :
    events.countP RuntimeEvent.isAdvance + s'.movesLeft ≤
      s.movesLeft + 2 * events.countP RuntimeEvent.isSpawn := by
  induction events generalizing s with
  | nil =>
      cases h
      simp
  | cons e events ih =>
      obtain ⟨s₁, h₁, hrun⟩ := Option.bind_eq_some.mp h
      have h₁ := step_movesLeft B fromValues h₁
      have h₂ := ih hrun
      rw [List.countP_cons, List.countP_cons]
      omega

theorem movesLeft_le (s : Runtime σ) : s.movesLeft ≤ 2 * s.tasks.length := by
  unfold movesLeft
  induction s.tasks with
  | nil => simp
  | cons t ts ih =>
      have := t.movesLeft_pos_le.2
      simp only [List.map_cons, List.sum_cons, List.length_cons]
      omega

/-- A move of an object in a bucket, spawned and run to its end. -/
def moveRun : List RuntimeEvent :=
  [.spawn .moveObject ⟨actorContext, (⟨"b", "j"⟩, ⟨"b", "m"⟩)⟩, .advance 0, .advance 0]

end Runtime

end BlobstoreS3
