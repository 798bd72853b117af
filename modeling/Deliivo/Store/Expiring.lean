import Deliivo.Program.RelyGuarantee

/-!
# A store whose keys expire

The values of a store are read and written by their key, and a key that has been given a time to live
is gone once that has passed. Every command is one step; what goes on between the steps is that time
passes.

## Main definitions

* `ExpiringStore`: the values, and when they expire
* `StoreCommand`, `StoreCall`: the commands, and commands that report
* `storePool`: programs of such commands next to each other

## Main results

* `live_put_self`, `get?_put_self`, `get?_delete_self`: what is read after a write
* `live_wait`: what is read after a while was there before
* `keeps_call`, `keeps_storeRead`: what a command of a pool has to keep
-/

open Program (Concurrent Logged Protocol)

/-- Values by their key, each with the moment at which it expires, if it does. -/
structure ExpiringStore (κ υ : Type) where
  now : ℕ := 0
  entries : κ → Option (υ × Option ℕ) := fun _ => none

namespace ExpiringStore

variable {κ υ : Type}

/-- What is there under a key, unless it has expired. -/
def live (s : ExpiringStore κ υ) (k : κ) : Option (υ × Option ℕ) :=
  (s.entries k).filter fun e => e.2.all fun expiresAt => decide (s.now < expiresAt)

def get? (s : ExpiringStore κ υ) (k : κ) : Option υ := (s.live k).map Prod.fst

/-- How long a key that is there still lives; none where it does not expire. -/
def remaining (s : ExpiringStore κ υ) (k : κ) : Option (Option ℕ) :=
  (s.live k).map fun e => e.2.map (· - s.now)

def wait (s : ExpiringStore κ υ) (d : ℕ) : ExpiringStore κ υ := { s with now := s.now + d }

variable {s : ExpiringStore κ υ} {k k' : κ} {v v' : υ} {expiresAt expiresAt' : Option ℕ}

@[simp] theorem wait_now (d : ℕ) : (s.wait d).now = s.now + d := rfl

theorem live_eq_some : s.live k = some (v, expiresAt) ↔
    s.entries k = some (v, expiresAt) ∧ ∀ t ∈ expiresAt, s.now < t := by
  simp only [live, Option.filter_eq_some_iff, Option.all_eq_true, decide_eq_true_eq, Option.mem_def]

theorem get?_eq_some : s.get? k = some v ↔ ∃ expiresAt, s.live k = some (v, expiresAt) := by
  simp [get?]

/-- What is there after a while was there before. -/
theorem live_wait {d : ℕ} (h : (s.wait d).live k = some (v, expiresAt)) :
    s.live k = some (v, expiresAt) := by
  obtain ⟨hentry, hlater⟩ := live_eq_some.mp h
  refine live_eq_some.mpr ⟨hentry, fun t ht => ?_⟩
  exact lt_of_le_of_lt (Nat.le_add_right _ _) (hlater t ht)

theorem live_wait_of_lt {d : ℕ} {e : υ × Option ℕ} (h : s.live k = some e)
    (hlt : ∀ t ∈ e.2, s.now + d < t) : (s.wait d).live k = some e :=
  live_eq_some.mpr ⟨(live_eq_some.mp h).1, hlt⟩

variable [DecidableEq κ]

def put (s : ExpiringStore κ υ) (k : κ) (v : υ) (expiresAt : Option ℕ) : ExpiringStore κ υ :=
  { s with entries := Function.update s.entries k (some (v, expiresAt)) }

def delete (s : ExpiringStore κ υ) (k : κ) : ExpiringStore κ υ :=
  { s with entries := Function.update s.entries k none }

@[simp] theorem put_now : (s.put k v expiresAt).now = s.now := rfl

@[simp] theorem delete_now : (s.delete k).now = s.now := rfl

/-- A value that is written with time left is there. -/
theorem live_put_self (h : ∀ t ∈ expiresAt, s.now < t) :
    (s.put k v expiresAt).live k = some (v, expiresAt) :=
  live_eq_some.mpr ⟨by simp [put], h⟩

theorem eq_of_live_put (h : (s.put k v expiresAt).live k = some (v', expiresAt')) :
    v' = v ∧ expiresAt' = expiresAt := by
  have hentry := (live_eq_some.mp h).1
  simp only [put, Function.update_self] at hentry
  obtain ⟨rfl, rfl⟩ := Prod.mk.injEq .. ▸ Option.some.inj hentry
  exact ⟨rfl, rfl⟩

theorem get?_put_self (h : ∀ t ∈ expiresAt, s.now < t) : (s.put k v expiresAt).get? k = some v := by
  rw [get?, live_put_self h]
  rfl

theorem live_put_ne (h : k' ≠ k) : (s.put k v expiresAt).live k' = s.live k' := by
  have hentry : (s.put k v expiresAt).entries k' = s.entries k' := Function.update_of_ne h _ _
  rw [live, live, hentry]
  rfl

@[simp] theorem live_delete_self : (s.delete k).live k = none := by simp [live, delete]

@[simp] theorem get?_delete_self : (s.delete k).get? k = none := by simp [get?]

end ExpiringStore

/-! ## Commands -/

/-- The commands of the store. -/
inductive StoreCommand (κ υ : Type) : Type → Type
  | get (k : κ) : StoreCommand κ υ (Option υ)
  | remaining (k : κ) : StoreCommand κ υ (Option (Option ℕ))
  /-- Write a value that lives for `ttl`. -/
  | setEx (k : κ) (v : υ) (ttl : ℕ) : StoreCommand κ υ Unit
  /-- Write a value that lives for as long as the one before it; for ever where there is none. -/
  | setKeepTtl (k : κ) (v : υ) : StoreCommand κ υ Unit
  | del (k : κ) : StoreCommand κ υ Unit
  /-- Read the clock. -/
  | time : StoreCommand κ υ ℕ

variable {κ υ η ε Op β : Type}

/-- A command, and what its answer means at the moment at which it is given. -/
structure StoreCall (κ υ η β : Type) where
  command : StoreCommand κ υ β
  report : ℕ → β → List η := fun _ _ => []

section Exec

variable [DecidableEq κ]

def StoreCommand.exec : StoreCommand κ υ β → ExpiringStore κ υ → β × ExpiringStore κ υ
  | .get k, s => (s.get? k, s)
  | .remaining k, s => (s.remaining k, s)
  | .setEx k v ttl, s => ((), s.put k v (some (s.now + ttl)))
  | .setKeepTtl k v, s => ((), s.put k v ((s.live k).bind Prod.snd))
  | .del k, s => ((), s.delete k)
  | .time, s => (s.now, s)

/-- Programs over one store next to each other; between their steps time passes. -/
def storePool (program : Op → Program (StoreCall κ υ η) ε Unit) :
    Concurrent (StoreCall κ υ η) ε Unit η (ExpiringStore κ υ) ℕ Op where
  exec _ c _ s :=
    some ((c.command.exec s).1, c.report s.now (c.command.exec s).1, (c.command.exec s).2)
  disturb d s := s.wait d
  program := program

section Keeps

variable {program : Op → Program (StoreCall κ υ η) ε Unit}
  {cond : Op → ℕ → Logged η (ExpiringStore κ υ) → Unit → List η → Prop}
  {disturbance : ℕ → Logged η (ExpiringStore κ υ) → Prop}
  {P : Protocol (storePool program) cond disturbance} {op : Op} {tid : ℕ}
  {y : Logged η (ExpiringStore κ υ)}

/-- What a command has to keep. -/
theorem keeps_call {c : StoreCall κ υ η β} {Q : β → Logged η (ExpiringStore κ υ) → Prop}
    (h : cond op tid y () (c.report y.state.now (c.command.exec y.state).1) →
      let z := y.next tid (c.report y.state.now (c.command.exec y.state).1) (c.command.exec y.state).2
      P.Guar tid y z ∧ P.Inv z ∧ Q (c.command.exec y.state).1 z) :
    P.Keeps op tid c y Q := by
  intro i b es s hexec hcond
  have hanswer : ((c.command.exec y.state).1, c.report y.state.now (c.command.exec y.state).1,
    (c.command.exec y.state).2) = (b, es, s) := Option.some.inj hexec
  obtain ⟨rfl, rfl, rfl⟩ := Prod.mk.injEq .. ▸ hanswer
  exact h hcond

/-- A command that only reads. -/
theorem keeps_storeRead {c : StoreCommand κ υ β} (hread : (c.exec y.state).2 = y.state)
    (hguar : P.Guar tid y y) (hinv : P.Inv y) :
    P.Keeps op tid { command := c } y fun b z => z = y ∧ b = (c.exec y.state).1 := by
  refine keeps_call fun _ => ?_
  have hsame : y.next tid [] (c.exec y.state).2 = y := by
    rw [hread]
    exact congrArg (Logged.mk y.state) (List.append_nil y.log)
  change P.Guar tid y (y.next tid [] _) ∧ P.Inv (y.next tid [] _) ∧ y.next tid [] _ = y ∧ _
  rw [hsame]
  exact ⟨hguar, hinv, rfl, rfl⟩

end Keeps

end Exec

/-- Issue one command that reports nothing. -/
def StoreCommand.issue (c : StoreCommand κ υ β) : Program (StoreCall κ υ η) ε β :=
  Program.command { command := c }
