import Deliivo.Store.Expiring
import Mathlib.Algebra.BigOperators.Group.Finset.Basic
import Mathlib.Algebra.Order.BigOperators.Group.List
import Mathlib.Algebra.Order.BigOperators.Group.Finset

/-!
# Counters that expire

A key is counted up by whoever likes, and the one that begins a count gives it a time to live. While
counts live at least as long as their window, what is counted tells how much has been counted lately:
within one window a count goes on, and a stretch of time as long as the window meets two counts at most.

A command may be refused, or it may be carried out and its answer be lost.

## Main definitions

* `Hit`, `Windowed`: what a key has been counted up to, and when
* `CounterCommand`, `CounterCall`, `counterPool`: programs over a store of counters
* `Counted`: what the store holds of the hits of a key
* `counting`: the protocol of threads that let counts live long enough

## Main results

* `Windowed.count_window_le`: in any stretch of one window, at most twice as many hits as a limit
  count up to it or less
* `Windowed.count_eq`: within one window, as many as the limit or as there have been
* `counting_perform`, `counting_note`, `counting_clock`: what a thread owes for its commands
* `countP_log_le`: what holds of the counts of every thread holds of them all
-/

open Program (Concurrent Logged Protocol)

/-! ## Hits -/

/-- A key has been counted up to `value`. -/
structure Hit where
  value : ℕ
  moment : ℕ
  deriving DecidableEq

/-- The hits of the count that goes on, the newest first. -/
def currentHits : List Hit → List Hit
  | [] => []
  | h :: hits => if h.value = 1 then [h] else h :: currentHits hits

/-- The hits before it. -/
def earlierHits : List Hit → List Hit
  | [] => []
  | h :: hits => if h.value = 1 then hits else earlierHits hits

/-- When the count that goes on was begun. -/
def beganAt : List Hit → Option ℕ
  | [] => none
  | h :: hits => if h.value = 1 then some h.moment else beganAt hits

/-- A count is begun once its window is over, and goes on by one. -/
inductive Windowed (w : ℕ) : List Hit → Prop
  | nil : Windowed w []
  | first {t : ℕ} {hits : List Hit} (earlier : Windowed w hits) (later : ∀ h ∈ hits, h.moment ≤ t)
      (lapsed : ∀ g ∈ beganAt hits, g + w ≤ t) : Windowed w (⟨1, t⟩ :: hits)
  | next {h : Hit} {t : ℕ} {hits : List Hit} (earlier : Windowed w (h :: hits))
      (later : ∀ h' ∈ h :: hits, h'.moment ≤ t) : Windowed w (⟨h.value + 1, t⟩ :: h :: hits)

section Hits

variable {w n s : ℕ} {hits : List Hit}

theorem currentHits_append_earlierHits (hits : List Hit) :
    currentHits hits ++ earlierHits hits = hits := by
  induction hits with
  | nil => rfl
  | cons h hits ih =>
    simp only [currentHits, earlierHits]
    split_ifs
    · rfl
    · rw [List.cons_append, ih]

theorem length_earlierHits_lt {h : Hit} : (earlierHits (h :: hits)).length < (h :: hits).length := by
  induction hits generalizing h with
  | nil =>
    simp only [earlierHits]
    split_ifs <;> exact Nat.lt_succ_self 0
  | cons h' hits ih =>
    rw [earlierHits]
    split_ifs
    · exact Nat.lt_succ_self _
    · exact ih.trans (Nat.lt_succ_self _)

theorem Windowed.value_pos (hw : Windowed w hits) : ∀ h ∈ hits, 0 < h.value := by
  induction hw with
  | nil => exact fun _ hmem => absurd hmem List.not_mem_nil
  | first _ _ _ ih => exact List.forall_mem_cons.mpr ⟨Nat.one_pos, ih⟩
  | next _ _ ih => exact List.forall_mem_cons.mpr ⟨Nat.succ_pos _, ih⟩

theorem Windowed.value_ne_one {h : Hit} (hw : Windowed w (h :: hits)) : h.value + 1 ≠ 1 :=
  Nat.succ_ne_succ_iff.mpr (hw.value_pos h List.mem_cons_self).ne'

theorem Windowed.earlier (hw : Windowed w hits) : Windowed w (earlierHits hits) := by
  induction hw with
  | nil => exact .nil
  | first hw _ _ _ => exact hw
  | next hw _ ih => rwa [earlierHits, if_neg hw.value_ne_one]

theorem exists_of_beganAt {g : ℕ} (h : beganAt hits = some g) : ∃ h ∈ hits, h.moment = g := by
  induction hits with
  | nil => cases h
  | cons h' hits ih =>
    rw [beganAt] at h
    split_ifs at h with hone
    · exact ⟨h', List.mem_cons_self, Option.some.inj h⟩
    · obtain ⟨h'', hmem, hmoment⟩ := ih h
      exact ⟨h'', List.mem_cons_of_mem _ hmem, hmoment⟩

theorem Windowed.exists_beganAt (hw : Windowed w hits) (hne : hits ≠ []) :
    ∃ g, beganAt hits = some g := by
  induction hw with
  | nil => exact absurd rfl hne
  | first => exact ⟨_, rfl⟩
  | next hw _ ih =>
    rw [beganAt, if_neg hw.value_ne_one]
    exact ih (List.cons_ne_nil _ _)

/-- How the counts of a key lie in time: one after the other, begun a window apart. -/
structure BeganAt (w : ℕ) (hits : List Hit) (g : ℕ) : Prop where
  current : ∀ h ∈ currentHits hits, g ≤ h.moment
  earlier : ∀ h ∈ earlierHits hits, h.moment ≤ g
  apart : ∀ g' ∈ beganAt (earlierHits hits), g' + w ≤ g

theorem Windowed.began (hw : Windowed w hits) {g : ℕ} (hg : beganAt hits = some g) :
    BeganAt w hits g := by
  induction hw with
  | nil => cases hg
  | first hw later lapsed _ =>
    obtain rfl := Option.some.inj hg
    exact ⟨fun h hmem => (congrArg Hit.moment (List.mem_singleton.mp hmem)).ge, later, lapsed⟩
  | @next h t hits hw later ih =>
    rw [beganAt, if_neg hw.value_ne_one] at hg
    obtain ⟨hcurrent, hearlier, hapart⟩ := ih hg
    obtain ⟨h', hmem, hmoment⟩ := exists_of_beganAt hg
    refine ⟨?_, ?_, ?_⟩
    · rw [currentHits, if_neg hw.value_ne_one]
      exact List.forall_mem_cons.mpr ⟨hmoment.symm.trans_le (later h' hmem), hcurrent⟩
    · rwa [earlierHits, if_neg hw.value_ne_one]
    · rwa [earlierHits, if_neg hw.value_ne_one]

/-- What the key has been counted up to. -/
def lastValue (hits : List Hit) : ℕ := (hits.head?.map Hit.value).getD 0

/-- A count gives every value from one on once. -/
theorem Windowed.count_current (hw : Windowed w hits) (n : ℕ) :
    (currentHits hits).countP (fun h => decide (h.value ≤ n)) = min n (lastValue hits) := by
  induction hw with
  | nil => exact (Nat.min_zero n).symm
  | first =>
    simp only [currentHits, if_true, List.countP_singleton, lastValue, List.head?_cons, Option.map_some,
      Option.getD_some, decide_eq_true_eq]
    split_ifs <;> omega
  | next hw _ ih =>
    rw [currentHits, if_neg hw.value_ne_one, List.countP_cons, ih]
    simp only [lastValue, List.head?_cons, Option.map_some, Option.getD_some, decide_eq_true_eq]
    split_ifs <;> omega

/-- The hits in a stretch of one window that count up to `n` or less. -/
def countWithin (n w s : ℕ) (hits : List Hit) : ℕ :=
  hits.countP fun h => decide (h.value ≤ n) && decide (s ≤ h.moment) && decide (h.moment < s + w)

theorem countWithin_append (l l' : List Hit) :
    countWithin n w s (l ++ l') = countWithin n w s l + countWithin n w s l' := List.countP_append

theorem countWithin_eq_zero {l : List Hit} (h : ∀ x ∈ l, x.moment < s ∨ s + w ≤ x.moment) :
    countWithin n w s l = 0 := by
  refine List.countP_eq_zero.mpr fun x hx => ?_
  rcases h x hx with hlt | hge
  · simp [Nat.not_le.mpr hlt]
  · simp [Nat.not_lt.mpr hge]

theorem Windowed.countWithin_current (hw : Windowed w hits) :
    countWithin n w s (currentHits hits) ≤ n := by
  refine le_trans ?_ ((hw.count_current n).trans_le (Nat.min_le_left _ _))
  refine List.countP_mono_left fun x _ hx => ?_
  exact (Bool.and_eq_true_iff.mp (Bool.and_eq_true_iff.mp hx).1).1

/-- **Any stretch of one window** meets two counts at most. -/
theorem Windowed.count_window_le (hw : Windowed w hits) :
    countWithin n w s hits ≤ 2 * n := by
  induction hlength : hits.length using Nat.strong_induction_on generalizing hits with
  | _ length ih =>
    rcases hits with - | ⟨h, hits⟩
    · exact Nat.zero_le _
    · obtain ⟨g, hg⟩ := hw.exists_beganAt (List.cons_ne_nil _ _)
      obtain ⟨hcurrent, hearlier, hapart⟩ := hw.began hg
      rw [← currentHits_append_earlierHits (h :: hits), countWithin_append]
      rcases Nat.lt_or_ge g (s + w) with hlt | hge
      · -- the count before this one was begun before the stretch
        refine (Nat.add_le_add hw.countWithin_current ?_).trans (Nat.two_mul n).ge
        rw [← currentHits_append_earlierHits (earlierHits (h :: hits)), countWithin_append]
        have hrest : countWithin n w s (earlierHits (earlierHits (h :: hits))) = 0 := by
          refine countWithin_eq_zero fun x hx => Or.inl ?_
          obtain ⟨g', hg'⟩ := hw.earlier.exists_beganAt fun hnil => by
            rw [hnil] at hx
            exact List.not_mem_nil hx
          have hx' := (hw.earlier.began hg').earlier x hx
          have := hapart g' hg'
          omega
        rw [hrest, Nat.add_zero]
        exact hw.earlier.countWithin_current
      · -- this count was begun after the stretch
        rw [countWithin_eq_zero fun x hx => Or.inr (hge.trans (hcurrent x hx)), Nat.zero_add]
        exact ih _ (hlength ▸ length_earlierHits_lt) hw.earlier rfl

/-- Within one window there is one count. -/
theorem Windowed.currentHits_eq (hw : Windowed w hits)
    (hall : ∀ h ∈ hits, s ≤ h.moment ∧ h.moment < s + w) : currentHits hits = hits := by
  have hnil : earlierHits hits = [] := by
    by_contra hne
    obtain ⟨g', hg'⟩ := hw.earlier.exists_beganAt hne
    have hne' : hits ≠ [] := by
      rintro rfl
      exact hne rfl
    obtain ⟨g, hg⟩ := hw.exists_beganAt hne'
    have hapart := (hw.began hg).apart g' hg'
    obtain ⟨h, hmem, rfl⟩ := exists_of_beganAt hg
    obtain ⟨h', hmem', rfl⟩ := exists_of_beganAt hg'
    have hlater := (hall h hmem).2
    have hearlier := (hall h' (currentHits_append_earlierHits hits ▸
      List.mem_append_right _ hmem')).1
    omega
  have happend := currentHits_append_earlierHits hits
  rwa [hnil, List.append_nil] at happend

/-- **Within one window** a key is counted on. -/
theorem Windowed.count_eq (hw : Windowed w hits)
    (hall : ∀ h ∈ hits, s ≤ h.moment ∧ h.moment < s + w) (n : ℕ) :
    hits.countP (fun h => decide (h.value ≤ n)) = min n (lastValue hits) := by
  rw [← hw.count_current n, hw.currentHits_eq hall]

theorem Windowed.value_le_last (hw : Windowed w hits) :
    ∀ h ∈ currentHits hits, h.value ≤ lastValue hits := by
  induction hw with
  | nil => exact fun _ hmem => absurd hmem List.not_mem_nil
  | first =>
    intro h hmem
    exact (congrArg Hit.value (List.mem_singleton.mp hmem)).le
  | next hw _ ih =>
    rw [currentHits, if_neg hw.value_ne_one]
    refine List.forall_mem_cons.mpr ⟨le_rfl, fun h hmem => ?_⟩
    exact (ih h hmem).trans (Nat.le_succ _)

end Hits

/-! ## What the store holds -/

variable {κ η ε : Type}

/-- What the store holds of a key is what its hits say, and lives for a window at least. -/
structure Counted (w : ℕ) (k : κ) (hits : List Hit) (s : ExpiringStore κ ℕ) : Prop where
  windowed : Windowed w hits
  past : ∀ h ∈ hits, h.moment ≤ s.now
  there : ∀ v e, s.live k = some (v, e) →
    lastValue hits = v ∧ hits ≠ [] ∧ ∀ t ∈ e, ∀ g ∈ beganAt hits, g + w ≤ t
  gone : s.live k = none → ∀ g ∈ beganAt hits, g + w ≤ s.now

namespace Counted

variable {w : ℕ} {k k' : κ} {hits : List Hit} {s s' : ExpiringStore κ ℕ} {v : ℕ} {e : Option ℕ}

/-- It depends on the clock and on what is there under the key. -/
theorem congr (h : Counted w k hits s) (hnow : s'.now = s.now) (hlive : s'.live k = s.live k) :
    Counted w k hits s' where
  windowed := h.windowed
  past := hnow ▸ h.past
  there := hlive ▸ h.there
  gone := hlive ▸ hnow ▸ h.gone

theorem wait (h : Counted w k hits s) (d : ℕ) : Counted w k hits (s.wait d) where
  windowed := h.windowed
  past x hx := (h.past x hx).trans (Nat.le_add_right _ _)
  there v e hlive := h.there v e (ExpiringStore.live_wait hlive)
  gone hgone g hg := by
    cases hlive : s.live k with
    | none => exact (h.gone hlive g hg).trans (Nat.le_add_right _ _)
    | some entry =>
      -- it has expired meanwhile
      obtain ⟨v, e⟩ := entry
      obtain ⟨-, -, hlasts⟩ := h.there v e hlive
      by_contra hlt
      refine absurd (ExpiringStore.live_wait_of_lt (d := d) hlive fun t ht => ?_) ?_
      · exact lt_of_lt_of_le (not_le.mp hlt) (hlasts t ht g hg)
      · rw [hgone]
        exact Option.some_ne_none _ ∘ Eq.symm

variable [DecidableEq κ]

/-- A count goes on. -/
theorem next (h : Counted w k hits s) (hlive : s.live k = some (v, e)) :
    Counted w k (⟨v + 1, s.now⟩ :: hits) (s.put k (v + 1) e) := by
  obtain ⟨hlast, hne, hlasts⟩ := h.there v e hlive
  rcases hits with - | ⟨h', hits⟩
  · exact absurd rfl hne
  obtain rfl : h'.value = v := hlast
  have hbegan : beganAt (⟨h'.value + 1, s.now⟩ :: h' :: hits) = beganAt (h' :: hits) :=
    if_neg h.windowed.value_ne_one
  have hthere := ExpiringStore.live_put_self (k := k) (v := h'.value + 1)
    (ExpiringStore.live_eq_some.mp hlive).2
  refine ⟨.next h.windowed h.past, List.forall_mem_cons.mpr ⟨le_rfl, h.past⟩, fun v e hput => ?_,
    fun hgone => ?_⟩
  · obtain ⟨rfl, rfl⟩ := ExpiringStore.eq_of_live_put hput
    exact ⟨rfl, List.cons_ne_nil _ _, hbegan ▸ hlasts⟩
  · rw [hgone] at hthere
    cases hthere

/-- A count is begun. -/
theorem first (h : Counted w k hits s) (hlive : s.live k = none)
    (hlasts : ∀ t ∈ e, s.now + w ≤ t) : Counted w k (⟨1, s.now⟩ :: hits) (s.put k 1 e) := by
  refine ⟨.first h.windowed h.past (h.gone hlive), List.forall_mem_cons.mpr ⟨le_rfl, h.past⟩,
    fun v e' hput => ?_, fun hgone g hg => ?_⟩
  · obtain ⟨rfl, rfl⟩ := ExpiringStore.eq_of_live_put hput
    refine ⟨rfl, List.cons_ne_nil _ _, fun t ht g hg => ?_⟩
    obtain rfl := Option.some.inj hg
    exact hlasts t ht
  · obtain rfl := Option.some.inj hg
    by_contra hlt
    have hthere : (s.put k 1 e).live k = some (1, e) :=
      ExpiringStore.live_put_self fun t ht => lt_of_lt_of_le (not_le.mp hlt) (hlasts t ht)
    rw [hgone] at hthere
    cases hthere

/-- A count is given a time to live. -/
theorem expire (h : Counted w k hits s) (hlive : s.live k = some (v, e)) {ttl : ℕ} (hw : w ≤ ttl) :
    Counted w k hits (s.put k v (some (s.now + ttl))) := by
  obtain ⟨hlast, hne, -⟩ := h.there v e hlive
  have hpast : ∀ g ∈ beganAt hits, g + w ≤ s.now + ttl := fun g hg => by
    obtain ⟨x, hx, rfl⟩ := exists_of_beganAt hg
    exact Nat.add_le_add (h.past x hx) hw
  refine ⟨h.windowed, h.past, fun v' e' hput => ?_, fun hgone g hg => ?_⟩
  · obtain ⟨rfl, rfl⟩ := ExpiringStore.eq_of_live_put hput
    refine ⟨hlast, hne, fun t ht => ?_⟩
    obtain rfl := Option.some.inj ht
    exact hpast
  · by_contra hlt
    have hthere : (s.put k v (some (s.now + ttl))).live k = some (v, some (s.now + ttl)) :=
      ExpiringStore.live_put_self fun t ht => by
        obtain rfl := Option.some.inj ht
        exact lt_of_lt_of_le (not_le.mp hlt) (hpast g hg)
    rw [hgone] at hthere
    cases hthere

theorem put_ne (h : Counted w k hits s) (hne : k ≠ k') :
    Counted w k hits (s.put k' v e) :=
  h.congr rfl (ExpiringStore.live_put_ne hne)

end Counted

/-! ## Commands -/

/-- The commands of a store of counters. -/
inductive CounterCommand (κ : Type) : Type → Type
  /-- Count a key up by one; one that is not there is begun, and does not expire. -/
  | incr (k : κ) : CounterCommand κ ℕ
  /-- Let a key that is there expire after `ttl`. -/
  | expire (k : κ) (ttl : ℕ) : CounterCommand κ Unit
  /-- Begin a key that lives for `ttl`, if it is not there. -/
  | setNx (k : κ) (ttl : ℕ) : CounterCommand κ Bool
  | remaining (k : κ) : CounterCommand κ (Option (Option ℕ))

/-- What is logged: that a key has been counted, and what the threads report themselves. -/
inductive CounterEvent (κ η : Type)
  | hit (k : κ) (h : Hit)
  | own (e : η)
  deriving DecidableEq

/-- What a thread does: a command, whose answer may fail to come, a look at the clock, or a report. -/
inductive CounterCall (κ η ε : Type) : Type → Type 1
  | store {β : Type} (c : CounterCommand κ β) : CounterCall κ η ε (Except ε β)
  | clock : CounterCall κ η ε ℕ
  | note (e : η) : CounterCall κ η ε Unit

/-- What becomes of a command: it is carried out and answered, or refused, or carried out while its
answer is lost. -/
inductive CounterReply
  | answered
  | refused
  | lost

section Exec

variable [DecidableEq κ] {Op β : Type}

/-- The answer of a command, what it has counted, and the store that it leaves. -/
def CounterCommand.exec : CounterCommand κ β → ExpiringStore κ ℕ →
    β × List (κ × Hit) × ExpiringStore κ ℕ
  | .incr k, s =>
    match s.live k with
    -- INCR keeps the time to live, and a key it creates has none
    | some (v, e) => (v + 1, [(k, ⟨v + 1, s.now⟩)], s.put k (v + 1) e)
    | none => (1, [(k, ⟨1, s.now⟩)], s.put k 1 none)
  | .expire k ttl, s =>
    match s.live k with
    | some (v, _) => ((), [], s.put k v (some (s.now + ttl)))
    | none => ((), [], s)
  | .setNx k ttl, s =>
    match s.live k with
    | some _ => (false, [], s)
    | none => (true, [(k, ⟨1, s.now⟩)], s.put k 1 (some (s.now + ttl)))
  | .remaining k, s => (s.remaining k, [], s)

def counted (hits : List (κ × Hit)) : List (CounterEvent κ η) := hits.map fun h => .hit h.1 h.2

omit [DecidableEq κ] in
@[simp] theorem counted_nil : (counted [] : List (CounterEvent κ η)) = [] := rfl

omit [DecidableEq κ] in
@[simp] theorem counted_singleton (k : κ) (h : Hit) :
    (counted [(k, h)] : List (CounterEvent κ η)) = [.hit k h] := rfl

def CounterCall.exec (unavailable : ε) : CounterCall κ η ε β → CounterReply → ExpiringStore κ ℕ →
    β × List (CounterEvent κ η) × ExpiringStore κ ℕ
  | .store c, .answered, s => (.ok (c.exec s).1, counted (c.exec s).2.1, (c.exec s).2.2)
  | .store _, .refused, s => (.error unavailable, [], s)
  | .store c, .lost, s => (.error unavailable, counted (c.exec s).2.1, (c.exec s).2.2)
  | .clock, _, s => (s.now, [], s)
  | .note e, _, s => ((), [.own e], s)

/-- Programs over one store of counters next to each other; between their steps time passes. -/
def counterPool (unavailable : ε) (program : Op → Program (CounterCall κ η ε) ε Unit) :
    Concurrent (CounterCall κ η ε) ε CounterReply (CounterEvent κ η) (ExpiringStore κ ℕ) ℕ Op where
  exec _ c reply s := some (c.exec unavailable reply s)
  disturb d s := s.wait d
  program := program

/-! ## The hits of a log -/

def CounterEvent.hitOf (k : κ) : CounterEvent κ η → Option Hit
  | .hit k' h => if k' = k then some h else none
  | .own _ => none

/-- What a key has been counted up to, the newest first. -/
def hits (k : κ) (log : List (ℕ × CounterEvent κ η)) : List Hit :=
  (log.filterMap fun entry => entry.2.hitOf k).reverse

variable {k : κ} {log : List (ℕ × CounterEvent κ η)} {tid : ℕ}

theorem hits_append (log' : List (ℕ × CounterEvent κ η)) :
    hits k (log ++ log') = hits k log' ++ hits k log := by
  rw [hits, List.filterMap_append, List.reverse_append]
  rfl

@[simp] theorem hits_nil : hits k ([] : List (ℕ × CounterEvent κ η)) = [] := rfl

@[simp] theorem hits_hit (h : Hit) : hits k [(tid, (.hit k h : CounterEvent κ η))] = [h] := by
  simp [hits, CounterEvent.hitOf]

theorem hits_hit_ne {k' : κ} (h : Hit) (hne : k' ≠ k) :
    hits k [(tid, (.hit k' h : CounterEvent κ η))] = [] := by
  simp [hits, CounterEvent.hitOf, hne]

@[simp] theorem hits_own (e : η) : hits k [(tid, (.own e : CounterEvent κ η))] = [] := rfl

theorem mem_hits {h : Hit} : h ∈ hits k log ↔ ∃ t, (t, .hit k h) ∈ log := by
  rw [hits, List.mem_reverse, List.mem_filterMap]
  constructor
  · rintro ⟨⟨t, e⟩, hmem, he⟩
    cases e with
    | own e => cases he
    | hit k' h' =>
      simp only [CounterEvent.hitOf] at he
      split_ifs at he with heq
      obtain rfl := heq
      obtain rfl := Option.some.inj he
      exact ⟨t, hmem⟩
  · rintro ⟨t, hmem⟩
    exact ⟨_, hmem, if_pos rfl⟩

/-- Every key holds what its hits say. -/
def CountedAll (w : κ → ℕ) (x : Logged (CounterEvent κ η) (ExpiringStore κ ℕ)) : Prop :=
  ∀ k, Counted (w k) k (hits k x.log) x.state

/-- Counts are begun with time enough to live. -/
def CounterCommand.Lasts (w : κ → ℕ) : CounterCommand κ β → Prop
  | .incr _ | .remaining _ => True
  | .expire k ttl | .setNx k ttl => w k ≤ ttl

theorem CountedAll.exec {w : κ → ℕ} {x : Logged (CounterEvent κ η) (ExpiringStore κ ℕ)}
    (h : CountedAll w x) {c : CounterCommand κ β} (hc : c.Lasts w) :
    CountedAll w (x.next tid (counted (c.exec x.state).2.1) (c.exec x.state).2.2) := by
  intro k
  have hk := h k
  cases c with
  | incr k' =>
    simp only [CounterCommand.exec]
    -- the first count of a window, or the next; the counts of other keys stay
    cases hlive : x.state.live k' with
    | none =>
      by_cases heq : k' = k
      · obtain rfl := heq
        simpa [Logged.next, counted, hits_append] using
          hk.first hlive fun t ht => absurd ht (Option.not_mem_none t)
      · simpa [Logged.next, counted, hits_append, hits_hit_ne _ heq] using hk.put_ne (Ne.symm heq)
    | some entry =>
      obtain ⟨v, e⟩ := entry
      by_cases heq : k' = k
      · obtain rfl := heq
        simpa [Logged.next, counted, hits_append] using hk.next hlive
      · simpa [Logged.next, counted, hits_append, hits_hit_ne _ heq] using hk.put_ne (Ne.symm heq)
  | expire k' ttl =>
    simp only [CounterCommand.exec]
    cases hlive : x.state.live k' with
    | none => simpa [Logged.next, counted] using hk
    | some entry =>
      obtain ⟨v, e⟩ := entry
      by_cases heq : k' = k
      · obtain rfl := heq
        simpa [Logged.next, counted] using hk.expire hlive hc
      · simpa [Logged.next, counted] using hk.put_ne (Ne.symm heq)
  | setNx k' ttl =>
    simp only [CounterCommand.exec]
    cases hlive : x.state.live k' with
    | none =>
      by_cases heq : k' = k
      · obtain rfl := heq
        have hfirst := hk.first (e := some (x.state.now + ttl)) hlive fun t ht => by
          obtain rfl := Option.some.inj ht
          exact Nat.add_le_add_left hc _
        simpa [Logged.next, counted, hits_append] using hfirst
      · simpa [Logged.next, counted, hits_append, hits_hit_ne _ heq] using hk.put_ne (Ne.symm heq)
    | some entry => simpa [Logged.next, counted] using hk
  | remaining k' => simpa [Logged.next, counted, CounterCommand.exec] using hk

end Exec

/-! ## The protocol -/

section Protocol

variable [DecidableEq κ] {Op : Type} (unavailable : ε)
  (program : Op → Program (CounterCall κ η ε) ε Unit)

/-- Threads that let counts live long enough, and of whose logs `Ok` holds. -/
def counting (w : κ → ℕ) (Ok : List (CounterEvent κ η) → Prop)
    (cond : Op → ℕ → Logged (CounterEvent κ η) (ExpiringStore κ ℕ) → CounterReply →
      List (CounterEvent κ η) → Prop) :
    Protocol (counterPool unavailable program) cond fun _ _ => True where
  Inv x := CountedAll w x ∧ ∀ t, Ok (x.own t)
  Rely tid x y := y.own tid = x.own tid ∧ x.state.now ≤ y.state.now
  Guar tid x y := (∀ t, t ≠ tid → y.own t = x.own t) ∧ x.state.now ≤ y.state.now
  Post _ _ _ := True
  rely_refl _ _ := ⟨rfl, le_rfl⟩
  rely_trans h h' := ⟨h'.1.trans h.1, h.2.trans h'.2⟩
  guar_rely hne _ h := ⟨h.1 _ hne, h.2⟩
  env_inv h _ := ⟨fun k => (h.1 k).wait _, h.2⟩
  env_rely _ _ _ := ⟨rfl, Nat.le_add_right _ _⟩
  post_stable _ _ _ := trivial

variable {unavailable program} {w : κ → ℕ} {Ok : List (CounterEvent κ η) → Prop}
  {cond : Op → ℕ → Logged (CounterEvent κ η) (ExpiringStore κ ℕ) → CounterReply →
    List (CounterEvent κ η) → Prop}
  {op : Op} {tid : ℕ} {x : Logged (CounterEvent κ η) (ExpiringStore κ ℕ)} {β : Type}

theorem CounterCommand.exec_now (c : CounterCommand κ β) (s : ExpiringStore κ ℕ) :
    (c.exec s).2.2.now = s.now := by
  cases c with
  | incr k | expire k ttl | setNx k ttl =>
    simp only [CounterCommand.exec]
    cases s.live k <;> rfl
  | remaining k => rfl

/-- What a thread has logged, up to a moment that has passed. -/
theorem stable_own (L : List (CounterEvent κ η)) (b : ℕ) :
    (counting unavailable program w Ok cond).Stable tid fun x => x.own tid = L ∧ b ≤ x.state.now :=
  fun _ _ hx hy _ => ⟨hy.1.trans hx.1, hx.2.trans hy.2⟩

/-- A step that logs `es`, while the store becomes `s`. -/
theorem counting_step {es : List (CounterEvent κ η)} {s : ExpiringStore κ ℕ} (hnow : s.now = x.state.now)
    (hinv : CountedAll w x ∧ ∀ t, Ok (x.own t)) (hcounted : CountedAll w (x.next tid es s))
    (hok : Ok (x.own tid ++ es)) :
    (counting unavailable program w Ok cond).Guar tid x (x.next tid es s) ∧
      (counting unavailable program w Ok cond).Inv (x.next tid es s) := by
  refine ⟨⟨fun t ht => Logged.own_next_ne ht, hnow.ge⟩, hcounted, fun t => ?_⟩
  rcases eq_or_ne t tid with rfl | hne
  · rwa [Logged.own_next_self]
  · rw [Logged.own_next_ne hne]
    exact hinv.2 t

/-- **A command**: it is carried out, and answered or not, or it is refused. -/
theorem counting_perform {c : CounterCommand κ β}
    {Q : Except ε β → Logged (CounterEvent κ η) (ExpiringStore κ ℕ) → Prop}
    {A : Logged (CounterEvent κ η) (ExpiringStore κ ℕ) → Prop}
    (hA : (counting unavailable program w Ok cond).Stable tid A) (hx : A x) (hc : c.Lasts w)
    (hdone : ∀ y i, A y → cond op tid y i (counted (c.exec y.state).2.1) →
      Ok (y.own tid ++ counted (c.exec y.state).2.1) ∧
        Q (.ok (c.exec y.state).1)
          (y.next tid (counted (c.exec y.state).2.1) (c.exec y.state).2.2) ∧
        Q (.error unavailable) (y.next tid (counted (c.exec y.state).2.1) (c.exec y.state).2.2))
    (hrefused : ∀ y, A y → Q (.error unavailable) y) :
    (counting unavailable program w Ok cond).Safe op tid Q (Program.perform (.store c)) x := by
  refine Protocol.Safe.perform hA hx fun y hy hinv => ?_
  intro i b es s hexec hcond
  cases i with
  | refused =>
    obtain ⟨rfl, rfl, rfl⟩ := (Prod.mk.injEq .. ▸ Option.some.inj hexec : _ ∧ _).imp id
      (Prod.mk.injEq .. ▸ ·)
    rw [Logged.next_none]
    exact ⟨⟨fun _ _ => rfl, le_rfl⟩, hinv, hrefused y hy⟩
  | answered =>
    obtain ⟨rfl, rfl, rfl⟩ := (Prod.mk.injEq .. ▸ Option.some.inj hexec : _ ∧ _).imp id
      (Prod.mk.injEq .. ▸ ·)
    obtain ⟨hok, hanswered, -⟩ := hdone y _ hy hcond
    obtain ⟨hguar, hinv'⟩ := counting_step (c.exec_now y.state) hinv (hinv.1.exec hc) hok
    exact ⟨hguar, hinv', hanswered⟩
  | lost =>
    obtain ⟨rfl, rfl, rfl⟩ := (Prod.mk.injEq .. ▸ Option.some.inj hexec : _ ∧ _).imp id
      (Prod.mk.injEq .. ▸ ·)
    obtain ⟨hok, -, hlost⟩ := hdone y _ hy hcond
    obtain ⟨hguar, hinv'⟩ := counting_step (c.exec_now y.state) hinv (hinv.1.exec hc) hok
    exact ⟨hguar, hinv', hlost⟩

theorem counting_clock {Q : Except ε ℕ → Logged (CounterEvent κ η) (ExpiringStore κ ℕ) → Prop}
    {A : Logged (CounterEvent κ η) (ExpiringStore κ ℕ) → Prop}
    (hA : (counting unavailable program w Ok cond).Stable tid A) (hx : A x)
    (hread : ∀ y, A y → Q (.ok y.state.now) y) :
    (counting unavailable program w Ok cond).Safe op tid Q (Program.command .clock) x := by
  refine Protocol.Safe.command hA hx fun y hy hinv => ?_
  intro i b es s hexec _
  obtain ⟨rfl, rfl, rfl⟩ := (Prod.mk.injEq .. ▸ Option.some.inj hexec : _ ∧ _).imp id
    (Prod.mk.injEq .. ▸ ·)
  rw [Logged.next_none]
  exact ⟨⟨fun _ _ => rfl, le_rfl⟩, hinv, hread y hy⟩

theorem counting_note {e : η} {Q : Except ε Unit → Logged (CounterEvent κ η) (ExpiringStore κ ℕ) → Prop}
    {A : Logged (CounterEvent κ η) (ExpiringStore κ ℕ) → Prop}
    (hA : (counting unavailable program w Ok cond).Stable tid A) (hx : A x)
    (hnoted : ∀ y, A y → Ok (y.own tid ++ [.own e]) ∧ Q (.ok ()) (y.next tid [.own e] y.state)) :
    (counting unavailable program w Ok cond).Safe op tid Q (Program.command (.note e)) x := by
  refine Protocol.Safe.command hA hx fun y hy hinv => ?_
  intro i b es s hexec _
  obtain ⟨rfl, rfl, rfl⟩ := (Prod.mk.injEq .. ▸ Option.some.inj hexec : _ ∧ _).imp id
    (Prod.mk.injEq .. ▸ ·)
  obtain ⟨hok, hQ⟩ := hnoted y hy
  have hcounted : CountedAll w (y.next tid [.own e] y.state) := fun k => by
    simpa [Logged.next, hits_append] using hinv.1 k
  obtain ⟨hguar, hinv'⟩ := counting_step rfl hinv hcounted hok
  exact ⟨hguar, hinv', hQ⟩

/-- What a key has been counted up to, and when. -/
theorem CounterCommand.exec_incr (k : κ) (s : ExpiringStore κ ℕ) :
    ((CounterCommand.incr k).exec s).2.1 = [(k, ⟨((CounterCommand.incr k).exec s).1, s.now⟩)] := by
  simp only [CounterCommand.exec]
  cases s.live k <;> rfl

/-- What is counted is counted now. -/
theorem CounterCall.moment_eq {c : CounterCall κ η ε β} {i : CounterReply} {s : ExpiringStore κ ℕ}
    {k : κ} {h : Hit} (hmem : .hit k h ∈ (c.exec unavailable i s).2.1) : h.moment = s.now := by
  have hcounted : ∀ {β : Type} (c : CounterCommand κ β),
      (.hit k h : CounterEvent κ η) ∈ counted (c.exec s).2.1 → h.moment = s.now := by
    intro β c hmem
    simp only [counted, List.mem_map, CounterEvent.hit.injEq] at hmem
    obtain ⟨⟨k', h'⟩, hmem, rfl, rfl⟩ := hmem
    cases c with
    | incr k =>
      rw [CounterCommand.exec_incr] at hmem
      cases List.mem_singleton.mp hmem
      rfl
    | expire k ttl =>
      simp only [CounterCommand.exec] at hmem
      cases hlive : s.live k <;> simp [hlive] at hmem
    | setNx k ttl =>
      simp only [CounterCommand.exec] at hmem
      cases hlive : s.live k <;> simp [hlive] at hmem
      rw [hmem.2]
    | remaining k => cases hmem
  cases c with
  | clock => cases hmem
  | note e => cases List.mem_singleton.mp hmem
  | store c =>
    cases i with
    | answered | lost => exact hcounted c hmem
    | refused => cases hmem

theorem CounterCommand.exec_expire (k : κ) (ttl : ℕ) (s : ExpiringStore κ ℕ) :
    ((CounterCommand.expire k ttl).exec s).2.1 = [] := by
  simp only [CounterCommand.exec]
  cases s.live k <;> rfl

theorem CounterCommand.exec_setNx (k : κ) (ttl : ℕ) (s : ExpiringStore κ ℕ) :
    ((CounterCommand.setNx k ttl).exec s).2.1 =
      if ((CounterCommand.setNx k ttl).exec s).1 then [(k, ⟨1, s.now⟩)] else [] := by
  cases hlive : s.live k with
  | none => simp [CounterCommand.exec, hlive]
  | some entry => simp [CounterCommand.exec, hlive]

end Protocol

/-! ## Counting the log -/

section Log

variable {σ : Type} {P Q : η → Bool}

/-- The log is what the threads have logged. -/
theorem countP_log_eq_sum (x : Logged η σ) (P : η → Bool) {N : ℕ} (h : ∀ entry ∈ x.log, entry.1 < N) :
    (x.log.map Prod.snd).countP P = ∑ t ∈ Finset.range N, (x.own t).countP P := by
  obtain ⟨s, log⟩ := x
  simp only [Logged.own] at h ⊢
  induction log with
  | nil => simp
  | cons entry log ih =>
    obtain ⟨i, e⟩ := entry
    obtain ⟨hi, hlog⟩ := List.forall_mem_cons.mp h
    have hcons : ∀ t, (((i, e) :: log).filterMap fun entry : ℕ × η =>
          if entry.1 = t then some entry.2 else none).countP P =
        (log.filterMap fun entry : ℕ × η => if entry.1 = t then some entry.2 else none).countP P +
          if i = t then (if P e then 1 else 0) else 0 := fun t => by
      rw [List.filterMap_cons]
      by_cases heq : i = t
      · simp [heq, List.countP_cons]
      · simp [heq]
    rw [Finset.sum_congr rfl fun t _ => hcons t, Finset.sum_add_distrib, ← ih hlog,
      Finset.sum_ite_eq, if_pos (Finset.mem_range.mpr hi), List.map_cons, List.countP_cons]

/-- **What every thread has logged less of** there is less of in the log. -/
theorem countP_log_le (x : Logged η σ) (h : ∀ t, (x.own t).countP P ≤ (x.own t).countP Q) :
    (x.log.map Prod.snd).countP P ≤ (x.log.map Prod.snd).countP Q := by
  have hbound : ∀ entry ∈ x.log, entry.1 < (x.log.map Prod.fst).sum + 1 := fun entry hentry =>
    Nat.lt_succ_of_le (List.single_le_sum (fun _ _ => Nat.zero_le _) _ (List.mem_map_of_mem hentry))
  rw [countP_log_eq_sum x P hbound, countP_log_eq_sum x Q hbound]
  exact Finset.sum_le_sum fun t _ => h t

end Log
