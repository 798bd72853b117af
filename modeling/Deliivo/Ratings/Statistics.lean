import Deliivo.Ratings.Service

/-!
# The statistics of ratings

A call reads the statistics of the user, and writes back what it has read with one rating added, under
a lock that it takes for the write only. **If every call that commits finds the row still as it has read
it, the statistics are those of the ratings** (`rating_statistics_follow`); two calls that read the same
row lose a rating. That a rater has rated a booking once at most is seen to by the unique index.

## Main definitions

* `RatingDb.StatisticsFollow`: the statistics are those of the ratings, and no rating is there twice
* `CommitsAsRead`: the row that a call has read is the one that it commits on top of

## Main results

* `rating_statistics_follow`
* `two_raters_lose_a_rating`
-/

open Program (Commits Logged Move Pool Server)

namespace Deliivo

/-! ## Statistics that follow the ratings -/

/-- The ratings of a user. -/
def RatingDb.ratingsOf (d : RatingDb) (userId : ℕ) : List RideRating :=
  d.ratings.filter (·.rateeId == userId)

/-- The bookings and raters that ratings are there for. -/
def RatingDb.pairs (d : RatingDb) : List (ℕ × ℕ) := d.ratings.map fun r => (r.bookingId, r.raterId)

/-- A row of statistics, or none, is that of some ratings. -/
structure StatisticsOf (row : Option UserRatingStats) (ratings : List RideRating) : Prop where
  totalRatings : row.elim 0 UserRatingStats.totalRatings = ratings.length
  totalStars : row.elim 0 UserRatingStats.totalStars = (ratings.map RideRating.stars).sum
  averageRating : ∀ stats, row = some stats →
    stats.averageRating = ((stats.totalStars : ℚ) / stats.totalRatings).toHundredth

/-- Every pair of a booking and a rater has one rating at most, and the statistics are those of the
ratings. -/
structure RatingDb.StatisticsFollow (d : RatingDb) : Prop where
  once : d.pairs.Nodup
  totals : ∀ userId, StatisticsOf (d.stats.get? userId) (d.ratingsOf userId)

/-- What a call commits finds the statistics as the call has read them. -/
def CommitsAsRead (_ : RatingCall) (_ : ℕ) (x : Logged RatingEvent (Server RatingDb RatingRow))
    (_ : Bool) (es : List RatingEvent) : Prop :=
  ∀ userId read, .statsUpdated userId read ∈ es → x.state.committed.stats.get? userId = some read

/-- A rating more, in the statistics as well: on top of `existing`, where there were any. -/
def RatingDb.rated (d : RatingDb) (rating : RideRating) (existing : Option UserRatingStats) :
    RatingDb where
  db := d.db
  ratings := d.ratings ++ [rating]
  stats :=
    match existing with
    | none => d.stats.insert rating.rateeId (firstStats rating.stars)
    | some row => d.stats.modify rating.rateeId fun _ => row.add rating.stars

section Rated

variable {d : RatingDb} {rating : RideRating} {existing : Option UserRatingStats} {userId : ℕ}

theorem ratingsOf_rated_self :
    (d.rated rating existing).ratingsOf rating.rateeId = d.ratingsOf rating.rateeId ++ [rating] := by
  simp [RatingDb.ratingsOf, RatingDb.rated, List.filter_append]

theorem ratingsOf_rated_ne (h : userId ≠ rating.rateeId) :
    (d.rated rating existing).ratingsOf userId = d.ratingsOf userId := by
  simp [RatingDb.ratingsOf, RatingDb.rated, List.filter_append, Ne.symm h]

theorem pairs_rated :
    (d.rated rating existing).pairs = d.pairs ++ [(rating.bookingId, rating.raterId)] := by
  simp [RatingDb.pairs, RatingDb.rated]

theorem mem_pairs_iff {bookingId raterId : ℕ} :
    (bookingId, raterId) ∈ d.pairs ↔ d.ratings.any (RideRating.isOf bookingId raterId) = true := by
  rw [RatingDb.pairs, List.mem_map, List.any_eq_true]
  refine exists_congr fun r => and_congr_right fun _ => ?_
  rw [Prod.mk.injEq, RideRating.isOf, Bool.and_eq_true, beq_iff_eq, beq_iff_eq]

/-- The row of the user, where the read row is the one that is there. -/
theorem stats_rated_self (hnone : existing = none → d.stats.get? rating.rateeId = none)
    (hsome : ∀ row, existing = some row → (d.stats.get? rating.rateeId).isSome) :
    (d.rated rating existing).stats.get? rating.rateeId =
      some (existing.elim (firstStats rating.stars) (·.add rating.stars)) := by
  cases existing with
  | none => exact (Table.get?_insert (hnone rfl) _ _).trans (if_pos rfl)
  | some row =>
    obtain ⟨present, hpresent⟩ := Option.isSome_iff_exists.mp (hsome row rfl)
    refine (Table.get?_modify_self _ _ _).trans ?_
    rw [hpresent]
    rfl

theorem stats_rated_ne (hnone : existing = none → d.stats.get? rating.rateeId = none)
    (h : userId ≠ rating.rateeId) :
    (d.rated rating existing).stats.get? userId = d.stats.get? userId := by
  cases existing with
  | none => exact (Table.get?_insert (hnone rfl) _ _).trans (if_neg h)
  | some row => exact Table.get?_modify_ne _ _ h

/-- One rating more, on top of the statistics of the others. -/
theorem StatisticsOf.rated {ratings : List RideRating} (h : StatisticsOf existing ratings) :
    StatisticsOf (some (existing.elim (firstStats rating.stars) (·.add rating.stars)))
      (ratings ++ [rating]) := by
  obtain ⟨htotal, hstars, -⟩ := h
  cases existing with
  | none =>
    simp only [Option.elim] at htotal hstars
    refine ⟨?_, ?_, ?_⟩
    · simp only [Option.elim, firstStats, List.length_append, List.length_singleton]
      push_cast
      omega
    · simp only [Option.elim, firstStats, List.map_append, List.map_singleton, List.sum_append,
        List.sum_singleton]
      omega
    · rintro stats ⟨⟩
      simp [firstStats]
  | some row =>
    simp only [Option.elim] at htotal hstars
    refine ⟨?_, ?_, ?_⟩
    · simp only [Option.elim, UserRatingStats.add, List.length_append, List.length_singleton]
      push_cast
      omega
    · simp only [Option.elim, UserRatingStats.add, List.map_append, List.map_singleton,
        List.sum_append, List.sum_singleton]
      omega
    · rintro stats ⟨⟩
      rfl

end Rated

/-! ## What is promised -/

/-- What calls promise each other: the index of ratings always, and where `asRead` holds also the
statistics. A locked entry of the first index stays as it is, and so do the statistics of a user whose
row is locked, with all of the user's ratings. -/
def ratingCommits (asRead : Prop) : Commits RatingDb RatingRow where
  same
    | .rating bookingId raterId, d, d' => (bookingId, raterId) ∈ d'.pairs ↔ (bookingId, raterId) ∈ d.pairs
    | .stats userId, d, d' =>
      d'.stats.get? userId = d.stats.get? userId ∧ d'.ratingsOf userId = d.ratingsOf userId
  refl r d := by
    cases r with
    | rating bookingId raterId => exact Iff.rfl
    | stats userId => exact ⟨rfl, rfl⟩
  trans {r d d' d''} h h' := by
    cases r with
    | rating bookingId raterId => exact Iff.trans h' h
    | stats userId => exact ⟨h'.1.trans h.1, h'.2.trans h.2⟩
  Inv d := d.pairs.Nodup ∧ (asRead → ∀ userId, StatisticsOf (d.stats.get? userId) (d.ratingsOf userId))
  Step _ _ := True
  step_refl _ := trivial

section Promise

variable {asRead : Prop} {d : RatingDb} {rating : RideRating} {existing : Option UserRatingStats}

/-- What a call that commits has written keeps what is promised. -/
theorem keeps_rated {locks : List RatingRow} (hinv : (ratingCommits asRead).Inv d)
    (habsent : (rating.bookingId, rating.raterId) ∉ d.pairs)
    (hnone : existing = none → d.stats.get? rating.rateeId = none)
    (hsome : ∀ row, existing = some row → (d.stats.get? rating.rateeId).isSome)
    (hread : asRead → ∀ row, existing = some row → d.stats.get? rating.rateeId = some row)
    (hlocks : .rating rating.bookingId rating.raterId ∈ locks ∧ .stats rating.rateeId ∈ locks) :
    (ratingCommits asRead).Keeps locks d (d.rated rating existing) where
  inv := by
    refine ⟨?_, fun hasRead userId => ?_⟩
    · rw [pairs_rated, List.nodup_append]
      refine ⟨hinv.1, List.nodup_singleton _, fun pair hpair pair' hpair' heq => habsent ?_⟩
      rwa [← List.mem_singleton.mp hpair', ← heq]
    · by_cases huser : userId = rating.rateeId
      · subst huser
        -- the row computed from is the row of the moment, by the lock held on it
        have hrow : d.stats.get? rating.rateeId = existing := by
          cases existing with
          | none => exact hnone rfl
          | some row => exact hread hasRead row rfl
        rw [stats_rated_self hnone hsome, ratingsOf_rated_self]
        exact StatisticsOf.rated (hrow ▸ hinv.2 hasRead rating.rateeId)
      · rw [stats_rated_ne hnone huser, ratingsOf_rated_ne huser]
        exact hinv.2 hasRead userId
  step := trivial
  same r hr := by
    cases r with
    | rating bookingId raterId =>
      show (bookingId, raterId) ∈ (d.rated rating existing).pairs ↔ (bookingId, raterId) ∈ d.pairs
      rw [pairs_rated, List.mem_append, List.mem_singleton]
      refine or_iff_left fun heq => hr ?_
      obtain ⟨rfl, rfl⟩ := Prod.mk.injEq .. ▸ heq
      exact hlocks.1
    | stats userId =>
      have huser : userId ≠ rating.rateeId := by
        -- only the statistics of the rated user change, and their lock is held
        rintro rfl
        exact hr hlocks.2
      exact ⟨stats_rated_ne hnone huser, ratingsOf_rated_ne huser⟩

theorem keeps_self (hinv : (ratingCommits asRead).Inv d) (locks : List RatingRow) :
    (ratingCommits asRead).Keeps locks d d where
  inv := hinv
  step := trivial
  same r _ := (ratingCommits asRead).refl r d

end Promise

/-! ## What a transaction has done so far -/

section Stages

variable {asRead : Prop} {tid : ℕ} {rating : RideRating} {existing : Option UserRatingStats}
  {s s' : Server RatingDb RatingRow}

/-- A call has written its rating: its pair is locked, and no other rating of the pair is there. -/
structure WroteRating (tid : ℕ) (rating : RideRating) (s : Server RatingDb RatingRow) : Prop where
  writes : ∀ d, s.pending tid d = { d with ratings := d.ratings ++ [rating] }
  locked : .rating rating.bookingId rating.raterId ∈ s.ownLocks tid
  absent : (rating.bookingId, rating.raterId) ∉ s.committed.pairs

/-- A call has written its rating and the statistics, on top of `existing`. -/
structure WroteStats (tid : ℕ) (rating : RideRating) (existing : Option UserRatingStats)
    (s : Server RatingDb RatingRow) : Prop where
  writes : ∀ d, s.pending tid d = d.rated rating existing
  locked : .rating rating.bookingId rating.raterId ∈ s.ownLocks tid
  statsLocked : .stats rating.rateeId ∈ s.ownLocks tid
  absent : (rating.bookingId, rating.raterId) ∉ s.committed.pairs
  none_of : existing = none → s.committed.stats.get? rating.rateeId = none
  some_of : ∀ row, existing = some row → (s.committed.stats.get? rating.rateeId).isSome

theorem WroteRating.undisturbed (h : WroteRating tid rating s)
    (hs : s.Undisturbed (ratingCommits asRead).toProtection tid s') : WroteRating tid rating s' where
  writes d := (hs.pending d).trans (h.writes d)
  locked := hs.locks ▸ h.locked
  absent hmem := h.absent ((hs.same _ h.locked).mp hmem)

theorem WroteStats.undisturbed (h : WroteStats tid rating existing s)
    (hs : s.Undisturbed (ratingCommits asRead).toProtection tid s') :
    WroteStats tid rating existing s' := by
  obtain ⟨hstats, -⟩ := hs.same _ h.statsLocked
  refine ⟨fun d => (hs.pending d).trans (h.writes d), hs.locks ▸ h.locked, hs.locks ▸ h.statsLocked,
    fun hmem => h.absent ((hs.same _ h.locked).mp hmem), fun hnone => ?_, fun row hsome => ?_⟩
  · rw [hstats]
    exact h.none_of hnone
  · rw [hstats]
    exact h.some_of row hsome

/-- What is committed once the statistics are written. -/
theorem WroteStats.keeps (h : WroteStats tid rating existing s)
    (hinv : (ratingCommits asRead).Inv s.committed)
    (hread : asRead → ∀ row, existing = some row → s.committed.stats.get? rating.rateeId = some row) :
    (ratingCommits asRead).Keeps (s.ownLocks tid) s.committed (s.view tid) := by
  rw [Server.view, h.writes]
  exact keeps_rated hinv h.absent h.none_of h.some_of hread ⟨h.locked, h.statsLocked⟩

theorem wroteRating_run (hwrites : s.ownWrites tid = [])
    (hok : (createRating rating).answer (s.view tid) = .ok ()) :
    WroteRating tid rating (s.run tid (createRating rating)) := by
  have hview : s.view tid = s.committed := Server.pending_of_nil hwrites _
  rw [hview] at hok
  have habsent : s.committed.ratings.any (RideRating.isOf rating.bookingId rating.raterId) = false := by
    by_contra hany
    rw [Bool.not_eq_false] at hany
    simp only [createRating, hany, if_true] at hok
    cases hok
  refine ⟨fun d => ?_, ?_, fun hmem => ?_⟩
  · rw [Server.pending_run, Server.pending_of_nil hwrites, hview]
    simp only [createRating, habsent, Bool.false_eq_true, if_false]
  · rw [Server.ownLocks_run_self]
    exact List.mem_append_right _ List.mem_cons_self
  · rw [mem_pairs_iff] at hmem
    exact Bool.false_ne_true (habsent.symm.trans hmem)

/-- Reading the statistics writes nothing, and what the call itself has written is not in them. -/
theorem WroteRating.findStats (h : WroteRating tid rating s) (userId : ℕ) :
    WroteRating tid rating (s.run tid (findStats userId)) where
  writes d := by
    rw [Server.pending_run]
    exact h.writes d
  locked := by
    rw [Server.ownLocks_run_self]
    exact List.mem_append_left _ h.locked
  absent := h.absent

theorem WroteRating.stats_view (h : WroteRating tid rating s) :
    (s.view tid).stats = s.committed.stats := by
  rw [Server.view, h.writes]

/-- The row of a user is created where none is committed. -/
theorem WroteRating.stats_of_created (h : WroteRating tid rating s) {row : UserRatingStats}
    (hok : (Deliivo.createStats rating.rateeId row).answer (s.view tid) = .ok ()) :
    s.committed.stats.get? rating.rateeId = none := by
  simp only [Deliivo.createStats, h.stats_view] at hok
  by_contra hsome
  rw [if_pos (Option.isSome_iff_ne_none.mpr hsome)] at hok
  cases hok

theorem WroteRating.createStats (h : WroteRating tid rating s)
    (hok : (Deliivo.createStats rating.rateeId (firstStats rating.stars)).answer (s.view tid) = .ok ()) :
    WroteStats tid rating none
      (s.run tid (Deliivo.createStats rating.rateeId (firstStats rating.stars))) where
  writes d := by
    have hnone := h.stats_of_created hok
    rw [Server.pending_run, h.writes]
    simp only [Deliivo.createStats, h.stats_view, hnone, Option.isSome_none, Bool.false_eq_true,
      if_false]
    rfl
  locked := by
    rw [Server.ownLocks_run_self]
    exact List.mem_append_left _ h.locked
  statsLocked := by
    rw [Server.ownLocks_run_self]
    exact List.mem_append_right _ List.mem_cons_self
  absent := h.absent
  none_of _ := h.stats_of_created hok
  some_of row hrow := by cases hrow

theorem WroteRating.updateStats (h : WroteRating tid rating s) {row : UserRatingStats}
    (hok : (Deliivo.updateStats rating.rateeId (row.add rating.stars)).answer (s.view tid) = .ok ()) :
    WroteStats tid rating (some row)
      (s.run tid (Deliivo.updateStats rating.rateeId (row.add rating.stars))) where
  writes d := by
    rw [Server.pending_run, h.writes]
    rfl
  locked := by
    rw [Server.ownLocks_run_self]
    exact List.mem_append_left _ h.locked
  statsLocked := by
    rw [Server.ownLocks_run_self]
    exact List.mem_append_right _ List.mem_cons_self
  absent := h.absent
  none_of hnone := by cases hnone
  some_of _ _ := by
    show (s.committed.stats.get? rating.rateeId).isSome
    simp only [Deliivo.updateStats, h.stats_view] at hok
    by_contra hnone
    rw [if_neg hnone] at hok
    cases hok

end Stages

/-! ## The calls -/

section Calls

variable {asRead : Prop} {tid : ℕ} {op : RatingCall}

/-- The protocol of calls: where `asRead` holds, the rows that are committed on top of are those that
have been read. -/
def ratingProtocol (asRead : Prop) :
    Program.Protocol ratingPool (fun op tid x reply es => asRead → CommitsAsRead op tid x reply es)
      (fun _ _ => True) :=
  Program.readCommitted RatingError.unavailable (fun (db : Db) (d : RatingDb) => { d with db })
    RatingCall.program (ratingCommits asRead)
    (fun op tid x reply es => asRead → CommitsAsRead op tid x reply es) (fun _ _ => True)
    fun _ x hinv _ => {
      inv := hinv
      step := trivial
      same := fun r _ => by
        cases r with
        | rating bookingId raterId => exact Iff.rfl
        | stats userId => exact ⟨rfl, rfl⟩ }

/-- What the transaction writes may be committed where it returns. -/
def Committable (tid : ℕ) (rating : RideRating)
    (r : Except RatingError (Option UserRatingStats))
    (x : Logged RatingEvent (Server RatingDb RatingRow)) : Prop :=
  ∀ existing, r = .ok existing → WroteStats tid rating existing x.state

theorem safe_writeRating (rating : RideRating) {x : Logged RatingEvent (Server RatingDb RatingRow)}
    (hwrites : x.state.ownWrites tid = []) :
    (ratingProtocol asRead).Safe op tid (Committable tid rating) (writeRating rating) x := by
  unfold writeRating
  intro y hy hinv
  refine Program.keeps_run hinv (fun _ => ?_) fun existing herror => by cases herror
  cases hcreated : (createRating rating).answer (y.state.view tid) with
  | error e => exact fun existing herror => by cases herror
  | ok u =>
    have hrating := wroteRating_run (hy.writes.trans hwrites) hcreated
    intro z hz hinv
    have hrating := hrating.undisturbed hz
    refine Program.keeps_run hinv (fun _ => ?_) fun existing herror => by cases herror
    -- the rating is written; from here on the statistics row decides between insert and update
    have hread := hrating.findStats rating.rateeId
    cases hexisting : (findStats rating.rateeId).answer (z.state.view tid) with
    | none =>
      intro w hw hinv
      have hread := hread.undisturbed hw
      refine Program.keeps_run hinv (fun _ => ?_) fun existing herror => by cases herror
      cases hstats : (createStats rating.rateeId (firstStats rating.stars)).answer
          (w.state.view tid) with
      | error e => exact fun existing herror => by cases herror
      | ok u =>
        rintro existing ⟨⟩
        exact hread.createStats hstats
    | some row =>
      intro w hw hinv
      have hread := hread.undisturbed hw
      refine Program.keeps_run hinv (fun _ => ?_) fun existing herror => by cases herror
      cases hstats : (updateStats rating.rateeId (row.add rating.stars)).answer
          (w.state.view tid) with
      | error e => exact fun existing herror => by cases herror
      | ok u =>
        rintro existing ⟨⟩
        exact hread.updateStats hstats

/-- The transaction of a call. -/
theorem safe_writeRatingOnce (rating : RideRating)
    {x : Logged RatingEvent (Server RatingDb RatingRow)} (hwrites : x.state.ownWrites tid = []) :
    (ratingProtocol asRead).Safe op tid (Committable tid rating) (writeRatingOnce rating) x := by
  refine Program.Protocol.Safe.tryCatch ((safe_writeRating rating hwrites).mono ?_)
  rintro (e | existing) y hy
  · -- what is thrown in its place is not committed either
    show (ratingProtocol asRead).Safe op tid _ (if _ then _ else _) y
    split_ifs
    · exact fun existing herror => by cases herror
    · exact fun existing herror => by cases herror
  · exact hy

/-- Reading outside of a transaction. -/
theorem safe_ratingRead {β : Type} {c : RatingStatement β} (hwrite : ∀ seen d, c.write seen d = d)
    (x : Logged RatingEvent (Server RatingDb RatingRow)) :
    (ratingProtocol asRead).Safe op tid (fun _ _ => True) (Program.autocommit c) x := by
  refine Program.Protocol.Safe.perform (A := fun _ => True) (fun _ _ _ _ _ => trivial) trivial ?_
  intro y _ hinv
  refine Program.keeps_auto hinv ?_ (fun _ => trivial) trivial
  rw [hwrite]
  exact keeps_self hinv.2 _

theorem safe_submitBookingRating (raterId bookingId : ℕ) (input : SubmitRatingInput)
    (x : Logged RatingEvent (Server RatingDb RatingRow)) :
    (ratingProtocol asRead).Safe op tid (fun _ _ => True) (submitBookingRating raterId bookingId input)
      x := by
  unfold submitBookingRating
  split_ifs
  · trivial
  refine Program.Protocol.Safe.sequence (safe_ratingRead (fun _ _ => rfl) x) fun found y _ => ?_
  cases found with
  | none => trivial
  | some found =>
    obtain ⟨booking, ride⟩ := found
    show (ratingProtocol asRead).Safe op tid _ (Program.bind _ _) y
    cases checkRating raterId bookingId input booking ride with
    | error e => trivial
    | ok rating =>
      change (ratingProtocol asRead).Safe op tid _
        (Program.bind (Program.autocommit (findRating bookingId raterId)) _) y
      refine Program.Protocol.Safe.sequence (safe_ratingRead (fun _ _ => rfl) y) fun existing z _ => ?_
      cases existing with
      | true => trivial
      | false =>
        refine Program.Protocol.Safe.sequence ?_ fun _ _ _ => trivial
        refine Program.safe_transaction (fun _ _ _ _ => trivial) fun v hwrites _ _ => ?_
        refine (safe_writeRatingOnce rating hwrites).mono ?_
        rintro (e | existing) w hw u hu _ hinv
        · trivial
        · have hstats := (hw existing rfl).undisturbed hu
          refine ⟨fun hcond => ⟨hstats.keeps hinv fun hasRead row hrow => ?_, trivial⟩, trivial⟩
          subst hrow
          exact hcond hasRead rating.rateeId row (List.mem_singleton_self _)

theorem safeOperations_rating : (ratingProtocol asRead).SafeOperations := by
  intro op tid x _ _
  exact Program.Protocol.Safe.sequence (safe_submitBookingRating _ _ _ x) fun _ _ _ => trivial

end Calls

/-! ## Runs -/

/-- A database before the calls. -/
def ratingStart (d : RatingDb) :
    Pool (Program.ServerCall RatingDb RatingRow RatingEvent RatingError) RatingError RatingEvent
      (Server RatingDb RatingRow) RatingCall where
  now := { state := { committed := d } }

/-- What every call promises holds in every state of a run. -/
theorem ratings_promised {asRead : Prop} {d : RatingDb} (hd : (ratingCommits asRead).Inv d)
    {moves : List (Move RatingCall Bool Db)}
    (h : History.Each (Pool.step ratingPool)
      (Pool.Meets ratingPool (fun op tid x reply es => asRead → CommitsAsRead op tid x reply es)
        fun _ _ => True) (ratingStart d) moves) :
    History.Always (Pool.step ratingPool)
      (fun p => (ratingCommits asRead).Inv p.now.state.committed) (ratingStart d) moves := by
  have hstart : (ratingProtocol asRead).Holds (ratingStart d) := by
    refine Program.Protocol.holds_of_inv ⟨?_, hd⟩ rfl rfl
    intro l hl
    cases hl
  exact (Program.Protocol.sound safeOperations_rating hstart h).imp fun _ hp => hp.inv.2

/-- **Statistics follow the ratings** in an interleaving in which every call that commits finds the
statistics as it has read them. In every interleaving, a booking is rated once at most by a rater. -/
theorem rating_statistics_follow (d : RatingDb) (hd : d.StatisticsFollow)
    (moves : List (Move RatingCall Bool Db)) :
    History.Always (Pool.step ratingPool) (fun p => p.now.state.committed.pairs.Nodup) (ratingStart d)
      moves ∧
    (History.Each (Pool.step ratingPool) (Pool.Meets ratingPool CommitsAsRead fun _ _ => True)
        (ratingStart d) moves →
      History.Always (Pool.step ratingPool) (fun p => p.now.state.committed.StatisticsFollow)
        (ratingStart d) moves) := by
  refine ⟨?_, fun h => ?_⟩
  · have hmeets : History.Each (Pool.step ratingPool) (Pool.Meets ratingPool
        (fun op tid x reply es => False → CommitsAsRead op tid x reply es) fun _ _ => True)
        (ratingStart d) moves := by
      refine (History.each_true (ratingStart d) moves).imp (I := fun _ => True)
        (fun _ _ _ => trivial) (fun p move _ _ => ?_) trivial
      exact Pool.meets_of_forall (fun _ _ _ _ _ => False.elim) (fun _ _ => trivial) p move
    exact (ratings_promised ⟨hd.once, False.elim⟩ hmeets).imp fun _ hinv => hinv.1
  · have hmeets : History.Each (Pool.step ratingPool) (Pool.Meets ratingPool
        (fun op tid x reply es => True → CommitsAsRead op tid x reply es) fun _ _ => True)
        (ratingStart d) moves := by
      refine h.imp (I := fun _ => True) (fun _ _ _ => trivial) (fun _ _ _ hmeets => ?_) trivial
      exact hmeets.imp fun _ _ _ _ _ hcond _ => hcond
    refine (ratings_promised ⟨hd.once, fun _ => hd.totals⟩ hmeets).imp fun _ hinv => ?_
    exact ⟨hinv.1, hinv.2 trivial⟩

section Runs

/-- A rider who has been driven on ride 10. -/
private def driven (riderId : ℕ) : Booking where
  rideId := 10
  passengerId := riderId
  seatsBooked := 1
  totalPrice := 500
  status := .completed

/-- Three riders have been driven by user 7. -/
private def drivenDb : Db where
  rides := Table.single 10 {
    driverId := 7
    totalSeats := 3
    availableSeats := 0
    status := .completed
    departureAt := 0 }
  bookings := ⟨[(1, driven 1), (2, driven 2), (3, driven 3)], by simp⟩

/-- The call of a rider. -/
private def riderRates (riderId : ℕ) : RatingCall where
  raterId := riderId
  bookingId := riderId
  input := { stars := 5 }

/-- Two riders, one after the other. -/
private def ratedInTurn : List (Move RatingCall Bool Db) :=
  [.start (riderRates 1), .step 0 true, .step 0 true, .step 0 true, .step 0 true, .step 0 true,
    .step 0 true, .step 0 true, .start (riderRates 2), .step 1 true, .step 1 true, .step 1 true,
    .step 1 true, .step 1 true, .step 1 true, .step 1 true]

theorem rated_in_turn_follow :
    History.Each (Pool.step ratingPool) (Pool.Meets ratingPool CommitsAsRead fun _ _ => True)
      (ratingStart { db := drivenDb }) ratedInTurn ∧
    History.Always (Pool.step ratingPool) (fun p => p.now.state.committed.StatisticsFollow)
      (ratingStart { db := drivenDb }) ratedInTurn := by
  have hstart : RatingDb.StatisticsFollow { db := drivenDb } := by
    refine ⟨List.nodup_nil, fun userId => ⟨rfl, rfl, ?_⟩⟩
    rintro stats ⟨⟩
  have hmeets : History.Each (Pool.step ratingPool)
      (Pool.Meets ratingPool CommitsAsRead fun _ _ => True) (ratingStart { db := drivenDb })
      ratedInTurn := by
    refine ⟨trivial, ?_, ?_, ?_, ?_, ?_, ?_, ?_, trivial, ?_, ?_, ?_, ?_, ?_, ?_, ?_, trivial⟩
    all_goals rintro op rest ⟨⟩ b es s ⟨⟩ userId read hread
    pick_goal 14
    · -- the last commit is the only one that has read a row
      obtain ⟨rfl, rfl⟩ := RatingEvent.statsUpdated.injEq .. ▸ List.mem_singleton.mp hread
      rfl
    all_goals cases hread
  exact ⟨hmeets, (rating_statistics_follow _ hstart _).2 hmeets⟩

/-- Two more riders, who have both read the statistics before either commits. -/
private def ratedAtOnce : List (Move RatingCall Bool Db) :=
  [.start (riderRates 1), .step 0 true, .step 0 true, .step 0 true, .step 0 true, .step 0 true,
    .step 0 true, .step 0 true, .start (riderRates 2), .start (riderRates 3), .step 1 true,
    .step 1 true, .step 1 true, .step 1 true, .step 1 true, .step 2 true, .step 2 true, .step 2 true,
    .step 2 true, .step 2 true, .step 1 true, .step 1 true, .step 2 true, .step 2 true]

/-- **A rating is lost**: three ratings are there, and the statistics count two. -/
theorem two_raters_lose_a_rating :
    Pool.Idle (History.after (Pool.step ratingPool) (ratingStart { db := drivenDb }) ratedAtOnce) ∧
    ¬ RatingDb.StatisticsFollow (History.after (Pool.step ratingPool)
        (ratingStart { db := drivenDb }) ratedAtOnce).now.state.committed := by
  refine ⟨fun t ht => ?_, fun h => ?_⟩
  · have hdone : ∀ t ∈ (History.after (Pool.step ratingPool) (ratingStart { db := drivenDb })
        ratedAtOnce).threads, t.2.result? = some (.ok ()) := by
      intro t ht
      rcases ht with _ | ⟨_, _ | ⟨_, _ | ⟨_, ht⟩⟩⟩
      · rfl
      · rfl
      · rfl
      · cases ht
    exact Program.done_iff.mpr ⟨_, hdone t ht⟩
  · have htotal := (h.totals 7).totalRatings
    have htwo : (2 : ℤ) = 3 := htotal
    exact absurd htwo (by decide)

end Runs

end Deliivo
