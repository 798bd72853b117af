import Deliivo.Store.Pages
import Deliivo.Store.Table

/-!
# Pages of a conversation

The messages of a conversation are read in pages, the newest first. A page that is not the last names
its last message as the cursor of the next one, and that starts at the messages that are older than the
cursor.

**Reading to the end returns every message once, the newest first, exactly if no page ends between two
messages of the same time** (`read_in_full_iff`). It always comes to an end.

## Main definitions

* `getConversationMessages`, `getMessages`
* `readConversation`: a reader who follows the cursors
* `RowOrder`: the order in which the database returns rows of the same time

## Main results

* `readConversation_page`: one page, and the reading from its cursor on
* `readConversation_spec`: what a reader has read in the end
* `read_in_full_iff`: when that is the conversation
-/

namespace Deliivo.Chat

/-! ## Conversations -/

inductive MessageType where
  | TEXT
  | IMAGE
  | FILE
  | LOCATION
  | SYSTEM
  deriving DecidableEq, Repr

structure Message where
  conversationId : ℕ
  senderId : ℕ
  receiverId : ℕ
  type : MessageType := .TEXT
  text : Option String := none
  payloadJson : Option String := none
  clientMsgId : Option String := none
  deliveredAt : Option ℤ := none
  readAt : Option ℤ := none
  createdAt : ℤ
  deriving DecidableEq, Repr

structure Conversation where
  userAId : ℕ
  userBId : ℕ
  deriving DecidableEq, Repr

/-- What a page of a chat is read from. -/
structure ChatDb where
  conversations : Table Conversation
  messages : Table Message
  /-- whether two users share an active ride, any one or that of a booking -/
  hasActiveRideChat : ℕ → ℕ → Option ℕ → Bool

inductive ChatError where
  | CONVERSATION_NOT_FOUND
  deriving DecidableEq, Repr

structure MessagePage where
  messages : List (ℕ × Message)
  nextCursor : Option ℕ
  hasMore : Bool
  chatAvailable : Bool
  peerId : ℕ

/-- The time of a message. -/
def sentAt (row : ℕ × Message) : ℤ := row.2.createdAt

/-- `ORDER BY "createdAt" DESC` of the query with a cursor: rows of the same time come in any order. -/
structure RowOrder where
  order : Option ℕ → List (ℕ × Message) → List (ℕ × Message)
  perm : ∀ cursor rows, (order cursor rows).Perm rows
  descending : ∀ cursor rows, Descending sentAt (order cursor rows)

/-! ## Reading -/

section Reading

variable (db : ChatDb) (order : RowOrder)

def getConversationChatContext (userId conversationId : ℕ) : Option Conversation :=
  (db.conversations.get? conversationId).filter fun c => c.userAId == userId || c.userBId == userId

/-- The messages of a conversation that a query selects. -/
def ChatDb.selected (conversationId : ℕ) : Option ℕ → List (ℕ × Message)
  | some cursor =>
    match (db.messages.get? cursor).filter fun m => m.conversationId == conversationId with
    | some cursorRow => db.messages.filter fun _ m =>
        m.conversationId == conversationId && decide (m.createdAt < cursorRow.createdAt)
    | none => []
  | none => db.messages.filter fun _ m => m.conversationId == conversationId

def getConversationMessages (conversationId : ℕ) (cursor : Option ℕ) (limit : ℕ) :
    List (ℕ × Message) :=
  (order.order cursor (db.selected conversationId cursor)).take (limit + 1)

def getMessages (userId conversationId : ℕ) (cursor : Option ℕ) (limit : ℕ)
    (bookingId : Option ℕ) : Except ChatError MessagePage :=
  match getConversationChatContext db userId conversationId with
  | none => .error .CONVERSATION_NOT_FOUND
  | some conversation =>
    let messages := getConversationMessages db order conversationId cursor limit
    let hasMore := decide (limit < messages.length)
    let results := if hasMore then messages.take limit else messages
    let nextCursor := if hasMore then results.getLast?.map Prod.fst else none
    let peerId := if conversation.userAId == userId then conversation.userBId else conversation.userAId
    .ok { messages := results, nextCursor, hasMore, peerId
          chatAvailable := db.hasActiveRideChat userId peerId bookingId }

/-- A reader who calls with the cursor he was given until there is no more; `none` if he has not come to
the end after so many calls. -/
def readConversation (userId conversationId limit : ℕ) (bookingId : Option ℕ) :
    ℕ → Option ℕ → Option (List (ℕ × Message))
  | 0, _ => none
  | calls + 1, cursor =>
    match getMessages db order userId conversationId cursor limit bookingId with
    | .error _ => none
    | .ok page =>
      if page.hasMore then
        (readConversation userId conversationId limit bookingId calls page.nextCursor).map
          (page.messages ++ ·)
      else some page.messages

end Reading

/-! ## One page -/

section Pages

variable {db : ChatDb} {order : RowOrder} {userId conversationId limit : ℕ} {bookingId : Option ℕ}

/-- The user is one of the two in the conversation. -/
def ChatDb.Participant (db : ChatDb) (userId conversationId : ℕ) : Prop :=
  ∃ conversation, getConversationChatContext db userId conversationId = some conversation

/-- What a query selects is in the conversation. -/
theorem of_mem_selected {cursor : Option ℕ} {row : ℕ × Message}
    (h : row ∈ db.selected conversationId cursor) :
    db.messages.get? row.1 = some row.2 ∧ row.2.conversationId = conversationId := by
  cases cursor with
  | none =>
    rw [ChatDb.selected] at h
    obtain ⟨hget, hP⟩ := Table.mem_filter_iff.mp h
    exact ⟨hget, by simpa using hP⟩
  | some cursor =>
    rw [ChatDb.selected] at h
    split at h
    · obtain ⟨hget, hP⟩ := Table.mem_filter_iff.mp h
      rw [Bool.and_eq_true] at hP
      exact ⟨hget, by simpa using hP.1⟩
    · exact absurd h List.not_mem_nil

/-- What a cursor selects is older than its message and was selected with that. -/
theorem selected_cursor {cursor : Option ℕ} {row : ℕ × Message}
    (hrow : row ∈ db.selected conversationId cursor) :
    db.selected conversationId (some row.1) =
      (db.selected conversationId cursor).filter fun a => decide (sentAt a < sentAt row) := by
  obtain ⟨hget, hconversation⟩ := of_mem_selected hrow
  have hnext : db.selected conversationId (some row.1) = db.messages.filter fun _ m =>
      m.conversationId == conversationId && decide (m.createdAt < row.2.createdAt) := by
    rw [ChatDb.selected, hget, Option.filter_some, if_pos (by simpa using hconversation)]
  rw [hnext]
  cases cursor with
  | none =>
    rw [ChatDb.selected, Table.filter, Table.filter, List.filter_filter]
    refine List.filter_congr fun a _ => ?_
    exact Bool.and_comm _ _
  | some cursor =>
    rw [ChatDb.selected] at hrow ⊢
    split at hrow
    · rename_i cursorRow hcursor
      have hbefore : row.2.createdAt < cursorRow.createdAt := by
        have hselected := (Table.mem_filter_iff.mp hrow).2
        rw [Bool.and_eq_true] at hselected
        exact of_decide_eq_true hselected.2
      rw [Table.filter, Table.filter, List.filter_filter]
      refine List.filter_congr fun a _ => ?_
      -- what is older than the row is older than the cursor before it
      by_cases hlt : sentAt a < sentAt row
      · have hcursorRow : a.2.createdAt < cursorRow.createdAt := lt_trans hlt hbefore
        rw [decide_eq_true hlt, Bool.true_and, decide_eq_true hcursorRow]
        exact congrArg _ (decide_eq_true (hlt : a.2.createdAt < row.2.createdAt))
      · rw [decide_eq_false hlt, Bool.false_and]
        exact (congrArg _ (decide_eq_false (hlt : ¬ a.2.createdAt < row.2.createdAt))).trans
          (Bool.and_false _)
    · exact absurd hrow List.not_mem_nil

/-- What is not more than a page is read at once. -/
theorem readConversation_last (hparticipant : db.Participant userId conversationId)
    {cursor : Option ℕ} (h : (db.selected conversationId cursor).length ≤ limit) (calls : ℕ) :
    readConversation db order userId conversationId limit bookingId (calls + 1) cursor =
      some (order.order cursor (db.selected conversationId cursor)) := by
  obtain ⟨conversation, hfound⟩ := hparticipant
  have hlength := (order.perm cursor (db.selected conversationId cursor)).length_eq
  have hall : getConversationMessages db order conversationId cursor limit =
      order.order cursor (db.selected conversationId cursor) :=
    List.take_of_length_le (by omega)
  have hmore : decide (limit < (order.order cursor (db.selected conversationId cursor)).length) =
      false := decide_eq_false (by omega)
  simp only [readConversation, getMessages, hfound, hall, hmore]
  rfl

/-- **One page**, and the reading from its cursor on. -/
theorem readConversation_page (hparticipant : db.Participant userId conversationId)
    (hlimit : 1 ≤ limit) {cursor : Option ℕ}
    (h : limit < (db.selected conversationId cursor).length) :
    ∃ row, ((order.order cursor (db.selected conversationId cursor)).take limit).getLast? = some row ∧
      ∀ calls, readConversation db order userId conversationId limit bookingId (calls + 1) cursor =
        (readConversation db order userId conversationId limit bookingId calls (some row.1)).map
          ((order.order cursor (db.selected conversationId cursor)).take limit ++ ·) := by
  obtain ⟨conversation, hfound⟩ := hparticipant
  set rows := order.order cursor (db.selected conversationId cursor) with hrows
  have hlength : rows.length = (db.selected conversationId cursor).length :=
    (order.perm _ _).length_eq
  have hmore : decide (limit < (rows.take (limit + 1)).length) = true := by
    rw [List.length_take]
    exact decide_eq_true (by omega)
  have htake : (rows.take (limit + 1)).take limit = rows.take limit := by
    rw [List.take_take, min_eq_left (Nat.le_succ limit)]
  obtain ⟨row, hrow⟩ : ∃ row, (rows.take limit).getLast? = some row := by
    refine Option.ne_none_iff_exists'.mp fun hnone => ?_
    have hempty := congrArg List.length (List.getLast?_eq_none_iff.mp hnone)
    rw [List.length_take, List.length_nil] at hempty
    omega
  refine ⟨row, hrow, fun calls => ?_⟩
  simp only [readConversation, getMessages, hfound, getConversationMessages, ← hrows, hmore, if_true,
    htake, hrow, Option.map_some]

/-! ## Reading to the end -/

/-- **A reader comes to the end**, with messages that the first query selected, the newest first, and
with each of these once exactly if no page ends between two messages of the same time. -/
theorem readConversation_spec (hparticipant : db.Participant userId conversationId)
    (hlimit : 1 ≤ limit) (calls : ℕ) (cursor : Option ℕ)
    (hcalls : (db.selected conversationId cursor).length < calls) :
    ∃ all, readConversation db order userId conversationId limit bookingId calls cursor = some all ∧
      Descending sentAt all ∧ (∀ a ∈ all, a ∈ db.selected conversationId cursor) ∧
      (all.Perm (db.selected conversationId cursor) ↔
        TieFree sentAt limit (db.selected conversationId cursor)) := by
  induction calls generalizing cursor with
  | zero => exact absurd hcalls (Nat.not_lt_zero _)
  | succ calls ih =>
    have hperm := order.perm cursor (db.selected conversationId cursor)
    have hdescending := order.descending cursor (db.selected conversationId cursor)
    rcases Nat.lt_or_ge limit (db.selected conversationId cursor).length with hmore | hlast
    · obtain ⟨row, hrow, hpage⟩ := @readConversation_page _ order _ _ _ bookingId
        hparticipant hlimit _ hmore
      set rows := order.order cursor (db.selected conversationId cursor) with hrows
      have hcut := isPage_take hdescending hrow
      have hsize : (rows.take limit).length = limit := by
        rw [List.length_take, hperm.length_eq]
        omega
      have hselected : row ∈ db.selected conversationId cursor :=
        hperm.mem_iff.mp (List.mem_of_mem_take hcut.mem)
      -- the next query selects what is older than the last message of the page
      have hnext := selected_cursor hselected
      have hbelow : (db.selected conversationId (some row.1)).Perm
          ((rows.drop limit).filter fun a => decide (sentAt a < sentAt row)) := by
        rw [hnext, ← hcut.filter_below, List.take_append_drop]
        exact (hperm.filter _).symm
      have hfewer : (db.selected conversationId (some row.1)).length < calls := by
        have hlt : (db.selected conversationId (some row.1)).length <
            (db.selected conversationId cursor).length := by
          rw [hnext]
          refine List.length_filter_lt_length_iff_exists.mpr ⟨row, hselected, ?_⟩
          simp
        omega
      obtain ⟨older, hread, holder, hin, hfull⟩ := ih (some row.1) hfewer
      have hless : ∀ a ∈ older, a ∈ db.selected conversationId cursor ∧ sentAt a < sentAt row := by
        intro a ha
        have hmem := hin a ha
        rw [hnext] at hmem
        obtain ⟨hsel, hlt⟩ := List.mem_filter.mp hmem
        exact ⟨hsel, of_decide_eq_true hlt⟩
      refine ⟨rows.take limit ++ older, ?_, ?_, ?_, ?_⟩
      · rw [hpage, hread]
        rfl
      · refine List.pairwise_append.mpr ⟨hdescending.sublist (List.take_sublist _ _), holder, ?_⟩
        intro a ha b hb
        exact (hless b hb).2.le.trans (hcut.least a ha)
      · intro a ha
        rcases List.mem_append.mp ha with ha | ha
        · exact hperm.mem_iff.mp (List.mem_of_mem_take ha)
        · exact (hless a ha).1
      · have hfree : TieFree sentAt limit (db.selected conversationId cursor) ↔
            (∀ a ∈ rows.drop limit, sentAt a < sentAt row) ∧
              TieFree sentAt limit (rows.drop limit) := by
          rw [← tieFree_iff_page hcut hsize, List.take_append_drop]
          exact ⟨fun h => h.perm hperm.symm, fun h => h.perm hperm⟩
        have hsame : (rows.take limit ++ older).Perm (db.selected conversationId cursor) ↔
            older.Perm (rows.drop limit) := by
          have hsplit : (rows.take limit ++ rows.drop limit).Perm (db.selected conversationId cursor) := by
            rw [List.take_append_drop]
            exact hperm
          refine Iff.trans ?_ (List.perm_append_left_iff (rows.take limit))
          exact ⟨fun h => h.trans hsplit.symm, fun h => h.trans hsplit⟩
        rw [hfree, hsame]
        constructor
        · intro hall
          have hlt : ∀ a ∈ rows.drop limit, sentAt a < sentAt row :=
            fun a ha => (hless a (hall.mem_iff.mpr ha)).2
          rw [List.filter_eq_self.mpr fun a ha => decide_eq_true (hlt a ha)] at hbelow
          exact ⟨hlt, (hfull.mp (hall.trans hbelow.symm)).perm hbelow⟩
        · rintro ⟨hlt, hrest⟩
          rw [List.filter_eq_self.mpr fun a ha => decide_eq_true (hlt a ha)] at hbelow
          exact (hfull.mpr (hrest.perm hbelow.symm)).trans hbelow
    · refine ⟨_, readConversation_last hparticipant hlast calls, hdescending, ?_, ?_⟩
      · exact fun a ha => hperm.mem_iff.mp ha
      · exact iff_of_true hperm (tieFree_of_length_le hlast)

/-- More calls read the same. -/
theorem readConversation_mono {calls : ℕ} {cursor : Option ℕ} {all : List (ℕ × Message)}
    (h : readConversation db order userId conversationId limit bookingId calls cursor = some all) :
    readConversation db order userId conversationId limit bookingId (calls + 1) cursor = some all := by
  induction calls generalizing cursor all with
  | zero => exact absurd h (by simp [readConversation])
  | succ calls ih =>
    rw [readConversation] at h ⊢
    cases hpage : getMessages db order userId conversationId cursor limit bookingId with
    | error e =>
      rw [hpage] at h
      exact absurd h (by simp)
    | ok page =>
      simp only [hpage] at h ⊢
      by_cases hmore : page.hasMore = true
      · rw [if_pos hmore] at h ⊢
        obtain ⟨older, holder, rfl⟩ := Option.map_eq_some_iff.mp h
        rw [ih holder, Option.map_some]
      · rwa [if_neg hmore] at h ⊢

theorem readConversation_le {calls more : ℕ} {cursor : Option ℕ} {all : List (ℕ × Message)}
    (h : readConversation db order userId conversationId limit bookingId calls cursor = some all)
    (hle : calls ≤ more) :
    readConversation db order userId conversationId limit bookingId more cursor = some all := by
  induction hle with
  | refl => exact h
  | step _ ih => exact readConversation_mono ih

end Pages

/-- **Reading from the newest message to the end** comes to an end with every message of the conversation
once, the newest first, exactly if no page ends between two messages of the same time. -/
theorem read_in_full_iff (db : ChatDb) (order : RowOrder) (userId conversationId limit : ℕ)
    (bookingId : Option ℕ) (hparticipant : db.Participant userId conversationId)
    (hlimit : 1 ≤ limit) :
    (∃ calls all, readConversation db order userId conversationId limit bookingId calls none =
        some all ∧
      all.Perm (db.messages.filter fun _ m => m.conversationId == conversationId) ∧
      Descending sentAt all) ↔
      TieFree sentAt limit (db.messages.filter fun _ m => m.conversationId == conversationId) := by
  obtain ⟨all, hread, hdescending, -, hfull⟩ := @readConversation_spec _ order
    _ _ _ bookingId hparticipant hlimit _ none (Nat.lt_succ_self _)
  constructor
  · rintro ⟨calls, other, hother, hperm, -⟩
    have hsame := (readConversation_le hother (le_max_left calls _)).symm.trans
      (readConversation_le hread (le_max_right calls _))
    rw [Option.some.inj hsame] at hperm
    exact hfull.mp hperm
  · intro hfree
    exact ⟨_, all, hread, hfull.mpr hfree, hdescending⟩

/-! ## Two messages on two pages -/

section Runs

/-- Rows of the same time in the order they were stored. -/
private def storedOrder : RowOrder where
  order _ rows := rows.insertionSort fun a b => sentAt b ≤ sentAt a
  perm _ rows := List.perm_insertionSort _ rows
  descending _ rows := List.pairwise_insertionSort _ rows

/-- Two messages of a conversation, sent at these times. -/
private def twoMessages (first second : ℤ) : ChatDb where
  conversations := ⟨[(1, { userAId := 1, userBId := 2 })], List.nodup_singleton _⟩
  messages := ⟨[(2, { conversationId := 1, senderId := 2, receiverId := 1, createdAt := second }),
    (1, { conversationId := 1, senderId := 1, receiverId := 2, createdAt := first })], by simp⟩
  hasActiveRideChat _ _ _ := true

private theorem participant_twoMessages (first second : ℤ) :
    (twoMessages first second).Participant 1 1 := ⟨_, rfl⟩

/-- Two messages of different times are read on two pages of one. -/
theorem two_messages_read_in_full :
    ∃ calls all, readConversation (twoMessages 5 7) storedOrder 1 1 1 none calls none = some all ∧
      all.Perm ((twoMessages 5 7).messages.filter fun _ m => m.conversationId == 1) ∧
      Descending sentAt all := by
  refine (read_in_full_iff (twoMessages 5 7) storedOrder 1 1 1 none (participant_twoMessages 5 7)
    le_rfl).mpr ?_
  refine (@tieFree_iff_page _ _ _ _ _ [(2, _)] [(1, _)] (2, _)
    ⟨List.mem_singleton_self _, ?_, ?_⟩ rfl).mpr ⟨?_, tieFree_of_length_le le_rfl⟩
  · simp
  · simp [sentAt]
  · simp [sentAt]

/-- Of two messages of one time the reader gets one. -/
theorem message_of_the_same_time_lost :
    ¬ ∃ calls all, readConversation (twoMessages 5 5) storedOrder 1 1 1 none calls none = some all ∧
      all.Perm ((twoMessages 5 5).messages.filter fun _ m => m.conversationId == 1) ∧
      Descending sentAt all := by
  rintro ⟨calls, all, hread, hperm, -⟩
  have hone : readConversation (twoMessages 5 5) storedOrder 1 1 1 none 2 none =
      some [(2, { conversationId := 1, senderId := 2, receiverId := 1, createdAt := 5 })] := by
    decide
  have hsame := (readConversation_le hread (le_max_left calls 2)).symm.trans
    (readConversation_le hone (le_max_right calls 2))
  rw [Option.some.inj hsame] at hperm
  exact absurd hperm.length_eq (by decide)

end Runs

end Deliivo.Chat
