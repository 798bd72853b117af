import Deliivo.Chat.Messages
import Deliivo.Program.Promises
import Deliivo.Store.UniqueIndex

/-!
# What becomes of a message

Calls of any users run next to each other, statement by statement. **Every state that is committed is
sound**: two users have one conversation, a message is between the two of its conversation, and nobody
has two messages under one `clientMsgId`. **A message that was sent stays as it is**, its receipts apart,
and a sender who repeats a call has one message as the result, however the calls interleave. **Nobody is
written to who does not share an active ride with the sender**, as far as the sender's own check saw.

## Main definitions

* `ChatStore.Sound`: what holds of a committed state
* `Message.Later`: what may become of a message
* `ChatPromise`: what the calls promise each other

## Main results

* `chat_available_iff_any_booking`: the query over all bookings asks what the check of each one asks
* `chat_store_sound`, `messages_stay`, `sent_once`, `written_to_peers_only`
-/

open Program (Logged Move Pool Promises Server)

namespace Deliivo.Chat

/-! ## Two ways to ask -/

section Availability

variable {trips : Trips} {userId1 userId2 : ℕ}

/-- The condition of the query on a booking is what the check of the booking asks. -/
theorem sharesActiveRide_eq (booking : RideSeat) (ride : RideSession) :
    sharesActiveRide userId1 userId2 booking ride =
      (if !(booking.passengerId == userId1 && ride.driverId == userId2) &&
          !(ride.driverId == userId1 && booking.passengerId == userId2) then false
        else isChatAvailableForBooking booking.status ride) := by
  have hdisjoint : chatPreStart booking.status = true → chatRideDay booking.status = false := by
    cases booking.status <;> simp [chatPreStart, chatRideDay]
  simp only [sharesActiveRide, activeRideSessionWhere, openRideSessionWhere,
    isChatAvailableForBooking, isActiveRideSession, isOpenRideSession]
  cases hpre : chatPreStart booking.status <;> cases hday : chatRideDay booking.status <;>
    cases booking.passengerId == userId1 <;> cases booking.passengerId == userId2 <;>
    cases ride.driverId == userId1 <;> cases ride.driverId == userId2 <;> simp_all

/-- **The query over all bookings finds a chat exactly if one of the bookings, looked at in turn, has
one.** -/
theorem chat_available_iff_any_booking (trips : Trips) (userId1 userId2 : ℕ) :
    hasActiveRideChat trips userId1 userId2 = true ↔
      ∃ bookingId, hasActiveRideChatForBooking trips userId1 userId2 bookingId = true := by
  rw [hasActiveRideChat, List.any_eq_true]
  constructor
  · rintro ⟨⟨bookingId, booking⟩, hmem, hany⟩
    obtain ⟨ride, hride, hshares⟩ := (Option.any_eq_true _ _).mp hany
    refine ⟨bookingId, ?_⟩
    have hcontext : getBookingChatContext trips bookingId = some (booking, ride) := by
      simp [getBookingChatContext, Table.mem_rows_iff.mp hmem, hride]
    rw [hasActiveRideChatForBooking, hcontext]
    exact (sharesActiveRide_eq booking ride).symm.trans hshares
  · rintro ⟨bookingId, havailable⟩
    cases hcontext : getBookingChatContext trips bookingId with
    | none => simp [hasActiveRideChatForBooking, hcontext] at havailable
    | some context =>
      obtain ⟨booking, ride⟩ := context
      simp only [getBookingChatContext, Option.bind_eq_bind, Option.bind_eq_some_iff] at hcontext
      obtain ⟨booking, hbooking, ride, hride, heq⟩ := hcontext
      obtain ⟨rfl, rfl⟩ := Prod.mk.injEq .. ▸ Option.some.inj heq
      have hcontext : getBookingChatContext trips bookingId = some (booking, ride) := by
        simp [getBookingChatContext, hbooking, hride]
      refine ⟨(bookingId, booking), Table.mem_rows_iff.mpr hbooking, ?_⟩
      rw [hasActiveRideChatForBooking, hcontext] at havailable
      exact (Option.any_eq_true _ _).mpr
        ⟨ride, hride, (sharesActiveRide_eq booking ride).trans havailable⟩

end Availability

/-! ## A sound store -/

/-- The index of conversations. -/
def ConversationRow.pair (row : ConversationRow) : Option (ℕ × ℕ) := some (row.userAId, row.userBId)

/-- The index of messages. -/
def Message.key (m : Message) : Option (ℕ × String) := m.clientMsgId.map (Prod.mk m.senderId)

/-- A message is between two users, in their conversation, and is not read before it is delivered. -/
structure MessageSound (d : ChatStore) (m : Message) : Prop where
  others : m.senderId ≠ m.receiverId
  between : ∃ row, d.conversations.get? m.conversationId = some row ∧
    row.pair = some (normalizePair m.senderId m.receiverId) ∧ row.lastMsgAt.isSome
  receipts : m.readAt.isSome → m.deliveredAt = m.readAt

/-- What holds of a committed state: the last message of a conversation is one of its messages. -/
structure ChatStore.Sound (d : ChatStore) : Prop where
  pairs : d.conversations.UniqueBy ConversationRow.pair
  keys : d.messages.UniqueBy Message.key
  ordered : ∀ id row, d.conversations.get? id = some row → row.userAId ≤ row.userBId
  messages : ∀ id m, d.messages.get? id = some m → MessageSound d m
  last : ∀ id row t, d.conversations.get? id = some row → row.lastMsgAt = some t →
    ∃ mid m, d.messages.get? mid = some m ∧ m.conversationId = id ∧ m.createdAt = t

/-- A message without its receipts. -/
def Message.content (m : Message) : Message := { m with deliveredAt := none, readAt := none }

/-- What may become of a message: it is delivered, and read, once. -/
structure Message.Later (m m' : Message) : Prop where
  content : m'.content = m.content
  delivered : m.deliveredAt.isSome → m'.deliveredAt.isSome
  read : m.readAt.isSome → m' = m

theorem Message.Later.refl (m : Message) : m.Later m := ⟨rfl, id, fun _ => rfl⟩

theorem Message.Later.trans {m m' m'' : Message} (h : m.Later m') (h' : m'.Later m'') :
    m.Later m'' where
  content := h'.content.trans h.content
  delivered hm := h'.delivered (h.delivered hm)
  read hm := by
    obtain rfl := h.read hm
    exact h'.read hm

/-- What may become of the store: nothing of it goes. -/
structure ChatStore.Later (d d' : ChatStore) : Prop where
  conversations : ∀ id row, d.conversations.get? id = some row →
    ∃ row', d'.conversations.get? id = some row' ∧ row'.pair = row.pair
  messages : ∀ id m, d.messages.get? id = some m → ∃ m', d'.messages.get? id = some m' ∧ m.Later m'

theorem ChatStore.Later.refl (d : ChatStore) : d.Later d :=
  ⟨fun _ row h => ⟨row, h, rfl⟩, fun _ m h => ⟨m, h, .refl m⟩⟩

theorem ChatStore.Later.trans {d d' d'' : ChatStore} (h : d.Later d') (h' : d'.Later d'') :
    d.Later d'' where
  conversations id row hrow := by
    obtain ⟨row', hrow', hpair⟩ := h.conversations id row hrow
    obtain ⟨row'', hrow'', hpair'⟩ := h'.conversations id row' hrow'
    exact ⟨row'', hrow'', hpair'.trans hpair⟩
  messages id m hm := by
    obtain ⟨m', hm', hlater⟩ := h.messages id m hm
    obtain ⟨m'', hm'', hlater'⟩ := h'.messages id m' hm'
    exact ⟨m'', hm'', hlater.trans hlater'⟩

/-! ## What is promised -/

/-- What holds of the log and the store, after a beginning with `d₀`. -/
structure ChatPromise (d₀ : ChatStore) (log : List (ℕ × ChatEvent)) (d : ChatStore) : Prop where
  sound : d.Sound
  /-- A result is a message of the sender under that id. -/
  sent : ∀ tid senderId clientMsgId id, (tid, .sent senderId clientMsgId id) ∈ log →
    ∃ m, d.messages.get? id = some m ∧ m.key = some (senderId, clientMsgId)
  /-- A new message is from one who was found to share an active ride with the receiver. -/
  permitted : ∀ id m, d.messages.get? id = some m → d₀.messages.get? id = none →
    ∃ tid, (tid, .chatFound m.senderId m.receiverId) ∈ log

/-- The calls' promises. A locked entry of an index stays as it is, and so does a locked message. -/
def chatPromises (d₀ : ChatStore) : Promises ChatEvent ChatStore ChatRow where
  same
    | .conversation id, d, d' =>
      (d'.conversations.get? id).isSome = (d.conversations.get? id).isSome
    | .pair userAId userBId, d, d' =>
      d'.conversations.HasKey ConversationRow.pair (userAId, userBId) ↔
        d.conversations.HasKey ConversationRow.pair (userAId, userBId)
    | .message id, d, d' => d'.messages.get? id = d.messages.get? id
    | .key senderId clientMsgId, d, d' =>
      d'.messages.HasKey Message.key (senderId, clientMsgId) ↔
        d.messages.HasKey Message.key (senderId, clientMsgId)
  refl r d := by cases r <;> rfl
  trans {r d d' d''} h h' := by
    cases r with
    | conversation id => exact h'.trans h
    | pair userAId userBId => exact Iff.trans h' h
    | message id => exact h'.trans h
    | key senderId clientMsgId => exact Iff.trans h' h
  Inv := ChatPromise d₀
  Step := ChatStore.Later
  step_refl := .refl
  step_trans h h' := h.trans h'

theorem Message.Later.key {m m' : Message} (h : m.Later m') : m'.key = m.key := by
  have hkey : ∀ m : Message, m.key = m.content.key := fun _ => rfl
  rw [hkey m', h.content, ← hkey]

section Promise

variable {d₀ d d' : ChatStore} {log : List (ℕ × ChatEvent)}

/-- More is reported, all results being there. -/
theorem ChatPromise.append (h : ChatPromise d₀ log d) {tid : ℕ} {es : List ChatEvent}
    (hes : ∀ senderId clientMsgId id, .sent senderId clientMsgId id ∈ es →
      ∃ m, d.messages.get? id = some m ∧ m.key = some (senderId, clientMsgId)) :
    ChatPromise d₀ (log ++ es.map (Prod.mk tid)) d where
  sound := h.sound
  sent i senderId clientMsgId id hmem := by
    rcases List.mem_append.mp hmem with hold | hnew
    · exact h.sent i senderId clientMsgId id hold
    · obtain ⟨e, he, heq⟩ := List.mem_map.mp hnew
      obtain ⟨-, rfl⟩ := Prod.mk.injEq .. ▸ heq
      exact hes senderId clientMsgId id he
  permitted id m hm hnone := by
    obtain ⟨i, hmem⟩ := h.permitted id m hm hnone
    exact ⟨i, List.mem_append_left _ hmem⟩

/-- More is committed, nothing of what was there having gone. -/
theorem ChatPromise.later (h : ChatPromise d₀ log d) (hsound : d'.Sound) (hlater : d.Later d')
    (hnew : ∀ id m, d'.messages.get? id = some m → d.messages.get? id = none →
      ∃ tid, (tid, .chatFound m.senderId m.receiverId) ∈ log) : ChatPromise d₀ log d' where
  sound := hsound
  sent tid senderId clientMsgId id hmem := by
    obtain ⟨m, hm, hkey⟩ := h.sent tid senderId clientMsgId id hmem
    obtain ⟨m', hm', hlater'⟩ := hlater.messages id m hm
    exact ⟨m', hm', hlater'.key.trans hkey⟩
  permitted id m' hm' hnone := by
    cases hm : d.messages.get? id with
    | none => exact hnew id m' hm' hm
    | some m =>
      obtain ⟨m'', hm'', hlater'⟩ := hlater.messages id m hm
      obtain rfl := Option.some.inj (hm'.symm.trans hm'')
      have hsender : m'.content.senderId = m.content.senderId := by rw [hlater'.content]
      have hreceiver : m'.content.receiverId = m.content.receiverId := by rw [hlater'.content]
      change ∃ tid, (tid, .chatFound m'.content.senderId m'.content.receiverId) ∈ log
      rw [hsender, hreceiver]
      exact h.permitted id m hm hnone

end Promise

/-! ## What is committed -/

section Commits

variable {d₀ d : ChatStore} {log : List (ℕ × ChatEvent)} {rows : List ChatRow} {tid : ℕ}

/-- Nothing is committed, and results are reported that are there. -/
theorem keeps_reported {es : List ChatEvent}
    (hes : ∀ senderId clientMsgId id, .sent senderId clientMsgId id ∈ es →
      ∃ m, d.messages.get? id = some m ∧ m.key = some (senderId, clientMsgId)) :
    (chatPromises d₀).Keeps rows log (log ++ es.map (Prod.mk tid)) d d where
  inv h := h.append hes
  step := .refl d
  same r _ := (chatPromises d₀).refl r d

theorem keeps_unchanged : (chatPromises d₀).Keeps rows log log d d where
  inv h := h
  step := .refl d
  same r _ := (chatPromises d₀).refl r d

section NewConversation

variable {id userAId userBId : ℕ}

/-- A conversation more. -/
def ChatStore.withConversation (d : ChatStore) (id userAId userBId : ℕ) : ChatStore :=
  { d with conversations := d.conversations.insert id { userAId, userBId } }

variable (hfresh : d.conversations.get? id = none)

include hfresh

theorem later_withConversation : d.Later (d.withConversation id userAId userBId) where
  conversations j row hrow := by
    have hne : j ≠ id := by
      rintro rfl
      rw [hfresh] at hrow
      cases hrow
    exact ⟨row, by rw [ChatStore.withConversation, Table.get?_insert hfresh, if_neg hne, hrow], rfl⟩
  messages j m hm := ⟨m, hm, .refl m⟩

theorem sound_withConversation (h : d.Sound)
    (hpair : ¬ d.conversations.HasKey ConversationRow.pair (userAId, userBId))
    (hle : userAId ≤ userBId) : (d.withConversation id userAId userBId).Sound where
  pairs := by
    refine Table.uniqueBy_insert hfresh h.pairs fun k hk => ?_
    obtain rfl := Option.some.inj hk
    exact hpair
  keys := h.keys
  ordered j row hrow := by
    rw [ChatStore.withConversation, Table.get?_insert hfresh] at hrow
    split_ifs at hrow with heq
    · obtain rfl := Option.some.inj hrow
      exact hle
    · exact h.ordered j row hrow
  messages j m hm := by
    obtain ⟨hothers, ⟨row, hrow, hpair, hlast⟩, hreceipts⟩ := h.messages j m hm
    have hne : m.conversationId ≠ id := by
      intro heq
      rw [heq, hfresh] at hrow
      cases hrow
    refine ⟨hothers, ⟨row, ?_, hpair, hlast⟩, hreceipts⟩
    rw [ChatStore.withConversation, Table.get?_insert hfresh, if_neg hne, hrow]
  last j row t hrow ht := by
    rw [ChatStore.withConversation, Table.get?_insert hfresh] at hrow
    split_ifs at hrow with heq
    · obtain rfl := Option.some.inj hrow
      cases ht
    · exact h.last j row t hrow ht

theorem keeps_withConversation
    (hpair : ¬ d.conversations.HasKey ConversationRow.pair (userAId, userBId))
    (hle : userAId ≤ userBId) :
    (chatPromises d₀).Keeps [.conversation id, .pair userAId userBId] log log d
      (d.withConversation id userAId userBId) where
  inv h := by
    refine h.later (sound_withConversation hfresh h.sound hpair hle) (later_withConversation hfresh) ?_
    intro j m hm hnone
    exact absurd (hm.symm.trans hnone) (Option.some_ne_none m)
  step := later_withConversation hfresh
  same r hr := by
    cases r with
    | conversation j =>
      have hne : j ≠ id := by
        rintro rfl
        exact hr List.mem_cons_self
      show ((d.withConversation id userAId userBId).conversations.get? j).isSome = _
      rw [ChatStore.withConversation, Table.get?_insert hfresh, if_neg hne]
    | pair a b =>
      refine (Table.hasKey_insert hfresh).trans (or_iff_left fun heq => hr ?_)
      obtain ⟨rfl, rfl⟩ := Prod.mk.injEq .. ▸ Option.some.inj heq
      exact List.mem_cons_of_mem _ List.mem_cons_self
    | message j => exact rfl
    | key senderId clientMsgId => exact Iff.rfl

end NewConversation

section NewMessage

variable {id : ℕ} {m : Message}

/-- A message more, and its time in its conversation. -/
def ChatStore.withMessage (d : ChatStore) (id : ℕ) (m : Message) : ChatStore where
  trips := d.trips
  conversations := d.conversations.modify m.conversationId fun row =>
    { row with lastMsgAt := some m.createdAt }
  messages := d.messages.insert id m

/-- A conversation once a message in some conversation is written. -/
theorem conversation_withMessage {j : ℕ} {row : ConversationRow}
    (h : d.conversations.get? j = some row) :
    (d.withMessage id m).conversations.get? j =
      some (if j = m.conversationId then { row with lastMsgAt := some m.createdAt } else row) := by
  rw [ChatStore.withMessage, Table.get?_modify, h]
  split_ifs <;> rfl

theorem of_conversation_withMessage {j : ℕ} {row : ConversationRow}
    (h : (d.withMessage id m).conversations.get? j = some row) :
    ∃ row₀, d.conversations.get? j = some row₀ ∧ row.pair = row₀.pair ∧
      (row = row₀ ∨ j = m.conversationId ∧ row.lastMsgAt = some m.createdAt) := by
  rw [ChatStore.withMessage, Table.get?_modify] at h
  split_ifs at h with heq
  · obtain ⟨row₀, hrow₀, rfl⟩ := Option.map_eq_some_iff.mp h
    exact ⟨row₀, hrow₀, rfl, Or.inr ⟨heq, rfl⟩⟩
  · exact ⟨row, h, rfl, Or.inl rfl⟩

variable (hfresh : d.messages.get? id = none)

include hfresh

theorem message_withMessage {j : ℕ} {m' : Message} (h : d.messages.get? j = some m') :
    (d.withMessage id m).messages.get? j = some m' := by
  have hne : j ≠ id := by
    rintro rfl
    rw [hfresh] at h
    cases h
  rw [ChatStore.withMessage, Table.get?_insert hfresh, if_neg hne, h]

theorem later_withMessage : d.Later (d.withMessage id m) where
  conversations j row hrow := by
    refine ⟨_, conversation_withMessage hrow, ?_⟩
    split_ifs <;> rfl
  messages j m' hm' := ⟨m', message_withMessage hfresh hm', .refl m'⟩

theorem sound_withMessage (h : d.Sound) {row : ConversationRow}
    (hkey : ∀ k, m.key = some k → ¬ d.messages.HasKey Message.key k)
    (hrow : d.conversations.get? m.conversationId = some row)
    (hpair : row.pair = some (normalizePair m.senderId m.receiverId))
    (hothers : m.senderId ≠ m.receiverId) (hread : m.readAt = none) :
    (d.withMessage id m).Sound where
  pairs := by
    rw [ChatStore.withMessage]
    exact Table.uniqueBy_modify (f := fun row => { row with lastMsgAt := some m.createdAt })
      (fun _ => rfl) h.pairs m.conversationId
  keys := Table.uniqueBy_insert hfresh h.keys hkey
  ordered j row' hrow' := by
    obtain ⟨row₀, hrow₀, hsame, -⟩ := of_conversation_withMessage hrow'
    obtain ⟨ha, hb⟩ := Prod.mk.injEq .. ▸ Option.some.inj hsame
    rw [ha, hb]
    exact h.ordered j row₀ hrow₀
  messages j m' hm' := by
    rw [ChatStore.withMessage, Table.get?_insert hfresh] at hm'
    split_ifs at hm' with heq
    · obtain rfl := Option.some.inj hm'
      refine ⟨hothers, ⟨_, conversation_withMessage hrow, ?_, ?_⟩, fun hsome => ?_⟩
      · rw [if_pos rfl]
        exact hpair
      · rw [if_pos rfl]
        rfl
      · rw [hread] at hsome
        cases hsome
    · -- an older message: its conversation has a later last message at most
      obtain ⟨hothers', ⟨row', hrow', hpair', hlast⟩, hreceipts⟩ := h.messages j m' hm'
      refine ⟨hothers', ⟨_, conversation_withMessage hrow', ?_, ?_⟩, hreceipts⟩
      · split_ifs
        · exact hpair'
        · exact hpair'
      · split_ifs
        · rfl
        · exact hlast
  last j row' t hrow' ht := by
    obtain ⟨row₀, hrow₀, -, hsame | ⟨hj, htime⟩⟩ := of_conversation_withMessage hrow'
    · obtain rfl := hsame
      obtain ⟨mid, m', hm', hin, hat⟩ := h.last j row' t hrow₀ ht
      exact ⟨mid, m', message_withMessage hfresh hm', hin, hat⟩
    · refine ⟨id, m, ?_, hj.symm, Option.some.inj (htime.symm.trans ht)⟩
      rw [ChatStore.withMessage, Table.get?_insert hfresh, if_pos rfl]

theorem keeps_withMessage {es : List ChatEvent} {row : ConversationRow}
    (hkey : ∀ k, m.key = some k → ¬ d.messages.HasKey Message.key k)
    (hrow : d.conversations.get? m.conversationId = some row)
    (hpair : row.pair = some (normalizePair m.senderId m.receiverId))
    (hothers : m.senderId ≠ m.receiverId) (hread : m.readAt = none)
    (hfound : ∃ t, (t, .chatFound m.senderId m.receiverId) ∈ log)
    (hes : ∀ senderId clientMsgId j, .sent senderId clientMsgId j ∈ es →
      j = id ∧ m.key = some (senderId, clientMsgId))
    (hlock : .message id ∈ rows)
    (hkeylock : ∀ senderId clientMsgId, m.key = some (senderId, clientMsgId) →
      .key senderId clientMsgId ∈ rows) :
    (chatPromises d₀).Keeps rows log (log ++ es.map (Prod.mk tid)) d (d.withMessage id m) where
  inv h := by
    have hthere : (d.withMessage id m).messages.get? id = some m := by
      rw [ChatStore.withMessage, Table.get?_insert hfresh, if_pos rfl]
    refine ChatPromise.append (h.later (sound_withMessage hfresh h.sound hkey hrow hpair hothers hread)
      (later_withMessage hfresh) fun j m' hm' hnone => ?_) fun senderId clientMsgId j he => ?_
    · -- the only message that is new
      rw [ChatStore.withMessage, Table.get?_insert hfresh] at hm'
      split_ifs at hm' with heq
      · obtain rfl := Option.some.inj hm'
        exact hfound
      · exact absurd (hm'.symm.trans hnone) (Option.some_ne_none m')
    · obtain ⟨rfl, hk⟩ := hes senderId clientMsgId j he
      exact ⟨m, hthere, hk⟩
  step := later_withMessage hfresh
  same r hr := by
    cases r with
    | conversation j =>
      show ((d.withMessage id m).conversations.get? j).isSome = _
      cases hj : d.conversations.get? j with
      | none => simp [ChatStore.withMessage, Table.get?_modify, hj]
      | some row' =>
        rw [conversation_withMessage hj]
        rfl
    | pair a b =>
      exact Table.hasKey_modify
        (f := fun row : ConversationRow => { row with lastMsgAt := some m.createdAt })
        (fun _ => rfl) m.conversationId
    | message j =>
      have hne : j ≠ id := by
        rintro rfl
        exact hr hlock
      show (d.withMessage id m).messages.get? j = _
      rw [ChatStore.withMessage, Table.get?_insert hfresh, if_neg hne]
    | key senderId clientMsgId =>
      refine (Table.hasKey_insert hfresh).trans (or_iff_left fun heq => hr ?_)
      exact hkeylock senderId clientMsgId heq

end NewMessage

section Receipts

variable {P : ℕ → Message → Bool} {f : Message → Message}

/-- The messages of a condition, marked. -/
def ChatStore.mark (d : ChatStore) (P : ℕ → Message → Bool) (f : Message → Message) : ChatStore :=
  { d with messages := d.messages.modifyWhere (fun id _ => d.messages.holds P id) f }

/-- What marks messages leaves their content, and delivers them; it is for messages that have not been
read. -/
structure MarksUnread (d : ChatStore) (P : ℕ → Message → Bool) (f : Message → Message) : Prop where
  content : ∀ m, (f m).content = m.content
  delivered : ∀ m, (f m).deliveredAt.isSome
  receipts : ∀ m, m.readAt = none → (f m).readAt.isSome → (f m).deliveredAt = (f m).readAt
  unread : ∀ id m, d.messages.get? id = some m → P id m = true → m.readAt = none

theorem message_mark {id : ℕ} {m : Message} (hm : d.messages.get? id = some m) :
    (d.mark P f).messages.get? id = some (if P id m then f m else m) := by
  rw [ChatStore.mark, Table.get?_modifyWhere, hm, Table.holds, hm]
  rfl

theorem of_message_mark {id : ℕ} {m' : Message} (h : (d.mark P f).messages.get? id = some m') :
    ∃ m, d.messages.get? id = some m ∧ m' = if P id m then f m else m := by
  rw [ChatStore.mark, Table.get?_modifyWhere] at h
  obtain ⟨m, hm, rfl⟩ := Option.map_eq_some_iff.mp h
  refine ⟨m, hm, ?_⟩
  rw [Table.holds, hm]
  rfl

variable (hf : MarksUnread d P f)

include hf

theorem MarksUnread.later {id : ℕ} {m : Message} (hm : d.messages.get? id = some m) :
    m.Later (if P id m then f m else m) := by
  split_ifs with hP
  · refine ⟨hf.content m, fun _ => hf.delivered m, fun hread => ?_⟩
    rw [hf.unread id m hm hP] at hread
    cases hread
  · exact .refl m

theorem MarksUnread.later_mark : d.Later (d.mark P f) where
  conversations _ row hrow := ⟨row, hrow, rfl⟩
  messages _ _ hm := ⟨_, message_mark hm, hf.later hm⟩

theorem MarksUnread.key (m : Message) : (f m).key = m.key := by
  have hkey : ∀ m : Message, m.key = m.content.key := fun _ => rfl
  rw [hkey (f m), hf.content m, ← hkey]

theorem MarksUnread.sound (h : d.Sound) : (d.mark P f).Sound where
  pairs := h.pairs
  keys := Table.uniqueBy_modifyWhere hf.key h.keys _
  ordered := h.ordered
  messages id m' hm' := by
    obtain ⟨m, hm, rfl⟩ := of_message_mark hm'
    have hsound := h.messages id m hm
    split_ifs with hP
    · have hcontent := hf.content m
      have hothers : (f m).content.senderId ≠ (f m).content.receiverId := by
        rw [hcontent]
        exact hsound.others
      refine ⟨hothers, ?_, hf.receipts m (hf.unread id m hm hP)⟩
      change ∃ row, d.conversations.get? (f m).content.conversationId = some row ∧
        row.pair = some (normalizePair (f m).content.senderId (f m).content.receiverId) ∧
        row.lastMsgAt.isSome
      rw [hcontent]
      exact hsound.between
    · exact ⟨hsound.others, hsound.between, hsound.receipts⟩
  last id row t hrow ht := by
    obtain ⟨mid, m, hm, hin, hat⟩ := h.last id row t hrow ht
    have hcontent := (hf.later hm).content
    refine ⟨mid, _, message_mark hm, ?_, ?_⟩
    · change (if P mid m then f m else m).content.conversationId = id
      rw [hcontent]
      exact hin
    · change (if P mid m then f m else m).content.createdAt = t
      rw [hcontent]
      exact hat

theorem keeps_mark :
    (chatPromises d₀).Keeps ((d.messages.filter P).map fun row => .message row.1) log log d
      (d.mark P f) where
  inv h := by
    refine h.later (hf.sound h.sound) hf.later_mark fun id m' hm' hnone => ?_
    obtain ⟨m, hm, -⟩ := of_message_mark hm'
    exact absurd (hm.symm.trans hnone) (Option.some_ne_none m)
  step := hf.later_mark
  same r hr := by
    cases r with
    | conversation id => exact rfl
    | pair a b => exact Iff.rfl
    | message id =>
      show (d.mark P f).messages.get? id = d.messages.get? id
      cases hm : d.messages.get? id with
      | none =>
        rw [ChatStore.mark, Table.get?_modifyWhere, hm]
        rfl
      | some m =>
        rw [message_mark hm]
        split_ifs with hP
        · exact absurd (List.mem_map.mpr ⟨(id, m), Table.mem_filter_iff.mpr ⟨hm, hP⟩, rfl⟩) hr
        · rfl
    | key senderId clientMsgId => exact Table.hasKey_modifyWhere hf.key _

end Receipts

end Commits

/-! ## The calls -/

section Calls

variable {d₀ : ChatStore} {tid : ℕ} {op : ChatCall} {x : Logged ChatEvent (Server ChatStore ChatRow)}

/-- The protocol of calls after a beginning with `d₀`. -/
def chatProtocol (d₀ : ChatStore) :
    Program.Protocol chatPool (fun _ _ _ _ _ => True) (fun _ _ => True) :=
  Program.promised ChatFailure.unavailable (fun (trips : Trips) (d : ChatStore) => { d with trips })
    ChatCall.program (chatPromises d₀) (fun _ _ _ _ _ => True) (fun _ _ => True) fun trips x _ => {
      inv := fun h => h.later
        ⟨h.sound.pairs, h.sound.keys, h.sound.ordered,
          fun id m hm => ⟨(h.sound.messages id m hm).others, (h.sound.messages id m hm).between,
            (h.sound.messages id m hm).receipts⟩, h.sound.last⟩
        ⟨fun _ row hrow => ⟨row, hrow, rfl⟩, fun _ m hm => ⟨m, hm, .refl m⟩⟩
        fun _ m hm hnone => absurd (hm.symm.trans hnone) (Option.some_ne_none m)
      step := ⟨fun _ row hrow => ⟨row, hrow, rfl⟩, fun _ m hm => ⟨m, hm, .refl m⟩⟩
      same := fun r _ => by cases r <;> rfl }

/-- What a call has seen that stays: a conversation of a pair. -/
def HasConversation (id : ℕ) (pair : ℕ × ℕ) (x : Logged ChatEvent (Server ChatStore ChatRow)) : Prop :=
  ∃ row, x.state.committed.conversations.get? id = some row ∧ row.pair = some pair

/-- What a call has found that stays: the two share an active ride. -/
def FoundChat (userId peerId : ℕ) (x : Logged ChatEvent (Server ChatStore ChatRow)) : Prop :=
  ∃ t, (t, .chatFound userId peerId) ∈ x.log

theorem HasConversation.rely {id : ℕ} {pair : ℕ × ℕ} {y : Logged ChatEvent (Server ChatStore ChatRow)}
    (h : HasConversation id pair x) (hstep : x.state.committed.Later y.state.committed) :
    HasConversation id pair y := by
  obtain ⟨row, hrow, hpair⟩ := h
  obtain ⟨row', hrow', hsame⟩ := hstep.conversations id row hrow
  exact ⟨row', hrow', hsame.trans hpair⟩

theorem FoundChat.rely {userId peerId : ℕ} {y : Logged ChatEvent (Server ChatStore ChatRow)}
    (h : FoundChat userId peerId x) (hlog : x.log <+: y.log) : FoundChat userId peerId y := by
  obtain ⟨t, ht⟩ := h
  exact ⟨t, hlog.subset ht⟩

/-- A statement that writes nothing, run on its own, keeps what a call has found so far. -/
theorem safe_chatRead {β : Type} {c : ChatStatement β}
    {A : Logged ChatEvent (Server ChatStore ChatRow) → Prop}
    {Q : Except ChatFailure β → Logged ChatEvent (Server ChatStore ChatRow) → Prop}
    (hwrite : ∀ seen d, c.write seen d = d)
    (hA : (chatProtocol d₀).Stable tid A) (hx : A x)
    (hreport : ∀ d : ChatStore, ∀ senderId clientMsgId id,
      .sent senderId clientMsgId id ∈ c.report (c.answer d) →
        ∃ m, d.messages.get? id = some m ∧ m.key = some (senderId, clientMsgId))
    (hdone : ∀ y, A y → Q (.ok (c.answer y.state.committed))
      (y.next tid (c.report (c.answer y.state.committed)) (y.state.auto c)))
    (hfail : ∀ y, A y → Q (.error .unavailable) y) :
    (chatProtocol d₀).Safe op tid Q (Program.autocommit c) x := by
  refine Program.Protocol.Safe.perform (A := A) hA hx fun y hy hinv => ?_
  refine Program.promised_auto hinv ?_ (fun _ => hdone y hy) (hfail y hy)
  rw [hwrite]
  exact keeps_reported (hreport _)

/-- A conversation is refused where its id or its pair is there, and is there otherwise. -/
theorem createConversation_cases (id userAId userBId : ℕ) (d : ChatStore) :
    (createConversation id userAId userBId).answer d = .error .uniqueViolation ∧
        (createConversation id userAId userBId).write d d = d ∨
      (createConversation id userAId userBId).answer d = .ok (id, { userAId, userBId }) ∧
        (createConversation id userAId userBId).write d d = d.withConversation id userAId userBId ∧
        d.conversations.get? id = none ∧
        ¬ d.conversations.HasKey ConversationRow.pair (userAId, userBId) := by
  by_cases hrefused : (d.conversations.get? id).isSome ∨
      (d.conversations.filter fun _ row => row.isOf userAId userBId) ≠ []
  · refine Or.inl ⟨?_, ?_⟩
    · exact if_pos hrefused
    · exact if_pos hrefused
  · refine Or.inr ⟨if_neg hrefused, if_neg hrefused, ?_, ?_⟩
    · rw [not_or] at hrefused
      exact Option.not_isSome_iff_eq_none.mp hrefused.1
    · rintro ⟨j, row, hrow, hkey⟩
      obtain ⟨ha, hb⟩ := Prod.mk.injEq .. ▸ Option.some.inj hkey
      refine hrefused (Or.inr (Table.filter_ne_nil_iff.mpr ⟨j, row, hrow, ?_⟩))
      simp [ConversationRow.isOf, ha, hb]

theorem normalizePair_le (id1 id2 : ℕ) : (normalizePair id1 id2).1 ≤ (normalizePair id1 id2).2 := by
  unfold normalizePair
  split_ifs with h
  · exact h.le
  · exact not_lt.mp h

/-- A conversation is looked for, and created where there is none. -/
theorem safe_getOrCreateConversation {A : Logged ChatEvent (Server ChatStore ChatRow) → Prop}
    (hA : (chatProtocol d₀).Stable tid A) (hx : A x)
    (hnext : ∀ y s, A y → A (y.next tid [] s)) (userId1 userId2 id : ℕ) :
    (chatProtocol d₀).Safe op tid
      (fun r y => A y ∧ ∀ c, r = .ok c → HasConversation c.1 (normalizePair userId1 userId2) y)
      (getOrCreateConversation userId1 userId2 id) x := by
  refine Program.Protocol.Safe.bind (safe_chatRead (fun _ _ => rfl) hA hx ?_ ?_ ?_)
  · exact fun _ _ _ _ hmem => absurd hmem List.not_mem_nil
  · intro y hy
    have hy' : A (y.next tid [] (y.state.auto
      (findConversation (normalizePair userId1 userId2).1 (normalizePair userId1 userId2).2))) :=
      hnext y _ hy
    cases hfound : (findConversation (normalizePair userId1 userId2).1
        (normalizePair userId1 userId2).2).answer y.state.committed with
    | some conversation =>
      refine ⟨hy', fun c hc => ?_⟩
      obtain rfl := Except.ok.inj hc
      obtain ⟨hrow, hof⟩ := Table.of_head?_filter hfound
      refine ⟨conversation.2, hrow, ?_⟩
      simp only [ConversationRow.isOf, Bool.and_eq_true, beq_iff_eq] at hof
      rw [ConversationRow.pair, hof.1, hof.2]
    | none =>
      -- not found: whoever creates it first, the other one is refused by the unique key
      refine Program.Protocol.Safe.bind (Program.Protocol.Safe.perform hA hy' fun z hz hinv => ?_)
      rcases createConversation_cases id (normalizePair userId1 userId2).1
        (normalizePair userId1 userId2).2 z.state.committed with
        ⟨hanswer, hwrite⟩ | ⟨hanswer, hwrite, hfresh, hpair⟩
      · refine Program.promised_auto hinv ?_ (fun _ => ?_) ⟨hz, fun c hc => by cases hc⟩
        · rw [hwrite]
          exact (Logged.logged_nil z tid).symm ▸ keeps_unchanged
        · rw [hanswer]
          exact ⟨hnext z _ hz, fun c hc => by cases hc⟩
      · refine Program.promised_auto hinv ?_ (fun _ => ?_) ⟨hz, fun c hc => by cases hc⟩
        · rw [hwrite]
          exact (Logged.logged_nil z tid).symm ▸
            keeps_withConversation hfresh hpair (normalizePair_le userId1 userId2)
        · rw [hanswer]
          refine ⟨hnext z _ hz, fun c hc => ?_⟩
          obtain rfl := Except.ok.inj hc
          refine ⟨{ userAId := (normalizePair userId1 userId2).1,
                    userBId := (normalizePair userId1 userId2).2 }, ?_, rfl⟩
          change ((createConversation id (normalizePair userId1 userId2).1
            (normalizePair userId1 userId2).2).write z.state.committed
              z.state.committed).conversations.get? id = _
          rw [hwrite, ChatStore.withConversation, Table.get?_insert hfresh, if_pos rfl]
  · exact fun y hy => ⟨hy, fun c hc => by cases hc⟩

end Calls

/-! ## The transaction of a message -/

section Stages

variable {d₀ : ChatStore} {tid id : ℕ} {m : Message} {s s' : Server ChatStore ChatRow}

/-- A call has written its message, in what it sees of the store; the message and its key are locked,
and no other one is there. -/
structure WroteMessage (tid id : ℕ) (m : Message) (s : Server ChatStore ChatRow) : Prop where
  locked : .message id ∈ s.ownLocks tid
  keyLocked : ∀ senderId clientMsgId, m.key = some (senderId, clientMsgId) →
    .key senderId clientMsgId ∈ s.ownLocks tid
  fresh : s.committed.messages.get? id = none
  absent : ∀ k, m.key = some k → ¬ s.committed.messages.HasKey Message.key k

theorem WroteMessage.undisturbed (h : WroteMessage tid id m s)
    (hs : s.Undisturbed (chatPromises d₀).toProtection tid s') : WroteMessage tid id m s' where
  locked := hs.locks ▸ h.locked
  keyLocked senderId clientMsgId hkey := hs.locks ▸ h.keyLocked senderId clientMsgId hkey
  fresh := (hs.same _ h.locked).trans h.fresh
  absent k hkey hmem := h.absent k hkey ((hs.same _ (h.keyLocked k.1 k.2 hkey)).mp hmem)

/-- Another statement of the call. -/
theorem WroteMessage.run {β : Type} (h : WroteMessage tid id m s) (c : ChatStatement β) :
    WroteMessage tid id m (s.run tid c) where
  locked := by
    rw [Server.ownLocks_run_self]
    exact List.mem_append_left _ h.locked
  keyLocked senderId clientMsgId hkey := by
    rw [Server.ownLocks_run_self]
    exact List.mem_append_left _ (h.keyLocked senderId clientMsgId hkey)
  fresh := h.fresh
  absent := h.absent

theorem key_of_isOf {m' : Message} {senderId : ℕ} {clientMsgId : String} :
    m'.isOf senderId clientMsgId = true ↔ m'.key = some (senderId, clientMsgId) := by
  unfold Message.isOf Message.key
  cases m'.clientMsgId <;> simp

/-- The key of a message that is to be written is there exactly if the statement finds it. -/
theorem hasKey_iff_found {d : ChatStore} :
    (d.messages.filter fun _ m' => m.clientMsgId.any fun key => m'.isOf m.senderId key) ≠ [] ↔
      ∃ k, m.key = some k ∧ d.messages.HasKey Message.key k := by
  rw [Table.filter_ne_nil_iff]
  cases hkey : m.clientMsgId with
  | none => simp [Message.key, hkey]
  | some clientMsgId =>
    simp only [Option.any_some, key_of_isOf, Message.key, hkey, Option.map_some]
    constructor
    · rintro ⟨j, m', hm', hk⟩
      exact ⟨_, rfl, j, m', hm', hk⟩
    · rintro ⟨k, heq, j, m', hm', hk⟩
      obtain rfl := Option.some.inj heq
      exact ⟨j, m', hm', hk⟩

theorem wroteMessage_run (hwrites : s.ownWrites tid = [])
    (hok : (createMessage id m).answer (s.view tid) = .ok ()) :
    WroteMessage tid id m (s.run tid (createMessage id m)) ∧
      ∀ d, (s.run tid (createMessage id m)).pending tid d =
        { d with messages := d.messages.insert id m } := by
  have hview : s.view tid = s.committed := Server.pending_of_nil hwrites _
  rw [hview] at hok
  simp only [createMessage] at hok
  split_ifs at hok with hrefused hmissing
  · refine ⟨⟨?_, fun senderId clientMsgId hkey => ?_, ?_, fun k hkey hmem => ?_⟩, fun d => ?_⟩
    · rw [Server.ownLocks_run_self]
      exact List.mem_append_right _ List.mem_cons_self
    · rw [Server.ownLocks_run_self]
      refine List.mem_append_right _ (List.mem_cons_of_mem _ ?_)
      obtain ⟨key, hclient, heq⟩ := Option.map_eq_some_iff.mp hkey
      obtain ⟨rfl, rfl⟩ := Prod.mk.injEq .. ▸ heq
      rw [hclient]
      exact List.mem_singleton_self _
    · exact Option.not_isSome_iff_eq_none.mp fun hsome => hrefused (Or.inl hsome)
    · exact hrefused (Or.inr (hasKey_iff_found.mpr ⟨k, hkey, hmem⟩))
    · rw [Server.pending_run, Server.pending_of_nil hwrites, hview]
      exact (if_neg hrefused).trans (if_neg hmissing)

variable {op : ChatCall}

/-- What the transaction of a call ends in: its message is written, and its time in its conversation. -/
def WroteBoth (tid id : ℕ) (m : Message) (s : Server ChatStore ChatRow) : Prop :=
  WroteMessage tid id m s ∧ ∀ d, s.pending tid d = d.withMessage id m

theorem safe_writeMessage {x : Logged ChatEvent (Server ChatStore ChatRow)}
    (hwrites : x.state.ownWrites tid = []) :
    (chatProtocol d₀).Safe op tid
      (fun r y => ∀ row, r = .ok row → row = (id, m) ∧ WroteBoth tid id m y.state)
      (writeMessage id m) x := by
  intro y hy hinv
  refine Program.promised_run hinv ?_ (fun _ => ?_) fun row hrow => by cases hrow
  · exact (Logged.logged_nil y tid).symm ▸ hinv.2
  cases hcreated : (createMessage id m).answer (y.state.view tid) with
  | error e => exact fun row hrow => by cases hrow
  | ok u =>
    obtain ⟨hwrote, hpending⟩ := wroteMessage_run (hy.undisturbed.writes.trans hwrites) hcreated
    intro z hz hinv
    have hwrote := hwrote.undisturbed hz.undisturbed
    refine Program.promised_run hinv ?_ (fun _ => ?_) fun row hrow => by cases hrow
    · exact (Logged.logged_nil z tid).symm ▸ hinv.2
    cases hupdated : (updateConversation m.conversationId m.createdAt).answer (z.state.view tid) with
    | error e => exact fun row hrow => by cases hrow
    | ok u =>
      rintro row hrow
      obtain rfl := Except.ok.inj hrow
      refine ⟨rfl, hwrote.run _, fun d => ?_⟩
      rw [Logged.next_state, Server.pending_run, hz.undisturbed.pending, Logged.next_state, hpending]
      rfl

/-- What the transaction writes may be committed. -/
theorem WroteBoth.keeps {log : List (ℕ × ChatEvent)} {es : List ChatEvent} {row : ConversationRow}
    (h : WroteBoth tid id m s)
    (hrow : s.committed.conversations.get? m.conversationId = some row)
    (hpair : row.pair = some (normalizePair m.senderId m.receiverId))
    (hothers : m.senderId ≠ m.receiverId) (hread : m.readAt = none)
    (hfound : ∃ t, (t, .chatFound m.senderId m.receiverId) ∈ log)
    (hes : ∀ senderId clientMsgId j, .sent senderId clientMsgId j ∈ es →
      j = id ∧ m.key = some (senderId, clientMsgId)) :
    (chatPromises d₀).Keeps (s.ownLocks tid) log (log ++ es.map (Prod.mk tid)) s.committed
      (s.view tid) := by
  obtain ⟨hwrote, hpending⟩ := h
  rw [Server.view, hpending]
  exact keeps_withMessage hwrote.fresh hwrote.absent hrow hpair hothers hread hfound hes
    hwrote.locked hwrote.keyLocked

end Stages

/-! ## The calls keep their promises -/

section SafeCalls

variable {d₀ : ChatStore} {tid : ℕ} {op : ChatCall} {x : Logged ChatEvent (Server ChatStore ChatRow)}

theorem stable_true : (chatProtocol d₀).Stable tid fun _ => True := fun _ _ _ _ _ => trivial

theorem stable_foundChat {userId peerId : ℕ} :
    (chatProtocol d₀).Stable tid (FoundChat userId peerId) :=
  fun _ _ hx hr _ => hx.rely hr.log

theorem foundChat_next {userId peerId : ℕ} (y : Logged ChatEvent (Server ChatStore ChatRow))
    (es : List ChatEvent) (s : Server ChatStore ChatRow) (h : FoundChat userId peerId y) :
    FoundChat userId peerId (y.next tid es s) :=
  h.rely (List.prefix_append _ _)

/-- The transaction of a call that may write to the receiver, in the conversation of the two. -/
theorem safe_sendTransaction {id : ℕ} {m : Message} {events : ℕ × Message → List ChatEvent}
    (hothers : m.senderId ≠ m.receiverId) (hread : m.readAt = none)
    (hevents : ∀ senderId clientMsgId j, .sent senderId clientMsgId j ∈ events (id, m) →
      j = id ∧ m.key = some (senderId, clientMsgId))
    (hfound : FoundChat m.senderId m.receiverId x)
    (hconversation : HasConversation m.conversationId (normalizePair m.senderId m.receiverId) x) :
    (chatProtocol d₀).Safe op tid (fun _ _ => True) (Program.transaction (writeMessage id m) events)
      x := by
  refine Program.promised_transaction (fun _ _ _ _ => trivial) fun y hwrites _ hstep hlog hinv => ?_
  refine ((safe_writeMessage hwrites).lasting
    (A := fun z => FoundChat m.senderId m.receiverId z ∧
      HasConversation m.conversationId (normalizePair m.senderId m.receiverId) z)
    (fun _ _ hz hstep hlog => ⟨hz.1.rely hlog, hz.2.rely hstep⟩)
    ⟨hfound.rely hlog, hconversation.rely hstep⟩).mono ?_
  rintro (e | row) z ⟨hz, hfound, hconversation⟩ w hw hinv
  · trivial
  · obtain ⟨rfl, hwrote⟩ := hz row rfl
    obtain ⟨row, hrow, hpair⟩ := hconversation.rely hw.step
    have hwrote : WroteBoth tid id m w.state :=
      ⟨hwrote.1.undisturbed hw.undisturbed, fun d => (hw.undisturbed.pending d).trans (hwrote.2 d)⟩
    exact ⟨fun _ => ⟨hwrote.keeps hrow hpair hothers hread (hfound.rely hw.log) hevents, trivial⟩,
      trivial⟩

/-- The check of a call finds what it reports. -/
theorem safe_findActiveRideChat (userId peerId : ℕ) (bookingId : Option ℕ) :
    (chatProtocol d₀).Safe op tid
      (fun r y => r = .ok true → FoundChat userId peerId y)
      (Program.autocommit (findActiveRideChat userId peerId bookingId)) x := by
  refine safe_chatRead (fun _ _ => rfl) stable_true trivial ?_ ?_ ?_
  · intro d senderId clientMsgId id hmem
    simp only [findActiveRideChat] at hmem
    split_ifs at hmem
    · cases List.mem_singleton.mp hmem
    · cases hmem
  · intro y _ hfound
    rw [Except.ok.inj hfound]
    refine ⟨tid, List.mem_append_right _ ?_⟩
    exact List.mem_cons_self
  · rintro y - ⟨⟩

/-- What a sender has sent before is reported as the result. -/
theorem safe_findSent {A : Logged ChatEvent (Server ChatStore ChatRow) → Prop}
    (hA : (chatProtocol d₀).Stable tid A) (hx : A x)
    (hnext : ∀ y es s, A y → A (y.next tid es s)) (senderId : ℕ) (clientMsgId : String) :
    (chatProtocol d₀).Safe op tid (fun _ => A) (findSent senderId clientMsgId) x := by
  unfold findSent
  split_ifs
  · exact hx
  · refine safe_chatRead (fun _ _ => rfl) hA hx ?_ (fun y hy => hnext y _ _ hy) fun y hy => hy
    intro d senderId' clientMsgId' id hmem
    obtain ⟨row, hrow, heq⟩ := List.mem_map.mp hmem
    obtain ⟨rfl, rfl, rfl⟩ := ChatEvent.sent.injEq .. ▸ heq
    obtain ⟨hm, hof⟩ := Table.of_head?_filter (Option.mem_toList.mp hrow)
    exact ⟨row.2, hm, key_of_isOf.mp hof⟩

theorem safe_sendMessage (senderId : ℕ) (data : SendMessageInput) (draw : SendDraw) :
    (chatProtocol d₀).Safe op tid (fun _ _ => True) (sendMessage senderId data draw) x := by
  unfold sendMessage
  split_ifs with hself
  · trivial
  -- the chat check found an active ride of the two, and what it found cannot be unfound
  refine Program.Protocol.Safe.bind ((safe_findActiveRideChat _ _ _).mono ?_)
  rintro (e | canChat) y hfound
  · trivial
  cases canChat with
  | false => trivial
  | true =>
    have hfound := hfound rfl
    show (chatProtocol d₀).Safe op tid _ (Program.bind _ _) y
    cases data.check with
    | error e => trivial
    | ok u =>
      change (chatProtocol d₀).Safe op tid _
        (Program.bind (findSent senderId data.clientMsgId) _) y
      refine Program.Protocol.Safe.bind ((safe_findSent stable_foundChat hfound foundChat_next senderId
        data.clientMsgId).mono ?_)
      rintro (e | existing) z hfound
      · trivial
      cases existing with
      | some message => trivial
      | none =>
        refine Program.Protocol.Safe.bind ((safe_getOrCreateConversation stable_foundChat hfound
          (fun y s => foundChat_next y [] s) senderId data.receiverId draw.conversationId).mono ?_)
        rintro (e | conversation) w ⟨hfound, hconversation⟩
        · trivial
        · refine safe_sendTransaction hself rfl ?_ hfound (hconversation conversation rfl)
          intro senderId' clientMsgId' j hmem
          obtain ⟨rfl, rfl, rfl⟩ := ChatEvent.sent.injEq .. ▸ List.mem_singleton.mp hmem
          exact ⟨rfl, rfl⟩

theorem safe_openConversation (userId receiverId id : ℕ) :
    (chatProtocol d₀).Safe op tid (fun _ _ => True) (openConversation userId receiverId id) x := by
  unfold openConversation
  split_ifs
  · trivial
  refine Program.Protocol.Safe.bind ((safe_findActiveRideChat _ _ _).mono ?_)
  rintro (e | chatAvailable) y -
  · trivial
  cases chatAvailable with
  | false => trivial
  | true =>
    exact (safe_getOrCreateConversation stable_true trivial (fun _ _ _ => trivial) _ _ _).mono
      fun _ _ _ => trivial

theorem safe_openBookingConversation (userId bookingId id : ℕ) :
    (chatProtocol d₀).Safe op tid (fun _ _ => True) (openBookingConversation userId bookingId id)
      x := by
  refine Program.Protocol.Safe.bind (safe_chatRead (fun _ _ => rfl) stable_true trivial ?_ ?_ ?_)
  · exact fun _ _ _ _ hmem => absurd hmem List.not_mem_nil
  · intro y _
    cases (findBookingChatContext bookingId).answer y.state.committed with
    | none => trivial
    | some context =>
      obtain ⟨booking, ride⟩ := context
      dsimp only
      cases peerOf userId booking ride with
      | none => trivial
      | some peerId =>
        dsimp only
        split_ifs
        · trivial
        · exact (safe_getOrCreateConversation stable_true trivial (fun _ _ _ => trivial) _ _ _).mono
            fun _ _ _ => trivial
  · exact fun _ _ => trivial

/-- Messages are marked. -/
theorem safe_updateMessages {P : ℕ → Message → Bool} {f : Message → Message}
    (hf : ∀ d : ChatStore, d.Sound → MarksUnread d P f) :
    (chatProtocol d₀).Safe op tid (fun _ _ => True) (Program.autocommit (updateMessages P f)) x := by
  refine Program.Protocol.Safe.perform stable_true trivial fun y _ hinv => ?_
  refine Program.promised_auto hinv ?_ (fun _ => trivial) trivial
  exact (Logged.logged_nil y tid).symm ▸ keeps_mark (hf _ hinv.2.sound)

/-- A message that is not delivered is not read. -/
theorem ChatStore.Sound.unread {d : ChatStore} (h : d.Sound) {id : ℕ} {m : Message}
    (hm : d.messages.get? id = some m) (hundelivered : m.deliveredAt = none) : m.readAt = none := by
  by_contra hread
  have hreceipt := (h.messages id m hm).receipts (Option.isSome_iff_ne_none.mpr hread)
  exact hread (hreceipt.symm.trans hundelivered)

theorem safe_markMessagesDelivered (userId conversationId : ℕ) (now : ℤ) :
    (chatProtocol d₀).Safe op tid (fun _ _ => True) (markMessagesDelivered userId conversationId now)
      x := by
  refine safe_updateMessages fun d hd => ⟨fun _ => rfl, fun _ => rfl, fun m hread hsome => ?_,
    fun id m hm hP => ?_⟩
  · change m.readAt.isSome at hsome
    rw [hread] at hsome
    cases hsome
  · simp only [Bool.and_eq_true, Option.isNone_iff_eq_none] at hP
    exact hd.unread hm hP.2

theorem safe_markMessagesRead (userId conversationId lastReadMessageId : ℕ) (now : ℤ) :
    (chatProtocol d₀).Safe op tid (fun _ _ => True)
      (markMessagesRead userId conversationId lastReadMessageId now) x := by
  refine Program.Protocol.Safe.bind (safe_chatRead (fun _ _ => rfl) stable_true trivial ?_ ?_ ?_)
  · exact fun _ _ _ _ hmem => absurd hmem List.not_mem_nil
  · intro y _
    cases (findMessageIn lastReadMessageId conversationId).answer y.state.committed with
    | none => trivial
    | some lastReadMessage =>
      refine safe_updateMessages fun d hd => ⟨fun _ => rfl, fun _ => rfl, fun m _ _ => rfl,
        fun id m hm hP => ?_⟩
      simp only [Bool.and_eq_true, Option.isNone_iff_eq_none] at hP
      exact hP.1.2
  · exact fun _ _ => trivial

theorem safeOperations_chat : (chatProtocol d₀).SafeOperations := by
  intro op tid x _ _
  cases op with
  | send senderId data draw =>
    exact Program.Protocol.Safe.sequence (safe_sendMessage _ _ _) fun _ _ _ => trivial
  | openWith userId receiverId id =>
    exact Program.Protocol.Safe.sequence (safe_openConversation _ _ _) fun _ _ _ => trivial
  | openForBooking userId bookingId id =>
    exact Program.Protocol.Safe.sequence (safe_openBookingConversation _ _ _) fun _ _ _ => trivial
  | delivered userId conversationId now => exact safe_markMessagesDelivered _ _ _
  | read userId conversationId lastReadMessageId now => exact safe_markMessagesRead _ _ _ _

end SafeCalls

/-! ## Runs -/

/-- A store before the calls. -/
def chatStart (d : ChatStore) :
    Pool (Program.ServerCall ChatStore ChatRow ChatEvent ChatFailure) ChatFailure ChatEvent
      (Server ChatStore ChatRow) ChatCall where
  now := { state := { committed := d } }

section Runs

variable {d : ChatStore}

theorem holds_chatStart (hd : d.Sound) : (chatProtocol d).Holds (chatStart d) := by
  refine Program.Protocol.holds_of_inv ⟨?_, hd, ?_, ?_⟩ rfl rfl
  · intro l hl
    cases hl
  · exact fun _ _ _ _ hmem => absurd hmem List.not_mem_nil
  · exact fun _ m hm hnone => absurd (hm.symm.trans hnone) (Option.some_ne_none m)

theorem meets_chat (moves : List (Move ChatCall Bool Trips)) :
    History.Each (Pool.step chatPool)
      (Pool.Meets chatPool (fun _ _ _ _ _ => True) fun _ _ => True) (chatStart d) moves := by
  refine (History.each_true (chatStart d) moves).imp (I := fun _ => True) (fun _ _ _ => trivial)
    (fun p move _ _ => ?_) trivial
  exact Pool.meets_of_forall (fun _ _ _ _ _ => trivial) (fun _ _ => trivial) p move

/-- The calls keep their promises in every interleaving. -/
theorem chats_promised (hd : d.Sound) (moves : List (Move ChatCall Bool Trips)) :
    History.Always (Pool.step chatPool)
      (fun p => ChatPromise d p.now.log p.now.state.committed) (chatStart d) moves :=
  ((chatProtocol d).sound safeOperations_chat (holds_chatStart hd) (meets_chat moves)).imp
    fun _ hp => hp.inv.2

/-- User 1 rides with driver 7, who is under way. -/
private def underWay : ChatStore where
  trips := {
    rides := Table.single 10 { driverId := 7, status := .inProgress }
    bookings := Table.single 20 { rideId := 10, passengerId := 1, status := .onboard } }

private theorem sound_underWay : underWay.Sound := by
  refine ⟨?_, ?_, ?_, ?_, ?_⟩
  · exact fun _ _ _ _ _ h => by cases h
  · exact fun _ _ _ _ _ h => by cases h
  · exact fun _ _ h => by cases h
  · exact fun _ _ h => by cases h
  · exact fun _ _ _ h => by cases h

/-- The rider writes to the driver. -/
private def riderWrites (messageId : ℕ) : ChatCall :=
  .send 1 { receiverId := 7, text := some "Here", clientMsgId := "a" }
    { conversationId := 30, messageId, createdAt := 5 }

/-- The rider writes, and writes again; the driver reads it. -/
private def writtenTwice : List (Move ChatCall Bool Trips) :=
  [.start (riderWrites 40), .step 0 true, .step 0 true, .step 0 true, .step 0 true, .step 0 true,
    .step 0 true, .step 0 true, .step 0 true, .start (riderWrites 41), .step 1 true, .step 1 true,
    .start (.read 7 30 40 6), .step 2 true, .step 2 true]

/-- **Every committed state is sound**, however any calls of any users interleave, while bookings and
rides become anything. -/
theorem chat_store_sound (hd : d.Sound) (moves : List (Move ChatCall Bool Trips)) :
    History.Always (Pool.step chatPool) (fun p => p.now.state.committed.Sound) (chatStart d) moves :=
  (chats_promised hd moves).imp fun _ h => h.sound

theorem chat_store_sound_writtenTwice :
    History.Always (Pool.step chatPool) (fun p => p.now.state.committed.Sound) (chatStart underWay)
      writtenTwice :=
  chat_store_sound sound_underWay writtenTwice

/-- **What was sent stays as it is**, and a read message its receipts as well, between any two points of
an interleaving. -/
theorem messages_stay (hd : d.Sound) (l₁ l₂ : List (Move ChatCall Bool Trips)) (id : ℕ) (m : Message)
    (hm : (History.after (Pool.step chatPool) (chatStart d) l₁).now.state.committed.messages.get? id =
      some m) :
    ∃ m', (History.after (Pool.step chatPool) (chatStart d)
        (l₁ ++ l₂)).now.state.committed.messages.get? id = some m' ∧ m.Later m' :=
  (Program.promised_between safeOperations_chat (holds_chatStart hd) (meets_chat (l₁ ++ l₂)) l₁ l₂ []
    (List.append_nil _).symm).1.messages id m hm

theorem messages_stay_writtenTwice :
    ∃ m', (History.after (Pool.step chatPool) (chatStart underWay)
        writtenTwice).now.state.committed.messages.get? 40 = some m' ∧
      Message.Later {
        conversationId := 30
        senderId := 1
        receiverId := 7
        text := some "Here"
        clientMsgId := some "a"
        createdAt := 5 } m' :=
  messages_stay sound_underWay (writtenTwice.take 9) (writtenTwice.drop 9) 40 _ rfl

/-- **Sent once**: calls of a sender with one `clientMsgId` that have a result have the same message. -/
theorem sent_once (hd : d.Sound) (moves : List (Move ChatCall Bool Trips)) :
    History.Always (Pool.step chatPool) (fun p => ∀ tid tid' senderId clientMsgId id id',
      (tid, .sent senderId clientMsgId id) ∈ p.now.log →
      (tid', .sent senderId clientMsgId id') ∈ p.now.log → id = id') (chatStart d) moves := by
  refine (chats_promised hd moves).imp fun p h tid tid' senderId clientMsgId id id' hsent hsent' => ?_
  obtain ⟨m, hm, hkey⟩ := h.sent tid senderId clientMsgId id hsent
  obtain ⟨m', hm', hkey'⟩ := h.sent tid' senderId clientMsgId id' hsent'
  exact h.sound.keys id id' m m' _ hm hm' hkey hkey'

theorem sent_once_writtenTwice :
    (History.after (Pool.step chatPool) (chatStart underWay) writtenTwice).now.log =
      [(0, .chatFound 1 7), (0, .sent 1 "a" 40), (1, .chatFound 1 7), (1, .sent 1 "a" 40)] ∧
    History.Always (Pool.step chatPool) (fun p => ∀ tid tid' senderId clientMsgId id id',
      (tid, .sent senderId clientMsgId id) ∈ p.now.log →
      (tid', .sent senderId clientMsgId id') ∈ p.now.log → id = id') (chatStart underWay)
      writtenTwice :=
  ⟨rfl, sent_once sound_underWay writtenTwice⟩

/-- **Nobody is written to but by whom he shares an active ride with**, as the sender's call has found. -/
theorem written_to_peers_only (hd : d.Sound) (moves : List (Move ChatCall Bool Trips)) :
    History.Always (Pool.step chatPool) (fun p => ∀ id m,
      p.now.state.committed.messages.get? id = some m → d.messages.get? id = none →
      ∃ tid, (tid, .chatFound m.senderId m.receiverId) ∈ p.now.log) (chatStart d) moves :=
  (chats_promised hd moves).imp fun _ h => h.permitted

theorem written_to_peers_only_writtenTwice :
    History.Always (Pool.step chatPool) (fun p => ∀ id m,
      p.now.state.committed.messages.get? id = some m → underWay.messages.get? id = none →
      ∃ tid, (tid, .chatFound m.senderId m.receiverId) ∈ p.now.log) (chatStart underWay)
      writtenTwice :=
  written_to_peers_only sound_underWay writtenTwice

end Runs

end Deliivo.Chat
