import Deliivo.Chat.Pagination
import Deliivo.Domain.Records
import Deliivo.Program.ReadCommitted

/-!
# Sending and receiving messages

A rider and a driver can write to each other while they share a booking of a ride that is under way.
Their messages are in one conversation, which is created with the first one. A client that does not get
an answer sends its message again with the same `clientMsgId`; the call looks for a message of this id
before it writes one, and a unique index stands behind it. A receiver marks messages as delivered and as
read.

## Main definitions

* `Trips`, `hasActiveRideChat`, `hasActiveRideChatForBooking`: who can write to whom
* `ChatStore`: the conversations and the messages
* `sendMessage`, `openConversation`, `openBookingConversation`
* `markMessagesDelivered`, `markMessagesRead`
* `chatPool`: calls next to each other, and next to what becomes of bookings and rides
-/

open Program (Concurrent Server ServerCall Statement)

namespace Deliivo.Chat

/-! ## Who can write to whom -/

/-- What a chat depends on of a ride. -/
structure RideSession where
  driverId : ℕ
  status : RideStatus
  actualStartTime : Option ℕ := none
  actualEndTime : Option ℕ := none
  deriving DecidableEq, Repr

/-- What a chat depends on of a booking. -/
structure RideSeat where
  rideId : ℕ
  passengerId : ℕ
  status : BookingStatus
  deriving DecidableEq, Repr

structure Trips where
  rides : Table RideSession := .empty
  bookings : Table RideSeat := .empty

/-- `CHAT_PRE_START_BOOKING_STATUSES`. -/
def chatPreStart : BookingStatus → Bool
  | .driverPending | .confirmed => true
  | _ => false

/-- `CHAT_RIDE_DAY_BOOKING_STATUSES`. -/
def chatRideDay : BookingStatus → Bool
  | .waitingForPickup | .driverArrived | .otpPending | .inProgress | .onboard | .dropPending
  | .driverDropped | .completed => true
  | _ => false

/-- `CHAT_CLOSED_RIDE_STATUSES`. -/
def chatClosed : RideStatus → Bool
  | .completed | .cancelled | .expired => true
  | _ => false

def isActiveRideSession (ride : RideSession) : Bool :=
  ride.actualEndTime.isNone && !chatClosed ride.status &&
    (ride.status == .inProgress || ride.actualStartTime.isSome)

def isOpenRideSession (ride : RideSession) : Bool :=
  ride.actualEndTime.isNone && !chatClosed ride.status

def isChatAvailableForBooking (status : BookingStatus) (ride : RideSession) : Bool :=
  if chatPreStart status then isActiveRideSession ride
  else if chatRideDay status then isOpenRideSession ride
  else false

/-- `getBookingChatContext`: a booking with its ride. -/
def getBookingChatContext (trips : Trips) (bookingId : ℕ) : Option (RideSeat × RideSession) := do
  let booking ← trips.bookings.get? bookingId
  let ride ← trips.rides.get? booking.rideId
  return (booking, ride)

/-- `activeRideSessionWhere`, on the ride of a booking. -/
def activeRideSessionWhere (driverId : ℕ) (ride : RideSession) : Bool :=
  ride.driverId == driverId && ride.actualEndTime.isNone && !chatClosed ride.status &&
    (ride.status == .inProgress || ride.actualStartTime.isSome)

/-- `openRideSessionWhere`, on the ride of a booking. -/
def openRideSessionWhere (driverId : ℕ) (ride : RideSession) : Bool :=
  ride.driverId == driverId && ride.actualEndTime.isNone && !chatClosed ride.status

/-- The condition of the query on a booking and its ride. -/
def sharesActiveRide (userId1 userId2 : ℕ) (booking : RideSeat) (ride : RideSession) : Bool :=
  chatPreStart booking.status &&
      (booking.passengerId == userId1 && activeRideSessionWhere userId2 ride ||
        booking.passengerId == userId2 && activeRideSessionWhere userId1 ride) ||
    chatRideDay booking.status &&
      (booking.passengerId == userId1 && openRideSessionWhere userId2 ride ||
        booking.passengerId == userId2 && openRideSessionWhere userId1 ride)

/-- `hasActiveRideChat`: a query over all bookings. -/
def hasActiveRideChat (trips : Trips) (userId1 userId2 : ℕ) : Bool :=
  trips.bookings.rows.any fun row =>
    (trips.rides.get? row.2.rideId).any (sharesActiveRide userId1 userId2 row.2)

/-- `hasActiveRideChatForBooking`: one booking, looked at in turn. -/
def hasActiveRideChatForBooking (trips : Trips) (userId peerId bookingId : ℕ) : Bool :=
  match getBookingChatContext trips bookingId with
  | none => false
  | some (booking, ride) =>
    let isPassengerToDriver := booking.passengerId == userId && ride.driverId == peerId
    let isDriverToPassenger := ride.driverId == userId && booking.passengerId == peerId
    if !isPassengerToDriver && !isDriverToPassenger then false
    else isChatAvailableForBooking booking.status ride

/-! ## The rows -/

/-- A conversation, and when its last message was sent. -/
structure ConversationRow extends Conversation where
  lastMsgAt : Option ℤ := none
  deriving DecidableEq, Repr

structure ChatStore where
  trips : Trips := {}
  conversations : Table ConversationRow := .empty
  messages : Table Message := .empty

/-- What a statement can lock: a row, or an entry of a unique index. -/
inductive ChatRow
  | conversation (id : ℕ)
  | pair (userAId userBId : ℕ)
  | message (id : ℕ)
  | key (senderId : ℕ) (clientMsgId : String)
  deriving DecidableEq, Repr

/-- What a call throws. -/
inductive ChatFailure
  | unavailable
  | notFound
  | uniqueViolation
  | foreignKeyViolation
  | text (message : String)
  deriving DecidableEq, Repr

/-- What calls report. -/
inductive ChatEvent
  /-- The two were found to share an active ride. -/
  | chatFound (userId peerId : ℕ)
  /-- A call of this sender has this message as its result. -/
  | sent (senderId : ℕ) (clientMsgId : String) (message : ℕ)
  deriving DecidableEq, Repr

/-- A statement on the chats. -/
abbrev ChatStatement := Statement ChatStore ChatRow ChatEvent

/-- A program of such statements. -/
abbrev ChatProgram := Program (ServerCall ChatStore ChatRow ChatEvent ChatFailure) ChatFailure

/-! ## The statements -/

/-- A conversation is the one of two users. -/
def ConversationRow.isOf (userAId userBId : ℕ) (row : ConversationRow) : Bool :=
  row.userAId == userAId && row.userBId == userBId

/-- A message is the one that its sender has given this id. -/
def Message.isOf (senderId : ℕ) (clientMsgId : String) (message : Message) : Bool :=
  message.senderId == senderId && message.clientMsgId == some clientMsgId

/-- Whether two users can write to each other, on account of any booking or of one. -/
def findActiveRideChat (userId peerId : ℕ) (bookingId : Option ℕ) : ChatStatement Bool where
  answer d :=
    match bookingId with
    | some bookingId => hasActiveRideChatForBooking d.trips userId peerId bookingId
    | none => hasActiveRideChat d.trips userId peerId
  report found := if found then [.chatFound userId peerId] else []

/-- A booking with its ride. -/
def findBookingChatContext (bookingId : ℕ) : ChatStatement (Option (RideSeat × RideSession)) where
  answer d := getBookingChatContext d.trips bookingId

/-- `conversation.findUnique`, by the pair. -/
def findConversation (userAId userBId : ℕ) : ChatStatement (Option (ℕ × ConversationRow)) where
  answer d := (d.conversations.filter fun _ row => row.isOf userAId userBId).head?

/-- `conversation.create`, under the id drawn for it. -/
def createConversation (id userAId userBId : ℕ) :
    ChatStatement (Except ChatFailure (ℕ × ConversationRow)) where
  locks _ := [.conversation id, .pair userAId userBId]
  answer d :=
    if (d.conversations.get? id).isSome ∨
        (d.conversations.filter fun _ row => row.isOf userAId userBId) ≠ [] then
      .error .uniqueViolation
    else .ok (id, { userAId, userBId })
  write seen d :=
    if (seen.conversations.get? id).isSome ∨
        (seen.conversations.filter fun _ row => row.isOf userAId userBId) ≠ [] then d
    else { d with conversations := d.conversations.insert id { userAId, userBId } }

/-- `message.findUnique`, by the sender and the id that the client has given it. -/
def findMessage (senderId : ℕ) (clientMsgId : String) : ChatStatement (Option (ℕ × Message)) where
  answer d := (d.messages.filter fun _ m => m.isOf senderId clientMsgId).head?
  report found := found.toList.map fun row => .sent senderId clientMsgId row.1

/-- `message.create`, under the id drawn for it. -/
def createMessage (id : ℕ) (message : Message) : ChatStatement (Except ChatFailure Unit) where
  locks _ := .message id :: message.clientMsgId.toList.map (.key message.senderId)
  answer d :=
    if (d.messages.get? id).isSome ∨ (d.messages.filter fun _ m =>
        message.clientMsgId.any fun key => m.isOf message.senderId key) ≠ [] then
      .error .uniqueViolation
    else if (d.conversations.get? message.conversationId).isNone then .error .foreignKeyViolation
    else .ok ()
  write seen d :=
    if (seen.messages.get? id).isSome ∨ (seen.messages.filter fun _ m =>
        message.clientMsgId.any fun key => m.isOf message.senderId key) ≠ [] then d
    else if (seen.conversations.get? message.conversationId).isNone then d
    else { d with messages := d.messages.insert id message }

/-- `conversation.update`, with the time of its last message. -/
def updateConversation (id : ℕ) (lastMsgAt : ℤ) : ChatStatement (Except ChatFailure Unit) where
  locks _ := [.conversation id]
  answer d := if (d.conversations.get? id).isSome then .ok () else .error .notFound
  write _ d := { d with
    conversations := d.conversations.modify id fun row => { row with lastMsgAt := some lastMsgAt } }

/-- `message.updateMany`. -/
def updateMessages (P : ℕ → Message → Bool) (f : Message → Message) : ChatStatement Unit where
  locks d := (d.messages.filter P).map fun row => .message row.1
  answer _ := ()
  write seen d := { d with
    messages := d.messages.modifyWhere (fun id _ => seen.messages.holds P id) f }

/-- `message.findFirst`, by its id and its conversation. -/
def findMessageIn (id conversationId : ℕ) : ChatStatement (Option Message) where
  answer d := (d.messages.get? id).filter (·.conversationId == conversationId)

/-! ## The calls -/

/-- `normalizePair`. -/
def normalizePair (id1 id2 : ℕ) : ℕ × ℕ := if id1 < id2 then (id1, id2) else (id2, id1)

/-- `getOrCreateConversation`, with the id drawn for a new one. -/
def getOrCreateConversation (userId1 userId2 id : ℕ) : ChatProgram (ℕ × ConversationRow) := do
  let pair := normalizePair userId1 userId2
  let found ← Program.autocommit (findConversation pair.1 pair.2)
  match found with
  | some conversation => return conversation
  | none => do
    let created ← Program.autocommit (createConversation id pair.1 pair.2)
    Program.ofExcept created

def openConversation (userId receiverId id : ℕ) : ChatProgram (ℕ × ConversationRow) :=
  if userId = receiverId then throw (.text "CANNOT_MESSAGE_SELF")
  else do
    let chatAvailable ← Program.autocommit (findActiveRideChat userId receiverId none)
    if !chatAvailable then throw (.text "CHAT_NOT_ACTIVE")
    else getOrCreateConversation userId receiverId id

/-- The other one of a booking's passenger and driver. -/
def peerOf (userId : ℕ) (booking : RideSeat) (ride : RideSession) : Option ℕ :=
  if userId = booking.passengerId then some ride.driverId
  else if userId = ride.driverId then some booking.passengerId
  else none

def openBookingConversation (userId bookingId id : ℕ) : ChatProgram (ℕ × ConversationRow) := do
  let found ← Program.autocommit (findBookingChatContext bookingId)
  match found with
  | none => throw (.text "BOOKING_NOT_FOUND")
  | some (booking, ride) =>
    match peerOf userId booking ride with
    | none => throw (.text "FORBIDDEN_BOOKING_PARTICIPANT")
    | some peerId =>
      if !isChatAvailableForBooking booking.status ride then throw (.text "CHAT_NOT_ACTIVE")
      else getOrCreateConversation userId peerId id

/-- What the checks of a message look at in its `payloadJson`. -/
structure MessagePayload where
  json : String
  imageUrl : Option String := none
  latitude : Option ℚ := none
  longitude : Option ℚ := none
  deriving DecidableEq, Repr

structure SendMessageInput where
  receiverId : ℕ
  text : Option String := none
  clientMsgId : String
  bookingId : Option ℕ := none
  type : MessageType := .TEXT
  payloadJson : Option MessagePayload := none

/-- A text that is there and not empty. -/
def present (text : Option String) : Option String := text.filter fun text => !text.isEmpty

/-- The checks of a message's content by its type. -/
def SendMessageInput.check (data : SendMessageInput) : Except ChatFailure Unit :=
  match data.type with
  | .TEXT => if (present data.text).isNone then .error (.text "TEXT_REQUIRED") else .ok ()
  | .IMAGE =>
    if (present (data.payloadJson.bind (·.imageUrl))).isNone then .error (.text "IMAGE_URL_REQUIRED")
    else .ok ()
  | .LOCATION =>
    if (data.payloadJson.bind (·.latitude)).isNone ∨ (data.payloadJson.bind (·.longitude)).isNone then
      .error (.text "LOCATION_REQUIRED")
    else .ok ()
  | .FILE | .SYSTEM => .ok ()

/-- What a call draws: the ids of a new conversation and of the message, and its time. -/
structure SendDraw where
  conversationId : ℕ
  messageId : ℕ
  createdAt : ℤ

/-- The row of a message. -/
def SendMessageInput.row (data : SendMessageInput) (senderId conversationId : ℕ) (createdAt : ℤ) :
    Message where
  conversationId := conversationId
  senderId := senderId
  receiverId := data.receiverId
  type := data.type
  text := present data.text
  payloadJson := data.payloadJson.map (·.json)
  clientMsgId := some data.clientMsgId
  createdAt := createdAt

/-- The transaction: a message, and the time of it in its conversation. -/
def writeMessage (id : ℕ) (message : Message) : ChatProgram (ℕ × Message) := do
  let created ← Program.perform (.run (createMessage id message))
  Program.ofExcept created
  let updated ← Program.perform (.run (updateConversation message.conversationId message.createdAt))
  Program.ofExcept updated
  return (id, message)

/-- The message that the sender has sent under this id before, if he has. -/
def findSent (senderId : ℕ) (clientMsgId : String) : ChatProgram (Option (ℕ × Message)) :=
  if clientMsgId.isEmpty then return none
  else Program.autocommit (findMessage senderId clientMsgId)

def sendMessage (senderId : ℕ) (data : SendMessageInput) (draw : SendDraw) :
    ChatProgram (ℕ × Message) :=
  if senderId = data.receiverId then throw (.text "CANNOT_MESSAGE_SELF")
  else do
    let canChat ← Program.autocommit (findActiveRideChat senderId data.receiverId data.bookingId)
    if !canChat then throw (.text "CHAT_NOT_ACTIVE")
    else do
      Program.ofExcept data.check
      -- a message sent before under this client id is returned as it is
      let existing ← findSent senderId data.clientMsgId
      match existing with
      | some message => return message
      | none => do
        let (conversationId, _) ←
          getOrCreateConversation senderId data.receiverId draw.conversationId
        Program.transaction
          (writeMessage draw.messageId (data.row senderId conversationId draw.createdAt))
          fun message => [.sent senderId data.clientMsgId message.1]

/-- `markMessagesDelivered`. -/
def markMessagesDelivered (userId conversationId : ℕ) (now : ℤ) : ChatProgram Unit :=
  Program.autocommit <| updateMessages
    (fun _ m => m.conversationId == conversationId && m.receiverId == userId && m.deliveredAt.isNone)
    fun m => { m with deliveredAt := some now }

/-- `markMessagesRead`. -/
def markMessagesRead (userId conversationId lastReadMessageId : ℕ) (now : ℤ) : ChatProgram Unit := do
  let found ← Program.autocommit (findMessageIn lastReadMessageId conversationId)
  match found with
  | none => throw (.text "MESSAGE_NOT_FOUND")
  | some lastReadMessage =>
    Program.autocommit <| updateMessages
      (fun _ m => m.conversationId == conversationId && m.receiverId == userId && m.readAt.isNone &&
        decide (m.createdAt ≤ lastReadMessage.createdAt))
      fun m => { m with readAt := some now, deliveredAt := some now }

/-! ## Calls next to each other -/

/-- A call, with what it draws and reads off the clock. -/
inductive ChatCall
  | send (senderId : ℕ) (data : SendMessageInput) (draw : SendDraw)
  | openWith (userId receiverId id : ℕ)
  | openForBooking (userId bookingId id : ℕ)
  | delivered (userId conversationId : ℕ) (now : ℤ)
  | read (userId conversationId lastReadMessageId : ℕ) (now : ℤ)

/-- The program of a call. -/
def ChatCall.program : ChatCall → ChatProgram Unit
  | .send senderId data draw => (sendMessage senderId data draw).bind fun _ => .ret ()
  | .openWith userId receiverId id => (openConversation userId receiverId id).bind fun _ => .ret ()
  | .openForBooking userId bookingId id =>
    (openBookingConversation userId bookingId id).bind fun _ => .ret ()
  | .delivered userId conversationId now => markMessagesDelivered userId conversationId now
  | .read userId conversationId lastReadMessageId now =>
    markMessagesRead userId conversationId lastReadMessageId now

/-- Any number of calls, while bookings and rides become anything. -/
def chatPool :
    Concurrent (ServerCall ChatStore ChatRow ChatEvent ChatFailure) ChatFailure Bool ChatEvent
      (Server ChatStore ChatRow) Trips ChatCall :=
  Program.serverPool .unavailable (fun trips d => { d with trips }) ChatCall.program

end Deliivo.Chat
