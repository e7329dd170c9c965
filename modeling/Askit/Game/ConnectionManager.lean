import Askit.Game.Operations

/-! The connection manager: the registry of local sockets, and delivery through Redis. -/

namespace Askit.Game

open Interleaving Coro

def sendQuietly (websocket : Socket) (message : Frame) : Handler Unit :=
  tryCatch (await (.sendJson websocket message)) fun _ => pure ()

def connectHost (websocket : Socket) (roomCode : String) : Handler Unit := do
  await (.accept websocket)
  await (.joinRoom websocket roomCode none)

def connect (websocket : Socket) (roomCode : String) (playerId : UUID) : Handler Unit := do
  await (.accept websocket)
  await (.joinRoom websocket roomCode (some playerId))

/-- With the subscriber gone this awaits its end. The lock is released on every way out of the
critical section. -/
def unsubscribeFromRoom (roomCode : String) (cancelled : Bool) : Handler Unit :=
  if cancelled then
    tryCatch (await (.awaitCancelled roomCode)) fun e => do
      await .releaseLock
      throw e
  else pure ()

def disconnectFrom (websocket : Socket) (roomCode : String) (playerId : Option UUID) :
    Handler Unit := do
  let cancelled ← await (.leaveRoom websocket roomCode)
  unsubscribeFromRoom roomCode cancelled
  await (.forget roomCode playerId)

def disconnectHost (websocket : Socket) (roomCode : String) : Handler Unit :=
  disconnectFrom websocket roomCode none

def disconnect (websocket : Socket) (roomCode : String) (playerId : UUID) : Handler Unit :=
  disconnectFrom websocket roomCode (some playerId)

def sendToHost (roomCode : String) (message : Frame) : Handler Unit := do
  let some websocket ← await (.hostSocket roomCode) | pure ()
  sendQuietly websocket message

def sendToPlayer (playerId : UUID) (message : Frame) : Handler Unit := do
  let some websocket ← await (.playerSocket playerId) | pure ()
  sendQuietly websocket message

def sendToLocalRoom (roomCode : String) (message : Frame) (excludePlayerId : Option UUID) :
    Handler Unit := do
  let connections ← await (.roomSockets roomCode)
  connections.forM fun websocket => do
    let playerId ← await (.socketPlayer websocket)
    if excludePlayerId.isSome ∧ playerId = excludePlayerId then pure ()
    else sendQuietly websocket message

def broadcastToRoom (roomCode : String) (message : Frame) (excludePlayerId : Option UUID) :
    Handler Unit :=
  tryCatch (await (.publish roomCode ⟨message, excludePlayerId⟩)) fun _ =>
    sendToLocalRoom roomCode message excludePlayerId

def deliverNext (roomCode : String) : Handler Unit := do
  let envelope ← await (.listen roomCode)
  sendToLocalRoom roomCode envelope.message envelope.excludePlayerId

end Askit.Game
